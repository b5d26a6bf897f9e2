import AyyoHumanoid.Platform
import AyyoHumanoid.PyUuid

/-!
# Digests for concrete runs

A run on fixed inputs needs a digest function that can be computed. One that
numbers the texts of a list tells all of them apart.
-/

namespace AyyoHumanoid

open PyText

section Digits

/-- Hexadecimal digits are digits of a digest. -/
theorem hexDigits_all (width n : Nat) : (UUID.hexDigits width n).all isHexDigit = true := by
  induction width generalizing n with
  | zero => rfl
  | succ width ih =>
    have hdigit : ∀ k < 16, isHexDigit (UUID.hexDigit k) = true := by decide
    rw [UUID.hexDigits, List.all_append, ih]
    simpa using hdigit (n % 16) (Nat.mod_lt n (by decide))

end Digits

section Indexed

/-- A runtime with ASCII characters whose digests number the given texts. -/
def Platform.indexed (texts : List PyStr) : Platform where
  isAlnum := isAsciiAlnum
  alnum_ascii := fun _ h => h
  sha256 := fun text => UUID.hexDigits 64 (texts.idxOf text)
  sha256_hex := fun _ => ⟨UUID.hexDigits_length 64 _, hexDigits_all 64 _⟩

/-- The digests of listed texts differ. -/
theorem Platform.indexed_injective {texts : List PyStr} (hfew : texts.length ≤ 16 ^ 64)
    {a b : PyStr} (ha : a ∈ texts) (hb : b ∈ texts)
    (h : (Platform.indexed texts).sha256 a = (Platform.indexed texts).sha256 b) : a = b := by
  have hindex := UUID.hexDigits_injective ((List.idxOf_lt_length_of_mem ha).trans_le hfew)
    ((List.idxOf_lt_length_of_mem hb).trans_le hfew) h
  exact (List.idxOf_inj ha).mp hindex

end Indexed

section Sampled

/-- The number of a text: its characters at two positions. -/
def sampleText (first second : Nat) (text : PyStr) : Nat :=
  2 ^ 21 * (text.getD first 0).val + (text.getD second 0).val

/-- A runtime with ASCII characters whose digests depend on two characters of the text. -/
def Platform.sampled (first second : Nat) : Platform where
  isAlnum := isAsciiAlnum
  alnum_ascii := fun _ h => h
  sha256 := fun text => UUID.hexDigits 64 (sampleText first second text)
  sha256_hex := fun _ => ⟨UUID.hexDigits_length 64 _, hexDigits_all 64 _⟩

/-- Texts with different samples have different digests. -/
theorem Platform.sampled_injective {first second : Nat} {a b : PyStr}
    (h : (Platform.sampled first second).sha256 a = (Platform.sampled first second).sha256 b) :
    sampleText first second a = sampleText first second b := by
  have hbound : ∀ text, sampleText first second text < 16 ^ 64 := by
    intro text
    have hfirst := (text.getD first 0).isLt
    have hsecond := (text.getD second 0).isLt
    rw [sampleText]
    omega
  exact UUID.hexDigits_injective (hbound a) (hbound b) h

end Sampled

section Checksummed

/-- The number of a text: a checksum of its characters. -/
def checksumText (text : PyStr) : Nat :=
  text.foldl (fun sum character => (sum * 1000003 + character.val) % 16 ^ 64) 0

/-- A runtime with ASCII characters whose digests are checksums. -/
def Platform.checksummed : Platform where
  isAlnum := isAsciiAlnum
  alnum_ascii := fun _ h => h
  sha256 := fun text => UUID.hexDigits 64 (checksumText text)
  sha256_hex := fun _ => ⟨UUID.hexDigits_length 64 _, hexDigits_all 64 _⟩

end Checksummed

end AyyoHumanoid
