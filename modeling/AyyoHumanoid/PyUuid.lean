import AyyoHumanoid.PyText

/-!
# UUIDs

A UUID is a 128-bit number. Its canonical text is 32 lowercase hexadecimal
digits in groups of 8, 4, 4, 4 and 12, so the text order used by the source is
the numeric order used here.
-/

namespace AyyoHumanoid

/-- There are identifiers, so numerals denote them. -/
instance identifiersNonzero : @NeZero Nat Zero.ofOfNat0 (2 ^ 128) := ⟨Nat.ne_of_gt (Nat.two_pow_pos 128)⟩

/-- A 128-bit identifier. -/
structure UUID where
  /-- The number the identifier denotes. -/
  value : Fin (2 ^ 128)
  deriving DecidableEq, Repr

namespace UUID

/-- Identifiers are told apart by their numbers. -/
theorem value_injective : Function.Injective UUID.value := by
  rintro ⟨a⟩ ⟨b⟩ rfl
  rfl

/-- Identifiers are ordered by number, which is the order of their texts. -/
instance : LinearOrder UUID :=
  LinearOrder.lift' UUID.value value_injective

/-- Pairs of identifiers are compared by equality. -/
instance : LawfulBEq (UUID × UUID) := inferInstance

/-- A decimal digit is a code point. -/
theorem digit_lt {n : Nat} (h : n < 10) : 48 + n < 0x110000 := by omega

/-- A hexadecimal letter is a code point. -/
theorem letter_lt (n : Nat) : 87 + n % 16 < 0x110000 := by omega

/-- A lowercase hexadecimal digit. -/
def hexDigit (n : Nat) : CodePoint :=
  if h : n < 10 then ⟨48 + n, digit_lt h⟩ else ⟨87 + n % 16, letter_lt n⟩

/-- The last `width` hexadecimal digits of a number. -/
def hexDigits : Nat → Nat → PyStr
  | 0, _ => []
  | width + 1, n => hexDigits width (n / 16) ++ [hexDigit (n % 16)]

/-- `str(uuid)`: the grouped hexadecimal text. -/
def text (id : UUID) : PyStr :=
  let n := id.value.val
  hexDigits 8 (n / 2 ^ 96) ++ py "-" ++ hexDigits 4 (n / 2 ^ 80) ++ py "-" ++
    hexDigits 4 (n / 2 ^ 64) ++ py "-" ++ hexDigits 4 (n / 2 ^ 48) ++ py "-" ++ hexDigits 12 n

/-- There are as many digits as asked for. -/
theorem hexDigits_length (width n : Nat) : (hexDigits width n).length = width := by
  induction width generalizing n with
  | zero => rfl
  | succ width ih =>
    rw [hexDigits, List.length_append, ih]
    rfl

/-- Enough digits determine a number. -/
theorem hexDigits_injective {width a b : Nat} (ha : a < 16 ^ width) (hb : b < 16 ^ width)
    (h : hexDigits width a = hexDigits width b) : a = b := by
  induction width generalizing a b with
  | zero =>
    rw [Nat.pow_zero] at ha hb
    omega
  | succ width ih =>
    have hdigit : ∀ m < 16, ∀ n < 16, hexDigit m = hexDigit n → m = n := by decide
    rw [hexDigits, hexDigits] at h
    obtain ⟨hhigh, hlow⟩ := List.append_inj' h rfl
    rw [Nat.pow_succ] at ha hb
    have hquotient := ih (by omega) (by omega) hhigh
    have hremainder := hdigit (a % 16) (Nat.mod_lt a (by decide)) (b % 16)
      (Nat.mod_lt b (by decide)) (List.singleton_inj.mp hlow)
    omega

/-- The digits of a number are those of its remainder. -/
theorem hexDigits_mod (width n : Nat) : hexDigits width (n % 16 ^ width) = hexDigits width n := by
  induction width generalizing n with
  | zero => rfl
  | succ width ih =>
    have hquotient : n % 16 ^ (width + 1) / 16 = n / 16 % 16 ^ width := by
      rw [Nat.pow_succ, Nat.mul_comm, Nat.mod_mul_right_div_self]
    have hremainder : n % 16 ^ (width + 1) % 16 = n % 16 := by
      rw [Nat.pow_succ]
      exact Nat.mod_mul_left_mod n (16 ^ width) 16
    rw [hexDigits, hexDigits, hquotient, hremainder, ih]

/-- Digits determine a number up to their width. -/
theorem mod_eq_of_hexDigits {width a b : Nat} (h : hexDigits width a = hexDigits width b) :
    a % 16 ^ width = b % 16 ^ width := by
  have hpositive : 0 < 16 ^ width := Nat.pow_pos (by decide)
  rw [← hexDigits_mod width a, ← hexDigits_mod width b] at h
  exact hexDigits_injective (Nat.mod_lt _ hpositive) (Nat.mod_lt _ hpositive) h

/-- The text of an identifier determines it. -/
theorem text_injective : Function.Injective text := by
  intro a b h
  have hfields : ∀ {width : Nat} {x y : Nat} {s t : PyStr},
      hexDigits width x ++ s = hexDigits width y ++ t → hexDigits width x = hexDigits width y ∧
        s = t := fun heq => List.append_inj heq (by rw [hexDigits_length, hexDigits_length])
  simp only [text, List.append_assoc] at h
  obtain ⟨h1, h⟩ := hfields h
  obtain ⟨h2, h⟩ := hfields (List.append_cancel_left h)
  obtain ⟨h3, h⟩ := hfields (List.append_cancel_left h)
  obtain ⟨h4, h⟩ := hfields (List.append_cancel_left h)
  have h5 := List.append_cancel_left h
  have hnumber : a.value.val = b.value.val := by
    have ha := a.value.isLt
    have hb := b.value.isLt
    have e1 := mod_eq_of_hexDigits h1
    have e2 := mod_eq_of_hexDigits h2
    have e3 := mod_eq_of_hexDigits h3
    have e4 := mod_eq_of_hexDigits h4
    have e5 := mod_eq_of_hexDigits h5
    omega
  exact value_injective (Fin.ext hnumber)

/-- `sorted((str(first), str(second)))`: the smaller identifier first. -/
def sortedPair (first second : UUID) : UUID × UUID :=
  if first ≤ second then (first, second) else (second, first)

/-- Sorting a pair does not depend on its order. -/
theorem sortedPair_comm (first second : UUID) :
    sortedPair first second = sortedPair second first := by
  unfold sortedPair
  split
  · split
    · next hle hge => rw [le_antisymm hle hge]
    · rfl
  · next hlt =>
    rw [if_pos (le_of_lt (not_le.mp hlt))]

/-- A sorted pair holds the two identifiers. -/
theorem sortedPair_cases (first second : UUID) :
    sortedPair first second = (first, second) ∨ sortedPair first second = (second, first) := by
  unfold sortedPair
  split
  · exact Or.inl rfl
  · exact Or.inr rfl

/-- An increasing pair is its own sort. -/
theorem sortedPair_of_lt {first second : UUID} (h : first < second) :
    sortedPair first second = (first, second) :=
  if_pos (le_of_lt h)

end UUID
end AyyoHumanoid
