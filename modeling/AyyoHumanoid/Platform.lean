import AyyoHumanoid.PyText
import AyyoHumanoid.Transactions

/-!
# Text, identifiers and digests

The planning and safety packages accept text and identifiers by the same checks
and name contents by their SHA-256 digests. The character database and the
digest come from the Python runtime. What is used of them is that ASCII letters
and digits are alphanumeric, and that a digest has 64 lowercase hexadecimal
digits.
-/

namespace AyyoHumanoid

open PyText

/-- A lowercase hexadecimal digit. -/
def isHexDigit (c : CodePoint) : Bool :=
  (48 ≤ c.val && c.val ≤ 57) || (97 ≤ c.val && c.val ≤ 102)

/-- The text of a SHA-256 digest. -/
def IsHexDigest (text : PyStr) : Prop :=
  text.length = 64 ∧ text.all isHexDigit = true

instance (text : PyStr) : Decidable (IsHexDigest text) :=
  inferInstanceAs (Decidable (_ ∧ _))

/-- A digest can be encoded. -/
theorem IsHexDigest.encodable {text : PyStr} (h : IsHexDigest text) :
    utf8Encodable text = true := by
  rw [utf8Encodable, List.all_eq_true]
  intro c hc
  have hdigit := List.all_eq_true.mp h.2 c hc
  simp only [isHexDigit, Bool.or_eq_true, Bool.and_eq_true, decide_eq_true_eq] at hdigit
  simp only [isSurrogate, Bool.not_eq_true', Bool.and_eq_false_iff, decide_eq_false_iff_not]
  omega

/-- An ASCII letter or digit. -/
def isAsciiAlnum (c : CodePoint) : Bool :=
  (48 ≤ c.val && c.val ≤ 57) || (65 ≤ c.val && c.val ≤ 90) || (97 ≤ c.val && c.val ≤ 122)

/-- What the Python runtime supplies. -/
structure Platform where
  /-- `str.isalnum` of one character. -/
  isAlnum : CodePoint → Bool
  /-- ASCII letters and digits are alphanumeric. -/
  alnum_ascii : ∀ c, isAsciiAlnum c = true → isAlnum c = true
  /-- `sha256(text.encode("utf-8")).hexdigest()`. -/
  sha256 : PyStr → PyStr
  /-- A digest has 64 lowercase hexadecimal digits. -/
  sha256_hex : ∀ text, IsHexDigest (sha256 text)

/-- A runtime with ASCII characters and one digest, for concrete runs. -/
def Platform.ascii : Platform where
  isAlnum := isAsciiAlnum
  alnum_ascii := fun _ h => h
  sha256 := fun _ => List.replicate 64 48
  sha256_hex := fun _ => by decide

/-- `MAX_TEXT_LENGTH`, `MAX_SAFETY_TEXT_LENGTH`. -/
def maxTextLength : Nat := 16384

/-- `MAX_IDENTIFIER_LENGTH`, `MAX_SAFETY_IDENTIFIER_LENGTH`. -/
def maxIdentifierLength : Nat := 256

/-- A character of an identifier. -/
def Platform.isIdentifierChar (p : Platform) (c : CodePoint) : Bool :=
  p.isAlnum c || c.val == 45 || c.val == 95 || c.val == 46

/-- The text starts with a letter or number and holds identifier characters only. -/
def Platform.spellsIdentifier (p : Platform) (text : PyStr) : Bool :=
  text.head?.any p.isAlnum && text.all p.isIdentifierChar

/-- Text without surrounding whitespace that can be written. -/
structure CleanText (text : PyStr) : Prop where
  /-- There is text. -/
  nonempty : text ≠ []
  /-- It is not too long. -/
  bounded : text.length ≤ maxTextLength
  /-- It has no surrounding whitespace. -/
  stripped : text = strip text
  /-- It can be encoded. -/
  encodable : utf8Encodable text = true

/-- An identifier of limited length. -/
structure CleanIdentifier (p : Platform) (limit : Nat) (text : PyStr) : Prop extends
    CleanText text where
  /-- It is not too long. -/
  short : text.length ≤ limit
  spelled : p.spellsIdentifier text = true

/-- A text of ASCII letters, digits and the three other identifier characters. -/
def isAsciiIdentifier (text : PyStr) : Bool :=
  text.head?.any isAsciiAlnum &&
    text.all fun c => isAsciiAlnum c || c.val == 45 || c.val == 95 || c.val == 46

/-- An ASCII identifier has no whitespace. -/
theorem isSpace_of_ascii {c : CodePoint}
    (h : (isAsciiAlnum c || c.val == 45 || c.val == 95 || c.val == 46) = true) :
    isSpace c = false := by
  simp only [isAsciiAlnum, Bool.or_eq_true, Bool.and_eq_true, decide_eq_true_eq,
    beq_iff_eq] at h
  simp only [isSpace, Bool.or_eq_false_iff, Bool.and_eq_false_iff, decide_eq_false_iff_not,
    beq_eq_false_iff_ne]
  omega

/-- A short ASCII identifier is a clean identifier on every platform. -/
theorem cleanIdentifier_ascii {p : Platform} {limit : Nat} {text : PyStr}
    (hascii : isAsciiIdentifier text = true) (hshort : text.length ≤ limit)
    (hlimit : limit ≤ maxTextLength) : CleanIdentifier p limit text := by
  simp only [isAsciiIdentifier, Bool.and_eq_true, List.all_eq_true] at hascii
  obtain ⟨hhead, hall⟩ := hascii
  have hspaceless : ∀ c ∈ text, isSpace c = false := fun c hc => isSpace_of_ascii (hall c hc)
  exact {
    nonempty := by
      intro hnil
      rw [hnil] at hhead
      cases hhead
    bounded := hshort.trans hlimit
    stripped := (strip_eq_self (fun c hc => hspaceless c (List.mem_of_mem_head? hc))
      fun c hc => hspaceless c (List.mem_of_getLast? hc)).symm
    encodable := by
      rw [utf8Encodable, List.all_eq_true]
      intro c hc
      have hascii := hall c hc
      simp only [isAsciiAlnum, Bool.or_eq_true, Bool.and_eq_true, decide_eq_true_eq,
        beq_iff_eq] at hascii
      simp only [isSurrogate, Bool.not_eq_true', Bool.and_eq_false_iff, decide_eq_false_iff_not]
      omega
    short := hshort
    spelled := by
      rw [Platform.spellsIdentifier, Bool.and_eq_true, List.all_eq_true]
      constructor
      · cases hfirst : text.head? with
        | none =>
          rw [hfirst] at hhead
          cases hhead
        | some c =>
          rw [hfirst] at hhead
          exact p.alnum_ascii c hhead
      · intro c hc
        have hascii := hall c hc
        simp only [Bool.or_eq_true] at hascii
        simp only [Platform.isIdentifierChar, Bool.or_eq_true]
        rcases hascii with ((halnum | hminus) | hscore) | hpoint
        · exact Or.inl (Or.inl (Or.inl (p.alnum_ascii c halnum)))
        · exact Or.inl (Or.inl (Or.inr hminus))
        · exact Or.inl (Or.inr hscore)
        · exact Or.inr hpoint }

/-- An ASCII identifier in front of a clean identifier makes a clean identifier. -/
theorem CleanIdentifier.prefixed {p : Platform} {limit : Nat} {start text : PyStr}
    (hstart : isAsciiIdentifier start = true) (h : CleanIdentifier p limit text)
    (hlimit : start.length + limit ≤ maxTextLength) :
    CleanIdentifier p (start.length + limit) (start ++ text) := by
  have hclean : CleanIdentifier p start.length start :=
    cleanIdentifier_ascii hstart le_rfl (by omega)
  have hspell := hclean.spelled
  have htail := h.spelled
  rw [Platform.spellsIdentifier, Bool.and_eq_true] at hspell htail
  have hlength : (start ++ text).length ≤ start.length + limit := by
    rw [List.length_append]
    exact Nat.add_le_add_left h.short _
  have hheadSpace : ∀ c ∈ start.head?, isSpace c = false := by
    intro c hc
    simp only [isAsciiIdentifier, Bool.and_eq_true, List.all_eq_true] at hstart
    exact isSpace_of_ascii (hstart.2 c (List.mem_of_mem_head? hc))
  exact {
    nonempty := by simp [hclean.nonempty]
    bounded := hlength.trans hlimit
    stripped := (strip_append hheadSpace hclean.nonempty h.nonempty h.stripped).symm
    encodable := by rw [utf8Encodable_append, hclean.encodable, h.encodable, Bool.and_self]
    short := hlength
    spelled := by
      rw [Platform.spellsIdentifier, Bool.and_eq_true, List.all_append, hspell.2, htail.2,
        List.head?_append_of_ne_nil _ hclean.nonempty]
      exact ⟨hspell.1, rfl⟩ }

section Checks

variable {ε : Type} (error : PyStr → ε)

/-- `_validate_text`. -/
def validateText (value fieldName : PyStr) : Except ε Unit := do
  require (value ≠ []) (error (fieldName ++ py " must be a non-empty string"))
  require (value.length ≤ maxTextLength) (error (fieldName ++ py " exceeds the text length limit"))
  require (strip value ≠ []) (error (fieldName ++ py " must be a non-empty string"))
  require (value = strip value) (error (fieldName ++ py " must not have surrounding whitespace"))
  require (utf8Encodable value = true) (error (fieldName ++ py " contains invalid Unicode"))

/-- `_validate_identifier` and `_identifier_key`. -/
def validateIdentifier (p : Platform) (value fieldName : PyStr) (maxLength : Nat) :
    Except ε Unit := do
  validateText error value fieldName
  require (value.length ≤ maxLength)
    (error (fieldName ++ py " exceeds the identifier length limit"))
  require (p.spellsIdentifier value = true)
    (error (fieldName ++ py " must use letters, numbers, '.', '-', or '_'"))

variable {error}

/-- The text check passes exactly on clean text. -/
theorem validateText_ok {value fieldName : PyStr} :
    validateText error value fieldName = .ok () ↔ CleanText value := by
  simp only [validateText, Checks.unit_bind_ok, Checks.require_ok]
  constructor
  · rintro ⟨hnonempty, hbounded, -, hstripped, hencodable⟩
    exact ⟨hnonempty, hbounded, hstripped, hencodable⟩
  · intro h
    exact ⟨h.nonempty, h.bounded, h.stripped ▸ h.nonempty, h.stripped, h.encodable⟩

/-- The identifier check passes exactly on clean identifiers. -/
theorem validateIdentifier_ok {p : Platform} {value fieldName : PyStr} {maxLength : Nat} :
    validateIdentifier error p value fieldName maxLength = .ok () ↔
      CleanIdentifier p maxLength value := by
  simp only [validateIdentifier, Checks.unit_bind_ok, Checks.require_ok, validateText_ok]
  constructor
  · rintro ⟨hclean, hshort, hspelled⟩
    exact ⟨hclean, hshort, hspelled⟩
  · intro h
    exact ⟨h.toCleanText, h.short, h.spelled⟩

end Checks

end AyyoHumanoid
