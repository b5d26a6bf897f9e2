import AyyoHumanoid.JsonUtf8
import AyyoHumanoid.TextNormalization
import AyyoHumanoid.WorldModels

/-!
# Texts, versions and identities of governance artifacts

The learning, promotion and registry packages check identifiers, digests,
semantic versions and notes by the same expressions and name an artifact by the
digest of its canonical document. Each package raises its own exceptions, so the
checks take the exception as an argument.
-/

namespace AyyoHumanoid
namespace Artifacts

open PyText JsonText

section Sizes

/-- The bytes of one character in UTF-8. -/
def utf8Width (c : CodePoint) : Nat :=
  if c.val < 0x80 then 1 else if c.val < 0x800 then 2 else if c.val < 0x10000 then 3 else 4

/-- `len(text.encode("utf-8"))`. -/
def utf8Length (text : PyStr) : Nat := (text.map utf8Width).sum

/-- `len(canonical_json(document).encode("utf-8"))`. -/
def documentSize (document : Json) : Nat := utf8Length (encode document)

end Sizes

section Texts

/-- `MAX_NOTE_LENGTH`, `MAX_METADATA_TEXT_LENGTH`. -/
def maxNoteLength : Nat := 512

/-- The checks of `identifier`. -/
def IsIdentifier (text : PyStr) : Prop :=
  text ≠ [] ∧ text = strip text ∧ text.length ≤ maxIdentifierLength ∧
    World.isIdentifier text = true

instance (text : PyStr) : Decidable (IsIdentifier text) :=
  inferInstanceAs (Decidable (_ ∧ _))

/-- `_FINGERPRINT.fullmatch(text)`: an identifier, the infix and 64 hexadecimal digits. -/
def isFingerprint (text : PyStr) : Bool :=
  let width := text.length - 72
  World.isIdentifier (text.take width) && (text.drop width).take 8 == py "-sha256-" &&
    decide (IsHexDigest (text.drop (width + 8)))

/-- The checks of `fingerprint`. -/
def IsFingerprint (text : PyStr) : Prop :=
  IsIdentifier text ∧ isFingerprint text = true

instance (text : PyStr) : Decidable (IsFingerprint text) :=
  inferInstanceAs (Decidable (_ ∧ _))

/-- A decimal number without leading zeros. -/
def isNumeral : PyStr → Bool
  | [] => false
  | first :: rest =>
    if first.val = 48 then rest.isEmpty
    else isDigit first && rest.all isDigit

/-- `_SEMVER.fullmatch(text)`: three numbers with points between them. -/
def isSemanticVersion (text : PyStr) : Bool :=
  match text.splitOn point with
  | [major, minor, patch] => isNumeral major && isNumeral minor && isNumeral patch
  | _ => false

/-- A character whose `unicodedata.category` is `Cc` or `Cs`. -/
def isControlOrSurrogate (c : CodePoint) : Bool :=
  c.val < 32 || (127 ≤ c.val && c.val ≤ 159) || isSurrogate c

/-- The checks of a normalized note or description. -/
def IsNote (text : PyStr) : Prop :=
  text ≠ [] ∧ text = strip text ∧ text.length ≤ maxNoteLength ∧
    text.any isControlOrSurrogate = false

instance (text : PyStr) : Decidable (IsNote text) :=
  inferInstanceAs (Decidable (_ ∧ _))

end Texts

section Printable

/-- What continues an identifier is printable. -/
theorem printable_identifierRest {afterAlnum : Bool} {text : PyStr}
    (h : World.identifierRest afterAlnum text = true) : text.all isPrintable = true := by
  induction text generalizing afterAlnum with
  | nil => rfl
  | cons c text ih =>
    rw [World.identifierRest] at h
    by_cases halnum : World.isLowerAlnum c = true
    · have hchar : isPrintable c = true := by
        simp only [World.isLowerAlnum, Bool.or_eq_true, Bool.and_eq_true, decide_eq_true_eq] at halnum
        simp only [isPrintable, Bool.and_eq_true, decide_eq_true_eq]
        omega
      rw [if_pos halnum] at h
      rw [List.all_cons, hchar, ih h]
      rfl
    · rw [if_neg halnum] at h
      by_cases hseparator : (afterAlnum && (c.val == 46 || c.val == 95 || c.val == 45)) = true
      · have hchar : isPrintable c = true := by
          simp only [Bool.and_eq_true, Bool.or_eq_true, beq_iff_eq] at hseparator
          simp only [isPrintable, Bool.and_eq_true, decide_eq_true_eq]
          omega
        rw [if_pos hseparator] at h
        rw [List.all_cons, hchar, ih h]
        rfl
      · rw [if_neg hseparator] at h
        cases h

/-- An identifier is printable. -/
theorem printable_identifier {maximum : Nat} (name : World.Identifier maximum) :
    name.text.all isPrintable = true :=
  printable_identifierRest name.canonical.1

/-- A digest is printable. -/
theorem printable_digest (digest : World.Digest) : digest.text.all isPrintable = true := by
  rw [List.all_eq_true]
  intro c hc
  have hchar := List.all_eq_true.mp digest.hex.2 c hc
  simp only [isHexDigit, Bool.or_eq_true, Bool.and_eq_true, decide_eq_true_eq] at hchar
  simp only [isPrintable, Bool.and_eq_true, decide_eq_true_eq]
  omega

end Printable

section Identities

/-- `semantic_sha256(prefix, document)`. -/
def semanticSha256 (p : Platform) (tag : PyStr) (document : Json) : PyStr :=
  tag ++ py "-sha256-" ++ p.sha256 (encode document)

/-- The document of an identifier and a version. -/
def schemaDocument (id version : PyStr) : Json :=
  .obj [(py "id", .str id), (py "version", .str version)]

/-- The document of an identity and its digest. -/
def identityDocument (id fingerprint : PyStr) : Json :=
  .obj [(py "fingerprint", .str fingerprint), (py "id", .str id)]

end Identities

section Checks

variable {ε : Type} (error : PyStr → ε)

/-- `identifier`. -/
def identifier (value fieldName : PyStr) : Except ε Unit :=
  require (IsIdentifier value) (error (fieldName ++ py " must be a bounded identifier"))

/-- `fingerprint`. -/
def fingerprint (value fieldName : PyStr) : Except ε Unit := do
  identifier error value fieldName
  require (isFingerprint value = true) (error (fieldName ++ py " must be a SHA-256 identity"))

/-- `semantic_version`. -/
def semanticVersion (value fieldName : PyStr) : Except ε Unit :=
  require (isSemanticVersion value = true)
    (error (fieldName ++ py " must be a semantic version"))

variable {error}

/-- The identifier check passes exactly on identifiers. -/
theorem identifier_ok {value fieldName : PyStr} {u : Unit} :
    identifier error value fieldName = .ok u ↔ IsIdentifier value :=
  Checks.require_ok

/-- The digest check passes exactly on digests. -/
theorem fingerprint_ok {value fieldName : PyStr} {u : Unit} :
    fingerprint error value fieldName = .ok u ↔ IsFingerprint value := by
  simp only [fingerprint, Checks.unit_bind_ok, identifier_ok, Checks.require_ok]
  rfl

end Checks

end Artifacts
end AyyoHumanoid
