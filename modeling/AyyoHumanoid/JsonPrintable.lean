import AyyoHumanoid.JsonAscii
import AyyoHumanoid.JsonFields

/-!
# Documents of printable text

A document whose strings are printable ASCII has printable text, and the two
forms of its canonical text are the same.
-/

namespace AyyoHumanoid
namespace JsonText

open PyText Json

/-- The text of a value is printable ASCII. -/
def Printable (value : Json) : Prop := (encode value).all isPrintable = true

/-- Printable documents have one text in both forms. -/
theorem encodeAscii_eq {value : Json} (h : Printable value) : encodeAscii value = encode value :=
  flatMap_asciiChar h

section Texts

/-- A digit is printable. -/
theorem isPrintable_digit {c : CodePoint} (h : isDigit c = true) : isPrintable c = true := by
  simp only [isDigit, Bool.and_eq_true, decide_eq_true_eq] at h
  simp only [isPrintable, Bool.and_eq_true, decide_eq_true_eq]
  omega

/-- A character that continues a number is printable. -/
theorem isPrintable_number {c : CodePoint} (h : continuesNumber c = true) :
    isPrintable c = true := by
  have hpoint : point.val = 46 := rfl
  have hminus : minus.val = 45 := rfl
  simp only [continuesNumber, Bool.or_eq_true, beq_iff_eq, isDigit, Bool.and_eq_true,
    decide_eq_true_eq] at h
  simp only [isPrintable, Bool.and_eq_true, decide_eq_true_eq]
  rcases h with ((((h | rfl) | rfl) | h) | h) | h <;> omega

/-- The digits of a number are printable. -/
theorem printable_natDigits (n : Nat) : (natDigits n).all isPrintable = true := by
  rw [List.all_eq_true]
  intro c hc
  exact isPrintable_digit (natDigitsFrom_isDigit _ _ c hc)

/-- Leading digits continue a number. -/
theorem number_lexDigits (text : PyStr) :
    (lexDigits text).1.all continuesNumber = true := by
  rw [List.all_eq_true]
  intro c hc
  have hdigit : isDigit c = true := by
    have hall := List.all_takeWhile (p := isDigit) (l := text)
    exact List.all_eq_true.mp hall c hc
  rw [continuesNumber, hdigit]
  rfl

/-- A sign continues a number. -/
theorem number_lexSign (text : PyStr) : (lexSign text).1.all continuesNumber = true := by
  cases text with
  | nil => rfl
  | cons c text =>
    rw [lexSign]
    by_cases hminus : c = minus
    · rw [if_pos hminus, hminus]
      rfl
    · rw [if_neg hminus]
      rfl

/-- A whole part continues a number. -/
theorem number_lexWhole (text : PyStr) : (lexWhole text).1.all continuesNumber = true := by
  cases text with
  | nil => rfl
  | cons c text =>
    rw [lexWhole]
    by_cases hzero : c.val = 48
    · rw [if_pos hzero, List.all_cons, continuesNumber, isDigit, hzero]
      rfl
    · rw [if_neg hzero]
      exact number_lexDigits _

/-- A fraction continues a number. -/
theorem number_lexFraction (text : PyStr) : (lexFraction text).1.all continuesNumber = true := by
  cases text with
  | nil => rfl
  | cons c text =>
    rw [lexFraction]
    by_cases hpoint : c = point ∧ (lexDigits text).1 ≠ []
    · rw [if_pos hpoint, hpoint.1, List.all_cons, number_lexDigits]
      rfl
    · rw [if_neg hpoint]
      rfl

/-- The sign of an exponent continues a number. -/
theorem number_lexExponentSign (text : PyStr) :
    (lexExponentSign text).1.all continuesNumber = true := by
  cases text with
  | nil => rfl
  | cons c text =>
    rw [lexExponentSign]
    by_cases hsigned : c = minus ∨ c.val = 43
    · have hchar : continuesNumber c = true := by
        rcases hsigned with hminus | hplus
        · rw [hminus]
          rfl
        · simp [continuesNumber, hplus]
      rw [if_pos hsigned, List.all_cons, hchar]
      rfl
    · rw [if_neg hsigned]
      rfl

/-- An exponent continues a number. -/
theorem number_lexExponent (text : PyStr) : (lexExponent text).1.all continuesNumber = true := by
  cases text with
  | nil => rfl
  | cons c text =>
    have hsign := number_lexExponentSign text
    rw [lexExponent]
    cases hlexed : lexExponentSign text with
    | mk sign digits =>
      rw [hlexed] at hsign
      simp only
      by_cases hmarked : (c.val = 69 ∨ c.val = 101) ∧ (lexDigits digits).1 ≠ []
      · have hchar : continuesNumber c = true := by
          rcases hmarked.1 with hupper | hlower
          · simp [continuesNumber, hupper]
          · simp [continuesNumber, hlower]
        rw [if_pos hmarked, List.all_cons, hchar, List.all_append, hsign, number_lexDigits]
        rfl
      · rw [if_neg hmarked]
        rfl

/-- The parts of a number token continue a number. -/
theorem number_lexNumber {text : PyStr} {lex : NumberLex} (h : lexNumber text = some lex) :
    (lex.sign ++ lex.whole ++ lex.tail).all continuesNumber = true := by
  rw [lexNumber] at h
  by_cases hempty : (lexWhole (lexSign text).2).1 = []
  · simp only [if_pos hempty] at h
    cases h
  · simp only [if_neg hempty, Option.some.injEq] at h
    rw [← h, List.all_append, List.all_append, List.all_append, number_lexSign, number_lexWhole,
      number_lexFraction, number_lexExponent]
    rfl

/-- The text of a float is printable. -/
theorem printable_floatToken (token : FloatToken) : token.text.all isPrintable = true := by
  have htoken := token.isFloat
  rw [isFloatToken] at htoken
  cases hlex : lexNumber token.text with
  | none => simp [hlex] at htoken
  | some lex =>
    simp only [hlex, Bool.and_eq_true, beq_iff_eq] at htoken
    have hnumber := number_lexNumber hlex
    rw [← htoken.2, List.all_eq_true] at hnumber
    rw [List.all_eq_true]
    intro c hc
    exact isPrintable_number (hnumber c hc)

/-- The escaped form of a printable character is printable. -/
theorem printable_escapeChar {c : CodePoint} (h : isPrintable c = true) :
    (escapeChar c).all isPrintable = true := by
  have hbounds := h
  simp only [isPrintable, Bool.and_eq_true, decide_eq_true_eq] at hbounds
  rw [escapeChar]
  by_cases hquote : c = quote
  · rw [if_pos hquote]
    decide
  · rw [if_neg hquote]
    by_cases hbackslash : c = backslash
    · rw [if_pos hbackslash]
      decide
    · rw [if_neg hbackslash, if_neg (by omega), if_neg (by omega), if_neg (by omega),
        if_neg (by omega), if_neg (by omega), if_neg (by omega), List.all_cons, h]
      rfl

/-- A printable text stays printable between quotes. -/
theorem printable_encodeString {text : PyStr} (h : text.all isPrintable = true) :
    (encodeString text).all isPrintable = true := by
  have hescaped : (text.flatMap escapeChar).all isPrintable = true := by
    rw [List.all_flatMap, List.all_eq_true]
    intro c hc
    exact printable_escapeChar (List.all_eq_true.mp h c hc)
  rw [encodeString, List.all_cons, List.all_append, hescaped]
  decide

/-- Printable parts make a printable list. -/
theorem printable_joinCommas {parts : List PyStr}
    (h : ∀ part ∈ parts, part.all isPrintable = true) :
    (joinCommas parts).all isPrintable = true := by
  induction parts with
  | nil => rfl
  | cons part parts ih =>
    obtain ⟨hpart, hparts⟩ := List.forall_mem_cons.mp h
    cases parts with
    | nil => exact hpart
    | cons next parts =>
      rw [joinCommas, List.all_append, hpart, List.all_cons, ih hparts]
      decide

end Texts

section Values

/-- The null value. -/
@[simp] theorem printable_null : Printable .null := by
  have htext : (py "null").all isPrintable = true := by decide
  exact htext

/-- An integer. -/
@[simp] theorem printable_int (value : Int) : Printable (.int value) := by
  rw [Printable, encode]
  cases value with
  | ofNat n => exact printable_natDigits n
  | negSucc n =>
    rw [intText, List.all_cons, printable_natDigits]
    decide

/-- A float. -/
@[simp] theorem printable_float (token : FloatToken) : Printable (.float token) := by
  rw [Printable, encode]
  exact printable_floatToken token

/-- A string. -/
@[simp] theorem printable_str {text : PyStr} (h : text.all isPrintable = true) :
    Printable (.str text) := by
  rw [Printable, encode]
  exact printable_encodeString h

/-- A dictionary. -/
theorem printable_obj {entries : List (PyStr × Json)}
    (hkeys : (entries.map Prod.fst).all (fun key => key.all isPrintable) = true)
    (hvalues : ∀ entry ∈ entries, Printable entry.2) : Printable (.obj entries) := by
  have hmembers : (joinCommas ((sortByKey entries).map entryText)).all isPrintable = true := by
    apply printable_joinCommas
    rw [List.forall_mem_map]
    intro entry hentry
    have hmem := (sortByKey_perm entries).mem_iff.mp hentry
    have hkey : entry.1.all isPrintable = true :=
      List.all_eq_true.mp hkeys entry.1 (List.mem_map_of_mem hmem)
    have htext : (encode entry.2).all isPrintable = true := hvalues entry hmem
    rw [entryText, memberText, List.all_append, printable_encodeString hkey, List.all_cons, htext]
    decide
  rw [Printable, encode_obj, List.all_cons, List.all_append, hmembers]
  decide

end Values

end JsonText
end AyyoHumanoid
