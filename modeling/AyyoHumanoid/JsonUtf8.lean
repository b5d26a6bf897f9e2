import AyyoHumanoid.JsonPrintable
import AyyoHumanoid.PyDatetime
import AyyoHumanoid.PyUuid

/-!
# Documents that can be encoded

The canonical text of a document has a UTF-8 form exactly when no string or key
of the document holds a surrogate: escaping neither removes a surrogate nor adds
one.
-/

namespace AyyoHumanoid
namespace JsonText

open PyText Json

/-- Printable text can be encoded. -/
theorem utf8Encodable_of_printable {text : PyStr} (h : text.all isPrintable = true) :
    utf8Encodable text = true := by
  rw [utf8Encodable, List.all_eq_true]
  intro c hc
  have hprintable := List.all_eq_true.mp h c hc
  simp only [isPrintable, Bool.and_eq_true, decide_eq_true_eq] at hprintable
  simp only [isSurrogate, Bool.not_eq_true', Bool.and_eq_false_iff, decide_eq_false_iff_not]
  omega

/-- A digit of an escape can be encoded. -/
theorem hexDigit_not_surrogate (n : Nat) (hn : n < 16) : isSurrogate (hexDigit n) = false := by
  have hall : ∀ m < 16, isSurrogate (hexDigit m) = false := by decide
  exact hall n hn

/-- The escaped form of a character can be encoded exactly when the character can. -/
theorem utf8Encodable_escapeChar (c : CodePoint) :
    utf8Encodable (escapeChar c) = !isSurrogate c := by
  have hlow : c.val < 0xd800 → isSurrogate c = false := fun hbound => by
    simp only [isSurrogate, Bool.and_eq_false_iff, decide_eq_false_iff_not]
    omega
  rw [escapeChar]
  by_cases hquote : c = quote
  · rw [if_pos hquote, hlow (by rw [hquote]; decide)]
    decide
  · rw [if_neg hquote]
    by_cases hbackslash : c = backslash
    · rw [if_pos hbackslash, hlow (by rw [hbackslash]; decide)]
      decide
    · rw [if_neg hbackslash]
      by_cases hcontrol : c.val < 32
      · rw [hlow (by omega)]
        have hhigh := hexDigit_not_surrogate (c.val / 16) (by omega)
        have hunit := hexDigit_not_surrogate (c.val % 16) (Nat.mod_lt _ (by decide))
        split_ifs
        · decide
        · decide
        · decide
        · decide
        · decide
        · simp only [utf8Encodable, List.all_cons, List.all_nil, hhigh, hunit]
          decide
      · rw [if_neg (by omega), if_neg (by omega), if_neg (by omega), if_neg (by omega),
          if_neg (by omega), if_neg hcontrol]
        simp [utf8Encodable]

/-- A quoted string can be encoded exactly when its text can. -/
@[simp] theorem utf8Encodable_encodeString (text : PyStr) :
    utf8Encodable (encodeString text) = utf8Encodable text := by
  have hescaped : utf8Encodable (text.flatMap escapeChar) = utf8Encodable text := by
    induction text with
    | nil => rfl
    | cons c text ih =>
      rw [List.flatMap_cons, utf8Encodable_append, ih, utf8Encodable_escapeChar]
      rfl
  have hquote : utf8Encodable [quote] = true := by decide
  have hsplit : encodeString text = [quote] ++ (text.flatMap escapeChar ++ [quote]) := rfl
  rw [hsplit, utf8Encodable_append, utf8Encodable_append, hquote, hescaped, Bool.true_and,
    Bool.and_true]

/-- Joined parts can be encoded exactly when every part can. -/
theorem utf8Encodable_joinCommas (parts : List PyStr) :
    utf8Encodable (joinCommas parts) = parts.all utf8Encodable := by
  induction parts with
  | nil => rfl
  | cons part parts ih =>
    cases parts with
    | nil => simp [joinCommas]
    | cons next parts =>
      have hcomma : utf8Encodable [comma] = true := by decide
      have hsplit : joinCommas (part :: next :: parts) =
          part ++ ([comma] ++ joinCommas (next :: parts)) := rfl
      rw [hsplit, utf8Encodable_append, utf8Encodable_append, hcomma, ih, Bool.true_and,
        List.all_cons (a := part)]

/-- The text of a string can be encoded exactly when the string can. -/
@[simp] theorem utf8Encodable_str (text : PyStr) :
    utf8Encodable (encode (.str text)) = utf8Encodable text := by
  rw [encode, utf8Encodable_encodeString]

/-- The text of a float can be encoded. -/
@[simp] theorem utf8Encodable_float (token : FloatToken) :
    utf8Encodable (encode (.float token)) = true :=
  utf8Encodable_of_printable (printable_float token)

/-- The text of an integer can be encoded. -/
@[simp] theorem utf8Encodable_int (value : Int) : utf8Encodable (encode (.int value)) = true :=
  utf8Encodable_of_printable (printable_int value)

/-- The text of nothing can be encoded. -/
@[simp] theorem utf8Encodable_null : utf8Encodable (encode .null) = true :=
  utf8Encodable_of_printable printable_null

/-- The text of a list can be encoded exactly when the texts of its items can. -/
theorem utf8Encodable_arr (items : List Json) :
    utf8Encodable (encode (.arr items)) = true ↔
      ∀ item ∈ items, utf8Encodable (encode item) = true := by
  have hbrackets : utf8Encodable [lbracket] = true ∧ utf8Encodable [rbracket] = true := by decide
  have hsplit : encode (.arr items) =
      [lbracket] ++ (joinCommas (items.map encode) ++ [rbracket]) := by
    rw [encode, encodeItems_eq_map]
    rfl
  rw [hsplit, utf8Encodable_append, utf8Encodable_append, hbrackets.1, hbrackets.2, Bool.true_and,
    Bool.and_true, utf8Encodable_joinCommas, List.all_map, List.all_eq_true]
  rfl

/-- The text of a dictionary can be encoded exactly when its keys and values can. -/
theorem utf8Encodable_obj (entries : List (PyStr × Json)) :
    utf8Encodable (encode (.obj entries)) = true ↔
      ∀ entry ∈ entries, utf8Encodable entry.1 = true ∧ utf8Encodable (encode entry.2) = true := by
  have hbraces : utf8Encodable [lbrace] = true ∧ utf8Encodable [rbrace] = true := by decide
  have hcolon : utf8Encodable [colon] = true := by decide
  have hsplit : encode (.obj entries) =
      [lbrace] ++ (joinCommas ((sortByKey entries).map entryText) ++ [rbrace]) := encode_obj entries
  have hentry : ∀ entry : PyStr × Json, utf8Encodable (entryText entry) =
      (utf8Encodable entry.1 && utf8Encodable (encode entry.2)) := by
    intro entry
    have hmember : entryText entry = encodeString entry.1 ++ ([colon] ++ encode entry.2) := rfl
    rw [hmember, utf8Encodable_append, utf8Encodable_append, hcolon, utf8Encodable_encodeString,
      Bool.true_and]
  rw [hsplit, utf8Encodable_append, utf8Encodable_append, hbraces.1, hbraces.2, Bool.true_and,
    Bool.and_true, utf8Encodable_joinCommas, List.all_map, List.all_eq_true]
  simp only [Function.comp_apply, hentry, Bool.and_eq_true, (sortByKey_perm entries).mem_iff]

/-- An optional text can be encoded when it is absent or can be encoded. -/
theorem utf8Encodable_optionalText (text : Option PyStr) :
    utf8Encodable (encode (optionalText text)) = true ↔ ∀ t ∈ text, utf8Encodable t = true := by
  cases text with
  | none =>
    rw [optionalText, Option.elim]
    simp
  | some t =>
    rw [optionalText, Option.elim, utf8Encodable_str]
    simp

/-- Decimal digits can be encoded. -/
theorem utf8Encodable_padDigits (width n : Nat) : utf8Encodable (padDigits width n) = true := by
  induction width generalizing n with
  | zero => rfl
  | succ width ih =>
    have hdigit : ∀ k : Fin 10, utf8Encodable [digit k] = true := by decide
    rw [padDigits, utf8Encodable_append, ih, hdigit, Bool.true_and]

/-- Hexadecimal digits can be encoded. -/
theorem utf8Encodable_hexDigits (width n : Nat) :
    utf8Encodable (UUID.hexDigits width n) = true := by
  induction width generalizing n with
  | zero => rfl
  | succ width ih =>
    have hdigit : ∀ k < 16, utf8Encodable [UUID.hexDigit k] = true := by decide
    rw [UUID.hexDigits, utf8Encodable_append, ih, hdigit _ (Nat.mod_lt n (by decide)),
      Bool.true_and]

/-- The stored text of an instant can be encoded. -/
theorem utf8Encodable_datetime (t : Civil) : utf8Encodable (IsoText.datetimeToText t) = true := by
  have hmarks : isSurrogate IsoText.dash = false ∧ isSurrogate IsoText.letterT = false ∧
      isSurrogate IsoText.colon = false ∧ isSurrogate IsoText.dot = false ∧
        isSurrogate IsoText.letterZ = false := by decide
  have hcons : ∀ c text, utf8Encodable (c :: text) = (!isSurrogate c && utf8Encodable text) :=
    fun _ _ => rfl
  simp only [IsoText.datetimeToText, utf8Encodable_append, utf8Encodable_padDigits, hcons, hmarks,
    Bool.not_false, Bool.true_and]
  rfl

/-- The text of an identifier can be encoded. -/
theorem utf8Encodable_uuid (id : UUID) : utf8Encodable id.text = true := by
  simp only [UUID.text, utf8Encodable_append, utf8Encodable_hexDigits, utf8Encodable_py,
    Bool.and_true]

end JsonText
end AyyoHumanoid
