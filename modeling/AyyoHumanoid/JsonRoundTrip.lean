import AyyoHumanoid.JsonDecode

/-!
# Encoded JSON reads back

`loads` of an encoded value is the value with its object keys sorted, for every
value whose dictionaries have unique keys and whose integers Python can print.
The proof follows the reader: number tokens are stable under an appended
delimiter, strings undo their escapes, and lists and dictionaries go by
induction on the value.
-/

namespace AyyoHumanoid
namespace JsonText

open PyText

/-- Text that does not continue a number starts with no character that would. -/
theorem EndsNumber.cons {c : CodePoint} {rest : PyStr} (h : EndsNumber (c :: rest)) :
    continuesNumber c = false := h c (by simp)

/-- The empty text ends a number. -/
theorem endsNumber_nil : EndsNumber [] := by simp [EndsNumber]

/-- A delimiter ends a number. -/
theorem endsNumber_cons {c : CodePoint} (rest : PyStr) (hc : continuesNumber c = false) :
    EndsNumber (c :: rest) := by
  intro d hd
  simp only [List.head?_cons, Option.mem_def, Option.some.injEq] at hd
  rwa [← hd]

/-- What a character that ends a number is not. -/
theorem continuesNumber_false {c : CodePoint} (h : continuesNumber c = false) :
    isDigit c = false ∧ c ≠ point ∧ c ≠ minus ∧ c.val ≠ 43 ∧ c.val ≠ 69 ∧ c.val ≠ 101 := by
  simp only [continuesNumber, Bool.or_eq_false_iff, beq_eq_false_iff_ne] at h
  obtain ⟨⟨⟨⟨⟨h1, h2⟩, h3⟩, h4⟩, h5⟩, h6⟩ := h
  exact ⟨h1, h2, h3, h4, h5, h6⟩

section Stable

variable {rest : PyStr} (hrest : EndsNumber rest)
include hrest

/-- A delimiter has no leading digits. -/
theorem lexDigits_delimiter : lexDigits rest = ([], rest) := by
  cases rest with
  | nil => rfl
  | cons c rest =>
    have hdigit := (continuesNumber_false hrest.cons).1
    simp [lexDigits, hdigit]

/-- Leading digits do not change when a delimiter follows. -/
theorem lexDigits_append (text : PyStr) :
    lexDigits (text ++ rest) = ((lexDigits text).1, (lexDigits text).2 ++ rest) := by
  induction text with
  | nil => exact lexDigits_delimiter hrest
  | cons c text ih =>
    by_cases hdigit : isDigit c = true
    · simp only [lexDigits, List.cons_append, List.takeWhile_cons, List.dropWhile_cons,
        hdigit, if_true] at ih ⊢
      rw [Prod.mk.injEq] at ih ⊢
      exact ⟨by rw [ih.1], ih.2⟩
    · simp [lexDigits, hdigit]

/-- The sign does not change when a delimiter follows. -/
theorem lexSign_append (text : PyStr) :
    lexSign (text ++ rest) = ((lexSign text).1, (lexSign text).2 ++ rest) := by
  cases text with
  | nil =>
    cases rest with
    | nil => rfl
    | cons c rest =>
      have hminus := (continuesNumber_false hrest.cons).2.2.1
      simp [lexSign, hminus]
  | cons c text =>
    simp only [List.cons_append, lexSign]
    split <;> rfl

/-- The integer part does not change when a delimiter follows. -/
theorem lexWhole_append (text : PyStr) :
    lexWhole (text ++ rest) = ((lexWhole text).1, (lexWhole text).2 ++ rest) := by
  cases text with
  | nil =>
    cases rest with
    | nil => rfl
    | cons c rest =>
      have hdigit := (continuesNumber_false hrest.cons).1
      have hzero : c.val ≠ 48 := by
        intro hzero
        simp [isDigit, hzero] at hdigit
      simp [lexWhole, hzero, lexDigits, hdigit]
  | cons c text =>
    simp only [List.cons_append, lexWhole]
    split
    · rfl
    · exact lexDigits_append hrest (c :: text)

/-- The fraction does not change when a delimiter follows. -/
theorem lexFraction_append (text : PyStr) :
    lexFraction (text ++ rest) = ((lexFraction text).1, (lexFraction text).2 ++ rest) := by
  cases text with
  | nil =>
    cases rest with
    | nil => rfl
    | cons c rest =>
      have hpoint := (continuesNumber_false hrest.cons).2.1
      simp [lexFraction, hpoint]
  | cons c text =>
    simp only [List.cons_append, lexFraction, lexDigits_append hrest]
    split <;> rfl

/-- The exponent's sign does not change when a delimiter follows. -/
theorem lexExponentSign_append (text : PyStr) :
    lexExponentSign (text ++ rest) =
      ((lexExponentSign text).1, (lexExponentSign text).2 ++ rest) := by
  cases text with
  | nil =>
    cases rest with
    | nil => rfl
    | cons c rest =>
      obtain ⟨-, -, hminus, hplus, -⟩ := continuesNumber_false hrest.cons
      simp [lexExponentSign, hminus, hplus]
  | cons c text =>
    simp only [List.cons_append, lexExponentSign]
    split <;> rfl

/-- The exponent does not change when a delimiter follows. -/
theorem lexExponent_append (text : PyStr) :
    lexExponent (text ++ rest) = ((lexExponent text).1, (lexExponent text).2 ++ rest) := by
  cases text with
  | nil =>
    cases rest with
    | nil => rfl
    | cons c rest =>
      obtain ⟨-, -, -, -, hupper, hlower⟩ := continuesNumber_false hrest.cons
      simp [lexExponent, hupper, hlower]
  | cons c text =>
    simp only [List.cons_append, lexExponent, lexExponentSign_append hrest,
      lexDigits_append hrest]
    split <;> rfl

/-- A number token does not change when a delimiter follows. -/
theorem lexNumber_append (text : PyStr) :
    lexNumber (text ++ rest) =
      (lexNumber text).map fun lex => { lex with rest := lex.rest ++ rest } := by
  simp only [lexNumber, lexSign_append hrest, lexWhole_append hrest,
    lexFraction_append hrest, lexExponent_append hrest]
  split <;> rfl

end Stable

/-- The ASCII digit of a number is a digit. -/
theorem isDigit_digit (n : Fin 10) : isDigit (digit n) = true := by
  revert n
  decide

/-- Decimal digits consist of digits. -/
theorem natDigitsFrom_isDigit (fuel n : Nat) : ∀ c ∈ natDigitsFrom fuel n, isDigit c = true := by
  induction fuel generalizing n with
  | zero => simp [natDigitsFrom]
  | succ fuel ih =>
    intro c hc
    simp only [natDigitsFrom] at hc
    split at hc
    · rw [List.mem_singleton.mp hc]
      exact isDigit_digit _
    · rcases List.mem_append.mp hc with hc | hc
      · exact ih _ c hc
      · rw [List.mem_singleton.mp hc]
        exact isDigit_digit _

/-- The digits of a number read back as the number. -/
theorem readDigits_natDigitsFrom {fuel n : Nat} (hfuel : n < fuel) :
    readDigits 0 (natDigitsFrom fuel n) = some n := by
  induction fuel generalizing n with
  | zero => omega
  | succ fuel ih =>
    simp only [natDigitsFrom]
    split
    · simp [readDigits, digitValue_digit]
    · have hquot := ih (n := n / 10) (by omega)
      simp only [readDigits_append, hquot, Option.bind_some, readDigits, digitValue_digit]
      congr 1
      omega

/-- A positive number's digits start with a nonzero digit. -/
theorem natDigitsFrom_head {fuel n : Nat} (hfuel : n < fuel) (hn : 0 < n) :
    ∃ c rest, natDigitsFrom fuel n = c :: rest ∧ c.val ≠ 48 ∧ isDigit c = true := by
  induction fuel generalizing n with
  | zero => omega
  | succ fuel ih =>
    simp only [natDigitsFrom]
    split
    · refine ⟨_, [], rfl, ?_, isDigit_digit _⟩
      simp only [digit]
      omega
    · obtain ⟨c, rest, htext, hc, hdigit⟩ := ih (n := n / 10) (by omega) (by omega)
      exact ⟨c, rest ++ _, by rw [htext, List.cons_append], hc, hdigit⟩

/-- Zero has one digit. -/
theorem natDigits_zero : natDigits 0 = [48] := by decide

/-- Some digit is printed for every number. -/
theorem natDigits_head (n : Nat) :
    ∃ c rest, natDigits n = c :: rest ∧ isDigit c = true := by
  rcases Nat.eq_zero_or_pos n with rfl | hn
  · exact ⟨48, [], natDigits_zero, by decide⟩
  · obtain ⟨c, rest, htext, -, hdigit⟩ := natDigitsFrom_head (Nat.lt_succ_self n) hn
    exact ⟨c, rest, htext, hdigit⟩

/-- Digits followed by nothing are all consumed. -/
theorem lexDigits_all {text : PyStr} (h : ∀ c ∈ text, isDigit c = true) :
    lexDigits text = (text, []) := by
  induction text with
  | nil => rfl
  | cons c text ih =>
    have hc := h c (by simp)
    have htail := ih fun d hd => h d (by simp [hd])
    simp only [lexDigits, Prod.mk.injEq] at htail
    simp [lexDigits, hc, htail]

/-- The integer part of printed digits is all of them. -/
theorem lexWhole_natDigits (n : Nat) : lexWhole (natDigits n) = (natDigits n, []) := by
  rcases Nat.eq_zero_or_pos n with rfl | hn
  · decide
  · obtain ⟨c, rest, htext, hc, -⟩ := natDigitsFrom_head (Nat.lt_succ_self n) hn
    have hall := natDigitsFrom_isDigit (n + 1) n
    rw [natDigits, htext, lexWhole, if_neg hc]
    rw [htext] at hall
    exact lexDigits_all hall

/-- A digit is not a minus sign. -/
theorem ne_minus_of_isDigit {c : CodePoint} (h : isDigit c = true) : c ≠ minus := by
  rintro rfl
  revert h
  decide

/-- Printed digits have no sign. -/
theorem lexSign_natDigits (n : Nat) : lexSign (natDigits n) = ([], natDigits n) := by
  obtain ⟨c, rest, htext, hdigit⟩ := natDigits_head n
  rw [htext, lexSign, if_neg (ne_minus_of_isDigit hdigit)]

/-- A natural number's digits are one integer token. -/
theorem lexNumber_natDigits (n : Nat) :
    lexNumber (natDigits n) = some ⟨[], natDigits n, [], []⟩ := by
  obtain ⟨c, rest, htext, -⟩ := natDigits_head n
  have hne : natDigits n ≠ [] := by rw [htext]; simp
  simp [lexNumber, lexSign_natDigits, lexWhole_natDigits, lexFraction, lexExponent, hne]

/-- A negated number's text is one integer token. -/
theorem lexNumber_minus (n : Nat) :
    lexNumber (minus :: natDigits n) = some ⟨[minus], natDigits n, [], []⟩ := by
  obtain ⟨c, rest, htext, -⟩ := natDigits_head n
  have hne : natDigits n ≠ [] := by rw [htext]; simp
  have hsign : lexSign (minus :: natDigits n) = ([minus], natDigits n) := by simp [lexSign]
  simp [lexNumber, hsign, lexWhole_natDigits, lexFraction, lexExponent, hne]

section Numbers

variable (readFloat : PyStr → Option FloatToken)

/-- An integer within the digit limit reads back before a delimiter. -/
theorem readNumber_intText {value : Int} {rest : PyStr}
    (hdigits : (natDigits value.natAbs).length ≤ maxIntDigits) (hrest : EndsNumber rest) :
    readNumber readFloat (intText value ++ rest) = some (.int value, rest) := by
  cases value with
  | ofNat n =>
    have hread : readDigits 0 (natDigits n) = some n :=
      readDigits_natDigitsFrom (Nat.lt_succ_self n)
    simp only [Int.ofNat_eq_natCast, Int.natAbs_natCast] at hdigits
    simp only [intText, readNumber, lexNumber_append hrest, lexNumber_natDigits]
    simp [hdigits, hread]
  | negSucc n =>
    have hread : readDigits 0 (natDigits (n + 1)) = some (n + 1) :=
      readDigits_natDigitsFrom (Nat.lt_succ_self (n + 1))
    have hdigits : (natDigits (n + 1)).length ≤ maxIntDigits := hdigits
    simp only [intText, readNumber, lexNumber_append hrest, lexNumber_minus]
    simp [hdigits, hread, Int.negSucc_eq]

/-- A float token reads back before a delimiter. -/
theorem readNumber_floatToken {token : FloatToken} {rest : PyStr}
    (hfloat : readFloat token.text = some token) (hrest : EndsNumber rest) :
    readNumber readFloat (token.text ++ rest) = some (.float token, rest) := by
  have htoken := token.isFloat
  rw [isFloatToken] at htoken
  cases hlex : lexNumber token.text with
  | none => simp [hlex] at htoken
  | some lex =>
    simp only [hlex, Bool.and_eq_true, beq_iff_eq, bne_iff_ne, ne_eq] at htoken
    obtain ⟨⟨hend, htail⟩, htext⟩ := htoken
    simp only [readNumber, lexNumber_append hrest, hlex, Option.map_some, Option.bind_some,
      if_neg htail, ← htext, hfloat, hend, List.nil_append]

end Numbers

/-- A hexadecimal digit reads back. -/
theorem hexValue_hexDigit {n : Nat} (hn : n < 16) : hexValue (hexDigit n) = some n := by
  have hall : ∀ m : Fin 16, hexValue (hexDigit m) = some m.val := by decide
  exact hall ⟨n, hn⟩

/-- An escaped control character denotes the character. -/
theorem readEscape_control {c : CodePoint} (hc : c.val < 32) (rest : PyStr) :
    readEscape (117 :: 48 :: 48 :: hexDigit (c.val / 16) :: hexDigit (c.val % 16) :: rest) =
      some (c, rest) := by
  have hhigh := hexValue_hexDigit (n := c.val / 16) (by omega)
  have hlow := hexValue_hexDigit (n := c.val % 16) (by omega)
  have hzero : hexValue 48 = some 0 := by decide
  have hvalue : ((0 * 16 + 0) * 16 + c.val / 16) * 16 + c.val % 16 = c.val := by omega
  have hread : readHex4 (48 :: 48 :: hexDigit (c.val / 16) :: hexDigit (c.val % 16) :: rest) =
      some (c.val, rest) := by
    simp only [readHex4, hzero, hhigh, hlow, Option.bind_eq_bind, Option.bind_some, hvalue]
  have hcode : codePoint c.val = c := Fin.ext (Nat.mod_eq_of_lt c.isLt)
  have hplain : ¬(0xd800 ≤ c.val ∧ c.val ≤ 0xdbff) := by omega
  have hunicode : readUnicodeEscape
      (48 :: 48 :: hexDigit (c.val / 16) :: hexDigit (c.val % 16) :: rest) = some (c, rest) := by
    simp only [readUnicodeEscape, hread, Option.map_some, if_neg hplain, hcode]
  have hdispatch : ∀ text, readEscape (117 :: text) = readUnicodeEscape text := fun _ => rfl
  rw [hdispatch, hunicode]

/-- An escaped character reads as the character. -/
theorem readChars_escapeChar (fuel : Nat) (c : CodePoint) (text : PyStr) :
    readChars (fuel + 1) (escapeChar c ++ text) =
      (readChars fuel text).map fun read => (c :: read.1, read.2) := by
  have hescape : ∀ (e : CodePoint) (tail : PyStr), readChars (fuel + 1) (backslash :: tail) =
      (readEscape tail).bind fun escaped =>
        (readChars fuel escaped.2).map fun read => (escaped.1 :: read.1, read.2) :=
    fun _ _ => rfl
  have hval : ∀ d : CodePoint, c.val = d.val → c = d := fun d h => Fin.ext h
  unfold escapeChar
  split
  · next h => rw [h]; rfl
  split
  · next h => rw [h]; rfl
  split
  · next h => rw [hval 10 h]; rfl
  split
  · next h => rw [hval 13 h]; rfl
  split
  · next h => rw [hval 9 h]; rfl
  split
  · next h => rw [hval 12 h]; rfl
  split
  · next h => rw [hval 8 h]; rfl
  split
  · next h =>
    simp only [List.cons_append, List.nil_append]
    rw [hescape c, readEscape_control h]
    rfl
  · next hquote hbackslash _ _ _ _ _ hplain =>
    simp only [List.cons_append, List.nil_append, readChars, if_neg hquote, if_neg hbackslash,
      if_neg hplain]

/-- A string's escaped characters and closing quote read as the string. -/
theorem readChars_flatMap {fuel : Nat} {text : PyStr} (hfuel : text.length < fuel)
    (rest : PyStr) :
    readChars fuel (text.flatMap escapeChar ++ quote :: rest) = some (text, rest) := by
  induction text generalizing fuel with
  | nil =>
    cases fuel with
    | zero => omega
    | succ fuel => rfl
  | cons c text ih =>
    cases fuel with
    | zero => omega
    | succ fuel =>
      have htail := @ih fuel (by simpa using hfuel)
      rw [List.flatMap_cons, List.append_assoc, readChars_escapeChar, htail]
      rfl

/-- Every character's escaped form is nonempty. -/
theorem escapeChar_length_pos (c : CodePoint) : 0 < (escapeChar c).length := by
  unfold escapeChar
  repeat' split
  all_goals simp

/-- Escaping never shortens a string. -/
theorem length_le_flatMap_escapeChar (text : PyStr) :
    text.length ≤ (text.flatMap escapeChar).length := by
  induction text with
  | nil => simp
  | cons c text ih =>
    have hpos := escapeChar_length_pos c
    simp only [List.flatMap_cons, List.length_cons, List.length_append]
    omega

/-- A quoted string reads back after its opening quote. -/
theorem readString_encode (text rest : PyStr) :
    readString (text.flatMap escapeChar ++ quote :: rest) = some (text, rest) := by
  have hlen := length_le_flatMap_escapeChar text
  refine readChars_flatMap ?_ rest
  simp only [List.length_append, List.length_cons]
  omega

end JsonText

namespace Json

open JsonText

mutual

/-- The value with the entries of every dictionary ordered by key. -/
def sortKeys : Json → Json
  | .null => .null
  | .bool value => .bool value
  | .int value => .int value
  | .float value => .float value
  | .str value => .str value
  | .arr items => .arr (sortKeysItems items)
  | .obj entries => .obj (sortByKey (sortKeysEntries entries))

/-- List items with sorted dictionaries. -/
def sortKeysItems : List Json → List Json
  | [] => []
  | item :: items => sortKeys item :: sortKeysItems items

/-- Dictionary values with sorted dictionaries. -/
def sortKeysEntries : List (PyStr × Json) → List (PyStr × Json)
  | [] => []
  | (key, value) :: entries => (key, sortKeys value) :: sortKeysEntries entries

end

mutual

/-- Every dictionary has unique keys, and Python can print every integer. -/
def dumpable : Json → Bool
  | .null | .bool _ | .float _ | .str _ => true
  | .int value => (natDigits value.natAbs).length ≤ maxIntDigits
  | .arr items => dumpableItems items
  | .obj entries => decide (entries.map Prod.fst).Nodup && dumpableEntries entries

/-- Every list item can be printed. -/
def dumpableItems : List Json → Bool
  | [] => true
  | item :: items => dumpable item && dumpableItems items

/-- Every dictionary value can be printed. -/
def dumpableEntries : List (PyStr × Json) → Bool
  | [] => true
  | (_, value) :: entries => dumpable value && dumpableEntries entries

end

/-- List items are printable one by one. -/
theorem dumpableItems_iff (items : List Json) :
    dumpableItems items = true ↔ ∀ item ∈ items, dumpable item = true := by
  induction items with
  | nil => simp [dumpableItems]
  | cons item items ih => simp [dumpableItems, ih]

/-- Dictionary values are printable one by one. -/
theorem dumpableEntries_iff (entries : List (PyStr × Json)) :
    dumpableEntries entries = true ↔ ∀ entry ∈ entries, dumpable entry.2 = true := by
  induction entries with
  | nil => simp [dumpableEntries]
  | cons entry entries ih =>
    obtain ⟨key, value⟩ := entry
    simp [dumpableEntries, ih]

/-- Sorting keys inside list items is a map. -/
theorem sortKeysItems_eq_map (items : List Json) : sortKeysItems items = items.map sortKeys := by
  induction items with
  | nil => rfl
  | cons item items ih => rw [sortKeysItems, ih, List.map_cons]

/-- Sorting keys inside dictionary values is a map. -/
theorem sortKeysEntries_eq_map (entries : List (PyStr × Json)) :
    sortKeysEntries entries = entries.map fun entry => (entry.1, sortKeys entry.2) := by
  induction entries with
  | nil => rfl
  | cons entry entries ih => rw [sortKeysEntries, ih, List.map_cons]

end Json

namespace JsonText

open PyText Json

/-- Encoding list items is a map. -/
theorem encodeItems_eq_map (items : List Json) : encodeItems items = items.map encode := by
  induction items with
  | nil => rfl
  | cons item items ih => rw [encodeItems, ih, List.map_cons]

/-- Encoding dictionary values is a map. -/
theorem encodeEntries_eq_map (entries : List (PyStr × Json)) :
    encodeEntries entries = entries.map fun entry => (entry.1, encode entry.2) := by
  induction entries with
  | nil => rfl
  | cons entry entries ih => rw [encodeEntries, ih, List.map_cons]

/-- Sorting by key commutes with a change of the values. -/
theorem sortByKey_map {α β : Type} (f : α → β) (entries : List (PyStr × α)) :
    sortByKey (entries.map fun entry => (entry.1, f entry.2)) =
      (sortByKey entries).map fun entry => (entry.1, f entry.2) := by
  have hmap := List.map_insertionSort (fun left right : PyStr × α => left.1 ≤ right.1)
    (fun left right : PyStr × β => left.1 ≤ right.1) (fun entry => (entry.1, f entry.2)) entries
    fun _ _ _ _ => Iff.rfl
  exact hmap.symm

/-- Sorting by key permutes the entries. -/
theorem sortByKey_perm {α : Type} (entries : List (PyStr × α)) :
    (sortByKey entries).Perm entries :=
  List.perm_insertionSort _ _

/-- The text of one member of an object. -/
def entryText (entry : PyStr × Json) : PyStr :=
  memberText (entry.1, encode entry.2)

/-- The members of an encoded dictionary, in key order. -/
theorem encode_obj (entries : List (PyStr × Json)) :
    encode (.obj entries) =
      lbrace :: (joinCommas ((sortByKey entries).map entryText) ++ [rbrace]) := by
  rw [encode, encodeEntries_eq_map, sortByKey_map, List.map_map]
  rfl

/-- A number token starts with a digit or a minus sign. -/
theorem lexNumber_head {text : PyStr} {lex : NumberLex} (h : lexNumber text = some lex) :
    ∃ c rest, text = c :: rest ∧ (isDigit c = true ∨ c = minus) := by
  cases text with
  | nil => simp [lexNumber, lexSign, lexWhole] at h
  | cons c rest =>
    refine ⟨c, rest, rfl, ?_⟩
    by_cases hminus : c = minus
    · exact Or.inr hminus
    · left
      by_contra hdigit
      have hzero : c.val ≠ 48 := by
        intro hzero
        simp [isDigit, hzero] at hdigit
      simp [lexNumber, lexSign, hminus, lexWhole, hzero, lexDigits, hdigit] at h

/-- An integer's text starts with a digit or a minus sign. -/
theorem intText_head (value : Int) :
    ∃ c rest, intText value = c :: rest ∧ (isDigit c = true ∨ c = minus) := by
  cases value with
  | ofNat n =>
    obtain ⟨c, rest, htext, hdigit⟩ := natDigits_head n
    exact ⟨c, rest, htext, Or.inl hdigit⟩
  | negSucc n => exact ⟨minus, natDigits (n + 1), rfl, Or.inr rfl⟩

/-- A float's text starts with a digit or a minus sign. -/
theorem floatToken_head (token : FloatToken) :
    ∃ c rest, token.text = c :: rest ∧ (isDigit c = true ∨ c = minus) := by
  have htoken := token.isFloat
  rw [isFloatToken] at htoken
  cases hlex : lexNumber token.text with
  | none => simp [hlex] at htoken
  | some lex => exact lexNumber_head hlex

/-- The character with which a value's text may start. -/
structure StartsValue (c : CodePoint) : Prop where
  /-- It is not insignificant whitespace. -/
  notSpace : isJsonSpace c = false
  /-- It does not close an array. -/
  notClose : c ≠ rbracket

/-- A number's first character starts a value and no other kind of value. -/
theorem numberHead_facts {c : CodePoint} (h : isDigit c = true ∨ c = minus) :
    StartsValue c ∧ c ≠ quote ∧ c ≠ lbracket ∧ c ≠ lbrace ∧ c.val ≠ 110 ∧ c.val ≠ 116 ∧
      c.val ≠ 102 := by
  have hrange : 45 ≤ c.val ∧ c.val ≤ 57 := by
    rcases h with h | h
    · simp only [isDigit, Bool.and_eq_true, decide_eq_true_eq] at h
      omega
    · rw [h]
      decide
  have hne : ∀ d : CodePoint, 57 < d.val ∨ d.val < 45 → c ≠ d := by
    rintro d hd rfl
    omega
  refine ⟨⟨?_, hne _ (by decide)⟩, hne _ (by decide), hne _ (by decide), hne _ (by decide),
    by omega, by omega, by omega⟩
  simp only [isJsonSpace, Bool.or_eq_false_iff, beq_eq_false_iff_ne]
  omega

/-- Every encoded value starts with a value's first character. -/
theorem encode_head (value : Json) :
    ∃ c rest, encode value = c :: rest ∧ StartsValue c := by
  cases value with
  | null => exact ⟨_, _, rfl, by decide, by decide⟩
  | bool b => cases b <;> exact ⟨_, _, rfl, by decide, by decide⟩
  | int i =>
    obtain ⟨c, rest, htext, hc⟩ := intText_head i
    exact ⟨c, rest, htext, (numberHead_facts hc).1⟩
  | float token =>
    obtain ⟨c, rest, htext, hc⟩ := floatToken_head token
    exact ⟨c, rest, htext, (numberHead_facts hc).1⟩
  | str text => exact ⟨_, _, rfl, by decide, by decide⟩
  | arr items => exact ⟨_, _, rfl, by decide, by decide⟩
  | obj entries => exact ⟨_, _, rfl, by decide, by decide⟩

/-- Text that starts with a significant character has no whitespace to skip. -/
theorem skipWs_cons {c : CodePoint} (rest : PyStr) (hc : isJsonSpace c = false) :
    skipWs (c :: rest) = c :: rest := by
  simp [skipWs, hc]

/-- There is no whitespace to skip before an encoded value. -/
theorem skipWs_encode (value : Json) (rest : PyStr) :
    skipWs (encode value ++ rest) = encode value ++ rest := by
  obtain ⟨c, tail, htext, hc⟩ := encode_head value
  rw [htext, List.cons_append, skipWs_cons _ hc.notSpace]

section ReadBack

variable (readFloat : PyStr → Option FloatToken)

/-- A value's text reads as the value with sorted keys, whatever delimiter follows. -/
def ReadsBack (value : Json) : Prop :=
  ∀ fuel rest, 3 * (encode value).length ≤ fuel → EndsNumber rest →
    readValue readFloat fuel (encode value ++ rest) = some (value.sortKeys, rest)

/-- A value before the closing bracket is the last item. -/
theorem readItems_last {fuel : Nat} {text rest : PyStr} {item : Json}
    (hitem : readValue readFloat fuel text = some (item, rbracket :: rest)) :
    readItems readFloat (fuel + 1) text = some ([item], rest) := by
  have hskip : skipWs (rbracket :: rest) = rbracket :: rest := skipWs_cons rest (by decide)
  simp only [readItems, hitem, Option.bind_some, hskip, if_true]

/-- A value before a comma is followed by more items. -/
theorem readItems_next {fuel : Nat} {text rest after : PyStr} {item : Json} {items : List Json}
    (hitem : readValue readFloat fuel text = some (item, comma :: rest))
    (hitems : readItems readFloat fuel (skipWs rest) = some (items, after)) :
    readItems readFloat (fuel + 1) text = some (item :: items, after) := by
  have hskip : skipWs (comma :: rest) = comma :: rest := skipWs_cons rest (by decide)
  have hcomma : comma ≠ rbracket := by decide
  simp only [readItems, hitem, Option.bind_some, hskip, if_neg hcomma, if_true, hitems,
    Option.map_some]

/-- A quoted key and a colon come before the member's value. -/
theorem readMembers_key {fuel : Nat} (key text : PyStr) :
    readMembers readFloat (fuel + 1) (encodeString key ++ colon :: text) =
      (readValue readFloat fuel (skipWs text)).bind fun (value, rest) =>
        match skipWs rest with
        | [] => none
        | c :: rest =>
          if c = rbrace then some ([(key, value)], rest)
          else if c = comma then
            (readMembers readFloat fuel (skipWs rest)).map fun (pairs, rest) =>
              ((key, value) :: pairs, rest)
          else none := by
  have hskip : skipWs (colon :: text) = colon :: text := skipWs_cons text (by decide)
  have hassoc : encodeString key ++ colon :: text =
      quote :: (key.flatMap escapeChar ++ quote :: (colon :: text)) := by
    simp [encodeString]
  rw [hassoc, readMembers, if_pos rfl, readString_encode, Option.bind_some]
  dsimp only
  rw [hskip]
  exact if_pos rfl

/-- A member before the closing brace is the last one. -/
theorem readMembers_last {fuel : Nat} {key text rest : PyStr} {value : Json}
    (hvalue : readValue readFloat fuel (skipWs text) = some (value, rbrace :: rest)) :
    readMembers readFloat (fuel + 1) (encodeString key ++ colon :: text) =
      some ([(key, value)], rest) := by
  have hskip : skipWs (rbrace :: rest) = rbrace :: rest := skipWs_cons rest (by decide)
  simp only [readMembers_key, hvalue, Option.bind_some, hskip, if_true]

/-- A member before a comma is followed by more members. -/
theorem readMembers_next {fuel : Nat} {key text rest after : PyStr} {value : Json}
    {pairs : List (PyStr × Json)}
    (hvalue : readValue readFloat fuel (skipWs text) = some (value, comma :: rest))
    (hpairs : readMembers readFloat fuel (skipWs rest) = some (pairs, after)) :
    readMembers readFloat (fuel + 1) (encodeString key ++ colon :: text) =
      some ((key, value) :: pairs, after) := by
  have hskip : skipWs (comma :: rest) = comma :: rest := skipWs_cons rest (by decide)
  have hcomma : comma ≠ rbrace := by decide
  simp only [readMembers_key, hvalue, Option.bind_some, hskip, if_neg hcomma, if_true, hpairs,
    Option.map_some]

/-- Joined parts start with the first part. -/
theorem skipWs_joinCommas {part : PyStr} {parts : List PyStr} {after : PyStr}
    (hpart : ∀ rest, skipWs (part ++ rest) = part ++ rest) :
    skipWs (joinCommas (part :: parts) ++ after) = joinCommas (part :: parts) ++ after := by
  cases parts with
  | nil => exact hpart after
  | cons next parts => rw [joinCommas, List.append_assoc, hpart]

/-- Items that read back one by one read back as a list. -/
theorem readItems_join {item : Json} {items : List Json}
    (hitems : ∀ x ∈ item :: items, ReadsBack readFloat x) (fuel : Nat) (rest : PyStr)
    (hfuel : 3 * (joinCommas ((item :: items).map encode)).length + 1 ≤ fuel) :
    readItems readFloat fuel (joinCommas ((item :: items).map encode) ++ rbracket :: rest) =
      some ((item :: items).map sortKeys, rest) := by
  induction items generalizing item fuel with
  | nil =>
    cases fuel with
    | zero => omega
    | succ fuel =>
      simp only [List.map_cons, List.map_nil, joinCommas] at hfuel ⊢
      exact readItems_last readFloat (hitems item (by simp) fuel _ (by omega)
        (endsNumber_cons rest (by decide)))
  | cons next items ih =>
    cases fuel with
    | zero => omega
    | succ fuel =>
      have hjoin : joinCommas ((item :: next :: items).map encode) =
          encode item ++ comma :: joinCommas ((next :: items).map encode) := rfl
      rw [hjoin] at hfuel ⊢
      simp only [List.length_append, List.length_cons] at hfuel
      have htail := ih (fun x hx => hitems x (List.mem_cons_of_mem _ hx)) fuel (by omega)
      rw [List.append_assoc, List.cons_append]
      refine readItems_next readFloat
        (hitems item (by simp) fuel _ (by omega) (endsNumber_cons _ (by decide))) ?_
      rw [List.map_cons, skipWs_joinCommas (skipWs_encode next), ← List.map_cons, htail]

/-- There is no whitespace to skip before a member. -/
theorem skipWs_entryText (entry : PyStr × Json) (rest : PyStr) :
    skipWs (entryText entry ++ rest) = entryText entry ++ rest := by
  simp only [entryText, memberText, encodeString, List.cons_append]
  exact skipWs_cons _ (by decide)

/-- Members whose values read back read back as pairs. -/
theorem readMembers_join {entry : PyStr × Json} {entries : List (PyStr × Json)}
    (hentries : ∀ x ∈ entry :: entries, ReadsBack readFloat x.2) (fuel : Nat) (rest : PyStr)
    (hfuel : 3 * (joinCommas ((entry :: entries).map entryText)).length + 1 ≤ fuel) :
    readMembers readFloat fuel (joinCommas ((entry :: entries).map entryText) ++ rbrace :: rest) =
      some ((entry :: entries).map fun x => (x.1, x.2.sortKeys), rest) := by
  induction entries generalizing entry fuel with
  | nil =>
    cases fuel with
    | zero => omega
    | succ fuel =>
      simp only [List.map_cons, List.map_nil, joinCommas, entryText, memberText] at hfuel ⊢
      simp only [List.length_append, List.length_cons] at hfuel
      rw [List.append_assoc, List.cons_append]
      refine readMembers_last readFloat ?_
      rw [skipWs_encode]
      exact hentries entry (by simp) fuel _ (by omega) (endsNumber_cons rest (by decide))
  | cons next entries ih =>
    cases fuel with
    | zero => omega
    | succ fuel =>
      have hjoin : joinCommas ((entry :: next :: entries).map entryText) =
          entryText entry ++ comma :: joinCommas ((next :: entries).map entryText) := rfl
      rw [hjoin] at hfuel ⊢
      simp only [List.length_append, List.length_cons, entryText, memberText] at hfuel
      have htail := ih (fun x hx => hentries x (List.mem_cons_of_mem _ hx)) fuel (by omega)
      rw [List.append_assoc, List.cons_append, entryText, memberText, List.append_assoc,
        List.cons_append]
      have hvalue := hentries entry (by simp) fuel
        (comma :: (joinCommas ((next :: entries).map entryText) ++ rbrace :: rest)) (by omega)
        (endsNumber_cons _ (by decide))
      rw [← skipWs_encode] at hvalue
      refine readMembers_next readFloat hvalue ?_
      rw [List.map_cons, skipWs_joinCommas (skipWs_entryText next), ← List.map_cons, htail]

/-- Inserting a new key appends its entry. -/
theorem setEntry_of_new {entries : List (PyStr × Json)} {key : PyStr} (value : Json)
    (hkey : key ∉ entries.map Prod.fst) : setEntry entries key value = entries ++ [(key, value)] := by
  have hany : entries.any (fun entry => entry.1 == key) = false := by
    simp only [List.any_eq_false, beq_iff_eq]
    rintro entry hentry rfl
    exact hkey (List.mem_map_of_mem hentry)
  rw [setEntry, hany]
  rfl

/-- Pairs with distinct keys build the dictionary that lists them. -/
theorem dictOfPairs_of_nodup {pairs : List (PyStr × Json)}
    (hkeys : (pairs.map Prod.fst).Nodup) : dictOfPairs pairs = pairs := by
  suffices hfold : ∀ before : List (PyStr × Json), ((before ++ pairs).map Prod.fst).Nodup →
      pairs.foldl (fun entries pair => setEntry entries pair.1 pair.2) before = before ++ pairs by
    simpa [dictOfPairs] using hfold [] (by simpa using hkeys)
  intro before hbefore
  induction pairs generalizing before with
  | nil => simp
  | cons pair pairs ih =>
    have hnew : pair.1 ∉ before.map Prod.fst := by
      rw [List.map_append, List.nodup_append] at hbefore
      intro hmem
      exact hbefore.2.2 _ hmem _ (by simp) rfl
    rw [List.foldl_cons, setEntry_of_new pair.2 hnew]
    have htail := ih (List.nodup_cons.mp hkeys).2 (before ++ [pair]) (by simpa using hbefore)
    simpa using htail

variable {readFloat} (hfloat : ∀ token : FloatToken, readFloat token.text = some token)
include hfloat

/-- Every printable value reads back with its keys sorted. -/
theorem readsBack_of_dumpable (value : Json) (hdump : value.dumpable = true) :
    ReadsBack readFloat value := by
  induction value using Json.induct with
  | null =>
    intro fuel rest hfuel _
    cases fuel with
    | zero => exact absurd hfuel (by decide)
    | succ fuel => rfl
  | bool b =>
    intro fuel rest hfuel _
    cases fuel with
    | zero => cases b <;> exact absurd hfuel (by decide)
    | succ fuel => cases b <;> rfl
  | int i =>
    intro fuel rest hfuel hrest
    obtain ⟨c, tail, htext, hc⟩ := intText_head i
    obtain ⟨-, h1, h2, h3, h4, h5, h6⟩ := numberHead_facts hc
    have hread := readNumber_intText readFloat (by simpa [dumpable] using hdump) hrest
    cases fuel with
    | zero => simp [encode, htext] at hfuel
    | succ fuel =>
      rw [htext, List.cons_append] at hread
      rw [encode, htext, List.cons_append, readValue, if_neg h1, if_neg h2, if_neg h3, if_neg h4,
        if_neg h5, if_neg h6, hread, sortKeys]
  | float token =>
    intro fuel rest hfuel hrest
    obtain ⟨c, tail, htext, hc⟩ := floatToken_head token
    obtain ⟨-, h1, h2, h3, h4, h5, h6⟩ := numberHead_facts hc
    have hread := readNumber_floatToken readFloat (hfloat token) hrest
    cases fuel with
    | zero => simp [encode, htext] at hfuel
    | succ fuel =>
      rw [htext, List.cons_append] at hread
      rw [encode, htext, List.cons_append, readValue, if_neg h1, if_neg h2, if_neg h3, if_neg h4,
        if_neg h5, if_neg h6, hread, sortKeys]
  | str text =>
    intro fuel rest hfuel _
    cases fuel with
    | zero => simp [encode, encodeString] at hfuel
    | succ fuel =>
      have hread := readString_encode text rest
      simp only [encode, encodeString, List.cons_append, List.append_assoc, List.nil_append,
        readValue, if_true, hread, Option.map_some, sortKeys]
  | arr items ih =>
    intro fuel rest hfuel hrest
    rw [dumpable, dumpableItems_iff] at hdump
    rw [encode, encodeItems_eq_map] at hfuel ⊢
    rw [sortKeys, sortKeysItems_eq_map]
    simp only [List.length_cons, List.length_append, List.length_nil] at hfuel
    obtain ⟨fuel, rfl⟩ : ∃ k, fuel = k + 2 := ⟨fuel - 2, by omega⟩
    have hquote : lbracket ≠ quote := by decide
    cases items with
    | nil =>
      have hskip : skipWs (rbracket :: rest) = rbracket :: rest := skipWs_cons rest (by decide)
      simp [readValue, hquote, joinCommas, hskip, readArray]
    | cons item items =>
      have hitems := readItems_join readFloat (fun x hx => ih x hx (hdump x hx)) fuel rest
        (by omega)
      obtain ⟨c, tail, hhead, hc⟩ := encode_head item
      obtain ⟨after, hjoin⟩ : ∃ after,
          joinCommas ((item :: items).map encode) ++ rbracket :: rest = c :: after := by
        cases items with
        | nil => exact ⟨_, by rw [List.map_cons, List.map_nil, joinCommas, hhead]; rfl⟩
        | cons next items => exact ⟨_, by rw [List.map_cons, List.map_cons, joinCommas, hhead]; rfl⟩
      rw [List.cons_append, List.append_assoc, List.singleton_append, readValue, if_neg hquote,
        if_pos rfl, hjoin, skipWs_cons _ hc.notSpace, readArray, if_neg hc.notClose, ← hjoin,
        hitems, Option.map_some]
  | obj entries ih =>
    intro fuel rest hfuel hrest
    rw [dumpable, Bool.and_eq_true, decide_eq_true_eq, dumpableEntries_iff] at hdump
    obtain ⟨hkeys, hdump⟩ := hdump
    have hperm := sortByKey_perm entries
    have hvalues : ∀ x ∈ sortByKey entries, ReadsBack readFloat x.2 := fun x hx =>
      ih x (hperm.mem_iff.mp hx) (hdump x (hperm.mem_iff.mp hx))
    have hnodup : ((sortByKey entries).map Prod.fst).Nodup :=
      (hperm.map Prod.fst).nodup_iff.mpr hkeys
    rw [encode_obj] at hfuel ⊢
    rw [sortKeys, sortKeysEntries_eq_map, sortByKey_map]
    simp only [List.length_cons, List.length_append, List.length_nil] at hfuel
    obtain ⟨fuel, rfl⟩ : ∃ k, fuel = k + 2 := ⟨fuel - 2, by omega⟩
    have hquote : lbrace ≠ quote := by decide
    have hbracket : lbrace ≠ lbracket := by decide
    cases hsorted : sortByKey entries with
    | nil =>
      have hskip : skipWs (rbrace :: rest) = rbrace :: rest := skipWs_cons rest (by decide)
      simp [readValue, hquote, hbracket, joinCommas, hskip, readObject]
    | cons entry tail =>
      rw [hsorted] at hvalues hnodup hfuel
      have hmembers := readMembers_join readFloat hvalues fuel rest
        (by omega)
      have hdict : dictOfPairs ((entry :: tail).map fun x => (x.1, x.2.sortKeys)) =
          (entry :: tail).map fun x => (x.1, x.2.sortKeys) :=
        dictOfPairs_of_nodup (by rwa [List.map_map])
      obtain ⟨after, hjoin⟩ : ∃ after,
          joinCommas ((entry :: tail).map entryText) ++ rbrace :: rest = quote :: after := by
        cases tail with
        | nil => exact ⟨_, rfl⟩
        | cons next tail => exact ⟨_, rfl⟩
      have hbrace : quote ≠ rbrace := by decide
      have hquoteSpace : isJsonSpace quote = false := by decide
      rw [List.cons_append, List.append_assoc, List.singleton_append, readValue, if_neg hquote, if_neg hbracket, if_pos rfl, hjoin,
        skipWs_cons _ hquoteSpace, readObject, if_neg hbrace, ← hjoin, hmembers]
      simp only [Option.map_some, hdict]

/-- `json.loads` inverts `json.dumps` up to the order of dictionary keys. -/
theorem loads_encode {value : Json} (hdump : value.dumpable = true) :
    loads readFloat (encode value) = some value.sortKeys := by
  have hread := readsBack_of_dumpable hfloat value hdump (3 * (encode value).length + 1) []
    (by omega) endsNumber_nil
  have hskip := skipWs_encode value []
  rw [List.append_nil] at hread hskip
  rw [loads, hskip, hread]
  simp only [skipWs, Option.bind_some, List.dropWhile_nil, if_true]

end ReadBack

/-- Entries in key order are their own sort. -/
theorem sortByKey_idem {α : Type} (entries : List (PyStr × α)) :
    sortByKey (sortByKey entries) = sortByKey entries := by
  unfold sortByKey
  have htotal : Std.Total fun left right : PyStr × α => left.1 ≤ right.1 :=
    ⟨fun left right => le_total left.1 right.1⟩
  have htrans : IsTrans (PyStr × α) fun left right => left.1 ≤ right.1 :=
    ⟨fun _ _ _ hab hbc => le_trans hab hbc⟩
  exact (List.pairwise_insertionSort _ entries).insertionSort_eq

/-- Sorting keys does not change the text of a value. -/
@[simp] theorem encode_sortKeys (value : Json) : encode value.sortKeys = encode value := by
  induction value using Json.induct with
  | null | int _ | float _ | str _ => rfl
  | bool b => cases b <;> rfl
  | arr items ih =>
    have hmap : (items.map sortKeys).map encode = items.map encode := by
      rw [List.map_map]
      exact List.map_congr_left ih
    rw [sortKeys, encode, encode, encodeItems_eq_map, encodeItems_eq_map,
      sortKeysItems_eq_map, hmap]
  | obj entries ih =>
    have hmap : (sortByKey (entries.map fun x => (x.1, x.2.sortKeys))).map entryText =
        (sortByKey entries).map entryText := by
      rw [sortByKey_map, List.map_map]
      refine List.map_congr_left fun entry hentry => ?_
      have hvalue := ih entry ((sortByKey_perm entries).mem_iff.mp hentry)
      simp only [Function.comp_apply, entryText, hvalue]
    rw [sortKeys, encode_obj, encode_obj, sortByKey_idem, sortKeysEntries_eq_map, hmap]

/-- Sorting keys keeps a value printable. -/
theorem dumpable_sortKeys {value : Json} (hdump : value.dumpable = true) :
    value.sortKeys.dumpable = true := by
  induction value using Json.induct with
  | null | bool _ | int _ | float _ | str _ => exact hdump
  | arr items ih =>
    rw [dumpable, dumpableItems_iff] at hdump
    rw [sortKeys, sortKeysItems_eq_map, dumpable, dumpableItems_iff]
    intro item hitem
    obtain ⟨original, horiginal, rfl⟩ := List.mem_map.mp hitem
    exact ih original horiginal (hdump original horiginal)
  | obj entries ih =>
    rw [dumpable, Bool.and_eq_true, decide_eq_true_eq, dumpableEntries_iff] at hdump
    obtain ⟨hkeys, hdump⟩ := hdump
    have hperm := sortByKey_perm (entries.map fun x => (x.1, x.2.sortKeys))
    rw [sortKeys, sortKeysEntries_eq_map, dumpable, Bool.and_eq_true, decide_eq_true_eq,
      dumpableEntries_iff, (hperm.map Prod.fst).nodup_iff, List.map_map]
    refine ⟨hkeys, fun entry hentry => ?_⟩
    obtain ⟨original, horiginal, rfl⟩ := List.mem_map.mp (hperm.mem_iff.mp hentry)
    exact ih original horiginal (hdump original horiginal)

/-- Printable values with one text are equal up to the order of keys. -/
theorem sortKeys_eq_of_encode_eq {left right : Json} (hleft : left.dumpable = true)
    (hright : right.dumpable = true) (htext : encode left = encode right) :
    left.sortKeys = right.sortKeys := by
  have hread := loads_encode FloatToken.read_text hleft
  rw [htext, loads_encode FloatToken.read_text hright] at hread
  exact (Option.some.inj hread).symm

end JsonText
end AyyoHumanoid
