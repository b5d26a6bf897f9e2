import AyyoHumanoid.ArtifactText

/-!
# Sizes of encoded documents

The bytes of a canonical document are bounded from its parts: a dictionary by its
keys and its values, a list by its items, a printable text by its length.
-/

namespace AyyoHumanoid
namespace Artifacts

open PyText JsonText

section Texts

/-- The bytes of two texts. -/
theorem utf8Length_append (left right : PyStr) :
    utf8Length (left ++ right) = utf8Length left + utf8Length right := by
  rw [utf8Length, List.map_append, List.sum_append]
  rfl

/-- The bytes of a character and a text. -/
theorem utf8Length_cons (c : CodePoint) (text : PyStr) :
    utf8Length (c :: text) = utf8Width c + utf8Length text := by
  rw [utf8Length, List.map_cons, List.sum_cons]
  rfl

/-- A printable text has a byte for each character. -/
theorem utf8Length_printable {text : PyStr} (h : text.all isPrintable = true) :
    utf8Length text = text.length := by
  induction text with
  | nil => rfl
  | cons c text ih =>
    rw [List.all_cons, Bool.and_eq_true] at h
    have hwidth : utf8Width c = 1 := by
      have hchar := h.1
      simp only [isPrintable, Bool.and_eq_true, decide_eq_true_eq] at hchar
      rw [utf8Width, if_pos (by omega)]
    rw [utf8Length_cons, hwidth, ih h.2, List.length_cons, Nat.add_comm]

/-- Joining adds a comma for each part at most. -/
theorem utf8Length_joinCommas (parts : List PyStr) :
    utf8Length (joinCommas parts) ≤ (parts.map fun part => utf8Length part + 1).sum := by
  induction parts with
  | nil => exact le_rfl
  | cons part parts ih =>
    cases parts with
    | nil =>
      rw [joinCommas, List.map_cons, List.map_nil, List.sum_cons, List.sum_nil]
      omega
    | cons next parts =>
      have hcomma : utf8Width comma = 1 := by decide
      rw [joinCommas, utf8Length_append, utf8Length_cons, hcomma, List.map_cons, List.sum_cons]
      omega

/-- A printable character is escaped by one more at most. -/
theorem utf8Length_escapeChar {c : CodePoint} (h : isPrintable c = true) :
    utf8Length (escapeChar c) ≤ 2 := by
  have hquote : utf8Length [backslash, quote] = 2 := by decide
  have hslash : utf8Length [backslash, backslash] = 2 := by decide
  have hchar : 32 ≤ c.val ∧ c.val ≤ 126 := by
    simpa only [isPrintable, Bool.and_eq_true, decide_eq_true_eq] using h
  unfold escapeChar
  by_cases hisquote : c = quote
  · rw [if_pos hisquote, hquote]
  · rw [if_neg hisquote]
    by_cases hisslash : c = backslash
    · rw [if_pos hisslash, hslash]
    · have hsingle : utf8Length [c] = 1 := by
        have hone : [c].all isPrintable = true := by
          rw [List.all_cons, h]
          rfl
        rw [utf8Length_printable hone]
        rfl
      rw [if_neg hisslash, if_neg (by omega), if_neg (by omega), if_neg (by omega),
        if_neg (by omega), if_neg (by omega), if_neg (by omega), hsingle]
      omega

/-- A quoted printable text takes two bytes for each character at most. -/
theorem documentSize_str {text : PyStr} (h : text.all isPrintable = true) :
    documentSize (.str text) ≤ 2 * text.length + 2 := by
  have hescaped : utf8Length (text.flatMap escapeChar) ≤ 2 * text.length := by
    induction text with
    | nil => exact le_rfl
    | cons c text ih =>
      rw [List.all_cons, Bool.and_eq_true] at h
      have hchar := utf8Length_escapeChar h.1
      have hrest := ih h.2
      rw [List.flatMap_cons, utf8Length_append, List.length_cons]
      omega
  have hwidth : utf8Width quote = 1 := by decide
  have hlast : utf8Length [quote] = 1 := by decide
  rw [documentSize, encode, encodeString, utf8Length_cons, utf8Length_append, hwidth, hlast]
  omega

end Texts

section Documents

/-- The bytes of the keys of a dictionary, with the colons and commas. -/
def keyBudget (keys : List PyStr) : Nat :=
  (keys.map fun key => utf8Length (encodeString key) + 2).sum

/-- A dictionary takes its keys and its values. -/
theorem documentSize_obj (entries : List (PyStr × Json)) :
    documentSize (.obj entries) ≤
      2 + keyBudget (entries.map Prod.fst) + (entries.map fun entry => documentSize entry.2).sum := by
  have hbraces : utf8Width lbrace = 1 ∧ utf8Length [rbrace] = 1 := by decide
  have hcolon : utf8Width colon = 1 := by decide
  have hentry : ∀ entry : PyStr × Json, utf8Length (entryText entry) + 1 =
      utf8Length (encodeString entry.1) + 2 + documentSize entry.2 := by
    intro entry
    have hmember : entryText entry = encodeString entry.1 ++ colon :: encode entry.2 := rfl
    rw [hmember, utf8Length_append, utf8Length_cons, hcolon, documentSize]
    omega
  have hjoined := utf8Length_joinCommas ((sortByKey entries).map entryText)
  have hsum : (((sortByKey entries).map entryText).map fun part => utf8Length part + 1).sum =
      keyBudget (entries.map Prod.fst) + (entries.map fun entry => documentSize entry.2).sum := by
    rw [List.map_map]
    have hperm := ((sortByKey_perm entries).map
      ((fun part => utf8Length part + 1) ∘ entryText)).sum_nat
    rw [hperm, keyBudget, List.map_map]
    clear hperm hjoined
    induction entries with
    | nil => rfl
    | cons entry entries ih =>
      have hfirst := hentry entry
      simp only [List.map_cons, List.sum_cons, Function.comp_apply] at ih ⊢
      omega
  rw [hsum] at hjoined
  have hsplit : encode (.obj entries) =
      lbrace :: (joinCommas ((sortByKey entries).map entryText) ++ [rbrace]) := encode_obj entries
  rw [documentSize, hsplit, utf8Length_cons, utf8Length_append, hbraces.1, hbraces.2]
  omega

/-- A list takes its items. -/
theorem documentSize_arr (items : List Json) :
    documentSize (.arr items) ≤ 2 + (items.map fun item => documentSize item + 1).sum := by
  have hbrackets : utf8Width lbracket = 1 ∧ utf8Length [rbracket] = 1 := by decide
  have hsplit : encode (.arr items) =
      lbracket :: (joinCommas (items.map encode) ++ [rbracket]) := by
    rw [encode, encodeItems_eq_map]
  have hjoined := utf8Length_joinCommas (items.map encode)
  rw [List.map_map] at hjoined
  have hsum : (items.map ((fun part => utf8Length part + 1) ∘ encode)).sum =
      (items.map fun item => documentSize item + 1).sum := rfl
  rw [hsum] at hjoined
  rw [documentSize, hsplit, utf8Length_cons, utf8Length_append, hbrackets.1, hbrackets.2]
  omega

/-- A list of items that are bounded alike. -/
theorem documentSize_arr_map {α : Type} {items : List α} {document : α → Json} {bound : Nat}
    (h : ∀ item ∈ items, documentSize (document item) ≤ bound) :
    documentSize (.arr (items.map document)) ≤ 2 + items.length * (bound + 1) := by
  have hlist := documentSize_arr (items.map document)
  rw [List.map_map] at hlist
  have hsum : (items.map ((fun item => documentSize item + 1) ∘ document)).sum ≤
      items.length * (bound + 1) := by
    clear hlist
    induction items with
    | nil => exact Nat.zero_le _
    | cons item items ih =>
      have hfirst := h item (List.mem_cons_self ..)
      have hrest := ih fun other hother => h other (List.mem_cons_of_mem _ hother)
      rw [List.map_cons, List.sum_cons, List.length_cons, Nat.add_mul, Nat.one_mul,
        Function.comp_apply]
      omega
  omega

/-- An absent text takes four bytes. -/
theorem documentSize_optionalText {text : Option PyStr} {bound : Nat} (hbound : 1 ≤ bound)
    (h : ∀ t ∈ text, t.all isPrintable = true ∧ t.length ≤ bound) :
    documentSize (optionalText text) ≤ 2 * bound + 2 := by
  cases text with
  | none =>
    have hnull : documentSize (optionalText none) = 4 := by decide
    omega
  | some t =>
    obtain ⟨hprintable, hlength⟩ := h t rfl
    have hsize := documentSize_str hprintable
    change documentSize (.str t) ≤ _
    omega

end Documents

end Artifacts
end AyyoHumanoid
