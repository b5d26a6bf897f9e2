import AyyoHumanoid.JsonBounds

/-!
# What canonical text determines

Printable documents with one canonical text have the same texts of their fields
and items. A document type whose fields determine its values is therefore
determined by its canonical text.
-/

namespace AyyoHumanoid
namespace JsonText

open PyText Json

/-- A string is printable. -/
@[simp] theorem dumpable_str (text : PyStr) : (Json.str text).dumpable = true := rfl

/-- A truth value is printable. -/
@[simp] theorem dumpable_bool (value : Bool) : (Json.bool value).dumpable = true := rfl

/-- The null value is printable. -/
@[simp] theorem dumpable_null : Json.null.dumpable = true := rfl

/-- A float is printable. -/
@[simp] theorem dumpable_float (token : FloatToken) : (Json.float token).dumpable = true := rfl

/-- The number of digits of a natural number. -/
theorem length_natDigitsFrom_le (fuel n k : Nat) (h : n < 10 ^ (k + 1)) :
    (natDigitsFrom fuel n).length ≤ k + 1 := by
  induction fuel generalizing n k with
  | zero => simp [natDigitsFrom]
  | succ fuel ih =>
    rw [natDigitsFrom]
    by_cases hten : n < 10
    · rw [dif_pos hten, List.length_singleton]
      omega
    · rw [dif_neg hten, List.length_append, List.length_singleton]
      cases k with
      | zero => omega
      | succ k =>
        have hshort := ih (n / 10) k (by omega)
        omega

/-- An integer of at most 64 bits is printable. -/
theorem dumpable_int {value : Int} (h : value.natAbs < 2 ^ 64) :
    (Json.int value).dumpable = true := by
  have hdigits := length_natDigitsFrom_le (value.natAbs + 1) value.natAbs 19 (by omega)
  rw [dumpable, natDigits, decide_eq_true_eq]
  exact hdigits.trans (by decide)

/-- A list is printable when its items are. -/
@[simp] theorem dumpable_arr {items : List Json} :
    (Json.arr items).dumpable = true ↔ ∀ item ∈ items, item.dumpable = true := by
  rw [dumpable, dumpableItems_iff]

/-- A dictionary is printable when its keys are distinct and its values printable. -/
theorem dumpable_obj {entries : List (PyStr × Json)} : (Json.obj entries).dumpable = true ↔
    (entries.map Prod.fst).Nodup ∧ ∀ entry ∈ entries, entry.2.dumpable = true := by
  rw [dumpable, Bool.and_eq_true, decide_eq_true_eq, dumpableEntries_iff]

/-- The text of a string determines it. -/
theorem encode_str_injective {left right : PyStr}
    (h : encode (.str left) = encode (.str right)) : left = right := by
  have hkeys : (Json.str left).sortKeys = (Json.str right).sortKeys :=
    sortKeys_eq_of_encode_eq rfl rfl h
  rwa [sortKeys, sortKeys, Json.str.injEq] at hkeys

/-- The text of a truth value determines it. -/
theorem encode_bool_injective {left right : Bool}
    (h : encode (.bool left) = encode (.bool right)) : left = right := by
  have hkeys : (Json.bool left).sortKeys = (Json.bool right).sortKeys :=
    sortKeys_eq_of_encode_eq rfl rfl h
  rwa [sortKeys, sortKeys, Json.bool.injEq] at hkeys

/-- The text of an integer determines it. -/
theorem encode_int_injective {left right : Int} (hleft : (Json.int left).dumpable = true)
    (hright : (Json.int right).dumpable = true)
    (h : encode (.int left) = encode (.int right)) : left = right := by
  have hkeys := sortKeys_eq_of_encode_eq hleft hright h
  rwa [sortKeys, sortKeys, Json.int.injEq] at hkeys

/-- A text that may be absent is printable. -/
@[simp] theorem dumpable_optionalText (value : Option PyStr) :
    (optionalText value).dumpable = true := by
  cases value <;> rfl

/-- The document of a text that may be absent determines it. -/
theorem encode_optionalText_injective {left right : Option PyStr}
    (h : encode (optionalText left) = encode (optionalText right)) : left = right := by
  have hkeys := sortKeys_eq_of_encode_eq (dumpable_optionalText left)
    (dumpable_optionalText right) h
  cases left with
  | none =>
    cases right with
    | none => rfl
    | some text => cases hkeys
  | some text =>
    cases right with
    | none => cases hkeys
    | some other =>
      simp only [optionalText, Option.elim, sortKeys, Json.str.injEq] at hkeys
      rw [hkeys]

/-- Strings are equal when their texts are. -/
@[simp] theorem encode_str_inj {left right : PyStr} :
    encode (.str left) = encode (.str right) ↔ left = right :=
  ⟨encode_str_injective, fun h => by rw [h]⟩

/-- Truth values are equal when their texts are. -/
@[simp] theorem encode_bool_inj {left right : Bool} :
    encode (.bool left) = encode (.bool right) ↔ left = right :=
  ⟨encode_bool_injective, fun h => by rw [h]⟩

/-- Lists with one text have items with the same texts. -/
theorem encode_items {left right : List Json} (hleft : (Json.arr left).dumpable = true)
    (hright : (Json.arr right).dumpable = true)
    (h : encode (.arr left) = encode (.arr right)) : left.map encode = right.map encode := by
  have hkeys := sortKeys_eq_of_encode_eq hleft hright h
  rw [sortKeys, sortKeys, Json.arr.injEq, sortKeysItems_eq_map, sortKeysItems_eq_map] at hkeys
  have htexts := congrArg (List.map encode) hkeys
  simp only [List.map_map, Function.comp_def, encode_sortKeys] at htexts
  exact htexts

/-- Dictionaries with one text have fields with the same texts. -/
theorem encode_field {left right : List (PyStr × Json)} (hleft : (Json.obj left).dumpable = true)
    (hright : (Json.obj right).dumpable = true) (h : encode (.obj left) = encode (.obj right))
    (key : PyStr) {value other : Json} (hvalue : (key, value) ∈ left)
    (hother : (key, other) ∈ right) : encode value = encode other := by
  have hkeys := sortKeys_eq_of_encode_eq hleft hright h
  rw [sortKeys, sortKeys, Json.obj.injEq, sortKeysEntries_eq_map, sortKeysEntries_eq_map] at hkeys
  have hfound : (key, value.sortKeys) ∈ sortByKey (right.map fun e => (e.1, e.2.sortKeys)) := by
    rw [← hkeys, (sortByKey_perm _).mem_iff]
    exact List.mem_map.mpr ⟨(key, value), hvalue, rfl⟩
  rw [(sortByKey_perm _).mem_iff, List.mem_map] at hfound
  obtain ⟨entry, hentry, heq⟩ := hfound
  have hkey : entry.1 = key := congrArg Prod.fst heq
  have hsorted : entry.2.sortKeys = value.sortKeys := congrArg Prod.snd heq
  have hsame : entry = (key, other) :=
    List.inj_on_of_nodup_map (dumpable_obj.mp hright).1 hentry hother hkey
  rw [hsame] at hsorted
  rw [← encode_sortKeys value, ← hsorted, encode_sortKeys]

/-- Dictionaries with the same keys and one text have the same texts of their values in turn. -/
theorem encode_values {left right : List (PyStr × Json)} (hleft : (Json.obj left).dumpable = true)
    (hright : (Json.obj right).dumpable = true)
    (hkeys : left.map Prod.fst = right.map Prod.fst)
    (h : encode (.obj left) = encode (.obj right)) :
    left.map (fun entry => encode entry.2) = right.map fun entry => encode entry.2 := by
  have hlength : left.length = right.length := by
    have hmap := congrArg List.length hkeys
    rwa [List.length_map, List.length_map] at hmap
  refine List.ext_getElem (by rw [List.length_map, List.length_map, hlength]) ?_
  intro index hindex hindex'
  rw [List.length_map] at hindex hindex'
  rw [List.getElem_map, List.getElem_map]
  have hkey : left[index].1 = right[index].1 := by
    have hget : (left.map Prod.fst)[index]? = (right.map Prod.fst)[index]? := by rw [hkeys]
    rw [List.getElem?_map, List.getElem?_map, List.getElem?_eq_getElem hindex,
      List.getElem?_eq_getElem hindex'] at hget
    simpa using hget
  have hmem : (right[index].1, left[index].2) ∈ left := by
    rw [← hkey]
    exact List.getElem_mem hindex
  exact encode_field hleft hright h _ hmem (List.getElem_mem hindex')

/-- A document type that its canonical text determines. -/
structure Determined {α : Type} (document : α → Json) : Prop where
  /-- Every document is printable. -/
  dumpable : ∀ a, (document a).dumpable = true
  /-- The text determines the value. -/
  injective : ∀ a b, encode (document a) = encode (document b) → a = b

namespace Determined

variable {α : Type} {document : α → Json}

/-- A list of documents is printable. -/
theorem dumpable_list (h : Determined document) (values : List α) :
    (Json.arr (values.map document)).dumpable = true := by
  rw [dumpable_arr, List.forall_mem_map]
  exact fun value _ => h.dumpable value

/-- The text of a list of documents determines the values. -/
theorem list (h : Determined document) {left right : List α}
    (htext : encode (.arr (left.map document)) = encode (.arr (right.map document))) :
    left = right := by
  have hitems := encode_items (h.dumpable_list left) (h.dumpable_list right) htext
  rw [List.map_map, List.map_map] at hitems
  exact List.map_injective_iff.mpr (fun a b hab => h.injective a b hab) hitems

/-- Lists of documents are equal when their texts are. -/
theorem list_inj (h : Determined document) {left right : List α} :
    encode (.arr (left.map document)) = encode (.arr (right.map document)) ↔ left = right :=
  ⟨h.list, fun heq => by rw [heq]⟩

/-- A document with fixed keys is determined when the texts of its fields determine it. -/
theorem record (keys : List PyStr) (fields : α → List Json) (hkeys : keys.Nodup)
    (hdocument : ∀ a, document a = .obj (keys.zip (fields a)))
    (hlength : ∀ a, (fields a).length = keys.length)
    (hdumpable : ∀ a, ∀ field ∈ fields a, field.dumpable = true)
    (hinjective : ∀ a b, (fields a).map encode = (fields b).map encode → a = b) :
    Determined document := by
  have hfirst : ∀ a, (keys.zip (fields a)).map Prod.fst = keys := fun a =>
    List.map_fst_zip (by rw [hlength])
  have hsecond : ∀ a, (keys.zip (fields a)).map Prod.snd = fields a := fun a =>
    List.map_snd_zip (by rw [hlength])
  have hprintable : ∀ a, (Json.obj (keys.zip (fields a))).dumpable = true := by
    intro a
    rw [dumpable_obj, hfirst]
    exact ⟨hkeys, fun entry hentry => hdumpable a _ (List.of_mem_zip hentry).2⟩
  constructor
  · intro a
    rw [hdocument]
    exact hprintable a
  · intro a b htext
    rw [hdocument, hdocument] at htext
    have hvalues := encode_values (hprintable a) (hprintable b) (by rw [hfirst, hfirst]) htext
    refine hinjective a b ?_
    rw [← hsecond a, ← hsecond b, List.map_map, List.map_map]
    exact hvalues

/-- Strings are determined by their text. -/
theorem str : Determined Json.str where
  dumpable := dumpable_str
  injective := fun _ _ h => encode_str_injective h

end Determined
end JsonText
end AyyoHumanoid
