import AyyoHumanoid.JsonFields
import AyyoHumanoid.SkillParameters

/-!
# Conformance and canonical texts

Whether a value conforms to a schema depends on its canonical text only, so the
order of the keys of its dictionaries does not matter.
-/

namespace AyyoHumanoid
namespace Skills

open PyText JsonText Json

section Shapes

variable {left right : Json}

/-- A value whose text is that of a dictionary is a dictionary. -/
theorem obj_of_encode {entries : List (PyStr × Json)} (hleft : (Json.obj entries).dumpable = true)
    (hright : right.dumpable = true) (h : encode (.obj entries) = encode right) :
    ∃ others, right = .obj others := by
  have hkeys := sortKeys_eq_of_encode_eq hleft hright h
  cases right with
  | obj others => exact ⟨others, rfl⟩
  | _ => simp [sortKeys] at hkeys

/-- A value whose text is that of a list is a list. -/
theorem arr_of_encode {items : List Json} (hleft : (Json.arr items).dumpable = true)
    (hright : right.dumpable = true) (h : encode (.arr items) = encode right) :
    ∃ others, right = .arr others := by
  have hkeys := sortKeys_eq_of_encode_eq hleft hright h
  cases right with
  | arr others => exact ⟨others, rfl⟩
  | _ => simp [sortKeys] at hkeys

/-- A value without parts is determined by its text. -/
theorem scalar_of_encode (hleft : left.dumpable = true) (hright : right.dumpable = true)
    (hobject : ∀ entries, left ≠ .obj entries) (harray : ∀ items, left ≠ .arr items)
    (h : encode left = encode right) : right = left := by
  have hkeys := sortKeys_eq_of_encode_eq hleft hright h
  cases left with
  | obj entries => exact absurd rfl (hobject entries)
  | arr items => exact absurd rfl (harray items)
  | _ => cases right <;> simp_all [sortKeys]

/-- Dictionaries with one text have the same keys. -/
theorem mem_keys_of_encode {entries others : List (PyStr × Json)}
    (hleft : (Json.obj entries).dumpable = true) (hright : (Json.obj others).dumpable = true)
    (h : encode (.obj entries) = encode (.obj others)) {key : PyStr} :
    key ∈ others.map Prod.fst ↔ key ∈ entries.map Prod.fst := by
  have hkeys := sortKeys_eq_of_encode_eq hleft hright h
  rw [sortKeys, sortKeys, Json.obj.injEq, sortKeysEntries_eq_map, sortKeysEntries_eq_map] at hkeys
  have hperm : (entries.map fun entry => (entry.1, entry.2.sortKeys)).Perm
      (others.map fun entry => (entry.1, entry.2.sortKeys)) := by
    refine (sortByKey_perm _).symm.trans ?_
    rw [hkeys]
    exact sortByKey_perm _
  have hnames := (hperm.map Prod.fst).mem_iff (a := key)
  simpa only [List.map_map, Function.comp_def] using hnames.symm

end Shapes

/-- Fitting a node depends on the keys of a dictionary and on its text. -/
theorem fits_of_encode {schema : ValueSchema} {entries others : List (PyStr × Json)}
    (hleft : (Json.obj entries).dumpable = true) (hright : (Json.obj others).dumpable = true)
    (h : encode (.obj entries) = encode (.obj others)) (hfits : Fits schema (.obj entries)) :
    Fits schema (.obj others) where
  type := by
    have htype := hfits.type
    cases hkind : schema.fields.valueType <;> simp_all [typeMatches]
  allowed := h ▸ hfits.allowed
  length := by
    intro text htext
    cases htext
  number := by
    intro number hnumber
    cases number <;> cases hnumber
  items := by
    intro items hitems
    cases hitems
  required := by
    intro found hfound property hproperty hrequired
    rw [Json.obj.injEq] at hfound
    subst hfound
    rw [mem_keys_of_encode hleft hright h]
    exact hfits.required entries rfl property hproperty hrequired
  declared := by
    intro found hfound hclosed name hname
    rw [Json.obj.injEq] at hfound
    subst hfound
    rw [mem_keys_of_encode hleft hright h] at hname
    exact hfits.declared entries rfl hclosed name hname

/-- Fitting a node depends on the length of a list and on its text. -/
theorem fits_of_items {schema : ValueSchema} {items others : List Json}
    (hlength : others.length = items.length) (h : encode (.arr items) = encode (.arr others))
    (hfits : Fits schema (.arr items)) : Fits schema (.arr others) where
  type := by
    have htype := hfits.type
    cases hkind : schema.fields.valueType <;> simp_all [typeMatches]
  allowed := h ▸ hfits.allowed
  length := by
    intro text htext
    cases htext
  number := by
    intro number hnumber
    cases number <;> cases hnumber
  items := by
    intro found hfound
    rw [Json.arr.injEq] at hfound
    rw [← hfound, hlength]
    exact hfits.items items rfl
  required := by
    intro entries hentries
    cases hentries
  declared := by
    intro entries hentries
    cases hentries

/-- Conformance depends on the canonical text of the value only. -/
theorem Conforms.of_encode {schema : ValueSchema} {value other : Json}
    (hconforms : Conforms schema value) (hvalue : value.dumpable = true)
    (hother : other.dumpable = true) (h : encode value = encode other) :
    Conforms schema other := by
  induction hconforms generalizing other with
  | null nullable =>
    have hsame := scalar_of_encode hvalue hother (fun _ => nofun) (fun _ => nofun) h
    rw [hsame]
    exact .null nullable
  | @object schema entries fits parts ih =>
    obtain ⟨others, rfl⟩ := obj_of_encode hvalue hother h
    refine .object (fits_of_encode hvalue hother h fits) ?_
    intro property hproperty entry hentry hname
    have hkey : entry.1 ∈ entries.map Prod.fst :=
      (mem_keys_of_encode hvalue hother h).mp (List.mem_map_of_mem hentry)
    obtain ⟨found, hfound, hsame⟩ := List.mem_map.mp hkey
    have htext : encode found.2 = encode entry.2 := by
      have hvalueEntry : (entry.1, found.2) ∈ entries := by
        rw [← hsame]
        exact hfound
      exact encode_field hvalue hother h entry.1 hvalueEntry hentry
    exact ih property hproperty found hfound (hname.trans hsame.symm)
      ((dumpable_obj.mp hvalue).2 found hfound) ((dumpable_obj.mp hother).2 entry hentry) htext
  | @array schema items fits parts ih =>
    obtain ⟨others, rfl⟩ := arr_of_encode hvalue hother h
    have htexts := encode_items hvalue hother h
    have hlength : others.length = items.length := by
      have hmapped := congrArg List.length htexts
      simpa using hmapped.symm
    refine .array (fits_of_items hlength h fits) ?_
    intro itemSchema hitem item hmem
    obtain ⟨index, hindex, rfl⟩ := List.getElem_of_mem hmem
    have hfound : index < items.length := hlength ▸ hindex
    have htext : encode items[index] = encode others[index] := by
      have hmapped := congrArg (fun texts => texts[index]?) htexts
      simpa [hindex, hfound] using hmapped
    exact ih itemSchema hitem items[index] (List.getElem_mem hfound)
      (dumpable_arr.mp hvalue _ (List.getElem_mem hfound))
      (dumpable_arr.mp hother _ (List.getElem_mem hindex)) htext
  | @scalar schema value fits object array =>
    rw [scalar_of_encode hvalue hother object array h]
    exact .scalar fits object array

end Skills
end AyyoHumanoid
