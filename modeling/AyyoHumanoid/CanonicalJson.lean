import AyyoHumanoid.ContractCanonical
import AyyoHumanoid.SafetyModels

/-!
# Canonical JSON

The skill manager, the runtime bridge, the safety kernel and the executive name
their documents by digests of canonical text. Each writes it with an explicit
stack, after a check of its own limits. The text is that of the recursive
encoder with sorted keys, it reads back as the value, and two values have one
text exactly when they are equal up to the order of keys.
-/

namespace AyyoHumanoid

open PyText JsonText

namespace Json

/-- Equal up to the order of keys. -/
inductive SameJson : Json → Json → Prop where
  | null : SameJson .null .null
  /-- A truth value. -/
  | bool (value : Bool) : SameJson (.bool value) (.bool value)
  /-- An integer. -/
  | int (value : Int) : SameJson (.int value) (.int value)
  | float (value : FloatToken) : SameJson (.float value) (.float value)
  /-- A string. -/
  | str (value : PyStr) : SameJson (.str value) (.str value)
  /-- Lists of one length, item by item. -/
  | arr (left right : List Json) (hlength : left.length = right.length)
      (hitems : ∀ i (h : i < left.length) (h' : i < right.length), SameJson left[i] right[i]) :
      SameJson (.arr left) (.arr right)
  /-- Dictionaries with the same keys, key by key. -/
  | obj (left right : List (PyStr × Json))
      (hkeys : (left.map Prod.fst).Perm (right.map Prod.fst))
      (hvalues : ∀ key value other, (key, value) ∈ left → (key, other) ∈ right →
        SameJson value other) :
      SameJson (.obj left) (.obj right)

/-- Every dictionary has unique keys. -/
def Keyed (value : Json) : Prop :=
  ∀ visit ∈ value.visits 0, ∀ entries, visit.1 = .obj entries → (entries.map Prod.fst).Nodup

/-- The dictionaries of a list are those of its items. -/
theorem Keyed.item {items : List Json} (h : Keyed (.arr items)) {item : Json}
    (hmem : item ∈ items) : Keyed item := by
  intro visit hvisit entries heq
  have hvalue : visit.1 ∈ (visits 1 item).map Prod.fst := by
    rw [visits_values item 1 0]
    exact List.mem_map_of_mem hvisit
  obtain ⟨deeper, hdeeper, hsame⟩ := List.mem_map.mp hvalue
  refine h deeper ?_ entries (hsame.trans heq)
  rw [visits_eq]
  exact List.mem_cons_of_mem _ (List.mem_flatMap.mpr ⟨item, hmem, hdeeper⟩)

/-- The dictionaries of a dictionary are itself and those of its values. -/
theorem Keyed.entries {entries : List (PyStr × Json)} (h : Keyed (.obj entries)) :
    (entries.map Prod.fst).Nodup ∧ ∀ entry ∈ entries, Keyed entry.2 := by
  constructor
  · refine h (.obj entries, 0) ?_ entries rfl
    rw [visits_eq]
    exact List.mem_cons_self
  · intro entry hentry visit hvisit inner heq
    have hvalue : visit.1 ∈ (visits 1 entry.2).map Prod.fst := by
      rw [visits_values entry.2 1 0]
      exact List.mem_map_of_mem hvisit
    obtain ⟨deeper, hdeeper, hsame⟩ := List.mem_map.mp hvalue
    refine h deeper ?_ inner (hsame.trans heq)
    rw [visits_eq]
    exact List.mem_cons_of_mem _
      (List.mem_flatMap.mpr ⟨entry.2, List.mem_map_of_mem hentry, hdeeper⟩)

end Json

namespace JsonText

open Json

section Order

/-- Entries with distinct keys have one order by key. -/
theorem sortByKey_eq_of_perm {left right : List (PyStr × Json)} (h : left.Perm right)
    (hnodup : (left.map Prod.fst).Nodup) : sortByKey left = sortByKey right := by
  have hperm : (sortByKey left).Perm (sortByKey right) :=
    (sortByKey_perm left).trans (h.trans (sortByKey_perm right).symm)
  have htotal : Std.Total fun left right : PyStr × Json => left.1 ≤ right.1 :=
    ⟨fun left right => le_total left.1 right.1⟩
  have htrans : IsTrans (PyStr × Json) fun left right => left.1 ≤ right.1 :=
    ⟨fun _ _ _ hab hbc => le_trans hab hbc⟩
  refine hperm.eq_of_pairwise ?_ (List.pairwise_insertionSort _ left)
    (List.pairwise_insertionSort _ right)
  intro a b ha hb hle hge
  have hinj := List.inj_on_of_nodup_map hnodup
  exact hinj ((sortByKey_perm left).mem_iff.mp ha)
    (h.mem_iff.mpr ((sortByKey_perm right).mem_iff.mp hb)) (le_antisymm hle hge)

/-- The keys of entries do not change with their values. -/
theorem keys_sorted (entries : List (PyStr × Json)) :
    (entries.map fun entry => (entry.1, entry.2.sortKeys)).map Prod.fst = entries.map Prod.fst := by
  rw [List.map_map]
  rfl

/-- Entries that sort to the same have the same keys and, key by key, values that sort to the
same. -/
theorem entries_of_sorted {left right : List (PyStr × Json)} (hnodup : (right.map Prod.fst).Nodup)
    (h : sortByKey (sortKeysEntries left) = sortByKey (sortKeysEntries right)) :
    (left.map Prod.fst).Perm (right.map Prod.fst) ∧
      ∀ key value other, (key, value) ∈ left → (key, other) ∈ right →
        value.sortKeys = other.sortKeys := by
  rw [sortKeysEntries_eq_map, sortKeysEntries_eq_map] at h
  have hperm := (sortByKey_perm (left.map fun entry => (entry.1, entry.2.sortKeys))).symm
  rw [h] at hperm
  have hsorted := hperm.trans (sortByKey_perm _)
  constructor
  · have hkeys := hsorted.map Prod.fst
    rw [keys_sorted, keys_sorted] at hkeys
    exact hkeys
  · intro key value other hvalue hother
    have hmem : (key, value.sortKeys) ∈ right.map fun entry => (entry.1, entry.2.sortKeys) :=
      hsorted.mem_iff.mp (List.mem_map.mpr ⟨(key, value), hvalue, rfl⟩)
    obtain ⟨entry, hentry, heq⟩ := List.mem_map.mp hmem
    rw [Prod.mk.injEq] at heq
    have hsame := List.inj_on_of_nodup_map hnodup hentry hother heq.1
    rw [← heq.2, hsame]

/-- Entries with the same keys and values that sort to the same sort to the same. -/
theorem sorted_of_entries {left right : List (PyStr × Json)} (hnodup : (left.map Prod.fst).Nodup)
    (hkeys : (left.map Prod.fst).Perm (right.map Prod.fst))
    (hvalues : ∀ key value other, (key, value) ∈ left → (key, other) ∈ right →
      value.sortKeys = other.sortKeys) :
    sortByKey (sortKeysEntries left) = sortByKey (sortKeysEntries right) := by
  rw [sortKeysEntries_eq_map, sortKeysEntries_eq_map]
  have hleft : ((left.map fun entry => (entry.1, entry.2.sortKeys)).map Prod.fst).Nodup := by
    rw [keys_sorted]
    exact hnodup
  have hright : ((right.map fun entry => (entry.1, entry.2.sortKeys)).map Prod.fst).Nodup := by
    rw [keys_sorted]
    exact hkeys.nodup_iff.mp hnodup
  refine sortByKey_eq_of_perm ?_ hleft
  rw [List.perm_ext_iff_of_nodup hleft.of_map hright.of_map]
  rintro ⟨key, sorted⟩
  simp only [List.mem_map, Prod.mk.injEq]
  constructor
  · rintro ⟨⟨key', value⟩, hvalue, rfl, rfl⟩
    have hkey : key' ∈ right.map Prod.fst := hkeys.mem_iff.mp (List.mem_map_of_mem hvalue)
    obtain ⟨⟨key'', other⟩, hother, rfl⟩ := List.mem_map.mp hkey
    exact ⟨(key'', other), hother, rfl, (hvalues key'' value other hvalue hother).symm⟩
  · rintro ⟨⟨key', other⟩, hother, rfl, rfl⟩
    have hkey : key' ∈ left.map Prod.fst := hkeys.mem_iff.mpr (List.mem_map_of_mem hother)
    obtain ⟨⟨key'', value⟩, hvalue, rfl⟩ := List.mem_map.mp hkey
    exact ⟨(key'', value), hvalue, rfl, hvalues key'' value other hvalue hother⟩

/-- Values that are equal up to the order of keys sort to the same. -/
theorem sortKeys_of_same {left right : Json} (h : SameJson left right) (hkeyed : left.Keyed) :
    left.sortKeys = right.sortKeys := by
  induction h with
  | null | bool _ | int _ | float _ | str _ => rfl
  | arr left right hlength _ ih =>
    rw [sortKeys, sortKeys, sortKeysItems_eq_map, sortKeysItems_eq_map]
    refine congrArg Json.arr (List.ext_getElem (by simpa using hlength) fun i hi hi' => ?_)
    rw [List.length_map] at hi hi'
    rw [List.getElem_map, List.getElem_map]
    exact ih i hi hi' (hkeyed.item (List.getElem_mem hi))
  | obj left right hkeys _ ih =>
    obtain ⟨hnodup, hentries⟩ := hkeyed.entries
    rw [sortKeys, sortKeys]
    refine congrArg Json.obj (sorted_of_entries hnodup hkeys ?_)
    intro key value other hvalue hother
    exact ih key value other hvalue hother (hentries (key, value) hvalue)

/-- Values that sort to the same are equal up to the order of keys. -/
theorem same_of_sortKeys (left : Json) : ∀ right : Json, right.Keyed →
    left.sortKeys = right.sortKeys → SameJson left right := by
  induction left using Json.induct with
  | null =>
    intro right _ h
    cases right with
    | null => exact .null
    | _ => simp [sortKeys] at h
  | bool value =>
    intro right _ h
    cases right with
    | bool other =>
      simp only [sortKeys, Json.bool.injEq] at h
      rw [h]
      exact .bool other
    | _ => simp [sortKeys] at h
  | int value =>
    intro right _ h
    cases right with
    | int other =>
      simp only [sortKeys, Json.int.injEq] at h
      rw [h]
      exact .int other
    | _ => simp [sortKeys] at h
  | float value =>
    intro right _ h
    cases right with
    | float other =>
      simp only [sortKeys, Json.float.injEq] at h
      rw [h]
      exact .float other
    | _ => simp [sortKeys] at h
  | str value =>
    intro right _ h
    cases right with
    | str other =>
      simp only [sortKeys, Json.str.injEq] at h
      rw [h]
      exact .str other
    | _ => simp [sortKeys] at h
  | arr items ih =>
    intro right hkeyed h
    cases right with
    | arr others =>
      rw [sortKeys, sortKeys, Json.arr.injEq, sortKeysItems_eq_map, sortKeysItems_eq_map] at h
      have hlength := congrArg List.length h
      rw [List.length_map, List.length_map] at hlength
      refine .arr items others hlength fun i hi hi' => ?_
      have hitem : (items.map sortKeys)[i]? = (others.map sortKeys)[i]? := by rw [h]
      rw [List.getElem?_map, List.getElem?_map, List.getElem?_eq_getElem hi,
        List.getElem?_eq_getElem hi', Option.map_some, Option.map_some, Option.some.injEq] at hitem
      exact ih items[i] (List.getElem_mem hi) others[i] (hkeyed.item (List.getElem_mem hi')) hitem
    | _ => simp [sortKeys] at h
  | obj entries ih =>
    intro right hkeyed h
    cases right with
    | obj others =>
      obtain ⟨hnodup, hothers⟩ := hkeyed.entries
      rw [sortKeys, sortKeys, Json.obj.injEq] at h
      obtain ⟨hkeys, hvalues⟩ := entries_of_sorted hnodup h
      refine .obj entries others hkeys fun key value other hvalue hother => ?_
      exact ih (key, value) hvalue other (hothers (key, other) hother)
        (hvalues key value other hvalue hother)
    | _ => simp [sortKeys] at h

end Order

section Printing

/-- An integer of at most 13,000 bits has at most 4,300 digits. -/
theorem dumpable_of_bits {value : Int} (h : bitLength value ≤ maxIntegerBits) :
    (Json.int value).dumpable = true := by
  have hbits : value.natAbs < 2 ^ maxIntegerBits := Nat.size_le.mp h
  have hbase : 2 ^ 13 ≤ 10 ^ 4 := by decide
  have hpower : ∀ n : Nat, 2 ^ (13 * n) ≤ 10 ^ (4 * n) := by
    intro n
    rw [pow_mul, pow_mul]
    exact Nat.pow_le_pow_left hbase n
  have htwo : maxIntegerBits = 13 * 1000 := by rw [maxIntegerBits]
  have hten : 4 * 1000 = 3999 + 1 := by decide
  have hbound := hpower 1000
  rw [← htwo, hten] at hbound
  have hlength := length_natDigitsFrom_le (value.natAbs + 1) value.natAbs 3999
    (hbits.trans_le hbound)
  rw [dumpable, natDigits, decide_eq_true_eq, maxIntDigits]
  omega

/-- A value with unique keys and integers of few bits can be printed. -/
theorem dumpable_of_keyed {value : Json} (hkeyed : value.Keyed)
    (hbits : ∀ visit ∈ value.visits 0, ∀ number, visit.1 = .int number →
      bitLength number ≤ maxIntegerBits) : value.dumpable = true := by
  have hinside : ∀ {value child : Json}, child ∈ value.children →
      (∀ visit ∈ value.visits 0, ∀ number, visit.1 = .int number →
        bitLength number ≤ maxIntegerBits) →
      ∀ visit ∈ child.visits 0, ∀ number, visit.1 = .int number →
        bitLength number ≤ maxIntegerBits := by
    intro value child hchild hall visit hvisit number heq
    have hvalue : visit.1 ∈ (visits 1 child).map Prod.fst := by
      rw [visits_values child 1 0]
      exact List.mem_map_of_mem hvisit
    obtain ⟨deeper, hdeeper, hsame⟩ := List.mem_map.mp hvalue
    refine hall deeper ?_ number (hsame.trans heq)
    rw [visits_eq]
    exact List.mem_cons_of_mem _ (List.mem_flatMap.mpr ⟨child, hchild, hdeeper⟩)
  induction value using Json.induct with
  | null | bool _ | float _ | str _ => rfl
  | int number =>
    refine dumpable_of_bits (hbits (.int number, 0) ?_ number rfl)
    rw [visits_eq]
    exact List.mem_cons_self
  | arr items ih =>
    rw [dumpable_arr]
    intro item hitem
    have hchild : item ∈ (Json.arr items).children := hitem
    exact ih item hitem (hkeyed.item hitem) (hinside hchild hbits)
  | obj entries ih =>
    obtain ⟨hnodup, hentries⟩ := hkeyed.entries
    rw [dumpable_obj]
    refine ⟨hnodup, fun entry hentry => ih entry hentry (hentries entry hentry) ?_⟩
    have hchild : entry.2 ∈ (Json.obj entries).children := List.mem_map_of_mem hentry
    exact hinside hchild hbits

/-- A document within the limits of the safety kernel or the executive can be printed. -/
theorem Within.dumpable {limits : JsonLimits} {value : Json} (h : Within limits value)
    (hkeyed : value.Keyed) : value.dumpable = true := by
  refine dumpable_of_keyed hkeyed fun visit hvisit number heq => ?_
  have hown := h.valid visit hvisit
  rw [heq] at hown
  exact hown

/-- A document within the limits of the skill manager or the runtime bridge can be printed. -/
theorem allowed_dumpable {value : Json} (h : Contracts.Allowed value) (hkeyed : value.Keyed) :
    value.dumpable = true := by
  refine dumpable_of_keyed hkeyed fun visit hvisit number heq => ?_
  have hown := h.own visit hvisit
  rw [heq] at hown
  have hfew : bitLength number ≤ Contracts.maxJsonIntegerBits := hown
  rw [Contracts.maxJsonIntegerBits] at hfew
  rw [maxIntegerBits]
  omega

end Printing

section Canonical

/-- A value whose dictionaries have unique keys, as Python's have. -/
structure PyJson where
  value : Json
  /-- Its keys are unique. -/
  keyed : value.Keyed

/-- What a canonicalizer does within its limits. -/
structure Canonicalizes {ε : Type} (accepts : Json → Prop) (canonicalize : Json → Except ε PyStr) :
    Prop where
  /-- Exactly the values within the limits have a text, that of the recursive encoder. -/
  text : ∀ value text, canonicalize value = .ok text ↔ accepts value ∧ encode value = text
  /-- The text reads back as the value. -/
  parses : ∀ (value : PyJson) (text : PyStr), canonicalize value.value = .ok text →
    ∃ parsed, loads FloatToken.read text = some parsed ∧ SameJson value.value parsed
  /-- Values have one text exactly when they are equal up to the order of keys. -/
  injective : ∀ (left right : PyJson) (text other : PyStr), canonicalize left.value = .ok text →
    canonicalize right.value = .ok other → (text = other ↔ SameJson left.value right.value)

/-- The dictionaries of a value that can be printed have unique keys. -/
theorem keyed_of_dumpable {value : Json} (h : value.dumpable = true) : value.Keyed := by
  have hstep : ∀ v : Json, (∀ entries, v = .obj entries → (entries.map Prod.fst).Nodup) →
      (∀ child ∈ v.children, Keyed child) → v.Keyed := by
    intro v hself hchildren visit hvisit entries heq
    rw [visits_eq] at hvisit
    rcases List.mem_cons.mp hvisit with rfl | hdeeper
    · exact hself entries heq
    · obtain ⟨child, hchild, hinside⟩ := List.mem_flatMap.mp hdeeper
      have hvalue : visit.1 ∈ (visits 0 child).map Prod.fst := by
        rw [visits_values child 0 1]
        exact List.mem_map_of_mem hinside
      obtain ⟨shallow, hshallow, hsame⟩ := List.mem_map.mp hvalue
      exact hchildren child hchild shallow hshallow entries (hsame.trans heq)
  induction value using Json.induct with
  | null | bool _ | int _ | float _ | str _ =>
    exact hstep _ (fun _ heq => by cases heq) fun child hchild => absurd hchild List.not_mem_nil
  | arr items ih =>
    rw [dumpable_arr] at h
    exact hstep _ (fun _ heq => by cases heq) fun child hchild => ih child hchild (h child hchild)
  | obj entries ih =>
    rw [dumpable_obj] at h
    refine hstep _ (fun others heq => ?_) fun child hchild => ?_
    · rw [← Json.obj.inj heq]
      exact h.1
    · obtain ⟨entry, hentry, rfl⟩ := List.mem_map.mp hchild
      exact ih entry hentry (h.2 entry hentry)

/-- Sorting keys changes nothing but their order. -/
theorem same_sortKeys {value : Json} (h : value.dumpable = true) : SameJson value value.sortKeys := by
  have hsorted := dumpable_sortKeys h
  refine same_of_sortKeys value value.sortKeys (keyed_of_dumpable hsorted) ?_
  exact sortKeys_eq_of_encode_eq h hsorted (encode_sortKeys value).symm

/-- Values that are equal up to the order of keys have one text, and no others have. -/
theorem encode_eq_iff_same {left right : Json} (hleft : left.dumpable = true)
    (hright : right.dumpable = true) : encode left = encode right ↔ SameJson left right := by
  constructor
  · intro htext
    exact same_of_sortKeys left right (keyed_of_dumpable hright)
      (sortKeys_eq_of_encode_eq hleft hright htext)
  · intro hsame
    have hsorted := sortKeys_of_same hsame (keyed_of_dumpable hleft)
    rw [← encode_sortKeys left, hsorted, encode_sortKeys]

/-- A canonicalizer that accepts printable values only and writes their text is correct. -/
theorem canonicalizes_of_text {ε : Type} {accepts : Json → Prop}
    {canonicalize : Json → Except ε PyStr}
    (htext : ∀ value text, canonicalize value = .ok text ↔ accepts value ∧ encode value = text)
    (hdumpable : ∀ {value}, accepts value → value.Keyed → value.dumpable = true) :
    Canonicalizes accepts canonicalize where
  text := htext
  parses := by
    intro value text h
    obtain ⟨haccepted, rfl⟩ := (htext _ _).mp h
    have hdump := hdumpable haccepted value.keyed
    exact ⟨_, loads_encode FloatToken.read_text hdump, same_sortKeys hdump⟩
  injective := by
    intro left right text other hleft hright
    obtain ⟨haccepted, rfl⟩ := (htext _ _).mp hleft
    obtain ⟨haccepted', rfl⟩ := (htext _ _).mp hright
    exact encode_eq_iff_same (hdumpable haccepted left.keyed) (hdumpable haccepted' right.keyed)

/-- The canonical JSON of all four packages is correct: of the skill manager and the runtime bridge
with their exceptions, of the safety kernel with the limits its callers name, and of the
executive. -/
theorem canonicalizeJson_correct {ε : Type} (error : PyStr → ε) (fieldName : PyStr)
    (safetyKind : Safety.SafetyErrorKind) (limits : JsonLimits)
    (executiveKind : Executive.ExecutiveErrorKind) :
    Canonicalizes Contracts.Allowed (Contracts.canonicalizeJson error fieldName) ∧
      Canonicalizes (Within limits) (Safety.canonicalize safetyKind limits fieldName) ∧
      Canonicalizes (Within .standard) (Executive.canonicalize executiveKind fieldName) := by
  refine ⟨canonicalizes_of_text (fun value text => Contracts.canonicalizeJson_ok) allowed_dumpable,
    canonicalizes_of_text (fun value text => ?_) Within.dumpable,
    canonicalizes_of_text (fun value text => ?_) Within.dumpable⟩
  · rw [Safety.canonicalize, Checks.mapError_ok, canonicalizeJson_ok]
  · rw [Executive.canonicalize, Checks.mapError_ok, canonicalizeJson_ok]

end Canonical

end JsonText
end AyyoHumanoid
