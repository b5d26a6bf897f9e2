import AyyoHumanoid.PyCollections

/-!
# Dictionaries

A `dict` keeps its entries in insertion order and never repeats a key. Storing
under a key that is present replaces the value where it stands, deleting drops
the entry, and a comprehension keeps some of the entries. Every operation is
described by what a lookup returns afterwards, so its users never look at the
entries.
-/

namespace AyyoHumanoid

/-- A Python `dict`. -/
structure PyDict (κ α : Type) where
  /-- `items()`, in insertion order. -/
  entries : List (κ × α)
  /-- No key repeats. -/
  nodup : (entries.map Prod.fst).Nodup
  deriving DecidableEq

namespace PyDict

variable {κ α : Type}

/-- `{}`. -/
def empty : PyDict κ α := ⟨[], List.nodup_nil⟩

/-- `keys()`. -/
def keys (d : PyDict κ α) : List κ := d.entries.map Prod.fst

/-- `values()`. -/
def values (d : PyDict κ α) : List α := d.entries.map Prod.snd

/-- `len(d)`. -/
def size (d : PyDict κ α) : Nat := d.entries.length

/-- `{key: value for key, value in d.items() if kept}`. -/
def keep (d : PyDict κ α) (kept : κ → α → Prop) [∀ k v, Decidable (kept k v)] : PyDict κ α :=
  ⟨d.entries.filter fun entry => kept entry.1 entry.2,
    d.nodup.sublist (List.filter_sublist.map Prod.fst)⟩

variable [DecidableEq κ]

/-- `d.get(key)`. -/
def get? (d : PyDict κ α) (key : κ) : Option α :=
  (d.entries.find? fun entry => entry.1 = key).map Prod.snd

/-- `del d[key]`, of a key that may be absent. -/
def remove (d : PyDict κ α) (key : κ) : PyDict κ α := d.keep fun other _ => other ≠ key

/-- The entries after `d[key] = value`. -/
def setEntries (key : κ) (value : α) : List (κ × α) → List (κ × α)
  | [] => [(key, value)]
  | entry :: entries =>
    if entry.1 = key then (key, value) :: entries else entry :: setEntries key value entries

/-- Storing keeps the keys in place and adds a missing one last. -/
theorem keys_setEntries (key : κ) (value : α) (entries : List (κ × α)) :
    (setEntries key value entries).map Prod.fst =
      if key ∈ entries.map Prod.fst then entries.map Prod.fst
      else entries.map Prod.fst ++ [key] := by
  induction entries with
  | nil => rfl
  | cons entry entries ih =>
    rw [setEntries]
    by_cases hkey : entry.1 = key
    · simp [hkey]
    · have hne : key ≠ entry.1 := fun heq => hkey heq.symm
      rw [if_neg hkey, List.map_cons, ih, List.map_cons]
      by_cases hmem : key ∈ entries.map Prod.fst
      · rw [if_pos hmem, if_pos (List.mem_cons_of_mem _ hmem)]
      · rw [if_neg hmem, if_neg (by simpa [hne] using hmem)]
        rfl

/-- Storing never repeats a key. -/
theorem nodup_setEntries {key : κ} {value : α} {entries : List (κ × α)}
    (h : (entries.map Prod.fst).Nodup) : ((setEntries key value entries).map Prod.fst).Nodup := by
  rw [keys_setEntries]
  by_cases hmem : key ∈ entries.map Prod.fst
  · rw [if_pos hmem]
    exact h
  · rw [if_neg hmem, List.nodup_append]
    exact ⟨h, List.nodup_singleton key, fun a ha b hb heq => hmem (by
      rw [List.mem_singleton.mp hb] at heq
      exact heq ▸ ha)⟩

/-- `d[key] = value`. -/
def set (d : PyDict κ α) (key : κ) (value : α) : PyDict κ α :=
  ⟨setEntries key value d.entries, nodup_setEntries d.nodup⟩

section Lookup

variable {d : PyDict κ α} {key other : κ} {value stored : α}

/-- A lookup finds exactly the entry of the key. -/
theorem get?_eq_some : d.get? key = some value ↔ (key, value) ∈ d.entries := by
  rw [get?, Option.map_eq_some_iff]
  constructor
  · rintro ⟨⟨k, v⟩, hfound, rfl⟩
    rw [PyCollections.find_eq_some_iff d.nodup] at hfound
    obtain ⟨hmem, hkey⟩ := hfound
    exact hkey ▸ hmem
  · intro hmem
    exact ⟨(key, value), (PyCollections.find_eq_some_iff d.nodup).mpr ⟨hmem, rfl⟩, rfl⟩

/-- A lookup finds nothing when no entry has the key. -/
theorem get?_eq_none : d.get? key = none ↔ key ∉ d.keys := by
  rw [keys, List.mem_map, Option.eq_none_iff_forall_ne_some]
  constructor
  · rintro hnone ⟨⟨k, v⟩, hmem, rfl⟩
    exact hnone v (get?_eq_some.mpr hmem)
  · intro hmissing v hfound
    exact hmissing ⟨(key, v), get?_eq_some.mp hfound, rfl⟩

/-- A key is present when a lookup finds a value. -/
theorem mem_keys : key ∈ d.keys ↔ ∃ v, d.get? key = some v := by
  rw [← Option.isSome_iff_exists, Option.isSome_iff_ne_none, ne_eq, get?_eq_none, not_not]

/-- The values are what lookups find. -/
theorem mem_values : value ∈ d.values ↔ ∃ k, d.get? k = some value := by
  rw [values, List.mem_map]
  constructor
  · rintro ⟨⟨k, v⟩, hmem, rfl⟩
    exact ⟨k, get?_eq_some.mpr hmem⟩
  · rintro ⟨k, hfound⟩
    exact ⟨(k, value), get?_eq_some.mp hfound, rfl⟩

/-- A comprehension is looked up among the kept entries. -/
theorem get?_keep_eq_some {kept : κ → α → Prop} [∀ k v, Decidable (kept k v)] :
    (d.keep kept).get? key = some value ↔ d.get? key = some value ∧ kept key value := by
  rw [get?_eq_some, get?_eq_some, keep, List.mem_filter, decide_eq_true_eq]

/-- A deleted key is not found. -/
@[simp] theorem get?_remove_self : (d.remove key).get? key = none := by
  rw [Option.eq_none_iff_forall_ne_some]
  intro v hfound
  exact (get?_keep_eq_some.mp hfound).2 rfl

/-- Deleting leaves the other keys alone. -/
theorem get?_remove_of_ne (h : other ≠ key) : (d.remove key).get? other = d.get? other := by
  refine Option.ext fun v => ?_
  rw [remove, get?_keep_eq_some]
  exact and_iff_left h

/-- What is found after a deletion was there and has another key. -/
theorem get?_remove_eq_some :
    (d.remove key).get? other = some value ↔ d.get? other = some value ∧ other ≠ key :=
  get?_keep_eq_some

/-- The entries after storing. -/
theorem mem_setEntries {entries : List (κ × α)} (h : (entries.map Prod.fst).Nodup) :
    (other, stored) ∈ setEntries key value entries ↔
      (other = key ∧ stored = value) ∨ (other ≠ key ∧ (other, stored) ∈ entries) := by
  induction entries with
  | nil => simp [setEntries]
  | cons entry entries ih =>
    rw [List.map_cons, List.nodup_cons] at h
    rw [setEntries]
    by_cases hkey : entry.1 = key
    · rw [if_pos hkey, List.mem_cons, List.mem_cons, Prod.mk.injEq]
      constructor
      · rintro (hnew | hold)
        · exact Or.inl hnew
        · refine Or.inr ⟨?_, Or.inr hold⟩
          rintro rfl
          exact h.1 (hkey ▸ List.mem_map_of_mem hold)
      · rintro (hnew | ⟨hne, rfl | hold⟩)
        · exact Or.inl hnew
        · exact absurd hkey hne
        · exact Or.inr hold
    · rw [if_neg hkey, List.mem_cons, List.mem_cons, ih h.2]
      constructor
      · rintro (rfl | hnew | ⟨hne, hold⟩)
        · exact Or.inr ⟨hkey, Or.inl rfl⟩
        · exact Or.inl hnew
        · exact Or.inr ⟨hne, Or.inr hold⟩
      · rintro (hnew | ⟨hne, rfl | hold⟩)
        · exact Or.inr (Or.inl hnew)
        · exact Or.inl rfl
        · exact Or.inr (Or.inr ⟨hne, hold⟩)

/-- A lookup after storing. -/
theorem get?_set : (d.set key value).get? other = if other = key then some value
    else d.get? other := by
  refine Option.ext fun stored => ?_
  rw [get?_eq_some, set, mem_setEntries d.nodup]
  by_cases hkey : other = key
  · rw [if_pos hkey]
    constructor
    · rintro (⟨-, rfl⟩ | ⟨hne, -⟩)
      · rfl
      · exact absurd hkey hne
    · intro hsome
      exact Or.inl ⟨hkey, (Option.some.inj hsome).symm⟩
  · rw [if_neg hkey, get?_eq_some]
    constructor
    · rintro (⟨heq, -⟩ | ⟨-, hmem⟩)
      · exact absurd heq hkey
      · exact hmem
    · intro hmem
      exact Or.inr ⟨hkey, hmem⟩

/-- A stored value is found. -/
@[simp] theorem get?_set_self : (d.set key value).get? key = some value := by
  rw [get?_set, if_pos rfl]

/-- Storing leaves the other keys alone. -/
theorem get?_set_of_ne (h : other ≠ key) : (d.set key value).get? other = d.get? other := by
  rw [get?_set, if_neg h]

/-- A key that is not deleted stays. -/
theorem mem_keys_remove (h : other ∈ d.keys) (hne : other ≠ key) : other ∈ (d.remove key).keys := by
  obtain ⟨v, hv⟩ := mem_keys.mp h
  exact mem_keys.mpr ⟨v, get?_remove_eq_some.mpr ⟨hv, hne⟩⟩

/-- A deleted key is gone. -/
theorem not_mem_keys_remove : key ∉ (d.remove key).keys := by
  rw [← get?_eq_none]
  exact get?_remove_self

/-- The keys after storing. -/
theorem mem_keys_set : other ∈ (d.set key value).keys ↔ other = key ∨ other ∈ d.keys := by
  rw [mem_keys, mem_keys, get?_set]
  by_cases hkey : other = key
  · simp [hkey]
  · simp [hkey]

/-- The keys of kept entries were there. -/
theorem mem_keys_of_keep {kept : κ → α → Prop} [∀ k v, Decidable (kept k v)]
    (h : other ∈ (d.keep kept).keys) : other ∈ d.keys := by
  obtain ⟨v, hv⟩ := mem_keys.mp h
  exact mem_keys.mpr ⟨v, (get?_keep_eq_some.mp hv).1⟩

end Lookup

section Loops

/-- `while condition: step`, run at most the given number of times. -/
def whileLoop {σ : Type} (condition : σ → Prop) [DecidablePred condition] (step : σ → σ) :
    Nat → σ → σ
  | 0, state => state
  | n + 1, state => if condition state then whileLoop condition step n (step state) else state

/-- What every step keeps holds after the loop. -/
theorem whileLoop_invariant {σ : Type} {condition : σ → Prop} [DecidablePred condition]
    {step : σ → σ} {P : σ → Prop}
    (hstep : ∀ state, condition state → P state → P (step state)) (n : Nat) :
    ∀ state, P state → P (whileLoop condition step n state) := by
  induction n with
  | zero => exact fun state h => h
  | succ n ih =>
    intro state h
    rw [whileLoop]
    by_cases hcondition : condition state
    · rw [if_pos hcondition]
      exact ih _ (hstep state hcondition h)
    · rw [if_neg hcondition]
      exact h

/-- A loop whose steps lower a measure ends when it may run that often. -/
theorem whileLoop_done {σ : Type} {condition : σ → Prop} [DecidablePred condition] {step : σ → σ}
    (measure : σ → Nat) (hstep : ∀ state, condition state → measure (step state) < measure state)
    (n : Nat) : ∀ state, measure state ≤ n → ¬condition (whileLoop condition step n state) := by
  induction n with
  | zero =>
    intro state hmeasure hcondition
    have hlower := hstep state hcondition
    omega
  | succ n ih =>
    intro state hmeasure
    rw [whileLoop]
    by_cases hcondition : condition state
    · rw [if_pos hcondition]
      have hlower := hstep state hcondition
      exact ih _ (by omega)
    · rw [if_neg hcondition]
      exact hcondition

section Once

variable {σ : Type} {condition : σ → Prop} [DecidablePred condition] {step : σ → σ} {n : Nat}
  {state : σ}

/-- A loop whose condition fails does nothing. -/
theorem whileLoop_skip (h : ¬condition state) : whileLoop condition step n state = state := by
  cases n with
  | zero => rfl
  | succ n => rw [whileLoop, if_neg h]

/-- A loop whose condition fails after one step makes one step. -/
theorem whileLoop_once (h : condition state) (hafter : ¬condition (step state)) (hn : 0 < n) :
    whileLoop condition step n state = step state := by
  cases n with
  | zero => omega
  | succ n => rw [whileLoop, if_pos h, whileLoop_skip hafter]

end Once

end Loops

section Size

omit [DecidableEq κ] in
/-- There are as many keys as entries. -/
theorem length_keys (d : PyDict κ α) : d.keys.length = d.size := List.length_map _

omit [DecidableEq κ] in
/-- A comprehension is not larger. -/
theorem size_keep_le (d : PyDict κ α) (kept : κ → α → Prop) [∀ k v, Decidable (kept k v)] :
    (d.keep kept).size ≤ d.size :=
  List.length_filter_le _ _

/-- Storing adds at most one entry. -/
theorem size_set_le (d : PyDict κ α) (key : κ) (value : α) :
    (d.set key value).size ≤ d.size + 1 := by
  rw [← length_keys, ← length_keys, keys, keys, set, keys_setEntries]
  split
  · omega
  · rw [List.length_append, List.length_singleton]

/-- Storing under a new key adds an entry. -/
theorem size_set_of_not_mem {d : PyDict κ α} {key : κ} (h : key ∉ d.keys) (value : α) :
    (d.set key value).size = d.size + 1 := by
  rw [keys] at h
  rw [← length_keys, ← length_keys, keys, keys, set, keys_setEntries, if_neg h, List.length_append,
    List.length_singleton]

/-- A comprehension that keeps every entry changes nothing. -/
theorem keep_eq_self {d : PyDict κ α} {kept : κ → α → Prop} [∀ k v, Decidable (kept k v)]
    (h : ∀ key value, d.get? key = some value → kept key value) : d.keep kept = d := by
  have hentries : (d.keep kept).entries = d.entries :=
    List.filter_eq_self.mpr fun entry hentry =>
      decide_eq_true (h entry.1 entry.2 (get?_eq_some.mpr hentry))
  cases hkept : d.keep kept
  cases d
  rw [hkept] at hentries
  simp only at hentries
  subst hentries
  rfl

/-- Deleting a present key drops one entry. -/
theorem size_remove {d : PyDict κ α} {key : κ} (h : key ∈ d.keys) :
    (d.remove key).size + 1 = d.size := by
  have hkeys : (d.remove key).keys = d.keys.erase key := by
    have herase : d.keys.erase key = d.keys.filter (· != key) := d.nodup.erase_eq_filter key
    rw [herase, keys, keys, List.filter_map, remove, keep]
    refine congrArg (List.map Prod.fst) (List.filter_congr fun entry _ => ?_)
    rw [Bool.eq_iff_iff, decide_eq_true_eq, Function.comp_apply, bne_iff_ne]
  have hpos : 0 < d.keys.length := List.length_pos_of_mem h
  rw [← length_keys, hkeys, List.length_erase_of_mem h, ← length_keys]
  omega

end Size

section Least

variable {ρ : Type} [LinearOrder ρ]

/-- `min(d, key=rank)`, of a dictionary that may be empty. -/
def least (rank : κ → α → ρ) (d : PyDict κ α) : Option κ :=
  ((PyCollections.sortBy (fun entry => rank entry.1 entry.2) d.entries).head?).map Prod.fst

omit [DecidableEq κ] in
/-- A dictionary without a least key is empty. -/
theorem least_eq_none {rank : κ → α → ρ} {d : PyDict κ α} (h : d.least rank = none) :
    d.size = 0 := by
  rw [least, Option.map_eq_none_iff, List.head?_eq_none_iff] at h
  have hlength := PyCollections.length_sortBy (fun entry => rank entry.1 entry.2) d.entries
  rw [h] at hlength
  exact hlength.symm

/-- The least key is present and no other key ranks below it. -/
theorem least_eq_some {rank : κ → α → ρ} {d : PyDict κ α} {key : κ} (h : d.least rank = some key) :
    ∃ value, d.get? key = some value ∧
      ∀ other stored, d.get? other = some stored → rank key value ≤ rank other stored := by
  rw [least, Option.map_eq_some_iff] at h
  obtain ⟨⟨k, v⟩, hhead, rfl⟩ := h
  have hsorted := PyCollections.pairwise_sortBy (fun entry => rank entry.1 entry.2) d.entries
  obtain ⟨rest, hrest⟩ := List.head?_eq_some_iff.mp hhead
  have hmem : ∀ entry, entry ∈ d.entries ↔ entry ∈ (k, v) :: rest := fun entry => by
    rw [← hrest, PyCollections.mem_sortBy]
  refine ⟨v, get?_eq_some.mpr ((hmem _).mpr (List.mem_cons_self)), ?_⟩
  intro other stored hstored
  rw [hrest, List.pairwise_cons] at hsorted
  rcases List.mem_cons.mp ((hmem _).mp (get?_eq_some.mp hstored)) with heq | hlater
  · rw [Prod.mk.injEq] at heq
    rw [heq.1, heq.2]
  · exact hsorted.1 _ hlater

/-- `del d[min(d, key=rank)]`. -/
def removeLeast (rank : κ → α → ρ) (d : PyDict κ α) : PyDict κ α :=
  match d.least rank with
  | some key => d.remove key
  | none => d

/-- What is found without the least entry was there. -/
theorem get?_of_removeLeast {rank : κ → α → ρ} {d : PyDict κ α} {key : κ} {value : α}
    (h : (d.removeLeast rank).get? key = some value) : d.get? key = some value := by
  rw [removeLeast] at h
  cases hleast : d.least rank with
  | none =>
    rw [hleast] at h
    exact h
  | some oldest =>
    rw [hleast] at h
    exact (get?_remove_eq_some.mp h).1

/-- A dictionary that is not empty gets smaller. -/
theorem size_removeLeast {rank : κ → α → ρ} {d : PyDict κ α} (h : 0 < d.size) :
    (d.removeLeast rank).size < d.size := by
  rw [removeLeast]
  cases hleast : d.least rank with
  | none =>
    have hzero := least_eq_none hleast
    omega
  | some oldest =>
    obtain ⟨value, hvalue, -⟩ := least_eq_some hleast
    have hsize := size_remove (mem_keys.mpr ⟨value, hvalue⟩)
    simp only
    omega

/-- `while len(d) > limit: del d[min(d, key=rank)]`. -/
def trim (rank : κ → α → ρ) (limit : Nat) (d : PyDict κ α) : PyDict κ α :=
  whileLoop (fun d => limit < d.size) (removeLeast rank) d.size d

/-- A trimmed dictionary is within the limit. -/
theorem size_trim (rank : κ → α → ρ) (limit : Nat) (d : PyDict κ α) :
    (d.trim rank limit).size ≤ limit := by
  have hlower : ∀ state : PyDict κ α, limit < state.size →
      (state.removeLeast rank).size < state.size := fun state hover =>
    size_removeLeast (by omega)
  exact Nat.le_of_not_lt (whileLoop_done size hlower d.size d (le_refl _))

/-- A dictionary within the limit is not trimmed. -/
theorem trim_eq_self {rank : κ → α → ρ} {limit : Nat} {d : PyDict κ α} (h : d.size ≤ limit) :
    d.trim rank limit = d :=
  whileLoop_skip (Nat.not_lt.mpr h)

/-- What is found in a trimmed dictionary was there. -/
theorem get?_of_trim {rank : κ → α → ρ} {limit : Nat} {d : PyDict κ α} {key : κ} {value : α} :
    (d.trim rank limit).get? key = some value → d.get? key = some value :=
  whileLoop_invariant (P := fun state : PyDict κ α =>
    state.get? key = some value → d.get? key = some value)
    (fun _ _ h hfound => h (get?_of_removeLeast hfound)) d.size d fun h => h

/-- What is found after a value was stored and the dictionary trimmed. -/
theorem get?_set_trim {rank : κ → α → ρ} {limit : Nat} {d : PyDict κ α} {key other : κ}
    {value found : α} (h : ((d.set key value).trim rank limit).get? other = some found) :
    d.get? other = some found ∨ found = value := by
  have hset := get?_of_trim h
  rw [get?_set] at hset
  by_cases hkey : other = key
  · rw [if_pos hkey] at hset
    exact Or.inr (Option.some.inj hset).symm
  · rw [if_neg hkey] at hset
    exact Or.inl hset

end Least

end PyDict
end AyyoHumanoid
