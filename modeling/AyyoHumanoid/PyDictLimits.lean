import AyyoHumanoid.PyDict
import Mathlib.Data.List.Perm.Subperm

/-!
# Dictionaries of limited size

A dictionary that has grown over its limit loses the entries that rank lowest.
Its users only need that the remaining entries are the greatest ones, that this
stays so when an entry is replaced by a greater one or low entries are dropped,
and that the greatest entries of a dictionary are determined by it.
-/

namespace AyyoHumanoid
namespace PyDict

variable {κ α ρ : Type} [DecidableEq κ]

section Pairs

omit [DecidableEq κ] in
/-- A dictionary is determined by its entries. -/
theorem eq_of_entries {d other : PyDict κ α} (h : d.entries = other.entries) : d = other := by
  cases d
  cases other
  cases h
  rfl

/-- `{key: value for key, value in pairs}`: of equal keys the last one counts. -/
def ofPairs (pairs : List (κ × α)) : PyDict κ α :=
  pairs.foldl (fun d pair => d.set pair.1 pair.2) empty

/-- What is found after storing pairs was there or is one of them. -/
theorem get?_foldl_set {pairs : List (κ × α)} {d : PyDict κ α} {key : κ} {value : α}
    (h : (pairs.foldl (fun d pair => d.set pair.1 pair.2) d).get? key = some value) :
    (key, value) ∈ pairs ∨ d.get? key = some value := by
  induction pairs generalizing d with
  | nil => exact Or.inr h
  | cons pair pairs ih =>
    rcases ih h with hlater | hset
    · exact Or.inl (List.mem_cons_of_mem _ hlater)
    · rw [get?_set] at hset
      by_cases hkey : key = pair.1
      · rw [if_pos hkey, Option.some.injEq] at hset
        refine Or.inl (List.mem_cons.mpr (Or.inl ?_))
        rw [hkey, ← hset]
      · rw [if_neg hkey] at hset
        exact Or.inr hset

/-- The keys after storing pairs. -/
theorem mem_keys_foldl_set {pairs : List (κ × α)} {d : PyDict κ α} {key : κ} :
    key ∈ (pairs.foldl (fun d pair => d.set pair.1 pair.2) d).keys ↔
      (∃ value, (key, value) ∈ pairs) ∨ key ∈ d.keys := by
  induction pairs generalizing d with
  | nil => simp
  | cons pair pairs ih =>
    rw [List.foldl_cons, ih, mem_keys_set]
    constructor
    · rintro (⟨value, hlater⟩ | rfl | hbefore)
      · exact Or.inl ⟨value, List.mem_cons_of_mem _ hlater⟩
      · exact Or.inl ⟨pair.2, List.mem_cons_self⟩
      · exact Or.inr hbefore
    · rintro (⟨value, hmem⟩ | hbefore)
      · rcases List.mem_cons.mp hmem with heq | hlater
        · exact Or.inr (Or.inl (congrArg Prod.fst heq))
        · exact Or.inl ⟨value, hlater⟩
      · exact Or.inr (Or.inr hbefore)

/-- A lookup finds one of the pairs. -/
theorem mem_of_get?_ofPairs {pairs : List (κ × α)} {key : κ} {value : α}
    (h : (ofPairs pairs).get? key = some value) : (key, value) ∈ pairs := by
  rcases get?_foldl_set h with hmem | hnone
  · exact hmem
  · cases hnone

/-- The keys are those of the pairs. -/
theorem mem_keys_ofPairs {pairs : List (κ × α)} {key : κ} :
    key ∈ (ofPairs pairs).keys ↔ ∃ value, (key, value) ∈ pairs := by
  rw [ofPairs, mem_keys_foldl_set]
  have hempty : key ∉ (empty : PyDict κ α).keys := List.not_mem_nil
  exact or_iff_left hempty

end Pairs

section Excess

variable [LinearOrder ρ] {rank : κ → α → ρ} {limit : Nat} {d : PyDict κ α}

/-- `sorted(d.items(), key=rank)[: len(d) - limit]`, without the values. -/
def excess (rank : κ → α → ρ) (limit : Nat) (d : PyDict κ α) : List κ :=
  ((PyCollections.sortBy (fun entry => rank entry.1 entry.2) d.entries).take
    (d.size - limit)).map Prod.fst

/-- The dictionary after `del d[key]` for all the keys. -/
def dropAll (keys : List κ) (d : PyDict κ α) : PyDict κ α := d.keep fun key _ => key ∉ keys

/-- What is found after dropping keys. -/
theorem get?_dropAll {keys : List κ} {key : κ} {value : α} :
    (d.dropAll keys).get? key = some value ↔ d.get? key = some value ∧ key ∉ keys :=
  get?_keep_eq_some

/-- The entries that remain over the limit. -/
def keepGreatest (rank : κ → α → ρ) (limit : Nat) (d : PyDict κ α) : PyDict κ α :=
  d.dropAll (d.excess rank limit)

/-- A dictionary is as large as the keys it keeps. -/
theorem size_dropAll {keys : List κ} (hnodup : keys.Nodup) (hsub : ∀ key ∈ keys, key ∈ d.keys) :
    (d.dropAll keys).size + keys.length = d.size := by
  induction keys with
  | nil =>
    have hall : d.dropAll [] = d := keep_eq_self fun _ _ _ => List.not_mem_nil
    rw [hall]
    rfl
  | cons key keys ih =>
    rw [List.nodup_cons] at hnodup
    have hrest := ih hnodup.2 fun other hother => hsub other (List.mem_cons_of_mem _ hother)
    have hkey : key ∈ (d.dropAll keys).keys := by
      obtain ⟨value, hvalue⟩ := mem_keys.mp (hsub key List.mem_cons_self)
      exact mem_keys.mpr ⟨value, get?_dropAll.mpr ⟨hvalue, hnodup.1⟩⟩
    have hsame : d.dropAll (key :: keys) = (d.dropAll keys).remove key := by
      have hentries : (d.dropAll (key :: keys)).entries = ((d.dropAll keys).remove key).entries := by
        simp only [dropAll, remove, keep, List.filter_filter]
        refine List.filter_congr fun entry _ => ?_
        by_cases heq : entry.1 = key <;> simp [heq]
      exact eq_of_entries hentries
    have hsize := size_remove hkey
    rw [hsame, List.length_cons]
    omega

omit [DecidableEq κ] in
/-- The excess keys are distinct keys. -/
theorem excess_nodup (rank : κ → α → ρ) (limit : Nat) (d : PyDict κ α) :
    (d.excess rank limit).Nodup := by
  have hperm := (PyCollections.sortBy_perm (fun entry => rank entry.1 entry.2) d.entries).map Prod.fst
  have hnodup := hperm.nodup_iff.mpr d.nodup
  rw [excess, List.map_take]
  exact hnodup.sublist (List.take_sublist _ _)

omit [DecidableEq κ] in
/-- The excess keys are keys. -/
theorem mem_keys_of_excess {key : κ} (h : key ∈ d.excess rank limit) : key ∈ d.keys := by
  rw [excess, List.mem_map] at h
  obtain ⟨entry, hentry, rfl⟩ := h
  exact List.mem_map_of_mem (PyCollections.mem_sortBy.mp (List.mem_of_mem_take hentry))

omit [DecidableEq κ] in
/-- There are as many excess keys as entries over the limit. -/
theorem length_excess : (d.excess rank limit).length = d.size - limit := by
  rw [excess, List.length_map, List.length_take, PyCollections.length_sortBy]
  exact min_eq_left (Nat.sub_le _ _)

/-- Only the entries over the limit are lost. -/
theorem size_keepGreatest (rank : κ → α → ρ) (limit : Nat) (d : PyDict κ α) :
    (d.keepGreatest rank limit).size = min d.size limit := by
  have hsize := size_dropAll (excess_nodup rank limit d) fun key hkey => mem_keys_of_excess hkey
  rw [length_excess] at hsize
  rw [keepGreatest]
  omega

/-- A dictionary within the limit loses nothing. -/
theorem keepGreatest_eq_self (h : d.size ≤ limit) : d.keepGreatest rank limit = d := by
  have hnone : d.excess rank limit = [] := by
    rw [← List.length_eq_zero_iff, length_excess]
    omega
  rw [keepGreatest, hnone]
  exact keep_eq_self fun _ _ _ => List.not_mem_nil

/-- A lost entry ranks at most as high as a kept one. -/
theorem rank_le_of_excess {key other : κ} {value stored : α} (hlost : key ∈ d.excess rank limit)
    (hvalue : d.get? key = some value)
    (hkept : (d.keepGreatest rank limit).get? other = some stored) :
    rank key value ≤ rank other stored := by
  obtain ⟨hstored, hremains⟩ := get?_dropAll.mp hkept
  have hsorted := PyCollections.pairwise_sortBy (fun entry => rank entry.1 entry.2) d.entries
  rw [← List.take_append_drop (d.size - limit)
    (PyCollections.sortBy (fun entry => rank entry.1 entry.2) d.entries),
    List.pairwise_append] at hsorted
  rw [excess, List.mem_map] at hlost hremains
  obtain ⟨entry, hentry, rfl⟩ := hlost
  have hfound : d.get? entry.1 = some entry.2 :=
    get?_eq_some.mpr (PyCollections.mem_sortBy.mp (List.mem_of_mem_take hentry))
  have hsame : entry.2 = value := Option.some.inj (hfound.symm.trans hvalue)
  have hother : (other, stored) ∈
      PyCollections.sortBy (fun entry => rank entry.1 entry.2) d.entries :=
    PyCollections.mem_sortBy.mpr (get?_eq_some.mp hstored)
  rw [← List.take_append_drop (d.size - limit)
    (PyCollections.sortBy (fun entry => rank entry.1 entry.2) d.entries),
    List.mem_append] at hother
  rcases hother with htake | hdrop
  · exact absurd ⟨(other, stored), htake, rfl⟩ hremains
  · rw [← hsame]
    exact hsorted.2.2 entry hentry (other, stored) hdrop

end Excess

section Greatest

variable [LinearOrder ρ] {rank : κ → α → ρ} {limit : Nat} {all kept : PyDict κ α}

/-- The kept entries are the greatest ones of all, as many as the limit allows. -/
structure KeepsGreatest (rank : κ → α → ρ) (limit : Nat) (all kept : PyDict κ α) : Prop where
  /-- Nothing is made up. -/
  sub : ∀ key value, kept.get? key = some value → all.get? key = some value
  bounded : kept.size ≤ limit
  /-- An entry is missing only when the limit is reached by greater ones. -/
  outranked : ∀ key value, all.get? key = some value → kept.get? key = none →
    kept.size = limit ∧
      ∀ other stored, kept.get? other = some stored → rank key value < rank other stored

/-- Entries with different keys rank differently. -/
def Separates (rank : κ → α → ρ) : Prop :=
  ∀ key value other stored, rank key value = rank other stored → key = other

/-- A lost entry ranks below a kept one. -/
theorem rank_lt_of_excess (hrank : Separates rank) {d : PyDict κ α} {key other : κ}
    {value stored : α} (hlost : key ∈ d.excess rank limit) (hvalue : d.get? key = some value)
    (hkept : (d.keepGreatest rank limit).get? other = some stored) :
    rank key value < rank other stored := by
  refine lt_of_le_of_ne (rank_le_of_excess hlost hvalue hkept) fun heq => ?_
  have hsame := hrank _ _ _ _ heq
  rw [hsame] at hlost
  exact (get?_dropAll.mp hkept).2 hlost

/-- A lookup that fails after dropping the excess is of an excess key. -/
theorem mem_excess_of_get?_eq_none {d : PyDict κ α} {key : κ} {value : α}
    (hvalue : d.get? key = some value) (hlost : (d.keepGreatest rank limit).get? key = none) :
    key ∈ d.excess rank limit := by
  by_contra hremains
  have hfound := get?_dropAll.mpr ⟨hvalue, hremains⟩
  rw [keepGreatest, hfound] at hlost
  cases hlost

/-- Dropping the excess keeps the greatest entries. -/
theorem keepsGreatest_keepGreatest (hrank : Separates rank) (limit : Nat) (d : PyDict κ α) :
    KeepsGreatest rank limit d (d.keepGreatest rank limit) where
  sub := fun _ _ h => (get?_dropAll.mp h).1
  bounded := by
    rw [size_keepGreatest]
    exact min_le_right _ _
  outranked := by
    intro key value hvalue hlost
    have hexcess := mem_excess_of_get?_eq_none hvalue hlost
    have hlength := List.length_pos_of_mem hexcess
    rw [length_excess] at hlength
    refine ⟨?_, fun other stored hstored => rank_lt_of_excess hrank hexcess hvalue hstored⟩
    rw [size_keepGreatest]
    omega

/-- Storing does not make a dictionary smaller. -/
theorem size_le_size_set (d : PyDict κ α) (key : κ) (value : α) :
    d.size ≤ (d.set key value).size := by
  rw [← length_keys, ← length_keys, keys, keys, set, keys_setEntries]
  split
  · exact le_refl _
  · rw [List.length_append]
    omega

end Greatest

section Topped

variable [LinearOrder ρ] {rank : κ → α → ρ} {limit : Nat} {d : PyDict κ α} {key other : κ}
  {value : α} {bound : ρ}

/-- Every entry ranks above the bound, and there is no room for another one. -/
def Surpassed (rank : κ → α → ρ) (limit : Nat) (bound : ρ) (d : PyDict κ α) : Prop :=
  limit ≤ d.size ∧ ∀ other stored, d.get? other = some stored → bound < rank other stored

/-- The entry of a key ranks no lower than the bound, or every entry surpasses it. -/
def Topped (rank : κ → α → ρ) (limit : Nat) (key : κ) (bound : ρ) (d : PyDict κ α) : Prop :=
  (∃ value, d.get? key = some value ∧ bound ≤ rank key value) ∨ Surpassed rank limit bound d

/-- An entry that is dropped from the excess leaves greater ones. -/
theorem topped_keepGreatest (hrank : Separates rank) (hvalue : d.get? key = some value)
    (hbound : bound ≤ rank key value) :
    Topped rank limit key bound (d.keepGreatest rank limit) := by
  have hkept := keepsGreatest_keepGreatest hrank limit d
  cases hremains : (d.keepGreatest rank limit).get? key with
  | some stored =>
    have hsame : stored = value :=
      Option.some.inj ((hkept.sub key stored hremains).symm.trans hvalue)
    exact Or.inl ⟨stored, hremains, by rwa [hsame]⟩
  | none =>
    have hlost := hkept.outranked key value hvalue hremains
    have habove := hlost.2
    exact Or.inr ⟨le_of_eq hlost.1.symm, fun other stored hstored =>
      hbound.trans_lt (habove other stored hstored)⟩

/-- A new entry that stays in a full dictionary ranks above one that was there. -/
theorem exists_lt_of_stays (hfull : limit ≤ d.size) (hnew : d.get? key = none)
    (hstays : ((d.set key value).keepGreatest rank limit).get? key = some value) :
    ∃ lost old, d.get? lost = some old ∧ rank lost old ≤ rank key value := by
  have hsize := size_set_of_not_mem (get?_eq_none.mp hnew) value
  have hexcess : 0 < ((d.set key value).excess rank limit).length := by
    rw [length_excess]
    omega
  obtain ⟨lost, hmem⟩ := List.exists_mem_of_length_pos hexcess
  have hne : lost ≠ key := by
    intro heq
    rw [heq] at hmem
    exact (get?_dropAll.mp hstays).2 hmem
  obtain ⟨old, hold⟩ := mem_keys.mp (mem_keys_of_excess hmem)
  have hbelow := rank_le_of_excess hmem hold hstays
  rw [get?_set_of_ne hne] at hold
  exact ⟨lost, old, hold, hbelow⟩

/-- What is topped stays so when an entry is stored over a lower one. -/
theorem Topped.set (hrank : Separates rank) (h : Topped rank limit key bound d)
    (hgreater : ∀ old, d.get? other = some old → rank other old < rank other value) :
    Topped rank limit key bound ((d.set other value).keepGreatest rank limit) := by
  rcases h with ⟨old, hold, hbound⟩ | ⟨hfull, habove⟩
  · by_cases hkey : key = other
    · have hset : (d.set other value).get? key = some value := by
        rw [hkey, get?_set_self]
      have hlater : bound ≤ rank key value := by
        rw [hkey] at hold hbound ⊢
        exact hbound.trans (le_of_lt (hgreater old hold))
      exact topped_keepGreatest hrank hset hlater
    · have hset : (d.set other value).get? key = some old := by
        rw [get?_set_of_ne hkey, hold]
      exact topped_keepGreatest hrank hset hbound
  · have hsize := size_le_size_set d other value
    refine Or.inr ⟨?_, fun third stored hstored => ?_⟩
    · rw [size_keepGreatest]
      omega
    · have hthird := (get?_dropAll.mp hstored).1
      rw [get?_set] at hthird
      by_cases hkey : third = other
      · rw [if_pos hkey, Option.some.injEq] at hthird
        rw [hkey, ← hthird] at hstored ⊢
        cases hold : d.get? other with
        | some old => exact (habove other old hold).trans (hgreater old hold)
        | none =>
          obtain ⟨lost, found, hfound, hbelow⟩ := exists_lt_of_stays hfull hold hstored
          exact (habove lost found hfound).trans_le hbelow
      · rw [if_neg hkey] at hthird
        exact habove third stored hthird

/-- What is topped stays so when only entries below the bound are dropped. -/
theorem Topped.keep (h : Topped rank limit key bound d) {high : κ → α → Prop}
    [∀ key value, Decidable (high key value)]
    (hhigh : ∀ other stored, bound ≤ rank other stored → high other stored) :
    Topped rank limit key bound (d.keep high) := by
  rcases h with ⟨value, hvalue, hbound⟩ | ⟨hfull, habove⟩
  · exact Or.inl ⟨value, get?_keep_eq_some.mpr ⟨hvalue, hhigh key value hbound⟩, hbound⟩
  · have hsame : d.keep high = d := keep_eq_self fun other stored hstored =>
      hhigh other stored (le_of_lt (habove other stored hstored))
    rw [hsame]
    exact Or.inr ⟨hfull, habove⟩

/-- A new entry that ranks no higher than the bound is lost at once. -/
theorem Surpassed.lost (h : Surpassed rank limit bound d) (hnew : d.get? key = none)
    (hlow : rank key value ≤ bound) :
    ((d.set key value).keepGreatest rank limit).get? key = none := by
  rw [Option.eq_none_iff_forall_ne_some]
  intro stored hstored
  have hset := (get?_dropAll.mp hstored).1
  rw [get?_set_self, Option.some.injEq] at hset
  rw [← hset] at hstored
  obtain ⟨lost, old, hold, hbelow⟩ := exists_lt_of_stays h.1 hnew hstored
  have habove := h.2 lost old hold
  exact absurd (habove.trans_le (hbelow.trans hlow)) (lt_irrefl _)

/-- What is topped stays so when the least entry of an overfull dictionary is dropped. -/
theorem Topped.removeLeast (hrank : Separates rank) (h : Topped rank limit key bound d)
    (hover : limit < d.size) : Topped rank limit key bound (d.removeLeast rank) := by
  rw [PyDict.removeLeast]
  cases hleast : d.least rank with
  | none =>
    have hempty := least_eq_none hleast
    omega
  | some lost =>
    obtain ⟨old, hold, hbelow⟩ := least_eq_some hleast
    have hsize := size_remove (mem_keys.mpr ⟨old, hold⟩)
    have hroom : limit ≤ (d.remove lost).size := by omega
    rcases h with ⟨value, hvalue, hbound⟩ | ⟨hfull, habove⟩
    · by_cases hkey : key = lost
      · refine Or.inr ⟨hroom, fun other stored hstored => ?_⟩
        obtain ⟨hfound, hne⟩ := get?_remove_eq_some.mp hstored
        have hsame : old = value := by
          rw [hkey, hold, Option.some.injEq] at hvalue
          exact hvalue
        rw [hsame, ← hkey] at hbelow
        have hle := hbelow other stored hfound
        have hneq : rank key value ≠ rank other stored := fun heq =>
          hne ((hrank _ _ _ _ heq).symm.trans hkey)
        exact hbound.trans_lt (lt_of_le_of_ne hle hneq)
      · exact Or.inl ⟨value, by rw [get?_remove_of_ne hkey, hvalue], hbound⟩
    · exact Or.inr ⟨hroom, fun other stored hstored =>
        habove other stored (get?_remove_eq_some.mp hstored).1⟩

/-- What is topped stays so when a dictionary is trimmed. -/
theorem Topped.trim (hrank : Separates rank) (h : Topped rank limit key bound d) :
    Topped rank limit key bound (d.trim rank limit) :=
  whileLoop_invariant (fun _ hover htopped => htopped.removeLeast hrank hover) d.size d h

end Topped

section Above

variable [LinearOrder ρ] {rank : κ → α → ρ} {limit : Nat} {d : PyDict κ α} {key : κ} {value : α}

/-- How many entries rank above a bound. -/
def above (rank : κ → α → ρ) (bound : ρ) (d : PyDict κ α) : Nat :=
  (d.keep fun key value => bound < rank key value).size

/-- An entry is there, and fewer entries than the limit rank above it. -/
def Survives (rank : κ → α → ρ) (limit : Nat) (key : κ) (value : α) (d : PyDict κ α) : Prop :=
  d.get? key = some value ∧ d.above rank (rank key value) < limit

/-- An entry that is missing leaves enough greater ones. -/
def Outranks (rank : κ → α → ρ) (limit : Nat) (all kept : PyDict κ α) : Prop :=
  ∀ key value, all.get? key = some value → kept.get? key = none →
    limit ≤ kept.size ∧ ∀ other stored, kept.get? other = some stored →
      rank key value < rank other stored

/-- The least entry of an overfull dictionary leaves enough greater ones. -/
theorem Outranks.removeLeast {kept : PyDict κ α} (hrank : Separates rank)
    (h : Outranks rank limit d kept)
    (hsub : ∀ key value, kept.get? key = some value → d.get? key = some value)
    (hover : limit < kept.size) : Outranks rank limit d (kept.removeLeast rank) := by
  rw [PyDict.removeLeast]
  cases hleast : kept.least rank with
  | none => exact h
  | some lost =>
    obtain ⟨old, hold, hbelow⟩ := least_eq_some hleast
    have hsize := size_remove (mem_keys.mpr ⟨old, hold⟩)
    intro key value hvalue hmissing
    refine ⟨by simp only; omega, fun other stored hstored => ?_⟩
    obtain ⟨hfound, hne⟩ := get?_remove_eq_some.mp hstored
    by_cases hkey : key = lost
    · have hsame : old = value := by
        have hall := hsub lost old hold
        rw [← hkey, hvalue, Option.some.injEq] at hall
        exact hall.symm
      have hle := hbelow other stored hfound
      rw [← hkey, hsame] at hle
      exact lt_of_le_of_ne hle fun heq => hne ((hrank _ _ _ _ heq).symm.trans hkey)
    · have hbefore : kept.get? key = none := by
        rw [← get?_remove_of_ne hkey]
        exact hmissing
      exact (h key value hvalue hbefore).2 other stored hfound

/-- A trimmed dictionary keeps its greatest entries. -/
theorem keepsGreatest_trim (hrank : Separates rank) (limit : Nat) (d : PyDict κ α) :
    KeepsGreatest rank limit d (d.trim rank limit) := by
  have hloop : (∀ key value, (d.trim rank limit).get? key = some value →
      d.get? key = some value) ∧ Outranks rank limit d (d.trim rank limit) := by
    refine whileLoop_invariant (P := fun state : PyDict κ α =>
      (∀ key value, state.get? key = some value → d.get? key = some value) ∧
        Outranks rank limit d state) ?_ d.size d ⟨fun _ _ h => h, ?_⟩
    · intro state hover h
      exact ⟨fun key value hvalue => h.1 key value (get?_of_removeLeast hvalue),
        h.2.removeLeast hrank h.1 hover⟩
    · intro key value hvalue hmissing
      rw [hvalue] at hmissing
      cases hmissing
  have hbounded := size_trim rank limit d
  refine ⟨hloop.1, hbounded, fun key value hvalue hmissing => ?_⟩
  obtain ⟨hfull, habove⟩ := hloop.2 key value hvalue hmissing
  exact ⟨Nat.le_antisymm hbounded hfull, habove⟩

/-- An entry stays in a trimmed dictionary exactly when it survives. -/
theorem get?_trim (hrank : Separates rank) :
    (d.trim rank limit).get? key = some value ↔ Survives rank limit key value d := by
  have hkept := keepsGreatest_trim hrank limit d
  constructor
  · intro hstays
    have hvalue := hkept.sub key value hstays
    refine ⟨hvalue, ?_⟩
    by_contra hmany
    -- the entry and those above it cannot all have stayed
    have hsub : (d.keep fun other stored => rank key value < rank other stored).keys ⊆
        (d.trim rank limit).keys := by
      intro other hother
      obtain ⟨stored, hstored⟩ := mem_keys.mp hother
      obtain ⟨hfound, hhigh⟩ := get?_keep_eq_some.mp hstored
      by_contra hgone
      have hlow := (hkept.outranked other stored hfound (get?_eq_none.mpr hgone)).2 key value hstays
      exact lt_asymm hhigh hlow
    have hnew : key ∉ (d.keep fun other stored => rank key value < rank other stored).keys := by
      intro hmem
      obtain ⟨stored, hstored⟩ := mem_keys.mp hmem
      obtain ⟨hfound, hhigh⟩ := get?_keep_eq_some.mp hstored
      rw [hvalue, Option.some.injEq] at hfound
      rw [hfound] at hhigh
      exact lt_irrefl _ hhigh
    have hall : key :: (d.keep fun other stored => rank key value < rank other stored).keys ⊆
        (d.trim rank limit).keys :=
      List.cons_subset.mpr ⟨mem_keys.mpr ⟨value, hstays⟩, hsub⟩
    have hlength := (List.subperm_of_subset (List.nodup_cons.mpr ⟨hnew, PyDict.nodup _⟩) hall).length_le
    rw [List.length_cons, length_keys, length_keys] at hlength
    have hbounded := hkept.bounded
    rw [above] at hmany
    omega
  · rintro ⟨hvalue, hfew⟩
    cases hstays : (d.trim rank limit).get? key with
    | some stored =>
      rw [← hvalue]
      exact (hkept.sub key stored hstays).symm
    | none =>
      obtain ⟨hfull, habove⟩ := hkept.outranked key value hvalue hstays
      have hsub : (d.trim rank limit).keys ⊆
          (d.keep fun other stored => rank key value < rank other stored).keys := by
        intro other hother
        obtain ⟨stored, hstored⟩ := mem_keys.mp hother
        exact mem_keys.mpr ⟨stored, get?_keep_eq_some.mpr
          ⟨hkept.sub other stored hstored, habove other stored hstored⟩⟩
      have hnodup : (d.trim rank limit).keys.Nodup := (d.trim rank limit).nodup
      have hlength := (List.subperm_of_subset hnodup hsub).length_le
      rw [length_keys, length_keys, hfull] at hlength
      rw [above] at hfew
      omega

end Above

end PyDict
end AyyoHumanoid
