import AyyoHumanoid.PyDict

/-!
# Dictionaries side by side

Two dictionaries stand side by side when they have the same keys in the same
order and the values under one key are related. Storing, deleting and trimming
by the key keep that, so two programs that treat the keys alike can be compared
entry by entry, whatever the values are.
-/

namespace AyyoHumanoid
namespace PyDict

section Loops

/-- Loops whose conditions agree and whose steps keep a relation end in related states. -/
theorem whileLoop_related {σ τ : Type} {R : σ → τ → Prop} {condition : σ → Prop}
    {condition' : τ → Prop} [DecidablePred condition] [DecidablePred condition'] {step : σ → σ}
    {step' : τ → τ} (hcondition : ∀ s t, R s t → (condition s ↔ condition' t))
    (hstep : ∀ s t, R s t → R (step s) (step' t)) (n : Nat) :
    ∀ s t, R s t → R (whileLoop condition step n s) (whileLoop condition' step' n t) := by
  induction n with
  | zero => exact fun s t h => h
  | succ n ih =>
    intro s t h
    rw [whileLoop, whileLoop]
    by_cases hs : condition s
    · rw [if_pos hs, if_pos ((hcondition s t h).mp hs)]
      exact ih _ _ (hstep s t h)
    · have ht : ¬condition' t := fun ht => hs ((hcondition s t h).mpr ht)
      rw [if_neg hs, if_neg ht]
      exact h

end Loops

section Alongside

variable {κ α β : Type} {R : κ → α → β → Prop} {d : PyDict κ α} {e : PyDict κ β}

/-- The entries of two dictionaries have the same keys and related values. -/
def EntriesAlongside (R : κ → α → β → Prop) : List (κ × α) → List (κ × β) → Prop :=
  List.Forall₂ fun left right => left.1 = right.1 ∧ R left.1 left.2 right.2

/-- The dictionaries have the same keys in the same order, and related values under each. -/
def Alongside (R : κ → α → β → Prop) (d : PyDict κ α) (e : PyDict κ β) : Prop :=
  EntriesAlongside R d.entries e.entries

/-- The empty dictionaries stand side by side. -/
theorem alongside_empty : Alongside R (empty : PyDict κ α) (empty : PyDict κ β) :=
  List.Forall₂.nil

/-- Related entries have the same keys. -/
theorem EntriesAlongside.map_fst {xs : List (κ × α)} {ys : List (κ × β)}
    (h : EntriesAlongside R xs ys) : xs.map Prod.fst = ys.map Prod.fst := by
  induction h with
  | nil => rfl
  | cons hhead _ ih => rw [List.map_cons, List.map_cons, hhead.1, ih]

/-- Dictionaries side by side have the same keys. -/
theorem Alongside.keys (h : Alongside R d e) : d.keys = e.keys := EntriesAlongside.map_fst h

/-- Dictionaries side by side are of one size. -/
theorem Alongside.size (h : Alongside R d e) : d.size = e.size := by
  rw [← length_keys, ← length_keys, h.keys]

/-- A selection by the key keeps the entries related. -/
theorem EntriesAlongside.filter {kept : κ → Prop} [DecidablePred kept] {xs : List (κ × α)}
    {ys : List (κ × β)} (h : EntriesAlongside R xs ys) :
    EntriesAlongside R (xs.filter fun entry => kept entry.1)
      (ys.filter fun entry => kept entry.1) := by
  induction h with
  | nil => exact List.Forall₂.nil
  | @cons x y xs ys hhead _ ih =>
    by_cases hkept : kept x.1
    · have hkept' : kept y.1 := hhead.1 ▸ hkept
      rw [List.filter_cons_of_pos (by exact decide_eq_true hkept),
        List.filter_cons_of_pos (by exact decide_eq_true hkept')]
      exact List.Forall₂.cons hhead ih
    · have hkept' : ¬kept y.1 := hhead.1 ▸ hkept
      rw [List.filter_cons_of_neg (by simpa using hkept),
        List.filter_cons_of_neg (by simpa using hkept')]
      exact ih

/-- A comprehension that selects by the key keeps the dictionaries side by side. -/
theorem Alongside.keep {kept : κ → Prop} [DecidablePred kept] (h : Alongside R d e) :
    Alongside R (d.keep fun key _ => kept key) (e.keep fun key _ => kept key) :=
  EntriesAlongside.filter h

variable [DecidableEq κ]

/-- Looking up a key finds related values or none. -/
theorem EntriesAlongside.find {key : κ} {xs : List (κ × α)} {ys : List (κ × β)}
    (h : EntriesAlongside R xs ys) :
    Option.Rel (R key) ((xs.find? fun entry => entry.1 = key).map Prod.snd)
      ((ys.find? fun entry => entry.1 = key).map Prod.snd) := by
  induction h with
  | nil => exact Option.Rel.none
  | @cons x y xs ys hhead _ ih =>
    by_cases hkey : x.1 = key
    · have hkey' : y.1 = key := hhead.1 ▸ hkey
      rw [List.find?_cons_of_pos (by exact decide_eq_true hkey),
        List.find?_cons_of_pos (by exact decide_eq_true hkey')]
      exact Option.Rel.some (hkey ▸ hhead.2)
    · have hkey' : ¬y.1 = key := hhead.1 ▸ hkey
      rw [List.find?_cons_of_neg (by simpa using hkey),
        List.find?_cons_of_neg (by simpa using hkey')]
      exact ih

/-- A lookup finds related values or none. -/
theorem Alongside.get? (h : Alongside R d e) (key : κ) :
    Option.Rel (R key) (d.get? key) (e.get? key) :=
  EntriesAlongside.find h

/-- Related lookups both find a value or both find none. -/
theorem isSome_of_rel {P : α → β → Prop} {left : Option α} {right : Option β}
    (h : Option.Rel P left right) : left.isSome = right.isSome := by
  cases h with
  | some _ => rfl
  | none => rfl

/-- A key is found in both dictionaries or in neither. -/
theorem Alongside.isSome_get? (h : Alongside R d e) (key : κ) :
    (d.get? key).isSome = (e.get? key).isSome :=
  isSome_of_rel (h.get? key)

/-- What is absent from one dictionary is absent from the other. -/
theorem Alongside.get?_eq_none {key : κ} (h : Alongside R d e) (hnone : d.get? key = none) :
    e.get? key = none := by
  have hsome := h.isSome_get? key
  rw [hnone] at hsome
  exact Option.isSome_eq_false_iff.mp hsome.symm |> Option.isNone_iff_eq_none.mp

/-- What is found in one dictionary has a related value in the other. -/
theorem Alongside.exists_get? {key : κ} {value : α} (h : Alongside R d e)
    (hvalue : d.get? key = some value) : ∃ other, e.get? key = some other ∧ R key value other := by
  have hrel := h.get? key
  rw [hvalue] at hrel
  generalize e.get? key = found at hrel
  cases hrel with
  | @some _ other hvalues => exact ⟨other, rfl, hvalues⟩

/-- Storing related values keeps the entries related. -/
theorem EntriesAlongside.setEntries {key : κ} {left : α} {right : β} {xs : List (κ × α)}
    {ys : List (κ × β)} (h : EntriesAlongside R xs ys) (hvalue : R key left right) :
    EntriesAlongside R (setEntries key left xs) (setEntries key right ys) := by
  induction h with
  | nil => exact List.Forall₂.cons ⟨rfl, hvalue⟩ List.Forall₂.nil
  | @cons x y xs ys hhead hrest ih =>
    rw [PyDict.setEntries, PyDict.setEntries]
    by_cases hkey : x.1 = key
    · have hkey' : y.1 = key := hhead.1 ▸ hkey
      rw [if_pos hkey, if_pos hkey']
      exact List.Forall₂.cons ⟨rfl, hvalue⟩ hrest
    · have hkey' : ¬y.1 = key := hhead.1 ▸ hkey
      rw [if_neg hkey, if_neg hkey']
      exact List.Forall₂.cons hhead ih

/-- Storing related values keeps the dictionaries side by side. -/
theorem Alongside.set {key : κ} {left : α} {right : β} (h : Alongside R d e)
    (hvalue : R key left right) : Alongside R (d.set key left) (e.set key right) :=
  EntriesAlongside.setEntries h hvalue

/-- Deleting a key keeps the dictionaries side by side. -/
theorem Alongside.remove (h : Alongside R d e) (key : κ) :
    Alongside R (d.remove key) (e.remove key) :=
  h.keep

end Alongside

section Trimming

variable {κ α β : Type} [LinearOrder κ] {R : κ → α → β → Prop} {d : PyDict κ α} {e : PyDict κ β}

/-- Without a least key there are no keys. -/
theorem keys_of_least_eq_none (h : d.least (fun key _ => key) = none) : d.keys = [] := by
  have hsize := least_eq_none h
  rw [← length_keys] at hsize
  exact List.length_eq_zero_iff.mp hsize

/-- The least key is a key below all others. -/
theorem least_of_keys {key : κ} (h : d.least (fun key _ => key) = some key) :
    key ∈ d.keys ∧ ∀ other ∈ d.keys, key ≤ other := by
  obtain ⟨value, hvalue, hleast⟩ := least_eq_some h
  refine ⟨mem_keys.mpr ⟨value, hvalue⟩, fun other hother => ?_⟩
  obtain ⟨stored, hstored⟩ := mem_keys.mp hother
  exact hleast other stored hstored

/-- Dictionaries with the same keys have the same least key. -/
theorem least_congr (h : d.keys = e.keys) :
    d.least (fun key _ => key) = e.least (fun key _ => key) := by
  cases hleft : d.least (fun key _ => key) with
  | none =>
    cases hright : e.least (fun key _ => key) with
    | none => rfl
    | some key =>
      have hmem := (least_of_keys hright).1
      rw [← h, keys_of_least_eq_none hleft] at hmem
      exact absurd hmem List.not_mem_nil
  | some key =>
    cases hright : e.least (fun key _ => key) with
    | none =>
      have hmem := (least_of_keys hleft).1
      rw [h, keys_of_least_eq_none hright] at hmem
      exact absurd hmem List.not_mem_nil
    | some other =>
      have hbelow := (least_of_keys hleft).2 other (h ▸ (least_of_keys hright).1)
      have habove := (least_of_keys hright).2 key (h ▸ (least_of_keys hleft).1)
      rw [le_antisymm hbelow habove]

/-- Deleting the least keys keeps the dictionaries side by side. -/
theorem Alongside.removeLeast (h : Alongside R d e) :
    Alongside R (d.removeLeast fun key _ => key) (e.removeLeast fun key _ => key) := by
  have hleast := least_congr h.keys
  rw [PyDict.removeLeast, PyDict.removeLeast, ← hleast]
  cases d.least fun key _ => key with
  | none => exact h
  | some key => exact h.remove key

/-- Trimming by the key keeps the dictionaries side by side. -/
theorem Alongside.trim (h : Alongside R d e) (limit : Nat) :
    Alongside R (d.trim (fun key _ => key) limit) (e.trim (fun key _ => key) limit) := by
  rw [PyDict.trim, PyDict.trim, h.size]
  refine whileLoop_related (R := Alongside R) (fun s t hst => ?_)
    (fun s t hst => hst.removeLeast) e.size d e h
  rw [hst.size]

end Trimming

end PyDict
end AyyoHumanoid
