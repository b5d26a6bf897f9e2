import Mathlib.Data.List.Forall2
import Mathlib.Algebra.BigOperators.Group.List.Basic
import Mathlib.Algebra.Ring.Nat

/-!
# Graphs of mutable objects and their copies

A store holds mutable objects at addresses; a slot of an object holds a leaf or
the address of another object. An object reads as a value when its slots read
as the value's parts. The copying loop keeps a worklist of pairs of a new empty
object and the object it copies. It leaves every old object alone, its result
reads as the same value, and no old object can be reached from it.
-/

namespace AyyoHumanoid
namespace ObjectGraphs

/-- What a slot of an object holds. -/
inductive Slot (σ : Type) where
  /-- An immutable leaf. -/
  | leaf (value : σ)
  /-- The object at an address. -/
  | ref (address : Nat)
  deriving DecidableEq

/-- A mutable object: its kind and its labelled slots. -/
structure Cell (κ ι σ : Type) where
  /-- The kind of the object. -/
  kind : κ
  /-- The slots in order. -/
  slots : List (ι × Slot σ)
  deriving DecidableEq

/-- The objects, by address. -/
abbrev Store (κ ι σ : Type) := List (Cell κ ι σ)

/-- What a value is made of. -/
inductive Shape (κ ι σ ν : Type) where
  | leaf (value : σ)
  /-- A node with labelled parts. -/
  | node (kind : κ) (parts : List (ι × ν))

section Copying

variable {κ ι σ : Type}

/-- The object with one more slot. -/
def Cell.add (cell : Cell κ ι σ) (slot : ι × Slot σ) : Cell κ ι σ :=
  { cell with slots := cell.slots ++ [slot] }

/-- The state of a copying loop. -/
structure Copying (κ ι σ : Type) where
  /-- The objects so far. -/
  store : Store κ ι σ
  /-- Objects to fill, each with the object it copies; the last one comes first. -/
  pending : List (Nat × Nat)

/-- Add one slot to an object: a leaf as it is, and a new empty object for an object. -/
def put (target : Nat) (work : Copying κ ι σ) (slot : ι × Slot σ) : Copying κ ι σ :=
  match slot.2 with
  | .leaf value => { work with store := work.store.modify target (·.add (slot.1, .leaf value)) }
  | .ref address =>
    match work.store[address]? with
    | none => work
    | some source =>
      { store := work.store.modify target (·.add (slot.1, .ref work.store.length)) ++
          [⟨source.kind, []⟩]
        pending := (work.store.length, address) :: work.pending }

/-- Fill an object with the slots of the one it copies. -/
def fill (target source : Nat) (work : Copying κ ι σ) : Copying κ ι σ :=
  match work.store[source]? with
  | none => work
  | some cell => cell.slots.foldl (put target) work

/-- Fill objects until none is left. The first argument bounds their number. -/
def copyLoop : Nat → Copying κ ι σ → Store κ ι σ
  | 0, work => work.store
  | fuel + 1, work =>
    match work.pending with
    | [] => work.store
    | (target, source) :: pending =>
      copyLoop fuel (fill target source { work with pending := pending })

/-- Copy what a slot holds. -/
def copySlot (fuel : Nat) (store : Store κ ι σ) : Slot σ → Store κ ι σ × Slot σ
  | .leaf value => (store, .leaf value)
  | .ref address =>
    match store[address]? with
    | none => (store, .ref address)
    | some cell =>
      (copyLoop fuel ⟨store ++ [⟨cell.kind, []⟩], [(store.length, address)]⟩, .ref store.length)

end Copying

section Reading

variable {κ ι σ ν : Type} (shape : ν → Shape κ ι σ ν)

/-- A slot reads as a value. -/
inductive Reads (store : Store κ ι σ) : Slot σ → ν → Prop where
  /-- A leaf reads as itself. -/
  | leaf {value : ν} {leaf : σ} (hshape : shape value = .leaf leaf) : Reads store (.leaf leaf) value
  /-- An object reads as a node when its slots read as the parts. -/
  | node {value : ν} {kind : κ} {parts : List (ι × ν)} {address : Nat} {slots : List (ι × Slot σ)}
      (hshape : shape value = .node kind parts) (hcell : store[address]? = some ⟨kind, slots⟩)
      (hlabels : slots.map Prod.fst = parts.map Prod.fst)
      (hparts : ∀ (i : Nat) (slot : ι × Slot σ) (part : ι × ν), slots[i]? = some slot →
        parts[i]? = some part → Reads store slot.2 part.2) : Reads store (.ref address) value

/-- An address that can be reached from a slot. -/
inductive Reachable (store : Store κ ι σ) (start : Slot σ) : Nat → Prop where
  /-- The object the slot holds. -/
  | root {address : Nat} (h : start = .ref address) : Reachable store start address
  /-- An object that a slot of a reached object holds. -/
  | step {address next : Nat} {cell : Cell κ ι σ} {label : ι} (h : Reachable store start address)
      (hcell : store[address]? = some cell) (hslot : (label, .ref next) ∈ cell.slots) :
      Reachable store start next

variable {shape} {store : Store κ ι σ}

/-- What reads as a node is an object whose slots read as the parts, one by one. -/
theorem Reads.parts {address : Nat} {value : ν} (h : Reads shape store (.ref address) value) :
    ∃ kind parts slots, shape value = .node kind parts ∧ store[address]? = some ⟨kind, slots⟩ ∧
      List.Forall₂ (fun slot part => slot.1 = part.1 ∧ Reads shape store slot.2 part.2)
        slots parts := by
  cases h with
  | @node _ kind parts _ slots hshape hcell hlabels hparts =>
    refine ⟨kind, parts, slots, hshape, hcell, ?_⟩
    have hlength : slots.length = parts.length := by
      simpa using congrArg List.length hlabels
    rw [List.forall₂_iff_get]
    refine ⟨hlength, fun i hslot hpart => ⟨?_, ?_⟩⟩
    · have hlabel := congrArg (·[i]?) hlabels
      simpa [hslot, hpart] using hlabel
    · exact hparts i _ _ (List.getElem?_eq_getElem hslot) (List.getElem?_eq_getElem hpart)

/-- What can be reached from a slot that reads as a value reads as a value too. -/
theorem Reads.reachable {start : Slot σ} {value : ν} (h : Reads shape store start value)
    {address : Nat} (hreach : Reachable store start address) :
    ∃ other, Reads shape store (.ref address) other := by
  induction hreach with
  | root hstart => exact ⟨value, hstart ▸ h⟩
  | step _ hcell hslot ih =>
    obtain ⟨other, hother⟩ := ih
    obtain ⟨kind, parts, slots, -, hfound, hparts⟩ := hother.parts
    have hcells := Option.some.inj (hcell.symm.trans hfound)
    rw [hcells] at hslot
    obtain ⟨i, hi, hget⟩ := List.mem_iff_getElem.mp hslot
    have hpart := (List.forall₂_iff_get.mp hparts).2 i hi (by
      rw [← hparts.length_eq]
      exact hi)
    simp only [List.get_eq_getElem, hget] at hpart
    exact ⟨_, hpart.2⟩

/-- An object that reads as a value is in the store. -/
theorem Reads.lt_length {address : Nat} {value : ν} (h : Reads shape store (.ref address) value) :
    address < store.length := by
  obtain ⟨kind, parts, slots, -, hcell, -⟩ := h.parts
  exact (List.getElem?_eq_some_iff.mp hcell).1

/-- An object of a store is the same object of a longer store. -/
theorem cell_of_extension {later : Store κ ι σ} (hlater : store <+: later) {address : Nat}
    {cell : Cell κ ι σ} (h : store[address]? = some cell) : later[address]? = some cell := by
  obtain ⟨added, rfl⟩ := hlater
  rwa [List.getElem?_append_left (List.getElem?_eq_some_iff.mp h).1]

end Reading

section Copies

variable {κ ι σ ν : Type} {shape : ν → Shape κ ι σ ν} {base store : Store κ ι σ}
  {origin : List Nat} {done : Nat → List (ι × Slot σ)}

/-- What a slot holds and its copy: the same leaf, or an object and the new object that copies it.
The new objects follow the old ones, and `origin` lists what they copy. -/
inductive CopyOf (base : Store κ ι σ) (origin : List Nat) : Slot σ → Slot σ → Prop where
  /-- A leaf is copied as it is. -/
  | leaf (value : σ) : CopyOf base origin (.leaf value) (.leaf value)
  /-- An object is replaced by its copy. -/
  | ref {i source : Nat} (h : origin[i]? = some source) :
      CopyOf base origin (.ref source) (.ref (base.length + i))

/-- A labelled slot and its copy. -/
structure Mirror (base : Store κ ι σ) (origin : List Nat) (slot copy : ι × Slot σ) : Prop where
  /-- The label stays. -/
  label : slot.1 = copy.1
  /-- What the slot holds is copied. -/
  held : CopyOf base origin slot.2 copy.2

/-- Later copies do not change which slot copies which. -/
theorem Mirror.append {slot copy : ι × Slot σ} (h : Mirror base origin slot copy)
    (added : List Nat) : Mirror base (origin ++ added) slot copy := by
  obtain ⟨label, held⟩ := slot
  obtain ⟨other, copied⟩ := copy
  refine ⟨h.label, ?_⟩
  cases h.held with
  | leaf value => exact .leaf value
  | ref hsource =>
    have hlt := (List.getElem?_eq_some_iff.mp hsource).1
    exact .ref (by rwa [List.getElem?_append_left hlt])

/-- Mirrored slots have the same labels. -/
theorem map_fst_of_mirror {slots copies : List (ι × Slot σ)}
    (h : List.Forall₂ (Mirror base origin) slots copies) :
    slots.map Prod.fst = copies.map Prod.fst := by
  induction h with
  | nil => rfl
  | cons hmirror _ ih => rw [List.map_cons, List.map_cons, ih, hmirror.label]

/-- A copied slot is the copy of the slot at its position. -/
theorem getElem_of_mirror {slots copies : List (ι × Slot σ)}
    (h : List.Forall₂ (Mirror base origin) slots copies) {i : Nat} {copy : ι × Slot σ}
    (hcopy : copies[i]? = some copy) :
    ∃ slot, slots[i]? = some slot ∧ Mirror base origin slot copy := by
  induction h generalizing i with
  | nil => simp at hcopy
  | cons hmirror _ ih =>
    cases i with
    | zero =>
      simp only [List.getElem?_cons_zero, Option.some.injEq] at hcopy
      exact ⟨_, rfl, hcopy ▸ hmirror⟩
    | succ i => exact ih hcopy

/-- The new objects of a store, of which each has copies of some first slots of its original. -/
structure Copied (base store : Store κ ι σ) (origin : List Nat)
    (done : Nat → List (ι × Slot σ)) : Prop where
  /-- The old objects are unchanged. -/
  old : base <+: store
  /-- The new objects follow them. -/
  length : store.length = base.length + origin.length
  /-- Every new object has the kind of its original and copies of its first slots. -/
  copies : ∀ i source, origin[i]? = some source → ∃ original slots,
    base[source]? = some original ∧ store[base.length + i]? = some ⟨original.kind, slots⟩ ∧
      List.Forall₂ (Mirror base origin) (done i) slots
  /-- Nothing has been copied to objects that do not exist. -/
  absent : ∀ i, origin.length ≤ i → done i = []

/-- The first slots after one more has been copied to an object. -/
def advance (done : Nat → List (ι × Slot σ)) (i : Nat) (slots : List (ι × Slot σ)) :
    Nat → List (ι × Slot σ) :=
  fun j => if j = i then done i ++ slots else done j

/-- A change of a new object leaves the old ones alone. -/
theorem prefix_modify (hold : base <+: store) (i : Nat) (f : Cell κ ι σ → Cell κ ι σ) :
    base <+: store.modify (base.length + i) f := by
  rw [List.prefix_iff_getElem?] at hold ⊢
  intro j hj
  have hne : base.length + i ≠ j := by omega
  rw [List.getElem?_modify, hold j hj]
  simp [hne]

/-- The new objects after one slot has been added to one of them. -/
theorem Copied.add (h : Copied base store origin done) (i : Nat)
    {slot copy : ι × Slot σ} {added : List Nat}
    (hmirror : Mirror base (origin ++ added) slot copy) {j source : Nat}
    (hsource : origin[j]? = some source) : ∃ original slots, base[source]? = some original ∧
      (store.modify (base.length + i) (·.add copy))[base.length + j]? =
        some ⟨original.kind, slots⟩ ∧
      List.Forall₂ (Mirror base (origin ++ added)) (advance done i [slot] j) slots := by
  obtain ⟨original, slots, horiginal, hcell, hslots⟩ := h.copies j source hsource
  have hlater := hslots.imp fun _ _ hmirror => hmirror.append added
  rw [List.getElem?_modify, hcell]
  by_cases hsame : j = i
  · refine ⟨original, slots ++ [copy], horiginal, ?_, ?_⟩
    · simp [hsame, Cell.add]
    · rw [advance, if_pos hsame, ← hsame]
      exact List.rel_append hlater (.cons hmirror .nil)
  · refine ⟨original, slots, horiginal, ?_, ?_⟩
    · have hne : ¬i = j := fun heq => hsame heq.symm
      simp [hne]
    · rwa [advance, if_neg hsame]

/-- Copying a leaf. -/
theorem Copied.put_leaf (h : Copied base store origin done) {i : Nat} (hi : i < origin.length)
    (label : ι) (value : σ) :
    Copied base (store.modify (base.length + i) (·.add (label, .leaf value))) origin
      (advance done i [(label, .leaf value)]) where
  old := prefix_modify h.old i _
  length := by rw [List.length_modify, h.length]
  copies := by
    intro j source hsource
    have hmirror : Mirror base (origin ++ []) (label, Slot.leaf value) (label, .leaf value) :=
      ⟨rfl, .leaf value⟩
    have hcopies := h.add i hmirror hsource
    simpa only [List.append_nil] using hcopies
  absent := by
    intro j hj
    have hne : j ≠ i := by omega
    rw [advance, if_neg hne, h.absent j hj]

/-- Copying a reference to an old object: a new empty object is added. -/
theorem Copied.put_ref (h : Copied base store origin done) {i : Nat} (hi : i < origin.length)
    (label : ι) {address : Nat} {source : Cell κ ι σ} (hcell : base[address]? = some source) :
    Copied base (store.modify (base.length + i) (·.add (label, .ref store.length)) ++
        [⟨source.kind, []⟩]) (origin ++ [address]) (advance done i [(label, .ref address)]) where
  old := (prefix_modify h.old i _).trans (List.prefix_append ..)
  length := by simp [h.length, Nat.add_assoc]
  copies := by
    intro j other hother
    have hmirror : Mirror base (origin ++ [address]) (label, Slot.ref (σ := σ) address)
        (label, .ref store.length) := by
      rw [h.length]
      exact ⟨rfl, .ref (by simp)⟩
    by_cases hj : j < origin.length
    · rw [List.getElem?_append_left hj] at hother
      obtain ⟨original, slots, horiginal, hfound, hslots⟩ := h.add i hmirror hother
      exact ⟨original, slots, horiginal, cell_of_extension (List.prefix_append ..) hfound, hslots⟩
    · have hlast : j = origin.length := by
        have hlt := (List.getElem?_eq_some_iff.mp hother).1
        rw [List.length_append, List.length_singleton] at hlt
        omega
      have haddress : address = other := by simpa [hlast] using hother
      have hne : j ≠ i := by omega
      refine ⟨source, [], haddress ▸ hcell, ?_, ?_⟩
      · rw [hlast, ← h.length, List.getElem?_append_right (by simp)]
        simp
      · rw [advance, if_neg hne, h.absent j (by omega)]
        exact .nil
  absent := by
    intro j hj
    rw [List.length_append, List.length_singleton] at hj
    have hne : j ≠ i := by omega
    rw [advance, if_neg hne, h.absent j (by omega)]

/-- The objects that slots refer to, in order. -/
def references (slots : List (ι × Slot σ)) : List Nat :=
  slots.filterMap fun slot =>
    match slot.2 with
    | .leaf _ => none
    | .ref address => some address

/-- What copying slots adds to the worklist. -/
def entriesFor (start : Nat) (sources : List Nat) : List (Nat × Nat) :=
  ((List.range' start sources.length).zip sources).reverse

/-- One more source puts its entry before those that follow it. -/
theorem entriesFor_cons (start source : Nat) (sources : List Nat) :
    entriesFor start (source :: sources) =
      entriesFor (start + 1) sources ++ [(start, source)] := by
  simp [entriesFor, List.range'_succ]

/-- Copying slots to a new object adds the objects they refer to, empty, and their entries. -/
theorem foldl_put {i : Nat} {slots : List (ι × Slot σ)} (work : Copying κ ι σ)
    (h : Copied base work.store origin done) (hi : i < origin.length)
    (hslots : ∀ address ∈ references slots, ∃ cell, base[address]? = some cell) :
    Copied base (slots.foldl (put (base.length + i)) work).store (origin ++ references slots)
        (advance done i slots) ∧
      (slots.foldl (put (base.length + i)) work).pending =
        entriesFor work.store.length (references slots) ++ work.pending := by
  induction slots generalizing origin done work with
  | nil =>
    have hdone : advance done i [] = done := by
      funext j
      by_cases hj : j = i
      · rw [advance, if_pos hj, List.append_nil, hj]
      · rw [advance, if_neg hj]
    rw [List.foldl_nil, hdone]
    exact ⟨by simpa [references] using h, by simp [references, entriesFor]⟩
  | cons slot slots ih =>
    obtain ⟨label, held⟩ := slot
    have hdone : ∀ slot : ι × Slot σ,
        advance (advance done i [slot]) i slots = advance done i (slot :: slots) := by
      intro slot
      funext j
      by_cases hj : j = i
      · simp [advance, hj]
      · simp [advance, hj]
    cases held with
    | leaf value =>
      have hstep := h.put_leaf hi label value
      have hrest := @ih _ _ (put (base.length + i) work (label, .leaf value)) hstep hi hslots
      rw [hdone] at hrest
      have hlength : (put (base.length + i) work (label, .leaf value)).store.length =
          work.store.length := List.length_modify ..
      rw [hlength] at hrest
      exact hrest
    | ref address =>
      obtain ⟨source, hsource⟩ := hslots address (by simp [references])
      have hput : put (base.length + i) work (label, .ref address) =
          { store := work.store.modify (base.length + i) (·.add (label, .ref work.store.length)) ++
              [⟨source.kind, []⟩]
            pending := (work.store.length, address) :: work.pending } := by
        simp [put, cell_of_extension h.old hsource]
      have hstep := h.put_ref hi label hsource
      have hlater : i < (origin ++ [address]).length := by
        rw [List.length_append]
        omega
      have htail : ∀ other ∈ references slots, ∃ cell, base[other]? = some cell := by
        intro other hother
        exact hslots other (by simpa [references] using Or.inr hother)
      have hrest := @ih _ _ (put (base.length + i) work (label, .ref address))
        (by rw [hput]; exact hstep) hlater htail
      have hreferences : references ((label, Slot.ref address) :: slots) =
          address :: references slots := rfl
      rw [hdone, hput] at hrest
      rw [List.foldl_cons, hreferences, hput, entriesFor_cons]
      refine ⟨by simpa using hrest.1, ?_⟩
      rw [hrest.2]
      simp

/-- The entries for a list of sources, by position. -/
theorem mem_entriesFor {start : Nat} {sources : List Nat} {entry : Nat × Nat} :
    entry ∈ entriesFor start sources ↔
      ∃ k, entry.1 = start + k ∧ sources[k]? = some entry.2 := by
  induction sources generalizing start with
  | nil => simp [entriesFor]
  | cons source sources ih =>
    rw [entriesFor_cons, List.mem_append, List.mem_singleton, ih]
    constructor
    · rintro (⟨k, hk, hsource⟩ | rfl)
      · exact ⟨k + 1, by omega, hsource⟩
      · exact ⟨0, rfl, rfl⟩
    · rintro ⟨k, hk, hsource⟩
      cases k with
      | zero => exact .inr (Prod.ext hk (Option.some.inj hsource).symm)
      | succ k => exact .inl ⟨k, by omega, hsource⟩

/-- The new objects of the entries are distinct. -/
theorem entriesFor_targets (start : Nat) (sources : List Nat) :
    (entriesFor start sources).map Prod.fst = (List.range' start sources.length).reverse := by
  rw [entriesFor, List.map_reverse, List.map_fst_zip (by simp)]

/-- The entries are for the given sources. -/
theorem entriesFor_sources (start : Nat) (sources : List Nat) :
    (entriesFor start sources).map Prod.snd = sources.reverse := by
  rw [entriesFor, List.map_reverse, List.map_snd_zip (by simp)]

/-- What holds before each round of the copying loop. -/
structure Progress (shape : ν → Shape κ ι σ ν) (base : Store κ ι σ) (origin : List Nat)
    (done : Nat → List (ι × Slot σ)) (work : Copying κ ι σ) : Prop where
  /-- The new objects are copies as far as they go. -/
  copied : Copied base work.store origin done
  /-- Everything that is copied reads as a value. -/
  readable : ∀ source ∈ origin, ∃ value, Reads shape base (.ref source) value
  /-- No object is to be filled twice. -/
  nodup : (work.pending.map Prod.fst).Nodup
  /-- The objects to fill are empty. -/
  empty : ∀ entry ∈ work.pending, ∃ i, entry.1 = base.length + i ∧ origin[i]? = some entry.2 ∧
    done i = []
  /-- The other ones are complete. -/
  finished : ∀ i source original, origin[i]? = some source → base[source]? = some original →
    base.length + i ∉ work.pending.map Prod.fst → done i = original.slots

/-- The references of slots that read as values are to objects that do. -/
theorem readable_references {slots : List (ι × Slot σ)} {parts : List (ι × ν)}
    (hslots : List.Forall₂ (fun slot part => slot.1 = part.1 ∧ Reads shape base slot.2 part.2)
      slots parts) (measure : ν → Nat) :
    ∃ values, List.Forall₂ (fun source value => Reads shape base (.ref source) value)
        (references slots) values ∧
      (values.map measure).sum ≤ (parts.map fun part => measure part.2).sum := by
  induction hslots with
  | nil => exact ⟨[], .nil, Nat.le_refl 0⟩
  | cons hhead htail ih =>
    rename_i slot part slots parts
    obtain ⟨values, hvalues, hsum⟩ := ih
    obtain ⟨label, held⟩ := slot
    rw [List.map_cons, List.sum_cons]
    cases held with
    | leaf leaf => exact ⟨values, hvalues, Nat.le_trans hsum (Nat.le_add_left _ _)⟩
    | ref address =>
      refine ⟨part.2 :: values, .cons hhead.2 hvalues, ?_⟩
      rw [List.map_cons, List.sum_cons]
      exact Nat.add_le_add_left hsum _

/-- One round fills one object and adds the entries of what it refers to. -/
theorem Progress.step {store : Store κ ι σ} {target source : Nat} {pending : List (Nat × Nat)}
    (h : Progress shape base origin done ⟨store, (target, source) :: pending⟩)
    {original : Cell κ ι σ} (horiginal : base[source]? = some original)
    (hreadable : ∀ other ∈ references original.slots,
      ∃ value, Reads shape base (.ref other) value) :
    ∃ later, Progress shape base (origin ++ references original.slots) later
        (fill target source ⟨store, pending⟩) ∧
      (fill target source ⟨store, pending⟩).pending =
        entriesFor store.length (references original.slots) ++ pending := by
  obtain ⟨i, htarget, hsource, hempty⟩ := h.empty (target, source) (List.mem_cons_self ..)
  dsimp only at htarget hsource
  have hi : i < origin.length := (List.getElem?_eq_some_iff.mp hsource).1
  have hnodup := h.nodup
  rw [List.map_cons, List.nodup_cons] at hnodup
  have hpending : ∀ entry ∈ pending, ∃ j, entry.1 = base.length + j ∧
      origin[j]? = some entry.2 ∧ done j = [] ∧ j ≠ i := by
    intro entry hentry
    obtain ⟨j, hentryTarget, hother, hdone⟩ := h.empty entry (List.mem_cons_of_mem _ hentry)
    refine ⟨j, hentryTarget, hother, hdone, fun hsame => hnodup.1 ?_⟩
    rw [htarget, ← hsame, ← hentryTarget]
    exact List.mem_map.mpr ⟨entry, hentry, rfl⟩
  have hpresent : ∀ address ∈ references original.slots, ∃ cell, base[address]? = some cell := by
    intro address haddress
    obtain ⟨value, hvalue⟩ := hreadable address haddress
    exact ⟨_, List.getElem?_eq_getElem hvalue.lt_length⟩
  have hfill : fill target source ⟨store, pending⟩ =
      original.slots.foldl (put (base.length + i)) ⟨store, pending⟩ := by
    rw [fill, cell_of_extension h.copied.old horiginal, htarget]
  obtain ⟨hcopied, hentries⟩ := foldl_put ⟨store, pending⟩ h.copied hi hpresent
  rw [hfill]
  refine ⟨advance done i original.slots, ⟨hcopied, ?_, ?_, ?_, ?_⟩, hentries⟩
  · intro other hother
    rcases List.mem_append.mp hother with hother | hother
    · exact h.readable other hother
    · exact hreadable other hother
  · rw [hentries, List.map_append, entriesFor_targets, List.nodup_append]
    refine ⟨(List.reverse_perm _).nodup_iff.mpr (List.nodup_range' 1), hnodup.2, ?_⟩
    intro address haddress other hother
    rw [List.mem_reverse, List.mem_range'] at haddress
    obtain ⟨k, -, hk⟩ := haddress
    obtain ⟨entry, hentry, rfl⟩ := List.mem_map.mp hother
    obtain ⟨j, hentryTarget, hfound, -⟩ := hpending entry hentry
    have hj := (List.getElem?_eq_some_iff.mp hfound).1
    have hlength := h.copied.length
    dsimp only at hlength hk
    omega
  · intro entry hentry
    rw [hentries, List.mem_append, mem_entriesFor] at hentry
    rcases hentry with ⟨k, hk, hreference⟩ | hentry
    · have hlength := h.copied.length
      dsimp only at hlength hk
      refine ⟨origin.length + k, by omega, ?_, ?_⟩
      · rw [List.getElem?_append_right (by omega), Nat.add_sub_cancel_left, hreference]
      · rw [advance, if_neg (by omega), h.copied.absent _ (by omega)]
    · obtain ⟨j, hentryTarget, hfound, hdone, hne⟩ := hpending entry hentry
      have hj := (List.getElem?_eq_some_iff.mp hfound).1
      refine ⟨j, hentryTarget, by rwa [List.getElem?_append_left hj], ?_⟩
      rw [advance, if_neg hne, hdone]
  · intro j other cell hother hcell houtside
    rw [hentries, List.map_append, List.mem_append, not_or] at houtside
    by_cases hj : j < origin.length
    · rw [List.getElem?_append_left hj] at hother
      by_cases hsame : j = i
      · have hequal : source = other := by
          rw [hsame, hsource] at hother
          exact Option.some.inj hother
        rw [← hequal, horiginal] at hcell
        rw [advance, if_pos hsame, hempty, List.nil_append, Option.some.inj hcell]
      · rw [advance, if_neg hsame]
        refine h.finished j other cell hother hcell ?_
        rw [List.map_cons, List.mem_cons, not_or]
        exact ⟨by omega, houtside.2⟩
    · exfalso
      rw [List.getElem?_append_right (by omega)] at hother
      refine houtside.1 (List.mem_map.mpr ⟨(base.length + j, other), ?_, rfl⟩)
      have hlength := h.copied.length
      dsimp only at hlength
      exact mem_entriesFor.mpr ⟨j - origin.length, by dsimp only; omega, hother⟩

/-- The loop ends with every new object complete, when its bound covers what is to be copied. -/
theorem Progress.run {measure : ν → Nat}
    (hmeasure : ∀ value kind parts, shape value = .node kind parts →
      (parts.map fun part => measure part.2).sum + 1 ≤ measure value) {fuel : Nat}
    {work : Copying κ ι σ} (h : Progress shape base origin done work) {values : List ν}
    (hvalues : List.Forall₂ (fun source value => Reads shape base (.ref source) value)
      (work.pending.map Prod.snd) values) (hfuel : (values.map measure).sum ≤ fuel) :
    ∃ added later, Progress shape base (origin ++ added) later ⟨copyLoop fuel work, []⟩ := by
  induction fuel generalizing origin done work values with
  | zero =>
    obtain ⟨store, pending⟩ := work
    cases pending with
    | nil => exact ⟨[], done, by simpa [copyLoop] using h⟩
    | cons entry pending =>
      cases hvalues with
      | cons hread hrest =>
        rename_i value values
        obtain ⟨kind, parts, slots, hshape, -, -⟩ := hread.parts
        have hpositive := hmeasure value kind parts hshape
        rw [List.map_cons, List.sum_cons] at hfuel
        omega
  | succ fuel ih =>
    obtain ⟨store, pending⟩ := work
    cases pending with
    | nil => exact ⟨[], done, by simpa [copyLoop] using h⟩
    | cons entry pending =>
      obtain ⟨target, source⟩ := entry
      cases hvalues with
      | cons hread hrest =>
        rename_i value values
        obtain ⟨kind, parts, slots, hshape, hcell, hparts⟩ := hread.parts
        obtain ⟨inside, hinside, hsum⟩ := readable_references hparts measure
        have hreadable : ∀ other ∈ references slots,
            ∃ value, Reads shape base (.ref other) value := by
          intro other hother
          obtain ⟨k, hk, hget⟩ := List.mem_iff_getElem.mp hother
          have hat := (List.forall₂_iff_get.mp hinside).2 k hk (hinside.length_eq ▸ hk)
          simp only [List.get_eq_getElem, hget] at hat
          exact ⟨_, hat⟩
        obtain ⟨later, hstep, hentries⟩ := h.step hcell hreadable
        have hpositive := hmeasure value kind parts hshape
        rw [List.map_cons, List.sum_cons] at hfuel
        have hnext : List.Forall₂ (fun source value => Reads shape base (.ref source) value)
            ((fill target source ⟨store, pending⟩).pending.map Prod.snd)
              (inside.reverse ++ values) := by
          rw [hentries, List.map_append, entriesFor_sources]
          exact List.rel_append (List.rel_reverse hinside) hrest
        have hbound : ((inside.reverse ++ values).map measure).sum ≤ fuel := by
          rw [List.map_append, List.sum_append, List.map_reverse, List.sum_reverse]
          omega
        obtain ⟨added, final, hfinal⟩ := ih hstep hnext hbound
        exact ⟨references slots ++ added, final, by
          rw [← List.append_assoc]
          exact hfinal⟩

/-- After the loop, a copy reads as its original does. -/
theorem Progress.reads {later : Store κ ι σ} (h : Progress shape base origin done ⟨later, []⟩)
    {slot : Slot σ} {value : ν} (hread : Reads shape base slot value) {copy : Slot σ}
    (hcopy : CopyOf base origin slot copy) : Reads shape later copy value := by
  induction hread generalizing copy with
  | leaf hshape =>
    cases hcopy
    exact .leaf hshape
  | @node value kind parts address slots hshape hcell hlabels _ ih =>
    cases hcopy with
    | @ref i _ hsource =>
      obtain ⟨original, copies, horiginal, hfound, hmirrors⟩ := h.copied.copies i _ hsource
      have hsame := Option.some.inj (hcell.symm.trans horiginal)
      rw [h.finished i _ original hsource horiginal (by simp), ← hsame] at hmirrors
      rw [← hsame] at hfound
      refine .node hshape hfound ?_ ?_
      · rw [← hlabels]
        exact (map_fst_of_mirror hmirrors).symm
      · intro j slot part hslot hpart
        obtain ⟨first, hfirst, hmirror⟩ := getElem_of_mirror hmirrors hslot
        exact ih j first part hfirst hpart hmirror.held

/-- After the loop, only new objects can be reached from a new object. -/
theorem Progress.fresh {later : Store κ ι σ} (h : Progress shape base origin done ⟨later, []⟩)
    {i : Nat} (hi : i < origin.length) {address : Nat}
    (hreach : Reachable later (.ref (base.length + i)) address) :
    ∃ j, address = base.length + j ∧ j < origin.length := by
  induction hreach with
  | root hstart =>
    cases hstart
    exact ⟨i, rfl, hi⟩
  | step _ hcell hslot ih =>
    obtain ⟨j, rfl, hj⟩ := ih
    obtain ⟨original, copies, horiginal, hfound, hmirrors⟩ :=
      h.copied.copies j _ (List.getElem?_eq_getElem hj)
    have hsame := Option.some.inj (hcell.symm.trans hfound)
    rw [hsame] at hslot
    obtain ⟨k, hk, hget⟩ := List.mem_iff_getElem.mp hslot
    obtain ⟨first, -, hmirror⟩ := getElem_of_mirror hmirrors
      ((List.getElem?_eq_getElem hk).trans (congrArg some hget))
    obtain ⟨firstLabel, held⟩ := first
    cases hmirror.held with
    | @ref j source hsource => exact ⟨j, rfl, (List.getElem?_eq_some_iff.mp hsource).1⟩

/-- What a copy of a slot is: the old objects are unchanged, it reads as the same value, and no
object can be reached both from it and from the original. -/
structure IsCopy (shape : ν → Shape κ ι σ ν) (store : Store κ ι σ) (slot : Slot σ) (value : ν)
    (later : Store κ ι σ) (copy : Slot σ) : Prop where
  /-- The old objects are unchanged. -/
  old : store <+: later
  /-- The copy reads as the same value. -/
  reads : Reads shape later copy value
  /-- Only new objects can be reached from the copy. -/
  fresh : ∀ address, Reachable later copy address → store.length ≤ address
  /-- No object can be reached from both. -/
  disjoint : ∀ address, Reachable later copy address → ¬Reachable later slot address

/-- Nothing can be reached from a leaf. -/
theorem not_reachable_leaf {value : σ} {address : Nat} :
    ¬Reachable store (.leaf value) address := by
  intro h
  induction h with
  | root h => cases h
  | step _ _ _ ih => exact ih

/-- After objects were added, only old ones can be reached from an old slot. -/
theorem Reads.reachable_lt {slot : Slot σ} {value : ν} (h : Reads shape base slot value)
    (hold : base <+: store) {address : Nat} (hreach : Reachable store slot address) :
    address < base.length := by
  have hreadable : ∃ other, Reads shape base (.ref address) other := by
    induction hreach with
    | root hstart => exact ⟨value, hstart ▸ h⟩
    | step _ hcell hslot ih =>
      obtain ⟨other, hother⟩ := ih
      have hlt := hother.lt_length
      have hfound := cell_of_extension hold (List.getElem?_eq_getElem hlt)
      rw [Option.some.inj (hcell.symm.trans hfound)] at hslot
      exact hother.reachable (.step (.root rfl) (List.getElem?_eq_getElem hlt) hslot)
  obtain ⟨other, hother⟩ := hreadable
  exact hother.lt_length

/-- The loop copies what a slot holds, when its bound covers the value the slot reads as. -/
theorem copySlot_isCopy {measure : ν → Nat}
    (hmeasure : ∀ value kind parts, shape value = .node kind parts →
      (parts.map fun part => measure part.2).sum + 1 ≤ measure value) {fuel : Nat}
    {slot : Slot σ} {value : ν} (h : Reads shape store slot value) (hfuel : measure value ≤ fuel) :
    IsCopy shape store slot value (copySlot fuel store slot).1 (copySlot fuel store slot).2 := by
  cases slot with
  | leaf leaf =>
    exact ⟨List.prefix_refl _, h, fun _ hreach => absurd hreach not_reachable_leaf,
      fun _ hreach => absurd hreach not_reachable_leaf⟩
  | ref address =>
    obtain ⟨kind, parts, slots, -, hcell, -⟩ := h.parts
    have hcopied : Copied store (store ++ [⟨kind, []⟩]) [address] fun _ => [] := by
      refine ⟨List.prefix_append .., by simp, ?_, fun _ _ => rfl⟩
      intro i source hsource
      obtain ⟨hi, hget⟩ := List.getElem?_eq_some_iff.mp hsource
      have hzero : i = 0 := by simpa using hi
      have hsame : address = source := by simpa [hzero] using hsource
      refine ⟨⟨kind, slots⟩, [], hsame ▸ hcell, ?_, .nil⟩
      simp [hzero]
    have hstart : Progress shape store [address] (fun _ => [])
        ⟨store ++ [⟨kind, []⟩], [(store.length, address)]⟩ := by
      refine ⟨hcopied, by simpa using ⟨value, h⟩, by simp, ?_, ?_⟩
      · intro entry hentry
        rw [List.mem_singleton.mp hentry]
        exact ⟨0, rfl, rfl, rfl⟩
      · intro i source original hsource _ houtside
        obtain ⟨hi, -⟩ := List.getElem?_eq_some_iff.mp hsource
        have hzero : i = 0 := by simpa using hi
        exact absurd (by simp [hzero]) houtside
    have hvalues : List.Forall₂ (fun source value => Reads shape store (.ref source) value)
        [address] [value] := .cons h .nil
    have hbound : ([value].map measure).sum ≤ fuel := by simpa using hfuel
    obtain ⟨added, done, hfinal⟩ := hstart.run hmeasure hvalues hbound
    have hresult : copySlot fuel store (.ref address) = (copyLoop fuel
        ⟨store ++ [⟨kind, []⟩], [(store.length, address)]⟩, .ref store.length) := by
      rw [copySlot, hcell]
    rw [hresult]
    have hfresh : ∀ other, Reachable (copyLoop fuel
        ⟨store ++ [⟨kind, []⟩], [(store.length, address)]⟩) (.ref store.length) other →
          store.length ≤ other := by
      intro other hreach
      obtain ⟨j, rfl, -⟩ := hfinal.fresh (i := 0) (by simp) hreach
      exact Nat.le_add_right _ _
    refine ⟨hfinal.copied.old, hfinal.reads h (.ref (i := 0) rfl), hfresh, ?_⟩
    intro other hreach hboth
    have hlow := hfresh other hreach
    have hhigh := h.reachable_lt hfinal.copied.old hboth
    omega

end Copies

end ObjectGraphs
end AyyoHumanoid
