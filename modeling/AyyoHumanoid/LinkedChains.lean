import Mathlib.Data.List.Chain
import Mathlib.Data.List.Forall2
import Mathlib.Data.List.Nodup

/-!
# Chains of a ranked link relation

A link relation whose links increase a bounded rank has no cycles, and every
element lies on a maximal chain: one that starts at an element nothing links to
and ends at an element that links to nothing.
-/

namespace AyyoHumanoid
namespace LinkedChains

variable {α : Type}

/-- Links increase a rank that stays below a bound. -/
structure Ranked (link : α → α → Prop) (rank : α → Nat) (bound : Nat) : Prop where
  /-- A link increases the rank. -/
  up : ∀ {a b}, link a b → rank a < rank b
  /-- Linked elements rank below the bound. -/
  below : ∀ {a b}, link a b → rank b < bound

/-- A maximal chain of links. -/
structure IsHistory (link : α → α → Prop) (chain : List α) : Prop where
  /-- Consecutive elements are linked. -/
  linked : List.IsChain link chain
  /-- Nothing links to the first element. -/
  root : ∀ first ∈ chain.head?, ∀ before, ¬link before first
  /-- The last element links to nothing. -/
  tip : ∀ last ∈ chain.getLast?, ∀ after, ¬link last after

variable {link : α → α → Prop} {rank : α → Nat} {bound : Nat}

/-- Every element ends a chain that starts at a root. -/
theorem exists_chain_to (h : Ranked link rank bound) (a : α) :
    ∃ front, List.IsChain link (front ++ [a]) ∧
      ∀ first ∈ (front ++ [a]).head?, ∀ before, ¬link before first := by
  induction hrank : rank a using Nat.strong_induction_on generalizing a with
  | h n ih =>
    by_cases hroot : ∃ before, link before a
    · obtain ⟨before, hbefore⟩ := hroot
      have hlt : rank before < n := hrank ▸ h.up hbefore
      obtain ⟨front, hchain, hfirst⟩ := ih (rank before) hlt before rfl
      refine ⟨front ++ [before], ?_, ?_⟩
      · rw [List.append_assoc]
        exact List.isChain_append_cons_cons.mpr ⟨hchain, hbefore, List.isChain_singleton a⟩
      · have hhead : ((front ++ [before]) ++ [a]).head? = (front ++ [before]).head? := by
          cases front <;> rfl
        rw [hhead]
        exact hfirst
    · refine ⟨[], List.isChain_singleton a, ?_⟩
      intro first hfirst before hbefore
      have hsame : a = first := by simpa using hfirst
      exact hroot ⟨before, hsame ▸ hbefore⟩

/-- Every element starts a chain that ends at a tip. -/
theorem exists_chain_from (h : Ranked link rank bound) (a : α) :
    ∃ back, List.IsChain link (a :: back) ∧
      ∀ last ∈ (a :: back).getLast?, ∀ after, ¬link last after := by
  induction hrank : bound - rank a using Nat.strong_induction_on generalizing a with
  | h n ih =>
    by_cases htip : ∃ after, link a after
    · obtain ⟨after, hafter⟩ := htip
      have hup := h.up hafter
      have hbelow := h.below hafter
      obtain ⟨back, hchain, hlast⟩ := ih (bound - rank after) (by omega) after rfl
      refine ⟨after :: back, List.isChain_cons_cons.mpr ⟨hafter, hchain⟩, ?_⟩
      rw [List.getLast?_cons_cons]
      exact hlast
    · refine ⟨[], List.isChain_singleton a, ?_⟩
      intro last hlast after hafter
      have hsame : a = last := by simpa using hlast
      exact htip ⟨after, hsame ▸ hafter⟩

/-- Every element lies on a maximal chain. -/
theorem exists_history (h : Ranked link rank bound) (a : α) :
    ∃ front back, IsHistory link (front ++ a :: back) := by
  obtain ⟨front, hfront, hfirst⟩ := exists_chain_to h a
  obtain ⟨back, hback, hlast⟩ := exists_chain_from h a
  refine ⟨front, back, List.isChain_split.mpr ⟨hfront, hback⟩, ?_, ?_⟩
  · have hhead : (front ++ a :: back).head? = (front ++ [a]).head? := by
      cases front <;> rfl
    rw [hhead]
    exact hfirst
  · rw [List.getLast?_append_of_ne_nil _ (List.cons_ne_nil a back)]
    exact hlast

/-- A chain has no repeated element. -/
theorem nodup_of_isChain (h : Ranked link rank bound) {chain : List α}
    (hchain : List.IsChain link chain) : chain.Nodup := by
  have hranks : List.IsChain (fun a b => rank a < rank b) chain := hchain.imp fun _ _ => h.up
  have htrans : Trans (fun a b => rank a < rank b) (fun a b => rank a < rank b)
      (fun a b => rank a < rank b) := ⟨fun hab hbc => Nat.lt_trans hab hbc⟩
  have hpairwise := List.isChain_iff_pairwise.mp hranks
  exact hpairwise.imp fun hlt heq => by simp [heq] at hlt

/-- What links pass on from their source to their target holds along a chain. -/
theorem forall_mem_of_head {P : α → Prop} (hpass : ∀ a b, link a b → P a → P b) {first : α}
    {rest : List α} (hchain : List.IsChain link (first :: rest)) (hfirst : P first) :
    ∀ x ∈ first :: rest, P x := by
  induction rest generalizing first with
  | nil =>
    intro x hx
    rw [List.mem_singleton.mp hx]
    exact hfirst
  | cons second rest ih =>
    obtain ⟨hlink, htail⟩ := List.isChain_cons_cons.mp hchain
    intro x hx
    rcases List.mem_cons.mp hx with rfl | hx
    · exact hfirst
    · exact ih htail (hpass _ _ hlink hfirst) x hx

/-- What holds at both ends of every link and at one element holds along the chain. -/
theorem forall_mem_of_mem {P : α → Prop} (hends : ∀ a b, link a b → P a ∧ P b)
    {chain : List α} (hchain : List.IsChain link chain) {x : α} (hx : x ∈ chain) (hP : P x) :
    ∀ y ∈ chain, P y := by
  cases chain with
  | nil => cases hx
  | cons first rest =>
    have hpass : ∀ a b, link a b → P a → P b := fun a b hlink _ => (hends a b hlink).2
    refine forall_mem_of_head hpass hchain ?_
    cases rest with
    | nil => rwa [← List.mem_singleton.mp hx]
    | cons second rest => exact (hends _ _ (List.isChain_cons_cons.mp hchain).1).1

/-- A chain carries over to a list that corresponds to it element by element. -/
theorem isChain_of_forall₂ {β : Type} {R : α → β → Prop} {S : β → β → Prop}
    (hcarry : ∀ a b x y, link a b → R a x → R b y → S x y) {xs : List α} {ys : List β}
    (hforall : List.Forall₂ R xs ys) (hchain : List.IsChain link xs) : List.IsChain S ys := by
  induction hforall with
  | nil => exact List.isChain_nil
  | cons hfirst hrest ih =>
    cases hrest with
    | nil => exact List.isChain_singleton _
    | cons hsecond hrest =>
      obtain ⟨hlink, htail⟩ := List.isChain_cons_cons.mp hchain
      exact List.isChain_cons_cons.mpr ⟨hcarry _ _ _ _ hlink hfirst hsecond, ih htail⟩

/-- Every element of a chain but the last links to some element. -/
theorem exists_link_of_mem_dropLast {chain : List α} (hchain : List.IsChain link chain) {x : α}
    (hx : x ∈ chain.dropLast) : ∃ y ∈ chain, link x y := by
  induction chain with
  | nil => cases hx
  | cons first rest ih =>
    cases rest with
    | nil => cases hx
    | cons second rest =>
      obtain ⟨hlink, htail⟩ := List.isChain_cons_cons.mp hchain
      rw [List.dropLast_cons_cons] at hx
      rcases List.mem_cons.mp hx with rfl | hx
      · exact ⟨second, by simp, hlink⟩
      · obtain ⟨y, hy, hxy⟩ := ih htail hx
        exact ⟨y, List.mem_cons_of_mem _ hy, hxy⟩

/-- Every element on the left corresponds to some element on the right. -/
theorem exists_right_of_forall₂ {β : Type} {R : α → β → Prop} {xs : List α} {ys : List β}
    (hforall : List.Forall₂ R xs ys) {x : α} (hx : x ∈ xs) : ∃ y ∈ ys, R x y := by
  induction hforall with
  | nil => cases hx
  | cons hfirst hrest ih =>
    rcases List.mem_cons.mp hx with rfl | hx
    · exact ⟨_, by simp, hfirst⟩
    · obtain ⟨y, hy, hxy⟩ := ih hx
      exact ⟨y, List.mem_cons_of_mem _ hy, hxy⟩

/-- Every element on the right corresponds to some element on the left. -/
theorem exists_left_of_forall₂ {β : Type} {R : α → β → Prop} {xs : List α} {ys : List β}
    (hforall : List.Forall₂ R xs ys) {y : β} (hy : y ∈ ys) : ∃ x ∈ xs, R x y := by
  induction hforall with
  | nil => cases hy
  | cons hfirst hrest ih =>
    rcases List.mem_cons.mp hy with rfl | hy
    · exact ⟨_, by simp, hfirst⟩
    · obtain ⟨x, hx, hxy⟩ := ih hy
      exact ⟨x, List.mem_cons_of_mem _ hx, hxy⟩

/-- The first elements of corresponding lists correspond. -/
theorem exists_head_of_forall₂ {β : Type} {R : α → β → Prop} {xs : List α} {ys : List β}
    (hforall : List.Forall₂ R xs ys) {y : β} (hy : y ∈ ys.head?) : ∃ x ∈ xs.head?, R x y := by
  cases hforall with
  | nil => cases hy
  | cons hfirst _ =>
    have hsame := Option.some.inj hy
    exact ⟨_, rfl, hsame ▸ hfirst⟩

/-- The last elements of corresponding lists correspond. -/
theorem exists_getLast_of_forall₂ {β : Type} {R : α → β → Prop} {xs : List α} {ys : List β}
    (hforall : List.Forall₂ R xs ys) {y : β} (hy : y ∈ ys.getLast?) :
    ∃ x ∈ xs.getLast?, R x y := by
  induction hforall with
  | nil => cases hy
  | cons hfirst hrest ih =>
    cases hrest with
    | nil =>
      have hsame := Option.some.inj hy
      exact ⟨_, rfl, hsame ▸ hfirst⟩
    | cons hsecond hrest =>
      rw [List.getLast?_cons_cons] at hy ⊢
      exact ih hy

end LinkedChains
end AyyoHumanoid
