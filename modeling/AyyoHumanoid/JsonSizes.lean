import AyyoHumanoid.JsonBounds
import Mathlib.Algebra.Order.BigOperators.Group.List
import Mathlib.Algebra.Order.Group.Nat

/-!
# Sizes of dictionaries

A document is counted key by key: the characters of its keys are a constant of
the document's shape, and a single entry gives a lower bound.
-/

namespace AyyoHumanoid
namespace Json

open PyText

/-- A dictionary counts itself and a value for each key. -/
theorem length_lt_nodes {entries : List (PyStr × Json)} {count : Nat}
    (h : entries.length = count) : count + 1 ≤ (Json.obj entries).nodes := by
  have hvalues := length_le_nodes (entries.map Prod.snd)
  rw [List.length_map, List.map_map, h] at hvalues
  rw [nodes_obj, Nat.add_comm]
  exact Nat.add_le_add_left hvalues 1

/-- A dictionary has the characters of its keys and of any of its values. -/
theorem characters_entry {entries : List (PyStr × Json)} {keys : List PyStr}
    (hkeys : entries.map Prod.fst = keys) (i : Nat) (key : PyStr) {value : Json}
    (hentry : entries[i]? = some (key, value)) :
    (keys.map List.length).sum + value.characters ≤ (Json.obj entries).characters := by
  rw [characters_obj, ← hkeys, List.map_map]
  refine Nat.add_le_add_left (List.le_sum_of_mem ?_) _
  exact List.mem_map.mpr ⟨(key, value), List.mem_of_getElem? hentry, rfl⟩

/-- The characters of a dictionary, from those of its keys. -/
theorem characters_of_keys {entries : List (PyStr × Json)} (keys : List PyStr)
    (hkeys : entries.map Prod.fst = keys) : (Json.obj entries).characters =
      (keys.map List.length).sum + (entries.map fun entry => entry.2.characters).sum := by
  rw [characters_obj, ← hkeys, List.map_map]
  rfl

/-- An integer is one value. -/
theorem nodes_int (value : Int) : (Json.int value).nodes = 1 := by
  simp [nodes_eq, children]

/-- An integer has no characters. -/
theorem characters_int (value : Int) : (Json.int value).characters = 0 := by
  simp [characters_eq, children, ownCharacters]

/-- A measure that exceeds another by at most a constant exceeds its sum by at most that often. -/
theorem sum_map_le_add {α : Type} {values : List α} {measure other : α → Nat} {constant : Nat}
    (h : ∀ value ∈ values, measure value ≤ constant + other value) :
    (values.map measure).sum ≤ constant * values.length + (values.map other).sum := by
  induction values with
  | nil => simp
  | cons value values ih =>
    have hhead := h value (by simp)
    have htail := ih fun v hv => h v (by simp [hv])
    rw [List.map_cons, List.sum_cons, List.map_cons, List.sum_cons, List.length_cons,
      Nat.mul_add, Nat.mul_one]
    omega

end Json
end AyyoHumanoid
