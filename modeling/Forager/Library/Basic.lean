import Forager.Choice
import Forager.Node
import Forager.Schema
import Forager.World.Need

/-!
# Library leaves: the common ground

A `Behaviour` is a leaf that works on the blackboard alone: a test or an action, with the keys it
declares. Tests that cannot read their entries do not hold; actions that cannot read theirs fail
without writing anything. A look-up is made even if an earlier one of the same group failed.

`nearest?` picks the first closest element.

* `nearest?_eq_none_iff`: only an empty list has none.
-/
namespace Forager

inductive Behaviour where
  | test (leaf : Leaf EntryType) (holds : Query EntryType Bool)
  | act (leaf : Leaf EntryType) (run : Edit EntryType Status)

namespace Behaviour

def leaf : Behaviour → Leaf EntryType
  | .test leaf _ => leaf
  | .act leaf _ => leaf

/-- The behaviour as a node of a tree, whatever the other leaves of the tree remember. -/
def node {μ : Type} : Behaviour → Node EntryType μ
  | .test leaf holds => .condition leaf false holds
  | .act leaf run => .action leaf fun s =>
    let r := run s.board
    (r.1, { s with board := r.2 })

@[simp] theorem leaf?_node {μ : Type} (b : Behaviour) :
    (b.node : Node EntryType μ).leaf? = some b.leaf := by cases b <;> rfl

end Behaviour

namespace Library

/-- The value of a schema key, if it is there with the right type. -/
def look {t : EntryType} (k : Key t) : Query EntryType (Option t.Carrier) := Query.look k

/-- Overwrites a schema key; whether that worked. -/
def write {t : EntryType} (k : Key t) (v : t.Carrier) : Edit EntryType Bool := Edit.write k v

/-! ## Goals -/

/-- Whether both goal entries are there. -/
def goalWritable : Query EntryType Bool := do
  if (← look Schema.goal).isSome then return (← look Schema.goalSet).isSome
  else return false

/-- Heads for `target`: writes the goal and raises `GoalSet`, or neither. -/
def setGoal (target : Vec2) : Edit EntryType Status := do
  if ← goalWritable then
    if ← write Schema.goal target then return .ofBool (← write Schema.goalSet true)
    else return .failure
  else return .failure

/-! ## Distances -/

/-- Index, element and distance of the first element closest to `origin`. -/
def nearest? {α : Type} (items : List α) (origin : Vec2) (position : α → Vec2) :
    Option (Nat × α × Float32) :=
  choose (fun best c => best.2.2 ≤ c.2.2)
    (items.zipIdx.map fun s => (s.2, s.1, (position s.1).distance origin))

theorem nearest?_eq_none_iff {α : Type} {items : List α} {origin : Vec2} {position : α → Vec2} :
    nearest? items origin position = none ↔ items = [] := by
  rw [nearest?, choose_eq_none_iff, List.map_eq_nil_iff, List.zipIdx_eq_nil_iff]

/-- The first closest element. -/
def nearestElement? {α : Type} (items : List α) (origin : Vec2) (position : α → Vec2) : Option α :=
  (nearest? items origin position).map (·.2.1)

end Library
end Forager
