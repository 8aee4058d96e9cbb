import Forager.Decimal.Layout
import Forager.World.Vec2

/-!
# Configuration

The tuning of one agent. A configuration is checked before it is used; `problem?` finds the first
thing wrong with it, in a fixed order.

* `check_eq_ok_iff`: what the accepted configurations are.
-/
namespace Forager

structure Config where
  /-- Slots of the inventory. -/
  inventoryCapacity : Nat := 5
  /-- Pistols kept at once; a better find replaces the weakest one. -/
  maxPistols : Nat := 2
  /-- Health packs or food items kept at once, per kind. -/
  maxItemsPerKind : Nat := 3
  /-- Seconds before a visited house is worth searching again. -/
  secondsBetweenHouseRevisits : Float32 := 45
  /-- A resource is low once more than this fraction of its maximum is missing. -/
  lowResourceFraction : Float32 := 0.5
  /-- Stamina at which the agent runs again after exhausting it. -/
  maxStamina : Float32 := 10
  /-- Exploration waypoints, visited in order. -/
  searchPoints : List Vec2 := []
  deriving DecidableEq, Inhabited

/-- What is wrong with a configuration. -/
inductive ConfigProblem where
  | noCapacity
  | tooManyPistols (pistols capacity : Nat)
  | fractionOutOfRange (fraction : Float32)
  | negativeRevisitTime
  | noStamina
  deriving DecidableEq

def ConfigProblem.message : ConfigProblem → String
  | .noCapacity => "inventory_capacity must be at least 1"
  | .tooManyPistols pistols capacity =>
    s!"max_pistols_in_inventory ({pistols}) exceeds inventory_capacity ({capacity})"
  | .fractionOutOfRange fraction =>
    "low_resource_fraction must be in (0, 1], got " ++ Decimal.running.text fraction
  | .negativeRevisitTime => "seconds_between_house_revisits must not be negative"
  | .noStamina => "max_stamina must be positive"

namespace Config

def problem? (c : Config) : Option ConfigProblem :=
  if c.inventoryCapacity = 0 then some .noCapacity
  else if c.inventoryCapacity < c.maxPistols then
    some (.tooManyPistols c.maxPistols c.inventoryCapacity)
  else if ¬(0 < c.lowResourceFraction ∧ c.lowResourceFraction ≤ 1) then
    some (.fractionOutOfRange c.lowResourceFraction)
  else if ¬(0 ≤ c.secondsBetweenHouseRevisits) then some .negativeRevisitTime
  else if ¬(0 < c.maxStamina) then some .noStamina
  else none

def check (c : Config) : Except ConfigProblem Unit :=
  match c.problem? with
  | some p => .error p
  | none => .ok ()

theorem check_eq_ok_iff {c : Config} :
    c.check = .ok () ↔
      0 < c.inventoryCapacity ∧ c.maxPistols ≤ c.inventoryCapacity ∧
        0 < c.lowResourceFraction ∧ c.lowResourceFraction ≤ 1 ∧
        0 ≤ c.secondsBetweenHouseRevisits ∧ 0 < c.maxStamina := by
  have none_iff : c.check = .ok () ↔ c.problem? = none := by
    unfold check; cases c.problem? <;> simp
  rw [none_iff, problem?]
  grind

end Config
end Forager
