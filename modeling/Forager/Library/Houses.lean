import Forager.Library.Basic

/-!
# Library leaves: houses

A house is due for a visit once the revisit interval has passed since the last one; one leaf asks
for strictly more. `setGoalToNextHouse` goes through the known houses in turn.
-/
namespace Forager.Library

open Schema

def knownHouseNotRecentlyVisited : Behaviour :=
  .test (((Leaf.named "KnownHouseNotRecentlyVisited").reads secondsBetweenHouseRevisits).reads
      knownHouses) do
    let revisit ← look secondsBetweenHouseRevisits
    let houses ← look knownHouses
    match revisit, houses with
    | some revisit, some houses => return houses.any (House.isDue · revisit)
    | _, _ => return false

def currentlyInsideHouse : Behaviour :=
  .test ((Leaf.named "CurrentlyInsideHouse").reads insideHouse) do
    return (← look insideHouse).any id

/-- The centre of the closest house that qualifies. -/
def closestHouse? (qualifies : House → Float32 → Bool) : Query EntryType (Option Vec2) := do
  let agent ← look agentInfo
  let revisit ← look secondsBetweenHouseRevisits
  let houses ← look knownHouses
  match agent, revisit, houses with
  | some agent, some revisit, some houses =>
    return (nearestElement? (houses.filter (qualifies · revisit)) agent.position (·.center)).map
      (·.center)
  | _, _, _ => return none

def setGoalToHouse (name : String) (qualifies : House → Float32 → Bool) : Behaviour :=
  .act ((((((Leaf.named name).reads agentInfo).reads secondsBetweenHouseRevisits).reads
      knownHouses).writes goal).writes goalSet) do
    match ← closestHouse? qualifies with
    | some target => setGoal target
    | none => return .failure

def setGoalToClosestHouseNotRecentlyVisited : Behaviour :=
  setGoalToHouse "SetGoalToClosestHouseNotRecentlyVisited" House.isDue

def setGoalToNearestHouse : Behaviour :=
  setGoalToHouse "SetGoalToNearestHouse" House.isOverdue

/-- Fails when the only known house is the one the agent stands in. -/
def setGoalToNextHouse : Behaviour :=
  .act ((((((Leaf.named "SetGoalToNextHouse").reads knownHouses).reads insideHouse).writes
      nextHouseIndex).writes goal).writes goalSet) do
    let houses ← look knownHouses
    let inside ← look insideHouse
    let index ← look nextHouseIndex
    match houses, inside, index with
    | some houses, some inside, some index =>
      if houses.length = 1 ∧ inside = true then return .failure
      else
        let next := (index + 1) % houses.length
        match houses[next]? with
        | some house =>
          if ← goalWritable then
            if ← write nextHouseIndex next then setGoal house.center else return .failure
          else return .failure
        | none => return .failure
    | _, _, _ => return .failure

end Forager.Library
