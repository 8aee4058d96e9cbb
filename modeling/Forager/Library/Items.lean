import Forager.Library.Basic

/-!
# Library leaves: items on the ground

What to collect next: the nearest health pack if it would not be wasted or if neither food nor a
pistol is known; then the nearest food if it fills what is missing or if no pistol is known; then
the nearest pistol; then the nearest item not yet inspected.
-/
namespace Forager.Library

open Schema

def haveInventorySpace : Behaviour :=
  .test ((Leaf.named "HaveInventorySpace").reads inventory) do
    return (← look inventory).any (·.hasSpace)

def knowOfItemsOnGround : Behaviour :=
  .test (((((Leaf.named "KnowOfItemsOnGround").reads knownItems).reads knownHealthPacks).reads
      knownFoodItems).reads knownPistols) do
    let items ← look knownItems
    let packs ← look knownHealthPacks
    let foods ← look knownFoodItems
    let pistols ← look knownPistols
    match items, packs, foods, pistols with
    | some items, some packs, some foods, some pistols =>
      return !(items.isEmpty && packs.isEmpty && foods.isEmpty && pistols.isEmpty)
    | _, _, _, _ => return false

/-- Where to go for the next item, from the nearest of each sort. -/
def collectionTarget? (healthNeeded energyNeeded : UInt32) (pack : Option HealthPack)
    (meal : Option Food) (pistol : Option Pistol) (distant : Option DistantItem) : Option Vec2 :=
  let packTarget := pack.filter fun h =>
    decide (h.healing ≤ healthNeeded) || (meal.isNone && pistol.isNone)
  let mealTarget := meal.filter fun f => decide (energyNeeded ≤ f.energy) || pistol.isNone
  (packTarget.map (·.position)).or ((mealTarget.map (·.position)).or
    ((pistol.map (·.position)).or (distant.map (·.position))))

def setNearestItemAsGoal : Behaviour :=
  .act ((((((((((Leaf.named "SetNearestItemAsGoal").reads agentInfo).reads maxHealth).reads
      maxEnergy).reads knownItems).reads knownHealthPacks).reads knownFoodItems).reads
      knownPistols).writes goal).writes goalSet) do
    let agent ← look agentInfo
    let maxHealth ← look maxHealth
    let maxEnergy ← look maxEnergy
    match agent, maxHealth, maxEnergy with
    | some agent, some maxHealth, some maxEnergy =>
      let items ← look knownItems
      let packs ← look knownHealthPacks
      let foods ← look knownFoodItems
      let pistols ← look knownPistols
      match items, packs, foods, pistols with
      | some items, some packs, some foods, some pistols =>
        let origin := agent.position
        match collectionTarget? (pointsMissing maxHealth agent.health)
            (pointsMissing maxEnergy agent.energy)
            (nearestElement? packs origin (·.position)) (nearestElement? foods origin (·.position))
            (nearestElement? pistols origin (·.position))
            (nearestElement? items origin (·.position)) with
        | some target => setGoal target
        | none => return .failure
      | _, _, _, _ => return .failure
    | _, _, _ => return .failure

end Forager.Library
