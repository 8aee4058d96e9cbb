import Forager.Library.Basic

/-!
# Library leaves: health and energy

A resource is low once the whole points missing exceed the configured fraction of its maximum.
Asking for a heal ends the walk; asking for a meal fails on purpose, so the agent also heads for
food on the ground in the same walk.
-/
namespace Forager.Library

open Schema

/-! ## Health -/

def notMaxHealth : Behaviour :=
  .test (((Leaf.named "NotMaxHealth").reads agentInfo).reads maxHealth) do
    let agent ← look agentInfo
    let maximum ← look maxHealth
    match agent, maximum with
    | some agent, some maximum => return 0 < pointsMissing maximum agent.health
    | _, _ => return false

def lowHealth : Behaviour :=
  .test ((((Leaf.named "LowHealth").reads agentInfo).reads maxHealth).reads
      lowResourceFraction) do
    let agent ← look agentInfo
    let maximum ← look maxHealth
    let fraction ← look lowResourceFraction
    match agent, maximum, fraction with
    | some agent, some maximum, some fraction => return isLow maximum agent.health fraction
    | _, _, _ => return false

def knowLocationOfHealthPacks : Behaviour :=
  .test ((Leaf.named "KnowLocationOfHealthPacks").reads knownHealthPacks) do
    return (← look knownHealthPacks).any (!·.isEmpty)

def setClosestKnownHealthPackAsGoal : Behaviour :=
  .act (((((Leaf.named "SetClosestKnownHealthPackAsGoal").reads agentInfo).reads
      knownHealthPacks).writes goal).writes goalSet) do
    let agent ← look agentInfo
    let packs ← look knownHealthPacks
    match agent, packs with
    | some agent, some packs =>
      match nearestElement? packs agent.position (·.position) with
      | some pack => setGoal pack.position
      | none => return .failure
    | _, _ => return .failure

def hasHealthItem : Behaviour :=
  .test ((Leaf.named "HasHealthItem").reads inventory) do
    return (← look inventory).any (·.contains .health)

/-- Asks the controller to apply a health pack after this walk. -/
def useHealthItem : Behaviour :=
  .act ((Leaf.named "UseHealthItem").writes Schema.useHealthItem) do
    return .ofBool (← write Schema.useHealthItem true)

/-! ## Energy -/

def notMaxEnergy : Behaviour :=
  .test (((Leaf.named "NotMaxEnergy").reads agentInfo).reads maxEnergy) do
    let agent ← look agentInfo
    let maximum ← look maxEnergy
    match agent, maximum with
    | some agent, some maximum => return 0 < pointsMissing maximum agent.energy
    | _, _ => return false

def lowEnergy : Behaviour :=
  .test ((((Leaf.named "LowEnergy").reads agentInfo).reads maxEnergy).reads
      lowResourceFraction) do
    let agent ← look agentInfo
    let maximum ← look maxEnergy
    let fraction ← look lowResourceFraction
    match agent, maximum, fraction with
    | some agent, some maximum, some fraction => return isLow maximum agent.energy fraction
    | _, _, _ => return false

def hasFoodItem : Behaviour :=
  .test ((Leaf.named "HasFoodItem").reads inventory) do
    return (← look inventory).any (·.contains .food)

def knowLocationOfFoodItems : Behaviour :=
  .test ((Leaf.named "KnowLocationOfFoodItems").reads knownFoodItems) do
    return (← look knownFoodItems).any (!·.isEmpty)

def setClosestKnownFoodItemAsGoal : Behaviour :=
  .act (((((Leaf.named "SetClosestKnownFoodItemAsGoal").reads agentInfo).reads
      knownFoodItems).writes goal).writes goalSet) do
    let agent ← look agentInfo
    let foods ← look knownFoodItems
    match agent, foods with
    | some agent, some foods =>
      match nearestElement? foods agent.position (·.position) with
      | some food => setGoal food.position
      | none => return .failure
    | _, _ => return .failure

/-- Asks the controller to eat after this walk. -/
def useFoodItem : Behaviour :=
  .act ((Leaf.named "UseFoodItem").writes Schema.useFoodItem) do
    let _ ← write Schema.useFoodItem true
    return .failure

end Forager.Library
