import Forager.Library

/-!
# The standard tree

The agent's priorities, highest first. The branches that clear a reached goal and the shooting
branch always fail on purpose, so the branches below them still have their say in the same walk.
-/
namespace Forager.StandardTree

open Library

variable {μ : Type}

abbrev AgentNode (μ : Type) := Node EntryType μ

def clearReachedGoal : AgentNode μ :=
  (Node.sequence [isGoalSet.node, hasReachedGoal.node, setGoalSetFalse.node]).labelled
    "ClearReachedGoal"

def clearReachedSoftGoal : AgentNode μ :=
  (Node.sequence [isSoftGoalSet.node, hasReachedSoftGoal.node, setSoftGoalSetFalse.node]).labelled
    "ClearReachedSoftGoal"

def heal : AgentNode μ :=
  (Node.sequence [lowHealth.node, hasHealthItem.node, useHealthItem.node]).labelled "Heal"

def fetchHealthPack : AgentNode μ :=
  (Node.sequence [lowHealth.node, knowLocationOfHealthPacks.node,
    setClosestKnownHealthPackAsGoal.node, changeToSeek.node]).labelled "FetchHealthPack"

def healthBranch : AgentNode μ := (Node.selector [heal, fetchHealthPack]).labelled "Health"

def eat : AgentNode μ :=
  (Node.sequence [lowEnergy.node, hasFoodItem.node, useFoodItem.node]).labelled "Eat"

def fetchFood : AgentNode μ :=
  (Node.sequence [lowEnergy.node, knowLocationOfFoodItems.node,
    setClosestKnownFoodItemAsGoal.node, changeToSeek.node]).labelled "FetchFood"

/-- Eating fails on purpose, so a low agent that knows of food also heads for it. -/
def energyBranch : AgentNode μ := (Node.selector [eat, fetchFood]).labelled "Energy"

def shootBranch : AgentNode μ :=
  (Node.sequence [hasLoadedPistol.node, hasEnemyInFov.node, hasEnemyInRange.node,
    aimAtNearestEnemyInFov.node, shootPistol.node]).labelled "Shoot"

def collectItemsBranch : AgentNode μ :=
  (Node.sequence [haveInventorySpace.node, knowOfItemsOnGround.node, setNearestItemAsGoal.node,
    changeToSeek.node]).labelled "CollectItems"

def visitHousesBranch : AgentNode μ :=
  (Node.sequence [currentlyInsideHouse.node.inverted, knownHouseNotRecentlyVisited.node,
    setGoalToClosestHouseNotRecentlyVisited.node, changeToSeek.node]).labelled "VisitHouses"

def exploreBranch : AgentNode μ :=
  (Node.sequence [mapSearchedEntirely.node.inverted,
    Node.selector [Node.sequence [arrivedAtNextSearchPoint.node, incrementSearchPoint.node],
      setGoalToNextSearchPoint.node],
    changeToSeek.node]).labelled "Explore"

/-- The whole tree. -/
def root : AgentNode μ :=
  (Node.selector [clearReachedGoal, clearReachedSoftGoal, healthBranch, energyBranch, shootBranch,
    collectItemsBranch, visitHousesBranch, exploreBranch, changeToWander.node]).labelled "Survive"

end Forager.StandardTree
