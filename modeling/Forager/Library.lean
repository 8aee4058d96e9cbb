import Forager.Library.Combat
import Forager.Library.Exploration
import Forager.Library.Goals
import Forager.Library.Houses
import Forager.Library.Items
import Forager.Library.Resources

/-!
# The leaf library

One of every leaf, in a fixed order, and the look-up of a leaf by its name.
-/
namespace Forager.Library

def all : List Behaviour :=
  [mapSearchedEntirely, arrivedAtNextSearchPoint, setGoalToNextSearchPoint, incrementSearchPoint,
   setGoalToNearestHouse, isGoalSet, hasReachedGoal, setGoalSetFalse, isSoftGoalSet,
   hasReachedSoftGoal, setSoftGoalSetFalse, haveInventorySpace, knowOfItemsOnGround,
   setNearestItemAsGoal, knownHouseNotRecentlyVisited, currentlyInsideHouse,
   setGoalToClosestHouseNotRecentlyVisited, setGoalToNextHouse, changeToSeek, changeToWander,
   notMaxHealth, lowHealth, knowLocationOfHealthPacks, setClosestKnownHealthPackAsGoal,
   hasHealthItem, useHealthItem, notMaxEnergy, lowEnergy, hasFoodItem, knowLocationOfFoodItems,
   setClosestKnownFoodItemAsGoal, useFoodItem, hasLoadedPistol, hasEnemyInFov, hasEnemyInRange,
   aimAtNearestEnemyInFov, shootPistol]

/-- The leaf of a given name. -/
def find? (name : String) : Option Behaviour := all.find? (·.leaf.name == name)

end Forager.Library
