import Forager.World.Inventory
import Forager.World.Percept

/-!
# Needs

How much of a resource the agent is missing, and which items fill it up: health packs for health,
food for energy. Amounts are whole points, so what is missing is rounded down.
-/
namespace Forager

/-- Whole points missing from `current` to reach `maximum`. -/
def pointsMissing (maximum current : Float32) : UInt32 :=
  Single.whole (Single.larger (maximum - current) 0)

/-- Whether more than the given fraction of the maximum is missing. -/
def isLow (maximum current fraction : Float32) : Bool :=
  maximum * fraction < (pointsMissing maximum current).toFloat32

inductive Resource where
  | health | energy
  deriving DecidableEq, Repr

namespace Resource

/-- The kind of items that fill the resource up. -/
def kind : Resource → ItemKind
  | .health => .health
  | .energy => .food

/-- How much of the resource the agent has. -/
def level : Resource → Agent → Float32
  | .health, a => a.health
  | .energy, a => a.energy

/-- The slot of the item that fills up most without overshooting. -/
def bestSlot? : Resource → Inventory → UInt32 → Option Nat
  | .health, inv, needed => inv.bestHealthPack? needed
  | .energy, inv, needed => inv.bestFood? needed

end Resource
end Forager
