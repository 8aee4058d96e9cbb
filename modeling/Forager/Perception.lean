import Forager.Perception.Enemies
import Forager.Perception.Houses
import Forager.Perception.Items

/-!
# Perception

Before each walk the beliefs are brought up to date with the percept of the frame: the agent
itself, enemies, items and houses, in that order, and the reach of the pistols at the end.
-/
namespace Forager

/-- The beliefs with the reach of the pistols taken from the inventory. -/
def Beliefs.measureRange (b : Beliefs) : Beliefs :=
  { b with longestPistolRange := b.inventory.longestPistolRange }

namespace Gathering

variable {η : Type}

/-- The beliefs after perceiving a frame of `dt` seconds. -/
def perceive (config : Config) (host : Host η) (dt : Float32) (percept : Percept) (b : Beliefs)
    (world : η) : Gathering η :=
  let sighted :=
    { b with
      agentInfo := percept.agent
      knownEnemies := Enemy.merge dt b.knownEnemies percept.enemies }
  let g := ofPercept config host percept sighted world
  let houses := House.merge dt percept.agent.position g.beliefs.knownHouses percept.houses
  let b := { g.beliefs with knownHouses := houses.1, insideHouse := houses.2 }
  { g with beliefs := b.measureRange }

end Gathering
end Forager
