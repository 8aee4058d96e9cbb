import Forager.World.Item

/-!
# What the agent perceives

The state of the agent itself, enemies, houses, and the percept of one frame: items close enough
to inspect, items seen from afar, and the enemies and houses in view.
-/
namespace Forager

/-- The state of the controlled agent. -/
structure Agent where
  position : Vec2 := .zero
  health : Float32 := 10
  energy : Float32 := 10
  stamina : Float32 := 10
  grabRange : Float32 := 2
  isInHouse : Bool := false
  deriving DecidableEq, Inhabited

structure Enemy where
  id : EntityId
  position : Vec2
  lastPosition : Vec2
  /-- Where the enemy is expected now: `position` in view, drifting along `velocity` out of it. -/
  predictedPosition : Vec2
  /-- Units per second, from the last two sightings. -/
  velocity : Vec2
  health : Float32
  inView : Bool
  deriving DecidableEq, Inhabited

structure House where
  id : EntityId
  center : Vec2
  size : Vec2
  secondsSinceLastVisit : Float32
  deriving DecidableEq, Inhabited

/-- Whether a point lies in the house, walls included. -/
def House.contains (h : House) (p : Vec2) : Bool := p.inBox h.center h.size

/-- Whether the revisit interval has passed since the last visit. -/
def House.isDue (h : House) (revisit : Float32) : Bool := revisit ≤ h.secondsSinceLastVisit

/-- Whether strictly more than the revisit interval has passed. -/
def House.isOverdue (h : House) (revisit : Float32) : Bool := revisit < h.secondsSinceLastVisit

/-- How the host moves the agent towards its goal. -/
inductive Steering where
  | wander | seek
  deriving DecidableEq, Repr, Inhabited

namespace Steering

/-- The name of the mode in stored data. -/
def name : Steering → String
  | .wander => "wander"
  | .seek => "seek"

/-- The name of the mode in printed tables. -/
def title : Steering → String
  | .wander => "Wander"
  | .seek => "Seek"

def ofName? : String → Option Steering
  | "wander" => some .wander
  | "seek" => some .seek
  | _ => none

@[simp] theorem ofName?_name (s : Steering) : ofName? s.name = some s := by cases s <;> rfl

end Steering

/-- What the agent perceives in one frame. -/
structure Percept where
  agent : Agent := {}
  enemies : List Enemy := []
  /-- Items close enough to have been inspected. -/
  items : List Item := []
  /-- Items seen from afar. -/
  distantItems : List DistantItem := []
  houses : List House := []
  deriving DecidableEq, Inhabited

/-- The number and the length of a frame. -/
structure FrameTime where
  tick : UInt64
  dt : Float32
  deriving DecidableEq, Inhabited

/-- The frame after this one. Tick numbers wrap around. -/
def FrameTime.next (t : FrameTime) (dt : Float32) : FrameTime := ⟨t.tick + 1, dt⟩

end Forager
