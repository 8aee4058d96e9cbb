import Forager.Single

/-!
# Plane vectors

Positions, displacements and box sizes. Equality as numbers (`equals`) compares coordinates on
the number line, so it is not equality of values: `-0` equals `0`, and NaN equals nothing.
-/
namespace Forager

structure Vec2 where
  x : Float32
  y : Float32
  deriving DecidableEq, Inhabited

namespace Vec2

def zero : Vec2 := ⟨0, 0⟩

def add (a b : Vec2) : Vec2 := ⟨a.x + b.x, a.y + b.y⟩

def sub (a b : Vec2) : Vec2 := ⟨a.x - b.x, a.y - b.y⟩

def scale (a : Vec2) (s : Float32) : Vec2 := ⟨a.x * s, a.y * s⟩

def divide (a : Vec2) (s : Float32) : Vec2 := ⟨a.x / s, a.y / s⟩

instance : Add Vec2 := ⟨add⟩

instance : Sub Vec2 := ⟨sub⟩

instance : HMul Vec2 Float32 Vec2 := ⟨scale⟩

instance : HDiv Vec2 Float32 Vec2 := ⟨divide⟩

def equals (a b : Vec2) : Bool := a.x == b.x && a.y == b.y

def lengthSquared (a : Vec2) : Float32 := a.x * a.x + a.y * a.y

def length (a : Vec2) : Float32 := a.lengthSquared.sqrt

def distanceSquared (a b : Vec2) : Float32 := (a - b).lengthSquared

def distance (a b : Vec2) : Float32 := (a - b).length

/-- Whether a point lies in the box of the given size around `center`, edges included. -/
def inBox (p center size : Vec2) : Bool :=
  let half := size / (2 : Float32)
  (p.x - center.x).abs ≤ half.x && (p.y - center.y).abs ≤ half.y

end Vec2
end Forager
