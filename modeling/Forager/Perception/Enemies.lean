import Forager.Amend
import Forager.World.Percept

/-!
# Remembered enemies

An enemy out of view drifts along its last velocity; a sighted one is back where it was seen.
Nobody is forgotten here.

* `map_id_meet`: a sighting adds its enemy if it is new, and keeps the order.
-/
namespace Forager.Enemy

/-- The enemy after `dt` seconds out of view. -/
def drifted (dt : Float32) (e : Enemy) : Enemy :=
  { e with inView := false, predictedPosition := e.predictedPosition + e.velocity * dt }

/-- The enemy once sighted again, `dt` seconds after the frame before. -/
def sighted (dt : Float32) (seen e : Enemy) : Enemy :=
  { e with
    velocity := if 0 < dt then (seen.position - e.position) / dt else e.velocity
    lastPosition := e.position
    position := seen.position
    predictedPosition := seen.position
    health := seen.health
    inView := true }

/-- The enemy once sighted for the first time. -/
def discovered (seen : Enemy) : Enemy :=
  { seen with
    lastPosition := seen.position
    predictedPosition := seen.position
    velocity := .zero
    inView := true }

/-- The remembered enemies after one sighting. -/
def meet (dt : Float32) (known : List Enemy) (seen : Enemy) : List Enemy :=
  amend (·.id == seen.id) (sighted dt seen) seen.discovered known

/-- The remembered enemies after a frame of `dt` seconds with the given sightings. -/
def merge (dt : Float32) (known seen : List Enemy) : List Enemy :=
  seen.foldl (meet dt) (known.map (drifted dt))

theorem map_id_meet (dt : Float32) (known : List Enemy) (seen : Enemy) :
    (meet dt known seen).map (·.id) =
      if known.any (·.id == seen.id) then known.map (·.id) else known.map (·.id) ++ [seen.id] :=
  map_amend (f := sighted dt seen) (fun _ _ => rfl) known

end Forager.Enemy
