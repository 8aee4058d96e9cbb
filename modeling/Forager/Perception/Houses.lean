import Forager.Amend
import Forager.World.Percept

/-!
# Remembered houses

A house is remembered as it was first seen. Its timer counts the seconds since the last visit; a
house never visited starts from the greatest number, so that it is always due.

* `map_id_meet`: a sighting adds its house if it is new, and keeps the order.
* `any_contains_elapse`: the passing of time moves no house.
-/
namespace Forager.House

/-- The house as if never visited. -/
def unvisited (h : House) : House := { h with secondsSinceLastVisit := Single.greatest }

def visited (h : House) : House := { h with secondsSinceLastVisit := 0 }

def aged (dt : Float32) (h : House) : House :=
  { h with secondsSinceLastVisit := h.secondsSinceLastVisit + dt }

/-- The remembered houses after one sighting. -/
def meet (known : List House) (seen : House) : List House :=
  amend (·.id == seen.id) (fun h => h) seen.unvisited known

/-- Time passes for all houses but the first around `position`, which is being visited. -/
def elapse (dt : Float32) (position : Vec2) : List House → List House
  | [] => []
  | h :: hs =>
    if h.contains position then h.visited :: hs.map (aged dt) else h.aged dt :: elapse dt position hs

/-- The remembered houses after a frame of `dt` seconds with the given sightings, and whether the
agent stands in one of them. -/
def merge (dt : Float32) (position : Vec2) (known seen : List House) : List House × Bool :=
  let met := seen.foldl meet known
  (elapse dt position met, met.any (·.contains position))

theorem map_id_meet (known : List House) (seen : House) :
    (meet known seen).map (·.id) =
      if known.any (·.id == seen.id) then known.map (·.id) else known.map (·.id) ++ [seen.id] :=
  map_amend (f := fun h => h) (fun _ _ => rfl) known

theorem any_contains_elapse (dt : Float32) (position p : Vec2) (hs : List House) :
    (elapse dt position hs).any (·.contains p) = hs.any (·.contains p) := by
  induction hs with
  | nil => rfl
  | cons h hs ih =>
    unfold elapse
    split
    · simp [visited, aged, contains, Function.comp_def]
    · rw [List.any_cons, ih]; rfl

end Forager.House
