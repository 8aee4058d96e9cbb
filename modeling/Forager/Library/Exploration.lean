import Forager.Library.Basic

/-!
# Library leaves: exploration

Search points are visited in order; the index of the next one only grows. A route whose index is
past its last point is searched entirely, an empty route from the start.
-/
namespace Forager.Library

open Schema

def mapSearchedEntirely : Behaviour :=
  .test (((Leaf.named "MapSearchedEntirely").reads searchPoints).reads searchPointIndex) do
    let points ← look searchPoints
    let index ← look searchPointIndex
    match points, index with
    | some points, some index => return points.length ≤ index
    | _, _ => return false

/-- Strictly within grab range of the next search point. -/
def arrivedAtNextSearchPoint : Behaviour :=
  .test ((((Leaf.named "ArrivedAtNextSearchPoint").reads agentInfo).reads searchPoints).reads
      searchPointIndex) do
    let agent ← look agentInfo
    let points ← look searchPoints
    let index ← look searchPointIndex
    match agent, points, index with
    | some agent, some points, some index =>
      return points[index]?.any fun p => p.distance agent.position < agent.grabRange
    | _, _, _ => return false

def setGoalToNextSearchPoint : Behaviour :=
  .act (((((Leaf.named "SetGoalToNextSearchPoint").reads searchPoints).reads
      searchPointIndex).writes goal).writes goalSet) do
    let points ← look searchPoints
    let index ← look searchPointIndex
    match points, index with
    | some points, some index =>
      match points[index]? with
      | some target => setGoal target
      | none => return .failure
    | _, _ => return .failure

/-- Moves on to the next search point and heads for it, if there is one left. -/
def incrementSearchPoint : Behaviour :=
  .act (((((Leaf.named "IncrementSearchPoint").reads searchPoints).writes
      searchPointIndex).writes goal).writes goalSet) do
    let points ← look searchPoints
    let index ← look searchPointIndex
    match points, index with
    | some points, some index =>
      match points[index + 1]? with
      | some target =>
        if ← goalWritable then
          if ← write searchPointIndex (index + 1) then setGoal target else return .failure
        else return .failure
      | none => return .ofBool (← write searchPointIndex (index + 1))
    | _, _ => return .failure

end Forager.Library
