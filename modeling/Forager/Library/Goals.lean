import Forager.Library.Basic

/-!
# Library leaves: goals and steering

The hard goal is where the agent heads; the soft goal is where it drifts without one. A goal is
reached within grab range. Dropping a reached goal fails on purpose, so that the branches after
it still have their say in the same walk.
-/
namespace Forager.Library

open Schema

def isGoalSet : Behaviour :=
  .test ((Leaf.named "IsGoalSet").reads goalSet) do
    return (← look goalSet).any id

def hasReachedGoal : Behaviour :=
  .test (((Leaf.named "HasReachedGoal").reads goal).reads agentInfo) do
    let target ← look goal
    let agent ← look agentInfo
    match target, agent with
    | some target, some agent => return target.distance agent.position ≤ agent.grabRange
    | _, _ => return false

def setGoalSetFalse : Behaviour :=
  .act ((Leaf.named "SetGoalSetFalse").writes goalSet) do
    let _ ← write goalSet false
    return .failure

def isSoftGoalSet : Behaviour :=
  .test ((Leaf.named "IsSoftGoalSet").reads softGoalSet) do
    return (← look softGoalSet).any id

def hasReachedSoftGoal : Behaviour :=
  .test (((Leaf.named "HasReachedSoftGoal").reads softGoal).reads agentInfo) do
    let target ← look softGoal
    let agent ← look agentInfo
    match target, agent with
    | some target, some agent => return target.distance agent.position ≤ agent.grabRange
    | _, _ => return false

def setSoftGoalSetFalse : Behaviour :=
  .act ((Leaf.named "SetSoftGoalSetFalse").writes softGoalSet) do
    let _ ← write softGoalSet false
    return .failure

/-! ## Steering -/

def changeSteering (name : String) (mode : Steering) : Behaviour :=
  .act ((Leaf.named name).writes Schema.steering) do
    return .ofBool (← write Schema.steering mode)

def changeToSeek : Behaviour := changeSteering "ChangeToSeek" .seek

def changeToWander : Behaviour := changeSteering "ChangeToWander" .wander

end Forager.Library
