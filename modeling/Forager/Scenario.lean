import Forager.Codec.World
import Forager.Controller
import Forager.Document.Yaml

/-!
# Scenarios

A scenario is a scripted run: the configuration of an agent, its starting state, and what it
perceives frame by frame. `replay` feeds the frames through a fresh controller, with a host that
grants every request, knows from the script which enemies are in view, and counts what it does.

* `play_length`: a replay makes one decision per frame.
-/
namespace Forager

/-- What the script says about one frame. -/
structure Frame where
  dt : Float32 := .ofBits 0x3dcccccd
  percept : Percept := {}
  /-- The enemies in view after a shot. -/
  visibleEnemies : List EntityId := []
  softGoal : Option Vec2 := none
  deriving DecidableEq, Inhabited

structure Scenario where
  config : Config := {}
  agent : Agent := {}
  frames : List Frame := []
  deriving DecidableEq, Inhabited

/-! ## Reading -/

open Decode in
def Frame.decode (form : Form) (d : Document) : Option Frame := do
  let fs ← fields d
  let usual : Frame := {}
  return {
    dt := ← withDefault fs "dt" usual.dt (single form)
    percept := ← withDefault fs "percept" {} (Percept.decode form)
    visibleEnemies := ← withDefault fs "visible_enemies" [] (list uint64)
    softGoal := ← absentable fs "soft_goal" (Vec2.decode form) }

namespace Scenario

open Decode in
def decode (form : Form) (d : Document) : Option Scenario := do
  let fs ← fields d
  return {
    config := ← withDefault fs "config" {} (Config.decode form)
    agent := ← withDefault fs "agent" {} (Agent.decode form)
    frames := ← withDefault fs "frames" [] (list (Frame.decode form)) }

/-- Reads a scenario from a YAML text. -/
def ofText? (text : String) : Option Scenario := (Yaml.parse text).bind (decode .decimal)

/-! ## The scripted host -/

/-- What the host has done, and which enemies are in view. -/
structure Tally where
  visible : List EntityId := []
  pickedUp : Nat := 0
  used : Nat := 0
  dropped : Nat := 0
  deriving DecidableEq, Repr

def host : Host Tally where
  closestPathPoint target t := (target, t)
  pickUp _ _ t := (true, { t with pickedUp := t.pickedUp + 1 })
  useItem _ t := (true, { t with used := t.used + 1 })
  dropItem _ t := { t with dropped := t.dropped + 1 }
  enemyVisible id t := (t.visible.contains id, t)

/-! ## Replaying -/

inductive ReplayError where
  | invalidConfig (problem : ConfigProblem)
  | refused (error : TreeError EntryType)
  | frameFailed (frame : Nat) (error : TreeError EntryType)
  deriving DecidableEq

namespace ReplayError

def message : ReplayError → String
  | .invalidConfig _ => "Invalid scenario config"
  | .refused error => error.message
  | .frameFailed frame _ => s!"Frame {frame} failed"

/-- What lies behind the error, where its message does not say. -/
def cause? : ReplayError → Option String
  | .invalidConfig problem => some problem.message
  | .refused _ => none
  | .frameFailed _ error => some error.message

end ReplayError

/-- A run in progress. -/
structure Run where
  controller : Controller Unit
  tally : Tally

/-- Runs the frame of the given number. -/
def playFrame (run : Run) (number : Nat) (frame : Frame) : Except ReplayError (Decision × Run) :=
  let heading : Except (TreeError EntryType) Unit × Controller Unit :=
    match frame.softGoal with
    | none => (.ok (), run.controller)
    | some target => run.controller.setSoftGoal target
  match heading.1 with
  | .error e => .error (.refused e)
  | .ok () =>
    let r := heading.2.update host ⟨.ofNat number, frame.dt⟩ frame.percept
      { run.tally with visible := frame.visibleEnemies }
    match r.result with
    | .error e => .error (.frameFailed number e)
    | .ok decision => .ok (decision, ⟨r.controller, r.world⟩)

/-- Runs frames in order, the first of the given number. -/
def play (run : Run) (number : Nat) : List Frame → Except ReplayError (List Decision × Run)
  | [] => .ok ([], run)
  | frame :: frames =>
    match playFrame run number frame with
    | .error e => .error e
    | .ok (decision, run) =>
      match play run (number + 1) frames with
      | .error e => .error e
      | .ok (decisions, run) => .ok (decision :: decisions, run)

/-- What came of a scenario. -/
structure Replay where
  decisions : List Decision
  trace : TraceLog
  tally : Tally
  deriving DecidableEq

/-- Runs all frames of a scenario whose configuration is in order. -/
def replay (s : Scenario) : Except ReplayError Replay :=
  match s.config.check with
  | .error problem => .error (.invalidConfig problem)
  | .ok () =>
    match Controller.standard s.config s.agent () with
    | .error e => .error (.refused e)
    | .ok c =>
      match play ⟨c.traced, {}⟩ 0 s.frames with
      | .error e => .error e
      | .ok (decisions, run) => .ok ⟨decisions, run.controller.takeLog.1, run.tally⟩

theorem play_length {run run' : Run} {number : Nat} {frames : List Frame}
    {decisions : List Decision} (h : play run number frames = .ok (decisions, run')) :
    decisions.length = frames.length := by
  induction frames generalizing run number decisions with
  | nil => simp [play] at h; simp [← h.1]
  | cons frame frames ih =>
    unfold play at h
    split at h
    · cases h
    · split at h
      · cases h
      · rename_i hp
        cases h
        simp [ih hp]

end Scenario
end Forager
