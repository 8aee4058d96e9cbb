import Forager.Intent
import Forager.StandardTree
import Forager.Tree

/-!
# The controller

A controller owns the agent's tree. A frame has three phases: the percept goes into the beliefs on
the tree's board, the tree is updated, and the intents it raised are carried out. The result is a
`Decision`, or the error of the walk; then what perception and the walk did so far stays, and
nothing is carried out.

The agent runs until its stamina is spent, then walks until it is full again.
-/
namespace Forager

/-- The controller's answer for one frame. -/
structure Decision where
  tick : UInt64
  steering : Steering
  goal : Option Vec2
  navGoal : Option Vec2
  run : Bool
  fired : Bool
  used : List ItemKind
  pickedUp : List EntityId
  status : Option Status
  deriving DecidableEq

structure Controller (μ : Type) where
  config : Config
  tree : BehaviourTree EntryType μ
  runMode : Bool

namespace Controller

variable {μ η : Type}

/-! ## Construction -/

/-- A controller that drives the given root on a board with nothing but the schema. -/
def ofRoot (config : Config) (agent : Agent) (memory : μ) (root : Node EntryType μ) :
    Except (TreeError EntryType) (Controller μ) := do
  let board ← (Schema.board config agent).mapError .blackboard
  let tree ← BehaviourTree.ofRoot ⟨board, memory⟩ root
  return ⟨config, tree, true⟩

/-- A controller that drives the standard tree. -/
def standard (config : Config) (agent : Agent) (memory : μ) :
    Except (TreeError EntryType) (Controller μ) :=
  ofRoot config agent memory StandardTree.root

/-- The controller with a fresh log for the events of its walks. -/
def traced (c : Controller μ) : Controller μ :=
  { c with tree := { c.tree with sink := .keeping .empty } }

/-- Takes the events logged so far away. -/
def takeLog (c : Controller μ) : TraceLog × Controller μ :=
  let r := c.tree.takeLog
  (r.1, { c with tree := r.2 })

/-! ## Beliefs -/

/-- What the controller's agent believes. -/
def beliefs (c : Controller μ) : Except (TreeError EntryType) Beliefs :=
  (Beliefs.ofEntries c.tree.board.entries).mapError .blackboard

def withBeliefs (c : Controller μ) (b : Beliefs) : Controller μ :=
  let bb := c.tree.board
  { c with tree := c.tree.withBoard { bb with entries := b.store bb.entries } }

/-- Gives the agent somewhere to drift to while it has no goal. -/
def setSoftGoal (c : Controller μ) (target : Vec2) :
    Except (TreeError EntryType) Unit × Controller μ :=
  match c.beliefs with
  | .error e => (.error e, c)
  | .ok b => (.ok (), c.withBeliefs { b with softGoal := target, softGoalSet := true })

/-! ## Frames -/

/-- Whether the agent runs at the given stamina, having run or walked before. -/
def nextRunMode (config : Config) (stamina : Float32) (running : Bool) : Bool :=
  if config.maxStamina ≤ stamina then true else if stamina ≤ 0 then false else running

/-- What came of a frame. -/
structure Frame (μ η : Type) where
  result : Except (TreeError EntryType) Decision
  controller : Controller μ
  world : η

/-- Carries out the intents that the walk of a frame raised. -/
def conclude (c : Controller μ) (host : Host η) (tick : UInt64) (percept : Percept)
    (pickedUp : List EntityId) (world : η) : Frame μ η :=
  match c.beliefs with
  | .error e => ⟨.error e, c, world⟩
  | .ok b =>
    let done := b.act host world
    let run := nextRunMode c.config percept.agent.stamina c.runMode
    let decision : Decision :=
      { tick
        steering := b.steering
        goal := done.goal
        navGoal := done.navGoal
        run
        fired := done.fired
        used := done.used
        pickedUp
        status := c.tree.last }
    ⟨.ok decision, { c.withBeliefs done.beliefs with runMode := run }, done.world⟩

/-- Runs one frame: perceive, walk the tree, carry out its intents. -/
def update (c : Controller μ) (host : Host η) (time : FrameTime) (percept : Percept) (world : η) :
    Frame μ η :=
  match c.beliefs with
  | .error e => ⟨.error e, c, world⟩
  | .ok b =>
    let seen := Gathering.perceive c.config host time.dt percept b world
    let walked := (c.withBeliefs seen.beliefs).tree.update
    let c := { c with tree := walked.2 }
    match walked.1 with
    | .error e => ⟨.error e, c, seen.world⟩
    | .ok () => c.conclude host time.tick percept seen.pickedUp seen.world

end Controller
end Forager
