import Forager.Controller
import Forager.Proofs.StandardWalk
import Forager.Proofs.Validation

/-!
# Sessions

A session is a run of a controller from the outside: somebody sets soft goals, calls for frames,
and the world of the host changes in between. Every host fits the model, also one that grants and
refuses as it likes, for its world may be anything.

An `Episode` tells the same story without boards, trees and errors, on beliefs alone: a frame is a
`turn`, which perceives, follows the priorities and acts. Whatever is proved of all episodes holds
of all sessions of the standard controller.

* `standard_eq`: construction succeeds, with the initial beliefs on the board.
* `Holds.update`: a frame succeeds, and is a turn on beliefs.
* `standard_session`: every session of the standard controller is an episode.
-/
namespace Forager

open Node

variable {μ η : Type}

/-! ## Construction -/

theorem Blackboard.addAll_eq {τ : Type} [EntryTypes τ] {es : List (String × Entry τ)}
    (hn : (es.map (·.1)).Nodup) (bb : Blackboard τ)
    (hd : ∀ e ∈ es, bb.entries.contains e.1 = false) :
    bb.addAll es = (.ok (), { bb with entries := bb.entries.insertAll es }) := by
  induction es generalizing bb with
  | nil => rfl
  | cons e es ih =>
    obtain ⟨name, entry⟩ := e
    rw [List.map_cons, List.nodup_cons] at hn
    rw [List.forall_mem_cons] at hd
    have added : bb.add ⟨name⟩ entry.value =
        .ok { bb with entries := bb.entries.insert name entry } := by
      rw [add, if_neg (by rw [hd.1]; exact Bool.false_ne_true)]
      rfl
    simp only [addAll, added]
    rw [ih hn.2]
    · rfl
    · intro e he
      have hne : e.1 ≠ name := fun h => hn.1 (h ▸ List.mem_map.2 ⟨e, he, rfl⟩)
      rw [NameMap.contains_insert, hd.2 e he, Bool.or_false, beq_eq_false_iff_ne]
      exact hne

theorem Schema.board_eq (config : Config) (agent : Agent) :
    Schema.board config agent = .ok ⟨(Beliefs.initial config agent).store ∅, none⟩ := by
  have added := Blackboard.addAll_eq (Beliefs.initial config agent).nodup_names
    (∅ : Blackboard EntryType) fun _ _ => rfl
  simp only [Schema.board, Schema.register, added, Beliefs.store]
  rfl

theorem Beliefs.typeOf?_store {b : Beliefs} {m : Entries EntryType} {name : String}
    {t : EntryType} (h : (name, t) ∈ b.toList.map fun e => (e.1, e.2.type)) :
    (b.store m).typeOf? name = some t := by
  obtain ⟨e, he, heq⟩ := List.mem_map.1 h
  cases heq
  rw [Entries.typeOf?, store, NameMap.find?_insertAll_of_mem b.nodup_names he]
  rfl

/-- The standard tree declares keys of the schema, each with its type. -/
theorem StandardTree.uses_typed (b : Beliefs) :
    ∀ u ∈ (root : AgentNode μ).leaves.flatMap (·.uses),
      (u.name, u.type) ∈ b.toList.map fun e => (e.1, e.2.type) := by
  have uses : (root : AgentNode μ).leaves.flatMap (·.uses) =
      (root : AgentNode Unit).leaves.flatMap (·.uses) := rfl
  have types : (b.toList.map fun e => (e.1, e.2.type)) =
      (Beliefs.initial {} {}).toList.map fun e => (e.1, e.2.type) := rfl
  rw [uses, types]
  decide +kernel

theorem StandardTree.root_accepted (b : Beliefs) (m : Entries EntryType) :
    (root : AgentNode μ).defect? (b.store m) = none := by
  rw [Node.defect?_eq_none_iff]
  intro leaf hl u hu
  exact Beliefs.typeOf?_store (uses_typed b u (List.mem_flatMap.2 ⟨leaf, hl, hu⟩))

namespace Controller

/-- The controller as it is made. -/
def fresh (config : Config) (agent : Agent) (memory : μ) : Controller μ where
  config := config
  tree :=
    { BehaviourTree.withoutRoot ((Beliefs.initial config agent).scene ∅ memory) with
      root := some StandardTree.root }
  runMode := true

theorem standard_eq (config : Config) (agent : Agent) (memory : μ) :
    standard config agent memory = .ok (fresh config agent memory) := by
  have accepted : BehaviourTree.ofRoot ((Beliefs.initial config agent).scene ∅ memory)
      StandardTree.root = .ok (fresh config agent memory).tree :=
    BehaviourTree.setRoot_eq_ok_iff.2 ⟨StandardTree.root_accepted _ ∅, rfl⟩
  rw [Beliefs.scene] at accepted
  rw [standard, ofRoot, Schema.board_eq]
  show (do let tree ← BehaviourTree.ofRoot _ _; return (⟨config, tree, true⟩ : Controller μ)) = _
  rw [accepted]
  rfl

end Controller

/-! ## Turns -/

/-- A frame on beliefs: what is perceived, what the agent then intends, and what comes of it. -/
structure Turn (η : Type) where
  seen : Gathering η
  intended : Beliefs
  done : Beliefs.Conduct η

def turn (config : Config) (host : Host η) (time : FrameTime) (percept : Percept) (b : Beliefs)
    (world : η) : Turn η :=
  let seen := Gathering.perceive config host time.dt percept b world
  ⟨seen, seen.beliefs.prioritise, seen.beliefs.prioritise.act host seen.world⟩

/-- What is reported of a turn. -/
def Turn.decision (t : Turn η) (tick : UInt64) (run : Bool) : Decision :=
  { tick
    steering := t.intended.steering
    goal := t.done.goal
    navGoal := t.done.navGoal
    run
    fired := t.done.fired
    used := t.done.used
    pickedUp := t.seen.pickedUp
    status := some .success }

/-- The beliefs once told where to drift. -/
def Beliefs.driftTo (b : Beliefs) (target : Vec2) : Beliefs :=
  { b with softGoal := target, softGoalSet := true }

namespace Controller

theorem withBeliefs_eq (c : Controller μ) (b : Beliefs) : c.withBeliefs b =
    { c with
      tree :=
        { c.tree with
          scene :=
            ⟨⟨b.store c.tree.board.entries, c.tree.board.missing⟩, c.tree.scene.memory⟩ } } :=
  rfl

/-- Whether a controller drives the standard tree on a board that holds the beliefs. -/
structure Holds (c : Controller μ) (b : Beliefs) : Prop where
  root : c.tree.root = some StandardTree.root
  entries : Beliefs.ofEntries c.tree.board.entries = .ok b

namespace Holds

variable {c : Controller μ} {b : Beliefs}

theorem beliefs (h : c.Holds b) : c.beliefs = .ok b := by
  rw [Controller.beliefs, h.entries]
  rfl

theorem fresh (config : Config) (agent : Agent) (memory : μ) :
    (fresh config agent memory).Holds (.initial config agent) :=
  ⟨rfl, Beliefs.ofEntries_store (Beliefs.initial config agent) ∅⟩

theorem withBeliefs (h : c.Holds b) (b' : Beliefs) : (c.withBeliefs b').Holds b' := by
  rw [withBeliefs_eq]
  exact ⟨h.root, Beliefs.ofEntries_store b' c.tree.board.entries⟩

theorem traced (h : c.Holds b) : c.traced.Holds b := ⟨h.root, h.entries⟩

theorem setSoftGoal (h : c.Holds b) (target : Vec2) :
    c.setSoftGoal target = (.ok (), c.withBeliefs (b.driftTo target)) := by
  simp only [Controller.setSoftGoal, h.beliefs]
  rfl

end Holds

/-- The events of a walk that starts with the given beliefs. -/
def walkEvents (c : Controller μ) (b : Beliefs) : List Event :=
  (StandardTree.root.walk ⟨true, c.tree.ticks⟩ 0
    (b.scene c.tree.board.entries c.tree.scene.memory)).events

/-- The controller once the perceived beliefs have been walked. -/
def afterWalk (c : Controller μ) (seen : Beliefs) : Controller μ :=
  { c with
    tree :=
      { c.tree with
        scene := seen.prioritise.scene c.tree.board.entries c.tree.scene.memory
        sink := c.tree.sink.receive (c.walkEvents seen)
        ticks := c.tree.ticks + 1
        last := some .success } }

/-- The controller once the intents of the walked beliefs have been carried out. -/
def afterTurn (c : Controller μ) (t : Turn η) (run : Bool) : Controller μ :=
  { c.afterWalk t.seen.beliefs with
    tree :=
      { (c.afterWalk t.seen.beliefs).tree with
        scene := t.done.beliefs.scene c.tree.board.entries c.tree.scene.memory }
    runMode := run }

namespace Holds

variable {c : Controller μ} {b : Beliefs}

/-- The tree walks the perceived beliefs without a fault and leaves the intended ones. -/
theorem walked (h : c.Holds b) (seen : Beliefs) :
    (c.withBeliefs seen).tree.update = (.ok (), (c.afterWalk seen).tree) := by
  have stored : Beliefs.ofEntries (⟨seen.store c.tree.board.entries, c.tree.board.missing⟩ :
      Blackboard EntryType).entries = .ok seen := Beliefs.ofEntries_store seen c.tree.board.entries
  obtain ⟨status, scene, fault⟩ := StandardTree.walkFrom_held stored ⟨true, c.tree.ticks⟩
    c.tree.scene.memory
  have covered : seen.prioritise.scene (seen.store c.tree.board.entries) c.tree.scene.memory =
      seen.prioritise.scene c.tree.board.entries c.tree.scene.memory := by
    rw [Beliefs.scene, Beliefs.store_store, Beliefs.scene]
  have updated := BehaviourTree.update_of_no_fault
    (t := { c.tree with
      scene := ⟨⟨seen.store c.tree.board.entries, c.tree.board.missing⟩, c.tree.scene.memory⟩ })
    h.root fault
  rw [status, scene, covered] at updated
  exact updated

theorem conclude (m : Entries EntryType) (memory : μ) (h : c.tree.scene = b.scene m memory)
    (host : Host η) (tick : UInt64) (percept : Percept) (pickedUp : List EntityId) (world : η) :
    c.conclude host tick percept pickedUp world =
      ⟨.ok
        { tick
          steering := b.steering
          goal := (b.act host world).goal
          navGoal := (b.act host world).navGoal
          run := nextRunMode c.config percept.agent.stamina c.runMode
          fired := (b.act host world).fired
          used := (b.act host world).used
          pickedUp
          status := c.tree.last },
        { c with
          tree := { c.tree with scene := (b.act host world).beliefs.scene m memory }
          runMode := nextRunMode c.config percept.agent.stamina c.runMode },
        (b.act host world).world⟩ := by
  have held : c.beliefs = .ok b := by
    rw [Controller.beliefs, BehaviourTree.board, h, Beliefs.scene, Beliefs.ofEntries_store]
    rfl
  have stored : (b.act host world).beliefs.store (b.store m) = (b.act host world).beliefs.store m :=
    Beliefs.store_store b m _
  simp only [Controller.conclude, held, withBeliefs_eq, BehaviourTree.board]
  rw [h]
  simp only [Beliefs.scene, stored]

/-- A frame succeeds, and is a turn on beliefs. -/
theorem update (h : c.Holds b) (host : Host η) (time : FrameTime) (percept : Percept) (world : η) :
    c.update host time percept world =
      ⟨.ok ((turn c.config host time percept b world).decision time.tick
          (nextRunMode c.config percept.agent.stamina c.runMode)),
        afterTurn c (turn c.config host time percept b world)
          (nextRunMode c.config percept.agent.stamina c.runMode),
        (turn c.config host time percept b world).done.world⟩ := by
  simp only [Controller.update, h.beliefs, h.walked, turn, Turn.decision, afterTurn]
  generalize Gathering.perceive c.config host time.dt percept b world = seen
  have concluded := conclude (c := c.afterWalk seen.beliefs) (b := seen.beliefs.prioritise)
    c.tree.board.entries c.tree.scene.memory rfl host time.tick percept seen.pickedUp seen.world
  simp only [afterWalk] at concluded ⊢
  exact concluded

theorem afterTurn (h : c.Holds b) (t : Turn η) (run : Bool) :
    (c.afterTurn t run).Holds t.done.beliefs :=
  ⟨h.root, Beliefs.ofEntries_store t.done.beliefs c.tree.board.entries⟩

end Holds

end Controller

/-! ## Runs -/

/-- What happens next to a controller and the world of its host. -/
inductive Occurrence (η : Type) where
  | softGoal (target : Vec2)
  | frame (time : FrameTime) (percept : Percept)
  /-- The world changes without the controller's doing. -/
  | drift (change : η → η)

/-- A controller at work in a world, and the decisions it has returned. -/
structure Session (μ η : Type) where
  controller : Controller μ
  world : η
  decisions : List Decision

namespace Session

def step (host : Host η) (s : Session μ η) : Occurrence η → Session μ η
  | .softGoal target => { s with controller := (s.controller.setSoftGoal target).2 }
  | .frame time percept =>
    let f := s.controller.update host time percept s.world
    ⟨f.controller, f.world, s.decisions ++ f.result.toOption.toList⟩
  | .drift change => { s with world := change s.world }

def run (host : Host η) (s : Session μ η) (os : List (Occurrence η)) : Session μ η :=
  os.foldl (step host) s

end Session

/-- What a session comes to on beliefs. -/
structure Episode (η : Type) where
  beliefs : Beliefs
  running : Bool
  world : η
  decisions : List Decision

namespace Episode

def start (config : Config) (agent : Agent) (world : η) : Episode η :=
  ⟨.initial config agent, true, world, []⟩

def step (config : Config) (host : Host η) (e : Episode η) : Occurrence η → Episode η
  | .softGoal target => { e with beliefs := e.beliefs.driftTo target }
  | .frame time percept =>
    let t := turn config host time percept e.beliefs e.world
    let running := Controller.nextRunMode config percept.agent.stamina e.running
    ⟨t.done.beliefs, running, t.done.world, e.decisions ++ [t.decision time.tick running]⟩
  | .drift change => { e with world := change e.world }

def run (config : Config) (host : Host η) (e : Episode η) (os : List (Occurrence η)) :
    Episode η :=
  os.foldl (step config host) e

/-- What every occurrence keeps is kept by an episode. -/
theorem run_invariant {config : Config} {host : Host η} {P : Episode η → Prop} {e : Episode η}
    {os : List (Occurrence η)} (start : P e)
    (kept : ∀ o ∈ os, ∀ e, P e → P (e.step config host o)) : P (e.run config host os) := by
  induction os generalizing e with
  | nil => exact start
  | cons o os ih =>
    rw [List.forall_mem_cons] at kept
    exact ih (kept.1 e start) kept.2

end Episode

/-- Whether a session is where an episode is. -/
structure Session.Follows (s : Session μ η) (config : Config) (e : Episode η) : Prop where
  config : s.controller.config = config
  holds : s.controller.Holds e.beliefs
  running : s.controller.runMode = e.running
  world : s.world = e.world
  decisions : s.decisions = e.decisions

namespace Session.Follows

variable {s : Session μ η} {config : Config} {e : Episode η}

theorem step (h : s.Follows config e) (host : Host η) (o : Occurrence η) :
    (s.step host o).Follows config (e.step config host o) := by
  obtain ⟨hc, hh, hr, hw, hd⟩ := h
  cases o with
  | softGoal target =>
    simp only [Session.step, Episode.step, hh.setSoftGoal]
    exact ⟨hc, hh.withBeliefs _, hr, hw, hd⟩
  | frame time percept =>
    simp only [Session.step, Episode.step, hh.update]
    rw [hc, hr, hw, hd]
    exact ⟨hc, hh.afterTurn _ _, rfl, rfl, rfl⟩
  | drift change =>
    exact ⟨hc, hh, hr, congrArg change hw, hd⟩

theorem run (h : s.Follows config e) (host : Host η) (os : List (Occurrence η)) :
    (s.run host os).Follows config (e.run config host os) := by
  induction os generalizing s e with
  | nil => exact h
  | cons o os ih => exact ih (h.step host o)

end Session.Follows

/-- Every session of the standard controller is an episode. -/
theorem standard_session (config : Config) (agent : Agent) (memory : μ) (host : Host η) (world : η)
    (os : List (Occurrence η)) :
    (Session.run host ⟨Controller.fresh config agent memory, world, []⟩ os).Follows config
      ((Episode.start config agent world).run config host os) :=
  Session.Follows.run ⟨rfl, Controller.Holds.fresh config agent memory, rfl, rfl, rfl⟩ host os

end Forager
