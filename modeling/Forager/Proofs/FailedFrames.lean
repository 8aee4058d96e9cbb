import Forager.Proofs.Admission
import Forager.Proofs.Deliberation
import Forager.Proofs.Journals

/-!
# Frames that fail

A controller may drive a root of one's own. As long as its leaves act on the board through the
operations, no key of the schema can go or change its type, and so nothing that the controller reads
or writes itself ever fails: the one error that a frame can end in is that of its walk. Then nothing
is carried out, and the intents are still up that the leaves have raised.

* `Beliefs.exists_ofEntries`: a board that keeps its types keeps the schema.
* `Controller.Reached.drives`: what is true of a controller at any time.
* `Controller.Drives.frameEnds`: the two ways a frame ends.
* `Controller.carried_out_or_stopped`: what each of them leaves.
-/
namespace Forager

variable {μ η : Type}

/-! ## Boards with the schema -/

namespace Beliefs

theorem exists_bind {ε α β : Type} {x : Except ε α} {f : α → Except ε β}
    (hx : ∃ a, x = .ok a) (hf : ∀ a, ∃ b, f a = .ok b) : ∃ b, x >>= f = .ok b := by
  obtain ⟨a, rfl⟩ := hx
  exact hf a

/-- Whether a board holds the schema depends on the types of its entries only. -/
theorem exists_ofEntries {m m' : Entries EntryType} {b : Beliefs} (h : ofEntries m = .ok b)
    (kept : ∀ name t, m.typeOf? name = some t → m'.typeOf? name = some t) :
    ∃ b', ofEntries m' = .ok b' := by
  have typed : ∀ e ∈ b.toList, m'.typeOf? e.1 = some e.2.type := fun e he =>
    kept _ _ (Option.map_eq_some_iff.2 ⟨e.2, ofEntries_eq_ok_iff.1 h e he, rfl⟩)
  simp only [toList, List.forall_mem_cons, List.not_mem_nil, false_imp_iff, implies_true,
    and_true] at typed
  unfold ofEntries
  obtain ⟨h₁, h₂, h₃, h₄, h₅, h₆, h₇, h₈, h₉, h₁₀, h₁₁, h₁₂, h₁₃, h₁₄, h₁₅, h₁₆, h₁₇, h₁₈, h₁₉,
    h₂₀, h₂₁, h₂₂, h₂₃, h₂₄, h₂₅, h₂₆, h₂₇⟩ := typed
  -- One key after the other is read, in the order in which `ofEntries` does.
  repeat refine exists_bind (Entries.exists_read (by assumption)) fun _ => ?_
  exact ⟨_, rfl⟩

end Beliefs

namespace Controller

/-! ## Controllers of a given root -/

/-- What a controller of a root can come to by its own doing and that of others. -/
inductive Reached (config : Config) (agent : Agent) (memory : μ) (root : Node EntryType μ) :
    Controller μ → Prop
  | made {c : Controller μ} (h : ofRoot config agent memory root = .ok c) :
    Reached config agent memory root c
  | headed {c : Controller μ} (h : Reached config agent memory root c) (target : Vec2) :
    Reached config agent memory root (c.setSoftGoal target).2
  /-- Somebody looks at the board, and may collect the name noted as missing. -/
  | asked {c : Controller μ} (h : Reached config agent memory root c) {α : Type}
    (q : Query EntryType α) :
    Reached config agent memory root { c with tree := (c.tree.edit q.edit).2 }
  /-- The events go elsewhere from now on, or somebody takes the log away. -/
  | reporting {c : Controller μ} (h : Reached config agent memory root c) (sink : Sink) :
    Reached config agent memory root { c with tree := { c.tree with sink := sink } }
  /-- Somebody else changes what the leaves remember. -/
  | reminded {c : Controller μ} (h : Reached config agent memory root c) (memory' : μ) :
    Reached config agent memory root
      { c with tree := { c.tree with scene := ⟨c.tree.scene.board, memory'⟩ } }
  | framed {c : Controller μ} (h : Reached config agent memory root c) {η : Type} (host : Host η)
    (time : FrameTime) (percept : Percept) (world : η) :
    Reached config agent memory root (c.update host time percept world).controller

/-- Whether a controller drives the root on a board that holds the schema. -/
structure Drives (c : Controller μ) (root : Node EntryType μ) : Prop where
  rooted : c.tree.root = some root
  schema : ∃ b, Beliefs.ofEntries c.tree.board.entries = .ok b

/-- The walk of a frame that starts with the given beliefs. -/
def walkOf (c : Controller μ) (root : Node EntryType μ) (seen : Beliefs) :
    Walk.Outcome EntryType μ :=
  root.walkFrom ⟨true, c.tree.ticks⟩ (c.withBeliefs seen).tree.scene

/-- The controller where a walk has stopped. -/
def stopped (c : Controller μ) (walk : Walk.Outcome EntryType μ) : Controller μ :=
  { c with
    tree := { c.tree with scene := walk.scene, sink := c.tree.sink.receive walk.events } }

/-- The controller where a walk has come to its end. -/
def completed (c : Controller μ) (walk : Walk.Outcome EntryType μ) : Controller μ :=
  { c with
    tree :=
      { c.tree with
        scene := walk.scene
        sink := c.tree.sink.receive walk.events
        ticks := c.tree.ticks + 1
        last := some walk.status } }

theorem beliefs_eq_ok_iff {c : Controller μ} {b : Beliefs} :
    c.beliefs = .ok b ↔ Beliefs.ofEntries c.tree.board.entries = .ok b := by
  unfold beliefs
  cases Beliefs.ofEntries c.tree.board.entries <;> simp [Except.mapError]

/-- The controller of a root as it is made. -/
def freshOf (config : Config) (agent : Agent) (memory : μ) (root : Node EntryType μ) :
    Controller μ where
  config := config
  tree :=
    { BehaviourTree.withoutRoot ((Beliefs.initial config agent).scene ∅ memory) with
      root := some root }
  runMode := true

theorem ofRoot_eq_ok_iff {config : Config} {agent : Agent} {memory : μ}
    {root : Node EntryType μ} {c : Controller μ} :
    ofRoot config agent memory root = .ok c ↔
      root.defect? ((Beliefs.initial config agent).store ∅) = none ∧
        c = freshOf config agent memory root := by
  have driving : ofRoot config agent memory root =
      (BehaviourTree.ofRoot ((Beliefs.initial config agent).scene ∅ memory) root).map
        (⟨config, ·, true⟩) := by
    rw [ofRoot, Schema.board_eq, Beliefs.scene]
    generalize Beliefs.store _ _ = entries
    show (do let tree ← BehaviourTree.ofRoot ⟨⟨entries, none⟩, memory⟩ root; return _) = _
    cases BehaviourTree.ofRoot ⟨⟨entries, none⟩, memory⟩ root <;> rfl
  rw [driving, BehaviourTree.ofRoot, BehaviourTree.setRoot, Node.validate]
  dsimp only [BehaviourTree.withoutRoot, Beliefs.scene]
  cases root.defect? ((Beliefs.initial config agent).store ∅) with
  | some e => simp [Except.map]
  | none =>
    simp only [Except.map, Except.ok.injEq, true_and]
    exact eq_comm

theorem conclude_eq {c : Controller μ} {b : Beliefs} (held : c.beliefs = .ok b) (host : Host η)
    (tick : UInt64) (percept : Percept) (pickedUp : List EntityId) (world : η) :
    ∃ d run, c.conclude host tick percept pickedUp world =
      ⟨.ok d, { c.withBeliefs (b.act host world).beliefs with runMode := run },
        (b.act host world).world⟩ := by
  simp only [conclude, held]
  exact ⟨_, _, rfl⟩

/-- How a frame ends: its walk stops and so does all the rest, or the intents are carried out. -/
inductive FrameEnds (c : Controller μ) (walk : Walk.Outcome EntryType μ) (host : Host η)
    (seen : Gathering η) : Frame μ η → Prop
  | stopped {fault : Fault} (h : walk.fault = some fault) :
    FrameEnds c walk host seen
      ⟨.error (.unregisteredKey fault.leaf fault.key), c.stopped walk, seen.world⟩
  | carriedOut {b : Beliefs} (h : walk.fault = none)
    (left : Beliefs.ofEntries walk.scene.board.entries = .ok b) (d : Decision) (run : Bool) :
    FrameEnds c walk host seen
      ⟨.ok d,
        { (c.completed walk).withBeliefs (b.act host seen.world).beliefs with runMode := run },
        (b.act host seen.world).world⟩

namespace Drives

variable {c : Controller μ} {root : Node EntryType μ} {b : Beliefs}

theorem exists_beliefs (h : c.Drives root) : ∃ b, c.beliefs = .ok b := by
  obtain ⟨b, held⟩ := h.schema
  exact ⟨b, beliefs_eq_ok_iff.2 held⟩

theorem withBeliefs (h : c.Drives root) (b : Beliefs) : (c.withBeliefs b).Drives root := by
  rw [withBeliefs_eq]
  exact ⟨h.rooted, b, Beliefs.ofEntries_store b c.tree.board.entries⟩

/-- A walk leaves the schema on the board, wherever it ends. -/
theorem exists_walkOf (h : c.Drives root) (operates : root.Operates) (seen : Beliefs) :
    ∃ b, Beliefs.ofEntries (c.walkOf root seen).scene.board.entries = .ok b := by
  obtain ⟨b, held⟩ := (h.withBeliefs seen).schema
  exact Beliefs.exists_ofEntries held fun _ _ there => Node.typeOf?_walk operates _ there

/-- Every frame ends in one of two ways, and the walk decides in which. -/
theorem frameEnds (h : c.Drives root) (operates : root.Operates) (held : c.beliefs = .ok b)
    (host : Host η) (time : FrameTime) (percept : Percept) (world : η) :
    let seen := Gathering.perceive c.config host time.dt percept b world
    c.FrameEnds (c.walkOf root seen.beliefs) host seen (c.update host time percept world) := by
  intro seen
  have rooted := (h.withBeliefs seen.beliefs).rooted
  cases outcome : (c.walkOf root seen.beliefs).fault with
  | some fault =>
    have walked := BehaviourTree.update_of_fault rooted outcome
    simp only [Controller.update, held]
    rw [walked]
    exact .stopped outcome
  | none =>
    have walked := BehaviourTree.update_of_no_fault rooted outcome
    obtain ⟨b', left⟩ := h.exists_walkOf operates seen.beliefs
    have found : (c.completed (c.walkOf root seen.beliefs)).beliefs = .ok b' :=
      beliefs_eq_ok_iff.2 left
    obtain ⟨d, run, concluded⟩ := conclude_eq found host time.tick percept seen.pickedUp seen.world
    simp only [Controller.update, held]
    rw [walked]
    exact concluded ▸ .carriedOut outcome left d run

/-! ## At any time -/

theorem fresh (config : Config) (agent : Agent) (memory : μ) (root : Node EntryType μ) :
    (freshOf config agent memory root).Drives root :=
  ⟨rfl, _, Beliefs.ofEntries_store (Beliefs.initial config agent) ∅⟩

theorem setSoftGoal (h : c.Drives root) (target : Vec2) : (c.setSoftGoal target).2.Drives root := by
  obtain ⟨b, held⟩ := h.exists_beliefs
  simp only [Controller.setSoftGoal, held]
  exact h.withBeliefs _

theorem update (h : c.Drives root) (operates : root.Operates) (host : Host η) (time : FrameTime)
    (percept : Percept) (world : η) :
    (c.update host time percept world).controller.Drives root := by
  obtain ⟨b, held⟩ := h.exists_beliefs
  have left := h.exists_walkOf operates
    (Gathering.perceive c.config host time.dt percept b world).beliefs
  have ends := h.frameEnds operates held host time percept world
  generalize c.update host time percept world = f at ends
  cases ends with
  | stopped => exact ⟨h.rooted, left⟩
  | carriedOut =>
    have walked : (c.completed (c.walkOf root _)).Drives root := ⟨h.rooted, left⟩
    exact ⟨(walked.withBeliefs _).rooted, (walked.withBeliefs _).schema⟩

end Drives

/-- Whatever happens to a controller, it drives its root on a board that holds the schema. -/
theorem Reached.drives {config : Config} {agent : Agent} {memory : μ} {root : Node EntryType μ}
    (operates : root.Operates) {c : Controller μ} (h : Reached config agent memory root c) :
    c.Drives root := by
  induction h with
  | made h =>
    obtain ⟨-, rfl⟩ := ofRoot_eq_ok_iff.1 h
    exact .fresh config agent memory root
  | headed _ target ih => exact ih.setSoftGoal target
  | asked _ q ih => exact ⟨ih.rooted, ih.schema⟩
  | reporting _ sink ih => exact ⟨ih.rooted, ih.schema⟩
  | reminded _ memory' ih => exact ⟨ih.rooted, ih.schema⟩
  | framed _ host time percept world ih => exact ih.update operates host time percept world

/-- However a controller of a root has come to be as it is, its next frame is carried out or ends in
the error of its walk. After the one, nothing is asked for. In the other, the tree's count and
status, the configuration and the running are as before, the host has only been called to move
items, and no intent has been lowered: perceiving leaves them alone, and the board is as the walk
left it when it stopped. -/
theorem carried_out_or_stopped {root : Node EntryType μ} (operates : root.Operates)
    {config : Config} {agent : Agent} {memory : μ} {c : Controller μ}
    (reached : Reached config agent memory root c) :
    ∃ b, c.beliefs = .ok b ∧
      ∀ {η : Type} (host : Host η) (time : FrameTime) (percept : Percept) (j : Journal η),
        let seen := Gathering.perceive c.config host.journalled time.dt percept b j
        let walk := c.walkOf root seen.beliefs
        let f := c.update host.journalled time percept j
        c.update host time percept j.world = ⟨f.result, f.controller, f.world.world⟩ ∧
          ((walk.fault = none ∧ ∃ d b', f.result = .ok d ∧ f.controller.beliefs = .ok b' ∧
              b'.flags = (false, false, false)) ∨
            ∃ fault, walk.fault = some fault ∧
              f.result = .error (.unregisteredKey fault.leaf fault.key) ∧
              f.controller.tree.ticks = c.tree.ticks ∧ f.controller.tree.last = c.tree.last ∧
              f.controller.config = c.config ∧ f.controller.runMode = c.runMode ∧
              j.OnlyMoved f.world ∧ seen.beliefs.flags = b.flags ∧
              f.controller.tree.board = walk.scene.board) := by
  have drives := reached.drives operates
  obtain ⟨b, held⟩ := drives.exists_beliefs
  refine ⟨b, held, fun host time percept j => ?_⟩
  intro seen walk f
  refine ⟨c.update_journalled host time percept j, ?_⟩
  have ends := drives.frameEnds operates held host.journalled time percept j
  change c.FrameEnds walk host.journalled seen f at ends
  generalize f = frame at ends ⊢
  cases ends with
  | @carriedOut b' ended left d run =>
    refine .inl ⟨ended, d, (b'.act host.journalled seen.world).beliefs, rfl, ?_,
      Beliefs.act_flags _ _ _⟩
    exact beliefs_eq_ok_iff.2 (Beliefs.ofEntries_store _ _)
  | @stopped fault stops =>
    exact .inr ⟨fault, stops, rfl, rfl, rfl, rfl, rfl,
      Gathering.onlyMoved_perceive c.config host time.dt percept b j,
      Gathering.flags_perceive c.config host.journalled time.dt percept b j, rfl⟩

/-- Asks for a shot, and then looks for something that nobody added. -/
def lostShot : Node EntryType Unit :=
  .thenLost ((Leaf.named "Shoot").writes Schema.shootPistol) fun s =>
    (.success, { s with board := (s.board.set Schema.shootPistol true).2 })

/-- The pack at the agent's feet is picked up, the shot is asked for, and then the frame fails: the
shot is still asked for. -/
theorem carried_out_or_stopped_lostShot :
    let pack : Item := .health ⟨1, ⟨0, 0⟩, 5⟩
    let c := freshOf {} {} () lostShot
    let f := c.update granting.journalled ⟨0, 1⟩ { items := [pack] } ⟨[], ()⟩
    lostShot.Operates ∧ Reached {} {} () lostShot c ∧
      f.result = .error (.unregisteredKey "Lost" "Nowhere") ∧ f.controller.tree.ticks = 0 ∧
      f.world.calls = [.pickUp pack 0] ∧
      f.controller.beliefs.toOption.map Beliefs.flags = some (true, false, false) := by
  intro pack c f
  have operates : lostShot.Operates :=
    Node.operates_thenLost _ fun _ => ⟨[.set Schema.shootPistol true], rfl⟩
  have reached : Reached {} {} () lostShot c :=
    .made (ofRoot_eq_ok_iff.2 ⟨by decide +kernel, rfl⟩)
  refine ⟨operates, reached, ?_⟩
  obtain ⟨b, held, frames⟩ := carried_out_or_stopped operates reached
  obtain ⟨-, ends⟩ := frames granting ⟨0, 1⟩ { items := [pack] } ⟨[], ()⟩
  have initial : c.beliefs = .ok (.initial {} {}) :=
    beliefs_eq_ok_iff.2 (Beliefs.ofEntries_store _ ∅)
  cases held.symm.trans initial
  have lost : (c.walkOf lostShot (Gathering.perceive c.config granting.journalled 1
      { items := [pack] } (.initial {} {}) ⟨[], ()⟩).beliefs).fault = some ⟨"Lost", "Nowhere"⟩ := by
    decide +kernel
  rcases ends with ⟨ended, -⟩ | ⟨fault, stops, result, ticks, -⟩
  · exact nomatch ended.symm.trans lost
  · cases stops.symm.trans lost
    exact ⟨result, ticks, by decide +kernel⟩

end Controller
end Forager
