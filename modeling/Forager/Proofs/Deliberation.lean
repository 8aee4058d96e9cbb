import Forager.Proofs.InventoryOrder

/-!
# What a frame's walk sets out from and comes to

A frame perceives, walks and acts. The beliefs on the board when the walk starts and when it ends
are its `Deliberation`; what is reported and done afterwards follows from the latter. Perceiving
brings up to date what the agent knows and changes nothing that the walk decides on, so every walk
finds the intents lowered, as the frame before left them.

* `unperceived_perceive`: what perceiving leaves alone.
* `Beliefs.decided_prioritise`: what a walk can come to.
* `Holds.deliberate`: the deliberation of a frame is that of a turn on beliefs.
* `standard_frame`: every further frame of a session is a turn that starts with nothing asked for.
-/
namespace Forager

variable {μ η : Type}

/-! ## What perceiving leaves alone -/

namespace Beliefs

/-- The beliefs without items, held or known. -/
def ungathered (b : Beliefs) : Beliefs :=
  { b with
    inventory := ⟨[]⟩
    knownItems := []
    knownHealthPacks := []
    knownFoodItems := []
    knownPistols := [] }

/-- The beliefs without items, houses and the reach of the pistols. -/
def unfound (b : Beliefs) : Beliefs :=
  { b.ungathered with
    knownHouses := []
    longestPistolRange := 0
    insideHouse := false }

/-- The beliefs without anything that perceiving brings up to date. -/
def unperceived (b : Beliefs) : Beliefs :=
  { b.unfound with
    agentInfo := {}
    knownEnemies := [] }

theorem ungathered_remember (b : Beliefs) (item : Item) :
    (b.remember item).ungathered = b.ungathered := by
  cases item <;> rfl

end Beliefs

namespace Gathering

theorem ungathered_collect (config : Config) (host : Host η) (g : Gathering η) (item : Item) :
    (g.collect config host item).beliefs.ungathered = g.beliefs.ungathered := by
  unfold collect
  dsimp only
  split
  · rfl
  · exact Beliefs.ungathered_remember _ item

theorem ungathered_inspect (config : Config) (host : Host η) (agent : Agent) (g : Gathering η)
    (item : Item) :
    (g.inspect config host agent item).beliefs.ungathered = g.beliefs.ungathered := by
  unfold inspect
  split
  · rfl
  · split
    · rfl
    · split
      · exact ungathered_collect config host g item
      · exact Beliefs.ungathered_remember _ item

theorem ungathered_foldl_inspect (config : Config) (host : Host η) (agent : Agent)
    (items : List Item) (g : Gathering η) :
    (items.foldl (inspect config host agent) g).beliefs.ungathered = g.beliefs.ungathered := by
  induction items generalizing g with
  | nil => rfl
  | cons item items ih => exact (ih _).trans (ungathered_inspect config host agent g item)

/-- Dealing with items changes what is known of items and the inventory. -/
theorem ungathered_ofPercept (config : Config) (host : Host η) (percept : Percept) (b : Beliefs)
    (world : η) : (ofPercept config host percept b world).beliefs.ungathered = b.ungathered :=
  ungathered_foldl_inspect config host percept.agent percept.items
    ⟨b.dropInspected (percept.items.map Item.id), [], world⟩

section Perceive

variable (config : Config) (host : Host η) (dt : Float32) (percept : Percept) (b : Beliefs)
  (world : η)

/-- Perceiving brings the agent and the enemies up to date, besides items, houses and the reach of
the pistols. -/
theorem unfound_perceive : (perceive config host dt percept b world).beliefs.unfound =
    { b with
      agentInfo := percept.agent
      knownEnemies := Enemy.merge dt b.knownEnemies percept.enemies }.unfound := by
  have gathered := congrArg Beliefs.unfound (ungathered_ofPercept config host percept
    { b with
      agentInfo := percept.agent
      knownEnemies := Enemy.merge dt b.knownEnemies percept.enemies } world)
  exact gathered

theorem agentInfo_perceive :
    (perceive config host dt percept b world).beliefs.agentInfo = percept.agent :=
  congrArg Beliefs.agentInfo (unfound_perceive config host dt percept b world)

theorem knownEnemies_perceive : (perceive config host dt percept b world).beliefs.knownEnemies =
    Enemy.merge dt b.knownEnemies percept.enemies :=
  congrArg Beliefs.knownEnemies (unfound_perceive config host dt percept b world)

theorem targetEnemy_perceive :
    (perceive config host dt percept b world).beliefs.targetEnemy = b.targetEnemy := by
  have found := congrArg Beliefs.targetEnemy (unfound_perceive config host dt percept b world)
  exact found

/-- Perceiving changes what the agent knows and holds, and nothing that it decides on. -/
theorem unperceived_perceive :
    (perceive config host dt percept b world).beliefs.unperceived = b.unperceived := by
  have found := congrArg Beliefs.unperceived (unfound_perceive config host dt percept b world)
  exact found

end Perceive

theorem flags_perceive (config : Config) (host : Host η) (dt : Float32) (percept : Percept)
    (b : Beliefs) (world : η) :
    (perceive config host dt percept b world).beliefs.flags = b.flags := by
  have same : (perceive config host dt percept b world).beliefs.unperceived.flags =
      b.unperceived.flags := by rw [unperceived_perceive]
  exact same

end Gathering

/-! ## How the stages end -/

namespace Beliefs

/-- Whether the agent is low on health and holds a health pack. -/
def WantsHeal (b : Beliefs) : Prop := b.lowHealth = true ∧ b.inventory.contains .health = true

theorem wantsHeal_of_undirected {b b' : Beliefs} (h : b.undirected = b'.undirected) :
    b.WantsHeal ↔ b'.WantsHeal :=
  Iff.of_eq (eq_of_undirected WantsHeal (fun _ => rfl) h)

theorem flags_dropReachedGoal (b : Beliefs) : b.dropReachedGoal.flags = b.flags := by
  unfold dropReachedGoal
  split <;> rfl

theorem flags_dropReachedSoftGoal (b : Beliefs) : b.dropReachedSoftGoal.flags = b.flags := by
  unfold dropReachedSoftGoal
  split <;> rfl

/-- What the stages come to: the stage that stops, on what the stages before it left. Those leave
the course alone, and before a heal nothing is asked for. -/
inductive Decided (b : Beliefs) : Beliefs → Prop where
  | heal {b' : Beliefs} (kept : b'.undirected = b.undirected) (flags : b'.flags = b.flags)
    (wants : b.WantsHeal) : Decided b { b' with useHealthItem := true }
  | seek {b' : Beliefs} {target : Option Vec2} (kept : b'.undirected = b.undirected)
    (content : ¬b.WantsHeal) (found : target.isSome) : Decided b (b'.seek target)
  | explore {b' : Beliefs} (kept : b'.undirected = b.undirected) (content : ¬b.WantsHeal)
    (ahead : b'.searchPointIndex < b'.searchPoints.length) :
    Decided b { b'.explore with steering := .seek }
  | wander {b' : Beliefs} (kept : b'.undirected = b.undirected) (content : ¬b.WantsHeal)
    (searched : b'.searchPoints.length ≤ b'.searchPointIndex) :
    Decided b { b' with steering := .wander }

theorem decided_prioritise (b : Beliefs) : b.Decided b.prioritise := by
  have dropped := (undirected_dropReachedSoftGoal b.dropReachedGoal).trans
    (undirected_dropReachedGoal b)
  have flags := (flags_dropReachedSoftGoal b.dropReachedGoal).trans (flags_dropReachedGoal b)
  unfold prioritise
  dsimp only
  generalize b.dropReachedGoal.dropReachedSoftGoal = b₁ at dropped flags ⊢
  split
  · rename_i heal
    rw [Bool.and_eq_true] at heal
    exact .heal dropped flags ((wantsHeal_of_undirected dropped).1 heal)
  · rename_i content
    rw [Bool.and_eq_true] at content
    replace content : ¬b.WantsHeal := mt (wantsHeal_of_undirected dropped).2 content
    split
    · rename_i fetch
      rw [Bool.and_eq_true] at fetch
      exact .seek dropped content (closest?_map_isSome fetch.2)
    · have fed := (undirected_requestMeal b₁).trans dropped
      generalize b₁.requestMeal = b₂ at fed ⊢
      split
      · rename_i fetch
        rw [Bool.and_eq_true] at fetch
        exact .seek fed content (closest?_map_isSome fetch.2)
      · have armed := (undirected_requestShot b₂).trans fed
        generalize b₂.requestShot = b₃ at armed ⊢
        split
        · rename_i collect
          rw [Bool.and_eq_true] at collect
          exact .seek armed content (collectible?_isSome collect.2)
        · split
          · rename_i visit
            rw [Bool.and_eq_true] at visit
            exact .seek armed content (closest?_map_isSome visit.2)
          · split
            · rename_i ahead
              exact .explore armed content ahead
            · rename_i searched
              exact .wander armed content (Nat.not_lt.1 searched)

end Beliefs

/-! ## Deliberations -/

/-- The beliefs that a walk finds on the board, and those it leaves there. -/
structure Deliberation where
  seen : Beliefs
  intended : Beliefs

/-- Whether the walk asked for a heal. -/
def Deliberation.AsksHeal (w : Deliberation) : Prop :=
  w.seen.useHealthItem = false ∧ w.intended.useHealthItem = true

namespace Controller

/-- The deliberation of a walk that starts with the given beliefs. -/
def consider (c : Controller μ) (seen : Beliefs) : Except (TreeError EntryType) Deliberation :=
  let walked := (c.withBeliefs seen).tree.update
  match walked.1 with
  | .error e => .error e
  | .ok () => (beliefs { c with tree := walked.2 }).map (⟨seen, ·⟩)

/-- The deliberation of the next frame: perceive, then walk. -/
def deliberate (c : Controller μ) (host : Host η) (time : FrameTime) (percept : Percept)
    (world : η) : Except (TreeError EntryType) Deliberation :=
  match c.beliefs with
  | .error e => .error e
  | .ok b => c.consider (Gathering.perceive c.config host time.dt percept b world).beliefs

namespace Holds

variable {c : Controller μ} {b : Beliefs}

theorem consider (h : c.Holds b) (seen : Beliefs) :
    c.consider seen = .ok ⟨seen, seen.prioritise⟩ := by
  have left : Controller.beliefs { c with tree := (c.afterWalk seen).tree } =
      .ok seen.prioritise := by
    have stored := Beliefs.ofEntries_store seen.prioritise c.tree.board.entries
    simp only [Controller.beliefs, afterWalk, BehaviourTree.board, Beliefs.scene] at stored ⊢
    rw [stored]
    rfl
  simp only [Controller.consider, h.walked, left]
  rfl

theorem deliberate (h : c.Holds b) (host : Host η) (time : FrameTime) (percept : Percept)
    (world : η) :
    c.deliberate host time percept world =
      .ok ⟨(turn c.config host time percept b world).seen.beliefs,
        (turn c.config host time percept b world).intended⟩ := by
  simp only [Controller.deliberate, h.beliefs]
  exact h.consider _

end Holds

end Controller

/-! ## Nothing is asked for between frames -/

namespace Episode

theorem flags_step (config : Config) (host : Host η) {e : Episode η}
    (lowered : e.beliefs.flags = (false, false, false)) (o : Occurrence η) :
    (e.step config host o).beliefs.flags = (false, false, false) := by
  cases o with
  | softGoal target => exact lowered
  | frame time percept => exact Beliefs.act_flags host _ _
  | drift change => exact lowered

theorem flags_run (config : Config) (host : Host η) (agent : Agent) (world : η)
    (os : List (Occurrence η)) :
    ((start config agent world).run config host os).beliefs.flags = (false, false, false) :=
  run_invariant (P := fun e => e.beliefs.flags = (false, false, false)) rfl
    fun o _ _ lowered => flags_step config host lowered o

end Episode

/-- Every further frame of a session is a turn on beliefs with an inventory in order, and starts
its walk with nothing asked for. -/
theorem standard_frame (config : Config) (agent : Agent) (memory : μ) (host : Host η) (world : η)
    (os : List (Occurrence η)) (time : FrameTime) (percept : Percept) :
    let s := Session.run host ⟨Controller.fresh config agent memory, world, []⟩ os
    ∃ (t : Turn η) (run : Bool),
      (s.controller.update host time percept s.world).result = .ok (t.decision time.tick run) ∧
      s.controller.deliberate host time percept s.world = .ok ⟨t.seen.beliefs, t.intended⟩ ∧
      t.intended = t.seen.beliefs.prioritise ∧ t.done = t.intended.act host t.seen.world ∧
      t.seen.beliefs.flags = (false, false, false) ∧ t.seen.beliefs.inventory.InOrder config := by
  intro s
  have follows := standard_session config agent memory host world os
  have lowered := Episode.flags_run config host agent world os
  have ok := Episode.inOrder_run config host agent world os
  generalize (Episode.start config agent world).run config host os = e at follows lowered ok
  have deliberated := follows.holds.deliberate host time percept s.world
  rw [follows.config] at deliberated
  obtain ⟨taken, swapped, emptied, dealt, -⟩ := dealt_turn host time percept ok s.world
  refine ⟨turn config host time percept e.beliefs s.world,
    Controller.nextRunMode config percept.agent.stamina s.controller.runMode, ?_, deliberated, rfl,
    rfl, ?_, ?_⟩
  · rw [follows.holds.update host time percept s.world, follows.config]
  · exact (Gathering.flags_perceive config host time.dt percept e.beliefs s.world).trans lowered
  · exact dealt.inOrder ok

/-- A host that grants every request. -/
def granting : Host Unit where
  closestPathPoint goal world := (goal, world)
  pickUp _ _ world := (true, world)
  useItem _ world := (true, world)
  dropItem _ world := world
  enemyVisible _ world := (true, world)

end Forager
