import Forager.Proofs.Deliberation
import Forager.Proofs.NumberLine
import Forager.Proofs.Sightings

/-!
# Targets

The agent takes on the nearest enemy in view, if a loaded pistol reaches it, and remembers it as
its target for as long as the host sees it. The target outlives frames in which nobody is taken
on; it never outlives the memory of the enemy. As intents are lowered between frames, a shot is
only asked for in a frame that takes an enemy on.

* `Beliefs.aim_prioritise`: a walk takes an enemy on as that stage alone would, or not at all.
* `Episode.tracks_run`: every enemy is remembered once, and the target is one of them.
* `targets_sighted`: what is known of enemies in a frame, and of the one shot at.
-/
namespace Forager

variable {μ η : Type}

namespace Beliefs

/-! ## The nearest enemy -/

def distanceTo (b : Beliefs) (e : Enemy) : Float32 := e.position.distance b.agentInfo.position

variable {b b' : Beliefs} {e : Enemy}

theorem nearestEnemy?_mem (h : b.nearestEnemy? = some e) : e ∈ b.knownEnemies ∧ e.inView = true :=
  List.mem_filter.1 (choose_mem h)

/-- Off NaN, the nearest enemy in view is nearer than every other. -/
theorem distanceTo_nearestEnemy? (h : b.nearestEnemy? = some e)
    (numbers : ∀ o ∈ b.knownEnemies, o.inView = true → (b.distanceTo o).isNaN = false) :
    ∀ o ∈ b.knownEnemies, o.inView = true → b.distanceTo e ≤ b.distanceTo o := by
  intro o known inView
  have kept := keeps_of_choose (S := fun o => (b.distanceTo o).isNaN = false)
    (fun o p ho hp => by
      rw [decide_eq_true_iff, decide_eq_true_iff]
      exact Single.le_total ho hp)
    (fun o p q hop hpq => by
      rw [decide_eq_true_iff] at hop hpq ⊢
      exact Single.le_trans hop hpq)
    (fun o ho => numbers o (List.mem_filter.1 ho).1 (List.mem_filter.1 ho).2) h
  exact of_decide_eq_true (kept o (List.mem_filter.2 ⟨known, inView⟩))

/-! ## Taking an enemy on -/

/-- Whom the agent has taken on, and whether it asks for a shot. -/
def aim (b : Beliefs) : Option EntityId × Bool := (b.targetEnemy, b.shootPistol)

theorem aim_dropReachedGoal (b : Beliefs) : b.dropReachedGoal.aim = b.aim := by
  unfold dropReachedGoal
  split <;> rfl

theorem aim_dropReachedSoftGoal (b : Beliefs) : b.dropReachedSoftGoal.aim = b.aim := by
  unfold dropReachedSoftGoal
  split <;> rfl

theorem aim_requestMeal (b : Beliefs) : b.requestMeal.aim = b.aim := by
  unfold requestMeal
  split <;> rfl

theorem aim_headFor? (b : Beliefs) (target : Option Vec2) : (b.headFor? target).aim = b.aim := by
  cases target <;> rfl

theorem aim_seek (b : Beliefs) (target : Option Vec2) : (b.seek target).aim = b.aim :=
  aim_headFor? b target

theorem aim_explore (b : Beliefs) : b.explore.aim = b.aim := by
  unfold explore
  split
  · exact aim_headFor? _ _
  · exact aim_headFor? b _

/-- How the stage that takes enemies on ends. -/
theorem aim_requestShot (b : Beliefs) :
    b.requestShot.aim = b.aim ∨
      ∃ e, b.nearestEnemy? = some e ∧ b.inPistolRange e = true ∧
        b.requestShot.aim = (some e.id, true) := by
  unfold requestShot
  cases nearest : b.nearestEnemy? with
  | none => exact .inl rfl
  | some e =>
    by_cases ready : (b.holdsLoadedPistol && b.inPistolRange e) = true
    · simp only [if_pos ready]
      rw [Bool.and_eq_true] at ready
      exact .inr ⟨e, rfl, ready.2, rfl⟩
    · simp only [if_neg ready]
      exact .inl trivial

/-- Stages that leave the course and the target alone do not count. -/
theorem aim_requestShot_congr (course : b.undirected = b'.undirected) (target : b.aim = b'.aim) :
    b.requestShot.aim = b'.requestShot.aim := by
  have nearest : b.undirected.nearestEnemy? = b'.undirected.nearestEnemy? := by rw [course]
  have loaded : b.undirected.holdsLoadedPistol = b'.undirected.holdsLoadedPistol := by rw [course]
  have reach : b.undirected.inPistolRange = b'.undirected.inPistolRange := by rw [course]
  have same : b.nearestEnemy? = b'.nearestEnemy? ∧ b.holdsLoadedPistol = b'.holdsLoadedPistol ∧
      b.inPistolRange = b'.inPistolRange := ⟨nearest, loaded, reach⟩
  unfold requestShot
  rw [same.1, same.2.1, same.2.2]
  split
  · split
    · rfl
    · exact target
  · exact target

/-- A walk takes an enemy on as that stage alone would, or not at all. -/
theorem aim_prioritise (b : Beliefs) :
    b.prioritise.aim = b.aim ∨ b.prioritise.aim = b.requestShot.aim := by
  have dropped := (undirected_dropReachedSoftGoal b.dropReachedGoal).trans
    (undirected_dropReachedGoal b)
  have kept := (aim_dropReachedSoftGoal b.dropReachedGoal).trans (aim_dropReachedGoal b)
  unfold prioritise
  dsimp only
  generalize b.dropReachedGoal.dropReachedSoftGoal = b₁ at dropped kept ⊢
  split
  · exact .inl kept
  · split
    · exact .inl ((aim_seek b₁ _).trans kept)
    · have fed := (undirected_requestMeal b₁).trans dropped
      replace kept := (aim_requestMeal b₁).trans kept
      generalize b₁.requestMeal = b₂ at fed kept ⊢
      split
      · exact .inl ((aim_seek b₂ _).trans kept)
      · have shot := aim_requestShot_congr fed kept
        generalize b₂.requestShot = b₃ at shot ⊢
        refine .inr (Eq.trans ?_ shot)
        split
        · exact aim_seek b₃ _
        · split
          · exact aim_seek b₃ _
          · split
            · exact aim_explore b₃
            · rfl

/-- Whether an enemy is the target, known and in view, within reach of a pistol, and the nearest of
those in view, at least if all their distances are numbers. -/
structure TakesOn (b : Beliefs) (e : Enemy) : Prop where
  target : b.targetEnemy = some e.id
  known : e ∈ b.knownEnemies
  inView : e.inView = true
  armed : 0 < b.longestPistolRange
  inReach : b.distanceTo e < b.longestPistolRange
  nearest : (∀ o ∈ b.knownEnemies, o.inView = true → (b.distanceTo o).isNaN = false) →
    ∀ o ∈ b.knownEnemies, o.inView = true → b.distanceTo e ≤ b.distanceTo o

theorem TakesOn.congr (h : b.TakesOn e) (enemies : b'.knownEnemies = b.knownEnemies)
    (place : b'.agentInfo = b.agentInfo) (reach : b'.longestPistolRange = b.longestPistolRange)
    (target : b'.targetEnemy = b.targetEnemy) : b'.TakesOn e := by
  obtain ⟨h₁, h₂, h₃, h₄, h₅, h₆⟩ := h
  simp only [distanceTo, ← enemies, ← place, ← reach, ← target] at h₁ h₂ h₄ h₅ h₆
  exact ⟨h₁, h₂, h₃, h₄, h₅, h₆⟩

theorem knownEnemies_prioritise (b : Beliefs) : b.prioritise.knownEnemies = b.knownEnemies :=
  congrArg (·.knownEnemies) (unplanned_prioritise b)

theorem agentInfo_prioritise (b : Beliefs) : b.prioritise.agentInfo = b.agentInfo :=
  congrArg (·.agentInfo) (unplanned_prioritise b)

/-- A walk leaves the target and the request for a shot as they were, or takes an enemy on. -/
theorem takesOn_prioritise (b : Beliefs) :
    b.prioritise.aim = b.aim ∨ ∃ e, b.prioritise.TakesOn e := by
  rcases aim_prioritise b with kept | shot
  · exact .inl kept
  · rcases aim_requestShot b with kept | ⟨e, nearest, reach, aimed⟩
    · exact .inl (shot.trans kept)
    · obtain ⟨known, inView⟩ := nearestEnemy?_mem nearest
      rw [inPistolRange, Bool.and_eq_true] at reach
      have taken : { b with targetEnemy := some e.id }.TakesOn e :=
        ⟨rfl, known, inView, of_decide_eq_true reach.1, of_decide_eq_true reach.2,
          distanceTo_nearestEnemy? nearest⟩
      exact .inr ⟨e, taken.congr (knownEnemies_prioritise b) (agentInfo_prioritise b)
        (prioritise_longestPistolRange b) (congrArg Prod.fst (shot.trans aimed))⟩

/-- A shot is only asked for in a frame that takes an enemy on. -/
theorem takesOn_of_asked (lowered : b.flags = (false, false, false))
    (asked : b.prioritise.shootPistol = true) : ∃ e, b.prioritise.TakesOn e := by
  rcases takesOn_prioritise b with kept | taken
  · have before : b.shootPistol = false := congrArg Prod.fst lowered
    have after : b.prioritise.shootPistol = b.shootPistol := congrArg Prod.snd kept
    rw [after, before] at asked
    cases asked
  · exact taken

/-! ## The target is remembered -/

/-- Whether every enemy is remembered once, and the target is one of them. -/
structure Tracks (b : Beliefs) : Prop where
  once : (b.knownEnemies.map (·.id)).Nodup
  known : ∀ id, b.targetEnemy = some id → id ∈ b.knownEnemies.map (·.id)

theorem tracks_prioritise (h : b.Tracks) : b.prioritise.Tracks := by
  constructor
  · rw [knownEnemies_prioritise]
    exact h.once
  · intro id target
    rcases takesOn_prioritise b with kept | ⟨e, taken⟩
    · rw [knownEnemies_prioritise]
      exact h.known id ((congrArg Prod.fst kept).symm.trans target)
    · cases taken.target.symm.trans target
      exact List.mem_map_of_mem taken.known

/-- A target out of view is forgotten together with the enemy. -/
theorem tracks_reviewTarget (host : Host η) (world : η) (h : b.Tracks) :
    (b.reviewTarget host world).1.Tracks := by
  unfold reviewTarget
  split
  · exact h
  · dsimp only
    split
    · exact h
    · exact ⟨h.once.sublist (List.filter_sublist.map _), nofun⟩

theorem tracks_fire (host : Host η) (world : η) (h : b.Tracks) :
    (b.fire host world).beliefs.Tracks := by
  unfold fire
  split
  · exact h
  · rename_i slot _
    dsimp only
    generalize shoot host slot b.inventory (host.useItem slot world).2 = shot
    split
    · have reviewed := tracks_reviewTarget (b := { b with inventory := shot.1 }) host shot.2
        ⟨h.once, h.known⟩
      exact ⟨reviewed.once, reviewed.known⟩
    · exact h

theorem tracks_consume (resource : Resource) (host : Host η) (world : η) (h : b.Tracks) :
    (b.consume resource host world).beliefs.Tracks := by
  unfold consume
  dsimp only
  split
  · exact h
  · split
    · exact ⟨h.once, h.known⟩
    · exact h

theorem tracks_act (host : Host η) (world : η) (h : b.Tracks) :
    (b.act host world).beliefs.Tracks :=
  act_invariant (P := fun b _ => b.Tracks) (fun _ _ _ _ _ _ h => ⟨h.once, h.known⟩)
    (fun _ _ _ h => h) (fun _ w h => tracks_fire host w h)
    (fun resource _ w h => tracks_consume resource host w h) h

end Beliefs

theorem Gathering.tracks_perceive (config : Config) (host : Host η) (dt : Float32)
    (percept : Percept) {b : Beliefs} (world : η) (h : b.Tracks) :
    (perceive config host dt percept b world).beliefs.Tracks := by
  constructor
  · rw [knownEnemies_perceive]
    exact (Enemy.sighted_merge dt h.once percept.enemies).once
  · intro id target
    rw [targetEnemy_perceive] at target
    rw [knownEnemies_perceive, Enemy.mem_map_id_merge]
    exact .inl (h.known id target)

namespace Episode

theorem tracks_step (config : Config) (host : Host η) {e : Episode η} (h : e.beliefs.Tracks)
    (o : Occurrence η) : (e.step config host o).beliefs.Tracks := by
  cases o with
  | softGoal target => exact ⟨h.once, h.known⟩
  | frame time percept =>
    have seen := Gathering.tracks_perceive config host time.dt percept e.world h
    exact Beliefs.tracks_act host _ (Beliefs.tracks_prioritise seen)
  | drift change => exact h

theorem tracks_run (config : Config) (host : Host η) (agent : Agent) (world : η)
    (os : List (Occurrence η)) :
    ((start config agent world).run config host os).beliefs.Tracks :=
  run_invariant (P := fun e => e.beliefs.Tracks) ⟨List.nodup_nil, nofun⟩
    fun o _ _ h => tracks_step config host h o

end Episode

/-! ## Sessions -/

/-- In every state of every session each enemy is remembered once, and the target is none or one of
them. This is so on both ends of a walk, too, which changes nothing that is known of enemies: those
in view are the ones sighted in the frame, each where its last sighting puts it. And a frame that
asks for a shot has taken on one of these enemies, the nearest in reach. -/
theorem targets_sighted (config : Config) (agent : Agent) (memory : μ) :
    ∃ c, Controller.standard config agent memory = .ok c ∧
      ∀ {η : Type} (host : Host η) (world : η) (os : List (Occurrence η)),
        let s := Session.run host ⟨c, world, []⟩ os
        (∃ b, s.controller.beliefs = .ok b ∧ b.Tracks) ∧
          ∀ (time : FrameTime) (percept : Percept),
            ∃ w, s.controller.deliberate host time percept s.world = .ok w ∧
              w.seen.Tracks ∧ w.intended.Tracks ∧ w.intended.knownEnemies = w.seen.knownEnemies ∧
              Enemy.Sighted percept.enemies w.seen.knownEnemies ∧
              w.intended.agentInfo = percept.agent ∧
              (w.intended.shootPistol = true →
                ∃ e, w.intended.TakesOn e ∧ e.id ∈ percept.enemies.map (·.id)) := by
  refine ⟨_, Controller.standard_eq config agent memory, fun host world os => ?_⟩
  have follows := standard_session config agent memory host world os
  have tracks := Episode.tracks_run config host agent world os
  have lowered := Episode.flags_run config host agent world os
  generalize (Episode.start config agent world).run config host os = e at follows tracks lowered
  refine ⟨⟨e.beliefs, follows.holds.beliefs, tracks⟩, fun time percept => ?_⟩
  generalize Session.run host ⟨Controller.fresh config agent memory, world, []⟩ os = s at follows ⊢
  have seen := Gathering.tracks_perceive s.controller.config host time.dt percept s.world tracks
  have flags := Gathering.flags_perceive s.controller.config host time.dt percept e.beliefs s.world
  have place := Gathering.agentInfo_perceive s.controller.config host time.dt percept e.beliefs
    s.world
  have sighted := Enemy.sighted_merge time.dt tracks.once percept.enemies
  rw [← Gathering.knownEnemies_perceive s.controller.config host time.dt percept e.beliefs s.world]
    at sighted
  refine ⟨_, follows.holds.deliberate host time percept s.world, seen,
    Beliefs.tracks_prioritise seen, Beliefs.knownEnemies_prioritise _, sighted,
    (Beliefs.agentInfo_prioritise _).trans place, fun asked => ?_⟩
  obtain ⟨enemy, taken⟩ := Beliefs.takesOn_of_asked (flags.trans lowered) asked
  refine ⟨enemy, taken, (sighted.inView enemy ?_).1 taken.inView⟩
  exact Beliefs.knownEnemies_prioritise _ ▸ taken.known

/-- A percept of one enemy, which comes with a forecast that the agent does not share. -/
def forecast : Percept where
  enemies := [⟨1, ⟨5, 0⟩, .zero, .zero, .zero, 10, true⟩]

/-- Who is in view is expected where it stands, whatever the sighting forecasts. -/
theorem forecast_overruled :
    ∃ c w, Controller.standard {} {} () = .ok c ∧
      c.deliberate granting ⟨0, 1⟩ forecast () = .ok w ∧
      ∃ e ∈ w.seen.knownEnemies, ∃ s, Enemy.lastSighting? forecast.enemies e.id = some s ∧
        e.inView = true ∧ e.predictedPosition ≠ s.predictedPosition := by
  have deliberated := (Controller.Holds.fresh {} {} ()).deliberate granting ⟨0, 1⟩ forecast ()
  refine ⟨_, _, Controller.standard_eq {} {} (), deliberated,
    ⟨1, ⟨5, 0⟩, ⟨5, 0⟩, ⟨5, 0⟩, .zero, 10, true⟩, ?_, _, rfl, rfl, by decide⟩
  show _ ∈ (Gathering.perceive {} granting 1 forecast (.initial {} {}) ()).beliefs.knownEnemies
  rw [Gathering.knownEnemies_perceive]
  exact List.mem_singleton_self _

end Forager
