import Forager.Proofs.Deliberation

/-!
# A soft goal is kept until it is reached

A soft goal is dropped by the second stage of a walk, and by nothing else. The stages before it
never stop, so that every walk comes to it, whatever else the frame is about: the first frame that
finds the agent within reach drops the soft goal, and no earlier one.

* `Beliefs.softGoalSet_prioritise`: what a walk does to the soft goal.
* `softGoalSet_turn`: what a frame does to it.
* `Episode.softGoal_run`: what is left of it after any time in which no other is set.
* `soft_goal_kept`: the same for the standard controller, and what its decisions report of it.
-/
namespace Forager

variable {μ η : Type}

namespace Beliefs

/-! ## The walk -/

theorem softGoalSet_headFor? (b : Beliefs) (target : Option Vec2) :
    (b.headFor? target).softGoalSet = b.softGoalSet := by cases target <;> rfl

theorem softGoalSet_requestMeal (b : Beliefs) : b.requestMeal.softGoalSet = b.softGoalSet := by
  unfold requestMeal
  split <;> rfl

theorem softGoalSet_requestShot (b : Beliefs) : b.requestShot.softGoalSet = b.softGoalSet := by
  unfold requestShot
  split
  · split <;> rfl
  · rfl

theorem softGoalSet_explore (b : Beliefs) : b.explore.softGoalSet = b.softGoalSet := by
  unfold explore
  split
  · exact softGoalSet_headFor? _ _
  · exact softGoalSet_headFor? b _

/-- A walk drops a soft goal that has been reached. No stage after that one touches it. -/
theorem softGoalSet_prioritise (b : Beliefs) :
    b.prioritise.softGoalSet = (b.softGoalSet && !b.reaches b.softGoal) := by
  have dropped : b.dropReachedGoal.dropReachedSoftGoal.softGoalSet =
      (b.softGoalSet && !b.reaches b.softGoal) := by rw [dropReached_eq]
  unfold prioritise
  dsimp only
  refine Eq.trans ?_ dropped
  generalize b.dropReachedGoal.dropReachedSoftGoal = b₁
  split
  · rfl
  · split
    · exact softGoalSet_headFor? b₁ _
    · refine Eq.trans ?_ (softGoalSet_requestMeal b₁)
      generalize b₁.requestMeal = b₂
      split
      · exact softGoalSet_headFor? b₂ _
      · refine Eq.trans ?_ (softGoalSet_requestShot b₂)
        generalize b₂.requestShot = b₃
        split
        · exact softGoalSet_headFor? b₃ _
        · split
          · exact softGoalSet_headFor? b₃ _
          · split
            · exact softGoalSet_explore b₃
            · rfl

theorem softGoal_prioritise (b : Beliefs) : b.prioritise.softGoal = b.softGoal :=
  congrArg (·.softGoal) (unplanned_prioritise b)

/-! ## What is done after it -/

theorem softGoal_act (host : Host η) (b : Beliefs) (world : η) :
    (b.act host world).beliefs.softGoal = b.softGoal :=
  congrArg (·.softGoal) (unacted_act host b world)

theorem softGoalSet_act (host : Host η) (b : Beliefs) (world : η) :
    (b.act host world).beliefs.softGoalSet = b.softGoalSet :=
  congrArg (·.softGoalSet) (unacted_act host b world)

/-- The way that is reported is the host's answer for the goal that is reported. -/
theorem navGoal_act (host : Host η) (b : Beliefs) (world : η) :
    (b.act host world).navGoal =
      (b.act host world).goal.map fun goal => (host.closestPathPoint goal world).1 := by
  simp only [act, steer]
  cases b.destination? <;> rfl

end Beliefs

/-! ## Frames -/

/-- Whether a percept finds the agent within reach of the place. -/
def Percept.reaches (percept : Percept) (place : Vec2) : Bool :=
  decide (place.distance percept.agent.position ≤ percept.agent.grabRange)

section Turn

variable (config : Config) (host : Host η) (time : FrameTime) (percept : Percept) (b : Beliefs)
  (world : η)

theorem softGoal_intended : (turn config host time percept b world).intended.softGoal =
    b.softGoal :=
  (Beliefs.softGoal_prioritise _).trans
    (congrArg (·.softGoal) (Gathering.unperceived_perceive config host time.dt percept b world))

theorem softGoalSet_intended : (turn config host time percept b world).intended.softGoalSet =
    (b.softGoalSet && !percept.reaches b.softGoal) := by
  have unperceived := Gathering.unperceived_perceive config host time.dt percept b world
  have softGoal : (Gathering.perceive config host time.dt percept b world).beliefs.softGoal =
      b.softGoal := congrArg (·.softGoal) unperceived
  have softGoalSet : (Gathering.perceive config host time.dt percept b world).beliefs.softGoalSet =
      b.softGoalSet := congrArg (·.softGoalSet) unperceived
  have agent := Gathering.agentInfo_perceive config host time.dt percept b world
  simp only [turn]
  rw [Beliefs.softGoalSet_prioritise, Beliefs.reaches, softGoal, softGoalSet, agent]
  rfl

theorem softGoal_turn : (turn config host time percept b world).done.beliefs.softGoal =
    b.softGoal :=
  (Beliefs.softGoal_act host _ _).trans (softGoal_intended config host time percept b world)

/-- A frame drops a soft goal exactly if it finds the agent within reach of it. -/
theorem softGoalSet_turn : (turn config host time percept b world).done.beliefs.softGoalSet =
    (b.softGoalSet && !percept.reaches b.softGoal) :=
  (Beliefs.softGoalSet_act host _ _).trans (softGoalSet_intended config host time percept b world)

end Turn

/-! ## Sessions -/

namespace Occurrence

/-- Whether this is a frame that finds the agent within reach of the place. -/
def arrivesAt (place : Vec2) : Occurrence η → Bool
  | .frame _ percept => percept.reaches place
  | .softGoal _ => false
  | .drift _ => false

/-- Whether nobody sets a soft goal meanwhile. -/
def Undirected (os : List (Occurrence η)) : Prop := ∀ target, .softGoal target ∉ os

end Occurrence

namespace Episode

theorem softGoal_step (config : Config) (host : Host η) (e : Episode η) {o : Occurrence η}
    (undirected : ∀ target, o ≠ .softGoal target) :
    (e.step config host o).beliefs.softGoal = e.beliefs.softGoal ∧
      (e.step config host o).beliefs.softGoalSet =
        (e.beliefs.softGoalSet && !o.arrivesAt e.beliefs.softGoal) := by
  cases o with
  | softGoal target => exact absurd rfl (undirected target)
  | frame time percept =>
    exact ⟨softGoal_turn config host time percept e.beliefs e.world,
      softGoalSet_turn config host time percept e.beliefs e.world⟩
  | drift change => exact ⟨rfl, (Bool.and_true _).symm⟩

/-- While no other is set, a soft goal stays where it is, and is dropped by the first frame that
finds the agent within reach of it. -/
theorem softGoal_run (config : Config) (host : Host η) (e : Episode η) {os : List (Occurrence η)}
    (undirected : Occurrence.Undirected os) :
    (e.run config host os).beliefs.softGoal = e.beliefs.softGoal ∧
      (e.run config host os).beliefs.softGoalSet =
        (e.beliefs.softGoalSet && !os.any (·.arrivesAt e.beliefs.softGoal)) := by
  induction os generalizing e with
  | nil => exact ⟨rfl, (Bool.and_true _).symm⟩
  | cons o os ih =>
    obtain ⟨place, set⟩ := softGoal_step config host e (o := o) fun target same =>
      undirected target (same ▸ List.mem_cons_self)
    obtain ⟨places, sets⟩ := ih (e.step config host o) fun target later =>
      undirected target (List.mem_cons_of_mem _ later)
    rw [place] at places sets
    rw [set] at sets
    refine ⟨places, sets.trans ?_⟩
    rw [List.any_cons, Bool.not_or, Bool.and_assoc]

end Episode

/-- Whatever happens, a soft goal of the standard controller stays as it was set until the next one
is, and stays in force until the first frame that finds the agent within reach of it; before any is
set, none is in force. Every frame reports the goal that its walk leaves, or else the soft goal in
force at that time, or else none, and the answer of the host for just that point. -/
theorem soft_goal_kept (config : Config) (agent : Agent) (memory : μ) :
    ∃ c, Controller.standard config agent memory = .ok c ∧
      ∀ {η : Type} (host : Host η) (world : η) (os : List (Occurrence η)),
        let s := Session.run host ⟨c, world, []⟩ os
        ∃ b, s.controller.beliefs = .ok b ∧
          (∀ (before : List (Occurrence η)) (target : Vec2) (after : List (Occurrence η)),
            os = before ++ .softGoal target :: after → Occurrence.Undirected after →
              b.softGoal = target ∧ b.softGoalSet = !after.any (·.arrivesAt target)) ∧
          (Occurrence.Undirected os → b.softGoalSet = false) ∧
          ∀ time percept, ∃ d w,
            (s.controller.update host time percept s.world).result = .ok d ∧
            s.controller.deliberate host time percept s.world = .ok w ∧
            w.intended.softGoal = b.softGoal ∧
            w.intended.softGoalSet = (b.softGoalSet && !percept.reaches b.softGoal) ∧
            d.goal = (if w.intended.goalSet then some w.intended.goal
              else if w.intended.softGoalSet then some b.softGoal else none) ∧
            d.navGoal = d.goal.map fun goal => (host.closestPathPoint goal
              (Gathering.perceive config host time.dt percept b s.world).world).1 := by
  refine ⟨_, Controller.standard_eq config agent memory, fun host world os => ?_⟩
  intro s
  have follows := standard_session config agent memory host world os
  refine ⟨_, follows.holds.beliefs, fun before target after split undirected => ?_,
    fun undirected => ?_, fun time percept => ?_⟩
  · have kept := Episode.softGoal_run config host
      (((Episode.start config agent world).run config host before).step config host
        (.softGoal target)) undirected
    rw [split, Episode.run, List.foldl_append]
    exact kept
  · have kept := Episode.softGoal_run config host (.start config agent world) undirected
    rw [kept.2]
    rfl
  · generalize (Episode.start config agent world).run config host os = e at follows
    have updated := follows.holds.update host time percept s.world
    have deliberated := follows.holds.deliberate host time percept s.world
    rw [follows.config] at updated deliberated
    have softGoal := softGoal_intended config host time percept e.beliefs s.world
    refine ⟨_, _, congrArg (·.result) updated, deliberated, softGoal,
      softGoalSet_intended config host time percept e.beliefs s.world, ?_, ?_⟩
    · rw [← softGoal]
      rfl
    · exact Beliefs.navGoal_act host _ _

/-- An agent nine away from its soft goal that comes within reach of it, and then turns back. -/
def wayThere : List (Occurrence Unit) :=
  [.frame ⟨0, 1⟩ {}, .frame ⟨1, 1⟩ { agent := { position := ⟨7, 0⟩ } }, .frame ⟨2, 1⟩ {}]

/-- The soft goal is in force after the first of these frames, and after the others it is not. -/
theorem soft_goal_kept_wayThere :
    Occurrence.Undirected wayThere ∧ ∃ c, Controller.standard {} {} () = .ok c ∧
      ∀ n, ∃ b, (Session.run granting ⟨c, (), []⟩
          (.softGoal ⟨9, 0⟩ :: wayThere.take n)).controller.beliefs = .ok b ∧
        b.softGoal = ⟨9, 0⟩ ∧ b.softGoalSet = decide (n ≤ 1) := by
  have undirected : Occurrence.Undirected wayThere := by
    intro target later
    simp [wayThere] at later
  obtain ⟨c, made, kept⟩ := soft_goal_kept {} {} ()
  refine ⟨undirected, c, made, fun n => ?_⟩
  obtain ⟨b, held, since, -⟩ := kept granting () (.softGoal ⟨9, 0⟩ :: wayThere.take n)
  obtain ⟨place, set⟩ := since [] ⟨9, 0⟩ _ rfl fun target later =>
    undirected target (List.mem_of_mem_take later)
  refine ⟨b, held, place, set.trans ?_⟩
  match n with
  | 0 => rfl
  | 1 => decide +kernel
  | 2 => decide +kernel
  | n + 3 =>
    have all : wayThere.take (n + 3) = wayThere := List.take_of_length_le (by simp [wayThere])
    rw [all, decide_eq_false (by omega)]
    decide +kernel

end Forager
