import Forager.Proofs.Deliberation

/-!
# The search route is walked in order

The route is part of the configuration and stays what it is. The index of the next search point only
moves when a walk explores, and then by one, past a point that is on the route and that the agent
stands within reach of. So points are visited in order and none is skipped, and behind the last one
there is nothing to move past.

* `prioritise_searchPointIndex`: what a walk makes of the index.
* `Episode.advances_step`: what an occurrence makes of it.
* `route_in_order`: all of it, for every session of the standard controller.
-/
namespace Forager

variable {μ η : Type}

/-! ## The walk -/

namespace Beliefs

theorem searchPointIndex_headFor? (b : Beliefs) (target : Option Vec2) :
    (b.headFor? target).searchPointIndex = b.searchPointIndex := by cases target <;> rfl

/-- Exploring passes the next search point if the agent is there, and stays with it if not. -/
theorem searchPointIndex_explore (b : Beliefs) :
    b.explore.searchPointIndex = b.searchPointIndex + b.atSearchPoint.toNat := by
  unfold explore
  cases b.atSearchPoint with
  | true => exact searchPointIndex_headFor? _ _
  | false => exact searchPointIndex_headFor? b _

theorem searchPointIndex_of_undirected {b b' : Beliefs} (h : b.undirected = b'.undirected) :
    b.searchPointIndex = b'.searchPointIndex :=
  eq_of_undirected (·.searchPointIndex) (fun _ => rfl) h

theorem atSearchPoint_of_undirected {b b' : Beliefs} (h : b.undirected = b'.undirected) :
    b.atSearchPoint = b'.atSearchPoint :=
  eq_of_undirected atSearchPoint (fun _ => rfl) h

/-- A walk leaves the index of the next search point, or passes that point if the agent is there. -/
theorem prioritise_searchPointIndex (b : Beliefs) :
    b.prioritise.searchPointIndex = b.searchPointIndex ∨
      b.atSearchPoint = true ∧ b.prioritise.searchPointIndex = b.searchPointIndex + 1 := by
  have decided := decided_prioritise b
  generalize b.prioritise = intended at decided ⊢
  cases decided with
  | @heal b' kept flags wants =>
    have index : b'.searchPointIndex = b.searchPointIndex := searchPointIndex_of_undirected kept
    exact .inl index
  | @seek b' target kept content found =>
    have index : b'.searchPointIndex = b.searchPointIndex := searchPointIndex_of_undirected kept
    exact .inl ((searchPointIndex_headFor? b' target).trans index)
  | @explore b' kept content ahead =>
    have moved := searchPointIndex_explore b'
    rw [searchPointIndex_of_undirected kept, atSearchPoint_of_undirected kept] at moved
    cases there : b.atSearchPoint with
    | true =>
      rw [there] at moved
      exact .inr ⟨rfl, moved⟩
    | false =>
      rw [there] at moved
      exact .inl moved
  | @wander b' kept content searched =>
    have index : b'.searchPointIndex = b.searchPointIndex := searchPointIndex_of_undirected kept
    exact .inl index

theorem atSearchPoint_iff {b : Beliefs} : b.atSearchPoint = true ↔
    ∃ p, b.searchPoints[b.searchPointIndex]? = some p ∧
      p.distance b.agentInfo.position < b.agentInfo.grabRange := by
  simp only [atSearchPoint, Option.any_eq_true, decide_eq_true_eq]

end Beliefs

/-! ## Occurrences and runs -/

/-- Whether an occurrence may take the index of the next search point from `i` to `j`: the index
stays, or a frame finds the agent within reach of that point and passes it. -/
inductive Advances (points : List Vec2) (i : Nat) : Occurrence η → Nat → Prop
  | stay (o : Occurrence η) : Advances points i o i
  | pass (time : FrameTime) {percept : Percept} {p : Vec2} (next : points[i]? = some p)
    (near : p.distance percept.agent.position < percept.agent.grabRange) :
    Advances points i (.frame time percept) (i + 1)

namespace Advances

variable {points : List Vec2} {i j : Nat} {o : Occurrence η}

theorem le (h : Advances points i o j) : i ≤ j := by
  cases h <;> omega

theorem le_length (h : Advances points i o j) (on : i ≤ points.length) : j ≤ points.length := by
  cases h with
  | stay => exact on
  | pass time next near => exact (List.getElem?_eq_some_iff.1 next).1

end Advances

section Frame

variable (config : Config) (host : Host η) (time : FrameTime) (percept : Percept) (b : Beliefs)
  (world : η)

/-- Besides the walk, nothing in a frame touches the place on the route. -/
theorem searchPointIndex_turn :
    let t := turn config host time percept b world
    t.seen.beliefs.searchPointIndex = b.searchPointIndex ∧
      t.done.beliefs.searchPointIndex = t.intended.searchPointIndex := by
  intro t
  have perceived := congrArg Beliefs.searchPointIndex
    (Gathering.unperceived_perceive config host time.dt percept b world)
  have acted := congrArg Beliefs.searchPointIndex
    (Beliefs.unacted_act host t.intended t.seen.world)
  exact ⟨perceived, acted⟩

theorem searchPoints_turn :
    let t := turn config host time percept b world
    t.seen.beliefs.searchPoints = b.searchPoints ∧
      t.done.beliefs.searchPoints = b.searchPoints := by
  intro t
  have perceived := congrArg Beliefs.searchPoints
    (Gathering.unperceived_perceive config host time.dt percept b world)
  have walked := congrArg Beliefs.searchPoints (Beliefs.unplanned_prioritise t.seen.beliefs)
  have acted := congrArg Beliefs.searchPoints
    (Beliefs.unacted_act host t.intended t.seen.world)
  exact ⟨perceived, acted.trans (walked.trans perceived)⟩

end Frame

namespace Episode

theorem searchPoints_step (config : Config) (host : Host η) (e : Episode η) (o : Occurrence η) :
    (e.step config host o).beliefs.searchPoints = e.beliefs.searchPoints := by
  cases o with
  | softGoal target => rfl
  | frame time percept =>
    exact (searchPoints_turn config host time percept e.beliefs e.world).2
  | drift change => rfl

/-- What an occurrence makes of the place on the route. -/
theorem advances_step (config : Config) (host : Host η) (e : Episode η) (o : Occurrence η) :
    Advances e.beliefs.searchPoints e.beliefs.searchPointIndex o
      (e.step config host o).beliefs.searchPointIndex := by
  cases o with
  | softGoal target => exact .stay _
  | frame time percept =>
    obtain ⟨seen, done⟩ := searchPointIndex_turn config host time percept e.beliefs e.world
    have route := (searchPoints_turn config host time percept e.beliefs e.world).1
    have agent : (turn config host time percept e.beliefs e.world).seen.beliefs.agentInfo =
        percept.agent :=
      Gathering.agentInfo_perceive config host time.dt percept e.beliefs e.world
    have walked := Beliefs.prioritise_searchPointIndex
      (turn config host time percept e.beliefs e.world).seen.beliefs
    simp only [Episode.step]
    rcases walked with same | ⟨there, next⟩
    · rw [done.trans (same.trans seen)]
      exact .stay _
    · obtain ⟨p, here, near⟩ := Beliefs.atSearchPoint_iff.1 there
      rw [route, seen] at here
      rw [agent] at near
      rw [done.trans next, seen]
      exact .pass time here near
  | drift change => exact .stay _

theorem searchPoints_run (config : Config) (host : Host η) (e : Episode η)
    (os : List (Occurrence η)) :
    (e.run config host os).beliefs.searchPoints = e.beliefs.searchPoints :=
  run_invariant (P := fun e' => e'.beliefs.searchPoints = e.beliefs.searchPoints) rfl
    fun o _ e' kept => (searchPoints_step config host e' o).trans kept

/-- The index of the next search point never decreases. -/
theorem searchPointIndex_run_le (config : Config) (host : Host η) (e : Episode η)
    (os : List (Occurrence η)) :
    e.beliefs.searchPointIndex ≤ (e.run config host os).beliefs.searchPointIndex :=
  run_invariant (P := fun e' => e.beliefs.searchPointIndex ≤ e'.beliefs.searchPointIndex)
    (Nat.le_refl _) fun o _ e' ahead => ahead.trans (advances_step config host e' o).le

/-- A place along the route stays along the route. -/
theorem searchPointIndex_run_le_length (config : Config) (host : Host η) {e : Episode η}
    (along : e.beliefs.searchPointIndex ≤ e.beliefs.searchPoints.length)
    (os : List (Occurrence η)) :
    (e.run config host os).beliefs.searchPointIndex ≤ e.beliefs.searchPoints.length := by
  have kept : (e.run config host os).beliefs.searchPointIndex ≤
      (e.run config host os).beliefs.searchPoints.length :=
    run_invariant (P := fun e' => e'.beliefs.searchPointIndex ≤ e'.beliefs.searchPoints.length)
      along fun o _ e' along => by
        rw [searchPoints_step config host e' o]
        exact (advances_step config host e' o).le_length along
  rwa [searchPoints_run] at kept

end Episode

/-- The standard controller starts before the first search point of its configuration and never
changes these points. Whatever happens, the index of the next point stays on the list or right
behind it, moves only past a point that the frame finds the agent within reach of, and then by one;
it never moves back, so that behind the last point it stays there. -/
theorem route_in_order (config : Config) (agent : Agent) (memory : μ) :
    ∃ c, Controller.standard config agent memory = .ok c ∧
      (∃ b, c.beliefs = .ok b ∧ b.searchPoints = config.searchPoints ∧ b.searchPointIndex = 0) ∧
      ∀ {η : Type} (host : Host η) (world : η) (os : List (Occurrence η)),
        let s := Session.run host ⟨c, world, []⟩ os
        ∃ b, s.controller.beliefs = .ok b ∧ b.searchPoints = config.searchPoints ∧
          b.searchPointIndex ≤ config.searchPoints.length ∧
          (∀ o, ∃ b', (s.step host o).controller.beliefs = .ok b' ∧
            Advances config.searchPoints b.searchPointIndex o b'.searchPointIndex) ∧
          ∀ os', ∃ b', (s.run host os').controller.beliefs = .ok b' ∧
            b.searchPointIndex ≤ b'.searchPointIndex ∧
            (b.searchPointIndex = config.searchPoints.length →
              b'.searchPointIndex = config.searchPoints.length) := by
  refine ⟨_, Controller.standard_eq config agent memory, ⟨.initial config agent,
    (Controller.Holds.fresh config agent memory).beliefs, rfl, rfl⟩, fun host world os => ?_⟩
  intro s
  have follows := standard_session config agent memory host world os
  have route := Episode.searchPoints_run config host (.start config agent world) os
  have along := Episode.searchPointIndex_run_le_length config host
    (e := .start config agent world) (Nat.zero_le _) os
  generalize (Episode.start config agent world).run config host os = e at follows route along
  change e.beliefs.searchPoints = config.searchPoints at route
  change e.beliefs.searchPointIndex ≤ config.searchPoints.length at along
  refine ⟨_, follows.holds.beliefs, route, along, fun o => ?_, fun os' => ?_⟩
  · have advances := Episode.advances_step config host e o
    rw [route] at advances
    exact ⟨_, (follows.step host o).holds.beliefs, advances⟩
  · have ahead := Episode.searchPointIndex_run_le config host e os'
    rw [← route] at along
    have on := Episode.searchPointIndex_run_le_length config host along os'
    rw [route] at on
    exact ⟨_, (follows.run host os').holds.beliefs, ahead, fun last => by omega⟩

end Forager
