import Forager.Proofs.Deliberation

/-!
# Seeking and destinations

Steering and goals are separate entries that outlive a frame. All stages that turn to seeking head
for something first, but for the one that passes the last search point: there is nothing behind
it. And a heal stops everything below it, so the mode of an earlier frame stays, while the goal may
just have been dropped. In any other frame an agent that seeks has somewhere to go.

* `Beliefs.purposeful_prioritise`: how an agent comes to seek.
* `seeks_somewhere`: what is reported of a frame in which it does.
-/
namespace Forager

variable {μ η : Type}

namespace Beliefs

/-! ## Seeking -/

/-- Whether going on from `b` to `b'` passes the last search point. -/
def EndsSearch (b b' : Beliefs) : Prop :=
  b.searchPointIndex + 1 = b.searchPoints.length ∧ b'.searchPointIndex = b.searchPoints.length

/-- Whether `b'`, which came of `b`, has a goal if it seeks, unless a heal was asked for while
seeking or the last search point was passed. -/
def Purposeful (b b' : Beliefs) : Prop :=
  b'.steering = .seek →
    b'.goalSet = true ∨ b'.useHealthItem = true ∧ b.steering = .seek ∨ b.EndsSearch b'

/-- Stages that leave the course alone do not count. -/
theorem Purposeful.congr {b₁ b₂ b' : Beliefs} (h : b₁.undirected = b₂.undirected)
    (purpose : b₁.Purposeful b') : b₂.Purposeful b' := by
  have steering : b₁.undirected.steering = b₂.undirected.steering := by rw [h]
  have points : b₁.undirected.searchPoints = b₂.undirected.searchPoints := by rw [h]
  have index : b₁.undirected.searchPointIndex = b₂.undirected.searchPointIndex := by rw [h]
  simp only [undirected] at steering points index
  rw [Purposeful, EndsSearch, steering, points, index] at purpose
  exact purpose

theorem purposeful_seek {b : Beliefs} {target : Option Vec2} (h : target.isSome) :
    b.Purposeful (b.seek target) := by
  intro _
  obtain ⟨place, rfl⟩ := Option.isSome_iff_exists.1 h
  exact .inl rfl

/-- Who explores heads for a search point, unless the last one is passed. -/
theorem purposeful_explore {b : Beliefs} (h : b.searchPointIndex < b.searchPoints.length) :
    b.Purposeful { b.explore with steering := .seek } := by
  intro _
  unfold explore
  by_cases arrived : b.atSearchPoint = true
  · rw [if_pos arrived]
    cases next : b.searchPoints[b.searchPointIndex + 1]? with
    | some place => exact .inl rfl
    | none =>
      rw [List.getElem?_eq_none_iff] at next
      have last : b.searchPointIndex + 1 = b.searchPoints.length := by omega
      exact .inr (.inr ⟨last, last⟩)
  · rw [if_neg arrived, List.getElem?_eq_getElem h]
    exact .inl rfl

theorem purposeful_prioritise (b : Beliefs) : b.Purposeful b.prioritise := by
  have decided := decided_prioritise b
  generalize b.prioritise = intended at decided ⊢
  cases decided with
  | heal kept flags wants =>
    -- A heal leaves the mode as it is.
    exact Purposeful.congr kept fun seeking => .inr (.inl ⟨rfl, seeking⟩)
  | seek kept content found => exact Purposeful.congr kept (purposeful_seek found)
  | explore kept content ahead => exact Purposeful.congr kept (purposeful_explore ahead)
  | wander kept content searched =>
    intro wandering
    cases wandering

theorem isSome_navGoal_act (host : Host η) (b : Beliefs) (world : η) :
    (b.act host world).navGoal.isSome = (b.act host world).goal.isSome := by
  simp only [act, steer]
  cases b.destination? <;> rfl

theorem isSome_destination? {b : Beliefs} (h : b.goalSet = true) : b.destination?.isSome := by
  rw [destination?, if_pos h]
  rfl

end Beliefs

/-! ## Sessions -/

/-- Every frame of the standard controller reports a goal exactly if it reports the way there, and
one that seeks reports both, unless its walk asked for a heal, which leaves the mode and the goals
below untouched, or passed the last search point. -/
theorem seeks_somewhere (config : Config) (agent : Agent) (memory : μ) :
    ∃ c, Controller.standard config agent memory = .ok c ∧
      ∀ {η : Type} (host : Host η) (world : η) (os : List (Occurrence η)) (time : FrameTime)
        (percept : Percept),
        let s := Session.run host ⟨c, world, []⟩ os
        ∃ d w, (s.controller.update host time percept s.world).result = .ok d ∧
          s.controller.deliberate host time percept s.world = .ok w ∧
          d.steering = w.intended.steering ∧ d.goal = w.intended.destination? ∧
          d.navGoal.isSome = d.goal.isSome ∧
          (d.steering = .seek → d.goal.isSome ∨ w.AsksHeal ∧ w.seen.steering = .seek ∨
            w.seen.EndsSearch w.intended) := by
  refine ⟨_, Controller.standard_eq config agent memory, fun host world os time percept => ?_⟩
  obtain ⟨t, run, result, deliberated, intended, done, lowered, -⟩ :=
    standard_frame config agent memory host world os time percept
  have goal : t.done.goal = t.intended.destination? := by
    rw [done]
    rfl
  refine ⟨_, _, result, deliberated, rfl, goal, ?_, fun seeking => ?_⟩
  · simp only [Turn.decision, done]
    exact Beliefs.isSome_navGoal_act host t.intended t.seen.world
  · have purposeful := Beliefs.purposeful_prioritise t.seen.beliefs
    rw [← intended] at purposeful
    rcases purposeful seeking with headed | ⟨asked, sought⟩ | ends
    · refine .inl ?_
      rw [Turn.decision, goal]
      exact Beliefs.isSome_destination? headed
    · exact .inr (.inl ⟨⟨congrArg (·.2.1) lowered, asked⟩, sought⟩)
    · exact .inr (.inr ends)

/-- With one search point to visit and one strong pack on the way: the agent sets out for the
point, is low on health when it arrives, and is well again a frame later. -/
def oneStop : List (Occurrence Unit) :=
  [.frame ⟨0, 1⟩ { items := [.health ⟨1, ⟨0, 0⟩, 8⟩] },
    .frame ⟨1, 1⟩ { agent := { position := ⟨9, 0⟩, health := 4 } },
    .frame ⟨2, 1⟩ { agent := { position := ⟨9, 0⟩ } }]

/-- The agent seeks in all three frames, and has somewhere to go in the first alone: then it drops
the goal it has reached, first for a heal, and then because there is no further point. -/
theorem seeks_nowhere :
    ∃ c, Controller.standard { searchPoints := [⟨9, 0⟩] } {} () = .ok c ∧
      (Session.run granting ⟨c, (), []⟩ oneStop).decisions.map
          (fun d => (d.steering, d.goal, d.navGoal)) =
        [(.seek, some ⟨9, 0⟩, some ⟨9, 0⟩), (.seek, none, none), (.seek, none, none)] := by
  refine ⟨_, Controller.standard_eq _ _ _, ?_⟩
  rw [(standard_session _ _ _ _ _ _).decisions]
  decide +kernel

end Forager
