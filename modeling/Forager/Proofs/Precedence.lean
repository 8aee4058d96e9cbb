import Forager.Proofs.Remedies

/-!
# Healing comes before everything else

A walk that asks for a heal stops there. Of the stages before it only those that drop reached goals
have had their say, and no request is left over from an earlier frame. So in such a frame the agent
drops goals and heals, if a pack fits, and does nothing else; and since a walk that asks for a meal
has not asked for a heal, no frame uses up two items.

* `prioritise_of_wantsHeal`: what a walk comes to that asks for a heal.
* `act_of_heal`: what is done after it.
* `length_used_act_le`: no more than one item is used up.
* `healing_comes_first`: all of it, for every frame of the standard controller.
-/
namespace Forager

variable {μ η : Type}

namespace Beliefs

/-! ## The walk -/

/-- A walk that asks for a heal drops reached goals first, and leaves all else as it is. -/
theorem prioritise_of_wantsHeal {b : Beliefs} (h : b.WantsHeal) :
    b.prioritise =
      { b with
        goalSet := b.goalSet && !b.reaches b.goal
        softGoalSet := b.softGoalSet && !b.reaches b.softGoal
        useHealthItem := true } := by
  have heal : (b.lowHealth && b.inventory.contains .health) = true := Bool.and_eq_true_iff.2 h
  unfold prioritise
  dsimp only
  rw [dropReached_eq]
  exact if_pos heal

/-- No walk that starts with nothing asked for asks for both a heal and a meal. -/
theorem asks_one {b : Beliefs} (lowered : b.flags = (false, false, false)) :
    b.prioritise.useHealthItem = false ∨ b.prioritise.useFoodItem = false := by
  obtain ⟨heal, only⟩ := prioritise_heal lowered
  by_cases wants : b.WantsHeal
  · exact .inr (congrArg (·.2.2) (only wants))
  · exact .inl (Bool.eq_false_iff.2 (mt heal.1 wants))

/-! ## What is done after it -/

/-- Using up an item for a resource touches the inventory alone, and no item of another kind. -/
theorem consume_beliefs (resource : Resource) (host : Host η) (b : Beliefs) (w : η) :
    ∃ inv, (b.consume resource host w).beliefs = { b with inventory := inv } ∧
      ∀ (slot : Nat) (item : Item), b.inventory.slots[slot]? = some (some item) →
        item.kind ≠ resource.kind → inv.slots[slot]? = some (some item) := by
  unfold consume
  dsimp only
  split
  · exact ⟨b.inventory, rfl, fun _ _ held _ => held⟩
  · rename_i used chosen
    split
    · refine ⟨b.inventory.clear used, rfl, fun slot item held other => ?_⟩
      obtain ⟨consumed, there, kind⟩ := Resource.bestSlot?_spec chosen
      have elsewhere : used ≠ slot := by
        rintro rfl
        rw [there] at held
        cases held
        exact other kind
      rw [Inventory.clear, List.getElem?_set_ne elsewhere]
      exact held
    · exact ⟨b.inventory, rfl, fun _ _ held _ => held⟩

/-- When a heal is all that is asked for, nothing is fired or eaten, and besides the way and the
health packs the beliefs stay as they are. -/
theorem act_of_heal (host : Host η) {b : Beliefs} (asked : b.flags = (false, true, false))
    (w : η) :
    (b.act host w).fired = false ∧ .food ∉ (b.act host w).used ∧
      ∃ next inv, (b.act host w).beliefs =
          { b with nextNavMeshGoal := next, inventory := inv, useHealthItem := false } ∧
        ∀ (slot : Nat) (item : Item), b.inventory.slots[slot]? = some (some item) →
          item.kind ≠ .health → inv.slots[slot]? = some (some item) := by
  obtain ⟨next, steered⟩ := steer_beliefs host b w
  have flags := (steer_flags host b w).trans asked
  rw [act_fired, act_used rfl, act_beliefs, lastDeed]
  generalize b.steer host w = course at steered flags ⊢
  simp only [tryFire_of_lowered host (congrArg (·.1) flags)]
  -- Whatever becomes of the heal, no meal is asked for after it.
  have healed := tryHeal_flags host course.beliefs course.world
  have full : (course.beliefs.tryHeal host course.world).beliefs.useFoodItem = false :=
    (congrArg (·.2.2) healed).trans (congrArg (·.2.2) flags)
  simp only [tryEat_of_lowered host full]
  refine ⟨trivial, ?_, next, ?_⟩
  · split <;> simp
  · have raised : course.beliefs.useHealthItem = true := congrArg (·.2.1) flags
    rw [tryHeal, raised, steered]
    exact consume_beliefs .health host _ course.world

/-- Where only one of the two is asked for, only one item is used up. -/
theorem length_used_act_le (host : Host η) {b : Beliefs}
    (one : b.useHealthItem = false ∨ b.useFoodItem = false) (w : η) :
    (b.act host w).used.length ≤ 1 := by
  have steered := steer_flags host b w
  rw [act_used rfl]
  generalize b.steer host w = course at steered ⊢
  have shot := tryFire_flags host course.beliefs course.world
  generalize course.beliefs.tryFire host course.world = fired at shot ⊢
  rcases one with heal | eat
  · have calm : course.beliefs.useHealthItem = false := (congrArg (·.2.1) steered).trans heal
    have lowered : fired.beliefs.useHealthItem = false := (congrArg (·.2.1) shot).trans calm
    simp only [tryHeal_of_lowered host lowered, Bool.false_eq_true, if_false, List.nil_append]
    split <;> simp
  · have healed := tryHeal_flags host fired.beliefs fired.world
    generalize fired.beliefs.tryHeal host fired.world = mended at healed ⊢
    have calm : course.beliefs.useFoodItem = false := (congrArg (·.2.2) steered).trans eat
    have unfed : fired.beliefs.useFoodItem = false := (congrArg (·.2.2) shot).trans calm
    have lowered : mended.beliefs.useFoodItem = false := (congrArg (·.2.2) healed).trans unfed
    rw [tryEat_of_lowered host lowered]
    split <;> simp

/-! ## The frame -/

/-- Whether a frame that perceived `b` and ended with `b'` did nothing but drop reached goals and
heal. -/
structure OnlyHeals (b b' : Beliefs) : Prop where
  targetEnemy : b'.targetEnemy = b.targetEnemy
  knownEnemies : b'.knownEnemies = b.knownEnemies
  goal : b'.goal = b.goal
  steering : b'.steering = b.steering
  searchPointIndex : b'.searchPointIndex = b.searchPointIndex
  goalSet : b'.goalSet = (b.goalSet && !b.reaches b.goal)
  softGoalSet : b'.softGoalSet = (b.softGoalSet && !b.reaches b.softGoal)
  held : ∀ (slot : Nat) (item : Item), b.inventory.slots[slot]? = some (some item) →
    item.kind ≠ .health → b'.inventory.slots[slot]? = some (some item)

theorem onlyHeals_act (host : Host η) {b : Beliefs} (lowered : b.flags = (false, false, false))
    (wants : b.WantsHeal) (w : η) : b.OnlyHeals (b.prioritise.act host w).beliefs := by
  obtain ⟨-, -, next, inv, done, held⟩ := act_of_heal host ((prioritise_heal lowered).2 wants) w
  rw [done, prioritise_of_wantsHeal wants]
  rw [prioritise_of_wantsHeal wants] at held
  exact ⟨rfl, rfl, rfl, rfl, rfl, rfl, rfl, held⟩

end Beliefs

/-- No frame of the standard controller uses up more than one item. In a frame whose walk asks for a
heal nothing else is asked for, nothing is fired or eaten, and at its end everything but the health
packs and the way is as it was perceived, reached goals having been dropped. -/
theorem healing_comes_first (config : Config) (agent : Agent) (memory : μ) :
    ∃ c, Controller.standard config agent memory = .ok c ∧
      ∀ {η : Type} (host : Host η) (world : η) (os : List (Occurrence η)) (time : FrameTime)
        (percept : Percept),
        let s := Session.run host ⟨c, world, []⟩ os
        let f := s.controller.update host time percept s.world
        ∃ d w b, f.result = .ok d ∧
          s.controller.deliberate host time percept s.world = .ok w ∧
          f.controller.beliefs = .ok b ∧ d.used.length ≤ 1 ∧
          (w.AsksHeal → w.intended.flags = (false, true, false) ∧ d.fired = false ∧
            .food ∉ d.used ∧ w.seen.OnlyHeals b) := by
  refine ⟨_, Controller.standard_eq config agent memory, fun host world os time percept => ?_⟩
  intro s f
  have follows := standard_session config agent memory host world os
  have lowered := Episode.flags_run config host agent world os
  generalize (Episode.start config agent world).run config host os = e at follows lowered
  have updated := follows.holds.update host time percept s.world
  have after := (congrArg (·.controller.beliefs) updated).trans
    (follows.holds.afterTurn _ _).beliefs
  have deliberated := follows.holds.deliberate host time percept s.world
  rw [follows.config] at updated after deliberated
  have flags := (Gathering.flags_perceive config host time.dt percept e.beliefs s.world).trans
    lowered
  refine ⟨_, _, _, congrArg (·.result) updated, deliberated, after, ?_, fun asked => ?_⟩
  · exact Beliefs.length_used_act_le host (Beliefs.asks_one flags) _
  · have wants := (Beliefs.prioritise_heal flags).1.1 asked.2
    have only := (Beliefs.prioritise_heal flags).2 wants
    obtain ⟨fired, uneaten, -⟩ := Beliefs.act_of_heal host only _
    exact ⟨only, fired, uneaten, Beliefs.onlyHeals_act host flags wants _⟩

end Forager
