import Forager.Proofs.Deliberation

/-!
# Heals asked for and heals done

A walk asks for a heal when the agent is low on health and holds a health pack, whatever the pack
heals, and leaves everything of lower priority undone. What is then used is the strongest pack that
does not overshoot what is missing. The two tests differ: with nothing but packs that overshoot the
heal is asked for, and nothing is used, in this frame and in every one like it.

* `Beliefs.prioritise_heal`: when a heal is asked for, and what the walk comes to then.
* `Beliefs.used_of_heal`: what is used when a heal is all that is asked for.
* `heals_iff_pack_fits`: both, for every frame of the standard controller.
-/
namespace Forager

variable {μ η : Type}

namespace Beliefs

/-! ## Asking for a heal -/

theorem useHealthItem_seek (b : Beliefs) (target : Option Vec2) :
    (b.seek target).useHealthItem = b.useHealthItem := by
  cases target <;> rfl

theorem useHealthItem_explore (b : Beliefs) : b.explore.useHealthItem = b.useHealthItem := by
  unfold explore
  split
  · cases b.searchPoints[b.searchPointIndex + 1]? <;> rfl
  · cases b.searchPoints[b.searchPointIndex]? <;> rfl

theorem useHealthItem_of_undirected {b b' : Beliefs} (h : b.undirected = b'.undirected) :
    b.useHealthItem = b'.useHealthItem :=
  eq_of_undirected (·.useHealthItem) (fun _ => rfl) h

theorem Decided.useHealthItem {b b' : Beliefs} (h : b.Decided b') (content : ¬b.WantsHeal) :
    b'.useHealthItem = b.useHealthItem := by
  cases h with
  | heal kept flags wants => exact absurd wants content
  | seek kept _ found =>
    exact (useHealthItem_seek _ _).trans (useHealthItem_of_undirected kept)
  | explore kept _ ahead =>
    exact (useHealthItem_explore _).trans (useHealthItem_of_undirected kept)
  | wander kept _ searched =>
    rw [← useHealthItem_of_undirected kept]

theorem Decided.flags {b b' : Beliefs} (h : b.Decided b') (wants : b.WantsHeal) :
    b'.flags = (b.shootPistol, true, b.useFoodItem) := by
  cases h with
  | @heal left kept flags _ =>
    have shoot : left.shootPistol = b.shootPistol := congrArg (·.1) flags
    have eat : left.useFoodItem = b.useFoodItem := congrArg (·.2.2) flags
    rw [Beliefs.flags, shoot, eat]
  | seek kept content found => exact absurd wants content
  | explore kept content ahead => exact absurd wants content
  | wander kept content searched => exact absurd wants content

/-- When a heal is asked for, and what else is asked for then. -/
theorem prioritise_heal {b : Beliefs} (lowered : b.flags = (false, false, false)) :
    (b.prioritise.useHealthItem = true ↔ b.WantsHeal) ∧
      (b.WantsHeal → b.prioritise.flags = (false, true, false)) := by
  have shoot : b.shootPistol = false := congrArg (·.1) lowered
  have heal : b.useHealthItem = false := congrArg (·.2.1) lowered
  have eat : b.useFoodItem = false := congrArg (·.2.2) lowered
  have asked (wants : b.WantsHeal) : b.prioritise.flags = (false, true, false) := by
    rw [(decided_prioritise b).flags wants, shoot, eat]
  refine ⟨⟨fun raised => ?_, fun wants => congrArg (·.2.1) (asked wants)⟩, asked⟩
  by_contra content
  rw [(decided_prioritise b).useHealthItem content, heal] at raised
  cases raised

/-! ## Healing -/

/-- Whether a held pack heals no more than is missing. -/
def HasFittingPack (b : Beliefs) : Prop :=
  ∃ (slot : Nat) (pack : HealthPack), b.inventory.slots[slot]? = some (some (.health pack)) ∧
    pack.healing ≤ pointsMissing b.maxHealth b.agentInfo.health

/-- The pack that would be used. -/
def remedy? (b : Beliefs) : Option Nat :=
  b.inventory.bestHealthPack? (pointsMissing b.maxHealth b.agentInfo.health)

theorem isSome_remedy?_iff {config : Config} {b : Beliefs} (ok : b.inventory.InOrder config) :
    b.remedy?.isSome ↔ b.HasFittingPack := by
  rw [remedy?, Inventory.bestHealthPack?_isSome_iff]
  constructor
  · rintro ⟨slot, pack, held, -, fits⟩
    exact ⟨slot, pack, held, fits⟩
  · rintro ⟨slot, pack, held, fits⟩
    exact ⟨slot, pack, held, ok.serviceable slot _ held, fits⟩

theorem done_consume_health {host : Host η} (grants : ∀ slot w, (host.useItem slot w).1 = true)
    (b : Beliefs) (w : η) : (b.consume .health host w).done = b.remedy?.isSome := by
  unfold consume
  simp only [Resource.bestSlot?, maximum, Resource.level, remedy?]
  cases b.inventory.bestHealthPack? (pointsMissing b.maxHealth b.agentInfo.health) with
  | none => rfl
  | some slot =>
    dsimp only
    rw [if_pos (grants slot w)]
    rfl

theorem done_tryHeal {host : Host η} (grants : ∀ slot w, (host.useItem slot w).1 = true)
    {b : Beliefs} (asked : b.useHealthItem = true) (w : η) :
    (b.tryHeal host w).done = b.remedy?.isSome := by
  rw [tryHeal, asked]
  exact done_consume_health grants _ w

/-- When a heal is all that is asked for, nothing is fired, and a pack is used if one fits. -/
theorem used_of_heal {host : Host η} (grants : ∀ slot w, (host.useItem slot w).1 = true)
    {b : Beliefs} (asked : b.flags = (false, true, false)) (w : η) :
    (b.act host w).fired = false ∧
      (b.act host w).used = if b.remedy?.isSome then [.health] else [] := by
  have shoot : b.shootPistol = false := congrArg (·.1) asked
  have heal : b.useHealthItem = true := congrArg (·.2.1) asked
  have eat : b.useFoodItem = false := congrArg (·.2.2) asked
  obtain ⟨next, steered⟩ := steer_beliefs host b w
  have shot : (b.steer host w).beliefs.tryFire host (b.steer host w).world =
      ⟨false, { b with nextNavMeshGoal := next, shootPistol := false }, (b.steer host w).world⟩ := by
    rw [tryFire, steered, shoot]
    rfl
  refine ⟨by rw [act_fired, shot], ?_⟩
  rw [act_used shot]
  -- The pack is chosen by entries that steering and firing leave alone.
  have healed := done_tryHeal (b := { b with nextNavMeshGoal := next, shootPistol := false })
    grants heal (b.steer host w).world
  have lowered := tryHeal_flags host { b with nextNavMeshGoal := next, shootPistol := false }
    (b.steer host w).world
  dsimp only at healed lowered ⊢
  generalize tryHeal host _ (b.steer host w).world = mended at healed lowered ⊢
  have full : mended.beliefs.useFoodItem = false := (congrArg (·.2.2) lowered).trans eat
  have fed : (mended.beliefs.tryEat host mended.world).done = false := by
    rw [tryEat, full]
    rfl
  rw [healed, fed]
  exact List.append_nil _

end Beliefs

/-! ## Sessions -/

/-- Against a host that lets everything be used, a frame of the standard controller whose walk asks
for a heal fires nothing and uses a health pack if one fits, and nothing at all if none does. The
walk asks exactly if it finds the agent low on health with a health pack of any strength. -/
theorem heals_iff_pack_fits (config : Config) (agent : Agent) (memory : μ) (host : Host η)
    (grants : ∀ slot w, (host.useItem slot w).1 = true) :
    ∃ c, Controller.standard config agent memory = .ok c ∧
      ∀ (world : η) (os : List (Occurrence η)) (time : FrameTime) (percept : Percept),
        let s := Session.run host ⟨c, world, []⟩ os
        ∃ d w, (s.controller.update host time percept s.world).result = .ok d ∧
          s.controller.deliberate host time percept s.world = .ok w ∧
          (w.AsksHeal ↔ w.seen.WantsHeal) ∧
          (w.AsksHeal → d.fired = false ∧
            (w.intended.HasFittingPack → d.used = [.health]) ∧
            (¬w.intended.HasFittingPack → d.used = [])) := by
  refine ⟨_, Controller.standard_eq config agent memory, fun world os time percept => ?_⟩
  obtain ⟨t, run, result, deliberated, intended, done, lowered, ok⟩ :=
    standard_frame config agent memory host world os time percept
  obtain ⟨raised, flags⟩ := Beliefs.prioritise_heal lowered
  have heal : t.seen.beliefs.useHealthItem = false := congrArg (·.2.1) lowered
  rw [← intended] at raised flags
  refine ⟨_, _, result, deliberated, ?_, fun asked => ?_⟩
  · exact (and_iff_right heal).trans raised
  · obtain ⟨fired, used⟩ := Beliefs.used_of_heal grants (flags (raised.1 asked.2)) t.seen.world
    have ordered : t.intended.inventory.InOrder config := by
      rw [intended, Beliefs.prioritise_inventory]
      exact ok
    have fits := Beliefs.isSome_remedy?_iff ordered
    rw [← done] at fired used
    refine ⟨fired, fun fitting => ?_, fun unfitting => ?_⟩
    · exact used.trans (if_pos (fits.2 fitting))
    · exact used.trans (if_neg (mt fits.1 unfitting))

/-- An agent of four points of health that finds a pack of the given strength at its feet. -/
def hurt (healing : UInt32) : Percept :=
  { agent := { health := 4 }, items := [.health ⟨1, ⟨0, 0⟩, healing⟩] }

/-- Six points are missing, so a pack of five is used. -/
theorem heals_iff_pack_fits_weakPack :
    (∀ slot w, (granting.useItem slot w).1 = true) ∧
      ∃ c, Controller.standard {} {} () = .ok c ∧
        ∃ d w, (c.update granting ⟨0, 1⟩ (hurt 5) ()).result = .ok d ∧
          c.deliberate granting ⟨0, 1⟩ (hurt 5) () = .ok w ∧ w.AsksHeal ∧ d.used = [.health] := by
  have grants : ∀ slot w, (granting.useItem slot w).1 = true := fun _ _ => rfl
  refine ⟨grants, ?_⟩
  obtain ⟨c, made, frames⟩ := heals_iff_pack_fits {} {} () granting grants
  obtain ⟨d, w, result, deliberated, asks, heals⟩ := frames () [] ⟨0, 1⟩ (hurt 5)
  cases (Controller.standard_eq {} {} ()).symm.trans made
  cases deliberated.symm.trans ((Controller.Holds.fresh {} {} ()).deliberate granting ⟨0, 1⟩ _ ())
  have asked := asks.2 ⟨by decide +kernel, by decide +kernel⟩
  have fitting := (heals asked).2.1 ⟨0, ⟨1, ⟨0, 0⟩, 5⟩, by decide +kernel, by decide +kernel⟩
  exact ⟨_, made, d, _, result, deliberated, asked, fitting⟩

/-- A pack of eight overshoots: a heal is asked for, and nothing is used, in one frame and in the
next. -/
theorem heals_nothing :
    Config.check {} = .ok () ∧ (∀ slot w, (granting.useItem slot w).1 = true) ∧
      ∃ c, Controller.standard {} {} () = .ok c ∧
        let s := Session.run granting ⟨c, (), []⟩ [.frame ⟨0, 1⟩ (hurt 8)]
        let still : Percept := { agent := { health := 4 } }
        s.decisions.map (·.used) = [[]] ∧
          ∃ d w, (s.controller.update granting ⟨1, 1⟩ still s.world).result = .ok d ∧
            s.controller.deliberate granting ⟨1, 1⟩ still s.world = .ok w ∧
            w.AsksHeal ∧ d.used = [] := by
  refine ⟨rfl, fun _ _ => rfl, _, Controller.standard_eq {} {} (), ?_⟩
  intro s still
  have follows := standard_session {} {} () granting () [.frame ⟨0, 1⟩ (hurt 8)]
  have result := congrArg (·.result) (follows.holds.update granting ⟨1, 1⟩ still s.world)
  have deliberated := follows.holds.deliberate granting ⟨1, 1⟩ still s.world
  rw [follows.config] at result deliberated
  refine ⟨?_, _, _, result, deliberated, ⟨?_, ?_⟩, ?_⟩
  · rw [follows.decisions]
    decide +kernel
  · decide +kernel
  · decide +kernel
  · decide +kernel

end Forager
