import Forager.Proofs.Mirror
import Forager.Proofs.Targets

/-!
# Shots and the reach of pistols

A walk asks for a shot when the enemy it takes on is closer than the longest-reaching loaded pistol
reaches. What is then fired is the pistol of greatest value, which counts damage and rounds besides
the reach. The two need not be one pistol, so an enemy is only in reach of the pistol fired at it
if no other loaded pistol reaches farther.

* `Pistol.isNaN_range`: a pistol worth firing has a reach that is a number.
* `Beliefs.requests_act`: a shot is the first thing that the host is asked for after a walk.
* `shots_in_reach`: what is fired, and at whom.
-/
namespace Forager

variable {μ η : Type}

/-! ## What is fired -/

/-- The reach counts towards the value of a pistol. -/
theorem Pistol.isNaN_range {p : Pistol} (h : 0 < p.value) : p.range.isNaN = false := by
  have number := (Single.isNaN_of_le (Single.le_of_lt h)).2
  rw [value] at number h
  split at number
  · rename_i worthless
    rw [if_pos worthless] at h
    exact absurd h (by decide)
  · exact Single.isNaN_of_mul (Single.isNaN_of_add (Single.isNaN_of_add number).1).2

/-! ## What the host is asked for -/

namespace Beliefs

variable (host : Host η) (b : Beliefs) (s : Stock η)

theorem requests_shoot (slot : Nat) (inv : Inventory) :
    s.requests <+: (shoot host.stocked slot inv s).2.requests := by
  unfold shoot
  dsimp only
  split
  · exact List.prefix_append _ _
  · exact List.prefix_rfl

theorem requests_reviewTarget : (b.reviewTarget host.stocked s).2.requests = s.requests := by
  unfold reviewTarget
  split
  · rfl
  · dsimp only
    split <;> rfl

theorem requests_consume (resource : Resource) :
    s.requests <+: (b.consume resource host.stocked s).world.requests := by
  unfold consume
  dsimp only
  split
  · exact List.prefix_rfl
  · split <;> exact List.prefix_append _ _

theorem requests_tryHeal : s.requests <+: (b.tryHeal host.stocked s).world.requests :=
  carryOut_keeps (P := fun _ (s' : Stock η) => s.requests <+: s'.requests) List.prefix_rfl
    (requests_consume host _ s .health)

theorem requests_tryEat : s.requests <+: (b.tryEat host.stocked s).world.requests :=
  carryOut_keeps (P := fun _ (s' : Stock η) => s.requests <+: s'.requests) List.prefix_rfl
    (requests_consume host _ s .energy)

variable {b}

theorem requests_fire (done : (b.fire host.stocked s).done = true) :
    ∃ slot, b.inventory.bestPistol? = some slot ∧
      s.requests ++ [(.use slot, s.slots)] <+: (b.fire host.stocked s).world.requests := by
  unfold fire at done ⊢
  cases best : b.inventory.bestPistol? with
  | none =>
    rw [best] at done
    cases done
  | some slot =>
    refine ⟨slot, rfl, ?_⟩
    dsimp only
    split
    · rw [requests_reviewTarget]
      exact requests_shoot host (host.stocked.useItem slot s).2 slot b.inventory
    · exact List.prefix_rfl

theorem requests_tryFire (done : (b.tryFire host.stocked s).done = true) :
    b.shootPistol = true ∧ ∃ slot, b.inventory.bestPistol? = some slot ∧
      s.requests ++ [(.use slot, s.slots)] <+: (b.tryFire host.stocked s).world.requests := by
  unfold tryFire at done ⊢
  cases asked : b.shootPistol with
  | false =>
    rw [asked] at done
    cases done
  | true =>
    rw [asked] at done
    exact ⟨rfl, requests_fire (b := { b with shootPistol := false }) host s done⟩

/-- The way is asked for without touching the stock. -/
theorem stock_steer : (b.steer host.stocked s).world.requests = s.requests ∧
    (b.steer host.stocked s).world.slots = s.slots := by
  unfold steer
  split <;> exact ⟨rfl, rfl⟩

/-- A shot is the first thing that the host is asked for after a walk. -/
theorem requests_act (fired : (b.act host.stocked s).fired = true) :
    b.shootPistol = true ∧ ∃ slot, b.inventory.bestPistol? = some slot ∧
      s.requests ++ [(.use slot, s.slots)] <+: (b.act host.stocked s).world.requests := by
  obtain ⟨next, steered⟩ := steer_beliefs host.stocked b s
  obtain ⟨requests, slots⟩ := stock_steer (b := b) host s
  rw [act_fired] at fired
  rw [act_world, lastDeed]
  generalize b.steer host.stocked s = course at steered requests slots fired ⊢
  obtain ⟨asked, slot, best, first⟩ := requests_tryFire host course.world fired
  rw [steered] at asked best
  rw [requests, slots] at first
  generalize course.beliefs.tryFire host.stocked course.world = shot at first ⊢
  refine ⟨asked, slot, best, first.trans ((requests_tryHeal host shot.beliefs shot.world).trans ?_)⟩
  exact requests_tryEat host _ _

end Beliefs

/-! ## Sessions -/

/-- In every frame of the standard controller that fires, the host is first asked to use the slot of
the pistol of greatest value, and the target is an enemy taken on in that frame. A loaded pistol
reaches that enemy; the one that is fired does, unless another loaded pistol reaches farther than
it. Any host fits, with a log of requests added. -/
theorem shots_in_reach (config : Config) (agent : Agent) (memory : μ) :
    ∃ c, Controller.standard config agent memory = .ok c ∧
      ∀ {η : Type} (host : Host η) (stock : Stock η) (os : List (Occurrence (Stock η)))
        (time : FrameTime) (percept : Percept),
        let s := Session.run host.stocked ⟨c, stock, []⟩ os
        let f := s.controller.update host.stocked time percept s.world
        ∃ b d w, s.controller.beliefs = .ok b ∧ f.result = .ok d ∧
          s.controller.deliberate host.stocked time percept s.world = .ok w ∧
          (d.fired = true →
            let met := (Gathering.perceive config host.stocked time.dt percept b s.world).world
            ∃ slot p e, met.requests ++ [(.use slot, met.slots)] <+: f.world.requests ∧
              w.intended.inventory.bestPistol? = some slot ∧
              w.intended.inventory.slots[slot]? = some (some (.pistol p)) ∧
              w.intended.TakesOn e ∧
              ∃ q, w.intended.inventory.Loaded q ∧ w.intended.distanceTo e < q.range ∧
                (w.intended.distanceTo e < p.range ∨ p.range < q.range)) := by
  refine ⟨_, Controller.standard_eq config agent memory, fun host stock os time percept => ?_⟩
  intro s f
  have follows := standard_session config agent memory host.stocked stock os
  have lowered := Episode.flags_run config host.stocked agent stock os
  generalize (Episode.start config agent stock).run config host.stocked os = e at follows lowered
  have updated := follows.holds.update host.stocked time percept s.world
  have deliberated := follows.holds.deliberate host.stocked time percept s.world
  rw [follows.config] at updated deliberated
  refine ⟨e.beliefs, _, _, follows.holds.beliefs, congrArg (·.result) updated, deliberated,
    fun fired => ?_⟩
  have world := congrArg (·.world) updated
  have flags := Gathering.flags_perceive config host.stocked time.dt percept e.beliefs s.world
  have measured : (Gathering.perceive config host.stocked time.dt percept e.beliefs
    s.world).beliefs.Measured := Beliefs.measured_measureRange _
  simp only [turn, Turn.decision] at world fired ⊢
  generalize Gathering.perceive config host.stocked time.dt percept e.beliefs s.world = seen
    at world fired flags measured ⊢
  obtain ⟨asked, slot, best, first⟩ := Beliefs.requests_act host _ fired
  obtain ⟨enemy, taken⟩ := Beliefs.takesOn_of_asked (flags.trans lowered) asked
  obtain ⟨p, held, worth, -⟩ := Inventory.bestPistol?_spec best
  have reach : seen.beliefs.prioritise.longestPistolRange =
      seen.beliefs.prioritise.inventory.longestPistolRange := by
    rw [Beliefs.prioritise_longestPistolRange, Beliefs.prioritise_inventory]
    exact measured
  have armed := taken.armed
  have inReach := taken.inReach
  rw [reach] at armed inReach
  obtain ⟨q, loaded, longest⟩ := Inventory.exists_longest armed
  rw [← longest] at inReach
  rw [← world] at first
  refine ⟨slot, p, enemy, first, best, held, taken, q, loaded, inReach, ?_⟩
  by_cases near : seen.beliefs.prioritise.distanceTo enemy < p.range
  · exact .inl near
  · have number := (Single.isNaN_of_le (Single.le_of_lt inReach)).1
    exact .inr (Single.lt_of_le_of_lt
      (Single.le_of_not_lt number (Pistol.isNaN_range worth) near) inReach)

/-- A strong pistol of short reach and a weak one of long reach to pick up, and an enemy between
both. -/
def outOfReach : Percept where
  items := [.pistol ⟨1, ⟨0, 0⟩, 3, 100, 5⟩, .pistol ⟨2, ⟨0, 0⟩, 2, 1, 50⟩]
  enemies := [⟨7, ⟨20, 0⟩, .zero, .zero, .zero, 10, true⟩]

/-- The slot that a request uses. -/
def Request.used? : Request → Option Nat
  | .use slot => some slot
  | _ => none

/-- The strong one is fired, which does not reach so far. -/
theorem shot_falls_short :
    ∃ c d w, Controller.standard {} {} () = .ok c ∧
      let f := c.update granting.stocked ⟨0, 1⟩ outOfReach (Stock.empty 5 ())
      f.result = .ok d ∧ d.fired = true ∧ f.world.requests.filterMap (·.1.used?) = [0] ∧
        c.deliberate granting.stocked ⟨0, 1⟩ outOfReach (Stock.empty 5 ()) = .ok w ∧
        w.intended.targetEnemy = some 7 ∧
        ∃ p e, w.intended.inventory.slots[0]? = some (some (.pistol p)) ∧
          e ∈ w.intended.knownEnemies ∧ e.id = 7 ∧ ¬w.intended.distanceTo e < p.range := by
  have holds := Controller.Holds.fresh {} {} ()
  have updated := holds.update granting.stocked ⟨0, 1⟩ outOfReach (Stock.empty 5 ())
  have deliberated := holds.deliberate granting.stocked ⟨0, 1⟩ outOfReach (Stock.empty 5 ())
  refine ⟨_, _, _, Controller.standard_eq {} {} (), congrArg (·.result) updated, ?_, ?_,
    deliberated, ?_, ⟨1, ⟨0, 0⟩, 3, 100, 5⟩, ⟨7, ⟨20, 0⟩, ⟨20, 0⟩, ⟨20, 0⟩, .zero, 10, true⟩, ?_,
    ?_, rfl, ?_⟩
  · decide +kernel
  · rw [updated]
    decide +kernel
  · decide +kernel
  · decide +kernel
  · decide +kernel
  · decide +kernel

end Forager
