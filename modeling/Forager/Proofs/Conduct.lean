import Forager.Intent
import Forager.Proofs.Slots

/-!
# What carrying out intents does

Each of the three deeds is asked for by a flag that is lowered before it is done, and none of them
raises a flag again. The longest reach of the pistols is measured anew after a shot; a consumable
that is used up takes no pistol away, so the measure stays right.

* `tryFire_of_lowered` and the like: what is not asked for is not done.
* `act_invariant`: what steering, firing and consuming keep is kept by all of it.
* `unacted_act`: what carrying out intents leaves alone.
* `act_flags`: after a frame nothing is asked for.
* `act_measured`: a right measure of the reach stays right.
-/
namespace Forager.Beliefs

variable {η : Type}

/-! ## The deeds of a frame -/

def tryFire (host : Host η) (b : Beliefs) (world : η) : Deed η :=
  carryOut b.shootPistol (fire host) { b with shootPistol := false } world

def tryHeal (host : Host η) (b : Beliefs) (world : η) : Deed η :=
  carryOut b.useHealthItem (consume .health host) { b with useHealthItem := false } world

def tryEat (host : Host η) (b : Beliefs) (world : η) : Deed η :=
  carryOut b.useFoodItem (consume .energy host) { b with useFoodItem := false } world

/-- What is left of a frame after its deeds: the deed done last, on what the others left. -/
def lastDeed (host : Host η) (b : Beliefs) (world : η) : Deed η :=
  let course := b.steer host world
  let shot := course.beliefs.tryFire host course.world
  let heal := shot.beliefs.tryHeal host shot.world
  heal.beliefs.tryEat host heal.world

theorem act_beliefs (host : Host η) (b : Beliefs) (world : η) :
    (b.act host world).beliefs = (b.lastDeed host world).beliefs := rfl

theorem act_world (host : Host η) (b : Beliefs) (world : η) :
    (b.act host world).world = (b.lastDeed host world).world := rfl

theorem act_fired (host : Host η) (b : Beliefs) (world : η) :
    (b.act host world).fired =
      ((b.steer host world).beliefs.tryFire host (b.steer host world).world).done := rfl

theorem act_used {host : Host η} {b : Beliefs} {world : η} {shot : Deed η}
    (h : (b.steer host world).beliefs.tryFire host (b.steer host world).world = shot) :
    (b.act host world).used =
      (if (shot.beliefs.tryHeal host shot.world).done then [.health] else []) ++
        if ((shot.beliefs.tryHeal host shot.world).beliefs.tryEat host
          (shot.beliefs.tryHeal host shot.world).world).done then [.food] else [] := by
  rw [← h]
  rfl

theorem steer_beliefs (host : Host η) (b : Beliefs) (w : η) :
    ∃ next, (b.steer host w).beliefs = { b with nextNavMeshGoal := next } := by
  unfold steer
  cases b.destination? with
  | none => exact ⟨b.nextNavMeshGoal, rfl⟩
  | some goal => exact ⟨_, rfl⟩

theorem tryFire_of_lowered (host : Host η) {b : Beliefs} (h : b.shootPistol = false) (world : η) :
    b.tryFire host world = ⟨false, b, world⟩ := by
  cases b
  subst h
  rfl

theorem tryHeal_of_lowered (host : Host η) {b : Beliefs} (h : b.useHealthItem = false)
    (world : η) : b.tryHeal host world = ⟨false, b, world⟩ := by
  cases b
  subst h
  rfl

theorem tryEat_of_lowered (host : Host η) {b : Beliefs} (h : b.useFoodItem = false) (world : η) :
    b.tryEat host world = ⟨false, b, world⟩ := by
  cases b
  subst h
  rfl

theorem carryOut_keeps {P : Beliefs → η → Prop} {raised : Bool} {deed : Beliefs → η → Deed η}
    {b : Beliefs} {world : η} (h : P b world)
    (done : P (deed b world).beliefs (deed b world).world) :
    P (carryOut raised deed b world).beliefs (carryOut raised deed b world).world := by
  cases raised with
  | false => exact h
  | true => exact done

/-- What survives the lowering of flags, the question for the way, shots and consumption is true
after a frame if it was before. -/
theorem act_invariant {P : Beliefs → η → Prop} {host : Host η}
    (lowered : ∀ b w p s h f, P b w → P { b with
      nextNavMeshGoal := p, shootPistol := s, useHealthItem := h, useFoodItem := f } w)
    (asked : ∀ b w goal, P b w → P b (host.closestPathPoint goal w).2)
    (fired : ∀ b w, P b w → P (b.fire host w).beliefs (b.fire host w).world)
    (consumed : ∀ r b w, P b w → P (b.consume r host w).beliefs (b.consume r host w).world)
    {b : Beliefs} {world : η} (h : P b world) :
    P (b.act host world).beliefs (b.act host world).world := by
  have steered : P (b.steer host world).beliefs (b.steer host world).world := by
    unfold steer
    split
    · exact h
    · exact lowered _ _ _ _ _ _ (asked b world _ h)
  have shot (b : Beliefs) (w : η) (h : P b w) :
      P (b.tryFire host w).beliefs (b.tryFire host w).world :=
    have low := lowered b w b.nextNavMeshGoal false b.useHealthItem b.useFoodItem h
    carryOut_keeps low (fired _ w low)
  have healed (b : Beliefs) (w : η) (h : P b w) :
      P (b.tryHeal host w).beliefs (b.tryHeal host w).world :=
    have low := lowered b w b.nextNavMeshGoal b.shootPistol false b.useFoodItem h
    carryOut_keeps low (consumed .health _ w low)
  have fed (b : Beliefs) (w : η) (h : P b w) :
      P (b.tryEat host w).beliefs (b.tryEat host w).world :=
    have low := lowered b w b.nextNavMeshGoal b.shootPistol b.useHealthItem false h
    carryOut_keeps low (consumed .energy _ w low)
  rw [act_beliefs, act_world]
  exact fed _ _ (healed _ _ (shot _ _ steered))

/-! ## What is left alone -/

/-- The beliefs without anything that carrying out intents changes. -/
def unacted (b : Beliefs) : Beliefs :=
  { b with
    nextNavMeshGoal := .zero
    inventory := ⟨[]⟩
    knownEnemies := []
    longestPistolRange := 0
    targetEnemy := none
    shootPistol := false
    useHealthItem := false
    useFoodItem := false }

theorem unacted_reviewTarget (host : Host η) (b : Beliefs) (world : η) :
    (b.reviewTarget host world).1.unacted = b.unacted := by
  unfold reviewTarget
  split
  · rfl
  · dsimp only
    split <;> rfl

theorem unacted_fire (host : Host η) (b : Beliefs) (world : η) :
    (b.fire host world).beliefs.unacted = b.unacted := by
  unfold fire
  split
  · rfl
  · dsimp only
    split
    · exact unacted_reviewTarget host { b with inventory := _ } _
    · rfl

theorem unacted_consume (resource : Resource) (host : Host η) (b : Beliefs) (world : η) :
    (b.consume resource host world).beliefs.unacted = b.unacted := by
  unfold consume
  dsimp only
  split
  · rfl
  · split <;> rfl

/-- To carry out intents changes the intents, the inventory, the reach of its pistols, what is known
of enemies and the way, and nothing else. -/
theorem unacted_act (host : Host η) (b : Beliefs) (world : η) :
    (b.act host world).beliefs.unacted = b.unacted :=
  act_invariant (P := fun b' _ => b'.unacted = b.unacted) (fun _ _ _ _ _ _ h => h)
    (fun _ _ _ h => h) (fun b' w h => (unacted_fire host b' w).trans h)
    (fun resource b' w h => (unacted_consume resource host b' w).trans h) rfl

/-! ## The intents are lowered -/

/-- The intents, in the order in which they are carried out. -/
def flags (b : Beliefs) : Bool × Bool × Bool := (b.shootPistol, b.useHealthItem, b.useFoodItem)

theorem steer_flags (host : Host η) (b : Beliefs) (w : η) :
    (b.steer host w).beliefs.flags = b.flags := by
  obtain ⟨next, steered⟩ := steer_beliefs host b w
  rw [steered]
  rfl

theorem reviewTarget_flags (host : Host η) (b : Beliefs) (world : η) :
    (b.reviewTarget host world).1.flags = b.flags := by
  unfold reviewTarget
  split
  · rfl
  · dsimp only
    split <;> rfl

theorem fire_flags (host : Host η) (b : Beliefs) (world : η) :
    (b.fire host world).beliefs.flags = b.flags := by
  unfold fire
  split
  · rfl
  · dsimp only
    split
    · exact reviewTarget_flags host _ _
    · rfl

theorem consume_flags (resource : Resource) (host : Host η) (b : Beliefs) (world : η) :
    (b.consume resource host world).beliefs.flags = b.flags := by
  unfold consume
  dsimp only
  split
  · rfl
  · split <;> rfl

theorem carryOut_flags {raised : Bool} {deed : Beliefs → η → Deed η} {b : Beliefs} {world : η}
    (h : (deed b world).beliefs.flags = b.flags) :
    (carryOut raised deed b world).beliefs.flags = b.flags :=
  carryOut_keeps (P := fun b' _ => b'.flags = b.flags) rfl h

theorem tryFire_flags (host : Host η) (b : Beliefs) (world : η) :
    (b.tryFire host world).beliefs.flags = (false, b.useHealthItem, b.useFoodItem) :=
  carryOut_flags (fire_flags host _ world)

theorem tryHeal_flags (host : Host η) (b : Beliefs) (world : η) :
    (b.tryHeal host world).beliefs.flags = (b.shootPistol, false, b.useFoodItem) :=
  carryOut_flags (consume_flags .health host _ world)

theorem tryEat_flags (host : Host η) (b : Beliefs) (world : η) :
    (b.tryEat host world).beliefs.flags = (b.shootPistol, b.useHealthItem, false) :=
  carryOut_flags (consume_flags .energy host _ world)

theorem act_flags (host : Host η) (b : Beliefs) (world : η) :
    (b.act host world).beliefs.flags = (false, false, false) := by
  rw [act_beliefs, lastDeed]
  generalize b.steer host world = course
  have fired := tryFire_flags host course.beliefs course.world
  generalize course.beliefs.tryFire host course.world = shot at fired ⊢
  have healed := tryHeal_flags host shot.beliefs shot.world
  generalize shot.beliefs.tryHeal host shot.world = heal at healed ⊢
  have shoot : shot.beliefs.shootPistol = false := congrArg (·.1) fired
  have shoot' : heal.beliefs.shootPistol = shot.beliefs.shootPistol := congrArg (·.1) healed
  have mend : heal.beliefs.useHealthItem = false := congrArg (·.2.1) healed
  rw [tryEat_flags, shoot', shoot, mend]

/-! ## The reach is measured -/

/-- Whether the longest reach is that of the pistols held. -/
def Measured (b : Beliefs) : Prop := b.longestPistolRange = b.inventory.longestPistolRange

theorem measured_measureRange (b : Beliefs) : b.measureRange.Measured := rfl

theorem fire_measured {host : Host η} {b : Beliefs} {world : η} (h : b.Measured) :
    (b.fire host world).beliefs.Measured := by
  unfold fire
  split
  · exact h
  · dsimp only
    split
    · exact measured_measureRange _
    · exact h

/-- What fills a resource up has no reach. -/
theorem pistol?_of_kind {resource : Resource} {item : Item} (h : item.kind = resource.kind) :
    item.pistol? = none := by
  cases item with
  | pistol p => cases resource <;> cases h
  | health pack => rfl
  | food f => rfl
  | garbage id => rfl

theorem consume_measured {resource : Resource} {host : Host η} {b : Beliefs} {world : η}
    (h : b.Measured) : (b.consume resource host world).beliefs.Measured := by
  unfold consume
  dsimp only
  split
  · exact h
  · rename_i slot hs
    obtain ⟨item, held, kind⟩ := Resource.bestSlot?_spec hs
    split
    · exact h.trans (Inventory.longestPistolRange_clear held (pistol?_of_kind kind)).symm
    · exact h

theorem act_measured {host : Host η} {b : Beliefs} {world : η} (h : b.Measured) :
    (b.act host world).beliefs.Measured :=
  act_invariant (P := fun b _ => b.Measured) (fun _ _ _ _ _ _ h => h) (fun _ _ _ h => h)
    (fun _ _ h => fire_measured h) (fun _ _ _ h => consume_measured h) h

end Forager.Beliefs
