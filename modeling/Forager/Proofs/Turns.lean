import Forager.Proofs.Dealings
import Forager.Proofs.Mirror

/-!
# A frame is a run of dealings

Perception stores items and swaps pistols; carrying out intents shoots, heals and eats. Each of
these is a run of dealings, and the `Account` of the run, what was stored, dropped, shot and used
up in it, is what the decision of the frame reports.

* `dealt_tryPickUp`, `dealt_fire`, `dealt_consume`: the three places where items change hands.
* `dealt_perceive`, `dealt_act`: the two phases in which that happens.
* `dealt_turn`: a whole frame.
-/
namespace Forager

variable {η : Type}

/-! ## Accounts -/

/-- What comes of some dealings. -/
structure Account where
  taken : List Item := []
  swapped : List Pistol := []
  shots : Nat := 0
  /-- Pistols dropped because the last shot was fired. -/
  emptied : Nat := 0
  used : List ItemKind := []

namespace Account

def add (a b : Account) : Account :=
  ⟨a.taken ++ b.taken, a.swapped ++ b.swapped, a.shots + b.shots, a.emptied + b.emptied,
    a.used ++ b.used⟩

def ofDealing : Dealing → Account
  | .asked => {}
  | .refused => {}
  | .stored item _ => { taken := [item] }
  | .swappedOut p _ => { swapped := [p] }
  | .fired _ _ => { shots := 1 }
  | .spent _ _ => { shots := 1, emptied := 1 }
  | .consumed item _ => { used := [item.kind] }

def ofDealings (ds : List Dealing) : Account := ds.foldr (fun d a => (ofDealing d).add a) {}

@[simp] theorem empty_add (a : Account) : ({} : Account).add a = a := by simp [add]

@[simp] theorem add_empty (a : Account) : a.add {} = a := by simp [add]

theorem add_assoc (a b c : Account) : (a.add b).add c = a.add (b.add c) := by
  simp [add, Nat.add_assoc]

theorem ofDealings_append (ds ds' : List Dealing) :
    ofDealings (ds ++ ds') = (ofDealings ds).add (ofDealings ds') := by
  induction ds with
  | nil => exact (empty_add _).symm
  | cons d ds ih =>
    simp only [ofDealings, List.cons_append, List.foldr_cons] at ih ⊢
    rw [ih, add_assoc]

end Account

/-- Whether inventory and world got from one state to another by dealings with that account. -/
def Dealt (config : Config) (host : Host η) (inv : Inventory) (w : η) (inv' : Inventory) (w' : η)
    (a : Account) : Prop :=
  ∃ ds, Dealings config host ds inv w inv' w' ∧ Account.ofDealings ds = a

namespace Dealt

variable {config : Config} {host : Host η} {inv inv₁ inv₂ : Inventory} {w w₁ w₂ : η}
  {a b : Account}

theorem refl (inv : Inventory) (w : η) : Dealt config host inv w inv w {} :=
  ⟨[], .nil inv w, rfl⟩

theorem single {d : Dealing} (h : Deals config host d inv w inv₁ w₁) :
    Dealt config host inv w inv₁ w₁ (.ofDealing d) :=
  ⟨[d], .single h, Account.add_empty _⟩

theorem trans (h : Dealt config host inv w inv₁ w₁ a) (h' : Dealt config host inv₁ w₁ inv₂ w₂ b) :
    Dealt config host inv w inv₂ w₂ (a.add b) := by
  obtain ⟨ds, hd, rfl⟩ := h
  obtain ⟨ds', hd', rfl⟩ := h'
  exact ⟨ds ++ ds', hd.append hd', Account.ofDealings_append ds ds'⟩

theorem inOrder (h : Dealt config host inv w inv₁ w₁ a) (ok : inv.InOrder config) :
    inv₁.InOrder config := by
  obtain ⟨ds, hd, -⟩ := h
  exact hd.invariant (P := fun inv _ => inv.InOrder config)
    (fun _ _ _ _ _ hs => hs.inOrder) ok

end Dealt

/-! ## Picking up -/

section PickingUp

variable {config : Config} {host : Host η} {item : Item} {inv inv' : Inventory} {w w' : η}

/-- Where room was made, one more item of the kind is within the limit. -/
theorem dealt_makeRoom (ok : inv.InOrder config)
    (h : inv.makeRoom config host item w = some (inv', w')) :
    (∃ swapped, Dealt config host inv w inv' w' { swapped }) ∧
      inv'.count item.kind < config.limit item.kind := by
  unfold Inventory.makeRoom at h
  cases item with
  | pistol p =>
    dsimp only at h
    split at h
    · split at h
      · cases h
      · rename_i full slot value hw
        split at h
        · cases h
        · obtain ⟨q, held, -⟩ := Inventory.worstPistol?_spec hw
          cases h
          -- The limit was kept before, and there is one pistol less now.
          have most : inv.count .pistol ≤ config.maxPistols := ok.limits .pistol
          have one := Inventory.count_clear held .pistol
          rw [show (Item.pistol q).kind = .pistol from rfl, if_pos rfl] at one
          refine ⟨⟨[q], .single (.swapOut w held)⟩, ?_⟩
          show (inv.clear slot).count .pistol < config.maxPistols
          omega
    · rename_i below
      cases h
      exact ⟨⟨[], .refl inv w⟩, Nat.lt_of_not_le below⟩
  | health | food =>
    dsimp only at h
    split at h
    · cases h
    · rename_i below
      cases h
      exact ⟨⟨[], .refl inv w⟩, Nat.lt_of_not_le below⟩
  | garbage id => cases h

theorem dealt_tryPickUp (host : Host η) (ok : inv.InOrder config) (useful : item.isUseful) (w : η) :
    ∃ swapped, Dealt config host inv w (inv.tryPickUp config host item w).inventory
      (inv.tryPickUp config host item w).world
      { taken := if (inv.tryPickUp config host item w).taken then [item] else [], swapped } := by
  cases hr : inv.makeRoom config host item w with
  | none =>
    simp only [Inventory.tryPickUp, hr]
    exact ⟨[], .refl inv w⟩
  | some room =>
    obtain ⟨inv₁, w₁⟩ := room
    obtain ⟨⟨swapped, dealt⟩, room⟩ := dealt_makeRoom ok hr
    cases he : inv₁.firstEmpty? with
    | none =>
      simp only [Inventory.tryPickUp, hr, he]
      exact ⟨swapped, dealt⟩
    | some slot =>
      have vacant := Inventory.firstEmpty?_spec he
      by_cases yes : (host.pickUp item slot w₁).1
      · have both := dealt.trans (.single (.store vacant useful room yes))
        simp only [Account.add, Account.ofDealing, List.append_nil, List.nil_append] at both
        simp only [Inventory.tryPickUp, hr, he, if_pos yes]
        exact ⟨swapped, both⟩
      · have both := dealt.trans (.single (.refusePickUp yes))
        simp only [Account.ofDealing, Account.add_empty] at both
        simp only [Inventory.tryPickUp, hr, he, if_neg yes]
        exact ⟨swapped, both⟩

end PickingUp

/-! ## Perceiving -/

namespace Gathering

variable {config : Config} {host : Host η} {g g₁ g₂ : Gathering η}

/-- Whether items were dealt with by dealings that store what is reported as picked up. -/
def Dealt (config : Config) (host : Host η) (g g' : Gathering η) : Prop :=
  ∃ taken swapped, Forager.Dealt config host g.beliefs.inventory g.world g'.beliefs.inventory
    g'.world { taken, swapped } ∧ g'.pickedUp = g.pickedUp ++ taken.map (·.id)

theorem Dealt.refl (g : Gathering η) : Dealt config host g g :=
  ⟨[], [], .refl _ _, (List.append_nil _).symm⟩

theorem Dealt.trans (h : Dealt config host g g₁) (h' : Dealt config host g₁ g₂) :
    Dealt config host g g₂ := by
  obtain ⟨taken, swapped, dealt, reported⟩ := h
  obtain ⟨taken', swapped', dealt', reported'⟩ := h'
  refine ⟨taken ++ taken', swapped ++ swapped', dealt.trans dealt', ?_⟩
  rw [reported', reported, List.map_append, List.append_assoc]

theorem Dealt.inOrder (h : Dealt config host g g₁) (ok : g.beliefs.inventory.InOrder config) :
    g₁.beliefs.inventory.InOrder config := by
  obtain ⟨taken, swapped, dealt, -⟩ := h
  exact dealt.inOrder ok

theorem dealt_collect (host : Host η) (ok : g.beliefs.inventory.InOrder config) {item : Item}
    (useful : item.isUseful) : Dealt config host g (g.collect config host item) := by
  obtain ⟨swapped, dealt⟩ := dealt_tryPickUp host ok useful g.world
  unfold collect
  dsimp only
  split
  · rename_i taken
    rw [if_pos taken] at dealt
    exact ⟨[item], swapped, dealt, rfl⟩
  · rename_i taken
    rw [if_neg taken] at dealt
    refine ⟨[], swapped, ?_, (List.append_nil _).symm⟩
    rw [inventory_remember]
    exact dealt

theorem dealt_inspect (host : Host η) (ok : g.beliefs.inventory.InOrder config) (agent : Agent)
    (item : Item) :
    Dealt config host g (g.inspect config host agent item) := by
  unfold inspect
  split
  · exact .refl g
  · split
    · exact ⟨[], [], .refl _ _, (List.append_nil _).symm⟩
    · rename_i useful
      rw [Bool.not_eq_true, Bool.not_eq_false'] at useful
      split
      · exact dealt_collect host ok useful
      · refine ⟨[], [], ?_, (List.append_nil _).symm⟩
        rw [inventory_remember]
        exact .refl _ _

/-- Items are dealt with one by one, each on what the ones before it left in order. -/
theorem dealt_foldl_inspect (host : Host η) (agent : Agent) (items : List Item)
    (ok : g.beliefs.inventory.InOrder config) :
    Dealt config host g (items.foldl (inspect config host agent) g) := by
  induction items generalizing g with
  | nil => exact .refl g
  | cons item items ih =>
    have first := dealt_inspect host ok agent item
    exact first.trans (ih (first.inOrder ok))

theorem dealt_ofPercept (host : Host η) (percept : Percept) {b : Beliefs}
    (ok : b.inventory.InOrder config) (w : η) :
    Dealt config host ⟨b, [], w⟩ (ofPercept config host percept b w) :=
  dealt_foldl_inspect (g := ⟨b.dropInspected (percept.items.map Item.id), [], w⟩) host
    percept.agent percept.items ok

theorem dealt_perceive (host : Host η) (dt : Float32) (percept : Percept) {b : Beliefs}
    (ok : b.inventory.InOrder config) (w : η) :
    ∃ taken swapped, Forager.Dealt config host b.inventory w
      (perceive config host dt percept b w).beliefs.inventory
      (perceive config host dt percept b w).world { taken, swapped } ∧
      (perceive config host dt percept b w).pickedUp = taken.map (·.id) :=
  dealt_ofPercept host percept (b := { b with
    agentInfo := percept.agent
    knownEnemies := Enemy.merge dt b.knownEnemies percept.enemies }) ok w

end Gathering

/-! ## Acting -/

namespace Beliefs

variable (config : Config) (host : Host η)

theorem dealt_steer (b : Beliefs) (w : η) :
    Dealt config host b.inventory w (b.steer host w).beliefs.inventory (b.steer host w).world
      {} := by
  unfold steer
  split
  · exact .refl _ _
  · exact .single (.askWay _ _ _)

theorem dealt_reviewTarget (b : Beliefs) (w : η) :
    Dealt config host b.inventory w (b.reviewTarget host w).1.inventory (b.reviewTarget host w).2
      {} := by
  rw [inventory_reviewTarget]
  unfold reviewTarget
  split
  · exact .refl _ _
  · dsimp only
    split <;> exact .single (.askView _ _ _)

/-- A shot from a loaded pistol leaves the pistol in its slot, or after the last round nothing. -/
theorem shoot_of_loaded {inv : Inventory} {slot : Nat} {p : Pistol}
    (held : inv.slots[slot]? = some (some (.pistol p))) (loaded : p.ammo ≠ 0) (w : η) :
    shoot host slot inv w = if p.fired.ammo = 0 then (inv.clear slot, host.dropItem slot w)
      else (inv.put slot (.pistol p.fired), w) := by
  have shot : inv.modify slot spendRound = inv.put slot (.pistol p.fired) := by
    rw [Inventory.modify, modify_of_getElem? held, map_spendRound loaded]
    rfl
  have left : (inv.put slot (.pistol p.fired)).get? slot = some (.pistol p.fired) := by
    rw [Inventory.get?, Inventory.put, List.getElem?_set_self (List.getElem?_eq_some_iff.1 held).1]
    rfl
  have cleared : (inv.put slot (.pistol p.fired)).clear slot = inv.clear slot := by
    rw [Inventory.put, Inventory.clear, List.set_set, Inventory.clear]
  simp only [shoot, shot, isSpent, left, beq_iff_eq, cleared]

/-- A granted shot takes a round, and the last one the pistol. -/
theorem dealt_shoot {inv : Inventory} {slot : Nat} {p : Pistol} {w : η}
    (held : inv.slots[slot]? = some (some (.pistol p))) (loaded : p.ammo ≠ 0)
    (yes : (host.useItem slot w).1) :
    ∃ emptied, Dealt config host inv w (shoot host slot inv (host.useItem slot w).2).1
      (shoot host slot inv (host.useItem slot w).2).2 { shots := 1, emptied } := by
  have rounds := Pistol.fired_ammo (UInt32.pos_iff_ne_zero.2 loaded)
  rw [shoot_of_loaded host held loaded]
  split
  · rename_i last
    have last : p.ammo = 1 := by
      rw [last] at rounds
      exact UInt32.toNat_inj.1 rounds.symm
    exact ⟨1, .single (.spend held last yes)⟩
  · rename_i more
    have more : 1 < p.ammo := by
      rw [← UInt32.toNat_inj] at more
      refine UInt32.lt_iff_toNat_lt.2 ?_
      have : p.fired.ammo.toNat ≠ 0 := more
      show 1 < p.ammo.toNat
      omega
    exact ⟨0, .single (.fire held more yes)⟩

theorem dealt_fire (b : Beliefs) (w : η) :
    ∃ emptied, Dealt config host b.inventory w (b.fire host w).beliefs.inventory
      (b.fire host w).world { shots := (b.fire host w).done.toNat, emptied } := by
  unfold fire
  split
  · exact ⟨0, .refl _ _⟩
  · rename_i slot hs
    obtain ⟨p, held, -, loaded⟩ := Inventory.bestPistol?_spec hs
    dsimp only
    split
    · rename_i yes
      obtain ⟨emptied, dealt⟩ := dealt_shoot config host held loaded yes
      have both := dealt.trans (dealt_reviewTarget config host { b with
        inventory := (shoot host slot b.inventory (host.useItem slot w).2).1 } _)
      rw [Account.add_empty] at both
      exact ⟨emptied, both⟩
    · rename_i no
      exact ⟨0, .single (.refuseUse no)⟩

theorem dealt_consume (resource : Resource) (b : Beliefs) (w : η) :
    Dealt config host b.inventory w (b.consume resource host w).beliefs.inventory
      (b.consume resource host w).world
      { used := if (b.consume resource host w).done then [resource.kind] else [] } := by
  cases hs : resource.bestSlot? b.inventory
      (pointsMissing (b.maximum resource) (resource.level b.agentInfo)) with
  | none =>
    simp only [consume, hs]
    exact .refl _ _
  | some slot =>
    obtain ⟨item, held, kind⟩ := Resource.bestSlot?_spec hs
    by_cases yes : (host.useItem slot w).1
    · have filling : item.kind = .health ∨ item.kind = .food := by
        rw [kind]
        cases resource
        · exact .inl rfl
        · exact .inr rfl
      have dealt : Dealt config host b.inventory w (b.inventory.clear slot)
          (host.useItem slot w).2 { used := [item.kind] } := .single (.consume held filling yes)
      rw [kind] at dealt
      simp only [consume, hs, if_pos yes]
      exact dealt
    · simp only [consume, hs, if_neg yes]
      exact .single (.refuseUse yes)

theorem dealt_tryFire (b : Beliefs) (w : η) :
    ∃ emptied, Dealt config host b.inventory w (b.tryFire host w).beliefs.inventory
      (b.tryFire host w).world { shots := (b.tryFire host w).done.toNat, emptied } := by
  unfold tryFire carryOut
  split
  · exact dealt_fire config host { b with shootPistol := false } w
  · exact ⟨0, .refl _ _⟩

theorem dealt_tryHeal (b : Beliefs) (w : η) :
    Dealt config host b.inventory w (b.tryHeal host w).beliefs.inventory
      (b.tryHeal host w).world { used := if (b.tryHeal host w).done then [.health] else [] } := by
  unfold tryHeal carryOut
  split
  · exact dealt_consume config host .health { b with useHealthItem := false } w
  · exact .refl _ _

theorem dealt_tryEat (b : Beliefs) (w : η) :
    Dealt config host b.inventory w (b.tryEat host w).beliefs.inventory
      (b.tryEat host w).world { used := if (b.tryEat host w).done then [.food] else [] } := by
  unfold tryEat carryOut
  split
  · exact dealt_consume config host .energy { b with useFoodItem := false } w
  · exact .refl _ _

theorem dealt_act (b : Beliefs) (w : η) :
    ∃ emptied, Dealt config host b.inventory w (b.act host w).beliefs.inventory
      (b.act host w).world
      { shots := (b.act host w).fired.toNat, emptied, used := (b.act host w).used } := by
  let course := b.steer host w
  let shot := course.beliefs.tryFire host course.world
  let heal := shot.beliefs.tryHeal host shot.world
  have steered : Dealt config host b.inventory w course.beliefs.inventory course.world {} :=
    dealt_steer config host b w
  obtain ⟨emptied, shooting⟩ := dealt_tryFire config host course.beliefs course.world
  have healing := dealt_tryHeal config host shot.beliefs shot.world
  have eating := dealt_tryEat config host heal.beliefs heal.world
  have all := ((steered.trans shooting).trans healing).trans eating
  simp only [Account.add, List.nil_append, List.append_nil, Nat.zero_add, Nat.add_zero] at all
  exact ⟨emptied, all⟩

end Beliefs

/-! ## A whole frame -/

/-- A frame is a run of dealings: first what its decision reports as picked up, then what it
reports as done. -/
theorem dealt_turn {config : Config} (host : Host η) (time : FrameTime) (percept : Percept)
    {b : Beliefs} (ok : b.inventory.InOrder config) (w : η) :
    let t := turn config host time percept b w
    ∃ taken swapped emptied,
      Dealt config host b.inventory w t.seen.beliefs.inventory t.seen.world { taken, swapped } ∧
      Dealt config host t.seen.beliefs.inventory t.seen.world t.done.beliefs.inventory
        t.done.world { shots := t.done.fired.toNat, emptied, used := t.done.used } ∧
      t.seen.pickedUp = taken.map (·.id) := by
  intro t
  obtain ⟨taken, swapped, seen, reported⟩ :=
    Gathering.dealt_perceive host time.dt percept ok w
  obtain ⟨emptied, done⟩ := Beliefs.dealt_act config host t.intended t.seen.world
  have same : t.intended.inventory = t.seen.beliefs.inventory :=
    Beliefs.prioritise_inventory t.seen.beliefs
  rw [same] at done
  exact ⟨taken, swapped, emptied, seen, done, reported⟩

end Forager
