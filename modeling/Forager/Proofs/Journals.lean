import Forager.Controller

/-!
# Hosts that keep a journal

`Host.journalled` lets another host answer and writes down each call. A frame comes to the same
with the one as with the other: the controller cannot see the journal. This holds of any host that
does what another does on a part of its world, and hence is stated for those.

* `Host.Extends.update`: a frame comes to the same on the part of the world that both hosts share.
* `Controller.update_journalled`: keeping a journal changes nothing.
* `Gathering.onlyMoved_perceive`: perceiving calls the host to pick items up and to drop them.
-/
namespace Forager

variable {μ η η' : Type}

/-! ## Hosts with a larger world -/

/-- Whether a host does what another does, in a world of which the other sees a part. -/
structure Host.Extends (host' : Host η') (view : η' → η) (host : Host η) : Prop where
  closestPathPoint (target : Vec2) (w : η') :
    host.closestPathPoint target (view w) = (host'.closestPathPoint target w).map id view
  pickUp (item : Item) (slot : Nat) (w : η') :
    host.pickUp item slot (view w) = (host'.pickUp item slot w).map id view
  useItem (slot : Nat) (w : η') : host.useItem slot (view w) = (host'.useItem slot w).map id view
  dropItem (slot : Nat) (w : η') : host.dropItem slot (view w) = view (host'.dropItem slot w)
  enemyVisible (enemy : EntityId) (w : η') :
    host.enemyVisible enemy (view w) = (host'.enemyVisible enemy w).map id view

namespace Host.Extends

variable {host' : Host η'} {view : η' → η} {host : Host η} (h : host'.Extends view host)
include h

/-! ### Perceiving -/

theorem makeRoom (config : Config) (item : Item) (inv : Inventory) (w : η') :
    inv.makeRoom config host item (view w) =
      (inv.makeRoom config host' item w).map (Prod.map id view) := by
  cases item with
  | pistol p =>
    simp only [Inventory.makeRoom]
    split
    · split
      · rfl
      · rw [h.dropItem]
        split <;> rfl
    · rfl
  | health pack =>
    simp only [Inventory.makeRoom]
    split <;> rfl
  | food f =>
    simp only [Inventory.makeRoom]
    split <;> rfl
  | garbage id => rfl

theorem tryPickUp (config : Config) (item : Item) (inv : Inventory) (w : η') :
    let attempt := inv.tryPickUp config host' item w
    inv.tryPickUp config host item (view w) =
      ⟨attempt.taken, attempt.inventory, view attempt.world⟩ := by
  simp only [Inventory.tryPickUp, h.makeRoom]
  cases inv.makeRoom config host' item w with
  | none => rfl
  | some room =>
    simp only [Option.map_some, Prod.map, id_eq]
    cases room.1.firstEmpty? with
    | none => rfl
    | some slot =>
      simp only [h.pickUp, Prod.map, id_eq]
      split <;> rfl

theorem collect (config : Config) (g : Gathering η') (item : Item) :
    let g' := g.collect config host' item
    Gathering.collect config host ⟨g.beliefs, g.pickedUp, view g.world⟩ item =
      ⟨g'.beliefs, g'.pickedUp, view g'.world⟩ := by
  simp only [Gathering.collect, h.tryPickUp]
  split <;> rfl

theorem inspect (config : Config) (agent : Agent) (g : Gathering η') (item : Item) :
    let g' := g.inspect config host' agent item
    Gathering.inspect config host agent ⟨g.beliefs, g.pickedUp, view g.world⟩ item =
      ⟨g'.beliefs, g'.pickedUp, view g'.world⟩ := by
  simp only [Gathering.inspect, h.collect]
  split
  · rfl
  · split
    · rfl
    · split <;> rfl

theorem foldl_inspect (config : Config) (agent : Agent) (items : List Item) (g : Gathering η') :
    let g' := items.foldl (Gathering.inspect config host' agent) g
    items.foldl (Gathering.inspect config host agent) ⟨g.beliefs, g.pickedUp, view g.world⟩ =
      ⟨g'.beliefs, g'.pickedUp, view g'.world⟩ := by
  induction items generalizing g with
  | nil => rfl
  | cons item items ih =>
    simp only [List.foldl_cons, h.inspect]
    exact ih _

theorem perceive (config : Config) (dt : Float32) (percept : Percept) (b : Beliefs) (w : η') :
    let g := Gathering.perceive config host' dt percept b w
    Gathering.perceive config host dt percept b (view w) =
      ⟨g.beliefs, g.pickedUp, view g.world⟩ := by
  simp only [Gathering.perceive, Gathering.ofPercept]
  rw [h.foldl_inspect config percept.agent percept.items ⟨_, _, w⟩]

/-! ### Acting -/

theorem steer (b : Beliefs) (w : η') :
    let course := b.steer host' w
    b.steer host (view w) = ⟨course.next, course.beliefs, view course.world⟩ := by
  simp only [Beliefs.steer, h.closestPathPoint]
  split <;> rfl

theorem shoot (slot : Nat) (inv : Inventory) (w : η') :
    Beliefs.shoot host slot inv (view w) = (Beliefs.shoot host' slot inv w).map id view := by
  simp only [Beliefs.shoot, h.dropItem]
  split <;> rfl

theorem reviewTarget (b : Beliefs) (w : η') :
    b.reviewTarget host (view w) = (b.reviewTarget host' w).map id view := by
  simp only [Beliefs.reviewTarget, h.enemyVisible]
  split
  · rfl
  · simp only [Prod.map, id_eq]
    split <;> rfl

theorem fire (b : Beliefs) (w : η') :
    let deed := b.fire host' w
    b.fire host (view w) = ⟨deed.done, deed.beliefs, view deed.world⟩ := by
  simp only [Beliefs.fire, h.useItem, Prod.map, id_eq]
  split
  · rfl
  · split
    · simp only [h.shoot, Prod.map, id_eq, h.reviewTarget]
    · rfl

theorem consume (resource : Resource) (b : Beliefs) (w : η') :
    let deed := b.consume resource host' w
    b.consume resource host (view w) = ⟨deed.done, deed.beliefs, view deed.world⟩ := by
  simp only [Beliefs.consume, h.useItem, Prod.map, id_eq]
  split
  · rfl
  · split <;> rfl

omit h in
theorem carryOut {deed' : Beliefs → η' → Beliefs.Deed η'} {deed : Beliefs → η → Beliefs.Deed η}
    (same : ∀ b w, deed b (view w) =
      ⟨(deed' b w).done, (deed' b w).beliefs, view (deed' b w).world⟩)
    (raised : Bool) (b : Beliefs) (w : η') :
    let done := Beliefs.carryOut raised deed' b w
    Beliefs.carryOut raised deed b (view w) = ⟨done.done, done.beliefs, view done.world⟩ := by
  cases raised with
  | false => rfl
  | true => exact same b w

theorem act (b : Beliefs) (w : η') :
    let conduct := b.act host' w
    b.act host (view w) = ⟨conduct.goal, conduct.navGoal, conduct.fired, conduct.used,
      conduct.beliefs, view conduct.world⟩ := by
  simp only [Beliefs.act, h.steer, carryOut h.fire, carryOut (h.consume _)]

/-! ### Frames -/

theorem conclude (c : Controller μ) (tick : UInt64) (percept : Percept) (pickedUp : List EntityId)
    (w : η') :
    let f := c.conclude host' tick percept pickedUp w
    c.conclude host tick percept pickedUp (view w) = ⟨f.result, f.controller, view f.world⟩ := by
  simp only [Controller.conclude, h.act]
  cases c.beliefs <;> rfl

/-- A frame comes to the same for both hosts. -/
theorem update (c : Controller μ) (time : FrameTime) (percept : Percept) (w : η') :
    let f := c.update host' time percept w
    c.update host time percept (view w) = ⟨f.result, f.controller, view f.world⟩ := by
  simp only [Controller.update, h.perceive]
  cases c.beliefs with
  | error e => rfl
  | ok b =>
    dsimp only
    generalize Gathering.perceive c.config host' time.dt percept b w = seen
    generalize (c.withBeliefs seen.beliefs).tree.update = walked
    obtain ⟨result, tree⟩ := walked
    cases result with
    | error e => rfl
    | ok _ => exact h.conclude _ _ _ _ _

end Host.Extends

/-! ## The journal -/

/-- A call of a host. -/
inductive HostCall where
  | closestPathPoint (target : Vec2)
  | pickUp (item : Item) (slot : Nat)
  | useItem (slot : Nat)
  | dropItem (slot : Nat)
  | enemyVisible (enemy : EntityId)
  deriving DecidableEq

/-- Whether the call moves an item between the ground and the inventory. -/
inductive HostCall.Moves : HostCall → Prop
  | pickUp (item : Item) (slot : Nat) : Moves (.pickUp item slot)
  | dropItem (slot : Nat) : Moves (.dropItem slot)

/-- The world of a host that keeps a journal, and the calls so far. -/
structure Journal (η : Type) where
  calls : List HostCall
  world : η

/-- The journal with one more call, that has left the given world. -/
def Journal.after (j : Journal η) (call : HostCall) (world : η) : Journal η :=
  ⟨j.calls ++ [call], world⟩

/-- The host that writes down each call and has another host answer it. -/
def Host.journalled (host : Host η) : Host (Journal η) where
  closestPathPoint target j :=
    (host.closestPathPoint target j.world).map id (j.after (.closestPathPoint target))
  pickUp item slot j := (host.pickUp item slot j.world).map id (j.after (.pickUp item slot))
  useItem slot j := (host.useItem slot j.world).map id (j.after (.useItem slot))
  dropItem slot j := j.after (.dropItem slot) (host.dropItem slot j.world)
  enemyVisible enemy j := (host.enemyVisible enemy j.world).map id (j.after (.enemyVisible enemy))

theorem Host.journalled_extends (host : Host η) :
    host.journalled.Extends Journal.world host where
  closestPathPoint _ _ := rfl
  pickUp _ _ _ := rfl
  useItem _ _ := rfl
  dropItem _ _ := rfl
  enemyVisible _ _ := rfl

/-- To keep a journal changes nothing else. -/
theorem Controller.update_journalled (c : Controller μ) (host : Host η) (time : FrameTime)
    (percept : Percept) (j : Journal η) :
    let f := c.update host.journalled time percept j
    c.update host time percept j.world = ⟨f.result, f.controller, f.world.world⟩ :=
  host.journalled_extends.update c time percept j

/-! ## What perceiving asks of a host -/

section Keeps

variable {P : η → Prop} {host : Host η}
  (picked : ∀ item slot w, P w → P (host.pickUp item slot w).2)
  (dropped : ∀ slot w, P w → P (host.dropItem slot w))

namespace Inventory

include dropped in
theorem makeRoom_keeps {config : Config} {item : Item} {inv inv' : Inventory} {w w' : η}
    (room : inv.makeRoom config host item w = some (inv', w')) (h : P w) : P w' := by
  have both : w' = w ∨ ∃ slot, w' = host.dropItem slot w := by
    unfold makeRoom at room
    grind
  rcases both with rfl | ⟨slot, rfl⟩
  · exact h
  · exact dropped slot w h

include picked dropped

theorem tryPickUp_keeps (config : Config) (item : Item) (inv : Inventory) {w : η} (h : P w) :
    P (inv.tryPickUp config host item w).world := by
  unfold tryPickUp
  split
  · exact h
  · rename_i inv' w' room
    have ready := makeRoom_keeps dropped room h
    split
    · exact ready
    · rename_i slot _
      dsimp only
      split <;> exact picked item slot _ ready

end Inventory

namespace Gathering

include picked dropped

theorem collect_keeps (config : Config) (g : Gathering η) (item : Item) (h : P g.world) :
    P (g.collect config host item).world := by
  have tried := Inventory.tryPickUp_keeps picked dropped config item g.beliefs.inventory h
  unfold collect
  dsimp only
  split <;> exact tried

theorem inspect_keeps (config : Config) (agent : Agent) (g : Gathering η) (item : Item)
    (h : P g.world) : P (g.inspect config host agent item).world := by
  unfold inspect
  split
  · exact h
  · split
    · exact h
    · split
      · exact collect_keeps picked dropped config g item h
      · exact h

theorem foldl_inspect_keeps (config : Config) (agent : Agent) (items : List Item)
    (g : Gathering η) (h : P g.world) : P (items.foldl (inspect config host agent) g).world := by
  induction items generalizing g with
  | nil => exact h
  | cons item items ih => exact ih _ (inspect_keeps picked dropped config agent g item h)

/-- What items picked up and dropped keep of a world is kept by perceiving. -/
theorem perceive_keeps (config : Config) (dt : Float32) (percept : Percept) (b : Beliefs) {w : η}
    (h : P w) : P (perceive config host dt percept b w).world :=
  foldl_inspect_keeps picked dropped config percept.agent percept.items ⟨_, _, w⟩ h

end Gathering
end Keeps

/-- Whether all calls since an earlier journal have moved items. -/
def Journal.OnlyMoved (j j' : Journal η) : Prop :=
  ∃ calls, j'.calls = j.calls ++ calls ∧ ∀ call ∈ calls, call.Moves

namespace Journal.OnlyMoved

variable {j j' : Journal η}

theorem refl (j : Journal η) : j.OnlyMoved j :=
  ⟨[], (List.append_nil j.calls).symm, List.forall_mem_nil _⟩

theorem after (h : j.OnlyMoved j') {call : HostCall} (moves : call.Moves) (world : η) :
    j.OnlyMoved (j'.after call world) := by
  obtain ⟨calls, before, all⟩ := h
  refine ⟨calls ++ [call], ?_, ?_⟩
  · rw [Journal.after, before, List.append_assoc]
  · exact List.forall_mem_append.2 ⟨all, List.forall_mem_singleton.2 moves⟩

end Journal.OnlyMoved

/-- Perceiving calls a host only to move items. -/
theorem Gathering.onlyMoved_perceive (config : Config) (host : Host η) (dt : Float32)
    (percept : Percept) (b : Beliefs) (j : Journal η) :
    j.OnlyMoved (perceive config host.journalled dt percept b j).world :=
  perceive_keeps (fun item slot _ h => h.after (.pickUp item slot) _)
    (fun slot _ h => h.after (.dropItem slot) _) config dt percept b (.refl j)

end Forager
