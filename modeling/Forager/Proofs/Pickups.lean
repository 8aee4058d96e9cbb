import Forager.Proofs.Deliberation
import Forager.Proofs.Journals

/-!
# Pickups that fail

An item that is not picked up stays where it was, and as a rule nothing else happens: the limits
are checked, a slot is looked for, and the host is asked, before anything changes. A pistol over
the limit is different. The weakest pistol held goes first, and it is gone if the host then refuses
the better one.

* `Displaces`, `Admits`: which pistol has to go for an item, and which items the limits let in.
* `taken_iff_admits`: with a free slot and a willing host the limits decide.
* `tryPickUp_of_not_displaces`: a failed pickup changes nothing where none has to go.
* `tryPickUp_of_displaces`: what a failed pickup costs where one has to.
* `failed_pickup_costless_iff`: hence when a failed pickup costs nothing.
-/
namespace Forager

variable {η : Type}

/-- Whether a host hands over whatever is picked up. -/
def Host.Willing (host : Host η) : Prop := ∀ item slot w, (host.pickUp item slot w).1 = true

namespace Inventory

/-- Whether the pistol in a slot has to go for an item: as many pistols are held as are kept, it is
the weakest of them, and the item is a pistol that is worth more. -/
inductive Displaces (config : Config) (inv : Inventory) : Item → Nat → Prop where
  | pistol {p : Pistol} {slot : Nat} {value : Float32}
    (full : config.maxPistols ≤ inv.count .pistol)
    (weakest : inv.worstPistol? = some (slot, value)) (better : ¬p.value ≤ value) :
    Displaces config inv (.pistol p) slot

/-- Whether the limits let an item in: there is room for one more of its kind, or a pistol has to
go for it. -/
def Admits (config : Config) (inv : Inventory) (item : Item) : Prop :=
  inv.count item.kind < config.limit item.kind ∨ ∃ slot, inv.Displaces config item slot

section Failing

variable {config : Config} {host : Host η} {item : Item} {inv : Inventory} {slot : Nat} {w : η}

/-! ## Making room -/

theorem makeRoom_of_displaces (h : inv.Displaces config item slot) :
    inv.makeRoom config host item w = some (inv.clear slot, host.dropItem slot w) := by
  obtain ⟨full, weakest, better⟩ := h
  simp only [makeRoom, if_pos full, weakest, if_neg better]

theorem makeRoom_of_below (below : inv.count item.kind < config.limit item.kind) :
    inv.makeRoom config host item w = some (inv, w) := by
  have free := Nat.not_le.2 below
  cases item with
  | pistol | health | food => exact if_neg free
  | garbage => exact absurd below (Nat.not_lt_zero _)

theorem makeRoom_of_not_admits (barred : ¬inv.Admits config item) :
    inv.makeRoom config host item w = none := by
  rw [Admits, not_or, Nat.not_lt] at barred
  obtain ⟨full, stays⟩ := barred
  cases item with
  | pistol p =>
    refine (if_pos full).trans ?_
    cases weakest : inv.worstPistol? with
    | none => rfl
    | some worst =>
      refine if_pos (by_contra fun better => stays ⟨worst.1, ?_⟩)
      exact .pistol full weakest better
  | health | food => exact if_pos full
  | garbage => rfl

theorem makeRoom_of_not_displaces (h : ∀ slot, ¬inv.Displaces config item slot) :
    inv.makeRoom config host item w = none ∨ inv.makeRoom config host item w = some (inv, w) := by
  by_cases below : inv.count item.kind < config.limit item.kind
  · exact .inr (makeRoom_of_below below)
  · refine .inl (makeRoom_of_not_admits ?_)
    exact not_or.2 ⟨below, not_exists.2 h⟩

/-! ## Trying -/

theorem Displaces.lt_length (h : inv.Displaces config item slot) : slot < inv.slots.length := by
  obtain ⟨-, weakest, -⟩ := h
  obtain ⟨p, held, -⟩ := worstPistol?_spec weakest
  exact (List.getElem?_eq_some_iff.1 held).1

theorem isSome_firstEmpty?_clear (held : slot < inv.slots.length) :
    (inv.clear slot).firstEmpty?.isSome := by
  rw [← hasSpace_eq_isSome_firstEmpty?, hasSpace, List.any_eq_true]
  refine ⟨none, ?_, rfl⟩
  exact List.mem_iff_getElem?.2 ⟨slot, List.getElem?_set_self held⟩

/-- Making room leaves a slot free, if one was free before. -/
theorem isSome_firstEmpty?_of_makeRoom {inv' : Inventory} {w' : η}
    (room : inv.makeRoom config host item w = some (inv', w')) (space : inv.hasSpace = true) :
    inv'.firstEmpty?.isSome := by
  by_cases displaced : ∃ slot, inv.Displaces config item slot
  · obtain ⟨slot, displaced⟩ := displaced
    cases (makeRoom_of_displaces displaced).symm.trans room
    exact isSome_firstEmpty?_clear displaced.lt_length
  · rcases makeRoom_of_not_displaces (not_exists.1 displaced) with barred | stays
    · cases barred.symm.trans room
    · cases stays.symm.trans room
      rw [← hasSpace_eq_isSome_firstEmpty?]
      exact space

/-- Where room was made and a slot is free, a pickup fails because the host refuses. -/
theorem tryPickUp_of_refused {inv' : Inventory} {w' : η} {free : Nat}
    (room : inv.makeRoom config host item w = some (inv', w'))
    (empty : inv'.firstEmpty? = some free)
    (failed : (inv.tryPickUp config host item w).taken = false) :
    (host.pickUp item free w').1 = false ∧
      inv.tryPickUp config host item w = ⟨false, inv', (host.pickUp item free w').2⟩ := by
  simp only [tryPickUp, room, empty] at failed ⊢
  split at failed
  · cases failed
  · rename_i refused
    exact ⟨Bool.eq_false_iff.2 refused, if_neg refused⟩

theorem tryPickUp_of_willing {inv' : Inventory} {w' : η} {free : Nat} (willing : host.Willing)
    (room : inv.makeRoom config host item w = some (inv', w'))
    (empty : inv'.firstEmpty? = some free) :
    inv.tryPickUp config host item w =
      ⟨true, inv'.put free item, (host.pickUp item free w').2⟩ := by
  simp only [tryPickUp, room, empty, willing item free w', if_true]

/-- With a free slot and a host that hands everything over, an item is picked up exactly if the
limits let it in. -/
theorem taken_iff_admits (space : inv.hasSpace = true) (willing : host.Willing) :
    (inv.tryPickUp config host item w).taken = true ↔ inv.Admits config item := by
  constructor
  · intro taken
    by_contra barred
    simp only [tryPickUp, makeRoom_of_not_admits barred] at taken
    cases taken
  · intro admitted
    have room : ∃ r, inv.makeRoom config host item w = some r := by
      rcases admitted with below | ⟨slot, displaced⟩
      · exact ⟨_, makeRoom_of_below below⟩
      · exact ⟨_, makeRoom_of_displaces displaced⟩
    obtain ⟨⟨inv', w'⟩, room⟩ := room
    obtain ⟨free, empty⟩ :=
      Option.isSome_iff_exists.1 (isSome_firstEmpty?_of_makeRoom room space)
    rw [tryPickUp_of_willing willing room empty]

/-- Where no pistol has to go, a failed pickup has at most asked the host. -/
theorem tryPickUp_of_not_displaces (h : ∀ slot, ¬inv.Displaces config item slot)
    (failed : (inv.tryPickUp config host item w).taken = false) :
    (inv.tryPickUp config host item w).inventory = inv ∧
      ((inv.tryPickUp config host item w).world = w ∨
        ∃ free, (inv.tryPickUp config host item w).world = (host.pickUp item free w).2) := by
  rcases (makeRoom_of_not_displaces h : inv.makeRoom config host item w = none ∨ _) with
    barred | room
  · simp only [tryPickUp, barred, true_or, and_self]
  · cases empty : inv.firstEmpty? with
    | none => simp only [tryPickUp, room, empty, true_or, and_self]
    | some free =>
      rw [(tryPickUp_of_refused room empty failed).2]
      exact ⟨rfl, .inr ⟨free, rfl⟩⟩

/-- Where a pistol has to go, a failed pickup has dropped it before the host refused. -/
theorem tryPickUp_of_displaces (h : inv.Displaces config item slot)
    (failed : (inv.tryPickUp config host item w).taken = false) :
    ∃ free, (host.pickUp item free (host.dropItem slot w)).1 = false ∧
      inv.tryPickUp config host item w =
        ⟨false, inv.clear slot, (host.pickUp item free (host.dropItem slot w)).2⟩ := by
  obtain ⟨free, empty⟩ := Option.isSome_iff_exists.1 (isSome_firstEmpty?_clear h.lt_length)
  exact ⟨free, tryPickUp_of_refused (makeRoom_of_displaces h) empty failed⟩

end Failing
end Inventory

/-! ## The cost -/

/-- A pickup that fails costs nothing, no held item and no call to drop one, exactly if no pistol
had to go for the item. Where one had to, it has been dropped, and the host has then refused the
item. -/
theorem failed_pickup_costless_iff (config : Config) (host : Host η) (item : Item)
    (inv : Inventory) (world : η)
    (failed : (inv.tryPickUp config host item world).taken = false) :
    let left := (inv.tryPickUp config host item world).inventory
    let calls := (inv.tryPickUp config host.journalled item ⟨[], world⟩).world.calls
    ((left = inv ∧ ∀ slot, .dropItem slot ∉ calls) ↔ ∀ slot, ¬inv.Displaces config item slot) ∧
      ∀ slot, inv.Displaces config item slot → left = inv.clear slot ∧
        ∃ free, calls = [.dropItem slot, .pickUp item free] ∧
          (host.pickUp item free (host.dropItem slot world)).1 = false := by
  intro left calls
  have seen := host.journalled_extends.tryPickUp config item inv ⟨[], world⟩
  have failed' : (inv.tryPickUp config host.journalled item ⟨[], world⟩).taken = false :=
    (congrArg (·.taken) seen).symm.trans failed
  have lost (slot : Nat) (displaced : inv.Displaces config item slot) : left = inv.clear slot ∧
      ∃ free, calls = [.dropItem slot, .pickUp item free] ∧
        (host.pickUp item free (host.dropItem slot world)).1 = false := by
    obtain ⟨_, -, here⟩ := Inventory.tryPickUp_of_displaces displaced failed
    obtain ⟨free, refused, there⟩ := Inventory.tryPickUp_of_displaces displaced failed'
    exact ⟨congrArg (·.inventory) here, free, congrArg (·.world.calls) there, refused⟩
  refine ⟨⟨fun costless slot displaced => ?_, fun still => ⟨?_, fun slot dropped => ?_⟩⟩, lost⟩
  · obtain ⟨-, free, made, -⟩ := lost slot displaced
    exact costless.2 slot (made ▸ List.mem_cons_self)
  · exact (Inventory.tryPickUp_of_not_displaces still failed).1
  · have asked : calls = [] ∨ ∃ free, calls = [.pickUp item free] :=
      (Inventory.tryPickUp_of_not_displaces still failed').2.imp (congrArg Journal.calls)
        fun ⟨free, world'⟩ => ⟨free, congrArg Journal.calls world'⟩
    rcases asked with none | ⟨free, one⟩
    · rw [none] at dropped
      cases dropped
    · rw [one] at dropped
      cases List.mem_singleton.1 dropped

/-- A host that hands nothing over. -/
def refusing : Host Unit := { granting with pickUp := fun _ _ w => (false, w) }

/-- A pistol in the first of two slots. -/
def armed : Inventory := ⟨[some (.pistol ⟨1, ⟨0, 0⟩, 1, 1, 5⟩), none]⟩

/-- A pack that is refused costs nothing. -/
theorem failed_pickup_costless_iff_pack :
    let pack : Item := .health ⟨2, ⟨0, 0⟩, 3⟩
    (armed.tryPickUp {} refusing pack ()).taken = false ∧
      (armed.tryPickUp {} refusing pack ()).inventory = armed ∧
      ∀ slot, .dropItem slot ∉
        (armed.tryPickUp {} refusing.journalled pack ⟨[], ()⟩).world.calls := by
  intro pack
  have failed : (armed.tryPickUp {} refusing pack ()).taken = false := by decide +kernel
  have stays (slot : Nat) : ¬armed.Displaces {} (.health ⟨2, ⟨0, 0⟩, 3⟩) slot := nofun
  exact ⟨failed, (failed_pickup_costless_iff {} refusing pack armed () failed).1.2 stays⟩

/-- With room for one pistol, a better one that is refused costs the one at hand. -/
theorem pistol_lost :
    let config : Config := { maxPistols := 1 }
    let better : Item := .pistol ⟨2, ⟨0, 0⟩, 6, 1, 12⟩
    (armed.tryPickUp config refusing better ()).taken = false ∧
      (armed.tryPickUp config refusing better ()).inventory ≠ armed ∧
      .dropItem 0 ∈
        (armed.tryPickUp config refusing.journalled better ⟨[], ()⟩).world.calls := by
  decide +kernel

end Forager
