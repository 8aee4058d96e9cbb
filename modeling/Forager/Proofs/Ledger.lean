import Forager.Proofs.Turns

/-!
# The books of a host

`Host.ledgered` lets another host decide and keeps the books: what was handed over, and what the
slots held that it was told to empty. An account of dealings says what must have changed in the
inventory, and what must have been entered in the books.

* `Dealt.lift`: what is shown of single dealings holds of runs of them.
* `Dealt.settles`: what is held changes by what the account says, in items and in rounds.
* `Dealt.entered`: the books change by what the account says, and the stock as the inventory does.
-/
namespace Forager

variable {η : Type}

/-! ## The account and the inventory -/

/-- The rounds that come with an item. -/
def Item.rounds : Item → Nat
  | .pistol p => p.ammo.toNat
  | _ => 0

namespace Account

def roundsTaken (a : Account) : Nat := (a.taken.map Item.rounds).sum

def roundsSwapped (a : Account) : Nat := (a.swapped.map (·.ammo.toNat)).sum

/-- The number of items dropped. -/
def drops (a : Account) : Nat := a.swapped.length + a.emptied

end Account

/-- What every dealing does to inventory and world, and what adds up, a run of dealings does. -/
theorem Dealt.lift {config : Config} {host : Host η}
    {R : Inventory → η → Inventory → η → Account → Prop}
    (still : ∀ inv w, R inv w inv w {})
    (chain : ∀ {inv w inv₁ w₁ inv₂ w₂ a b},
      R inv w inv₁ w₁ a → R inv₁ w₁ inv₂ w₂ b → R inv w inv₂ w₂ (a.add b))
    (one : ∀ {d inv w inv' w'}, Deals config host d inv w inv' w' →
      R inv w inv' w' (.ofDealing d))
    {inv inv' : Inventory} {w w' : η} {a : Account} (h : Dealt config host inv w inv' w' a) :
    R inv w inv' w' a := by
  obtain ⟨ds, dealings, rfl⟩ := h
  induction dealings with
  | nil inv w => exact still inv w
  | cons first rest ih => exact chain (one first) ih

/-- Whether an inventory holds what it held before, what was taken added and what left subtracted,
in items and in rounds. -/
structure Settles (inv inv' : Inventory) (a : Account) : Prop where
  items : inv'.items.length + a.used.length + a.drops = inv.items.length + a.taken.length
  rounds : inv'.total Item.rounds + a.shots + a.roundsSwapped =
    inv.total Item.rounds + a.roundsTaken

theorem Settles.trans {inv inv₁ inv₂ : Inventory} {a b : Account} (h : Settles inv inv₁ a)
    (h' : Settles inv₁ inv₂ b) : Settles inv inv₂ (a.add b) := by
  obtain ⟨items, rounds⟩ := h
  obtain ⟨items', rounds'⟩ := h'
  simp only [Account.drops, Account.roundsTaken, Account.roundsSwapped] at *
  constructor
  · simp only [Account.add, Account.drops, List.length_append]
    omega
  · simp only [Account.add, Account.roundsTaken, Account.roundsSwapped, List.map_append,
      List.sum_append]
    omega

namespace Deals

variable {config : Config} {host : Host η} {d : Dealing} {inv inv' : Inventory} {w w' : η}

theorem settles (h : Deals config host d inv w inv' w') :
    Settles inv inv' (.ofDealing d) := by
  cases h with
  | askWay goal => exact ⟨rfl, rfl⟩
  | askView id => exact ⟨rfl, rfl⟩
  | refusePickUp no => exact ⟨rfl, rfl⟩
  | refuseUse no => exact ⟨rfl, rfl⟩
  | store vacant useful room yes =>
    constructor
    · simp only [Inventory.length_items_eq_total]
      exact Inventory.total_put (fun _ => 1) vacant _
    · exact Inventory.total_put Item.rounds vacant _
  | swapOut _ held =>
    constructor
    · simp only [Inventory.length_items_eq_total]
      exact Inventory.total_clear (fun _ => 1) held
    · exact Inventory.total_clear Item.rounds held
  | @fire _ _ p slot held more yes =>
    have items := Inventory.total_refill (fun _ => 1) held (.pistol p.fired)
    have rounds := Inventory.total_refill Item.rounds held (.pistol p.fired)
    have one := Pistol.fired_ammo (UInt32.lt_trans (by decide : (0 : UInt32) < 1) more)
    simp only [Item.rounds] at rounds
    constructor
    · simp only [Inventory.length_items_eq_total, Account.ofDealing, Account.drops,
        List.length_nil]
      omega
    · simp only [Account.ofDealing, Account.roundsTaken, Account.roundsSwapped, List.map_nil,
        List.sum_nil]
      omega
  | @spend _ _ p slot held last yes =>
    have items := Inventory.total_clear (fun _ => 1) held
    have rounds := Inventory.total_clear Item.rounds held
    simp only [Item.rounds, last, UInt32.toNat_one] at rounds
    constructor
    · simp only [Inventory.length_items_eq_total]
      exact items
    · exact rounds
  | @consume _ _ item slot held kind yes =>
    have items := Inventory.total_clear (fun _ => 1) held
    have rounds := Inventory.total_clear Item.rounds held
    have none : item.rounds = 0 := by
      cases item with
      | pistol p => rcases kind with kind | kind <;> cases kind
      | health pack => rfl
      | food f => rfl
      | garbage id => rfl
    rw [none] at rounds
    constructor
    · simp only [Inventory.length_items_eq_total]
      exact items
    · exact rounds

end Deals

theorem Dealt.settles {config : Config} {host : Host η} {inv inv' : Inventory} {w w' : η}
    {a : Account} (h : Dealt config host inv w inv' w' a) : Settles inv inv' a :=
  h.lift (R := fun inv _ inv' _ a => Settles inv inv' a) (fun _ _ => ⟨rfl, rfl⟩)
    (fun h h' => h.trans h') fun h => h.settles

/-! ## The books of a host -/

/-- The world of a host that keeps a stock, what it handed over, and what the slots held that it
was told to empty. -/
structure Ledger (η : Type) where
  stock : Stock η
  taken : List Item
  dropped : List (Option Item)

namespace Ledger

def opened (capacity : Nat) (world : η) : Ledger η := ⟨.empty capacity world, [], []⟩

/-- The rounds that were handed over. -/
def roundsTaken (l : Ledger η) : Nat := (l.taken.map Item.rounds).sum

/-- The rounds in the pistols that were dropped. One shot empty has none. -/
def roundsDropped (l : Ledger η) : Nat :=
  (l.dropped.map (Inventory.slotWeight Item.rounds)).sum

end Ledger

/-- The host that keeps the books and leaves it to another host what to grant. -/
def Host.ledgered (host : Host η) : Host (Ledger η) where
  closestPathPoint target l :=
    let answer := host.stocked.closestPathPoint target l.stock
    (answer.1, { l with stock := answer.2 })
  pickUp item slot l :=
    let answer := host.stocked.pickUp item slot l.stock
    (answer.1,
      { l with stock := answer.2, taken := if answer.1 then l.taken ++ [item] else l.taken })
  useItem slot l :=
    let answer := host.stocked.useItem slot l.stock
    (answer.1, { l with stock := answer.2 })
  dropItem slot l :=
    { l with
      stock := host.stocked.dropItem slot l.stock
      dropped := l.dropped ++ [(l.stock.slots[slot]?).join] }
  enemyVisible id l :=
    let answer := host.stocked.enemyVisible id l.stock
    (answer.1, { l with stock := answer.2 })

/-- The same occurrence in the world of a host that keeps books, which nobody else touches. -/
def Occurrence.ledgered : Occurrence η → Occurrence (Ledger η)
  | .softGoal target => .softGoal target
  | .frame time percept => .frame time percept
  | .drift change => .drift fun l =>
    { l with stock := { l.stock with world := change l.stock.world } }

/-- Whether the books have got from one state to another by entering what an account says. -/
structure Ledger.Entered (l l' : Ledger η) (a : Account) : Prop where
  taken : l'.taken = l.taken ++ a.taken
  drops : l'.dropped.length = l.dropped.length + a.drops
  rounds : l'.roundsDropped = l.roundsDropped + a.roundsSwapped

namespace Ledger.Entered

variable {l l₁ l₂ : Ledger η} {a b : Account}

theorem trans (h : l.Entered l₁ a) (h' : l₁.Entered l₂ b) : l.Entered l₂ (a.add b) := by
  obtain ⟨taken, drops, rounds⟩ := h
  obtain ⟨taken', drops', rounds'⟩ := h'
  refine ⟨?_, ?_, ?_⟩
  · rw [taken', taken, List.append_assoc]
    rfl
  · simp only [Account.add, Account.drops, List.length_append] at *
    omega
  · simp only [Account.add, Account.roundsSwapped, List.map_append, List.sum_append] at *
    omega

/-- Where nothing is taken and nothing dropped there is nothing to enter. -/
theorem of_same (taken : l₁.taken = l.taken) (dropped : l₁.dropped = l.dropped)
    (none : a.taken = []) (keeps : a.swapped = []) (still : a.emptied = 0) : l.Entered l₁ a where
  taken := by rw [taken, none, List.append_nil]
  drops := by rw [dropped, Account.drops, keeps, still]; rfl
  rounds := by rw [Ledger.roundsDropped, dropped, Account.roundsSwapped, keeps]; rfl

/-- A host told to drop a pistol enters the one that its stock has there. -/
theorem of_drop (host : Host η) {slot : Nat} {p : Pistol} {a : Account}
    (held : l.stock.slots[slot]? = some (some (.pistol p))) (taken : a.taken = [])
    (drops : a.drops = 1) (rounds : a.roundsSwapped = p.ammo.toNat) :
    l.Entered (host.ledgered.dropItem slot l) a where
  taken := by rw [taken, List.append_nil]; rfl
  drops := by
    simp only [Host.ledgered, List.length_append, List.length_singleton, drops]
  rounds := by
    simp only [Host.ledgered, Ledger.roundsDropped, held, Option.join_some, List.map_append,
      List.map_singleton, List.sum_append, List.sum_singleton, rounds]
    rfl

end Ledger.Entered

section Entering

variable {config : Config} {host : Host η} {l : Ledger η} {slot : Nat} {item : Item}

/-- A granted use takes from the stock what it takes from the item. -/
theorem slots_useItem (held : l.stock.slots[slot]? = some (some item))
    (yes : (host.ledgered.useItem slot l).1) :
    (host.ledgered.useItem slot l).2.stock.slots = l.stock.slots.set slot item.afterUse := by
  have granted : (host.useItem slot l.stock.world).1 = true := yes
  simp only [Host.ledgered, Host.stocked, Stock.after, if_pos granted, modify_of_getElem? held]
  rfl

theorem slots_useItem_refused (no : ¬(host.ledgered.useItem slot l).1) :
    (host.ledgered.useItem slot l).2.stock.slots = l.stock.slots := by
  have refused : ¬(host.useItem slot l.stock.world).1 = true := no
  simp only [Host.ledgered, Host.stocked, Stock.after, if_neg refused]

theorem pickUp_granted (yes : (host.ledgered.pickUp item slot l).1) :
    (host.ledgered.pickUp item slot l).2.stock.slots = l.stock.slots.set slot (some item) ∧
      l.Entered (host.ledgered.pickUp item slot l).2 { taken := [item] } := by
  have granted : (host.pickUp item slot l.stock.world).1 = true := yes
  refine ⟨?_, if_pos granted, rfl, rfl⟩
  simp only [Host.ledgered, Host.stocked, Stock.after, if_pos granted]

theorem pickUp_refused (no : ¬(host.ledgered.pickUp item slot l).1) :
    (host.ledgered.pickUp item slot l).2.stock.slots = l.stock.slots ∧
      l.Entered (host.ledgered.pickUp item slot l).2 {} := by
  have refused : ¬(host.pickUp item slot l.stock.world).1 = true := no
  refine ⟨?_, .of_same (if_neg refused) rfl rfl rfl rfl⟩
  simp only [Host.ledgered, Host.stocked, Stock.after, if_neg refused]

/-- A dealing changes the stock as it changes the inventory, and is entered. -/
theorem Deals.entered {d : Dealing} {inv inv' : Inventory} {l' : Ledger η}
    (h : Deals config host.ledgered d inv l inv' l') (same : l.stock.slots = inv.slots) :
    l'.stock.slots = inv'.slots ∧ l.Entered l' (.ofDealing d) := by
  cases h with
  | askWay goal => exact ⟨same, .of_same rfl rfl rfl rfl rfl⟩
  | askView id => exact ⟨same, .of_same rfl rfl rfl rfl rfl⟩
  | refusePickUp no =>
    obtain ⟨slots, entered⟩ := pickUp_refused no
    exact ⟨slots.trans same, entered⟩
  | refuseUse no => exact ⟨(slots_useItem_refused no).trans same, .of_same rfl rfl rfl rfl rfl⟩
  | store vacant useful room yes =>
    obtain ⟨slots, entered⟩ := pickUp_granted yes
    rw [slots, same]
    exact ⟨rfl, entered⟩
  | @swapOut _ _ p slot held =>
    rw [← same] at held
    refine ⟨?_, .of_drop host held rfl rfl (Nat.add_zero _)⟩
    rw [Inventory.clear, ← same]
    rfl
  | @fire _ _ p slot held more yes =>
    rw [← same] at held
    rw [slots_useItem held yes, same]
    exact ⟨rfl, .of_same rfl rfl rfl rfl rfl⟩
  | @spend _ _ p slot held last yes =>
    -- Two requests: the round is used up, and then the pistol, empty in the stock too, is dropped.
    rw [← same] at held
    have slots := slots_useItem held yes
    have shot : l.Entered (host.ledgered.useItem slot l).2 { shots := 1 } :=
      .of_same rfl rfl rfl rfl rfl
    have left : (host.ledgered.useItem slot l).2.stock.slots[slot]? =
        some (some (.pistol p.fired)) := by
      rw [slots, List.getElem?_set_self (List.getElem?_eq_some_iff.1 held).1]
      rfl
    have empty : p.fired.ammo.toNat = 0 := by rw [Pistol.fired, last]; rfl
    have dropped : (host.ledgered.useItem slot l).2.Entered
        (host.ledgered.dropItem slot (host.ledgered.useItem slot l).2) { emptied := 1 } :=
      .of_drop host left rfl rfl empty.symm
    refine ⟨?_, shot.trans dropped⟩
    show (host.ledgered.useItem slot l).2.stock.slots.set slot none = inv.slots.set slot none
    rw [slots, List.set_set, same]
  | @consume _ _ item slot held kind yes =>
    have gone : item.afterUse = none := by
      cases item with
      | health pack => rfl
      | food f => rfl
      | pistol p => rcases kind with kind | kind <;> cases kind
      | garbage id => rcases kind with kind | kind <;> cases kind
    rw [← same] at held
    rw [slots_useItem held yes, same, gone]
    exact ⟨rfl, .of_same rfl rfl rfl rfl rfl⟩

theorem Dealt.entered {inv inv' : Inventory} {l' : Ledger η} {a : Account}
    (h : Dealt config host.ledgered inv l inv' l' a) (same : l.stock.slots = inv.slots) :
    l'.stock.slots = inv'.slots ∧ l.Entered l' a := by
  refine h.lift (R := fun inv l inv' l' a => l.stock.slots = inv.slots →
    l'.stock.slots = inv'.slots ∧ l.Entered l' a) ?_ ?_ ?_ same
  · exact fun inv l same => ⟨same, .of_same rfl rfl rfl rfl rfl⟩
  · intro inv l inv₁ l₁ inv₂ l₂ a b first second same
    obtain ⟨same₁, entered⟩ := first same
    obtain ⟨same₂, entered'⟩ := second same₁
    exact ⟨same₂, entered.trans entered'⟩
  · exact fun h same => h.entered same

end Entering

end Forager
