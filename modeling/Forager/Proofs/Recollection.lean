import Forager.Proofs.Journals
import Forager.Proofs.Known
import Forager.Proofs.Ledger

/-!
# What a percept leaves remembered

Of the items that a percept does not inspect, the lists of known items keep those that it shows
from afar and those out of the agent's reach. An inspected item is forgotten if it is picked up or
useless, and else remembered as it was inspected; garbage is passed over. An item seen from afar is
remembered where it was first seen.

For an item that a percept lists once, only its own turn matters: inspecting another leaves what is
known of it as it was.

* `inspects_inspect`: what inspecting an item can come to.
* `exists_turn`, `fate_ofPercept`: what becomes of an item that is listed once.
* `useless_forgotten_iff`: a useless item is forgotten unless it is garbage that was remembered.
* `accepted_ofPercept`: what is reported as picked up is what a host handed over.
* `percept_remembered`: the lists after a percept whose items are distinct.
-/
namespace Forager

variable {η : Type}

/-! ## Inspecting -/

namespace Gathering

/-- What inspecting an item can come to: garbage is passed over, a useless item is forgotten, and a
useful one is picked up or left, because that failed or because it is out of reach. -/
inductive Inspects (config : Config) (host : Host η) (agent : Agent) (g : Gathering η)
    (item : Item) : Gathering η → Prop where
  | passed (garbage : item.kind = .garbage) : Inspects config host agent g item g
  | forgotten (kind : item.kind ≠ .garbage) (useless : item.isUseful = false) :
    Inspects config host agent g item { g with beliefs := g.beliefs.forget item.id }
  | taken {inv : Inventory} {w : η} (collected : agent.collects item)
    (tried : g.beliefs.inventory.tryPickUp config host item g.world = ⟨true, inv, w⟩) :
    Inspects config host agent g item
      ⟨{ g.beliefs with inventory := inv }.forget item.id, g.pickedUp ++ [item.id], w⟩
  | left {inv : Inventory} {w : η} (useful : item.isUseful)
    (tried : g.beliefs.inventory.tryPickUp config host item g.world = ⟨false, inv, w⟩ ∨
      inv = g.beliefs.inventory ∧ w = g.world) :
    Inspects config host agent g item
      ⟨{ g.beliefs with inventory := inv }.remember item, g.pickedUp, w⟩

theorem inspects_inspect (config : Config) (host : Host η) (agent : Agent) (g : Gathering η)
    (item : Item) : Inspects config host agent g item (g.inspect config host agent item) := by
  unfold inspect
  split
  · rename_i nowhere
    refine .passed ?_
    cases item with
    | pistol | health | food => cases nowhere
    | garbage id => rfl
  · rename_i position lies
    split
    · rename_i useless
      refine .forgotten ?_ (by simpa using useless)
      cases item with
      | pistol | health | food => nofun
      | garbage id => cases lies
    · rename_i useful
      have useful : item.isUseful = true := by simpa using useful
      split
      · rename_i near
        have collected : agent.collects item := by
          simp [Agent.collects, Agent.reachesItem, Agent.reaches, lies, useful, near]
        unfold collect
        cases tried : g.beliefs.inventory.tryPickUp config host item g.world with
        | mk taken inv w =>
          cases taken with
          | true => exact .taken collected tried
          | false => exact .left useful (.inl tried)
      · exact .left useful (.inr ⟨rfl, rfl⟩)

/-- Whether an item is known as before, and picked up if it was before. -/
structure SameFor (id : EntityId) (g g' : Gathering η) : Prop where
  known : g'.beliefs.known.of id = g.beliefs.known.of id
  pickedUp : id ∈ g'.pickedUp ↔ id ∈ g.pickedUp

theorem SameFor.refl (id : EntityId) (g : Gathering η) : SameFor id g g := ⟨rfl, .rfl⟩

theorem SameFor.trans {id : EntityId} {g g' g'' : Gathering η} (h : SameFor id g g')
    (h' : SameFor id g' g'') : SameFor id g g'' :=
  ⟨h'.known.trans h.known, h'.pickedUp.trans h.pickedUp⟩

namespace Inspects

variable {config : Config} {host : Host η} {agent : Agent} {g g' : Gathering η} {item : Item}
  {id : EntityId}

/-- What is known of the other items stays as it was. -/
theorem sameFor (h : Inspects config host agent g item g') (apart : id ≠ item.id) :
    SameFor id g g' := by
  cases h with
  | passed => exact .refl id g
  | forgotten =>
    refine ⟨?_, .rfl⟩
    rw [Beliefs.known_forget, Known.of_forget apart]
  | taken collected tried =>
    constructor
    · rw [Beliefs.known_forget, Known.of_forget apart]
      rfl
    · simp [apart]
  | left useful tried =>
    refine ⟨?_, .rfl⟩
    rw [Beliefs.known_remember _ (Item.ne_garbage_of_isUseful useful), Known.of_remember apart]
    rfl

theorem tidy (h : Inspects config host agent g item g') (tidy : g.beliefs.known.Tidy) :
    g'.beliefs.known.Tidy := by
  cases h with
  | passed => exact tidy
  | forgotten =>
    rw [Beliefs.known_forget]
    exact tidy.keep _ _
  | taken collected tried =>
    rw [Beliefs.known_forget]
    exact Known.Tidy.keep tidy _ _
  | left useful tried =>
    rw [Beliefs.known_remember _ (Item.ne_garbage_of_isUseful useful)]
    exact Known.Tidy.remember tidy item

end Inspects

section Turns

variable (config : Config) (host : Host η) (agent : Agent) {items : List Item}

theorem sameFor_foldl_inspect {id : EntityId} (other : id ∉ items.map Item.id)
    (g : Gathering η) : SameFor id g (items.foldl (inspect config host agent) g) := by
  induction items generalizing g with
  | nil => exact .refl id g
  | cons item items ih =>
    rw [List.map_cons, List.mem_cons, not_or] at other
    exact ((inspects_inspect config host agent g item).sameFor other.1).trans (ih other.2 _)

theorem tidy_foldl_inspect (items : List Item) {g : Gathering η} (tidy : g.beliefs.known.Tidy) :
    (items.foldl (inspect config host agent) g).beliefs.known.Tidy := by
  induction items generalizing g with
  | nil => exact tidy
  | cons item items ih => exact ih ((inspects_inspect config host agent g item).tidy tidy)

/-- What becomes of an item that is listed once is decided in its turn. -/
theorem exists_turn {item : Item} (listed : item ∈ items)
    (once : (items.map Item.id).count item.id = 1) (g : Gathering η) :
    ∃ g₁ g₂, SameFor item.id g g₁ ∧ (g.beliefs.known.Tidy → g₁.beliefs.known.Tidy) ∧
      Inspects config host agent g₁ item g₂ ∧
      SameFor item.id g₂ (items.foldl (inspect config host agent) g) := by
  obtain ⟨before, after, rfl⟩ := List.append_of_mem listed
  rw [List.map_append, List.map_cons, List.count_append, List.count_cons_self] at once
  have first : item.id ∉ before.map Item.id := List.count_eq_zero.1 (by omega)
  have last : item.id ∉ after.map Item.id := List.count_eq_zero.1 (by omega)
  rw [List.foldl_append, List.foldl_cons]
  exact ⟨_, _, sameFor_foldl_inspect config host agent first g,
    tidy_foldl_inspect config host agent before, inspects_inspect config host agent _ item,
    sameFor_foldl_inspect config host agent last _⟩

end Turns
end Gathering

/-! ## Percepts -/

namespace Gathering

variable (config : Config) (host : Host η) (percept : Percept) (b : Beliefs) (world : η)

/-- The state in which every inspected item of a percept has had its turn. -/
def ofItems : Gathering η :=
  percept.items.foldl (inspect config host percept.agent)
    ⟨b.dropInspected (percept.items.map Item.id), [], world⟩

theorem known_ofPercept : (ofPercept config host percept b world).beliefs.known =
    ((ofItems config host percept b world).beliefs.spot (percept.items.map Item.id)
      percept.distantItems).known.dropVanished percept.agent
        (percept.items.map Item.id ++ percept.distantItems.map (·.id)) :=
  Beliefs.known_dropVanished _ _ _

variable {percept b}

theorem tidy_ofItems (tidy : b.known.Tidy) :
    (ofItems config host percept b world).beliefs.known.Tidy :=
  tidy_foldl_inspect config host percept.agent percept.items (Beliefs.tidy_dropInspected tidy _)

theorem tidy_ofPercept (tidy : b.known.Tidy) :
    (ofPercept config host percept b world).beliefs.known.Tidy := by
  rw [known_ofPercept]
  exact (Beliefs.tidy_spot (tidy_ofItems config host world tidy) _ _).keep _ _

variable {id : EntityId}

/-- An item that is not inspected is known as before, and not picked up. -/
theorem of_ofItems (uninspected : id ∉ percept.items.map Item.id) :
    (ofItems config host percept b world).beliefs.known.of id = b.known.of id ∧
      id ∉ (ofItems config host percept b world).pickedUp := by
  have same := sameFor_foldl_inspect config host percept.agent uninspected
    ⟨b.dropInspected (percept.items.map Item.id), [], world⟩
  constructor
  · exact same.known.trans (Beliefs.of_dropInspected uninspected)
  · exact fun picked => List.not_mem_nil (same.pickedUp.1 picked)

/-- What is known of an item seen from afar, once every item has had its turn. -/
theorem distant_of_sighted (tidy : b.known.Tidy) (uninspected : id ∉ percept.items.map Item.id) :
    (((ofItems config host percept b world).beliefs.spot (percept.items.map Item.id)
      percept.distantItems).known.of id).distant =
        ((b.known.distant ++ percept.distantItems).find? (·.id == id)).toList := by
  have same : (ofItems config host percept b world).beliefs.known.distant.find? (·.id == id) =
      b.known.distant.find? (·.id == id) := by
    rw [← List.head?_filter, ← List.head?_filter]
    exact congrArg (fun known => known.distant.head?) (of_ofItems config host world uninspected).1
  rw [Beliefs.distant_of_spot (tidy_ofItems config host world tidy) uninspected,
    List.find?_append, same, ← List.find?_append]

/-- Nothing changes for an inspected item once every item has had its turn. -/
theorem sameFor_ofPercept (inspected : id ∈ percept.items.map Item.id) :
    SameFor id (ofItems config host percept b world) (ofPercept config host percept b world) := by
  refine ⟨?_, .rfl⟩
  rw [known_ofPercept, Known.of_dropVanished (List.mem_append_left _ inspected)]
  refine Beliefs.of_spot fun i _ uninspected same => ?_
  exact uninspected (same ▸ inspected)

/-- What becomes of an inspected item. -/
inductive Fate (agent : Agent) (item : Item) (before after : Known) (pickedUp : List EntityId) :
    Prop where
  | passed (garbage : item.kind = .garbage)
    (stays : after.of item.id = ⟨[], (before.of item.id).inspected⟩) (out : item.id ∉ pickedUp)
  | forgotten (kind : item.kind ≠ .garbage) (useless : item.isUseful = false)
    (gone : after.Lacks item.id) (out : item.id ∉ pickedUp)
  | taken (collected : agent.collects item) (gone : after.Lacks item.id)
    (held : item.id ∈ pickedUp)
  | left (useful : item.isUseful)
    (known : before.Tidy → (after.of item.id).inspected item.kind = [item])
    (out : item.id ∉ pickedUp)

/-- The fate of an item that a percept lists once is decided in its turn. -/
theorem fate_ofPercept {item : Item} (listed : item ∈ percept.items)
    (once : (percept.items.map Item.id).count item.id = 1) :
    let g := ofPercept config host percept b world
    Fate percept.agent item b.known g.beliefs.known g.pickedUp := by
  intro g
  have inspected : item.id ∈ percept.items.map Item.id := List.mem_map_of_mem listed
  obtain ⟨g₁, g₂, before, tidy, turn, after⟩ := exists_turn config host percept.agent listed once
    ⟨b.dropInspected (percept.items.map Item.id), [], world⟩
  have after : SameFor item.id g₂ g :=
    after.trans (sameFor_ofPercept config host world inspected)
  have start : g₁.beliefs.known.of item.id = ⟨[], (b.known.of item.id).inspected⟩ :=
    before.known.trans (Known.ext (Beliefs.distant_of_dropInspected inspected) rfl)
  have fresh : item.id ∉ g₁.pickedUp := fun picked => List.not_mem_nil (before.pickedUp.1 picked)
  have out (same : g₂.pickedUp = g₁.pickedUp) : item.id ∉ g.pickedUp := by
    rw [after.pickedUp, same]
    exact fresh
  have gone {b' : Beliefs} (forgotten : g₂.beliefs = b'.forget item.id) :
      g.beliefs.known.Lacks item.id := by
    rw [Known.lacks_iff, after.known, forgotten, Beliefs.known_forget, Known.of_forget_self]
  cases turn with
  | passed garbage => exact .passed garbage (after.known.trans start) (out rfl)
  | forgotten kind useless => exact .forgotten kind useless (gone rfl) (out rfl)
  | taken collected tried =>
    refine .taken collected (gone rfl) (after.pickedUp.2 ?_)
    exact List.mem_append_right _ (List.mem_singleton_self item.id)
  | left useful tried =>
    refine .left useful (fun known => ?_) (out rfl)
    have tidy : g₁.beliefs.known.Tidy := tidy (Beliefs.tidy_dropInspected known _)
    rw [after.known, Beliefs.known_remember _ (Item.ne_garbage_of_isUseful useful)]
    exact Known.inspected_of_remember_self tidy item

end Gathering

/-! ## Useless items -/

/-- A useless item that a percept lists once is forgotten, unless it is garbage that is remembered
from an earlier inspection. Then it stays remembered as it was. -/
theorem useless_forgotten_iff (config : Config) (host : Host η) (percept : Percept) (b : Beliefs)
    (world : η) {item : Item} (listed : item ∈ percept.items) (useless : item.isUseful = false)
    (once : (percept.items.map Item.id).count item.id = 1) :
    let after := (Gathering.ofPercept config host percept b world).beliefs.known
    (after.Lacks item.id ↔
      (item.kind = .garbage → ∀ kind, ∀ known ∈ b.known.inspected kind, known.id ≠ item.id)) ∧
      (item.kind = .garbage → after.of item.id = ⟨[], (b.known.of item.id).inspected⟩) := by
  intro after
  cases Gathering.fate_ofPercept config host (b := b) world listed once with
  | passed garbage stays =>
    refine ⟨?_, fun _ => stays⟩
    rw [Known.lacks_iff, stays, Known.mk.injEq, funext_iff]
    simp only [true_and, garbage, forall_true_left, Known.inspected_of_eq_nil_iff]
  | forgotten kind _ gone =>
    exact ⟨iff_of_true gone fun garbage => absurd garbage kind,
      fun garbage => absurd garbage kind⟩
  | taken collected => simp [Agent.collects, useless] at collected
  | left useful => cases useless.symm.trans useful

/-- A pistol out of reach. -/
def pistolAfar : Pistol := ⟨1, ⟨9, 0⟩, 6, 1, 12⟩

/-- The beliefs of an agent that remembers the pistol. -/
def recallsPistol : Beliefs :=
  { Beliefs.initial {} {} with knownPistols := [pistolAfar] }

/-- A remembered pistol that has been emptied is forgotten. -/
theorem useless_forgotten_iff_emptied :
    let emptied : Item := .pistol { pistolAfar with ammo := 0 }
    let percept : Percept := { items := [emptied] }
    emptied ∈ percept.items ∧ emptied.isUseful = false ∧
      (percept.items.map Item.id).count emptied.id = 1 ∧
      (Gathering.ofPercept {} granting percept recallsPistol ()).beliefs.known.Lacks 1 := by
  intro emptied percept
  have listed : emptied ∈ percept.items := List.mem_singleton_self emptied
  have useless : emptied.isUseful = false := by decide +kernel
  have once : (percept.items.map Item.id).count emptied.id = 1 := by decide
  have forgotten := useless_forgotten_iff {} granting percept recallsPistol () listed useless once
  exact ⟨listed, useless, once, forgotten.1.2 nofun⟩

/-- Garbage that is remembered as a pistol stays remembered. -/
theorem garbage_stays_remembered :
    let percept : Percept := { items := [.garbage 1] }
    (Item.garbage 1).isUseful = false ∧ (percept.items.map Item.id).count 1 = 1 ∧
      (Gathering.ofPercept {} granting percept recallsPistol ()).beliefs.known.inspected .pistol =
        [.pistol pistolAfar] := by
  decide +kernel

/-! ## Handing over -/

theorem Host.ledgered_extends (host : Host η) :
    host.ledgered.Extends (fun l => l.stock.world) host where
  closestPathPoint _ _ := rfl
  pickUp _ _ _ := rfl
  useItem _ _ := rfl
  dropItem _ _ := rfl
  enemyVisible _ _ := rfl

/-- A host that keeps books enters an item exactly if the attempt to pick it up succeeds. -/
theorem Inventory.entered_tryPickUp (config : Config) (host : Host η) (item : Item)
    (inv : Inventory) (l : Ledger η) :
    let attempt := inv.tryPickUp config host.ledgered item l
    attempt.world.taken = l.taken ++ if attempt.taken then [item] else [] := by
  unfold tryPickUp
  split
  · exact (List.append_nil l.taken).symm
  · rename_i inv' l' room
    have same : l'.taken = l.taken :=
      makeRoom_keeps (P := fun w => w.taken = l.taken) (fun _ _ h => h) room rfl
    split
    · exact same.trans (List.append_nil l.taken).symm
    · rename_i slot _
      dsimp only
      split
      · rename_i granted
        exact (pickUp_granted granted).2.taken.trans (congrArg (· ++ [item]) same)
      · rename_i refused
        exact (pickUp_refused refused).2.taken.trans (congrArg (· ++ []) same)

namespace Gathering

/-- Whether items have been picked up in the order in which they were handed over. -/
structure Accepts (g g' : Gathering (Ledger η)) (items : List Item) : Prop where
  pickedUp : g'.pickedUp = g.pickedUp ++ items.map Item.id
  taken : g'.world.taken = g.world.taken ++ items

/-- Where only beliefs change, nothing has been picked up. -/
theorem Accepts.none (g : Gathering (Ledger η)) (b : Beliefs) :
    g.Accepts { g with beliefs := b } [] :=
  ⟨(List.append_nil _).symm, (List.append_nil _).symm⟩

/-- Inspecting an item accepts it if it was tried and handed over. -/
theorem Inspects.accepts {config : Config} {host : Host η} {agent : Agent}
    {g g' : Gathering (Ledger η)} {item : Item}
    (h : Inspects config host.ledgered agent g item g') :
    ∃ accepted, g.Accepts g' accepted ∧ accepted.Sublist ([item].filter agent.collects) := by
  have entered := g.beliefs.inventory.entered_tryPickUp config host item g.world
  cases h with
  | passed => exact ⟨[], .none g g.beliefs, List.nil_sublist _⟩
  | forgotten => exact ⟨[], .none g _, List.nil_sublist _⟩
  | taken collected tried =>
    rw [tried] at entered
    refine ⟨[item], ⟨rfl, entered⟩, ?_⟩
    rw [List.filter_cons_of_pos collected]
    exact List.singleton_sublist.2 List.mem_cons_self
  | left useful tried =>
    refine ⟨[], ⟨(List.append_nil _).symm, ?_⟩, List.nil_sublist _⟩
    rw [List.append_nil]
    rcases tried with tried | ⟨-, rfl⟩
    · rw [tried] at entered
      exact entered.trans (List.append_nil _)
    · rfl

theorem accepts_foldl_inspect (config : Config) (host : Host η) (agent : Agent)
    (items : List Item) (g : Gathering (Ledger η)) :
    ∃ accepted, g.Accepts (items.foldl (inspect config host.ledgered agent) g) accepted ∧
      accepted.Sublist (items.filter agent.collects) := by
  induction items generalizing g with
  | nil => exact ⟨[], .none g g.beliefs, .refl _⟩
  | cons item items ih =>
    obtain ⟨first, now, one⟩ :=
      (inspects_inspect config host.ledgered agent g item).accepts
    obtain ⟨rest, later, others⟩ := ih (g.inspect config host.ledgered agent item)
    refine ⟨first ++ rest, ⟨?_, ?_⟩, ?_⟩
    · rw [List.foldl_cons, later.pickedUp, now.pickedUp, List.map_append, List.append_assoc]
    · rw [List.foldl_cons, later.taken, now.taken, List.append_assoc]
    · rw [← List.singleton_append, List.filter_append]
      exact one.append others

end Gathering

/-! ## The whole percept -/

/-- What a percept makes of the lists of known items. -/
structure Recalled (percept : Percept) (before after : Known) (pickedUp : List EntityId) :
    Prop where
  tidy : after.Tidy
  /-- What is listed as seen from afar has not been inspected, and was listed or is sighted. -/
  origin : ∀ i ∈ after.distant, i.id ∉ percept.items.map Item.id ∧
    (i ∈ before.distant ∨ i ∈ percept.distantItems)
  /-- An entry of an item that was not inspected stays if it is sighted or out of reach. -/
  distant : ∀ i ∈ before.distant, i.id ∉ percept.items.map Item.id →
    (i ∈ after.distant ↔
      i.id ∈ percept.distantItems.map (·.id) ∨ ¬percept.agent.reaches i.position)
  /-- The same for the entries of inspected items, of which none is added. -/
  inspected : ∀ kind item, item.id ∉ percept.items.map Item.id →
    (item ∈ after.inspected kind ↔ item ∈ before.inspected kind ∧
      (item.id ∈ percept.distantItems.map (·.id) ∨ ¬percept.agent.reachesItem item))
  /-- A sighted item is listed once, where it was first seen. -/
  sighted : ∀ i ∈ percept.distantItems, i.id ∉ percept.items.map Item.id →
    ∃ first, (before.distant ++ percept.distantItems).find? (·.id == i.id) = some first ∧
      (after.of i.id).distant = [first]
  /-- A useful item that was not picked up is remembered once, as it was inspected. -/
  left : ∀ item ∈ percept.items, item.isUseful → item.id ∉ pickedUp →
    (after.of item.id).inspected item.kind = [item]
  taken : ∀ id ∈ pickedUp, after.Lacks id
  useless : ∀ item ∈ percept.items, item.isUseful = false → item.kind ≠ .garbage →
    after.Lacks item.id

namespace Gathering

variable (config : Config) (host : Host η) {percept : Percept} {b : Beliefs} (world : η)

/-- What is reported as picked up is what the host handed over, among the useful items within
reach and in their order. -/
theorem accepted_ofPercept (percept : Percept) (b : Beliefs) (capacity : Nat) :
    let books := (ofPercept config host.ledgered percept b (.opened capacity world)).world
    (ofPercept config host percept b world).pickedUp = books.taken.map Item.id ∧
      books.taken.Sublist (percept.items.filter percept.agent.collects) := by
  intro books
  let start : Gathering (Ledger η) :=
    ⟨b.dropInspected (percept.items.map Item.id), [], .opened capacity world⟩
  have seen := host.ledgered_extends.foldl_inspect config percept.agent percept.items start
  obtain ⟨accepted, accepts, among⟩ :=
    accepts_foldl_inspect config host percept.agent percept.items start
  have taken : books.taken = accepted := accepts.taken.trans (List.nil_append accepted)
  have reported : (ofPercept config host percept b world).pickedUp = accepted.map Item.id :=
    (congrArg Gathering.pickedUp seen).trans
      (accepts.pickedUp.trans (List.nil_append (accepted.map Item.id)))
  rw [taken]
  exact ⟨reported, among⟩

theorem recalled_ofPercept (tidy : b.known.Tidy) (distinct : (percept.items.map Item.id).Nodup) :
    let g := ofPercept config host percept b world
    Recalled percept b.known g.beliefs.known g.pickedUp := by
  intro g
  have fate (item : Item) (listed : item ∈ percept.items) :
      Fate percept.agent item b.known g.beliefs.known g.pickedUp :=
    fate_ofPercept config host world listed
      (distinct.count.trans (if_pos (List.mem_map_of_mem listed)))
  constructor
  case tidy => exact tidy_ofPercept config host world tidy
  case origin =>
    intro i hi
    have uninspected : i.id ∉ percept.items.map Item.id :=
      ((recorded_ofPercept config host percept b world).distant i.id (List.mem_map_of_mem hi)).1
    rw [known_ofPercept, Known.mem_distant_dropVanished, ← Known.mem_distant_of,
      distant_of_sighted config host world tidy uninspected, Option.mem_toList] at hi
    exact ⟨uninspected, List.mem_append.1 (List.mem_of_find?_eq_some hi.1)⟩
  case distant =>
    intro i hi uninspected
    rw [known_ofPercept, Known.mem_distant_dropVanished, List.mem_append, or_iff_right uninspected]
    refine and_iff_right (Beliefs.mem_distant_spot_of_mem ?_)
    rw [← Known.mem_distant_of, (of_ofItems config host world uninspected).1]
    exact Known.mem_distant_of.2 hi
  case inspected =>
    intro kind item uninspected
    rw [known_ofPercept, Known.mem_inspected_dropVanished, List.mem_append,
      or_iff_right uninspected]
    refine and_congr_left fun _ => ?_
    show item ∈ (ofItems config host percept b world).beliefs.known.inspected kind ↔ _
    rw [← Known.mem_inspected_of, (of_ofItems config host world uninspected).1,
      Known.mem_inspected_of]
  case sighted =>
    intro i sighted uninspected
    have met : ((b.known.distant ++ percept.distantItems).find? (·.id == i.id)).isSome := by
      rw [List.find?_isSome]
      exact ⟨i, List.mem_append_right _ sighted, beq_self_eq_true i.id⟩
    obtain ⟨first, found⟩ := Option.isSome_iff_exists.1 met
    refine ⟨first, found, ?_⟩
    rw [known_ofPercept,
      Known.of_dropVanished (List.mem_append_right _ (List.mem_map_of_mem sighted)),
      distant_of_sighted config host world tidy uninspected, found]
    rfl
  case left =>
    intro item listed useful out
    cases fate item listed with
    | passed garbage => exact absurd garbage (Item.ne_garbage_of_isUseful useful)
    | forgotten _ useless => cases useless.symm.trans useful
    | taken _ _ held => exact absurd held out
    | left _ known => exact known tidy
  case taken =>
    intro id held
    have inspected : id ∈ percept.items.map Item.id := by
      by_contra uninspected
      exact (of_ofItems config host world uninspected).2 held
    obtain ⟨item, listed, rfl⟩ := List.mem_map.1 inspected
    cases fate item listed with
    | passed _ _ out => exact absurd held out
    | forgotten _ _ gone => exact gone
    | taken _ gone => exact gone
    | left _ _ out => exact absurd held out
  case useless =>
    intro item listed useless kind
    cases fate item listed with
    | passed garbage => exact absurd garbage kind
    | forgotten _ _ gone => exact gone
    | taken _ gone => exact gone
    | left useful => cases useless.symm.trans useful

end Gathering

/-- After a percept of distinct items, the lists of known items are as `Recalled` says, and no
others than the useful items within reach that the host handed over are reported as picked up. -/
theorem percept_remembered (config : Config) (host : Host η) (percept : Percept) (b : Beliefs)
    (world : η) (tidy : b.known.Tidy) (distinct : (percept.items.map Item.id).Nodup) :
    let g := Gathering.ofPercept config host percept b world
    let books := (Gathering.ofPercept config host.ledgered percept b
      (.opened config.inventoryCapacity world)).world
    Recalled percept b.known g.beliefs.known g.pickedUp ∧
      g.pickedUp = books.taken.map Item.id ∧
      books.taken.Sublist (percept.items.filter percept.agent.collects) :=
  ⟨Gathering.recalled_ofPercept config host world tidy distinct,
    Gathering.accepted_ofPercept config host world percept b config.inventoryCapacity⟩

/-- A pack within reach, food out of reach, and an item seen from afar. -/
def packAndFood : Percept where
  items := [.health ⟨2, ⟨1, 0⟩, 3⟩, .food ⟨3, ⟨9, 9⟩, 5⟩]
  distantItems := [⟨4, ⟨7, 0⟩⟩]

/-- The pack is taken, the food remembered, and so is the pistol out of reach. -/
theorem percept_remembered_packAndFood :
    recallsPistol.known.Tidy ∧ (packAndFood.items.map Item.id).Nodup ∧
      let g := Gathering.ofPercept {} granting packAndFood recallsPistol ()
      Recalled packAndFood recallsPistol.known g.beliefs.known g.pickedUp ∧ g.pickedUp = [2] := by
  have tidy : recallsPistol.known.Tidy :=
    ⟨List.nodup_nil, fun kind => by cases kind <;> decide⟩
  have distinct : (packAndFood.items.map Item.id).Nodup := by decide
  refine ⟨tidy, distinct, ?_, ?_⟩
  · exact (percept_remembered {} granting packAndFood recallsPistol () tidy distinct).1
  · decide +kernel

end Forager
