import Forager.Proofs.Branches
import Forager.Proofs.Pickups
import Forager.Proofs.Recollection
import Mathlib.Data.List.Induction

/-!
# What the agent goes to collect

Collecting asks for a free slot alone, and picking up asks for more: that the limit of the kind is
not used up, or else that a pistol is better than the weakest one held. So the agent may set out
for an item that the limits keep out. This takes a limit that is below the number of slots and used
up. Within reach such an item stays the goal for as long as the percepts show it: each frame tries
to pick it up, fails, and remembers it.

* `full_of_not_admits`: what keeps an item out where a slot is free.
* `triedInVain_of_mem`: what is still known of a listed item within reach.
* `Pursued`, `Pursuit`, `collects_within_limits`: what the agent goes to collect, in every frame
  of every session.
* `surplus_pack_pursued`: an item that is kept out, and the goal of any number of frames.
-/
namespace Forager

variable {μ η : Type}

/-! ## What the limits keep out -/

namespace Inventory

variable {config : Config} {inv : Inventory} {item : Item}

/-- With a free slot, the limits keep an item out only where that of its kind is used up, and is
below the number of slots. -/
theorem full_of_not_admits (ok : inv.InOrder config) (space : inv.hasSpace = true)
    (barred : ¬inv.Admits config item) : inv.count item.kind = config.limit item.kind ∧
      config.limit item.kind < config.inventoryCapacity := by
  rw [Admits, not_or, Nat.not_lt] at barred
  have full : inv.count item.kind = config.limit item.kind :=
    Nat.le_antisymm (ok.limits item.kind) barred.1
  have few := hasSpace_iff.1 space
  rw [ok.capacity] at few
  exact ⟨full, full ▸ Nat.lt_of_le_of_lt (inv.count_le_length_items item.kind) few⟩

end Inventory

/-! ## Items that are still known -/

namespace Gathering

/-- Whether picking an item up was tried in its turn and failed, with the items of a percept
inspected in order. -/
def TriedInVain (config : Config) (host : Host η) (agent : Agent) (items : List Item)
    (start : Gathering η) (item : Item) : Prop :=
  ∃ before after, items = before ++ item :: after ∧
    let g := before.foldl (inspect config host agent) start
    (g.beliefs.inventory.tryPickUp config host item g.world).taken = false

section Inspecting

variable {config : Config} {host : Host η} {agent : Agent} {g : Gathering η} {item new : Item}
  {kind : ItemKind}

/-- An item within reach that is still known once it has been inspected was not picked up. -/
theorem failed_of_mem_inspect (near : agent.reachesItem item)
    (there : item ∈ (g.inspect config host agent item).beliefs.known.inspected kind) :
    (g.beliefs.inventory.tryPickUp config host item g.world).taken = false := by
  have forgotten {b : Beliefs} : item ∉ (b.forget item.id).known.inspected kind := by
    rw [Beliefs.known_forget, Known.mem_inspected_forget]
    exact fun known => known.2 rfl
  rw [Agent.reachesItem] at near
  unfold inspect at there
  split at there
  · rename_i nowhere
    rw [nowhere] at near
    cases near
  · rename_i position lies
    rw [lies] at near
    split at there
    · exact absurd there forgotten
    · split at there
      · unfold collect at there
        dsimp only at there
        split at there
        · exact absurd there forgotten
        · rename_i failed
          exact Bool.eq_false_iff.2 failed
      · rename_i far
        exact absurd (of_decide_eq_true near) far

/-- Inspecting another item adds none but that one. -/
theorem mem_of_mem_inspect (other : item ≠ new)
    (there : item ∈ (g.inspect config host agent new).beliefs.known.inspected kind) :
    item ∈ g.beliefs.known.inspected kind := by
  have turn := inspects_inspect config host agent g new
  generalize g.inspect config host agent new = g' at turn there
  cases turn with
  | passed => exact there
  | forgotten =>
    rw [Beliefs.known_forget, Known.mem_inspected_forget] at there
    exact there.1
  | taken collected tried =>
    rw [Beliefs.known_forget, Known.mem_inspected_forget] at there
    exact there.1
  | left useful tried =>
    rw [Beliefs.known_remember _ (Item.ne_garbage_of_isUseful useful)] at there
    exact (Known.mem_of_mem_inspected_remember there).resolve_right other

/-- A listed item within reach that is still known in the end has been tried in vain. -/
theorem triedInVain_of_mem (near : agent.reachesItem item) {items : List Item}
    (listed : item ∈ items)
    (there : item ∈ (items.foldl (inspect config host agent) g).beliefs.known.inspected kind) :
    TriedInVain config host agent items g item := by
  -- Who has listed it last is who has added it.
  induction items using List.reverseRecOn with
  | nil => cases listed
  | append_singleton items new ih =>
    rw [List.foldl_append, List.foldl_cons, List.foldl_nil] at there
    by_cases other : item = new
    · subst other
      exact ⟨items, [], rfl, failed_of_mem_inspect near there⟩
    · have earlier : item ∈ items :=
        (List.mem_append.1 listed).resolve_right fun last => other (List.mem_singleton.1 last)
      obtain ⟨before, after, split, failed⟩ := ih earlier (mem_of_mem_inspect other there)
      refine ⟨before, after ++ [new], ?_, failed⟩
      rw [split, List.append_assoc, List.cons_append]

end Inspecting
end Gathering

/-! ## Where the goal comes from -/

namespace Beliefs

variable {b : Beliefs} {goal : Vec2}

/-- Whether an item is known to lie at a place. -/
def Locates (b : Beliefs) (goal : Vec2) : Prop :=
  (∃ kind, ∃ item ∈ b.known.inspected kind, item.position? = some goal) ∨
    ∃ i ∈ b.known.distant, i.position = goal

theorem locates_of_collectible? (h : b.collectible? = some goal) : b.Locates goal := by
  simp only [collectible?, Option.or_eq_some_iff, Option.map_eq_some_iff,
    Option.filter_eq_some_iff] at h
  rcases h with ⟨pack, ⟨nearest, -⟩, rfl⟩ | ⟨-, ⟨meal, ⟨nearest, -⟩, rfl⟩ | ⟨-, h⟩⟩
  · exact .inl ⟨.health, .health pack, List.mem_map_of_mem (choose_mem nearest), rfl⟩
  · exact .inl ⟨.food, .food meal, List.mem_map_of_mem (choose_mem nearest), rfl⟩
  · rcases h with ⟨pistol, nearest, rfl⟩ | ⟨-, i, nearest, rfl⟩
    · exact .inl ⟨.pistol, .pistol pistol, List.mem_map_of_mem (choose_mem nearest), rfl⟩
    · exact .inr ⟨i, choose_mem nearest, rfl⟩

/-- Collecting heads for a place where an item is known to lie. -/
theorem Collects.exists_goal (h : b.Collects) :
    ∃ goal, b.prioritise.destination? = some goal ∧ b.Locates goal := by
  have course := b.undirected_disengaged
  have known := h.known
  rw [← eq_of_undirected knowsItems (fun _ => rfl) course] at known
  obtain ⟨goal, chosen⟩ := Option.isSome_iff_exists.1 (collectible?_isSome known)
  have located := locates_of_collectible? chosen
  rw [eq_of_undirected (·.Locates goal) (fun _ => rfl) course] at located
  refine ⟨goal, ?_, located⟩
  rw [h.prioritise, chosen]
  rfl

end Beliefs

/-! ## Pursuits -/

/-- The state in which a frame starts to inspect items. -/
def Gathering.start (dt : Float32) (percept : Percept) (b : Beliefs) (world : η) : Gathering η where
  beliefs :=
    { b with
      agentInfo := percept.agent
      knownEnemies := Enemy.merge dt b.knownEnemies percept.enemies }.dropInspected
        (percept.items.map Item.id)
  pickedUp := []
  world := world

/-- What holds of an inspected item that the agent goes to collect, with the inventory at hand. -/
structure Pursued (config : Config) (host : Host η) (percept : Percept) (start : Gathering η)
    (inv : Inventory) (item : Item) : Prop where
  /-- The limits let the item in, or that of its kind is used up and below the number of slots. -/
  fits : inv.Admits config item ∨
    inv.count item.kind = config.limit item.kind ∧ config.limit item.kind < config.inventoryCapacity
  /-- Within reach the percept shows it. -/
  shown : percept.agent.reachesItem item →
    item.id ∈ percept.items.map Item.id ++ percept.distantItems.map (·.id)
  /-- If the percept shows it close enough to be inspected, picking it up has failed. -/
  tried : percept.agent.reachesItem item → item ∈ percept.items →
    Gathering.TriedInVain config host percept.agent percept.items start item

/-- The goal of an agent that collects: a slot is free, and an item is known to lie there. -/
structure Pursuit (config : Config) (host : Host η) (percept : Percept) (start : Gathering η)
    (seen : Beliefs) (goal : Vec2) : Prop where
  space : seen.inventory.hasSpace = true
  located : seen.Locates goal
  pursued : ∀ kind, ∀ item ∈ seen.known.inspected kind, item.position? = some goal →
    Pursued config host percept start seen.inventory item

section Perceived

variable {config : Config} {host : Host η} {dt : Float32} {percept : Percept} {b : Beliefs}
  {world : η} {item : Item} {kind : ItemKind}

theorem Gathering.mem_inspected_perceive :
    item ∈ (perceive config host dt percept b world).beliefs.known.inspected kind ↔
      item ∈ (percept.items.foldl (inspect config host percept.agent)
          (start dt percept b world)).beliefs.known.inspected kind ∧
        (item.id ∈ percept.items.map Item.id ++ percept.distantItems.map (·.id) ∨
          ¬percept.agent.reachesItem item) := by
  have known := known_ofPercept config host percept
    { b with
      agentInfo := percept.agent
      knownEnemies := Enemy.merge dt b.knownEnemies percept.enemies } world
  show item ∈ (ofPercept config host percept _ world).beliefs.known.inspected kind ↔ _
  rw [known, Known.mem_inspected_dropVanished]
  rfl

/-- A goal that is chosen because the agent collects is a pursuit. -/
theorem Beliefs.Collects.pursuit
    (h : (Gathering.perceive config host dt percept b world).beliefs.Collects)
    (ok : (Gathering.perceive config host dt percept b world).beliefs.inventory.InOrder config) :
    let seen := (Gathering.perceive config host dt percept b world).beliefs
    ∃ goal, seen.prioritise.destination? = some goal ∧
      Pursuit config host percept (.start dt percept b world) seen goal := by
  intro seen
  obtain ⟨goal, headed, located⟩ := h.exists_goal
  refine ⟨goal, headed, h.space, located, fun kind item known _ => ?_⟩
  obtain ⟨left, seen⟩ := Gathering.mem_inspected_perceive.1 known
  constructor
  case fits => exact or_iff_not_imp_left.2 (Inventory.full_of_not_admits ok h.space)
  case shown => exact fun near => seen.resolve_right (not_not.2 near)
  case tried => exact fun near listed => Gathering.triedInVain_of_mem near listed left

end Perceived

/-- A controller in a session reports that its agent collects exactly if that decides what the agent
does. -/
theorem Controller.Holds.reports_collecting_iff {c : Controller μ} {b : Beliefs} (h : c.Holds b)
    (host : Host η) (time : FrameTime) (percept : Percept) (world : η) :
    Reported "CollectItems"
        (c.traced.update host time percept world).controller.takeLog.1.events ↔
      (Gathering.perceive c.config host time.dt percept b world).beliefs.Collects := by
  rw [h.traced.update]
  exact StandardTree.reports_collecting_iff

/-- In every frame of every session: where the walk reports that the agent collects, its goal is a
pursuit. -/
theorem collects_within_limits (config : Config) (agent : Agent) (memory : μ) :
    ∃ c, Controller.standard config agent memory = .ok c ∧
      ∀ {η : Type} (host : Host η) (world : η) (os : List (Occurrence η)) (time : FrameTime)
        (percept : Percept),
        let s := Session.run host ⟨c, world, []⟩ os
        let f := s.controller.traced.update host time percept s.world
        ∃ b w d, s.controller.beliefs = .ok b ∧
          s.controller.deliberate host time percept s.world = .ok w ∧ f.result = .ok d ∧
          (s.controller.update host time percept s.world).result = .ok d ∧
          (Reported "CollectItems" f.controller.takeLog.1.events →
            ∃ goal, d.goal = some goal ∧
              Pursuit config host percept (.start time.dt percept b s.world) w.seen goal) := by
  refine ⟨_, Controller.standard_eq config agent memory, fun host world os time percept => ?_⟩
  have follows := standard_session config agent memory host world os
  have ok := Episode.inOrder_run config host agent world os
  generalize (Episode.start config agent world).run config host os = e at follows ok
  intro s f
  obtain ⟨taken, swapped, emptied, dealt, -⟩ := dealt_turn host time percept ok s.world
  have deliberated := follows.holds.deliberate host time percept s.world
  have updated := follows.holds.update host time percept s.world
  have traced := follows.holds.traced.update host time percept s.world
  have reports := follows.holds.reports_collecting_iff host time percept s.world
  rw [follows.config] at deliberated updated reports
  rw [show s.controller.traced.config = config from follows.config] at traced
  refine ⟨e.beliefs, _, _, follows.holds.beliefs, deliberated, congrArg (·.result) traced,
    congrArg (·.result) updated, fun reported => ?_⟩
  exact (reports.1 reported).pursuit (dealt.inOrder ok)

/-! ## An item that is kept out -/

/-- A health pack that lies within reach. -/
def packAt (id : EntityId) : Item := .health ⟨id, ⟨1, 0⟩, 2⟩

/-- A percept with one pack more than the limit of three lets in. -/
def fourPacks : Percept := { items := [packAt 1, packAt 2, packAt 3, packAt 4] }

/-- The pack that is left. -/
def surplus : Percept := { items := [packAt 4] }

/-- A frame that shows four packs, and `n` that show the one that is left. -/
def lingering (n : Nat) : List (Occurrence Unit) :=
  .frame ⟨0, 1⟩ fourPacks :: (List.range n).map fun i => .frame ⟨.ofNat (i + 1), 1⟩ surplus

/-- What the agent believes with three packs in the inventory and the fourth in mind. -/
def laden : Beliefs := (turn {} granting ⟨0, 1⟩ fourPacks (.initial {} {}) ()).done.beliefs

/-- The turn in which the pack that is left is tried again. -/
def retry : Turn Unit := turn {} granting ⟨0, 1⟩ surplus laden ()

theorem retry_eq (tick : UInt64) : turn {} granting ⟨tick, 1⟩ surplus laden () = retry := by
  rw [retry, turn, turn]

theorem beliefs_lingering (n : Nat) :
    ((Episode.start {} {} ()).run {} granting (lingering n)).beliefs = laden := by
  induction n with
  | zero =>
    rw [laden, lingering, List.range_zero, List.map_nil, Episode.run, List.foldl_cons,
      List.foldl_nil, Episode.step, Episode.start]
  | succ n ih =>
    have last : lingering (n + 1) = lingering n ++ [.frame ⟨.ofNat (n + 1), 1⟩ surplus] := by
      rw [lingering, List.range_succ, List.map_append]
      rfl
    have same : retry.done.beliefs = laden := by decide +kernel
    simp only [Episode.run] at ih ⊢
    rw [last, List.foldl_append, List.foldl_cons, List.foldl_nil, Episode.step, ih]
    exact (congrArg (·.done.beliefs) (retry_eq _)).trans same

/-- The fourth pack is kept out and is the goal all the same, within reach and with a slot free, in
each of any number of frames. -/
theorem surplus_pack_pursued :
    ∃ c, Controller.standard {} {} () = .ok c ∧ ∀ n : Nat,
      let s := Session.run granting ⟨c, (), []⟩ (lingering n)
      let f := s.controller.traced.update granting ⟨.ofNat (n + 1), 1⟩ surplus s.world
      ∃ w d, s.controller.deliberate granting ⟨.ofNat (n + 1), 1⟩ surplus s.world = .ok w ∧
        f.result = .ok d ∧ Reported "CollectItems" f.controller.takeLog.1.events ∧
        d.goal = (packAt 4).position? ∧ packAt 4 ∈ w.seen.known.inspected .health ∧
        surplus.agent.reachesItem (packAt 4) ∧ w.seen.inventory.hasSpace = true ∧
        ¬w.seen.inventory.Admits {} (packAt 4) := by
  refine ⟨_, Controller.standard_eq _ _ _, fun n => ?_⟩
  have follows := standard_session {} {} () granting () (lingering n)
  have held := follows.holds
  rw [beliefs_lingering n] at held
  intro s f
  have deliberated := held.deliberate granting ⟨.ofNat (n + 1), 1⟩ surplus s.world
  have traced := held.traced.update granting ⟨.ofNat (n + 1), 1⟩ surplus s.world
  have reports := held.reports_collecting_iff granting ⟨.ofNat (n + 1), 1⟩ surplus s.world
  rw [follows.config] at deliberated reports
  rw [show s.controller.traced.config = {} from follows.config] at traced
  rw [retry_eq] at deliberated traced
  have goal : retry.done.goal = (packAt 4).position? := by decide +kernel
  have known : packAt 4 ∈ retry.seen.beliefs.known.inspected .health := by decide +kernel
  have full : retry.seen.beliefs.inventory.count .health = 3 := by decide +kernel
  have collects : retry.seen.beliefs.Collects :=
    ⟨by decide +kernel, by decide +kernel, by decide +kernel, by decide +kernel⟩
  refine ⟨_, _, deliberated, congrArg (·.result) traced, reports.2 collects, ?_, known,
    by decide +kernel, collects.space, ?_⟩
  · simp only [Turn.decision, goal]
  · rintro (below | ⟨slot, displaced⟩)
    · exact Nat.lt_irrefl 3 (full ▸ below)
    · cases displaced

end Forager
