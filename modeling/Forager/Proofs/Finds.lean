import Forager.Proofs.Deliberation

/-!
# Where items are remembered

The agent remembers items seen from afar in one list, and the ones it inspected in a list for each
kind. An item that is inspected leaves the first list, and no list takes an item in twice. Whether
an item seen from afar has been inspected is however only looked up among those inspected in the
same frame. One inspected in an earlier frame, and still remembered, is therefore listed as not yet
inspected when it is seen from afar again.

* `Finds.Sorted.once_iff`: in sorted lists, only what is both distant and inspected occurs twice.
* `Gathering.recorded_ofPercept`: what a frame's percept does to the lists.
* `Finds.Recorded.once_iff`: a frame repeats an item exactly if it relists one.
* `remembered_once_iff`: a session remembers items once for as long as nothing is relisted.
-/
namespace Forager

variable {μ η : Type}

/-! ## Lists of items -/

/-- Where items are remembered: those seen from afar, and those inspected, by kind. -/
structure Finds where
  distant : List EntityId
  inspected : ItemKind → List EntityId

namespace Finds

/-- Whether no item occurs twice, within a list or across the lists. -/
def Once (f : Finds) : Prop :=
  (f.distant ++ f.inspected .health ++ f.inspected .food ++ f.inspected .pistol).Nodup

/-- Whether no list repeats an item, and inspected items are where their kind belongs. -/
structure Sorted (kindOf : EntityId → ItemKind) (f : Finds) : Prop where
  distant : f.distant.Nodup
  inspected : ∀ k, (f.inspected k).Nodup
  kinds : ∀ k, ∀ id ∈ f.inspected k, kindOf id = k
  garbage : f.inspected .garbage = []

variable {kindOf : EntityId → ItemKind} {f f' f'' : Finds}

theorem Sorted.sublist (h : f.Sorted kindOf) (distant : f'.distant.Sublist f.distant)
    (inspected : ∀ k, (f'.inspected k).Sublist (f.inspected k)) : f'.Sorted kindOf where
  distant := h.distant.sublist distant
  inspected k := (h.inspected k).sublist (inspected k)
  kinds k id hid := h.kinds k id ((inspected k).subset hid)
  garbage := List.sublist_nil.1 (h.garbage ▸ inspected .garbage)

theorem Sorted.disjoint (h : f.Sorted kindOf) {k k' : ItemKind} (other : k ≠ k') :
    ∀ id ∈ f.inspected k, ∀ id' ∈ f.inspected k', id ≠ id' := by
  rintro id hk _ hk' rfl
  exact other ((h.kinds k id hk).symm.trans (h.kinds k' id hk'))

/-- In sorted lists, only what is both distant and inspected occurs twice. -/
theorem Sorted.once_iff (h : f.Sorted kindOf) :
    f.Once ↔ ∀ id ∈ f.distant, ∀ k, id ∉ f.inspected k := by
  simp only [Once, List.nodup_append, List.mem_append]
  constructor
  · rintro ⟨⟨⟨-, -, health⟩, -, food⟩, -, pistol⟩ id far k near
    cases k with
    | pistol => exact pistol id (.inl (.inl far)) id near rfl
    | health => exact health id far id near rfl
    | food => exact food id (.inl far) id near rfl
    | garbage => exact List.not_mem_nil (h.garbage ▸ near)
  · intro apart
    have differs (k : ItemKind) : ∀ id ∈ f.distant, ∀ id' ∈ f.inspected k, id ≠ id' := by
      rintro id far _ near rfl
      exact apart id far k near
    refine ⟨⟨⟨h.distant, h.inspected _, differs .health⟩, h.inspected _, ?_⟩, h.inspected _, ?_⟩
    · rintro id (far | near)
      · exact differs .food id far
      · exact h.disjoint (by decide) id near
    · rintro id ((far | near) | near)
      · exact differs .pistol id far
      · exact h.disjoint (by decide) id near
      · exact h.disjoint (by decide) id near

/-- Whether nothing but the given items has been dealt with. Items no longer seen from afar need
not be among them. -/
structure Handled (ids : List EntityId) (f f' : Finds) : Prop where
  distant : f'.distant.Sublist f.distant
  inspected : ∀ id ∉ ids, ∀ k, id ∈ f'.inspected k ↔ id ∈ f.inspected k

theorem Handled.refl (ids : List EntityId) (f : Finds) : Handled ids f f :=
  ⟨.refl _, fun _ _ _ => .rfl⟩

theorem Handled.trans {ids ids' : List EntityId} (h : Handled ids f f')
    (h' : Handled ids' f' f'') : Handled (ids ++ ids') f f'' where
  distant := h'.distant.trans h.distant
  inspected id other k := by
    rw [List.mem_append, not_or] at other
    exact (h'.inspected id other.2 k).trans (h.inspected id other.1 k)

end Finds

/-! ## Percepts -/

/-- Whether a percept shows an item from afar only, although it is remembered from inspection. -/
def Percept.Relists (percept : Percept) (f : Finds) : Prop :=
  ∃ i ∈ percept.distantItems, i.id ∉ percept.items.map Item.id ∧ ∃ k, i.id ∈ f.inspected k

/-- What a percept does to the lists. -/
structure Finds.Recorded (percept : Percept) (f f' : Finds) : Prop where
  /-- What is distant afterwards was not inspected now, and is not out of the blue. -/
  distant : ∀ id ∈ f'.distant, id ∉ percept.items.map Item.id ∧
    (id ∈ f.distant ∨ id ∈ percept.distantItems.map (·.id))
  inspected : ∀ id ∉ percept.items.map Item.id, ∀ k, id ∈ f'.inspected k → id ∈ f.inspected k
  /-- What is seen from afar is listed as distant and is not dropped from elsewhere. -/
  listed : ∀ i ∈ percept.distantItems, i.id ∉ percept.items.map Item.id →
    i.id ∈ f'.distant ∧ ∀ k, i.id ∈ f.inspected k → i.id ∈ f'.inspected k

/-- A frame that finds every item remembered once repeats one exactly if it relists one. -/
theorem Finds.Recorded.once_iff {kindOf : EntityId → ItemKind} {percept : Percept} {f f' : Finds}
    (h : Recorded percept f f') (before : f.Sorted kindOf) (after : f'.Sorted kindOf)
    (once : f.Once) : f'.Once ↔ ¬percept.Relists f := by
  rw [before.once_iff] at once
  rw [after.once_iff]
  constructor
  · rintro apart ⟨i, seen, distant, k, inspected⟩
    obtain ⟨far, kept⟩ := h.listed i seen distant
    exact apart i.id far k (kept k inspected)
  · intro none id far k inspected
    obtain ⟨distant, before | now⟩ := h.distant id far
    · exact once id before k (h.inspected id distant k inspected)
    · obtain ⟨i, seen, rfl⟩ := List.mem_map.1 now
      exact none ⟨i, seen, distant, k, h.inspected i.id distant k inspected⟩

/-! ## Changing a list -/

section Lists

variable {α : Type} {key : α → EntityId} {id : EntityId}

theorem mem_map_replace (new : α) (l : List α) :
    id ∈ (amend (key · == key new) (fun _ => new) new l).map key ↔ id ∈ l.map key ∨ id = key new :=
  mem_map_amend (fun _ => beq_iff_eq) fun _ same => (beq_iff_eq.1 same).symm

theorem nodup_map_replace (new : α) {l : List α} (h : (l.map key).Nodup) :
    ((amend (key · == key new) (fun _ => new) new l).map key).Nodup :=
  nodup_map_amend (fun _ => beq_iff_eq) (fun _ same => (beq_iff_eq.1 same).symm) h

theorem mem_map_filter {p : α → Bool} (kept : ∀ a, key a = id → p a) {l : List α} :
    id ∈ (l.filter p).map key ↔ id ∈ l.map key := by
  refine ⟨fun h => (List.filter_sublist.map key).subset h, fun h => ?_⟩
  obtain ⟨a, ha, rfl⟩ := List.mem_map.1 h
  exact List.mem_map_of_mem (List.mem_filter.2 ⟨ha, kept a rfl⟩)

theorem mem_map_filter_not (ids : List EntityId) (l : List α) :
    id ∈ (l.filter fun a => !ids.contains (key a)).map key ↔ id ∈ l.map key ∧ id ∉ ids := by
  simp only [List.mem_map, List.mem_filter, Bool.not_eq_true', List.contains_eq_mem,
    decide_eq_false_iff_not]
  constructor
  · rintro ⟨a, ⟨ha, other⟩, rfl⟩
    exact ⟨⟨a, ha, rfl⟩, other⟩
  · rintro ⟨⟨a, ha, rfl⟩, other⟩
    exact ⟨a, ⟨ha, other⟩, rfl⟩

end Lists

namespace Beliefs

/-- Where the agent remembers items. -/
def finds (b : Beliefs) : Finds where
  distant := b.knownItems.map (·.id)
  inspected
    | .pistol => b.knownPistols.map (·.id)
    | .health => b.knownHealthPacks.map (·.id)
    | .food => b.knownFoodItems.map (·.id)
    | .garbage => []

/-! ## Inspecting -/

section Inspecting

variable (b : Beliefs)

theorem handled_forget (id : EntityId) : Finds.Handled [id] b.finds (b.forget id).finds where
  distant := List.filter_sublist.map _
  inspected id' other k := by
    have kept {α : Type} (key : α → EntityId) (a : α) (same : key a = id') : key a != id :=
      bne_iff_ne.2 (same ▸ List.ne_of_not_mem_cons other)
    cases k with
    | pistol => exact mem_map_filter (kept Pistol.id)
    | health => exact mem_map_filter (kept HealthPack.id)
    | food => exact mem_map_filter (kept Food.id)
    | garbage => exact .rfl

/-- To remember an item changes the list of its kind at most. -/
theorem inspected_remember (item : Item) (k : ItemKind) :
    (b.remember item).finds.inspected k = b.finds.inspected k ∨ item.kind = k ∧
      (∀ id, id ∈ (b.remember item).finds.inspected k ↔
        id ∈ b.finds.inspected k ∨ id = item.id) ∧
      ((b.finds.inspected k).Nodup → ((b.remember item).finds.inspected k).Nodup) := by
  cases item with
  | pistol p =>
    cases k with
    | pistol => exact .inr ⟨rfl, fun _ => mem_map_replace p _, nodup_map_replace p⟩
    | health | food | garbage => exact .inl rfl
  | health pack =>
    cases k with
    | health => exact .inr ⟨rfl, fun _ => mem_map_replace pack _, nodup_map_replace pack⟩
    | pistol | food | garbage => exact .inl rfl
  | food f =>
    cases k with
    | food => exact .inr ⟨rfl, fun _ => mem_map_replace f _, nodup_map_replace f⟩
    | pistol | health | garbage => exact .inl rfl
  | garbage id => exact .inl rfl

theorem distant_remember (item : Item) : (b.remember item).finds.distant = b.finds.distant := by
  cases item <;> rfl

theorem handled_remember (item : Item) :
    Finds.Handled [item.id] b.finds (b.remember item).finds where
  distant := distant_remember b item ▸ .refl _
  inspected id other k := by
    rcases inspected_remember b item k with same | ⟨-, added, -⟩
    · rw [same]
    · rw [added, or_iff_left (List.ne_of_not_mem_cons other)]

variable {b} {kindOf : EntityId → ItemKind}

theorem sorted_forget (h : b.finds.Sorted kindOf) (id : EntityId) :
    (b.forget id).finds.Sorted kindOf := by
  refine h.sublist (List.filter_sublist.map _) fun k => ?_
  cases k with
  | pistol | health | food => exact List.filter_sublist.map _
  | garbage => exact .refl _

theorem sorted_remember (h : b.finds.Sorted kindOf) {item : Item}
    (kind : kindOf item.id = item.kind) : (b.remember item).finds.Sorted kindOf where
  distant := distant_remember b item ▸ h.distant
  inspected k := by
    rcases inspected_remember b item k with same | ⟨-, -, once⟩
    · exact same ▸ h.inspected k
    · exact once (h.inspected k)
  kinds k id hid := by
    rcases inspected_remember b item k with same | ⟨rfl, added, -⟩
    · exact h.kinds k id (same ▸ hid)
    · rcases (added id).1 hid with before | rfl
      · exact h.kinds _ id before
      · exact kind
  garbage := rfl

end Inspecting

end Beliefs

namespace Gathering

variable (config : Config) (host : Host η) (agent : Agent) (g : Gathering η)

/-- An inspected item is passed over, forgotten or remembered. -/
theorem finds_inspect (item : Item) :
    (g.inspect config host agent item).beliefs.finds = g.beliefs.finds ∨
      (g.inspect config host agent item).beliefs.finds = (g.beliefs.forget item.id).finds ∨
      (g.inspect config host agent item).beliefs.finds = (g.beliefs.remember item).finds := by
  unfold inspect
  split
  · exact .inl rfl
  · split
    · exact .inr (.inl rfl)
    · split
      · unfold collect
        dsimp only
        split
        · exact .inr (.inl rfl)
        · exact .inr (.inr (by cases item <;> rfl))
      · exact .inr (.inr rfl)

theorem handled_inspect (item : Item) : Finds.Handled [item.id] g.beliefs.finds
    (g.inspect config host agent item).beliefs.finds := by
  rcases finds_inspect config host agent g item with passed | forgotten | remembered
  · exact passed ▸ .refl _ _
  · exact forgotten ▸ g.beliefs.handled_forget item.id
  · exact remembered ▸ g.beliefs.handled_remember item

theorem handled_foldl_inspect (items : List Item) :
    Finds.Handled (items.map Item.id) g.beliefs.finds
      (items.foldl (inspect config host agent) g).beliefs.finds := by
  induction items generalizing g with
  | nil => exact .refl _ _
  | cons item items ih => exact (handled_inspect config host agent g item).trans (ih _)

variable {g} {kindOf : EntityId → ItemKind}

theorem sorted_inspect (h : g.beliefs.finds.Sorted kindOf) {item : Item}
    (kind : kindOf item.id = item.kind) :
    (g.inspect config host agent item).beliefs.finds.Sorted kindOf := by
  rcases finds_inspect config host agent g item with passed | forgotten | remembered
  · exact passed ▸ h
  · exact forgotten ▸ Beliefs.sorted_forget h item.id
  · exact remembered ▸ Beliefs.sorted_remember h kind

theorem sorted_foldl_inspect (h : g.beliefs.finds.Sorted kindOf) {items : List Item}
    (kinds : ∀ item ∈ items, kindOf item.id = item.kind) :
    (items.foldl (inspect config host agent) g).beliefs.finds.Sorted kindOf := by
  induction items generalizing g with
  | nil => exact h
  | cons item items ih =>
    rw [List.forall_mem_cons] at kinds
    exact ih (sorted_inspect config host agent h kinds.1) kinds.2

end Gathering

/-! ## Seen from afar, and vanished -/

namespace Beliefs

variable {b : Beliefs} {kindOf : EntityId → ItemKind} {id : EntityId}

theorem mem_distant_dropInspected {ids : List EntityId} :
    id ∈ (b.dropInspected ids).finds.distant ↔ id ∈ b.finds.distant ∧ id ∉ ids :=
  mem_map_filter_not ids b.knownItems

theorem mem_distant_spot {ids : List EntityId} {distant : List DistantItem} :
    id ∈ (b.spot ids distant).finds.distant ↔
      id ∈ b.finds.distant ∨ id ∈ distant.map (·.id) ∧ id ∉ ids := by
  have one (known : List DistantItem) (i : DistantItem) (id : EntityId) :
      id ∈ (amend (·.id == i.id) (fun k => k) i known).map (·.id) ↔
        id ∈ known.map (·.id) ∨ id = i.id :=
    mem_map_amend (fun _ => beq_iff_eq) fun _ _ => rfl
  exact (mem_map_foldl one _ b.knownItems).trans (or_congr_right (mem_map_filter_not ids distant))

theorem nodup_distant_spot (h : b.finds.distant.Nodup) (ids : List EntityId)
    (distant : List DistantItem) : (b.spot ids distant).finds.distant.Nodup := by
  have one (known : List DistantItem) (i : DistantItem) (once : (known.map (·.id)).Nodup) :
      ((amend (·.id == i.id) (fun k => k) i known).map (·.id)).Nodup :=
    nodup_map_amend (fun _ => beq_iff_eq) (fun _ _ => rfl) once
  exact List.foldlRecOn (motive := fun known => (known.map DistantItem.id).Nodup) _ _
    (b := b.knownItems) h fun known once i _ => one known i once

theorem sorted_spot (h : b.finds.Sorted kindOf) (ids : List EntityId)
    (distant : List DistantItem) : (b.spot ids distant).finds.Sorted kindOf :=
  ⟨nodup_distant_spot h.distant ids distant, h.inspected, h.kinds, h.garbage⟩

section DropVanished

variable (b) (agent : Agent) (seen : List EntityId)

theorem distant_dropVanished :
    (b.dropVanished agent seen).finds.distant.Sublist b.finds.distant :=
  List.filter_sublist.map _

theorem inspected_dropVanished (k : ItemKind) :
    ((b.dropVanished agent seen).finds.inspected k).Sublist (b.finds.inspected k) := by
  cases k with
  | pistol | health | food => exact List.filter_sublist.map _
  | garbage => exact .refl _

variable {seen}

/-- What is seen has not vanished. -/
theorem mem_dropVanished (h : id ∈ seen) :
    (id ∈ (b.dropVanished agent seen).finds.distant ↔ id ∈ b.finds.distant) ∧
      ∀ k, id ∈ (b.dropVanished agent seen).finds.inspected k ↔ id ∈ b.finds.inspected k := by
  have kept {α : Type} (key : α → EntityId) (place : α → Vec2) (a : α) (same : key a = id) :
      (!(decide ((place a).distance agent.position ≤ agent.grabRange) &&
        !seen.contains (key a))) = true := by
    rw [same, List.contains_iff_mem.2 h, Bool.not_true, Bool.and_false]
    rfl
  refine ⟨mem_map_filter (kept DistantItem.id DistantItem.position), fun k => ?_⟩
  cases k with
  | pistol => exact mem_map_filter (kept Pistol.id Pistol.position)
  | health => exact mem_map_filter (kept HealthPack.id HealthPack.position)
  | food => exact mem_map_filter (kept Food.id Food.position)
  | garbage => exact .rfl

end DropVanished

end Beliefs

/-! ## Frames -/

/-- Whether the inspected items of a percept are of the kind that their identities tell. -/
def Percept.Kinded (kindOf : EntityId → ItemKind) (percept : Percept) : Prop :=
  ∀ item ∈ percept.items, kindOf item.id = item.kind

namespace Gathering

variable {b : Beliefs} {kindOf : EntityId → ItemKind} {percept : Percept}

theorem recorded_ofPercept (config : Config) (host : Host η) (percept : Percept) (b : Beliefs)
    (world : η) : Finds.Recorded percept b.finds
      (ofPercept config host percept b world).beliefs.finds := by
  have handled := handled_foldl_inspect config host percept.agent
    ⟨b.dropInspected (percept.items.map Item.id), [], world⟩ percept.items
  unfold ofPercept
  dsimp only
  generalize percept.items.foldl (inspect config host percept.agent) _ = g at handled ⊢
  have untouched := handled.inspected
  constructor
  · intro id far
    have spotted := (Beliefs.distant_dropVanished _ _ _).subset far
    rcases Beliefs.mem_distant_spot.1 spotted with before | ⟨now, other⟩
    · obtain ⟨before, other⟩ := Beliefs.mem_distant_dropInspected.1 (handled.distant.subset before)
      exact ⟨other, .inl before⟩
    · exact ⟨other, .inr now⟩
  · intro id other k near
    exact (untouched id other k).1 ((Beliefs.inspected_dropVanished _ _ _ k).subset near)
  · intro i seen other
    have far := List.mem_map_of_mem (f := (·.id)) seen
    obtain ⟨distant, inspected⟩ := Beliefs.mem_dropVanished
      (g.beliefs.spot (percept.items.map Item.id) percept.distantItems) percept.agent
      (List.mem_append_right (percept.items.map Item.id) far)
    exact ⟨distant.2 (Beliefs.mem_distant_spot.2 (.inr ⟨far, other⟩)),
      fun k near => (inspected k).2 ((untouched i.id other k).2 near)⟩

theorem sorted_ofPercept (config : Config) (host : Host η) (kinded : percept.Kinded kindOf)
    (h : b.finds.Sorted kindOf) (world : η) :
    (ofPercept config host percept b world).beliefs.finds.Sorted kindOf := by
  have dropped : (b.dropInspected (percept.items.map Item.id)).finds.Sorted kindOf :=
    h.sublist (List.filter_sublist.map _) fun _ => .refl _
  have sorted := sorted_foldl_inspect config host percept.agent
    (g := ⟨b.dropInspected (percept.items.map Item.id), [], world⟩) dropped kinded
  exact (Beliefs.sorted_spot sorted _ _).sublist (Beliefs.distant_dropVanished _ _ _)
    (Beliefs.inspected_dropVanished _ _ _)

end Gathering

namespace Beliefs

theorem finds_prioritise (b : Beliefs) : b.prioritise.finds = b.finds := by
  have same : b.prioritise.unplanned.finds = b.unplanned.finds := by rw [unplanned_prioritise]
  exact same

theorem finds_act (host : Host η) (b : Beliefs) (world : η) :
    (b.act host world).beliefs.finds = b.finds := by
  have same : (b.act host world).beliefs.unacted.finds = b.unacted.finds := by rw [unacted_act]
  exact same

end Beliefs

section Turn

variable (config : Config) (host : Host η) (time : FrameTime) (percept : Percept) (b : Beliefs)
  (world : η)

/-- Only dealing with a percept's items changes where items are remembered. -/
theorem finds_turn : ∃ sighted : Beliefs, sighted.finds = b.finds ∧
    (turn config host time percept b world).done.beliefs.finds =
      (Gathering.ofPercept config host percept sighted world).beliefs.finds :=
  ⟨{ b with
      agentInfo := percept.agent
      knownEnemies := Enemy.merge time.dt b.knownEnemies percept.enemies },
    rfl, (Beliefs.finds_act host _ _).trans (Beliefs.finds_prioritise _)⟩

theorem recorded_turn : Finds.Recorded percept b.finds
    (turn config host time percept b world).done.beliefs.finds := by
  obtain ⟨sighted, same, dealt⟩ := finds_turn config host time percept b world
  rw [dealt, ← same]
  exact Gathering.recorded_ofPercept config host percept sighted world

variable {percept b}

theorem sorted_turn {kindOf : EntityId → ItemKind} (kinded : percept.Kinded kindOf)
    (h : b.finds.Sorted kindOf) :
    (turn config host time percept b world).done.beliefs.finds.Sorted kindOf := by
  obtain ⟨sighted, same, dealt⟩ := finds_turn config host time percept b world
  rw [dealt]
  exact Gathering.sorted_ofPercept config host kinded (same ▸ h) world

end Turn

/-! ## Sessions -/

/-- At the start nothing is remembered. -/
theorem Beliefs.finds_initial (config : Config) (agent : Agent) :
    (Beliefs.initial config agent).finds = ⟨[], fun _ => []⟩ := by
  refine congrArg (Finds.mk []) (funext fun k => ?_)
  cases k <;> rfl

theorem Beliefs.sorted_initial {kindOf : EntityId → ItemKind} (config : Config) (agent : Agent) :
    (Beliefs.initial config agent).finds.Sorted kindOf := by
  rw [finds_initial]
  exact ⟨List.nodup_nil, fun _ => List.nodup_nil, fun _ => nofun, rfl⟩

theorem Beliefs.once_initial (config : Config) (agent : Agent) :
    (Beliefs.initial config agent).finds.Once := by
  rw [finds_initial]
  exact List.nodup_nil

def Occurrence.Kinded (kindOf : EntityId → ItemKind) : Occurrence η → Prop
  | .frame _ percept => percept.Kinded kindOf
  | .softGoal _ | .drift _ => True

namespace Episode

variable (config : Config) (host : Host η) {kindOf : EntityId → ItemKind} {e : Episode η}

theorem sorted_step (h : e.beliefs.finds.Sorted kindOf) {o : Occurrence η}
    (kinded : o.Kinded kindOf) : (e.step config host o).beliefs.finds.Sorted kindOf := by
  cases o with
  | softGoal target => exact h
  | frame time percept => exact sorted_turn config host time e.world kinded h
  | drift change => exact h

/-- What an occurrence does to items that are remembered once. -/
theorem once_step (h : e.beliefs.finds.Sorted kindOf) (once : e.beliefs.finds.Once)
    {o : Occurrence η} (kinded : o.Kinded kindOf) :
    (e.step config host o).beliefs.finds.Once ↔
      ∀ time percept, o = .frame time percept → ¬percept.Relists e.beliefs.finds := by
  cases o with
  | softGoal target => exact iff_of_true once nofun
  | frame time percept =>
    have recorded := recorded_turn config host time percept e.beliefs e.world
    have after := sorted_turn config host time e.world kinded h
    refine (recorded.once_iff h after once).trans ⟨?_, fun none => none _ _ rfl⟩
    rintro none _ _ ⟨⟩
    exact none
  | drift change => exact iff_of_true once nofun

/-- An episode remembers items once for as long as nothing is relisted. -/
theorem once_run_iff (h : e.beliefs.finds.Sorted kindOf) (once : e.beliefs.finds.Once)
    {os : List (Occurrence η)} (kinded : ∀ o ∈ os, o.Kinded kindOf) :
    (∀ before, before <+: os → (e.run config host before).beliefs.finds.Once) ↔
      ∀ before time percept, before ++ [.frame time percept] <+: os →
        ¬percept.Relists (e.run config host before).beliefs.finds := by
  induction os generalizing e with
  | nil =>
    constructor
    · intro _ before time percept none
      cases List.append_eq_nil_iff.1 (List.prefix_nil.1 none) |>.2
    · intro _ before none
      cases List.prefix_nil.1 none
      exact once
  | cons o os ih =>
    rw [List.forall_mem_cons] at kinded
    have now := once_step config host h once kinded.1
    have later := ih (sorted_step config host h kinded.1)
    constructor
    · intro all
      have next := all [o] (List.prefix_append [o] os)
      intro before time percept
      cases before with
      | nil =>
        intro first
        exact now.1 next time percept (List.cons_prefix_cons.1 first).1.symm
      | cons o' before =>
        intro there
        obtain ⟨rfl, rest⟩ := List.cons_prefix_cons.1 there
        exact (later next kinded.2).1
          (fun before here => all (o' :: before) (List.cons_prefix_cons.2 ⟨rfl, here⟩)) before time
          percept rest
    · intro none
      have next := now.2 fun time percept first =>
        none [] time percept (first ▸ List.prefix_append [o] os)
      intro before here
      cases before with
      | nil => exact once
      | cons o' before =>
        obtain ⟨rfl, rest⟩ := List.cons_prefix_cons.1 here
        exact (later next kinded.2).2
          (fun before time percept there =>
            none (o' :: before) time percept (List.cons_prefix_cons.2 ⟨rfl, there⟩)) before rest

end Episode

/-- Sessions of the standard controller in which an identity always tells the same kind of item
remember every item once, exactly as long as no frame shows an item from afar only that is
remembered from inspection. -/
theorem remembered_once_iff (config : Config) (agent : Agent) (memory : μ) :
    ∃ c, Controller.standard config agent memory = .ok c ∧
      ∀ {η : Type} (host : Host η) (world : η) (kindOf : EntityId → ItemKind)
        (os : List (Occurrence η)), (∀ o ∈ os, o.Kinded kindOf) →
        let after (before : List (Occurrence η)) :=
          (Session.run host ⟨c, world, []⟩ before).controller.beliefs
        (∀ before, before <+: os → ∃ b, after before = .ok b ∧ b.finds.Once) ↔
          ∀ before time percept, before ++ [.frame time percept] <+: os →
            ∃ b, after before = .ok b ∧ ¬percept.Relists b.finds := by
  refine ⟨_, Controller.standard_eq config agent memory, fun host world kindOf os kinded => ?_⟩
  have held (before : List (Occurrence _)) :=
    (standard_session config agent memory host world before).holds.beliefs
  have runs := Episode.once_run_iff config host (e := .start config agent world)
    (Beliefs.sorted_initial config agent) (Beliefs.once_initial config agent) kinded
  simp only [held, Except.ok.injEq, exists_eq_left']
  exact runs

/-- A percept of a health pack out of reach. -/
def packInspected : Percept where
  items := [.health ⟨1, ⟨9, 0⟩, 3⟩]

/-- The same pack, seen from afar. -/
def packAfar : Percept where
  distantItems := [⟨1, ⟨9, 0⟩⟩]

/-- The pack is remembered once after a frame that inspects it. -/
theorem remembered_once_iff_packInspected :
    ∃ c b, Controller.standard {} {} () = .ok c ∧
      (Session.run granting ⟨c, (), []⟩ [.frame ⟨0, 1⟩ packInspected]).controller.beliefs = .ok b ∧
      b.finds.Once := by
  obtain ⟨c, made, runs⟩ := remembered_once_iff {} {} ()
  cases made.symm.trans (Controller.standard_eq {} {} ())
  have kinded : ∀ o ∈ [Occurrence.frame (η := Unit) ⟨0, 1⟩ packInspected],
      o.Kinded fun _ => .health :=
    List.forall_mem_singleton.2 (List.forall_mem_singleton.2 rfl)
  have fresh (before : List (Occurrence Unit)) (time : FrameTime) (percept : Percept)
      (first : before ++ [.frame time percept] <+: [.frame ⟨0, 1⟩ packInspected]) :
      before = [] ∧ percept = packInspected := by
    cases before with
    | nil =>
      cases (List.cons_prefix_cons.1 first).1
      exact ⟨rfl, rfl⟩
    | cons o before =>
      have none := List.prefix_nil.1 (List.cons_prefix_cons.1 first).2
      cases (List.append_eq_nil_iff.1 none).2
  obtain ⟨b, held, once⟩ := (runs granting () _ _ kinded).2 (fun before time percept first => by
    obtain ⟨rfl, rfl⟩ := fresh before time percept first
    refine ⟨_, (Controller.Holds.fresh {} {} ()).beliefs, ?_⟩
    rintro ⟨i, seen, -⟩
    cases seen) _ List.prefix_rfl
  exact ⟨_, b, made, held, once⟩

/-- It is remembered twice after a further frame that shows it from afar. -/
theorem pack_relisted :
    ∃ c b, Controller.standard {} {} () = .ok c ∧
      (Session.run granting ⟨c, (), []⟩
        [.frame ⟨0, 1⟩ packInspected, .frame ⟨1, 1⟩ packAfar]).controller.beliefs = .ok b ∧
      (∀ p ∈ [packInspected, packAfar], p.Kinded (fun _ => .health) ∧
        (p.items.map Item.id).Nodup ∧ (p.distantItems.map (·.id)).Nodup) ∧
      b.finds.distant = [1] ∧ b.finds.inspected .health = [1] ∧ ¬b.finds.Once := by
  have follows := standard_session {} {} () granting ()
    [.frame ⟨0, 1⟩ packInspected, .frame ⟨1, 1⟩ packAfar]
  refine ⟨_, _, Controller.standard_eq {} {} (), follows.holds.beliefs, ?_, ?_, ?_, ?_⟩
  · simp only [List.forall_mem_cons]
    refine ⟨⟨List.forall_mem_singleton.2 rfl, ?_⟩, ⟨nofun, ?_⟩, nofun⟩ <;> decide
  · decide +kernel
  · decide +kernel
  · rw [Finds.Once]
    decide +kernel

end Forager
