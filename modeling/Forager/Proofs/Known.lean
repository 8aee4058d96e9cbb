import Forager.Proofs.Finds

/-!
# What is known of items

The lists of known items, entry by entry: one of those seen from afar, and one for each kind of
those inspected. The operations on beliefs that remember and forget items are the same for every
kind once the entries are items. `Known.of` is what is known of one item, and each operation leaves
what is known of the others as it is.

* `known_forget`, `known_remember`, `known_dropVanished`: what the operations do to the lists.
* `of_keep`, `of_remember`, `of_spot`, `of_dropInspected`: other items are known as before.
* `of_forget_self`, `inspected_of_remember_self`: what becomes of the item itself.
* `find?_foldl_amend`, `distant_of_spot`: a sighted item is known from where it was first seen.
* `mem_distant_dropVanished`, `mem_inspected_dropVanished`: which entries have vanished.
-/
namespace Forager

/-! ## Reach -/

namespace Agent

/-- Whether a point lies within reach of the agent. -/
def reaches (agent : Agent) (p : Vec2) : Bool :=
  decide (p.distance agent.position ≤ agent.grabRange)

/-- Whether an item lies within reach of the agent. -/
def reachesItem (agent : Agent) (item : Item) : Bool := item.position?.any agent.reaches

/-- Whether the agent tries to pick an item up. -/
def collects (agent : Agent) (item : Item) : Bool := item.isUseful && agent.reachesItem item

end Agent

theorem Item.ne_garbage_of_isUseful {item : Item} (useful : item.isUseful) :
    item.kind ≠ .garbage := by
  cases item with
  | pistol | health | food => nofun
  | garbage id => cases useful

/-! ## What is known -/

/-- What is known of items: of those seen from afar, and of those inspected, by kind. -/
@[ext] structure Known where
  distant : List DistantItem
  inspected : ItemKind → List Item

namespace Known

/-- What is known of one item. -/
def of (k : Known) (id : EntityId) : Known where
  distant := k.distant.filter (·.id == id)
  inspected kind := (k.inspected kind).filter (·.id == id)

/-- Whether nothing is known of an item. -/
structure Lacks (k : Known) (id : EntityId) : Prop where
  distant : ∀ i ∈ k.distant, i.id ≠ id
  inspected : ∀ kind, ∀ item ∈ k.inspected kind, item.id ≠ id

/-- Whether no list has two entries for an item. -/
structure Tidy (k : Known) : Prop where
  distant : (k.distant.map (·.id)).Nodup
  inspected : ∀ kind, ((k.inspected kind).map Item.id).Nodup

/-! ### Operations -/

/-- What is left when only some entries are kept. -/
def keep (k : Known) (far : DistantItem → Bool) (near : Item → Bool) : Known where
  distant := k.distant.filter far
  inspected kind := (k.inspected kind).filter near

def forget (k : Known) (id : EntityId) : Known := k.keep (·.id != id) (·.id != id)

def remember (k : Known) (item : Item) : Known where
  distant := k.distant
  inspected kind :=
    if item.kind = kind then amend (·.id == item.id) (fun _ => item) item (k.inspected kind)
    else k.inspected kind

def dropVanished (k : Known) (agent : Agent) (seen : List EntityId) : Known :=
  k.keep (fun i => !(agent.reaches i.position && !seen.contains i.id))
    fun item => !(agent.reachesItem item && !seen.contains item.id)

end Known

/-! ## Lists with distinct keys -/

section Keys

variable {α : Type} {key : α → EntityId} {l : List α}

theorem filter_eq_singleton (once : (l.map key).Nodup) {a : α} (ha : a ∈ l) :
    l.filter (key · == key a) = [a] := by
  induction l with
  | nil => cases ha
  | cons b l ih =>
    rw [List.map_cons, List.nodup_cons] at once
    rw [List.filter_cons]
    rcases List.mem_cons.1 ha with rfl | ha
    · rw [if_pos (beq_self_eq_true (key a))]
      congr 1
      refine List.filter_eq_nil_iff.2 fun c hc same => once.1 ?_
      exact List.mem_map.2 ⟨c, hc, beq_iff_eq.1 same⟩
    · have other : ¬(key b == key a) = true := by
        intro same
        exact once.1 (beq_iff_eq.1 same ▸ List.mem_map_of_mem ha)
      rw [if_neg other, ih once.2 ha]

theorem filter_eq_toList_find? (once : (l.map key).Nodup) (id : EntityId) :
    l.filter (key · == id) = (l.find? (key · == id)).toList := by
  cases found : l.find? (key · == id) with
  | none => exact List.filter_eq_nil_iff.2 (List.find?_eq_none.1 found)
  | some a =>
    have own : (key a == id) = true := List.find?_some (p := (key · == id)) found
    rw [← beq_iff_eq.1 own]
    exact filter_eq_singleton once (List.mem_of_find?_eq_some found)

theorem filter_filter_of_key {p : α → Bool} {id : EntityId} (kept : ∀ a, key a = id → p a) :
    (l.filter p).filter (key · == id) = l.filter (key · == id) := by
  rw [List.filter_filter]
  refine List.filter_congr fun a _ => ?_
  by_cases own : key a = id
  · simp [own, kept a own]
  · simp [own]

theorem filter_filter_of_not_key {p : α → Bool} {id : EntityId}
    (dropped : ∀ a, key a = id → p a = false) : (l.filter p).filter (key · == id) = [] := by
  rw [List.filter_filter, List.filter_eq_nil_iff]
  intro a _
  by_cases own : key a = id
  · simp [dropped a own]
  · simp [own]

/-- To replace an entry is to replace the item it makes. -/
theorem map_replace {make : α → Item} (own : ∀ a, (make a).id = key a) (new : α) (l : List α) :
    (amend (key · == key new) (fun _ => new) new l).map make =
      amend (·.id == (make new).id) (fun _ => make new) (make new) (l.map make) := by
  apply map_amend_eq
  · intro a
    rw [own, own]
  · intro a
    rfl

end Keys

/-- Of items noted as they are met, each once, the one met first is noted. -/
theorem find?_foldl_amend (k : EntityId) (met known : List DistantItem) :
    (met.foldl (fun known i => amend (·.id == i.id) id i known) known).find? (·.id == k) =
      (known ++ met).find? (·.id == k) := by
  have one (known : List DistantItem) (i : DistantItem) :
      (amend (·.id == i.id) id i known).find? (·.id == k) =
        (known ++ [i]).find? (·.id == k) := by
    rw [amend_id]
    split
    · rename_i noted
      obtain ⟨j, hj, same⟩ := List.any_eq_true.1 noted
      rw [List.find?_append]
      by_cases own : i.id = k
      · have there : (known.find? (·.id == k)).isSome := by
          rw [List.find?_isSome]
          exact ⟨j, hj, own ▸ same⟩
        rw [Option.or_of_isSome there]
      · simp [own]
    · rfl
  induction met generalizing known with
  | nil => rw [List.foldl_nil, List.append_nil]
  | cons i met ih =>
    rw [List.foldl_cons, ih, List.find?_append, one, ← List.find?_append, List.append_assoc]
    rfl

/-! ## Knowing of one item -/

namespace Known

variable {k : Known} {id : EntityId}

theorem mem_distant_of {i : DistantItem} : i ∈ (k.of i.id).distant ↔ i ∈ k.distant := by
  simp [of]

theorem mem_inspected_of {kind : ItemKind} {item : Item} :
    item ∈ (k.of item.id).inspected kind ↔ item ∈ k.inspected kind := by
  simp [of]

theorem inspected_of_eq_nil_iff {kind : ItemKind} :
    (k.of id).inspected kind = [] ↔ ∀ item ∈ k.inspected kind, item.id ≠ id := by
  simp only [of, List.filter_eq_nil_iff, beq_iff_eq, ne_eq]

theorem lacks_iff : k.Lacks id ↔ k.of id = ⟨[], fun _ => []⟩ := by
  constructor
  · intro lacks
    refine Known.ext ?_ (funext fun kind => inspected_of_eq_nil_iff.2 (lacks.inspected kind))
    exact List.filter_eq_nil_iff.2 fun i hi own => lacks.distant i hi (beq_iff_eq.1 own)
  · intro none
    refine ⟨?_, fun kind => inspected_of_eq_nil_iff.1 (by rw [none])⟩
    rintro i hi rfl
    rw [← mem_distant_of, none] at hi
    cases hi

/-! ### Keeping and forgetting -/

section Keep

variable {far : DistantItem → Bool} {near : Item → Bool}

theorem of_keep (keepsFar : ∀ i, i.id = id → far i) (keepsNear : ∀ item, item.id = id → near item) :
    (k.keep far near).of id = k.of id :=
  Known.ext (filter_filter_of_key keepsFar) (funext fun _ => filter_filter_of_key keepsNear)

theorem Tidy.keep (tidy : k.Tidy) (far : DistantItem → Bool) (near : Item → Bool) :
    (k.keep far near).Tidy where
  distant := tidy.distant.sublist (List.filter_sublist.map _)
  inspected kind := (tidy.inspected kind).sublist (List.filter_sublist.map _)

end Keep

theorem of_forget_self (k : Known) (id : EntityId) : (k.forget id).of id = ⟨[], fun _ => []⟩ := by
  refine Known.ext ?_ (funext fun kind => ?_)
  · exact filter_filter_of_not_key fun i own => by simp [own]
  · exact filter_filter_of_not_key fun item own => by simp [own]

theorem of_forget {other : EntityId} (apart : id ≠ other) : (k.forget other).of id = k.of id := by
  apply of_keep
  · intro i own
    simp [own, apart]
  · intro item own
    simp [own, apart]

/-! ### Remembering -/

/-- An item that is remembered has one entry of its kind, as it was inspected. -/
theorem inspected_of_remember_self (tidy : k.Tidy) (item : Item) :
    ((k.remember item).of item.id).inspected item.kind = [item] := by
  simp only [of, remember, if_true]
  exact filter_eq_singleton (nodup_map_replace item (tidy.inspected item.kind)) mem_amend_self

theorem of_remember {item : Item} (apart : id ≠ item.id) : (k.remember item).of id = k.of id := by
  refine Known.ext rfl (funext fun kind => ?_)
  simp only [of, remember]
  split
  · refine filter_amend (fun other same => ?_) ?_
    · have own : other.id = item.id := beq_iff_eq.1 same
      simp [own, Ne.symm apart]
    · simp [Ne.symm apart]
  · rfl

theorem Tidy.remember (tidy : k.Tidy) (item : Item) : (k.remember item).Tidy where
  distant := tidy.distant
  inspected kind := by
    simp only [Known.remember]
    split
    · exact nodup_map_replace item (tidy.inspected kind)
    · exact tidy.inspected kind

theorem mem_inspected_forget {kind : ItemKind} {item : Item} :
    item ∈ (k.forget id).inspected kind ↔ item ∈ k.inspected kind ∧ item.id ≠ id := by
  simp only [forget, keep, List.mem_filter, bne_iff_ne]

theorem mem_of_mem_inspected_remember {kind : ItemKind} {item new : Item}
    (there : item ∈ (k.remember new).inspected kind) : item ∈ k.inspected kind ∨ item = new := by
  simp only [remember] at there
  split at there
  · exact mem_or_eq_of_mem_amend there
  · exact .inl there

/-! ### Vanished items -/

variable {agent : Agent} {seen : List EntityId}

theorem of_dropVanished (hid : id ∈ seen) : (k.dropVanished agent seen).of id = k.of id := by
  apply of_keep
  · intro i own
    simp [own, hid]
  · intro item own
    simp [own, hid]

theorem mem_distant_dropVanished {i : DistantItem} :
    i ∈ (k.dropVanished agent seen).distant ↔
      i ∈ k.distant ∧ (i.id ∈ seen ∨ ¬agent.reaches i.position) := by
  simp only [dropVanished, keep, List.mem_filter]
  grind

theorem mem_inspected_dropVanished {kind : ItemKind} {item : Item} :
    item ∈ (k.dropVanished agent seen).inspected kind ↔
      item ∈ k.inspected kind ∧ (item.id ∈ seen ∨ ¬agent.reachesItem item) := by
  simp only [dropVanished, keep, List.mem_filter]
  grind

end Known

/-! ## What the beliefs say -/

namespace Beliefs

/-- What the agent knows of items. -/
def known (b : Beliefs) : Known where
  distant := b.knownItems
  inspected
    | .pistol => b.knownPistols.map .pistol
    | .health => b.knownHealthPacks.map .health
    | .food => b.knownFoodItems.map .food
    | .garbage => []

theorem known_forget (b : Beliefs) (id : EntityId) : (b.forget id).known = b.known.forget id := by
  refine Known.ext rfl (funext fun kind => ?_)
  cases kind with
  | pistol | health | food =>
    simp only [known, forget, Known.forget, Known.keep, List.filter_map]
    rfl
  | garbage => rfl

theorem known_remember (b : Beliefs) {item : Item} (kind : item.kind ≠ .garbage) :
    (b.remember item).known = b.known.remember item := by
  refine Known.ext ?_ (funext fun other => ?_)
  · cases item <;> rfl
  · simp only [Known.remember]
    split
    · rename_i same
      cases item with
      | pistol p =>
        cases same
        exact map_replace (fun _ => rfl) p b.knownPistols
      | health pack =>
        cases same
        exact map_replace (fun _ => rfl) pack b.knownHealthPacks
      | food f =>
        cases same
        exact map_replace (fun _ => rfl) f b.knownFoodItems
      | garbage => exact absurd rfl kind
    · -- The lists of the other kinds stay.
      rename_i differs
      cases item <;> cases other <;> first | rfl | exact absurd rfl differs

theorem known_dropVanished (b : Beliefs) (agent : Agent) (seen : List EntityId) :
    (b.dropVanished agent seen).known = b.known.dropVanished agent seen := by
  refine Known.ext rfl (funext fun kind => ?_)
  cases kind with
  | pistol | health | food =>
    simp only [known, dropVanished, Known.dropVanished, Known.keep, List.filter_map]
    rfl
  | garbage => rfl

/-! ### Items seen from afar -/

section Afar

variable {b : Beliefs} {ids : List EntityId} {distant : List DistantItem} {id : EntityId}

/-- Where no entry is added for an item, it is known as before. -/
theorem of_spot (other : ∀ i ∈ distant, i.id ∉ ids → i.id ≠ id) :
    (b.spot ids distant).known.of id = b.known.of id := by
  refine Known.ext ?_ rfl
  refine List.foldlRecOn
    (motive := fun known : List DistantItem =>
      known.filter (·.id == id) = b.knownItems.filter (·.id == id))
    _ _ rfl fun known same i hi => ?_
  obtain ⟨met, uninspected⟩ := List.mem_filter.1 hi
  have apart : i.id ≠ id := other i met (by simpa using uninspected)
  rw [← same]
  refine filter_amend (fun j own => ?_) (by simp [apart])
  have own : j.id = i.id := beq_iff_eq.1 own
  simp [own, apart]

theorem mem_distant_spot_of_mem {i : DistantItem} (known : i ∈ b.known.distant) :
    i ∈ (b.spot ids distant).known.distant := by
  refine List.foldlRecOn (motive := fun known : List DistantItem => i ∈ known) _ _ known ?_
  intro known there j _
  rw [amend_id]
  split
  · exact there
  · exact List.mem_append_left [j] there

/-- What is seen from afar and not inspected is known from where it was first seen. -/
theorem distant_of_spot (tidy : b.known.Tidy) (uninspected : id ∉ ids) :
    ((b.spot ids distant).known.of id).distant =
      ((b.known.distant ++ distant).find? (·.id == id)).toList := by
  have once : ((b.spot ids distant).known.distant.map (·.id)).Nodup :=
    nodup_distant_spot tidy.distant ids distant
  have first : (distant.filter fun i => !ids.contains i.id).find? (·.id == id) =
      distant.find? (·.id == id) := by
    rw [List.find?_filter]
    congr 1
    funext i
    by_cases own : i.id = id
    · simp [own, uninspected]
    · simp [own]
  refine (filter_eq_toList_find? once id).trans (congrArg Option.toList ?_)
  rw [List.find?_append, ← first, ← List.find?_append]
  exact find?_foldl_amend id _ b.knownItems

theorem tidy_spot (tidy : b.known.Tidy) (ids : List EntityId) (distant : List DistantItem) :
    (b.spot ids distant).known.Tidy :=
  ⟨nodup_distant_spot tidy.distant ids distant, tidy.inspected⟩

theorem tidy_dropInspected (tidy : b.known.Tidy) (ids : List EntityId) :
    (b.dropInspected ids).known.Tidy :=
  ⟨tidy.distant.sublist (List.filter_sublist.map _), tidy.inspected⟩

theorem of_dropInspected (uninspected : id ∉ ids) :
    (b.dropInspected ids).known.of id = b.known.of id :=
  Known.ext (filter_filter_of_key fun i own => by simp [own, uninspected]) rfl

theorem distant_of_dropInspected (inspected : id ∈ ids) :
    ((b.dropInspected ids).known.of id).distant = [] :=
  filter_filter_of_not_key fun i own => by simp [own, inspected]

end Afar
end Beliefs

end Forager
