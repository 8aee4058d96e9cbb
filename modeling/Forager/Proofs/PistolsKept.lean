import Forager.Proofs.Contents
import Forager.Proofs.Pickups
import Forager.Proofs.Signs

/-!
# Which pistols are kept

An agent that finds one pistol after another keeps the most valuable ones. Each pickup compares only
with the weakest pistol held, ties are refused, and the slot of a pistol dropped is free again; over
a whole run this comes to keeping the largest of all values, in whatever order the pistols come. It
needs a host that hands over what is asked for, as many slots as pistols are kept, and values that
can be compared.

* `Largest`: the `k` largest elements; `Largest.unique`: there is but one such choice.
* `tryPickUp_pistol`: a pistol is stored, refused, or takes the place of the weakest.
* `largest_tryPickUp`, `others_tryPickUp`: what one pickup does to the values and other items.
* `keeps_most_valuable`: what a run of pickups keeps.
-/
namespace Forager

variable {η : Type}

/-! ## The largest elements -/

section Largest

variable {α : Type} [LE α] {k : Nat} {kept kept' all : Multiset α} {v w : α}

/-- Whether `kept` are `k` elements of `all`, or all if there are fewer, and what is left out
exceeds none of them. -/
structure Largest (k : Nat) (kept all : Multiset α) : Prop where
  card : kept.card = min k all.card
  exists_rest : ∃ rest, all = kept + rest ∧ ∀ x ∈ kept, ∀ y ∈ rest, y ≤ x

namespace Largest

theorem of_card_le (few : kept.card ≤ k) : Largest k kept kept where
  card := (min_eq_right few).symm
  exists_rest := ⟨0, (add_zero kept).symm, fun _ _ _ hy => absurd hy (Multiset.notMem_zero _)⟩

theorem eq_of_card_lt (h : Largest k kept all) (less : kept.card < k) : all = kept := by
  obtain ⟨rest, rfl, -⟩ := h.exists_rest
  have card := h.card
  rw [Multiset.card_add] at card
  have none : rest.card = 0 := by omega
  rw [Multiset.card_eq_zero.1 none, add_zero]

theorem store (h : Largest k kept all) (less : kept.card < k) (v : α) :
    Largest k (v ::ₘ kept) (v ::ₘ all) := by
  rw [h.eq_of_card_lt less]
  refine of_card_le ?_
  rw [Multiset.card_cons]
  exact less

theorem refuse (h : Largest k kept all) (full : k ≤ kept.card) (least : ∀ x ∈ kept, v ≤ x) :
    Largest k kept (v ::ₘ all) := by
  obtain ⟨rest, split, above⟩ := h.exists_rest
  refine ⟨?_, v ::ₘ rest, by rw [split, Multiset.add_cons], fun x hx y hy => ?_⟩
  · have card := h.card
    rw [Multiset.card_cons]
    omega
  · rcases Multiset.mem_cons.1 hy with rfl | hy
    · exact least x hx
    · exact above x hx y hy

theorem swap (h : Largest k (w ::ₘ kept) all) (trans : ∀ a b c : α, a ≤ b → b ≤ c → a ≤ c)
    (full : k ≤ (w ::ₘ kept).card) (least : ∀ x ∈ kept, w ≤ x) (better : w ≤ v) :
    Largest k (v ::ₘ kept) (v ::ₘ all) := by
  obtain ⟨rest, split, above⟩ := h.exists_rest
  refine ⟨?_, w ::ₘ rest, ?_, fun x hx y hy => ?_⟩
  · have card := h.card
    rw [Multiset.card_cons] at card full ⊢
    rw [Multiset.card_cons]
    omega
  · rw [split, Multiset.add_cons, Multiset.cons_add, Multiset.cons_add, Multiset.cons_swap]
  · have least' : w ≤ x := by
      rcases Multiset.mem_cons.1 hx with rfl | hx
      · exact better
      · exact least x hx
    rcases Multiset.mem_cons.1 hy with rfl | hy
    · exact least'
    · exact trans _ _ _ (above w (Multiset.mem_cons_self w kept) y hy) least'

section Unique

variable [DecidableEq α]

omit [LE α] in
theorem exists_count_lt (card : kept'.card = kept.card) (differ : kept ≠ kept') :
    ∃ x, kept'.count x < kept.count x := by
  by_contra none
  have le : kept ≤ kept' := Multiset.le_iff_count.2 fun x => not_lt.1 fun more => none ⟨x, more⟩
  exact differ (Multiset.eq_of_le_of_card_le le card.le)

/-- In an order there is but one choice of the largest elements. -/
theorem unique (h : Largest k kept all) (h' : Largest k kept' all)
    (antisymm : ∀ x ∈ all, ∀ y ∈ all, x ≤ y → y ≤ x → x = y) : kept = kept' := by
  obtain ⟨rest, split, above⟩ := h.exists_rest
  obtain ⟨rest', split', above'⟩ := h'.exists_rest
  have card : kept'.card = kept.card := h'.card.trans h.card.symm
  have balance (x : α) : kept.count x + rest.count x = kept'.count x + rest'.count x := by
    rw [← Multiset.count_add, ← Multiset.count_add, ← split, ← split']
  by_contra differ
  -- Two choices that differ each hold an element that the other leaves out, so the two are equal.
  obtain ⟨x, more⟩ := exists_count_lt card differ
  obtain ⟨x', more'⟩ := exists_count_lt card.symm (Ne.symm differ)
  have hx : x ∈ kept := Multiset.count_pos.1 (Nat.zero_lt_of_lt more)
  have hx' : x' ∈ kept' := Multiset.count_pos.1 (Nat.zero_lt_of_lt more')
  have out : x ∈ rest' := Multiset.count_pos.1 (by have := balance x; omega)
  have out' : x' ∈ rest := Multiset.count_pos.1 (by have := balance x'; omega)
  have among : x ∈ all := split ▸ Multiset.mem_add.2 (.inl hx)
  have among' : x' ∈ all := split' ▸ Multiset.mem_add.2 (.inl hx')
  cases antisymm x among x' among' (above' x' hx' x out) (above x hx x' out')
  omega

end Unique
end Largest
end Largest

/-! ## Values -/

/-- A value has no minus sign: it is zero, or the sum of positive amounts. -/
theorem Pistol.unsigned_value (p : Pistol) : Single.Unsigned p.value := by
  rw [value]
  split
  · exact (rfl : Single.Unsigned 0)
  · rename_i worth
    rw [not_or, not_or] at worth
    obtain ⟨-, dps, range⟩ := worth
    have half : Single.Unsigned 0.5 := rfl
    have two : Single.Unsigned 2 := rfl
    exact ((Single.unsigned_of_not_le dps).add ((Single.unsigned_of_not_le range).mul half)).add
      ((Single.unsigned_toFloat32 p.ammo).mul two)

namespace Inventory

/-- The values of the pistols held. -/
def values (inv : Inventory) : Multiset Float32 := inv.pistols.map (·.2.value)

/-- One for an item that is no pistol. -/
def otherWeight (item : Item) : Nat := if item.kind = .pistol then 0 else 1

/-- How many items are held that are no pistols. -/
def others (inv : Inventory) : Nat := inv.total otherWeight

variable {inv : Inventory} {slot : Nat} {p : Pistol} {value : Float32}

theorem mem_values_iff : value ∈ inv.values ↔
    ∃ (slot : Nat) (p : Pistol), inv.slots[slot]? = some (some (.pistol p)) ∧ p.value = value := by
  rw [values, Multiset.mem_coe, List.mem_map]
  constructor
  · rintro ⟨⟨slot, p⟩, held, rfl⟩
    exact ⟨slot, p, mem_pistols_iff.1 held, rfl⟩
  · rintro ⟨slot, p, held, rfl⟩
    exact ⟨(slot, p), mem_pistols_iff.2 held, rfl⟩

theorem values_eq_filterMap (inv : Inventory) :
    inv.values = inv.items.filterMap fun s => s.2.pistol?.map Pistol.value := by
  rw [values, pistols, List.map_filterMap]
  simp only [Option.map_map, Function.comp_def]

theorem count_values (inv : Inventory) (value : Float32) : inv.values.count value =
    inv.total fun item => if item.pistol?.map Pistol.value = some value then 1 else 0 := by
  have counted := inv.countP_items_eq_total fun item =>
    decide (item.pistol?.map Pistol.value = some value)
  simp only [decide_eq_true_eq] at counted
  rw [← counted, values_eq_filterMap, Multiset.count, Multiset.coe_countP, List.countP_filterMap]
  refine List.countP_congr fun s _ => ?_
  cases s.2.pistol?.map Pistol.value with
  | none => simp
  | some v => simp [eq_comm]

theorem card_values (inv : Inventory) : inv.values.card = inv.count .pistol := by
  rw [values_eq_filterMap, Multiset.coe_card, List.length_filterMap_eq_countP, count]
  refine List.countP_congr fun s _ => ?_
  cases s.2 <;> simp [Item.pistol?, Item.kind]

theorem count_add_others (inv : Inventory) : inv.count .pistol + inv.others = inv.items.length := by
  rw [count_eq_total, others, length_items_eq_total, total, total, total, ← List.sum_map_add]
  congr 2
  funext s
  rw [otherWeight]
  split <;> rfl

theorem values_put (vacant : inv.slots[slot]? = some none) (p : Pistol) :
    (inv.put slot (.pistol p)).values = p.value ::ₘ inv.values := by
  refine Multiset.ext.2 fun value => ?_
  rw [count_values, total_put _ vacant, Multiset.count_cons, count_values]
  simp only [Item.pistol?, Option.map_some, Option.some_inj, eq_comm]

theorem values_clear (held : inv.slots[slot]? = some (some (.pistol p))) :
    inv.values = p.value ::ₘ (inv.clear slot).values := by
  refine Multiset.ext.2 fun value => ?_
  rw [count_values, ← total_clear _ held, Multiset.count_cons, count_values]
  simp only [Item.pistol?, Option.map_some, Option.some_inj, eq_comm]

/-- The weakest pistol is worth no more than any other, where values can be compared. -/
theorem worstPistol?_le (numbers : ∀ value ∈ inv.values, value.isNaN = false)
    (h : inv.worstPistol? = some (slot, value)) : ∀ value' ∈ inv.values, value ≤ value' := by
  intro value' hm
  obtain ⟨slot', p', held, rfl⟩ := mem_values_iff.1 hm
  have all : ∀ s ∈ inv.pistols.map fun s => (s.1, s.2.value), s.2.isNaN = false := by
    intro s hs
    obtain ⟨t, ht, rfl⟩ := List.mem_map.1 hs
    exact numbers _ (mem_values_iff.2 ⟨t.1, t.2, mem_pistols_iff.1 ht, rfl⟩)
  have least := keeps_of_choose (S := fun s : Nat × Float32 => s.2.isNaN = false)
    (fun s t hs ht => (Single.le_total hs ht).imp decide_eq_true decide_eq_true)
    (fun _ _ _ hst htu =>
      decide_eq_true (Single.le_trans (of_decide_eq_true hst) (of_decide_eq_true htu))) all h
  exact of_decide_eq_true
    (least (slot', p'.value) (List.mem_map.2 ⟨(slot', p'), mem_pistols_iff.2 held, rfl⟩))

/-! ## One pickup -/

/-- Whether there is room for as many pistols as are kept, and the pistols can be compared. -/
structure Roomy (config : Config) (inv : Inventory) : Prop where
  within : inv.count .pistol ≤ config.maxPistols
  spare : inv.others + config.maxPistols ≤ inv.capacity
  numbers : ∀ value ∈ inv.values, value.isNaN = false

/-- What offering a pistol may come to. -/
inductive Offered (config : Config) (p : Pistol) (inv : Inventory) : Inventory → Prop where
  | stored {slot : Nat} (below : inv.count .pistol < config.maxPistols)
    (vacant : inv.slots[slot]? = some none) : Offered config p inv (inv.put slot (.pistol p))
  | refused (full : config.maxPistols ≤ inv.count .pistol)
    (least : ∀ value ∈ inv.values, p.value ≤ value) : Offered config p inv inv
  | swapped {slot free : Nat} {q : Pistol} (full : config.maxPistols ≤ inv.count .pistol)
    (held : inv.slots[slot]? = some (some (.pistol q)))
    (weakest : ∀ value ∈ inv.values, q.value ≤ value) (better : q.value ≤ p.value)
    (vacant : (inv.clear slot).slots[free]? = some none) :
    Offered config p inv ((inv.clear slot).put free (.pistol p))

section Offer

variable {config : Config} {host : Host η} {inv inv' : Inventory} {p : Pistol}

theorem Roomy.exists_firstEmpty? (h : inv.Roomy config)
    (below : inv.count .pistol < config.maxPistols) : ∃ slot, inv.firstEmpty? = some slot := by
  rw [← Option.isSome_iff_exists, ← hasSpace_eq_isSome_firstEmpty?, hasSpace_iff]
  have items := inv.count_add_others
  have spare := h.spare
  omega

/-- A willing host stores a pistol, or the pistol is no better than any held, or it takes the place
of the weakest. -/
theorem offered_tryPickUp (h : inv.Roomy config) (number : p.value.isNaN = false)
    (willing : host.Willing) (w : η) :
    Offered config p inv (inv.tryPickUp config host (.pistol p) w).inventory := by
  by_cases full : config.maxPistols ≤ inv.count .pistol
  · cases weakest : inv.worstPistol? with
    | none =>
      have barred : inv.makeRoom config host (.pistol p) w = none := by
        simp only [makeRoom, if_pos full, weakest]
      have unarmed : inv.pistols = [] := List.map_eq_nil_iff.1 (choose_eq_none_iff.1 weakest)
      have none : inv.values = 0 := by rw [values, unarmed]; rfl
      simp only [tryPickUp, barred]
      exact .refused full fun value hm => absurd (none ▸ hm) (Multiset.notMem_zero value)
    | some worst =>
      obtain ⟨slot, value⟩ := worst
      obtain ⟨q, held, rfl⟩ := worstPistol?_spec weakest
      have least := worstPistol?_le h.numbers weakest
      by_cases worse : p.value ≤ q.value
      · have barred : inv.makeRoom config host (.pistol p) w = none := by
          simp only [makeRoom, if_pos full, weakest, if_pos worse]
        simp only [tryPickUp, barred]
        exact .refused full fun value hm => Single.le_trans worse (least value hm)
      · have number' := h.numbers q.value (mem_values_iff.2 ⟨slot, q, held, rfl⟩)
        have better := (Single.le_total number' number).resolve_right worse
        obtain ⟨free, empty⟩ := Option.isSome_iff_exists.1
          (isSome_firstEmpty?_clear (List.getElem?_eq_some_iff.1 held).1)
        rw [tryPickUp_of_willing willing (makeRoom_of_displaces (.pistol full weakest worse)) empty]
        exact .swapped full held least better (firstEmpty?_spec empty)
  · have below := Nat.lt_of_not_le full
    obtain ⟨slot, empty⟩ := h.exists_firstEmpty? below
    rw [tryPickUp_of_willing willing (makeRoom_of_below below) empty]
    exact .stored below (firstEmpty?_spec empty)

/-! ### What an offer keeps -/

theorem others_put {slot : Nat} (vacant : inv.slots[slot]? = some none) (p : Pistol) :
    (inv.put slot (.pistol p)).others = inv.others :=
  total_put otherWeight vacant (.pistol p)

theorem others_clear {slot : Nat} (held : inv.slots[slot]? = some (some (.pistol p))) :
    (inv.clear slot).others = inv.others :=
  total_clear otherWeight held

namespace Offered

variable {all : Multiset Float32}

/-- The most valuable of all pistols so far are held before and after. -/
theorem largest (h : Offered config p inv inv')
    (most : Largest config.maxPistols inv.values all) :
    Largest config.maxPistols inv'.values (p.value ::ₘ all) := by
  cases h with
  | stored below vacant =>
    rw [values_put vacant]
    exact most.store (inv.card_values ▸ below) p.value
  | refused full least => exact most.refuse (inv.card_values ▸ full) least
  | swapped full held weakest better vacant =>
    have split := values_clear held
    rw [← inv.card_values, split] at full
    rw [split] at most weakest
    rw [values_put vacant]
    exact most.swap (fun _ _ _ => Single.le_trans) full
      (fun value hm => weakest value (Multiset.mem_cons_of_mem hm)) better

theorem roomy (h : Offered config p inv inv') (ok : inv.Roomy config)
    (number : p.value.isNaN = false) : inv'.Roomy config := by
  obtain ⟨within, spare, numbers⟩ := ok
  cases h with
  | stored below vacant =>
    refine ⟨?_, ?_, ?_⟩
    · rw [← card_values, values_put vacant, Multiset.card_cons, card_values]
      exact below
    · rw [others_put vacant, capacity_put]
      exact spare
    · rw [values_put vacant]
      exact Multiset.forall_mem_cons.2 ⟨number, numbers⟩
  | refused full least => exact ⟨within, spare, numbers⟩
  | swapped full held weakest better vacant =>
    have split := values_clear held
    refine ⟨?_, ?_, ?_⟩
    · rw [← card_values, split, Multiset.card_cons] at within
      rw [← card_values, values_put vacant, Multiset.card_cons]
      exact within
    · rw [others_put vacant, others_clear held, capacity_put, capacity_clear]
      exact spare
    · rw [split] at numbers
      rw [values_put vacant]
      exact Multiset.forall_mem_cons.2 ⟨number, (Multiset.forall_mem_cons.1 numbers).2⟩

theorem get?_put_iff {slot s : Nat} {item : Item} (vacant : inv.slots[slot]? = some none)
    (p : Pistol) (other : item.kind ≠ .pistol) :
    (inv.put slot (.pistol p)).get? s = some item ↔ inv.get? s = some item := by
  rw [get?_put vacant]
  split
  · rename_i here
    subst here
    rw [get?, vacant]
    refine iff_of_false (fun same => ?_) fun same => ?_
    · cases same
      exact other rfl
    · cases same
  · rfl

theorem get?_clear_iff {slot s : Nat} {item : Item}
    (held : inv.slots[slot]? = some (some (.pistol p))) (other : item.kind ≠ .pistol) :
    (inv.clear slot).get? s = some item ↔ inv.get? s = some item := by
  rw [get?_clear]
  split
  · rename_i here
    subst here
    rw [get?, held]
    refine iff_of_false (fun same => ?_) fun same => ?_
    · cases same
    · cases same
      exact other rfl
  · rfl

/-- Items that are no pistols stay where they are, and there are no others of them. -/
theorem get?_iff (h : Offered config p inv inv') {s : Nat} {item : Item}
    (other : item.kind ≠ .pistol) : inv'.get? s = some item ↔ inv.get? s = some item := by
  cases h with
  | stored below vacant => exact get?_put_iff vacant p other
  | refused full least => rfl
  | swapped full held weakest better vacant =>
    rw [get?_put_iff vacant p other, get?_clear_iff held other]

end Offered

/-! ## A run of pickups -/

/-- Offers one pistol after another. -/
def offerAll (config : Config) (host : Host η) (ps : List Pistol) (inv : Inventory) (w : η) :
    Inventory × η :=
  ps.foldl (fun s p =>
    let attempt := s.1.tryPickUp config host (.pistol p) s.2
    (attempt.inventory, attempt.world)) (inv, w)

theorem offerAll_cons (p : Pistol) (ps : List Pistol) (inv : Inventory) (w : η) :
    inv.offerAll config host (p :: ps) w =
      (inv.tryPickUp config host (.pistol p) w).inventory.offerAll config host ps
        (inv.tryPickUp config host (.pistol p) w).world := rfl

/-- The values of all pistols that are held or offered. -/
def valuesWith (inv : Inventory) (ps : List Pistol) : Multiset Float32 :=
  inv.values + (ps.map Pistol.value : Multiset Float32)

theorem unsigned_valuesWith (inv : Inventory) (ps : List Pistol) :
    ∀ value ∈ inv.valuesWith ps, Single.Unsigned value := by
  intro value hm
  rcases Multiset.mem_add.1 hm with held | offered
  · obtain ⟨-, p, -, rfl⟩ := mem_values_iff.1 held
    exact p.unsigned_value
  · obtain ⟨p, -, rfl⟩ := List.mem_map.1 (Multiset.mem_coe.1 offered)
    exact p.unsigned_value

/-- Over a run the most valuable pistols of all so far stay held, and other items where they are. -/
theorem largest_offerAll {ps : List Pistol} {all : Multiset Float32} (ok : inv.Roomy config)
    (numbers : ∀ p ∈ ps, p.value.isNaN = false) (willing : host.Willing) (w : η)
    (most : Largest config.maxPistols inv.values all) :
    Largest config.maxPistols (inv.offerAll config host ps w).1.values
        (all + (ps.map Pistol.value : Multiset Float32)) ∧
      ∀ s item, item.kind ≠ .pistol →
        ((inv.offerAll config host ps w).1.get? s = some item ↔ inv.get? s = some item) := by
  induction ps generalizing inv w all with
  | nil => exact ⟨(add_zero all).symm ▸ most, fun _ _ _ => Iff.rfl⟩
  | cons p ps ih =>
    rw [List.forall_mem_cons] at numbers
    have step := offered_tryPickUp ok numbers.1 willing w
    obtain ⟨run, frame⟩ := ih (step.roomy ok numbers.1) numbers.2
      (inv.tryPickUp config host (.pistol p) w).world (step.largest most)
    rw [offerAll_cons]
    refine ⟨?_, fun s item other => (frame s item other).trans (step.get?_iff other)⟩
    rw [List.map_cons, ← Multiset.cons_coe, Multiset.add_cons, ← Multiset.cons_add]
    exact run

/-- Of all pistols that are held or offered, those of largest value are held in the end, as many as
are kept. No other choice would do, so neither the order of the offers nor the world of the host
makes a difference; and other items stay where they are. -/
theorem keeps_most_valuable (config : Config) (host : Host η) (inv : Inventory) (ps : List Pistol)
    (w : η) (willing : host.Willing) (ok : inv.Roomy config)
    (numbers : ∀ p ∈ ps, p.value.isNaN = false) :
    let kept := (inv.offerAll config host ps w).1
    Largest config.maxPistols kept.values (inv.valuesWith ps) ∧
      (∀ values, Largest config.maxPistols values (inv.valuesWith ps) → values = kept.values) ∧
      (∀ ps' w', ps'.Perm ps → (inv.offerAll config host ps' w').1.values = kept.values) ∧
      ∀ s item, item.kind ≠ .pistol → (kept.get? s = some item ↔ inv.get? s = some item) := by
  have start : Largest config.maxPistols inv.values inv.values :=
    .of_card_le (inv.card_values ▸ ok.within)
  obtain ⟨largest, frame⟩ := largest_offerAll ok numbers willing w start
  have only (values : Multiset Float32)
      (most : Largest config.maxPistols values (inv.valuesWith ps)) :
      values = (inv.offerAll config host ps w).1.values :=
    most.unique largest fun x hx y hy => (inv.unsigned_valuesWith ps x hx).eq_of_le_of_le
      (inv.unsigned_valuesWith ps y hy)
  refine ⟨largest, only, fun ps' w' perm => only _ ?_, frame⟩
  have same : inv.valuesWith ps' = inv.valuesWith ps := by
    rw [valuesWith, Multiset.coe_eq_coe.2 (perm.map _), valuesWith]
  rw [← same]
  exact (largest_offerAll ok (fun p hp => numbers p (perm.mem_iff.1 hp)) willing w' start).1

end Offer

/-- An inventory with a pistol and a health pack, and room for one pistol more. -/
def rack : Inventory :=
  ⟨[some (.pistol ⟨1, ⟨0, 0⟩, 3, 2, 10⟩), some (.health ⟨2, ⟨0, 0⟩, 5⟩), none]⟩

/-- Three pistols to be found: a weaker one, a better one, and one that is worthless. -/
def finds : List Pistol := [⟨3, ⟨0, 0⟩, 1, 1, 4⟩, ⟨4, ⟨0, 0⟩, 9, 8, 40⟩, ⟨5, ⟨0, 0⟩, 0, 8, 40⟩]

theorem keeps_most_valuable_threeFinds :
    (rack.offerAll {} granting finds ()).1.slots.map (·.map (·.id)) = [some 1, some 2, some 4] ∧
      Largest 2 (rack.offerAll {} granting finds ()).1.values (rack.valuesWith finds) := by
  have roomy : rack.Roomy {} := ⟨by decide +kernel, by decide +kernel, by decide +kernel⟩
  exact ⟨by decide +kernel,
    (keeps_most_valuable {} granting rack finds () (fun _ _ _ => rfl) roomy
      (by decide +kernel)).1⟩

end Inventory
end Forager
