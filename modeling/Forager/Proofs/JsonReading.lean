import Mathlib.Data.List.Forall2
import Forager.Document.Json

/-!
# What reading JSON gives

The reader of JSON always tells numbers from texts: no part of what it gives is left open.

* `mapM_eq_some_iff`: a list that is read element by element.
* `typed_reading`: what the reader gives, step by step.
* `typed_of_parse`: what it gives of a whole text.
-/
namespace Forager

/-! ## Lists read one by one -/

section

variable {α β : Type}

theorem mapM_eq_some_iff {f : α → Option β} {as : List α} {bs : List β} :
    as.mapM f = some bs ↔ List.Forall₂ (fun a b => f a = some b) as bs := by
  induction as generalizing bs with
  | nil => cases bs <;> simp
  | cons a as ih =>
    constructor
    · intro read
      simp only [List.mapM_cons, Option.pure_def, Option.bind_eq_bind, Option.bind_eq_some_iff,
        Option.some.injEq] at read
      obtain ⟨b, first, bs, rest, rfl⟩ := read
      exact .cons first (ih.1 rest)
    · rintro (- | ⟨first, rest⟩)
      rw [List.mapM_cons, first, ih.2 rest]
      rfl

theorem exists_of_mem_right {R : α → β → Prop} {as : List α} {bs : List β}
    (h : List.Forall₂ R as bs) {b : β} (hb : b ∈ bs) : ∃ a ∈ as, R a b := by
  induction h with
  | nil => cases hb
  | cons first _ ih =>
    obtain rfl | hb := List.mem_cons.1 hb
    · exact ⟨_, List.mem_cons_self, first⟩
    · obtain ⟨a, ha, related⟩ := ih hb
      exact ⟨a, List.mem_cons_of_mem _ ha, related⟩

end

namespace Json

/-! ## What the reader gives -/

/-- Documents that tell what each part of them is: no part is blank, plain or a mapping. -/
inductive Typed : Document → Prop
  | null : Typed .null
  | bool (b : Bool) : Typed (.bool b)
  | number (n : Numeral) : Typed (.number n)
  | text (s : String) : Typed (.text s)
  | illegible : Typed .illegible
  | list {items : List Document} (items_typed : ∀ d ∈ items, Typed d) : Typed (.list items)
  | record {fs : List (String × Document)} (fields_typed : ∀ f ∈ fs, Typed f.2) :
    Typed (.record fs)

theorem typed_ofText (t : Option (List Char)) : Typed (ofText t) := by
  cases t
  · exact .illegible
  · exact .text _

theorem typed_ofMembers {fs : List (Option (List Char) × Document)} (h : ∀ f ∈ fs, Typed f.2) :
    Typed (ofMembers fs) := by
  unfold ofMembers
  split
  case h_1 read all =>
    refine .record fun f hf => ?_
    obtain ⟨g, hg, eq⟩ := exists_of_mem_right (mapM_eq_some_iff.1 all) hf
    obtain ⟨k, -, rfl⟩ := Option.map_eq_some_iff.1 eq
    exact h g hg
  case h_2 => exact .illegible

section

variable {fuel : Nat} {s : List Char}

theorem typed_value (elements_typed : ∀ s p, elements fuel s = some p → ∀ d ∈ p.1, Typed d)
    (members_typed : ∀ s p, members fuel s = some p → ∀ f ∈ p.1, Typed f.2)
    {p : Document × List Char} (read : value (fuel + 1) s = some p) : Typed p.1 := by
  rw [value] at read
  split at read
  · split at read
    · cases read
      exact .record nofun
    · obtain ⟨q, rest, rfl⟩ := Option.map_eq_some_iff.1 read
      exact typed_ofMembers (members_typed _ _ rest)
  · split at read
    · cases read
      exact .list nofun
    · obtain ⟨q, rest, rfl⟩ := Option.map_eq_some_iff.1 read
      exact .list (elements_typed _ _ rest)
  · obtain ⟨q, -, rfl⟩ := Option.map_eq_some_iff.1 read
    exact typed_ofText _
  · cases read
    exact .bool _
  · cases read
    exact .bool _
  · cases read
    exact .null
  · obtain ⟨q, -, rfl⟩ := Option.map_eq_some_iff.1 read
    exact .number _
  · obtain ⟨q, -, rfl⟩ := Option.map_eq_some_iff.1 read
    exact .number _

theorem typed_elements (value_typed : ∀ s p, value fuel s = some p → Typed p.1)
    (elements_typed : ∀ s p, elements fuel s = some p → ∀ d ∈ p.1, Typed d)
    {p : List Document × List Char} (read : elements (fuel + 1) s = some p) :
    ∀ d ∈ p.1, Typed d := by
  rw [elements] at read
  split at read
  case h_1 => cases read
  case h_2 d r first =>
    have d_typed := value_typed _ _ first
    split at read
    · obtain ⟨q, rest, rfl⟩ := Option.map_eq_some_iff.1 read
      exact List.forall_mem_cons.2 ⟨d_typed, elements_typed _ _ rest⟩
    · cases read
      exact List.forall_mem_singleton.2 d_typed
    · cases read

theorem typed_members (value_typed : ∀ s p, value fuel s = some p → Typed p.1)
    (members_typed : ∀ s p, members fuel s = some p → ∀ f ∈ p.1, Typed f.2)
    {p : List (Option (List Char) × Document) × List Char}
    (read : members (fuel + 1) s = some p) : ∀ f ∈ p.1, Typed f.2 := by
  rw [members] at read
  split at read
  case h_2 => cases read
  split at read
  case h_1 => cases read
  split at read
  case h_2 => cases read
  split at read
  case h_1 => cases read
  case h_2 d r first =>
    have d_typed := value_typed _ _ first
    split at read
    · obtain ⟨q, rest, rfl⟩ := Option.map_eq_some_iff.1 read
      exact List.forall_mem_cons.2 ⟨d_typed, members_typed _ _ rest⟩
    · cases read
      exact List.forall_mem_singleton.2 d_typed
    · cases read

end

theorem typed_reading (fuel : Nat) :
    (∀ s p, value fuel s = some p → Typed p.1) ∧
    (∀ s p, elements fuel s = some p → ∀ d ∈ p.1, Typed d) ∧
    (∀ s p, members fuel s = some p → ∀ f ∈ p.1, Typed f.2) := by
  induction fuel with
  | zero => exact ⟨nofun, nofun, nofun⟩
  | succ fuel ih =>
    obtain ⟨value_typed, elements_typed, members_typed⟩ := ih
    exact ⟨fun _ _ => typed_value elements_typed members_typed,
      fun _ _ => typed_elements value_typed elements_typed,
      fun _ _ => typed_members value_typed members_typed⟩

theorem typed_of_parse {text : String} {d : Document} (h : parse text = some d) : Typed d := by
  simp only [parse] at h
  split at h
  case h_1 d' r read =>
    obtain ⟨-, eq⟩ := Option.ite_none_right_eq_some.1 h
    obtain rfl := Option.some.inj eq
    exact (typed_reading _).1 _ _ read
  case h_2 => cases h

end Json
end Forager
