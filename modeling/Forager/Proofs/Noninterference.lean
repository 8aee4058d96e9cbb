import Mathlib.Data.List.Sort
import Forager.Proofs.Validation

/-!
# Leaves see only what they declare

Two boards that hold the same under the names a leaf declares are one board to that leaf, whatever
else they hold and whatever is missing or mistyped among those names: the leaf ends the same way on
both, leaves the same behind under these names, and has the same name to report as missing.

* `names_eq_of_typeOf?`: entries with the same types have the same names.
* `exists_effect`: a library leaf, inverted or not, is walked by an effect that stays confined.
* `noninterference`: the two runs of a leaf, and what one run may touch.
-/
namespace Forager

variable {τ μ : Type} [EntryTypes τ]

theorem names_eq_of_typeOf? {m m' : Entries τ} (types : ∀ name, m.typeOf? name = m'.typeOf? name) :
    m.names = m'.names := by
  have held (m : Entries τ) (name : String) : name ∈ m.names ↔ (m.typeOf? name).isSome := by
    rw [NameMap.mem_names_iff, NameMap.contains, Entries.typeOf?, Option.isSome_map]
  refine List.Pairwise.eq_of_mem_iff m.names_sorted m'.names_sorted fun name => ?_
  rw [held, held, types]

/-! ## Confined effects -/

/-- Whether an effect stays within the keys that a leaf declares: it depends on these alone,
changes those declared as written, adds and retypes nothing, and misses none but these. -/
structure Confined (leaf : Leaf τ) (effect : Effect τ μ) : Prop where
  agree : ∀ s₁ s₂ : Scene τ μ, s₁.board.AgreeOn (leaf.uses.map (·.name)) s₂.board →
    (effect s₁).1 = (effect s₂).1 ∧
      (effect s₁).2.board.AgreeOn (leaf.uses.map (·.name)) (effect s₂).2.board
  frame : ∀ s name, name ∉ leaf.namesWith .write →
    (effect s).2.board.entries.find? name = s.board.entries.find? name
  honest : Honest leaf effect

namespace Library

variable {leaf : Leaf EntryType}

theorem confined_test {holds : Query EntryType Bool} (h : Framed (.test leaf holds))
    (inverse : Bool) : Confined leaf (Predicate.test inverse holds : Effect EntryType μ) where
  agree := by
    intro s₁ s₂ ⟨noted, held⟩
    have same : holds s₁.board.entries s₁.board.missing =
        holds s₂.board.entries s₂.board.missing := by
      rw [noted]
      exact h.agree _ _ _ held
    simp only [Predicate.test, Query.edit, same]
    exact ⟨trivial, rfl, held⟩
  frame := fun _ _ _ => rfl
  honest := honest_test h inverse

theorem confined_act {run : Edit EntryType Status} (h : Framed (.act leaf run)) :
    Confined leaf fun s : Scene EntryType μ =>
      ((run s.board).1, { s with board := (run s.board).2 }) where
  agree := fun s₁ s₂ same => h.agree s₁.board s₂.board same
  frame := fun s name undeclared => h.frame s.board name undeclared
  honest := honest_act h

theorem exists_effect {v : Behaviour} (hv : v ∈ all) {n : Node EntryType μ}
    (hn : n = v.node ∨ n = v.node.inverted) :
    ∃ effect, Confined v.leaf effect ∧
      ∀ w s, n.walkFrom w s = w.leaf 0 v.leaf effect s.settled := by
  have framed := framed_all v hv
  cases v with
  | test leaf holds =>
    rcases hn with rfl | rfl
    · exact ⟨_, confined_test framed false, fun w s => rfl⟩
    · exact ⟨_, confined_test framed true, fun w s => rfl⟩
  | act leaf run =>
    -- An action has no inverse.
    have plain : n = (Behaviour.act leaf run).node := by rcases hn with rfl | rfl <;> rfl
    subst plain
    exact ⟨_, confined_act framed, fun w s => rfl⟩

/-! ## Two runs -/

/-- A library leaf, inverted or not, on two boards that hold the same under the names it declares:
the status is the same, the same is left under these names, and a strict walk has the same to say
of missing names. As for one run, whatever is missing or mistyped on the board: what is not
declared as written stays as it is, no name is added, and a name is reported as missing only if it
is declared, and missing. -/
theorem noninterference {v : Behaviour} (hv : v ∈ all) {n : Node EntryType μ}
    (hn : n = v.node ∨ n = v.node.inverted) {s₁ s₂ : Scene EntryType μ}
    (same : ∀ u ∈ v.leaf.uses, s₁.board.entries.find? u.name = s₂.board.entries.find? u.name)
    (number : UInt64) :
    let after₁ := (n.tick s₁).2.board
    let after₂ := (n.tick s₂).2.board
    let fault (s : Scene EntryType μ) := (n.walkFrom ⟨true, number⟩ s).fault
    (n.tick s₁).1 = (n.tick s₂).1 ∧
      (∀ u ∈ v.leaf.uses, after₁.entries.find? u.name = after₂.entries.find? u.name) ∧
      fault s₁ = fault s₂ ∧
      (∀ name, name ∉ v.leaf.namesWith .write →
        after₁.entries.find? name = s₁.board.entries.find? name) ∧
      after₁.names = s₁.board.names ∧
      ∀ f, fault s₁ = some f →
        f.leaf = v.leaf.name ∧ f.key ∈ v.leaf.uses.map (·.name) ∧ f.key ∉ s₁.board.names := by
  obtain ⟨effect, confined, walked⟩ := exists_effect hv hn
  have ticked (s : Scene EntryType μ) :
      n.tick s = ((effect s.settled).1, (effect s.settled).2.settled) := by
    rw [Node.tick_eq_walkFrom number, walked]
    rfl
  have faulty (s : Scene EntryType μ) : (n.walkFrom ⟨true, number⟩ s).fault =
      (effect s.settled).2.board.missing.map (⟨v.leaf.name, ·⟩) := by
    rw [walked]
    rfl
  have alike : s₁.settled.board.AgreeOn (v.leaf.uses.map (·.name)) s₂.settled.board :=
    ⟨rfl, List.forall_mem_map.2 same⟩
  obtain ⟨status, noted, held⟩ := confined.agree s₁.settled s₂.settled alike
  obtain ⟨types, notes⟩ := confined.honest s₁.settled
  simp only [ticked, faulty]
  refine ⟨status, List.forall_mem_map.1 held, by rw [noted], confined.frame s₁.settled,
    names_eq_of_typeOf? types, fun f reported => ?_⟩
  obtain ⟨key, left, rfl⟩ := Option.map_eq_some_iff.1 reported
  rcases notes with kept | ⟨-, name, declared, absent, found⟩
  · -- Nothing was noted when the leaf was entered.
    rw [kept] at left
    cases left
  · cases left.symm.trans found
    refine ⟨rfl, declared, fun there => ?_⟩
    rw [Scene.settled_entries, Entries.typeOf?, Option.map_eq_none_iff] at absent
    rw [Blackboard.names, NameMap.mem_names_iff, NameMap.contains, absent] at there
    cases there

/-- A board whose agent is a truth value, and which has no route. -/
def mistyped : Scene EntryType Unit :=
  ⟨⟨(∅ : Entries EntryType).write (t := .bool) ⟨"AgentInfo"⟩ true, none⟩, ()⟩

/-- The same with an entry more, after a look-up that failed. -/
def mistypedElsewhere : Scene EntryType Unit :=
  ⟨⟨mistyped.board.entries.write (t := .bool) ⟨"Elsewhere"⟩ true, some "Nowhere"⟩, ()⟩

theorem noninterference_mistyped :
    (∀ u ∈ arrivedAtNextSearchPoint.leaf.uses,
      mistyped.board.entries.find? u.name = mistypedElsewhere.board.entries.find? u.name) ∧
      (arrivedAtNextSearchPoint.node.inverted.tick mistypedElsewhere).1 = .success ∧
      ((arrivedAtNextSearchPoint.node.inverted.walkFrom ⟨true, 3⟩ mistypedElsewhere).fault =
        some ⟨"ArrivedAtNextSearchPoint", "SearchPoints"⟩) ∧
      (arrivedAtNextSearchPoint.node.inverted.tick mistyped).2.board.names = ["AgentInfo"] := by
  have same : ∀ u ∈ arrivedAtNextSearchPoint.leaf.uses,
      mistyped.board.entries.find? u.name = mistypedElsewhere.board.entries.find? u.name := by
    have elsewhere : ∀ u ∈ arrivedAtNextSearchPoint.leaf.uses, u.name ≠ "Elsewhere" := by decide
    intro u declared
    rw [mistypedElsewhere, Entries.find?_write, if_neg (elsewhere u declared)]
  obtain ⟨status, -, fault, -, names, -⟩ :=
    noninterference (μ := Unit) (v := arrivedAtNextSearchPoint) (by simp [all]) (.inr rfl) same 3
  exact ⟨same, status.symm.trans rfl, fault.symm.trans rfl, names.trans rfl⟩

end Library
end Forager
