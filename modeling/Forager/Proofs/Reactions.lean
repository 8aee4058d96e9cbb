import Forager.Proofs.HeldBeliefs
import Forager.Proofs.Walks
import Forager.StandardTree

/-!
# Nodes as functions of beliefs

On a board that holds beliefs a node of library leaves amounts to a `Reaction`: a status and new
beliefs, computed from the beliefs alone. `Realises n f` says so for every walk, strict or not, at
every depth; it also says that no look-up misses.

Reactions compose as nodes do: `andThen` goes on after success, `orElse` after failure.

* `Realises.sequence_cons`, `Realises.selector_cons`: one more child in front.
* `Asks.node`, `Asks.inverted`, `Does.node`: the leaves.
-/
namespace Forager

open Node StandardTree

variable {μ : Type}

/-! ## Reactions -/

/-- What a node makes of beliefs: the status it reports and the beliefs it leaves. -/
abbrev Reaction := Beliefs → Status × Beliefs

namespace Reaction

/-- A test, which leaves the beliefs alone. -/
def ask (p : Beliefs → Bool) : Reaction := fun b => (.ofBool (p b), b)

def andThen (f g : Reaction) : Reaction := fun b =>
  if (f b).1 = .success then g (f b).2 else f b

def orElse (f g : Reaction) : Reaction := fun b =>
  if (f b).1 = .failure then g (f b).2 else f b

variable {f g : Reaction} {b b' : Beliefs}

theorem andThen_of_success (h : f b = (.success, b')) : f.andThen g b = g b' := by
  simp only [andThen, h, if_true]

theorem andThen_of_ne (h : (f b).1 ≠ .success) : f.andThen g b = f b := if_neg h

theorem orElse_of_failure (h : f b = (.failure, b')) : f.orElse g b = g b' := by
  simp only [orElse, h, if_true]

theorem orElse_of_ne (h : (f b).1 ≠ .failure) : f.orElse g b = f b := if_neg h

theorem ask_of_true {p : Beliefs → Bool} (h : p b = true) : ask p b = (.success, b) := by
  rw [ask, h]
  rfl

theorem ask_of_not {p : Beliefs → Bool} (h : ¬p b = true) : ask p b = (.failure, b) := by
  rw [ask, Bool.eq_false_iff.2 h]
  rfl

end Reaction

/-! ## Realisation -/

/-- The scene of a board that holds the beliefs, with no missing name noted. -/
def Beliefs.scene (b : Beliefs) (m : Entries EntryType) (memory : μ) : Scene EntryType μ :=
  ⟨⟨b.store m, none⟩, memory⟩

/-- Whether walking `n` on beliefs does what `f` says, without missing a name. -/
def Realises (n : AgentNode μ) (f : Reaction) : Prop :=
  ∀ (w : Walk) (depth : UInt32) (b : Beliefs) (m : Entries EntryType) (memory : μ),
    (n.walk w depth (b.scene m memory)).status = (f b).1 ∧
      (n.walk w depth (b.scene m memory)).scene = (f b).2.scene m memory ∧
      (n.walk w depth (b.scene m memory)).fault = none

/-- The same for the children of a composite of the given kind. -/
def RealisesAll (kind : CompositeKind) (ns : List (AgentNode μ)) (f : Reaction) : Prop :=
  ∀ (w : Walk) (depth : UInt32) (b : Beliefs) (m : Entries EntryType) (memory : μ),
    kind.verdict (walkAll w kind ns depth (b.scene m memory)).statuses = (f b).1 ∧
      (walkAll w kind ns depth (b.scene m memory)).scene = (f b).2.scene m memory ∧
      (walkAll w kind ns depth (b.scene m memory)).fault = none

theorem Realises.congr {n : AgentNode μ} {f g : Reaction} (h : Realises n f)
    (hfg : ∀ b, f b = g b) : Realises n g := by
  intro w depth b m memory
  rw [← hfg b]
  exact h w depth b m memory

/-! ## Composites -/

theorem RealisesAll.node {kind : CompositeKind} {l : Option String} {ns : List (AgentNode μ)}
    {f : Reaction} (h : RealisesAll kind ns f) : Realises (.composite kind l ns) f := by
  intro w depth b m memory
  obtain ⟨hs, hb, hf⟩ := h w (depth + 1) b m memory
  simp only [walk, Walk.composite, hf, Option.isSome_none]
  exact ⟨hs, hb, trivial⟩

theorem realisesAll_sequence_nil :
    RealisesAll .sequence ([] : List (AgentNode μ)) fun b => (.success, b) := by
  intro w depth b m memory
  simp only [walkAll]
  exact ⟨rfl, trivial, trivial⟩

theorem realisesAll_selector_nil :
    RealisesAll .selector ([] : List (AgentNode μ)) fun b => (.failure, b) := by
  intro w depth b m memory
  simp only [walkAll]
  exact ⟨rfl, trivial, trivial⟩

/-- The verdict of a sequence is that of its first child, unless that child succeeded. -/
theorem verdict_sequence_cons (s : Status) (ss : List Status) :
    CompositeKind.sequence.verdict (s :: ss) =
      if s = .success then CompositeKind.sequence.verdict ss else s := by
  cases s <;> rfl

/-- The verdict of a selector is that of its first child, unless that child failed. -/
theorem verdict_selector_cons (s : Status) (ss : List Status) :
    CompositeKind.selector.verdict (s :: ss) =
      if s = .failure then CompositeKind.selector.verdict ss else s := by
  cases s <;> rfl

theorem Realises.sequence_cons {n : AgentNode μ} {ns : List (AgentNode μ)} {f g : Reaction}
    (hn : Realises n f) (hs : RealisesAll .sequence ns g) :
    RealisesAll .sequence (n :: ns) (f.andThen g) := by
  intro w depth b m memory
  obtain ⟨hst, hsc, hf⟩ := hn w depth b m memory
  obtain ⟨hst', hsc', hf'⟩ := hs w depth (f b).2 m memory
  simp only [walkAll, hf, hst, hsc, Option.isSome_none, Bool.false_or, Reaction.andThen]
  by_cases h : (f b).1 = .success
  · simp only [h, CompositeKind.stopsAt, bne_self_eq_false, Bool.false_eq_true, if_false, if_true,
      verdict_sequence_cons]
    exact ⟨hst', hsc', hf'⟩
  · simp only [CompositeKind.stopsAt, bne_iff_ne.2 h, if_true, if_neg h, verdict_sequence_cons]
    exact ⟨trivial, trivial, trivial⟩

theorem Realises.selector_cons {n : AgentNode μ} {ns : List (AgentNode μ)} {f g : Reaction}
    (hn : Realises n f) (hs : RealisesAll .selector ns g) :
    RealisesAll .selector (n :: ns) (f.orElse g) := by
  intro w depth b m memory
  obtain ⟨hst, hsc, hf⟩ := hn w depth b m memory
  obtain ⟨hst', hsc', hf'⟩ := hs w depth (f b).2 m memory
  simp only [walkAll, hf, hst, hsc, Option.isSome_none, Bool.false_or, Reaction.orElse]
  by_cases h : (f b).1 = .failure
  · simp only [h, CompositeKind.stopsAt, bne_self_eq_false, Bool.false_eq_true, if_false, if_true,
      verdict_selector_cons]
    exact ⟨hst', hsc', hf'⟩
  · simp only [CompositeKind.stopsAt, bne_iff_ne.2 h, if_true, if_neg h, verdict_selector_cons]
    exact ⟨trivial, trivial, trivial⟩

/-! ## Leaves -/

/-- Whether a behaviour is a test that comes out as `p` on a board that holds beliefs. -/
def Asks : Behaviour → (Beliefs → Bool) → Prop
  | .test _ holds, p => ∀ b m, holds (b.store m) none = (p b, none)
  | .act .., _ => False

/-- Whether a behaviour is an action that does `f` on a board that holds beliefs. -/
def Does : Behaviour → Reaction → Prop
  | .test .., _ => False
  | .act _ run, f => ∀ b m, run ⟨b.store m, none⟩ = ((f b).1, ⟨(f b).2.store m, none⟩)

theorem realises_leaf {w : Walk} {depth : UInt32} {leaf : Leaf EntryType}
    {effect : Effect EntryType μ} {b b' : Beliefs} {status : Status} {m : Entries EntryType}
    {memory : μ} (h : effect (b.scene m memory) = (status, b'.scene m memory)) :
    (w.leaf depth leaf effect (b.scene m memory)).status = status ∧
      (w.leaf depth leaf effect (b.scene m memory)).scene = b'.scene m memory ∧
      (w.leaf depth leaf effect (b.scene m memory)).fault = none := by
  simp only [Walk.leaf, h]
  exact ⟨trivial, rfl, ite_self _⟩

theorem test_scene (inverse : Bool) {holds : Query EntryType Bool} {b : Beliefs}
    {m : Entries EntryType} (memory : μ) {held : Bool}
    (h : holds (b.store m) none = (held, none)) :
    Predicate.test inverse holds (b.scene m memory) =
      (.ofBool (held != inverse), b.scene m memory) := by
  simp only [Predicate.test, Query.edit, Beliefs.scene, h]

theorem Asks.node {v : Behaviour} {p : Beliefs → Bool} (h : Asks v p) :
    Realises (v.node : AgentNode μ) (.ask p) := by
  cases v with
  | act leaf run => cases h
  | test leaf holds =>
    intro w depth b m memory
    simp only [Behaviour.node, walk]
    have ht := test_scene false memory (h b m)
    rw [Bool.bne_false] at ht
    exact realises_leaf ht

theorem Asks.inverted {v : Behaviour} {p : Beliefs → Bool} (h : Asks v p) :
    Realises (v.node.inverted : AgentNode μ) (.ask fun b => !p b) := by
  cases v with
  | act leaf run => cases h
  | test leaf holds =>
    intro w depth b m memory
    simp only [Behaviour.node, Node.inverted, walk]
    have ht := test_scene true memory (h b m)
    rw [Bool.bne_true] at ht
    exact realises_leaf ht

theorem Does.node {v : Behaviour} {f : Reaction} (h : Does v f) :
    Realises (v.node : AgentNode μ) f := by
  cases v with
  | test leaf holds => cases h
  | act leaf run =>
    intro w depth b m memory
    simp only [Behaviour.node, walk]
    refine realises_leaf ?_
    simp only [Beliefs.scene, h b m]

end Forager
