import Forager.Tree

/-!
# What every walk does

Facts about walks that hold for any tree and any leaves.

* `walk_lenient`: a walk that nothing stops is plain evaluation, so `tick` and `tickTraced` agree.
* `getLast?_events`, `tick_of_mem_events`: the root reports last, and every event carries the
  number of the walk.
* `scene_of_invariant`: what every leaf keeps is kept by a walk, also by one that is stopped.
* `walk_of_invariant`: if leaves keep the board free of missing names then nothing stops the walk.
-/
namespace Forager

variable {τ μ : Type} [EntryTypes τ]

namespace Node

/-! ## Plain evaluation -/

mutual
theorem walk_lenient (tick : UInt64) : ∀ (n : Node τ μ) (depth : UInt32) (s : Scene τ μ),
    (n.walk ⟨false, tick⟩ depth s).fault = none ∧
      ((n.walk ⟨false, tick⟩ depth s).status, (n.walk ⟨false, tick⟩ depth s).scene) = n.evaluate s
  | .action leaf effect, depth, s => by
    simp only [walk, Walk.leaf, evaluate]
    exact ⟨if_neg Bool.false_ne_true, trivial⟩
  | .condition leaf inverse p, depth, s => by
    simp only [walk, Walk.leaf, evaluate]
    exact ⟨if_neg Bool.false_ne_true, trivial⟩
  | .composite kind label children, depth, s => by
    obtain ⟨hf, he⟩ := walkAll_lenient tick kind children (depth + 1) s
    simp only [walk, Walk.composite, evaluate, ← he, hf]
    exact ⟨trivial, rfl⟩

theorem walkAll_lenient (tick : UInt64) (kind : CompositeKind) :
    ∀ (ns : List (Node τ μ)) (depth : UInt32) (s : Scene τ μ),
      (walkAll ⟨false, tick⟩ kind ns depth s).fault = none ∧
        ((walkAll ⟨false, tick⟩ kind ns depth s).statuses,
          (walkAll ⟨false, tick⟩ kind ns depth s).scene) = evaluateAll kind ns s
  | [], depth, s => by
    simp only [walkAll, evaluateAll]
    exact ⟨trivial, trivial⟩
  | n :: ns, depth, s => by
    obtain ⟨hf, he⟩ := walk_lenient tick n depth s
    obtain ⟨hf', he'⟩ := walkAll_lenient tick kind ns depth (n.evaluate s).2
    have hs : (n.walk ⟨false, tick⟩ depth s).status = (n.evaluate s).1 := congrArg Prod.fst he
    have hb : (n.walk ⟨false, tick⟩ depth s).scene = (n.evaluate s).2 := congrArg Prod.snd he
    simp only [walkAll, evaluateAll, hf, hs, hb, Option.isSome_none, Bool.false_or]
    split
    · exact ⟨rfl, rfl⟩
    · exact ⟨hf', by rw [← he']⟩
end

theorem fault_lenient (tick : UInt64) (n : Node τ μ) (depth : UInt32) (s : Scene τ μ) :
    (n.walk ⟨false, tick⟩ depth s).fault = none := (walk_lenient tick n depth s).1

theorem status_lenient (tick : UInt64) (n : Node τ μ) (depth : UInt32) (s : Scene τ μ) :
    (n.walk ⟨false, tick⟩ depth s).status = (n.evaluate s).1 :=
  congrArg Prod.fst (walk_lenient tick n depth s).2

theorem scene_lenient (tick : UInt64) (n : Node τ μ) (depth : UInt32) (s : Scene τ μ) :
    (n.walk ⟨false, tick⟩ depth s).scene = (n.evaluate s).2 :=
  congrArg Prod.snd (walk_lenient tick n depth s).2

theorem tick_eq_walkFrom (number : UInt64) (n : Node τ μ) (s : Scene τ μ) :
    n.tick s = ((n.walkFrom ⟨false, number⟩ s).status, (n.walkFrom ⟨false, number⟩ s).scene) :=
  (walk_lenient number n 0 s.settled).2.symm

/-! ## Events -/

theorem getLast?_events (w : Walk) (n : Node τ μ) (depth : UInt32) (s : Scene τ μ) :
    (n.walk w depth s).events.getLast? =
      some ⟨w.tick, depth, n.name, (n.walk w depth s).status⟩ := by
  cases n with
  | action leaf effect => rfl
  | condition leaf inverse p => rfl
  | composite kind label children =>
    simp only [walk, Walk.composite, name]
    rw [List.getLast?_concat]

mutual
theorem tick_of_mem_events (w : Walk) : ∀ (n : Node τ μ) (depth : UInt32) (s : Scene τ μ),
    ∀ e ∈ (n.walk w depth s).events, e.tick = w.tick
  | .action leaf effect, depth, s, e, he => by
    simp only [walk, Walk.leaf, List.mem_singleton] at he
    rw [he]
  | .condition leaf inverse p, depth, s, e, he => by
    simp only [walk, Walk.leaf, List.mem_singleton] at he
    rw [he]
  | .composite kind label children, depth, s, e, he => by
    simp only [walk, Walk.composite, List.mem_append, List.mem_singleton] at he
    rcases he with he | he
    · exact tick_of_mem_eventsAll w kind children (depth + 1) s e he
    · rw [he]

theorem tick_of_mem_eventsAll (w : Walk) (kind : CompositeKind) :
    ∀ (ns : List (Node τ μ)) (depth : UInt32) (s : Scene τ μ),
      ∀ e ∈ (walkAll w kind ns depth s).events, e.tick = w.tick
  | [], depth, s, e, he => by
    simp only [walkAll, List.not_mem_nil] at he
  | n :: ns, depth, s, e, he => by
    simp only [walkAll] at he
    split at he
    · exact tick_of_mem_events w n depth s e he
    · rcases List.mem_append.1 he with he | he
      · exact tick_of_mem_events w n depth s e he
      · exact tick_of_mem_eventsAll w kind ns depth _ e he
end

/-! ## Invariants -/

mutual
/-- The leaves of a subtree with what they do, depth first and left to right. -/
def parts : Node τ μ → List (Leaf τ × Effect τ μ)
  | .action leaf effect => [(leaf, effect)]
  | .condition leaf inverse p => [(leaf, Predicate.test inverse p)]
  | .composite _ _ children => partsAll children

def partsAll : List (Node τ μ) → List (Leaf τ × Effect τ μ)
  | [] => []
  | n :: ns => n.parts ++ partsAll ns
end

theorem partsAll_eq (ns : List (Node τ μ)) : partsAll ns = ns.flatMap parts := by
  induction ns with
  | nil => simp only [partsAll, List.flatMap_nil]
  | cons n ns ih => rw [partsAll, ih, List.flatMap_cons]

/-- Whether each of the given leaves leads from scenes with `I` to scenes with `I`. -/
def Keep (I : Scene τ μ → Prop) (parts : List (Leaf τ × Effect τ μ)) : Prop :=
  ∀ part ∈ parts, ∀ s, I s → I (part.2 s).2

variable {I : Scene τ μ → Prop}

mutual
theorem scene_of_invariant (settled : ∀ s, I s → I s.settled) (w : Walk) :
    ∀ (n : Node τ μ), Keep I n.parts → ∀ (depth : UInt32) (s : Scene τ μ), I s →
      I (n.walk w depth s).scene
  | .action leaf effect, h, depth, s, hs => by
    simp only [Keep, parts, List.mem_singleton, forall_eq] at h
    simp only [walk, Walk.leaf]
    exact settled _ (h s hs)
  | .condition leaf inverse p, h, depth, s, hs => by
    simp only [Keep, parts, List.mem_singleton, forall_eq] at h
    simp only [walk, Walk.leaf]
    exact settled _ (h s hs)
  | .composite kind label children, h, depth, s, hs => by
    rw [parts] at h
    simp only [walk, Walk.composite]
    exact sceneAll_of_invariant settled w kind children h (depth + 1) s hs

theorem sceneAll_of_invariant (settled : ∀ s, I s → I s.settled) (w : Walk)
    (kind : CompositeKind) : ∀ (ns : List (Node τ μ)), Keep I (partsAll ns) →
      ∀ (depth : UInt32) (s : Scene τ μ), I s → I (walkAll w kind ns depth s).scene
  | [], h, depth, s, hs => by
    simp only [walkAll]
    exact hs
  | n :: ns, h, depth, s, hs => by
    simp only [Keep, partsAll, List.mem_append] at h
    have first := scene_of_invariant settled w n (fun p hp => h p (.inl hp)) depth s hs
    simp only [walkAll]
    split
    · exact first
    · exact sceneAll_of_invariant settled w kind ns (fun p hp => h p (.inr hp)) depth _ first
end

theorem leaf_of_invariant (clean : ∀ s, I s → s.board.missing = none) (w : Walk) (depth : UInt32)
    (leaf : Leaf τ) {effect : Effect τ μ} {s : Scene τ μ} (h : I (effect s).2) :
    (w.leaf depth leaf effect s).fault = none ∧ I (w.leaf depth leaf effect s).scene := by
  have hm := clean _ h
  have settled : (effect s).2.settled = (effect s).2 := by
    simp only [Scene.settled, Blackboard.clearMissing]
    rw [← hm]
  constructor
  · simp only [Walk.leaf, hm, Option.map_none, ite_self]
  · simp only [Walk.leaf, settled]
    exact h

mutual
theorem walk_of_invariant (clean : ∀ s, I s → s.board.missing = none) (w : Walk) :
    ∀ (n : Node τ μ), Keep I n.parts → ∀ (depth : UInt32) (s : Scene τ μ), I s →
      (n.walk w depth s).fault = none ∧ I (n.walk w depth s).scene
  | .action leaf effect, h, depth, s, hs => by
    simp only [Keep, parts, List.mem_singleton, forall_eq] at h
    simp only [walk]
    exact leaf_of_invariant clean w depth leaf (h s hs)
  | .condition leaf inverse p, h, depth, s, hs => by
    simp only [Keep, parts, List.mem_singleton, forall_eq] at h
    simp only [walk]
    exact leaf_of_invariant clean w depth leaf (h s hs)
  | .composite kind label children, h, depth, s, hs => by
    rw [parts] at h
    simp only [walk, Walk.composite]
    exact walkAll_of_invariant clean w kind children h (depth + 1) s hs

theorem walkAll_of_invariant (clean : ∀ s, I s → s.board.missing = none) (w : Walk)
    (kind : CompositeKind) : ∀ (ns : List (Node τ μ)), Keep I (partsAll ns) →
      ∀ (depth : UInt32) (s : Scene τ μ), I s →
        (walkAll w kind ns depth s).fault = none ∧ I (walkAll w kind ns depth s).scene
  | [], h, depth, s, hs => by
    simp only [walkAll]
    exact ⟨trivial, hs⟩
  | n :: ns, h, depth, s, hs => by
    simp only [Keep, partsAll, List.mem_append] at h
    obtain ⟨hf, hi⟩ := walk_of_invariant clean w n (fun p hp => h p (.inl hp)) depth s hs
    simp only [walkAll]
    split
    · exact ⟨hf, hi⟩
    · exact walkAll_of_invariant clean w kind ns (fun p hp => h p (.inr hp)) depth _ hi
end

end Node
end Forager
