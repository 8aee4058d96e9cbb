import Forager.Proofs.Rows
import Forager.Schema

/-!
# Flattening composites

A composite inside another of its own kind may give its children to the outer one, and a composite
with a single child may give way to it, wherever in a tree it stands. The walks are the same but for
what they report of the composite that is gone, also where a fault stops them in the middle of it.

* `alikeAll_unwrapped`: a composite goes like its children in a row.
* `AlikeAll.append_left`, `AlikeAll.append_right`, `AlikeAll.composite`: what goes alike does so
  among others and below another composite.
* `flattening_keeps_meaning`: ticks and updates of a tree and its flattened form.
-/
namespace Forager

variable {τ μ : Type} [EntryTypes τ]

/-! ## Flattening -/

/-- A composite and what it consists of. -/
structure Composite (τ μ : Type) [EntryTypes τ] where
  kind : CompositeKind
  label : Option String
  children : List (Node τ μ)

def Composite.node (c : Composite τ μ) : Node τ μ := .composite c.kind c.label c.children

/-- Whether the second tree is the first one without the composite `c`, which stood a number of
levels below the root: inside a composite of its own kind, which has its children instead, or
anywhere, with a single child that takes its place. -/
inductive Flattens (c : Composite τ μ) : UInt32 → Node τ μ → Node τ μ → Prop
  | splice (label : Option String) (before after : List (Node τ μ)) :
    Flattens c 1 (.composite c.kind label (before ++ [c.node] ++ after))
      (.composite c.kind label (before ++ c.children ++ after))
  | single {n : Node τ μ} (only : c.children = [n]) : Flattens c 0 c.node n
  | within (kind : CompositeKind) (label : Option String) (before after : List (Node τ μ))
    {levels : UInt32} {n n' : Node τ μ} (h : Flattens c levels n n') :
    Flattens c (levels + 1) (.composite kind label (before ++ [n] ++ after))
      (.composite kind label (before ++ [n'] ++ after))

/-- Whether two lists of events differ at most by what a walk reports of `c` at the given depth: the
first one has an event for `c` itself, and one level deeper what the second has of its children. -/
inductive Unwraps (w : Walk) (c : Composite τ μ) (depth : UInt32) : List Event → List Event → Prop
  | unreached (events : List Event) : Unwraps w c depth events events
  | reached (before after : List Event) (entered : Scene τ μ) :
    Unwraps w c depth
      (before ++ ((Node.walkAll w c.kind c.children depth entered).events.map (Event.deeper 1) ++
        [⟨w.tick, depth, c.node.name, (c.node.walk w depth entered).status⟩]) ++ after)
      (before ++ (Node.walkAll w c.kind c.children depth entered).events ++ after)

namespace Unwraps

variable {w : Walk} {c : Composite τ μ} {depth : UInt32} {es es' : List Event}

theorem append_left (h : Unwraps w c depth es es') (front : List Event) :
    Unwraps w c depth (front ++ es) (front ++ es') := by
  cases h with
  | unreached => exact .unreached _
  | reached before after entered =>
    have longer : Unwraps w c depth _ _ := .reached (front ++ before) after entered
    simp only [List.append_assoc] at longer ⊢
    exact longer

theorem append_right (h : Unwraps w c depth es es') (back : List Event) :
    Unwraps w c depth (es ++ back) (es' ++ back) := by
  cases h with
  | unreached => exact .unreached _
  | reached before after entered =>
    have longer : Unwraps w c depth _ _ := .reached before (after ++ back) entered
    simp only [List.append_assoc] at longer ⊢
    exact longer

end Unwraps

/-! ## Walks that go alike -/

namespace Walk

/-- Whether two outcomes agree but for what is reported of `c`. After a fault the status of a node
counts for nothing. -/
structure Outcome.Like (w : Walk) (c : Composite τ μ) (d : UInt32) (o o' : Outcome τ μ) : Prop where
  scene : o.scene = o'.scene
  fault : o.fault = o'.fault
  status : o.fault = none → o.status = o'.status
  events : Unwraps w c d o.events o'.events

/-- The same of the progress of two composites of the given kind. -/
structure Progress.Like (w : Walk) (c : Composite τ μ) (d : UInt32) (kind : CompositeKind)
    (p p' : Progress τ μ) : Prop where
  scene : p.scene = p'.scene
  fault : p.fault = p'.fault
  statuses : p.fault = none → kind.Interchangeable p.statuses p'.statuses
  events : Unwraps w c d p.events p'.events

variable {w : Walk} {c : Composite τ μ} {d : UInt32} {kind : CompositeKind}

namespace Progress.Like

variable {p p' : Progress τ μ}

theorem refl (p : Progress τ μ) : Progress.Like w c d kind p p :=
  ⟨rfl, rfl, fun _ _ _ => rfl, .unreached _⟩

theorem append_left (h : Progress.Like w c d kind p p') (r : Progress τ μ) :
    Progress.Like w c d kind (r.append p) (r.append p') := by
  refine ⟨h.scene, h.fault, fun clean ss us => ?_, h.events.append_left _⟩
  have same := h.statuses clean (ss ++ r.statuses) us
  simp only [append, List.append_assoc] at same ⊢
  exact same

theorem append_right (h : Progress.Like w c d kind p p') (clean : p.fault = none)
    (q : Progress τ μ) : Progress.Like w c d kind (p.append q) (p'.append q) := by
  refine ⟨rfl, rfl, fun _ ss us => ?_, h.events.append_right _⟩
  have same := h.statuses clean ss (q.statuses ++ us)
  simp only [append, List.append_assoc] at same ⊢
  exact same

/-- A composite concludes alike from children that went alike. -/
theorem composite (h : Progress.Like w c d kind p p') (depth : UInt32) (label : Option String) :
    Outcome.Like w c d (w.composite depth kind label p) (w.composite depth kind label p') := by
  have status : (w.composite depth kind label p).status =
      (w.composite depth kind label p').status := by
    simp only [Walk.composite, ← h.fault]
    split
    · rfl
    · rename_i clean
      have same := h.statuses (Option.not_isSome_iff_eq_none.1 clean) [] []
      rwa [List.append_nil, List.append_nil] at same
  refine ⟨h.scene, h.fault, fun _ => status, ?_⟩
  simp only [Walk.composite] at status ⊢
  rw [status]
  exact h.events.append_right _

end Progress.Like

end Walk

namespace Node

open Walk (Outcome Progress)

/-- Whether two nodes at a given depth go alike in every scene, and evaluate the same leaves. -/
structure Alike (w : Walk) (c : Composite τ μ) (d depth : UInt32) (n n' : Node τ μ) : Prop where
  walk (s : Scene τ μ) : Outcome.Like w c d (n.walk w depth s) (n'.walk w depth s)
  evaluated (s : Scene τ μ) : n.evaluated w s = n'.evaluated w s

/-- The same of the children of a composite of the given kind. -/
structure AlikeAll (w : Walk) (c : Composite τ μ) (d depth : UInt32) (kind : CompositeKind)
    (ns ns' : List (Node τ μ)) : Prop where
  walk (s : Scene τ μ) :
    Progress.Like w c d kind (walkAll w kind ns depth s) (walkAll w kind ns' depth s)
  halts (s : Scene τ μ) :
    (walkAll w kind ns depth s).halts kind = (walkAll w kind ns' depth s).halts kind
  evaluated (s : Scene τ μ) : evaluatedAll w kind ns s = evaluatedAll w kind ns' s

variable {w : Walk} {c : Composite τ μ} {d depth : UInt32} {kind : CompositeKind}

/-- A composite goes like its children do in a row. -/
theorem alikeAll_unwrapped (w : Walk) (c : Composite τ μ) (depth : UInt32) :
    AlikeAll w c depth depth c.kind [c.node] c.children := by
  have walked (s : Scene τ μ) : c.node.walk w depth s =
      w.composite depth c.kind c.label ((walkAll w c.kind c.children depth s).deeper 1) := by
    rw [← walkAll_deeper, Composite.node, Node.walk]
  refine ⟨fun s => ?_, fun s => ?_, fun s => ?_⟩
  · have reached : Unwraps w c depth _ _ := .reached [] [] s
    rw [List.nil_append, List.nil_append, List.append_nil, List.append_nil] at reached
    rw [walkAll_singleton]
    rw [walked] at reached ⊢
    refine ⟨rfl, rfl, fun clean => ?_, reached⟩
    have status : (w.composite depth c.kind c.label
        ((walkAll w c.kind c.children depth s).deeper 1)).status =
        c.kind.verdict (walkAll w c.kind c.children depth s).statuses :=
      Walk.status_composite w depth c.label clean
    simp only [Outcome.first, status]
    exact CompositeKind.interchangeable_verdict c.kind _
  · rw [walkAll_singleton, Progress.halts_first, walked, Walk.halts_composite]
    rfl
  · rw [evaluatedAll_singleton, Composite.node, Node.evaluated]

section Alike

variable {n n' : Node τ μ} {ns ns' : List (Node τ μ)}

theorem Alike.singleton (h : Alike w c d depth n n') (kind : CompositeKind) :
    AlikeAll w c d depth kind [n] [n'] := by
  refine ⟨fun s => ?_, fun s => ?_, fun s => ?_⟩
  · obtain ⟨scene, fault, status, events⟩ := h.walk s
    rw [walkAll_singleton, walkAll_singleton]
    refine ⟨scene, fault, fun clean => ?_, events⟩
    simp only [Outcome.first, status clean]
    exact fun _ _ => rfl
  · obtain ⟨-, fault, status, -⟩ := h.walk s
    rw [walkAll_singleton, walkAll_singleton, Progress.halts_first, Progress.halts_first,
      Outcome.halts, Outcome.halts, ← fault]
    cases faulty : (n.walk w depth s).fault with
    | some fault => rfl
    | none => rw [status faulty]
  · rw [evaluatedAll_singleton, evaluatedAll_singleton, h.evaluated]

theorem AlikeAll.append_left (h : AlikeAll w c d depth kind ns ns') (before : List (Node τ μ)) :
    AlikeAll w c d depth kind (before ++ ns) (before ++ ns') := by
  refine ⟨fun s => ?_, fun s => ?_, fun s => ?_⟩
  · rw [walkAll_append, walkAll_append]
    split
    · exact .refl _
    · exact (h.walk _).append_left _
  · rw [halts_walkAll_append, halts_walkAll_append, h.halts]
  · rw [evaluatedAll_append w kind before ns depth, evaluatedAll_append w kind before ns' depth,
      h.evaluated]

theorem AlikeAll.append_right (h : AlikeAll w c d depth kind ns ns') (after : List (Node τ μ)) :
    AlikeAll w c d depth kind (ns ++ after) (ns' ++ after) := by
  refine ⟨fun s => ?_, fun s => ?_, fun s => ?_⟩
  · rw [walkAll_append, walkAll_append, ← h.halts s, ← (h.walk s).scene]
    split
    · exact h.walk s
    · rename_i on
      exact (h.walk s).append_right (Progress.fault_of_not_halts on) _
  · rw [halts_walkAll_append, halts_walkAll_append, h.halts, (h.walk s).scene]
  · rw [evaluatedAll_append w kind ns after depth, evaluatedAll_append w kind ns' after depth,
      h.evaluated, h.halts, (h.walk s).scene]

theorem AlikeAll.only (h : AlikeAll w c d depth kind [n] [n']) : Alike w c d depth n n' := by
  refine ⟨fun s => ?_, fun s => ?_⟩
  · obtain ⟨scene, fault, statuses, events⟩ := h.walk s
    rw [walkAll_singleton, walkAll_singleton] at scene fault statuses events
    refine ⟨scene, fault, fun clean => ?_, events⟩
    have same := statuses clean [] []
    simp only [Outcome.first, List.nil_append, List.append_nil,
      CompositeKind.verdict_singleton] at same
    exact same
  · have same := h.evaluated s
    rwa [evaluatedAll_singleton, evaluatedAll_singleton] at same

theorem AlikeAll.composite (h : AlikeAll w c d (depth + 1) kind ns ns') (label : Option String) :
    Alike w c d depth (.composite kind label ns) (.composite kind label ns') where
  walk s := by
    simp only [Node.walk]
    exact (h.walk s).composite depth label
  evaluated s := by
    simp only [Node.evaluated]
    exact h.evaluated s

end Alike

/-- Flattening changes nothing but what is reported of the composite that goes. -/
theorem alike_of_flattens {levels : UInt32} {n n' : Node τ μ} (h : Flattens c levels n n')
    (w : Walk) (depth : UInt32) : Alike w c (depth + levels) depth n n' := by
  induction h generalizing depth with
  | splice label before after =>
    have alike := (alikeAll_unwrapped w c (depth + 1)).append_left before
    exact (alike.append_right after).composite label
  | single only =>
    have alike := alikeAll_unwrapped w c depth
    rw [only] at alike
    rw [UInt32.add_zero]
    exact alike.only
  | within kind label before after h ih =>
    rename_i levels n n'
    have deeper := ih (depth + 1)
    rw [UInt32.add_assoc, UInt32.add_comm 1] at deeper
    have alike := (deeper.singleton kind).append_left before
    exact (alike.append_right after).composite label

end Node

/-! ## Ticks and updates -/

/-- A tree and its flattened form evaluate the same leaves in the same order and leave the same
scene. A tick of either returns the same status. Updates fail with the same error or succeed
alike, so that trees with either root go on as trees that differ in nothing but the root and the
events they have kept; and these, like those of a tick, differ by what is reported of the composite
that is gone. -/
theorem flattening_keeps_meaning {c : Composite τ μ} {levels : UInt32} {n n' : Node τ μ}
    (h : Flattens c levels n n') :
    (∀ (number : UInt64) (s : Scene τ μ), n.tick s = n'.tick s ∧
      n.evaluated ⟨false, number⟩ s.settled = n'.evaluated ⟨false, number⟩ s.settled ∧
      Unwraps ⟨false, number⟩ c levels (n.tickTraced number s).2.2 (n'.tickTraced number s).2.2) ∧
    ∀ t : BehaviourTree τ μ,
      let w : Walk := ⟨true, t.ticks⟩
      let u := { t with root := some n }.update
      let u' := { t with root := some n' }.update
      n.evaluated w t.scene.settled = n'.evaluated w t.scene.settled ∧
        ∃ events events', Unwraps w c levels events events' ∧
          u.2.sink = t.sink.receive events ∧
          u' = (u.1, { u.2 with root := some n', sink := t.sink.receive events' }) := by
  have alike (w : Walk) : Node.Alike w c levels 0 n n' := by
    have at_root := Node.alike_of_flattens h w 0
    rwa [UInt32.zero_add] at at_root
  refine ⟨fun number s => ?_, fun t => ?_⟩
  · obtain ⟨scene, -, status, events⟩ := (alike ⟨false, number⟩).walk s.settled
    have same := status (Node.fault_lenient number n 0 s.settled)
    refine ⟨?_, (alike ⟨false, number⟩).evaluated s.settled, events⟩
    rw [Node.tick_eq_walkFrom number n, Node.tick_eq_walkFrom number n']
    exact Prod.ext same scene
  · intro w u u'
    obtain ⟨scene, fault, status, events⟩ := (alike ⟨true, t.ticks⟩).walk t.scene.settled
    refine ⟨(alike w).evaluated t.scene.settled, _, _, events, ?_⟩
    cases faulty : (n.walk ⟨true, t.ticks⟩ 0 t.scene.settled).fault with
    | some f =>
      have first : u = _ :=
        BehaviourTree.update_of_fault (t := { t with root := some n }) rfl faulty
      have second : u' = _ := BehaviourTree.update_of_fault (t := { t with root := some n' }) rfl
        (fault.symm.trans faulty)
      rw [first, second]
      simp only [Node.walkFrom, scene]
      exact ⟨trivial, trivial⟩
    | none =>
      have first : u = _ :=
        BehaviourTree.update_of_no_fault (t := { t with root := some n }) rfl faulty
      have second : u' = _ := BehaviourTree.update_of_no_fault (t := { t with root := some n' }) rfl
        (fault.symm.trans faulty)
      rw [first, second]
      simp only [Node.walkFrom, scene, status faulty]
      exact ⟨trivial, trivial⟩

/-- A leaf that counts how often it is evaluated. -/
def counter (name : String) : Node EntryType Nat :=
  .action (.named name) fun s => (.success, { s with memory := s.memory + 1 })

/-- A sequence that loses its way between two counters. -/
def detour : Composite EntryType Nat :=
  let lost : Predicate EntryType := do
    let found ← Query.look (t := .bool) ⟨"Nowhere"⟩
    return found.isNone
  ⟨.sequence, some "Detour",
    [counter "Out", .condition (.named "Lost") false lost, counter "Back"]⟩

/-- A root that takes the given way between two more. -/
def journey (way : List (Node EntryType Nat)) : Node EntryType Nat :=
  .runAll [.sequence ([counter "Leave"] ++ way ++ [counter "Arrive"])]

/-- Either way a tick counts to four, and an update that has counted to two gets lost. -/
theorem flattening_keeps_meaning_detour :
    let away : Scene EntryType Nat := ⟨⟨∅, none⟩, 0⟩
    let updated (way : List (Node EntryType Nat)) :=
      { BehaviourTree.withoutRoot away with root := some (journey way) }.update
    Flattens detour (1 + 1) (journey [detour.node]) (journey detour.children) ∧
      (journey [detour.node]).tick away = (journey detour.children).tick away ∧
      ((journey detour.children).tick away).2.memory = 4 ∧
      (updated [detour.node]).1 = (updated detour.children).1 ∧
      (updated detour.children).1 = .error (.unregisteredKey "Lost" "Nowhere") ∧
      (updated detour.children).2.scene.memory = 2 := by
  intro away updated
  have flattens : Flattens detour (1 + 1) (journey [detour.node]) (journey detour.children) :=
    .within .runAll none [] [] (.splice none _ _)
  obtain ⟨ticks, updates⟩ := flattening_keeps_meaning flattens
  obtain ⟨-, events, events', -, -, same⟩ := updates (BehaviourTree.withoutRoot away)
  have results := congrArg Prod.fst same.symm
  exact ⟨flattens, (ticks 0 away).1, rfl, results, rfl, rfl⟩

end Forager
