import Forager.Proofs.StandardWalk

/-!
# Which branch decided

The events of a walk name the nodes that were evaluated, so they tell which branch of the standard
tree had the last say. A branch of a selector is evaluated only once those in front of it have
failed, and what a branch reports of itself is what it realises. So the walk reports that the agent
collects exactly if nothing more urgent is to be done, a slot is free and an item is known.

* `name_of_mem_events`: events name nodes of the tree.
* `Realises.reports_skip`, `Realises.reports_first`, `Realises.reports_self`: reports of a later
  branch, of the first, and of a branch on itself.
* `StandardTree.reports_collecting_iff`: when the walk reports that the agent collects.
-/
namespace Forager

open Node

/-! ## Names in events -/

namespace Node

variable {τ μ : Type} [EntryTypes τ]

/-- The names of the nodes of a subtree. -/
def names (n : Node τ μ) : List String := n.nodes.map name

def namesAll (ns : List (Node τ μ)) : List String := (nodesAll ns).map name

theorem namesAll_cons (n : Node τ μ) (ns : List (Node τ μ)) :
    namesAll (n :: ns) = n.names ++ namesAll ns := by
  rw [namesAll, nodesAll, List.map_append, names, namesAll]

theorem names_composite (kind : CompositeKind) (label : Option String) (ns : List (Node τ μ)) :
    (Node.composite kind label ns).names = label.getD kind.name :: namesAll ns := by
  rw [names, nodes, List.map_cons, namesAll, name]

mutual
theorem name_of_mem_events (w : Walk) : ∀ (n : Node τ μ) (depth : UInt32) (s : Scene τ μ),
    ∀ e ∈ (n.walk w depth s).events, e.node ∈ n.names
  | .action leaf effect, depth, s, e, he => by
    simp only [walk, Walk.leaf, List.mem_singleton] at he
    rw [he]
    exact List.mem_singleton_self leaf.name
  | .condition leaf inverse p, depth, s, e, he => by
    simp only [walk, Walk.leaf, List.mem_singleton] at he
    rw [he]
    exact List.mem_singleton_self leaf.name
  | .composite kind label children, depth, s, e, he => by
    simp only [walk, Walk.composite, List.mem_append, List.mem_singleton] at he
    rw [names_composite]
    rcases he with he | he
    · exact List.mem_cons_of_mem _ (name_of_mem_eventsAll w kind children (depth + 1) s e he)
    · rw [he]
      exact List.mem_cons_self

theorem name_of_mem_eventsAll (w : Walk) (kind : CompositeKind) :
    ∀ (ns : List (Node τ μ)) (depth : UInt32) (s : Scene τ μ),
      ∀ e ∈ (walkAll w kind ns depth s).events, e.node ∈ namesAll ns
  | [], depth, s, e, he => by
    simp only [walkAll, List.not_mem_nil] at he
  | n :: ns, depth, s, e, he => by
    rw [namesAll_cons, List.mem_append]
    simp only [walkAll] at he
    split at he
    · exact .inl (name_of_mem_events w n depth s e he)
    · rcases List.mem_append.1 he with he | he
      · exact .inl (name_of_mem_events w n depth s e he)
      · exact .inr (name_of_mem_eventsAll w kind ns depth _ e he)
end

end Node

/-! ## Reports of success -/

/-- Whether a node of the given name is reported to have succeeded. -/
def Reported (name : String) (events : List Event) : Prop :=
  ∃ e ∈ events, e.node = name ∧ e.status = .success

section Reported

variable {name : String} {events events' : List Event} {e : Event}

theorem reports_append :
    Reported name (events ++ events') ↔ Reported name events ∨ Reported name events' := by
  simp only [Reported, List.mem_append, or_and_right, exists_or]

theorem reports_singleton : Reported name [e] ↔ e.node = name ∧ e.status = .success := by
  simp only [Reported, List.mem_singleton, exists_eq_left]

variable {μ : Type} {w : Walk} {depth : UInt32} {b : Beliefs} {m : Entries EntryType} {memory : μ}
  {n : StandardTree.AgentNode μ} {ns : List (StandardTree.AgentNode μ)} {f : Reaction}
  {kind : CompositeKind} {label : Option String} {s : Scene EntryType μ}

theorem not_reports (other : name ∉ n.names) : ¬Reported name (n.walk w depth s).events := by
  rintro ⟨e, he, rfl, -⟩
  exact other (name_of_mem_events w n depth s e he)

theorem not_reports_all (other : name ∉ namesAll ns) :
    ¬Reported name (walkAll w kind ns depth s).events := by
  rintro ⟨e, he, rfl, -⟩
  exact other (name_of_mem_eventsAll w kind ns depth s e he)

/-- A composite of another name reports what its children do. -/
theorem reports_within (other : label.getD kind.name ≠ name) :
    Reported name ((Node.composite kind label ns).walk w depth s).events ↔
      Reported name (walkAll w kind ns (depth + 1) s).events := by
  simp only [walk, Walk.composite, reports_append, reports_singleton, other, false_and, or_false]

/-- A later branch has its say if the first one fails. -/
theorem Realises.reports_skip (hn : Realises n f) (other : name ∉ n.names) :
    Reported name (walkAll w .selector (n :: ns) depth (b.scene m memory)).events ↔
      (f b).1 = .failure ∧
        Reported name (walkAll w .selector ns depth ((f b).2.scene m memory)).events := by
  obtain ⟨status, scene, fault⟩ := hn w depth b m memory
  have silent : ¬Reported name (n.walk w depth (b.scene m memory)).events := not_reports other
  simp only [walkAll, fault, status, scene, Option.isSome_none, Bool.false_or,
    CompositeKind.stopsAt, bne_iff_ne]
  by_cases failed : (f b).1 = .failure
  · simp only [failed, ne_eq, not_true, if_false, reports_append, silent, false_or, true_and]
  · simp only [failed, ne_eq, not_false_iff, if_true, silent, false_and]

/-- The first branch always has its say. -/
theorem Realises.reports_first (hn : Realises n f) (other : name ∉ namesAll ns) :
    Reported name (walkAll w .selector (n :: ns) depth (b.scene m memory)).events ↔
      Reported name (n.walk w depth (b.scene m memory)).events := by
  obtain ⟨-, -, fault⟩ := hn w depth b m memory
  simp only [walkAll, fault, Option.isSome_none, Bool.false_or]
  split
  · rfl
  · exact reports_append.trans (or_iff_left (not_reports_all other))

/-- What a composite reports of itself is what it comes to. -/
theorem Realises.reports_self (hn : Realises n f) (name : String)
    (composed : n = .composite kind label ns) (own : label.getD kind.name = name)
    (other : name ∉ namesAll ns) :
    Reported name (n.walk w depth (b.scene m memory)).events ↔ (f b).1 = .success := by
  rw [← (hn w depth b m memory).1, composed]
  simp only [walk, Walk.composite, reports_append, not_reports_all other, false_or,
    reports_singleton, own, true_and]

end Reported

/-! ## Collecting -/

namespace Beliefs

/-- Whether the agent is low on health and holds or knows of a health pack. -/
def tendsHealth (b : Beliefs) : Bool :=
  b.lowHealth && (b.inventory.contains .health || !b.knownHealthPacks.isEmpty)

/-- Whether the agent is low on energy and knows of food. -/
def fetchesFood (b : Beliefs) : Bool := b.lowEnergy && !b.knownFoodItems.isEmpty

/-- Whether collecting decides what the agent does: health and energy are not more urgent, a slot
is free, and an item is known. -/
structure Collects (b : Beliefs) : Prop where
  healthy : b.tendsHealth = false
  fed : b.fetchesFood = false
  space : b.inventory.hasSpace = true
  known : b.knowsItems = true

theorem collects_of_undirected {b b' : Beliefs} (h : b.undirected = b'.undirected) :
    b.Collects ↔ b'.Collects := by
  have healthy := eq_of_undirected tendsHealth (fun _ => rfl) h
  have fed := eq_of_undirected fetchesFood (fun _ => rfl) h
  have space := eq_of_undirected (·.inventory.hasSpace) (fun _ => rfl) h
  have known := eq_of_undirected knowsItems (fun _ => rfl) h
  exact ⟨fun c => ⟨healthy ▸ c.healthy, fed ▸ c.fed, space ▸ c.space, known ▸ c.known⟩,
    fun c => ⟨healthy ▸ c.healthy, fed ▸ c.fed, space ▸ c.space, known ▸ c.known⟩⟩

/-- The beliefs once every stage above collecting has had its say and none has decided. -/
def disengaged (b : Beliefs) : Beliefs :=
  b.dropReachedGoal.dropReachedSoftGoal.requestMeal.requestShot

theorem undirected_dropReached (b : Beliefs) :
    b.dropReachedGoal.dropReachedSoftGoal.undirected = b.undirected :=
  (undirected_dropReachedSoftGoal _).trans (undirected_dropReachedGoal b)

theorem undirected_disengaged (b : Beliefs) : b.disengaged.undirected = b.undirected :=
  (undirected_requestShot _).trans ((undirected_requestMeal _).trans (undirected_dropReached b))

theorem tendsHealth_eq_false_iff {b : Beliefs} : b.tendsHealth = false ↔
    ¬(b.lowHealth && b.inventory.contains .health) = true ∧
      ¬(b.lowHealth && !b.knownHealthPacks.isEmpty) = true := by
  rw [tendsHealth, Bool.and_or_distrib_left, Bool.or_eq_false_iff, Bool.not_eq_true,
    Bool.not_eq_true]

/-- An agent that collects heads for what it has chosen to collect. -/
theorem Collects.prioritise {b : Beliefs} (h : b.Collects) :
    b.prioritise = b.disengaged.seek b.disengaged.collectible? := by
  have dropped := undirected_dropReached b
  have fed := (undirected_requestMeal _).trans dropped
  obtain ⟨noHeal, noPack⟩ :=
    tendsHealth_eq_false_iff.1 ((collects_of_undirected dropped).2 h).healthy
  have noFood := Bool.eq_false_iff.1 ((collects_of_undirected fed).2 h).fed
  obtain ⟨-, -, space, known⟩ := (collects_of_undirected b.undirected_disengaged).2 h
  rw [Beliefs.prioritise]
  dsimp only
  rw [if_neg noHeal, if_neg noPack]
  exact (if_neg noFood).trans (if_pos (Bool.and_eq_true_iff.2 ⟨space, known⟩))

end Beliefs

theorem Reaction.guarded_success_iff {p : Beliefs → Bool} {f : Beliefs → Beliefs} {b : Beliefs} :
    (guarded p f b).1 = .success ↔ p b = true := by
  rw [guarded]
  split
  · rename_i holds
    exact iff_of_true rfl holds
  · rename_i fails
    refine iff_of_false (fun done => ?_) fails
    cases done

namespace StandardTree

open Reaction

variable {μ : Type} {w : Walk} {depth : UInt32} {b : Beliefs} {m : Entries EntryType} {memory : μ}
  {ns : List (AgentNode μ)} {name : String}

theorem reports_past_health (other : name ∉ (healthBranch : AgentNode μ).names) :
    Reported name (walkAll w .selector (healthBranch :: ns) depth (b.scene m memory)).events ↔
      b.tendsHealth = false ∧
        Reported name (walkAll w .selector ns depth (b.scene m memory)).events := by
  rw [healthBranch_realises.reports_skip other, Beliefs.tendsHealth_eq_false_iff, guarded_orElse,
    guarded_orElse]
  split
  · rename_i heal
    exact iff_of_false nofun fun h => h.1.1 heal
  · rename_i noHeal
    split
    · rename_i pack
      exact iff_of_false nofun fun h => h.1.2 pack
    · rename_i noPack
      exact and_congr_left' (iff_of_true rfl ⟨noHeal, noPack⟩)

theorem reports_past_energy (other : name ∉ (energyBranch : AgentNode μ).names) :
    Reported name (walkAll w .selector (energyBranch :: ns) depth (b.scene m memory)).events ↔
      b.requestMeal.fetchesFood = false ∧
        Reported name (walkAll w .selector ns depth (b.requestMeal.scene m memory)).events := by
  rw [energyBranch_realises.reports_skip other, passing_orElse, guarded_orElse]
  split
  · rename_i food
    exact iff_of_false nofun fun h => Bool.eq_false_iff.1 h.1 food
  · rename_i noFood
    exact and_congr_left' (iff_of_true rfl (Bool.eq_false_iff.2 noFood))

/-- The walk reports that the agent collects exactly if collecting decides what it does. -/
theorem reports_collecting_iff :
    Reported "CollectItems" (root.walk w depth (b.scene m memory)).events ↔ b.Collects := by
  rw [root, Node.selector, Node.labelled, reports_within (by decide),
    clearReachedGoal_realises.reports_skip (of_decide_eq_false rfl),
    clearReachedSoftGoal_realises.reports_skip (of_decide_eq_false rfl),
    reports_past_health (of_decide_eq_false rfl), reports_past_energy (of_decide_eq_false rfl),
    shootBranch_realises.reports_skip (of_decide_eq_false rfl),
    collectItemsBranch_realises.reports_first (of_decide_eq_false rfl),
    collectItemsBranch_realises.reports_self "CollectItems" rfl rfl (of_decide_eq_false rfl)]
  simp only [passing, true_and, guarded_success_iff, Bool.and_eq_true]
  -- The stages in between leave alone what is asked for here.
  have dropped := Beliefs.undirected_dropReached b
  have fed := (Beliefs.undirected_requestMeal _).trans dropped
  have armed := (Beliefs.undirected_requestShot _).trans fed
  rw [Beliefs.eq_of_undirected Beliefs.tendsHealth (fun _ => rfl) dropped,
    Beliefs.eq_of_undirected Beliefs.fetchesFood (fun _ => rfl) fed,
    Beliefs.eq_of_undirected (·.inventory.hasSpace) (fun _ => rfl) armed,
    Beliefs.eq_of_undirected Beliefs.knowsItems (fun _ => rfl) armed]
  constructor
  · rintro ⟨healthy, fed, space, known⟩
    exact ⟨healthy, fed, space, known⟩
  · rintro ⟨healthy, fed, space, known⟩
    exact ⟨healthy, fed, space, known⟩

end StandardTree
end Forager
