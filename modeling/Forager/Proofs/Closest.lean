import Forager.Proofs.Foremost
import Forager.Proofs.LeafReactions
import Forager.Proofs.Transactions

/-!
# The first closest

A search for the closest element holds on to one of them; a later one takes its place unless the
distance of the held one is at most its own. So of several that are equally close the first is
found, as long as no distance is NaN, which takes any place and gives way to anything. What does not
count is left out before the search; what is found is still the first closest of the whole list.

* `Search.First`: the first closest of the elements that count; `Search.First.unique`: there is but
  one.
* `Search.first_of_split`: it is closer than all before it and at least as close as all after it.
* `nearest?_eq_some_iff`, `nearestEnemyInView?_eq_some_iff`: what the two searches find.
* `headsForFirst_pursue`: what becomes of entries when the agent heads for what is found.
* `heads_for_first_closest`: hence where four leaves of the library head for.
-/
namespace Forager

/-! ## Searches -/

/-- A search from `origin` for the closest of the elements that count. -/
structure Search (α : Type) where
  origin : Vec2
  elements : List α
  position : α → Vec2
  counts : α → Bool

namespace Search

/-- A search in which everything counts. -/
def all {α : Type} (elements : List α) (origin : Vec2) (position : α → Vec2) : Search α where
  origin := origin
  elements := elements
  position := position
  counts := fun _ => true

section

variable {α : Type} (σ : Search α)

def distance (a : α) : Float32 := (σ.position a).distance σ.origin

/-- Whether the distances of all elements that count are numbers. -/
def Comparable : Prop := ∀ a ∈ σ.elements, σ.counts a = true → (σ.distance a).isNaN = false

instance : Decidable σ.Comparable :=
  inferInstanceAs (Decidable (∀ a ∈ σ.elements, σ.counts a = true → (σ.distance a).isNaN = false))

/-- Whether nothing counts. -/
def Void : Prop := ∀ a ∈ σ.elements, σ.counts a = false

/-- Whether the element at an index counts and has the least distance of those that do. -/
structure Closest (i : Nat) (a : α) : Prop where
  here : σ.elements[i]? = some a
  counts : σ.counts a = true
  least : ∀ b ∈ σ.elements, σ.counts b = true → σ.distance a ≤ σ.distance b

/-- Whether, moreover, no smaller index has such an element. -/
structure First (i : Nat) (a : α) : Prop extends σ.Closest i a where
  first : ∀ j b, σ.Closest j b → i ≤ j

/-- What a search finds that goes through the elements that count. -/
def closest? : Option α :=
  choose (fun best c => decide (σ.distance best ≤ σ.distance c)) (σ.elements.filter σ.counts)

def target? : Option Vec2 := σ.closest?.map σ.position

end

variable {α : Type} {σ : Search α}

theorem First.unique {i j : Nat} {a b : α} (h : σ.First i a) (h' : σ.First j b) :
    i = j ∧ a = b := by
  have same : i = j := le_antisymm (h.first j b h'.toClosest) (h'.first i a h.toClosest)
  subst same
  exact ⟨rfl, Option.some.inj (h.here.symm.trans h'.here)⟩

theorem First.not_void {i : Nat} {a : α} (h : σ.First i a) : ¬σ.Void := fun void => by
  cases (void a (List.mem_of_getElem? h.here)).symm.trans h.counts

/-- What is closer than all that count before it, and at least as close as all that count after it,
is the first closest. -/
theorem first_of_split (comparable : σ.Comparable) {a : α} {before after : List α}
    (split : σ.elements = before ++ a :: after) (counts : σ.counts a = true)
    (closer : ∀ b ∈ before, σ.counts b = true → ¬σ.distance b ≤ σ.distance a)
    (close : ∀ b ∈ after, σ.counts b = true → σ.distance a ≤ σ.distance b) :
    σ.First before.length a := by
  have known : a ∈ σ.elements := split ▸ List.mem_append_cons_self
  refine ⟨⟨?_, counts, fun b hb hc => ?_⟩, fun j b closest => ?_⟩
  · rw [split, List.getElem?_append_right le_rfl, Nat.sub_self, List.getElem?_cons_zero]
  · have total := Single.le_total (comparable a known counts) (comparable b hb hc)
    rw [split, List.mem_append, List.mem_cons] at hb
    rcases hb with hb | rfl | hb
    · exact total.resolve_right (closer b hb hc)
    · exact total.elim id id
    · exact close b hb hc
  · by_contra earlier
    have here := closest.here
    rw [split, List.getElem?_append_left (not_le.1 earlier)] at here
    exact closer b (List.mem_of_getElem? here) closest.counts (closest.least a known counts)

/-! ## What a search finds -/

/-- Off NaN, what is chosen by distance replaced all before it and stayed against all after it. -/
theorem split_of_choose {β : Type} {distance : β → Float32} {l : List β} {c : β}
    (numbers : ∀ a ∈ l, (distance a).isNaN = false)
    (h : choose (fun best c => decide (distance best ≤ distance c)) l = some c) :
    ∃ pre post, l = pre ++ c :: post ∧ (∀ a ∈ pre, ¬distance a ≤ distance c) ∧
      ∀ a ∈ post, distance c ≤ distance a := by
  obtain ⟨pre, post, split, before, after⟩ :=
    choose_split (S := fun a => (distance a).isNaN = false)
      (fun a b ha hb => (Single.le_total ha hb).imp decide_eq_true decide_eq_true)
      (fun _ _ _ hab hbc => decide_eq_true
        (Single.le_trans (of_decide_eq_true hab) (of_decide_eq_true hbc))) numbers h
  exact ⟨pre, post, split, fun a ha le => before a ha (decide_eq_true le),
    fun a ha => of_decide_eq_true (after a ha)⟩

/-- Where something stands among what is left of a list it stands in the list. -/
theorem split_of_filter {p : α → Bool} {l pre post : List α} {a : α}
    (h : l.filter p = pre ++ a :: post) :
    ∃ before after, l = before ++ a :: after ∧ p a = true ∧
      (∀ b ∈ before, p b = true → b ∈ pre) ∧ ∀ b ∈ after, p b = true → b ∈ post := by
  obtain ⟨front, rest, rfl, rfl, others⟩ := List.filter_eq_append_iff.1 h
  obtain ⟨dropped, after, rfl, none, counts, rfl⟩ := List.filter_eq_cons_iff.1 others
  refine ⟨front ++ dropped, after, (List.append_assoc ..).symm, counts, fun b hb hp => ?_,
    fun b hb hp => List.mem_filter.2 ⟨hb, hp⟩⟩
  rcases List.mem_append.1 hb with hb | hb
  · exact List.mem_filter.2 ⟨hb, hp⟩
  · exact absurd hp (none b hb)

theorem closest?_eq_none_iff : σ.closest? = none ↔ σ.Void := by
  rw [closest?, choose_eq_none_iff, List.filter_eq_nil_iff]
  simp only [Bool.not_eq_true, Void]

/-- A search that leaves out what does not count finds the first closest of the whole list. -/
theorem exists_first_of_closest? (comparable : σ.Comparable) {a : α} (h : σ.closest? = some a) :
    ∃ i, σ.First i a := by
  have numbers : ∀ b ∈ σ.elements.filter σ.counts, (σ.distance b).isNaN = false := fun b hb =>
    comparable b (List.mem_filter.1 hb).1 (List.mem_filter.1 hb).2
  obtain ⟨pre, post, filtered, closer, close⟩ := split_of_choose numbers h
  obtain ⟨before, after, split, counts, inPre, inPost⟩ := split_of_filter filtered
  exact ⟨before.length, first_of_split comparable split counts
    (fun b hb hc => closer b (inPre b hb hc)) (fun b hb hc => close b (inPost b hb hc))⟩

theorem closest?_eq_some_iff (comparable : σ.Comparable) {a : α} :
    σ.closest? = some a ↔ ∃ i, σ.First i a := by
  constructor
  · exact exists_first_of_closest? comparable
  · rintro ⟨i, first⟩
    cases found : σ.closest? with
    | none => exact absurd (closest?_eq_none_iff.1 found) first.not_void
    | some b =>
      obtain ⟨j, first'⟩ := exists_first_of_closest? comparable found
      rw [(first.unique first').2]

end Search

/-! ## The searches of the library -/

namespace Library

variable {α : Type}

section Nearest

variable {items : List α} {origin : Vec2} {position : α → Vec2} {i : Nat} {a : α} {d : Float32}

/-- A search that keeps track of indices goes by the distances alone. -/
theorem nearest?_eq (items : List α) (origin : Vec2) (position : α → Vec2) :
    let distance := (Search.all items origin position).distance
    nearest? items origin position =
      (choose (fun best c => decide (distance best.1 ≤ distance c.1)) items.zipIdx).map
        fun s => (s.2, s.1, distance s.1) := by
  intro distance
  rw [nearest?, choose_map]
  rfl

/-- What is paired with an index stands there. -/
theorem split_of_zipIdx {pre post : List (α × Nat)} (h : items.zipIdx = pre ++ (a, i) :: post) :
    items = pre.map Prod.fst ++ a :: post.map Prod.fst ∧ i = (pre.map Prod.fst).length := by
  constructor
  · rw [← List.zipIdx_map_fst 0 items, h, List.map_append, List.map_cons]
  · have here : items.zipIdx[pre.length]? = some (a, i) := by
      rw [h, List.getElem?_append_right le_rfl, Nat.sub_self, List.getElem?_cons_zero]
    rw [List.getElem?_zipIdx, Option.map_eq_some_iff] at here
    obtain ⟨b, -, same⟩ := here
    rw [List.length_map, ← (Prod.mk.inj same).2, Nat.zero_add]

/-- The index that is found is that of the first closest. -/
theorem first_of_nearest? (comparable : (Search.all items origin position).Comparable)
    (h : nearest? items origin position = some (i, a, d)) :
    (Search.all items origin position).First i a ∧
      d = (Search.all items origin position).distance a := by
  rw [nearest?_eq, Option.map_eq_some_iff] at h
  obtain ⟨⟨b, j⟩, chosen, same⟩ := h
  rw [Prod.mk.injEq, Prod.mk.injEq] at same
  obtain ⟨rfl, rfl, rfl⟩ := same
  have numbers : ∀ s ∈ items.zipIdx,
      ((Search.all items origin position).distance s.1).isNaN = false :=
    fun s hs => comparable s.1 (List.fst_mem_of_mem_zipIdx hs) rfl
  obtain ⟨pre, post, indexed, closer, close⟩ := Search.split_of_choose numbers chosen
  obtain ⟨split, rfl⟩ := split_of_zipIdx indexed
  refine ⟨Search.first_of_split comparable split rfl (fun c hc _ => ?_) fun c hc _ => ?_, rfl⟩
  · obtain ⟨s, hs, rfl⟩ := List.mem_map.1 hc
    exact closer s hs
  · obtain ⟨s, hs, rfl⟩ := List.mem_map.1 hc
    exact close s hs

theorem nearest?_eq_some_iff (comparable : (Search.all items origin position).Comparable) :
    nearest? items origin position = some (i, a, d) ↔
      (Search.all items origin position).First i a ∧
        d = (Search.all items origin position).distance a := by
  constructor
  · exact first_of_nearest? comparable
  · rintro ⟨first, rfl⟩
    cases found : nearest? items origin position with
    | none =>
      have known := List.mem_of_getElem? first.here
      rw [Search.all, nearest?_eq_none_iff.1 found] at known
      cases known
    | some r =>
      obtain ⟨j, b, d⟩ := r
      obtain ⟨first', rfl⟩ := first_of_nearest? comparable found
      obtain ⟨rfl, rfl⟩ := first.unique first'
      rfl

end Nearest

/-- The search among the enemies in view. -/
def enemySearch (enemies : List Enemy) (agent : Agent) : Search Enemy where
  origin := agent.position
  elements := enemies
  position := (·.position)
  counts := (·.inView)

theorem nearestEnemyInView?_eq_closest? (enemies : List Enemy) (agent : Agent) :
    nearestEnemyInView? enemies agent = (enemySearch enemies agent).closest?.map fun e =>
      (e, (enemySearch enemies agent).distance e) := by
  rw [nearestEnemyInView?, choose_map]
  rfl

theorem nearestEnemyInView?_eq_some_iff {enemies : List Enemy} {agent : Agent}
    (comparable : (enemySearch enemies agent).Comparable) {e : Enemy} {d : Float32} :
    nearestEnemyInView? enemies agent = some (e, d) ↔
      (∃ i, (enemySearch enemies agent).First i e) ∧
        d = (enemySearch enemies agent).distance e := by
  rw [nearestEnemyInView?_eq_closest?, ← Search.closest?_eq_some_iff comparable,
    Option.map_eq_some_iff]
  simp only [Prod.mk.injEq]
  constructor
  · rintro ⟨_, found, rfl, rfl⟩
    exact ⟨found, rfl⟩
  · rintro ⟨found, rfl⟩
    exact ⟨e, found, rfl, rfl⟩

theorem nearestElement?_eq_closest? (σ : Search α) :
    nearestElement? (σ.elements.filter σ.counts) σ.origin σ.position = σ.closest? :=
  nearestElement?_eq_choose ..

/-! ## Heading for what is found -/

/-- Whether there is a goal to set. -/
def GoalHeld (m : Entries EntryType) : Prop :=
  m.typeOf? Schema.goal.name = some .vec2 ∧ m.typeOf? Schema.goalSet.name = some .bool

theorem setGoal_cases (m : Entries EntryType) (missing : Option String) (target : Vec2) :
    let r := setGoal target ⟨m, missing⟩
    GoalHeld m ∧ r.1 = .success ∧ Committed (heading target) m r.2.entries ∨
      ¬GoalHeld m ∧ r.1 = .failure ∧ r.2.entries = m := by
  intro r
  by_cases held : GoalHeld m
  · exact .inl ⟨held, setGoal_held missing target held.1 held.2⟩
  · refine .inr ⟨held, ?_⟩
    have atomic : Atomic m (· = heading target) (setGoal target) := atomic_setGoal rfl
    rcases atomic missing with refused | made
    · exact refused
    · obtain ⟨-, plan, rfl, committed⟩ := made
      have goal := committed.held ⟨_, Schema.goal, target⟩ (by simp [heading])
      have goalSet := committed.held ⟨_, Schema.goalSet, true⟩ (by simp [heading])
      exact absurd ⟨goal, goalSet⟩ held

/-- What becomes of entries, which may show a search, when the agent heads for the first closest:
that is made the goal if something counts and there is a goal to set; else nothing is written. -/
structure HeadsForFirst (search : Option (Search α)) (before : Entries EntryType) (status : Status)
    (after : Entries EntryType) : Prop where
  success_iff : status = .success ↔ GoalHeld before ∧ ∃ σ, search = some σ ∧ ¬σ.Void
  headed : status = .success → ∀ σ, search = some σ → σ.Comparable →
    ∃ i a, σ.First i a ∧ Committed (heading (σ.position a)) before after
  refused : status ≠ .success → status = .failure ∧ after = before

/-- Where there is a goal to set, the goal is the position of the first closest. -/
theorem HeadsForFirst.read_goal {σ : Search α} {m m' : Entries EntryType} {status : Status}
    {i : Nat} {a : α} (h : HeadsForFirst (some σ) m status m') (held : GoalHeld m)
    (comparable : σ.Comparable) (first : σ.First i a) :
    m'.read Schema.goal = .ok (σ.position a) := by
  have success := h.success_iff.2 ⟨held, σ, rfl, first.not_void⟩
  obtain ⟨j, b, first', made⟩ := h.headed success σ rfl comparable
  rw [(first.unique first').2]
  exact made.made ⟨.vec2, Schema.goal, σ.position b⟩ List.mem_cons_self

/-- Heads for what a search finds, or fails. -/
def pursue (search : Option (Search α)) : Edit EntryType Status :=
  (search.bind Search.target?).elim (pure .failure) setGoal

section Pursue

variable {σ : Search α} {search : Option (Search α)} {a : α} (m : Entries EntryType)
  (missing : Option String)

theorem pursue_of_closest? (found : σ.closest? = some a) :
    pursue (some σ) = setGoal (σ.position a) := by
  rw [pursue, Option.bind_some, Search.target?, found]
  rfl

theorem pursue_of_void (void : ∀ σ, search = some σ → σ.Void) : pursue search = pure .failure := by
  cases search with
  | none => rfl
  | some σ =>
    rw [pursue, Option.bind_some, Search.target?, Search.closest?_eq_none_iff.2 (void σ rfl)]
    rfl

theorem headsForFirst_of_void (void : ∀ σ, search = some σ → σ.Void) :
    HeadsForFirst search m .failure m := by
  refine ⟨iff_of_false nofun ?_, nofun, fun _ => ⟨rfl, rfl⟩⟩
  rintro ⟨-, σ, shown, something⟩
  exact something (void σ shown)

theorem headsForFirst_setGoal (found : σ.closest? = some a) :
    let r := setGoal (σ.position a) ⟨m, missing⟩
    HeadsForFirst (some σ) m r.1 r.2.entries := by
  intro r
  have something : ¬σ.Void := by
    rw [← Search.closest?_eq_none_iff, found]
    nofun
  rcases setGoal_cases m missing (σ.position a) with ⟨held, success, made⟩ | ⟨unheld, refused⟩
  · refine ⟨iff_of_true success ⟨held, σ, rfl, something⟩, ?_, fun failed => absurd success failed⟩
    intro _ σ' shown comparable
    cases shown
    obtain ⟨i, first⟩ := Search.exists_first_of_closest? comparable found
    exact ⟨i, a, first, made⟩
  · have failed : r.1 ≠ .success := by
      rw [refused.1]
      nofun
    exact ⟨iff_of_false failed fun h => unheld h.1, fun h => absurd h failed, fun _ => refused⟩

theorem headsForFirst_pursue (search : Option (Search α)) :
    let r := pursue search ⟨m, missing⟩
    HeadsForFirst search m r.1 r.2.entries := by
  intro r
  by_cases void : ∀ σ, search = some σ → σ.Void
  · simp only [r, pursue_of_void void]
    exact headsForFirst_of_void m void
  · push Not at void
    obtain ⟨σ, rfl, something⟩ := void
    rw [← Search.closest?_eq_none_iff, ← ne_eq, Option.ne_none_iff_exists'] at something
    obtain ⟨a, found⟩ := something
    simp only [r, pursue_of_closest? found]
    exact headsForFirst_setGoal m missing found

end Pursue

/-! ## Four leaves -/

/-- Whether an action heads for the first closest of what entries show, on any scene. -/
def Pursues (v : Behaviour) (search : Entries EntryType → Option (Search α)) : Prop :=
  ∀ (μ : Type) (s : Scene EntryType μ),
    let r := v.node.tick s
    HeadsForFirst (search s.board.entries) s.board.entries r.1 r.2.board.entries

theorem pursues_of_run {leaf : Leaf EntryType} {run : Edit EntryType Status}
    {search : Entries EntryType → Option (Search α)}
    (h : ∀ m, ∃ missing, run ⟨m, none⟩ = pursue (search m) ⟨m, missing⟩) :
    Pursues (.act leaf run) search := by
  intro μ s r
  obtain ⟨missing, ran⟩ := h s.board.entries
  have pursued := headsForFirst_pursue s.board.entries missing (search s.board.entries)
  rw [← ran] at pursued
  exact pursued

/-- The search among the known health packs, if entries show them and the agent. -/
def packSearch? (m : Entries EntryType) : Option (Search HealthPack) := do
  let agent ← (m.read Schema.agentInfo).toOption
  let packs ← (m.read Schema.knownHealthPacks).toOption
  return .all packs agent.position (·.position)

/-- The same for food. -/
def foodSearch? (m : Entries EntryType) : Option (Search Food) := do
  let agent ← (m.read Schema.agentInfo).toOption
  let foods ← (m.read Schema.knownFoodItems).toOption
  return .all foods agent.position (·.position)

/-- The search among the known houses that qualify. -/
def houseSearch? (qualifies : House → Float32 → Bool) (m : Entries EntryType) :
    Option (Search House) := do
  let agent ← (m.read Schema.agentInfo).toOption
  let revisit ← (m.read Schema.secondsBetweenHouseRevisits).toOption
  let houses ← (m.read Schema.knownHouses).toOption
  return {
    origin := agent.position
    elements := houses
    position := (·.center)
    counts := (qualifies · revisit) }

theorem pursue_all (elements : List α) (origin : Vec2) (position : α → Vec2) :
    pursue (some (.all elements origin position)) =
      (nearestElement? elements origin position).elim (pure .failure) fun a =>
        setGoal (position a) := by
  have found := nearestElement?_eq_closest? (.all elements origin position)
  have kept : elements.filter (fun _ => true) = elements := List.filter_eq_self.2 fun _ _ => rfl
  rw [Search.all, kept] at found
  rw [found, pursue, Option.bind_some, Search.target?, Search.all]
  cases (Search.mk origin elements position fun _ => true).closest? <;> rfl

/-- Looking up the agent and what is known, and heading for the closest of it. -/
theorem pursues_of_looks {t : EntryType} (k : Key t) (known : t.Carrier → List α)
    (position : α → Vec2) {leaf : Leaf EntryType}
    {run : Option Agent → Option t.Carrier → Edit EntryType Status}
    (unseen : ∀ l, run none l = pure .failure)
    (unknown : ∀ agent, run (some agent) none = pure .failure)
    (goes : ∀ agent l, run (some agent) (some l) =
      (nearestElement? (known l) agent.position position).elim (pure .failure) fun a =>
        setGoal (position a)) :
    Pursues
      (.act leaf do
        let agent ← look Schema.agentInfo
        let l ← look k
        run agent l)
      fun m => do
        let agent ← (m.read Schema.agentInfo).toOption
        let l ← (m.read k).toOption
        return .all (known l) agent.position position := by
  refine pursues_of_run fun m =>
    ⟨noteMissing (m.read k) (noteMissing (m.read Schema.agentInfo) none), ?_⟩
  rw [edit_bind, liftM_apply, edit_bind, liftM_apply]
  simp only [look, Query.look]
  cases (m.read Schema.agentInfo).toOption with
  | none => rw [unseen]; rfl
  | some agent =>
    cases (m.read k).toOption with
    | none => rw [unknown]; rfl
    | some l => rw [goes, ← pursue_all]; rfl

theorem setClosestKnownHealthPackAsGoal_pursues :
    Pursues setClosestKnownHealthPackAsGoal packSearch? := by
  refine pursues_of_looks Schema.knownHealthPacks (fun packs => packs) HealthPack.position ?_ ?_ ?_
  · exact fun _ => rfl
  · exact fun _ => rfl
  · intro agent packs
    dsimp only
    cases nearestElement? packs agent.position HealthPack.position <;> rfl

theorem setClosestKnownFoodItemAsGoal_pursues :
    Pursues setClosestKnownFoodItemAsGoal foodSearch? := by
  refine pursues_of_looks Schema.knownFoodItems (fun foods => foods) Food.position ?_ ?_ ?_
  · exact fun _ => rfl
  · exact fun _ => rfl
  · intro agent foods
    dsimp only
    cases nearestElement? foods agent.position Food.position <;> rfl

theorem setGoalToHouse_pursues (name : String) (qualifies : House → Float32 → Bool) :
    Pursues (setGoalToHouse name qualifies) (houseSearch? qualifies) := by
  refine pursues_of_run fun m => ⟨(closestHouse? qualifies m none).2, ?_⟩
  have shown : (closestHouse? qualifies m none).1 =
      (houseSearch? qualifies m).bind Search.target? := by
    rw [closestHouse?, query_bind, query_bind, query_bind, houseSearch?]
    simp only [look, Query.look]
    cases (m.read Schema.agentInfo).toOption with
    | none => rfl
    | some agent =>
      cases (m.read Schema.secondsBetweenHouseRevisits).toOption with
      | none => rfl
      | some revisit =>
        cases (m.read Schema.knownHouses).toOption with
        | none => rfl
        | some houses =>
          let σ : Search House := ⟨agent.position, houses, (·.center), (qualifies · revisit)⟩
          exact congrArg (Option.map (·.center)) (nearestElement?_eq_closest? σ)
  rw [edit_bind, liftM_apply, shown, pursue]
  cases (houseSearch? qualifies m).bind Search.target? with
  | none => rfl
  | some target => rfl

/-- Where all distances are numbers, the search that keeps track of indices finds nothing in the
empty list alone, and else the smallest index of the least distance, with its element and its
distance; the search for enemies does so among those in view. And four leaves head for the first
closest of what entries show of all packs, of all food, of the houses whose timer has come up to the
revisit interval, and of those whose timer exceeds it. They succeed exactly if these entries and
those of a goal are there and one of these is known. Otherwise they fail and write nothing. -/
theorem heads_for_first_closest :
    (∀ {α : Type} (items : List α) (origin : Vec2) (position : α → Vec2),
      let σ := Search.all items origin position
      σ.Comparable →
        (nearest? items origin position = none ↔ items = []) ∧
          ∀ i a d, nearest? items origin position = some (i, a, d) ↔
            σ.First i a ∧ d = σ.distance a) ∧
      (∀ (enemies : List Enemy) (agent : Agent),
        let σ := enemySearch enemies agent
        σ.Comparable →
          (nearestEnemyInView? enemies agent = none ↔ ∀ e ∈ enemies, e.inView = false) ∧
            ∀ e d, nearestEnemyInView? enemies agent = some (e, d) ↔
              (∃ i, σ.First i e) ∧ d = σ.distance e) ∧
      Pursues setClosestKnownHealthPackAsGoal packSearch? ∧
      Pursues setClosestKnownFoodItemAsGoal foodSearch? ∧
      Pursues setGoalToClosestHouseNotRecentlyVisited
        (houseSearch? fun h revisit => decide (revisit ≤ h.secondsSinceLastVisit)) ∧
      Pursues setGoalToNearestHouse
        (houseSearch? fun h revisit => decide (revisit < h.secondsSinceLastVisit)) := by
  refine ⟨?_, ?_, setClosestKnownHealthPackAsGoal_pursues, setClosestKnownFoodItemAsGoal_pursues,
    setGoalToHouse_pursues _ _, setGoalToHouse_pursues _ _⟩
  · intro α items origin position σ comparable
    exact ⟨nearest?_eq_none_iff, fun _ _ _ => nearest?_eq_some_iff comparable⟩
  · intro enemies agent σ comparable
    refine ⟨?_, fun _ _ => nearestEnemyInView?_eq_some_iff comparable⟩
    rw [nearestEnemyInView?_eq_closest?, Option.map_eq_none_iff]
    exact Search.closest?_eq_none_iff

/-- The closest enemy is out of view, and the next two are at the same distance. -/
def surrounding : List Enemy :=
  [{ (default : Enemy) with id := 1, position := ⟨1, 0⟩ },
   { (default : Enemy) with id := 2, position := ⟨9, 0⟩, inView := true },
   { (default : Enemy) with id := 3, position := ⟨0, 3⟩, inView := true },
   { (default : Enemy) with id := 4, position := ⟨-3, 0⟩, inView := true }]

def packsAround : List HealthPack := [⟨1, ⟨9, 0⟩, 3⟩, ⟨2, ⟨0, 3⟩, 3⟩, ⟨3, ⟨-3, 0⟩, 3⟩]

def foodsAround : List Food := [⟨1, ⟨3, 0⟩, 3⟩, ⟨2, ⟨2, 0⟩, 3⟩]

/-- With 30 seconds between visits, the closest house is not due yet and the next one just due. -/
def housesAround : List House :=
  [⟨1, ⟨6, 0⟩, .zero, 31⟩, ⟨2, ⟨1, 0⟩, .zero, 29⟩, ⟨3, ⟨4, 0⟩, .zero, 30⟩, ⟨4, ⟨0, 6⟩, .zero, 99⟩]

def outdoors : Scene EntryType Unit :=
  ⟨⟨(((((((∅ : Entries EntryType).write Schema.agentInfo ({} : Agent)).write
    Schema.knownHealthPacks packsAround).write Schema.knownFoodItems foodsAround).write
    Schema.knownHouses housesAround).write Schema.secondsBetweenHouseRevisits (30 : Float32)).write
    Schema.goal (default : Vec2)).write Schema.goalSet false, none⟩, ()⟩

theorem heads_for_first_closest_tied :
    (Search.all packsAround .zero (·.position)).Comparable ∧
      nearest? packsAround .zero (·.position) = some (1, ⟨2, ⟨0, 3⟩, 3⟩, 3) ∧
      (enemySearch surrounding {}).Comparable ∧
      (nearestEnemyInView? surrounding {}).map (fun r => (r.1.id, r.2)) = some (3, 3) ∧
      let goalAfter (v : Behaviour) := (v.node.tick outdoors).2.board.entries.read Schema.goal
      goalAfter setClosestKnownHealthPackAsGoal = .ok ⟨0, 3⟩ ∧
        goalAfter setClosestKnownFoodItemAsGoal = .ok ⟨2, 0⟩ ∧
        goalAfter setGoalToClosestHouseNotRecentlyVisited = .ok ⟨4, 0⟩ ∧
        goalAfter setGoalToNearestHouse = .ok ⟨6, 0⟩ := by
  obtain ⟨nearest, enemies, packs, foods, due, overdue⟩ := heads_for_first_closest
  have held : GoalHeld outdoors.board.entries := ⟨rfl, rfl⟩
  have packNumbers : (Search.all packsAround .zero (·.position)).Comparable := by decide +kernel
  have firstPack := Search.first_of_split packNumbers
    (show packsAround = [_] ++ _ :: [_] from rfl) rfl (by decide +kernel) (by decide +kernel)
  have enemyNumbers : (enemySearch surrounding {}).Comparable := by decide +kernel
  have firstEnemy := Search.first_of_split enemyNumbers
    (show surrounding = [_, _] ++ _ :: [_] from rfl) rfl (by decide +kernel) (by decide +kernel)
  have foodNumbers : (Search.all foodsAround .zero (·.position)).Comparable := by decide +kernel
  have firstFood := Search.first_of_split foodNumbers
    (show foodsAround = [_] ++ _ :: [] from rfl) rfl (by decide +kernel) (by decide +kernel)
  have dueNumbers : (Search.mk .zero housesAround (·.center) fun h =>
      decide ((30 : Float32) ≤ h.secondsSinceLastVisit)).Comparable := by decide +kernel
  have firstDue := Search.first_of_split dueNumbers
    (show housesAround = [_, _] ++ _ :: [_] from rfl) rfl (by decide +kernel) (by decide +kernel)
  have overdueNumbers : (Search.mk .zero housesAround (·.center) fun h =>
      decide ((30 : Float32) < h.secondsSinceLastVisit)).Comparable := by decide +kernel
  have firstOverdue := Search.first_of_split overdueNumbers
    (show housesAround = [] ++ _ :: [_, _, _] from rfl) rfl (by decide +kernel)
    (by decide +kernel)
  refine ⟨packNumbers, ?_, enemyNumbers, ?_, ?_, ?_, ?_, ?_⟩
  · exact ((nearest packsAround .zero (·.position) packNumbers).2 _ _ _).2
      ⟨firstPack, by decide +kernel⟩
  · rw [((enemies surrounding {} enemyNumbers).2 _ _).2 ⟨⟨_, firstEnemy⟩, rfl⟩]
    decide +kernel
  · exact (packs Unit outdoors).read_goal held packNumbers firstPack
  · exact (foods Unit outdoors).read_goal held foodNumbers firstFood
  · exact (due Unit outdoors).read_goal held dueNumbers firstDue
  · exact (overdue Unit outdoors).read_goal held overdueNumbers firstOverdue

end Library
end Forager
