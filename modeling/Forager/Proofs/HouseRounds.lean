import Mathlib.Data.List.Rotate
import Forager.Proofs.Transactions

/-!
# Houses in turn

`setGoalToNextHouse` goes round the known houses. The board holds the index of the house it headed
for last; that may come from a time when more houses were known, and is brought back into the list
by the next tick. Other things may happen between two ticks, as long as they leave the houses and
the index alone.

* `tick_setGoalToNextHouse`: one tick.
* `headed_ticksAmid`: which house each tick of a row of ticks heads for.
* `houses_in_turn`: as many ticks as there are houses.
-/
namespace Forager

/-- Results that go through a list from some element on and then from its start. -/
theorem map_eq_map_rotate {α β γ : Type} {l : List α} {rs : List β} {first : Nat} (f : β → γ)
    (g : α → γ) (length : rs.length = l.length)
    (h : ∀ k r, rs[k]? = some r → ∃ a, l[(k + first) % l.length]? = some a ∧ f r = g a) :
    rs.map f = (l.rotate first).map g := by
  apply List.ext_getElem?
  intro k
  rw [List.getElem?_map, List.getElem?_map]
  cases hr : rs[k]? with
  | none =>
    rw [List.getElem?_eq_none_iff, length] at hr
    rw [List.getElem?_eq_none (by rwa [List.length_rotate])]
    rfl
  | some r =>
    obtain ⟨a, ha, same⟩ := h k r hr
    have inBounds : k < l.length := by
      rw [← length]
      exact (List.getElem?_eq_some_iff.1 hr).1
    rw [List.getElem?_rotate inBounds, ha, Option.map_some, Option.map_some, same]

/-! ## Ticks in a row -/

namespace Node

variable {τ μ : Type} [EntryTypes τ]

/-- What each tick of a row reports and leaves, where something else happens before each of
them. -/
def ticksAmid (n : Node τ μ) : List (Scene τ μ → Scene τ μ) → Scene τ μ →
    List (Status × Scene τ μ)
  | [], _ => []
  | d :: ds, s => n.tick (d s) :: n.ticksAmid ds (n.tick (d s)).2

theorem length_ticksAmid (n : Node τ μ) (ds : List (Scene τ μ → Scene τ μ)) (s : Scene τ μ) :
    (n.ticksAmid ds s).length = ds.length := by
  induction ds generalizing s with
  | nil => rfl
  | cons d ds ih => simp [ticksAmid, ih]

end Node

namespace Library

/-! ## One tick -/

/-- The entries that the leaf declares are there: the houses, the index of one or of none of them,
and a goal to set. The agent is not inside the only house. -/
structure Touring (houses : List House) (index : Nat) (m : Entries EntryType) : Prop where
  known : m.read Schema.knownHouses = .ok houses
  last : m.read Schema.nextHouseIndex = .ok index
  outside : ∃ inside, m.read Schema.insideHouse = .ok inside ∧
    ¬(houses.length = 1 ∧ inside = true)
  goal : m.typeOf? Schema.goal.name = some .vec2
  goalSet : m.typeOf? Schema.goalSet.name = some .bool

/-- Whether a tick has headed for the house of the given index. -/
structure Headed (houses : List House) (index : Nat) (r : Status × Scene EntryType μ) : Prop where
  success : r.1 = .success
  touring : Touring houses index r.2.board.entries
  flagged : r.2.board.entries.read Schema.goalSet = .ok true
  target : ∃ house, houses[index]? = some house ∧
    r.2.board.entries.read Schema.goal = .ok house.center

variable {μ : Type} {houses : List House} {index : Nat}

theorem tick_act (leaf : Leaf EntryType) (run : Edit EntryType Status) (s : Scene EntryType μ) :
    (Behaviour.act leaf run).node.tick s =
      ((run ⟨s.board.entries, none⟩).1,
        ⟨(run ⟨s.board.entries, none⟩).2.clearMissing, s.memory⟩) := rfl

/-- Writing the index and the goal leaves the entries ready for the next tick. -/
theorem headed_of_committed {turn : Nat} {house : House} {m : Entries EntryType}
    {r : Status × Scene EntryType μ} (touring : Touring houses index m)
    (next : houses[turn]? = some house) (success : r.1 = .success)
    (made : Committed (⟨.index, Schema.nextHouseIndex, turn⟩ :: heading house.center) m
      r.2.board.entries) : Headed houses turn r := by
  have goal := made.made ⟨.vec2, Schema.goal, house.center⟩ (by simp [heading])
  have flagged := made.made ⟨.bool, Schema.goalSet, true⟩ (by simp [heading])
  have kept {t : EntryType} {k : Key t} (other : k.name ∉ ["NextHouseIndex", "Goal", "GoalSet"]) :
      r.2.board.entries.read k = m.read k := Entries.read_congr (made.rest k.name other)
  obtain ⟨inside, within, outside⟩ := touring.outside
  refine ⟨success, ⟨?_, ?_, ⟨inside, ?_, outside⟩, ?_, ?_⟩, flagged, house, next, goal⟩
  · rw [kept (by decide)]
    exact touring.known
  · exact made.made ⟨.index, Schema.nextHouseIndex, turn⟩ List.mem_cons_self
  · rw [kept (by decide)]
    exact within
  · exact Entries.typeOf?_of_read goal
  · exact Entries.typeOf?_of_read flagged

/-- A tick heads for the house after the last one, and for the first one after the end. -/
theorem tick_setGoalToNextHouse (populated : 0 < houses.length) {s : Scene EntryType μ}
    (touring : Touring houses index s.board.entries) :
    Headed houses ((index + 1) % houses.length) (setGoalToNextHouse.node.tick s) := by
  obtain ⟨inside, within, outside⟩ := touring.outside
  have inBounds : (index + 1) % houses.length < houses.length := Nat.mod_lt _ populated
  have next := List.getElem?_eq_getElem inBounds
  obtain ⟨done, made⟩ := write_setGoal_held none ((index + 1) % houses.length) _ (by decide)
    (Entries.typeOf?_of_read touring.last) touring.goal touring.goalSet
  refine headed_of_committed touring next ?_ ?_
  all_goals
    rw [setGoalToNextHouse, tick_act, look_read_bind none touring.known, look_read_bind none within,
      look_read_bind none touring.last]
    simp only [if_neg outside, next]
  · exact done
  · exact made

/-! ## Rounds -/

/-- What happens between ticks leaves the tour where it is. -/
def Undisturbing (houses : List House) (d : Scene EntryType μ → Scene EntryType μ) : Prop :=
  ∀ index s, Touring houses index s.board.entries → Touring houses index (d s).board.entries

/-- Overwriting an entry that the tour does not go by is no disturbance. -/
theorem undisturbing_set {t : EntryType} {k : Key t}
    (other : k.name ∉ ["KnownHouses", "NextHouseIndex", "InsideHouse"]) (v : t.Carrier) :
    Undisturbing houses fun s : Scene EntryType μ =>
      { s with board := (s.board.set k v).2 } := by
  intro index s touring
  cases hr : s.board.entries.read k with
  | error e =>
    simp only [Blackboard.set_of_error hr]
    exact touring
  | ok old =>
    have kept {u : EntryType} {q : Key u}
        (h : q.name ∈ ["KnownHouses", "NextHouseIndex", "InsideHouse"]) :
        (s.board.entries.write k v).read q = s.board.entries.read q :=
      Entries.read_write_of_ne _ k v q fun same => other (same ▸ h)
    obtain ⟨inside, within, outside⟩ := touring.outside
    simp only [Blackboard.set_of_read hr]
    refine ⟨?_, ?_, ⟨inside, ?_, outside⟩, ?_, ?_⟩
    · rw [kept (by decide)]
      exact touring.known
    · rw [kept (by decide)]
      exact touring.last
    · rw [kept (by decide)]
      exact within
    · rw [Edit.Within.typeOf?_write hr]
      exact touring.goal
    · rw [Edit.Within.typeOf?_write hr]
      exact touring.goalSet

/-- Each tick of a row heads one house further than the one before it. -/
theorem headed_ticksAmid (populated : 0 < houses.length)
    {ds : List (Scene EntryType μ → Scene EntryType μ)} (calm : ∀ d ∈ ds, Undisturbing houses d)
    {s : Scene EntryType μ} (touring : Touring houses index s.board.entries) {k : Nat}
    {r : Status × Scene EntryType μ} (h : (setGoalToNextHouse.node.ticksAmid ds s)[k]? = some r) :
    Headed houses ((index + 1 + k) % houses.length) r := by
  induction ds generalizing index s k with
  | nil => simp [Node.ticksAmid] at h
  | cons d ds ih =>
    have first := tick_setGoalToNextHouse populated (calm d List.mem_cons_self index s touring)
    cases k with
    | zero =>
      simp only [Node.ticksAmid, List.getElem?_cons_zero, Option.some.injEq] at h
      subst h
      exact first
    | succ k =>
      simp only [Node.ticksAmid, List.getElem?_cons_succ] at h
      have later := ih (fun d hd => calm d (List.mem_cons_of_mem _ hd)) first.touring h
      have same : ((index + 1) % houses.length + 1 + k) % houses.length =
          (index + 1 + (k + 1)) % houses.length := by
        rw [Nat.add_assoc, Nat.mod_add_mod]
        congr 1
        omega
      rw [same] at later
      exact later

/-- As many ticks as there are houses, on a board that holds the keys of the leaf, with any index
at the start and any disturbances in between that leave the houses alone; the agent is not inside
the only house. All ticks succeed. They set the goal to the centre of each house of the list once,
in the order of the list from the house of the new index on, with the first house after the last.
The first tick brings the index into the list, where it stays; the last one leaves it one house
before that. -/
theorem houses_in_turn (populated : 0 < houses.length)
    {ds : List (Scene EntryType μ → Scene EntryType μ)} (calm : ∀ d ∈ ds, Undisturbing houses d)
    (full : ds.length = houses.length) {s : Scene EntryType μ}
    (touring : Touring houses index s.board.entries) :
    let n := houses.length
    let first := (index + 1) % n
    let rounds := setGoalToNextHouse.node.ticksAmid ds s
    let indexAfter (r : Status × Scene EntryType μ) := r.2.board.entries.read Schema.nextHouseIndex
    let goalAfter (r : Status × Scene EntryType μ) := r.2.board.entries.read Schema.goal
    (∀ r ∈ rounds, r.1 = .success ∧ r.2.board.entries.read Schema.goalSet = .ok true ∧
      ∃ i < n, indexAfter r = .ok i) ∧
      rounds.map goalAfter = (houses.rotate first).map (fun house => .ok house.center) ∧
      rounds.map indexAfter = ((List.range n).rotate first).map .ok ∧
      rounds.head?.map indexAfter = some (.ok first) ∧
      rounds.getLast?.map indexAfter = some (.ok ((first + (n - 1)) % n)) := by
  intro n first rounds indexAfter goalAfter
  have length : rounds.length = n := (Node.length_ticksAmid _ ds s).trans full
  have headed {k : Nat} {r : Status × Scene EntryType μ} (h : rounds[k]? = some r) :
      Headed houses ((k + first) % n) r := by
    have same : (index + 1 + k) % n = (k + first) % n := by
      rw [Nat.add_mod_mod, Nat.add_comm]
    rw [← same]
    exact headed_ticksAmid populated calm touring h
  have last : (first + (n - 1)) % n = (n - 1 + first) % n := by rw [Nat.add_comm]
  have below : first % n = first := Nat.mod_eq_of_lt (Nat.mod_lt _ populated)
  refine ⟨fun r hr => ?_, ?_, ?_, ?_, ?_⟩
  · obtain ⟨k, hk⟩ := List.mem_iff_getElem?.1 hr
    have h := headed hk
    exact ⟨h.success, h.flagged, _, Nat.mod_lt _ populated, h.touring.last⟩
  · exact map_eq_map_rotate _ _ length fun k r hr => (headed hr).target
  · apply map_eq_map_rotate _ _ (length.trans List.length_range.symm)
    intro k r hr
    rw [List.length_range]
    exact ⟨_, List.getElem?_range (Nat.mod_lt _ populated), (headed hr).touring.last⟩
  · have start : rounds[0]? = some rounds[0] := List.getElem?_eq_getElem (by omega)
    have h := (headed start).touring.last
    rw [Nat.zero_add, below] at h
    rw [List.head?_eq_getElem?, start, Option.map_some]
    exact congrArg some h
  · have stop : rounds[n - 1]? = some rounds[n - 1] := List.getElem?_eq_getElem (by omega)
    have h := (headed stop).touring.last
    rw [List.getLast?_eq_getElem?, length, stop, Option.map_some, last]
    exact congrArg some h

def hamlet : List House :=
  [{ (default : House) with id := 1, center := ⟨1, 0⟩ },
   { (default : House) with id := 2, center := ⟨2, 0⟩ },
   { (default : House) with id := 3, center := ⟨3, 0⟩ }]

/-- Three houses, and an index from a time when there were more. -/
def shrunk : Scene EntryType Unit :=
  ⟨⟨(((((∅ : Entries EntryType).write Schema.knownHouses hamlet).write Schema.insideHouse
    true).write Schema.nextHouseIndex (7 : Nat)).write Schema.goal (default : Vec2)).write
    Schema.goalSet false, none⟩, ()⟩

/-- The goal is reached and dropped before the last tick. -/
def interludes : List (Scene EntryType Unit → Scene EntryType Unit) :=
  [fun s => s, fun s => s, fun s => { s with board := (s.board.set Schema.goalSet false).2 }]

theorem houses_in_turn_shrunk :
    0 < hamlet.length ∧ (∀ d ∈ interludes, Undisturbing hamlet d) ∧
      interludes.length = hamlet.length ∧ Touring hamlet 7 shrunk.board.entries ∧
      ((setGoalToNextHouse.node.ticksAmid interludes shrunk).map fun r =>
        r.2.board.entries.read Schema.goal) = [.ok ⟨3, 0⟩, .ok ⟨1, 0⟩, .ok ⟨2, 0⟩] := by
  have calm : ∀ d ∈ interludes, Undisturbing hamlet d := by
    simp only [interludes, List.forall_mem_cons, List.not_mem_nil, false_imp_iff, implies_true,
      and_true]
    exact ⟨fun _ _ h => h, fun _ _ h => h, undisturbing_set (k := Schema.goalSet) (by decide) false⟩
  have touring : Touring hamlet 7 shrunk.board.entries :=
    ⟨rfl, rfl, ⟨true, rfl, fun h => absurd h.1 (by decide)⟩, rfl, rfl⟩
  obtain ⟨-, goals, -⟩ := houses_in_turn (by decide) calm rfl touring
  exact ⟨by decide, calm, rfl, touring, goals⟩

end Library
end Forager
