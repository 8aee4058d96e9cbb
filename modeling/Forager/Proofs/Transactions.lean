import Forager.Node.Walk
import Forager.Proofs.Footprints
import Forager.Proofs.HeldBeliefs

/-!
# Actions are all or nothing

An action of the library decides on a few assignments, and makes either all of them or none,
whatever is missing or mistyped on the board. It makes none if it fails, but for the four leaves
that leave a flag behind and fail on purpose. An action that sets a goal makes at least the two
assignments of a goal, and one to the entry that moves with it: one leaf may move that entry alone.
Which assignments these are, the entries before tell: the target is what the action finds there.

Indices are taken to be below the last 64-bit word where an action moves them on.

* `Committed.append`: assignments made one batch after the other are made together.
* `atomic_setGoal`, `atomic_write_setGoal`: a goal's entries are checked before the first write.
* `Plan`: what each action assigns.
* `transactional_all`: the library's actions, one by one.
* `tick_all_or_nothing`: what is left of a board once an action was evaluated.
-/
namespace Forager

theorem Entries.typeOf?_of_read {τ : Type} [EntryTypes τ] {t : τ} {m : Entries τ} {k : Key t}
    {v : Value t} (h : m.read k = .ok v) : m.typeOf? k.name = some t := by
  rw [Entries.typeOf?, Entries.read_eq_ok_iff.1 h, Option.map_some]

/-! ## Assignments -/

/-- A value for an entry. -/
structure Assignment where
  type : EntryType
  key : Key type
  value : type.Carrier

/-- The names of the entries that a plan assigns to. -/
def assigned (plan : List Assignment) : List String := plan.map (·.key.name)

/-- The assignments in `plan` lead from one state of the entries to another: each of its entries
was there with the right type and now holds the new value, and no other entry has changed. -/
structure Committed (plan : List Assignment) (before after : Entries EntryType) : Prop where
  held : ∀ a ∈ plan, before.typeOf? a.key.name = some a.type
  made : ∀ a ∈ plan, after.read a.key = .ok a.value
  rest : ∀ name, name ∉ assigned plan → after.find? name = before.find? name

namespace Committed

variable {t : EntryType} {k : Key t} {m m' m'' : Entries EntryType} {p q : List Assignment}

theorem write (h : m.typeOf? k.name = some t) (v : t.Carrier) :
    Committed [⟨t, k, v⟩] m (m.write k v) where
  held := by
    rintro a ha
    rw [List.mem_singleton.1 ha]
    exact h
  made := by
    rintro a ha
    rw [List.mem_singleton.1 ha]
    exact Entries.read_write_self m k v
  rest := fun name other => by
    rw [Entries.find?_write, if_neg fun same => other (List.mem_singleton.2 same)]

/-- An entry that `p` leaves alone has the type that it had. -/
theorem typeOf?_eq (h : Committed p m m') {name : String} (other : name ∉ assigned p) :
    m'.typeOf? name = m.typeOf? name := by
  rw [Entries.typeOf?, h.rest name other, Entries.typeOf?]

theorem append (hp : Committed p m m') (hq : Committed q m' m'')
    (apart : ∀ name ∈ assigned p, name ∉ assigned q) :
    Committed (p ++ q) m m'' where
  held := by
    intro a ha
    rcases List.mem_append.1 ha with ha | ha
    · exact hp.held a ha
    · have other : a.key.name ∉ assigned p := fun named => apart _ named (List.mem_map_of_mem ha)
      rw [← hp.typeOf?_eq other]
      exact hq.held a ha
  made := by
    intro a ha
    rcases List.mem_append.1 ha with ha | ha
    · rw [Entries.read_congr (hq.rest _ (apart _ (List.mem_map_of_mem ha)))]
      exact hp.made a ha
    · exact hq.made a ha
  rest := by
    intro name other
    rw [assigned, List.map_append, List.mem_append, not_or] at other
    exact (hq.rest name other.2).trans (hp.rest name other.1)

end Committed

namespace Library

/-! ## Steps on any board -/

section Steps

variable {t : EntryType} {k : Key t} (m : Entries EntryType) (missing : Option String)

theorem isSome_look_iff : (look k m missing).1.isSome ↔ m.typeOf? k.name = some t := by
  rw [look, Query.look, Entries.typeOf?, Entries.read]
  cases m.find? k.name with
  | none => simp [Except.toOption]
  | some e =>
    cases h : e.as? t with
    | none => simpa [Except.toOption, h] using Entry.as?_eq_none_iff.1 h
    | some v =>
      rw [Entry.as?_eq_some_iff] at h
      simp [h, Except.toOption]

theorem read_of_look {v : t.Carrier} (h : (look k m missing).1 = some v) : m.read k = .ok v := by
  rw [look, Query.look] at h
  cases hr : m.read k with
  | ok w =>
    rw [hr] at h
    cases h
    rfl
  | error e =>
    rw [hr] at h
    cases h

variable {m}

theorem look_of_read {v : t.Carrier} (h : m.read k = .ok v) :
    look k m missing = (some v, missing) := by
  simp only [look, Query.look, h, Except.toOption, noteMissing]

/-- An edit that looks up what is there goes on with it. -/
theorem look_read_bind {α : Type} {v : t.Carrier} (h : m.read k = .ok v)
    (f : Option t.Carrier → Edit EntryType α) :
    (liftM (look k) >>= f) ⟨m, missing⟩ = f (some v) ⟨m, missing⟩ := by
  rw [edit_bind, liftM_apply, look_of_read missing h]

theorem write_held_entry (h : m.typeOf? k.name = some t) (v : t.Carrier) :
    write k v ⟨m, missing⟩ = (true, ⟨m.write k v, missing⟩) := by
  obtain ⟨old, found⟩ := Option.isSome_iff_exists.1 ((isSome_look_iff m missing).2 h)
  have there : (⟨m, missing⟩ : Blackboard EntryType).entries.read k = .ok old :=
    read_of_look m missing found
  rw [write, Edit.write, Blackboard.set_of_read there]
  rfl

theorem write_unheld_entry (h : m.typeOf? k.name ≠ some t) (v : t.Carrier) :
    (write k v ⟨m, missing⟩).1 = false ∧ (write k v ⟨m, missing⟩).2.entries = m := by
  cases hr : (⟨m, missing⟩ : Blackboard EntryType).entries.read k with
  | ok old =>
    exact absurd (Entries.typeOf?_of_read hr) h
  | error e =>
    rw [write, Edit.write, Blackboard.set_of_error hr]
    exact ⟨rfl, rfl⟩

variable (m)

theorem goalWritable_iff : (goalWritable m missing).1 = true ↔
    m.typeOf? Schema.goal.name = some .vec2 ∧ m.typeOf? Schema.goalSet.name = some .bool := by
  rw [← isSome_look_iff m missing, ← isSome_look_iff m (look Schema.goal m missing).2,
    goalWritable, query_bind]
  split
  · rename_i there
    rw [query_bind, query_pure, there]
    simp
  · rename_i absent
    rw [query_pure]
    simp [absent]

end Steps

/-! ## Atomic edits -/

/-- On the entries `m`, the edit fails and changes none of them, or it succeeds and makes all the
assignments of a plan of the given kind. -/
def Atomic (m : Entries EntryType) (Plan : List Assignment → Prop)
    (run : Edit EntryType Status) : Prop :=
  ∀ missing, let r := run ⟨m, missing⟩
    r.1 = .failure ∧ r.2.entries = m ∨
      r.1 = .success ∧ ∃ plan, Plan plan ∧ Committed plan m r.2.entries

/-- The assignments of an agent that heads for `target`. -/
def heading (target : Vec2) : List Assignment :=
  [⟨_, Schema.goal, target⟩, ⟨_, Schema.goalSet, true⟩]

section Atomic

variable {t : EntryType} {k : Key t} {m : Entries EntryType} {Plan : List Assignment → Prop}

theorem atomic_failure : Atomic m Plan (pure .failure) :=
  fun _ => .inl ⟨rfl, rfl⟩

/-- An edit that looks something up first goes on on the same entries. -/
theorem atomic_look {α : Type} {q : Query EntryType α} {f : α → Edit EntryType Status}
    (h : ∀ missing, Atomic m Plan (f (q m missing).1)) : Atomic m Plan (liftM q >>= f) := by
  intro missing
  rw [edit_bind, liftM_apply]
  exact h missing _

theorem atomic_write {v : t.Carrier} (h : Plan [⟨t, k, v⟩]) :
    Atomic m Plan (do return .ofBool (← write k v)) := by
  intro missing
  rw [edit_bind, edit_pure]
  by_cases held : m.typeOf? k.name = some t
  · rw [write_held_entry missing held]
    exact .inr ⟨rfl, _, h, .write held v⟩
  · obtain ⟨refused, kept⟩ := write_unheld_entry missing held v
    rw [refused]
    exact .inl ⟨rfl, kept⟩

/-- With both goal entries there, heading for a target succeeds. -/
theorem setGoal_held (missing : Option String) (target : Vec2)
    (goal : m.typeOf? Schema.goal.name = some .vec2)
    (goalSet : m.typeOf? Schema.goalSet.name = some .bool) :
    (setGoal target ⟨m, missing⟩).1 = .success ∧
      Committed (heading target) m (setGoal target ⟨m, missing⟩).2.entries := by
  have first := Committed.write goal target
  have flag : (m.write Schema.goal target).typeOf? Schema.goalSet.name = some .bool :=
    (first.typeOf?_eq (by simp [assigned, Schema.goal, Schema.goalSet])).trans goalSet
  rw [setGoal, edit_bind, liftM_apply, (goalWritable_iff m missing).2 ⟨goal, goalSet⟩, if_pos rfl,
    edit_bind, write_held_entry _ goal, if_pos rfl, edit_bind, write_held_entry _ flag]
  exact ⟨rfl, first.append (.write flag true) (by simp [assigned, Schema.goal, Schema.goalSet])⟩

theorem atomic_setGoal {target : Vec2} (h : Plan (heading target)) :
    Atomic m Plan (setGoal target) := by
  intro missing
  by_cases held : (goalWritable m missing).1 = true
  · obtain ⟨goal, goalSet⟩ := (goalWritable_iff m missing).1 held
    obtain ⟨done, made⟩ := setGoal_held missing target goal goalSet
    exact .inr ⟨done, _, h, made⟩
  · rw [setGoal, edit_bind, liftM_apply, if_neg held]
    exact .inl ⟨rfl, rfl⟩

/-- With the entry and both goal entries there, it is written and the goal is headed for. -/
theorem write_setGoal_held (missing : Option String) (v : t.Carrier) (target : Vec2)
    (other : k.name ∉ ["Goal", "GoalSet"]) (held : m.typeOf? k.name = some t)
    (goal : m.typeOf? Schema.goal.name = some .vec2)
    (goalSet : m.typeOf? Schema.goalSet.name = some .bool) :
    let run : Edit EntryType Status := do
      if ← goalWritable then
        if ← write k v then setGoal target else return .failure
      else return .failure
    (run ⟨m, missing⟩).1 = .success ∧
      Committed (⟨t, k, v⟩ :: heading target) m (run ⟨m, missing⟩).2.entries := by
  have first := Committed.write held v
  have keeps {name : String} (named : name ∈ ["Goal", "GoalSet"]) :
      name ∉ assigned [⟨t, k, v⟩] := by
    intro same
    cases List.mem_singleton.1 same
    exact other named
  have ⟨done, made⟩ := setGoal_held (goalWritable m missing).2 target
    ((first.typeOf?_eq (keeps (by decide))).trans goal)
    ((first.typeOf?_eq (keeps (by decide))).trans goalSet)
  intro run
  have ran : run ⟨m, missing⟩ = setGoal target ⟨m.write k v, (goalWritable m missing).2⟩ := by
    dsimp only [run]
    rw [edit_bind, liftM_apply, (goalWritable_iff m missing).2 ⟨goal, goalSet⟩, if_pos rfl,
      edit_bind, write_held_entry _ held, if_pos rfl]
  rw [ran]
  exact ⟨done, first.append made fun name same named => keeps named same⟩

/-- The entry is written after the check of the goal's entries and before them. -/
theorem atomic_write_setGoal {v : t.Carrier} {target : Vec2} (other : k.name ∉ ["Goal", "GoalSet"])
    (h : Plan (⟨t, k, v⟩ :: heading target)) :
    Atomic m Plan (do
      if ← goalWritable then
        if ← write k v then setGoal target else return .failure
      else return .failure) := by
  intro missing
  by_cases writable : (goalWritable m missing).1 = true
  · obtain ⟨goal, goalSet⟩ := (goalWritable_iff m missing).1 writable
    by_cases held : m.typeOf? k.name = some t
    · obtain ⟨done, made⟩ := write_setGoal_held missing v target other held goal goalSet
      exact .inr ⟨done, _, h, made⟩
    · obtain ⟨refused, kept⟩ := write_unheld_entry (goalWritable m missing).2 held v
      rw [edit_bind, liftM_apply, writable, if_pos rfl, edit_bind, refused]
      exact .inl ⟨rfl, kept⟩
  · rw [edit_bind, liftM_apply, if_neg writable]
    exact .inl ⟨rfl, rfl⟩

end Atomic

/-! ## The plans of the library -/

/-- What an action of the library, given by its name, may assign on the entries `m`. A target is
what the action finds there, and an index that it moves is still a word. -/
inductive Plan (m : Entries EntryType) : String → List Assignment → Prop where
  | steer {name : String} {mode : Steering}
      (h : (name, mode) ∈ [("ChangeToSeek", .seek), ("ChangeToWander", .wander)]) :
      Plan m name [⟨_, Schema.steering, mode⟩]
  | heal : Plan m "UseHealthItem" [⟨_, Schema.useHealthItem, true⟩]
  /-- The goal is the search point of the index, which stays. -/
  | explore {points : List Vec2} {target : Vec2} {index : Nat}
      (route : m.read Schema.searchPoints = .ok points)
      (last : m.read Schema.searchPointIndex = .ok index)
      (here : points[index]? = some target) :
      Plan m "SetGoalToNextSearchPoint" (heading target)
  /-- The goal is the closest house that the leaf looks for. -/
  | shelter {name : String} {due : House → Float32 → Bool} {agent : Agent} {revisit : Float32}
      {houses : List House} {house : House}
      (h : (name, due) ∈ [("SetGoalToNearestHouse", House.isOverdue),
        ("SetGoalToClosestHouseNotRecentlyVisited", House.isDue)])
      (position : m.read Schema.agentInfo = .ok agent)
      (interval : m.read Schema.secondsBetweenHouseRevisits = .ok revisit)
      (known : m.read Schema.knownHouses = .ok houses)
      (nearest : nearestElement? (houses.filter (due · revisit)) agent.position (·.center) =
        some house) :
      Plan m name (heading house.center)
  /-- The goal is the closest of the known health packs. -/
  | cure {agent : Agent} {packs : List HealthPack} {pack : HealthPack}
      (position : m.read Schema.agentInfo = .ok agent)
      (known : m.read Schema.knownHealthPacks = .ok packs)
      (nearest : nearestElement? packs agent.position (·.position) = some pack) :
      Plan m "SetClosestKnownHealthPackAsGoal" (heading pack.position)
  /-- The goal is the closest of the known food items. -/
  | dine {agent : Agent} {foods : List Food} {food : Food}
      (position : m.read Schema.agentInfo = .ok agent)
      (known : m.read Schema.knownFoodItems = .ok foods)
      (nearest : nearestElement? foods agent.position (·.position) = some food) :
      Plan m "SetClosestKnownFoodItemAsGoal" (heading food.position)
  /-- The goal is the item to collect, chosen among the closest of each sort. -/
  | collect {agent : Agent} {maxHealth maxEnergy : Float32} {items : List DistantItem}
      {packs : List HealthPack} {foods : List Food} {pistols : List Pistol} {target : Vec2}
      (position : m.read Schema.agentInfo = .ok agent)
      (fullHealth : m.read Schema.maxHealth = .ok maxHealth)
      (fullEnergy : m.read Schema.maxEnergy = .ok maxEnergy)
      (knownItems : m.read Schema.knownItems = .ok items)
      (knownPacks : m.read Schema.knownHealthPacks = .ok packs)
      (knownFoods : m.read Schema.knownFoodItems = .ok foods)
      (knownPistols : m.read Schema.knownPistols = .ok pistols)
      (chosen : collectionTarget? (pointsMissing maxHealth agent.health)
        (pointsMissing maxEnergy agent.energy)
        (nearestElement? packs agent.position (·.position))
        (nearestElement? foods agent.position (·.position))
        (nearestElement? pistols agent.position (·.position))
        (nearestElement? items agent.position (·.position)) = some target) :
      Plan m "SetNearestItemAsGoal" (heading target)
  /-- The goal is where the target stands, the first nearest enemy in view. -/
  | aim {agent : Agent} {enemies : List Enemy} {enemy : Enemy} {distance : Float32}
      (position : m.read Schema.agentInfo = .ok agent)
      (known : m.read Schema.knownEnemies = .ok enemies)
      (nearest : nearestEnemyInView? enemies agent = some (enemy, distance)) :
      Plan m "AimAtNearestEnemyInFov"
        (⟨_, Schema.targetEnemy, some enemy.id⟩ :: heading enemy.position)
  /-- The goal is the house of the new index, the next in turn. -/
  | visit {houses : List House} {house : House} {index : Nat}
      (known : m.read Schema.knownHouses = .ok houses)
      (last : m.read Schema.nextHouseIndex = .ok index)
      (room : index + 1 < UInt64.size)
      (next : houses[(index + 1) % houses.length]? = some house) :
      Plan m "SetGoalToNextHouse"
        (⟨_, Schema.nextHouseIndex, (index + 1) % houses.length⟩ :: heading house.center)
  /-- The goal is the search point of the new index. -/
  | search {points : List Vec2} {target : Vec2} {index : Nat}
      (route : m.read Schema.searchPoints = .ok points)
      (last : m.read Schema.searchPointIndex = .ok index)
      (room : index + 1 < UInt64.size)
      (next : points[index + 1]? = some target) :
      Plan m "IncrementSearchPoint" (⟨_, Schema.searchPointIndex, index + 1⟩ :: heading target)
  /-- Past the last search point the index moves alone. -/
  | searched {points : List Vec2} {index : Nat}
      (route : m.read Schema.searchPoints = .ok points)
      (last : m.read Schema.searchPointIndex = .ok index)
      (room : index + 1 < UInt64.size)
      (past : points.length ≤ index + 1) :
      Plan m "IncrementSearchPoint" [⟨_, Schema.searchPointIndex, index + 1⟩]

/-- The flag that an action leaves behind before it fails on purpose, and its value. -/
def parting? : String → Option (Key EntryType.bool × Bool)
  | "SetGoalSetFalse" => some (Schema.goalSet, false)
  | "SetSoftGoalSetFalse" => some (Schema.softGoalSet, false)
  | "UseFoodItem" => some (Schema.useFoodItem, true)
  | "ShootPistol" => some (Schema.shootPistol, true)
  | _ => none

/-- What the action of a given name makes of the entries `before`, and how it ends. -/
def Transacts (name : String) (before : Entries EntryType) (status : Status)
    (after : Entries EntryType) : Prop :=
  match parting? name with
  | some (flag, value) => status = .failure ∧
      after = if before.typeOf? flag.name = some .bool then before.write flag value else before
  | none =>
    status = .failure ∧ after = before ∨
      status = .success ∧ ∃ plan, Plan before name plan ∧ Committed plan before after

/-- Whether an index that the leaf moves has a successor among the 64-bit words, if it is there. -/
def HasRoom (leaf : Leaf EntryType) (m : Entries EntryType) : Prop :=
  ∀ (k : Key EntryType.index) (index : Nat), ⟨k.name, .index, .write⟩ ∈ leaf.uses →
    m.read k = .ok index → index + 1 < UInt64.size

/-- Whether a behaviour, if it is an action, transacts on every board that has room for it. -/
def Transactional : Behaviour → Prop
  | .test .. => True
  | .act leaf run => ∀ bb, HasRoom leaf bb.entries →
    Transacts leaf.name bb.entries (run bb).1 (run bb).2.entries

theorem transactional_of_atomic {leaf : Leaf EntryType} {run : Edit EntryType Status}
    (name : parting? leaf.name = none)
    (h : ∀ m, HasRoom leaf m → Atomic m (Plan m leaf.name) run) :
    Transactional (.act leaf run) := by
  intro bb room
  rw [Transacts, name]
  exact h bb.entries room bb.missing

theorem transactional_of_parting {leaf : Leaf EntryType} {flag : Key EntryType.bool} {value : Bool}
    (name : parting? leaf.name = some (flag, value)) :
    Transactional (.act leaf do
      let _ ← write flag value
      return .failure) := by
  intro bb _
  rw [Transacts, name]
  refine ⟨rfl, ?_⟩
  rw [edit_bind, edit_pure]
  split
  · rename_i held
    rw [write_held_entry bb.missing held]
  · rename_i unheld
    exact (write_unheld_entry bb.missing unheld value).2

theorem changeToSeek_transacts : Transactional changeToSeek :=
  transactional_of_atomic rfl fun _ _ => atomic_write (.steer (by decide))

theorem changeToWander_transacts : Transactional changeToWander :=
  transactional_of_atomic rfl fun _ _ => atomic_write (.steer (by decide))

theorem useHealthItem_transacts : Transactional useHealthItem :=
  transactional_of_atomic rfl fun _ _ => atomic_write .heal

theorem setClosestKnownHealthPackAsGoal_transacts :
    Transactional setClosestKnownHealthPackAsGoal := by
  refine transactional_of_atomic rfl fun m _ => atomic_look fun _ => atomic_look fun _ => ?_
  split
  · rename_i position known
    split
    · rename_i nearest
      exact atomic_setGoal
        (.cure (read_of_look m _ position) (read_of_look m _ known) nearest)
    · exact atomic_failure
  · exact atomic_failure

theorem setClosestKnownFoodItemAsGoal_transacts : Transactional setClosestKnownFoodItemAsGoal := by
  refine transactional_of_atomic rfl fun m _ => atomic_look fun _ => atomic_look fun _ => ?_
  split
  · rename_i position known
    split
    · rename_i nearest
      exact atomic_setGoal
        (.dine (read_of_look m _ position) (read_of_look m _ known) nearest)
    · exact atomic_failure
  · exact atomic_failure

theorem setGoalToNextSearchPoint_transacts : Transactional setGoalToNextSearchPoint := by
  refine transactional_of_atomic rfl fun m _ => atomic_look fun _ => atomic_look fun _ => ?_
  split
  · rename_i route last
    split
    · rename_i here
      exact atomic_setGoal
        (.explore (read_of_look m _ route) (read_of_look m _ last) here)
    · exact atomic_failure
  · exact atomic_failure

/-- What was looked up for a house that qualifies. -/
theorem closestHouse?_eq_some {qualifies : House → Float32 → Bool} {m : Entries EntryType}
    {missing : Option String} {target : Vec2}
    (h : (closestHouse? qualifies m missing).1 = some target) :
    ∃ agent revisit houses house, m.read Schema.agentInfo = .ok agent ∧
      m.read Schema.secondsBetweenHouseRevisits = .ok revisit ∧
      m.read Schema.knownHouses = .ok houses ∧
      nearestElement? (houses.filter (qualifies · revisit)) agent.position (·.center) =
        some house ∧ house.center = target := by
  rw [closestHouse?, query_bind, query_bind, query_bind] at h
  cases position : (look Schema.agentInfo m missing).1 with
  | none => rw [position] at h; cases h
  | some agent =>
    generalize (look Schema.agentInfo m missing).2 = missing₁ at h
    cases interval : (look Schema.secondsBetweenHouseRevisits m missing₁).1 with
    | none => rw [position, interval] at h; cases h
    | some revisit =>
      generalize (look Schema.secondsBetweenHouseRevisits m missing₁).2 = missing₂ at h
      cases known : (look Schema.knownHouses m missing₂).1 with
      | none => rw [position, interval, known] at h; cases h
      | some houses =>
        rw [position, interval, known] at h
        obtain ⟨house, nearest, there⟩ := Option.map_eq_some_iff.1 h
        exact ⟨agent, revisit, houses, house, read_of_look m _ position, read_of_look m _ interval,
          read_of_look m _ known, nearest, there⟩

theorem setGoalToHouse_transacts {name : String} {qualifies : House → Float32 → Bool}
    (plain : parting? name = none)
    (h : (name, qualifies) ∈ [("SetGoalToNearestHouse", House.isOverdue),
      ("SetGoalToClosestHouseNotRecentlyVisited", House.isDue)]) :
    Transactional (setGoalToHouse name qualifies) := by
  refine transactional_of_atomic plain fun m _ => atomic_look fun missing => ?_
  split
  · rename_i found
    obtain ⟨agent, revisit, houses, house, position, interval, known, nearest, rfl⟩ :=
      closestHouse?_eq_some found
    exact atomic_setGoal (.shelter h position interval known nearest)
  · exact atomic_failure

theorem setNearestItemAsGoal_transacts : Transactional setNearestItemAsGoal := by
  refine transactional_of_atomic rfl fun m _ => atomic_look fun _ => atomic_look fun _ =>
    atomic_look fun _ => ?_
  split
  · rename_i position fullHealth fullEnergy
    refine atomic_look fun _ => atomic_look fun _ => atomic_look fun _ => atomic_look fun _ => ?_
    split
    · rename_i items packs foods pistols
      dsimp only
      split
      · rename_i chosen
        exact atomic_setGoal (.collect (read_of_look m _ position) (read_of_look m _ fullHealth)
          (read_of_look m _ fullEnergy) (read_of_look m _ items) (read_of_look m _ packs)
          (read_of_look m _ foods) (read_of_look m _ pistols) chosen)
      · exact atomic_failure
    · exact atomic_failure
  · exact atomic_failure

theorem aimAtNearestEnemyInFov_transacts : Transactional aimAtNearestEnemyInFov := by
  refine transactional_of_atomic rfl fun m _ => atomic_look fun _ => atomic_look fun _ => ?_
  split
  · rename_i position known
    split
    · rename_i nearest
      exact atomic_write_setGoal (by decide)
        (.aim (read_of_look m _ position) (read_of_look m _ known) nearest)
    · exact atomic_failure
  · exact atomic_failure

theorem setGoalToNextHouse_transacts : Transactional setGoalToNextHouse := by
  refine transactional_of_atomic rfl fun m room => atomic_look fun _ => atomic_look fun _ =>
    atomic_look fun _ => ?_
  split
  · rename_i known _ last
    split
    · exact atomic_failure
    · dsimp only
      split
      · rename_i next
        have index := read_of_look m _ last
        exact atomic_write_setGoal (by decide)
          (.visit (read_of_look m _ known) index (room _ _ (by decide) index) next)
      · exact atomic_failure
  · exact atomic_failure

theorem incrementSearchPoint_transacts : Transactional incrementSearchPoint := by
  refine transactional_of_atomic rfl fun m room => atomic_look fun _ => atomic_look fun _ => ?_
  split
  · rename_i route last
    have points := read_of_look m _ route
    have index := read_of_look m _ last
    have small := room _ _ (by decide) index
    split
    · rename_i next
      exact atomic_write_setGoal (by decide) (.search points index small next)
    · rename_i past
      exact atomic_write (.searched points index small (List.getElem?_eq_none_iff.1 past))
  · exact atomic_failure

theorem transactional_all : ∀ v ∈ all, Transactional v := by
  simp only [all, List.forall_mem_cons, List.not_mem_nil, false_imp_iff, implies_true, and_true]
  exact ⟨trivial, trivial, setGoalToNextSearchPoint_transacts, incrementSearchPoint_transacts,
    setGoalToHouse_transacts rfl (by simp), trivial, trivial,
    transactional_of_parting rfl, trivial, trivial, transactional_of_parting rfl, trivial, trivial,
    setNearestItemAsGoal_transacts, trivial, trivial,
    setGoalToHouse_transacts rfl (by simp), setGoalToNextHouse_transacts,
    changeToSeek_transacts, changeToWander_transacts, trivial, trivial, trivial,
    setClosestKnownHealthPackAsGoal_transacts, trivial, useHealthItem_transacts, trivial, trivial,
    trivial, trivial, setClosestKnownFoodItemAsGoal_transacts, transactional_of_parting rfl,
    trivial, trivial, trivial, aimAtNearestEnemyInFov_transacts, transactional_of_parting rfl⟩

/-! ## Actions on any board -/

/-- An action of the library on any scene, whatever is missing or mistyped on the board, as long as
an index that it moves has a successor among the words. One that leaves a flag behind always fails,
and has written the flag if that was there as a truth value. Any other has failed and left all
entries as they were, or has succeeded and made all the assignments of a plan: those of the goal,
with the target that it found and what goes with it, if it sets goals, and nothing else. -/
theorem tick_all_or_nothing {μ : Type} {v : Behaviour} (hv : v ∈ all)
    (action : (v.node : Node EntryType μ).kind = "Action") (s : Scene EntryType μ)
    (room : HasRoom v.leaf s.board.entries) :
    Transacts v.leaf.name s.board.entries (v.node.tick s).1 (v.node.tick s).2.board.entries := by
  have transactional := transactional_all v hv
  cases v with
  | test leaf holds => exact absurd action (show "Conditional" ≠ "Action" by decide)
  | act leaf run => exact transactional s.settled.board room

/-- The last search point but one and a goal to set, but under the flag of the goal there is a
number. -/
def unflagged : Scene EntryType Unit :=
  ⟨⟨((((∅ : Entries EntryType).write Schema.searchPoints [(default : Vec2), default]).write
    Schema.searchPointIndex (0 : Nat)).write Schema.goal (default : Vec2)).write
    (t := .uint8) ⟨"GoalSet"⟩ (1 : UInt8), none⟩, ()⟩

/-- Moving on there fails before the index is written. -/
theorem tick_all_or_nothing_unflagged :
    HasRoom incrementSearchPoint.leaf unflagged.board.entries ∧
      (incrementSearchPoint.node.tick unflagged).1 = .failure ∧
      (incrementSearchPoint.node.tick unflagged).2.board.entries = unflagged.board.entries := by
  have room : HasRoom incrementSearchPoint.leaf unflagged.board.entries := by
    rintro ⟨name⟩ index moved read
    have named : name = "SearchPointIndex" := by
      simpa [incrementSearchPoint, Behaviour.leaf, Leaf.writes, Leaf.reads, Leaf.named,
        Schema.searchPoints, Schema.searchPointIndex, Schema.goal, Schema.goalSet] using moved
    subst named
    obtain rfl : index = 0 := Except.ok.inj (read.symm.trans (by rfl))
    decide
  have failed : (incrementSearchPoint.node.tick unflagged).1 = .failure := by decide +kernel
  refine ⟨room, ?_⟩
  rcases tick_all_or_nothing (v := incrementSearchPoint) (by simp [all]) rfl unflagged room with
    h | ⟨succeeded, -⟩
  · exact h
  · rw [failed] at succeeded
    cases succeeded

end Library
end Forager
