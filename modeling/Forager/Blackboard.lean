import Forager.NameMap

/-!
# The blackboard

A blackboard stores named entries. An entry is registered once (`add`), keeps the type it was
registered with, and lives as long as the board. Which types there are is a parameter: a
*universe* `τ` of type codes (`EntryTypes`).

The first look-up of a name that was never added is noted until `takeMissing` collects it, so a
caller that drops the error still leaves a mark. `get`, `set` and `swap` note; `add`,
`contains` and `typeOf?` do not.

A `Query` reads entries and may note a missing name; it cannot change an entry, by its type. An
`Edit` may do anything to the board.

* `read_eq_ok_iff`, `read_eq_keyNotFound_iff`: when a read succeeds, and when the name is absent.
* `read_write_self`, `read_write_of_ne`: a write is read back under its own name only.
-/
namespace Forager

/-! ## Entry types -/

/-- A universe of entry types: what each code stands for, and the name shown in messages. -/
class EntryTypes (τ : Type) where
  Value : τ → Type
  name : τ → String
  decEq : DecidableEq τ

export EntryTypes (Value)

variable {τ : Type} [EntryTypes τ]

instance (priority := low) EntryTypes.instDecidableEq : DecidableEq τ := EntryTypes.decEq

/-- A typed handle: the name of an entry and the type expected there. -/
structure Key {τ : Type} (t : τ) where
  name : String
  deriving DecidableEq, Repr

/-- A stored value with its type. -/
structure Entry (τ : Type) [EntryTypes τ] where
  type : τ
  value : Value type

/-- The value of an entry at type `t`, if that is its type. -/
def Entry.as? (e : Entry τ) (t : τ) : Option (Value t) :=
  if h : e.type = t then some (h ▸ e.value) else none

/-- Why a blackboard operation failed. -/
inductive BlackboardError (τ : Type) where
  | keyNotFound (key : String)
  | typeMismatch (key : String) (stored requested : τ)
  | duplicateKey (key : String)
  deriving DecidableEq, Repr

def BlackboardError.message : BlackboardError τ → String
  | .keyNotFound key => s!"blackboard key `{key}` was never added"
  | .typeMismatch key stored requested =>
    s!"blackboard key `{key}` holds `{EntryTypes.name stored}`, requested `{EntryTypes.name requested}`"
  | .duplicateKey key => s!"blackboard key `{key}` is already registered"

/-! ## Entries -/

/-- What a board holds. -/
abbrev Entries (τ : Type) [EntryTypes τ] := NameMap (Entry τ)

namespace Entries

/-- What is held under `k`. The name is checked before the type. -/
def read {t : τ} (m : Entries τ) (k : Key t) : Except (BlackboardError τ) (Value t) :=
  match m.find? k.name with
  | none => .error (.keyNotFound k.name)
  | some e =>
    match e.as? t with
    | some v => .ok v
    | none => .error (.typeMismatch k.name e.type t)

/-- Stores `v` under `k`, with `k`'s type. -/
def write {t : τ} (m : Entries τ) (k : Key t) (v : Value t) : Entries τ :=
  m.insert k.name ⟨t, v⟩

/-- The type held under `name`. -/
def typeOf? (m : Entries τ) (name : String) : Option τ := (m.find? name).map (·.type)

end Entries

/-- The noted name after an operation with outcome `r`: the earliest missing name stays. -/
def noteMissing {α : Type} (r : Except (BlackboardError τ) α) (missing : Option String) :
    Option String :=
  match r with
  | .error (.keyNotFound key) => missing.or (some key)
  | _ => missing

/-! ## Queries and edits -/

/-- Named entries, and the first missing name looked up since the last collection. -/
structure Blackboard (τ : Type) [EntryTypes τ] where
  entries : Entries τ
  missing : Option String

/-- A computation that reads entries and may note a missing name. -/
abbrev Query (τ : Type) [EntryTypes τ] := ReaderT (Entries τ) (StateM (Option String))

/-- A computation on the whole board. -/
abbrev Edit (τ : Type) [EntryTypes τ] := StateM (Blackboard τ)

namespace Query

/-- Reads `k`, noting its name if nothing was added under it. -/
def get {t : τ} (k : Key t) : Query τ (Except (BlackboardError τ) (Value t)) :=
  fun m missing => (m.read k, noteMissing (m.read k) missing)

/-- The value of `k`, if it is there with the right type. -/
def look {t : τ} (k : Key t) : Query τ (Option (Value t)) :=
  fun m missing => ((m.read k).toOption, noteMissing (m.read k) missing)

/-- Collects the noted name. -/
def takeMissing : Query τ (Option String) := fun _ missing => (missing, none)

/-- A query as an edit, which leaves the entries alone. -/
def edit {α : Type} (q : Query τ α) : Edit τ α := fun bb =>
  let r := q bb.entries bb.missing
  (r.1, ⟨bb.entries, r.2⟩)

instance : MonadLift (Query τ) (Edit τ) := ⟨edit⟩

end Query

/-! ## Operations of the board -/

namespace Blackboard

/-- A board without entries. -/
def empty : Blackboard τ := ⟨∅, none⟩

instance : EmptyCollection (Blackboard τ) := ⟨empty⟩

instance : Inhabited (Blackboard τ) := ⟨empty⟩

/-- Registers `k` with its first value. A name is registered once. -/
def add {t : τ} (bb : Blackboard τ) (k : Key t) (v : Value t) :
    Except (BlackboardError τ) (Blackboard τ) :=
  if bb.entries.contains k.name then .error (.duplicateKey k.name)
  else .ok { bb with entries := bb.entries.write k v }

def get {t : τ} (bb : Blackboard τ) (k : Key t) :
    Except (BlackboardError τ) (Value t) × Blackboard τ :=
  (Query.get k).edit bb

/-- Replaces the value under `k` by the result of `f` and answers the old one. -/
def modify {t : τ} (bb : Blackboard τ) (k : Key t) (f : Value t → Value t) :
    Except (BlackboardError τ) (Value t) × Blackboard τ :=
  match bb.entries.read k with
  | .ok v => (.ok v, { bb with entries := bb.entries.write k (f v) })
  | .error e => (.error e, { bb with missing := noteMissing (Except.error (α := Unit) e) bb.missing })

/-- Stores a new value under `k` and answers the old one. -/
def swap {t : τ} (bb : Blackboard τ) (k : Key t) (v : Value t) :
    Except (BlackboardError τ) (Value t) × Blackboard τ :=
  bb.modify k fun _ => v

/-- Overwrites the value under `k`, which must have been added with the same type. -/
def set {t : τ} (bb : Blackboard τ) (k : Key t) (v : Value t) :
    Except (BlackboardError τ) Unit × Blackboard τ :=
  let r := bb.swap k v
  (r.1.map fun _ => (), r.2)

/-- The earliest missing name since the last call, which is then forgotten. -/
def takeMissing (bb : Blackboard τ) : Option String × Blackboard τ :=
  Query.takeMissing.edit bb

/-- The board with no missing name noted. -/
def clearMissing (bb : Blackboard τ) : Blackboard τ := { bb with missing := none }

def contains (bb : Blackboard τ) (name : String) : Bool := bb.entries.contains name

def typeOf? (bb : Blackboard τ) (name : String) : Option τ := bb.entries.typeOf? name

/-- The registered names, in increasing order. -/
def names (bb : Blackboard τ) : List String := bb.entries.names

def size (bb : Blackboard τ) : Nat := bb.entries.size

def isEmpty (bb : Blackboard τ) : Bool := bb.entries.size == 0

end Blackboard

namespace Edit

/-- Overwrites `k`; whether that worked. -/
def write {t : τ} (k : Key t) (v : Value t) : Edit τ Bool := fun bb =>
  let r := bb.set k v
  (r.1.toBool, r.2)

/-- Changes the value of `k` in place; whether that worked. -/
def modify {t : τ} (k : Key t) (f : Value t → Value t) : Edit τ Bool := fun bb =>
  let r := bb.modify k f
  (r.1.toBool, r.2)

end Edit

/-! ## Reads and writes -/

namespace Entry

@[simp] theorem as?_self (t : τ) (v : Value t) : (⟨t, v⟩ : Entry τ).as? t = some v := by
  simp [as?]

theorem as?_eq_none_iff {e : Entry τ} {t : τ} : e.as? t = none ↔ e.type ≠ t := by
  unfold as?; split <;> simp_all

theorem as?_eq_some_iff {e : Entry τ} {t : τ} {v : Value t} : e.as? t = some v ↔ e = ⟨t, v⟩ := by
  obtain ⟨t', v'⟩ := e
  constructor
  · intro h
    unfold as? at h
    split at h
    · rename_i ht
      subst ht
      simp at h
      rw [h]
    · cases h
  · intro h
    rw [h, as?_self]

end Entry

namespace Entries

theorem find?_write {t : τ} (m : Entries τ) (k : Key t) (v : Value t) (q : String) :
    (m.write k v).find? q = if q = k.name then some ⟨t, v⟩ else m.find? q :=
  NameMap.find?_insert ..

theorem read_eq_ok_iff {t : τ} {m : Entries τ} {k : Key t} {v : Value t} :
    m.read k = .ok v ↔ m.find? k.name = some ⟨t, v⟩ := by
  unfold read
  cases hf : m.find? k.name with
  | none => simp
  | some e =>
    simp only [Option.some.injEq]
    rw [← Entry.as?_eq_some_iff]
    cases e.as? t <;> simp

theorem exists_read {t : τ} {m : Entries τ} {k : Key t} (h : m.typeOf? k.name = some t) :
    ∃ v, m.read k = .ok v := by
  obtain ⟨⟨u, v⟩, found, rfl⟩ := Option.map_eq_some_iff.1 h
  exact ⟨v, read_eq_ok_iff.2 found⟩

theorem read_eq_keyNotFound_iff {t : τ} {m : Entries τ} {k : Key t} :
    m.read k = .error (.keyNotFound k.name) ↔ m.find? k.name = none := by
  unfold read
  cases m.find? k.name with
  | none => simp
  | some e => cases h : e.as? t <;> simp [h]

/-- A read depends only on what its own name holds. -/
theorem read_congr {t : τ} {m₁ m₂ : Entries τ} {k : Key t} (h : m₁.find? k.name = m₂.find? k.name) :
    m₁.read k = m₂.read k := by simp [read, h]

@[simp] theorem read_write_self {t : τ} (m : Entries τ) (k : Key t) (v : Value t) :
    (m.write k v).read k = .ok v := by simp [read_eq_ok_iff, find?_write]

theorem read_write_of_ne {t u : τ} (m : Entries τ) (k : Key t) (v : Value t) (q : Key u)
    (h : q.name ≠ k.name) : (m.write k v).read q = m.read q :=
  read_congr (by simp [find?_write, h])

end Entries

namespace Blackboard

@[simp] theorem get_entries {t : τ} (bb : Blackboard τ) (k : Key t) :
    (bb.get k).2.entries = bb.entries := rfl

@[simp] theorem get_result {t : τ} (bb : Blackboard τ) (k : Key t) :
    (bb.get k).1 = bb.entries.read k := rfl

@[simp] theorem get_missing {t : τ} (bb : Blackboard τ) (k : Key t) :
    (bb.get k).2.missing = noteMissing (bb.entries.read k) bb.missing := rfl

@[simp] theorem modify_result {t : τ} (bb : Blackboard τ) (k : Key t) (f : Value t → Value t) :
    (bb.modify k f).1 = bb.entries.read k := by
  unfold modify
  cases bb.entries.read k <;> rfl

@[simp] theorem set_result {t : τ} (bb : Blackboard τ) (k : Key t) (v : Value t) :
    (bb.set k v).1 = (bb.entries.read k).map fun _ => () := by
  rw [set, swap, modify_result]

theorem set_of_read {t : τ} {bb : Blackboard τ} {k : Key t} {v : Value t}
    (h : bb.entries.read k = .ok v) (w : Value t) :
    bb.set k w = (.ok (), { bb with entries := bb.entries.write k w }) := by
  simp [set, swap, modify, h, Except.map]

theorem set_of_error {t : τ} {bb : Blackboard τ} {k : Key t} {e : BlackboardError τ}
    (h : bb.entries.read k = .error e) (w : Value t) :
    bb.set k w =
      (.error e, { bb with missing := noteMissing (Except.error (α := Unit) e) bb.missing }) := by
  simp [set, swap, modify, h, Except.map]

end Blackboard
end Forager
