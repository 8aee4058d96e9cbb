import Mathlib.Data.List.DropRight
import Mathlib.Data.List.Sort
import Forager.Proofs.Validation

/-!
# A board answers from its history

A caller of a board sees the answers to its calls and nothing else. From the calls made and the
answers got so far one can tell what the next answer has to be, without looking at the board: which
names were added, with which type first, what was written to each of them last, and which missing
name nobody collected yet. The readings of a history (`Added`, `firstType?`, `latest?`,
`overlooked?`) are written without the board, and `Fits` says with them what a call has to answer.

* `Tells.answer`, `Tells.call`: a board that is as its history tells answers what fits, and is as
  the longer history tells after the call.
* `History.answer_iff_fits`: of all answers, a board that started empty gives the one that fits.
-/
namespace Forager

variable {τ : Type} [EntryTypes τ]

/-! ## Calls and their answers -/

/-- What a caller can ask of a board: an operation, or a look at its names and types. -/
inductive BoardCall (τ : Type) [EntryTypes τ] where
  | op (op : BoardOp τ)
  | contains (name : String)
  | typeOf (name : String)
  | names

namespace BoardCall

/-- What a call answers with. -/
def Answer : BoardCall τ → Type
  | .op (.add ..) | .op (.set ..) => Except (BlackboardError τ) Unit
  | .op (.get (t := t) _) | .op (.modify (t := t) ..) => Except (BlackboardError τ) (Value t)
  | .op .takeMissing => Option String
  | .contains _ => Bool
  | .typeOf _ => Option τ
  | .names => List String

def answer : (c : BoardCall τ) → Blackboard τ → c.Answer
  | .op (.add k v), bb => (bb.add k v).map fun _ => ()
  | .op (.get k), bb => (bb.get k).1
  | .op (.set k v), bb => (bb.set k v).1
  | .op (.modify k f), bb => (bb.modify k f).1
  | .op .takeMissing, bb => bb.takeMissing.1
  | .contains name, bb => bb.contains name
  | .typeOf name, bb => bb.typeOf? name
  | .names, bb => bb.names

/-- The board after a call. -/
def run : BoardCall τ → Blackboard τ → Blackboard τ
  | .op operation, bb => operation.run bb
  | .contains _, bb | .typeOf _, bb | .names, bb => bb

/-- Whether an answer reports an error. -/
def Refused : (c : BoardCall τ) → c.Answer → Prop
  | .op (.add ..), r | .op (.set ..), r => ∃ error, r = .error error
  | .op (.get _), r | .op (.modify ..), r => ∃ error, r = .error error
  | .op .takeMissing, _ | .contains _, _ | .typeOf _, _ | .names, _ => False

end BoardCall

/-- The name that an operation reports as absent. -/
def absentName? {α : Type} : Except (BlackboardError τ) α → Option String
  | .error (.keyNotFound name) => some name
  | _ => none

omit [EntryTypes τ] in
theorem noteMissing_eq_or {α : Type} (r : Except (BlackboardError τ) α) (missing : Option String) :
    noteMissing r missing = missing.or (absentName? r) := by
  cases r with
  | ok a => exact Option.or_none.symm
  | error e =>
    cases e with
    | keyNotFound key => rfl
    | typeMismatch key stored requested => exact Option.or_none.symm
    | duplicateKey key => exact Option.or_none.symm

omit [EntryTypes τ] in
theorem absentName?_map {α β : Type} (r : Except (BlackboardError τ) α) (f : α → β) :
    absentName? (r.map f) = absentName? r := by
  cases r with
  | ok a => rfl
  | error e => cases e <;> rfl

/-- A call with the answer it got. -/
structure Exchange (τ : Type) [EntryTypes τ] where
  call : BoardCall τ
  answer : call.Answer

namespace Exchange

/-- The name and the type in a request to add an entry, granted or not. -/
def request? : Exchange τ → Option (String × τ)
  | ⟨.op (.add (t := t) k _), _⟩ => some (k.name, t)
  | _ => none

/-- The name and the value that a granted request wrote. -/
def write? : Exchange τ → Option (String × Entry τ)
  | ⟨.op (.add (t := t) k v), .ok _⟩ => some (k.name, ⟨t, v⟩)
  | ⟨.op (.set (t := t) k v), .ok _⟩ => some (k.name, ⟨t, v⟩)
  | ⟨.op (.modify (t := t) k f), .ok old⟩ => some (k.name, ⟨t, f old⟩)
  | _ => none

/-- The name that a look-up found to be absent. -/
def missed? : Exchange τ → Option String
  | ⟨.op (.get _), r⟩ => absentName? r
  | ⟨.op (.set ..), r⟩ => absentName? r
  | ⟨.op (.modify ..), r⟩ => absentName? r
  | _ => none

/-- Whether the noted name was collected. -/
def collects : Exchange τ → Bool
  | ⟨.op .takeMissing, _⟩ => true
  | _ => false

end Exchange

/-- A board, and what its callers asked and were told since it was new, the earliest first. -/
structure History (τ : Type) [EntryTypes τ] where
  board : Blackboard τ
  past : List (Exchange τ)

namespace History

/-- A new board. -/
def start : History τ := ⟨∅, []⟩

def call (h : History τ) (c : BoardCall τ) : History τ :=
  ⟨c.run h.board, h.past ++ [⟨c, c.answer h.board⟩]⟩

/-- The history after calls in order. -/
def calls (h : History τ) (cs : List (BoardCall τ)) : History τ := cs.foldl call h

/-! ## What a history tells -/

/-- Whether someone asked to add `name`. -/
def Added (past : List (Exchange τ)) (name : String) : Prop :=
  ∃ x ∈ past, ∃ t, x.request? = some (name, t)

/-- The type in the first request to add `name`. -/
def firstType? (past : List (Exchange τ)) (name : String) : Option τ :=
  (past.filterMap Exchange.request?).lookup name

/-- The value written to `name` last. -/
def latest? (past : List (Exchange τ)) (name : String) : Option (Entry τ) :=
  (past.filterMap Exchange.write?).reverse.lookup name

/-- The first name missed since one was collected last. -/
def overlooked? (past : List (Exchange τ)) : Option String :=
  ((past.rtakeWhile fun x => !x.collects).filterMap Exchange.missed?).head?

/-- What a look-up of `k` has to answer: the value written last, if `k` has the type of the first
request to add its name. -/
inductive LookedUp (past : List (Exchange τ)) {t : τ} (k : Key t) :
    Except (BlackboardError τ) (Value t) → Prop
  | absent (h : ¬Added past k.name) : LookedUp past k (.error (.keyNotFound k.name))
  | mistyped {u : τ} (h : firstType? past k.name = some u) (ne : u ≠ t) :
      LookedUp past k (.error (.typeMismatch k.name u t))
  | found {v : Value t} (h : firstType? past k.name = some t)
      (latest : latest? past k.name = some ⟨t, v⟩) : LookedUp past k (.ok v)

/-- Whether an answer is the one that the history asks for. A name is there from the first request
to add it on, with the type of that request, and is not added again. A missing name is collected if
it was the first to be missed since the last collection. The names come in increasing order. -/
def Fits (past : List (Exchange τ)) : (c : BoardCall τ) → c.Answer → Prop
  | .op (.add k _), r =>
    (Added past k.name → r = .error (.duplicateKey k.name)) ∧ (¬Added past k.name → r = .ok ())
  | .op (.get k), r | .op (.modify k _), r => LookedUp past k r
  | .op (.set k _), r => ∃ old, LookedUp past k old ∧ r = old.map fun _ => ()
  | .op .takeMissing, r => r = overlooked? past
  | .contains name, r => r = true ↔ Added past name
  | .typeOf name, r => r = firstType? past name
  | .names, (r : List String) => r.Pairwise (· < ·) ∧ ∀ name, name ∈ r ↔ Added past name

section Longer

theorem filterMap_singleton {α β : Type} (f : α → Option β) (a : α) :
    [a].filterMap f = (f a).toList := rfl

theorem lookup_singleton {α : Type} (name key : String) (a : α) :
    [(key, a)].lookup name = if name = key then some a else none := by
  rw [List.lookup_cons, List.lookup_nil]
  by_cases same : name = key
  · rw [if_pos same, beq_iff_eq.2 same]
  · rw [if_neg same, beq_eq_false_iff_ne.2 same]

variable (past : List (Exchange τ)) (x : Exchange τ) (name : String)

theorem added_iff : Added past name ↔ (firstType? past name).isSome := by
  rw [Added, firstType?, ← Option.ne_none_iff_isSome, ne_eq,
    NameMap.lookup_eq_none_iff_not_mem, not_not, List.mem_map]
  constructor
  · rintro ⟨y, mem, t, request⟩
    exact ⟨(name, t), List.mem_filterMap.2 ⟨y, mem, request⟩, rfl⟩
  · rintro ⟨⟨_, t⟩, mem, rfl⟩
    obtain ⟨y, mem, request⟩ := List.mem_filterMap.1 mem
    exact ⟨y, mem, t, request⟩

theorem firstType?_snoc :
    firstType? (past ++ [x]) name = (firstType? past name).or (x.request?.toList.lookup name) := by
  rw [firstType?, List.filterMap_append, List.lookup_append, filterMap_singleton, firstType?]

theorem latest?_snoc :
    latest? (past ++ [x]) name = (x.write?.toList.lookup name).or (latest? past name) := by
  rw [latest?, List.filterMap_append, List.reverse_append, List.lookup_append, filterMap_singleton,
    latest?]
  cases x.write? <;> rfl

theorem overlooked?_snoc :
    overlooked? (past ++ [x]) =
      if x.collects then none else (overlooked? past).or x.missed? := by
  unfold overlooked?
  by_cases collects : x.collects
  · rw [if_pos collects, List.rtakeWhile_concat_neg _ _ _ (by simp [collects])]
    rfl
  · rw [if_neg collects, List.rtakeWhile_concat_pos _ _ _ (by simp [collects]),
      List.filterMap_append, List.head?_append, filterMap_singleton]
    cases x.missed? <;> rfl

theorem find?_write_eq_or {t : τ} (m : Entries τ) (k : Key t) (v : Value t) (name : String) :
    (m.write k v).find? name = ([(k.name, (⟨t, v⟩ : Entry τ))].lookup name).or (m.find? name) := by
  rw [Entries.find?_write, lookup_singleton]
  by_cases same : name = k.name
  · rw [if_pos same, if_pos same]
    rfl
  · rw [if_neg same, if_neg same]
    rfl

theorem typeOf?_eq_none_iff {m : Entries τ} {name : String} :
    m.typeOf? name = none ↔ m.contains name = false := by
  rw [Entries.typeOf?, Option.map_eq_none_iff, NameMap.contains, Option.isSome_eq_false_iff,
    Option.isNone_iff_eq_none]

theorem typeOf?_write_eq_or {t : τ} {m : Entries τ} {k : Key t} (fresh : m.contains k.name = false)
    (v : Value t) (name : String) :
    (m.write k v).typeOf? name = (m.typeOf? name).or ([(k.name, t)].lookup name) := by
  rw [lookup_singleton, Entries.typeOf?, Entries.find?_write]
  by_cases same : name = k.name
  · rw [if_pos same, if_pos same, same, typeOf?_eq_none_iff.2 fresh]
    rfl
  · rw [if_neg same, if_neg same, Option.or_none]
    rfl

end Longer

/-! ## A board is as its history tells -/

/-- Whether a board holds, and has noted, what a history tells. -/
structure Tells (past : List (Exchange τ)) (bb : Blackboard τ) : Prop where
  entries : ∀ name, bb.entries.find? name = latest? past name
  types : ∀ name, bb.entries.typeOf? name = firstType? past name
  missing : bb.missing = overlooked? past

namespace Tells

variable {past : List (Exchange τ)} {bb bb' : Blackboard τ} {x : Exchange τ}

theorem empty : Tells [] (∅ : Blackboard τ) where
  entries := fun _ => rfl
  types := fun _ => rfl
  missing := rfl

theorem added_iff_contains (h : Tells past bb) (name : String) :
    Added past name ↔ bb.entries.contains name = true := by
  rw [added_iff, ← h.types, Entries.typeOf?, Option.isSome_map, NameMap.contains]

theorem lookedUp {t : τ} (h : Tells past bb) (k : Key t) : LookedUp past k (bb.entries.read k) := by
  cases found : bb.entries.find? k.name with
  | none =>
    rw [Entries.read_eq_keyNotFound_iff.2 found]
    refine .absent fun added => ?_
    rw [h.added_iff_contains, NameMap.contains, found] at added
    cases added
  | some e =>
    have first : firstType? past k.name = some e.type := by
      rw [← h.types, Entries.typeOf?, found]
      rfl
    have latest : latest? past k.name = some e := by rw [← h.entries, found]
    cases same : e.as? t with
    | none =>
      simp only [Entries.read, found, same]
      exact .mistyped first (Entry.as?_eq_none_iff.1 same)
    | some v =>
      rw [Entry.as?_eq_some_iff] at same
      subst same
      rw [Entries.read_eq_ok_iff.2 found]
      exact .found first latest

/-- A board that is as its history tells answers what fits. -/
theorem answer (h : Tells past bb) (c : BoardCall τ) : Fits past c (c.answer bb) := by
  cases c with
  | op operation =>
    cases operation with
    | add k v =>
      simp only [Fits, BoardCall.answer, Blackboard.add]
      rw [h.added_iff_contains]
      constructor
      · intro there
        rw [if_pos there]
        rfl
      · intro there
        rw [if_neg there]
        rfl
    | get k => exact h.lookedUp k
    | set k v =>
      exact ⟨bb.entries.read k, h.lookedUp k, Blackboard.set_result bb k v⟩
    | modify k f =>
      simp only [Fits, BoardCall.answer, Blackboard.modify_result]
      exact h.lookedUp k
    | takeMissing => exact h.missing
  | contains name => exact (h.added_iff_contains name).symm
  | typeOf name => exact h.types name
  | names =>
    refine ⟨bb.entries.names_sorted, fun name => ?_⟩
    rw [h.added_iff_contains]
    exact NameMap.mem_names_iff

/-- What one more exchange has to do to the board, for the board to stay as told. -/
theorem snoc (h : Tells past bb)
    (entries : ∀ name, bb'.entries.find? name =
      (x.write?.toList.lookup name).or (bb.entries.find? name))
    (types : ∀ name, bb'.entries.typeOf? name =
      (bb.entries.typeOf? name).or (x.request?.toList.lookup name))
    (missing : bb'.missing = if x.collects then none else bb.missing.or x.missed?) :
    Tells (past ++ [x]) bb' where
  entries := by
    intro name
    rw [entries, latest?_snoc, h.entries]
  types := by
    intro name
    rw [types, firstType?_snoc, h.types]
  missing := by rw [missing, overlooked?_snoc, h.missing]

/-- An exchange that neither adds nor writes nor collects. -/
theorem snoc_read (h : Tells past bb) (request : x.request? = none) (write : x.write? = none)
    (collects : x.collects = false) {noted : Option String}
    (missed : noted = bb.missing.or x.missed?) :
    Tells (past ++ [x]) { bb with missing := noted } := by
  refine h.snoc (fun name => ?_) (fun name => ?_) ?_
  · rw [write]
    rfl
  · rw [request, Option.toList_none, List.lookup_nil, Option.or_none]
  · rw [collects, missed]
    rfl

theorem snoc_modify {t : τ} (h : Tells past bb) (k : Key t) (f : Value t → Value t)
    (request : x.request? = none) (collects : x.collects = false)
    (write : x.write? =
      (bb.entries.read k).toOption.map fun old => (k.name, ⟨t, f old⟩))
    (missed : x.missed? = absentName? (bb.entries.read k)) :
    Tells (past ++ [x]) (bb.modify k f).2 := by
  unfold Blackboard.modify
  cases there : bb.entries.read k with
  | error e =>
    rw [there] at write missed
    refine h.snoc_read request write collects ?_
    rw [missed, noteMissing_eq_or]
    cases e <;> rfl
  | ok old =>
    rw [there] at write missed
    refine h.snoc (fun name => ?_) (fun name => ?_) ?_
    · simp only [write, Except.toOption, Option.map_some, Option.toList_some]
      exact find?_write_eq_or bb.entries k (f old) name
    · rw [request, Option.toList_none, List.lookup_nil, Option.or_none]
      exact Edit.Within.typeOf?_write there (f old) name
    · rw [collects, missed]
      exact Option.or_none.symm

theorem snoc_add {t : τ} (h : Tells past bb) (k : Key t) (v : Value t) :
    Tells (past ++ [⟨.op (.add k v), (bb.add k v).map fun _ => ()⟩])
      ((BoardOp.add k v).run bb) := by
  rw [BoardOp.run, Blackboard.add]
  by_cases there : bb.entries.contains k.name
  · -- A second request changes nothing, and comes too late to set the type.
    rw [if_pos there]
    refine h.snoc (fun name => rfl) (fun name => ?_) Option.or_none.symm
    cases typed : bb.entries.typeOf? name with
    | some first => rfl
    | none =>
      have other : name ≠ k.name := by
        rintro rfl
        rw [typeOf?_eq_none_iff.1 typed] at there
        cases there
      exact ((lookup_singleton name k.name t).trans (if_neg other)).symm
  · rw [if_neg there]
    rw [Bool.not_eq_true] at there
    exact h.snoc (find?_write_eq_or bb.entries k v) (typeOf?_write_eq_or there v)
      Option.or_none.symm

/-- A board that is as its history tells stays so with each further call. -/
theorem call (h : Tells past bb) (c : BoardCall τ) :
    Tells (past ++ [⟨c, c.answer bb⟩]) (c.run bb) := by
  cases c with
  | op operation =>
    cases operation with
    | add k v => exact h.snoc_add k v
    | get k => exact h.snoc_read rfl rfl rfl (noteMissing_eq_or _ _)
    | set k v =>
      refine h.snoc_modify k (fun _ => v) rfl rfl ?_ ?_
      · simp only [BoardCall.answer, Blackboard.set_result]
        cases bb.entries.read k <;> rfl
      · simp only [BoardCall.answer, Blackboard.set_result]
        exact absentName?_map _ _
    | modify k f =>
      refine h.snoc_modify k f rfl rfl ?_ ?_
      · simp only [BoardCall.answer, Blackboard.modify_result]
        cases bb.entries.read k <;> rfl
      · simp only [BoardCall.answer, Blackboard.modify_result]
        rfl
    | takeMissing =>
      refine h.snoc ?_ ?_ ?_
      · exact fun name => rfl
      · exact fun name => (Option.or_none).symm
      · rfl
  | contains name => exact h.snoc_read rfl rfl rfl Option.or_none.symm
  | typeOf name => exact h.snoc_read rfl rfl rfl Option.or_none.symm
  | names => exact h.snoc_read rfl rfl rfl Option.or_none.symm

end Tells

/-! ## A history leaves no choice -/

theorem LookedUp.unique {past : List (Exchange τ)} {t : τ} {k : Key t}
    {r r' : Except (BlackboardError τ) (Value t)} (h : LookedUp past k r)
    (h' : LookedUp past k r') : r = r' := by
  have typed {u : τ} (first : firstType? past k.name = some u) : Added past k.name := by
    rw [added_iff, first]
    rfl
  cases h with
  | absent never =>
    cases h' with
    | absent => rfl
    | mistyped first => exact absurd (typed first) never
    | found first => exact absurd (typed first) never
  | mistyped first ne =>
    cases h' with
    | absent never => exact absurd (typed first) never
    | mistyped first' =>
      cases first.symm.trans first'
      rfl
    | found first' => exact absurd (Option.some.inj (first.symm.trans first')) ne
  | found first latest =>
    cases h' with
    | absent never => exact absurd (typed first) never
    | mistyped first' ne => exact absurd (Option.some.inj (first'.symm.trans first)) ne
    | found first' latest' =>
      cases latest.symm.trans latest'
      rfl

theorem Fits.unique {past : List (Exchange τ)} {c : BoardCall τ} {r r' : c.Answer}
    (h : Fits past c r) (h' : Fits past c r') : r = r' := by
  cases c with
  | op operation =>
    cases operation with
    | add k v =>
      by_cases added : Added past k.name
      · exact (h.1 added).trans (h'.1 added).symm
      · exact (h.2 added).trans (h'.2 added).symm
    | get k => exact LookedUp.unique h h'
    | set k v =>
      obtain ⟨old, looked, rfl⟩ := h
      obtain ⟨old', looked', rfl⟩ := h'
      rw [looked.unique looked']
    | modify k f => exact LookedUp.unique h h'
    | takeMissing => exact Eq.trans h (Eq.symm h')
  | contains name => exact Bool.eq_iff_iff.2 (Iff.trans h (Iff.symm h'))
  | typeOf name => exact Eq.trans h (Eq.symm h')
  | names =>
    have same (name : String) := (h.2 name).trans (h'.2 name).symm
    exact List.Pairwise.eq_of_mem_iff h.1 h'.1 same

/-! ## What a board answers -/

theorem tells_calls {h : History τ} (told : Tells h.past h.board) (cs : List (BoardCall τ)) :
    Tells (h.calls cs).past (h.calls cs).board := by
  induction cs generalizing h with
  | nil => exact told
  | cons c cs ih => exact ih (told.call c)

theorem entries_modify_of_error {t : τ} {bb : Blackboard τ} {k : Key t} {f : Value t → Value t}
    {e : BlackboardError τ} (h : (bb.modify k f).1 = .error e) :
    (bb.modify k f).2.entries = bb.entries := by
  rw [Blackboard.modify_result] at h
  rw [Blackboard.modify, h]

/-- An operation that fails changes no entry. -/
theorem entries_run_of_refused {c : BoardCall τ} {bb : Blackboard τ}
    (refused : c.Refused (c.answer bb)) : (c.run bb).entries = bb.entries := by
  cases c with
  | op operation =>
    cases operation with
    | add k v =>
      obtain ⟨e, failed⟩ := refused
      simp only [BoardCall.answer] at failed
      cases added : bb.add k v with
      | error e' => simp only [BoardCall.run, BoardOp.run, added]
      | ok bb' =>
        rw [added] at failed
        cases failed
    | get k => rfl
    | set k v =>
      obtain ⟨e, failed⟩ := refused
      refine entries_modify_of_error (e := e) ?_
      simp only [BoardCall.answer, Blackboard.set_result] at failed
      rw [Blackboard.modify_result]
      cases old : bb.entries.read k with
      | error e' =>
        rw [old] at failed
        cases failed
        rfl
      | ok v' =>
        rw [old] at failed
        cases failed
    | modify k f =>
      obtain ⟨e, failed⟩ := refused
      exact entries_modify_of_error failed
    | takeMissing => rfl
  | contains name => rfl
  | typeOf name => rfl
  | names => rfl

/-- A board that started empty answers every call as its history asks, and in no other way. An
operation that fails changes no entry. -/
theorem answer_iff_fits (cs : List (BoardCall τ)) (c : BoardCall τ) :
    let h := (start : History τ).calls cs
    (∀ r : c.Answer, c.answer h.board = r ↔ Fits h.past c r) ∧
      (c.Refused (c.answer h.board) → (c.run h.board).entries = h.board.entries) := by
  intro h
  have told : Tells h.past h.board := tells_calls Tells.empty cs
  refine ⟨fun r => ⟨?_, fun fits => (told.answer c).unique fits⟩, entries_run_of_refused⟩
  rintro rfl
  exact told.answer c

/-- Adding a name that was missed does not take back that it was. -/
example :
    let h := (start : History EntryType).calls
      [.op (.get (t := .bool) ⟨"Lit"⟩), .op (.add (t := .bool) ⟨"Lit"⟩ true),
        .op (.get (t := .bool) ⟨"Locked"⟩), .names]
    BoardCall.answer (.op .takeMissing) h.board = some "Lit" := rfl

end History
end Forager
