import Mathlib.Logic.Relation
import Forager.Codec.Trace
import Forager.Proofs.JsonSpelling

/-!
# Stored traces

Logs survive storage in every format that keeps a few laws, and the events of a text are told by
the names of their fields: neither their order nor fields of other names matter. A number that is
no integer of its range, an unknown status and a missing field spoil the event, and with it the log.

**What is relied on** (`Storage.Lawful`, hypotheses about the format).
* What was written is read back, if it is made of texts and of integers of a word, has no record
  with two fields of one name, and is not nested too deep. What is read tells numbers from texts.
* A field of a record is found by its name, if it is there once, whatever else there is.
* A document is taken for a natural number below a bound exactly if it is one.
* A choice among names is read from its name, and from nothing else but a record with this field.
* Texts and the elements of lists are taken as they are.

**Results.**
* `TraceLog.load_save`: what is saved is loaded.
* `TraceLog.read_rearranged`: rearranging changes nothing.
* `TraceLog.load_spoiled`: a spoiled event spoils its log.
* `TraceLog.survives_storage`: all of this, for every lawful format.
* `Json.lawful_storage`: JSON is one, with either writer.
-/
namespace Forager

open Document Json

/-! ## The laws of a format -/

namespace Document

/-- Documents that every format keeps: texts and integers of a word, in lists and in records without
repeated fields, at most so many levels deep. -/
inductive Storable : Nat → Document → Prop
  | integer {levels : Nat} {n : Int} (fits : fitsWord n = true) :
    Storable levels (.number (.integer n))
  | text {levels : Nat} (s : String) : Storable levels (.text s)
  | list {levels : Nat} {items : List Document} (each : ∀ d ∈ items, Storable levels d) :
    Storable (levels + 1) (.list items)
  | record {levels : Nat} {fs : List (String × Document)} (distinct : (fs.map (·.1)).Nodup)
    (each : ∀ f ∈ fs, Storable levels f.2) : Storable (levels + 1) (.record fs)

/-- The document is the given name, alone or as the one field of a record. -/
def Names (d : Document) (name : String) : Prop :=
  d = .text name ∨ ∃ v, d = .record [(name, v)]

theorem mem_fieldValues {name : String} {v : Document} {fs : List (String × Document)} :
    v ∈ fieldValues name fs ↔ (name, v) ∈ fs := by
  simp [fieldValues]

theorem mem_of_fieldValues {name : String} {fs : List (String × Document)} {d : Document}
    (eq : fieldValues name fs = [d]) : (name, d) ∈ fs :=
  mem_fieldValues.1 (eq ▸ List.mem_singleton_self d)

theorem eq_of_fieldValues {name : String} {fs : List (String × Document)} {d d' : Document}
    (eq : fieldValues name fs = [d]) (field : (name, d') ∈ fs) : d' = d :=
  List.mem_singleton.1 (eq ▸ mem_fieldValues.2 field)

end Document

/-- What a reader makes of documents whose parts tell what they are. -/
structure Reader.Lawful (r : Reader) : Prop where
  field (names : List String) (name : String) (wanted : name ∈ names)
    {fs : List (String × Document)} {v : Document} :
    r.field names (.record fs) name = some v ↔ fieldValues name fs = [v]
  choice {names : List String} {name : String} (among : name ∈ names) :
    r.choice names (.text name) = some name
  named {names : List String} {d : Document} {name : String} (typed : Typed d)
    (chosen : r.choice names d = some name) : name ∈ names ∧ d.Names name
  natural {bound n : Nat} {d : Document} (typed : Typed d) :
    r.natural bound d = some n ↔ n < bound ∧ d = .nat n
  text (s : String) : r.text (.text s) = some s
  elements (items : List Document) : r.elements (.list items) = some items

/-- What a format is relied on for. Readers commonly refuse what has 128 levels or more. -/
structure Storage.Lawful (S : Storage) : Prop extends S.toReader.Lawful where
  read_write {d : Document} (storable : d.Storable 127) : S.read (S.write d) = some d
  typed {text : String} {d : Document} (read : S.read text = some d) : Typed d

namespace Reader.Lawful

variable {r : Reader} (lawful : r.Lawful)
include lawful

/-- Records that show the same values under a name have the same field of that name. -/
theorem field_congr {names : List String} {fs fs' : List (String × Document)} {name : String}
    (wanted : name ∈ names) (same : ∀ v, fieldValues name fs = [v] ↔ fieldValues name fs' = [v]) :
    r.field names (.record fs) name = r.field names (.record fs') name := by
  refine Option.ext fun v => ?_
  rw [lawful.field names name wanted, lawful.field names name wanted, same]

/-- A field that is given somewhere is found unless it is given elsewhere, too. -/
theorem field_append_cons (names : List String) (name : String) (wanted : name ∈ names)
    (fs gs : List (String × Document)) (d : Document) :
    r.field names (.record (fs ++ (name, d) :: gs)) name =
      if fieldValues name fs = [] ∧ fieldValues name gs = [] then some d else none := by
  have values : fieldValues name (fs ++ (name, d) :: gs) =
      fieldValues name fs ++ d :: fieldValues name gs := by
    simp [fieldValues]
  refine Option.ext fun v => ?_
  rw [lawful.field names name wanted, values, Option.ite_none_right_eq_some]
  rcases fieldValues name fs with - | ⟨x, xs⟩ <;> rcases fieldValues name gs with - | ⟨z, zs⟩ <;>
    simp

end Reader.Lawful

/-! ## Saving and loading -/

theorem Status.name_mem_names (s : Status) : s.name ∈ names := by cases s <;> decide

namespace Event

theorem storable_encode (e : Event) (levels : Nat) : e.encode.Storable (levels + 1) := by
  have word {n : Nat} (h : n < UInt64.size) : (Document.nat n).Storable levels := by
    rw [UInt64.size] at h
    refine .integer ?_
    simp only [fitsWord, Bool.and_eq_true, decide_eq_true_eq]
    omega
  have tick := word e.tick.toNat_lt_size
  have depth := word (e.depth.toNat_lt_size.trans (by decide))
  have node : Storable levels (.text e.node) := .text e.node
  have status : e.status.encode.Storable levels := .text e.status.name
  refine .record (show fieldNames.Nodup by decide) ?_
  simp only [List.forall_mem_cons]
  exact ⟨tick, depth, node, status, List.forall_mem_nil _⟩

theorem read_encode {r : Reader} (lawful : r.Lawful) (e : Event) : read r e.encode = some e := by
  have tick : r.field fieldNames e.encode "tick" = some (.nat e.tick.toNat) :=
    (lawful.field _ _ (by decide)).2 rfl
  have depth : r.field fieldNames e.encode "depth" = some (.nat e.depth.toNat) :=
    (lawful.field _ _ (by decide)).2 rfl
  have node : r.field fieldNames e.encode "node" = some (.text e.node) :=
    (lawful.field _ _ (by decide)).2 rfl
  have status : r.field fieldNames e.encode "status" = some (.text e.status.name) :=
    (lawful.field _ _ (by decide)).2 rfl
  have ticks : r.natural UInt64.size (.nat e.tick.toNat) = some e.tick.toNat :=
    (lawful.natural (.number _)).2 ⟨e.tick.toNat_lt_size, rfl⟩
  have depths : r.natural UInt32.size (.nat e.depth.toNat) = some e.depth.toNat :=
    (lawful.natural (.number _)).2 ⟨e.depth.toNat_lt_size, rfl⟩
  simp only [read, tick, depth, node, status, ticks, depths, lawful.text, Status.read,
    lawful.choice e.status.name_mem_names, Status.ofName?_name, Option.bind_eq_bind,
    Option.bind_some, UInt64.ofNat_toNat, UInt32.ofNat_toNat, Option.pure_def]

end Event

namespace TraceLog

theorem storable_encode (log : TraceLog) (levels : Nat) : log.encode.Storable (levels + 3) := by
  refine .record (show fieldNames.Nodup by decide) (List.forall_mem_singleton.2 (.list ?_))
  rw [List.forall_mem_map]
  exact fun e _ => e.storable_encode levels

theorem read_encode {r : Reader} (lawful : r.Lawful) (log : TraceLog) :
    read r log.encode = some log := by
  have events : r.field fieldNames log.encode "events" =
      some (.list (log.events.map Event.encode)) := (lawful.field _ _ (by decide)).2 rfl
  have each : (log.events.map Event.encode).mapM (Event.read r) = some log.events := by
    rw [mapM_eq_some_iff, List.forall₂_map_left_iff, List.forall₂_same]
    exact fun e _ => e.read_encode lawful
  simp only [read, events, lawful.elements, each, Option.bind_eq_bind, Option.bind_some,
    Option.pure_def]

theorem load_save {S : Storage} (lawful : S.Lawful) (log : TraceLog) :
    load S (log.save S) = some log := by
  rw [load, save, lawful.read_write (log.storable_encode 124), Option.bind_some]
  exact log.read_encode lawful.toLawful

end TraceLog

/-! ## Rearranging -/

namespace Document

/-- One document is the other with its fields in another order, or with one more field whose name
is none of the given ones. -/
inductive Rearranged (names : List String) : Document → Document → Prop
  | order {fs fs' : List (String × Document)} (same : fs.Perm fs') :
    Rearranged names (.record fs) (.record fs')
  | extra {name : String} (unknown : name ∉ names) (d : Document) (fs : List (String × Document)) :
    Rearranged names (.record fs) (.record ((name, d) :: fs))

/-- Rearranging leaves the fields of the given names to be found. -/
theorem Rearranged.field {names : List String} {d d' : Document} (h : d.Rearranged names d')
    {r : Reader} (lawful : r.Lawful) (name : String) (wanted : name ∈ names) :
    r.field names d name = r.field names d' name := by
  cases h with
  | @order fs fs' same =>
    have values : (fieldValues name fs).Perm (fieldValues name fs') := (same.filter _).map _
    refine lawful.field_congr wanted fun v => ⟨fun eq => ?_, fun eq => ?_⟩
    · exact List.perm_singleton.1 (eq ▸ values.symm)
    · exact List.perm_singleton.1 (eq ▸ values)
  | @extra other unknown d fs =>
    have different : other ≠ name := fun eq => unknown (eq ▸ wanted)
    have values : fieldValues name ((other, d) :: fs) = fieldValues name fs := by
      simp [fieldValues, different]
    exact lawful.field_congr wanted fun v => by rw [values]

end Document

theorem Event.read_rearranged {r : Reader} (lawful : r.Lawful) {d d' : Document}
    (h : d.Rearranged fieldNames d') : read r d = read r d' := by
  have tick := h.field lawful "tick" (by decide)
  have depth := h.field lawful "depth" (by decide)
  have node := h.field lawful "node" (by decide)
  have status := h.field lawful "status" (by decide)
  simp only [read, tick, depth, node, status]

namespace TraceLog

/-- One log is the other with its fields rearranged, or with those of one of its events. -/
inductive Rearranged : Document → Document → Prop
  | log {d d' : Document} (h : d.Rearranged fieldNames d') : Rearranged d d'
  | event {e e' : Document} (h : e.Rearranged Event.fieldNames e')
    (fs gs : List (String × Document)) (before after : List Document) :
    Rearranged (.record (fs ++ ("events", .list (before ++ e :: after)) :: gs))
      (.record (fs ++ ("events", .list (before ++ e' :: after)) :: gs))

theorem read_rearranged {r : Reader} (lawful : r.Lawful) {d d' : Document}
    (h : Rearranged d d') : read r d = read r d' := by
  cases h with
  | log h => simp only [read, h.field lawful "events" (by decide)]
  | @event e e' h fs gs before after =>
    have lists : (before ++ e :: after).mapM (Event.read r) =
        (before ++ e' :: after).mapM (Event.read r) := by
      simp only [List.mapM_append, List.mapM_cons, Event.read_rearranged lawful h]
    simp only [read, lawful.field_append_cons fieldNames "events" (by decide)]
    split
    · simp only [Option.bind_eq_bind, Option.bind_some, lawful.elements, lists]
    · rfl

theorem load_rearranged {S : Storage} (lawful : S.Lawful) {s s' : String} {d d' : Document}
    (shown : S.read s = some d) (shown' : S.read s' = some d')
    (h : Relation.EqvGen Rearranged d d') : load S s = load S s' := by
  simp only [load, shown, shown', Option.bind_some]
  clear shown shown'
  induction h with
  | rel d d' h => exact read_rearranged lawful.toLawful h
  | refl => rfl
  | symm _ _ _ ih => exact ih.symm
  | trans _ _ _ _ _ ih ih' => exact ih.trans ih'

end TraceLog

/-! ## What spoils an event -/

namespace Event

/-- Fields that are not those of an event. -/
inductive Spoiled (fs : List (String × Document)) : Prop
  | missing {name : String} (known : name ∈ fieldNames) (absent : name ∉ fs.map (·.1))
  | status {d : Document} (field : ("status", d) ∈ fs)
    (unknown : ∀ s : Status, ¬ d.Names s.name)
  | tick {d : Document} (field : ("tick", d) ∈ fs) (outside : ∀ n < UInt64.size, d ≠ .nat n)
  | depth {d : Document} (field : ("depth", d) ∈ fs) (outside : ∀ n < UInt32.size, d ≠ .nat n)

/-- Fields of which an event can be read: each of those it needs is there once. -/
structure Told (fs : List (String × Document)) : Prop where
  tick : ∃ n < UInt64.size, fieldValues "tick" fs = [.nat n]
  depth : ∃ n < UInt32.size, fieldValues "depth" fs = [.nat n]
  node : ∃ d, fieldValues "node" fs = [d]
  status : ∃ d, fieldValues "status" fs = [d] ∧ ∃ s : Status, d.Names s.name

theorem told_of_read {r : Reader} (lawful : r.Lawful) {fs : List (String × Document)}
    (typed : ∀ f ∈ fs, Typed f.2) {e : Event} (read : read r (.record fs) = some e) :
    Told fs := by
  have there {name : String} {d : Document} (eq : fieldValues name fs = [d]) : Typed d :=
    typed (name, d) (mem_of_fieldValues eq)
  simp only [Event.read, Status.read, Option.bind_eq_bind, Option.bind_eq_some_iff,
    Option.pure_def, lawful.field fieldNames "tick" (by decide),
    lawful.field fieldNames "depth" (by decide),
    lawful.field fieldNames "node" (by decide),
    lawful.field fieldNames "status" (by decide)] at read
  obtain ⟨t, ticks, n, tick, p, depths, k, depth, d, nodes, -, -, c, statuses, s,
    ⟨name, chosen, known⟩, -⟩ := read
  obtain ⟨tick_lt, rfl⟩ := (lawful.natural (there ticks)).1 tick
  obtain ⟨depth_lt, rfl⟩ := (lawful.natural (there depths)).1 depth
  obtain ⟨-, named⟩ := lawful.named (there statuses) chosen
  obtain rfl := Status.ofName?_eq_some_iff.1 known
  exact ⟨⟨n, tick_lt, ticks⟩, ⟨k, depth_lt, depths⟩, ⟨d, nodes⟩, ⟨c, statuses, s, named⟩⟩

theorem Told.not_spoiled {fs : List (String × Document)} (h : Told fs) : ¬ Spoiled fs := by
  have present {name : String} {d : Document} (eq : fieldValues name fs = [d]) :
      name ∈ fs.map (·.1) := List.mem_map_of_mem (mem_of_fieldValues eq)
  obtain ⟨tick, tick_lt, ticks⟩ := h.tick
  obtain ⟨depth, depth_lt, depths⟩ := h.depth
  obtain ⟨node, nodes⟩ := h.node
  obtain ⟨status, statuses, s, named⟩ := h.status
  rintro (⟨known, absent⟩ | ⟨field, unknown⟩ | ⟨field, outside⟩ | ⟨field, outside⟩)
  · refine absent ?_
    simp only [fieldNames, List.mem_cons, List.not_mem_nil, or_false] at known
    obtain rfl | rfl | rfl | rfl := known
    · exact present ticks
    · exact present depths
    · exact present nodes
    · exact present statuses
  · exact unknown s (eq_of_fieldValues statuses field ▸ named)
  · exact outside tick tick_lt (eq_of_fieldValues ticks field)
  · exact outside depth depth_lt (eq_of_fieldValues depths field)

end Event

theorem TraceLog.load_spoiled {S : Storage} (lawful : S.Lawful) {text : String}
    {fs es : List (String × Document)} {events : List Document}
    (shown : S.read text = some (.record fs)) (listed : ("events", .list events) ∈ fs)
    (mem : .record es ∈ events) (spoiled : Event.Spoiled es) : load S text = none := by
  refine Option.eq_none_iff_forall_ne_some.2 fun log found => ?_
  rw [load, shown, Option.bind_some] at found
  simp only [TraceLog.read, Option.bind_eq_bind, Option.bind_eq_some_iff, Option.pure_def,
    lawful.field fieldNames "events" (by decide)] at found
  obtain ⟨d, values, items, opened, es', read, -⟩ := found
  obtain rfl := eq_of_fieldValues values listed
  rw [lawful.elements] at opened
  obtain rfl := Option.some.inj opened
  obtain ⟨e, -, told⟩ := exists_of_mem_right (List.Forall₂.flip (mapM_eq_some_iff.1 read)) mem
  have typed : ∀ f ∈ es, Typed f.2 := by
    cases lawful.typed shown with
    | record fields_typed =>
      cases fields_typed _ listed with
      | list items_typed =>
        cases items_typed _ mem with
        | record event_typed => exact event_typed
  exact (Event.told_of_read lawful.toLawful typed told).not_spoiled spoiled

/-- In every lawful format a log that was saved is loaded again, texts that say the same but for the
order of fields and for fields nobody asks for are loaded alike, and a text with a spoiled event is
refused. -/
theorem TraceLog.survives_storage {S : Storage} (lawful : S.Lawful) :
    (∀ log : TraceLog, load S (log.save S) = some log) ∧
    (∀ (s s' : String) (d d' : Document), S.read s = some d → S.read s' = some d' →
      Relation.EqvGen Rearranged d d' → load S s = load S s') ∧
    ∀ (s : String) (fs es : List (String × Document)) (events : List Document),
      S.read s = some (.record fs) → ("events", .list events) ∈ fs → .record es ∈ events →
      Event.Spoiled es → load S s = none :=
  ⟨load_save lawful, fun _ _ _ _ => load_rearranged lawful, fun _ _ _ _ => load_spoiled lawful⟩

/-! ## JSON -/

open Decode

theorem required_eq_some_iff {α : Type} {fs : List (String × Document)} {name : String}
    {decode : Document → Option α} {a : α} :
    required fs name decode = some a ↔ ∃ d, fieldValues name fs = [d] ∧ decode d = some a := by
  unfold required
  split
  case h_1 d eq => simp [eq]
  case h_2 several =>
    constructor
    · exact nofun
    · rintro ⟨d, eq, -⟩
      exact absurd eq (several d)

theorem fieldsOf_record (form : Form) (names : List String) (fs : List (String × Document)) :
    fieldsOf form names (.record fs) = some fs := by
  unfold fieldsOf
  split <;> rfl

theorem natBelow_eq_some_iff {bound n : Nat} {d : Document} (typed : Typed d) :
    natBelow bound d = some n ↔ n < bound ∧ d = .nat n := by
  constructor
  · intro read
    cases typed with
    | number m =>
      cases m with
      | integer i =>
        obtain ⟨j, within, rfl⟩ := Option.map_eq_some_iff.1 read
        obtain ⟨range, eq⟩ := Option.ite_none_right_eq_some.1 within
        obtain rfl := Option.some.inj eq
        refine ⟨by omega, ?_⟩
        rw [Document.nat, Int.toNat_of_nonneg range.1]
      | _ => cases read
    | _ => cases read
  · rintro ⟨small, rfl⟩
    have range : (0 : Int) ≤ n ∧ (n : Int) < bound := by omega
    show (between 0 bound n).map (·.toNat) = some n
    rw [between, if_pos range, Option.map_some, Int.toNat_natCast]

/-- A choice is read from its name, or from a record with a field of that name. -/
theorem Form.names_of_choice {form : Form} {names : List String} {d : Document} {name : String}
    (typed : Typed d) (chosen : form.choice names d = some name) :
    name ∈ names ∧ d.Names name := by
  unfold Form.choice at chosen
  split at chosen
  case h_1 n =>
    obtain ⟨-, chosen⟩ := Option.ite_none_right_eq_some.1 chosen
    obtain ⟨eq, among⟩ := Option.filter_eq_some_iff.1 chosen
    cases eq
    exact ⟨of_decide_eq_true among, .inr ⟨_, rfl⟩⟩
  case h_2 =>
    obtain ⟨text, among⟩ := Option.filter_eq_some_iff.1 chosen
    cases typed with
    | text s =>
      cases text
      exact ⟨of_decide_eq_true among, .inl rfl⟩
    | _ => cases text

theorem Form.lawful_reader (form : Form) : form.reader.Lawful where
  field names name _ fs v := by
    have found : required fs name some = some v ↔ _ := required_eq_some_iff
    simp only [Option.some.injEq, exists_eq_right] at found
    rw [← found]
    simp only [Form.reader, fieldsOf_record, Option.bind_eq_bind, Option.bind_some]
  choice {names name} among := by
    show (some name).filter (· ∈ names) = some name
    rw [Option.filter_eq_some_iff]
    exact ⟨rfl, decide_eq_true among⟩
  named typed chosen := names_of_choice typed chosen
  natural typed := natBelow_eq_some_iff typed
  text _ := rfl
  elements items := by
    show items.mapM some = some items
    rw [mapM_eq_some_iff, List.forall₂_same]
    exact fun _ _ => rfl

theorem Document.Storable.kept {levels : Nat} {d : Document} (h : d.Storable levels) : Kept d := by
  induction h with
  | integer fits => exact .integer fits
  | text s => exact .text s
  | list _ ih => exact .list ih
  | record _ _ ih => exact .record ih

theorem Json.read_storage (write : Document → String) (text : String) :
    (storage write).read text = parse text := rfl

/-- JSON is a lawful format with every writer whose texts the reader understands. -/
theorem Json.lawful_storage {write : Document → String}
    (read_write : ∀ {d}, Kept d → parse (write d) = some d) : (storage write).Lawful where
  toLawful := Form.lawful_reader _
  read_write storable := read_write storable.kept
  typed := typed_of_parse

/-- A log with its fields the other way round and others among them, and with an event of the given
depth. -/
def reversed (depth : Nat) : Document :=
  .record [("version", .nat 2), ("events", .list [.record [("note", .null),
    ("status", .text "Success"), ("node", .text "A"), ("depth", .nat depth), ("tick", .nat 7)]])]

theorem kept_reversed (depth : Nat) (fits : fitsWord depth = true) : Kept (reversed depth) := by
  refine .record (List.forall_mem_cons.2 ⟨.integer rfl, List.forall_mem_singleton.2 ?_⟩)
  refine .list (List.forall_mem_singleton.2 (.record ?_))
  simp only [List.forall_mem_cons]
  exact ⟨.null, .text _, .text _, .integer fits, .integer rfl, List.forall_mem_nil _⟩

theorem read_reversed (depth : Nat) (fits : fitsWord depth = true) :
    (storage compact).read (compact (reversed depth)) = some (reversed depth) := by
  rw [read_storage]
  exact parse_compact (kept_reversed depth fits)

/-- As JSON, a log is loaded from one line or several, or with its fields the other way round; a
depth that is too large is refused. -/
theorem TraceLog.survives_storage_reversed :
    (storage compact).Lawful ∧ (storage pretty).Lawful ∧
    (∀ log : TraceLog, load (storage pretty) (log.save (storage pretty)) = some log) ∧
    ofJson? (compact (reversed 0)) = some ⟨[⟨7, 0, "A", .success⟩]⟩ ∧
    ofJson? (compact (reversed 0x100000000)) = none := by
  have onOneLine : (storage compact).Lawful := lawful_storage parse_compact
  have onSeveral : (storage pretty).Lawful := lawful_storage parse_pretty
  obtain ⟨stored, rearranged, spoiled⟩ := survives_storage onOneLine
  refine ⟨onOneLine, onSeveral, (survives_storage onSeveral).1, ?_, ?_⟩
  · let log : TraceLog := ⟨[⟨7, 0, "A", .success⟩]⟩
    have saved : (storage compact).read (log.save (storage compact)) = some log.encode :=
      onOneLine.read_write (log.storable_encode 124)
    have shown := read_reversed 0 (by decide)
    refine (rearranged _ _ _ _ shown saved ?_).trans (stored log)
    refine .trans _ _ _ (.symm _ _ (.rel _ _ (.log (.extra (by decide) (.nat 2) _)))) ?_
    refine .trans _ _ _
      (.symm _ _ (.rel _ _ (.event (.extra (by decide) .null _) [] [] [] []))) ?_
    have reversed := List.reverse_perm [("tick", Document.nat 7), ("depth", Document.nat 0),
      ("node", Document.text "A"), ("status", Document.text "Success")]
    exact .rel _ _ (.event (.order reversed) [] [] [] [])
  · refine spoiled _ _ _ _ (read_reversed _ (by decide))
      (List.mem_cons_of_mem _ (List.mem_singleton_self _)) (List.mem_singleton_self _)
      (.depth (d := .nat 0x100000000) (by simp) ?_)
    rintro n small eq
    cases eq
    exact absurd small (by decide)

end Forager
