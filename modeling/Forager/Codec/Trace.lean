import Forager.Document.Storage
import Forager.Trace

/-!
# Stored form of traces

A log is a record with its list of events; an event has its tick, depth, node and the name of its
status. Reading refuses an event with a field missing, with an unknown status, or with a number
that is no integer of its range.
-/
namespace Forager

namespace Status

def names : List String := [success, failure, running].map name

def encode (s : Status) : Document := .text s.name

def read (r : Reader) (d : Document) : Option Status := (r.choice names d).bind ofName?

def decode (form : Form) : Document → Option Status := read form.reader

end Status

namespace Event

/-- The names of the fields of an event. -/
def fieldNames : List String := ["tick", "depth", "node", "status"]

def encode (e : Event) : Document :=
  .record
    [("tick", .nat e.tick.toNat), ("depth", .nat e.depth.toNat), ("node", .text e.node),
     ("status", e.status.encode)]

def read (r : Reader) (d : Document) : Option Event := do
  let tick ← r.natural UInt64.size (← r.field fieldNames d "tick")
  let depth ← r.natural UInt32.size (← r.field fieldNames d "depth")
  let node ← r.text (← r.field fieldNames d "node")
  let status ← Status.read r (← r.field fieldNames d "status")
  return ⟨.ofNat tick, .ofNat depth, node, status⟩

end Event

namespace TraceLog

def fieldNames : List String := ["events"]

def encode (log : TraceLog) : Document := .record [("events", .list (log.events.map (·.encode)))]

def read (r : Reader) (d : Document) : Option TraceLog := do
  let events ← r.elements (← r.field fieldNames d "events")
  return ⟨← events.mapM (Event.read r)⟩

def decode (form : Form) : Document → Option TraceLog := read form.reader

/-! ## As text -/

def save (S : Storage) (log : TraceLog) : String := S.write log.encode

def load (S : Storage) (text : String) : Option TraceLog := (S.read text).bind (read S.toReader)

/-- The log as JSON on one line. -/
def toJson : TraceLog → String := save (Json.storage Json.compact)

/-- Reads a log from JSON. -/
def ofJson? : String → Option TraceLog := load (Json.storage Json.compact)

end TraceLog
end Forager
