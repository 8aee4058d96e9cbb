import Forager.Status

/-!
# Traces

A walk reports one `Event` for each node it evaluated: which node, how deep, with what status.
A `TraceLog` keeps events in the order they were reported; `forTick` picks out the events of one
tick. A `Sink` is what a tree reports to: nothing, a sink that drops events, or a log.

* `forTick_append`, `filter_tick_self`, `filter_tick_of_ne`: how to pick out the events of one tick.
* `receive_receive`: events are kept in the order in which they are reported.
-/
namespace Forager

/-- One node evaluation. -/
structure Event where
  tick : UInt64
  depth : UInt32
  node : String
  status : Status
  deriving DecidableEq, Repr, Inhabited

/-- Events in evaluation order. -/
structure TraceLog where
  events : List Event
  deriving DecidableEq, Repr, Inhabited

namespace TraceLog

def empty : TraceLog := ⟨[]⟩

def push (log : TraceLog) (e : Event) : TraceLog := ⟨log.events ++ [e]⟩

def append (log : TraceLog) (es : List Event) : TraceLog := ⟨log.events ++ es⟩

def size (log : TraceLog) : Nat := log.events.length

def isEmpty (log : TraceLog) : Bool := log.size == 0

/-- The events of one tick, in evaluation order. -/
def forTick (log : TraceLog) (tick : UInt64) : List Event := log.events.filter (·.tick == tick)

/-- The names of the nodes evaluated during one tick, in evaluation order. -/
def visited (log : TraceLog) (tick : UInt64) : List String := (log.forTick tick).map (·.node)

@[simp] theorem forTick_append (log : TraceLog) (es : List Event) (tick : UInt64) :
    (log.append es).forTick tick = log.forTick tick ++ es.filter (·.tick == tick) := by
  simp [forTick, append]

end TraceLog

/-! ## Events of one tick -/

theorem filter_tick_self {es : List Event} {tick : UInt64} (h : ∀ e ∈ es, e.tick = tick) :
    es.filter (·.tick == tick) = es :=
  List.filter_eq_self.2 fun e he => beq_iff_eq.2 (h e he)

theorem filter_tick_of_ne {es : List Event} {tick t : UInt64} (h : ∀ e ∈ es, e.tick = tick)
    (hne : t ≠ tick) : es.filter (·.tick == t) = [] :=
  List.filter_eq_nil_iff.2 fun e he => by
    rw [h e he, beq_iff_eq]
    exact hne.symm

/-! ## Sinks -/

/-- Where a tree reports its events. -/
inductive Sink where
  | detached
  | dropping
  | keeping (log : TraceLog)
  deriving DecidableEq, Repr, Inhabited

namespace Sink

def receive (s : Sink) (es : List Event) : Sink :=
  match s with
  | .keeping log => .keeping (log.append es)
  | s => s

/-- The log kept so far. -/
def log : Sink → TraceLog
  | .keeping log => log
  | _ => .empty

/-- The sink once its log has been taken away. -/
def emptied : Sink → Sink
  | .keeping _ => .keeping .empty
  | s => s

@[simp] theorem receive_nil (s : Sink) : s.receive [] = s := by
  cases s <;> simp [receive, TraceLog.append]

theorem receive_receive (s : Sink) (es fs : List Event) :
    (s.receive es).receive fs = s.receive (es ++ fs) := by
  cases s <;> simp [receive, TraceLog.append]

end Sink
end Forager
