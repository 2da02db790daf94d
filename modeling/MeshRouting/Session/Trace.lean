import MeshRouting.Discovery.Registry
import MeshRouting.Report.Metric
import MeshRouting.Report.Notice

/-!
# Traces

What a session keeps of a run: the notices of the current step and the metrics of all steps. Watch
events and notices that end several watches at once come in no particular order, so such runs are
shown sorted by name.
-/
namespace MeshRouting

structure Trace where
  notices : List Notice := []
  metrics : List Metric := []
  deriving Repr

namespace Trace

def addNotices (t : Trace) (notices : List Notice) : Trace :=
  { t with notices := t.notices ++ notices }

def addMetrics (t : Trace) (metrics : List Metric) : Trace :=
  { t with metrics := t.metrics ++ metrics }

def nextStep (t : Trace) : Trace := { t with notices := [] }

end Trace

/-- Insert an element into the sorted run of its group at the front of a list. -/
def insertInRun {α : Type} (group : α → Option (String × String)) (a : α) : List α → List α
  | [] => [a]
  | b :: rest =>
    match group a, group b with
    | some (groupA, nameA), some (groupB, nameB) =>
      if groupA = groupB ∧ nameB < nameA then b :: insertInRun group a rest else a :: b :: rest
    | _, _ => a :: b :: rest

/-- Sort every run of elements of one group by name; elements without a group stay in place. -/
def sortRuns {α : Type} (group : α → Option (String × String)) : List α → List α
  | [] => []
  | a :: rest => insertInRun group a (sortRuns group rest)

def WatchEvent.run : WatchEvent → Option (String × String)
  | ⟨.started, _, _⟩ => none
  | ⟨.cancelled, .service, name⟩ => some ("service", name)
  | ⟨.cancelled, .listener, name⟩ => some ("listener", name)
  | ⟨.cancelled, .route, name⟩ => some ("route", name)

def Notice.run : Notice → Option (String × String)
  | .routeUnwatched route => some ("route", route)
  | _ => none

/-- The unread events of a subscriber, as they are shown; nothing if it has left. -/
def Registry.shownEvents {α : Type} (r : Registry α) (subscriber : Nat) :
    Option (List WatchEvent) :=
  ((r.subscribers[subscriber]?).getD none).map (sortRuns WatchEvent.run)

def Trace.shown (t : Trace) : List Notice := sortRuns Notice.run t.notices

end MeshRouting
