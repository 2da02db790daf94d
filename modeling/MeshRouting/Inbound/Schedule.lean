/-!
# Fair turns

The control loop of a listener and its accept calls take turns. Whoever has something to do stands
in one row and has a turn when it comes to the front. A turn has a fixed allowance of work; whoever
has used it up stands aside, and joins the row again once the row is empty or has moved on far
enough.
-/
namespace MeshRouting

/-- Who can have a turn. -/
inductive Runner where
  | control
  | call (number : Nat)
  deriving DecidableEq, Repr

/-- `aside` has the one who stood aside last in front; `served` counts the turns since those aside
came back last. -/
structure Schedule where
  ready : List Runner := []
  aside : List Runner := []
  served : Nat := 0
  deriving DecidableEq, Repr

namespace Schedule

/-- How much work fits in a turn. -/
def allowance : Nat := 128

/-- How many turns can pass before those aside come back. -/
def longestRow : Nat := 61

/-- A runner joins the row, unless it is there. -/
def wake (s : Schedule) (r : Runner) : Schedule :=
  if r ∈ s.ready then s else { s with ready := s.ready ++ [r] }

def standAside (s : Schedule) (r : Runner) : Schedule := { s with aside := r :: s.aside }

/-- Those aside join the row, the last one first. -/
def comeBack (s : Schedule) : Schedule :=
  s.aside.foldl wake { s with aside := [], served := 0 }

def next? (s : Schedule) : Option (Runner × Schedule) :=
  let s := if s.ready.isEmpty || s.served == longestRow then s.comeBack else s
  match s.ready with
  | [] => none
  | r :: ready => some (r, { s with ready, served := s.served + 1 })

end Schedule
end MeshRouting
