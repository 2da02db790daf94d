import MeshRouting.Routing.ClusterTable
import MeshRouting.Routing.Selector

/-!
# Selectors over one cluster table

A pool is a cluster table with every selector built from it and every lease taken on those. A
selector holds one reference on each of its clusters from its creation until its last holder
lets go, and gives them all back then, once.
-/
namespace MeshRouting

/-- Selectors and leases are numbered in order of creation; a dropped lease is `none`. -/
structure Pool where
  table : ClusterTable
  selectors : List Selector
  leases : List (Option Nat)
  deriving Repr

namespace Pool

def empty : Pool := ⟨.empty, [], []⟩

/-- Take one reference on each name, in the order given. -/
def acquireAll (t : ClusterTable) : List String → ClusterTable × List ClusterHold
  | [] => (t, [])
  | name :: rest =>
    let (t, entry) := t.acquire name
    let (t, holds) := acquireAll t rest
    (t, ⟨name, entry⟩ :: holds)

def releaseAll (t : ClusterTable) : List ClusterHold → ClusterTable × List Released
  | [] => (t, [])
  | hold :: rest =>
    let (t, outcome) := t.release hold.entry
    let (t, outcomes) := releaseAll t rest
    (t, outcome :: outcomes)

def acquire (p : Pool) (name : String) : Pool × Nat :=
  let (table, entry) := p.table.acquire name
  ({ p with table }, entry)

def prune (p : Pool) : Pool := { p with table := p.table.prune }

/-- Build a selector held by the resolver alone; a rejected update changes nothing. -/
def build (p : Pool) (update : ServiceUpdate) : Except SelectorError (Pool × Nat) := do
  let routes ← Selector.targetsOf update
  let (table, clusters) := acquireAll p.table (Selector.clustersOf routes).toList
  let selectors := p.selectors ++ [⟨routes, clusters, 1, false⟩]
  return ({ p with table, selectors }, p.selectors.length)

def setSelector (p : Pool) (s : Nat) (selector : Selector) : Pool :=
  { p with selectors := p.selectors.set s selector }

/-- Lease a selector that someone still holds; the answer has the number of the lease. -/
def retain (p : Pool) (s : Nat) : Option (Pool × Nat) := do
  let selector ← p.selectors[s]?
  if selector.refs = 0 then none
  else
    let p := p.setSelector s { selector with refs := selector.refs + 1 }
    some ({ p with leases := p.leases ++ [some s] }, p.leases.length)

/-- Drop one hold of a selector; the last one gives its clusters back. -/
def release (p : Pool) (s : Nat) : Pool × List Released :=
  match p.selectors[s]? with
  | none => (p, [])
  | some selector =>
    let lowered := p.setSelector s { selector with refs := selector.refs - 1 }
    if selector.refs = 1 then
      let (table, outcomes) := releaseAll p.table selector.clusters
      ({ lowered with table }, outcomes)
    else (lowered, [])

def dropLease (p : Pool) (lease : Nat) : Option (Pool × List Released) :=
  match p.leases[lease]? with
  | some (some s) => some ({ p with leases := p.leases.set lease none }.release s)
  | _ => none

/-- What a stop came to: the resolver's hold was dropped, or had been before. -/
inductive StopOutcome where
  | first (outcomes : List Released)
  | again
  deriving DecidableEq, Repr

/-- Drop the resolver's own hold; only the first stop of a selector has an effect. -/
def stop (p : Pool) (s : Nat) : Pool × StopOutcome :=
  match p.selectors[s]? with
  | none => (p, .again)
  | some selector =>
    if selector.stopped then (p, .again)
    else
      let (p, outcomes) := (p.setSelector s { selector with stopped := true }).release s
      (p, .first outcomes)

def drained (outcomes : List Released) : Bool := outcomes.contains .drained

end Pool
end MeshRouting
