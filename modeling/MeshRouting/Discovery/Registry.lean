import MeshRouting.Names.NameMap

/-!
# Registry of watches

The client side of the control plane: who watches which resource. A push reaches every watch of
its kind and name in order of registration. Subscribers are told when watches start and end.
-/
namespace MeshRouting

inductive ResourceKind where
  | service
  | listener
  | route
  deriving DecidableEq, Repr

/-- A watch; pushes are delivered to its owner. -/
structure Watch (α : Type) where
  id : Nat
  owner : α
  deriving DecidableEq, Repr

structure WatchHandle where
  kind : ResourceKind
  name : String
  id : Nat
  deriving DecidableEq, Repr

inductive WatchChange where
  | started
  | cancelled
  deriving DecidableEq, Repr

structure WatchEvent where
  change : WatchChange
  kind : ResourceKind
  name : String
  deriving DecidableEq, Repr

/-- The watches of one kind, those of each name in order of registration. -/
abbrev WatchIndex (α : Type) := NameMap (List (Watch α))

namespace WatchIndex

variable {α : Type}

def watchesOf (index : WatchIndex α) (name : String) : List (Watch α) :=
  (index.find? name).getD []

def add (index : WatchIndex α) (name : String) (w : Watch α) : WatchIndex α :=
  index.insert name (index.watchesOf name ++ [w])

/-- Take a watch out; a name without watches is forgotten. -/
def remove (index : WatchIndex α) (name : String) (id : Nat) : WatchIndex α :=
  match (index.watchesOf name).filter (·.id != id) with
  | [] => index.erase name
  | rest => index.insert name rest

def holds (index : WatchIndex α) (name : String) (id : Nat) : Bool :=
  (index.watchesOf name).any (·.id == id)

end WatchIndex

/-- Each subscriber has the events it has not read yet, or is `none` once it has left. -/
structure Registry (α : Type) where
  lastId : Nat
  services : WatchIndex α
  listeners : WatchIndex α
  routes : WatchIndex α
  subscribers : List (Option (List WatchEvent))
  closed : Bool

namespace Registry

variable {α : Type}

def empty : Registry α := ⟨0, .empty, .empty, .empty, [], false⟩

def indexOf (r : Registry α) : ResourceKind → WatchIndex α
  | .service => r.services
  | .listener => r.listeners
  | .route => r.routes

def setIndex (r : Registry α) (kind : ResourceKind) (index : WatchIndex α) : Registry α :=
  match kind with
  | .service => { r with services := index }
  | .listener => { r with listeners := index }
  | .route => { r with routes := index }

def emit (r : Registry α) (event : WatchEvent) : Registry α :=
  { r with subscribers := r.subscribers.map fun inbox => inbox.map (· ++ [event]) }

/-- Register a watch, also on a closed client. -/
def watch (r : Registry α) (kind : ResourceKind) (name : String) (owner : α) :
    Registry α × WatchHandle :=
  let id := r.lastId + 1
  let index := (r.indexOf kind).add name ⟨id, owner⟩
  (({ r with lastId := id }.setIndex kind index).emit ⟨.started, kind, name⟩, ⟨kind, name, id⟩)

/-- End a watch; a handle that was used before has no effect. -/
def cancel (r : Registry α) (handle : WatchHandle) : Registry α :=
  if (r.indexOf handle.kind).holds handle.name handle.id then
    (r.setIndex handle.kind ((r.indexOf handle.kind).remove handle.name handle.id)).emit
      ⟨.cancelled, handle.kind, handle.name⟩
  else r

/-- The owners that a push reaches; a closed client delivers nothing. -/
def receivers (r : Registry α) (kind : ResourceKind) (name : String) : List α :=
  if r.closed then [] else ((r.indexOf kind).watchesOf name).map (·.owner)

def watched (r : Registry α) (kind : ResourceKind) : List String := (r.indexOf kind).keys

def subscribe (r : Registry α) : Registry α × Nat :=
  ({ r with subscribers := r.subscribers ++ [some []] }, r.subscribers.length)

/-- A subscriber leaves; the answer says whether it was there. -/
def unsubscribe (r : Registry α) (subscriber : Nat) : Registry α × Bool :=
  match r.subscribers[subscriber]? with
  | some (some _) => ({ r with subscribers := r.subscribers.set subscriber none }, true)
  | _ => (r, false)

/-- Mark everything that the subscribers were told as read. -/
def readAll (r : Registry α) : Registry α :=
  { r with subscribers := r.subscribers.map fun inbox => inbox.map fun _ => [] }

def close (r : Registry α) : Registry α := { r with closed := true }

end Registry
end MeshRouting
