/-!
# Watch errors

What the control plane reports on a watch in place of a resource.
-/
namespace MeshRouting

/-- The resource was withdrawn, or the watch has some other trouble. -/
inductive WatchErrorKind where
  | resourceNotFound
  | other
  deriving DecidableEq, Repr

def WatchErrorKind.name : WatchErrorKind → String
  | resourceNotFound => "ResourceNotFound"
  | other => "Other"

structure WatchError where
  kind : WatchErrorKind
  message : String
  deriving DecidableEq, Repr

def WatchError.text (e : WatchError) : String := e.kind.name ++ ": " ++ e.message

def WatchError.isNotFound (e : WatchError) : Bool := e.kind == .resourceNotFound

end MeshRouting
