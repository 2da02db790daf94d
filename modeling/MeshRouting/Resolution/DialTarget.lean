/-!
# Dial targets

What a channel dials: `scheme://authority/endpoint`, or the endpoint alone.
-/
namespace MeshRouting.DialTarget

/-- What follows the first occurrence of a text, if it occurs. -/
def after? (mark : List Char) : List Char → Option (List Char)
  | [] => if mark.isEmpty then some [] else none
  | c :: rest => if mark.isPrefixOf (c :: rest) then some ((c :: rest).drop mark.length)
      else after? mark rest

/-- The endpoint is what follows the authority; text without a scheme is taken as it is. -/
def endpoint (uri : String) : String :=
  match after? "://".toList uri.toList with
  | none => uri
  | some rest => String.ofList ((after? ['/'] rest).getD [])

end MeshRouting.DialTarget
