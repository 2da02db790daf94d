import MeshRouting.Config.Settings
import MeshRouting.Net.IoError
import MeshRouting.Toml.Document

/-!
# Loading settings

Settings are read from a TOML document. Every field has a default, and keys without a meaning are
ignored. A section is a table, or a list of its fields in order, or a date, which sets nothing.
-/
namespace MeshRouting

open MeshRouting.Toml

inductive ConfigError where
  | io (e : IoError)
  | parse
  | validation (violations : List Violation)
  deriving DecidableEq, Repr

/-- The reason why a document cannot be parsed has no fixed wording. -/
def ConfigError.message? : ConfigError → Option String
  | io e => some s!"IO error: {e.message}"
  | parse => none
  | validation violations =>
    some ("Validation failed: " ++ ", ".intercalate (violations.map (·.message)))

inductive SectionSource where
  | members (ms : Members)
  | items (nodes : List Node)
  | nothing

namespace SectionSource

def ofNode? : Node → Option SectionSource
  | .table _ ms => some (members ms)
  | .array nodes => some (items nodes)
  | .tables rows => some (items (rows.map (.table .header ·)))
  | .scalar .datetime => some nothing
  | .scalar _ => none

def node? (source : SectionSource) (index : Nat) (name : String) : Option Node :=
  match source with
  | members ms => find? ms name
  | items nodes => nodes[index]?
  | nothing => none

/-- A field that is given must be of its type; one that is not has its default. -/
def field? {α : Type} (source : SectionSource) (index : Nat) (name : String)
    (read : Node → Option α) (default : α) : Option α :=
  match source.node? index name with
  | none => some default
  | some node => read node

end SectionSource

namespace Settings

def readText : Node → Option String
  | .scalar (.string s) => some s
  | _ => none

/-- A delay is an integer that is not negative. -/
def readDelay : Node → Option UInt64
  | .scalar (.integer n) => if n < 0 then none else some n.toUInt64
  | _ => none

/-- Read a section whose only field that matters is its first. -/
def readSection {α : Type} (name : String) (read : Node → Option α) (default : α) (node : Node) :
    Option α := do
  (← SectionSource.ofNode? node).field? 0 name read default

def readBackoff (node : Node) : Option BackoffPolicy := do
  let source ← SectionSource.ofNode? node
  let base ← source.field? 0 "base_delay_ms" readDelay BackoffPolicy.standard.base
  let cap ← source.field? 1 "max_delay_ms" readDelay BackoffPolicy.standard.cap
  return ⟨base, cap⟩

def ofMembers (root : Members) : Option Settings := do
  let standard : Settings := {}
  let source := SectionSource.members root
  let targetScheme ← source.field? 0 "resolver"
    (readSection "target_scheme" readText standard.targetScheme) standard.targetScheme
  let acceptBackoff ← source.field? 1 "server"
    (readSection "accept_backoff" readBackoff standard.acceptBackoff) standard.acceptBackoff
  let logLevel ← source.field? 2 "observability"
    (readSection "log_level" readText standard.logLevel) standard.logLevel
  return ⟨targetScheme, acceptBackoff, logLevel⟩

def validate (s : Settings) : Except ConfigError Settings :=
  match s.violations with
  | [] => .ok s
  | violations => .error (.validation violations)

def parse (text : String) : Except ConfigError Settings :=
  match (Toml.parse text).bind ofMembers with
  | none => .error .parse
  | some settings => settings.validate

end Settings

/-- What is found under the path of a file. -/
inductive FileContent where
  | missing
  | directory
  | bytes (content : ByteArray)

namespace FileContent

def text : FileContent → Except IoError String
  | missing => .error (.number 2)
  | directory => .error (.number 21)
  | bytes content => match String.fromUTF8? content with
    | some text => .ok text
    | none => .error (.custom .invalidData "stream did not contain valid UTF-8")

end FileContent

def Settings.load (file : FileContent) : Except ConfigError Settings :=
  match file.text with
  | .error e => .error (.io e)
  | .ok text => parse text

end MeshRouting
