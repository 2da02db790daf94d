import MeshRouting.Backoff
import MeshRouting.Text.Blank
import MeshRouting.Text.Lowercase

/-!
# Settings

What can be configured locally, and what a valid configuration must keep to. All violations are
reported, in the order of the rules.
-/
namespace MeshRouting

/-- The fields that make up the sections `resolver`, `server` and `observability`. -/
structure Settings where
  targetScheme : String := "xds"
  acceptBackoff : BackoffPolicy := .standard
  logLevel : String := "info"
  deriving DecidableEq, Repr

inductive Violation where
  | emptyScheme
  | zeroBaseDelay
  | maxBelowBase (base cap : UInt64)
  | unknownLogLevel (level : String)
  deriving DecidableEq, Repr

def logLevels : List String := ["trace", "debug", "info", "warn", "error"]

def Violation.message : Violation → String
  | emptyScheme => "resolver.target_scheme must not be empty"
  | zeroBaseDelay => "server.accept_backoff.base_delay_ms must be greater than 0"
  | maxBelowBase base cap =>
    s!"server.accept_backoff.max_delay_ms ({cap}) is below base_delay_ms ({base})"
  | unknownLogLevel level =>
    s!"observability.log_level '{level}' is not one of " ++ ", ".intercalate logLevels

namespace Settings

def schemeViolations (s : Settings) : List Violation :=
  if (Text.trim s.targetScheme.toList).isEmpty then [.emptyScheme] else []

def delayViolations (p : BackoffPolicy) : List Violation :=
  (if p.base = 0 then [.zeroBaseDelay] else []) ++
    if p.cap < p.base then [.maxBelowBase p.base p.cap] else []

/-- Levels may be written in either case. -/
def levelViolations (s : Settings) : List Violation :=
  if logLevels.contains (Text.lowercase s.logLevel) then [] else [.unknownLogLevel s.logLevel]

def violations (s : Settings) : List Violation :=
  s.schemeViolations ++ delayViolations s.acceptBackoff ++ s.levelViolations

end Settings
end MeshRouting
