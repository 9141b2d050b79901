import FilmFinder.Error
import FilmFinder.Wire.Value

/-!
# Faults of the line

A round trip fails because the line is slow or broken, because the client cannot make sense
of what it holds, or because the engine sends an error line. Each becomes a failure of the
engine: slow and broken lines are transient, a value of the wrong type is a malformed reply,
and everything else is a refusal.
-/
namespace FilmFinder

/-- The sort of a described fault. -/
inductive FaultSort where
  /-- Input or output. -/
  | io
  /-- A value of the wrong type. -/
  | type
  /-- Any other sort, with its name. -/
  | other (name : String)
  deriving DecidableEq

namespace FaultSort

/-- The name of the sort in messages. -/
def name : FaultSort → String
  | .io => "IoError"
  | .type => "TypeError"
  | .other name => name

/-- The sort with a name. -/
def ofName (name : String) : FaultSort :=
  if name = "IoError" then .io else if name = "TypeError" then .type else .other name

/-- The names of the sorts of error lines that have one, by code. -/
def ofCodes : List (String × String) :=
  [("ERR", "ResponseError"), ("EXECABORT", "ExecAbortError"), ("LOADING", "BusyLoadingError"),
    ("NOSCRIPT", "NoScriptError"), ("MOVED", "Moved"), ("ASK", "Ask"), ("TRYAGAIN", "TryAgain"),
    ("CLUSTERDOWN", "ClusterDown"), ("CROSSSLOT", "CrossSlot"), ("MASTERDOWN", "MasterDown"),
    ("READONLY", "ReadOnly"), ("NOTBUSY", "NotBusy")]

end FaultSort

/-- Why a round trip failed. -/
inductive LineFault where
  /-- The line was too slow. -/
  | slow
  /-- The line broke. -/
  | broken (text : String)
  /-- A fault of some sort, described, with or without further detail. -/
  | described (sort : FaultSort) (description : String) (detail : Option String)
  /-- The engine sent an error line. -/
  | refused (line : ErrorLine)
  deriving DecidableEq

namespace LineFault

/-- A described fault in words. -/
def describedText (sort : FaultSort) (description : String) : Option String → String
  | some detail => description ++ " - " ++ sort.name ++ ": " ++ detail
  | none => description ++ "- " ++ sort.name

/-- An error line in words: described by its sort if its code has one, else by its code. -/
def lineText (line : ErrorLine) : String :=
  match FaultSort.ofCodes.lookup line.code with
  | some name => describedText (.other name) "An error was signalled by the server" line.detail
  | none => line.code ++ ": " ++ line.detail.getD "Unknown extension error encountered"

/-- The failure of the engine that a fault means. -/
def engineError : LineFault → EngineError
  | .slow => .timeout ⟨0⟩
  | .broken text => .transport text
  | .described .io description detail => .transport (describedText .io description detail)
  | .described .type description detail => .malformedReply (describedText .type description detail)
  | .described (.other name) description detail =>
    .rejected (describedText (.other name) description detail)
  | .refused line => .rejected (lineText line)

end LineFault

end FilmFinder
