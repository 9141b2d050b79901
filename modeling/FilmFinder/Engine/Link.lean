import FilmFinder.Engine.Address
import FilmFinder.Settings
import FilmFinder.Wire.Fault
import FilmFinder.Wire.Reply

/-!
# A linked engine

A linked engine answers search commands over a line. The state of the link is what the engine
will do with the commands to come and the commands sent so far. A connection is attempted
by the startup rule; settings without a usable address allow none.
-/
namespace FilmFinder

/-- What happens to one command. -/
inductive Exchange where
  /-- The engine sends a reply. -/
  | reply (value : WireValue)
  /-- The engine is silent past the time limit. -/
  | silence
  /-- The engine drops the connection. -/
  | drop

/-- A line to an engine. -/
structure Link where
  /-- What happens to the next commands; after that every reply counts no matches. -/
  script : List Exchange
  /-- The arguments of the commands sent so far. -/
  sent : List (List String)

namespace Link

/-- The arguments of the search command for a call. -/
def arguments (index : String) (call : Call) : List String :=
  [index, call.effective.query, "LIMIT", call.offset.repr, call.limit.repr]

/-- The reply of an engine without matches. -/
def noMatches : WireValue := .array [.int 0]

/-- The outcome of one exchange: an error line at any depth fails the whole reply. -/
def outcome (table : FieldTable) (limit : Option Duration) : Exchange → Except EngineError Answer
  | .reply value =>
    match value.firstError? with
    | some line => .error (LineFault.refused line).engineError
    | none => Answer.read table value
  | .silence =>
    match limit with
    | some limit => .error (.timeout limit)
    | none => .error LineFault.slow.engineError
  | .drop => .error (LineFault.broken "unexpected end of file").engineError

/-- One round trip. -/
def roundTrip (index : String) (table : FieldTable) (limit : Option Duration) (call : Call)
    (link : Link) : Except EngineError Answer × Link :=
  let sent := link.sent ++ [arguments index call]
  match link.script with
  | exchange :: script => (outcome table limit exchange, ⟨script, sent⟩)
  | [] => (outcome table limit (.reply noMatches), ⟨[], sent⟩)

/-- The linked engine of some settings: after its script a call succeeds. -/
def engine (settings : Settings) : Engine Link where
  name := "redis"
  ask call link := link.roundTrip settings.fullIndexName settings.table settings.limit call
  patience link := link.script.length + 1

/-- What connecting did: the waits between the attempts, and a failure if no attempt succeeded. -/
structure Connection where
  /-- The waits between the attempts, in order. -/
  waits : List Duration
  /-- The failure, if no attempt succeeded. -/
  failure : Option SearchError

/-- Connect by the startup rule to an address at which an engine listens or nobody does. -/
def connect (address : Option String) (listening : Bool) : Connection :=
  match address with
  | none => ⟨[], some (.settings "redis_url is required for the Redis backend")⟩
  | some address =>
    if Address.isEngine address then
      let attempts := Backoff.startup.attempt (fun _ : EngineError => true)
        (fun state : Unit =>
          (if listening then .ok () else .error (.transport "connection refused"), state)) 5 ()
      match attempts.ending with
      | .returned (.error failure) => ⟨attempts.waits, some (.engine failure)⟩
      | _ => ⟨attempts.waits, none⟩
    else ⟨[], some (.settings "the address names no engine")⟩

end Link

end FilmFinder
