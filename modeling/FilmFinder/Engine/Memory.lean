import FilmFinder.Answer

/-!
# An engine in memory

The engine in memory holds hits, ignores what the query says and answers with the window that
is asked for. Failures can be queued; each call takes the next one instead of an answer. A
call is two steps: it is recorded first, and answered after that.
-/
namespace FilmFinder

/-- The state of an engine in memory. -/
structure MemoryEngine where
  /-- The hits, in order. -/
  hits : List Hit
  /-- The failures that the next calls end with, in order. -/
  failures : List EngineError
  /-- The calls recorded so far, in order. -/
  calls : List Call
  deriving DecidableEq

namespace MemoryEngine

/-- An engine over hits, with no failures and no calls. -/
def of (hits : List Hit) : MemoryEngine := ⟨hits, [], []⟩

/-- Queue a failure. -/
def queue (engine : MemoryEngine) (failure : EngineError) : MemoryEngine :=
  { engine with failures := engine.failures ++ [failure] }

/-- The first step of a call: record it. -/
def record (engine : MemoryEngine) (call : Call) : MemoryEngine :=
  { engine with calls := engine.calls ++ [call.effective] }

/-- The hits in the window of a call. -/
def window (engine : MemoryEngine) (call : Call) : List Hit :=
  (engine.hits.drop call.offset).take call.limit

/-- The second step of a call: take the next failure, or answer with the window. -/
def settle (engine : MemoryEngine) (call : Call) : Except EngineError Answer × MemoryEngine :=
  match engine.failures with
  | failure :: failures => (.error failure, { engine with failures })
  | [] => (.ok (.of (engine.window call) engine.hits.length), engine)

/-- A whole call. -/
def execute (engine : MemoryEngine) (call : Call) : Except EngineError Answer × MemoryEngine :=
  (engine.record call).settle call

/-- The engine as a service uses it: after the queued failures a call succeeds. -/
def engine : Engine MemoryEngine where
  name := "memory"
  ask call state := state.execute call
  patience state := state.failures.length + 1

end MemoryEngine

end FilmFinder
