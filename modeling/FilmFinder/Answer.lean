import FilmFinder.Query

/-!
# Answers of an engine

An engine answers a call with hits and with the number of all matches. A hit is a key and a
payload of JSON text; reading the payloads of an answer gives all records or the key of
the first hit that is none.
-/
namespace FilmFinder

/-- One match. -/
structure Hit where
  /-- The key of the document. -/
  key : String
  /-- The document as JSON text. -/
  payload : String
  deriving DecidableEq

/-- What an engine answers. -/
structure Answer where
  /-- The matches of the window that was asked for, in order. -/
  hits : List Hit
  /-- How many matches there are. -/
  total : Nat
  deriving DecidableEq

/-- An answer; the hits are counted even when the engine reports fewer matches. -/
def Answer.of (hits : List Hit) (reported : Nat) : Answer := ⟨hits, Nat.max reported hits.length⟩

/-- What an engine is asked. -/
structure Call where
  /-- The query text. -/
  query : String
  /-- How many matches are passed over. -/
  offset : Nat
  /-- How many matches are wanted at most. -/
  limit : Nat
  deriving DecidableEq

/-- The call as it is sent: a blank query text matches every film. -/
def Call.effective (call : Call) : Call := { call with query := effectiveQuery call.query }

/-- The records of the hits, or the failure that names the first hit that is none. -/
def decodeHits {α : Type} (decode : String → Option α) : List Hit → Except SearchError (List α)
  | [] => .ok []
  | hit :: hits =>
    match decode hit.payload with
    | none => .error (.undecodable hit.key)
    | some record =>
      match decodeHits decode hits with
      | .ok records => .ok (record :: records)
      | .error error => .error error

/-- An engine whose state is of a type. -/
structure Engine (σ : Type) where
  /-- The name of the engine in metrics. -/
  name : String
  /-- One round trip. -/
  ask : Call → σ → Except EngineError Answer × σ
  /-- A number of calls after which one has succeeded. -/
  patience : σ → Nat

end FilmFinder
