import TypedSql.Session.Instrument

/-!
Trial runs: something is run against a backend with fixed answers, and what the backend was asked
and what was written about it come back beside the result.
-/

namespace TypedSql

/-- What came of a trial run. -/
structure Trial (α : Type) where
  /-- The result, if the run ended. -/
  answer : Option (SqlResult α)
  /-- The calls that the backend received. -/
  calls : List Call
  /-- What was written about the calls. -/
  events : List Event

/-- A run against a backend with fixed answers, under watch if there is a configuration. Every call
is taken to last one nanosecond. -/
def Canned.trial {α : Type} (c : Canned) (config : Option Config)
    (run : {σ : Type} → Backend σ → Session σ α) : Trial α :=
  let b := c.backend.logged
  match config with
  | none =>
    let (answer, (_, calls)) := (run b).runFrom ((), [])
    { answer, calls, events := [] }
  | some config =>
    let (answer, ((_, calls), events)) :=
      (run (b.instrument config fun _ => ⟨1⟩)).runFrom (((), []), [])
    { answer, calls, events }

end TypedSql
