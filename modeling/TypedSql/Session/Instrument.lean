import TypedSql.Session.Backend
import TypedSql.Session.Config

/-!
A backend under watch: a call that gets no answer ends when the time limit is reached, and each
call that ends is written up as one event. Otherwise the calls and their answers are those of the
backend inside.
-/

namespace TypedSql

inductive Outcome where
  | rows (count : Nat)
  | affected (count : Nat)
  | failed (error : SqlError)
  deriving DecidableEq, Repr

structure Event where
  level : Level
  /-- The first word of the SQL. -/
  kind : String
  sql : String
  elapsedMs : UInt64
  outcome : Outcome
  /-- The call went well and was slow. -/
  slow : Bool
  deriving DecidableEq, Repr

/-- The remark on a slow call. -/
def Event.remark? (e : Event) : Option String :=
  if e.slow then some "slow statement" else none

namespace Config

def event (config : Config) (sql : String) (elapsed : Duration) (outcome : Outcome) : Event :=
  let slow := match outcome with
    | .failed _ => false
    | _ => config.isSlow elapsed
  let level := match outcome with
    | .failed _ => .error
    | _ => if slow then .warn else config.level
  { level, kind := Text.firstWord sql, sql := config.truncate sql,
    elapsedMs := elapsed.clampedMilliseconds, outcome, slow }

/-- What is written about a call: one event, or nothing if nothing is to be written. -/
def report (config : Config) (sql : String) (elapsed : Duration) (outcome : Outcome) :
    List Event :=
  if config.logging then [config.event sql elapsed outcome] else []

end Config

/-- The outcome of a call with the given result. -/
def Outcome.of {α : Type} (success : α → Outcome) : SqlResult α → Outcome
  | .ok a => success a
  | .error e => .failed e

namespace Backend

variable {σ α : Type}

/-- A call under watch. The time it took is what the clock shows of the state it left. -/
def watched (config : Config) (clock : σ → Duration) (sql : String) (success : α → Outcome)
    (call : Session σ α) : Session (σ × List Event) α :=
  fun (s, events) =>
    let (answer, s) := call s
    match answer, config.queryTimeout with
    | some result, _ =>
      (some result, s, events ++ config.report sql (clock s) (.of success result))
    | none, some limit =>
      let error := SqlError.timeout limit
      (some (.error error), s, events ++ config.report sql (clock s) (.failed error))
    | none, none => (none, s, events)

def instrument (b : Backend σ) (config : Config) (clock : σ → Duration) :
    Backend (σ × List Event) where
  query sql := watched config clock sql (fun rows => .rows rows.length) (b.query sql)
  execute sql := watched config clock sql .affected (b.execute sql)

end Backend

end TypedSql
