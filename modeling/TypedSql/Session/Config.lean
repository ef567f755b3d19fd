import TypedSql.Error
import TypedSql.Text.Blank
import TypedSql.Text.Numeral

/-!
How runs are watched: a time limit, the time from which a run counts as slow, and what is written
about each call. The two times can be read from the environment.
-/

namespace TypedSql

inductive Level where
  | error
  | warn
  | info
  | debug
  | trace
  deriving DecidableEq, Repr, Inhabited

namespace Level

def all : List Level := [error, warn, info, debug, trace]

def name : Level → String
  | error => "ERROR"
  | warn => "WARN"
  | info => "INFO"
  | debug => "DEBUG"
  | trace => "TRACE"

def ofName? (name : String) : Option Level :=
  all.find? (·.name == name)

end Level

/-- What is watched and what is written. -/
structure Config where
  queryTimeout : Option Duration := none
  /-- Calls that take longer than this are warned about. -/
  slowThreshold : Option Duration := none
  logging : Bool := true
  /-- How many characters of the SQL are written, if there is a limit. -/
  maxSqlLength : Option Nat := some 200
  /-- The level of an event about a call that went well. -/
  level : Level := .debug
  deriving DecidableEq, Repr

/-- One thing that a configuration says. -/
inductive Setting where
  | queryTimeout (limit : Duration)
  | slowThreshold (threshold : Duration)
  | logging (on : Bool)
  /-- All characters of the SQL are written if there is no limit. -/
  | maxSqlLength (limit : Option Nat)
  | level (level : Level)
  deriving DecidableEq, Repr

namespace Config

open Text

def set (config : Config) : Setting → Config
  | .queryTimeout limit => { config with queryTimeout := some limit }
  | .slowThreshold threshold => { config with slowThreshold := some threshold }
  | .logging on => { config with logging := on }
  | .maxSqlLength limit => { config with maxSqlLength := limit }
  | .level level => { config with level }

/-- The variable for the time limit. -/
def timeoutVariable : String := "SQLFORGE_QUERY_TIMEOUT_MS"

/-- The variable for the time from which a call is slow. -/
def slowVariable : String := "SQLFORGE_SLOW_QUERY_MS"

/-- A number of milliseconds: digits with a plus sign in front of them or none and white space
around them, below `2 ^ 64`. -/
def milliseconds? (raw : String) : Option Nat := do
  let ds := match trim raw.toList with
    | '+' :: cs => cs
    | cs => cs
  let n ← readDigits? ds
  if n < UInt64.size then some n else none

/-- The span that a variable sets, if it is there. -/
def spanOf (key : String) : Option String → SqlResult (Option Duration)
  | none => .ok none
  | some raw =>
    match milliseconds? raw with
    | some n => .ok (some (.ofMilliseconds n))
    | none => .error (.invalidArgument (.notMilliseconds key raw))

/-- The usual configuration with the times that the environment sets. -/
def ofEnvironment (lookup : String → Option String) : SqlResult Config := do
  let queryTimeout ← spanOf timeoutVariable (lookup timeoutVariable)
  let slowThreshold ← spanOf slowVariable (lookup slowVariable)
  return { queryTimeout, slowThreshold }

/-- The SQL as it is written: whole if it is short enough, else its beginning and three dots. -/
def truncate (config : Config) (sql : String) : String :=
  match config.maxSqlLength with
  | none => sql
  | some limit =>
    if limit < sql.length then String.ofList (sql.toList.take limit) ++ "..." else sql

/-- Whether a call that took so long is slow. -/
def isSlow (config : Config) (elapsed : Duration) : Bool :=
  config.slowThreshold.any (· < elapsed)

end Config

end TypedSql
