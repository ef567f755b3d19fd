import TypedSql.Proofs.Gating
import TypedSql.Proofs.Purity
import TypedSql.Session.Instrument

/-!
Watches change nothing. Under any number of them, one around the other, a run of operations makes
the calls of the bare run and gets its answers, as long as no time limit is reached; and for each
call that ends, each watch that writes anything writes one event, which says what became of it.
-/

namespace TypedSql

/-! ### Stacks of watches -/

/-- Watches around a backend with states `σ`, one around the other. The states `τ` have what each
of them has written beside the state inside. -/
inductive Watches (σ : Type) : Type → Type 1 where
  | bare : Watches σ σ
  | watch {τ : Type} (inside : Watches σ τ) (config : Config) (clock : τ → Duration) :
      Watches σ (τ × List Event)

namespace Watches

variable {σ τ α : Type}

def wrap (b : Backend σ) : {τ : Type} → Watches σ τ → Backend τ
  | _, bare => b
  | _, watch inside config clock => (inside.wrap b).instrument config clock

/-- The state of the backend in the middle. -/
def core : {τ : Type} → Watches σ τ → τ → σ
  | _, bare, s => s
  | _, watch inside _ _, (t, _) => inside.core t

/-- No watch has a time limit. -/
def Unlimited : {τ : Type} → Watches σ τ → Prop
  | _, bare => True
  | _, watch inside config _ => inside.Unlimited ∧ config.queryTimeout = none

/-- What each watch wrote between two states has a property, which may depend on what the watch is
told to do and on the time that its clock shows in the end. -/
def EachWrote (P : Config → Duration → List Event → Prop) :
    {τ : Type} → Watches σ τ → τ → τ → Prop
  | _, bare, _, _ => True
  | _, watch inside config clock, (t, events), (t', events') =>
    inside.EachWrote P t t' ∧ ∃ new, events' = events ++ new ∧ P config (clock t') new

variable {P Q : Config → Duration → List Event → Prop} {ws : Watches σ τ} {t t' : τ}

theorem EachWrote.mono (h : ws.EachWrote P t t')
    (hpq : ∀ config elapsed new, P config elapsed new → Q config elapsed new) :
    ws.EachWrote Q t t' := by
  induction ws with
  | bare => trivial
  | watch inside config clock ih =>
    obtain ⟨within, new, he, hp⟩ := h
    exact ⟨ih within, new, he, hpq _ _ _ hp⟩

/-- Where nothing happens, nothing is written. -/
theorem EachWrote.rfl (h : ∀ config elapsed, P config elapsed []) : ws.EachWrote P t t := by
  induction ws with
  | bare => trivial
  | watch inside config clock ih => exact ⟨ih, [], (List.append_nil _).symm, h _ _⟩

end Watches

/-! ### One call -/

/-- What is written about a call that ended with the given outcome, if it ended. -/
def Config.notes (config : Config) (sql : String) (elapsed : Duration) :
    Option Outcome → List Event
  | none => []
  | some outcome => config.report sql elapsed outcome

theorem Backend.runFrom_watched {σ α : Type} {config : Config} {call : Session σ α} {s : σ}
    (inTime : (call.runFrom s).1 = none → config.queryTimeout = none) (clock : σ → Duration)
    (sql : String) (success : α → Outcome) (events : List Event) :
    (watched config clock sql success call).runFrom (s, events) =
      ((call.runFrom s).1, (call.runFrom s).2, events ++
        config.notes sql (clock (call.runFrom s).2) ((call.runFrom s).1.map (.of success))) := by
  unfold Session.runFrom at inTime ⊢
  unfold watched
  rcases hc : call s with ⟨_ | result, s'⟩ <;> rw [hc] at inTime
  · simp only [hc, inTime rfl, Option.map_none, Config.notes, List.append_nil]
  · simp only [hc, Option.map_some, Config.notes]

namespace Watches

variable {σ τ α β : Type} {P : Config → Duration → List Event → Prop} {ws : Watches σ τ} {t : τ}

/-- A call of the backend in the middle, as it comes through the watches. -/
def around (sql : String) (success : α → Outcome) (call : Session σ α) :
    {τ : Type} → Watches σ τ → Session τ α
  | _, bare => call
  | _, watch inside config clock =>
    Backend.watched config clock sql success (inside.around sql success call)

theorem query_wrap (ws : Watches σ τ) (b : Backend σ) (sql : String) :
    (ws.wrap b).query sql = ws.around sql (fun rows => .rows rows.length) (b.query sql) := by
  induction ws with
  | bare => rfl
  | watch inside config clock ih =>
    exact congrArg (Backend.watched config clock sql fun rows => .rows rows.length) ih

theorem execute_wrap (ws : Watches σ τ) (b : Backend σ) (sql : String) :
    (ws.wrap b).execute sql = ws.around sql .affected (b.execute sql) := by
  induction ws with
  | bare => rfl
  | watch inside config clock ih =>
    exact congrArg (Backend.watched config clock sql .affected) ih

/-- From a state, a run under watches ends as the run of the backend in the middle does, and leaves
that one in the same state. What each watch has written on the way has the property. -/
structure Follows (ws : Watches σ τ) (P : Config → Duration → List Event → Prop) (t : τ)
    (run : Session τ α) (plain : Session σ α) : Prop where
  answer : (run.runFrom t).1 = (plain.runFrom (ws.core t)).1
  core : ws.core (run.runFrom t).2 = (plain.runFrom (ws.core t)).2
  wrote : ws.EachWrote P t (run.runFrom t).2

theorem follows_around (sql : String) (success : α → Outcome) {call : Session σ α}
    (inTime : (call.runFrom (ws.core t)).1 = none → ws.Unlimited) :
    ws.Follows (fun config elapsed new => new =
        config.notes sql elapsed ((call.runFrom (ws.core t)).1.map (.of success)))
      t (ws.around sql success call) call := by
  induction ws with
  | bare => exact ⟨rfl, rfl, trivial⟩
  | watch inside config clock ih =>
    obtain ⟨t, events⟩ := t
    have within := ih fun silent => (inTime silent).1
    have limit : ((inside.around sql success call).runFrom t).1 = none →
        config.queryTimeout = none := fun silent =>
      (inTime (within.answer.symm.trans silent)).2
    have outer := Backend.runFrom_watched limit clock sql success events
    refine ⟨?_, ?_, ?_⟩
    · exact (congrArg (·.1) outer).trans within.answer
    · exact (congrArg (fun r => inside.core r.2.1) outer).trans within.core
    · show EachWrote _ (watch inside config clock) (t, events)
        ((Backend.watched config clock sql success _).runFrom (t, events)).2
      rw [outer, within.answer]
      exact ⟨within.wrote, _, rfl, rfl⟩

/-- What is made of an answer without the backend is made of it under watches too. -/
theorem Follows.thenResult {run : Session τ α} {plain : Session σ α}
    (h : ws.Follows P t run plain) (read : α → SqlResult β) :
    ws.Follows P t (do let a ← run; Session.ofResult (read a))
      (do let a ← plain; Session.ofResult (read a)) := by
  refine ⟨?_, ?_, ?_⟩
  · rw [Session.runFrom_bind_ofResult, Session.runFrom_bind_ofResult, h.answer]
  · rw [Session.runFrom_bind_ofResult, Session.runFrom_bind_ofResult, h.core]
  · rw [Session.runFrom_bind_ofResult]
    exact h.wrote

end Watches

/-! ### One operation -/

def Call.sql : Call → String
  | .query sql | .execute sql => sql

/-- How a call ends, if it does: with so many rows, with so many rows changed, or with an error. -/
def Backend.outcome? {σ : Type} (b : Backend σ) (s : σ) : Call → Option Outcome
  | .query sql =>
    match ((b.query sql).runFrom s).1 with
    | none => none
    | some (.ok rows) => some (.rows rows.length)
    | some (.error e) => some (.failed e)
  | .execute sql =>
    match ((b.execute sql).runFrom s).1 with
    | none => none
    | some (.ok n) => some (.affected n)
    | some (.error e) => some (.failed e)

theorem Backend.outcome?_query {σ : Type} (b : Backend σ) (s : σ) (sql : String) :
    ((b.query sql).runFrom s).1.map (.of fun rows => .rows rows.length) =
      b.outcome? s (.query sql) := by
  simp only [outcome?]
  rcases ((b.query sql).runFrom s).1 with _ | _ | _ <;> rfl

theorem Backend.outcome?_execute {σ : Type} (b : Backend σ) (s : σ) (sql : String) :
    ((b.execute sql).runFrom s).1.map (.of .affected) = b.outcome? s (.execute sql) := by
  simp only [outcome?]
  rcases ((b.execute sql).runFrom s).1 with _ | _ | _ <;> rfl

/-- How the call of an operation ends, if there is one and it does. -/
def Operation.outcome? {σ : Type} (op : Operation) (b : Backend σ) (s : σ) : Option Outcome :=
  op.call?.bind (b.outcome? s)

section Operations

variable {σ τ α : Type} {b : Backend σ} {ws : Watches σ τ} {t : τ}

theorem Plan.follows_run (plan : Plan α)
    (inTime : ((plan.run b).runFrom (ws.core t)).1 = none → ws.Unlimited) :
    ws.Follows (fun config elapsed new => new =
        config.notes plan.call.sql elapsed (b.outcome? (ws.core t) plan.call))
      t (plan.run (ws.wrap b)) (plan.run b) := by
  cases plan with
  | query sql read =>
    have silent : ((b.query sql).runFrom (ws.core t)).1 = none → ws.Unlimited := fun h =>
      inTime (by rw [Plan.run, Session.runFrom_bind_ofResult, h]; rfl)
    rw [Plan.run, ws.query_wrap, call, Call.sql, ← b.outcome?_query]
    exact (Watches.follows_around sql _ silent).thenResult read
  | execute sql read =>
    have silent : ((b.execute sql).runFrom (ws.core t)).1 = none → ws.Unlimited := fun h =>
      inTime (by rw [Plan.run, Session.runFrom_bind_ofResult, h]; rfl)
    rw [Plan.run, ws.execute_wrap, call, Call.sql, ← b.outcome?_execute]
    exact (Watches.follows_around sql _ silent).thenResult read

theorem Operation.sql_call (op : Operation) : op.call.sql = op.sql := by
  unfold call
  split <;> rfl

theorem Operation.follows_run (op : Operation)
    (inTime : ((op.run b).runFrom (ws.core t)).1 = none → ws.Unlimited) :
    ws.Follows (fun config elapsed new => new =
        config.notes op.sql elapsed (op.outcome? b (ws.core t)))
      t (op.run (ws.wrap b)) (op.run b) := by
  rw [op.run_eq] at inTime ⊢
  rw [op.run_eq b]
  unfold outcome? call?
  cases hg : op.gate with
  | ok =>
    rw [hg] at inTime
    have h := op.plan.follows_run inTime
    rw [op.call_plan, op.sql_call] at h
    exact h
  | error e => exact ⟨rfl, rfl, .rfl fun _ _ => rfl⟩

end Operations

/-! ### Events -/

def Outcome.IsFailure (outcome : Outcome) : Prop :=
  ∃ error, outcome = .failed error

namespace Config

/-- There is a threshold, and the time is beyond it. -/
def Late (config : Config) (elapsed : Duration) : Prop :=
  ∃ threshold, config.slowThreshold = some threshold ∧
    threshold.nanoseconds < elapsed.nanoseconds

/-- What is shown of an SQL text: all of it if its length is within the limit; else as many
characters as the limit admits, and three dots. -/
structure Shows (config : Config) (sql shown : String) : Prop where
  whole : (∀ limit, config.maxSqlLength = some limit → sql.length ≤ limit) → shown = sql
  cut : ∀ limit, config.maxSqlLength = some limit → limit < sql.length →
    ∃ start rest : String, sql = start ++ rest ∧ start.length = limit ∧ shown = start ++ "..."

variable (config : Config)

theorem isSlow_iff (elapsed : Duration) : config.isSlow elapsed = true ↔ config.Late elapsed := by
  unfold isSlow Late
  simp only [Option.any_eq_true, decide_eq_true_eq]
  rfl

theorem shows_truncate (sql : String) : config.Shows sql (config.truncate sql) := by
  unfold truncate
  cases hl : config.maxSqlLength with
  | none => exact ⟨fun _ => rfl, fun limit h => by rw [hl] at h; cases h⟩
  | some limit =>
    refine ⟨fun short => if_neg (Nat.not_lt.mpr (short limit hl)), fun n hn long => ?_⟩
    obtain rfl : limit = n := Option.some.inj (hl.symm.trans hn)
    have parts : sql.toList.take limit ++ sql.toList.drop limit = sql.toList :=
      List.take_append_drop ..
    refine ⟨.ofList (sql.toList.take limit), .ofList (sql.toList.drop limit), ?_, ?_, if_pos long⟩
    · rw [← String.ofList_append, parts, String.ofList_toList]
    · rw [String.length_ofList, List.length_take, String.length_toList]
      omega

end Config

/-- The level of an event and its remark. A call that went well is written up as an error where that
is the level for all calls that are in time. -/
structure Event.Graded (event : Event) (config : Config) (elapsed : Duration) (outcome : Outcome) :
    Prop where
  failure : outcome.IsFailure → event.level = .error ∧ event.remark? = none
  slow : ¬ outcome.IsFailure → config.Late elapsed →
    event.level = .warn ∧ event.remark? = some "slow statement"
  usual : ¬ outcome.IsFailure → ¬ config.Late elapsed →
    event.level = config.level ∧ event.remark? = none

theorem Event.Graded.level_eq_error_iff {event : Event} {config : Config} {elapsed : Duration}
    {outcome : Outcome} (h : event.Graded config elapsed outcome) :
    event.level = .error ↔ outcome.IsFailure ∨ ¬ config.Late elapsed ∧ config.level = .error := by
  by_cases failed : outcome.IsFailure
  · exact iff_of_true (h.failure failed).1 (.inl failed)
  · by_cases late : config.Late elapsed
    · rw [(h.slow failed late).1]
      exact iff_of_false nofun fun hr => hr.elim failed fun usual => usual.1 late
    · rw [(h.usual failed late).1]
      exact ⟨fun hl => .inr ⟨late, hl⟩, fun hr => hr.elim (absurd · failed) (·.2)⟩

/-- The event says what became of the call of an operation. -/
structure Event.Describes (event : Event) (op : Operation) (config : Config) (elapsed : Duration)
    (outcome : Outcome) : Prop where
  kind : event.kind = op.statement.kind.keyword
  sql : config.Shows op.sql event.sql
  lasted : event.elapsedMs.toNat = min (elapsed.nanoseconds / 1000000) (UInt64.size - 1)
  ended : event.outcome = outcome
  graded : event.Graded config elapsed outcome
  error_iff :
    event.level = .error ↔ outcome.IsFailure ∨ ¬ config.Late elapsed ∧ config.level = .error

/-- What a watch writes in the course of an operation: one event if its call ends and the watch
writes at all, and else nothing. -/
def Operation.Notes (op : Operation) (outcome? : Option Outcome) (config : Config)
    (elapsed : Duration) (new : List Event) : Prop :=
  match outcome? with
  | none => new = []
  | some outcome =>
    if config.logging then ∃ event, new = [event] ∧ event.Describes op config elapsed outcome
    else new = []

/-! ### The word that an event names the kind of statement by -/

theorem StatementKind.firstWord_eq_keyword {kind : StatementKind} {text : String}
    {rest : List Char} (h : text.toList = kind.keyword.toList ++ ' ' :: rest) :
    Text.firstWord text = kind.keyword := by
  unfold Text.firstWord
  rw [h]
  cases kind <;> rfl

theorem StatementKind.opening_eq_keyword (kind : StatementKind) :
    ∃ rest, kind.opening = kind.keyword.toList ++ ' ' :: rest := by
  cases kind with
  | select => exact ⟨[], rfl⟩
  | insert => exact ⟨"INTO ".toList, by decide⟩
  | update => exact ⟨[], rfl⟩
  | delete => exact ⟨"FROM ".toList, by decide⟩

theorem Clauses.text_eq_opening (c : Clauses (List Char) (List Char)) (kind : StatementKind) :
    ∃ rest, c.text kind = kind.opening ++ rest := by
  cases kind with
  | select =>
    show ∃ rest, c.selectText = "SELECT ".toList ++ rest
    unfold selectText
    simp only [List.append_assoc]
    exact ⟨_, rfl⟩
  | insert =>
    show ∃ rest, c.insertText = "INSERT INTO ".toList ++ rest
    unfold insertText
    simp only [List.append_assoc]
    exact ⟨_, rfl⟩
  | update =>
    show ∃ rest, c.updateText = "UPDATE ".toList ++ rest
    unfold updateText
    simp only [List.append_assoc]
    exact ⟨_, rfl⟩
  | delete =>
    show ∃ rest, c.deleteText = "DELETE FROM ".toList ++ rest
    unfold deleteText
    simp only [List.append_assoc]
    exact ⟨_, rfl⟩

theorem Statement.firstWord_toSql (s : Statement) :
    Text.firstWord s.toSql = s.kind.keyword := by
  obtain ⟨rest, h⟩ := s.clauses.texts.text_eq_opening s.kind
  obtain ⟨words, hw⟩ := s.kind.opening_eq_keyword
  have begins : s.toSql.toList = s.kind.keyword.toList ++ ' ' :: (words ++ rest) := by
    rw [toSql, String.toList_ofList, s.sqlText_eq, h, hw, List.append_assoc, List.cons_append]
  exact StatementKind.firstWord_eq_keyword begins

theorem Backend.firstWord_countSql (s : Statement) :
    Text.firstWord (countSql s) = StatementKind.select.keyword := by
  have opening : "SELECT COUNT(*) FROM (".toList =
      "SELECT".toList ++ ' ' :: "COUNT(*) FROM (".toList := by decide
  unfold countSql
  -- The text of the query is a name here, so that no rewriting looks into it.
  generalize s.toSql = text
  have begins : ("SELECT COUNT(*) FROM (" ++ text ++ ") AS count_query").toList =
      "SELECT".toList ++ ' ' :: ("COUNT(*) FROM (".toList ++ text.toList ++
        ") AS count_query".toList) := by
    rw [String.toList_append, String.toList_append, opening]
    simp only [List.append_assoc, List.cons_append]
  exact StatementKind.firstWord_eq_keyword begins

theorem Operation.firstWord_sql (op : Operation) :
    Text.firstWord op.sql = op.statement.kind.keyword := by
  cases op with
  | fetchCount q => exact q.isSelect ▸ Backend.firstWord_countSql q.statement
  | fetchFirst q type => exact q.first.statement.firstWord_toSql
  | _ => exact Statement.firstWord_toSql _

theorem Config.graded_event (config : Config) (sql : String) (elapsed : Duration)
    (outcome : Outcome) : (config.event sql elapsed outcome).Graded config elapsed outcome where
  failure := by
    rintro ⟨error, rfl⟩
    exact ⟨rfl, rfl⟩
  slow := by
    intro ok late
    have slow := (config.isSlow_iff elapsed).mpr late
    cases outcome with
    | failed error => exact absurd ⟨error, rfl⟩ ok
    | rows | affected => exact ⟨if_pos slow, if_pos slow⟩
  usual := by
    intro ok inTime
    have usual : ¬ config.isSlow elapsed = true := mt (config.isSlow_iff elapsed).mp inTime
    cases outcome with
    | failed error => exact absurd ⟨error, rfl⟩ ok
    | rows | affected => exact ⟨if_neg usual, if_neg usual⟩

theorem Operation.describes_event (op : Operation) (config : Config) (elapsed : Duration)
    (outcome : Outcome) :
    (config.event op.sql elapsed outcome).Describes op config elapsed outcome where
  kind := op.firstWord_sql
  sql := config.shows_truncate op.sql
  lasted := elapsed.toNat_clampedMilliseconds
  ended := rfl
  graded := config.graded_event op.sql elapsed outcome
  error_iff := (config.graded_event op.sql elapsed outcome).level_eq_error_iff

theorem Operation.notes_notes (op : Operation) (outcome? : Option Outcome) (config : Config)
    (elapsed : Duration) :
    op.Notes outcome? config elapsed (config.notes op.sql elapsed outcome?) := by
  cases outcome? with
  | none => rfl
  | some outcome =>
    cases hl : config.logging with
    | true =>
      simp only [Notes, Config.notes, Config.report, hl, if_true]
      exact ⟨_, rfl, op.describes_event config elapsed outcome⟩
    | false => simp only [Notes, Config.notes, Config.report, hl, Bool.false_eq_true, if_false]

/-! ### Runs of operations -/

section Runs

variable {σ τ : Type}

theorem Backend.runAll_cons (b : Backend σ) (op : Operation) (ops : List Operation) (s : σ) :
    b.runAll (op :: ops) s = (op.step b s :: (b.runAll ops (op.step b s).after).1,
      (b.runAll ops (op.step b s).after).2) :=
  rfl

/-- A step under watches, without them. -/
def Step.inside (ws : Watches σ τ) (step : Step τ) : Step σ :=
  ⟨step.operation, ws.core step.before, step.answer, ws.core step.after⟩

/-- Each watch has written about the step what there is to be written. -/
def Step.Noted (b : Backend σ) (ws : Watches σ τ) (step : Step τ) : Prop :=
  ws.EachWrote (step.operation.Notes (step.operation.outcome? b (ws.core step.before)))
    step.before step.after

theorem Operation.inside_step {b : Backend σ} {ws : Watches σ τ} {t : τ} (op : Operation)
    (inTime : (op.step b (ws.core t)).answer = none → ws.Unlimited) :
    (op.step (ws.wrap b) t).inside ws = op.step b (ws.core t) ∧
      (op.step (ws.wrap b) t).Noted b ws := by
  have h := op.follows_run inTime
  constructor
  · show Step.mk op (ws.core t) ((op.run (ws.wrap b)).runFrom t).1
      (ws.core ((op.run (ws.wrap b)).runFrom t).2) = _
    rw [h.answer, h.core]
    rfl
  · refine h.wrote.mono fun config elapsed new hn => ?_
    rw [hn]
    exact op.notes_notes _ config elapsed

/-- A run under any watches of which none reaches its time limit is, without what they write, the
run of the bare backend: the same answers, and the same calls in the log. About each step, each
watch that writes at all writes one event, which describes the call, if there was one and it ended;
nothing else is written. The event is an error if and only if the call failed, or it went well in
time and errors are the level for such calls. -/
theorem runAll_watched (b : Backend σ) (ws : Watches (σ × List Call) τ) (ops : List Operation)
    (start : τ) (inTime : ∀ step ∈ (b.logged.runAll ops (ws.core start)).1,
      step.answer = none → ws.Unlimited) :
    let bare := b.logged.runAll ops (ws.core start)
    let run := (ws.wrap b.logged).runAll ops start
    run.1.map (·.inside ws) = bare.1 ∧ ws.core run.2 = bare.2 ∧
      ∀ step ∈ run.1, step.Noted b.logged ws := by
  induction ops generalizing start with
  | nil => exact ⟨rfl, rfl, List.forall_mem_nil _⟩
  | cons op ops ih =>
    rw [Backend.runAll_cons] at inTime
    obtain ⟨first, rest⟩ := List.forall_mem_cons.mp inTime
    obtain ⟨same, noted⟩ := op.inside_step first
    have after : (op.step b.logged (ws.core start)).after =
        ws.core (op.step (ws.wrap b.logged) start).after :=
      (congrArg Step.after same).symm
    rw [after] at rest
    obtain ⟨steps, final, all⟩ := ih (op.step (ws.wrap b.logged) start).after rest
    rw [Backend.runAll_cons, Backend.runAll_cons, after]
    refine ⟨?_, final, List.forall_mem_cons.mpr ⟨noted, all⟩⟩
    rw [List.map_cons, same, steps]

end Runs

/-- Of two watches the inner one writes nothing and has a time limit. To the outer one calls get
slower, so that the first is in time and the later ones are not. The count of no rows is not found,
though its call went well; the update sets nothing and makes no call; the first deletion fails. -/
theorem runAll_watched_nested :
    let locked : Backend Nat :=
      { query := fun _ n => (some (.ok (List.replicate n [.int 7])), n + 1)
        execute := fun _ n =>
          (some (if n = 1 then .error (.backend { text := "locked" }) else .ok n), n + 1) }
    let mute : Config := { queryTimeout := some ⟨5⟩, logging := false }
    let short : Config :=
      { slowThreshold := some ⟨6000000⟩, maxSqlLength := some 6, level := .info }
    let ws : Watches (Nat × List Call) (((Nat × List Call) × List Event) × List Event) :=
      (Watches.bare.watch mute fun s => ⟨s.1⟩).watch short fun s => ⟨s.1.1 * 2500000⟩
    let users := select.fromTable ⟨"users", none⟩
    let ops : List Operation :=
      [.fetchCount users, .runUpdate (update "users"), .runDelete (deleteFrom "users"),
        .fetchRecords users.statement, .runDelete (deleteFrom "users")]
    let run := (ws.wrap locked.logged).runAll ops (((0, []), []), [])
    (∀ step ∈ (locked.logged.runAll ops (0, [])).1, step.answer = none → ws.Unlimited) ∧
      ws.core run.2 = (4, [.query "SELECT COUNT(*) FROM (SELECT * FROM users) AS count_query",
        .execute "DELETE FROM users", .query "SELECT * FROM users",
        .execute "DELETE FROM users"]) ∧
      (∀ step ∈ run.1, step.Noted locked.logged ws) ∧ run.2.1.2 = [] ∧
      run.2.2.map (fun e => (e.level, e.sql, e.elapsedMs, e.outcome, e.remark?)) =
        [(.info, "SELECT...", 2, .rows 0, none),
          (.error, "DELETE...", 5, .failed (.backend { text := "locked" }), none),
          (.warn, "SELECT...", 7, .rows 2, some "slow statement"),
          (.warn, "DELETE...", 10, .affected 3, some "slow statement")] := by
  intro locked mute short ws users ops run
  have answered : ∀ step ∈ (locked.logged.runAll ops (0, [])).1, step.answer.isSome = true := by
    decide +kernel
  have inTime : ∀ step ∈ (locked.logged.runAll ops (0, [])).1,
      step.answer = none → ws.Unlimited := fun step hs silent => by
    have := answered step hs
    rw [silent] at this
    cases this
  obtain ⟨-, final, noted⟩ := runAll_watched locked ws ops (((0, []), []), []) inTime
  exact ⟨inTime, final.trans (by decide +kernel), noted, by decide +kernel, by decide +kernel⟩

/-- Where errors are the level for calls that went well, a query that finds no rows is written up as
an error. -/
theorem level_eq_error_of_success :
    let empty : Backend Unit :=
      { query := fun _ s => (some (.ok []), s), execute := fun _ s => (some (.ok 0), s) }
    let strict := ({} : Config).set (.level .error)
    let ws := Watches.bare.watch strict fun (_ : Unit × List Call) => ⟨1⟩
    let op := Operation.fetchRecords (select.fromTable ⟨"users", none⟩).statement
    let run := (ws.wrap empty.logged).runAll [op] (((), []), [])
    run.1.map (·.answer) = [some (.ok (.rows []))] ∧
      ∃ event, run.2.2 = [event] ∧ event.outcome = .rows 0 ∧
        ¬ (event.level = .error ↔ event.outcome.IsFailure) := by
  intro empty strict ws op run
  refine ⟨rfl, _, rfl, rfl, fun h => ?_⟩
  obtain ⟨error, he⟩ := h.mp rfl
  cases he

end TypedSql
