import TypedSql.Proofs.Operation

/-!
What a backend gets to see when statements are run. Behind the gate of an operation there is exactly
one call; a run that does not pass the gate leaves no trace.
-/

namespace TypedSql

/-! ### One call behind a gate -/

namespace Backend

variable {σ α : Type} {b : Backend σ}

/-- The state that the backend is in after a call. -/
def after (b : Backend σ) (s : σ) : Call → σ
  | .query sql => ((b.query sql).runFrom s).2
  | .execute sql => ((b.execute sql).runFrom s).2

/-- The run makes the one call and does nothing to the backend besides. -/
def Makes (b : Backend σ) (call : Call) (run : Session (σ × List Call) α) : Prop :=
  ∀ s log, (run.runFrom (s, log)).2 = (b.after s call, log ++ [call])

/-- The run makes the one call if the gate is open. Else it ends with the error of the gate, and
nothing has happened. -/
structure Gated (b : Backend σ) (gate : SqlResult Unit) (call : Call)
    (run : Session (σ × List Call) α) : Prop where
  makes : gate = .ok () → b.Makes call run
  refuses : ∀ e, gate = .error e → ∀ s, run.runFrom s = (some (.error e), s)

/-- What is made of the answer to a call is no matter of the backend's. -/
theorem makes_run (b : Backend σ) (plan : Plan α) : b.Makes plan.call (plan.run b.logged) := by
  intro s log
  cases plan <;>
    rw [Plan.run, Session.runFrom_bind_ofResult] <;>
    rfl

theorem gated_runBehind (b : Backend σ) (plan : Plan α) (gate : SqlResult Unit) :
    b.Gated gate plan.call (plan.runBehind gate b.logged) := by
  cases gate with
  | ok => exact ⟨fun _ => b.makes_run plan, nofun⟩
  | error f => exact ⟨nofun, fun e he s => by cases he; rfl⟩

end Backend

/-! ### One operation -/

namespace Operation

variable {σ : Type} {op : Operation}

/-- What the gate asks for. -/
def Passes (op : Operation) : Prop :=
  op.statement.kind ∈ op.kinds ∧ op.statement.validate = .ok () ∧
    (op.readsReturned = true → op.statement.clauses.returning ≠ [])

theorem gate_eq_ok_iff : op.gate = .ok () ↔ op.Passes := by
  unfold Passes
  rw [gate_eq_require, andThen_eq_ok_iff, andThen_eq_ok_iff, Statement.require_eq_ok_iff]
  refine and_congr_right fun _ => and_congr_right fun _ => ?_
  by_cases h : op.readsReturned = true ∧ op.statement.clauses.returning = []
  · rw [if_pos h]
    exact ⟨nofun, fun hp => absurd h.2 (hp h.1)⟩
  · rw [if_neg h]
    exact ⟨fun _ hr he => h ⟨hr, he⟩, fun _ => rfl⟩

theorem gated_run (b : Backend σ) (op : Operation) :
    b.Gated op.gate op.call (op.run b.logged) := by
  rw [op.run_eq, ← op.call_plan]
  exact b.gated_runBehind op.plan op.gate

end Operation

/-! ### Runs of operations -/

variable {σ : Type}

/-- One operation of a run, with the states around it and its answer, if there was one. -/
structure Step (σ : Type) where
  operation : Operation
  before : σ
  answer : Option (SqlResult Operation.Answer)
  after : σ

/-- The operation on its own. -/
def Operation.step (op : Operation) (b : Backend σ) (s : σ) : Step σ :=
  let (answer, after) := (op.run b).runFrom s
  ⟨op, s, answer, after⟩

/-- The steps of operations that are run one after the other, whatever their answers, and the state
in the end. -/
def Backend.runAll (b : Backend σ) : List Operation → σ → List (Step σ) × σ
  | [], s => ([], s)
  | op :: ops, s =>
    let step := op.step b s
    let (steps, final) := b.runAll ops step.after
    (step :: steps, final)

/-- The call that a backend receives for the operation, if the gate is open. -/
def Operation.call? (op : Operation) : Option Call :=
  match op.gate with
  | .ok () => some op.call
  | .error _ => none

/-- The step made the one call of its operation if the gate was open. If not, the backend was not
asked, and the answer is the error of the gate. -/
structure Step.KeepsGate (b : Backend σ) (step : Step (σ × List Call)) : Prop where
  atMostOne : step.after.2.length ≤ step.before.2.length + 1
  one_iff : step.after.2.length = step.before.2.length + 1 ↔ step.operation.Passes
  called : step.operation.Passes → step.after =
    (b.after step.before.1 step.operation.call, step.before.2 ++ [step.operation.call])
  refused : ∀ e, step.operation.gate = .error e →
    step.after = step.before ∧ step.answer = some (.error e)

namespace Operation

variable {op : Operation}

theorem keepsGate_step (b : Backend σ) (op : Operation) (s : σ × List Call) :
    (op.step b.logged s).KeepsGate b := by
  have called (hg : op.gate = .ok ()) :
      (op.step b.logged s).after = (b.after s.1 op.call, s.2 ++ [op.call]) :=
    (op.gated_run b).makes hg s.1 s.2
  have refused (e : SqlError) (hg : op.gate = .error e) :
      (op.step b.logged s).after = s ∧ (op.step b.logged s).answer = some (.error e) := by
    have h := (op.gated_run b).refuses e hg s
    exact ⟨congrArg Prod.snd h, congrArg Prod.fst h⟩
  have passes : (op.step b.logged s).operation.Passes ↔ op.gate = .ok () := gate_eq_ok_iff.symm
  have before : (op.step b.logged s).before = s := rfl
  cases hg : op.gate with
  | ok =>
    have grown : (op.step b.logged s).after.2.length = s.2.length + 1 := by
      rw [called hg, List.length_append, List.length_singleton]
    exact {
      atMostOne := Nat.le_of_eq grown
      one_iff := iff_of_true grown (passes.mpr hg)
      called := fun _ => called hg
      refused := fun e he => refused e he }
  | error e =>
    have same := (refused e hg).1
    have closed : ¬ (op.step b.logged s).operation.Passes := fun h => by
      rw [passes, hg] at h
      cases h
    exact {
      atMostOne := by rw [same, before]; omega
      one_iff := iff_of_false (by rw [same, before]; omega) closed
      called := fun h => absurd h closed
      refused := refused }

theorem log_step (b : Backend σ) (op : Operation) (s : σ × List Call) :
    (op.step b.logged s).after.2 = s.2 ++ op.call?.toList := by
  have h := op.keepsGate_step b s
  unfold call?
  cases hg : op.gate with
  | ok => exact congrArg Prod.snd (h.called (gate_eq_ok_iff.mp hg))
  | error e => rw [(h.refused e hg).1, Option.toList_none, List.append_nil]; rfl

end Operation

/-- Whatever is run against a backend, and whatever it answers: each operation makes the one call
that carries its statement if its gate is open, and none if it is not. So the log of a run has the
calls of the operations with an open gate, in their order. -/
theorem runAll_keepsGates (b : Backend σ) (ops : List Operation) (start : σ × List Call) :
    let run := b.logged.runAll ops start
    run.1.map (·.operation) = ops ∧ (∀ step ∈ run.1, step.KeepsGate b) ∧
      run.2.2 = start.2 ++ ops.filterMap (·.call?) := by
  induction ops generalizing start with
  | nil => simp [Backend.runAll]
  | cons op ops ih =>
    obtain ⟨operations, gates, log⟩ := ih (op.step b.logged start).after
    have added : start.2 ++ (op :: ops).filterMap (·.call?) =
        (op.step b.logged start).after.2 ++ ops.filterMap (·.call?) := by
      rw [op.log_step b start, List.append_assoc, List.filterMap_cons]
      cases op.call? <;> rfl
    simp only [Backend.runAll, List.map_cons, List.forall_mem_cons, added]
    exact ⟨congrArg _ operations, ⟨op.keepsGate_step b start, gates⟩, log⟩

/-- A backend that answers with the number of calls so far gets four of nine operations to see. An
update that sets nothing is of the wrong kind first when rows are fetched from it. -/
theorem runAll_keepsGates_refusals :
    let counting : Backend Nat :=
      { query := fun _ n => (some (.ok []), n + 1), execute := fun _ n => (some (.ok n), n + 1) }
    let users := select.fromTable ⟨"users", none⟩
    let wrong := Operation.fetchRecords (update "users").statement
    let ops : List Operation :=
      [wrong, .fetchFirst users .whole, .runUpdate (update "users"), .fetchCount users,
        .executeStatement users.statement, .fetchCount (select.fromTable ⟨" ", none⟩),
        .insertReturning (insertInto "users") .whole,
        .insertReturning ((insertInto "users").returning ["id"]) .whole,
        .runDelete (deleteFrom "users")]
    let run := counting.logged.runAll ops (0, [])
    run.2.2 = [.query "SELECT * FROM users LIMIT 1",
        .query "SELECT COUNT(*) FROM (SELECT * FROM users) AS count_query",
        .query "INSERT INTO users RETURNING id", .execute "DELETE FROM users"] ∧
      ∃ step ∈ run.1, step.operation = wrong ∧ step.after = step.before ∧
        step.answer = some (.error (.unsupportedOperation .update "row fetch")) := by
  intro counting users wrong ops run
  obtain ⟨-, gates, log⟩ := runAll_keepsGates counting ops (0, [])
  have first : wrong.step counting.logged (0, []) ∈ run.1 := List.mem_cons_self
  refine ⟨log.trans (by decide +kernel), _, first, rfl, ?_⟩
  exact (gates _ first).refused _ rfl

end TypedSql
