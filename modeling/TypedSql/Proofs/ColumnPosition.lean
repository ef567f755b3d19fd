import TypedSql.Proofs.Batch

/-!
The place of the column list among the rows of an insert. The rows that are there are looked at when
columns are named, and a row that follows when it is added; so it makes no difference when the
columns are named. The first row of another length than the column list is the error in any case.
-/

namespace TypedSql

namespace Insert

variable {table : String} {names : List String} {row : List Expr}
  {held rows before after : List (List Expr)}

/-- The insert into a table of rows of values, with a column list or without one. -/
def holding (table : String) (columns : Option (List String)) (rows : List (List Expr)) : Insert :=
  (insertInto table).withClauses
    { (insertInto table).statement.clauses with columns := columns, rows := rows }

/-- All rows must have as many values as there are columns. -/
def checkRows (names : List String) (rows : List (List Expr)) : SqlResult Unit :=
  rows.forM fun row => Clauses.checkArity names.length row.length

theorem checkRows_cons : checkRows names (row :: rows) =
    (do Clauses.checkArity names.length row.length; checkRows names rows) :=
  rfl

theorem checkRows_append : checkRows names (before ++ after) =
    (do checkRows names before; checkRows names after) := by
  induction before with
  | nil => rfl
  | cons row before ih =>
    rw [List.cons_append, checkRows_cons, checkRows_cons, ih, bind_assoc]

/-! ### One call -/

theorem values_unnamed (some_value : row ≠ []) :
    (holding table none held).values row = .ok (holding table none (held ++ [row])) := by
  have nonempty : ¬ row.isEmpty = true := fun h => some_value (List.isEmpty_iff.mp h)
  show (Clauses.pushRow _ row).map _ = _
  rw [Clauses.pushRow, if_neg nonempty]
  rfl

theorem values_named (some_value : row ≠ []) : (holding table (some names) held).values row =
    (Clauses.checkArity names.length row.length).map
      fun _ => holding table (some names) (held ++ [row]) := by
  have nonempty : ¬ row.isEmpty = true := fun h => some_value (List.isEmpty_iff.mp h)
  show (Clauses.pushRow _ row).map _ = _
  rw [Clauses.pushRow, if_neg nonempty]
  show (do Clauses.checkArity names.length row.length; _ : SqlResult ClauseSet).map _ = _
  cases Clauses.checkArity names.length row.length <;> rfl

theorem columns_unnamed (some_name : names ≠ [])
    (usable : ∀ n ∈ names, checkName .insertColumn n = .ok ()) :
    (holding table none held).columns names =
      (checkRows names held).map fun _ => holding table (some names) held := by
  have nonempty : ¬ names.isEmpty = true := fun h => some_name (List.isEmpty_iff.mp h)
  show (Clauses.setColumns _ names).map _ = _
  rw [Clauses.setColumns, if_neg nonempty, forM_eq_ok_iff.mpr usable]
  show (do checkRows names held; _ : SqlResult ClauseSet).map _ = _
  cases checkRows names held <;> rfl

/-! ### Calls one after the other -/

theorem run_values_unnamed (some_values : ∀ row ∈ rows, row ≠ []) :
    (rows.map Change.values).foldlM apply (holding table none held) =
      .ok (holding table none (held ++ rows)) := by
  induction rows generalizing held with
  | nil => rw [List.append_nil]; rfl
  | cons row rows ih =>
    rw [List.forall_mem_cons] at some_values
    rw [List.map_cons, List.foldlM_cons, apply, values_unnamed some_values.1,
      List.append_cons held row rows]
    exact ih some_values.2

theorem run_values_named (some_values : ∀ row ∈ rows, row ≠ []) :
    (rows.map Change.values).foldlM apply (holding table (some names) held) =
      (checkRows names rows).map fun _ => holding table (some names) (held ++ rows) := by
  induction rows generalizing held with
  | nil => rw [List.append_nil]; rfl
  | cons row rows ih =>
    rw [List.forall_mem_cons] at some_values
    rw [List.map_cons, List.foldlM_cons, apply, values_named some_values.1, checkRows_cons,
      List.append_cons held row rows]
    cases Clauses.checkArity names.length row.length with
    | error e => rfl
    | ok _ => exact ih some_values.2

/-- With the columns named between rows, the rows before are looked at first and then those that
follow. -/
theorem run_columns (some_name : names ≠ [])
    (usable : ∀ n ∈ names, checkName .insertColumn n = .ok ())
    (some_values : ∀ row ∈ before ++ after, row ≠ []) :
    (before.map Change.values ++ Change.columns names :: after.map Change.values).foldlM apply
        (insertInto table) =
      (checkRows names (before ++ after)).map
        fun _ => holding table (some names) (before ++ after) := by
  rw [List.forall_mem_append] at some_values
  have unnamed : (before.map Change.values).foldlM apply (insertInto table) =
      .ok (holding table none before) := run_values_unnamed some_values.1
  rw [List.foldlM_append, unnamed, checkRows_append]
  show (apply _ (Change.columns names) >>= _) = _
  rw [apply, columns_unnamed some_name usable]
  cases checkRows names before with
  | error e => rfl
  | ok _ => exact run_values_named some_values.2

theorem checkRows_eq_ok_iff :
    checkRows names rows = .ok () ↔ ∀ row ∈ rows, row.length = names.length := by
  simp only [checkRows, forM_eq_ok_iff, Clauses.checkArity_eq_ok_iff]

theorem checkRows_eq_error_iff {e : SqlError} : checkRows names rows = .error e ↔
    ∃ fitting row rest, rows = fitting ++ row :: rest ∧
      (∀ r ∈ fitting, r.length = names.length) ∧ row.length ≠ names.length ∧
      e = .arityMismatch names.length row.length := by
  simp only [checkRows, forM_eq_error_iff, Clauses.checkArity_eq_ok_iff,
    Clauses.checkArity_eq_error_iff]

end Insert

/-- However many of the rows are added before the columns are named, and however many behind them,
the outcome is the same. It is the insert with all the rows if and only if each of them has as many
values as there are columns; else the first row of another length is the error. -/
theorem columns_anywhere (table : String) {names : List String} {rows : List (List Expr)}
    (some_name : names ≠ []) (usable : ∀ n ∈ names, checkName .insertColumn n = .ok ())
    (some_values : ∀ row ∈ rows, row ≠ []) :
    ∃ outcome : SqlResult Insert,
      (∀ before after, before ++ after = rows →
        (before.map Insert.Change.values ++ Insert.Change.columns names ::
          after.map Insert.Change.values).foldlM Insert.apply (insertInto table) = outcome) ∧
      (∀ q, outcome = .ok q ↔
        (∀ row ∈ rows, row.length = names.length) ∧ q = Insert.holding table (some names) rows) ∧
      ∀ e, outcome = .error e ↔ ∃ fitting row rest, rows = fitting ++ row :: rest ∧
        (∀ r ∈ fitting, r.length = names.length) ∧ row.length ≠ names.length ∧
        e = .arityMismatch names.length row.length := by
  refine ⟨(Insert.checkRows names rows).map fun _ => Insert.holding table (some names) rows,
    fun before after h => ?_, fun q => ?_, fun e => ?_⟩
  · subst h
    exact Insert.run_columns some_name usable some_values
  · rw [← Insert.checkRows_eq_ok_iff]
    cases Insert.checkRows names rows with
    | ok _ => exact ⟨fun h => ⟨rfl, (Except.ok.inj h).symm⟩, fun ⟨_, h⟩ => congrArg _ h.symm⟩
    | error e => exact ⟨nofun, fun ⟨h, _⟩ => nomatch h⟩
  · rw [← Insert.checkRows_eq_error_iff]
    cases Insert.checkRows names rows with
    | ok _ => exact ⟨nofun, nofun⟩
    | error e' =>
      exact ⟨fun h => congrArg _ (Except.error.inj h), fun h => congrArg _ (Except.error.inj h)⟩

/-- Three rows for two columns, of which the second is too short and the third too long. The second
is the error, no matter how many rows are added before the columns are named. -/
theorem columns_anywhere_misfits :
    let one := Expr.ofValue (.int 1)
    let names := ["id", "age"]
    let rows := [[one, one], [one], [one, one, one]]
    ∀ k, ((rows.take k).map Insert.Change.values ++ Insert.Change.columns names ::
        (rows.drop k).map Insert.Change.values).foldlM Insert.apply (insertInto "users") =
      .error (.arityMismatch 2 1) := by
  intro one names rows k
  have usable : ∀ n ∈ names, checkName .insertColumn n = .ok () := by
    simp only [names, List.forall_mem_cons]
    exact ⟨checkName_eq_ok_iff.mpr (by decide), checkName_eq_ok_iff.mpr (by decide), nofun⟩
  have some_values : ∀ row ∈ rows, row ≠ [] := by simp [rows]
  obtain ⟨outcome, anywhere, -, fails⟩ :=
    columns_anywhere "users" (by decide) usable some_values
  rw [anywhere _ _ (List.take_append_drop k rows), fails]
  have fits : ∀ r ∈ [[one, one]], r.length = names.length := by simp [names]
  exact ⟨[[one, one]], [one], [[one, one, one]], rfl, fits, by decide, rfl⟩

end TypedSql
