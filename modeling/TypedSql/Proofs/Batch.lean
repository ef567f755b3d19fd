import TypedSql.Proofs.Validation

/-!
The rows of an insert. Its column list, its rows of values and the query that it takes its rows
from can be set in any order and more than once, and some calls are refused. Whatever the calls
were: the rows suit the columns, and there are rows of values or a query but not both.
-/

namespace TypedSql

namespace Clauses

variable {c c' : ClauseSet} {names : List String} {row : List Expr}

/-! ### What all changes keep -/

/-- The clauses of an insert go together: the column list and all rows have something in them, rows
have a value for each column, and rows of values and a query exclude each other. -/
structure IsBatch (c : ClauseSet) : Prop where
  columns : ∀ names ∈ c.columns, names ≠ [] ∧ ∀ n ∈ names, UsableName n
  rows : [] ∉ c.rows
  arity : ∀ names ∈ c.columns, ∀ row ∈ c.rows, row.length = names.length
  exclusive : c.rows = [] ∨ c.source = none
  source : ∀ s ∈ c.source, s.kind = .select

namespace IsBatch

theorem setColumns (h : c.IsBatch) (hc : c.setColumns names = .ok c') : c'.IsBatch := by
  obtain ⟨⟨some_name, usable, arity⟩, rfl⟩ := setColumns_eq_ok_iff.mp hc
  refine { h with columns := fun ns hn => ?_, arity := fun ns hn => ?_ }
  · cases hn
    exact ⟨some_name, usable⟩
  · cases hn
    exact arity

theorem pushRow (h : c.IsBatch) (hc : c.pushRow row = .ok c') : c'.IsBatch := by
  obtain ⟨⟨some_value, arity⟩, rfl⟩ := pushRow_eq_ok_iff.mp hc
  refine { h with
    rows := fun hm => ?_
    arity := fun ns hn r hr => ?_
    exclusive := .inr rfl
    source := nofun }
  · rcases List.mem_append.mp hm with hm | hm
    · exact h.rows hm
    · exact some_value (List.mem_singleton.mp hm).symm
  · rcases List.mem_append.mp hr with hr | hr
    · exact h.arity ns hn r hr
    · rw [List.mem_singleton.mp hr]
      exact arity ns hn

/-- A query takes the place of all rows of values. The column list stays. -/
theorem setSource {s : Statement} (h : c.IsBatch) (hs : s.kind = .select) :
    (c.setSource s).IsBatch where
  columns := h.columns
  rows := List.not_mem_nil
  arity _ _ _ hr := nomatch hr
  exclusive := .inl rfl
  source _ ht := Option.mem_some_iff.mp ht ▸ hs

theorem setReturning (h : c.IsBatch) : (c.setReturning names).IsBatch :=
  ⟨h.columns, h.rows, h.arity, h.exclusive, h.source⟩

end IsBatch

end Clauses

/-! ### Runs -/

namespace Insert

/-- A change to an insert, with its argument. -/
inductive Change where
  | columns (names : List String)
  | values (row : List Expr)
  | fromSelect {row : SqlType} (source : Select row)
  | returning (names : List String)

variable (q : Insert)

def apply : Change → SqlResult Insert
  | .columns names => q.columns names
  | .values row => q.values row
  | .fromSelect source => .ok (q.fromSelect source)
  | .returning names => .ok (q.returning names)

/-- The insert to go on with after a change, which is the one before it if the change is refused. -/
def after (change : Change) : Insert :=
  match q.apply change with
  | .ok q' => q'
  | .error _ => q

/-- The insert after changes one by one. -/
def run (changes : List Change) : Insert :=
  changes.foldl after q

variable {q}

theorem columns_succeeds_iff {names : List String} :
    (∃ q', q.columns names = .ok q') ↔ q.statement.clauses.AdmitsColumns names := by
  refine ⟨fun ⟨q', h⟩ => ?_, fun h => ?_⟩
  · obtain ⟨c, hc, -⟩ := eq_of_columns h
    exact (Clauses.setColumns_eq_ok_iff.mp hc).1
  · rw [columns, Clauses.setColumns_eq_ok_iff.mpr ⟨h, rfl⟩]
    exact ⟨_, rfl⟩

theorem values_succeeds_iff {row : List Expr} :
    (∃ q', q.values row = .ok q') ↔ q.statement.clauses.AdmitsRow row := by
  refine ⟨fun ⟨q', h⟩ => ?_, fun h => ?_⟩
  · obtain ⟨c, hc, -⟩ := eq_of_values h
    exact (Clauses.pushRow_eq_ok_iff.mp hc).1
  · rw [values, Clauses.pushRow_eq_ok_iff.mpr ⟨h, rfl⟩]
    exact ⟨_, rfl⟩

theorem isBatch_insertInto (table : String) : (insertInto table).statement.clauses.IsBatch where
  columns := nofun
  rows := List.not_mem_nil
  arity := nofun
  exclusive := .inl rfl
  source := nofun

theorem isBatch_after (h : q.statement.clauses.IsBatch) (change : Change) :
    (q.after change).statement.clauses.IsBatch := by
  unfold after
  cases ha : q.apply change with
  | error e => exact h
  | ok q' =>
    cases change with
    | columns names =>
      obtain ⟨c, hc, rfl⟩ := eq_of_columns ha
      exact h.setColumns hc
    | values row =>
      obtain ⟨c, hc, rfl⟩ := eq_of_values ha
      exact h.pushRow hc
    | fromSelect source =>
      obtain rfl := Except.ok.inj ha
      exact h.setSource source.isSelect
    | returning names =>
      obtain rfl := Except.ok.inj ha
      exact h.setReturning

theorem isBatch_run (h : q.statement.clauses.IsBatch) (changes : List Change) :
    (q.run changes).statement.clauses.IsBatch := by
  induction changes generalizing q with
  | nil => exact h
  | cons change changes ih => exact ih (isBatch_after h change)

end Insert

/-- Whatever is done to an insert, in any order and with refused changes left out: its columns and
rows go together, and rows of values and a query exclude each other. A row is taken if and only if
it has values and suits the columns there are; a column list is taken if and only if it has names,
all usable, and suits the rows there are. -/
theorem batch_of_run (table : String) (changes : List Insert.Change) :
    let q := (insertInto table).run changes
    let c := q.statement.clauses
    c.IsBatch ∧
      (∀ row, (∃ q', q.values row = .ok q') ↔
        row ≠ [] ∧ ∀ names ∈ c.columns, row.length = names.length) ∧
      ∀ names, (∃ q', q.columns names = .ok q') ↔
        names ≠ [] ∧ (∀ n ∈ names, checkName .insertColumn n = .ok ()) ∧
          ∀ row ∈ c.rows, row.length = names.length := by
  refine ⟨Insert.isBatch_run (Insert.isBatch_insertInto table) changes,
    fun row => Insert.values_succeeds_iff, fun names => ?_⟩
  simp only [checkName_eq_ok_iff]
  exact Insert.columns_succeeds_iff

/-- A query gives up the row that would not suit new columns. The columns then refuse a row of one
value. -/
example :
    let one := Expr.ofValue (.int 1)
    let q := (insertInto "archive").run
      [.columns ["id"], .values [one], .columns ["id", "age"], .fromSelect select,
        .columns ["id", "age"], .values [one], .values [one, one]]
    q.statement.clauses.columns = some ["id", "age"] ∧
      q.statement.clauses.rows = [[one, one]] :=
  ⟨rfl, rfl⟩

end TypedSql
