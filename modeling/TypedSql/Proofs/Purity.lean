import TypedSql.Proofs.Regular
import TypedSql.Proofs.Rendering

/-!
All kinds of statement share one record of clauses. Here: a statement that can be built has nothing
in a clause that its kind does not write, so that no clause is lost in silence; and a change to a
statement of unknown kind is refused, whatever its argument, if the kind does not have the clause,
and touches no other clause if the kind has it.
-/

namespace TypedSql

inductive Clause where
  | table
  | projection
  | joins
  | filter
  | groupBy
  | having
  | orderBy
  | limit
  | offset
  | columns
  | rows
  | source
  | assignments
  | returning
  deriving DecidableEq, Repr

namespace StatementKind

/-- The clauses of a kind of statement, in the order in which they are written. -/
def clauses : StatementKind → List Clause
  | select => [.projection, .table, .joins, .filter, .groupBy, .having, .orderBy, .limit, .offset]
  | insert => [.table, .columns, .rows, .source, .returning]
  | update => [.table, .assignments, .filter, .returning]
  | delete => [.table, .filter, .returning]

/-- The words that a statement of the kind begins with. -/
def opening : StatementKind → List Char
  | select => "SELECT ".toList
  | insert => "INSERT INTO ".toList
  | update => "UPDATE ".toList
  | delete => "DELETE FROM ".toList

end StatementKind

namespace Clauses

section Parts

variable {ε σ : Type}

/-- Whether there is anything in a clause. -/
def Has (c : Clauses ε σ) : Clause → Prop
  | .table => c.table ≠ none
  | .projection => c.projection ≠ []
  | .joins => c.joins ≠ []
  | .filter => c.filter ≠ none
  | .groupBy => c.groupBy ≠ []
  | .having => c.having ≠ none
  | .orderBy => c.orderBy ≠ []
  | .limit => c.limit ≠ none
  | .offset => c.offset ≠ none
  | .columns => c.columns ≠ none
  | .rows => c.rows ≠ []
  | .source => c.source ≠ none
  | .assignments => c.assignments ≠ []
  | .returning => c.returning ≠ []

/-- Whether two statements have the same in a clause. -/
def Agree (c c' : Clauses ε σ) : Clause → Prop
  | .table => c.table = c'.table
  | .projection => c.projection = c'.projection
  | .joins => c.joins = c'.joins
  | .filter => c.filter = c'.filter
  | .groupBy => c.groupBy = c'.groupBy
  | .having => c.having = c'.having
  | .orderBy => c.orderBy = c'.orderBy
  | .limit => c.limit = c'.limit
  | .offset => c.offset = c'.offset
  | .columns => c.columns = c'.columns
  | .rows => c.rows = c'.rows
  | .source => c.source = c'.source
  | .assignments => c.assignments = c'.assignments
  | .returning => c.returning = c'.returning

theorem Suits.mem_clauses {c : Clauses ε σ} {kind : StatementKind} (h : c.Suits kind)
    {clause : Clause} (hc : c.Has clause) : clause ∈ kind.clauses := by
  cases kind with
  | select =>
    obtain ⟨columns, rows, source, assignments, returning⟩ := h
    cases clause <;> first | decide | exact absurd ‹_› hc
  | insert =>
    obtain ⟨-, ⟨projection, joins, groupBy, having, orderBy, limit, offset⟩, filter, assignments,
      -⟩ := h
    cases clause <;> first | decide | exact absurd ‹_› hc
  | update =>
    obtain ⟨-, ⟨projection, joins, groupBy, having, orderBy, limit, offset⟩, columns, rows,
      source⟩ := h
    cases clause <;> first | decide | exact absurd ‹_› hc
  | delete =>
    obtain ⟨-, ⟨projection, joins, groupBy, having, orderBy, limit, offset⟩, columns, rows,
      source, assignments⟩ := h
    cases clause <;> first | decide | exact absurd ‹_› hc

theorem Suits.hasTarget {c : Clauses ε σ} {kind : StatementKind} (h : c.Suits kind)
    (hk : kind ≠ .select) : c.HasTarget := by
  cases kind with
  | select => exact absurd rfl hk
  | insert | update | delete => exact h.1

end Parts

section Texts

open List (intercalate)

/-- A list behind a keyword, with a comma and a space between its items, if it has any. -/
def keyedList (keyword : String) : List (List Char) → List Char
  | [] => []
  | items => keyword.toList ++ intercalate ", ".toList items

def writtenTable (t : Table) : List Char :=
  t.name.toList ++ t.aliasName.elim [] fun a => ' ' :: a.toList

def writtenJoin (j : Join (List Char)) : List Char :=
  let words := match j.kind with
    | .inner => " INNER JOIN "
    | .left => " LEFT JOIN "
    | .right => " RIGHT JOIN "
  words.toList ++ writtenTable j.table ++ " ON ".toList ++ j.on

def writtenOrder (o : OrderItem (List Char)) : List Char :=
  match o.direction with
  | .ascending => o.expr ++ " ASC".toList
  | .descending => o.expr ++ " DESC".toList

variable (c : Clauses (List Char) (List Char))

/-- What a statement of a kind writes for a clause. -/
def clauseText (kind : StatementKind) : Clause → List Char
  | .table =>
    match kind with
    | .select => c.table.elim [] fun t => " FROM ".toList ++ writtenTable t
    | _ => c.table.elim [] fun t => t.name.toList
  | .projection =>
    match c.projection with
    | [] => ['*']
    | items => intercalate ", ".toList items
  | .joins => c.joins.flatMap writtenJoin
  | .filter => c.filter.elim [] fun e => " WHERE ".toList ++ e
  | .groupBy => keyedList " GROUP BY " c.groupBy
  | .having => c.having.elim [] fun e => " HAVING ".toList ++ e
  | .orderBy => keyedList " ORDER BY " (c.orderBy.map writtenOrder)
  | .limit => c.limit.elim [] fun n => " LIMIT ".toList ++ Nat.toDigits 10 n
  | .offset => c.offset.elim [] fun n => " OFFSET ".toList ++ Nat.toDigits 10 n
  | .columns => c.columns.elim [] fun names =>
    " (".toList ++ intercalate ", ".toList (names.map String.toList) ++ [')']
  | .rows => keyedList " VALUES "
    (c.rows.map fun row => '(' :: (intercalate ", ".toList row ++ [')']))
  | .source => c.source.elim [] fun s => ' ' :: s
  | .assignments => " SET ".toList ++ intercalate ", ".toList
    (c.assignments.map fun a => a.column.toList ++ " = ".toList ++ a.value)
  | .returning => keyedList " RETURNING " (c.returning.map String.toList)

theorem optional_eq (keyword : String) (text : Option (List Char)) :
    optional keyword text = text.elim [] fun t => keyword.toList ++ t := by
  cases text <;> rfl

theorem optionalList_eq (keyword : String) (texts : List (List Char)) :
    optionalList keyword texts = keyedList keyword texts := by
  cases texts <;> rfl

theorem tableText_eq : tableText = writtenTable := by
  funext t
  unfold tableText writtenTable
  cases t.aliasName <;> rfl

theorem joinText_eq : joinText = writtenJoin := by
  funext j
  unfold joinText writtenJoin
  rw [tableText_eq]
  cases j.kind <;> simp [JoinKind.keyword]

theorem orderText_eq : orderText = writtenOrder := by
  funext o
  unfold orderText writtenOrder
  cases o.direction <;> rfl

theorem projection_eq : (if c.projection.isEmpty then ['*'] else commaSeparated c.projection) =
    match c.projection with
    | [] => ['*']
    | items => intercalate ", ".toList items := by
  cases c.projection <;> rfl

theorem targetText_eq_elim : c.targetText = c.table.elim [] fun t => t.name.toList := by
  unfold targetText
  cases c.table <;> rfl

theorem columnsText_eq_elim : c.columnsText = c.columns.elim [] fun names =>
    " (".toList ++ intercalate ", ".toList (names.map String.toList) ++ [')'] := by
  unfold columnsText
  cases c.columns <;> rfl

variable {c}

/-- A statement is written clause by clause. -/
theorem text_eq_clauses {kind : StatementKind}
    (hr : kind = .insert → c.rows = [] ∨ c.source = none) :
    c.text kind = kind.opening ++ kind.clauses.flatMap (c.clauseText kind) := by
  cases kind with
  | insert =>
    -- Of the rows and the query to take rows from only one is written, and only one is there.
    show c.insertText = _
    unfold insertText returningText StatementKind.opening StatementKind.clauses
    rw [rowsText_eq (hr rfl), optional_eq, optionalList_eq, optionalList_eq, targetText_eq_elim,
      columnsText_eq_elim]
    simp only [List.flatMap_cons, List.flatMap_nil, List.append_assoc, List.append_nil]
    rfl
  | select =>
    show c.selectText = _
    unfold selectText whereText StatementKind.opening StatementKind.clauses
    simp only [optional_eq, optionalList_eq, tableText_eq, joinText_eq, orderText_eq,
      projection_eq, Option.elim_map]
    simp only [List.flatMap_cons, List.flatMap_nil, List.append_assoc, List.append_nil]
    rfl
  | update =>
    show c.updateText = _
    unfold updateText whereText returningText StatementKind.opening StatementKind.clauses
    rw [optional_eq, optionalList_eq, targetText_eq_elim]
    simp only [List.flatMap_cons, List.flatMap_nil, List.append_assoc, List.append_nil]
    rfl
  | delete =>
    show c.deleteText = _
    unfold deleteText whereText returningText StatementKind.opening StatementKind.clauses
    rw [optional_eq, optionalList_eq, targetText_eq_elim]
    simp only [List.flatMap_cons, List.flatMap_nil, List.append_assoc, List.append_nil]
    rfl

end Texts

end Clauses

/-! ### Changes to statements of unknown kind -/

/-- A change to one clause of a statement, with its argument. -/
inductive Change where
  | filter (condition : Typed .bool)
  | andFilter (condition : Typed .bool)
  | project (exprs : List Expr)
  | join (kind : JoinKind) (table : Table) (on : Typed .bool)
  | groupBy (exprs : List Expr)
  | having (condition : Typed .bool)
  | orderBy (expr : Expr) (direction : Direction)
  | limit (n : Int64)
  | offset (n : Int64)

namespace Change

def clause : Change → Clause
  | filter _ | andFilter _ => .filter
  | project _ => .projection
  | join _ _ _ => .joins
  | groupBy _ => .groupBy
  | having _ => .having
  | orderBy _ _ => .orderBy
  | limit _ => .limit
  | offset _ => .offset

/-- What the change is called where it is refused. The argument plays no part in it. -/
def operation : Change → String
  | filter _ | andFilter _ => "WHERE"
  | project _ => "SELECT list"
  | join _ _ _ => "JOIN"
  | groupBy _ => "GROUP BY"
  | having _ => "HAVING"
  | orderBy _ _ => "ORDER BY"
  | limit _ => "LIMIT"
  | offset _ => "OFFSET"

def apply (s : Statement) : Change → SqlResult Statement
  | filter condition => s.filter condition
  | andFilter condition => s.andFilter condition
  | project exprs => s.project exprs
  | join kind table on => s.join kind table on
  | groupBy exprs => s.groupBy exprs
  | having condition => s.having condition
  | orderBy expr direction => s.orderBy expr direction
  | limit n => s.limit n
  | offset n => s.offset n

theorem mem_filterable_iff (kind : StatementKind) :
    kind ∈ Statement.filterable ↔ .filter ∈ kind.clauses := by
  cases kind <;> decide

/-- The clauses that only queries have. -/
theorem mem_select_iff {clause : Clause}
    (h : clause ∈ [Clause.projection, .joins, .groupBy, .having, .orderBy, .limit, .offset])
    (kind : StatementKind) : kind ∈ [StatementKind.select] ↔ clause ∈ kind.clauses := by
  revert h
  cases kind <;> cases clause <;> decide

/-- All that can come of a change. -/
inductive Outcome (change : Change) (s : Statement) : SqlResult Statement → Prop
  | refused : change.clause ∉ s.kind.clauses →
      Outcome change s (.error (.unsupportedOperation s.kind change.operation))
  | negative {n : Int} : change.clause ∈ s.kind.clauses → n < 0 →
      Outcome change s (.error (.invalidArgument (.negativeCount change.operation n)))
  | changed {s' : Statement} : change.clause ∈ s.kind.clauses → s'.kind = s.kind →
      (change.clause ≠ .projection → s'.resultType = s.resultType) →
      (∀ clause, clause ≠ change.clause → s'.clauses.Agree s.clauses clause) →
      Outcome change s (.ok s')

variable {change : Change} {s : Statement}

/-- Nothing but the kind of the statement is looked at before the change is let through. -/
theorem outcome_of_require (change : Change) {allowed : List StatementKind}
    {k : SqlResult Statement}
    (ha : ∀ kind : StatementKind, kind ∈ allowed ↔ change.clause ∈ kind.clauses)
    (hk : change.clause ∈ s.kind.clauses → Outcome change s k) :
    Outcome change s (do s.require allowed change.operation; k) := by
  unfold Statement.require
  by_cases hm : s.kind ∈ allowed
  · rw [if_pos hm]
    exact hk ((ha s.kind).mp hm)
  · rw [if_neg hm]
    exact .refused fun h => hm ((ha s.kind).mpr h)

theorem outcome_of_nonNegative {n : Int64} {f : Nat → ClauseSet → ClauseSet}
    (hm : change.clause ∈ s.kind.clauses)
    (hf : ∀ k clause, clause ≠ change.clause → (f k s.clauses).Agree s.clauses clause) :
    Outcome change s (do
      let k ← nonNegative change.operation n
      return s.mapClauses (f k)) := by
  unfold nonNegative
  by_cases hn : n.toInt < 0
  · rw [if_pos hn]
    exact .negative hm hn
  · rw [if_neg hn]
    exact .changed hm rfl (fun _ => rfl) (hf _)

theorem outcome_apply (change : Change) (s : Statement) : Outcome change s (change.apply s) := by
  cases change with
  | filter | andFilter =>
    refine outcome_of_require _ mem_filterable_iff fun hm => ?_
    exact .changed hm rfl (fun _ => rfl) fun clause h => by
      cases clause <;> first | rfl | exact absurd rfl h
  | project =>
    refine outcome_of_require _ (mem_select_iff (by simp [clause])) fun hm => ?_
    exact .changed hm rfl (fun h => absurd rfl h) fun clause h => by
      cases clause <;> first | rfl | exact absurd rfl h
  | join | groupBy | having | orderBy =>
    refine outcome_of_require _ (mem_select_iff (by simp [clause])) fun hm => ?_
    exact .changed hm rfl (fun _ => rfl) fun clause h => by
      cases clause <;> first | rfl | exact absurd rfl h
  | limit n =>
    refine outcome_of_require (.limit n) (mem_select_iff (by simp [clause])) fun hm => ?_
    exact outcome_of_nonNegative (f := fun k c => { c with limit := some k }) hm
      fun k clause h => by cases clause <;> first | rfl | exact absurd rfl h
  | offset n =>
    refine outcome_of_require (.offset n) (mem_select_iff (by simp [clause])) fun hm => ?_
    exact outcome_of_nonNegative (f := fun k c => { c with offset := some k }) hm
      fun k clause h => by cases clause <;> first | rfl | exact absurd rfl h

theorem apply_eq_unsupported_iff {kind : StatementKind} {operation : String} :
    change.apply s = .error (.unsupportedOperation kind operation) ↔
      change.clause ∉ s.kind.clauses ∧ kind = s.kind ∧ operation = change.operation := by
  have h := outcome_apply change s
  generalize change.apply s = r at h
  cases h with
  | refused hm => grind
  | negative hm hn => grind
  | changed hm => grind

theorem frame {s' : Statement} (h : change.apply s = .ok s') :
    change.clause ∈ s.kind.clauses ∧ s'.kind = s.kind ∧
      (change.clause ≠ .projection → s'.resultType = s.resultType) ∧
      ∀ clause, clause ≠ change.clause → s'.clauses.Agree s.clauses clause := by
  have ho := outcome_apply change s
  rw [h] at ho
  cases ho with
  | changed hm hk ht hc => exact ⟨hm, hk, ht, hc⟩

end Change

/-- What holds of the statements that the builders make, and is kept by all changes to statements
of unknown kind, holds of all statements that can be built. -/
theorem Statement.Buildable.of_changes {P : Statement → Prop}
    (select : ∀ {row : SqlType} {q : Select row}, q.Buildable → P q.statement)
    (insert : ∀ {q : Insert}, q.Buildable → P q.statement)
    (update : ∀ {q : Update}, q.Buildable → P q.statement)
    (delete : ∀ {q : Delete}, q.Buildable → P q.statement)
    (change : ∀ {s s' : Statement} (change : Change), P s → change.apply s = .ok s' → P s')
    {s : Statement} (h : s.Buildable) : P s := by
  induction h with
  | select h => exact select h
  | insert h => exact insert h
  | update h => exact update h
  | delete h => exact delete h
  | filter _ _ h ih => exact change (.filter _) ih h
  | andFilter _ _ h ih => exact change (.andFilter _) ih h
  | project _ _ h ih => exact change (.project _) ih h
  | join _ _ h ih => exact change (.join _ _ _) ih h
  | groupBy _ _ h ih => exact change (.groupBy _) ih h
  | having _ _ h ih => exact change (.having _) ih h
  | orderBy _ _ h ih => exact change (.orderBy _ _) ih h
  | limit _ h ih => exact change (.limit _) ih h
  | offset _ h ih => exact change (.offset _) ih h

theorem Insert.Buildable.resultType {q : Insert} (h : q.Buildable) :
    q.statement.resultType = .unit := by
  induction h with
  | insertInto => rfl
  | columns _ h ih =>
    obtain ⟨_, -, rfl⟩ := Insert.eq_of_columns h
    exact ih
  | values _ _ h ih =>
    obtain ⟨_, -, rfl⟩ := Insert.eq_of_values h
    exact ih
  | fromSelect _ _ ih => exact ih
  | returning _ _ ih => exact ih

theorem Update.Buildable.resultType {q : Update} (h : q.Buildable) :
    q.statement.resultType = .unit := by
  induction h with
  | update => rfl
  | set _ _ h ih =>
    obtain ⟨-, rfl⟩ := Update.eq_of_set h
    exact ih
  | filter _ _ ih => exact ih
  | andFilter _ _ ih => exact ih
  | returning _ _ ih => exact ih

theorem Delete.Buildable.resultType {q : Delete} (h : q.Buildable) :
    q.statement.resultType = .unit := by
  induction h with
  | deleteFrom => rfl
  | filter _ _ ih => exact ih
  | andFilter _ _ ih => exact ih
  | returning _ _ ih => exact ih

theorem Statement.Buildable.resultType {s : Statement} (h : s.Buildable) :
    s.kind ≠ .select → s.resultType = .unit := by
  refine h.of_changes (P := fun s => s.kind ≠ .select → s.resultType = .unit) ?select
    (fun hq _ => hq.resultType) (fun hq _ => hq.resultType) (fun hq _ => hq.resultType) ?change
  case select => exact fun {_ q} _ hk => absurd q.isSelect hk
  case change =>
    intro s s' change ih h hk
    obtain ⟨hm, hkind, ht, -⟩ := Change.frame h
    rw [hkind] at hk
    -- Only a projection gives the rows another type, and only queries have projections.
    have hp : change.clause ≠ .projection := by
      intro hp
      rw [hp, ← Change.mem_select_iff (by decide), List.mem_singleton] at hm
      exact hk hm
    rw [ht hp, ih hk]

/-- The statement has nothing in a clause that its kind does not write. One that changes rows names
a table, which goes by no other name, and has no rows as its result. -/
structure Statement.KeepsToKind (s : Statement) : Prop where
  clauses : ∀ clause, s.clauses.Has clause → clause ∈ s.kind.clauses
  text : s.sqlText =
    s.kind.opening ++ s.kind.clauses.flatMap (s.clauses.texts.clauseText s.kind)
  target : s.kind ≠ .select → s.clauses.HasTarget
  resultType : s.kind ≠ .select → s.resultType = .unit

theorem Statement.Buildable.keepsToKind {s : Statement} (h : s.Buildable) : s.KeepsToKind where
  clauses _ hc := h.regular.suits.mem_clauses hc
  text := by
    rw [s.sqlText_eq]
    refine Clauses.text_eq_clauses fun hk => ?_
    have suits := h.regular.suits
    rw [hk] at suits
    obtain ⟨-, -, -, -, -, -, rows | source⟩ := suits
    · exact .inl (List.map_eq_nil_iff.mpr rows)
    · exact .inr (Option.map_eq_none_iff.mpr source)
  target hk := h.regular.suits.hasTarget hk
  resultType := h.resultType

/-- A statement that can be built keeps to the clauses of its kind. A change to a statement is
refused if and only if the kind does not have the clause, whatever the argument; a change that goes
through leaves all other clauses as they are, and one that is let through fails for nothing but a
negative count. -/
theorem clauses_of_kind :
    (∀ s : Statement, s.Buildable → s.KeepsToKind) ∧
    ∀ (s : Statement) (change : Change),
      (∀ kind operation,
        change.apply s = .error (.unsupportedOperation kind operation) ↔
          change.clause ∉ s.kind.clauses ∧ kind = s.kind ∧ operation = change.operation) ∧
      (∀ s', change.apply s = .ok s' →
        s'.kind = s.kind ∧ (change.clause ≠ .projection → s'.resultType = s.resultType) ∧
          ∀ clause, clause ≠ change.clause → s'.clauses.Agree s.clauses clause) ∧
      (change.clause ∈ s.kind.clauses → (∃ s', change.apply s = .ok s') ∨
        ∃ n < 0, change.apply s =
          .error (.invalidArgument (.negativeCount change.operation n))) := by
  refine ⟨fun s h => h.keepsToKind, fun s change => ⟨fun kind operation => ?_, ?_, ?_⟩⟩
  · exact Change.apply_eq_unsupported_iff
  · exact fun s' h => (Change.frame h).2
  · intro hm
    have ho := Change.outcome_apply change s
    generalize change.apply s = r at ho ⊢
    cases ho with
    | refused hn => exact absurd hm hn
    | negative _ hn => exact .inr ⟨_, hn, rfl⟩
    | changed => exact .inl ⟨_, rfl⟩

/-- On a delete a negative limit is refused as a limit, and one more condition leaves the table as
it is. -/
theorem clauses_of_kind_delete :
    let absent := (Typed.column .text "users" "email").isNull
    let s := ((deleteFrom "users").filter absent).statement
    s.Buildable ∧ s.KeepsToKind ∧
      (Change.limit (-1)).apply s = .error (.unsupportedOperation .delete "LIMIT") ∧
      ∃ s', (Change.andFilter absent).apply s = .ok s' ∧
        s'.clauses.table = some { name := "users" } := by
  intro absent s
  have built : s.Buildable := .delete (.filter (.deleteFrom "users") (.isNull (.column ..)))
  have limit := (clauses_of_kind.2 s (.limit (-1))).1 .delete "LIMIT"
  have narrowed := (clauses_of_kind.2 s (.andFilter absent)).2.1 _ rfl
  exact ⟨built, clauses_of_kind.1 s built, limit.mpr ⟨by decide, rfl, rfl⟩, _, rfl,
    narrowed.2.2 .table (by decide)⟩

end TypedSql
