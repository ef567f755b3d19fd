import TypedSql.Proofs.Buildable
import TypedSql.Proofs.Checks
import TypedSql.Proofs.Contents

/-!
What all trees that can be built have in common: operators have the operands they ask for,
subqueries and the sources of inserts are queries, and a statement has no clause that its kind does
not write.
-/

namespace TypedSql

namespace Clauses

variable {ε σ : Type}

/-- None of the clauses that only queries have is there. -/
def NoQuery (c : Clauses ε σ) : Prop :=
  c.projection = [] ∧ c.joins = [] ∧ c.groupBy = [] ∧ c.having = none ∧ c.orderBy = [] ∧
    c.limit = none ∧ c.offset = none

/-- The statement changes a table, which goes by no other name. -/
def HasTarget (c : Clauses ε σ) : Prop :=
  ∃ name, c.table = some { name }

/-- The clauses are ones that a statement of the kind writes. An insert names columns or does not,
has no empty row, and takes its rows from one place. -/
def Suits (c : Clauses ε σ) : StatementKind → Prop
  | .select => c.columns = none ∧ c.rows = [] ∧ c.source = none ∧ c.assignments = [] ∧
      c.returning = []
  | .insert => c.HasTarget ∧ c.NoQuery ∧ c.filter = none ∧ c.assignments = [] ∧
      c.columns ≠ some [] ∧ [] ∉ c.rows ∧ (c.rows = [] ∨ c.source = none)
  | .update => c.HasTarget ∧ c.NoQuery ∧ c.columns = none ∧ c.rows = [] ∧ c.source = none
  | .delete => c.HasTarget ∧ c.NoQuery ∧ c.columns = none ∧ c.rows = [] ∧ c.source = none ∧
      c.assignments = []

end Clauses

mutual

/-- An expression whose operators have the operands they ask for and whose subqueries are
queries. -/
inductive Expr.Regular : Expr → Prop
  | column (table column : String) (aliasName : Option String) (type : SqlType) :
      Expr.Regular (.column table column aliasName type)
  | literal (value : Value) (type : SqlType) : Expr.Regular (.literal value type)
  | unary {op : Operator} {operand : Expr} :
      op.isUnary = true → operand.Regular → Expr.Regular (.unary op operand)
  | binary {op : Operator} {left right : Expr} {type : SqlType} :
      op.isUnary = false → left.Regular → right.Regular →
      Expr.Regular (.binary op left right type)
  | call {function : String} {arguments : List Expr} {type : SqlType} :
      (∀ e ∈ arguments, e.Regular) → Expr.Regular (.call function arguments type)
  | caseWhen {branches : List (Expr × Expr)} {otherwise : Option Expr} {type : SqlType} :
      (∀ b ∈ branches, b.1.Regular) → (∀ b ∈ branches, b.2.Regular) →
      (∀ e ∈ otherwise, e.Regular) → Expr.Regular (.caseWhen branches otherwise type)
  | subquery {statement : Statement} {type : SqlType} :
      statement.kind = .select → statement.Regular → Expr.Regular (.subquery statement type)

/-- A statement that has no clause its kind does not write. -/
inductive Statement.Regular : Statement → Prop
  | intro {s : Statement} :
      s.clauses.Suits s.kind → (∀ e ∈ s.clauses.exprs, e.Regular) →
      (∀ t ∈ s.clauses.source, t.kind = .select) → (∀ t ∈ s.clauses.source, t.Regular) →
      s.Regular

end

/-! ### Clauses -/

namespace Clauses

variable {c : ClauseSet} {condition : Typed .bool} {e : Expr}

theorem suits_setFilter {kind : StatementKind} (h : c.Suits kind) (hk : kind ≠ .insert) :
    (c.setFilter condition).Suits kind := by
  cases kind with
  | insert => exact absurd rfl hk
  | select | update | delete => exact h

theorem suits_andFilter {kind : StatementKind} (h : c.Suits kind) (hk : kind ≠ .insert) :
    (c.andFilter condition).Suits kind := by
  cases kind with
  | insert => exact absurd rfl hk
  | select | update | delete => exact h

theorem suits_setReturning {kind : StatementKind} {names : List String} (h : c.Suits kind)
    (hk : kind ≠ .select) : (c.setReturning names).Suits kind := by
  cases kind with
  | select => exact absurd rfl hk
  | insert | update | delete => exact h

theorem mem_exprs_setFilter (h : e ∈ (c.setFilter condition).exprs) :
    e ∈ c.exprs ∨ e = condition.expr := by
  simp only [mem_exprs, setFilter, Option.mem_some_iff] at h ⊢
  grind

theorem mem_exprs_andFilter (h : e ∈ (c.andFilter condition).exprs) :
    e ∈ c.exprs ∨ e = condition.expr ∨
      ∃ existing ∈ c.exprs, e = .binary .and existing condition.expr .bool := by
  cases hf : c.filter with
  | none =>
    simp only [mem_exprs, andFilter, hf, Option.mem_some_iff] at h ⊢
    grind
  | some existing =>
    simp only [mem_exprs, andFilter, hf, Option.mem_some_iff] at h ⊢
    grind

theorem mem_assignIn {column : String} {value : Expr} {a : Assignment Expr}
    {as : List (Assignment Expr)} (h : a ∈ assignIn column value as) :
    a = ⟨column, value⟩ ∨ a ∈ as := by
  induction as with
  | nil => exact .inl (List.mem_singleton.mp h)
  | cons b as ih =>
    rw [assignIn] at h
    split at h
    · exact (List.mem_cons.mp h).imp_right (List.mem_cons_of_mem b)
    · rcases List.mem_cons.mp h with rfl | h
      · exact .inr List.mem_cons_self
      · exact (ih h).imp_right (List.mem_cons_of_mem b)

theorem mem_exprs_assign {column : String} {value : Expr}
    (h : e ∈ (c.assign column value).exprs) : e ∈ c.exprs ∨ e = value := by
  simp only [mem_exprs, assign] at h ⊢
  have := @mem_assignIn column value
  grind

end Clauses

namespace Statement.Regular

theorem suits {s : Statement} : s.Regular → s.clauses.Suits s.kind
  | .intro h _ _ _ => h

theorem exprs {s : Statement} : s.Regular → ∀ e ∈ s.clauses.exprs, e.Regular
  | .intro _ h _ _ => h

theorem source {s : Statement} : s.Regular → ∀ t ∈ s.clauses.source, t.kind = .select ∧ t.Regular
  | .intro _ _ hk ht => fun t hm => ⟨hk t hm, ht t hm⟩

/-- A regular statement stays one when each new expression and each new source is regular. -/
theorem withClauses {s : Statement} {c : ClauseSet} {type : SqlType} (h : s.Regular)
    (hs : s.clauses.Suits s.kind → c.Suits s.kind)
    (he : ∀ e ∈ c.exprs, e ∈ s.clauses.exprs ∨ e.Regular)
    (ht : ∀ t ∈ c.source, t ∈ s.clauses.source ∨ t.kind = .select ∧ t.Regular) :
    Statement.Regular ⟨s.kind, type, c⟩ := by
  have sources : ∀ t ∈ c.source, t.kind = .select ∧ t.Regular := fun t hm =>
    (ht t hm).elim (h.source t) id
  exact .intro (hs h.suits) (fun e hm => (he e hm).elim (h.exprs e) id)
    (fun t hm => (sources t hm).1) fun t hm => (sources t hm).2

theorem setFilter {s : Statement} {condition : Typed .bool} (h : s.Regular)
    (hc : condition.expr.Regular) (hk : s.kind ≠ .insert) :
    Statement.Regular ⟨s.kind, s.resultType, s.clauses.setFilter condition⟩ := by
  refine h.withClauses (fun hs => Clauses.suits_setFilter hs hk) (fun e he => ?_)
    fun t ht => .inl ht
  rcases Clauses.mem_exprs_setFilter he with h' | rfl
  · exact .inl h'
  · exact .inr hc

theorem andFilter {s : Statement} {condition : Typed .bool} (h : s.Regular)
    (hc : condition.expr.Regular) (hk : s.kind ≠ .insert) :
    Statement.Regular ⟨s.kind, s.resultType, s.clauses.andFilter condition⟩ := by
  refine h.withClauses (fun hs => Clauses.suits_andFilter hs hk) (fun e he => ?_)
    fun t ht => .inl ht
  rcases Clauses.mem_exprs_andFilter he with h' | rfl | ⟨existing, hm, rfl⟩
  · exact .inl h'
  · exact .inr hc
  · exact .inr (.binary rfl (h.exprs existing hm) hc)

theorem setReturning {s : Statement} (h : s.Regular) (names : List String)
    (hk : s.kind ≠ .select) :
    Statement.Regular ⟨s.kind, s.resultType, s.clauses.setReturning names⟩ :=
  h.withClauses (fun hs => Clauses.suits_setReturning hs hk) (fun _ he => .inl he)
    fun _ ht => .inl ht

end Statement.Regular

/-! ### Expressions -/

namespace Expr

/-- What a checked operator makes: an operator behind its operand or between its operands, which
have types that go together. -/
theorem eq_of_checked {l e : Expr} {op : Operator} {r : Option Expr}
    (h : l.checked op r = .ok e) :
    op.isUnary = true ∧ e = .unary op l ∨
      op.isUnary = false ∧ ∃ right ∈ r, ∃ t, resultType op l.type right.type = .ok t ∧
        (op = .isIn ∨ op = .notIn → right.isSubquery = true) ∧ e = .binary op l right t := by
  unfold checked at h
  split at h
  · next hu => exact .inl ⟨hu, (Except.ok.inj h).symm⟩
  · cases h
  · cases h
  · next hu =>
    split at h
    · cases h
    · next hm =>
      cases ht : resultType op l.type _ with
      | error f => rw [ht] at h; cases h
      | ok t =>
        rw [ht] at h
        exact .inr ⟨hu, _, rfl, t, ht, by simpa using hm, (Except.ok.inj h).symm⟩

theorem regular_of_checked {l e : Expr} {op : Operator} {r : Option Expr} (hl : l.Regular)
    (hr : ∀ x ∈ r, x.Regular) (h : l.checked op r = .ok e) : e.Regular := by
  obtain ⟨hu, rfl⟩ | ⟨hu, right, hm, t, -, -, rfl⟩ := eq_of_checked h
  · exact .unary hu hl
  · exact .binary hu hl (hr right hm)

theorem checked_of_compare {l r e : Expr} {op : Operator} (h : l.compare op r = .ok e) :
    l.checked op (some r) = .ok e := by
  unfold compare at h
  split at h
  · cases h
  · exact h

end Expr

theorem Typed.call_eq_ok {t : SqlType} {name : String} {arguments : List Expr} {f : Typed t}
    (h : Typed.call t name arguments = .ok f) :
    checkName .function name = .ok () ∧ f = callUnchecked t name arguments := by
  obtain ⟨passes, h⟩ := andThen_eq_ok_iff.mp h
  exact ⟨passes, (Except.ok.inj h).symm⟩

theorem Operator.isUnary_of_isComparison {op : Operator} (h : op.isComparison = true) :
    op.isUnary = false := by
  cases op <;> first | rfl | cases h

theorem Operator.isUnary_of_isLogical {op : Operator} (h : op.isLogical = true) :
    op.isUnary = false := by
  cases op <;> first | rfl | cases h

theorem Operator.isUnary_of_isArithmetic {op : Operator} (h : op.isArithmetic = true) :
    op.isUnary = false := by
  cases op <;> first | rfl | cases h

/-! ### Queries -/

namespace Select

variable {row : SqlType} {q : Select row}

theorem regular_mapClauses (h : q.statement.Regular) (f : ClauseSet → ClauseSet)
    (hs : q.statement.clauses.Suits .select → (f q.statement.clauses).Suits .select)
    (he : ∀ e ∈ (f q.statement.clauses).exprs, e ∈ q.statement.clauses.exprs ∨ e.Regular)
    (ht : (f q.statement.clauses).source = q.statement.clauses.source) :
    (q.mapClauses f).statement.Regular :=
  h.withClauses (fun hq => by rw [q.isSelect] at hq ⊢; exact hs hq) he
    fun t hm => .inl (ht ▸ hm)

theorem eq_of_limit {q' : Select row} {n : Int64} (h : q.limit n = .ok q') :
    ∃ k, q' = q.mapClauses fun c => { c with limit := some k } := by
  obtain ⟨k, -, h⟩ := bind_eq_ok_iff.mp h
  exact ⟨k, (Except.ok.inj h).symm⟩

theorem eq_of_offset {q' : Select row} {n : Int64} (h : q.offset n = .ok q') :
    ∃ k, q' = q.mapClauses fun c => { c with offset := some k } := by
  obtain ⟨k, -, h⟩ := bind_eq_ok_iff.mp h
  exact ⟨k, (Except.ok.inj h).symm⟩

theorem steps_of_paginate {q' : Select row} {page perPage : Int64}
    (h : q.paginate page perPage = .ok q') :
    ∃ q₁ n, q.limit perPage = .ok q₁ ∧ q₁.offset n = .ok q' := by
  unfold paginate at h
  split at h
  · cases h
  split at h
  · cases h
  split at h
  · cases h
  · next skipped _ =>
    obtain ⟨q₁, hl, ho⟩ := bind_eq_ok_iff.mp h
    exact ⟨q₁, skipped, hl, ho⟩

theorem regular_join {kind : JoinKind} {table : Table} {on : Typed .bool}
    (hq : q.statement.Regular) (ho : on.expr.Regular) :
    (q.join kind table on).statement.Regular := by
  refine regular_mapClauses hq _ id (fun e he => ?_) rfl
  simp only [Clauses.mem_exprs, Clauses.addJoin] at he ⊢
  grind

theorem regular_groupBy {exprs : List Expr} (hq : q.statement.Regular)
    (he : ∀ e ∈ exprs, e.Regular) : (q.groupBy exprs).statement.Regular := by
  refine regular_mapClauses hq _ id (fun e hm => ?_) rfl
  simp only [Clauses.mem_exprs, Clauses.addGroups] at hm ⊢
  grind

theorem regular_having {condition : Typed .bool} (hq : q.statement.Regular)
    (hc : condition.expr.Regular) : (q.having condition).statement.Regular := by
  refine regular_mapClauses hq _ id (fun e he => ?_) rfl
  simp only [Clauses.mem_exprs, Clauses.setHaving, Option.mem_some_iff] at he ⊢
  grind

theorem regular_orderBy {e : Expr} {direction : Direction} (hq : q.statement.Regular)
    (he : e.Regular) : (q.orderBy e direction).statement.Regular := by
  refine regular_mapClauses hq _ id (fun x hx => ?_) rfl
  simp only [Clauses.mem_exprs, Clauses.addOrder] at hx ⊢
  grind

theorem regular_of_limit {q' : Select row} {n : Int64} (hq : q.statement.Regular)
    (h : q.limit n = .ok q') : q'.statement.Regular := by
  obtain ⟨k, rfl⟩ := eq_of_limit h
  exact regular_mapClauses hq _ id (fun e he => .inl he) rfl

theorem regular_of_offset {q' : Select row} {n : Int64} (hq : q.statement.Regular)
    (h : q.offset n = .ok q') : q'.statement.Regular := by
  obtain ⟨k, rfl⟩ := eq_of_offset h
  exact regular_mapClauses hq _ id (fun e he => .inl he) rfl

theorem regular_withProjection {new : SqlType} {exprs : List Expr} (hq : q.statement.Regular)
    (he : ∀ e ∈ exprs, e.Regular) : (q.withProjection new exprs).statement.Regular := by
  refine hq.withClauses (fun hs => by rw [q.isSelect] at hs ⊢; exact hs) (fun e hm => ?_)
    fun t ht => .inl ht
  simp only [Clauses.mem_exprs] at hm ⊢
  grind

end Select

/-! ### From the builders -/

mutual

theorem Expr.Buildable.regular {e : Expr} : e.Buildable → e.Regular
  | .column .. => .column ..
  | .columnAs .. => .column ..
  | .literal .. => .literal ..
  | .ofValue v => .literal ..
  | .call ha h => by
    obtain ⟨-, rfl⟩ := Typed.call_eq_ok h
    exact .call fun e he => (ha e he).regular
  | .countAll => .call fun e he => by
    rw [List.mem_singleton] at he
    exact he ▸ .literal ..
  | .count h | .sum _ h | .avg _ h | .min h | .max h | .not h => .call fun e he => by
    rw [List.mem_singleton] at he
    exact he ▸ h.regular
  | .isNull h | .isNotNull h => .unary rfl h.regular
  | .comparison ho hl hr => .binary (Operator.isUnary_of_isComparison ho) hl.regular hr.regular
  | .logical ho hl hr => .binary (Operator.isUnary_of_isLogical ho) hl.regular hr.regular
  | .like hl hr | .notLike hl hr => .binary rfl hl.regular hr.regular
  | .arithmetic _ ho hl hr =>
    .binary (Operator.isUnary_of_isArithmetic ho) hl.regular hr.regular
  | .caseWhen hc hr ho => by
    refine .caseWhen (fun b hb => ?_) (fun b hb => ?_) (fun e he => ?_)
    · obtain ⟨b, hm, rfl⟩ := List.mem_map.mp hb
      exact (hc b hm).regular
    · obtain ⟨b, hm, rfl⟩ := List.mem_map.mp hb
      exact (hr b hm).regular
    · obtain ⟨e, hm, rfl⟩ := Option.map_eq_some_iff.mp he
      exact (ho e hm).regular
  | .checked hl hr h => Expr.regular_of_checked hl.regular (fun x hx => (hr x hx).regular) h
  | .compare hl hr h =>
    Expr.regular_of_checked hl.regular
      (fun x hx => Option.mem_some_iff.mp hx ▸ hr.regular) (Expr.checked_of_compare h)
  | .subquery (q := q) h => .subquery q.isSelect h.regular
  | .inSubquery (q := q) he h | .notInSubquery (q := q) he h =>
    .binary rfl he.regular (.subquery q.isSelect h.regular)

theorem Select.Buildable.regular {row : SqlType} {q : Select row} :
    q.Buildable → q.statement.Regular
  | .selectAs row => .intro ⟨rfl, rfl, rfl, rfl, rfl⟩ (fun e he => nomatch he)
    (fun t ht => nomatch ht) fun t ht => nomatch ht
  | .fromTable table h => Select.regular_mapClauses h.regular _ id (fun e he => .inl he) rfl
  | .join _ _ h ho => Select.regular_join h.regular ho.regular
  | .filter (q := q) h hc => h.regular.setFilter hc.regular (by rw [q.isSelect]; decide)
  | .andFilter (q := q) h hc => h.regular.andFilter hc.regular (by rw [q.isSelect]; decide)
  | .groupBy h hg => Select.regular_groupBy h.regular fun e he => (hg e he).regular
  | .having h hc => Select.regular_having h.regular hc.regular
  | .orderBy _ h ho => Select.regular_orderBy h.regular ho.regular
  | .limit h hl => Select.regular_of_limit h.regular hl
  | .offset h ho => Select.regular_of_offset h.regular ho
  | .paginate h hp => by
    obtain ⟨q₁, n, hl, ho⟩ := Select.steps_of_paginate hp
    exact Select.regular_of_offset (Select.regular_of_limit h.regular hl) ho
  | .project h he => Select.regular_withProjection h.regular fun e hm => by
    rw [List.mem_singleton] at hm
    exact hm ▸ he.regular
  | .projectMany h he => Select.regular_withProjection h.regular fun e hm => (he e hm).regular

end

/-! ### Statements that change rows -/

namespace Insert

variable {q q' : Insert}

theorem eq_of_columns {names : List String} (h : q.columns names = .ok q') :
    ∃ c, q.statement.clauses.setColumns names = .ok c ∧ q' = q.withClauses c :=
  map_eq_ok_iff.mp h

theorem eq_of_values {row : List Expr} (h : q.values row = .ok q') :
    ∃ c, q.statement.clauses.pushRow row = .ok c ∧ q' = q.withClauses c :=
  map_eq_ok_iff.mp h

theorem regular_of_columns {names : List String} (hq : q.statement.Regular)
    (h : q.columns names = .ok q') : q'.statement.Regular := by
  obtain ⟨c, hc, rfl⟩ := eq_of_columns h
  obtain ⟨⟨hn, -⟩, rfl⟩ := Clauses.setColumns_eq_ok_iff.mp hc
  refine hq.withClauses (fun hs => ?_) (fun _ he => .inl he) fun _ ht => .inl ht
  rw [q.isInsert] at hs ⊢
  obtain ⟨target, query, filter, assignments, -, rows⟩ := hs
  exact ⟨target, query, filter, assignments, fun h => hn (Option.some.inj h), rows⟩

theorem regular_of_values {row : List Expr} (hq : q.statement.Regular)
    (hr : ∀ e ∈ row, e.Regular) (h : q.values row = .ok q') : q'.statement.Regular := by
  obtain ⟨c, hc, rfl⟩ := eq_of_values h
  obtain ⟨⟨hn, -⟩, rfl⟩ := Clauses.pushRow_eq_ok_iff.mp hc
  refine hq.withClauses (fun hs => ?_) (fun e he => ?_) fun t ht => nomatch ht
  · rw [q.isInsert] at hs ⊢
    obtain ⟨target, query, filter, assignments, columns, rows, -⟩ := hs
    refine ⟨target, query, filter, assignments, columns, fun hm => ?_, .inr rfl⟩
    rcases List.mem_append.mp hm with hm | hm
    · exact rows hm
    · exact hn (List.mem_singleton.mp hm).symm
  · simp only [Clauses.mem_exprs, List.mem_append, List.mem_singleton] at he ⊢
    grind

theorem regular_fromSelect {row : SqlType} {source : Select row} (hq : q.statement.Regular)
    (h : source.statement.Regular) : (q.fromSelect source).statement.Regular := by
  refine hq.withClauses (fun hs => ?_) (fun e he => ?_) fun t ht => ?_
  · rw [q.isInsert] at hs ⊢
    obtain ⟨target, query, filter, assignments, columns, -⟩ := hs
    exact ⟨target, query, filter, assignments, columns, List.not_mem_nil, .inl rfl⟩
  · simp only [Clauses.mem_exprs, Clauses.setSource] at he ⊢
    grind
  · obtain rfl := Option.mem_some_iff.mp ht
    exact .inr ⟨source.isSelect, h⟩

end Insert

theorem Insert.Buildable.regular {q : Insert} (h : q.Buildable) : q.statement.Regular := by
  induction h with
  | insertInto table =>
    refine .intro ⟨⟨table, rfl⟩, ?_, rfl, rfl, ?_, List.not_mem_nil, .inl rfl⟩
      (fun e he => nomatch he) (fun t ht => nomatch ht) fun t ht => nomatch ht
    · exact ⟨rfl, rfl, rfl, rfl, rfl, rfl, rfl⟩
    · exact nofun
  | columns _ h ih => exact Insert.regular_of_columns ih h
  | values _ hr h ih => exact Insert.regular_of_values ih (fun e he => (hr e he).regular) h
  | fromSelect _ h ih => exact Insert.regular_fromSelect ih h.regular
  | @returning q names _ ih => exact ih.setReturning names (by rw [q.isInsert]; decide)

theorem Update.eq_of_set {q q' : Update} {column : String} {value : Expr}
    (h : q.set column value = .ok q') :
    checkName .setColumn column = .ok () ∧
      q' = q.withClauses (q.statement.clauses.assign column value) := by
  obtain ⟨passes, h⟩ := andThen_eq_ok_iff.mp h
  exact ⟨passes, (Except.ok.inj h).symm⟩

theorem Update.regular_of_set {q q' : Update} {column : String} {value : Expr}
    (hq : q.statement.Regular) (hv : value.Regular) (h : q.set column value = .ok q') :
    q'.statement.Regular := by
  obtain ⟨-, rfl⟩ := eq_of_set h
  refine hq.withClauses (fun hs => ?_) (fun e he => ?_) fun _ ht => .inl ht
  · rw [q.isUpdate] at hs ⊢
    exact hs
  · rcases Clauses.mem_exprs_assign he with h' | rfl
    · exact .inl h'
    · exact .inr hv

theorem Update.Buildable.regular {q : Update} (h : q.Buildable) : q.statement.Regular := by
  induction h with
  | update table =>
    exact .intro ⟨⟨table, rfl⟩, ⟨rfl, rfl, rfl, rfl, rfl, rfl, rfl⟩, rfl, rfl, rfl⟩
      (fun e he => nomatch he) (fun t ht => nomatch ht) fun t ht => nomatch ht
  | set _ hv h ih => exact Update.regular_of_set ih hv.regular h
  | @filter q _ _ hc ih => exact ih.setFilter hc.regular (by rw [q.isUpdate]; decide)
  | @andFilter q _ _ hc ih => exact ih.andFilter hc.regular (by rw [q.isUpdate]; decide)
  | @returning q names _ ih => exact ih.setReturning names (by rw [q.isUpdate]; decide)

theorem Delete.Buildable.regular {q : Delete} (h : q.Buildable) : q.statement.Regular := by
  induction h with
  | deleteFrom table =>
    exact .intro ⟨⟨table, rfl⟩, ⟨rfl, rfl, rfl, rfl, rfl, rfl, rfl⟩, rfl, rfl, rfl, rfl⟩
      (fun e he => nomatch he) (fun t ht => nomatch ht) fun t ht => nomatch ht
  | @filter q _ _ hc ih => exact ih.setFilter hc.regular (by rw [q.isDelete]; decide)
  | @andFilter q _ _ hc ih => exact ih.andFilter hc.regular (by rw [q.isDelete]; decide)
  | @returning q names _ ih => exact ih.setReturning names (by rw [q.isDelete]; decide)

/-! ### Statements of unknown kind -/

namespace Statement

variable {s s' : Statement}

/-- An allowed operation gives what it gives; any other is refused. -/
theorem eq_of_require {α : Type} {allowed : List StatementKind} {operation : String}
    {k : SqlResult α} {a : α} (h : (do s.require allowed operation; k) = Except.ok a) :
    s.kind ∈ allowed ∧ k = .ok a := by
  obtain ⟨passes, h⟩ := andThen_eq_ok_iff.mp h
  exact ⟨require_eq_ok_iff.mp passes, h⟩

theorem eq_of_filter {condition : Typed .bool} (h : s.filter condition = .ok s') :
    s.kind ≠ .insert ∧ s' = s.mapClauses (·.setFilter condition) := by
  obtain ⟨hk, h⟩ := eq_of_require h
  exact ⟨fun he => by rw [he] at hk; revert hk; decide, (Except.ok.inj h).symm⟩

theorem eq_of_andFilter {condition : Typed .bool} (h : s.andFilter condition = .ok s') :
    s.kind ≠ .insert ∧ s' = s.mapClauses (·.andFilter condition) := by
  obtain ⟨hk, h⟩ := eq_of_require h
  exact ⟨fun he => by rw [he] at hk; revert hk; decide, (Except.ok.inj h).symm⟩

def asSelect (s : Statement) (h : s.kind ∈ [StatementKind.select]) : Select s.resultType :=
  ⟨s, List.mem_singleton.mp h, rfl⟩

theorem eq_of_countClause {clause : String} {n : Int64} {f : Nat → ClauseSet → ClauseSet}
    (h : (do let n ← nonNegative clause n; return s.mapClauses (f n)) = Except.ok s') :
    ∃ k, s' = s.mapClauses (f k) := by
  obtain ⟨k, -, h⟩ := bind_eq_ok_iff.mp h
  exact ⟨k, (Except.ok.inj h).symm⟩

theorem Buildable.regular {s : Statement} (h : s.Buildable) : s.Regular := by
  induction h with
  | select h => exact h.regular
  | insert h => exact h.regular
  | update h => exact h.regular
  | delete h => exact h.regular
  | filter _ hc h ih =>
    obtain ⟨hk, rfl⟩ := eq_of_filter h
    exact ih.setFilter hc.regular hk
  | andFilter _ hc h ih =>
    obtain ⟨hk, rfl⟩ := eq_of_andFilter h
    exact ih.andFilter hc.regular hk
  | @project s _ exprs _ he h ih =>
    obtain ⟨hk, h⟩ := eq_of_require h
    obtain rfl := Except.ok.inj h
    exact Select.regular_withProjection (q := s.asSelect hk) ih fun e hm => (he e hm).regular
  | @join s _ _ _ _ _ ho h ih =>
    obtain ⟨hk, h⟩ := eq_of_require h
    obtain rfl := Except.ok.inj h
    exact Select.regular_join (q := s.asSelect hk) ih ho.regular
  | @groupBy s _ _ _ he h ih =>
    obtain ⟨hk, h⟩ := eq_of_require h
    obtain rfl := Except.ok.inj h
    exact Select.regular_groupBy (q := s.asSelect hk) ih fun e hm => (he e hm).regular
  | @having s _ _ _ hc h ih =>
    obtain ⟨hk, h⟩ := eq_of_require h
    obtain rfl := Except.ok.inj h
    exact Select.regular_having (q := s.asSelect hk) ih hc.regular
  | @orderBy s _ _ _ _ he h ih =>
    obtain ⟨hk, h⟩ := eq_of_require h
    obtain rfl := Except.ok.inj h
    exact Select.regular_orderBy (q := s.asSelect hk) ih he.regular
  | @limit s _ n _ h ih =>
    obtain ⟨hk, h⟩ := eq_of_require h
    obtain ⟨k, rfl⟩ := eq_of_countClause (f := fun n c => { c with limit := some n }) h
    exact Select.regular_mapClauses (q := s.asSelect hk) ih
      (fun c => { c with limit := some k }) id (fun _ he => .inl he) rfl
  | @offset s _ n _ h ih =>
    obtain ⟨hk, h⟩ := eq_of_require h
    obtain ⟨k, rfl⟩ := eq_of_countClause (f := fun n c => { c with offset := some n }) h
    exact Select.regular_mapClauses (q := s.asSelect hk) ih
      (fun c => { c with offset := some k }) id (fun _ he => .inl he) rfl

end Statement

end TypedSql
