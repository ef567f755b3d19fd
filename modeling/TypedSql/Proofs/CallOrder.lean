import TypedSql.Proofs.Purity

/-!
The order of calls on a query. A call changes one clause and looks at no other, so what a clause
comes to depends on the calls that touch it and on no others: sequences of calls that agree clause
by clause make the same query.
-/

namespace TypedSql

/-- A query with rows of any type. -/
abbrev Query := Sigma Select

/-- A call on a query that sets a clause or adds to it. A count of rows is not negative. -/
inductive QueryCall where
  | fromTable (table : Table)
  | join (kind : JoinKind) (table : Table) (on : Typed .bool)
  | filter (condition : Typed .bool)
  | andFilter (condition : Typed .bool)
  | groupBy (exprs : List Expr)
  | having (condition : Typed .bool)
  | orderBy (expr : Expr) (direction : Direction)
  | limit (n : Int64) (nonNegative : 0 ≤ n.toInt)
  | offset (n : Int64) (nonNegative : 0 ≤ n.toInt)
  | project {t : SqlType} (e : Typed t)
  | projectMany (exprs : List Expr)

namespace QueryCall

def clause : QueryCall → Clause
  | fromTable _ => .table
  | join _ _ _ => .joins
  | filter _ | andFilter _ => .filter
  | groupBy _ => .groupBy
  | having _ => .having
  | orderBy _ _ => .orderBy
  | limit _ _ => .limit
  | offset _ _ => .offset
  | project _ | projectMany _ => .projection

def apply (q : Query) : QueryCall → SqlResult Query
  | fromTable table => .ok ⟨q.1, q.2.fromTable table⟩
  | join kind table on => .ok ⟨q.1, q.2.join kind table on⟩
  | filter condition => .ok ⟨q.1, q.2.filter condition⟩
  | andFilter condition => .ok ⟨q.1, q.2.andFilter condition⟩
  | groupBy exprs => .ok ⟨q.1, q.2.groupBy exprs⟩
  | having condition => .ok ⟨q.1, q.2.having condition⟩
  | orderBy expr direction => .ok ⟨q.1, q.2.orderBy expr direction⟩
  | limit n _ => (q.2.limit n).map (⟨q.1, ·⟩)
  | offset n _ => (q.2.offset n).map (⟨q.1, ·⟩)
  | @project t e => .ok ⟨t, q.2.project e⟩
  | projectMany exprs => .ok ⟨.record, q.2.projectMany exprs⟩

end QueryCall

namespace Query

/-- Calls one after the other, up to the first that fails. -/
def run (q : Query) (calls : List QueryCall) : SqlResult Query :=
  calls.foldlM QueryCall.apply q

/-- Whether two queries have the same in a clause. The type of the rows goes with the columns. -/
def Agree (p q : Query) (clause : Clause) : Prop :=
  p.2.statement.clauses.Agree q.2.statement.clauses clause ∧ (clause = .projection → p.1 = q.1)

theorem Agree.refl (q : Query) (clause : Clause) : q.Agree q clause :=
  ⟨by cases clause <;> rfl, fun _ => rfl⟩

theorem Agree.trans {p q r : Query} {clause : Clause} (h : p.Agree q clause)
    (h' : q.Agree r clause) : p.Agree r clause :=
  ⟨by cases clause <;> exact h.1.trans h'.1, fun hc => (h.2 hc).trans (h'.2 hc)⟩

theorem Agree.symm {p q : Query} {clause : Clause} (h : p.Agree q clause) : q.Agree p clause :=
  ⟨by cases clause <;> exact h.1.symm, fun hc => (h.2 hc).symm⟩

/-- Queries that have the same in all clauses are the same. -/
theorem eq_of_agree {p q : Query} (h : ∀ clause, p.Agree q clause) : p = q := by
  obtain ⟨row, ⟨⟨kind, resultType, c⟩, isSelect, hasRowType⟩⟩ := p
  obtain ⟨row', ⟨⟨kind', resultType', d⟩, isSelect', hasRowType'⟩⟩ := q
  obtain rfl : kind = .select := isSelect
  obtain rfl : kind' = .select := isSelect'
  obtain rfl : resultType = row := hasRowType
  obtain rfl : resultType' = row' := hasRowType'
  obtain rfl : resultType = resultType' := (h .projection).2 rfl
  have clauses : c = d := by
    cases c
    cases d
    simp only [Clauses.mk.injEq]
    exact ⟨(h .table).1, (h .projection).1, (h .joins).1, (h .filter).1, (h .groupBy).1,
      (h .having).1, (h .orderBy).1, (h .limit).1, (h .offset).1, (h .columns).1, (h .rows).1,
      (h .source).1, (h .assignments).1, (h .returning).1⟩
  subst clauses
  rfl

end Query

/-! ### One call -/

namespace QueryCall

variable {p q p' q' : Query} {call : QueryCall}

theorem apply_limit {n : Int64} (h : 0 ≤ n.toInt) : apply q (limit n h) =
    .ok ⟨q.1, q.2.mapClauses fun c => { c with limit := some n.toInt.toNat }⟩ := by
  show (q.2.limit n).map _ = _
  rw [Select.limit, nonNegative_eq_ok h]
  rfl

theorem apply_offset {n : Int64} (h : 0 ≤ n.toInt) : apply q (offset n h) =
    .ok ⟨q.1, q.2.mapClauses fun c => { c with offset := some n.toInt.toNat }⟩ := by
  show (q.2.offset n).map _ = _
  rw [Select.offset, nonNegative_eq_ok h]
  rfl

theorem exists_apply (call : QueryCall) (q : Query) : ∃ q', apply q call = .ok q' := by
  cases call with
  | limit n h => exact ⟨_, apply_limit h⟩
  | offset n h => exact ⟨_, apply_offset h⟩
  | _ => exact ⟨_, rfl⟩

/-- A call leaves all clauses but its own as they are. -/
theorem agree_of_ne {clause : Clause} (h : apply q call = .ok q') (hc : clause ≠ call.clause) :
    q'.Agree q clause := by
  cases call with
  | limit n hn =>
    rw [apply_limit] at h
    cases h
    exact ⟨by cases clause <;> first | rfl | exact absurd rfl hc, fun _ => rfl⟩
  | offset n hn =>
    rw [apply_offset] at h
    cases h
    exact ⟨by cases clause <;> first | rfl | exact absurd rfl hc, fun _ => rfl⟩
  | project | projectMany =>
    cases h
    exact ⟨by cases clause <;> first | rfl | exact absurd rfl hc, fun hp => absurd hp hc⟩
  | _ =>
    cases h
    exact ⟨by cases clause <;> first | rfl | exact absurd rfl hc, fun _ => rfl⟩

/-- What a call makes of its own clause depends on that clause only. -/
theorem agree_of_agree (h : apply p call = .ok p') (h' : apply q call = .ok q')
    (ha : p.Agree q call.clause) : p'.Agree q' call.clause := by
  obtain ⟨own, -⟩ := ha
  cases call with
  | limit n hn =>
    rw [apply_limit] at h h'
    cases h
    cases h'
    exact ⟨rfl, nofun⟩
  | offset n hn =>
    rw [apply_offset] at h h'
    cases h
    cases h'
    exact ⟨rfl, nofun⟩
  | fromTable | filter | having =>
    cases h
    cases h'
    exact ⟨rfl, nofun⟩
  | project | projectMany =>
    cases h
    cases h'
    exact ⟨rfl, fun _ => rfl⟩
  | join | groupBy | orderBy =>
    cases h
    cases h'
    exact ⟨congrArg (· ++ _) own, nofun⟩
  | andFilter condition =>
    cases h
    cases h'
    have filters : p.2.statement.clauses.filter = q.2.statement.clauses.filter := own
    refine ⟨?_, nofun⟩
    show (p.2.statement.clauses.andFilter condition).filter =
      (q.2.statement.clauses.andFilter condition).filter
    rw [Clauses.andFilter, Clauses.andFilter, filters]

end QueryCall

/-! ### Many calls -/

namespace Query

theorem exists_run (q : Query) (calls : List QueryCall) : ∃ q', q.run calls = .ok q' := by
  induction calls generalizing q with
  | nil => exact ⟨q, rfl⟩
  | cons call calls ih =>
    obtain ⟨next, h⟩ := call.exists_apply q
    obtain ⟨q', hq⟩ := ih next
    exact ⟨q', bind_eq_ok_iff.mpr ⟨next, h, hq⟩⟩

/-- For one clause it makes no difference if the calls for the others are left out. -/
theorem agree_run_filter {p q p' q' : Query} {calls : List QueryCall} {clause : Clause}
    (ha : p.Agree q clause) (h : p.run calls = .ok p')
    (h' : q.run (calls.filter (·.clause = clause)) = .ok q') : p'.Agree q' clause := by
  induction calls generalizing p q with
  | nil =>
    cases h
    cases h'
    exact ha
  | cons call calls ih =>
    obtain ⟨p₁, hp, h⟩ := bind_eq_ok_iff.mp h
    by_cases hc : call.clause = clause
    · rw [List.filter_cons_of_pos (by simpa using hc)] at h'
      obtain ⟨q₁, hq, h'⟩ := bind_eq_ok_iff.mp h'
      subst hc
      exact ih (QueryCall.agree_of_agree hp hq ha) h h'
    · rw [List.filter_cons_of_neg (by simpa using hc)] at h'
      exact ih ((QueryCall.agree_of_ne hp (Ne.symm hc)).trans ha) h h'

/-- Two sequences of calls that have the same calls for each clause, in the same order, make the
same query of a given one, with the same rows and the same SQL, however they mix the clauses. -/
theorem run_eq_of_filter_eq (q : Query) {calls calls' : List QueryCall}
    (h : ∀ clause, calls.filter (·.clause = clause) = calls'.filter (·.clause = clause)) :
    ∃ q', q.run calls = .ok q' ∧ q.run calls' = .ok q' := by
  obtain ⟨made, hm⟩ := q.exists_run calls
  obtain ⟨made', hm'⟩ := q.exists_run calls'
  have same : made = made' := by
    refine eq_of_agree fun clause => ?_
    obtain ⟨part, hp⟩ := q.exists_run (calls.filter (·.clause = clause))
    have hp' := hp
    rw [h clause] at hp'
    have left := agree_run_filter (Agree.refl q clause) hm hp
    have right := agree_run_filter (Agree.refl q clause) hm' hp'
    exact left.trans right.symm
  exact ⟨made, hm, same ▸ hm'⟩

/-- Two conditions keep their order; the table, the columns and the limit come before, between or
behind them. -/
theorem run_eq_of_filter_eq_conditions :
    let id := Typed.column .int "users" "id"
    let users := QueryCall.fromTable ⟨"users", none⟩
    let known := QueryCall.filter id.isNotNull
    let many := QueryCall.andFilter (id.gt (.literal .int (.int 9)))
    let five := QueryCall.limit 5 (by decide)
    let calls := [users, known, many, .project id, five]
    let calls' := [five, .project id, known, users, many]
    (∀ clause, calls.filter (·.clause = clause) = calls'.filter (·.clause = clause)) ∧
      ∃ q', Query.run ⟨_, select⟩ calls = .ok q' ∧ Query.run ⟨_, select⟩ calls' = .ok q' ∧
        q'.1 = .int ∧ q'.2.statement.toSql =
          "SELECT users.id FROM users WHERE ((users.id IS NOT NULL) AND (users.id > 9)) LIMIT 5" := by
  intro id users known many five calls calls'
  have same : ∀ clause, calls.filter (·.clause = clause) = calls'.filter (·.clause = clause) := by
    intro clause
    cases clause <;> rfl
  obtain ⟨q', h, h'⟩ := run_eq_of_filter_eq ⟨_, select⟩ same
  refine ⟨same, q', h, h', ?_⟩
  cases h
  exact ⟨rfl, by decide +kernel⟩

end Query

end TypedSql
