import TypedSql.Proofs.Regular

/-!
The rules of types that trees keep to, and the proof that all trees that can be built do. What
makes it more than a matter of one constructor is the bare `NULL`: it is of a type of its own, fits
everywhere, and may be the operand of an operator that was declared for numbers.
-/

namespace TypedSql

/-! ### Rules -/

namespace SqlType

/-- The numeric types, each narrower than those behind it. -/
def numbers : List SqlType := [.smallInt, .int, .bigInt, .decimal, .double]

/-- The types that name a day. -/
def days : List SqlType := [.date, .timestamp, .timestampTz]

/-- Both types are numeric, and the first has its place in front of the other. -/
def IsNarrower (t u : SqlType) : Prop :=
  [t, u].Sublist numbers

/-- Values of the two types may be compared: the types are the same, one is that of a bare `NULL`,
both are numeric, or both name a day. -/
def MayMeet (left right : SqlType) : Prop :=
  left = right ∨ left = .null ∨ right = .null ∨ (left ∈ numbers ∧ right ∈ numbers) ∨
    (left ∈ days ∧ right ∈ days)

/-- The result of arithmetic has the type of the operand that is not narrower than the other. If
both operands are a bare `NULL`, it has their type or is a number. -/
def IsWidest (t left right : SqlType) : Prop :=
  if left = .null ∧ right = .null then t = .null ∨ t ∈ numbers
  else t ∈ numbers ∧ (t = left ∨ t = right) ∧ ¬ t.IsNarrower left ∧ ¬ t.IsNarrower right

instance (t u : SqlType) : Decidable (t.IsNarrower u) :=
  inferInstanceAs (Decidable ([t, u].Sublist numbers))

instance (t left right : SqlType) : Decidable (t.IsWidest left right) :=
  inferInstanceAs (Decidable (if left = .null ∧ right = .null then _ else _))

end SqlType

/-- Whether an operator may stand between operands of the given types and have a result of the
given type. -/
def Operator.Admits (left right result : SqlType) : Operator → Prop
  | .and | .or =>
    (left = .bool ∨ left = .null) ∧ (right = .bool ∨ right = .null) ∧ result = .bool
  | .like | .notLike =>
    (left = .text ∨ left = .null) ∧ (right = .text ∨ right = .null) ∧ result = .bool
  | .eq | .ne | .lt | .le | .gt | .ge | .isIn | .notIn =>
    left.MayMeet right ∧ result = .bool
  | .add | .sub | .mul | .div | .mod =>
    (left ∈ SqlType.numbers ∨ left = .null) ∧ (right ∈ SqlType.numbers ∨ right = .null) ∧
      result.IsWidest left right
  | .isNull | .isNotNull => False

/-- The expressions that stand in the clauses as conditions. -/
def Clauses.conditions {ε σ : Type} (c : Clauses ε σ) : List ε :=
  c.joins.map (·.on) ++ c.filter.toList ++ c.having.toList

mutual

/-- An expression that keeps to the rules at each of its nodes, those of the statements in it
included. Only a test for `NULL` is without a right operand, and it is a truth value. -/
inductive Expr.WellTyped : Expr → Prop
  | column (table column : String) (aliasName : Option String) (type : SqlType) :
      Expr.WellTyped (.column table column aliasName type)
  | literal {value : Value} {type : SqlType} :
      value = .null ∨ value.type = type → Expr.WellTyped (.literal value type)
  | unary {op : Operator} {operand : Expr} :
      op = .isNull ∨ op = .isNotNull → operand.WellTyped → Expr.WellTyped (.unary op operand)
  | binary {op : Operator} {left right : Expr} {type : SqlType} :
      op ≠ .isNull → op ≠ .isNotNull → op.Admits left.type right.type type →
      (op = .isIn ∨ op = .notIn → ∃ statement, right = .subquery statement right.type) →
      left.WellTyped → right.WellTyped → Expr.WellTyped (.binary op left right type)
  | call {function : String} {arguments : List Expr} {type : SqlType} :
      (∀ e ∈ arguments, e.WellTyped) → Expr.WellTyped (.call function arguments type)
  | caseWhen {branches : List (Expr × Expr)} {otherwise : Option Expr} {type : SqlType} :
      (∀ b ∈ branches, b.1.type = .bool ∨ b.1.type = .null) →
      (∀ b ∈ branches, b.2.type = type ∨ b.2.type = .null) →
      (∀ e ∈ otherwise, e.type = type ∨ e.type = .null) →
      (∀ b ∈ branches, b.1.WellTyped) → (∀ b ∈ branches, b.2.WellTyped) →
      (∀ e ∈ otherwise, e.WellTyped) → Expr.WellTyped (.caseWhen branches otherwise type)
  | subquery {statement : Statement} {type : SqlType} :
      statement.kind = .select → statement.resultType = type → statement.WellTyped →
      Expr.WellTyped (.subquery statement type)

/-- A statement whose conditions are truth values and whose parts keep to the rules. -/
inductive Statement.WellTyped : Statement → Prop
  | intro {s : Statement} :
      (∀ e ∈ s.clauses.conditions, e.type = .bool ∨ e.type = .null) →
      (∀ e ∈ s.clauses.exprs, e.WellTyped) → (∀ t ∈ s.clauses.source, t.kind = .select) →
      (∀ t ∈ s.clauses.source, t.WellTyped) → s.WellTyped

end

/-! ### Operators -/

namespace SqlType

variable {t left right : SqlType}

theorem isNumeric_iff : t.isNumeric = true ↔ t ∈ numbers := by
  cases t <;> decide

theorem isDatelike_iff : t.isDatelike = true ↔ t ∈ days := by
  cases t <;> decide

theorem comparable_iff : left.comparable right = true ↔ left.MayMeet right := by
  simp only [comparable, MayMeet, Bool.or_eq_true, Bool.and_eq_true, beq_iff_eq, isNumeric_iff,
    isDatelike_iff, or_assoc]

theorem isWidest_widen (hl : left ∈ numbers ∨ left = .null) (hr : right ∈ numbers ∨ right = .null) :
    (left.widen right).IsWidest left right := by
  revert hl hr
  cases left <;> cases right <;> decide

theorem isWidest_self (ht : t ∈ numbers) (hl : left = t ∨ left = .null)
    (hr : right = t ∨ right = .null) : t.IsWidest left right := by
  revert ht
  rcases hl with hl | hl <;> rcases hr with hr | hr <;> subst left right <;> cases t <;> decide

theorem mayMeet_of_fits (hl : left = t ∨ left = .null) (hr : right = t ∨ right = .null) :
    left.MayMeet right := by
  rcases hl with rfl | rfl
  · exact hr.elim (fun same => .inl same.symm) fun bare => .inr (.inr (.inl bare))
  · exact .inr (.inl rfl)

end SqlType

namespace Operator

variable {op : Operator} {t left right : SqlType}

theorem admits_of_isComparison (ho : op.isComparison = true) (h : left.MayMeet right) :
    op.Admits left right .bool := by
  cases op <;> first | cases ho; done | exact ⟨h, rfl⟩

theorem admits_of_isLogical (ho : op.isLogical = true) (hl : left = .bool ∨ left = .null)
    (hr : right = .bool ∨ right = .null) : op.Admits left right .bool := by
  cases op <;> first | cases ho; done | exact ⟨hl, hr, rfl⟩

theorem admits_of_isArithmetic (ho : op.isArithmetic = true)
    (hl : left ∈ SqlType.numbers ∨ left = .null) (hr : right ∈ SqlType.numbers ∨ right = .null)
    (h : t.IsWidest left right) : op.Admits left right t := by
  cases op <;> first | cases ho; done | exact ⟨hl, hr, h⟩

theorem ne_membership (h : op.isComparison = true ∨ op.isLogical = true ∨ op.isArithmetic = true) :
    op ≠ .isIn ∧ op ≠ .notIn := by
  revert h
  cases op <;> decide

theorem ne_test_of_admits (h : op.Admits left right t) : op ≠ .isNull ∧ op ≠ .isNotNull := by
  constructor <;> rintro rfl <;> exact h

theorem eq_of_isUnary (ho : op.isUnary = true) : op = .isNull ∨ op = .isNotNull := by
  cases op <;> first | cases ho; done | decide

end Operator

theorem Typed.mem_numbers_or_null {t : SqlType} (e : Typed t) (ht : t.isNumeric = true) :
    e.expr.type ∈ SqlType.numbers ∨ e.expr.type = .null :=
  e.fits.imp_left fun h => by rw [h, ← SqlType.isNumeric_iff, ht]

namespace Expr

/-- What the check of operands lets through, the rules admit. -/
theorem admits_of_resultType {op : Operator} {left right t : SqlType} (hu : op.isUnary = false)
    (h : resultType op left right = .ok t) : op.Admits left right t := by
  -- each operator asks for something of its operands and names a type of its result
  have asked {fits : Bool} {result : SqlType} {e : SqlError}
      (h : (if fits then Except.ok result else .error e) = .ok t) : fits = true ∧ result = t := by
    cases fits with
    | true => exact ⟨rfl, Except.ok.inj h⟩
    | false => cases h
  have both {test : SqlType → Bool} (h : (nullOr test left && nullOr test right) = true) :
      (test left = true ∨ left = .null) ∧ (test right = true ∨ right = .null) := by
    simpa [nullOr, or_comm] using h
  have isText {t : SqlType} (h : t.isTextual = true ∨ t = .null) : t = .text ∨ t = .null :=
    h.imp_left fun h => by cases t <;> first | rfl | cases h
  cases op with
  | isNull | isNotNull => cases hu
  | like | notLike =>
    obtain ⟨fit, rfl⟩ := asked h
    obtain ⟨hl, hr⟩ := both fit
    exact ⟨isText hl, isText hr, rfl⟩
  | and | or =>
    obtain ⟨fit, rfl⟩ := asked h
    obtain ⟨hl, hr⟩ := both fit
    exact ⟨hl.imp_left eq_of_beq, hr.imp_left eq_of_beq, rfl⟩
  | add | sub | mul | div | mod =>
    obtain ⟨fit, rfl⟩ := asked h
    obtain ⟨hl, hr⟩ := both fit
    rw [SqlType.isNumeric_iff] at hl hr
    exact ⟨hl, hr, SqlType.isWidest_widen hl hr⟩
  | eq | ne | lt | le | gt | ge | isIn | notIn =>
    obtain ⟨fit, rfl⟩ := asked h
    exact ⟨SqlType.comparable_iff.mp fit, rfl⟩

theorem eq_subquery {e : Expr} (h : e.isSubquery = true) :
    ∃ statement, e = .subquery statement e.type := by
  cases e with
  | subquery statement type => exact ⟨statement, rfl⟩
  | _ => cases h

theorem wellTyped_of_checked {l e : Expr} {op : Operator} {r : Option Expr} (hl : l.WellTyped)
    (hr : ∀ x ∈ r, x.WellTyped) (h : l.checked op r = .ok e) : e.WellTyped := by
  obtain ⟨hu, rfl⟩ | ⟨hu, right, hm, t, ht, hq, rfl⟩ := eq_of_checked h
  · exact .unary (Operator.eq_of_isUnary hu) hl
  · have admits := admits_of_resultType hu ht
    obtain ⟨noNull, noNotNull⟩ := Operator.ne_test_of_admits admits
    exact .binary noNull noNotNull admits (fun h => eq_subquery (hq h)) hl (hr right hm)

/-- A membership test in a query, whose rows have the type that is asked for. -/
theorem WellTyped.membership {t : SqlType} {e : Typed t} {q : Select t} {op : Operator}
    (ho : op = .isIn ∨ op = .notIn) (he : e.expr.WellTyped) (hq : q.asSubquery.expr.WellTyped) :
    (Typed.predicate op e q.asSubquery).expr.WellTyped := by
  have meet := SqlType.mayMeet_of_fits e.fits q.asSubquery.fits
  rcases ho with rfl | rfl
  · exact .binary nofun nofun ⟨meet, rfl⟩ (fun _ => ⟨_, rfl⟩) he hq
  · exact .binary nofun nofun ⟨meet, rfl⟩ (fun _ => ⟨_, rfl⟩) he hq

/-- An operator that is no membership test may have any operand on its right. -/
theorem WellTyped.operator {op : Operator} {left right : Expr} {t : SqlType}
    (hi : op ≠ .isIn ∧ op ≠ .notIn) (h : op.Admits left.type right.type t)
    (hl : left.WellTyped) (hr : right.WellTyped) : (Expr.binary op left right t).WellTyped :=
  have ⟨noNull, noNotNull⟩ := Operator.ne_test_of_admits h
  .binary noNull noNotNull h (fun h => absurd h (not_or.mpr hi)) hl hr

end Expr

/-! ### Clauses -/

/-- The parts of well-typed clauses, each in its place. -/
structure Clauses.WellTyped (c : ClauseSet) : Prop where
  projection : ∀ e ∈ c.projection, e.WellTyped
  joins : ∀ j ∈ c.joins, j.on.fits .bool ∧ j.on.WellTyped
  filter : ∀ e ∈ c.filter, e.fits .bool ∧ e.WellTyped
  groupBy : ∀ e ∈ c.groupBy, e.WellTyped
  having : ∀ e ∈ c.having, e.fits .bool ∧ e.WellTyped
  orderBy : ∀ o ∈ c.orderBy, o.expr.WellTyped
  rows : ∀ row ∈ c.rows, ∀ e ∈ row, e.WellTyped
  source : ∀ t ∈ c.source, t.kind = .select ∧ t.WellTyped
  assignments : ∀ a ∈ c.assignments, a.value.WellTyped

theorem Statement.wellTyped_iff {s : Statement} : s.WellTyped ↔ s.clauses.WellTyped := by
  have conditions {e : Expr} : e ∈ s.clauses.conditions ↔
      (∃ j ∈ s.clauses.joins, j.on = e) ∨ e ∈ s.clauses.filter ∨ e ∈ s.clauses.having := by
    simp [Clauses.conditions]
  constructor
  · rintro ⟨hc, he, hk, ht⟩
    simp only [conditions] at hc
    simp only [Clauses.mem_exprs] at he
    exact {
      projection := fun e h => he e (.inl h)
      joins := fun j h => ⟨hc _ (.inl ⟨j, h, rfl⟩), he _ (.inr (.inl ⟨j, h, rfl⟩))⟩
      filter := fun e h => ⟨hc e (.inr (.inl h)), he e (.inr (.inr (.inl h)))⟩
      groupBy := fun e h => he e (by grind)
      having := fun e h => ⟨hc e (.inr (.inr h)), he e (by grind)⟩
      orderBy := fun o h => he _ (by grind)
      rows := fun row hr e h => he e (by grind)
      source := fun t h => ⟨hk t h, ht t h⟩
      assignments := fun a h => he _ (by grind) }
  · intro h
    refine .intro (fun e he => ?_) (fun e he => ?_) (fun t ht => (h.source t ht).1)
      fun t ht => (h.source t ht).2
    · obtain ⟨j, hj, rfl⟩ | he | he := conditions.mp he
      · exact (h.joins j hj).1
      · exact (h.filter e he).1
      · exact (h.having e he).1
    · obtain he | ⟨j, hj, rfl⟩ | he | he | he | ⟨o, ho, rfl⟩ | ⟨r, hr, he⟩ | ⟨a, ha, rfl⟩ :=
        Clauses.mem_exprs.mp he
      · exact h.projection e he
      · exact (h.joins j hj).2
      · exact (h.filter e he).2
      · exact h.groupBy e he
      · exact (h.having e he).2
      · exact h.orderBy o ho
      · exact h.rows r hr e he
      · exact h.assignments a ha

namespace Clauses.WellTyped

variable {c : ClauseSet} {condition : Typed .bool}

theorem bare (table : Option Table) : Clauses.WellTyped { table } := by
  constructor <;> exact nofun

theorem setFilter (h : c.WellTyped) (hc : condition.expr.WellTyped) :
    (c.setFilter condition).WellTyped :=
  { h with
    filter := fun _ he => Option.mem_some_iff.mp he ▸ ⟨condition.fits, hc⟩ }

/-- Conditions fit where truth values are asked for, so that they may stand under an `AND`. -/
theorem andFilter (h : c.WellTyped) (hc : condition.expr.WellTyped) :
    (c.andFilter condition).WellTyped := by
  refine { h with filter := fun e he => ?_ }
  cases hf : c.filter with
  | none =>
    simp only [Clauses.andFilter, hf, Option.mem_some_iff] at he
    exact he ▸ ⟨condition.fits, hc⟩
  | some existing =>
    simp only [Clauses.andFilter, hf, Option.mem_some_iff] at he
    obtain ⟨fits, typed⟩ := h.filter existing hf
    exact he ▸ ⟨.inl rfl, .operator (by decide) ⟨fits, condition.fits, rfl⟩ typed hc⟩

theorem addJoin (h : c.WellTyped) (kind : JoinKind) (table : Table)
    (hc : condition.expr.WellTyped) : (c.addJoin kind table condition).WellTyped :=
  { h with
    joins := by
      simp only [Clauses.addJoin, List.forall_mem_append, List.forall_mem_singleton]
      exact ⟨h.joins, condition.fits, hc⟩ }

theorem addGroups {exprs : List Expr} (h : c.WellTyped) (he : ∀ e ∈ exprs, e.WellTyped) :
    (c.addGroups exprs).WellTyped :=
  { h with groupBy := List.forall_mem_append.mpr ⟨h.groupBy, he⟩ }

theorem setHaving (h : c.WellTyped) (hc : condition.expr.WellTyped) :
    (c.setHaving condition).WellTyped :=
  { h with
    having := fun _ he => Option.mem_some_iff.mp he ▸ ⟨condition.fits, hc⟩ }

theorem addOrder {item : OrderItem Expr} (h : c.WellTyped) (hi : item.expr.WellTyped) :
    (c.addOrder item).WellTyped :=
  { h with
    orderBy := by
      simp only [Clauses.addOrder, List.forall_mem_append, List.forall_mem_singleton]
      exact ⟨h.orderBy, hi⟩ }

theorem withRow {row : List Expr} (h : c.WellTyped) (hr : ∀ e ∈ row, e.WellTyped) :
    Clauses.WellTyped { c with source := none, rows := c.rows ++ [row] } :=
  { h with
    source := nofun
    rows := by
      simp only [List.forall_mem_append, List.forall_mem_singleton]
      exact ⟨h.rows, hr⟩ }

theorem setSource {s : Statement} (h : c.WellTyped) (hk : s.kind = .select)
    (hs : s.clauses.WellTyped) : (c.setSource s).WellTyped :=
  { h with
    source := fun _ ht => Option.mem_some_iff.mp ht ▸ ⟨hk, Statement.wellTyped_iff.mpr hs⟩
    rows := nofun }

theorem assign {column : String} {value : Expr} (h : c.WellTyped) (hv : value.WellTyped) :
    (c.assign column value).WellTyped :=
  { h with
    assignments := fun a ha => by
      rcases Clauses.mem_assignIn ha with rfl | ha
      · exact hv
      · exact h.assignments a ha }

end Clauses.WellTyped

/-! ### From the builders -/

theorem Select.wellTyped_asSubquery {row : SqlType} {q : Select row}
    (h : q.statement.clauses.WellTyped) : q.asSubquery.expr.WellTyped :=
  .subquery q.isSelect q.hasRowType (Statement.wellTyped_iff.mpr h)

theorem Value.eq_null_or_type {v : Value} {t : SqlType} (h : v.type = t ∨ v.type = .null) :
    v = .null ∨ v.type = t :=
  h.symm.imp_left v.type_eq_null_iff.mp

mutual

theorem Expr.Buildable.wellTyped {e : Expr} : e.Buildable → e.WellTyped
  | .column .. => .column ..
  | .columnAs .. => .column ..
  | .literal _ _ fits => .literal (Value.eq_null_or_type fits)
  | .ofValue _ => .literal (.inr rfl)
  | .call ha h => by
    obtain ⟨-, rfl⟩ := Typed.call_eq_ok h
    exact .call fun e he => (ha e he).wellTyped
  | .countAll => .call fun e he => by
    rw [List.mem_singleton] at he
    exact he ▸ .literal (.inr rfl)
  | .count h | .sum _ h | .avg _ h | .min h | .max h | .not h => .call fun e he => by
    rw [List.mem_singleton] at he
    exact he ▸ h.wellTyped
  | .isNull h => .unary (.inl rfl) h.wellTyped
  | .isNotNull h => .unary (.inr rfl) h.wellTyped
  | .comparison (l := l) (r := r) ho hl hr =>
    .operator (Operator.ne_membership (.inl ho))
      (Operator.admits_of_isComparison ho (SqlType.mayMeet_of_fits l.fits r.fits))
      hl.wellTyped hr.wellTyped
  | .logical (l := l) (r := r) ho hl hr =>
    .operator (Operator.ne_membership (.inr (.inl ho)))
      (Operator.admits_of_isLogical ho l.fits r.fits) hl.wellTyped hr.wellTyped
  | .like (l := l) (r := r) hl hr | .notLike (l := l) (r := r) hl hr =>
    .operator (by decide) ⟨l.fits, r.fits, rfl⟩ hl.wellTyped hr.wellTyped
  | .arithmetic (l := l) (r := r) ht ho hl hr =>
    .operator (Operator.ne_membership (.inr (.inr ho)))
      (Operator.admits_of_isArithmetic ho (l.mem_numbers_or_null ht) (r.mem_numbers_or_null ht)
        (SqlType.isWidest_self (SqlType.isNumeric_iff.mp ht) l.fits r.fits))
      hl.wellTyped hr.wellTyped
  | .caseWhen hc hr ho => by
    refine .caseWhen (fun b hb => ?_) (fun b hb => ?_) (fun e he => ?_) (fun b hb => ?_)
      (fun b hb => ?_) (fun e he => ?_)
    · obtain ⟨b, -, rfl⟩ := List.mem_map.mp hb
      exact b.1.fits
    · obtain ⟨b, -, rfl⟩ := List.mem_map.mp hb
      exact b.2.fits
    · obtain ⟨e, -, rfl⟩ := Option.map_eq_some_iff.mp he
      exact e.fits
    · obtain ⟨b, hm, rfl⟩ := List.mem_map.mp hb
      exact (hc b hm).wellTyped
    · obtain ⟨b, hm, rfl⟩ := List.mem_map.mp hb
      exact (hr b hm).wellTyped
    · obtain ⟨e, hm, rfl⟩ := Option.map_eq_some_iff.mp he
      exact (ho e hm).wellTyped
  | .checked hl hr h =>
    Expr.wellTyped_of_checked hl.wellTyped (fun x hx => (hr x hx).wellTyped) h
  | .compare hl hr h =>
    Expr.wellTyped_of_checked hl.wellTyped
      (fun x hx => Option.mem_some_iff.mp hx ▸ hr.wellTyped) (Expr.checked_of_compare h)
  | .subquery h => Select.wellTyped_asSubquery h.wellTyped
  | .inSubquery he h =>
    .membership (.inl rfl) he.wellTyped (Select.wellTyped_asSubquery h.wellTyped)
  | .notInSubquery he h =>
    .membership (.inr rfl) he.wellTyped (Select.wellTyped_asSubquery h.wellTyped)

theorem Select.Buildable.wellTyped {row : SqlType} {q : Select row} :
    q.Buildable → q.statement.clauses.WellTyped
  | .selectAs row => .bare none
  | .fromTable table h => { h.wellTyped with }
  | .join kind table h ho => h.wellTyped.addJoin kind table ho.wellTyped
  | .filter h hc => h.wellTyped.setFilter hc.wellTyped
  | .andFilter h hc => h.wellTyped.andFilter hc.wellTyped
  | .groupBy h hg => h.wellTyped.addGroups fun e he => (hg e he).wellTyped
  | .having h hc => h.wellTyped.setHaving hc.wellTyped
  | .orderBy _ h ho => h.wellTyped.addOrder ho.wellTyped
  | .limit h hl => by
    obtain ⟨k, rfl⟩ := Select.eq_of_limit hl
    exact { h.wellTyped with }
  | .offset h ho => by
    obtain ⟨k, rfl⟩ := Select.eq_of_offset ho
    exact { h.wellTyped with }
  | .paginate h hp => by
    obtain ⟨q₁, n, hl, ho⟩ := Select.steps_of_paginate hp
    obtain ⟨k, rfl⟩ := Select.eq_of_limit hl
    obtain ⟨k', rfl⟩ := Select.eq_of_offset ho
    exact { h.wellTyped with }
  | .project h he =>
    { h.wellTyped with projection := List.forall_mem_singleton.mpr he.wellTyped }
  | .projectMany h he => { h.wellTyped with projection := fun e hm => (he e hm).wellTyped }

end

theorem Insert.Buildable.wellTyped {q : Insert} (h : q.Buildable) :
    q.statement.clauses.WellTyped := by
  induction h with
  | insertInto table => exact .bare _
  | columns _ h ih =>
    obtain ⟨c, hc, rfl⟩ := Insert.eq_of_columns h
    obtain ⟨-, rfl⟩ := Clauses.setColumns_eq_ok_iff.mp hc
    exact { ih with }
  | values _ hr h ih =>
    obtain ⟨c, hc, rfl⟩ := Insert.eq_of_values h
    obtain ⟨-, rfl⟩ := Clauses.pushRow_eq_ok_iff.mp hc
    exact ih.withRow fun e he => (hr e he).wellTyped
  | @fromSelect _ _ source _ h ih => exact ih.setSource source.isSelect h.wellTyped
  | returning _ _ ih => exact { ih with }

theorem Update.Buildable.wellTyped {q : Update} (h : q.Buildable) :
    q.statement.clauses.WellTyped := by
  induction h with
  | update table => exact .bare _
  | set _ hv h ih =>
    obtain ⟨-, rfl⟩ := Update.eq_of_set h
    exact ih.assign hv.wellTyped
  | filter _ hc ih => exact ih.setFilter hc.wellTyped
  | andFilter _ hc ih => exact ih.andFilter hc.wellTyped
  | returning _ _ ih => exact { ih with }

theorem Delete.Buildable.wellTyped {q : Delete} (h : q.Buildable) :
    q.statement.clauses.WellTyped := by
  induction h with
  | deleteFrom table => exact .bare _
  | filter _ hc ih => exact ih.setFilter hc.wellTyped
  | andFilter _ hc ih => exact ih.andFilter hc.wellTyped
  | returning _ _ ih => exact { ih with }

theorem Statement.Buildable.wellTyped {s : Statement} (h : s.Buildable) :
    s.clauses.WellTyped := by
  induction h with
  | select h => exact h.wellTyped
  | insert h => exact h.wellTyped
  | update h => exact h.wellTyped
  | delete h => exact h.wellTyped
  | filter _ hc h ih =>
    obtain ⟨-, rfl⟩ := eq_of_filter h
    exact ih.setFilter hc.wellTyped
  | andFilter _ hc h ih =>
    obtain ⟨-, rfl⟩ := eq_of_andFilter h
    exact ih.andFilter hc.wellTyped
  | project _ he h ih =>
    obtain ⟨-, h⟩ := eq_of_require h
    obtain rfl := Except.ok.inj h
    exact { ih with projection := fun e hm => (he e hm).wellTyped }
  | join _ ho h ih =>
    obtain ⟨-, h⟩ := eq_of_require h
    obtain rfl := Except.ok.inj h
    exact ih.addJoin _ _ ho.wellTyped
  | groupBy _ he h ih =>
    obtain ⟨-, h⟩ := eq_of_require h
    obtain rfl := Except.ok.inj h
    exact ih.addGroups fun e hm => (he e hm).wellTyped
  | having _ hc h ih =>
    obtain ⟨-, h⟩ := eq_of_require h
    obtain rfl := Except.ok.inj h
    exact ih.setHaving hc.wellTyped
  | orderBy _ he h ih =>
    obtain ⟨-, h⟩ := eq_of_require h
    obtain rfl := Except.ok.inj h
    exact ih.addOrder he.wellTyped
  | limit _ h ih =>
    obtain ⟨-, h⟩ := eq_of_require h
    obtain ⟨k, rfl⟩ := eq_of_countClause (f := fun n c => { c with limit := some n }) h
    exact { ih with }
  | offset _ h ih =>
    obtain ⟨-, h⟩ := eq_of_require h
    obtain ⟨k, rfl⟩ := eq_of_countClause (f := fun n c => { c with offset := some n }) h
    exact { ih with }

/-- Everything that can be built keeps to the rules of types, at each node and in each nested
statement. -/
theorem wellTyped_of_buildable : (∀ e : Expr, e.Buildable → e.WellTyped) ∧
    ∀ s : Statement, s.Buildable → s.WellTyped :=
  ⟨fun _ h => h.wellTyped, fun _ h => Statement.wellTyped_iff.mpr h.wellTyped⟩

/-- The sum of two bare `NULL`s is a number when they are taken for numbers first, and of their own
type when their types are looked at; the two may be compared. Of numbers of two types the wider one
decides, on whichever side it stands; a number of 32 bits counts for one of 64 where it is taken for
one. -/
theorem wellTyped_of_buildable_nulls :
    let absent := Expr.ofValue .null
    let column (type : SqlType) := (Typed.column type "orders" "total").expr
    ∃ (taken three : Typed .bigInt) (looked wide wider : Expr) (sums products : Typed .bool),
      absent.as .bigInt = .ok taken ∧ absent.checked .add (some absent) = .ok looked ∧
      looked.compare .lt (taken.plus taken).expr = .ok sums.expr ∧
      Typed.ofPlain? .bigInt (.int 3) = some three ∧
      (column .decimal).checked .mul (some three.expr) = .ok wide ∧
      (column .smallInt).checked .div (some (column .double)) = .ok wider ∧
      wide.compare .ge wider = .ok products.expr ∧
      [looked.type, (taken.plus taken).expr.type, three.expr.type, wide.type, wider.type] =
        [.null, .bigInt, .bigInt, .decimal, .double] ∧
      sums.expr.WellTyped ∧ products.expr.WellTyped ∧
      ((select.filter sums).andFilter products).statement.WellTyped := by
  intro absent column
  have null : absent.Buildable := .ofValue .null
  have operand (type : SqlType) : (column type).Buildable := .column type _ _
  have checked {l r e : Expr} (op : Operator) (hl : l.Buildable) (hr : r.Buildable)
      (h : l.checked op (some r) = .ok e) : e.Buildable :=
    .checked hl (fun _ hx => Option.mem_some_iff.mp hx ▸ hr) h
  have looked : (Expr.binary .add absent absent .null).Buildable := checked .add null null rfl
  have taken : (Typed.plus (t := .bigInt) ⟨absent, .inr rfl⟩ ⟨absent, .inr rfl⟩).expr.Buildable :=
    .arithmetic rfl rfl null null
  have three : (Typed.literal .bigInt (.bigInt 3)).expr.Buildable :=
    Typed.buildable_ofPlain (v := .int 3) rfl
  have wide : (Expr.binary .mul (column .decimal) _ .decimal).Buildable :=
    checked .mul (operand .decimal) three rfl
  have wider : (Expr.binary .div (column .smallInt) (column .double) .double).Buildable :=
    checked .div (operand .smallInt) (operand .double) rfl
  have sums : (Expr.binary .lt _ _ .bool).Buildable :=
    .compare looked taken (show Expr.compare _ .lt _ = .ok _ from rfl)
  have products : (Expr.binary .ge _ _ .bool).Buildable :=
    .compare wide wider (show Expr.compare _ .ge _ = .ok _ from rfl)
  exact ⟨_, _, _, _, _, ⟨_, .inl rfl⟩, ⟨_, .inl rfl⟩, rfl, rfl, rfl, rfl, rfl, rfl, rfl, rfl,
    wellTyped_of_buildable.1 _ sums, wellTyped_of_buildable.1 _ products,
    wellTyped_of_buildable.2 _ (.select (.andFilter (.filter (.selectAs .record) sums) products))⟩

end TypedSql
