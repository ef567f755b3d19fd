import TypedSql.Proofs.Regular

/-!
Regular trees whose names all satisfy a condition, and induction on them: what a fact about such a
tree may use is that its parts are of the same sort.
-/

namespace TypedSql

variable {p : Mention → Prop}

/-- A regular expression whose names satisfy the condition. -/
structure Expr.Named (p : Mention → Prop) (e : Expr) : Prop where
  regular : e.Regular
  names : ∀ m ∈ e.names, p m

structure Statement.Named (p : Mention → Prop) (s : Statement) : Prop where
  regular : s.Regular
  names : ∀ m ∈ s.names, p m

namespace Expr.Named

variable {type : SqlType}

theorem of_unary {op : Operator} {operand : Expr} (h : (unary op operand).Named p) :
    op.isUnary = true ∧ operand.Named p := by
  obtain ⟨hr, hn⟩ := h
  obtain _ | _ | ⟨ho, hr⟩ := hr
  rw [names_unary] at hn
  exact ⟨ho, hr, hn⟩

theorem of_binary {op : Operator} {left right : Expr} (h : (binary op left right type).Named p) :
    op.isUnary = false ∧ left.Named p ∧ right.Named p := by
  obtain ⟨hr, hn⟩ := h
  obtain _ | _ | _ | ⟨ho, hl, hr⟩ := hr
  rw [names_binary, List.forall_mem_append] at hn
  exact ⟨ho, ⟨hl, hn.1⟩, hr, hn.2⟩

theorem of_call {function : String} {arguments : List Expr}
    (h : (call function arguments type).Named p) :
    p ⟨.function, function⟩ ∧ ∀ e ∈ arguments, e.Named p := by
  obtain ⟨hr, hn⟩ := h
  obtain _ | _ | _ | _ | hr := hr
  rw [names_call, List.forall_mem_cons] at hn
  exact ⟨hn.1, fun e he => ⟨hr e he, fun m hm => hn.2 m (List.mem_flatMap.mpr ⟨e, he, hm⟩)⟩⟩

theorem of_caseWhen {branches : List (Expr × Expr)} {otherwise : Option Expr}
    (h : (caseWhen branches otherwise type).Named p) :
    (∀ b ∈ branches, b.1.Named p ∧ b.2.Named p) ∧ ∀ e ∈ otherwise, e.Named p := by
  obtain ⟨hr, hn⟩ := h
  obtain _ | _ | _ | _ | _ | ⟨hc, hr, ho⟩ := hr
  rw [names_caseWhen, List.forall_mem_append] at hn
  refine ⟨fun b hb => ?_, fun e he => ⟨ho e he, fun m hm => hn.2 m ?_⟩⟩
  · have names : ∀ m ∈ b.1.names ++ b.2.names, p m := fun m hm =>
      hn.1 m (List.mem_flatMap.mpr ⟨b, hb, hm⟩)
    rw [List.forall_mem_append] at names
    exact ⟨⟨hc b hb, names.1⟩, hr b hb, names.2⟩
  · exact List.mem_flatMap.mpr ⟨e, Option.mem_toList.mpr he, hm⟩

theorem of_subquery {s : Statement} (h : (subquery s type).Named p) :
    s.kind = .select ∧ s.Named p := by
  obtain ⟨hr, hn⟩ := h
  obtain _ | _ | _ | _ | _ | _ | ⟨hk, hr⟩ := hr
  rw [names_subquery] at hn
  exact ⟨hk, hr, hn⟩

end Expr.Named

namespace Statement.Named

variable {s : Statement}

theorem ownNames (h : s.Named p) : ∀ m ∈ s.clauses.ownNames, p m := by
  intro m hm
  refine h.names m ?_
  rw [names_eq]
  exact List.mem_append_left _ (List.mem_append_left _ hm)

theorem exprs (h : s.Named p) : ∀ e ∈ s.clauses.exprs, e.Named p := by
  intro e he
  refine ⟨h.regular.exprs e he, fun m hm => h.names m ?_⟩
  rw [names_eq]
  exact List.mem_append_left _ (List.mem_append_right _ (List.mem_flatMap.mpr ⟨e, he, hm⟩))

theorem source (h : s.Named p) : ∀ t ∈ s.clauses.source, t.kind = .select ∧ t.Named p := by
  intro t ht
  obtain ⟨hk, hr⟩ := h.regular.source t ht
  refine ⟨hk, hr, fun m hm => h.names m ?_⟩
  rw [names_eq]
  exact List.mem_append_right _ (List.mem_flatMap.mpr ⟨t, Option.mem_toList.mpr ht, hm⟩)

end Statement.Named

/-- Induction on regular trees whose names satisfy the condition. -/
theorem named_induction {P : Expr → Prop} {Q : Statement → Prop}
    (column : ∀ table column aliasName type,
      (Expr.column table column aliasName type).Named p → P (.column table column aliasName type))
    (literal : ∀ value type, P (.literal value type))
    (unary : ∀ op operand, op.isUnary = true → operand.Named p → P operand →
      P (.unary op operand))
    (binary : ∀ op left right type, op.isUnary = false → left.Named p → right.Named p →
      P left → P right → P (.binary op left right type))
    (call : ∀ function arguments type, p ⟨.function, function⟩ →
      (∀ e ∈ arguments, e.Named p ∧ P e) → P (.call function arguments type))
    (caseWhen : ∀ branches otherwise type,
      (∀ b ∈ branches, (b.1.Named p ∧ P b.1) ∧ b.2.Named p ∧ P b.2) →
      (∀ e ∈ otherwise, e.Named p ∧ P e) → P (.caseWhen branches otherwise type))
    (subquery : ∀ s type, s.kind = .select → Q s → P (.subquery s type))
    (statement : ∀ s, s.Named p → (∀ e ∈ s.clauses.exprs, P e) → (∀ t ∈ s.clauses.source, Q t) →
      Q s) :
    (∀ e, e.Named p → P e) ∧ ∀ s, s.Named p → Q s := by
  apply tree_induction
  case column => exact fun table name aliasName type h => column table name aliasName type h
  case literal => exact fun value type _ => literal value type
  case unary =>
    intro op operand ih h
    obtain ⟨ho, h⟩ := h.of_unary
    exact unary op operand ho h (ih h)
  case binary =>
    intro op left right type ihl ihr h
    obtain ⟨ho, hl, hr⟩ := h.of_binary
    exact binary op left right type ho hl hr (ihl hl) (ihr hr)
  case call =>
    intro function arguments type ih h
    obtain ⟨hf, ha⟩ := h.of_call
    exact call function arguments type hf fun e he => ⟨ha e he, ih e he (ha e he)⟩
  case caseWhen =>
    intro branches otherwise type ihb iho h
    obtain ⟨hb, ho⟩ := h.of_caseWhen
    refine caseWhen branches otherwise type (fun b h => ?_)
      fun e he => ⟨ho e he, iho e he (ho e he)⟩
    exact ⟨⟨(hb b h).1, (ihb b h).1 (hb b h).1⟩, (hb b h).2, (ihb b h).2 (hb b h).2⟩
  case subquery =>
    intro s type ih h
    obtain ⟨hk, h⟩ := h.of_subquery
    exact subquery s type hk (ih h)
  case statement =>
    intro s ihe ihs h
    exact statement s h (fun e he => ihe e he (h.exprs e he)) fun t ht =>
      ihs t ht (h.source t ht).2

end TypedSql
