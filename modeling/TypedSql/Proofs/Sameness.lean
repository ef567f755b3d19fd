import Mathlib.Data.List.Forall2
import TypedSql.Proofs.Contents
import TypedSql.Tree.Equality

/-!
Induction on pairs of equal trees. Two trees are equal when they are put together in the same way
and their literals are equal as values, so what passes from the parts of two equal trees to the
whole holds of all of them that it holds of for literals.
-/

namespace TypedSql

open List

section Lists

variable {α β : Type} {R S : α → β → Prop}

theorem agree_iff {test : α → β → Bool} {as : List α} {bs : List β} :
    agree test as bs = true ↔ Forall₂ (fun a b => test a b = true) as bs := by
  induction as generalizing bs with
  | nil => cases bs <;> simp [agree]
  | cons a as ih => cases bs <;> simp [agree, ih]

theorem agree?_iff {test : α → β → Bool} {a : Option α} {b : Option β} :
    agree? test a b = true ↔ Option.Rel (fun a b => test a b = true) a b := by
  cases a <;> cases b <;> simp [agree?]

theorem forall₂_imp_mem {as : List α} {bs : List β} (h : Forall₂ R as bs)
    (imp : ∀ a ∈ as, ∀ b, R a b → S a b) : Forall₂ S as bs := by
  induction h with
  | nil => exact .nil
  | cons hab _ ih =>
    rw [forall_mem_cons] at imp
    exact .cons (imp.1 _ hab) (ih imp.2)

theorem rel_map_left_iff {γ : Type} {f : γ → α} {a : Option γ} {b : Option β} :
    Option.Rel R (a.map f) b ↔ Option.Rel (fun x => R (f x)) a b := by
  cases a <;> cases b <;> simp

theorem rel_imp_mem {a : Option α} {b : Option β} (h : Option.Rel R a b)
    (imp : ∀ x ∈ a, ∀ y, R x y → S x y) : Option.Rel S a b := by
  cases h with
  | none => exact .none
  | some h => exact .some (imp _ rfl _ h)

end Lists

/-- Clauses that are the same but for their expressions and nested statements, which are related
one by one. -/
structure Clauses.Rel {ε ε' σ σ' : Type} (R : ε → ε' → Prop) (S : σ → σ' → Prop)
    (c : Clauses ε σ) (d : Clauses ε' σ') : Prop where
  table : c.table = d.table
  projection : Forall₂ R c.projection d.projection
  joins : Forall₂ (fun j k => j.kind = k.kind ∧ j.table = k.table ∧ R j.on k.on) c.joins d.joins
  filter : Option.Rel R c.filter d.filter
  groupBy : Forall₂ R c.groupBy d.groupBy
  having : Option.Rel R c.having d.having
  orderBy : Forall₂ (fun o p => o.direction = p.direction ∧ R o.expr p.expr) c.orderBy d.orderBy
  limit : c.limit = d.limit
  offset : c.offset = d.offset
  columns : c.columns = d.columns
  rows : Forall₂ (Forall₂ R) c.rows d.rows
  source : Option.Rel S c.source d.source
  assignments :
    Forall₂ (fun a b => a.column = b.column ∧ R a.value b.value) c.assignments d.assignments
  returning : c.returning = d.returning

namespace Clauses

variable {ε ε' σ σ' : Type}

theorem agree_iff {tests : Clauses (ε → Bool) (σ → Bool)} {c : Clauses ε σ} :
    tests.agree c = true ↔
      tests.Rel (fun test e => test e = true) (fun test s => test s = true) c := by
  simp only [agree, Bool.and_eq_true, beq_iff_eq, TypedSql.agree_iff, agree?_iff, and_assoc]
  constructor
  · rintro ⟨h₁, h₂, h₃, h₄, h₅, h₆, h₇, h₈, h₉, h₁₀, h₁₁, h₁₂, h₁₃, h₁₄⟩
    exact ⟨h₁, h₂, h₃, h₄, h₅, h₆, h₇, h₈, h₉, h₁₀, h₁₁, h₁₂, h₁₃, h₁₄⟩
  · rintro ⟨h₁, h₂, h₃, h₄, h₅, h₆, h₇, h₈, h₉, h₁₀, h₁₁, h₁₂, h₁₃, h₁₄⟩
    exact ⟨h₁, h₂, h₃, h₄, h₅, h₆, h₇, h₈, h₉, h₁₀, h₁₁, h₁₂, h₁₃, h₁₄⟩

variable {R R' : ε → ε' → Prop} {S S' : σ → σ' → Prop} {c : Clauses ε σ} {d : Clauses ε' σ'}

theorem Rel.of_map {α β : Type} {f : α → ε} {g : β → σ} {c : Clauses α β}
    (h : (c.map f g).Rel R S d) : c.Rel (fun a e => R (f a) e) (fun b s => S (g b) s) d := by
  obtain ⟨table, projection, joins, filter, groupBy, having, orderBy, limit, offset, columns, rows,
    source, assignments, returning⟩ := h
  simp only [map, forall₂_map_left_iff, rel_map_left_iff] at *
  exact ⟨table, projection, joins, filter, groupBy, having, orderBy, limit, offset, columns, rows,
    source, assignments, returning⟩

theorem Rel.imp (h : c.Rel R S d) (hr : ∀ e ∈ c.exprs, ∀ e', R e e' → R' e e')
    (hs : ∀ s ∈ c.source, ∀ s', S s s' → S' s s') : c.Rel R' S' d := by
  simp only [mem_exprs] at hr
  refine { h with
    projection := forall₂_imp_mem h.projection fun e he => hr e (by simp [he])
    joins := forall₂_imp_mem h.joins fun j hj k => ?_
    filter := rel_imp_mem h.filter fun e he => hr e (by simp_all)
    groupBy := forall₂_imp_mem h.groupBy fun e he => hr e (by simp [he])
    having := rel_imp_mem h.having fun e he => hr e (by simp_all)
    orderBy := forall₂_imp_mem h.orderBy fun o ho p => ?_
    rows := forall₂_imp_mem h.rows fun r hr' r' => ?_
    source := rel_imp_mem h.source hs
    assignments := forall₂_imp_mem h.assignments fun a ha b => ?_ }
  · exact fun ⟨kind, table, on⟩ => ⟨kind, table, hr j.on (by grind) _ on⟩
  · exact fun ⟨direction, expr⟩ => ⟨direction, hr o.expr (by grind) _ expr⟩
  · exact fun row => forall₂_imp_mem row fun e he => hr e (by grind)
  · exact fun ⟨column, value⟩ => ⟨column, hr a.value (by grind) _ value⟩

end Clauses

theorem Statement.rel_of_same {s t : Statement} (h : s.same t = true) : s.kind = t.kind ∧
    s.resultType = t.resultType ∧
      s.clauses.Rel (fun a b => a.same b = true) (fun s t => s.same t = true) t.clauses := by
  rw [same, fold_eq] at h
  simp only [equalityAlgebra, Bool.and_eq_true, beq_iff_eq, Clauses.agree_iff] at h
  obtain ⟨⟨kind, resultType⟩, clauses⟩ := h
  exact ⟨kind, resultType, clauses.of_map⟩

/-- Induction on two trees that are equal. -/
theorem same_induction {P : Expr → Expr → Prop} {Q : Statement → Statement → Prop}
    (column : ∀ table column aliasName type,
      P (.column table column aliasName type) (.column table column aliasName type))
    (literal : ∀ v w type, v.same w = true → P (.literal v type) (.literal w type))
    (unary : ∀ op a b, P a b → P (.unary op a) (.unary op b))
    (binary : ∀ op a b a' b' type, P a a' → P b b' →
      P (.binary op a b type) (.binary op a' b' type))
    (call : ∀ function as bs type, Forall₂ P as bs →
      P (.call function as type) (.call function bs type))
    (caseWhen : ∀ as bs a b type, Forall₂ (fun a b => P a.1 b.1 ∧ P a.2 b.2) as bs →
      Option.Rel P a b → P (.caseWhen as a type) (.caseWhen bs b type))
    (subquery : ∀ s t type, Q s t → P (.subquery s type) (.subquery t type))
    (statement : ∀ s t, s.kind = t.kind → s.resultType = t.resultType →
      s.clauses.Rel P Q t.clauses → Q s t) :
    (∀ a b, a.same b = true → P a b) ∧ ∀ s t, s.same t = true → Q s t := by
  -- The induction is on the left tree; equality forces the constructor of the right one.
  apply tree_induction
  case column =>
    intro table name aliasName type b h
    rw [Expr.same, Expr.fold_column] at h
    cases b with
    | column table' name' aliasName' type' =>
      simp only [equalityAlgebra, Bool.and_eq_true, beq_iff_eq] at h
      obtain ⟨⟨⟨rfl, rfl⟩, rfl⟩, rfl⟩ := h
      exact column table name aliasName type
    | _ => exact absurd h Bool.false_ne_true
  case literal =>
    intro v type b h
    rw [Expr.same, Expr.fold_literal] at h
    cases b with
    | literal w type' =>
      simp only [equalityAlgebra, Bool.and_eq_true, beq_iff_eq] at h
      obtain ⟨h, rfl⟩ := h
      exact literal v w type h
    | _ => exact absurd h Bool.false_ne_true
  case unary =>
    intro op a ih b h
    rw [Expr.same, Expr.fold_unary] at h
    cases b with
    | unary op' b =>
      simp only [equalityAlgebra, Bool.and_eq_true, beq_iff_eq] at h
      obtain ⟨rfl, h⟩ := h
      exact unary op a b (ih b h)
    | _ => exact absurd h Bool.false_ne_true
  case binary =>
    intro op left right type ihl ihr b h
    rw [Expr.same, Expr.fold_binary] at h
    cases b with
    | binary op' left' right' type' =>
      simp only [equalityAlgebra, Bool.and_eq_true, beq_iff_eq] at h
      obtain ⟨⟨⟨rfl, hl⟩, hr⟩, rfl⟩ := h
      exact binary op left right left' right' type (ihl left' hl) (ihr right' hr)
    | _ => exact absurd h Bool.false_ne_true
  case call =>
    intro function as type ih b h
    rw [Expr.same, Expr.fold_call] at h
    cases b with
    | call function' bs type' =>
      simp only [equalityAlgebra, Bool.and_eq_true, beq_iff_eq, agree_iff,
        forall₂_map_left_iff] at h
      obtain ⟨⟨rfl, h⟩, rfl⟩ := h
      exact call function as bs type (forall₂_imp_mem h ih)
    | _ => exact absurd h Bool.false_ne_true
  case caseWhen =>
    intro as a type ihb iho b h
    rw [Expr.same, Expr.fold_caseWhen] at h
    cases b with
    | caseWhen bs b type' =>
      simp only [equalityAlgebra, Bool.and_eq_true, beq_iff_eq, agree_iff, agree?_iff,
        forall₂_map_left_iff, rel_map_left_iff] at h
      obtain ⟨⟨hb, ho⟩, rfl⟩ := h
      refine caseWhen as bs a b type (forall₂_imp_mem hb fun x hx y hy => ?_) (rel_imp_mem ho iho)
      exact ⟨(ihb x hx).1 y.1 hy.1, (ihb x hx).2 y.2 hy.2⟩
    | _ => exact absurd h Bool.false_ne_true
  case subquery =>
    intro s type ih b h
    rw [Expr.same, Expr.fold_subquery] at h
    cases b with
    | subquery t type' =>
      simp only [equalityAlgebra, Bool.and_eq_true, beq_iff_eq] at h
      obtain ⟨h, rfl⟩ := h
      exact subquery s t type (ih t h)
    | _ => exact absurd h Bool.false_ne_true
  case statement =>
    intro s ihe iht t h
    obtain ⟨kind, resultType, clauses⟩ := Statement.rel_of_same h
    exact statement s t kind resultType (clauses.imp ihe iht)

end TypedSql
