import Mathlib.Data.List.DropRight
import TypedSql.Proofs.Checks
import TypedSql.Statement.Change
import TypedSql.Tree.Sql

/-!
The condition of a statement after any calls that set it or add to it. A call that sets it gives up
all there was; so what stands in the end are the condition that was last set and all that were added
behind it, joined by `AND` from the left. None of them is lost, on a statement of any kind that has
a condition, whether the kind is known or not.
-/

namespace TypedSql

/-! ### Conditions joined by `AND` -/

namespace Expr

/-- Conditions under one `AND` after the other, from the left; a single one stands by itself. -/
def conjunction : List Expr → Option Expr
  | [] => none
  | e :: es => some (es.foldl (fun left right => .binary .and left right .bool) e)

/-- Whether an expression is a whole condition or stands under its `AND`s. -/
inductive IsConjunct (e : Expr) : Expr → Prop
  | whole : IsConjunct e e
  | left {l r : Expr} {t : SqlType} : IsConjunct e l → IsConjunct e (.binary .and l r t)
  | right {l r : Expr} {t : SqlType} : IsConjunct e r → IsConjunct e (.binary .and l r t)

theorem conjunction_toList (e : Option Expr) : conjunction e.toList = e := by
  cases e <;> rfl

theorem conjunction_concat (es : List Expr) (e : Expr) : conjunction (es ++ [e]) =
    some (match conjunction es with
      | none => e
      | some left => .binary .and left e .bool) := by
  cases es with
  | nil => rfl
  | cons first es =>
    show some ((es ++ [e]).foldl _ first) = some _
    rw [List.foldl_append]
    rfl

theorem conjunction_eq_none_iff {es : List Expr} : conjunction es = none ↔ es = [] := by
  cases es <;> simp [conjunction]

theorem isConjunct_of_mem {e : Expr} {es : List Expr} (h : e ∈ es) :
    ∃ whole, conjunction es = some whole ∧ e.IsConjunct whole := by
  induction es using List.reverseRecOn with
  | nil => cases h
  | append_singleton es last ih =>
    rw [conjunction_concat]
    refine ⟨_, rfl, ?_⟩
    rcases List.mem_append.mp h with h | h
    · obtain ⟨whole, hw, member⟩ := ih h
      rw [hw]
      exact .left member
    · obtain rfl := List.mem_singleton.mp h
      cases conjunction es with
      | none => exact .whole
      | some left => exact .right .whole

end Expr

/-! ### Calls -/

/-- A call that gives a condition, in the place of what there was or behind it. -/
inductive ConditionCall where
  | filter (condition : Typed .bool)
  | andFilter (condition : Typed .bool)

namespace ConditionCall

def condition : ConditionCall → Expr
  | filter condition | andFilter condition => condition.expr

/-- The call gives up what there was. -/
def sets : ConditionCall → Bool
  | filter _ => true
  | andFilter _ => false

def onClauses (c : ClauseSet) : ConditionCall → ClauseSet
  | filter condition => c.setFilter condition
  | andFilter condition => c.andFilter condition

def onSelect {row : SqlType} (q : Select row) : ConditionCall → Select row
  | filter condition => q.filter condition
  | andFilter condition => q.andFilter condition

def onUpdate (q : Update) : ConditionCall → Update
  | filter condition => q.filter condition
  | andFilter condition => q.andFilter condition

def onDelete (q : Delete) : ConditionCall → Delete
  | filter condition => q.filter condition
  | andFilter condition => q.andFilter condition

def onStatement (s : Statement) : ConditionCall → SqlResult Statement
  | filter condition => s.filter condition
  | andFilter condition => s.andFilter condition

/-! ### What stands in the end -/

/-- The condition that was set last, if any was. -/
def lastSet (calls : List ConditionCall) : Option Expr :=
  (calls.filter sets).getLast?.map condition

/-- The conditions that were added since. -/
def addedSince (calls : List ConditionCall) : List Expr :=
  (calls.rtakeWhile (!sets ·)).map condition

/-- The conditions that stand after calls on a statement with the given condition: the one that was
set last, or the given one if none was, and those that were added since. -/
def standing (initial : Option Expr) (calls : List ConditionCall) : List Expr :=
  ((lastSet calls).or initial).toList ++ addedSince calls

variable {initial : Option Expr} {calls : List ConditionCall}

theorem standing_concat_filter (condition : Typed .bool) :
    standing initial (calls ++ [filter condition]) = [condition.expr] := by
  simp [standing, lastSet, addedSince, sets, ConditionCall.condition]

theorem standing_concat_andFilter (condition : Typed .bool) :
    standing initial (calls ++ [andFilter condition]) =
      standing initial calls ++ [condition.expr] := by
  simp [standing, lastSet, addedSince, sets, ConditionCall.condition]

/-- The condition of a call stands if no call behind it sets another. -/
theorem condition_mem_standing {before after : List ConditionCall} {call : ConditionCall}
    (h : ∀ later ∈ after, later.sets = false) :
    call.condition ∈ standing initial (before ++ call :: after) := by
  induction after using List.reverseRecOn with
  | nil =>
    cases call with
    | filter condition =>
      rw [standing_concat_filter]
      exact List.mem_singleton_self _
    | andFilter condition =>
      rw [standing_concat_andFilter]
      exact List.mem_append_right _ (List.mem_singleton_self _)
  | append_singleton after last ih =>
    rw [List.forall_mem_append, List.forall_mem_singleton] at h
    rw [← List.cons_append, ← List.append_assoc]
    cases last with
    | filter condition => cases h.2
    | andFilter condition =>
      rw [standing_concat_andFilter]
      exact List.mem_append_left _ (ih h.1)

theorem standing_eq_nil_iff : standing initial calls = [] ↔ initial = none ∧ calls = [] := by
  induction calls using List.reverseRecOn with
  | nil => cases initial <;> simp [standing, lastSet, addedSince]
  | append_singleton calls last _ =>
    cases last with
    | filter condition => simp [standing_concat_filter]
    | andFilter condition => simp [standing_concat_andFilter]

/-! ### Calls one after the other -/

theorem foldl_onClauses (c : ClauseSet) (calls : List ConditionCall) :
    calls.foldl onClauses c = { c with filter := Expr.conjunction (standing c.filter calls) } := by
  induction calls using List.reverseRecOn with
  | nil => simp [standing, lastSet, addedSince, Expr.conjunction_toList]
  | append_singleton calls last ih =>
    rw [List.foldl_append, ih]
    cases last with
    | filter condition =>
      rw [standing_concat_filter]
      rfl
    | andFilter condition =>
      rw [standing_concat_andFilter, Expr.conjunction_concat]
      rfl

/-- On a builder of one kind, calls change the clauses of its statement and nothing else. -/
theorem statement_foldl {β : Type} {statement : β → Statement} {apply : β → ConditionCall → β}
    (one : ∀ q call, statement (apply q call) = (statement q).mapClauses (onClauses · call))
    (q : β) (calls : List ConditionCall) :
    statement (calls.foldl apply q) = (statement q).mapClauses (calls.foldl onClauses) := by
  induction calls generalizing q with
  | nil =>
    -- A statement is equal to the record of its fields, but not by computation.
    cases h : statement q
    exact h
  | cons call calls ih =>
    rw [List.foldl_cons, ih, one]
    rfl

theorem mem_filterable_iff_ne_insert {kind : StatementKind} :
    kind ∈ Statement.filterable ↔ kind ≠ .insert := by
  cases kind <;> decide

theorem onStatement_eq_ok {s : Statement} (h : s.kind ≠ .insert) (call : ConditionCall) :
    onStatement s call = .ok (s.mapClauses (onClauses · call)) := by
  have passes : s.require Statement.filterable "WHERE" = .ok () :=
    Statement.require_eq_ok_iff.mpr (mem_filterable_iff_ne_insert.mpr h)
  cases call with
  | filter condition => exact andThen_eq_ok_iff.mpr ⟨passes, rfl⟩
  | andFilter condition => exact andThen_eq_ok_iff.mpr ⟨passes, rfl⟩

theorem foldlM_onStatement {s : Statement} (h : s.kind ≠ .insert) (calls : List ConditionCall) :
    calls.foldlM onStatement s = .ok (s.mapClauses (calls.foldl onClauses)) := by
  induction calls generalizing s with
  | nil =>
    cases s
    rfl
  | cons call calls ih =>
    rw [List.foldlM_cons]
    exact bind_eq_ok_iff.mpr ⟨_, onStatement_eq_ok h call, ih h⟩

/-- What calls make of a statement: its condition is what stands in the end, and all else is as it
was. There is none only if there was none and none was given, and each that was given since one was
last set is in it. -/
structure Collects (s : Statement) (calls : List ConditionCall) (s' : Statement) : Prop where
  statement : s' = s.mapClauses fun c =>
    { c with filter := Expr.conjunction (standing c.filter calls) }
  absent : s'.clauses.filter = none ↔ s.clauses.filter = none ∧ calls = []
  kept : ∀ before call after, calls = before ++ call :: after →
    (∀ later ∈ after, later.sets = false) →
    ∃ whole, s'.clauses.filter = some whole ∧ call.condition.IsConjunct whole

theorem collects_foldl (s : Statement) (calls : List ConditionCall) :
    Collects s calls (s.mapClauses (calls.foldl onClauses)) where
  statement := congrArg s.mapClauses (funext fun c => foldl_onClauses c calls)
  absent := by
    show (calls.foldl onClauses s.clauses).filter = none ↔ _
    rw [foldl_onClauses]
    exact Expr.conjunction_eq_none_iff.trans standing_eq_nil_iff
  kept before call after split later := by
    show ∃ whole, (calls.foldl onClauses s.clauses).filter = some whole ∧ _
    rw [foldl_onClauses, split]
    exact Expr.isConjunct_of_mem (condition_mem_standing later)

theorem collects_builder {β : Type} {statement : β → Statement} {apply : β → ConditionCall → β}
    (one : ∀ q call, statement (apply q call) = (statement q).mapClauses (onClauses · call))
    (q : β) (calls : List ConditionCall) :
    Collects (statement q) calls (statement (calls.foldl apply q)) := by
  rw [statement_foldl one]
  exact collects_foldl _ calls

end ConditionCall

/-- Either way the statement is refused for its kind or not at all. -/
theorem Statement.filter_then_andFilter (s : Statement) (a b : Typed .bool) :
    (do let s' ← s.filter a; s'.andFilter b) = s.filter (a.and b) := by
  cases passes : s.require filterable "WHERE" with
  | error e =>
    rw [filter, filter, passes]
    rfl
  | ok _ =>
    rw [filter, filter, passes]
    exact bind_eq_ok_iff.mpr ⟨_, rfl, andThen_eq_ok_iff.mpr ⟨passes, rfl⟩⟩

/-- After any calls that set a condition or add to it, on a query, an update, a delete or a
statement of one of these kinds, the condition is the one that was set last under `AND` with all
that were added since; if none was set, it is the one that was there before the calls. To set one
and add another is to set the two under `AND`. -/
theorem condition_of_calls (calls : List ConditionCall) :
    (∀ {row : SqlType} (q : Select row),
      ConditionCall.Collects q.statement calls (calls.foldl ConditionCall.onSelect q).statement) ∧
    (∀ q : Update,
      ConditionCall.Collects q.statement calls (calls.foldl ConditionCall.onUpdate q).statement) ∧
    (∀ q : Delete,
      ConditionCall.Collects q.statement calls (calls.foldl ConditionCall.onDelete q).statement) ∧
    (∀ s : Statement, s.kind ≠ .insert →
      ∃ s', calls.foldlM ConditionCall.onStatement s = .ok s' ∧
        ConditionCall.Collects s calls s') ∧
    ∀ a b : Typed .bool,
      (∀ {row : SqlType} (q : Select row), (q.filter a).andFilter b = q.filter (a.and b)) ∧
      (∀ q : Update, (q.filter a).andFilter b = q.filter (a.and b)) ∧
      (∀ q : Delete, (q.filter a).andFilter b = q.filter (a.and b)) ∧
      ∀ s : Statement, (do let s' ← s.filter a; s'.andFilter b) = s.filter (a.and b) := by
  refine ⟨fun q => ?_, fun q => ?_, fun q => ?_, fun s hs => ?_, fun a b => ?_⟩
  · exact ConditionCall.collects_builder (fun q call => by cases call <;> rfl) q calls
  · exact ConditionCall.collects_builder (fun q call => by cases call <;> rfl) q calls
  · exact ConditionCall.collects_builder (fun q call => by cases call <;> rfl) q calls
  · exact ⟨_, ConditionCall.foldlM_onStatement hs calls, ConditionCall.collects_foldl s calls⟩
  · exact ⟨fun _ => rfl, fun _ => rfl, fun _ => rfl, fun s => s.filter_then_andFilter a b⟩

/-- A delete from which two conditions are asked for behind one that a third took the place of; the
last of them is a bare `NULL`. -/
theorem condition_of_calls_delete :
    let days : Typed .int := .column .int "logs" "days"
    let old := days.gt (.literal .int (.int 30))
    let closed := (Typed.column .bool "logs" "closed").isNotNull
    let unknown : Typed .bool := ⟨.literal .null .null, .inr rfl⟩
    let calls := [ConditionCall.andFilter unknown, .filter old, .andFilter closed,
      .andFilter unknown]
    ∃ s', calls.foldlM ConditionCall.onStatement (deleteFrom "logs").statement = .ok s' ∧
      s'.toSql =
        "DELETE FROM logs WHERE (((logs.days > 30) AND (logs.closed IS NOT NULL)) AND NULL)" ∧
      ∃ whole, s'.clauses.filter = some whole ∧ closed.expr.IsConjunct whole := by
  intro days old closed unknown calls
  obtain ⟨-, -, -, erased, -⟩ := condition_of_calls calls
  obtain ⟨s', ran, collects⟩ := erased (deleteFrom "logs").statement nofun
  refine ⟨s', ran, ?_, collects.kept [.andFilter unknown, .filter old] (.andFilter closed)
    [.andFilter unknown] rfl (by simp [ConditionCall.sets])⟩
  rw [collects.statement]
  decide +kernel

end TypedSql
