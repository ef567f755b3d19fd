import Mathlib.Data.List.Induction
import Mathlib.Data.List.Nodup
import TypedSql.Proofs.Validation

/-!
The assignments of an update after any calls that set columns. A call with a name that is not usable
is refused and changes nothing. The other columns take their places in the order in which they were
first set, and each has the value that it was set to last.
-/

namespace TypedSql

theorem eraseDups_concat {α : Type} [DecidableEq α] (xs : List α) (x : α) :
    (xs ++ [x]).eraseDups = if x ∈ xs then xs.eraseDups else xs.eraseDups ++ [x] := by
  rw [List.eraseDups_append]
  by_cases h : x ∈ xs <;> simp [List.removeAll, List.eraseDups_cons, h]

/-! ### Assignments one after the other -/

namespace Clauses

variable {column : String} {value : Expr} {a : Assignment Expr}
  {as sets : List (Assignment Expr)}

/-- If no column has two assignments, nothing is left of the one that is replaced. -/
theorem mem_assignIn_of_nodup (distinct : (as.map (·.column)).Nodup)
    (h : a ∈ assignIn column value as) : a = ⟨column, value⟩ ∨ a ∈ as ∧ a.column ≠ column := by
  induction as with
  | nil => exact .inl (List.mem_singleton.mp h)
  | cons b as ih =>
    rw [List.map_cons, List.nodup_cons] at distinct
    rw [assignIn] at h
    split at h
    case isTrue hb =>
      refine (List.mem_cons.mp h).imp_right fun hm => ⟨List.mem_cons_of_mem b hm, fun ha => ?_⟩
      exact distinct.1 (List.mem_map.mpr ⟨a, hm, ha.trans hb.symm⟩)
    case isFalse hb =>
      rcases List.mem_cons.mp h with rfl | hm
      · exact .inr ⟨List.mem_cons_self, hb⟩
      · exact (ih distinct.2 hm).imp_right fun hm => ⟨List.mem_cons_of_mem b hm.1, hm.2⟩

theorem nodup_columns_assignIn (distinct : (as.map (·.column)).Nodup) :
    ((assignIn column value as).map (·.column)).Nodup := by
  rw [columns_assignIn]
  split
  case isTrue => exact distinct
  case isFalse new =>
    rw [← List.concat_eq_append]
    exact List.Nodup.concat new distinct

/-- The assignments that come of making the given ones one after the other. -/
def assignAll (sets : List (Assignment Expr)) : List (Assignment Expr) :=
  sets.foldl (fun as a => assignIn a.column a.value as) []

theorem assignAll_concat : assignAll (sets ++ [a]) = assignIn a.column a.value (assignAll sets) :=
  List.foldl_append

theorem nodup_columns_assignAll : ((assignAll sets).map (·.column)).Nodup := by
  induction sets using List.reverseRecOn with
  | nil => exact List.nodup_nil
  | append_singleton sets a ih =>
    rw [assignAll_concat]
    exact nodup_columns_assignIn ih

/-- The columns stand in the order in which they were first assigned. -/
theorem columns_assignAll :
    (assignAll sets).map (·.column) = (sets.map (·.column)).eraseDups := by
  induction sets using List.reverseRecOn with
  | nil => rfl
  | append_singleton sets a ih =>
    rw [assignAll_concat, columns_assignIn, ih, List.map_append, List.map_singleton,
      eraseDups_concat]
    simp only [List.mem_eraseDups]

theorem assignAll_eq_nil_iff : assignAll sets = [] ↔ sets = [] := by
  refine ⟨fun h => ?_, fun h => by rw [h]; rfl⟩
  have columns : (assignAll sets).map (·.column) = (sets.map (·.column)).eraseDups :=
    columns_assignAll
  rw [h] at columns
  cases sets with
  | nil => rfl
  | cons a sets => simp [List.eraseDups_cons] at columns

/-- An assignment that is there in the end is the last one to its column. -/
theorem last_of_mem_assignAll (h : a ∈ assignAll sets) :
    (sets.filter (·.column = a.column)).getLast? = some a := by
  induction sets using List.reverseRecOn with
  | nil => cases h
  | append_singleton sets b ih =>
    rw [assignAll_concat] at h
    rcases mem_assignIn_of_nodup nodup_columns_assignAll h with rfl | ⟨hm, hne⟩
    · simp
    · rw [List.filter_append, List.filter_cons_of_neg (by simpa using hne.symm), List.filter_nil,
        List.append_nil]
      exact ih hm

end Clauses

/-! ### Calls that set columns -/

namespace Update

variable {q : Update} {column : String} {value : Expr} {calls : List (Assignment Expr)}

theorem set_of_usable (h : UsableName column) :
    q.set column value = .ok (q.withClauses (q.statement.clauses.assign column value)) :=
  andThen_eq_ok_iff.mpr ⟨checkName_eq_ok_iff.mpr h, rfl⟩

theorem set_of_not_usable (h : ¬ UsableName column) :
    ∃ fault, q.set column value = .error (.invalidArgument fault) := by
  cases hc : checkName .setColumn column with
  | ok _ => exact absurd (checkName_eq_ok_iff.mp hc) h
  | error e =>
    obtain ⟨-, fault, rfl⟩ := checkName_eq_error hc
    exact ⟨fault, bind_eq_error_iff.mpr (.inl hc)⟩

/-- The update after a call that sets a column. One that is refused leaves it as it is. -/
def attempt (q : Update) (call : Assignment Expr) : Update :=
  match q.set call.column call.value with
  | .ok q' => q'
  | .error _ => q

/-- The calls that are not refused. -/
def accepted (calls : List (Assignment Expr)) : List (Assignment Expr) :=
  calls.filter (UsableName ·.column)

theorem attempt_of_usable {call : Assignment Expr} (h : UsableName call.column) :
    q.attempt call = q.withClauses (q.statement.clauses.assign call.column call.value) := by
  rw [attempt, set_of_usable h]

theorem attempt_of_not_usable {call : Assignment Expr} (h : ¬ UsableName call.column) :
    q.attempt call = q := by
  obtain ⟨fault, hs⟩ : ∃ fault, q.set call.column call.value = .error (.invalidArgument fault) :=
    set_of_not_usable h
  rw [attempt, hs]

/-- Calls on a new update change its assignments and nothing else. -/
theorem clauses_foldl_attempt (table : String) (calls : List (Assignment Expr)) :
    (calls.foldl attempt (update table)).statement.clauses =
      { table := some { name := table }
        assignments := Clauses.assignAll (accepted calls) } := by
  induction calls using List.reverseRecOn with
  | nil => rfl
  | append_singleton calls call ih =>
    rw [List.foldl_append, List.foldl_cons, List.foldl_nil, accepted, List.filter_append]
    by_cases h : UsableName call.column
    · rw [attempt_of_usable h, List.filter_cons_of_pos (by simpa using h), List.filter_nil,
        Clauses.assignAll_concat]
      show Clauses.assign _ _ _ = _
      rw [ih]
      rfl
    · rw [attempt_of_not_usable h, List.filter_cons_of_neg (by simpa using h), List.filter_nil,
        List.append_nil]
      exact ih

theorem buildable_foldl_attempt (table : String) (values : ∀ call ∈ calls, call.value.Buildable) :
    (calls.foldl attempt (update table)).Buildable := by
  induction calls using List.reverseRecOn with
  | nil => exact .update table
  | append_singleton calls call ih =>
    rw [List.forall_mem_append, List.forall_mem_singleton] at values
    rw [List.foldl_append, List.foldl_cons, List.foldl_nil]
    have before := ih values.1
    by_cases h : UsableName call.column
    · rw [attempt_of_usable h]
      exact before.set values.2 (set_of_usable h)
    · rwa [attempt_of_not_usable h]

/-- Assignments as calls leave them: the columns in the order in which they were first set, each of
them once and with a usable name, and each with the value of the last call for it. -/
structure KeepsLast (calls assignments : List (Assignment Expr)) : Prop where
  columns : assignments.map (·.column) = ((accepted calls).map (·.column)).eraseDups
  distinct : (assignments.map (·.column)).Nodup
  usable : ∀ a ∈ assignments, checkName .setColumn a.column = .ok ()
  last : ∀ a ∈ assignments, ((accepted calls).filter (·.column = a.column)).getLast? = some a

theorem keepsLast_assignAll (calls : List (Assignment Expr)) :
    KeepsLast calls (Clauses.assignAll (accepted calls)) where
  columns := Clauses.columns_assignAll
  distinct := Clauses.nodup_columns_assignAll
  usable a ha := by
    have set := List.mem_of_getLast? (Clauses.last_of_mem_assignAll ha)
    have call := (List.mem_filter.mp (List.mem_filter.mp set).1).2
    exact checkName_eq_ok_iff.mpr (by simpa using call)
  last _ := Clauses.last_of_mem_assignAll

end Update

/-- That an update sets nothing is what it takes for it to be an invalid state. -/
theorem Statement.invalidState_iff {s : Statement} (h : s.Buildable) :
    (∃ fault, s.validate = .error (.invalidState fault)) ↔ s.IsEmptyUpdate := by
  refine ⟨fun ⟨fault, hv⟩ => ?_, validate_emptyUpdate⟩
  by_contra hu
  obtain ⟨m, -, hf⟩ := (examines_regular.2 s h.regular hu h.usableColumns).fails _ hv
  obtain ⟨-, fault', he⟩ := checkName_eq_error hf
  cases he

theorem Update.isEmptyUpdate_foldl_attempt (table : String) (calls : List (Assignment Expr)) :
    (calls.foldl attempt (update table)).statement.IsEmptyUpdate ↔
      ∀ call ∈ calls, ¬ UsableName call.column := by
  rw [Statement.IsEmptyUpdate, isUpdate, clauses_foldl_attempt, Clauses.assignAll_eq_nil_iff,
    accepted, List.filter_eq_nil_iff]
  simp only [true_and, decide_eq_true_eq]

/-- After any calls that set columns of a new update, the columns with usable names are assigned in
the order in which they were first set, each once and to the value it was set to last. The other
calls are refused and change nothing; if there are no others, the update is an invalid state. -/
theorem assignments_of_calls (table : String) (calls : List (Assignment Expr)) :
    (∀ (q : Update) (call : Assignment Expr),
      (UsableName call.column → ∃ q', q.set call.column call.value = .ok q') ∧
      (¬ UsableName call.column →
        (∃ fault, q.set call.column call.value = .error (.invalidArgument fault)) ∧
        q.attempt call = q)) ∧
    let q := calls.foldl Update.attempt (update table)
    Update.KeepsLast calls q.statement.clauses.assignments ∧
    ((∀ call ∈ calls, call.value.Buildable) →
      ((∃ fault, q.statement.validate = .error (.invalidState fault)) ↔
        ∀ call ∈ calls, ¬ UsableName call.column)) := by
  refine ⟨fun q call => ⟨fun h => ⟨_, Update.set_of_usable h⟩, fun h => ?_⟩, ?_, fun values => ?_⟩
  · exact ⟨Update.set_of_not_usable h, Update.attempt_of_not_usable h⟩
  · rw [Update.clauses_foldl_attempt]
    exact Update.keepsLast_assignAll calls
  · have built := Update.buildable_foldl_attempt table values
    rw [Statement.invalidState_iff (.update built), Update.isEmptyUpdate_foldl_attempt]

/-- Five calls, one of them with a blank name: the column that is set again keeps its place and gets
the later value, and the two whose names differ in case are two. -/
theorem assignments_of_calls_again :
    let number (n : Int32) := Expr.ofValue (.int n)
    let calls : List (Assignment Expr) :=
      [⟨"age", number 1⟩, ⟨"Age", number 2⟩, ⟨" ", number 3⟩, ⟨"size", number 4⟩,
        ⟨"age", number 5⟩]
    let q := calls.foldl Update.attempt (update "users")
    q.statement.clauses.assignments.map (·.column) = ["age", "Age", "size"] ∧
      q.statement.toSql = "UPDATE users SET age = 5, Age = 2, size = 4" ∧
      ¬ ∃ fault, q.statement.validate = .error (.invalidState fault) := by
  intro number calls q
  obtain ⟨-, keeps, invalid⟩ := assignments_of_calls "users" calls
  have values : ∀ call ∈ calls, call.value.Buildable := by
    simp only [calls, List.forall_mem_cons]
    exact ⟨.ofValue _, .ofValue _, .ofValue _, .ofValue _, .ofValue _, nofun⟩
  refine ⟨keeps.columns.trans (by decide +kernel), by decide +kernel, fun h => ?_⟩
  exact (invalid values).mp h _ List.mem_cons_self (by decide)

end TypedSql
