import TypedSql.Proofs.Named
import TypedSql.Proofs.Purity
import TypedSql.Tree.Names

/-!
What the check of a statement looks at. The names in the columns of an insert are not looked at
again, since no other ones get there; all other names are, at any depth. So a statement that can be
built passes if and only if it is no update that sets nothing and all its names are usable.
-/

namespace TypedSql

theorem checkAll_append (checks others : List (SqlResult Unit)) :
    checkAll (checks ++ others) = (do checkAll checks; checkAll others) :=
  List.forM_append

/-! ### Checks that examine names -/

/-- A check that passes if the given names are usable, and that fails at one of them which is
not. -/
structure Examines (ms : List Mention) (check : SqlResult Unit) : Prop where
  passes : check = .ok () → ∀ m ∈ ms, UsableName m.name
  fails : ∀ e, check = .error e → ∃ m ∈ ms, checkName m.role m.name = .error e

namespace Examines

variable {ms ns : List Mention} {check next : SqlResult Unit} {α : Type}

theorem nil : Examines [] (.ok ()) :=
  ⟨fun _ _ h => (nomatch h), fun _ h => (nomatch h)⟩

theorem name (role : NameRole) (n : String) : Examines [⟨role, n⟩] (checkName role n) := by
  refine ⟨fun h m hm => ?_, fun e h => ⟨_, List.mem_singleton_self _, h⟩⟩
  rw [List.mem_singleton.mp hm]
  exact checkName_eq_ok_iff.mp h

theorem name? (role : NameRole) (n : Option String) :
    Examines (Mention.optional role n) (checkName? role n) := by
  cases n with
  | none => exact nil
  | some n => exact name role n

theorem andThen (h : Examines ms check) (hn : Examines ns next) :
    Examines (ms ++ ns) (do check; next) := by
  cases check with
  | error e =>
    refine ⟨fun hp => (nomatch hp), fun e' he => ?_⟩
    obtain ⟨m, hm, hf⟩ := h.fails e' he
    exact ⟨m, List.mem_append_left _ hm, hf⟩
  | ok u =>
    refine ⟨fun hp => List.forall_mem_append.mpr ⟨h.passes rfl, hn.passes hp⟩, fun e he => ?_⟩
    obtain ⟨m, hm, hf⟩ := hn.fails e he
    exact ⟨m, List.mem_append_right _ hm, hf⟩

/-- A check may look at its names in any order and leave out those that are known to be usable. -/
theorem covers (h : Examines ms check) (hs : ∀ m ∈ ms, m ∈ ns)
    (hn : ∀ m ∈ ns, m ∈ ms ∨ UsableName m.name) : Examines ns check := by
  refine ⟨fun hp m hm => (hn m hm).elim (h.passes hp m) id, fun e he => ?_⟩
  obtain ⟨m, hm, hf⟩ := h.fails e he
  exact ⟨m, hs m hm, hf⟩

theorem flatMap {xs : List α} {f : α → List Mention} {g : α → List (SqlResult Unit)}
    (h : ∀ x ∈ xs, Examines (f x) (checkAll (g x))) :
    Examines (xs.flatMap f) (checkAll (xs.flatMap g)) := by
  induction xs with
  | nil => exact nil
  | cons x xs ih =>
    have first := h x List.mem_cons_self
    have rest := ih fun y hy => h y (List.mem_cons_of_mem x hy)
    rw [List.flatMap_cons, List.flatMap_cons, checkAll_append]
    exact first.andThen rest

theorem single (h : Examines ms check) : Examines ms (checkAll [check]) := by
  have := h.andThen nil
  rwa [List.append_nil] at this

theorem pair (h : Examines ms check) (hn : Examines ns next) :
    Examines (ms ++ ns) (checkAll [check, next]) :=
  h.andThen hn.single

theorem map {xs : List α} {f : α → List Mention} {g : α → SqlResult Unit}
    (h : ∀ x ∈ xs, Examines (f x) (g x)) : Examines (xs.flatMap f) (checkAll (xs.map g)) := by
  rw [List.map_eq_flatMap]
  exact flatMap fun x hx => (h x hx).single

theorem option {x : Option α} {f : α → List Mention} {g : α → SqlResult Unit}
    (h : ∀ y ∈ x, Examines (f y) (g y)) :
    Examines (x.toList.flatMap f) (checkAll (x.map g).toList) := by
  cases x with
  | none => exact nil
  | some y => exact map fun z (hz : z ∈ [y]) => h z (List.mem_singleton.mp hz ▸ rfl)

end Examines

theorem Table.examines_check (t : Table) : Examines t.names t.check :=
  (Examines.name .table t.name).andThen (.name? .tableAlias t.aliasName)

/-! ### Expressions -/

namespace Expr

variable {type : SqlType}

theorem examines_column (table column : String) (aliasName : Option String) :
    Examines (Expr.column table column aliasName type).names
      (Expr.column table column aliasName type).checkNames := by
  rw [names_column, checkNames, fold_column]
  exact (Examines.name .table table).andThen
    ((Examines.name .column column).andThen (.name? .columnAlias aliasName))

theorem examines_binary {op : Operator} {left right : Expr}
    (hl : Examines left.names left.checkNames) (hr : Examines right.names right.checkNames) :
    Examines (Expr.binary op left right type).names
      (Expr.binary op left right type).checkNames := by
  rw [names_binary, checkNames, fold_binary]
  exact hl.andThen hr

theorem examines_call {function : String} {arguments : List Expr}
    (h : ∀ e ∈ arguments, Examines e.names e.checkNames) :
    Examines (Expr.call function arguments type).names
      (Expr.call function arguments type).checkNames := by
  rw [names_call, checkNames, fold_call]
  exact (Examines.name .function function).andThen (.map h)

theorem examines_caseWhen {branches : List (Expr × Expr)} {otherwise : Option Expr}
    (hb : ∀ b ∈ branches, Examines b.1.names b.1.checkNames ∧ Examines b.2.names b.2.checkNames)
    (ho : ∀ e ∈ otherwise, Examines e.names e.checkNames) :
    Examines (Expr.caseWhen branches otherwise type).names
      (Expr.caseWhen branches otherwise type).checkNames := by
  rw [names_caseWhen, checkNames, fold_caseWhen]
  refine Examines.andThen ?_ (.option ho)
  rw [List.flatMap_map]
  exact .flatMap fun b h => (hb b h).1.pair (hb b h).2

end Expr

/-! ### Statements -/

namespace Statement

/-- An update that sets nothing. -/
def IsEmptyUpdate (s : Statement) : Prop :=
  s.kind = .update ∧ s.clauses.assignments = []

theorem validate_eq (s : Statement) :
    s.validate = (s.clauses.map Expr.checkNames validate).check s.kind := by
  rw [validate, fold_eq]
  rfl

theorem validate_emptyUpdate {s : Statement} (h : s.IsEmptyUpdate) :
    ∃ fault, s.validate = .error (.invalidState fault) := by
  refine ⟨.emptyUpdate (s.clauses.table.map (·.name)), ?_⟩
  rw [validate_eq, h.1, Clauses.check, if_pos ⟨rfl, by simp [Clauses.map, h.2]⟩]
  rfl

end Statement

namespace Clauses

variable {c : ClauseSet} {kind : StatementKind}

/-- The check of a statement that sets something, should it be an update. -/
theorem check_eq (hu : ¬(kind = .update ∧ c.assignments = [])) :
    (c.map Expr.checkNames Statement.validate).check kind = (do
      checkAll (c.table.toList.map Table.check)
      checkAll (c.joins.flatMap fun j => [j.table.check, j.on.checkNames])
      checkAll (c.projection.map Expr.checkNames)
      checkAll (c.groupBy.map Expr.checkNames)
      checkAll (c.filter.map Expr.checkNames).toList
      checkAll (c.having.map Expr.checkNames).toList
      checkAll (c.orderBy.map fun o => o.expr.checkNames)
      checkAll (c.rows.flatten.map Expr.checkNames)
      checkAll (c.assignments.flatMap fun a => [checkName .setColumn a.column, a.value.checkNames])
      checkAll (c.returning.map (checkName .returningColumn))
      checkAll (c.source.map Statement.validate).toList) := by
  have hu' : ¬(kind = .update ∧ (c.map Expr.checkNames Statement.validate).assignments.isEmpty) :=
    fun ⟨hk, ha⟩ => hu ⟨hk, List.map_eq_nil_iff.mp (List.isEmpty_iff.mp ha)⟩
  rw [check, if_neg hu']
  simp only [map, List.flatMap_map, List.map_map, List.map_flatten]
  rfl

/-- The names in the clauses that are looked at, in the order in which they are. -/
def examined (c : ClauseSet) : List Mention :=
  c.table.toList.flatMap Table.names ++
    (c.joins.flatMap (fun j => j.table.names ++ j.on.names) ++
    (c.projection.flatMap Expr.names ++
    (c.groupBy.flatMap Expr.names ++
    (c.filter.toList.flatMap Expr.names ++
    (c.having.toList.flatMap Expr.names ++
    (c.orderBy.flatMap (fun o => o.expr.names) ++
    (c.rows.flatten.flatMap Expr.names ++
    (c.assignments.flatMap (fun a => ⟨.setColumn, a.column⟩ :: a.value.names) ++
    (c.returning.flatMap (fun n => [⟨.returningColumn, n⟩]) ++
    c.source.toList.flatMap Statement.names)))))))))

theorem examines_check (hu : ¬(kind = .update ∧ c.assignments = []))
    (he : ∀ e ∈ c.exprs, Examines e.names e.checkNames)
    (hs : ∀ t ∈ c.source, Examines t.names t.validate) :
    Examines c.examined ((c.map Expr.checkNames Statement.validate).check kind) := by
  rw [check_eq hu, examined]
  refine .andThen (.map fun t _ => t.examines_check) ?_
  refine .andThen (.flatMap fun j hj => j.table.examines_check.pair (he _ ?_)) ?_
  · exact mem_exprs.mpr (by grind)
  refine .andThen (.map fun e hm => he e (mem_exprs.mpr (by grind))) ?_
  refine .andThen (.map fun e hm => he e (mem_exprs.mpr (by grind))) ?_
  refine .andThen (.option fun e hm => he e (mem_exprs.mpr (by grind))) ?_
  refine .andThen (.option fun e hm => he e (mem_exprs.mpr (by grind))) ?_
  refine .andThen (.map fun o hm => he o.expr (mem_exprs.mpr (by grind))) ?_
  refine .andThen (.map fun e hm => he e (mem_exprs.mpr (by rw [List.mem_flatten] at hm; grind))) ?_
  refine .andThen (.flatMap fun a hm => ?_) ?_
  · exact (Examines.name .setColumn a.column).pair (he a.value (mem_exprs.mpr (by grind)))
  exact .andThen (.map fun n _ => .name .returningColumn n) (.option hs)

end Clauses

theorem Statement.mem_names_iff {s : Statement} {m : Mention} : m ∈ s.names ↔
    m ∈ s.clauses.examined ∨ ∃ n ∈ s.clauses.columns.getD [], m = ⟨.insertColumn, n⟩ := by
  rw [names_eq]
  simp only [Clauses.examined, List.mem_append, List.mem_flatMap, Clauses.mem_ownNames,
    Clauses.mem_exprs, Option.mem_toList, Option.mem_def, List.mem_cons, List.mem_flatten]
  grind

/-- Only inserts name columns. -/
theorem Clauses.Suits.columns {c : ClauseSet} {kind : StatementKind} (h : c.Suits kind)
    (hk : kind ≠ .insert) : c.columns = none := by
  cases kind with
  | select => exact h.1
  | insert => exact absurd rfl hk
  | update | delete => exact h.2.2.1

namespace Statement

/-- The names in a regular statement are looked at, or they are columns of an insert and known to
be usable. -/
theorem examines_validate {s : Statement} (h : s.Regular) (hu : ¬ s.IsEmptyUpdate)
    (hc : s.kind = .insert → ∀ n ∈ s.clauses.columns.getD [], UsableName n)
    (he : ∀ e ∈ s.clauses.exprs, Examines e.names e.checkNames)
    (hs : ∀ t ∈ s.clauses.source, Examines t.names t.validate) :
    Examines s.names s.validate := by
  have columns : ∀ n ∈ s.clauses.columns.getD [], UsableName n := by
    by_cases hk : s.kind = .insert
    · exact hc hk
    · rw [h.suits.columns hk]
      exact fun n hn => (nomatch hn)
  rw [validate_eq]
  refine (Clauses.examines_check hu he hs).covers (fun m hm => mem_names_iff.mpr (.inl hm))
    fun m hm => ?_
  rcases mem_names_iff.mp hm with hm | ⟨n, hn, rfl⟩
  · exact .inl hm
  · exact .inr (columns n hn)

end Statement

theorem examines_regular :
    (∀ e : Expr, e.Regular → Examines e.names e.checkNames) ∧
    ∀ s : Statement, s.Regular → ¬ s.IsEmptyUpdate →
      (s.kind = .insert → ∀ n ∈ s.clauses.columns.getD [], UsableName n) →
      Examines s.names s.validate := by
  have all := named_induction (p := fun _ => True)
    (P := fun e => Examines e.names e.checkNames)
    (Q := fun s => ¬ s.IsEmptyUpdate →
      (s.kind = .insert → ∀ n ∈ s.clauses.columns.getD [], UsableName n) →
      Examines s.names s.validate) ?column ?literal ?unary ?binary ?call ?caseWhen ?subquery
    ?statement
  · exact ⟨fun e he => all.1 e ⟨he, fun _ _ => trivial⟩,
      fun s hs => all.2 s ⟨hs, fun _ _ => trivial⟩⟩
  case column => exact fun table name aliasName type _ => Expr.examines_column table name aliasName
  case literal =>
    intro value type
    rw [Expr.names, Expr.fold_literal, Expr.checkNames, Expr.fold_literal]
    exact .nil
  case unary =>
    intro op operand _ _ h
    rw [Expr.names_unary, Expr.checkNames, Expr.fold_unary]
    exact h
  case binary => exact fun _ _ _ _ _ _ _ hl hr => Expr.examines_binary hl hr
  case call => exact fun _ _ _ _ h => Expr.examines_call fun e he => (h e he).2
  case caseWhen =>
    exact fun _ _ _ hb ho =>
      Expr.examines_caseWhen (fun b h => ⟨(hb b h).1.2, (hb b h).2.2⟩) fun e he => (ho e he).2
  case subquery =>
    intro s type hk h
    rw [Expr.names_subquery, Expr.checkNames, Expr.fold_subquery]
    exact h (fun hu => absurd (hk.symm.trans hu.1) (by decide))
      fun hi => absurd (hk.symm.trans hi) (by decide)
  case statement =>
    intro s h he hs hu hc
    refine s.examines_validate h.regular hu hc he fun t ht => ?_
    -- What an insert takes its rows from is a query, which sets nothing and has no columns.
    have hk := (h.source t ht).1
    exact hs t ht (fun hu => absurd (hk.symm.trans hu.1) (by decide))
      fun hi => absurd (hk.symm.trans hi) (by decide)

/-! ### The columns of an insert -/

theorem Insert.Buildable.usableColumns {q : Insert} (h : q.Buildable) :
    ∀ n ∈ q.statement.clauses.columns.getD [], UsableName n := by
  induction h with
  | insertInto => exact fun n hn => (nomatch hn)
  | columns _ h ih =>
    obtain ⟨c, hc, rfl⟩ := Insert.eq_of_columns h
    obtain ⟨⟨-, usable, -⟩, rfl⟩ := Clauses.setColumns_eq_ok_iff.mp hc
    exact usable
  | values _ _ h ih =>
    obtain ⟨c, hc, rfl⟩ := Insert.eq_of_values h
    obtain ⟨-, rfl⟩ := Clauses.pushRow_eq_ok_iff.mp hc
    exact ih
  | fromSelect _ _ ih => exact ih
  | returning _ _ ih => exact ih

theorem Statement.Buildable.usableColumns {s : Statement} (h : s.Buildable) :
    s.kind = .insert → ∀ n ∈ s.clauses.columns.getD [], UsableName n := by
  refine h.of_changes
    (P := fun s => s.kind = .insert → ∀ n ∈ s.clauses.columns.getD [], UsableName n)
    ?select (fun hq _ => hq.usableColumns) ?update ?delete ?change
  case select => exact fun {_ q} _ hk => absurd (q.isSelect.symm.trans hk) (by decide)
  case update => exact fun {q} _ hk => absurd (q.isUpdate.symm.trans hk) (by decide)
  case delete => exact fun {q} _ hk => absurd (q.isDelete.symm.trans hk) (by decide)
  case change =>
    intro s s' change ih h hk
    obtain ⟨-, hkind, -, hc⟩ := Change.frame h
    have columns : s'.clauses.columns = s.clauses.columns :=
      hc .columns fun h => by cases change <;> cases h
    rw [columns]
    exact ih (hkind ▸ hk)

/-- A statement that can be built passes the check if and only if it is no update that sets nothing
and all names in it are usable. An update that sets nothing is an invalid state; everything else
that is refused is an invalid argument. -/
theorem validate_eq_ok_iff {s : Statement} (h : s.Buildable) :
    (s.validate = .ok () ↔ ¬ s.IsEmptyUpdate ∧ ∀ m ∈ s.names, UsableName m.name) ∧
    ∀ e, s.validate = .error e →
      ((∃ fault, e = .invalidState fault) ↔ s.IsEmptyUpdate) ∧
      ((∃ fault, e = .invalidArgument fault) ↔ ¬ s.IsEmptyUpdate) := by
  by_cases hu : s.IsEmptyUpdate
  · obtain ⟨fault, hf⟩ := Statement.validate_emptyUpdate hu
    rw [hf]
    simp [hu]
  have examined := examines_regular.2 s h.regular hu h.usableColumns
  refine ⟨⟨fun hv => ⟨hu, examined.passes hv⟩, fun ⟨_, hn⟩ => ?_⟩, fun e he => ?_⟩
  · cases hv : s.validate with
    | ok u => rfl
    | error e =>
      obtain ⟨m, hm, hf⟩ := examined.fails e hv
      exact absurd (hn m hm) (checkName_eq_error hf).1
  · obtain ⟨m, -, hf⟩ := examined.fails e he
    obtain ⟨-, fault, rfl⟩ := checkName_eq_error hf
    simp [hu]

/-- A column inside a case distinction of a subquery in the query that an insert takes its rows
from: the statement passes with a name for it and is refused for one with a NUL and for one that is
nothing but white space. -/
theorem validate_eq_ok_iff_nested :
    let nested (column : String) :=
      let age := Typed.column .int "users" column
      let cases := (select.fromTable ⟨"users", none⟩).project
        (Typed.caseWhen .int (age.isNull, age) [] none)
      let query := select.filter ((Typed.column .int "users" "id").inSubquery cases)
      ((insertInto "archive").fromSelect query).statement
    (∀ column, (nested column).Buildable) ∧ (nested "age").validate = .ok () ∧
      ∀ column ∈ ["a\x00ge", "\u2003\t"],
        ∃ fault, (nested column).validate = .error (.invalidArgument fault) := by
  intro nested
  have built : ∀ column, (nested column).Buildable := by
    intro column
    have age : (Typed.column .int "users" column).expr.Buildable := .column ..
    refine .insert (.fromSelect (.insertInto _)
      (.filter (.selectAs _) (.inSubquery (.column ..) (.project (.fromTable _ (.selectAs _)) ?_))))
    exact .caseWhen (by simpa using .isNull age) (by simpa using age) nofun
  have usable (column : String) :
      (∀ m ∈ (nested column).names, UsableName m.name) ↔ UsableName column := by
    have names : (nested column).names.map (·.name) =
      ["archive", "users", "id", "users", "users", column, "users", column] := rfl
    have others : UsableName "archive" ∧ UsableName "users" ∧ UsableName "id" := by decide
    rw [← List.forall_mem_map, names]
    simp [others]
  have notEmpty : ∀ column, ¬ (nested column).IsEmptyUpdate := fun _ h => absurd h.1 nofun
  refine ⟨built, (validate_eq_ok_iff (built "age")).1.mpr ?_, fun column hc => ?_⟩
  · exact ⟨notEmpty "age", (usable "age").mpr (by decide)⟩
  · have unusable : ¬ UsableName column := by
      revert column
      decide
    cases hv : (nested column).validate with
    | ok u =>
      have passed := ((validate_eq_ok_iff (built _)).1.mp hv).2
      exact absurd ((usable column).mp passed) unusable
    | error e =>
      obtain ⟨fault, rfl⟩ := ((validate_eq_ok_iff (built _)).2 e hv).2.mpr (notEmpty column)
      exact ⟨fault, rfl⟩

end TypedSql
