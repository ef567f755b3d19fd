import TypedSql.Statement.Dynamic

/-!
When checks pass. Steps in a row give a result if all of them do, and else the error of the first
that fails, whatever is then made of it. An operation passes for the kinds of statement that it is
for, and a name if it can stand in SQL; a column list and a row are taken if they suit what the
insert has already.
-/

namespace TypedSql

theorem bind_eq_ok_iff {α β : Type} {r : SqlResult α} {k : α → SqlResult β} {b : β} :
    (do let a ← r; k a) = Except.ok b ↔ ∃ a, r = .ok a ∧ k a = .ok b := by
  cases r with
  | ok a => exact ⟨fun h => ⟨a, rfl, h⟩, fun ⟨_, ha, h⟩ => Except.ok.inj ha ▸ h⟩
  | error e => exact ⟨nofun, fun ⟨_, ha, _⟩ => nomatch ha⟩

theorem bind_eq_error_iff {α β : Type} {r : SqlResult α} {k : α → SqlResult β} {e : SqlError} :
    (do let a ← r; k a) = Except.error e ↔ r = .error e ∨ ∃ a, r = .ok a ∧ k a = .error e := by
  cases r with
  | ok a =>
    exact ⟨fun h => .inr ⟨a, rfl, h⟩,
      fun h => h.elim nofun fun ⟨_, ha, h⟩ => Except.ok.inj ha ▸ h⟩
  | error e' =>
    exact ⟨fun h => .inl (congrArg _ (Except.error.inj h)),
      fun h => h.elim (fun h => congrArg _ (Except.error.inj h)) fun ⟨_, ha, _⟩ => nomatch ha⟩

theorem andThen_eq_ok_iff {α : Type} {check : SqlResult Unit} {k : SqlResult α} {a : α} :
    (do check; k) = Except.ok a ↔ check = .ok () ∧ k = .ok a :=
  bind_eq_ok_iff.trans ⟨fun ⟨_, passes, h⟩ => ⟨passes, h⟩, fun ⟨passes, h⟩ => ⟨(), passes, h⟩⟩

theorem map_eq_ok_iff {ε α β : Type} {f : α → β} {r : Except ε α} {b : β} :
    r.map f = .ok b ↔ ∃ a, r = .ok a ∧ b = f a := by
  cases r with
  | ok a =>
    refine ⟨fun h => ⟨a, rfl, (Except.ok.inj h).symm⟩, ?_⟩
    rintro ⟨_, ⟨⟩, rfl⟩
    rfl
  | error e => exact ⟨nofun, fun ⟨_, ha, _⟩ => nomatch ha⟩

theorem map_eq_error_iff {ε α β : Type} {f : α → β} {r : Except ε α} {e : ε} :
    r.map f = .error e ↔ r = .error e := by
  cases r with
  | ok a => exact ⟨nofun, nofun⟩
  | error e' =>
    exact ⟨fun h => congrArg _ (Except.error.inj h), fun h => congrArg _ (Except.error.inj h)⟩

theorem mapError_eq_ok_iff {ε ε' α : Type} {f : ε → ε'} {r : Except ε α} {a : α} :
    r.mapError f = .ok a ↔ r = .ok a := by
  cases r with
  | ok a' => exact ⟨fun h => congrArg _ (Except.ok.inj h), fun h => congrArg _ (Except.ok.inj h)⟩
  | error e => exact ⟨nofun, nofun⟩

theorem mapError_eq_error_iff {ε ε' α : Type} {f : ε → ε'} {r : Except ε α} {e' : ε'} :
    r.mapError f = .error e' ↔ ∃ e, r = .error e ∧ e' = f e := by
  cases r with
  | ok a => exact ⟨nofun, fun ⟨_, he, _⟩ => nomatch he⟩
  | error e =>
    refine ⟨fun h => ⟨e, rfl, (Except.error.inj h).symm⟩, ?_⟩
    rintro ⟨_, ⟨⟩, rfl⟩
    rfl

theorem forM_eq_ok_iff {α : Type} {xs : List α} {check : α → SqlResult Unit} :
    xs.forM check = .ok () ↔ ∀ x ∈ xs, check x = .ok () := by
  induction xs with
  | nil => exact ⟨fun _ _ h => (nomatch h), fun _ => rfl⟩
  | cons x xs ih =>
    rw [List.forall_mem_cons, ← ih]
    exact andThen_eq_ok_iff

/-- Behind a first item, items with `P` and then one with `Q` begin with the first item or behind
it. -/
theorem exists_split_cons_iff {α : Type} {P Q : α → Prop} {x : α} {xs : List α} :
    (∃ before y after, x :: xs = before ++ y :: after ∧ (∀ z ∈ before, P z) ∧ Q y) ↔
      Q x ∨ P x ∧ ∃ before y after, xs = before ++ y :: after ∧ (∀ z ∈ before, P z) ∧ Q y := by
  constructor
  · rintro ⟨before, y, after, split, earlier, here⟩
    cases before with
    | nil =>
      cases split
      exact .inl here
    | cons z before =>
      cases split
      rw [List.forall_mem_cons] at earlier
      exact .inr ⟨earlier.1, before, y, after, rfl, earlier.2, here⟩
  · rintro (here | ⟨first, before, y, after, rfl, earlier, here⟩)
    · exact ⟨[], x, xs, rfl, nofun, here⟩
    · exact ⟨x :: before, y, after, rfl, List.forall_mem_cons.mpr ⟨first, earlier⟩, here⟩

/-- Checks in a row fail with the error of the first that fails. -/
theorem forM_eq_error_iff {α : Type} {xs : List α} {check : α → SqlResult Unit} {e : SqlError} :
    xs.forM check = .error e ↔
      ∃ before x after, xs = before ++ x :: after ∧ (∀ y ∈ before, check y = .ok ()) ∧
        check x = .error e := by
  induction xs with
  | nil => exact ⟨nofun, fun ⟨before, x, after, h, _⟩ => by simp at h⟩
  | cons x xs ih =>
    rw [exists_split_cons_iff, ← ih]
    exact bind_eq_error_iff.trans (or_congr_right ⟨fun ⟨_, h⟩ => h, fun h => ⟨(), h⟩⟩)

theorem option_forM_eq_ok_iff {α : Type} {x : Option α} {check : α → SqlResult Unit} :
    x.forM check = .ok () ↔ ∀ y ∈ x, check y = .ok () := by
  cases x with
  | none => exact ⟨fun _ _ h => (nomatch h), fun _ => rfl⟩
  | some y => simp [Option.forM]

theorem Statement.require_eq_ok_iff {s : Statement} {allowed : List StatementKind}
    {operation : String} : s.require allowed operation = .ok () ↔ s.kind ∈ allowed := by
  unfold require
  split <;> simp [*]

theorem nonNegative_eq_ok {clause : String} {n : Int64} (h : 0 ≤ n.toInt) :
    nonNegative clause n = .ok n.toInt.toNat :=
  if_neg (Int.not_lt.mpr h)

/-! ### Names -/

/-- The code points of white space. -/
def Text.whiteSpace : List Nat :=
  [0x09, 0x0a, 0x0b, 0x0c, 0x0d, 0x20, 0x85, 0xa0, 0x1680, 0x2000, 0x2001, 0x2002, 0x2003, 0x2004,
    0x2005, 0x2006, 0x2007, 0x2008, 0x2009, 0x200a, 0x2028, 0x2029, 0x202f, 0x205f, 0x3000]

theorem Text.isBlankChar_iff {c : Char} : isBlankChar c = true ↔ c.toNat ∈ whiteSpace := by
  simp only [isBlankChar, whiteSpace, Bool.or_eq_true, Bool.and_eq_true, decide_eq_true_eq,
    beq_iff_eq, List.mem_cons, List.not_mem_nil, or_false]
  omega

theorem Text.isBlankChar_eq_false_iff {c : Char} :
    isBlankChar c = false ↔ c.toNat ∉ whiteSpace := by
  rw [← isBlankChar_iff, Bool.not_eq_true]

/-- A name that can stand in SQL: it is not all white space and has no NUL in it. -/
def UsableName (name : String) : Prop :=
  (∃ c ∈ name.toList, c.toNat ∉ Text.whiteSpace) ∧ '\x00' ∉ name.toList

theorem not_isBlank_iff {name : String} :
    ¬ Text.isBlank name = true ↔ ∃ c ∈ name.toList, c.toNat ∉ Text.whiteSpace := by
  simp [Text.isBlank, ← Text.isBlankChar_eq_false_iff]

instance (name : String) : Decidable (UsableName name) :=
  decidable_of_iff (¬ Text.isBlank name = true ∧ '\x00' ∉ name.toList)
    (and_congr_left' not_isBlank_iff)

theorem checkName_eq_ok_iff {role : NameRole} {name : String} :
    checkName role name = .ok () ↔ UsableName name := by
  unfold checkName UsableName
  rw [← not_isBlank_iff]
  by_cases hb : Text.isBlank name = true
  · simp [hb]
  · by_cases hn : '\x00' ∈ name.toList <;> simp [hb, hn]

theorem checkName_eq_error {role : NameRole} {name : String} {e : SqlError}
    (h : checkName role name = .error e) :
    ¬ UsableName name ∧ ∃ fault, e = .invalidArgument fault := by
  refine ⟨fun hu => ?_, ?_⟩
  · rw [checkName_eq_ok_iff.mpr hu] at h
    cases h
  · unfold checkName at h
    split at h
    · exact ⟨_, (Except.error.inj h).symm⟩
    · split at h
      · exact ⟨_, (Except.error.inj h).symm⟩
      · cases h

/-! ### Columns and rows -/

namespace Clauses

variable {c c' : ClauseSet} {names : List String} {row : List Expr}

theorem checkArity_eq_ok_iff {expected found : Nat} :
    checkArity expected found = .ok () ↔ found = expected := by
  unfold checkArity
  by_cases h : expected = found
  · simp [h]
  · simp [h, Ne.symm h]

theorem checkArity_eq_error_iff {expected found : Nat} {e : SqlError} :
    checkArity expected found = .error e ↔
      found ≠ expected ∧ e = .arityMismatch expected found := by
  unfold checkArity
  by_cases h : expected = found
  · simp [h]
  · simp [h, Ne.symm h, eq_comm]

/-- The names can be the column list: there are some, all are usable, and the rows there are have a
value for each. -/
def AdmitsColumns (c : ClauseSet) (names : List String) : Prop :=
  names ≠ [] ∧ (∀ n ∈ names, UsableName n) ∧ ∀ row ∈ c.rows, row.length = names.length

/-- The row can be added: there are values in it, one for each column if columns are named. -/
def AdmitsRow (c : ClauseSet) (row : List Expr) : Prop :=
  row ≠ [] ∧ ∀ names ∈ c.columns, row.length = names.length

theorem setColumns_eq_ok_iff : c.setColumns names = .ok c' ↔
    c.AdmitsColumns names ∧ c' = { c with columns := some names } := by
  unfold setColumns AdmitsColumns
  by_cases hn : names.isEmpty = true
  · rw [if_pos hn]
    exact ⟨nofun, fun h => absurd (List.isEmpty_iff.mp hn) h.1.1⟩
  · have hn' : names ≠ [] := fun h => hn (List.isEmpty_iff.mpr h)
    rw [if_neg hn]
    refine (andThen_eq_ok_iff.trans (and_congr forM_eq_ok_iff andThen_eq_ok_iff)).trans ?_
    simp only [forM_eq_ok_iff, checkName_eq_ok_iff, checkArity_eq_ok_iff]
    exact ⟨fun ⟨usable, rows, h⟩ => ⟨⟨hn', usable, rows⟩, (Except.ok.inj h).symm⟩,
      fun ⟨⟨_, usable, rows⟩, h⟩ => ⟨usable, rows, congrArg _ h.symm⟩⟩

theorem pushRow_eq_ok_iff : c.pushRow row = .ok c' ↔
    c.AdmitsRow row ∧ c' = { c with source := none, rows := c.rows ++ [row] } := by
  unfold pushRow AdmitsRow
  by_cases hr : row.isEmpty = true
  · rw [if_pos hr]
    exact ⟨nofun, fun h => absurd (List.isEmpty_iff.mp hr) h.1.1⟩
  · have hr' : row ≠ [] := fun h => hr (List.isEmpty_iff.mpr h)
    rw [if_neg hr]
    refine andThen_eq_ok_iff.trans ?_
    simp only [option_forM_eq_ok_iff, checkArity_eq_ok_iff]
    exact ⟨fun ⟨columns, h⟩ => ⟨⟨hr', columns⟩, (Except.ok.inj h).symm⟩,
      fun ⟨⟨_, columns⟩, h⟩ => ⟨columns, congrArg _ h.symm⟩⟩

end Clauses

end TypedSql
