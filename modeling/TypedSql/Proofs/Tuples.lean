import TypedSql.Proofs.Checks
import TypedSql.Value.Decode

/-!
Rows read as tuples. A row is read if it has a column for each part of the tuple and each column can
be read as its part; the first column that is missing or refused is the error, under its index.
What stands for a tuple in a row is read back as that tuple, whatever columns follow.
-/

namespace TypedSql

/-! ### One column -/

namespace Record

variable {α : Type} {read : Value → Except DecodeFault α} {r : Record} {i : Nat}

/-- Why the column of an index is not read: it is not there, or its value is refused. -/
def Refuses (r : Record) (i : Nat) (read : Value → Except DecodeFault α) (fault : DecodeFault) :
    Prop :=
  (r.length ≤ i ∧ fault = .missingColumn ∧ fault.text = "column index out of range") ∨
    ∃ v, r[i]? = some v ∧ read v = .error fault

theorem readAt_eq_ok_iff {x : α} :
    r.readAt read i = .ok x ↔ ∃ v, r[i]? = some v ∧ read v = .ok x := by
  unfold readAt
  cases r[i]? with
  | none => exact ⟨nofun, fun ⟨_, h, _⟩ => nomatch h⟩
  | some v => simp only [Option.some.injEq, exists_eq_left', mapError_eq_ok_iff]

theorem readAt_eq_error_iff {e : SqlError} : r.readAt read i = .error e ↔
    ∃ fault, r.Refuses i read fault ∧ e = .decode (toString i) fault := by
  unfold readAt Refuses
  cases hv : r[i]? with
  | none =>
    have missing := List.getElem?_eq_none_iff.mp hv
    refine ⟨fun h => ⟨_, .inl ⟨missing, rfl, rfl⟩, (Except.error.inj h).symm⟩, ?_⟩
    rintro ⟨fault, ⟨-, rfl, -⟩ | ⟨_, h, -⟩, rfl⟩
    · rfl
    · cases h
  | some v =>
    have there : ¬ r.length ≤ i := fun h => by simp [List.getElem?_eq_none_iff.mpr h] at hv
    simp only [there, false_and, false_or, Option.some.injEq, exists_eq_left',
      mapError_eq_error_iff]

end Record

/-! ### Columns in a row -/

/-- The part of a tuple at an index. -/
def Tuple.get : {ws : List Wanted} → Tuple ws → (i : Nat) → (h : i < ws.length) → (ws[i]).Content
  | _ :: _, .cons x _, 0, _ => x
  | _ :: _, .cons _ xs, i + 1, h => xs.get i (Nat.lt_of_succ_lt_succ h)

namespace Record

variable {ws : List Wanted} {r : Record}

theorem readTupleFrom_eq_ok_iff {k : Nat} {t : Tuple ws} : r.readTupleFrom k ws = .ok t ↔
    ∀ i (h : i < ws.length), r.readAt ws[i].read (k + i) = .ok (t.get i h) := by
  induction ws generalizing k with
  | nil =>
    cases t
    exact ⟨fun _ _ h => (nomatch h), fun _ => rfl⟩
  | cons w ws ih =>
    cases t with
    | cons x xs =>
      refine bind_eq_ok_iff.trans ⟨?_, fun h => ⟨x, h 0 (Nat.zero_lt_succ _), ?_⟩⟩
      · rintro ⟨y, hy, h⟩
        obtain ⟨ys, hys, h⟩ := bind_eq_ok_iff.mp h
        obtain ⟨rfl, rfl⟩ : y = x ∧ ys = xs := by
          cases h
          exact ⟨rfl, rfl⟩
        intro i hi
        cases i with
        | zero => exact hy
        | succ i =>
          rw [← Nat.add_assoc, Nat.add_right_comm]
          exact ih.mp hys i (Nat.lt_of_succ_lt_succ hi)
      · refine bind_eq_ok_iff.mpr ⟨xs, ih.mpr fun i hi => ?_, rfl⟩
        rw [Nat.add_right_comm]
        exact h (i + 1) (Nat.succ_lt_succ hi)

/-- The first column that cannot be read is the error. -/
theorem readTupleFrom_eq_error_iff {k : Nat} {e : SqlError} : r.readTupleFrom k ws = .error e ↔
    ∃ i, ∃ h : i < ws.length, r.readAt ws[i].read (k + i) = .error e ∧
      ∀ j (hj : j < i), ∃ x : ws[j].Content, r.readAt ws[j].read (k + j) = .ok x := by
  induction ws generalizing k with
  | nil => exact ⟨nofun, fun ⟨_, h, _⟩ => nomatch h⟩
  | cons w ws ih =>
    refine bind_eq_error_iff.trans ⟨?_, ?_⟩
    · rintro (h | ⟨x, hx, h⟩)
      · exact ⟨0, Nat.zero_lt_succ _, h, fun j hj => nomatch hj⟩
      · obtain h | ⟨_, _, h⟩ := bind_eq_error_iff.mp h
        · obtain ⟨i, hi, refused, earlier⟩ := ih.mp h
          rw [Nat.add_right_comm] at refused
          refine ⟨i + 1, Nat.succ_lt_succ hi, refused, fun j hj => ?_⟩
          cases j with
          | zero => exact ⟨x, hx⟩
          | succ j =>
            have before := earlier j (Nat.lt_of_succ_lt_succ hj)
            rw [Nat.add_right_comm] at before
            exact before
        · cases h
    · rintro ⟨i, hi, refused, earlier⟩
      cases i with
      | zero => exact .inl refused
      | succ i =>
        obtain ⟨x, hx⟩ := earlier 0 (Nat.zero_lt_succ _)
        refine .inr ⟨x, hx, bind_eq_error_iff.mpr (.inl (ih.mpr ?_))⟩
        refine ⟨i, Nat.lt_of_succ_lt_succ hi, ?_, fun j hj => ?_⟩
        · rw [Nat.add_right_comm]
          exact refused
        · rw [Nat.add_right_comm]
          exact earlier (j + 1) (Nat.succ_lt_succ hj)

end Record

/-! ### What stands for a tuple -/

/-- Whether the values that stand for what is read tell it again: not if `NULL` can stand for two
things, as for nothing and for a part that is nothing. -/
def Wanted.IsFlat : Wanted → Prop
  | scalar _ | value | optional (scalar _) => True
  | optional _ => False

theorem Value.map_decodeInteger {α : Type} {f : Int → α} {expected : SqlType}
    {least greatest i : Int} {v : Value} (h : v.integer? = some i) (low : least ≤ i)
    (high : i ≤ greatest) : (decodeInteger expected least greatest v).map f = .ok (f i) := by
  rw [decodeInteger, h]
  dsimp only
  rw [if_pos ⟨low, high⟩]
  rfl

theorem Value.decodeScalar_ofScalar (t : SqlType) (x : t.Scalar) :
    (ofScalar t x).decodeScalar t = .ok x := by
  cases t with
  | smallInt =>
    exact (map_decodeInteger rfl (Int16.minValue_le_toInt x) (Int16.toInt_le x)).trans
      (congrArg _ (Int16.ofInt_toInt x))
  | int =>
    exact (map_decodeInteger rfl (Int32.minValue_le_toInt x) (Int32.toInt_le x)).trans
      (congrArg _ (Int32.ofInt_toInt x))
  | bigInt =>
    exact (map_decodeInteger rfl (Int64.minValue_le_toInt x) (Int64.toInt_le x)).trans
      (congrArg _ (Int64.ofInt_toInt x))
  | null | record | unit => cases x
  | _ => rfl

theorem Wanted.read_optional {w : Wanted} {v : Value} (h : v ≠ .null) :
    (optional w).read v = (w.read v).map some := by
  cases v with
  | null => exact absurd rfl h
  | _ => rfl

theorem Wanted.read_toValue {w : Wanted} (h : w.IsFlat) (x : w.Content) :
    w.read (w.toValue x) = .ok x := by
  cases w with
  | scalar t => exact Value.decodeScalar_ofScalar t x
  | value => rfl
  | optional w =>
    cases w with
    | scalar t =>
      cases x with
      | none => rfl
      | some x =>
        show (optional (scalar t)).read (.ofScalar t x) = _
        rw [read_optional (Value.ofScalar_ne_null t x)]
        exact congrArg (Except.map some) (Value.decodeScalar_ofScalar t x)
    | value | optional => cases h

theorem Tuple.length_toRecord {ws : List Wanted} (t : Tuple ws) :
    t.toRecord.length = ws.length := by
  induction t with
  | nil => rfl
  | cons x xs ih => exact congrArg Nat.succ ih

theorem Tuple.getElem?_toRecord {ws : List Wanted} (t : Tuple ws) (i : Nat) (h : i < ws.length) :
    t.toRecord[i]? = some (ws[i].toValue (t.get i h)) := by
  induction t generalizing i with
  | nil => cases h
  | cons x xs ih =>
    cases i with
    | zero => rfl
    | succ i => exact ih i (Nat.lt_of_succ_lt_succ h)

/-! ### Whole rows -/

namespace Record

variable {ws : List Wanted} {r extra : Record}

theorem readTuple_eq_ok_iff {t : Tuple ws} : r.readTuple ws = .ok t ↔
    ∀ i (h : i < ws.length), ∃ v, r[i]? = some v ∧ ws[i].read v = .ok (t.get i h) := by
  simp only [readTuple, readTupleFrom_eq_ok_iff, readAt_eq_ok_iff, Nat.zero_add]

theorem readTuple_eq_error_iff {e : SqlError} : r.readTuple ws = .error e ↔
    ∃ i, ∃ h : i < ws.length, ∃ fault, e = .decode (toString i) fault ∧
      r.Refuses i ws[i].read fault ∧
      ∀ j (hj : j < i), ∃ v, ∃ x : ws[j].Content, r[j]? = some v ∧ ws[j].read v = .ok x := by
  rw [readTuple, readTupleFrom_eq_error_iff]
  simp only [readAt_eq_ok_iff, readAt_eq_error_iff, Nat.zero_add]
  grind

theorem readAt_append {α : Type} {read : Value → Except DecodeFault α} {i : Nat}
    (h : i < r.length) : (r ++ extra : Record).readAt read i = r.readAt read i := by
  rw [readAt, List.getElem?_append_left h, readAt]

theorem readTupleFrom_append {k : Nat} (h : k + ws.length ≤ r.length) :
    (r ++ extra : Record).readTupleFrom k ws = r.readTupleFrom k ws := by
  induction ws generalizing k with
  | nil => rfl
  | cons w ws ih =>
    rw [List.length_cons] at h
    rw [readTupleFrom, readTupleFrom, readAt_append (by omega), ih (by omega)]

theorem readTuple_succeeds_iff : (∃ t, r.readTuple ws = .ok t) ↔ ws.length ≤ r.length ∧
    ∀ i (h : i < ws.length) v, r[i]? = some v → ∃ x : ws[i].Content, ws[i].read v = .ok x := by
  constructor
  · rintro ⟨t, ht⟩
    rw [readTuple_eq_ok_iff] at ht
    refine ⟨Nat.not_lt.mp fun short => ?_, fun i h v hv => ?_⟩
    · obtain ⟨v, hv, -⟩ := ht r.length short
      simp at hv
    · obtain ⟨v', hv', read⟩ := ht i h
      obtain rfl : v' = v := Option.some.inj (hv'.symm.trans hv)
      exact ⟨_, read⟩
  · rintro ⟨enough, readable⟩
    cases hr : r.readTuple ws with
    | ok t => exact ⟨t, rfl⟩
    | error e =>
      obtain ⟨i, h, fault, -, refused, -⟩ := readTuple_eq_error_iff.mp hr
      rcases refused with ⟨missing, -⟩ | ⟨v, hv, refused⟩
      · omega
      · obtain ⟨x, read⟩ := readable i h v hv
        rw [refused] at read
        cases read

theorem readTuple_toRecord (flat : ∀ w ∈ ws, w.IsFlat) (t : Tuple ws) :
    (t.toRecord ++ extra : Record).readTuple ws = .ok t := by
  have same : (t.toRecord ++ extra : Record).readTuple ws = t.toRecord.readTuple ws :=
    readTupleFrom_append (Nat.le_of_eq (by rw [Nat.zero_add, t.length_toRecord]))
  rw [same, readTuple_eq_ok_iff]
  exact fun i h => ⟨_, t.getElem?_toRecord i h, Wanted.read_toValue (flat _ (ws.getElem_mem h)) _⟩

end Record

/-- A row is read as a tuple if and only if there is a column for each part and each of these
columns is read as its part, whatever follows them; otherwise the error names the first column that
is missing or refused by its index. A tuple without nested options is read back from the row that
stands for it, with further columns behind it or none. Values that are not `NULL` are read the same
whether `NULL` would be allowed or not. -/
theorem tuples_of_record (ws : List Wanted) :
    (∀ r : Record,
      ((∃ t, r.readTuple ws = .ok t) ↔ ws.length ≤ r.length ∧
        ∀ i (h : i < ws.length) v, r[i]? = some v → ∃ x : ws[i].Content, ws[i].read v = .ok x) ∧
      (∀ t, r.readTuple ws = .ok t ↔ ∀ i (h : i < ws.length),
        ∃ v, r[i]? = some v ∧ ws[i].read v = .ok (t.get i h)) ∧
      (∀ e, r.readTuple ws = .error e ↔ ∃ i, ∃ h : i < ws.length, ∃ fault,
        e = .decode (toString i) fault ∧ r.Refuses i ws[i].read fault ∧
        ∀ j (hj : j < i), ∃ v, ∃ x : ws[j].Content, r[j]? = some v ∧ ws[j].read v = .ok x) ∧
      ∀ extra, ws.length ≤ r.length → (r ++ extra : Record).readTuple ws = r.readTuple ws) ∧
    ((∀ w ∈ ws, w.IsFlat) → ∀ (t : Tuple ws) (extra : Record),
      (t.toRecord ++ extra : Record).readTuple ws = .ok t) ∧
    ∀ (w : Wanted) (v : Value), v ≠ .null → (Wanted.optional w).read v = (w.read v).map some := by
  refine ⟨fun r => ⟨Record.readTuple_succeeds_iff, fun _ => Record.readTuple_eq_ok_iff,
    fun _ => Record.readTuple_eq_error_iff, fun extra enough => ?_⟩,
    fun flat t extra => Record.readTuple_toRecord flat t, fun _ _ => Wanted.read_optional⟩
  exact Record.readTupleFrom_append (by rwa [Nat.zero_add])

/-- A text, a 64-bit integer or nothing, and a 16-bit integer. A tuple of them comes back from its
row with a column behind it; an integer that is too large is the error of the third column, and a
row of one column is an error of the second. -/
theorem tuples_of_record_narrow :
    let ws := [Wanted.scalar .text, .optional (.scalar .bigInt), .scalar .smallInt]
    let t : Tuple ws := .cons "ann" (.cons none (.cons (7 : Int16) .nil))
    (∀ w ∈ ws, w.IsFlat) ∧
      Record.readTuple [.text "ann", .null, .smallInt 7, .bool true] ws = .ok t ∧
      Record.readTuple [.text "ann", .null, .int 40000] ws =
        .error (.decode "2" (.outOfRange "40000" .smallInt)) ∧
      Record.readTuple [.text "ann"] ws = .error (.decode "1" .missingColumn) := by
  intro ws t
  obtain ⟨rows, back, -⟩ := tuples_of_record ws
  have flat : ∀ w ∈ ws, w.IsFlat := by simp [ws, Wanted.IsFlat]
  refine ⟨flat, back flat t [.bool true], ?_, ?_⟩
  · refine ((rows _).2.2.1 _).mpr
      ⟨2, by decide, _, rfl, .inr ⟨.int 40000, rfl, rfl⟩, fun j hj => ?_⟩
    match j with
    | 0 => exact ⟨_, "ann", rfl, rfl⟩
    | 1 => exact ⟨_, none, rfl, rfl⟩
  · refine ((rows _).2.2.1 _).mpr
      ⟨1, by decide, _, rfl, .inl ⟨by decide, rfl, rfl⟩, fun j hj => ?_⟩
    match j with
    | 0 => exact ⟨_, "ann", rfl, rfl⟩

end TypedSql
