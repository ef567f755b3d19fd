import TypedSql.Postgres.Row
import TypedSql.Proofs.RowCounts
import TypedSql.Proofs.Widening

/-!
Rows of a server, whatever reads the bytes of its cells. A row is read if each of its columns has a
type that cells are read as and each cell that is not `NULL` is accepted for that type; its values
then have the types of their columns. Otherwise nothing of the row is handed out, and the error
names its first column with an unsupported type or with a cell that is not accepted.
-/

namespace TypedSql.Postgres.Driver

variable {d : Driver} {index : Nat} {column : Column} {cell : Option Cell} {bytes : Cell}
  {type : SqlType}

/-! ### One cell -/

/-- The bytes of a cell are accepted for a type. Numbers of single precision have bytes of their
own. -/
def Accepts (d : Driver) (type : SqlType) (oid : Nat) (bytes : Cell) : Prop :=
  if oid = singleOid then ∃ bits, d.single? bytes = some bits
  else ∃ x, d.scalar? type oid bytes = some x

/-- The cell of a column can be read. -/
def Readable (d : Driver) (column : Column) (cell : Option Cell) : Prop :=
  ∃ type, sqlType? column.oid = some type ∧
    ∀ bytes, cell = some bytes → d.Accepts type column.oid bytes

/-- Why the cell of a column, which is the column of the given index, cannot be read. -/
inductive Offends (d : Driver) (index : Nat) (column : Column) : Option Cell → DecodeFault → Prop
  | unsupported {cell : Option Cell} : sqlType? column.oid = none →
      Offends d index column cell (.unsupportedType (typeName column.oid))
  | malformed {type : SqlType} {bytes : Cell} : sqlType? column.oid = some type →
      ¬ d.Accepts type column.oid bytes →
      Offends d index column (some bytes) (.malformedCell index)

/-- A value is that of the cell of a column: it is of the type of the column and holds the scalar
that the bytes stand for. A number of single precision is the same number as a double. -/
structure Faithful (d : Driver) (column : Column) (cell : Option Cell) (v : Value) : Prop where
  null : v = .null ↔ cell = none
  type : cell ≠ none → sqlType? column.oid = some v.type
  scalar : ∀ bytes, cell = some bytes → column.oid ≠ singleOid →
    ∃ x, d.scalar? v.type column.oid bytes = some x ∧ v = .ofScalar v.type x
  single : ∀ bytes, cell = some bytes → column.oid = singleOid →
    ∃ bits x, d.single? bytes = some bits ∧ v = .double x ∧ x.number = Double.singleNumber bits

/-- The value that bytes are read as for a type. -/
def value? (d : Driver) (type : SqlType) (oid : Nat) (bytes : Cell) : Option Value :=
  if oid = singleOid then (d.single? bytes).map fun bits => .double (.ofSingleBits bits)
  else (d.scalar? type oid bytes).map (.ofScalar type)

/-- The table of decoders has all types that columns are read as, each with a decoder that reads
cells of that type. -/
theorem readCell_eq (mapped : sqlType? column.oid = some type) :
    d.readCell index column cell = Decoder.of (d.value? type) index column cell := by
  rw [readCell, mapped, Option.bind_some]
  by_cases single : column.oid = singleOid
  · obtain rfl : type = .double := by
      rw [single] at mapped
      exact (Option.some.inj mapped).symm
    show d.decodeDouble index column cell = _
    rw [decodeDouble, if_pos single]
    cases cell <;> simp [Decoder.of, value?, single]
  · have read : Decoder.of (d.value? type) index column cell =
        d.decodeScalar type index column cell := by
      cases cell <;> simp [Decoder.of, value?, decodeScalar, single]
    rw [read]
    cases type with
    | double => exact if_neg single
    | null | record | unit =>
      unfold sqlType? at mapped
      split at mapped <;> cases mapped
    | _ => rfl

theorem readCell_unsupported (unmapped : sqlType? column.oid = none) :
    d.readCell index column cell =
      .error (.decode column.name (.unsupportedType (typeName column.oid))) := by
  rw [readCell, unmapped]
  rfl

theorem accepts_iff : d.Accepts type column.oid bytes ↔
    ∃ v, d.value? type column.oid bytes = some v := by
  unfold Accepts value?
  split <;> simp

theorem faithful_null : d.Faithful column none .null where
  null := ⟨fun _ => rfl, fun _ => rfl⟩
  type h := absurd rfl h
  scalar := nofun
  single := nofun

theorem faithful_of_value? (mapped : sqlType? column.oid = some type) {v : Value}
    (hv : d.value? type column.oid bytes = some v) : d.Faithful column (some bytes) v := by
  unfold value? at hv
  split at hv
  · next single =>
    obtain ⟨bits, read, rfl⟩ := Option.map_eq_some_iff.mp hv
    rw [single] at mapped
    exact {
      null := ⟨nofun, nofun⟩
      type := fun _ => by
        rw [single]
        rfl
      scalar := fun _ _ other => absurd single other
      single := by
        rintro _ ⟨⟩ -
        exact ⟨bits, _, read, rfl, Double.number_ofSingleBits bits⟩ }
  · next other =>
    obtain ⟨x, read, rfl⟩ := Option.map_eq_some_iff.mp hv
    exact {
      null := ⟨fun h => absurd h (Value.ofScalar_ne_null type x), nofun⟩
      type := fun _ => by rw [mapped, Value.type_ofScalar]
      scalar := by
        rintro _ ⟨⟩ -
        rw [Value.type_ofScalar]
        exact ⟨x, read, rfl⟩
      single := fun _ _ single => absurd single other }

theorem readCell_of_readable (h : d.Readable column cell) :
    ∃ v, d.readCell index column cell = .ok v ∧ d.Faithful column cell v := by
  obtain ⟨type, mapped, accepted⟩ := h
  rw [readCell_eq mapped]
  cases cell with
  | none => exact ⟨.null, rfl, faithful_null⟩
  | some bytes =>
    obtain ⟨v, hv⟩ := accepts_iff.mp (accepted bytes rfl)
    exact ⟨v, by rw [Decoder.of, hv], faithful_of_value? mapped hv⟩

theorem readCell_of_offends {fault : DecodeFault} (h : d.Offends index column cell fault) :
    d.readCell index column cell = .error (.decode column.name fault) := by
  cases h with
  | unsupported unmapped => exact readCell_unsupported unmapped
  | malformed mapped refused =>
    rw [accepts_iff, ← Option.isSome_iff_exists, Option.not_isSome_iff_eq_none] at refused
    rw [readCell_eq mapped, Decoder.of, refused]

theorem readable_or_offends (d : Driver) (index : Nat) (column : Column) (cell : Option Cell) :
    d.Readable column cell ∨ ∃ fault, d.Offends index column cell fault := by
  cases mapped : sqlType? column.oid with
  | none => exact .inr ⟨_, .unsupported mapped⟩
  | some type =>
    cases cell with
    | none => exact .inl ⟨type, mapped, nofun⟩
    | some bytes =>
      by_cases accepted : d.Accepts type column.oid bytes
      · exact .inl ⟨type, mapped, fun _ h => Option.some.inj h ▸ accepted⟩
      · exact .inr ⟨_, .malformed mapped accepted⟩

theorem readCell_eq_ok {v : Value} (h : d.readCell index column cell = .ok v) :
    d.Readable column cell ∧ d.Faithful column cell v := by
  rcases readable_or_offends d index column cell with readable | ⟨fault, offends⟩
  · obtain ⟨v', read, faithful⟩ : ∃ v', d.readCell index column cell = .ok v' ∧ _ :=
      readCell_of_readable readable
    rw [h] at read
    exact ⟨readable, Except.ok.inj read ▸ faithful⟩
  · rw [readCell_of_offends offends] at h
    cases h

theorem readCell_succeeds_iff :
    (∃ v, d.readCell index column cell = .ok v) ↔ d.Readable column cell := by
  constructor
  · rintro ⟨v, h⟩
    exact (readCell_eq_ok h).1
  · intro readable
    obtain ⟨v, h, -⟩ := readCell_of_readable readable
    exact ⟨v, h⟩

theorem readCell_eq_error_iff {e : SqlError} : d.readCell index column cell = .error e ↔
    ∃ fault, d.Offends index column cell fault ∧ e = .decode column.name fault := by
  constructor
  · intro h
    rcases readable_or_offends d index column cell with readable | ⟨fault, offends⟩
    · obtain ⟨v, read, -⟩ := readCell_of_readable readable
      rw [h] at read
      cases read
    · rw [readCell_of_offends offends] at h
      exact ⟨fault, offends, (Except.error.inj h).symm⟩
  · rintro ⟨fault, offends, rfl⟩
    exact readCell_of_offends offends

/-- The wording tells a column of an unsupported type from one with a malformed cell. -/
theorem Offends.text_eq_iff {fault : DecodeFault} (h : d.Offends index column cell fault) :
    fault.text = "unsupported column type " ++ typeName column.oid ↔
      sqlType? column.oid = none := by
  cases h with
  | unsupported unmapped => exact ⟨fun _ => unmapped, fun _ => rfl⟩
  | malformed mapped =>
    refine ⟨fun h => ?_, fun h => ?_⟩
    · have words : "error deserializing column " ++ toString index = _ := h
      have first := congrArg (List.head? ∘ String.toList) words
      rw [Function.comp_apply, Function.comp_apply, String.toList_append, String.toList_append,
        List.head?_append_of_ne_nil _ (by decide),
        List.head?_append_of_ne_nil _ (by decide)] at first
      exact absurd first (by decide)
    · rw [mapped] at h
      cases h

/-! ### Rows -/

variable {columns : List Column} {row : Row}

theorem readRow_succeeds_iff : (∃ r, d.readRow columns row = .ok r) ↔
    ∀ entry ∈ columns.zip row, d.Readable entry.1 entry.2 := by
  rw [readRow, (readsAll_mapM _ _).readable]
  simp only [readCell_succeeds_iff]
  conv_rhs => rw [← List.zipIdx_map_fst 0 (columns.zip row), List.forall_mem_map]

theorem faithful_of_readRow {r : Record} (h : d.readRow columns row = .ok r) :
    List.Forall₂ (fun entry v => d.Faithful entry.1 entry.2 v) (columns.zip row) r := by
  have read := (mapM_eq_ok_iff.mp h).imp fun _ _ => And.right ∘ readCell_eq_ok
  rw [← List.zipIdx_map_fst 0 (columns.zip row), List.forall₂_map_left_iff]
  exact read

theorem readRow_eq_error_iff {e : SqlError} : d.readRow columns row = .error e ↔
    ∃ before column cell after fault, columns.zip row = before ++ (column, cell) :: after ∧
      (∀ entry ∈ before, d.Readable entry.1 entry.2) ∧
      d.Offends before.length column cell fault ∧ e = .decode column.name fault := by
  rw [readRow, mapM_eq_error_iff, FirstUnreadable]
  simp only [readCell_succeeds_iff, readCell_eq_error_iff]
  constructor
  · rintro ⟨_, _, _, split, readable, fault, offends, rfl⟩
    obtain ⟨before, rest, zipped, rfl, rest_eq⟩ := List.zipIdx_eq_append_iff.mp split
    obtain ⟨⟨column, cell⟩, after, rfl, rfl, -⟩ := List.zipIdx_eq_cons_iff.mp rest_eq.symm
    rw [Nat.zero_add] at offends
    refine ⟨before, column, cell, after, fault, zipped, ?_, offends, rfl⟩
    rwa [← List.zipIdx_map_fst 0 before, List.forall_mem_map]
  · rintro ⟨before, column, cell, after, fault, zipped, readable, offends, rfl⟩
    refine ⟨before.zipIdx, ((column, cell), before.length), after.zipIdx (before.length + 1), ?_,
      ?_, fault, offends, rfl⟩
    · rw [zipped, List.zipIdx_append, List.zipIdx_cons, Nat.zero_add]
    · rwa [← List.zipIdx_map_fst 0 before, List.forall_mem_map] at readable

/-- Let a row have a cell for each column. It is read if and only if each column has a type that
cells are read as and each cell that is not `NULL` is accepted for it. The record has one value for
each column, in their order: `NULL` where the cell is, and else of the type of the column. If the
row is not read, the error names its first column of an unsupported type or with a cell that is not
accepted, and speaks of an unsupported type only for types that cells are not read as. Of many rows
the first that is not read decides. -/
theorem records_of_rows (d : Driver) (columns : List Column) :
    (∀ row : Row, row.length = columns.length →
      ((∃ r, d.readRow columns row = .ok r) ↔
        ∀ entry ∈ columns.zip row, d.Readable entry.1 entry.2) ∧
      (∀ r, d.readRow columns row = .ok r → r.length = columns.length ∧
        List.Forall₂ (fun entry v => d.Faithful entry.1 entry.2 v) (columns.zip row) r) ∧
      ∀ e, d.readRow columns row = .error e ↔
        ∃ before column cell after fault, columns.zip row = before ++ (column, cell) :: after ∧
          (∀ entry ∈ before, d.Readable entry.1 entry.2) ∧
          d.Offends before.length column cell fault ∧ e = .decode column.name fault ∧
          (fault.text = "unsupported column type " ++ typeName column.oid ↔
            sqlType? column.oid = none)) ∧
    ∀ rows, ReadsAll (d.readRow columns) rows (d.readRows columns rows) := by
  refine ⟨fun row whole => ⟨readRow_succeeds_iff, fun r h => ?_, fun e => ?_⟩,
    fun rows => readsAll_mapM _ rows⟩
  · have faithful := faithful_of_readRow h
    refine ⟨?_, faithful⟩
    rw [← faithful.length_eq, List.length_zip, whole, Nat.min_self]
  · rw [readRow_eq_error_iff]
    constructor
    · rintro ⟨before, column, cell, after, fault, split, readable, offends, h⟩
      exact ⟨before, column, cell, after, fault, split, readable, offends, h, offends.text_eq_iff⟩
    · rintro ⟨before, column, cell, after, fault, split, readable, offends, h, -⟩
      exact ⟨before, column, cell, after, fault, split, readable, offends, h⟩

/-- An integer and a number of single precision. The second of three rows has too few bytes in its
second cell, and the third in its first: the error is that of the second row. -/
theorem records_of_rows_malformed :
    let columns : List Column := [⟨"id", 23⟩, ⟨"score", singleOid⟩]
    let good : Row := [some [0, 0, 0, 7], some [63, 192, 0, 0]]
    let bad : Row := [none, some [63]]
    let fault := SqlError.decode "score" (.malformedCell 1)
    good.length = columns.length ∧ bad.length = columns.length ∧
      (∀ entry ∈ columns.zip good, binary.Readable entry.1 entry.2) ∧
      binary.readRow columns good = .ok [.int 7, .double ⟨0x3ff8000000000000⟩] ∧
      binary.readRow columns bad = .error fault ∧
      binary.readRows columns [good, bad, [some [], none]] = .error fault := by
  intro columns good bad fault
  obtain ⟨each, all⟩ := records_of_rows binary columns
  obtain ⟨readable, -, -⟩ := each good rfl
  obtain ⟨-, -, refused⟩ := each bad rfl
  have widened : Double.ofSingleBits 0x3fc00000 = ⟨0x3ff8000000000000⟩ := by decide +kernel
  have id : binary.readCell 0 ⟨"id", 23⟩ (some [0, 0, 0, 7]) = .ok (.int 7) := by
    have seven : (signedOfSize? 4 [0, 0, 0, 7]).map Int32.ofInt = some 7 := by decide
    have scalar : binary.scalar? .int 23 [0, 0, 0, 7] = some (7 : Int32) := seven
    rw [readCell_eq (rfl : sqlType? 23 = some .int), Decoder.of, value?, if_neg (by decide), scalar]
    rfl
  have score : binary.readCell 1 ⟨"score", singleOid⟩ (some [63, 192, 0, 0]) =
      .ok (.double ⟨0x3ff8000000000000⟩) := by
    have bits : binary.single? [63, 192, 0, 0] = some 0x3fc00000 := by decide
    rw [readCell_eq (rfl : sqlType? singleOid = some .double), Decoder.of, value?, if_pos rfl, bits,
      Option.map_some, widened]
  have read : binary.readRow columns good = .ok [.int 7, .double ⟨0x3ff8000000000000⟩] :=
    mapM_eq_ok_iff.mpr (.cons id (.cons score .nil))
  have unread : binary.readRow columns bad = .error fault := by
    have refuses : ¬ binary.Accepts .double singleOid [63] := by
      rw [Accepts, if_pos rfl]
      rintro ⟨_, ⟨⟩⟩
    have mapped : sqlType? singleOid = some .double := rfl
    refine (refused fault).mpr ⟨[(⟨"id", 23⟩, none)], ⟨"score", singleOid⟩, some [63], [], _, rfl,
      List.forall_mem_cons.mpr ⟨⟨.int, rfl, nofun⟩, nofun⟩, .malformed mapped refuses, rfl, ?_⟩
    exact (Offends.malformed mapped refuses).text_eq_iff
  refine ⟨rfl, rfl, readable.mp ⟨_, read⟩, read, unread, ((all _).error fault).mpr ?_⟩
  refine ⟨[good], bad, _, rfl, ?_, unread⟩
  rintro _ (_ | ⟨_, ⟨⟩⟩)
  exact ⟨_, read⟩

end TypedSql.Postgres.Driver
