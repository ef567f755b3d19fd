import TypedSql.Proofs.CalendarReading
import TypedSql.Proofs.PayloadReading
import TypedSql.Proofs.StoredJson
import TypedSql.Value.Equality

/-!
Which rows come back from their stored form. A row is read back as an equal one exactly if its
doubles are, those in its JSON documents among them, and its documents leave room for the row
around them; values of all other types always come back.
-/

namespace TypedSql

open Text

/-! ### Payloads -/

namespace Value

/-- What a value is read back as from its stored form within a row. -/
def fromStored? (v : Value) : Option Value :=
  (v.taggedPayload.reread? (Json.maxDepth - 2)).bind (ofPayload? v.type)

/-- The value is read back from its stored form as an equal one. -/
def ComesBack (v : Value) : Prop :=
  ∃ v', v.fromStored? = some v' ∧ v'.same v = true

/-- A double survives if its text is read as itself. A document survives if it leaves room for the
row and the value around it and its doubles survive. Other values always do. -/
def Survives : Value → Prop
  | double x => x.Survives
  | json j => j.depth ≤ Json.maxDepth - 2 ∧ ∀ x ∈ j.reals, x.Survives
  | _ => True

theorem reread?_ofInt64 (n : Int64) :
    (JsonNumber.ofInt64 n).reread? = some (.number (.ofInt64 n)) := by
  unfold JsonNumber.ofInt64
  split
  · next h => rw [JsonNumber.reread?, JsonNumber.ofInt64, if_pos h]
  · rfl

theorem integer?_ofInt64 (n : Int64) : (JsonNumber.ofInt64 n).integer? = some n.toInt := by
  unfold JsonNumber.ofInt64
  split
  · rfl
  · next h =>
    have nonneg : 0 ≤ n.toInt := Int.not_lt.mp fun hn => h (Int64.lt_iff_toInt_lt.mpr hn)
    have := Json.natAbs_toInt nonneg
    rw [JsonNumber.integer?, ← this, Int.natAbs_of_nonneg nonneg]

theorem payloadInteger?_ofInt64 {n : Int64} {least greatest : Int} (hl : least ≤ n.toInt)
    (hg : n.toInt ≤ greatest) :
    payloadInteger? least greatest (.number (.ofInt64 n)) = some n.toInt := by
  rw [payloadInteger?, integer?_ofInt64]
  exact if_pos ⟨hl, hg⟩

/-- An integer of any width goes through 64 bits. -/
theorem fromStored?_integer {v : Value} {n : Int64} {least greatest : Int} (wrap : Int → Value)
    (payload : v.taggedPayload = .number (.ofInt64 n))
    (read : ∀ j, ofPayload? v.type j = (payloadInteger? least greatest j).map wrap)
    (hl : least ≤ n.toInt) (hg : n.toInt ≤ greatest) : v.fromStored? = some (wrap n.toInt) := by
  rw [fromStored?, payload, Json.reread?, reread?_ofInt64, Option.bind_some, read,
    payloadInteger?_ofInt64 hl hg, Option.map_some]

/-- A payload that is written as a text is read from that text. -/
theorem fromStored?_text {α : Type} {v : Value} {text : List Char} {x : α} (wrap : α → Value)
    (read : List Char → Option α) (payload : v.taggedPayload = .string (String.ofList text))
    (reader : ∀ s, ofPayload? v.type (.string s) = (read s.toList).map wrap)
    (hx : read text = some x) : v.fromStored? = some (wrap x) := by
  rw [fromStored?, payload, Json.reread?, Option.bind_some, reader, String.toList_ofList, hx,
    Option.map_some]

theorem fromStored?_smallInt (n : Int16) : (smallInt n).fromStored? = some (smallInt n) := by
  have value := Int16.toInt_toInt64 n
  rw [fromStored?_integer (fun i => smallInt (Int16.ofInt i)) rfl (fun _ => rfl)
    (value ▸ n.minValue_le_toInt) (value ▸ n.toInt_le), value, Int16.ofInt_toInt]

theorem fromStored?_int (n : Int32) : (int n).fromStored? = some (int n) := by
  have value := Int32.toInt_toInt64 n
  rw [fromStored?_integer (fun i => int (Int32.ofInt i)) rfl (fun _ => rfl)
    (value ▸ n.minValue_le_toInt) (value ▸ n.toInt_le), value, Int32.ofInt_toInt]

theorem fromStored?_bigInt (n : Int64) : (bigInt n).fromStored? = some (bigInt n) := by
  rw [fromStored?_integer (fun i => bigInt (Int64.ofInt i)) rfl (fun _ => rfl)
    n.minValue_le_toInt n.toInt_le, Int64.ofInt_toInt]

theorem comesBack_double (x : Double) : (double x).ComesBack ↔ x.Survives := by
  rw [ComesBack, fromStored?, taggedPayload, Json.reread?, JsonNumber.reread?, Double.Survives]
  split
  · next hx =>
    rw [and_iff_right hx]
    constructor
    · rintro ⟨v, hv, hs⟩
      obtain ⟨j, hj, hv⟩ := Option.bind_eq_some_iff.mp hv
      obtain ⟨y, hy, rfl⟩ := Option.map_eq_some_iff.mp hj
      cases hv
      obtain rfl : y = x := eq_of_beq hs
      exact hy
    · intro h
      exact ⟨double x, by rw [h]; rfl, beq_self_eq_true x⟩
  · next hx =>
    refine iff_of_false ?_ fun h => hx h.1
    rintro ⟨v, hv, -⟩
    cases hv

theorem comesBack_json {j : Json} (h : j.WellFormed) :
    (json j).ComesBack ↔ j.ComesBack (Json.maxDepth - 2) := by
  rw [ComesBack, fromStored?, Json.ComesBack]
  constructor
  · rintro ⟨v, hv, hs⟩
    obtain ⟨j', hj, hv⟩ := Option.bind_eq_some_iff.mp hv
    cases hv
    have := Json.normalize_of_wellFormed j' (Json.wellFormed_of_reread? _ j h j' hj)
    rw [same, this] at hs
    exact ⟨j', hj, hs⟩
  · rintro ⟨j', hj, hs⟩
    have := Json.normalize_of_wellFormed j' (Json.wellFormed_of_reread? _ j h j' hj)
    refine ⟨json j', ?_, hs⟩
    rw [taggedPayload, hj, Option.bind_some]
    show some (json j'.normalize) = _
    rw [this]

theorem comesBack_decimal (d : Decimal) : (decimal d).ComesBack := by
  obtain ⟨d', read, hm, hs⟩ := d.ofText?_toText
  refine ⟨decimal d', fromStored?_text decimal Decimal.ofText? rfl (fun _ => rfl) read, ?_⟩
  rw [same, Decimal.numericEq, hm, hs, beq_self_eq_true]

theorem comesBack_iff {v : Value} (h : ∀ j, v = json j → j.WellFormed) :
    v.ComesBack ↔ v.Survives := by
  cases v with
  | null => exact iff_of_true ⟨null, rfl, rfl⟩ trivial
  | bool b => exact iff_of_true ⟨bool b, rfl, beq_self_eq_true b⟩ trivial
  | smallInt n => exact iff_of_true ⟨_, fromStored?_smallInt n, beq_self_eq_true n⟩ trivial
  | int n => exact iff_of_true ⟨_, fromStored?_int n, beq_self_eq_true n⟩ trivial
  | bigInt n => exact iff_of_true ⟨_, fromStored?_bigInt n, beq_self_eq_true n⟩ trivial
  | double x => exact comesBack_double x
  | decimal d => exact iff_of_true (comesBack_decimal d) trivial
  | text s => exact iff_of_true ⟨text s, rfl, beq_self_eq_true s⟩ trivial
  | date d =>
    have stored : (date d).fromStored? = some (date d) :=
      fromStored?_text date Date.ofText? rfl (fun _ => rfl) d.ofText?_toText
    exact iff_of_true ⟨date d, stored, beq_self_eq_true d⟩ trivial
  | time t =>
    have stored : (time t).fromStored? = some (time t) :=
      fromStored?_text time Time.ofText? rfl (fun _ => rfl) t.ofText?_toText
    exact iff_of_true ⟨time t, stored, beq_self_eq_true t⟩ trivial
  | timestamp t =>
    have stored : (timestamp t).fromStored? = some (timestamp t) :=
      fromStored?_text timestamp Timestamp.ofText? rfl (fun _ => rfl) t.ofText?_toText
    exact iff_of_true ⟨timestamp t, stored, beq_self_eq_true t⟩ trivial
  | timestampTz t =>
    have stored : (timestampTz t).fromStored? = some (timestampTz t) :=
      fromStored?_text timestampTz Timestamp.ofOffsetText? rfl (fun _ => rfl)
        t.ofOffsetText?_toUtcText
    exact iff_of_true ⟨timestampTz t, stored, beq_self_eq_true t⟩ trivial
  | uuid u =>
    have stored : (uuid u).fromStored? = some (uuid u) :=
      fromStored?_text uuid Uuid.ofText? rfl (fun _ => rfl) u.ofText?_toText
    exact iff_of_true ⟨uuid u, stored, beq_self_eq_true u⟩ trivial
  | json j => exact (comesBack_json (h j rfl)).trans (Json.comesBack_iff _ j (h j rfl))

/-! ### Rows -/

theorem toTagged_of_ne_null {v : Value} (h : v ≠ null) :
    v.toTagged = .object [(v.type.tagWord, v.taggedPayload)] := by
  cases v <;> first | rfl | exact absurd rfl h

/-- A value stands one level below its row, and its payload one level below that. -/
theorem ofTagged?_reread? (v : Value) :
    (v.toTagged.reread? (Json.maxDepth - 1)).bind ofTagged? = v.fromStored? := by
  by_cases h : v = null
  · subst h
    rfl
  · rw [toTagged_of_ne_null h, Json.reread?, if_neg (by decide), fromStored?, Json.rereadFields?]
    cases v.taggedPayload.reread? (Json.maxDepth - 1 - 1) with
    | none => rfl
    | some j =>
      show (ofTagged? (.object [(v.type.tagWord, j)])) = _
      rw [ofTagged?, SqlType.ofTagWord?_tagWord]
      rfl

end Value

section Lists

variable {α β γ : Type}

/-- Two passes over a list, each of which may fail, are one. -/
theorem mapM_bind_mapM (f : α → Option β) (g : β → Option γ) (items : List α) :
    (items.mapM f).bind (·.mapM g) = items.mapM fun x => (f x).bind g := by
  induction items with
  | nil => rfl
  | cons x xs ih =>
    rw [List.mapM_cons, List.mapM_cons, ← ih]
    cases f x with
    | none => rfl
    | some y =>
      cases xs.mapM f with
      | none =>
        show none = (g y).bind fun _ => none
        cases g y <;> rfl
      | some ys => exact List.mapM_cons

/-- A list is read item by item, each as an equal one. -/
theorem exists_mapM_beq_iff [BEq α] (f : α → Option α) (items : List α) :
    (∃ items', items.mapM f = some items' ∧ (items' == items) = true) ↔
      ∀ x ∈ items, ∃ x', f x = some x' ∧ (x' == x) = true := by
  induction items with
  | nil => exact iff_of_true ⟨[], rfl, rfl⟩ fun _ hx => absurd hx List.not_mem_nil
  | cons x xs ih =>
    rw [List.forall_mem_cons, ← ih, List.mapM_cons]
    constructor
    · rintro ⟨items', hi, hs⟩
      obtain ⟨x', hx, hi⟩ := Option.bind_eq_some_iff.mp hi
      obtain ⟨xs', hxs, hi⟩ := Option.bind_eq_some_iff.mp hi
      cases hi
      obtain ⟨first, others⟩ := Bool.and_eq_true_iff.mp hs
      exact ⟨⟨x', hx, first⟩, xs', hxs, others⟩
    · rintro ⟨⟨x', hx, first⟩, xs', hxs, others⟩
      exact ⟨x' :: xs', by rw [hx, hxs]; rfl, Bool.and_eq_true_iff.mpr ⟨first, others⟩⟩

end Lists

theorem Json.rereadItems?_eq_mapM (room : Nat) (items : List Json) :
    rereadItems? room items = items.mapM (reread? room) := by
  induction items with
  | nil => rfl
  | cons j js ih =>
    rw [rereadItems?, ih, List.mapM_cons]
    simp only [Option.map_eq_bind]
    rfl

namespace Record

/-- A row is read back value by value. -/
theorem ofTaggedText?_toTaggedText (r : Record) :
    ofTaggedText? (toTaggedText r) = r.mapM Value.fromStored? := by
  rw [ofTaggedText?, toTaggedText, String.toList_ofList, Json.ofRawText?_toText, toTagged,
    Json.reread?, if_neg (by decide), Json.rereadItems?_eq_mapM, List.mapM_map]
  have values : r.mapM Value.fromStored? = r.mapM fun v =>
      (v.toTagged.reread? (Json.maxDepth - 1)).bind Value.ofTagged? := by
    simp only [Value.ofTagged?_reread?]
  rw [values, ← mapM_bind_mapM, Function.comp_def]
  cases r.mapM fun v => v.toTagged.reread? (Json.maxDepth - 1) <;> rfl

/-- A row is read back as an equal one exactly if all of its values survive. -/
theorem ofTaggedText?_toTaggedText_iff (r : Record)
    (h : ∀ j, Value.json j ∈ r → j.WellFormed) :
    (∃ r', ofTaggedText? (toTaggedText r) = some r' ∧ (r' == r) = true) ↔
      ∀ v ∈ r, v.Survives := by
  rw [ofTaggedText?_toTaggedText, exists_mapM_beq_iff]
  refine forall₂_congr fun v hv => ?_
  exact Value.comesBack_iff fun j hj => h j (hj ▸ hv)

/-- The double 912.0685437784987 is read as its upper neighbour, so no row that holds it comes
back. -/
theorem ofTaggedText?_toTaggedText_iff_inexact :
    (∀ j, Value.json j ∈ [.json (.object [("a", .null)]), .double ⟨0x408c808c60ae37f8⟩] →
        j.WellFormed) ∧
      ¬ ∃ r', ofTaggedText? (toTaggedText
          [.json (.object [("a", .null)]), .double ⟨0x408c808c60ae37f8⟩]) = some r' ∧
        (r' == [.json (.object [("a", .null)]), .double ⟨0x408c808c60ae37f8⟩]) = true := by
  have documents : ∀ j, Value.json j ∈ [.json (.object [("a", .null)]),
      .double ⟨0x408c808c60ae37f8⟩] → j.WellFormed := by
    intro j hj
    obtain rfl : j = .object [("a", .null)] := by simpa using hj
    exact ⟨List.pairwise_singleton _ _, trivial, trivial⟩
  refine ⟨documents, fun back => ?_⟩
  have survives := (ofTaggedText?_toTaggedText_iff _ documents).mp back
  have inexact : ¬ (⟨0x408c808c60ae37f8⟩ : Double).Survives := by decide +kernel
  exact inexact (survives (.double ⟨0x408c808c60ae37f8⟩) (by simp))

end Record

end TypedSql
