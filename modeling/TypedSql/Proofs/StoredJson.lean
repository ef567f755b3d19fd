import TypedSql.Proofs.JsonReading
import TypedSql.Proofs.Spelling

/-!
Which JSON documents come back from their own text. A document is read back as an equal one
exactly if its arrays and objects are not nested too deeply and each of its doubles is finite and
read back as itself.
-/

namespace TypedSql

open Text

/-! ### Doubles -/

namespace Double

/-- The double is read back from its own JSON text. -/
def Survives (x : Double) : Prop :=
  x.isFinite = true ∧ x.reread? = some x

instance (x : Double) : Decidable x.Survives :=
  inferInstanceAs (Decidable (_ ∧ _))

theorem survives_of_isZero {x : Double} (h : x.isZero = true) : x.Survives := by
  rcases isZero_cases h with rfl | rfl <;> decide +kernel

theorem numericEq_self {x : Double} (h : x.isFinite = true) : x.numericEq x = true := by
  have number : x.isNaN = false := by
    rw [isFinite, bne_iff_ne] at h
    rw [isNaN, beq_false_of_ne h, Bool.false_and]
  rw [numericEq, number, beq_self_eq_true]
  rfl

/-- Only zeros are equal to other doubles, and they are read back as themselves. -/
theorem survives_iff {x : Double} (h : x.isFinite = true) :
    x.Survives ↔ ∃ y, x.reread? = some y ∧ y.numericEq x = true := by
  refine ⟨fun hx => ⟨x, hx.2, numericEq_self h⟩, fun ⟨y, hy, hyx⟩ => ?_⟩
  rcases numericEq_cases hyx with rfl | ⟨-, hx⟩
  · exact ⟨h, hy⟩
  · exact survives_of_isZero hx

end Double

namespace Json

/-! ### Shape -/

mutual

/-- How many arrays and objects are open at once. -/
def depth : Json → Nat
  | array items => depthOfItems items + 1
  | object fields => depthOfFields fields + 1
  | _ => 0

def depthOfItems : List Json → Nat
  | [] => 0
  | j :: js => max j.depth (depthOfItems js)

def depthOfFields : List (String × Json) → Nat
  | [] => 0
  | (_, j) :: fields => max j.depth (depthOfFields fields)

end

mutual

/-- The document is put together as documents are: negative numbers are below zero, and the keys
of an object ascend. -/
def WellFormed : Json → Prop
  | number (.negative n) => n < 0
  | array items => WellFormedItems items
  | object fields => (fields.map Prod.fst).Pairwise (· < ·) ∧ WellFormedFields fields
  | _ => True

def WellFormedItems : List Json → Prop
  | [] => True
  | j :: js => j.WellFormed ∧ WellFormedItems js

def WellFormedFields : List (String × Json) → Prop
  | [] => True
  | (_, j) :: fields => j.WellFormed ∧ WellFormedFields fields

end

/-! ### Order -/

theorem insertField_last {key : String} {value : Json} {fields : List (String × Json)}
    (h : ∀ k ∈ fields.map Prod.fst, k < key) :
    insertField key value fields = fields ++ [(key, value)] := by
  induction fields with
  | nil => rfl
  | cons field fields ih =>
    have first : field.1 < key := h _ List.mem_cons_self
    rw [insertField, if_neg (String.lt_asymm first), if_neg (String.ne_of_lt first).symm,
      ih fun k hk => h k (List.mem_cons_of_mem _ hk), List.cons_append]

mutual

/-- Documents are in order as they are. -/
theorem normalize_of_wellFormed (j : Json) (h : j.WellFormed) : j.normalize = j := by
  cases j with
  | array items => rw [normalize, normalizeItems_of_wellFormed items h]
  | object fields =>
    obtain ⟨keys, h⟩ := h
    rw [normalize, normalizeFields_of_wellFormed fields [] h (by simpa using keys),
      List.nil_append]
  | _ => rfl

theorem normalizeItems_of_wellFormed (items : List Json) (h : WellFormedItems items) :
    normalizeItems items = items := by
  match items, h with
  | [], _ => rfl
  | j :: js, ⟨hj, hjs⟩ =>
    rw [normalizeItems, normalize_of_wellFormed j hj, normalizeItems_of_wellFormed js hjs]

theorem normalizeFields_of_wellFormed (fields front : List (String × Json))
    (h : WellFormedFields fields)
    (keys : ((front ++ fields).map Prod.fst).Pairwise (· < ·)) :
    normalizeFields fields front = front ++ fields := by
  match fields, h with
  | [], _ => rw [normalizeFields, List.append_nil]
  | (k, j) :: fields, ⟨hj, hf⟩ =>
    have last : ∀ k' ∈ front.map Prod.fst, k' < k := by
      rw [List.map_append, List.pairwise_append] at keys
      exact fun k' hk' => keys.2.2 k' hk' k (by simp)
    rw [normalizeFields, normalize_of_wellFormed j hj, insertField_last last,
      normalizeFields_of_wellFormed fields _ hf (by simpa using keys)]
    simp

end

/-! ### What is read back -/

theorem keys_rereadFields? {room : Nat} {fields fields' : List (String × Json)}
    (h : rereadFields? room fields = some fields') :
    fields'.map Prod.fst = fields.map Prod.fst := by
  induction fields generalizing fields' with
  | nil =>
    cases h
    rfl
  | cons field fields ih =>
    rw [rereadFields?, Option.bind_eq_some_iff] at h
    obtain ⟨j, -, h⟩ := h
    rw [Option.map_eq_some_iff] at h
    obtain ⟨others, h, rfl⟩ := h
    rw [List.map_cons, List.map_cons, ih h]

theorem wellFormed_number {n : JsonNumber} (h : (number n).WellFormed) {j : Json}
    (hj : n.reread? = some j) : j.WellFormed := by
  cases n with
  | natural n =>
    cases hj
    trivial
  | negative n =>
    cases hj
    rwa [JsonNumber.ofInt64, if_pos (show n < 0 from h)]
  | real x =>
    rw [JsonNumber.reread?] at hj
    split at hj
    · obtain ⟨y, -, rfl⟩ := Option.map_eq_some_iff.mp hj
      trivial
    · cases hj
      trivial

mutual

/-- Reading does not change the keys. -/
theorem wellFormed_of_reread? (room : Nat) (j : Json) (h : j.WellFormed) (j' : Json)
    (hj : j.reread? room = some j') : j'.WellFormed := by
  cases j with
  | number n => exact wellFormed_number h hj
  | array items =>
    rw [reread?] at hj
    split at hj
    · cases hj
    · obtain ⟨items', hi, rfl⟩ := Option.map_eq_some_iff.mp hj
      exact wellFormed_of_rereadItems? _ items h items' hi
  | object fields =>
    rw [reread?] at hj
    split at hj
    · cases hj
    · obtain ⟨fields', hf, rfl⟩ := Option.map_eq_some_iff.mp hj
      exact ⟨by rw [keys_rereadFields? hf]; exact h.1,
        wellFormed_of_rereadFields? _ fields h.2 fields' hf⟩
  | _ =>
    cases hj
    exact h

theorem wellFormed_of_rereadItems? (room : Nat) (items : List Json) (h : WellFormedItems items)
    (items' : List Json) (hi : rereadItems? room items = some items') :
    WellFormedItems items' := by
  match items, h with
  | [], _ =>
    cases hi
    trivial
  | j :: js, ⟨hj, hjs⟩ =>
    rw [rereadItems?, Option.bind_eq_some_iff] at hi
    obtain ⟨j', hj', hi⟩ := hi
    obtain ⟨js', hjs', rfl⟩ := Option.map_eq_some_iff.mp hi
    exact ⟨wellFormed_of_reread? room j hj j' hj',
      wellFormed_of_rereadItems? room js hjs js' hjs'⟩

theorem wellFormed_of_rereadFields? (room : Nat) (fields : List (String × Json))
    (h : WellFormedFields fields) (fields' : List (String × Json))
    (hf : rereadFields? room fields = some fields') : WellFormedFields fields' := by
  match fields, h with
  | [], _ =>
    cases hf
    trivial
  | (k, j) :: fields, ⟨hj, hfs⟩ =>
    rw [rereadFields?, Option.bind_eq_some_iff] at hf
    obtain ⟨j', hj', hf⟩ := hf
    obtain ⟨others, ho, rfl⟩ := Option.map_eq_some_iff.mp hf
    exact ⟨wellFormed_of_reread? room j hj j' hj',
      wellFormed_of_rereadFields? room fields hfs others ho⟩

end

/-! ### Survival -/

section Survival

variable (room : Nat)

/-- Reading gives a document that is equal to the one that was written. -/
def ComesBack (j : Json) : Prop :=
  ∃ j', j.reread? room = some j' ∧ j'.same j = true

def ItemsComeBack (items : List Json) : Prop :=
  ∃ items', rereadItems? room items = some items' ∧ sameItems items' items = true

def FieldsComeBack (fields : List (String × Json)) : Prop :=
  ∃ fields', rereadFields? room fields = some fields' ∧ sameFields fields' fields = true

variable {room} {j : Json} {items : List Json} {fields : List (String × Json)}

theorem comesBack_leaf (hr : j.reread? room = some j) (hs : j.same j = true) (hd : j.depth = 0)
    (hx : j.reals = []) : j.ComesBack room ↔ j.depth ≤ room ∧ ∀ x ∈ j.reals, x.Survives := by
  rw [hd, hx]
  exact iff_of_true ⟨j, hr, hs⟩ ⟨Nat.zero_le _, fun _ h => absurd h List.not_mem_nil⟩

theorem comesBack_number {n : JsonNumber} (h : (number n).WellFormed) :
    (number n).ComesBack room ↔
      (number n).depth ≤ room ∧ ∀ x ∈ (number n).reals, x.Survives := by
  cases n with
  | natural n => exact comesBack_leaf rfl (beq_self_eq_true n) rfl rfl
  | negative n =>
    have same : JsonNumber.ofInt64 n = .negative n := if_pos h
    exact comesBack_leaf (by rw [reread?, JsonNumber.reread?, same]) (beq_self_eq_true n) rfl rfl
  | real x =>
    have level : (number (.real x)).depth ≤ room := Nat.zero_le room
    rw [and_iff_right level, reals, List.forall_mem_singleton, ComesBack, reread?,
      JsonNumber.reread?]
    split
    · next hx =>
      rw [Double.survives_iff hx]
      constructor
      · rintro ⟨j, hj, hs⟩
        obtain ⟨y, hy, rfl⟩ := Option.map_eq_some_iff.mp hj
        exact ⟨y, hy, hs⟩
      · rintro ⟨y, hy, hs⟩
        exact ⟨number (.real y), by rw [hy]; rfl, hs⟩
    · next hx =>
      constructor
      · rintro ⟨j, hj, hs⟩
        cases hj
        cases hs
      · exact fun hs => absurd hs.1 hx

theorem comesBack_array :
    (array items).ComesBack room ↔ 0 < room ∧ ItemsComeBack (room - 1) items := by
  rw [ComesBack, reread?]
  constructor
  · rintro ⟨j, hj, hs⟩
    split at hj
    · cases hj
    · next h =>
      obtain ⟨items', hi, rfl⟩ := Option.map_eq_some_iff.mp hj
      exact ⟨Nat.pos_of_ne_zero h, items', hi, hs⟩
  · rintro ⟨h, items', hi, hs⟩
    exact ⟨array items', by rw [if_neg h.ne', hi]; rfl, hs⟩

theorem comesBack_object :
    (object fields).ComesBack room ↔ 0 < room ∧ FieldsComeBack (room - 1) fields := by
  rw [ComesBack, reread?]
  constructor
  · rintro ⟨j, hj, hs⟩
    split at hj
    · cases hj
    · next h =>
      obtain ⟨fields', hf, rfl⟩ := Option.map_eq_some_iff.mp hj
      exact ⟨Nat.pos_of_ne_zero h, fields', hf, hs⟩
  · rintro ⟨h, fields', hf, hs⟩
    exact ⟨object fields', by rw [if_neg h.ne', hf]; rfl, hs⟩

theorem itemsComeBack_cons :
    ItemsComeBack room (j :: items) ↔ j.ComesBack room ∧ ItemsComeBack room items := by
  rw [ItemsComeBack, rereadItems?]
  constructor
  · rintro ⟨js, hjs, hs⟩
    obtain ⟨j', hj, hjs⟩ := Option.bind_eq_some_iff.mp hjs
    obtain ⟨items', hi, rfl⟩ := Option.map_eq_some_iff.mp hjs
    obtain ⟨first, others⟩ := Bool.and_eq_true_iff.mp hs
    exact ⟨⟨j', hj, first⟩, items', hi, others⟩
  · rintro ⟨⟨j', hj, first⟩, items', hi, others⟩
    exact ⟨j' :: items', by rw [hj, hi]; rfl, Bool.and_eq_true_iff.mpr ⟨first, others⟩⟩

theorem fieldsComeBack_cons {key : String} :
    FieldsComeBack room ((key, j) :: fields) ↔ j.ComesBack room ∧ FieldsComeBack room fields := by
  rw [FieldsComeBack, rereadFields?]
  constructor
  · rintro ⟨js, hjs, hs⟩
    obtain ⟨j', hj, hjs⟩ := Option.bind_eq_some_iff.mp hjs
    obtain ⟨fields', hf, rfl⟩ := Option.map_eq_some_iff.mp hjs
    obtain ⟨first, others⟩ := Bool.and_eq_true_iff.mp hs
    exact ⟨⟨j', hj, (Bool.and_eq_true_iff.mp first).2⟩, fields', hf, others⟩
  · rintro ⟨⟨j', hj, first⟩, fields', hf, others⟩
    refine ⟨(key, j') :: fields', by rw [hj, hf]; rfl, Bool.and_eq_true_iff.mpr ⟨?_, others⟩⟩
    exact Bool.and_eq_true_iff.mpr ⟨beq_self_eq_true key, first⟩

end Survival

mutual

/-- A document is read back as an equal one exactly if there is room for its nesting and all of
its doubles are read back. -/
theorem comesBack_iff (room : Nat) (j : Json) (h : j.WellFormed) :
    j.ComesBack room ↔ j.depth ≤ room ∧ ∀ x ∈ j.reals, x.Survives := by
  cases j with
  | null => exact comesBack_leaf rfl rfl rfl rfl
  | bool b => exact comesBack_leaf rfl (beq_self_eq_true b) rfl rfl
  | string s => exact comesBack_leaf rfl (beq_self_eq_true s) rfl rfl
  | number n => exact comesBack_number h
  | array items =>
    rw [comesBack_array, itemsComeBack_iff (room - 1) items h, depth, reals, ← and_assoc]
    exact and_congr_left' (by omega)
  | object fields =>
    rw [comesBack_object, fieldsComeBack_iff (room - 1) fields h.2, depth, reals, ← and_assoc]
    exact and_congr_left' (by omega)

theorem itemsComeBack_iff (room : Nat) (items : List Json) (h : WellFormedItems items) :
    ItemsComeBack room items ↔
      depthOfItems items ≤ room ∧ ∀ x ∈ realsOfItems items, x.Survives := by
  match items, h with
  | [], _ =>
    exact iff_of_true ⟨[], rfl, rfl⟩ ⟨Nat.zero_le _, fun _ hx => absurd hx List.not_mem_nil⟩
  | j :: js, ⟨hj, hjs⟩ =>
    rw [itemsComeBack_cons, comesBack_iff room j hj, itemsComeBack_iff room js hjs, depthOfItems,
      realsOfItems, max_le_iff, List.forall_mem_append]
    exact and_and_and_comm

theorem fieldsComeBack_iff (room : Nat) (fields : List (String × Json))
    (h : WellFormedFields fields) : FieldsComeBack room fields ↔
      depthOfFields fields ≤ room ∧ ∀ x ∈ realsOfFields fields, x.Survives := by
  match fields, h with
  | [], _ =>
    exact iff_of_true ⟨[], rfl, rfl⟩ ⟨Nat.zero_le _, fun _ hx => absurd hx List.not_mem_nil⟩
  | (k, j) :: fields, ⟨hj, hfs⟩ =>
    rw [fieldsComeBack_cons, comesBack_iff room j hj, fieldsComeBack_iff room fields hfs,
      depthOfFields, realsOfFields, max_le_iff, List.forall_mem_append]
    exact and_and_and_comm

end

end Json

end TypedSql
