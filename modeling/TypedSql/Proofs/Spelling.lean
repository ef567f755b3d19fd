import Mathlib.Data.List.TakeWhile
import TypedSql.Proofs.Aligned
import TypedSql.Proofs.Tokens
import TypedSql.Value.Equality

/-!
How a value is spelled where equal values may be written in more than one way: decimals show their
scale and sign, JSON documents the sign of their zeros. Equal values are written alike exactly if
they are spelled alike.
-/

namespace TypedSql

open Text Reader List

/-- The marks of a value that are no part of what it is. -/
inductive Spelling where
  | plain
  | decimal (negative : Bool) (scale : Nat)
  | json (reals : List Double)
  deriving DecidableEq, Repr

namespace Json

mutual

/-- The doubles in a document, from left to right. -/
def reals : Json → List Double
  | number (.real x) => [x]
  | array items => realsOfItems items
  | object fields => realsOfFields fields
  | _ => []

def realsOfItems : List Json → List Double
  | [] => []
  | j :: js => j.reals ++ realsOfItems js

def realsOfFields : List (String × Json) → List Double
  | [] => []
  | (_, j) :: fields => j.reals ++ realsOfFields fields

end

end Json

namespace Value

/-- The doubles in a value that is a JSON document. -/
def reals : Value → List Double
  | json j => j.reals
  | _ => []

def spelling : Value → Spelling
  | decimal d => .decimal d.negative d.scale
  | json j => .json j.reals
  | _ => .plain

/-- Only decimals and JSON documents are equal to others than themselves. -/
theorem same_cases {v w : Value} (h : v.same w = true) : v = w ∨
    (∃ a b : Decimal, v = decimal a ∧ w = decimal b ∧ a.numericEq b = true) ∨
      ∃ a b : Json, v = json a ∧ w = json b ∧ a.same b = true := by
  cases v <;> cases w <;> simp_all [same]

end Value

/-! ### Doubles and JSON -/

namespace Double

theorem isZero_cases {x : Double} (h : x.isZero = true) : x = ⟨0⟩ ∨ x = ⟨0x8000000000000000⟩ := by
  obtain ⟨bits⟩ := x
  simp only [isZero, exponentField, fractionField, Bool.and_eq_true, beq_iff_eq] at h
  simp only [Nat.pow_eq, Nat.reducePow] at h
  have := bits.toNat_lt
  have cases : bits.toNat = 0 ∨ bits.toNat = 0x8000000000000000 := by omega
  rcases cases with h | h
  · exact .inl (congrArg mk (UInt64.toNat_inj.mp h))
  · exact .inr (congrArg mk (UInt64.toNat_inj.mp h))

/-- Doubles that are equal as quantities are the same or are zeros. -/
theorem numericEq_cases {x y : Double} (h : x.numericEq y = true) :
    x = y ∨ x.isZero = true ∧ y.isZero = true := by
  simp only [numericEq, Bool.and_eq_true, Bool.or_eq_true, beq_iff_eq] at h
  exact h.2

end Double

namespace Json

theorem doubleText_zero : doubleText ⟨0⟩ = "0.0".toList ∧
    doubleText ⟨0x8000000000000000⟩ = "-0.0".toList := by
  decide +kernel

/-- Only zeros are written with a sign that does not count. -/
theorem aligned_real {x y : Double} {F : List Char → Prop} (h : x.numericEq y = true) :
    Aligned F (doubleText x) (doubleText y) [x] [y] := by
  rcases Double.numericEq_cases h with rfl | ⟨hx, hy⟩
  · exact .refl _ _
  rcases Double.isZero_cases hx with rfl | rfl <;> rcases Double.isZero_cases hy with rfl | rfl
  · exact .refl _ _
  · rw [doubleText_zero.1, doubleText_zero.2]
    exact .of_head_ne (by decide) rfl (by decide)
  · rw [doubleText_zero.1, doubleText_zero.2]
    exact .of_head_ne (by decide) rfl (by decide)
  · exact .refl _ _

def fieldText (field : String × Json) : List Char :=
  stringText field.1 ++ ':' :: toText field.2

theorem itemsText_cons (j : Json) (js : List Json) :
    itemsText (j :: js) = j.toText ++ js.flatMap fun j => ',' :: j.toText := by
  induction js generalizing j with
  | nil => simp [itemsText]
  | cons k js ih =>
    rw [itemsText, ih]
    · rfl
    · exact List.cons_ne_nil k js

theorem fieldsText_cons (field : String × Json) (fields : List (String × Json)) :
    fieldsText (field :: fields) =
      fieldText field ++ fields.flatMap fun field => ',' :: fieldText field := by
  induction fields generalizing field with
  | nil => simp [fieldsText, fieldText]
  | cons next fields ih =>
    rw [fieldsText, ih]
    · simp [fieldText]
    · exact List.cons_ne_nil next fields

theorem reals_array (items : List Json) : (array items).reals = items.flatMap reals := by
  rw [reals]
  induction items with
  | nil => rfl
  | cons j js ih => rw [realsOfItems, ih, flatMap_cons]

theorem reals_object (fields : List (String × Json)) :
    (object fields).reals = fields.flatMap fun field => field.2.reals := by
  rw [reals]
  induction fields with
  | nil => rfl
  | cons field fields ih => rw [realsOfFields, ih, flatMap_cons]

/-- The two documents are written alike exactly if their doubles are the same. -/
def Alike (a b : Json) : Prop :=
  Aligned (fun _ => True) a.toText b.toText a.reals b.reals

theorem alike_array {as bs : List Json} (h : Forall₂ Alike as bs) :
    Alike (array as) (array bs) := by
  rw [Alike, toText, toText, reals_array, reals_array]
  refine .front ['['] (.tail ?_ [']'])
  cases h with
  | nil => exact .refl [] []
  | cons hab h =>
    rw [itemsText_cons, itemsText_cons, flatMap_cons, flatMap_cons]
    refine hab.concat (.flatMap (h.imp fun a b hab => ?_) (fun _ _ => trivial) fun _ _ => trivial)
    exact Aligned.front [','] hab

theorem alike_object {as bs : List (String × Json)}
    (h : Forall₂ (fun a b => a.1 = b.1 ∧ Alike a.2 b.2) as bs) :
    Alike (object as) (object bs) := by
  have each : Forall₂ (fun a b => Aligned (fun _ => True) (fieldText a) (fieldText b) a.2.reals
      b.2.reals) as bs := by
    refine h.imp fun a b hab => ?_
    rw [fieldText, fieldText, hab.1]
    exact .front _ (.front [':'] hab.2)
  rw [Alike, toText, toText, reals_object, reals_object]
  refine .front ['\x7b'] (.tail ?_ ['\x7d'])
  cases each with
  | nil => exact .refl [] []
  | cons hab hs =>
    rw [fieldsText_cons, fieldsText_cons, flatMap_cons, flatMap_cons]
    refine hab.concat (.flatMap (hs.imp fun a b hab => ?_) (fun _ _ => trivial) fun _ _ => trivial)
    exact Aligned.front [','] hab

theorem alike_number {a b : JsonNumber} (h : a.same b = true) :
    Alike (number a) (number b) := by
  cases a <;> cases b
  case natural.natural =>
    obtain rfl := eq_of_beq h
    exact .refl _ _
  case negative.negative =>
    obtain rfl := eq_of_beq h
    exact .refl _ _
  case real.real => exact aligned_real h
  all_goals exact absurd h Bool.false_ne_true

mutual

theorem alike_of_same {a b : Json} (h : a.same b = true) : Alike a b := by
  cases a with
  | null =>
    cases b with
    | null => exact .refl _ _
    | _ => exact absurd h Bool.false_ne_true
  | bool a =>
    cases b with
    | bool b =>
      obtain rfl := eq_of_beq h
      exact .refl _ _
    | _ => exact absurd h Bool.false_ne_true
  | number a =>
    cases b with
    | number b => exact alike_number h
    | _ => exact absurd h Bool.false_ne_true
  | string a =>
    cases b with
    | string b =>
      obtain rfl := eq_of_beq h
      exact .refl _ _
    | _ => exact absurd h Bool.false_ne_true
  | array as =>
    cases b with
    | array bs => exact alike_array (alike_of_sameItems h)
    | _ => exact absurd h Bool.false_ne_true
  | object as =>
    cases b with
    | object bs => exact alike_object (alike_of_sameFields h)
    | _ => exact absurd h Bool.false_ne_true

theorem alike_of_sameItems {as bs : List Json} (h : sameItems as bs = true) :
    Forall₂ Alike as bs := by
  cases as with
  | nil =>
    cases bs with
    | nil => exact .nil
    | cons b bs => exact absurd h Bool.false_ne_true
  | cons a as =>
    cases bs with
    | nil => exact absurd h Bool.false_ne_true
    | cons b bs =>
      obtain ⟨ha, has⟩ := Bool.and_eq_true_iff.mp h
      exact .cons (alike_of_same ha) (alike_of_sameItems has)

theorem alike_of_sameFields {as bs : List (String × Json)} (h : sameFields as bs = true) :
    Forall₂ (fun a b => a.1 = b.1 ∧ Alike a.2 b.2) as bs := by
  match as, bs, h with
  | [], [], _ => exact .nil
  | (k, a) :: as, (l, b) :: bs, h =>
    obtain ⟨hka, has⟩ := Bool.and_eq_true_iff.mp h
    obtain ⟨hk, ha⟩ := Bool.and_eq_true_iff.mp hka
    exact .cons ⟨eq_of_beq hk, alike_of_same ha⟩ (alike_of_sameFields has)

end

end Json

/-! ### Decimals -/

namespace Decimal

variable {a b : Decimal}

theorem head?_toText (d : Decimal) : d.toText.head? = some '-' ↔ d.negative = true := by
  obtain ⟨body, hb, he⟩ := d.toText_eq
  rw [he]
  cases d.negative with
  | true => simp
  | false =>
    rw [if_neg Bool.false_ne_true]
    refine ⟨fun h => ?_, fun h => absurd h Bool.false_ne_true⟩
    rcases hb.chars '-' (List.mem_of_mem_head? h) with h | h
    · cases h
    · cases h

/-- The text shows the scale: it is the number of digits behind the point. -/
theorem length_dropWhile_toText (d : Decimal) :
    (d.toText.dropWhile (· ≠ '.')).length = if d.scale = 0 then 0 else d.scale + 1 := by
  have digit : ∀ c ∈ padded (d.scale + 1) d.magnitude, (decide (c ≠ '.')) = true := by
    intro c hc
    rw [decide_eq_true_eq]
    rintro rfl
    exact Bool.false_ne_true (isDigit_of_mem_padded hc)
  have width : d.scale ≤ (padded (d.scale + 1) d.magnitude).length := by
    rw [padded, List.length_leftpad]
    omega
  have body : ∀ text : List Char, (if d.negative then '-' :: text else text).dropWhile (· ≠ '.') =
      text.dropWhile (· ≠ '.') := by
    intro text
    cases d.negative <;> rfl
  unfold toText
  dsimp only
  rw [body]
  split
  · rw [dropWhile_eq_nil_iff.mpr digit, length_nil]
  · rw [List.dropWhile_append_of_pos fun c hc => digit c (List.mem_of_mem_take hc)]
    rw [List.dropWhile_cons_of_neg (by decide), length_cons, length_drop]
    omega

theorem spelling_of_toText (h : a.toText = b.toText) :
    a.negative = b.negative ∧ a.scale = b.scale := by
  constructor
  · rw [Bool.eq_iff_iff, ← head?_toText, ← head?_toText, h]
  · have := a.length_dropWhile_toText
    rw [h, length_dropWhile_toText] at this
    split at this <;> split at this <;> omega

theorem eq_of_numericEq (h : a.numericEq b = true) (hn : a.negative = b.negative)
    (hs : a.scale = b.scale) : a = b := by
  obtain ⟨negative, magnitude, scale, hm, hsc⟩ := a
  obtain ⟨negative', magnitude', scale', hm', hsc'⟩ := b
  obtain rfl : negative = negative' := hn
  obtain rfl : scale = scale' := hs
  rw [numericEq, beq_iff_eq] at h
  have power : ((Nat.pow 10 scale : Nat) : Int) ≠ 0 := by
    have := Nat.pow_pos (n := scale) (show 0 < 10 by decide)
    exact Int.ofNat_ne_zero.mpr (Nat.ne_of_gt this)
  have mantissa := Int.eq_of_mul_eq_mul_right power h
  have magnitudes : magnitude = magnitude' := by
    refine Int.ofNat_inj.mp ?_
    cases negative <;> simpa [Decimal.mantissa] using mantissa
  subst magnitudes
  rfl

theorem aligned (h : a.numericEq b = true) : Aligned Closed a.toText b.toText
    [Spelling.decimal a.negative a.scale] [Spelling.decimal b.negative b.scale] := by
  refine ⟨rfl, fun hs => ?_, fun r r' hr hr' he => ?_⟩
  · obtain ⟨hn, hs⟩ := Spelling.decimal.inj (List.cons_eq_cons.mp hs).1
    rw [eq_of_numericEq h hn hs]
  · have left := Reads.word a.isNumber_toText.isBare.chars r hr.delimited
    have right := Reads.word b.isNumber_toText.isBare.chars r' hr'.delimited
    rw [he, right] at left
    obtain ⟨text, rest⟩ := Prod.mk.inj (Option.some.inj left)
    obtain ⟨hn, hs⟩ := spelling_of_toText text
    exact ⟨by rw [hn, hs], rest.symm⟩

end Decimal

/-! ### Values -/

namespace Value

theorem aligned_quote {γ : Type} {x y : List Char} {p q : List γ}
    (h : Aligned (fun _ => True) x y p q) : Aligned Closed (quote x) (quote y) p q := by
  refine ⟨h.length, fun he => congrArg quote (h.eq_of_marks he), fun r r' hr hr' he => ?_⟩
  have left := Reads.payload x r (hr.head_ne rfl)
  have right := Reads.payload y r' (hr'.head_ne rfl)
  have inside : doubleQuotes x ++ ['\''] ++ r = doubleQuotes y ++ ['\''] ++ r' :=
    (cons_eq_cons.mp he).2
  rw [inside, right] at left
  obtain ⟨text, rest⟩ := Prod.mk.inj (Option.some.inj left)
  exact ⟨(h.eq_iff trivial).mp text.symm, rest.symm⟩

theorem aligned_json {a b : Json} (h : a.same b = true) :
    Aligned Closed (quote a.toText) (quote b.toText) [Spelling.json a.reals]
      [Spelling.json b.reals] :=
  (aligned_quote (Json.alike_of_same h)).remark rfl (by simp)

theorem aligned_literalText {v w : Value} (h : v.same w = true) :
    Aligned Closed v.literalText w.literalText [v.spelling] [w.spelling] := by
  rcases same_cases h with rfl | ⟨a, b, rfl, rfl, h⟩ | ⟨a, b, rfl, rfl, h⟩
  · exact .refl _ _
  · exact Decimal.aligned h
  · exact aligned_json h

end Value

end TypedSql
