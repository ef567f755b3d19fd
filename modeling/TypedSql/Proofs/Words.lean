import TypedSql.Proofs.Contents
import TypedSql.Proofs.Grammar
import TypedSql.Proofs.Numbers

/-!
The words of SQL: identifiers, numbers and operators, each read back by its reader when what follows
cannot be part of it.
-/

namespace TypedSql

open Text Reader

/-! ### Characters -/

def isWordChar (c : Char) : Bool :=
  c.isAlphanum || c == '_' || c == '.' || c == '-'

theorem not_isDelimiter_of_isWordChar {c : Char} (h : isWordChar c = true) :
    isDelimiter c = false := by
  cases hd : isDelimiter c with
  | false => rfl
  | true =>
    simp only [isDelimiter, Bool.or_eq_true, beq_iff_eq] at hd
    rcases hd with ((rfl | rfl) | rfl) | rfl <;> cases h

structure IsWord (w : List Char) : Prop where
  nonempty : w ≠ []
  chars : ∀ c ∈ w, isWordChar c = true

theorem IsWord.head {w : List Char} (h : IsWord w) : ∃ c cs, w = c :: cs ∧ isWordChar c = true := by
  cases w with
  | nil => exact absurd rfl h.nonempty
  | cons c cs => exact ⟨c, cs, rfl, h.chars c List.mem_cons_self⟩

/-- A text whose first character passes one test and whose other characters pass another. -/
def startsWord (first others : Char → Bool) : List Char → Bool
  | [] => false
  | c :: cs => first c && cs.all others

/-- Whether a name is made of the characters of its role: small letters, digits and underscores,
and large letters as well in the name of a function. No digit comes first. -/
def Mention.isIdentifier (m : Mention) : Bool :=
  match m.role with
  | .function =>
    startsWord (fun c => c.isAlpha || c == '_') (fun c => c.isAlphanum || c == '_') m.name.toList
  | _ => startsWord isNameHead (fun c => isNameHead c || c.isDigit) m.name.toList

def Identifiers (names : List Mention) : Prop :=
  ∀ m ∈ names, m.isIdentifier = true

instance : DecidablePred Identifiers := fun names =>
  inferInstanceAs (Decidable (∀ m ∈ names, m.isIdentifier = true))

/-- A name of small letters, digits and underscores. -/
structure IsName (w : List Char) : Prop where
  head : w.head?.any isNameHead = true
  chars : ∀ c ∈ w, isNameHead c = true ∨ c.isDigit = true

theorem isName_of_isIdentifier {m : Mention} (h : m.isIdentifier = true)
    (hr : m.role ≠ .function) : IsName m.name.toList := by
  have hs : startsWord isNameHead (fun c => isNameHead c || c.isDigit) m.name.toList = true := by
    rw [Mention.isIdentifier] at h
    split at h
    · next hm => exact absurd hm hr
    · exact h
  cases hw : m.name.toList with
  | nil => rw [hw] at hs; cases hs
  | cons c cs =>
    rw [hw, startsWord, Bool.and_eq_true, List.all_eq_true] at hs
    refine ⟨hs.1, fun d hd => ?_⟩
    rcases List.mem_cons.mp hd with rfl | hd
    · exact .inl hs.1
    · simpa using hs.2 d hd

theorem isWordChar_of_isName {c : Char} (h : isNameHead c = true ∨ c.isDigit = true) :
    isWordChar c = true := by
  have alpha : c.isAlpha = (c.isUpper || c.isLower) := rfl
  simp only [isNameHead, isWordChar, Char.isAlphanum, alpha, Bool.or_eq_true] at h ⊢
  grind

theorem IsName.isWord {w : List Char} (h : IsName w) : IsWord w := by
  refine ⟨?_, fun c hc => isWordChar_of_isName (h.chars c hc)⟩
  rintro rfl
  cases h.head

theorem IsName.no_point {w : List Char} (h : IsName w) : '.' ∉ w := by
  intro hm
  have := h.chars '.' hm
  revert this
  decide

theorem isWord_of_function {name : String} (h : (Mention.mk .function name).isIdentifier = true) :
    IsWord name.toList := by
  rw [Mention.isIdentifier] at h
  cases hw : name.toList with
  | nil => simp [hw, startsWord] at h
  | cons c cs =>
    simp only [hw, startsWord, Bool.and_eq_true, List.all_eq_true] at h
    refine ⟨List.cons_ne_nil c cs, fun d hd => ?_⟩
    rcases List.mem_cons.mp hd with rfl | hd
    · have := h.1
      simp only [isWordChar, Char.isAlphanum, Bool.or_eq_true] at this ⊢
      grind
    · have := h.2 d hd
      simp only [isWordChar, Bool.or_eq_true] at this ⊢
      grind

/-! ### Numbers and bare literals -/

def isNumeric (c : Char) : Bool :=
  c.isDigit || c == '.' || c == '-' || c == 'e'

theorem not_isNameHead_of_isNumeric {c : Char} (h : isNumeric c = true) (he : c ≠ 'e') :
    isNameHead c = false := by
  simp only [isNumeric, Bool.or_eq_true, beq_iff_eq] at h
  rcases h with ((h | rfl) | rfl) | rfl
  · simp only [Char.isDigit, Bool.and_eq_true, decide_eq_true_eq, UInt32.le_iff_toNat_le] at h
    have hl : c.isLower = false := by
      show (decide (c.val ≥ 'a'.val) && _) = false
      simp only [Bool.and_eq_false_iff, decide_eq_false_iff_not, ge_iff_le,
        UInt32.le_iff_toNat_le]
      have : 'a'.val.toNat = 97 := rfl
      have : '9'.val.toNat = 57 := rfl
      omega
    have hu : (c == '_') = false := by
      rw [beq_eq_false_iff_ne]
      rintro rfl
      revert h
      decide
    rw [isNameHead, hl, hu]
    rfl
  · rfl
  · rfl
  · exact absurd rfl he

theorem isWordChar_of_isNumeric {c : Char} (h : isNumeric c = true) : isWordChar c = true := by
  simp only [isNumeric, isWordChar, Char.isAlphanum, Bool.or_eq_true, beq_iff_eq] at h ⊢
  rcases h with ((h | rfl) | rfl) | rfl
  · exact .inl (.inl (.inl (.inr h)))
  all_goals decide

/-- A number: it may have an exponent, but does not start with one. -/
structure IsNumber (w : List Char) : Prop where
  nonempty : w ≠ []
  chars : ∀ c ∈ w, isNumeric c = true
  head : w.head? ≠ some 'e'

theorem isNumeric_of_isDigit {c : Char} (h : c.isDigit = true) : isNumeric c = true := by
  rw [isNumeric, h]
  rfl

theorem IsPlainNumber.isNumber {w : List Char} (h : IsPlainNumber w) : IsNumber w := by
  refine ⟨h.nonempty, fun c hc => ?_, fun hh => ?_⟩
  · rcases h.chars c hc with hd | rfl
    · exact isNumeric_of_isDigit hd
    · rfl
  · rcases h.chars 'e' (List.mem_of_head? hh) with hd | hd
    · cases hd
    · revert hd
      decide

theorem IsNumber.signed {negative : Prop} [Decidable negative] {w : List Char} (h : IsNumber w) :
    IsNumber (if negative then '-' :: w else w) := by
  split
  · refine ⟨List.cons_ne_nil _ _, fun c hc => ?_, by simp⟩
    rcases List.mem_cons.mp hc with rfl | hc
    · rfl
    · exact h.chars c hc
  · exact h

theorem isNumber_signedDigits (i : Int) : IsNumber (signedDigits i) :=
  (isPlainNumber_digits _).isNumber.signed

theorem Decimal.isNumber_toText (d : Decimal) : IsNumber d.toText := by
  obtain ⟨body, hb, h⟩ := d.toText_eq
  rw [h]
  exact hb.isNumber.signed

theorem Double.isNumber_render (x : Double) : IsNumber (x.render .sql) := by
  obtain ⟨body, hb, h⟩ := x.render_sql_eq
  rw [h]
  refine IsNumber.signed ?_
  rcases hb with hb | ⟨front, exponent, hf, rfl⟩
  · exact hb.isNumber
  have hn := hf.isNumber
  refine ⟨List.append_ne_nil_of_left_ne_nil hn.nonempty _, fun c hc => ?_, ?_⟩
  · rcases List.mem_append.mp hc with hc | hc
    · exact hn.chars c hc
    rcases List.mem_cons.mp hc with rfl | hc
    · rfl
    · exact (isNumber_signedDigits exponent).chars c hc
  · obtain ⟨c, cs, rfl⟩ := List.exists_cons_of_ne_nil hn.nonempty
    exact hn.head

/-- A literal without quotes: a word that reads as no column and no case distinction. -/
structure IsBare (w : List Char) : Prop extends IsWord w where
  no_column : (w.head?.any isNameHead && w.contains '.') = false
  no_keyword : w ≠ "CASE".toList ∧ w.head? ≠ some 'S'

theorem IsNumber.isBare {w : List Char} (h : IsNumber w) : IsBare w := by
  obtain ⟨c, cs, rfl⟩ := List.exists_cons_of_ne_nil h.nonempty
  have hc := h.chars c List.mem_cons_self
  refine ⟨⟨h.nonempty, fun d hd => isWordChar_of_isNumeric (h.chars d hd)⟩, ?_, ?_, ?_⟩
  · have := not_isNameHead_of_isNumeric hc (by simpa using h.head)
    rw [List.head?_cons, Option.any_some, this, Bool.false_and]
  · rintro ⟨rfl, -⟩
    cases hc
  · rintro ⟨rfl, -⟩
    cases hc

theorem Value.isBare {v : Value} {w : List Char} (h : v.form = .bare w) : IsBare w := by
  have keyword : ∀ {w : List Char}, w.isEmpty = false → w.all isWordChar = true →
      (w.head?.any isNameHead && w.contains '.') = false → w ≠ "CASE".toList →
      w.head? ≠ some 'S' → IsBare w := fun he hw hc hk hs =>
    ⟨⟨List.isEmpty_eq_false_iff.mp he, List.all_eq_true.mp hw⟩, hc, hk, hs⟩
  rcases bare_cases h with (rfl | rfl | rfl) | ⟨i, rfl⟩ | ⟨d, rfl⟩ | ⟨x, rfl⟩
  · exact keyword rfl (by decide) (by decide) (by decide) (by decide)
  · exact keyword rfl (by decide) (by decide) (by decide) (by decide)
  · exact keyword rfl (by decide) (by decide) (by decide) (by decide)
  · exact (isNumber_signedDigits i).isBare
  · exact d.isNumber_toText.isBare
  · exact x.isNumber_render.isBare

end TypedSql
