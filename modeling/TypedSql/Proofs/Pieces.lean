import TypedSql.Proofs.Contents
import TypedSql.Proofs.Numbers
import TypedSql.Proofs.Rendering
import TypedSql.Proofs.Scan

/-!
Pieces of text outside of strings, each described by what may stand before it, the payloads of the
strings in it and what then stands at its end. Words, numbers and lists are put together from
smaller pieces; a literal is a piece whatever its payload is.
-/

namespace TypedSql

namespace Text

/-- A text that runs behind every character of one class to a character of another. -/
def Fits (pre : Char → Prop) (text : List Char) (payloads : List (List Char))
    (post : Char → Prop) : Prop :=
  ∀ p, pre p → ∃ q, post q ∧ Runs p text payloads q

/-- The characters that an expression stands behind. -/
def Seat (p : Char) : Prop :=
  p = ' ' ∨ p = '('

/-- The characters that a name or a keyword may stand behind. -/
def Free (p : Char) : Prop :=
  p ≠ '/'

/-- The characters that a number may stand behind. -/
def Loose (p : Char) : Prop :=
  p ≠ '/' ∧ p ≠ '-'

theorem Seat.loose {p : Char} (h : Seat p) : Loose p := by
  rcases h with rfl | rfl <;> exact ⟨by decide, by decide⟩

theorem Loose.free {p : Char} (h : Loose p) : Free p :=
  h.1

theorem Seat.free {p : Char} (h : Seat p) : Free p :=
  h.loose.free

/-- A character that neither opens a string nor is part of a comment mark or a semicolon. -/
def isHarmless (c : Char) : Bool :=
  c != '\'' && c != '-' && c != '/' && c != ';'

theorem isHarmless_iff {c : Char} :
    isHarmless c = true ↔ c ≠ '\'' ∧ c ≠ '-' ∧ c ≠ '/' ∧ c ≠ ';' := by
  simp [isHarmless, and_assoc]

instance : DecidablePred Seat := fun _ => inferInstanceAs (Decidable (_ ∨ _))

instance : DecidablePred Free := fun _ => inferInstanceAs (Decidable (_ ≠ _))

instance : DecidablePred Loose := fun _ => inferInstanceAs (Decidable (_ ∧ _))

namespace Fits

variable {pre mid post : Char → Prop} {a b : List Char} {as bs : List (List Char)}

theorem weaken {pre' post' : Char → Prop} (h : Fits pre a as post) (hpre : ∀ p, pre' p → pre p)
    (hpost : ∀ q, post q → post' q) : Fits pre' a as post' := by
  intro p hp
  obtain ⟨q, hq, hr⟩ := h p (hpre p hp)
  exact ⟨q, hpost q hq, hr⟩

theorem congr (h : Fits pre a as post) (he : as = bs) : Fits pre a bs post :=
  he ▸ h

theorem seated (h : Fits Free a as post) : Fits Seat a as post :=
  h.weaken (fun _ => Seat.free) fun _ => id

theorem append (ha : Fits pre a as mid) (hb : Fits mid b bs post) :
    Fits pre (a ++ b) (as ++ bs) post := by
  intro p hp
  obtain ⟨q, hq, ra⟩ := ha p hp
  obtain ⟨r, hr, rb⟩ := hb q hq
  exact ⟨r, hr, ra.append rb⟩

theorem nil (h : ∀ p, pre p → post p) : Fits pre [] [] post := by
  intro p hp
  exact ⟨p, h p hp, .nil p⟩

theorem quote (payload : List Char) : Fits Seat (quote payload) [payload] Free := by
  intro p hp
  refine ⟨'\'', by decide, ?_⟩
  rw [← List.append_nil (Text.quote payload)]
  exact .quoted (by rwa [Follows, if_pos rfl]) (.nil '\'')

theorem harmless {text : List Char} (h : ∀ c ∈ text, isHarmless c = true) :
    Fits Free text [] Free := by
  induction text with
  | nil => exact nil fun _ => id
  | cons c text ih =>
    intro p hp
    obtain ⟨hq, hm, hs, hc⟩ := isHarmless_iff.mp (h c List.mem_cons_self)
    obtain ⟨q, hfree, hr⟩ := ih (fun d hd => h d (List.mem_cons_of_mem c hd)) c hs
    refine ⟨q, hfree, .plain hq ?_ hr⟩
    rw [Follows, if_neg hq]
    exact ⟨hc, fun h => hm h.2, fun h => hp h.1⟩

theorem fixed {text : List Char} (h : text.all isHarmless = true) : Fits Free text [] Free :=
  harmless (List.all_eq_true.mp h)

theorem harmless_concat {text : List Char} {c : Char} (h : ∀ c ∈ text, isHarmless c = true)
    (hc : isHarmless c = true) (hpost : post c) : Fits Free (text ++ [c]) [] post := by
  have last : Fits Free [c] [] post := by
    obtain ⟨hq, hm, -, hs⟩ := isHarmless_iff.mp hc
    intro p hp
    refine ⟨c, hpost, .plain hq ?_ (.nil c)⟩
    rw [Follows, if_neg hq]
    exact ⟨hs, fun h => hm h.2, fun h => hp h.1⟩
  exact (harmless h).append last

theorem word {text : String} {c : Char} (h : text.toList.all isHarmless = true)
    (hc : text.toList.getLast? = some c) (hpost : post c) : Fits Free text.toList [] post := by
  obtain ⟨front, hf⟩ := List.getLast?_eq_some_iff.mp hc
  rw [hf, List.all_append, Bool.and_eq_true] at h
  rw [hf]
  exact harmless_concat (List.all_eq_true.mp h.1)
    (List.all_eq_true.mp h.2 c List.mem_cons_self) hpost

theorem parentheses (h : Fits Seat a as Free) : Fits Free ('(' :: (a ++ [')'])) as Free := by
  have opening : Fits Free "(".toList [] Seat := word (by decide) rfl (by decide)
  have closing : Fits Free ")".toList [] Free := word (by decide) rfl (by decide)
  have := (opening.append h).append closing
  rwa [List.append_assoc, List.nil_append, List.append_nil] at this

section Lists

variable {ι : Type} {items : List ι} {text : ι → List Char} {payloads : ι → List (List Char)}

theorem flatMap (h : ∀ i ∈ items, Fits Free (text i) (payloads i) Free) :
    Fits Free (items.flatMap text) (items.flatMap payloads) Free := by
  induction items with
  | nil => exact nil fun _ => id
  | cons i items ih =>
    have first := h i List.mem_cons_self
    exact first.append (ih fun j hj => h j (List.mem_cons_of_mem i hj))

theorem commaSeparated (h : ∀ i ∈ items, Fits Seat (text i) (payloads i) Free) :
    Fits Seat (commaSeparated (items.map text)) (items.flatMap payloads) Free := by
  cases items with
  | nil => exact nil fun _ => Seat.free
  | cons i items =>
    have comma : Fits Free ", ".toList [] Seat := word (by decide) rfl (by decide)
    have others : Fits Free (items.flatMap fun j => ", ".toList ++ text j)
        (items.flatMap payloads) Free :=
      flatMap fun j hj => comma.append (h j (List.mem_cons_of_mem i hj))
    rw [List.map_cons, commaSeparated_cons, List.flatMap_map]
    exact (h i List.mem_cons_self).append others

end Lists

end Fits

/-! ### Numbers and literals -/

theorem harmless_of_isDigit {c : Char} (h : c.isDigit = true) : isHarmless c = true := by
  rw [isHarmless_iff]
  refine ⟨?_, ?_, ?_, ?_⟩ <;> rintro rfl <;> cases h

theorem Fits.digits {n : Nat} : Fits Free (digits n) [] Free :=
  harmless fun _ h => harmless_of_isDigit (isDigit_of_mem_digits h)

theorem harmless_of_isPlainNumber {w : List Char} (h : IsPlainNumber w) :
    ∀ c ∈ w, isHarmless c = true := by
  intro c hc
  rcases h.chars c hc with hd | rfl
  · exact harmless_of_isDigit hd
  · rfl

theorem Fits.signed {negative : Prop} [Decidable negative] {text : List Char}
    (h : Fits Free text [] Free) : Fits Loose (if negative then '-' :: text else text) [] Free := by
  split
  · intro p hp
    obtain ⟨q, hq, hr⟩ := h '-' (by decide)
    refine ⟨q, hq, .plain (by decide) ?_ hr⟩
    rw [Follows, if_neg (by decide)]
    exact ⟨by decide, fun h => hp.2 h.1, fun h => hp.1 h.1⟩
  · exact h.weaken (fun _ => Loose.free) fun _ => id

theorem Fits.signedDigits (i : Int) : Fits Loose (signedDigits i) [] Free :=
  Fits.digits.signed

end Text

open Text

theorem Decimal.fits_toText (d : Decimal) : Fits Loose d.toText [] Free := by
  obtain ⟨body, hb, h⟩ := d.toText_eq
  rw [h]
  exact (Fits.harmless (harmless_of_isPlainNumber hb)).signed

theorem Double.fits_render (x : Double) : Fits Loose (x.render .sql) [] Free := by
  obtain ⟨body, hb, h⟩ := x.render_sql_eq
  rw [h]
  refine Fits.signed ?_
  rcases hb with hb | ⟨front, exponent, hf, rfl⟩
  · exact Fits.harmless (harmless_of_isPlainNumber hb)
  · have mark : Fits Free (front ++ ['e']) [] Loose :=
      Fits.harmless_concat (harmless_of_isPlainNumber hf) (by decide) (by decide)
    rw [List.append_cons]
    exact mark.append (Fits.signedDigits exponent)

namespace Double

variable (x : Double)

theorem exponentField_eq : x.exponentField = x.bits.toNat / 0x10000000000000 % 0x800 :=
  rfl

theorem fractionField_eq : x.fractionField = x.bits.toNat % 0x10000000000000 :=
  rfl

theorem isFinite_iff :
    x.isFinite = true ↔ x.bits.toNat % 0x8000000000000000 < 0x7ff0000000000000 := by
  rw [isFinite, exponentField_eq, bne_iff_ne]
  omega

theorem isNaN_iff :
    x.isNaN = true ↔ 0x7ff0000000000000 < x.bits.toNat % 0x8000000000000000 := by
  rw [isNaN, exponentField_eq, fractionField_eq, Bool.and_eq_true, beq_iff_eq, bne_iff_ne]
  omega

theorem isNegative_iff : x.isNegative = true ↔ 0x8000000000000000 ≤ x.bits.toNat :=
  decide_eq_true_iff

/-- A double is written bare if it is finite, and else as its word in quotes. -/
theorem doubleForm_eq : Value.doubleForm x =
    match x.word? with
    | some word => .quoted word
    | none => .bare (x.render .sql) := by
  have bounded := x.bits.toNat_lt
  unfold Value.doubleForm word?
  simp only [isFinite_iff, isNaN_iff, isNegative_iff]
  by_cases infinite : x.bits.toNat = 0x7ff0000000000000
  · rw [if_pos infinite, if_neg (by omega), if_neg (by omega), if_neg (by omega)]
  by_cases negative : x.bits.toNat = 0xfff0000000000000
  · rw [if_neg infinite, if_pos negative, if_neg (by omega), if_neg (by omega), if_pos (by omega)]
  rw [if_neg infinite, if_neg negative]
  by_cases finite : x.bits.toNat % 0x8000000000000000 < 0x7ff0000000000000
  · rw [if_pos finite, if_neg (by omega)]
  · have nan : 0x7ff0000000000000 < x.bits.toNat % 0x8000000000000000 := by omega
    rw [if_neg finite, if_pos nan, if_pos nan]

end Double

/-- What stands between the quotes of a literal is the payload of the value. -/
theorem Value.form_eq_of_payload (v : Value) : v.payload?.toList =
    match v.form with
    | .quoted payload => [payload]
    | .bare _ => [] := by
  cases v with
  | double x =>
    rw [form, x.doubleForm_eq, payload?]
    cases x.word? <;> rfl
  | bool b => cases b <;> rfl
  | _ => rfl

/-- A literal is a piece that holds its payload, if it is a quoted one. -/
theorem Value.fits_literalText (v : Value) :
    Fits Seat v.literalText v.payload?.toList Free := by
  rw [literalText, form_eq_of_payload]
  cases h : v.form with
  | quoted payload => exact Fits.quote payload
  | bare w =>
    show Fits Seat w [] Free
    rcases bare_cases h with (rfl | rfl | rfl) | ⟨i, rfl⟩ | ⟨d, rfl⟩ | ⟨x, rfl⟩
    · exact (Fits.fixed (by decide)).seated
    · exact (Fits.fixed (by decide)).seated
    · exact (Fits.fixed (by decide)).seated
    · exact (Fits.signedDigits i).weaken (fun _ => Seat.loose) fun _ => id
    · exact d.fits_toText.weaken (fun _ => Seat.loose) fun _ => id
    · exact x.fits_render.weaken (fun _ => Seat.loose) fun _ => id

end TypedSql
