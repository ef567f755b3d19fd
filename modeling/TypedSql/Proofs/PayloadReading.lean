import TypedSql.Decimal.Parser
import TypedSql.Proofs.DigitRuns
import TypedSql.Uuid

/-!
Decimals and identifiers are read back from their texts. A decimal keeps its digits and its scale
and loses the sign of a zero; an identifier keeps all its bits.
-/

namespace TypedSql

open Text

/-! ### Decimals -/

namespace Decimal

namespace Scan

variable {negative : Bool} {ds rest : List Char} {m scale : Nat} {seen : Bool}

/-- Digits before the point move the mantissa on. -/
theorem read_whole (hd : AllDigits ds) (hm : Nat.ofDigitChars 10 ds m < limit) :
    read negative ⟨m, 0, false, seen⟩ (ds ++ rest) =
      read negative ⟨Nat.ofDigitChars 10 ds m, 0, false, seen || !ds.isEmpty⟩ rest := by
  induction ds generalizing m seen with
  | nil => simp
  | cons d ds ih =>
    rw [ofDigitChars_cons] at hm ⊢
    have next : ¬ limit ≤ 10 * m + digitValue d :=
      Nat.not_le_of_lt (Nat.lt_of_le_of_lt (le_ofDigitChars ds _) hm)
    rw [List.cons_append, read, if_pos (hd d List.mem_cons_self)]
    show (if limit ≤ 10 * m + digitValue d then none
      else read negative ⟨10 * m + digitValue d, 0, false, true⟩ (ds ++ rest)) = _
    rw [if_neg next, ih (fun c hc => hd c (List.mem_cons_of_mem d hc)) hm]
    simp

/-- Digits behind the point move the scale on, too. -/
theorem read_fraction (hd : AllDigits ds) (hm : Nat.ofDigitChars 10 ds m < limit)
    (hs : scale + ds.length ≤ 28) :
    read negative ⟨m, scale, true, true⟩ (ds ++ rest) =
      read negative ⟨Nat.ofDigitChars 10 ds m, scale + ds.length, true, true⟩ rest := by
  induction ds generalizing m scale with
  | nil => rfl
  | cons d ds ih =>
    rw [ofDigitChars_cons] at hm ⊢
    rw [List.length_cons] at hs ⊢
    have next : ¬ limit ≤ 10 * m + digitValue d :=
      Nat.not_le_of_lt (Nat.lt_of_le_of_lt (le_ofDigitChars ds _) hm)
    have room : ¬ (true && (decide (28 ≤ scale) || decide (limit ≤ 10 * m + digitValue d))) =
        true := by
      simp only [Bool.true_and, Bool.or_eq_true, decide_eq_true_eq, not_or]
      exact ⟨by omega, next⟩
    rw [List.cons_append, read, if_pos (hd d List.mem_cons_self), if_neg room, if_neg next]
    show read negative ⟨10 * m + digitValue d, scale + 1, true, true⟩ (ds ++ rest) = _
    rw [ih (fun c hc => hd c (List.mem_cons_of_mem d hc)) hm (by omega)]
    congr 2
    omega

/-- Digits with a point in front of the last ones, if any stand behind it. -/
theorem read_body (negative : Bool) (hd : AllDigits ds) (hv : digitsValue ds < limit)
    (hs : scale ≤ 28) (hl : scale < ds.length) :
    read negative {} (if scale = 0 then ds
      else ds.take (ds.length - scale) ++ '.' :: ds.drop (ds.length - scale)) =
      finish negative ⟨digitsValue ds, scale, decide (scale ≠ 0), true⟩ := by
  split
  · next h =>
    subst h
    have nonempty : ds.isEmpty = false := by simpa using List.ne_nil_of_length_pos hl
    rw [← List.append_nil ds]
    refine (read_whole hd hv).trans ?_
    rw [List.append_nil, nonempty]
    rfl
  · next h =>
    obtain ⟨whole, fraction, rfl, hf⟩ : ∃ whole fraction, ds = whole ++ fraction ∧
        fraction.length = scale :=
      ⟨ds.take (ds.length - scale), ds.drop (ds.length - scale), by simp, by simp; omega⟩
    have cut : (whole ++ fraction).length - scale = whole.length := by
      rw [List.length_append]
      omega
    have nonempty : whole.isEmpty = false := by
      rw [List.length_append] at hl
      simpa using List.ne_nil_of_length_pos (show 0 < whole.length by omega)
    have value : Nat.ofDigitChars 10 fraction (Nat.ofDigitChars 10 whole 0) =
      digitsValue (whole ++ fraction) := (Nat.ofDigitChars_append 0).symm
    rw [← value] at hv ⊢
    rw [cut, List.take_left, List.drop_left]
    refine (read_whole (fun c hc => hd c (List.mem_append_left _ hc))
      (Nat.lt_of_le_of_lt (le_ofDigitChars _ _) hv)).trans ?_
    rw [nonempty, ← List.append_nil fraction]
    show read negative ⟨_, 0, true, true⟩ _ = _
    rw [read_fraction (fun c hc => hd c (List.mem_append_right _ hc)) hv (by omega), hf]
    simp [h, read]

end Scan

/-- A text that is read without a sign has none. -/
theorem ofPlainText?_of_read {cs : List Char} {d : Decimal}
    (h : Scan.read false {} cs = some d) : ofPlainText? cs = some d := by
  unfold ofPlainText?
  split
  · cases h
  · cases h
  · cases h
  · exact h

/-- The number without the sign that a zero may have. -/
theorem finish_written (d : Decimal) (pointSeen : Bool) : ∃ d',
    Scan.finish d.negative ⟨d.magnitude, d.scale, pointSeen, true⟩ = some d' ∧
      d'.mantissa = d.mantissa ∧ d'.scale = d.scale := by
  have written : (if d.negative then -(d.magnitude : Int) else d.magnitude) = d.mantissa := rfl
  have magnitude : d.mantissa.natAbs = d.magnitude := by
    rw [mantissa]
    split <;> omega
  obtain ⟨d', h⟩ : ∃ d', ofParts? d.mantissa d.scale = some d' := by
    rw [ofParts?, magnitude]
    exact ⟨_, dif_pos ⟨d.magnitude_lt, d.scale_le⟩⟩
  refine ⟨d', ?_, parts_of_ofParts? h⟩
  rw [Scan.finish, if_pos rfl, written, h]

theorem ofText?_toText (d : Decimal) : ∃ d', ofText? d.toText = some d' ∧
    d'.mantissa = d.mantissa ∧ d'.scale = d.scale := by
  have value : digitsValue (padded (d.scale + 1) d.magnitude) = d.magnitude :=
    digitsValue_padded _ _
  have long : d.scale < (padded (d.scale + 1) d.magnitude).length := by
    rw [padded, List.length_leftpad]
    omega
  have body := Scan.read_body d.negative (allDigits_padded _ _) (value.symm ▸ d.magnitude_lt)
    d.scale_le long
  obtain ⟨d', hd, same⟩ := d.finish_written (decide (d.scale ≠ 0))
  rw [value, hd] at body
  refine ⟨d', ?_, same⟩
  have plain : ofPlainText? d.toText = some d' := by
    unfold toText
    dsimp only
    split
    · next h =>
      rw [h] at body
      exact body
    · next h =>
      rw [Bool.not_eq_true] at h
      rw [h] at body
      exact ofPlainText?_of_read body
  rw [ofText?, plain]
  rfl

end Decimal

/-! ### Identifiers -/

namespace Uuid

variable {n : Nat} {ns : List Nat} {cs : List Char}

theorem length_hyphenate (h : cs.length = (n :: ns).sum) :
    (hyphenate (n :: ns) cs).length = (n :: ns).sum + ns.length := by
  induction ns generalizing n cs with
  | nil =>
    rw [List.sum_cons, List.sum_nil] at h ⊢
    rw [hyphenate, List.length_take, h]
    simp
  | cons m ns ih =>
    rw [List.sum_cons] at h ⊢
    have others : (cs.drop n).length = (m :: ns).sum := by
      rw [List.length_drop, h, Nat.add_sub_cancel_left]
    rw [hyphenate, List.length_append, List.length_cons, List.length_take, List.length_cons,
      ih others]
    · omega
    · exact List.cons_ne_nil m ns

theorem unhyphenate?_hyphenate (h : cs.length = (n :: ns).sum) :
    unhyphenate? (n :: ns) (hyphenate (n :: ns) cs) = some cs := by
  induction ns generalizing n cs with
  | nil =>
    rw [List.sum_cons, List.sum_nil, Nat.add_zero] at h
    rw [hyphenate, unhyphenate?, ← h, List.take_length, if_pos rfl]
  | cons m ns ih =>
    rw [List.sum_cons] at h
    have others : (cs.drop n).length = (m :: ns).sum := by
      rw [List.length_drop, h, Nat.add_sub_cancel_left]
    have front : (cs.take n).length = n := by
      rw [List.length_take, h]
      exact Nat.min_eq_left (Nat.le_add_right _ _)
    rw [hyphenate, unhyphenate?, List.drop_left' front, List.take_left' front]
    · show ((unhyphenate? (m :: ns) (hyphenate (m :: ns) (cs.drop n))).map (cs.take n ++ ·)) = _
      rw [ih others, Option.map_some, List.take_append_drop]
    · exact List.cons_ne_nil m ns
    · exact List.cons_ne_nil m ns

theorem ofText?_toText (u : Uuid) : ofText? u.toText = some u := by
  have digits : (hexPadded 32 u.bits.toNat).length = groupLengths.sum := length_hexPadded _ _
  have length : u.toText.length = 36 := length_hyphenate digits
  have groups : unhyphenate? groupLengths u.toText = some (hexPadded 32 u.bits.toNat) :=
    unhyphenate?_hyphenate digits
  rw [ofText?, if_neg (by simp [length]), if_pos length, ofHyphenated?, groups, Option.bind_some,
    ofDigits?, if_pos (length_hexPadded _ _), readHex?_hexPadded, Option.map_some]
  have small : u.bits.toNat % 16 ^ 32 = u.bits.toNat := Nat.mod_eq_of_lt u.bits.isLt
  rw [small, BitVec.ofNat_toNat, BitVec.setWidth_eq]

end Uuid

end TypedSql
