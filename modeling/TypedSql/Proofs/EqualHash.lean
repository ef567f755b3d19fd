import Mathlib.Tactic.LinearCombination
import TypedSql.Proofs.Sameness
import TypedSql.Proofs.Spelling
import TypedSql.Statement.Select

/-!
Equal trees have the same hash exactly if the doubles in their JSON documents are the same.
-/

namespace TypedSql

open List

/-! ### Decimals -/

namespace Decimal

/-- A numerator and a scale with no digit behind the point to spare. -/
def Shortest (k : Int × Nat) : Prop :=
  k.2 = 0 ∨ ¬ (10 : Int) ∣ k.1

/-- Numbers in shortest form are the same only if they are written the same. -/
theorem Shortest.unique {k l : Int × Nat} (hk : Shortest k) (hl : Shortest l)
    (h : k.1 * 10 ^ l.2 = l.1 * 10 ^ k.2) : k = l := by
  wlog hle : k.2 ≤ l.2 generalizing k l
  · exact (this hl hk h.symm (Nat.le_of_not_le hle)).symm
  have power : (10 : Int) ^ k.2 ≠ 0 := pow_ne_zero _ (by decide)
  have scaled : k.1 * 10 ^ (l.2 - k.2) = l.1 := by
    apply Int.eq_of_mul_eq_mul_right power
    rw [← h, mul_assoc, ← pow_add, Nat.sub_add_cancel hle]
  have scales : l.2 = k.2 := by
    rcases hl with hl | hl
    · omega
    by_contra hne
    refine hl ?_
    rw [← scaled]
    exact Dvd.dvd.mul_left (dvd_pow_self 10 (by omega)) k.1
  rw [scales, Nat.sub_self, pow_zero, mul_one] at scaled
  exact Prod.ext scaled scales.symm

theorem reduce_spec (steps : Nat) (m : Int) (scale : Nat) :
    m * 10 ^ (reduce steps m scale).2 = (reduce steps m scale).1 * 10 ^ scale ∧
      (scale ≤ steps → Shortest (reduce steps m scale)) := by
  induction steps generalizing m scale with
  | zero =>
    have none : reduce 0 m scale = (m, scale) := by cases scale <;> rfl
    rw [none]
    exact ⟨rfl, fun h => .inl (Nat.le_zero.mp h)⟩
  | succ steps ih =>
    cases scale with
    | zero => exact ⟨rfl, fun _ => .inl rfl⟩
    | succ scale =>
      rw [reduce]
      split
      · obtain ⟨value, shortest⟩ := ih (m / 10) scale
        have whole : m / 10 * 10 = m := Int.ediv_mul_cancel (Int.dvd_of_emod_eq_zero ‹_›)
        refine ⟨?_, fun h => shortest (Nat.le_of_succ_le_succ h)⟩
        linear_combination 10 * value - 10 ^ (reduce steps (m / 10) scale).2 * whole
      · exact ⟨rfl, fun _ => .inr fun hd => ‹¬_› (Int.emod_eq_zero_of_dvd hd)⟩

theorem key_spec (d : Decimal) : d.mantissa * 10 ^ d.key.2 = d.key.1 * 10 ^ d.scale ∧
    Shortest d.key := by
  rw [key]
  split
  · rename_i h
    exact ⟨by rw [h, zero_mul, zero_mul], .inl rfl⟩
  · obtain ⟨value, shortest⟩ := reduce_spec d.scale d.mantissa d.scale
    exact ⟨value, shortest (Nat.le_refl _)⟩

/-- What goes into the hash of a decimal is decided by the number. -/
theorem key_eq_of_numericEq {a b : Decimal} (h : a.numericEq b = true) : a.key = b.key := by
  obtain ⟨ha, sa⟩ := a.key_spec
  obtain ⟨hb, sb⟩ := b.key_spec
  refine sa.unique sb ?_
  simp only [numericEq, Nat.pow_eq, Nat.cast_pow, Nat.cast_ofNat, beq_iff_eq] at h
  have power : (10 : Int) ^ a.scale * 10 ^ b.scale ≠ 0 :=
    mul_ne_zero (pow_ne_zero _ (by decide)) (pow_ne_zero _ (by decide))
  apply Int.eq_of_mul_eq_mul_right power
  linear_combination (-(10 ^ b.key.2 * 10 ^ b.scale)) * ha + 10 ^ a.key.2 * 10 ^ b.key.2 * h +
    10 ^ a.scale * 10 ^ a.key.2 * hb

end Decimal

/-! ### The parts of a hash -/

section Parts

variable {γ ι κ : Type} {as : List ι} {bs : List κ} {a : Option ι} {b : Option κ}
  {f : ι → List HashDatum} {g : κ → List HashDatum} {m : ι → List γ} {n : κ → List γ}

theorem Aligned.hashList
    (h : Forall₂ (fun a b => Aligned (fun _ => True) (f a) (g b) (m a) (n b)) as bs) :
    Aligned (fun _ => True) (hashList f as) (hashList g bs) (as.flatMap m) (bs.flatMap n) := by
  rw [TypedSql.hashList, TypedSql.hashList, h.length_eq]
  exact .front [_] (.flatMap h (fun _ _ => trivial) fun _ _ => trivial)

theorem Aligned.hashOption
    (h : Option.Rel (fun a b => Aligned (fun _ => True) (f a) (g b) (m a) (n b)) a b) :
    Aligned (fun _ => True) (hashOption f a) (hashOption g b) (a.toList.flatMap m)
      (b.toList.flatMap n) := by
  cases h with
  | none => exact .refl _ []
  | some h =>
    simp only [Option.toList_some, flatMap_singleton]
    exact h.front [.flag true]

theorem hashList_map (f : κ → List HashDatum) (g : ι → κ) (items : List ι) :
    hashList f (items.map g) = hashList (fun i => f (g i)) items := by
  rw [hashList, hashList, length_map, flatMap_map]

theorem hashOption_map (f : κ → List HashDatum) (g : ι → κ) (item : Option ι) :
    hashOption f (item.map g) = hashOption (fun i => f (g i)) item := by
  cases item <;> rfl

end Parts

theorem Value.aligned_hashData {v w : Value} (h : v.same w = true) :
    Aligned (fun _ => True) v.hashData w.hashData [v.reals] [w.reals] := by
  rcases same_cases h with rfl | ⟨a, b, rfl, rfl, h⟩ | ⟨a, b, rfl, rfl, h⟩
  · exact .refl _ _
  · rw [hashData, hashData, payloadHash, payloadHash, Decimal.key_eq_of_numericEq h]
    exact .refl _ [[]]
  · have text := (Json.alike_of_same h).eq_iff trivial
    -- The whole text is one datum, so nothing behind it can run together with it.
    refine .front [_] ⟨rfl, fun he => ?_, fun r r' _ _ he => ?_⟩
    · exact congrArg (fun text => [HashDatum.text (String.ofList text)])
        (text.mpr (singleton_inj.mp he))
    · obtain ⟨datum, rest⟩ := cons_eq_cons.mp he
      have reals := text.mp (String.ofList_injective (HashDatum.text.inj datum))
      exact ⟨congrArg ([·]) reals, rest⟩

namespace Expr

/-- What goes into the hashes of the two expressions is the same exactly if the doubles in their
JSON documents are. -/
def HashAlike (a b : Expr) : Prop :=
  Aligned (fun _ => True) a.hashData b.hashData (a.literals.map Value.reals)
    (b.literals.map Value.reals)

variable {a b a' b' : Expr} {type : SqlType}

theorem hashAlike_unary (op : Operator) (h : a.HashAlike b) :
    (unary op a).HashAlike (unary op b) := by
  rw [HashAlike, hashData, hashData, fold_unary, fold_unary, literals_unary, literals_unary]
  exact .front [_] (h.tail _)

theorem hashAlike_binary (op : Operator) (hl : a.HashAlike b) (hr : a'.HashAlike b') :
    (binary op a a' type).HashAlike (binary op b b' type) := by
  rw [HashAlike, hashData, hashData, fold_binary, fold_binary, literals_binary, literals_binary,
    map_append, map_append]
  exact .front [_] (hl.concat (.front [_] (hr.tail _)))

theorem hashAlike_call {as bs : List Expr} (function : String) (h : Forall₂ HashAlike as bs) :
    (call function as type).HashAlike (call function bs type) := by
  rw [HashAlike, hashData, hashData, fold_call, fold_call, literals_call, literals_call,
    map_flatMap, map_flatMap]
  simp only [hashAlgebra, hashList_map]
  exact .front [_, _] ((Aligned.hashList h).tail _)

theorem hashAlike_caseWhen {as bs : List (Expr × Expr)} {a b : Option Expr}
    (h : Forall₂ (fun a b => a.1.HashAlike b.1 ∧ a.2.HashAlike b.2) as bs)
    (ho : Option.Rel HashAlike a b) :
    (caseWhen as a type).HashAlike (caseWhen bs b type) := by
  rw [HashAlike, hashData, hashData, fold_caseWhen, fold_caseWhen, literals_caseWhen,
    literals_caseWhen, map_append, map_append, map_flatMap, map_flatMap, map_flatMap, map_flatMap]
  simp only [hashAlgebra, hashList_map, hashOption_map, map_append]
  have branches := Aligned.hashList (h.imp fun x y hxy => hxy.1.concat hxy.2)
  exact .front [_] ((branches.concat (.hashOption ho)).tail _)

end Expr

def Statement.HashAlike (s t : Statement) : Prop :=
  Aligned (fun _ => True) s.hashData t.hashData (s.literals.map Value.reals)
    (t.literals.map Value.reals)

theorem Expr.hashAlike_subquery {s t : Statement} {type : SqlType} (h : s.HashAlike t) :
    (subquery s type).HashAlike (subquery t type) := by
  rw [HashAlike, hashData, hashData, fold_subquery, fold_subquery, literals_subquery,
    literals_subquery]
  exact .front [_] (h.tail _)

namespace Clauses

theorem hashData_map (c : ClauseSet) (f : Expr → List HashDatum) (g : Statement → List HashDatum) :
    (c.map f g).hashData =
      hashOption Table.hashData c.table ++ hashList f c.projection ++
        hashList (fun j => .tag j.kind.tagWord :: (j.table.hashData ++ f j.on)) c.joins ++
        (hashOption f c.filter ++ hashList f c.groupBy ++ hashOption f c.having ++
          hashList (fun o => f o.expr ++ [.tag o.direction.tagWord]) c.orderBy ++
          hashOption (fun n => [.integer n]) c.limit ++
          hashOption (fun n => [.integer n]) c.offset ++
        (hashOption (hashList hashText) c.columns ++ hashList (hashList f) c.rows ++
          hashOption g c.source ++ hashList (fun a => .text a.column :: f a.value) c.assignments ++
          hashList hashText c.returning)) := by
  simp only [hashData, map, hashList_map, hashOption_map, id, append_assoc]

theorem Rel.aligned_hashData {c d : ClauseSet} (h : c.Rel Expr.HashAlike Statement.HashAlike d) :
    Aligned (fun _ => True) (c.map Expr.hashData Statement.hashData).hashData
      (d.map Expr.hashData Statement.hashData).hashData
      (c.map (fun e => e.literals.map Value.reals) fun t => t.literals.map Value.reals).collect
      (d.map (fun e => e.literals.map Value.reals)
        fun t => t.literals.map Value.reals).collect := by
  have joins : Aligned (fun _ => True)
      (hashList (fun j => .tag j.kind.tagWord :: (j.table.hashData ++ j.on.hashData)) c.joins)
      (hashList (fun j => .tag j.kind.tagWord :: (j.table.hashData ++ j.on.hashData)) d.joins)
      (c.joins.flatMap fun j => j.on.literals.map Value.reals)
      (d.joins.flatMap fun j => j.on.literals.map Value.reals) := by
    refine .hashList (h.joins.imp fun i j hij => ?_)
    rw [hij.1, hij.2.1]
    exact .front (.tag j.kind.tagWord :: j.table.hashData) hij.2.2
  have orderBy : Aligned (fun _ => True)
      (hashList (fun o => o.expr.hashData ++ [.tag o.direction.tagWord]) c.orderBy)
      (hashList (fun o => o.expr.hashData ++ [.tag o.direction.tagWord]) d.orderBy)
      (c.orderBy.flatMap fun o => o.expr.literals.map Value.reals)
      (d.orderBy.flatMap fun o => o.expr.literals.map Value.reals) := by
    refine .hashList (h.orderBy.imp fun o p hop => ?_)
    rw [hop.1]
    exact hop.2.tail _
  have rows : Aligned (fun _ => True) (hashList (hashList Expr.hashData) c.rows)
      (hashList (hashList Expr.hashData) d.rows)
      (c.rows.flatMap fun r => r.flatMap fun e => e.literals.map Value.reals)
      (d.rows.flatMap fun r => r.flatMap fun e => e.literals.map Value.reals) :=
    .hashList (h.rows.imp fun r r' hr => .hashList hr)
  have assignments : Aligned (fun _ => True)
      (hashList (fun a => .text a.column :: a.value.hashData) c.assignments)
      (hashList (fun a => .text a.column :: a.value.hashData) d.assignments)
      (c.assignments.flatMap fun a => a.value.literals.map Value.reals)
      (d.assignments.flatMap fun a => a.value.literals.map Value.reals) := by
    refine .hashList (h.assignments.imp fun a b hab => ?_)
    rw [hab.1]
    exact .front [_] hab.2
  have front := ((Aligned.hashList h.projection).concat joins).front
    (hashOption Table.hashData d.table)
  have middle := Aligned.tail (G := fun _ => True)
    ((((Aligned.hashOption h.filter).concat (.hashList h.groupBy)).concat
      (.hashOption h.having)).concat orderBy)
    (hashOption (fun n => [.integer n]) d.limit ++
      hashOption (fun n => [.integer n]) d.offset)
  have back := Aligned.tail (G := fun _ => True)
    (((rows.concat (.hashOption h.source)).concat assignments).front
      (hashOption (hashList hashText) d.columns))
    (hashList hashText d.returning)
  -- The literals of rows and assignments are listed ahead of those of the filter.
  have whole := front.concat ((middle.concat back).swap middle.length)
  have flat : ∀ rows : List (List Expr),
      (rows.flatten.flatMap fun e => e.literals.map Value.reals) =
        rows.flatMap fun r => r.flatMap fun e => e.literals.map Value.reals := fun rows => by
    rw [← flatMap_id, flatMap_assoc]
    rfl
  rw [hashData_map, hashData_map, collect_map, collect_map, flat, flat, h.table, h.limit, h.offset,
    h.columns, h.returning]
  simp only [append_assoc] at whole ⊢
  exact whole

end Clauses

theorem hashAlike_of_same : (∀ a b : Expr, a.same b = true → a.HashAlike b) ∧
    ∀ s t : Statement, s.same t = true → s.HashAlike t := by
  apply same_induction
  case column => exact fun _ _ _ _ => .refl _ _
  case literal =>
    intro v w type h
    rw [Expr.HashAlike, Expr.hashData, Expr.hashData, Expr.fold_literal, Expr.fold_literal,
      Expr.literals_literal, Expr.literals_literal]
    exact .front [_] ((Value.aligned_hashData h).tail _)
  case unary => exact fun op _ _ h => Expr.hashAlike_unary op h
  case binary => exact fun op _ _ _ _ _ hl hr => Expr.hashAlike_binary op hl hr
  case call => exact fun function _ _ _ h => Expr.hashAlike_call function h
  case caseWhen => exact fun _ _ _ _ _ h ho => Expr.hashAlike_caseWhen h ho
  case subquery => exact fun _ _ _ h => Expr.hashAlike_subquery h
  case statement =>
    intro s t kind resultType h
    rw [Statement.HashAlike, Statement.hashData, Statement.hashData, Statement.fold_eq,
      Statement.fold_eq, Statement.map_literals, Statement.map_literals]
    simp only [hashAlgebra, kind, resultType]
    exact .front [_, _] h.aligned_hashData

/-! ### Hash sets -/

theorem forall₂_of_beq {r r' : Record} (h : (r == r') = true) :
    Forall₂ (fun v w => Aligned (fun _ => True) v.hashData w.hashData [v.reals] [w.reals]) r
      r' := by
  induction r generalizing r' with
  | nil =>
    cases r' with
    | nil => exact .nil
    | cons w r' => cases h
  | cons v r ih =>
    cases r' with
    | nil => cases h
    | cons w r' =>
      rw [cons_beq_cons, Bool.and_eq_true] at h
      exact .cons (Value.aligned_hashData h.1) (ih h.2)

theorem Record.aligned_hashData {r r' : Record} (h : (r == r') = true) :
    Aligned (fun _ => True) r.hashData r'.hashData (r.map Value.reals) (r'.map Value.reals) := by
  have values := (Aligned.hashList (forall₂_of_beq h))
  rwa [← map_eq_flatMap, ← map_eq_flatMap] at values

/-- A hash set takes two equal items for one exactly if their hashes agree. -/
theorem distinctCount_pair {α : Type} {same : α → α → Bool} {hash : α → List HashDatum} {x y : α}
    (h : same x y = true) : distinctCount same hash [x, y] = 1 ↔ hash x = hash y := by
  by_cases he : hash x = hash y
  · simp [distinctCount, he, h]
  · simp [distinctCount, he]

/-- Equal values, rows and trees have the same hash exactly if the doubles in their JSON documents
are the same, and a hash set of two equal statements has two elements where they are not. -/
theorem hashData_eq_iff_of_same (v w : Value) (r r' : Record) (a b : Expr) (s t : Statement) :
    (v == w → (v.hashData = w.hashData ↔ v.reals = w.reals)) ∧
    (r == r' → (r.hashData = r'.hashData ↔ r.map Value.reals = r'.map Value.reals)) ∧
    (a == b →
      (a.hashData = b.hashData ↔ a.literals.map Value.reals = b.literals.map Value.reals)) ∧
    (s == t →
      (s.hashData = t.hashData ↔ s.literals.map Value.reals = t.literals.map Value.reals) ∧
      (distinctCount Statement.same Statement.hashData [s, t] = 1 ↔
        s.literals.map Value.reals = t.literals.map Value.reals)) := by
  refine ⟨fun h => ?_, fun h => ?_, fun h => ?_, fun h => ?_⟩
  · rw [(Value.aligned_hashData h).eq_iff trivial, singleton_inj]
  · exact (Record.aligned_hashData h).eq_iff trivial
  · exact (hashAlike_of_same.1 a b h).eq_iff trivial
  · have hash := (hashAlike_of_same.2 s t h).eq_iff trivial
    exact ⟨hash, (distinctCount_pair h).trans hash⟩

/-- The zeros of either sign are equal as JSON documents and differ in their hashes. -/
theorem hashData_eq_iff_of_same_zeros : ∃ v w : Value,
    ((v == w) = true ∧ v.hashData ≠ w.hashData) ∧
    (([v] : Record) == [w]) = true ∧ Record.hashData [v] ≠ Record.hashData [w] ∧
    (Expr.ofValue v == Expr.ofValue w) = true ∧
    (Expr.ofValue v).hashData ≠ (Expr.ofValue w).hashData ∧
    (((selectAs .record).projectMany [Expr.ofValue v]).statement ==
      ((selectAs .record).projectMany [Expr.ofValue w]).statement) = true ∧
    distinctCount Statement.same Statement.hashData
      [((selectAs .record).projectMany [Expr.ofValue v]).statement,
        ((selectAs .record).projectMany [Expr.ofValue w]).statement] ≠ 1 := by
  let v := Value.json (.number (.real ⟨0⟩))
  let w := Value.json (.number (.real ⟨0x8000000000000000⟩))
  have values : (v == w) = true := by decide +kernel
  have records : (([v] : Record) == [w]) = true := by decide +kernel
  have exprs : (Expr.ofValue v == Expr.ofValue w) = true := by decide +kernel
  have statements : (((selectAs .record).projectMany [Expr.ofValue v]).statement ==
      ((selectAs .record).projectMany [Expr.ofValue w]).statement) = true := by decide +kernel
  obtain ⟨value, record, expr, statement⟩ := hashData_eq_iff_of_same v w [v] [w]
    (Expr.ofValue v) (Expr.ofValue w)
    ((selectAs .record).projectMany [Expr.ofValue v]).statement
    ((selectAs .record).projectMany [Expr.ofValue w]).statement
  refine ⟨v, w, ⟨values, ?_⟩, records, ?_, exprs, ?_, statements, ?_⟩
  · rw [Ne, value values]
    decide +kernel
  · rw [Ne, record records]
    decide +kernel
  · rw [Ne, expr exprs]
    decide +kernel
  · rw [Ne, (statement statements).2]
    decide +kernel

end TypedSql
