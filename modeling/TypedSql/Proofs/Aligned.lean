import Mathlib.Data.List.Forall2

/-!
Texts that are aligned: put together in the same way from the same parts, but for some that may be
written in more than one way. Each such part has a mark that tells how it is written. Aligned texts
are equal exactly if their marks are, and even where more text follows each of them one can tell,
provided that what follows does not run together with the last part.
-/

namespace TypedSql

open List

variable {α γ : Type} {F G : List α → Prop} {x y x' y' : List α} {p q p' q' : List γ}

/-- Two texts whose varying parts have the marks `p` and `q`, up to texts that satisfy `F`. -/
structure Aligned (F : List α → Prop) (x y : List α) (p q : List γ) : Prop where
  length : p.length = q.length
  eq_of_marks : p = q → x = y
  split : ∀ r r', F r → F r' → x ++ r = y ++ r' → p = q ∧ r = r'

namespace Aligned

theorem eq_iff (h : Aligned F x y p q) (hF : F []) : x = y ↔ p = q := by
  refine ⟨fun he => ?_, h.eq_of_marks⟩
  exact (h.split [] [] hF hF (congrArg (· ++ []) he)).1

theorem refl (x : List α) (p : List γ) : Aligned F x x p p :=
  ⟨rfl, fun _ => rfl, fun _ _ _ _ h => ⟨rfl, List.append_cancel_left h⟩⟩

/-- Parts that are told apart by their first characters. -/
theorem of_head_ne {a b : α} (hab : a ≠ b) (hl : p.length = q.length) (hne : p ≠ q) :
    Aligned F (a :: x) (b :: y) p q :=
  ⟨hl, fun he => absurd he hne, fun _ _ _ _ he => absurd (cons_eq_cons.mp he).1 hab⟩

theorem append (h : Aligned F x y p q) (h' : Aligned G x' y' p' q')
    (hx : ∀ r, G r → F (x' ++ r)) (hy : ∀ r, G r → F (y' ++ r)) :
    Aligned G (x ++ x') (y ++ y') (p ++ p') (q ++ q') := by
  refine ⟨?_, fun he => ?_, fun r r' hr hr' he => ?_⟩
  · rw [length_append, length_append, h.length, h'.length]
  · obtain ⟨hp, hp'⟩ := List.append_inj he h.length
    rw [h.eq_of_marks hp, h'.eq_of_marks hp']
  · rw [append_assoc, append_assoc] at he
    obtain ⟨rfl, he⟩ := h.split _ _ (hx r hr) (hy r' hr') he
    obtain ⟨rfl, rfl⟩ := h'.split r r' hr hr' he
    exact ⟨rfl, rfl⟩

/-- Nothing runs together with the first part. -/
theorem concat (h : Aligned (fun _ => True) x y p q) (h' : Aligned G x' y' p' q') :
    Aligned G (x ++ x') (y ++ y') (p ++ p') (q ++ q') :=
  h.append h' (fun _ _ => trivial) fun _ _ => trivial

theorem front (z : List α) (h : Aligned F x y p q) : Aligned F (z ++ x) (z ++ y) p q :=
  (refl z []).concat h

theorem back (h : Aligned F x y p q) (z : List α) (hz : ∀ r, G r → F (z ++ r)) :
    Aligned G (x ++ z) (y ++ z) p q := by
  have := h.append (refl (p := ([] : List γ)) z) hz hz
  rwa [append_nil, append_nil] at this

theorem tail (h : Aligned (fun _ => True) x y p q) (z : List α) :
    Aligned G (x ++ z) (y ++ z) p q :=
  h.back z fun _ _ => trivial

/-- Other marks that tell as much. -/
theorem remark {δ : Type} {u v : List δ} (h : Aligned F x y p q) (hl : u.length = v.length)
    (hm : p = q ↔ u = v) : Aligned F x y u v :=
  ⟨hl, fun he => h.eq_of_marks (hm.mpr he), fun r r' hr hr' he =>
    (h.split r r' hr hr' he).imp_left hm.mp⟩

/-- The marks may come in another order than the parts. -/
theorem swap (h : Aligned F x y (p ++ p') (q ++ q')) (hl : p.length = q.length) :
    Aligned F x y (p' ++ p) (q' ++ q) := by
  have hl' : p'.length = q'.length := by
    have := h.length
    rw [length_append, length_append, hl] at this
    exact Nat.add_left_cancel this
  refine h.remark (by rw [length_append, length_append, hl, hl']) ⟨fun he => ?_, fun he => ?_⟩
  · obtain ⟨rfl, rfl⟩ := List.append_inj he hl
    rfl
  · obtain ⟨rfl, rfl⟩ := List.append_inj he hl'
    rfl

/-! ### Lists of parts -/

variable {ι κ : Type} {as : List ι} {bs : List κ} {f : ι → List α} {g : κ → List α}
  {m : ι → List γ} {n : κ → List γ}

theorem flatMap (h : Forall₂ (fun a b => Aligned F (f a) (g b) (m a) (n b)) as bs)
    (hf : ∀ a r, F (f a ++ r)) (hg : ∀ b r, F (g b ++ r)) :
    Aligned F (as.flatMap f) (bs.flatMap g) (as.flatMap m) (bs.flatMap n) := by
  induction h with
  | nil => exact refl [] []
  | @cons a b as bs hab _ ih =>
    refine hab.append ih (fun r hr => ?_) fun r hr => ?_
    · cases as with
      | nil => exact hr
      | cons a as =>
        show F (f a ++ as.flatMap f ++ r)
        rw [append_assoc]
        exact hf a _
    · cases bs with
      | nil => exact hr
      | cons b bs =>
        show F (g b ++ bs.flatMap g ++ r)
        rw [append_assoc]
        exact hg b _

end Aligned

end TypedSql
