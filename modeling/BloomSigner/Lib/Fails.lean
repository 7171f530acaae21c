import BloomSigner.Lib.Program

/-! # How fallible code fails

What is said about every failure of a sequence of early returns follows from what is said about the
failure of each statement. -/

namespace Lib

variable {ε : Type v} {α β : Type u} {P Q : ε → Prop}

/-- Every failure of `x` satisfies `P`. -/
def Fails (P : ε → Prop) (x : Except ε α) : Prop := ∀ e, x = .error e → P e

theorem fails_ok (a : α) : Fails P (.ok a : Except ε α) := by
  intro e h
  cases h

theorem fails_error {e : ε} (h : P e) : Fails P (.error e : Except ε α) := by
  intro e' he'
  cases he'
  exact h

theorem fails_reject {c : Prop} [Decidable c] {e : ε} (h : P e) : Fails P (reject c e) := by
  intro e' he'
  exact (reject_eq_error.mp he').2 ▸ h

theorem fails_okOr {x : Option α} {e : ε} (h : P e) : Fails P (okOr x e) := by
  intro e' he'
  exact (okOr_eq_error.mp he').2 ▸ h

theorem Fails.andThen {x : Except ε α} {f : α → Except ε β} (hx : Fails P x)
    (hf : ∀ a, x = .ok a → Fails P (f a)) : Fails P (x >>= f) := by
  intro e h
  rcases bind_eq_error.mp h with h | ⟨a, hok, h⟩
  · exact hx e h
  · exact hf a hok e h

theorem Fails.map {x : Except ε α} (hx : Fails P x) (f : α → β) : Fails P (x.map f) := by
  intro e h
  cases x with
  | ok a => cases h
  | error e' => cases h; exact hx e rfl

theorem fails_mapError {δ : Type v} {x : Except δ α} {f : δ → ε} (h : ∀ d, P (f d)) :
    Fails P (x.mapError f) := by
  intro e he
  cases x with
  | ok a => cases he
  | error d => cases he; exact h d

theorem fails_foldE {f : β → α → Except ε β} (h : ∀ b a, Fails P (f b a)) (as : List α) (b : β) :
    Fails P (foldE f b as) := by
  induction as generalizing b with
  | nil => exact fails_ok b
  | cons a as ih => exact (h b a).andThen fun b' _ => ih b'

theorem fails_forM {f : α → Except ε PUnit} {x : Option α} (h : ∀ a ∈ x, Fails P (f a)) :
    Fails P (x.forM f) := by
  cases x with
  | none => exact fails_ok _
  | some a => exact h a rfl

theorem Fails.mono {x : Except ε α} (hx : Fails P x) (h : ∀ e, P e → Q e) : Fails Q x :=
  fun e he => h e (hx e he)

/-! ## Programs -/

namespace Program

variable {σ ε α β : Type} {P : ε → Prop} {x : Program σ ε α} {f : α → Program σ ε β}
  {r : Except ε α} {s : σ}

theorem fails_bind (hx : Fails P (x s).1)
    (hf : ∀ a s', x s = (.ok a, s') → Fails P (f a s').1) : Fails P ((x >>= f) s).1 := by
  cases hrun : x s with
  | mk outcome s' =>
    cases outcome with
    | ok a => rw [bind_of_ok hrun]; exact hf a s' hrun
    | error e => rw [bind_of_error hrun]; rw [hrun] at hx; exact fails_error (hx e rfl)

theorem fails_lift_bind (hr : Fails P r) (hf : ∀ a, r = .ok a → Fails P (f a s).1) :
    Fails P (((liftM r : Program σ ε α) >>= f) s).1 := by
  refine fails_bind hr fun a s' h => ?_
  rw [lift_apply, Prod.mk.injEq] at h
  obtain ⟨hok, rfl⟩ := h
  exact hf a hok

end Program

end Lib
