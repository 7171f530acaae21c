import BloomSigner.Lib.Except

/-! # Programs that change a state in place

A method that locks a record, changes it field by field and returns early on an error leaves behind
whatever it had written by then. `EStateM` has that meaning: an error keeps the writes made before
it. `FailsTo t x s` says where an error of `x` leaves the state, and the rules below follow the
program one statement at a time; `FailsTo s x s` is the all-or-nothing property. -/

namespace Lib

variable {ε σ α β : Type}

/-- A check or a computation that does not touch the state. -/
instance monadLiftExcept : MonadLift (Except ε) (EStateM ε σ) where
  monadLift r s := match r with
    | .ok a => .ok a s
    | .error e => .error e s

/-- Started in `s`, the program `x` either succeeds or leaves the state `t`. -/
def FailsTo (t : σ) (x : EStateM ε σ α) (s : σ) : Prop := ∀ e s', x s = .error e s' → s' = t

theorem liftM_bind_ok {r : Except ε α} (h : r = .ok a) (f : α → EStateM ε σ β) (s : σ) :
    ((liftM r : EStateM ε σ α) >>= f) s = f a s := by
  subst h; rfl

theorem liftM_bind_error {r : Except ε α} (h : r = .error e) (f : α → EStateM ε σ β) (s : σ) :
    ((liftM r : EStateM ε σ α) >>= f) s = .error e s := by
  subst h; rfl

theorem get_bind_apply (f : σ → EStateM ε σ β) (s : σ) :
    ((get : EStateM ε σ σ) >>= f) s = f s s := rfl

theorem modify_bind_apply (g : σ → σ) (f : PUnit → EStateM ε σ β) (s : σ) :
    ((modify g : EStateM ε σ PUnit) >>= f) s = f ⟨⟩ (g s) := rfl

/-- A program that succeeds got past its lifted computation. -/
theorem liftM_bind_eq_ok {r : Except ε α} {f : α → EStateM ε σ β}
    (h : ((liftM r : EStateM ε σ α) >>= f) s = .ok b s') : ∃ a, r = .ok a ∧ f a s = .ok b s' := by
  cases r with
  | ok a => exact ⟨a, rfl, h⟩
  | error e => cases h

/-- A lifted computation fails where it started. -/
theorem failsTo_lift {r : Except ε α} {f : α → EStateM ε σ β}
    (h : ∀ a, r = .ok a → FailsTo s (f a) s) : FailsTo s (liftM r >>= f) s := by
  intro e s' he
  cases r with
  | ok a => exact h a rfl e s' he
  | error e' => cases he; rfl

theorem failsTo_lift_ok {r : Except ε α} {f : α → EStateM ε σ β} (hr : r = .ok a)
    (h : FailsTo t (f a) s) : FailsTo t (liftM r >>= f) s := by
  intro e s' he
  rw [liftM_bind_ok hr] at he
  exact h e s' he

theorem failsTo_get {f : σ → EStateM ε σ β} (h : FailsTo t (f s) s) :
    FailsTo t ((get : EStateM ε σ σ) >>= f) s := h

theorem failsTo_modify {g : σ → σ} {f : PUnit → EStateM ε σ β} (h : FailsTo t (f ⟨⟩) (g s)) :
    FailsTo t ((modify g : EStateM ε σ PUnit) >>= f) s := h

end Lib
