import BloomSigner.Lib.Program

/-! # Pre- and postconditions of programs

`Triple P x Q E`: started in a state with `P`, the program `x` answers `a` in a state with `Q a`, or
fails with `e` in a state with `E e`. A program keeps its writes when it fails, so the failures have
a postcondition of their own. -/

namespace Lib

namespace Program

variable {σ ε α β : Type}

/-- What holds at the end of a run, whichever way it ends. -/
def Ends (Q : α → σ → Prop) (E : ε → σ → Prop) : Except ε α × σ → Prop
  | (.ok a, s) => Q a s
  | (.error e, s) => E e s

def Triple (P : σ → Prop) (x : Program σ ε α) (Q : α → σ → Prop) (E : ε → σ → Prop) : Prop :=
  ∀ s, P s → Ends Q E (x s)

variable {P P' : σ → Prop} {Q Q' : α → σ → Prop} {E E' : ε → σ → Prop} {R : β → σ → Prop}
  {x : Program σ ε α} {f : α → Program σ ε β}

theorem Ends.ok {r : Except ε α × σ} (h : Ends Q E r) (hr : r.1 = .ok a) : Q a r.2 := by
  obtain ⟨outcome, s⟩ := r
  cases hr
  exact h

theorem Ends.error {r : Except ε α × σ} (h : Ends Q E r) (hr : r.1 = .error e) : E e r.2 := by
  obtain ⟨outcome, s⟩ := r
  cases hr
  exact h

/-- What holds at both kinds of ends. -/
theorem Ends.either {r : Except ε α × σ} {P : σ → Prop} (h : Ends Q E r)
    (hok : ∀ a s, Q a s → P s) (herror : ∀ e s, E e s → P s) : P r.2 := by
  obtain ⟨outcome, s⟩ := r
  cases outcome with
  | ok a => exact hok a s h
  | error e => exact herror e s h

theorem Triple.pre (h : Triple P x Q E) (hpre : ∀ s, P' s → P s) : Triple P' x Q E :=
  fun s hs => h s (hpre s hs)

theorem Triple.post (h : Triple P x Q E) (hok : ∀ a s, Q a s → Q' a s)
    (herror : ∀ e s, E e s → E' e s) : Triple P x Q' E' := by
  intro s hs
  have hend := h s hs
  cases hx : x s with
  | mk r s' =>
    rw [hx] at hend
    cases r with
    | ok a => exact hok a s' hend
    | error e => exact herror e s' hend

theorem Triple.and (h : Triple P x Q E) (h' : Triple P' x Q' E') :
    Triple (fun s => P s ∧ P' s) x (fun a s => Q a s ∧ Q' a s) (fun e s => E e s ∧ E' e s) := by
  intro s hs
  have hend := h s hs.1
  have hend' := h' s hs.2
  cases hx : x s with
  | mk r s' =>
    rw [hx] at hend hend'
    cases r with
    | ok a => exact ⟨hend, hend'⟩
    | error e => exact ⟨hend, hend'⟩

theorem triple_pure {a : α} (h : ∀ s, P s → Q a s) : Triple P (pure a) Q E := h

theorem triple_fail {e : ε} (h : ∀ s, P s → E e s) : Triple P (fail e : Program σ ε α) Q E := h

theorem triple_lift {r : Except ε α} (hok : ∀ a, r = .ok a → ∀ s, P s → Q a s)
    (herror : ∀ e, r = .error e → ∀ s, P s → E e s) :
    Triple P (liftM r : Program σ ε α) Q E := by
  intro s hs
  cases hr : r with
  | ok a => exact hok a hr s hs
  | error e => exact herror e hr s hs

theorem Triple.bind (hx : Triple P x Q E) (hf : ∀ a, Triple (Q a) (f a) R E) :
    Triple P (x >>= f) R E := by
  intro s hs
  have hend := hx s hs
  cases hrun : x s with
  | mk r s' =>
    rw [hrun] at hend
    cases r with
    | ok a => rw [bind_of_ok hrun]; exact hf a s' hend
    | error e => rw [bind_of_error hrun]; exact hend

theorem triple_write_bind {g : σ → σ} {f : Unit → Program σ ε β}
    (h : Triple (fun s' => ∃ s, P s ∧ s' = g s) (f ()) R E) :
    Triple P ((write g : Program σ ε Unit) >>= f) R E :=
  fun s hs => h (g s) ⟨s, hs, rfl⟩

theorem triple_exists {ι : Type} {P : ι → σ → Prop} (h : ∀ i, Triple (P i) x Q E) :
    Triple (fun s => ∃ i, P i s) x Q E := by
  rintro s ⟨i, hs⟩
  exact h i s hs

/-- What is known of no state comes out of a precondition. -/
theorem triple_of {φ : Prop} (h : φ → Triple P x Q E) : Triple (fun s => P s ∧ φ) x Q E :=
  fun s hs => h hs.2 s hs.1

theorem triple_read_bind {g : σ → α} (h : ∀ a, Triple (fun s => P s ∧ g s = a) (f a) R E) :
    Triple P ((read g : Program σ ε α) >>= f) R E :=
  fun s hs => h (g s) s ⟨hs, rfl⟩

end Program

end Lib
