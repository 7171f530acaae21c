import BloomSigner.Lib.Except

/-! # Programs that keep their writes

A program over a state `σ` returns a value or fails, and what it wrote stays either way: an early
return does not undo the statements before it. The `Except` of an answer and the state it was
reached in come as a pair, so a program can be built from any function `σ → Except ε α × σ`. -/

namespace Lib

def Program (σ ε α : Type) : Type := σ → Except ε α × σ

namespace Program

variable {σ ε α β : Type}

instance monad : Monad (Program σ ε) where
  pure a s := (.ok a, s)
  bind x f s := match x s with
    | (.ok a, s') => f a s'
    | (.error e, s') => (.error e, s')

/-- A computation that does not touch the state. -/
instance liftExcept : MonadLift (Except ε) (Program σ ε) where
  monadLift x s := (x, s)

def fail (e : ε) : Program σ ε α := fun s => (.error e, s)

def read (f : σ → α) : Program σ ε α := fun s => (.ok (f s), s)

def write (f : σ → σ) : Program σ ε Unit := fun s => (.ok (), f s)

/-- The outcome of `x`. An error that `caught` does not take ends the program. -/
def attempt (caught : ε → Option γ) (x : Program σ ε α) : Program σ ε (Except γ α) := fun s =>
  match x s with
  | (.ok a, s') => (.ok (.ok a), s')
  | (.error e, s') =>
    match caught e with
    | some c => (.ok (.error c), s')
    | none => (.error e, s')

def mapError (f : ε → ε') (x : Program σ ε α) : Program σ ε' α := fun s =>
  ((x s).1.mapError f, (x s).2)

/-- The program `f a` for each `a` in turn. -/
def forEach (f : α → Program σ ε Unit) : List α → Program σ ε Unit
  | [] => pure ()
  | a :: as => do
    f a
    forEach f as

/-- The program without its answer. -/
def ignore (x : Program σ ε α) : Program σ ε Unit := do
  let _ ← x
  return ()

/-! ## Running -/

@[simp] theorem pure_apply (a : α) (s : σ) : (pure a : Program σ ε α) s = (.ok a, s) := rfl

@[simp] theorem fail_apply (e : ε) (s : σ) : (fail e : Program σ ε α) s = (.error e, s) := rfl

@[simp] theorem read_apply (f : σ → α) (s : σ) :
    (read f : Program σ ε α) s = (.ok (f s), s) := rfl

@[simp] theorem write_apply (f : σ → σ) (s : σ) :
    (write f : Program σ ε Unit) s = (.ok (), f s) := rfl

@[simp] theorem lift_apply (x : Except ε α) (s : σ) :
    (liftM x : Program σ ε α) s = (x, s) := rfl

variable {x : Program σ ε α} {f : α → Program σ ε β} {s s' : σ}

theorem bind_of_ok (h : x s = (.ok a, s')) : (x >>= f) s = f a s' := by
  show (match x s with | (.ok a, s') => f a s' | (.error e, s') => (.error e, s')) = _
  rw [h]

theorem bind_of_error (h : x s = (.error e, s')) : (x >>= f) s = (.error e, s') := by
  show (match x s with | (.ok a, s') => f a s' | (.error e, s') => (.error e, s')) = _
  rw [h]

@[simp] theorem read_bind (g : σ → α) : ((read g : Program σ ε α) >>= f) s = f (g s) s := rfl

@[simp] theorem write_bind (g : σ → σ) (k : Unit → Program σ ε β) :
    ((write g : Program σ ε Unit) >>= k) s = k () (g s) := rfl

@[simp] theorem pure_bind (a : α) : ((pure a : Program σ ε α) >>= f) s = f a s := rfl

theorem ite_pos_apply {c : Prop} [Decidable c] {y : Program σ ε α} (h : c) :
    (if c then x else y) s = x s := by
  rw [if_pos h]

theorem ite_neg_apply {c : Prop} [Decidable c] {y : Program σ ε α} (h : ¬c) :
    (if c then x else y) s = y s := by
  rw [if_neg h]

theorem bind_assoc (x : Program σ ε α) (f : α → Program σ ε β) (g : β → Program σ ε γ) :
    x >>= f >>= g = x >>= fun a => f a >>= g := by
  funext s
  cases h : x s with
  | mk r s' =>
    cases r with
    | ok a =>
      rw [bind_of_ok h]
      show (match (x >>= f) s with
        | (.ok a, s') => g a s'
        | (.error e, s') => (.error e, s')) = _
      rw [bind_of_ok h]
      rfl
    | error e =>
      rw [bind_of_error h]
      exact bind_of_error (bind_of_error h)

theorem lift_bind_ok {r : Except ε α} (h : r = .ok a) :
    ((liftM r : Program σ ε α) >>= f) s = f a s := by
  subst h; rfl

theorem lift_bind_error {r : Except ε α} (h : r = .error e) :
    ((liftM r : Program σ ε α) >>= f) s = (.error e, s) := by
  subst h; rfl

/-- A sequence that succeeds is one success after the other. -/
theorem bind_apply_eq_ok (h : (x >>= f) s = (.ok b, s')) :
    ∃ a t, x s = (.ok a, t) ∧ f a t = (.ok b, s') := by
  cases hx : x s with
  | mk r t =>
    cases r with
    | ok a => exact ⟨a, t, rfl, (bind_of_ok hx).symm.trans h⟩
    | error e => rw [bind_of_error hx] at h; cases h

theorem attempt_eq_ok {caught : ε → Option γ} (h : attempt caught x s = (.ok (.ok a), s')) :
    x s = (.ok a, s') := by
  rw [attempt] at h
  split at h
  · next hx => cases h; exact hx
  · split at h <;> cases h

theorem attempt_of_ok {caught : ε → Option γ} (h : x s = (.ok a, s')) :
    attempt caught x s = (.ok (.ok a), s') := by
  rw [attempt, h]

theorem attempt_of_error {caught : ε → Option γ} (h : x s = (.error e, s'))
    (hc : caught e = some c) : attempt caught x s = (.ok (.error c), s') := by
  rw [attempt, h]
  dsimp only
  rw [hc]

theorem attempt_snd (caught : ε → Option γ) (x : Program σ ε α) (s : σ) :
    (attempt caught x s).2 = (x s).2 := by
  rw [attempt]
  split
  · next h => rw [h]
  · next h => split <;> rw [h]

theorem forEach_singleton_snd (g : α → Program σ ε Unit) (a : α) (s : σ) :
    (forEach g [a] s).2 = (g a s).2 := by
  show ((g a >>= fun _ => pure ()) s).2 = (g a s).2
  cases h : g a s with
  | mk r s' =>
    cases r with
    | ok u => rw [bind_of_ok h]; rfl
    | error e => rw [bind_of_error h]

theorem ignore_snd (x : Program σ ε α) (s : σ) : (ignore x s).2 = (x s).2 := by
  unfold ignore
  cases h : x s with
  | mk r s' =>
    cases r with
    | ok a => rw [bind_of_ok h]; rfl
    | error e => rw [bind_of_error h]

theorem ignore_eq_ok (h : ignore x s = (.ok u, s')) : ∃ a, x s = (.ok a, s') := by
  obtain ⟨a, t, hx, hret⟩ := bind_apply_eq_ok h
  cases hret
  exact ⟨a, hx⟩

theorem ignore_fst_error (h : (x s).1 = .error e) : (ignore x s).1 = .error e := by
  unfold ignore
  cases hx : x s with
  | mk r s' =>
    rw [hx] at h
    cases r with
    | ok a => cases h
    | error e' => cases h; rw [bind_of_error hx]

/-! ## Relations between the states of a run -/

/-- Every run of `x`, successful or not, ends in a state related to the one it started in. -/
def Keeps (R : σ → σ → Prop) (x : Program σ ε α) : Prop := ∀ s, R s (x s).2

section
variable {R : σ → σ → Prop} (htrans : ∀ s t u, R s t → R t u → R s u) (hrefl : ∀ s, R s s)

include hrefl in
theorem keeps_lift (r : Except ε α) : Keeps R (liftM r : Program σ ε α) := fun s => hrefl s

include hrefl in
theorem keeps_fail (e : ε) : Keeps R (fail e : Program σ ε α) := fun s => hrefl s

include hrefl in
theorem keeps_pure (a : α) : Keeps R (pure a : Program σ ε α) := fun s => hrefl s

include htrans in
theorem Keeps.bind (hx : Keeps R x) (hf : ∀ a, Keeps R (f a)) : Keeps R (x >>= f) := by
  intro s
  cases h : x s with
  | mk r s' =>
    have hs : R s s' := by simpa only [h] using hx s
    cases r with
    | ok a => rw [bind_of_ok h]; exact htrans _ _ _ hs (hf a s')
    | error e => rw [bind_of_error h]; exact hs

include htrans in
/-- The second program may rely on what the first one answers. -/
theorem Keeps.bind_of {P : α → Prop} (hx : Keeps R x)
    (hP : ∀ s a t, x s = (.ok a, t) → P a) (hf : ∀ a, P a → Keeps R (f a)) :
    Keeps R (x >>= f) := by
  intro s
  cases h : x s with
  | mk r s' =>
    have hs : R s s' := by simpa only [h] using hx s
    cases r with
    | ok a => rw [bind_of_ok h]; exact htrans _ _ _ hs (hf a (hP s a s' h) s')
    | error e => rw [bind_of_error h]; exact hs

theorem Keeps.ite {c : Prop} [Decidable c] {y : Program σ ε α} (hx : Keeps R x)
    (hy : Keeps R y) : Keeps R (if c then x else y) := by
  split
  · exact hx
  · exact hy

theorem Keeps.attempt {caught : ε → Option γ} (hx : Keeps R x) : Keeps R (attempt caught x) := by
  intro s
  rw [attempt_snd]
  exact hx s

theorem Keeps.read_bind {g : σ → α} (hf : ∀ s, R s (f (g s) s).2) :
    Keeps R ((read g : Program σ ε α) >>= f) := hf

include htrans hrefl in
theorem Keeps.forEach {g : α → Program σ ε Unit} (hg : ∀ a, Keeps R (g a)) (as : List α) :
    Keeps R (forEach g as) := by
  induction as with
  | nil => exact keeps_pure hrefl ()
  | cons a as ih => exact (hg a).bind htrans fun _ => ih

end

end Program

end Lib
