import BloomSigner.Lib.Hoare

/-! # Programs whose steps may fail

A program over `σ` is run under a script that says which of its steps fail: a step that fails leaves
the state alone. What undoes earlier steps is not in the script; a step of a rollback that fails on
its own is remembered. What is proved of the state is proved as long as no rollback failed. -/

namespace Lib

namespace Program

/-- A state, the faults that are still to come, and whether a step of a rollback has failed. -/
structure Faulty (σ : Type) where
  state : σ
  faults : List Bool
  rollbackFailed : Bool

/-- How a program runs its steps and the steps of its rollbacks. -/
structure Runner (σ ε τ : Type) where
  step : {α : Type} → Program σ ε α → Program τ ε α
  undo : Program σ ε Unit → Program τ ε Unit

variable {σ ε α β γ : Type}

/-- Every step is run. -/
def direct : Runner σ ε σ := ⟨id, id⟩

/-- The program run under a script of faults, each of which fails with `cause`. -/
def faulty (cause : ε) : Runner σ ε (Faulty σ) where
  step x := fun s =>
    if s.faults.headD false then (.error cause, { s with faults := s.faults.tail })
    else ((x s.state).1, { s with state := (x s.state).2, faults := s.faults.tail })
  undo x := fun s => ((x s.state).1, {
    s with
    state := (x s.state).2
    rollbackFailed := s.rollbackFailed || !(x s.state).1.isOk })

/-- A step is run as a whole, or fails and leaves the state that `view` shows. -/
structure Runner.Lawful (run : Runner σ ε τ) (view : τ → σ) : Prop where
  step : ∀ {α : Type} (x : Program σ ε α) (s : τ),
    (∃ e s', run.step x s = (.error e, s') ∧ view s' = view s) ∨
      ∃ s', run.step x s = ((x (view s)).1, s') ∧ view s' = (x (view s)).2

theorem direct_lawful : (direct : Runner σ ε σ).Lawful id where
  step x s := .inr ⟨(x s).2, rfl, rfl⟩

theorem faulty_lawful (cause : ε) : (faulty cause : Runner σ ε (Faulty σ)).Lawful (·.state) where
  step x s := by
    dsimp only [faulty]
    split
    · exact .inl ⟨_, _, rfl, rfl⟩
    · exact .inr ⟨_, rfl, rfl⟩

section
variable {run : Runner σ ε τ} {view : τ → σ} {R : σ → σ → Prop} {y : Program σ ε α}

theorem Runner.Lawful.of_ok (hrun : run.Lawful view) (h : run.step y s = (.ok a, s')) :
    y (view s) = (.ok a, view s') := by
  rcases hrun.step y s with ⟨e, s₁, herror, -⟩ | ⟨s₁, heq, hview⟩
  · cases herror.symm.trans h
  · have hs := heq.symm.trans h
    have h₁ : (y (view s)).1 = .ok a := congrArg Prod.fst hs
    have h₂ : s₁ = s' := congrArg Prod.snd hs
    rw [← h₁, ← h₂, hview]

/-- A failure leaves the state. -/
def Atomic (y : Program σ ε α) : Prop := ∀ s e s', y s = (.error e, s') → s' = s

theorem Atomic.keeps (hy : Atomic y) (hrefl : ∀ s, R s s)
    (h : ∀ s a s', y s = (.ok a, s') → R s s') : Keeps R y := by
  intro s
  cases hrun : y s with
  | mk r s' =>
    cases r with
    | ok a => exact h s a s' hrun
    | error e => rw [hy s e s' hrun]; exact hrefl s

/-- A step that leaves the state when it fails does so whoever makes it fail. -/
theorem Runner.Lawful.triple (hrun : run.Lawful view) (hy : Atomic y) {P : σ → Prop}
    {Q : α → σ → Prop} {E : ε → σ → Prop} (hok : ∀ s a s', P s → y s = (.ok a, s') → Q a s')
    (herror : ∀ e s, P s → E e s) :
    Triple (fun s => P (view s)) (run.step y) (fun a s => Q a (view s))
      (fun e s => E e (view s)) := by
  intro s hs
  rcases hrun.step y s with ⟨e, s', heq, hview⟩ | ⟨s', heq, hview⟩
  · rw [heq]
    show E e (view s')
    rw [hview]
    exact herror e _ hs
  · rw [heq]
    cases hr : (y (view s)).1 with
    | ok a =>
      rw [hr] at heq
      exact hok _ a _ hs (hrun.of_ok heq)
    | error e =>
      have hkept : (y (view s)).2 = view s := hy (view s) e _ (Prod.ext hr rfl)
      show E e (view s')
      rw [hview, hkept]
      exact herror e _ hs

/-- What every step of a program keeps, the program run step by step keeps. -/
theorem Runner.Lawful.keeps (hrun : run.Lawful view) (hrefl : ∀ s, R s s) (h : Keeps R y) :
    Keeps (fun s s' => R (view s) (view s')) (run.step y) := by
  intro s
  rcases hrun.step y s with ⟨e, s', heq, hview⟩ | ⟨s', heq, hview⟩
  · rw [heq, hview]
    exact hrefl _
  · rw [heq, hview]
    exact h (view s)

end

/-- `P` holds of the state unless a rollback failed. -/
def Faulty.Clean (P : σ → Prop) (s : Faulty σ) : Prop := s.rollbackFailed = false → P s.state

variable {P : σ → Prop} {Q : α → σ → Prop} {E : ε → σ → Prop} {cause : ε} {x : Program σ ε α}

/-- A step ends as it does on its own, or the fault leaves its precondition. -/
theorem triple_step (h : ∀ s, P s → Ends Q E (x s)) (hfault : ∀ s, P s → E cause s) :
    Triple (Faulty.Clean P) ((faulty cause).step x) (fun a => Faulty.Clean (Q a))
      (fun e => Faulty.Clean (E e)) := by
  intro s hs
  dsimp only [faulty]
  split
  · exact fun hclean => hfault s.state (hs hclean)
  · cases hx : x s.state with
    | mk r state =>
      have hend := fun hclean => h s.state (hs hclean)
      rw [hx] at hend
      cases r with
      | ok a => exact hend
      | error e => exact hend

/-- A step before any rollback. -/
theorem triple_step_state (h : ∀ s, P s → Ends Q E (x s)) (hfault : ∀ s, P s → E cause s) :
    Triple (fun s => P s.state) ((faulty cause).step x) (fun a s => Q a s.state)
      (fun e s => E e s.state) := by
  intro s hs
  dsimp only [faulty]
  split
  · exact hfault s.state hs
  · have hend := h s.state hs
    cases hx : x s.state with
    | mk r state =>
      rw [hx] at hend
      cases r with
      | ok a => exact hend
      | error e => exact hend

/-- The first `k` entries of the script were no faults. -/
structure Passed (script : List Bool) (k : Nat) (s : Faulty σ) : Prop where
  rest : s.faults = script.drop k
  none : ∀ i < k, script.getD i false = false

theorem Passed.head (h : Passed script k s) : s.faults.headD false = script.getD k false := by
  rw [h.rest, List.headD_eq_head?_getD, List.head?_drop, List.getD_eq_getElem?_getD]

theorem passed_zero {s : Faulty σ} (h : s.faults = script) : Passed script 0 s :=
  ⟨h, fun i hi => absurd hi (Nat.not_lt_zero i)⟩

/-- A step that succeeds uses one entry of the script. -/
theorem triple_passed (script : List Bool) (k : Nat) (x : Program σ ε α) :
    Triple (Passed script k) ((faulty cause).step x) (fun _ => Passed script (k + 1))
      (fun _ _ => True) := by
  intro s hs
  dsimp only [faulty]
  split
  · trivial
  · next hhead =>
    have hpassed : ∀ r, Passed script (k + 1) (⟨r, s.faults.tail, s.rollbackFailed⟩ : Faulty σ) := by
      refine fun r => ⟨by rw [hs.rest, List.tail_drop], fun i hi => ?_⟩
      rcases Nat.lt_succ_iff_lt_or_eq.mp hi with hi | rfl
      · exact hs.none i hi
      · rw [← hs.head]
        exact Bool.eq_false_iff.mpr hhead
    cases (x s.state).1 with
    | ok a => exact hpassed _
    | error e => trivial

/-- A step of a rollback that goes through; after one that does not, nothing is claimed. -/
theorem triple_undo {x : Program σ ε Unit} {Q : σ → Prop}
    (h : ∀ s s', P s → x s = (.ok (), s') → Q s') (E : ε → σ → Prop) :
    Triple (Faulty.Clean P) ((faulty cause).undo x) (fun _ => Faulty.Clean Q)
      (fun e => Faulty.Clean (E e)) := by
  intro s hs
  dsimp only [faulty]
  cases hx : x s.state with
  | mk r state =>
    cases r with
    | ok a =>
      intro hclean
      rw [Bool.or_eq_false_iff] at hclean
      exact h s.state state (hs hclean.1) hx
    | error e =>
      intro hclean
      rw [Bool.or_eq_false_iff] at hclean
      exact absurd hclean.2 (by simp [Except.isOk, Except.toBool])

/-- The two ways a caught program ends. -/
theorem Triple.attempt_bind {caught : ε → Option γ} {P : σ → Prop} {x : Program σ ε α}
    {f : Except γ α → Program σ ε β} {R : β → σ → Prop} {E' : ε → σ → Prop}
    (hx : Triple P x Q E) (hok : ∀ a, Triple (Q a) (f (.ok a)) R E')
    (herror : ∀ e c, caught e = some c → Triple (E e) (f (.error c)) R E')
    (huncaught : ∀ e s, caught e = none → E e s → E' e s) :
    Triple P (attempt caught x >>= f) R E' := by
  intro s hs
  have hend := hx s hs
  cases hrun : x s with
  | mk r s' =>
    rw [hrun] at hend
    cases r with
    | ok a => rw [bind_of_ok (attempt_of_ok hrun)]; exact hok a s' hend
    | error e =>
      cases hc : caught e with
      | some c => rw [bind_of_ok (attempt_of_error hrun hc)]; exact herror e c hc s' hend
      | none =>
        have hattempt : attempt caught x s = (.error e, s') := by
          rw [attempt, hrun]
          dsimp only
          rw [hc]
        rw [bind_of_error hattempt]
        exact huncaught e s' hc hend

end Program

end Lib
