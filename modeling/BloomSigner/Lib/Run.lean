import Mathlib.Tactic.TypeStar

/-! # Runs of a state machine

A state machine takes calls one after another. `run` is the state after a list of calls; an
invariant of one step is an invariant of every run, and a reflexive and transitive relation that
every step respects relates the first state of a run to the last. -/

namespace Lib

variable {σ κ : Type*} {step : σ → κ → σ}

/-- The state after the calls `cs`, made in order from `s`. -/
def run (step : σ → κ → σ) (s : σ) (cs : List κ) : σ := cs.foldl step s

@[simp] theorem run_nil (s : σ) : run step s [] = s := rfl

@[simp] theorem run_cons (s : σ) (c : κ) (cs : List κ) :
    run step s (c :: cs) = run step (step s c) cs := rfl

theorem run_append (s : σ) (cs cs' : List κ) :
    run step s (cs ++ cs') = run step (run step s cs) cs' := List.foldl_append

/-- `P` holds after a run whose calls each preserve it. -/
theorem run_invariant_of {P : σ → Prop} (hstep : ∀ s, ∀ c ∈ cs, P s → P (step s c)) (h : P s) :
    P (run step s cs) := by
  induction cs generalizing s with
  | nil => exact h
  | cons c cs ih =>
    exact ih (fun s c hc => hstep s c (List.mem_cons_of_mem _ hc))
      (hstep s c List.mem_cons_self h)

theorem run_invariant {P : σ → Prop} (hstep : ∀ s c, P s → P (step s c)) (h : P s)
    (cs : List κ) : P (run step s cs) :=
  run_invariant_of (fun s c _ => hstep s c) h

/-- Every call of the run is made in a state in which `G` allows it. -/
def Guarded (step : σ → κ → σ) (G : σ → κ → Prop) (s : σ) (cs : List κ) : Prop :=
  ∀ pre c post, cs = pre ++ c :: post → G (run step s pre) c

theorem Guarded.tail {G : σ → κ → Prop} (h : Guarded step G s (c :: cs)) :
    Guarded step G (step s c) cs := fun pre c' post heq =>
  h (c :: pre) c' post (congrArg (List.cons c) heq)

theorem guarded_nil {G : σ → κ → Prop} : Guarded step G s [] := fun pre c post heq => by
  cases pre <;> cases heq

theorem Guarded.cons {G : σ → κ → Prop} (hc : G s c) (h : Guarded step G (step s c) cs) :
    Guarded step G s (c :: cs) := by
  intro pre c' post heq
  cases pre with
  | nil => cases heq; exact hc
  | cons d pre => cases heq; exact h pre c' post rfl

theorem guarded_append {G : σ → κ → Prop} (h : Guarded step G s (cs ++ cs')) :
    Guarded step G s cs ∧ Guarded step G (run step s cs) cs' := by
  constructor
  · intro pre c post heq
    exact h pre c (post ++ cs') (by rw [heq, List.append_assoc, List.cons_append])
  · intro pre c post heq
    rw [← run_append]
    exact h (cs ++ pre) c post (by rw [heq, List.append_assoc])

theorem Guarded.snoc {G : σ → κ → Prop} (h : Guarded step G s cs) (hc : G (run step s cs) c) :
    Guarded step G s (cs ++ [c]) := by
  intro pre d post heq
  rcases List.eq_nil_or_concat post with rfl | ⟨post, e, rfl⟩
  · obtain ⟨rfl, hlast⟩ := List.append_inj' heq rfl
    cases hlast
    exact hc
  · rw [List.concat_eq_append, ← List.cons_append, ← List.append_assoc] at heq
    exact h pre d post (List.append_inj' heq rfl).1

/-- What allowed calls preserve holds after a run of allowed calls. -/
theorem run_guarded {P : σ → Prop} {G : σ → κ → Prop}
    (hstep : ∀ s c, P s → G s c → P (step s c)) (h : P s) (hG : Guarded step G s cs) :
    P (run step s cs) := by
  induction cs generalizing s with
  | nil => exact h
  | cons c cs ih => exact ih (hstep s c h (hG [] c cs rfl)) hG.tail

/-- A reflexive, transitive relation that each step respects from states satisfying the invariant
`P` holds between the ends of a run. -/
theorem run_rel_of {P : σ → Prop} {R : σ → σ → Prop} (hrefl : ∀ s, R s s)
    (htrans : ∀ s t u, R s t → R t u → R s u) (hP : ∀ s c, P s → P (step s c))
    (hstep : ∀ s c, P s → R s (step s c)) (h : P s) (cs : List κ) : R s (run step s cs) := by
  induction cs generalizing s with
  | nil => exact hrefl s
  | cons c cs ih => exact htrans _ _ _ (hstep s c h) (ih (hP s c h))

theorem run_rel {R : σ → σ → Prop} (hrefl : ∀ s, R s s)
    (htrans : ∀ s t u, R s t → R t u → R s u) (hstep : ∀ s c, R s (step s c)) (s : σ)
    (cs : List κ) : R s (run step s cs) :=
  run_rel_of (P := fun _ => True) hrefl htrans (fun _ _ _ => trivial) (fun s c _ => hstep s c)
    trivial cs

end Lib
