import BloomSigner.Lib.Program
import BloomSigner.Lib.Run

/-! # Runs of some calls

One machine refines another when whatever a call of the first does to the state is a run of calls of
the second. What the calls of the second preserve, the first then preserves as well, and a run of
the first is a run of the second. -/

namespace Lib

variable {σ κ ι : Type*} {step : σ → κ → σ} {P Q : κ → Prop} {s t u : σ}

/-- The state `t` is reached from `s` by calls that all satisfy `P`. -/
def Reaches (step : σ → κ → σ) (P : κ → Prop) (s t : σ) : Prop :=
  ∃ cs : List κ, (∀ c ∈ cs, P c) ∧ run step s cs = t

namespace Reaches

theorem refl (s : σ) : Reaches step P s s := ⟨[], (fun _ h => by cases h), rfl⟩

theorem trans (h : Reaches step P s t) (h' : Reaches step P t u) : Reaches step P s u := by
  obtain ⟨cs, hcs, rfl⟩ := h
  obtain ⟨cs', hcs', rfl⟩ := h'
  refine ⟨cs ++ cs', fun c hc => ?_, run_append s cs cs'⟩
  rcases List.mem_append.mp hc with hc | hc
  · exact hcs c hc
  · exact hcs' c hc

theorem single {c : κ} (h : P c) : Reaches step P s (step s c) :=
  ⟨[c], fun _ hd => List.mem_singleton.mp hd ▸ h, rfl⟩

theorem mono (h : Reaches step P s t) (hPQ : ∀ c, P c → Q c) : Reaches step Q s t := by
  obtain ⟨cs, hcs, hrun⟩ := h
  exact ⟨cs, fun c hc => hPQ c (hcs c hc), hrun⟩

/-- A call of the one machine that the other one may make, or none. -/
theorem of_eq {c : κ} (h : P c) (heq : t = step s c) : Reaches step P s t :=
  heq ▸ single h

/-- Where no call is allowed nothing is reached. -/
theorem eq_of_none (h : Reaches step (fun _ => False) s t) : t = s := by
  obtain ⟨cs, hcs, rfl⟩ := h
  cases cs with
  | nil => rfl
  | cons c cs => exact (hcs c List.mem_cons_self).elim

/-- What every call preserves is preserved. -/
theorem invariant {I : σ → Prop} (h : Reaches step P s t)
    (hstep : ∀ s c, P c → I s → I (step s c)) (hs : I s) : I t := by
  obtain ⟨cs, hcs, rfl⟩ := h
  exact run_invariant_of (fun s c hc => hstep s c (hcs c hc)) hs

/-- What relates the ends of every call relates the ends of a run. -/
theorem rel {R : σ → σ → Prop} (h : Reaches step P s t) (hrefl : ∀ s, R s s)
    (htrans : ∀ s t u, R s t → R t u → R s u) (hstep : ∀ s c, P c → R s (step s c)) : R s t := by
  obtain ⟨cs, hcs, rfl⟩ := h
  induction cs generalizing s with
  | nil => exact hrefl s
  | cons c cs ih =>
    exact htrans _ _ _ (hstep s c (hcs c List.mem_cons_self))
      (ih fun d hd => hcs d (List.mem_cons_of_mem c hd))

end Reaches

/-- A run of the refining machine is a run of the refined one, whose calls are those that the calls
of the first may make. -/
theorem run_reaches {step' : σ → ι → σ} {makes : ι → κ → Prop} {es : List ι}
    (h : ∀ s, ∀ e ∈ es, Reaches step (makes e) s (step' s e)) :
    Reaches step (fun c => ∃ e ∈ es, makes e c) s (run step' s es) := by
  induction es generalizing s with
  | nil => exact .refl s
  | cons e es ih =>
    refine ((h s e List.mem_cons_self).mono fun c hc => ⟨e, List.mem_cons_self, hc⟩).trans
      ((ih fun s e he => h s e (List.mem_cons_of_mem _ he)).mono ?_)
    rintro c ⟨e', he', hc⟩
    exact ⟨e', List.mem_cons_of_mem e he', hc⟩

end Lib
