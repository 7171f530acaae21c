import Mathlib.Data.List.Forall2

/-! # Fallible code

`Except` programs written as a sequence of early returns: `reject c e` is `if c then return e`,
`okOr` turns an absent value into an error, and the inversion lemmas peel a successful run apart
one statement at a time. -/

namespace Lib

variable {ε : Type v} {α β : Type u}

/-- Return the error `e` early when `c` holds. -/
def reject (c : Prop) [Decidable c] (e : ε) : Except ε Unit :=
  if c then .error e else .ok ()

def okOr (x : Option α) (e : ε) : Except ε α :=
  match x with
  | some a => .ok a
  | none => .error e

@[simp] theorem bind_ok (a : α) (f : α → Except ε β) : (Except.ok a >>= f) = f a := rfl

@[simp] theorem bind_error (e : ε) (f : α → Except ε β) :
    ((.error e : Except ε α) >>= f) = .error e := rfl

theorem bind_eq_ok {x : Except ε α} {f : α → Except ε β} :
    (x >>= f) = .ok b ↔ ∃ a, x = .ok a ∧ f a = .ok b := by
  cases x <;> simp

theorem bind_eq_error {x : Except ε α} {f : α → Except ε β} :
    (x >>= f) = .error e ↔ x = .error e ∨ ∃ a, x = .ok a ∧ f a = .error e := by
  cases x <;> simp

@[simp] theorem pure_eq_ok (a : α) : (pure a : Except ε α) = .ok a := rfl

@[simp] theorem throw_eq_error (e : ε) : (throw e : Except ε α) = .error e := rfl

theorem map_eq_ok {x : Except ε α} {f : α → β} : x.map f = .ok b ↔ ∃ a, x = .ok a ∧ f a = b := by
  cases x <;> simp [Except.map]

theorem mapError_eq_ok {x : Except ε α} {f : ε → ε'} : x.mapError f = .ok a ↔ x = .ok a := by
  cases x <;> simp [Except.mapError]

theorem ok_of_isOk {x : Except ε α} (h : x.isOk = true) : ∃ a, x = .ok a := by
  cases x with
  | ok a => exact ⟨a, rfl⟩
  | error e => cases h

theorem isOk_unit {x : Except ε Unit} (h : x.isOk = true) : x = .ok () := by
  obtain ⟨_, hx⟩ := ok_of_isOk h
  exact hx

theorem bind_pure_eq_map (x : Except ε α) (f : α → β) : (x >>= fun a => pure (f a)) = x.map f := by
  cases x <;> rfl

section
variable {c : Prop} [Decidable c] {e : ε}

theorem reject_of (h : c) : reject c e = .error e := if_pos h

theorem reject_of_not (h : ¬c) : reject c e = .ok () := if_neg h

@[simp] theorem reject_eq_ok : reject c e = .ok u ↔ ¬c := by
  unfold reject; split <;> simp_all

@[simp] theorem reject_eq_error : reject c e = .error e' ↔ c ∧ e = e' := by
  unfold reject; split <;> simp_all

end

@[simp] theorem okOr_some (a : α) (e : ε) : okOr (some a) e = .ok a := rfl

@[simp] theorem okOr_none (e : ε) : okOr (none : Option α) e = .error e := rfl

@[simp] theorem okOr_eq_ok {x : Option α} {e : ε} : okOr x e = .ok a ↔ x = some a := by
  cases x <;> simp

@[simp] theorem okOr_eq_error {x : Option α} {e : ε} :
    okOr x e = .error e' ↔ x = none ∧ e = e' := by
  cases x <;> simp

/-- A fold of fallible steps: the first failure ends it. -/
def foldE (f : β → α → Except ε β) : β → List α → Except ε β
  | b, [] => .ok b
  | b, a :: as => f b a >>= fun b' => foldE f b' as

@[simp] theorem foldE_nil (f : β → α → Except ε β) (b : β) : foldE f b [] = .ok b := rfl

@[simp] theorem foldE_cons (f : β → α → Except ε β) (b : β) (a : α) (as : List α) :
    foldE f b (a :: as) = (f b a >>= fun b' => foldE f b' as) := rfl

theorem foldE_append (f : β → α → Except ε β) (b : β) (as as' : List α) :
    foldE f b (as ++ as') = (foldE f b as >>= fun b' => foldE f b' as') := by
  induction as generalizing b with
  | nil => rfl
  | cons a as ih =>
    rw [List.cons_append, foldE_cons, foldE_cons]
    cases f b a with
    | error e => rfl
    | ok b' => exact ih b'

/-- What every step of a fold preserves, a successful fold preserves. -/
theorem foldE_invariant {f : β → α → Except ε β} {P : β → Prop}
    (hstep : ∀ b, ∀ a ∈ as, ∀ b', f b a = .ok b' → P b → P b')
    (h : foldE f b as = .ok b') (hb : P b) : P b' := by
  induction as generalizing b with
  | nil => cases h; exact hb
  | cons a as ih =>
    obtain ⟨b₁, h₁, h₂⟩ := bind_eq_ok.mp h
    exact ih (fun b a ha => hstep b a (List.mem_cons_of_mem _ ha)) h₂
      (hstep b a List.mem_cons_self b₁ h₁ hb)

/-- A fold goes through when every step does under an invariant of the steps. -/
theorem foldE_succeeds {f : β → α → Except ε β} {I : β → Prop}
    (hstep : ∀ b, ∀ a ∈ as, I b → ∃ b', f b a = .ok b' ∧ I b') (hb : I b) :
    ∃ b', foldE f b as = .ok b' ∧ I b' := by
  induction as generalizing b with
  | nil => exact ⟨b, rfl, hb⟩
  | cons a as ih =>
    obtain ⟨b₁, h₁, hb₁⟩ := hstep b a List.mem_cons_self hb
    obtain ⟨b₂, h₂, hb₂⟩ := ih (fun b c hc => hstep b c (List.mem_cons_of_mem a hc)) hb₁
    exact ⟨b₂, by rw [foldE_cons, h₁, bind_ok, h₂], hb₂⟩

/-- What the step on an element establishes and every other step keeps holds for each element after
a successful fold. `I` is an invariant of the steps. -/
theorem foldE_each {f : β → α → Except ε β} {I : β → Prop} {Q : α → β → Prop}
    (hI : ∀ b, ∀ a ∈ as, ∀ b', f b a = .ok b' → I b → I b')
    (hQ : ∀ b, ∀ a ∈ as, ∀ b', f b a = .ok b' → I b → Q a b')
    (hkeep : ∀ b, ∀ a ∈ as, ∀ b', f b a = .ok b' → I b → ∀ c, Q c b → Q c b')
    (h : foldE f b as = .ok b') (hb : I b) : ∀ a ∈ as, Q a b' := by
  induction as generalizing b with
  | nil => intro a ha; cases ha
  | cons a as ih =>
    obtain ⟨b₁, h₁, h₂⟩ := bind_eq_ok.mp h
    have hrest := fun c (hc : c ∈ as) => List.mem_cons_of_mem a hc
    have hb₁ := hI b a List.mem_cons_self b₁ h₁ hb
    intro c hc
    rcases List.mem_cons.mp hc with rfl | hc
    · exact (foldE_invariant (P := fun b => I b ∧ Q c b)
        (fun b d hd b' hd' hbd => ⟨hI b d (hrest d hd) b' hd' hbd.1,
          hkeep b d (hrest d hd) b' hd' hbd.1 c hbd.2⟩) h₂
        ⟨hb₁, hQ b c List.mem_cons_self b₁ h₁ hb⟩).2
    · exact ih (fun b d hd => hI b d (hrest d hd)) (fun b d hd => hQ b d (hrest d hd))
        (fun b d hd => hkeep b d (hrest d hd)) h₂ hb₁ c hc

/-! ## Folds that write under keys -/

/-- Exactly the keys `ks` were written, each with a value that satisfies `P`. -/
def Written (P : κ → ν → Prop) (ks : List κ) (get get' : κ → Option ν) : Prop :=
  ∀ k, (k ∈ ks → ∃ v, get' k = some v ∧ P k v) ∧ (k ∉ ks → get' k = get k)

theorem Written.append {get₁ get₂ get₃ : κ → Option ν} (h₁ : Written P ks₁ get₁ get₂)
    (h₂ : Written P ks₂ get₂ get₃) : Written P (ks₁ ++ ks₂) get₁ get₃ := by
  intro k
  by_cases hk₂ : k ∈ ks₂
  · exact ⟨fun _ => (h₂ k).1 hk₂, fun hk => absurd (List.mem_append_right _ hk₂) hk⟩
  · rw [(h₂ k).2 hk₂]
    refine ⟨fun hk => (h₁ k).1 ?_, fun hk => (h₁ k).2 fun hk₁ => hk (List.mem_append_left _ hk₁)⟩
    exact (List.mem_append.mp hk).resolve_right hk₂

theorem foldE_written {f : β → α → Except ε β} (get : β → κ → Option ν) {keys : α → List κ}
    (hstep : ∀ b, ∀ a ∈ as, ∀ b', f b a = .ok b' → Written P (keys a) (get b) (get b'))
    (h : foldE f b as = .ok b') : Written P (as.flatMap keys) (get b) (get b') := by
  induction as generalizing b with
  | nil => cases h; exact fun k => ⟨fun hk => (List.not_mem_nil hk).elim, fun _ => rfl⟩
  | cons a as ih =>
    obtain ⟨b₁, h₁, h₂⟩ := bind_eq_ok.mp h
    exact (hstep b a List.mem_cons_self b₁ h₁).append
      (ih (fun b c hc => hstep b c (List.mem_cons_of_mem a hc)) h₂)

/-- A successful `mapM` is undone by whatever undoes its function. -/
theorem map_of_mapM_ok {f : α → Except ε β} {g : β → α} (hg : ∀ a b, f a = .ok b → g b = a)
    {as : List α} {bs : List β} (h : as.mapM f = .ok bs) : bs.map g = as := by
  induction as generalizing bs with
  | nil => cases h; rfl
  | cons a as ih =>
    rw [List.mapM_cons] at h
    obtain ⟨b, hb, h⟩ := bind_eq_ok.mp h
    obtain ⟨bs', hbs, h⟩ := bind_eq_ok.mp h
    cases h
    rw [List.map_cons, hg a b hb, ih hbs]

/-- A successful `mapM` returns exactly the values of its elements. -/
theorem mem_mapM_ok {f : α → Except ε β} {as : List α} {bs : List β} (h : as.mapM f = .ok bs) :
    b ∈ bs ↔ ∃ a ∈ as, f a = .ok b := by
  induction as generalizing bs with
  | nil => cases h; simp
  | cons a as ih =>
    rw [List.mapM_cons] at h
    obtain ⟨c, hc, h⟩ := bind_eq_ok.mp h
    obtain ⟨cs, hcs, h⟩ := bind_eq_ok.mp h
    cases h
    rw [List.mem_cons, ih hcs]
    constructor
    · rintro (rfl | ⟨a', ha', hb⟩)
      · exact ⟨a, List.mem_cons_self, hc⟩
      · exact ⟨a', List.mem_cons_of_mem a ha', hb⟩
    · rintro ⟨a', ha', hb⟩
      rcases List.mem_cons.mp ha' with rfl | ha'
      · exact .inl (Except.ok.inj (hb.symm.trans hc))
      · exact .inr ⟨a', ha', hb⟩

end Lib
