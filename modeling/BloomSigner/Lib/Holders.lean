import Mathlib.Logic.Relation
import BloomSigner.Lib.Table

/-! # Sessions that hold a resource

The rows of a table are sessions. A session may hold a resource and may sit on one of a limited
number of seats. Sessions are dropped, entered, and amended without taking anything; one kind of
change takes a resource and a seat. There are never more sessions seated than seats, and no resource
is held twice as long as every change that takes one finds it free. -/

namespace Lib

variable {κ ψ ρ : Type*} [DecidableEq κ]

/-- How sessions `ψ` under keys `κ` are read: what every one of them satisfies, the resource `ρ` it
holds, and whether it is seated. -/
structure Holders (κ ψ ρ : Type*) where
  good : κ → ψ → Prop
  holds : ψ → Option ρ
  seated : ψ → Bool
  seats : Nat

namespace Holders

variable (rules : Holders κ ψ ρ)

/-- Only the session `k` may hold the resource. -/
def Free (t : Table κ ψ) (k : κ) (r : ρ) : Prop :=
  ∀ j v, t.get? j = some v → rules.holds v = some r → j = k

/-- A change of one session that takes nothing. -/
structure Amends (k : κ) (v w : ψ) : Prop where
  good : rules.good k w
  holds : ∀ r, rules.holds w = some r → rules.holds v = some r
  seated : rules.seated w = true → rules.seated v = true

/-- One change of the sessions. `free` tells whether resources are looked at before they are
taken. -/
inductive Step (free : Prop) (t : Table κ ψ) : Table κ ψ → Prop where
  | drop (p : κ → ψ → Bool) : Step free t (t.erase p)
  | enter {k : κ} {v : ψ} (hgood : rules.good k v) (hholds : rules.holds v = none)
      (hseated : rules.seated v = false) : Step free t (t.set k v)
  | amend {k : κ} {f : ψ → ψ}
      (hf : ∀ v, t.get? k = some v → rules.good k v → rules.Amends k v (f v)) :
      Step free t (t.update k f)
  | acquire {k : κ} {f : ψ → ψ}
      (hgood : ∀ v, t.get? k = some v → rules.good k v → rules.good k (f v))
      (hseats : t.count (fun _ v => rules.seated v) < rules.seats)
      (hfree : free → ∀ v r, t.get? k = some v → rules.holds (f v) = some r → rules.Free t k r) :
      Step free t (t.update k f)

abbrev Steps (free : Prop) : Table κ ψ → Table κ ψ → Prop :=
  Relation.ReflTransGen (rules.Step free)

structure Sound (t : Table κ ψ) : Prop where
  good : ∀ k v, t.get? k = some v → rules.good k v
  seats : t.count (fun _ v => rules.seated v) ≤ rules.seats

variable {rules} {free : Prop} {t t' : Table κ ψ}

theorem sound_empty : rules.Sound ∅ := ⟨fun _ _ h => (by cases h), Nat.zero_le _⟩

theorem good_update {f : ψ → ψ} (h : rules.Sound t)
    (hf : ∀ v, t.get? k = some v → rules.good k v → rules.good k (f v)) :
    ∀ j v, (t.update k f).get? j = some v → rules.good j v := by
  intro j v hv
  rw [Table.get?_update] at hv
  split at hv
  · next hj =>
    subst hj
    obtain ⟨w, hw, rfl⟩ := Option.map_eq_some_iff.mp hv
    exact hf w hw (h.good _ w hw)
  · exact h.good j v hv

/-- Whatever is looked at before a change, the sessions stay good and seated one to a seat. -/
theorem Step.sound (hstep : rules.Step free t t') (h : rules.Sound t) : rules.Sound t' := by
  cases hstep with
  | drop p =>
    refine ⟨fun k v hv => ?_, (Table.count_erase_le t p _).trans h.seats⟩
    rw [Table.get?_erase, Option.filter_eq_some_iff] at hv
    exact h.good k v hv.1
  | @enter i w hgood hholds hseated =>
    have hcount := Table.count_set_le (t := t) (k := i) (p := fun _ v => rules.seated v) hseated
    refine ⟨fun k v hv => ?_, hcount.trans h.seats⟩
    rw [Table.get?_set] at hv
    split at hv
    · next hk => cases hv; subst hk; exact hgood
    · exact h.good k v hv
  | amend hf =>
    refine ⟨good_update h fun v hv hgood => (hf v hv hgood).good, ?_⟩
    exact (Table.count_update_le_self fun v hv =>
      (hf v hv (h.good _ v hv)).seated).trans h.seats
  | acquire hgood hseats hfree =>
    exact ⟨good_update h hgood, (Table.count_update_le t _ _ _).trans hseats⟩

theorem Steps.sound (hsteps : rules.Steps free t t') (h : rules.Sound t) : rules.Sound t' := by
  induction hsteps with
  | refl => exact h
  | tail _ hstep ih => exact hstep.sound ih

end Holders

end Lib
