import BloomSigner.Lib.Table

/-! # Rows that stay

`Kept P t t'` says that every row of `t` is still in `t'`, with a value `P`-related to the one it
had: rows are never deleted, and what `P` fixes of a row is final. -/

namespace Lib

namespace Table

variable {κ : Type u} {ν : Type v} [DecidableEq κ] {P : ν → ν → Prop} {t t' t'' : Table κ ν}

def Kept (P : ν → ν → Prop) (t t' : Table κ ν) : Prop :=
  ∀ k v, t.get? k = some v → ∃ v', t'.get? k = some v' ∧ P v v'

theorem Kept.refl (hP : ∀ v, P v v) (t : Table κ ν) : Kept P t t := fun _ v h => ⟨v, h, hP v⟩

theorem Kept.trans (hP : ∀ a b c, P a b → P b c → P a c) (h : Kept P t t')
    (h' : Kept P t' t'') : Kept P t t'' := by
  intro k v hv
  obtain ⟨v', hv', hrel⟩ := h k v hv
  obtain ⟨v'', hv'', hrel'⟩ := h' k v' hv'
  exact ⟨v'', hv'', hP _ _ _ hrel hrel'⟩

theorem kept_modify (hP : ∀ v, P v v) {f : ν → ν} (hf : ∀ v, P v (f v)) (p : κ → ν → Bool) :
    Kept P t (t.modify p f) := by
  intro k v hv
  rw [get?_modify, hv]
  refine ⟨_, rfl, ?_⟩
  dsimp only
  split
  · exact hf v
  · exact hP v

theorem kept_update (hP : ∀ v, P v v) {f : ν → ν} (hf : ∀ v, P v (f v)) (k : κ) :
    Kept P t (t.update k f) :=
  kept_modify hP hf _

theorem kept_insert? (hP : ∀ v, P v v) (h : t.insert? k v = some t') : Kept P t t' := by
  intro j w hw
  rw [get?_insert? h]
  split
  · next hj =>
    subst hj
    rw [(insert?_eq_some h).1] at hw
    cases hw
  · exact ⟨w, hw, hP w⟩

theorem kept_insertIfAbsent (hP : ∀ v, P v v) (k : κ) (v : ν) :
    Kept P t (t.insertIfAbsent k v) := by
  intro j w hw
  rw [get?_insertIfAbsent]
  split
  · next hj =>
    subst hj
    exact ⟨w, by rw [hw]; rfl, hP w⟩
  · exact ⟨w, hw, hP w⟩

theorem kept_upsert (hP : ∀ v, P v v) {f : ν → ν} (hf : ∀ v, P v (f v)) (k : κ) (v : ν) :
    Kept P t (t.upsert k v f) := by
  intro j w hw
  rw [get?_upsert]
  split
  · next hj =>
    subst hj
    exact ⟨f w, by rw [hw]; rfl, hf w⟩
  · exact ⟨w, hw, hP w⟩

end Table

end Lib
