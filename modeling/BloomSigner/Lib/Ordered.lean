import Mathlib.Data.List.Sort
import Mathlib.Order.Basic
import BloomSigner.Lib.Except

/-! # Ordered tables

A table read back in the order of its key: rows sorted by strictly increasing keys. Inserting a
present key fails; inserting a key above all others appends. -/

namespace Lib

/-- Rows of contents `ν` under strictly increasing keys `κ`. -/
structure Ordered (κ : Type u) [LinearOrder κ] (ν : Type v) where
  rows : List (κ × ν)
  sorted : rows.Pairwise fun r s => r.1 < s.1

namespace Ordered

variable {κ : Type u} [LinearOrder κ] {ν : Type v}

@[ext] theorem ext {s t : Ordered κ ν} (h : s.rows = t.rows) : s = t := by
  cases s; cases t; cases h; rfl

instance : EmptyCollection (Ordered κ ν) := ⟨[], .nil⟩

@[simp] theorem rows_empty : (∅ : Ordered κ ν).rows = [] := rfl

instance [DecidableEq ν] : DecidableEq (Ordered κ ν) := fun s t =>
  decidable_of_iff (s.rows = t.rows) ⟨ext, fun h => h ▸ rfl⟩

def get? (t : Ordered κ ν) (k : κ) : Option ν :=
  (t.rows.find? fun r => r.1 = k).map Prod.snd

/-- The rows with `(k, v)` put at its place; `none` when `k` is present. -/
def insertRow (k : κ) (v : ν) : List (κ × ν) → Option (List (κ × ν))
  | [] => some [(k, v)]
  | r :: rows =>
    if k < r.1 then some ((k, v) :: r :: rows)
    else if k = r.1 then none
    else (insertRow k v rows).map (r :: ·)

theorem mem_insertRow {rows rows' : List (κ × ν)} (h : insertRow k v rows = some rows') :
    r ∈ rows' ↔ r = (k, v) ∨ r ∈ rows := by
  induction rows generalizing rows' with
  | nil => cases h; simp
  | cons a rows ih =>
    unfold insertRow at h
    split at h
    · cases h; simp
    · split at h
      · cases h
      · obtain ⟨rows₁, h₁, rfl⟩ := Option.map_eq_some_iff.mp h
        simp only [List.mem_cons, ih h₁]
        tauto

theorem length_insertRow {rows rows' : List (κ × ν)} (h : insertRow k v rows = some rows') :
    rows'.length = rows.length + 1 := by
  induction rows generalizing rows' with
  | nil => cases h; rfl
  | cons a rows ih =>
    unfold insertRow at h
    split at h
    · cases h; rfl
    · split at h
      · cases h
      · obtain ⟨rows₁, h₁, rfl⟩ := Option.map_eq_some_iff.mp h
        rw [List.length_cons, List.length_cons, ih h₁]

theorem sorted_insertRow {rows rows' : List (κ × ν)} (hs : rows.Pairwise fun r s => r.1 < s.1)
    (h : insertRow k v rows = some rows') : rows'.Pairwise fun r s => r.1 < s.1 := by
  induction rows generalizing rows' with
  | nil => cases h; exact List.pairwise_singleton _ _
  | cons a rows ih =>
    obtain ⟨ha, hrows⟩ := List.pairwise_cons.mp hs
    unfold insertRow at h
    split at h
    · next hlt =>
      cases h
      refine List.pairwise_cons.mpr ⟨fun r hr => ?_, hs⟩
      rcases List.mem_cons.mp hr with rfl | hr
      · exact hlt
      · exact lt_trans hlt (ha r hr)
    · next hnlt =>
      split at h
      · cases h
      · next hne =>
        obtain ⟨rows₁, h₁, rfl⟩ := Option.map_eq_some_iff.mp h
        refine List.pairwise_cons.mpr ⟨fun r hr => ?_, ih hrows h₁⟩
        rcases (mem_insertRow h₁).mp hr with rfl | hr
        · exact lt_of_le_of_ne (not_lt.mp hnlt) (Ne.symm hne)
        · exact ha r hr

/-- `INSERT`: `none` when the key is taken. -/
def insert? (t : Ordered κ ν) (k : κ) (v : ν) : Option (Ordered κ ν) :=
  match h : insertRow k v t.rows with
  | some rows => some ⟨rows, sorted_insertRow t.sorted h⟩
  | none => none

theorem insertRow_above {rows : List (κ × ν)} (h : ∀ r ∈ rows, r.1 < k) :
    insertRow k v rows = some (rows ++ [(k, v)]) := by
  induction rows with
  | nil => rfl
  | cons a rows ih =>
    have ha := h a List.mem_cons_self
    rw [insertRow, if_neg (not_lt_of_gt ha), if_neg ha.ne', ih fun r hr =>
      h r (List.mem_cons_of_mem _ hr)]
    rfl

theorem rows_insert? {t t' : Ordered κ ν} (h : t.insert? k v = some t') :
    insertRow k v t.rows = some t'.rows := by
  unfold insert? at h
  split at h
  · next hrows => cases h; exact hrows
  · cases h

/-- A key above all keys of the table goes last. -/
theorem insert?_above {t : Ordered κ ν} (h : ∀ r ∈ t.rows, r.1 < k) :
    ∃ t', t.insert? k v = some t' ∧ t'.rows = t.rows ++ [(k, v)] := by
  have hrows := insertRow_above (v := v) h
  refine ⟨⟨t.rows ++ [(k, v)], sorted_insertRow t.sorted hrows⟩, ?_, rfl⟩
  unfold insert?
  split
  · next h' => rw [hrows] at h'; cases h'; rfl
  · next h' => rw [hrows] at h'; cases h'

theorem get?_eq_some {t : Ordered κ ν} : t.get? k = some v ↔ (k, v) ∈ t.rows := by
  obtain ⟨rows, sorted⟩ := t
  simp only [get?]
  induction rows with
  | nil => simp
  | cons r rows ih =>
    obtain ⟨hr, hrows⟩ := List.pairwise_cons.mp sorted
    rw [List.find?_cons]
    by_cases h : r.1 = k
    · subst h
      have hfresh : (r.1, v) ∉ rows := fun hm => lt_irrefl r.1 (hr (r.1, v) hm)
      simp only [decide_true, Option.map_some, Option.some.injEq, List.mem_cons, hfresh, or_false]
      exact ⟨fun h => by rw [← h], fun h => by rw [← h]⟩
    · have hne : (k, v) ≠ r := fun he => h (by rw [← he])
      simp only [h, decide_false, ih hrows, List.mem_cons, hne, false_or]

theorem get?_insert? {t t' : Ordered κ ν} (h : t.insert? k v = some t') :
    t'.get? j = some w ↔ j = k ∧ w = v ∨ t.get? j = some w := by
  rw [get?_eq_some, get?_eq_some, mem_insertRow (rows_insert? h), Prod.mk.injEq]

theorem get?_eq_none {t : Ordered κ ν} : t.get? k = none ↔ ∀ r ∈ t.rows, r.1 ≠ k := by
  simp [get?, List.find?_eq_none]

/-! ## Rows below a bound -/

/-- The number of rows with a key below `m`. -/
def countBelow (t : Ordered κ ν) (m : κ) : Nat := t.rows.countP fun r => r.1 < m

theorem countBelow_le (t : Ordered κ ν) (m : κ) : t.countBelow m ≤ t.rows.length :=
  List.countP_le_length

/-- All rows are below `m` once as many rows are below `m` as there are. -/
theorem lt_of_countBelow_eq {t : Ordered κ ν} (h : t.countBelow m = t.rows.length) :
    ∀ r ∈ t.rows, r.1 < m := by
  intro r hr
  simpa using List.countP_eq_length.mp h r hr

theorem countBelow_succ (t : Ordered Nat ν) (m : Nat) :
    t.countBelow (m + 1) = t.countBelow m + (t.get? m).isSome.toNat := by
  obtain ⟨rows, sorted⟩ := t
  simp only [countBelow, get?]
  induction rows with
  | nil => rfl
  | cons r rows ih =>
    obtain ⟨hr, hrows⟩ := List.pairwise_cons.mp sorted
    have ih := ih hrows
    rw [List.countP_cons, List.countP_cons, List.find?_cons, ih]
    by_cases h : r.1 = m
    · -- every later key is above `m`
      have hnone : rows.find? (fun s => decide (s.1 = m)) = none := by
        refine List.find?_eq_none.mpr fun s hs => ?_
        have := hr s hs
        simp only [decide_eq_true_eq]
        omega
      have hlt : ¬r.1 < m := by omega
      simp [hnone, h]
    · have hiff : r.1 < m + 1 ↔ r.1 < m := by omega
      simp only [hiff, h, decide_false]
      omega

/-- A fold whose steps each append one row, as long as its key is above those present, appends all
its rows in order; what no step touches is left as it was. -/
theorem foldE_appends {f : σ → α → Except ε σ} (rows : σ → List (κ × ν)) (frame : σ → φ)
    (g : α → κ × ν) (as : List α)
    (hstep : ∀ s, ∀ a ∈ as, (∀ r ∈ rows s, r.1 < (g a).1) →
      ∃ s', f s a = .ok s' ∧ rows s' = rows s ++ [g a] ∧ frame s' = frame s)
    (hs : (rows s ++ as.map g).Pairwise fun r s => r.1 < s.1) :
    ∃ s', foldE f s as = .ok s' ∧ rows s' = rows s ++ as.map g ∧ frame s' = frame s := by
  induction as generalizing s with
  | nil => exact ⟨s, rfl, (List.append_nil _).symm, rfl⟩
  | cons a as ih =>
    rw [List.map_cons] at hs
    have habove : ∀ r ∈ rows s, r.1 < (g a).1 := fun r hr =>
      (List.pairwise_append.mp hs).2.2 r hr (g a) List.mem_cons_self
    obtain ⟨s₁, h₁, hrows₁, hframe₁⟩ := hstep s a List.mem_cons_self habove
    obtain ⟨s₂, h₂, hrows₂, hframe₂⟩ := ih (s := s₁)
      (fun s a ha => hstep s a (List.mem_cons_of_mem _ ha))
      (by rw [hrows₁, List.append_assoc]; exact hs)
    refine ⟨s₂, by rw [foldE_cons, h₁, bind_ok, h₂], ?_, hframe₂.trans hframe₁⟩
    rw [hrows₂, hrows₁, List.append_assoc, List.map_cons]
    rfl

end Ordered

end Lib
