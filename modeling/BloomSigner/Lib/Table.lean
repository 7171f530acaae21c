import Mathlib.Data.List.Find
import Mathlib.Data.List.Nodup
import Mathlib.Algebra.GroupWithZero.Nat
import Mathlib.Algebra.Order.Group.Nat
import Mathlib.Algebra.Order.BigOperators.Group.List

/-! # Keyed tables

A relational table with a primary key: a list of `(key, row)` pairs whose keys are distinct.
The operations are the SQL statements a program issues against such a table. `INSERT` fails on a
present key, `INSERT OR IGNORE` and `ON CONFLICT DO UPDATE` are `insertIfAbsent` and `upsert`,
`UPDATE .. WHERE` is `modify`, `DELETE .. WHERE` is `erase`, and `COUNT`/`SUM` queries are
instances of `total`. Distinctness of keys is part of the type, so a table with two rows under
one key cannot be built. -/

namespace Lib

/-- A table with primary key `κ` and row contents `ν`. -/
structure Table (κ : Type u) (ν : Type v) where
  rows : List (κ × ν)
  nodup : (rows.map Prod.fst).Nodup

namespace Table

variable {κ : Type u} {ν : Type v}

@[ext] theorem ext {s t : Table κ ν} (h : s.rows = t.rows) : s = t := by
  cases s; cases t; cases h; rfl

def empty : Table κ ν := ⟨[], .nil⟩

instance : EmptyCollection (Table κ ν) := ⟨empty⟩

@[simp] theorem rows_empty : (∅ : Table κ ν).rows = [] := rfl

instance [DecidableEq κ] [DecidableEq ν] : DecidableEq (Table κ ν) := fun s t =>
  decidable_of_iff (s.rows = t.rows) ⟨ext, fun h => h ▸ rfl⟩

/-- The keys in use. -/
def keys (t : Table κ ν) : List κ := t.rows.map Prod.fst

/-- `UPDATE .. SET row = f row WHERE p key row`. -/
def modify (t : Table κ ν) (p : κ → ν → Bool) (f : ν → ν) : Table κ ν where
  rows := t.rows.map fun r => (r.1, if p r.1 r.2 then f r.2 else r.2)
  nodup := by simpa [Function.comp_def] using t.nodup

/-- `DELETE .. WHERE p key row`. -/
def erase (t : Table κ ν) (p : κ → ν → Bool) : Table κ ν where
  rows := t.rows.filter fun r => !p r.1 r.2
  nodup := t.nodup.sublist (List.filter_sublist.map _)

/-- `SELECT .. WHERE p key row`, in the table's own order. -/
def select (t : Table κ ν) (p : κ → ν → Bool) : List (κ × ν) :=
  t.rows.filter fun r => p r.1 r.2

/-- `SELECT SUM(g key row)`. -/
def total (t : Table κ ν) (g : κ → ν → Nat) : Nat :=
  (t.rows.map fun r => g r.1 r.2).sum

/-- `SELECT COUNT(*) WHERE p key row`. -/
def count (t : Table κ ν) (p : κ → ν → Bool) : Nat :=
  t.total fun k v => if p k v then 1 else 0

section
variable [DecidableEq κ]

/-- The row stored under `k`. -/
def get? (t : Table κ ν) (k : κ) : Option ν :=
  (t.rows.find? fun r => r.1 = k).map Prod.snd

/-- `INSERT`: `none` when the primary key is taken. -/
def insert? (t : Table κ ν) (k : κ) (v : ν) : Option (Table κ ν) :=
  if h : k ∈ t.keys then none
  else some ⟨t.rows ++ [(k, v)], by
    rw [List.map_append]
    exact t.nodup.append (List.nodup_singleton k) (List.disjoint_singleton.mpr h)⟩

/-- `UPDATE .. WHERE key = k`. -/
def update (t : Table κ ν) (k : κ) (f : ν → ν) : Table κ ν :=
  t.modify (fun j _ => j = k) f

/-- `INSERT .. ON CONFLICT(key) DO UPDATE SET row = f row`. -/
def upsert (t : Table κ ν) (k : κ) (v : ν) (f : ν → ν) : Table κ ν :=
  (t.insert? k v).getD (t.update k f)

/-- `INSERT .. ON CONFLICT(key) DO UPDATE` of every column. -/
def set (t : Table κ ν) (k : κ) (v : ν) : Table κ ν := t.upsert k v fun _ => v

/-- `INSERT OR IGNORE`. -/
def insertIfAbsent (t : Table κ ν) (k : κ) (v : ν) : Table κ ν := (t.insert? k v).getD t

/-! ## Point queries -/

theorem get?_eq_some {t : Table κ ν} : t.get? k = some v ↔ (k, v) ∈ t.rows := by
  obtain ⟨rows, nodup⟩ := t
  simp only [get?]
  induction rows with
  | nil => simp
  | cons r rows ih =>
    rw [List.map_cons, List.nodup_cons] at nodup
    rw [List.find?_cons]
    by_cases h : r.1 = k
    · subst h
      have hfresh : (r.1, v) ∉ rows := fun hm => nodup.1 (List.mem_map.mpr ⟨_, hm, rfl⟩)
      simp only [decide_true, Option.map_some, Option.some.injEq, List.mem_cons, hfresh, or_false]
      exact ⟨fun h => by rw [← h], fun h => by rw [← h]⟩
    · have hne : (k, v) ≠ r := fun he => h (by rw [← he])
      simp only [h, decide_false, ih nodup.2, List.mem_cons, hne, false_or]

theorem get?_eq_none {t : Table κ ν} : t.get? k = none ↔ k ∉ t.keys := by
  simp [get?, keys, List.find?_eq_none]
  exact ⟨fun h v hm => h k v hm rfl, fun h a b hm he => h b (he ▸ hm)⟩

theorem mem_keys {t : Table κ ν} : k ∈ t.keys ↔ ∃ v, t.get? k = some v := by
  rw [← not_iff_not, ← get?_eq_none, Option.eq_none_iff_forall_ne_some]
  simp

@[simp] theorem get?_empty : (∅ : Table κ ν).get? k = none := rfl

@[simp] theorem get?_modify (t : Table κ ν) (p : κ → ν → Bool) (f : ν → ν) :
    (t.modify p f).get? k = (t.get? k).map fun v => if p k v then f v else v := by
  simp only [get?, modify, List.find?_map, Option.map_map, Function.comp_def]
  cases h : t.rows.find? (fun r => decide (r.1 = k)) with
  | none => rfl
  | some r =>
    have hk := List.find?_some h
    simp only [decide_eq_true_eq] at hk
    simp [hk]

theorem get?_update (t : Table κ ν) (f : ν → ν) :
    (t.update k f).get? j = if j = k then (t.get? j).map f else t.get? j := by
  by_cases h : j = k <;> simp [update, h]

/-- An update of a present row writes one value. -/
theorem update_eq_const {t : Table κ ν} (h : t.get? k = some v) (f : ν → ν) :
    t.update k f = t.update k fun _ => f v := by
  refine ext (List.map_congr_left fun r hr => ?_)
  by_cases hk : r.1 = k
  · have hr' : t.get? k = some r.2 := get?_eq_some.mpr (hk ▸ hr)
    rw [h] at hr'
    cases hr'
    simp [hk]
  · simp [hk]

/-- A search that does not see the new row finds the same key. -/
theorem find?_update_fst {t : Table κ ν} {p : κ × ν → Bool} (h : t.get? k = some v)
    (hp : p (k, v') = p (k, v)) :
    ((t.update k fun _ => v').rows.find? p).map Prod.fst = (t.rows.find? p).map Prod.fst := by
  have hsame : ∀ r ∈ t.rows, p (r.1, if decide (r.1 = k) then v' else r.2) = p r := by
    intro r hr
    by_cases hk : r.1 = k
    · have hr' : t.get? k = some r.2 := get?_eq_some.mpr (hk ▸ hr)
      rw [h] at hr'
      cases hr'
      simp only [hk, decide_true, if_true, hp]
      rw [← hk]
    · simp [hk]
  show ((t.rows.map _).find? p).map Prod.fst = _
  rw [List.find?_map, Option.map_map]
  exact congrArg (Option.map Prod.fst) (List.find?_congr hsame)

@[simp] theorem get?_erase (t : Table κ ν) (p : κ → ν → Bool) :
    (t.erase p).get? k = (t.get? k).filter fun v => !p k v := by
  ext v
  rw [get?_eq_some]
  simp [erase, List.mem_filter, Option.filter_eq_some_iff, get?_eq_some]

theorem insert?_eq_some {t t' : Table κ ν} (h : t.insert? k v = some t') :
    t.get? k = none ∧ t'.rows = t.rows ++ [(k, v)] := by
  unfold insert? at h
  split at h
  · cases h
  · next hk => cases h; exact ⟨get?_eq_none.mpr hk, rfl⟩

theorem insert?_eq_none {t : Table κ ν} : t.insert? k v = none ↔ ∃ w, t.get? k = some w := by
  rw [← mem_keys]; unfold insert?; split <;> simp_all

theorem insert?_of_fresh {t : Table κ ν} (h : t.get? k = none) :
    ∃ t', t.insert? k v = some t' := by
  rw [← Option.isSome_iff_exists, Option.isSome_iff_ne_none, ne_eq, insert?_eq_none]
  simp [h]

theorem get?_insert? {t t' : Table κ ν} (h : t.insert? k v = some t') :
    t'.get? j = if j = k then some v else t.get? j := by
  obtain ⟨hk, hrows⟩ := insert?_eq_some h
  ext w
  rw [get?_eq_some, hrows, List.mem_append, ← get?_eq_some]
  by_cases hj : j = k
  · subst hj; simp [hk, eq_comm]
  · simp [hj]

@[simp] theorem get?_upsert (t : Table κ ν) (f : ν → ν) :
    (t.upsert k v f).get? j = if j = k then some ((t.get? k).elim v f) else t.get? j := by
  unfold upsert
  cases h : t.insert? k v with
  | none =>
    obtain ⟨w, hw⟩ := insert?_eq_none.mp h
    by_cases hj : j = k <;> simp [get?_update, hj, hw]
  | some t' =>
    obtain ⟨hk, -⟩ := insert?_eq_some h
    simp [get?_insert? h, hk]

@[simp] theorem get?_set (t : Table κ ν) :
    (t.set k v).get? j = if j = k then some v else t.get? j := by
  rw [set, get?_upsert]; cases t.get? k <;> rfl

@[simp] theorem get?_insertIfAbsent (t : Table κ ν) :
    (t.insertIfAbsent k v).get? j = if j = k then some ((t.get? k).getD v) else t.get? j := by
  unfold insertIfAbsent
  cases h : t.insert? k v with
  | none =>
    obtain ⟨w, hw⟩ := insert?_eq_none.mp h
    by_cases hj : j = k <;> simp [hj, hw]
  | some t' =>
    obtain ⟨hk, -⟩ := insert?_eq_some h
    simp [get?_insert? h, hk]

/-- A row under a new key is the same row whether it is inserted or set. -/
theorem insert?_eq_set {t : Table κ ν} (h : t.get? k = none) (v : ν) :
    t.insert? k v = some (t.set k v) := by
  obtain ⟨t', ht'⟩ := insert?_of_fresh (v := v) h
  rw [set, upsert, ht', Option.getD_some]

/-- Setting a row to what it holds changes nothing. -/
theorem set_of_get? {t : Table κ ν} (h : t.get? k = some v) : t.set k v = t := by
  rw [set, upsert, insert?_eq_none.mpr ⟨v, h⟩, Option.getD_none]
  refine ext ((List.map_congr_left fun r hr => ?_).trans (List.map_id _))
  by_cases hk : r.1 = k
  · have hr : t.get? k = some r.2 := get?_eq_some.mpr (hk ▸ hr)
    rw [h, Option.some.injEq] at hr
    simp only [hk, decide_true, if_true, hr, id]
    rw [← hk]
  · simp only [hk, decide_false, Bool.false_eq_true, if_false, id]

/-! ## Selections -/

/-- A row the query does not ask for is updated unseen. -/
theorem select_update_of_other (t : Table κ ν) {p : κ → ν → Bool} (h : ∀ v, p k v = false)
    (f : ν → ν) : (t.update k f).select p = t.select p := by
  rw [select, update, modify, select]
  dsimp only
  rw [List.filter_map]
  have hp : ((fun r : κ × ν => p r.1 r.2) ∘ fun r : κ × ν =>
      (r.1, if decide (r.1 = k) = true then f r.2 else r.2)) = fun r => p r.1 r.2 := by
    funext r
    by_cases hr : r.1 = k
    · simp only [Function.comp_apply, hr, h]
    · simp only [Function.comp_apply, hr, decide_false, Bool.false_eq_true, if_false]
  rw [hp]
  refine (List.map_congr_left fun r hr => ?_).trans (List.map_id _)
  have hr : p r.1 r.2 = true := (List.mem_filter.mp hr).2
  have hne : r.1 ≠ k := fun he => by rw [he, h] at hr; cases hr
  simp only [hne, decide_false, Bool.false_eq_true, if_false, id]

theorem select_insert?_of_other {t t' : Table κ ν} {p : κ → ν → Bool}
    (hins : t.insert? k v = some t') (h : p k v = false) : t'.select p = t.select p := by
  rw [select, (insert?_eq_some hins).2, List.filter_append, List.filter_singleton, select]
  simp [h]

/-- Tables that agree on the rows a query asks for answer it alike, up to the order. -/
theorem select_perm {t t' : Table κ ν} {p : κ → ν → Bool}
    (h : ∀ k v, p k v = true → (t.get? k = some v ↔ t'.get? k = some v)) :
    (t.select p).Perm (t'.select p) := by
  have hnodup : ∀ s : Table κ ν, (s.select p).Nodup := fun s =>
    (List.Nodup.of_map _ s.nodup).filter _
  refine (List.perm_ext_iff_of_nodup (hnodup t) (hnodup t')).mpr fun r => ?_
  rw [select, select, List.mem_filter, List.mem_filter, ← get?_eq_some, ← get?_eq_some]
  exact and_congr_left fun hp => h r.1 r.2 hp

/-- The answer of a query that one row meets. -/
theorem select_eq_singleton {t : Table κ ν} {p : κ → ν → Bool} (h : t.get? k = some v)
    (hp : p k v = true) (honly : ∀ j w, t.get? j = some w → p j w = true → j = k) :
    t.select p = [(k, v)] := by
  have hself : ((∅ : Table κ ν).set k v).select p = [(k, v)] := by
    show List.filter _ [(k, v)] = _
    rw [List.filter_singleton, hp, cond_true]
  rw [← List.perm_singleton, ← hself]
  refine select_perm fun j w hw => ?_
  rw [get?_set]
  constructor
  · intro hj
    obtain rfl := honly j w hj hw
    rw [if_pos rfl, ← h, hj]
  · intro hj
    split at hj
    · next he => rw [he, h, hj]
    · cases hj

/-! ## Aggregates -/

theorem total_insert? {t t' : Table κ ν} (h : t.insert? k v = some t') (g : κ → ν → Nat) :
    t'.total g = t.total g + g k v := by
  simp [total, (insert?_eq_some h).2]

/-- Updating one row moves an aggregate by the difference of that row's contributions. -/
theorem total_update {t : Table κ ν} (h : t.get? k = some v) (f : ν → ν) (g : κ → ν → Nat) :
    (t.update k f).total g + g k v = t.total g + g k (f v) := by
  obtain ⟨rows, nodup⟩ := t
  rw [get?_eq_some] at h
  simp only [update, modify, total, List.map_map] at h ⊢
  induction rows with
  | nil => cases h
  | cons r rows ih =>
    rw [List.map_cons, List.nodup_cons] at nodup
    simp only [List.map_cons, List.sum_cons, Function.comp_apply]
    rcases List.mem_cons.mp h with rfl | hm
    · -- the updated row is the head; by distinctness of keys the tail is unchanged
      have htail : rows.map ((fun r => g r.1 r.2) ∘ fun r =>
          (r.1, if decide (r.1 = k) = true then f r.2 else r.2)) =
          rows.map fun r => g r.1 r.2 := by
        refine List.map_congr_left fun r hr => ?_
        have hne : r.1 ≠ k := fun he => nodup.1 (List.mem_map.mpr ⟨r, hr, he⟩)
        simp [hne]
      simp only [decide_true, if_true, htail]
      omega
    · have hne : r.1 ≠ k := fun he => nodup.1 (List.mem_map.mpr ⟨_, hm, he.symm⟩)
      have := ih nodup.2 hm
      simp only [hne, decide_false, Bool.false_eq_true, if_false]
      omega

theorem count_eq_length (t : Table κ ν) (p : κ → ν → Bool) : t.count p = (t.select p).length := by
  obtain ⟨rows, nodup⟩ := t
  simp only [count, total, select]
  clear nodup
  induction rows with
  | nil => rfl
  | cons r rows ih =>
    rw [List.map_cons, List.sum_cons, ih, List.filter_cons]
    split
    · rw [List.length_cons, Nat.add_comm]
    · exact Nat.zero_add _

theorem update_of_absent {t : Table κ ν} (h : t.get? k = none) (f : ν → ν) : t.update k f = t := by
  refine ext ((List.map_congr_left fun r hr => ?_).trans (List.map_id _))
  have hne : r.1 ≠ k := fun he => get?_eq_none.mp h (he ▸ List.mem_map_of_mem hr)
  simp only [hne, decide_false, Bool.false_eq_true, if_false, id]

theorem count_erase_le (t : Table κ ν) (p q : κ → ν → Bool) : (t.erase p).count q ≤ t.count q := by
  rw [count_eq_length, count_eq_length]
  exact (List.filter_sublist.filter _).length_le

/-- An update of one row adds at most that row to a count. -/
theorem count_update_le (t : Table κ ν) (k : κ) (f : ν → ν) (p : κ → ν → Bool) :
    (t.update k f).count p ≤ t.count p + 1 := by
  cases h : t.get? k with
  | none => rw [update_of_absent h]; exact Nat.le_succ _
  | some v =>
    have htotal := total_update h f fun j w => if p j w then 1 else 0
    unfold count
    split at htotal <;> split at htotal <;> omega

/-- An update that does not bring a row into a count does not raise it. -/
theorem count_update_le_self {t : Table κ ν} {f : ν → ν} {p : κ → ν → Bool}
    (hf : ∀ v, t.get? k = some v → p k (f v) = true → p k v = true) :
    (t.update k f).count p ≤ t.count p := by
  cases h : t.get? k with
  | none => rw [update_of_absent h]
  | some v =>
    have htotal := total_update h f fun j w => if p j w then 1 else 0
    have hv := hf v h
    unfold count
    by_cases hp : p k (f v) = true
    · rw [if_pos hp, if_pos (hv hp)] at htotal
      omega
    · rw [if_neg hp] at htotal
      omega

theorem count_set_le {t : Table κ ν} {p : κ → ν → Bool} (h : p k v = false) :
    (t.set k v).count p ≤ t.count p := by
  cases hget : t.get? k with
  | none =>
    have htotal := total_insert? (insert?_eq_set hget v) fun j w => if p j w then 1 else 0
    rw [h, if_neg Bool.false_ne_true] at htotal
    exact Nat.le_of_eq htotal
  | some w =>
    have hset : t.set k v = t.update k fun _ => v := by
      rw [set, upsert, insert?_eq_none.mpr ⟨w, hget⟩]
      rfl
    rw [hset]
    refine count_update_le_self fun _ _ hp => ?_
    rw [h] at hp
    cases hp

/-- A count of at most one row is met under one key. -/
theorem eq_of_count_le_one {t : Table κ ν} {p : κ → ν → Bool} (h : t.count p ≤ 1)
    (hv : t.get? k = some v) (hpv : p k v = true) (hw : t.get? j = some w) (hpw : p j w = true) :
    k = j := by
  rw [count_eq_length] at h
  have hk : (k, v) ∈ t.select p := List.mem_filter.mpr ⟨get?_eq_some.mp hv, hpv⟩
  have hj : (j, w) ∈ t.select p := List.mem_filter.mpr ⟨get?_eq_some.mp hw, hpw⟩
  rcases hrows : t.select p with _ | ⟨row, _ | ⟨row', rows⟩⟩
  · rw [hrows] at hk; cases hk
  · rw [hrows, List.mem_singleton] at hk hj
    exact congrArg Prod.fst (hk.trans hj.symm)
  · rw [hrows, List.length_cons, List.length_cons] at h
    omega

theorem total_le {t : Table κ ν} (h : t.get? k = some v) (g : κ → ν → Nat) :
    g k v ≤ t.total g :=
  List.le_sum_of_mem (List.mem_map.mpr ⟨(k, v), get?_eq_some.mp h, rfl⟩)

end

end Table

end Lib
