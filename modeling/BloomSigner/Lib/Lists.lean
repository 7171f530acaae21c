import Mathlib.Data.List.Sort
import Mathlib.Data.List.Forall2
import Mathlib.Data.List.Nodup

/-! # Lists with keys

Rows of a list that are told apart by a key, and lists related element by element. -/

namespace Lib

variable {α β : Type*} {xs : List α}

theorem nodup_map_append_singleton {f : α → β} (h : (xs.map f).Nodup)
    (hx : ∀ y ∈ xs, f y ≠ f x) : ((xs ++ [x]).map f).Nodup := by
  rw [List.map_append]
  refine List.nodup_append.mpr ⟨h, List.nodup_singleton _, ?_⟩
  intro a ha b hb
  obtain ⟨y, hy, rfl⟩ := List.mem_map.mp ha
  obtain rfl := List.mem_singleton.mp hb
  exact hx y hy

/-- A change of the rows with a key that no row has changes nothing. -/
theorem map_ite_of_not_mem [DecidableEq β] {key : α → β} (h : k ∉ xs.map key) (f : α → α) :
    xs.map (fun y => if key y = k then f y else y) = xs := by
  refine (List.map_congr_left fun y hy => ?_).trans (List.map_id' xs)
  exact if_neg fun hk => h (List.mem_map.mpr ⟨y, hy, hk⟩)

theorem forall₂_mem_left {R : α → β → Prop} {ys : List β} (h : List.Forall₂ R xs ys)
    (hx : x ∈ xs) : ∃ y ∈ ys, R x y := by
  induction h with
  | nil => cases hx
  | cons hxy _ ih =>
    rcases List.mem_cons.mp hx with rfl | hx
    · exact ⟨_, List.mem_cons_self, hxy⟩
    · obtain ⟨y, hy, hr⟩ := ih hx
      exact ⟨y, List.mem_cons_of_mem _ hy, hr⟩

theorem forall₂_mem_right {R : α → β → Prop} {ys : List β} (h : List.Forall₂ R xs ys)
    (hy : y ∈ ys) : ∃ x ∈ xs, R x y :=
  forall₂_mem_left h.flip hy

/-- Entries that a test accepts and the order does not tell apart keep their places, so that the
first of them stays the first. -/
theorem find?_insertionSort {r : α → α → Prop} [DecidableRel r] {p : α → Bool}
    (h : ∀ a ∈ xs, ∀ b ∈ xs, p a → p b → r a b) : (xs.insertionSort r).find? p = xs.find? p := by
  have hpairwise : (xs.filter p).Pairwise r := by
    rw [List.pairwise_filter]
    exact List.Pairwise.imp_of_mem (R := fun _ _ => True)
      (fun ha hb _ hpa hpb => h _ ha _ hb hpa hpb) (List.pairwise_of_forall fun _ _ => trivial)
  have hsub : (xs.filter p).Sublist ((xs.insertionSort r).filter p) := by
    have := (List.sublist_insertionSort hpairwise List.filter_sublist).filter p
    rwa [List.filter_filter, funext fun a => Bool.and_self (p a)] at this
  have hlen : (xs.filter p).length = ((xs.insertionSort r).filter p).length :=
    ((List.perm_insertionSort r xs).filter p).length_eq.symm
  rw [← List.head?_filter, ← List.head?_filter, hsub.eq_of_length hlen]

end Lib
