import ColumnSim.Sort
import Mathlib.Data.List.Nodup

namespace ColumnSim

variable {α : Type} {key : α → Nat} {xs ys : List α} {x : α}

lemma mem_sortBy : x ∈ sortBy key xs ↔ x ∈ xs := (sortBy_perm key xs).mem_iff

lemma sortBy_strict (h : (xs.map key).Nodup) : (sortBy key xs).Pairwise (key · < key ·) := by
  have hn : ((sortBy key xs).map key).Nodup := ((sortBy_perm key xs).map key).nodup_iff.2 h
  have hne : (sortBy key xs).Pairwise (key · ≠ key ·) := List.pairwise_map.1 hn
  exact (sortBy_sorted key xs).imp₂ (fun _ _ hle hne => Nat.lt_of_le_of_ne hle hne) hne

lemma eq_of_strict (hx : xs.Pairwise (key · < key ·)) (hy : ys.Pairwise (key · < key ·))
    (h : ∀ x, x ∈ xs ↔ x ∈ ys) : xs = ys := by
  have hnodup : ∀ {zs : List α}, zs.Pairwise (key · < key ·) → zs.Nodup := fun hz =>
    hz.imp fun {a b} hlt heq => Nat.ne_of_lt hlt (congrArg key heq)
  have hperm := (List.perm_ext_iff_of_nodup (hnodup hx) (hnodup hy)).2 h
  exact hperm.eq_of_pairwise (fun a b _ _ hab hba => by omega) hx hy

lemma nodup_map_of_strict {B : Type} {f : α → B} (h : xs.Pairwise (key · < key ·))
    (hf : ∀ x y, f x = f y → key x = key y) : (xs.map f).Nodup :=
  List.pairwise_map.2 (h.imp fun hlt heq => Nat.ne_of_lt hlt (hf _ _ heq))

lemma sortBy_eq_of_perm (hp : xs.Perm ys) (hy : ys.Pairwise (key · < key ·)) : sortBy key xs = ys := by
  have hn : (xs.map key).Nodup := (hp.map key).nodup_iff.2 (List.pairwise_map.2 (hy.imp Nat.ne_of_lt))
  apply eq_of_strict (sortBy_strict hn) hy
  intro x
  rw [mem_sortBy, hp.mem_iff]

lemma foldl_least_mem (best : α) (xs : List α) :
    xs.foldl (fun best y => if key y < key best then y else best) best ∈ best :: xs := by
  induction xs generalizing best with
  | nil => exact List.mem_singleton.2 rfl
  | cons y ys ih =>
    rw [List.foldl_cons]
    rcases List.mem_cons.1 (ih (if key y < key best then y else best)) with h | h
    · rw [h]
      split <;> simp
    · exact List.mem_cons_of_mem _ (List.mem_cons_of_mem _ h)

lemma leastBy?_mem (h : leastBy? key xs = some x) : x ∈ xs := by
  cases xs with
  | nil => cases h
  | cons y ys =>
    cases h
    exact foldl_least_mem y ys

section Search

variable {k : Nat} {y : α} {right : List α}

lemma searchBy?_of_drop_nil (hd : xs.drop (xs.length / 2) = []) : searchBy? key k xs = none := by
  rw [searchBy?]
  split
  · rfl
  · simp_all

lemma searchBy?_of_drop_cons (hd : xs.drop (xs.length / 2) = y :: right) : searchBy? key k xs =
    if key y = k then some y
    else if key y < k then searchBy? key k right
    else searchBy? key k (xs.take (xs.length / 2)) := by
  rw [searchBy?]
  split
  · simp_all
  · rename_i h
    rw [hd] at h
    cases h
    rfl

lemma halves_strict (h : xs.Pairwise (key · < key ·)) (hd : xs.drop (xs.length / 2) = y :: right) :
    ∃ left, xs.take (xs.length / 2) = left ∧ xs = left ++ y :: right ∧ left.Pairwise (key · < key ·) ∧
      right.Pairwise (key · < key ·) ∧ (∀ z ∈ left, key z < key y) ∧ ∀ z ∈ right, key y < key z := by
  have hsplit := List.take_append_drop (xs.length / 2) xs
  rw [hd] at hsplit
  rw [← hsplit] at h
  obtain ⟨hleft, hrest, hbelow⟩ := List.pairwise_append.1 h
  obtain ⟨habove, hright⟩ := List.pairwise_cons.1 hrest
  exact ⟨_, rfl, hsplit.symm, hleft, hright, fun z hz => hbelow z hz y (List.mem_cons_self ..), habove⟩

lemma searchBy?_eq_some_iff (h : xs.Pairwise (key · < key ·)) :
    searchBy? key k xs = some x ↔ x ∈ xs ∧ key x = k := by
  induction xs using searchBy?.induct key k with
  | case1 xs hd =>
    have hl := congrArg List.length hd
    have hnil : xs = [] := by
      rw [List.length_drop, List.length_nil] at hl
      exact List.length_eq_zero_iff.1 (by omega)
    rw [searchBy?_of_drop_nil hd, hnil]
    simp
  | case2 xs y right hd hk =>
    obtain ⟨left, _, hxs, _, _, hbelow, habove⟩ := halves_strict h hd
    rw [searchBy?_of_drop_cons hd, if_pos hk, hxs]
    grind
  | case3 xs y right hd hk hlt ih =>
    obtain ⟨left, _, hxs, _, hright, hbelow, _⟩ := halves_strict h hd
    rw [searchBy?_of_drop_cons hd, if_neg hk, if_pos hlt, ih hright, hxs]
    grind
  | case4 xs y right hd hk hlt ih =>
    obtain ⟨left, htake, hxs, hleft, _, _, habove⟩ := halves_strict h hd
    rw [searchBy?_of_drop_cons hd, if_neg hk, if_neg hlt, ih (htake ▸ hleft), htake, hxs]
    grind

end Search

end ColumnSim
