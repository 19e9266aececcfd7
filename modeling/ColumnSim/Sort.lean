namespace ColumnSim

variable {α : Type}

def insertBy (key : α → Nat) (x : α) : List α → List α
  | [] => [x]
  | y :: ys => if key x ≤ key y then x :: y :: ys else y :: insertBy key x ys

def sortBy (key : α → Nat) (xs : List α) : List α := xs.foldr (insertBy key) []

theorem insertBy_perm (key : α → Nat) (x : α) (xs : List α) : (insertBy key x xs).Perm (x :: xs) := by
  induction xs with
  | nil => exact .refl _
  | cons y ys ih =>
    unfold insertBy
    split
    · exact .refl _
    · exact (ih.cons y).trans (.swap x y ys)

theorem sortBy_perm (key : α → Nat) (xs : List α) : (sortBy key xs).Perm xs := by
  induction xs with
  | nil => exact .refl _
  | cons x xs ih => exact (insertBy_perm key x _).trans (ih.cons x)

theorem insertBy_sorted {key : α → Nat} (x : α) {xs : List α} (h : xs.Pairwise (key · ≤ key ·)) :
    (insertBy key x xs).Pairwise (key · ≤ key ·) := by
  induction xs with
  | nil => exact List.pairwise_singleton _ x
  | cons y ys ih =>
    obtain ⟨hy, hys⟩ := List.pairwise_cons.1 h
    unfold insertBy
    split
    · rename_i hxy
      refine List.pairwise_cons.2 ⟨fun z hz => ?_, h⟩
      rcases List.mem_cons.1 hz with rfl | hz
      · exact hxy
      · exact Nat.le_trans hxy (hy z hz)
    · refine List.pairwise_cons.2 ⟨fun z hz => ?_, ih hys⟩
      rcases List.mem_cons.1 ((insertBy_perm key x ys).mem_iff.1 hz) with rfl | hz
      · omega
      · exact hy z hz

theorem sortBy_sorted (key : α → Nat) (xs : List α) : (sortBy key xs).Pairwise (key · ≤ key ·) := by
  induction xs with
  | nil => exact .nil
  | cons x xs ih => exact insertBy_sorted x ih

def leastBy? (key : α → Nat) : List α → Option α
  | [] => none
  | x :: xs => some (xs.foldl (fun best y => if key y < key best then y else best) x)

def searchBy? (key : α → Nat) (k : Nat) (xs : List α) : Option α :=
  match h : xs.drop (xs.length / 2) with
  | [] => none
  | x :: right =>
    if key x = k then some x
    else if key x < k then searchBy? key k right
    else searchBy? key k (xs.take (xs.length / 2))
termination_by xs.length
decreasing_by
  all_goals
    have hl := congrArg List.length h
    simp only [List.length_drop, List.length_cons, List.length_take] at hl ⊢
    omega

end ColumnSim
