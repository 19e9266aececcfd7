import ColumnSim.Component.Schema
import Mathlib.Data.List.Nodup

namespace ColumnSim.Schema

variable {seen other : List ComponentId} {xs ys : List Schema} {s : Schema}

lemma firstById_of_mem (h : s.id ∈ seen) : firstById seen (s :: xs) = firstById seen xs := if_pos h

lemma firstById_of_not_mem (h : s.id ∉ seen) : firstById seen (s :: xs) = s :: firstById (s.id :: seen) xs := if_neg h

lemma firstById_congr (h : ∀ c, c ∈ seen ↔ c ∈ other) (xs : List Schema) :
    firstById seen xs = firstById other xs := by
  induction xs generalizing seen other with
  | nil => rfl
  | cons s xs ih =>
    by_cases hs : s.id ∈ seen
    · rw [firstById_of_mem hs, firstById_of_mem ((h s.id).1 hs), ih h]
    · have hcons : ∀ c, c ∈ s.id :: seen ↔ c ∈ s.id :: other := fun c => by
        rw [List.mem_cons, List.mem_cons, h]
      rw [firstById_of_not_mem hs, firstById_of_not_mem fun ho => hs ((h s.id).2 ho), ih hcons]

lemma firstById_append (seen : List ComponentId) (xs ys : List Schema) : firstById seen (xs ++ ys) =
    firstById seen xs ++ firstById ((firstById seen xs).map id ++ seen) ys := by
  fun_induction firstById seen xs with
  | case1 seen => rfl
  | case2 seen s xs hs ih => rw [List.cons_append, firstById_of_mem hs, ih]
  | case3 seen s xs hs ih =>
    rw [List.cons_append, firstById_of_not_mem hs, ih, List.cons_append]
    congr 2
    -- Both sides have seen the same ids, in another order.
    apply firstById_congr
    intro c
    simp only [List.map_cons, List.mem_append, List.mem_cons]
    rw [or_assoc]
    exact or_left_comm

lemma firstById_firstById (h : ∀ c ∈ other, c ∈ seen) (xs : List Schema) :
    firstById seen (firstById other xs) = firstById seen xs := by
  induction xs generalizing seen other with
  | nil => rfl
  | cons s xs ih =>
    by_cases ho : s.id ∈ other
    · rw [firstById_of_mem ho, firstById_of_mem (h _ ho), ih h]
    · rw [firstById_of_not_mem ho]
      by_cases hs : s.id ∈ seen
      · rw [firstById_of_mem hs, firstById_of_mem hs, ih (List.forall_mem_cons.2 ⟨hs, h⟩)]
      · rw [firstById_of_not_mem hs, firstById_of_not_mem hs, ih fun c hc => ?_]
        rcases List.mem_cons.1 hc with rfl | hc
        · exact List.mem_cons_self ..
        · exact List.mem_cons_of_mem _ (h c hc)

lemma firstById_nodup (seen : List ComponentId) (xs : List Schema) : ((firstById seen xs).map id).Nodup := by
  fun_induction firstById seen xs with
  | case1 => exact .nil
  | case2 seen s xs hs ih => exact ih
  | case3 seen s xs hs ih =>
    rw [List.map_cons, List.nodup_cons]
    refine ⟨fun hm => ?_, ih⟩
    obtain ⟨t, ht, hid⟩ := List.mem_map.1 hm
    exact (mem_of_firstById ht).2 (hid ▸ List.mem_cons_self ..)

lemma find?_firstById {c : ComponentId} (hc : c ∉ seen) (xs : List Schema) :
    (firstById seen xs).find? (·.id = c) = xs.find? (·.id = c) := by
  fun_induction firstById seen xs with
  | case1 => rfl
  | case2 seen s xs hs ih =>
    have hne : s.id ≠ c := fun heq => hc (heq ▸ hs)
    rw [ih hc, List.find?_cons_of_neg (by simpa using hne)]
  | case3 seen s xs hs ih =>
    rw [List.find?_cons, List.find?_cons]
    by_cases heq : s.id = c
    · simp [heq]
    · have hfresh : c ∉ s.id :: seen := fun hm => (List.mem_cons.1 hm).elim (fun h => heq h.symm) hc
      simp [heq, ih hfresh]

lemma exists_first_of_mem (h : s ∈ xs) :
    ∃ first ∈ firstById [] xs, xs.find? (·.id = s.id) = some first ∧ first.id = s.id := by
  have hsome : (xs.find? (·.id = s.id)).isSome = true := List.find?_isSome.2 ⟨s, h, by simp⟩
  obtain ⟨first, hf⟩ := Option.isSome_iff_exists.1 hsome
  refine ⟨first, ?_, hf, by simpa using List.find?_some hf⟩
  rw [← find?_firstById List.not_mem_nil] at hf
  exact List.mem_of_find?_eq_some hf

lemma firstById_flatMap {A : Type} {f g : A → List Schema} {as : List A}
    (h : ∀ a ∈ as, ∀ seen, firstById seen (f a) = firstById seen (g a)) (seen : List ComponentId) :
    firstById seen (as.flatMap f) = firstById seen (as.flatMap g) := by
  induction as generalizing seen with
  | nil => rfl
  | cons a as ih =>
    obtain ⟨ha, has⟩ := List.forall_mem_cons.1 h
    rw [List.flatMap_cons, List.flatMap_cons, firstById_append, firstById_append, ha, ih has]

end ColumnSim.Schema
