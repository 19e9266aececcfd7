import ColumnSim.Component.Layout
import Mathlib.Tactic.Common

/-! The text of a layout determines the layout: every number in it is read back, up to the mark that follows it. -/

namespace ColumnSim

lemma takeWhile_toDigits_append (n : Nat) {xs : List Char} (hx : xs.takeWhile Char.isDigit = []) :
    (Nat.toDigits 10 n ++ xs).takeWhile Char.isDigit = Nat.toDigits 10 n := by
  rw [List.takeWhile_append_of_pos fun c hc => Nat.isDigit_of_mem_toDigits (by decide) (by decide) hc, hx,
    List.append_nil]

lemma toDigits_append_inj {m n : Nat} {xs ys : List Char} (hx : xs.takeWhile Char.isDigit = [])
    (hy : ys.takeWhile Char.isDigit = []) (h : Nat.toDigits 10 m ++ xs = Nat.toDigits 10 n ++ ys) :
    m = n ∧ xs = ys := by
  have hdigits : Nat.toDigits 10 m = Nat.toDigits 10 n := by
    rw [← takeWhile_toDigits_append m hx, h, takeWhile_toDigits_append n hy]
  have hvalue : m = n := by
    calc m = Nat.ofDigitChars 10 (Nat.toDigits 10 m) 0 := Nat.ofDigitChars_ten_toDigits.symm
      _ = Nat.ofDigitChars 10 (Nat.toDigits 10 n) 0 := by rw [hdigits]
      _ = n := Nat.ofDigitChars_ten_toDigits
  exact ⟨hvalue, List.append_cancel_left (hdigits ▸ h)⟩

namespace ElemKind

lemma length_name (k : ElemKind) : k.name.toList.length = 3 := by cases k <;> rfl

lemma name_injective : Function.Injective name := by
  intro k l
  cases k <;> cases l <;> decide

end ElemKind

namespace Layout

def moreDims : List Nat → List Char
  | [] => [']']
  | d :: ds => ',' :: ' ' :: (Nat.toDigits 10 d ++ moreDims ds)

def dims : List Nat → List Char
  | [] => []
  | d :: ds => '[' :: (Nat.toDigits 10 d ++ moreDims ds)

lemma takeWhile_moreDims (ds : List Nat) : (moreDims ds).takeWhile Char.isDigit = [] := by cases ds <;> rfl

lemma toDigits_append_moreDims_inj {d e : Nat} {ds es : List Nat}
    (h : Nat.toDigits 10 d ++ moreDims ds = Nat.toDigits 10 e ++ moreDims es) : d = e ∧ moreDims ds = moreDims es :=
  toDigits_append_inj (takeWhile_moreDims ds) (takeWhile_moreDims es) h

lemma toList_intercalate_dims (d : Nat) (ds : List Nat) :
    (String.intercalate ", " ((d :: ds).map toString) ++ "]").toList = Nat.toDigits 10 d ++ moreDims ds := by
  induction ds generalizing d with
  | nil => simp [moreDims]
  | cons e ds ih =>
    rw [List.map_cons, List.map_cons, String.intercalate_cons_cons, String.append_assoc, String.toList_append,
      ← List.map_cons, ih e, Nat.toString_eq_ofList_toDigits]
    simp [moreDims]

lemma toList_describe (l : Layout) : l.describe.toList = l.kind.name.toList ++ dims l.shape := by
  obtain ⟨k, shape⟩ := l
  cases shape with
  | nil => exact (List.append_nil _).symm
  | cons d ds =>
    have htext : (⟨k, d :: ds⟩ : Layout).describe =
        k.name ++ "[" ++ (String.intercalate ", " ((d :: ds).map toString) ++ "]") := String.append_assoc ..
    rw [htext, String.toList_append, toList_intercalate_dims, String.toList_append, List.append_assoc]
    rfl

lemma moreDims_injective : Function.Injective moreDims := by
  intro ds es h
  induction ds generalizing es with
  | nil =>
    cases es with
    | nil => rfl
    | cons e es => cases h
  | cons d ds ih =>
    cases es with
    | nil => cases h
    | cons e es =>
      obtain ⟨rfl, hmore⟩ := toDigits_append_moreDims_inj (List.cons.inj (List.cons.inj h).2).2
      rw [ih hmore]

lemma dims_injective : Function.Injective dims := by
  intro ds es h
  cases ds with
  | nil =>
    cases es with
    | nil => rfl
    | cons e es => cases h
  | cons d ds =>
    cases es with
    | nil => cases h
    | cons e es =>
      obtain ⟨rfl, hmore⟩ := toDigits_append_moreDims_inj (List.cons.inj h).2
      rw [moreDims_injective hmore]

lemma describe_injective : Function.Injective describe := by
  intro l m h
  have htext : l.kind.name.toList ++ dims l.shape = m.kind.name.toList ++ dims m.shape := by
    rw [← toList_describe, ← toList_describe, h]
  obtain ⟨hkind, hdims⟩ := List.append_inj htext (by rw [ElemKind.length_name, ElemKind.length_name])
  obtain ⟨k, ds⟩ := l
  obtain ⟨j, es⟩ := m
  cases ElemKind.name_injective (String.toList_inj.1 hkind)
  cases dims_injective hdims
  rfl

end Layout

end ColumnSim
