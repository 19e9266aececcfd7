import ColumnSim.Random
import Mathlib.Data.FinEnum
import Mathlib.Data.Nat.ModEq
import Mathlib.Data.Nat.Prime.Basic

/-! Mixing of 64-bit words loses nothing: keys differ as soon as one of the values that they are made of does. -/

namespace ColumnSim.Random

section Words

variable {a b k f : UInt64}

lemma eq_zero_of_shiftRight_eq (hk : k.toNat % 64 ≠ 0) (h : a >>> k = a) : a = 0 := by
  have hquotient : a.toNat / 2 ^ (k.toNat % 64) = a.toNat := by
    rw [← Nat.shiftRight_eq_div_pow, ← UInt64.toNat_shiftRight, h]
  refine UInt64.toNat_inj.1 (by_contra fun hne : a.toNat ≠ 0 => ?_)
  exact (Nat.div_lt_self (Nat.pos_of_ne_zero hne) (Nat.one_lt_two_pow hk)).ne hquotient

lemma xor_shiftRight_injective (hk : k.toNat % 64 ≠ 0) : Function.Injective fun z : UInt64 => z ^^^ (z >>> k) := by
  intro a b h
  have hshift : (a ^^^ b) >>> k = a ^^^ b := by
    calc (a ^^^ b) >>> k = a ^^^ (a ^^^ (a >>> k)) ^^^ (b >>> k) := by
          rw [UInt64.shiftRight_xor, ← UInt64.xor_assoc a a, UInt64.xor_self, UInt64.zero_xor]
      _ = a ^^^ (b ^^^ (b >>> k)) ^^^ (b >>> k) := congrArg (a ^^^ · ^^^ (b >>> k)) h
      _ = a ^^^ b := by rw [UInt64.xor_assoc, UInt64.xor_assoc, UInt64.xor_self, UInt64.xor_zero]
  exact UInt64.xor_eq_zero_iff.1 (eq_zero_of_shiftRight_eq hk hshift)

lemma mul_left_injective_of_odd (hf : f.toNat % 2 = 1) : Function.Injective fun z : UInt64 => z * f := by
  intro a b h
  have hcoprime : (2 ^ 64).gcd f.toNat = 1 := (Nat.coprime_two_left.2 (Nat.odd_iff.2 hf)).pow_left 64
  have hmod : a.toNat * f.toNat ≡ b.toNat * f.toNat [MOD 2 ^ 64] := by
    rw [Nat.ModEq, ← UInt64.toNat_mul, ← UInt64.toNat_mul]
    exact congrArg UInt64.toNat h
  have hword := Nat.ModEq.cancel_right_of_coprime hcoprime hmod
  exact UInt64.toNat_inj.1 (hword.eq_of_lt_of_lt a.toNat_lt b.toNat_lt)

lemma stir_injective (hk : k.toNat % 64 ≠ 0) (hf : f.toNat % 2 = 1) : Function.Injective (stir k f) :=
  (mul_left_injective_of_odd hf).comp (xor_shiftRight_injective hk)

lemma mix_injective : Function.Injective mix :=
  (xor_shiftRight_injective (by decide)).comp <| (stir_injective (by decide) (by decide)).comp <|
    (stir_injective (by decide) (by decide)).comp fun _ _ => (UInt64.add_left_inj _).1

end Words

namespace Key

lemma ofSeed_injective : Function.Injective ofSeed := fun _ _ h => mix_injective (congrArg raw h)

lemma raw_injective : Function.Injective raw := fun _ _ h => congrArg mk h

lemma foldIn_injective (k : Key) : Function.Injective k.foldIn := fun _ _ h =>
  mix_injective ((UInt64.xor_right_inj _).1 (mix_injective (congrArg raw h)))

lemma foldIn_injective_left (x : UInt64) : Function.Injective fun k : Key => k.foldIn x := fun _ _ h =>
  raw_injective ((UInt64.xor_left_inj _).1 (mix_injective (congrArg raw h)))

lemma foldAll_injective (xs : List UInt64) : Function.Injective fun k : Key => k.foldAll xs := by
  induction xs with
  | nil => exact Function.injective_id
  | cons x xs ih => exact ih.comp (foldIn_injective_left x)

lemma foldAll_insert_injective (k : Key) (xs ys : List UInt64) :
    Function.Injective fun x => k.foldAll (xs ++ x :: ys) := by
  have hsplit : (fun x => k.foldAll (xs ++ x :: ys)) = fun x => ((k.foldAll xs).foldIn x).foldAll ys := by
    funext x
    rw [foldAll, List.foldl_append]
    rfl
  rw [hsplit]
  exact (foldAll_injective ys).comp (foldIn_injective _)

theorem raw_foldAll_injective : Function.Bijective mix ∧ Function.Injective ofSeed ∧
    (∀ k : Key, Function.Injective k.foldIn) ∧ (∀ x, Function.Injective fun k : Key => k.foldIn x) ∧
    (∀ xs, Function.Injective fun seed => ((ofSeed seed).foldAll xs).raw) ∧
    ∀ (k : Key) (xs ys : List UInt64), Function.Injective fun x => (k.foldAll (xs ++ x :: ys)).raw :=
  ⟨Finite.injective_iff_bijective.1 mix_injective, ofSeed_injective, foldIn_injective, foldIn_injective_left,
    fun xs => (raw_injective.comp (foldAll_injective xs)).comp ofSeed_injective,
    fun k xs ys => raw_injective.comp (foldAll_insert_injective k xs ys)⟩

end Key

end ColumnSim.Random
