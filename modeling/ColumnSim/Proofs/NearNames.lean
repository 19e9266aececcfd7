import ColumnSim.Component.Id
import ColumnSim.Proofs.Mixing

/-! Component ids of names that differ in one place only. Neither the next byte nor a common end makes up for a byte
that is another one. -/

namespace ColumnSim.ComponentId

section Words

variable {h x y : UInt64} {b c d e : UInt8}

lemma eq_of_mul_hashPrime (hhigh : x.toNat / 2 ^ 8 = y.toNat / 2 ^ 8)
    (hmul : (x * hashPrime).toNat / 2 ^ 8 = (y * hashPrime).toNat / 2 ^ 8) : x = y := by
  have hprime : hashPrime.toNat = 0x100000001b3 := rfl
  rw [UInt64.toNat_mul, UInt64.toNat_mul, hprime] at hmul
  -- The products are less than `2 ^ 49` apart and their remainders less than `2 ^ 8`.
  have hquotient : x.toNat * 0x100000001b3 / 2 ^ 64 = y.toNat * 0x100000001b3 / 2 ^ 64 := by omega
  exact UInt64.toNat_inj.1 (by omega)

lemma toNat_xor_byte (h : UInt64) (b : UInt8) : (h ^^^ b.toUInt64).toNat / 2 ^ 8 = h.toNat / 2 ^ 8 := by
  rw [UInt64.toNat_xor, UInt8.toNat_toUInt64, Nat.xor_div_two_pow, Nat.div_eq_of_lt b.toNat_lt, Nat.xor_zero]

lemma absorb_injective (b : UInt8) : Function.Injective fun h => absorb h b := fun _ _ h =>
  (UInt64.xor_left_inj _).1 (Random.mul_left_injective_of_odd (by decide) h)

lemma absorb_injective_right (h : UInt64) : Function.Injective (absorb h) := fun _ _ heq =>
  UInt8.toUInt64_inj.1 ((UInt64.xor_right_inj _).1 (Random.mul_left_injective_of_odd (by decide) heq))

lemma absorb_absorb_inj (heq : absorb (absorb h b) d = absorb (absorb h c) e) : b = c ∧ d = e := by
  have hxor : absorb h b ^^^ d.toUInt64 = absorb h c ^^^ e.toUInt64 :=
    Random.mul_left_injective_of_odd (by decide) heq
  have hfirst : h ^^^ b.toUInt64 = h ^^^ c.toUInt64 := by
    apply eq_of_mul_hashPrime
    · rw [toNat_xor_byte, toNat_xor_byte]
    · calc (absorb h b).toNat / 2 ^ 8 = (absorb h b ^^^ d.toUInt64).toNat / 2 ^ 8 := (toNat_xor_byte _ _).symm
        _ = (absorb h c ^^^ e.toUInt64).toNat / 2 ^ 8 := by rw [hxor]
        _ = (absorb h c).toNat / 2 ^ 8 := toNat_xor_byte _ _
  obtain rfl : b = c := UInt8.toUInt64_inj.1 ((UInt64.xor_right_inj _).1 hfirst)
  exact ⟨rfl, absorb_injective_right _ heq⟩

end Words

section Bytes

variable {a b xs ys : List UInt8}

lemma foldl_absorb_injective (xs : List UInt8) : Function.Injective fun h => xs.foldl absorb h := by
  induction xs with
  | nil => exact Function.injective_id
  | cons b xs ih => exact ih.comp (absorb_injective b)

lemma foldl_absorb_inj_of_length_le (h : UInt64) (hlen : xs.length = ys.length) (hle : xs.length ≤ 2)
    (heq : xs.foldl absorb h = ys.foldl absorb h) : xs = ys := by
  match xs, ys with
  | [], [] => rfl
  | [b], [c] => rw [absorb_injective_right h heq]
  | [b, d], [c, e] =>
    obtain ⟨rfl, rfl⟩ := absorb_absorb_inj heq
    rfl

def Near (a b : List UInt8) : Prop :=
  a.length = b.length ∧ ∃ i, a.take i = b.take i ∧ a.drop (i + 2) = b.drop (i + 2)

lemma eq_of_near (h : Near a b) (heq : ofBytes a = ofBytes b) : a = b := by
  obtain ⟨hlen, i, hfront, hback⟩ := h
  have hsplit (c : List UInt8) : c = c.take i ++ ((c.drop i).take 2 ++ c.drop (i + 2)) := by
    rw [← List.drop_drop, List.take_append_drop, List.take_append_drop]
  have hfold : a.foldl absorb offsetBasis = b.foldl absorb offsetBasis := congrArg raw heq
  rw [hsplit a, hsplit b, hfront, hback, List.foldl_append, List.foldl_append, List.foldl_append,
    List.foldl_append] at hfold
  have hmiddle : (a.drop i).take 2 = (b.drop i).take 2 := by
    refine foldl_absorb_inj_of_length_le _ ?_ (List.length_take_le ..) (foldl_absorb_injective _ hfold)
    rw [List.length_take, List.length_take, List.length_drop, List.length_drop, hlen]
  rw [hsplit a, hsplit b, hfront, hmiddle, hback]

end Bytes

section Names

def utf8 (name : String) : List UInt8 := name.toUTF8.data.toList

lemma utf8_injective : Function.Injective utf8 := fun _ _ h =>
  String.toByteArray_inj.1 (ByteArray.ext (Array.toList_inj.1 h))

lemma ofName_eq_ofBytes (name : String) : ofName name = ofBytes (utf8 name) := by
  have hbytes : utf8 name = name.toList.flatMap String.utf8EncodeChar := by
    rw [utf8, String.toUTF8, ← String.utf8Encode_toList, List.utf8Encode, List.data_toByteArray]
  rw [hbytes, ofName]

theorem ofBytes_ne_of_near : (∀ a b : List UInt8, Near a b → a ≠ b → ofBytes a ≠ ofBytes b) ∧
    ∀ m n : String, Near (utf8 m) (utf8 n) → m ≠ n → ofName m ≠ ofName n := by
  refine ⟨fun a b h hne heq => hne (eq_of_near h heq), fun m n h hne heq => hne ?_⟩
  rw [ofName_eq_ofBytes, ofName_eq_ofBytes] at heq
  exact utf8_injective (eq_of_near h heq)

theorem ofBytes_ne_of_near_arms :
    (Near (utf8 "arm_l0_pose") (utf8 "arm_r1_pose") ∧ "arm_l0_pose" ≠ "arm_r1_pose" ∧
      ofName "arm_l0_pose" ≠ ofName "arm_r1_pose") ∧
    Near [0, 0, 255] [1, 179, 255] ∧ ofBytes [0, 0, 255] ≠ ofBytes [1, 179, 255] := by
  have hnames : Near (utf8 "arm_l0_pose") (utf8 "arm_r1_pose") := ⟨by decide, 4, by decide, by decide⟩
  have hbytes : Near [0, 0, 255] [1, 179, 255] := ⟨rfl, 0, rfl, rfl⟩
  exact ⟨⟨hnames, by decide, ofBytes_ne_of_near.2 _ _ hnames (by decide)⟩, hbytes,
    ofBytes_ne_of_near.1 _ _ hbytes (by decide)⟩

end Names

end ColumnSim.ComponentId
