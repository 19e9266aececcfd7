import ColumnSim.Archetype.Name
import Mathlib.Data.List.TakeWhile
import Mathlib.Tactic.Common

namespace ColumnSim.ArchetypeName

def isWordChar (c : Char) : Bool := Text.isAlphanumeric c && !c.isUpper

lemma isWordChar_underscore : isWordChar '_' = false := by decide +kernel

lemma ne_underscore {c : Char} (h : isWordChar c = true) : c ≠ '_' := by
  rintro rfl
  exact Bool.false_ne_true (isWordChar_underscore.symm.trans h)

lemma forall_isUpper {P : Char → Prop} (hall : ∀ n < 91, (Char.ofNat n).isUpper = true → P (Char.ofNat n)) {c : Char}
    (h : c.isUpper = true) : P c := by
  have hlt : c.toNat < 91 := Nat.lt_succ_of_le (of_decide_eq_true h).2
  have hc := hall c.toNat hlt
  rw [Char.ofNat_toNat] at hc
  exact hc h

lemma isWordChar_toLower {c : Char} (h : c.isUpper = true) : isWordChar c.toLower = true :=
  forall_isUpper (P := fun c => isWordChar c.toLower = true) (by decide +kernel) h

lemma Scan.push_of_isWordChar {s : Scan} {c : Char} (h : isWordChar c = true) :
    s.push c = ⟨c :: s.written, Text.isLowercase c || c.isDigit⟩ := by
  obtain ⟨halpha, hupper⟩ := (Bool.and_eq_true _ _).mp h
  rw [push, if_neg (by simpa using hupper), if_pos halpha]

/-- A name from its end to its start: an underscore stands only behind a word. -/
inductive Words : List Char → Prop
  | nil : Words []
  | char {c out} (hc : isWordChar c = true) (h : Words out) : Words (c :: out)
  | underscore {c out} (hc : isWordChar c = true) (h : Words (c :: out)) : Words ('_' :: c :: out)

namespace Words

variable {out : List Char}

lemma chars (h : Words out) : ∀ c ∈ out, isWordChar c = true ∨ c = '_' := by
  induction h with
  | nil => simp
  | char hc _ ih => exact List.forall_mem_cons.2 ⟨.inl hc, ih⟩
  | underscore _ _ ih => exact List.forall_mem_cons.2 ⟨.inr rfl, ih⟩

lemma separate (h : Words out) : Words (Scan.separate out) := by
  cases h with
  | nil => exact .nil
  | char hc h =>
    rw [Scan.separate]
    · exact .underscore hc (.char hc h)
    · exact fun he => ne_underscore hc he
  | underscore hc h => exact .underscore hc h

lemma dropWhile (h : Words out) :
    Words (out.dropWhile (· == '_')) ∧ (out.dropWhile (· == '_')).head? ≠ some '_' := by
  cases h with
  | nil => exact ⟨.nil, by simp⟩
  | char hc h =>
    have hne := ne_underscore hc
    rw [List.dropWhile_cons_of_neg (by simpa using hne)]
    exact ⟨.char hc h, by simpa using hne⟩
  | underscore hc h =>
    have hne := ne_underscore hc
    rw [List.dropWhile_cons_of_pos (by simp), List.dropWhile_cons_of_neg (by simpa using hne)]
    exact ⟨h, by simpa using hne⟩

lemma scan (h : Words out) : (out.reverse.foldl Scan.push .start).written = out := by
  induction h with
  | nil => rfl
  | char hc _ ih =>
    rw [List.reverse_cons, List.foldl_append, List.foldl_cons, List.foldl_nil, Scan.push_of_isWordChar hc, ih]
  | underscore hc _ ih =>
    rw [List.reverse_cons, List.foldl_append, List.foldl_cons, List.foldl_nil, Scan.push,
      if_neg (by decide), if_neg (by decide +kernel), ih, Scan.separate]
    exact fun he => ne_underscore hc he

lemma snakeCase (h : Words out) (hhead : out.head? ≠ some '_') : snakeCase out.reverse = out.reverse := by
  rw [ArchetypeName.snakeCase, Scan.finish, h.scan]
  cases out with
  | nil => rfl
  | cons c out =>
    rw [List.dropWhile_cons_of_neg]
    simpa using hhead

end Words

namespace Scan

structure Tidy (s : Scan) : Prop where
  words : Words s.written
  afterLower : s.afterLower = true → ∃ c out, s.written = c :: out ∧ isWordChar c = true

lemma tidy_start : start.Tidy := ⟨.nil, fun h => absurd h (by decide)⟩

lemma Tidy.push {s : Scan} (h : s.Tidy) (c : Char) : (s.push c).Tidy := by
  rw [Scan.push]
  split
  · rename_i hupper
    refine ⟨.char (isWordChar_toLower hupper) ?_, fun h => absurd h (by simp)⟩
    split
    · obtain ⟨d, out, hw, hd⟩ := h.afterLower ‹_›
      rw [hw]
      exact .underscore hd (hw ▸ h.words)
    · exact h.words
  · rename_i hupper
    split
    · rename_i halpha
      have hc : isWordChar c = true := by simp [isWordChar, halpha, hupper]
      exact ⟨.char hc h.words, fun _ => ⟨c, _, rfl, hc⟩⟩
    · exact ⟨h.words.separate, fun h => absurd h (by simp)⟩

lemma Tidy.foldl {s : Scan} (h : s.Tidy) (cs : List Char) : (cs.foldl Scan.push s).Tidy := by
  induction cs generalizing s with
  | nil => exact h
  | cons c cs ih => exact ih (h.push c)

end Scan

lemma exists_words (cs : List Char) :
    ∃ out, snakeCase cs = out.reverse ∧ Words out ∧ out.head? ≠ some '_' :=
  ⟨_, rfl, (Scan.tidy_start.foldl cs).words.dropWhile⟩

lemma untilPath_eq_self {cs : List Char} (h : ':' ∉ cs) : untilPath cs = cs := by
  induction cs with
  | nil => rfl
  | cons c cs ih =>
    obtain ⟨hc, hcs⟩ : ':' ≠ c ∧ ':' ∉ cs := by simpa using h
    rw [untilPath, ih hcs]
    exact fun _ he => (hc he.symm).elim

lemma lastSegment_eq_self {cs : List Char} (h : ':' ∉ cs) : lastSegment cs = cs := by
  rw [lastSegment, untilPath_eq_self (by simpa using h), List.reverse_reverse]

lemma withoutArguments_eq_self {cs : List Char} (h : '<' ∉ cs) : withoutArguments cs = cs :=
  List.takeWhile_eq_self_iff.2 fun c hc => by simpa using fun he : c = '<' => h (he ▸ hc)

lemma ofRaw_text (raw : String) : ofRaw (ofRaw raw).text = ofRaw raw := by
  obtain ⟨out, hout, hw, hhead⟩ := exists_words (lastSegment (withoutArguments raw.toList))
  have hplain : ∀ c, isWordChar c = false → c ≠ '_' → c ∉ out.reverse := by
    intro c hc hne hm
    rcases hw.chars c (List.mem_reverse.1 hm) with h | h
    · exact Bool.false_ne_true (hc.symm.trans h)
    · exact hne h
  have hpath := hplain ':' (by decide +kernel) (by decide)
  have harguments := hplain '<' (by decide +kernel) (by decide)
  rw [ofRaw, ofRaw, String.toList_ofList, hout, withoutArguments_eq_self harguments, lastSegment_eq_self hpath,
    hw.snakeCase hhead]

end ColumnSim.ArchetypeName
