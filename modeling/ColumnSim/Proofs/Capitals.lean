import ColumnSim.Proofs.SnakeCase
import ColumnSim.Store.Change

namespace ColumnSim

namespace Text

def Span.within (s t : Span) : Bool :=
  t.first ≤ s.first && s.last ≤ t.last && s.step % t.step == 0 && (s.first - t.first) % t.step == 0

lemma Span.holds_of_within {s t : Span} {n : Nat} (h : s.within t = true) (hn : s.holds n = true) :
    t.holds n = true := by
  simp only [within, holds, Bool.and_eq_true, decide_eq_true_eq, beq_iff_eq] at h hn ⊢
  obtain ⟨⟨⟨hfirst, hlast⟩, hstep⟩, hoffset⟩ := h
  obtain ⟨⟨hl, hu⟩, hmod⟩ := hn
  refine ⟨⟨hfirst.trans hl, hu.trans hlast⟩, ?_⟩
  have hsum : n - t.first = (n - s.first) + (s.first - t.first) := by omega
  rw [hsum]
  have hleft : t.step ∣ n - s.first := Nat.dvd_trans (Nat.dvd_of_mod_eq_zero hstep) (Nat.dvd_of_mod_eq_zero hmod)
  exact Nat.mod_eq_zero_of_dvd (Nat.dvd_add hleft (Nat.dvd_of_mod_eq_zero hoffset))

def Span.allWithin (spans : List Span) : List Span → Bool
  | [] => spans.isEmpty
  | t :: ts => allWithin (spans.dropWhile (·.within t)) ts

lemma Span.exists_of_allWithin {spans ts : List Span} (h : allWithin spans ts = true) :
    ∀ s ∈ spans, ∃ t ∈ ts, s.within t = true := by
  induction ts generalizing spans with
  | nil =>
    rw [allWithin, List.isEmpty_iff] at h
    simp [h]
  | cons t ts ih =>
    intro s hs
    rw [← List.takeWhile_append_dropWhile (p := (·.within t)) (l := spans), List.mem_append] at hs
    rcases hs with hs | hs
    · have hst : s.within t = true := List.mem_takeWhile_imp (p := fun s : Span => s.within t) hs
      exact ⟨t, List.mem_cons_self .., hst⟩
    · obtain ⟨u, hu, hsu⟩ := ih h s hs
      exact ⟨u, List.mem_cons_of_mem _ hu, hsu⟩

lemma isAlphanumeric_of_isUppercase {c : Char} (h : isUppercase c = true) : isAlphanumeric c = true := by
  have hspans : Span.allWithin uppercaseSpans alphanumericSpans = true := by decide +kernel
  obtain ⟨s, hs, hc⟩ := List.any_eq_true.1 h
  obtain ⟨t, ht, hst⟩ := Span.exists_of_allWithin hspans s hs
  exact List.any_eq_true.2 ⟨t, ht, Span.holds_of_within hst hc⟩

end Text

namespace ArchetypeName

def base (raw : String) : List Char := lastSegment (withoutArguments raw.toList)

def isOtherCapital (c : Char) : Bool := Text.isUppercase c && !c.isUpper

lemma isUppercase_toLower {c : Char} (h : c.isUpper = true) : Text.isUppercase c.toLower = false :=
  forall_isUpper (P := fun c => Text.isUppercase c.toLower = false) (by decide +kernel) h

lemma isUppercase_underscore : Text.isUppercase '_' = false := by decide +kernel

lemma filter_underscore (out : List Char) : ('_' :: out).filter Text.isUppercase = out.filter Text.isUppercase :=
  List.filter_cons_of_neg (by simp [isUppercase_underscore])

lemma isWordChar_of_isOtherCapital {c : Char} (h : isOtherCapital c = true) : isWordChar c = true := by
  obtain ⟨hupper, hother⟩ := (Bool.and_eq_true _ _).mp h
  exact (Bool.and_eq_true _ _).mpr ⟨Text.isAlphanumeric_of_isUppercase hupper, hother⟩

namespace Scan

lemma filter_separate (out : List Char) :
    (separate out).filter Text.isUppercase = out.filter Text.isUppercase := by
  fun_cases separate out with
  | case1 => rfl
  | case2 out => rfl
  | case3 c out => exact filter_underscore _

lemma filter_push (s : Scan) (c : Char) : (s.push c).written.filter Text.isUppercase =
    [c].filter isOtherCapital ++ s.written.filter Text.isUppercase := by
  rw [push]
  split
  · rename_i hupper
    have hunder : (if s.afterLower then '_' :: s.written else s.written).filter Text.isUppercase =
        s.written.filter Text.isUppercase := by
      split
      · exact filter_underscore _
      · rfl
    rw [List.filter_cons_of_neg (by simp [isUppercase_toLower hupper]), hunder]
    simp [isOtherCapital, hupper]
  · rename_i hupper
    split
    · rw [List.filter_cons]
      by_cases hc : Text.isUppercase c = true <;> simp [isOtherCapital, hupper, hc]
    · rename_i halpha
      have hc : ¬Text.isUppercase c = true := fun hc => halpha (Text.isAlphanumeric_of_isUppercase hc)
      rw [filter_separate]
      simp [isOtherCapital, hc]

lemma filter_foldl (s : Scan) (cs : List Char) : (cs.foldl push s).written.filter Text.isUppercase =
    (cs.filter isOtherCapital).reverse ++ s.written.filter Text.isUppercase := by
  induction cs generalizing s with
  | nil => rfl
  | cons c cs ih =>
    rw [List.foldl_cons, ih, filter_push, ← List.singleton_append (l := cs), List.filter_append, List.reverse_append,
      List.append_assoc]
    by_cases hc : isOtherCapital c = true <;> simp [hc]

lemma filter_finish (s : Scan) : s.finish.filter Text.isUppercase = (s.written.filter Text.isUppercase).reverse := by
  have hdropped : (s.written.takeWhile (· == '_')).filter Text.isUppercase = [] := by
    refine List.filter_eq_nil_iff.2 fun c hc => ?_
    have hunder : (c == '_') = true := List.mem_takeWhile_imp (p := (· == '_')) hc
    simp [eq_of_beq hunder, isUppercase_underscore]
  have hall := congrArg (List.filter Text.isUppercase)
    (List.takeWhile_append_dropWhile (p := (· == '_')) (l := s.written))
  rw [List.filter_append, hdropped, List.nil_append] at hall
  rw [finish, List.filter_reverse, hall]

lemma suffix_push (s : Scan) (c : Char) : s.written <:+ (s.push c).written := by
  rw [push]
  split
  · split
    · exact (List.suffix_cons _ _).trans (List.suffix_cons _ _)
    · exact List.suffix_cons _ _
  · split
    · exact List.suffix_cons _ _
    · fun_cases separate s.written with
      | case1 => exact List.suffix_rfl
      | case2 out => exact List.suffix_rfl
      | case3 c out => exact List.suffix_cons _ _

lemma suffix_foldl (s : Scan) (cs : List Char) : s.written <:+ (cs.foldl push s).written := by
  induction cs generalizing s with
  | nil => exact List.suffix_rfl
  | cons c cs ih => exact (s.suffix_push c).trans (ih (s.push c))

end Scan

lemma filter_snakeCase (cs : List Char) :
    (snakeCase cs).filter Text.isUppercase = cs.filter isOtherCapital := by
  rw [snakeCase, Scan.filter_finish, Scan.filter_foldl]
  simp [Scan.start]

lemma head?_snakeCase {c : Char} (hc : isWordChar c = true) (cs : List Char) :
    (snakeCase (c :: cs)).head? = some c := by
  have hfirst : (Scan.start.push c).written = [c] := by
    rw [Scan.push_of_isWordChar hc]
    rfl
  obtain ⟨front, hfront⟩ := (Scan.start.push c).suffix_foldl cs
  have hkept : [c].dropWhile (· == '_') = [c] := List.dropWhile_cons_of_neg (by simpa using ne_underscore hc)
  rw [snakeCase, List.foldl_cons, Scan.finish, ← hfront, hfirst, List.dropWhile_append, hkept]
  split <;> simp

lemma Scan.push_congr {s t : Scan} {c : Char} (h : s.written = t.written) (hc : c.isUpper = false) :
    s.push c = t.push c := by
  have hnot : ¬c.isUpper = true := by simp [hc]
  rw [push, push, if_neg hnot, if_neg hnot, h]

lemma snakeCase_toLower {c : Char} {cs : List Char} (hc : c.isUpper = true)
    (hcs : ∀ d ∈ cs.head?, d.isUpper = false) : snakeCase (c.toLower :: cs) = snakeCase (c :: cs) := by
  have hword := isWordChar_toLower hc
  have hfirst : (Scan.start.push c.toLower).written = (Scan.start.push c).written := by
    rw [Scan.push_of_isWordChar hword, Scan.push, if_pos hc]
    rfl
  rw [snakeCase, snakeCase, List.foldl_cons, List.foldl_cons]
  cases cs with
  | nil => rw [List.foldl_nil, List.foldl_nil, Scan.finish, Scan.finish, hfirst]
  | cons d cs => rw [List.foldl_cons, List.foldl_cons, Scan.push_congr hfirst (hcs d rfl)]

lemma ofRaw_eq (raw : String) : ofRaw raw = ⟨String.ofList (snakeCase (base raw))⟩ := rfl

lemma toList_ofRaw (raw : String) : (ofRaw raw).text.toList = snakeCase (base raw) := String.toList_ofList

theorem ofRaw_capitals (raw : String) :
    (ofRaw raw).text.toList.filter Text.isUppercase = (base raw).filter isOtherCapital ∧
    ((∀ c ∈ (ofRaw raw).text.toList, Text.isUppercase c = false) ↔ ∀ c ∈ base raw, isOtherCapital c = false) ∧
    (∀ c rest, base raw = c :: rest → c.isUpper = true → (∀ d ∈ rest.head?, d.isUpper = false) →
      ∀ other, base other = c.toLower :: rest → ofRaw other = ofRaw raw) ∧
    ∀ c rest, base raw = c :: rest → isOtherCapital c = true →
      ∀ other d tail, base other = d :: tail → isWordChar d = true → d ≠ c → ofRaw other ≠ ofRaw raw := by
  have hfilter : (ofRaw raw).text.toList.filter Text.isUppercase = (base raw).filter isOtherCapital := by
    rw [toList_ofRaw, filter_snakeCase]
  refine ⟨hfilter, ?_, ?_, ?_⟩
  · have hnil := congrArg (· = []) hfilter
    simpa [List.filter_eq_nil_iff] using hnil
  · intro c rest hbase hc hrest other hother
    rw [ofRaw_eq, ofRaw_eq, hother, hbase, snakeCase_toLower hc hrest]
  · intro c rest hbase hc other d tail hother hd hne heq
    have hletters : (ofRaw other).text.toList.head? = (ofRaw raw).text.toList.head? := by rw [heq]
    rw [toList_ofRaw, toList_ofRaw, hother, hbase, head?_snakeCase hd,
      head?_snakeCase (isWordChar_of_isOtherCapital hc)] at hletters
    exact hne (Option.some.inj hletters)

theorem ofRaw_capitals_first : base "sim::Rock<u8>" = ['R', 'o', 'c', 'k'] ∧ base "rock" = ['r', 'o', 'c', 'k'] ∧
    ofRaw "rock" = ofRaw "sim::Rock<u8>" ∧ base "sim::Élan" = ['É', 'l', 'a', 'n'] ∧
    base "élan" = ['é', 'l', 'a', 'n'] ∧ ofRaw "élan" ≠ ofRaw "sim::Élan" := by
  have hrock : base "sim::Rock<u8>" = ['R', 'o', 'c', 'k'] := by decide
  have hrock' : base "rock" = ['r', 'o', 'c', 'k'] := by decide
  have helan : base "sim::Élan" = ['É', 'l', 'a', 'n'] := by decide
  have helan' : base "élan" = ['é', 'l', 'a', 'n'] := by decide
  have hnext : ∀ d ∈ ['o', 'c', 'k'].head?, d.isUpper = false := by
    rintro _ ⟨⟩
    decide
  have hsame := (ofRaw_capitals "sim::Rock<u8>").2.2.1 'R' _ hrock (by decide) hnext "rock" hrock'
  have hdiffer := (ofRaw_capitals "sim::Élan").2.2.2 'É' _ helan (by decide +kernel) "élan" 'é' _ helan'
    (by decide +kernel) (by decide)
  exact ⟨hrock, hrock', hsame, helan, helan', hdiffer⟩

theorem ofRaw_capitals_kept : ¬ (∀ raw, ∀ c ∈ (ofRaw raw).text.toList, Text.isUppercase c = false) ∧
    (ofRaw "Élan").text = "Élan" ∧
    ((Store.empty : Store Nat Tokens).applyAll [.spawn (.empty "Élan"), .spawn (.empty "élan")]).archetypeNames =
      [⟨"Élan"⟩, ⟨"élan"⟩] := by
  have htext : (ofRaw "Élan").text = "Élan" := by decide +kernel
  refine ⟨fun hall => ?_, htext, by decide +kernel⟩
  have hcapital : Text.isUppercase 'É' = true := by decide +kernel
  have hnone := hall "Élan" 'É' (by rw [htext]; decide)
  exact Bool.false_ne_true (hnone.symm.trans hcapital)

end ArchetypeName

end ColumnSim
