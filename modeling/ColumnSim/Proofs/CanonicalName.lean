import ColumnSim.Proofs.SnakeCase

/-! Canonical names: the form that normalization gives to every name, and the parts of a raw name that do not count. -/

namespace ColumnSim.ArchetypeName

structure Canonical (name : List Char) : Prop where
  chars : ∀ c ∈ name, Text.isAlphanumeric c = true ∨ c = '_'
  not_upper : ∀ c ∈ name, c.isUpper = false
  head : name.head? ≠ some '_'
  last : name.getLast? ≠ some '_'
  single : ¬ ['_', '_'] <:+: name

namespace Words

variable {out : List Char}

lemma getLast?_ne_underscore (h : Words out) : out.getLast? ≠ some '_' := by
  induction h with
  | nil => simp
  | @char c out hc _ ih =>
    cases out with
    | nil => simpa using ne_underscore hc
    | cons d out => rwa [List.getLast?_cons_cons]
  | underscore _ _ ih => rwa [List.getLast?_cons_cons]

lemma not_doubled (h : Words out) : ¬ ['_', '_'] <:+: out := by
  induction h with
  | nil => simp
  | char hc _ ih =>
    rw [List.infix_cons_iff, not_or, List.cons_prefix_cons, not_and]
    exact ⟨fun he => absurd he.symm (ne_underscore hc), ih⟩
  | underscore hc _ ih =>
    rw [List.infix_cons_iff, not_or, List.cons_prefix_cons, List.cons_prefix_cons]
    exact ⟨fun h => ne_underscore hc h.2.1.symm, ih⟩

lemma canonical (h : Words out) (hhead : out.head? ≠ some '_') : Canonical out.reverse where
  chars c hc := by
    refine (h.chars c (List.mem_reverse.1 hc)).imp_left fun hw => ?_
    exact ((Bool.and_eq_true _ _).mp hw).1
  not_upper c hc := by
    rcases h.chars c (List.mem_reverse.1 hc) with hw | rfl
    · simpa using ((Bool.and_eq_true _ _).mp hw).2
    · decide
  head := by rw [List.head?_reverse]; exact h.getLast?_ne_underscore
  last := by rwa [List.getLast?_reverse]
  single hs := h.not_doubled (List.reverse_infix.1 hs)

end Words

lemma canonical_ofRaw (raw : String) : Canonical (ofRaw raw).text.toList := by
  obtain ⟨out, hout, hw, hhead⟩ := exists_words (lastSegment (withoutArguments raw.toList))
  rw [ofRaw, String.toList_ofList, hout]
  exact hw.canonical hhead

lemma untilPath_append (cs path : List Char) : untilPath cs = untilPath (cs ++ ':' :: ':' :: path) ∨
    untilPath cs = untilPath (cs ++ ':' :: ':' :: path) ++ [':'] := by
  induction cs using untilPath.induct with
  | case1 cs => exact .inl rfl
  | case2 c cs hpath ih =>
    by_cases hcolon : c = ':' ∧ cs = []
    · obtain ⟨rfl, rfl⟩ := hcolon
      exact .inr rfl
    · have hnext : ∀ rest, c = ':' → cs ++ ':' :: ':' :: path = ':' :: rest → False := by
        intro rest hc he
        cases cs with
        | nil => exact hcolon ⟨hc, rfl⟩
        | cons d cs => exact hpath cs hc (congrArg (· :: cs) (List.cons.inj he).1)
      rw [List.cons_append, untilPath.eq_2 c cs hpath, untilPath.eq_2 c _ hnext, List.cons_append]
      exact ih.imp (congrArg (c :: ·)) (congrArg (c :: ·))
  | case3 => exact .inl rfl

lemma lastSegment_append (path name : List Char) : lastSegment name = lastSegment (path ++ ':' :: ':' :: name) ∨
    lastSegment name = ':' :: lastSegment (path ++ ':' :: ':' :: name) := by
  have hreverse : (path ++ ':' :: ':' :: name).reverse = name.reverse ++ ':' :: ':' :: path.reverse := by simp
  rw [lastSegment, lastSegment, hreverse]
  refine (untilPath_append name.reverse path.reverse).imp (congrArg List.reverse) fun h => ?_
  rw [h, List.reverse_append]
  rfl

lemma snakeCase_colon (cs : List Char) : snakeCase (':' :: cs) = snakeCase cs := by
  have hstart : Scan.start.push ':' = Scan.start := by
    rw [Scan.push, if_neg (by decide), if_neg (by decide +kernel)]
    rfl
  rw [snakeCase, List.foldl_cons, hstart, snakeCase]

lemma snakeCase_lastSegment_append (path name : List Char) :
    snakeCase (lastSegment (path ++ ':' :: ':' :: name)) = snakeCase (lastSegment name) := by
  rcases lastSegment_append path name with h | h
  · rw [h]
  · rw [h, snakeCase_colon]

lemma withoutArguments_append {cs : List Char} (h : '<' ∉ cs) (ds : List Char) :
    withoutArguments (cs ++ ds) = cs ++ withoutArguments ds :=
  List.takeWhile_append_of_pos fun c hc => by simpa using fun he : c = '<' => h (he ▸ hc)

lemma ofRaw_path {path : String} (h : '<' ∉ path.toList) (name : String) :
    ofRaw (path ++ "::" ++ name) = ofRaw name := by
  have hlist : (path ++ "::" ++ name).toList = path.toList ++ ':' :: ':' :: name.toList := by simp
  have hcolons : withoutArguments (':' :: ':' :: name.toList) = ':' :: ':' :: withoutArguments name.toList :=
    @withoutArguments_append [':', ':'] (by decide) name.toList
  rw [ofRaw, ofRaw, hlist, withoutArguments_append h, hcolons, snakeCase_lastSegment_append]

lemma ofRaw_arguments {name : String} (h : '<' ∉ name.toList) (arguments : String) :
    ofRaw (name ++ "<" ++ arguments) = ofRaw name := by
  have hlist : (name ++ "<" ++ arguments).toList = name.toList ++ '<' :: arguments.toList := by simp
  have hnone : withoutArguments ('<' :: arguments.toList) = [] := rfl
  rw [ofRaw, ofRaw, hlist, withoutArguments_append h, hnone, List.append_nil, withoutArguments_eq_self h]

theorem ofRaw_canonical (raw : String) : Canonical (ofRaw raw).text.toList ∧ ofRaw (ofRaw raw).text = ofRaw raw ∧
    (∀ path : String, '<' ∉ path.toList → ofRaw (path ++ "::" ++ raw) = ofRaw raw) ∧
    ('<' ∉ raw.toList → ∀ arguments : String, ofRaw (raw ++ "<" ++ arguments) = ofRaw raw) :=
  ⟨canonical_ofRaw raw, ofRaw_text raw, fun _ h => ofRaw_path h raw, fun h => ofRaw_arguments h⟩

theorem ofRaw_canonical_colons : (ofRaw ":GpsSensor_2D_").text = "gps_sensor_2_d" ∧
    ¬ ['_', '_'] <:+: "gps_sensor_2_d".toList ∧ '<' ∉ "my_sim".toList ∧
    ofRaw ("my_sim" ++ "::" ++ ":GpsSensor_2D_") = ofRaw ":GpsSensor_2D_" ∧ '<' ∉ ":GpsSensor_2D_".toList ∧
    ofRaw (":GpsSensor_2D_" ++ "<" ++ "a::B<f64>>") = ofRaw ":GpsSensor_2D_" := by
  have htext : (ofRaw ":GpsSensor_2D_").text = "gps_sensor_2_d" := by decide +kernel
  obtain ⟨hcanonical, _, hpath, harguments⟩ := ofRaw_canonical ":GpsSensor_2D_"
  rw [htext] at hcanonical
  exact ⟨htext, hcanonical.single, by decide, hpath "my_sim" (by decide), by decide, harguments (by decide) _⟩

end ColumnSim.ArchetypeName
