import SmartBuilding.Mqtt.Topic

/-!
# `SmartBuilding.Proofs.Topic`: which topics a filter of the client matches

The matcher goes over both strings byte by byte. Between two separators it compares a word, or
skips a level. So the proof is an induction on the patterns of the filter, with one lemma for
each kind of pattern (`isTopicMatched_word`, `isTopicMatched_single`, `isTopicMatched_multi`).

A wildcard of the filter meets at least one byte. This is where the client differs from the
protocol (`isTopicMatched_iff`): a wildcard does not match an empty level, and `#` does not
match the level above it.
-/

set_option autoImplicit false

namespace SmartBuilding

open TopicFilter

/-- A level has no separator in it. -/
def TopicLevel (n : List UInt8) : Prop := ∀ c ∈ n, c ≠ mqttMarks.sep

theorem skipLevel_append {n t : List UInt8} (hn : TopicLevel n)
    (ht : t = [] ∨ ∃ s, t = mqttMarks.sep :: s) : skipLevel (n ++ t) = t := by
  induction n with
  | nil =>
    rcases ht with rfl | ⟨s, rfl⟩
    · rfl
    · rw [List.nil_append, skipLevel, if_pos rfl]
  | cons c n ih =>
    rw [List.cons_append, skipLevel, if_neg (hn c List.mem_cons_self)]
    exact ih fun d hd => hn d (List.mem_cons_of_mem c hd)

/-- A word of the filter against a level of the topic. -/
theorem isTopicMatched_word {w n g t : List UInt8} (hw : Plain mqttMarks w) (hn : TopicLevel n)
    (hg : g = [] ∨ ∃ s, g = mqttMarks.sep :: s) (ht : t = [] ∨ ∃ s, t = mqttMarks.sep :: s) :
    isTopicMatched (w ++ g) (n ++ t) = (decide (w = n) && isTopicMatched g t) := by
  induction w generalizing n with
  | nil =>
    cases n with
    | nil => rfl
    | cons c n =>
      have hc : c ≠ mqttMarks.sep := hn c List.mem_cons_self
      rcases hg with rfl | ⟨g, rfl⟩
      · rfl
      · -- A separator of the filter against another byte.
        have hne : mqttMarks.sep ≠ c := fun h => hc h.symm
        rw [List.nil_append, List.cons_append, isTopicMatched, if_neg fun h => hc h.1,
          if_pos ⟨by decide, by decide, hne⟩]
        rfl
  | cons d w ih =>
    obtain ⟨hsep, hplus, hhash⟩ := hw d List.mem_cons_self
    have hw' : Plain mqttMarks w := fun c hc => hw c (List.mem_cons_of_mem d hc)
    cases n with
    | nil =>
      rcases ht with rfl | ⟨t, rfl⟩
      · rfl
      · rw [List.cons_append, List.nil_append, isTopicMatched, if_pos ⟨rfl, hsep⟩]
        rfl
    | cons c n =>
      have hc : c ≠ mqttMarks.sep := hn c List.mem_cons_self
      have hn' : TopicLevel n := fun e he => hn e (List.mem_cons_of_mem c he)
      rw [List.cons_append, List.cons_append, isTopicMatched, if_neg fun h => hc h.1]
      by_cases hdc : d = c
      · subst hdc
        rw [if_neg fun h => h.2.2 rfl, if_neg hplus, if_neg hhash, ih hw' hn']
        simp
      · rw [if_pos ⟨hplus, hhash, hdc⟩]
        simp [hdc]

/-- The separators behind a level. -/
theorem isTopicMatched_sep (g t : List UInt8) :
    isTopicMatched (mqttMarks.sep :: g) (mqttMarks.sep :: t) = isTopicMatched g t := by
  rw [isTopicMatched, if_neg fun h => h.2 rfl, if_neg fun h => h.2.2 rfl, if_neg (by decide),
    if_neg (by decide)]

/-- The wildcard for one level against a level. -/
theorem isTopicMatched_single {n g t : List UInt8} (hn : TopicLevel n)
    (ht : t = [] ∨ ∃ s, t = mqttMarks.sep :: s) :
    isTopicMatched (mqttMarks.plus :: g) (n ++ t) = (decide (n ≠ []) && isTopicMatched g t) := by
  cases n with
  | nil =>
    rcases ht with rfl | ⟨t, rfl⟩
    · rfl
    · rw [List.nil_append, isTopicMatched, if_pos ⟨rfl, by decide⟩]
      rfl
  | cons c n =>
    have hc : c ≠ mqttMarks.sep := hn c List.mem_cons_self
    rw [List.cons_append, isTopicMatched, if_neg fun h => hc h.1, if_neg fun h => h.1 rfl,
      if_pos rfl, skipLevel_append (fun d hd => hn d (List.mem_cons_of_mem c hd)) ht]
    rfl

/-- The wildcard for the rest against what is left of the topic. -/
theorem isTopicMatched_multi {n t : List UInt8} (hn : TopicLevel n)
    (ht : t = [] ∨ ∃ s, t = mqttMarks.sep :: s) :
    isTopicMatched [mqttMarks.hash] (n ++ t) = decide (n ≠ []) := by
  cases n with
  | nil =>
    rcases ht with rfl | ⟨t, rfl⟩
    · rfl
    · rw [List.nil_append, isTopicMatched, if_pos ⟨rfl, by decide⟩]
      rfl
  | cons c n =>
    have hc : c ≠ mqttMarks.sep := hn c List.mem_cons_self
    rw [List.cons_append, isTopicMatched, if_neg fun h => hc h.1, if_neg fun h => h.2.1 rfl,
      if_neg (by decide), if_pos rfl]
    rfl

/-- What is behind a level of the filter against what is behind a level of the topic. -/
theorem isTopicMatched_behind {fs : List (Pattern UInt8)} {ns : List (List UInt8)}
    (h : fs ≠ [] → ns ≠ [] →
      (isTopicMatched (render mqttMarks fs) (joinLevels mqttMarks.sep ns) ↔
        Matches fs ns ∧ Filled fs ns)) :
    isTopicMatched (behind mqttMarks.sep (fs.map (Pattern.render mqttMarks)))
        (behind mqttMarks.sep ns) ↔ Matches fs ns ∧ Filled fs ns := by
  cases fs with
  | nil =>
    cases ns with
    | nil => simp [behind, isTopicMatched, Matches, Filled]
    | cons n ns => simp [behind, isTopicMatched, Matches]
  | cons f fs =>
    cases ns with
    | nil =>
      -- The topic is at its end, and a wildcard for the rest is left or nothing matches.
      have hno : ¬ (Matches (f :: fs) ([] : List (List UInt8)) ∧ Filled (f :: fs) []) := by
        cases f with
        | word w => exact fun h => h.1
        | single => exact fun h => h.1
        | multi =>
          rintro ⟨-, n, rest, heq, -⟩
          cases heq
      refine iff_of_false ?_ hno
      exact Bool.false_ne_true
    | cons n ns =>
      show isTopicMatched (mqttMarks.sep :: _) (mqttMarks.sep :: _) ↔ _
      rw [isTopicMatched_sep]
      exact h (List.cons_ne_nil _ _) (List.cons_ne_nil _ _)

/-- A filter in the correct format matches a topic in the client exactly when it matches in the
protocol, and the levels opposite its wildcards are not empty. -/
theorem isTopicMatched_iff (fs : List (Pattern UInt8)) (ns : List (List UInt8))
    (hfs : WellFormed mqttMarks fs) (hne : fs ≠ []) (hns : ∀ n ∈ ns, TopicLevel n) (hnn : ns ≠ []) :
    isTopicMatched (render mqttMarks fs) (joinLevels mqttMarks.sep ns) ↔
      Matches fs ns ∧ Filled fs ns := by
  induction fs generalizing ns with
  | nil => exact absurd rfl hne
  | cons f fs ih =>
    obtain ⟨n, ns, rfl⟩ := List.exists_cons_of_ne_nil hnn
    have hn : TopicLevel n := hns n List.mem_cons_self
    have hns' : ∀ m ∈ ns, TopicLevel m := fun m hm => hns m (List.mem_cons_of_mem n hm)
    have hbehind := behind_cases mqttMarks.sep ns
    rw [render_cons, joinLevels_cons]
    cases f with
    | word w =>
      have hrest := isTopicMatched_behind fun h h' => ih ns hfs.2 h hns' h'
      rw [Pattern.render, isTopicMatched_word hfs.1 hn (behind_cases _ _) hbehind,
        Bool.and_eq_true, decide_eq_true_iff, hrest]
      show _ ↔ (w = n ∧ Matches fs ns) ∧ Filled fs ns
      rw [and_assoc]
    | single =>
      have hrest := isTopicMatched_behind fun h h' => ih ns hfs h hns' h'
      rw [Pattern.render, List.singleton_append, isTopicMatched_single hn hbehind,
        Bool.and_eq_true, decide_eq_true_iff, hrest]
      show _ ↔ Matches fs ns ∧ n ≠ [] ∧ Filled fs ns
      rw [and_left_comm]
    | multi =>
      obtain rfl : fs = [] := hfs
      rw [Pattern.render, List.map_nil, behind, List.append_nil, isTopicMatched_multi hn hbehind,
        decide_eq_true_iff]
      show _ ↔ True ∧ ∃ m rest, n :: ns = m :: rest ∧ m ≠ []
      constructor
      · intro h
        exact ⟨trivial, n, ns, rfl, h⟩
      · rintro ⟨-, m, rest, heq, hm⟩
        obtain ⟨rfl, -⟩ := List.cons.inj heq
        exact hm

/-- The filter `sensor/+/#` matches the topic `sensor/a/b`, and not the topic `sensor/a`, which
it matches in the protocol. -/
theorem isTopicMatched_sensor :
    isTopicMatched (render mqttMarks [.word (CText.ofText "sensor"), .single, .multi])
        (joinLevels mqttMarks.sep [CText.ofText "sensor", [97], [98]]) ∧
      ¬ isTopicMatched (render mqttMarks [.word (CText.ofText "sensor"), .single, .multi])
        (joinLevels mqttMarks.sep [CText.ofText "sensor", [97]]) ∧
      Matches [.word (CText.ofText "sensor"), .single, .multi] [CText.ofText "sensor", [97]] := by
  have hwell : WellFormed mqttMarks [.word (CText.ofText "sensor"), .single, .multi] := by
    refine ⟨?_, rfl⟩
    show ∀ c ∈ _, c ≠ 47 ∧ c ≠ 43 ∧ c ≠ 35
    decide +kernel
  have hlevel : ∀ n ∈ [CText.ofText "sensor", [97], [98]], TopicLevel n := by
    show ∀ n ∈ _, ∀ c ∈ n, c ≠ 47
    decide +kernel
  have hlevel' : ∀ n ∈ [CText.ofText "sensor", [97]], TopicLevel n := by
    show ∀ n ∈ _, ∀ c ∈ n, c ≠ 47
    decide +kernel
  refine ⟨?_, ?_, rfl, trivial⟩
  · refine (isTopicMatched_iff _ _ hwell (List.cons_ne_nil _ _) hlevel
      (List.cons_ne_nil _ _)).mpr ⟨⟨rfl, trivial⟩, List.cons_ne_nil _ _, [98], [], rfl, ?_⟩
    exact List.cons_ne_nil _ _
  · intro h
    obtain ⟨-, -, n, rest, heq, -⟩ := (isTopicMatched_iff _ _ hwell (List.cons_ne_nil _ _)
      hlevel' (List.cons_ne_nil _ _)).mp h
    cases heq

/-- A filter without wildcards matches one topic. -/
theorem isTopicMatched_literal {f : List UInt8}
    (hf : ∀ c ∈ f, c ≠ mqttMarks.plus ∧ c ≠ mqttMarks.hash) (t : List UInt8) :
    isTopicMatched f t = decide (t = f) := by
  induction f generalizing t with
  | nil => cases t <;> rfl
  | cons c f ih =>
    obtain ⟨hplus, hhash⟩ := hf c List.mem_cons_self
    have hf' : ∀ d ∈ f, d ≠ mqttMarks.plus ∧ d ≠ mqttMarks.hash :=
      fun d hd => hf d (List.mem_cons_of_mem c hd)
    cases t with
    | nil => rfl
    | cons d t =>
      rw [isTopicMatched]
      by_cases hdc : d = c
      · subst hdc
        rw [if_neg fun h => h.2 h.1, if_neg fun h => h.2.2 rfl, if_neg hplus, if_neg hhash, ih hf']
        simp
      · have hno : decide (d :: t = c :: f) = false := by simp [hdc]
        rw [hno]
        by_cases hbreak : d = mqttMarks.sep ∧ c ≠ mqttMarks.sep
        · rw [if_pos hbreak]
        · rw [if_neg hbreak, if_pos ⟨hplus, hhash, fun h => hdc h.symm⟩]

/-- A handler whose filter has no wildcards gets the messages of one topic. -/
theorem handlerMatches_literal {f : List UInt8}
    (hf : ∀ c ∈ f, c ≠ mqttMarks.plus ∧ c ≠ mqttMarks.hash) (t : List UInt8) :
    handlerMatches f t = decide (t = f) := by
  rw [handlerMatches, mqttPacketEquals, isTopicMatched_literal hf, Bool.or_self]

end SmartBuilding
