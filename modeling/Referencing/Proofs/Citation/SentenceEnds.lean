import Referencing.Proofs.Citation.Mentions
import Referencing.Proofs.Text.Trimmed

namespace Referencing.Citation

open Text

-- "et al." with the white space before it and in it.
structure EtAl where
  lead : Text
  gap : Text
  lead_ne_nil : lead ≠ [] := by decide
  gap_ne_nil : gap ≠ [] := by decide
  lead_blank : isBlankText lead := by decide
  gap_blank : isBlankText gap := by decide

-- Up to its full stop.
def EtAl.stem (tail : EtAl) : Text :=
  tail.lead ++ "et".toList ++ tail.gap ++ "al".toList

def EtAl.text (tail : EtAl) : Text :=
  tail.stem ++ ['.']

section Cutting

theorem prefix_append_cons_iff {part left : Text} {c : Char} (right : Text) (h : c ∉ part) :
    part <+: left ++ c :: right ↔ part <+: left := by
  induction left generalizing part with
  | nil =>
    cases part with
    | nil => simp
    | cons first part =>
      have hne : first ≠ c := fun same => h (same ▸ List.mem_cons_self)
      simp [List.cons_prefix_cons, hne]
  | cons d left ih =>
    cases part with
    | nil => simp
    | cons first part =>
      rw [List.cons_append, List.cons_prefix_cons, List.cons_prefix_cons,
        ih fun hmem => h (List.mem_cons_of_mem _ hmem)]

-- A mark looks back no further than a character that "et al" does not have.
theorem endsSentence_append (backwards earlier after : Text) {c mark : Char}
    (h : c ∉ "et al".toList) :
    endsSentence (backwards ++ c :: earlier) mark after = endsSentence backwards mark after := by
  rw [Bool.eq_iff_iff, endsSentence_iff, endsSentence_iff,
    prefix_append_cons_iff earlier fun hmem => h (List.mem_reverse.1 hmem)]

-- The search goes on to the left of such a character only if no sentence ends to the right.
theorem lastSentenceFrom_append (backwards earlier after : Text) {c : Char}
    (h : c ∉ "et al".toList) :
    (lastSentenceFrom (backwards ++ c :: earlier) after).1 =
      if (lastSentenceFrom backwards after).1 = [] then
        (lastSentenceFrom (c :: earlier) (backwards.reverse ++ after)).1
      else earlier.reverse ++ c :: (lastSentenceFrom backwards after).1 := by
  induction backwards generalizing after with
  | nil => simp [lastSentenceFrom]
  | cons mark backwards ih =>
    rw [List.cons_append, lastSentenceFrom, lastSentenceFrom, endsSentence_append _ _ _ h]
    split
    · simp
    · rw [ih, List.reverse_cons, List.append_assoc, List.singleton_append]

theorem lastSentenceFrom_isPrefix (backwards after : Text) :
    (lastSentenceFrom backwards after).1 <+: backwards.reverse := by
  induction backwards generalizing after with
  | nil => exact List.prefix_rfl
  | cons c backwards ih =>
    rw [lastSentenceFrom]
    split
    · exact List.prefix_rfl
    · rw [List.reverse_cons]
      exact (ih _).trans (List.prefix_append _ _)

-- The last sentence begins after a mark if the mark ends a sentence and none ends later.
theorem cutLastSentence_eq_iff (left right : Text) {mark : Char} (h : mark ∉ "et al".toList) :
    (cutLastSentence (left ++ mark :: right)).1 = left ++ [mark] ↔
      (cutLastSentence right).1 = [] ∧ endsSentence left.reverse mark right := by
  have hcut : (cutLastSentence (left ++ mark :: right)).1 =
      if (cutLastSentence right).1 = [] then (lastSentenceFrom (mark :: left.reverse) right).1
      else left ++ mark :: (cutLastSentence right).1 := by
    have happend := lastSentenceFrom_append right.reverse left.reverse [] h
    rw [List.append_nil, List.reverse_reverse, List.reverse_reverse] at happend
    rw [cutLastSentence, List.reverse_append, List.reverse_cons, List.append_assoc,
      List.singleton_append, happend, cutLastSentence]
  rw [hcut]
  split
  · next hlater =>
    rw [lastSentenceFrom]
    split
    · next hends => simp [hlater, hends]
    · next hends =>
      -- The cut is then made inside the part on the left.
      have hlength := (lastSentenceFrom_isPrefix left.reverse (mark :: right)).length_le
      rw [List.reverse_reverse] at hlength
      simp only [hlater, hends, Bool.false_eq_true, and_false, iff_false]
      intro heq
      rw [heq, List.length_append, List.length_singleton] at hlength
      omega
  · next hlater => simp [hlater]

theorem sentenceStart_eq_zero_iff {prose : Text} :
    sentenceStart prose = 0 ↔ (cutLastSentence prose).1 = [] :=
  size_eq_zero_iff

end Cutting

section Tail

-- Only one plain blank makes "et al" what the text before a mark is compared with.
theorem EtAl.suffix_stem_iff (tail : EtAl) (before : Text) :
    "et al".toList <:+ before ++ tail.stem ↔ tail.gap = [' '] := by
  constructor
  · rintro ⟨front, hfront⟩
    have hend : front ++ "et".toList ++ [' '] =
        before ++ tail.lead ++ "et".toList ++ tail.gap := by
      have hstem : front ++ "et".toList ++ [' '] ++ "al".toList =
          before ++ tail.lead ++ "et".toList ++ tail.gap ++ "al".toList := by
        simpa [EtAl.stem] using hfront
      exact List.append_cancel_right hstem
    -- Without the white space at their ends both sides end in "et".
    have hblank : ∀ c ∈ [' '], isBlank c := List.forall_mem_singleton.2 (by decide)
    have hword : ∀ text : Text, trimEnd (text ++ "et".toList) = text ++ "et".toList :=
      fun text => trimEnd_eq_self (by simp; decide)
    have htrim := congrArg trimEnd hend
    rw [trimEnd_append _ hblank, trimEnd_append _ (List.all_eq_true.1 tail.gap_blank), hword, hword]
      at htrim
    rw [htrim] at hend
    exact (List.append_cancel_left hend).symm
  · intro h
    exact ⟨before ++ tail.lead, by simp [EtAl.stem, h]⟩

end Tail

-- The full stop of "et al." after a name is taken for the end of a sentence exactly if anything
-- but one plain blank stands in it, white space follows, and no sentence ends later.
theorem sentenceStart_eq_afterTail_iff {prose surname : Text} {mention : Mention} {tail : EtAl}
    (hmention : findMention prose surname = some mention)
    (htail : trim surname ++ tail.text <+: mention.text) :
    ∃ rest, mention.before ++ trim surname ++ tail.text ++ rest = prose ∧
      (sentenceStart prose = size (mention.before ++ trim surname ++ tail.text) ↔
        tail.gap ≠ [' '] ∧ rest.head?.any isBlank = true ∧ sentenceStart rest = 0) := by
  obtain ⟨ending, hending⟩ := htail
  have hcuts := (cuts_of_findMention hmention).2.1
  rw [← hending] at hcuts
  have hprose : mention.before ++ trim surname ++ tail.stem ++ '.' :: (ending ++ mention.after) =
      prose := by
    rw [← hcuts]
    simp [EtAl.text]
  have htext : mention.before ++ trim surname ++ tail.text =
      mention.before ++ trim surname ++ tail.stem ++ ['.'] := by
    simp [EtAl.text]
  refine ⟨ending ++ mention.after, by rw [htext, ← hprose]; simp, ?_⟩
  have hsize : sentenceStart prose = size (mention.before ++ trim surname ++ tail.text) ↔
      (cutLastSentence prose).1 = mention.before ++ trim surname ++ tail.text := by
    refine ⟨fun h => eq_of_size_eq ⟨_, append_cutLastSentence prose⟩ ?_ h, fun h => ?_⟩
    · exact ⟨ending ++ mention.after, by rw [htext, ← hprose]; simp⟩
    · rw [sentenceStart, h]
  rw [hsize, htext, ← hprose, cutLastSentence_eq_iff _ _ (by decide), endsSentence_iff,
    List.reverse_prefix, tail.suffix_stem_iff, sentenceStart_eq_zero_iff]
  constructor
  · rintro ⟨hlater, -, hblank, hgap⟩
    exact ⟨hgap, hblank, hlater⟩
  · rintro ⟨hgap, hblank, hlater⟩
    exact ⟨hlater, .inl rfl, hblank, hgap⟩

-- A line break between the words is no matter where the possessive ending follows, as the full
-- stop then has no white space after it.
theorem sentenceStart_before_possessive :
    let prose := "As Doe says. In Smith et\nal.'s view ".toList
    let tail : EtAl := { lead := [' '], gap := ['\n'] }
    ∃ mention, findMention prose "Smith".toList = some mention ∧
      trim "Smith".toList ++ tail.text <+: mention.text ∧
      sentenceStart prose ≠ size (mention.before ++ trim "Smith".toList ++ tail.text) := by
  intro prose tail
  have hmention : findMention prose "Smith".toList =
      some ⟨"As Doe says. In ".toList, "Smith et\nal.'s".toList, " view ".toList⟩ := by
    decide +kernel
  have htail : trim "Smith".toList ++ tail.text <+: "Smith et\nal.'s".toList := by decide
  refine ⟨_, hmention, htail, fun hstart => ?_⟩
  obtain ⟨rest, hrest, hiff⟩ := sentenceStart_eq_afterTail_iff hmention htail
  obtain ⟨-, hblank, -⟩ := hiff.1 hstart
  have hview : rest = "'s view ".toList := by
    have hsplit : prose = "As Doe says. In ".toList ++ trim "Smith".toList ++ tail.text ++
        "'s view ".toList := by decide
    exact List.append_cancel_left (hrest.trans hsplit)
  rw [hview] at hblank
  exact absurd hblank (by decide)

-- A no-break space between the words: the sentence that mentions the name is taken to begin after
-- the mention.
theorem sentenceStart_after_no_break_space :
    let prose := "Smith et\u00a0al. argue ".toList
    let tail : EtAl := { lead := [' '], gap := ['\u00a0'] }
    findMention prose "Smith".toList = some ⟨[], "Smith".toList ++ tail.text, " argue ".toList⟩ ∧
      sentenceStart prose = size ("Smith".toList ++ tail.text) := by
  decide +kernel

end Referencing.Citation
