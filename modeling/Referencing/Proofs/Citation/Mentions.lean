import Referencing.Citation.InText

namespace Referencing.Citation

open Text

theorem append_lastSentenceFrom (backwards after : Text) :
    (lastSentenceFrom backwards after).1 ++ (lastSentenceFrom backwards after).2 =
      backwards.reverse ++ after := by
  induction backwards generalizing after with
  | nil => rfl
  | cons c before ih =>
    simp only [lastSentenceFrom]
    split
    · rfl
    · rw [ih, List.reverse_cons, List.append_assoc, List.singleton_append]

-- Nothing is lost where a text is cut at its last sentence.
theorem append_cutLastSentence (prose : Text) :
    (cutLastSentence prose).1 ++ (cutLastSentence prose).2 = prose := by
  rw [cutLastSentence, append_lastSentenceFrom, List.reverse_reverse, List.append_nil]

theorem eq_append_of_cutBlank? {text blank rest : Text} (h : cutBlank? text = some (blank, rest)) :
    text = blank ++ rest := by
  simp only [cutBlank?] at h
  split at h
  · simp only [Option.some.injEq, Prod.mk.injEq] at h
    rw [← h.1, ← h.2, List.takeWhile_append_dropWhile]
  · simp at h

theorem eq_append_of_cutWord? {word text rest : Text} (h : cutWord? word text = some rest) :
    text = word ++ rest := by
  simp only [cutWord?] at h
  split at h
  · next hprefix =>
    simp only [Option.some.injEq] at h
    rw [← h]
    exact (List.prefix_iff_eq_append.1 (List.isPrefixOf_iff_prefix.1 hprefix)).symm
  · simp at h

theorem getD_isPrefix {text : Text} {found : Option Text} (h : ∀ part ∈ found, part <+: text) :
    found.getD [] <+: text := by
  cases found with
  | none => exact List.nil_prefix
  | some part => exact h part rfl

theorem etAlAt_isPrefix (text : Text) : etAlAt text <+: text := by
  refine getD_isPrefix fun found hfound => ?_
  simp only [Option.mem_def, Option.bind_eq_bind, Option.bind_eq_some_iff] at hfound
  obtain ⟨⟨first, afterFirst⟩, hfirst, afterEt, het, ⟨second, afterSecond⟩, hsecond, rest, hal,
    hsome⟩ := hfound
  rw [Option.some.injEq] at hsome
  dsimp only at het hal hsome
  refine ⟨rest, ?_⟩
  rw [eq_append_of_cutBlank? hfirst, eq_append_of_cutWord? het, eq_append_of_cutBlank? hsecond,
    eq_append_of_cutWord? hal, ← hsome]
  simp only [List.append_assoc]

theorem possessiveAt_isPrefix (text : Text) : possessiveAt text <+: text := by
  refine getD_isPrefix fun found hfound => ?_
  have hprefix := List.find?_some hfound
  exact List.isPrefixOf_iff_prefix.1 hprefix

-- A mention begins with the name, and is where it was looked for.
theorem isPrefix_of_mentionAt {name before text mention : Text}
    (h : mentionAt name before text = some mention) : name <+: mention ∧ mention <+: text := by
  simp only [mentionAt] at h
  split at h
  · next hname =>
    rw [Option.some.injEq] at h
    simp only [Bool.and_eq_true, List.isPrefixOf_iff_prefix] at hname
    have htext := List.prefix_iff_eq_append.1 hname.1.1
    have hafter := List.prefix_iff_eq_append.1 (etAlAt_isPrefix (text.drop name.length))
    obtain ⟨rest, hrest⟩ := possessiveAt_isPrefix
      ((text.drop name.length).drop (etAlAt (text.drop name.length)).length)
    rw [← h, List.append_assoc]
    refine ⟨List.prefix_append _ _, rest, ?_⟩
    rw [List.append_assoc, List.append_assoc, hrest, hafter, htext]
  · simp at h

-- A mention of the name stands in the sentence where it says.
structure Mention.IsAt (mention : Mention) (name sentence : Text) : Prop where
  found : mentionAt name mention.before (mention.text ++ mention.after) = some mention.text
  cuts : mention.before ++ mention.text ++ mention.after = sentence

theorem isAt_of_lastMentionFrom {name before : Text} {skip : Nat} {found : Option Mention}
    {text : Text} {mention : Mention}
    (hfound : ∀ mention ∈ found, mention.IsAt name (before ++ text))
    (h : lastMentionFrom name before skip found text = some mention) :
    mention.IsAt name (before ++ text) := by
  induction text generalizing before skip found with
  | nil => exact hfound mention h
  | cons c rest ih =>
    have hsplit : before ++ c :: rest = before ++ [c] ++ rest := by simp
    rw [hsplit] at hfound ⊢
    cases skip with
    -- A character of the mention found last: no new one begins here.
    | succ skip => exact ih hfound h
    | zero =>
      simp only [lastMentionFrom] at h
      split at h
      · next next hnext =>
        refine ih ?_ h
        intro mention hmention
        obtain ⟨-, after, hafter⟩ := isPrefix_of_mentionAt hnext
        rw [Option.mem_some_iff] at hmention
        rw [← hmention, ← hsplit, ← hafter, List.drop_left]
        exact ⟨hafter ▸ hnext, List.append_assoc _ _ _⟩
      · exact ih hfound h

theorem isAt_of_findMention {sentence surname : Text} {mention : Mention}
    (h : findMention sentence surname = some mention) :
    trim surname ≠ [] ∧ mention.IsAt (trim surname) sentence := by
  simp only [findMention] at h
  split at h
  · simp at h
  · next hname => exact ⟨hname, isAt_of_lastMentionFrom (by simp) h⟩

-- Where a mention was found: it cuts the sentence, and begins with the name.
def Mention.Cuts (mention : Mention) (name sentence : Text) : Prop :=
  mention.before ++ mention.text ++ mention.after = sentence ∧ name <+: mention.text

theorem Mention.IsAt.isCut {mention : Mention} {name sentence : Text}
    (h : mention.IsAt name sentence) : mention.Cuts name sentence :=
  ⟨h.cuts, (isPrefix_of_mentionAt h.found).1⟩

-- A mention that was found stands in the sentence and begins with the surname.
theorem cuts_of_findMention {sentence surname : Text} {mention : Mention}
    (h : findMention sentence surname = some mention) :
    trim surname ≠ [] ∧ mention.Cuts (trim surname) sentence :=
  (isAt_of_findMention h).imp_right Mention.IsAt.isCut

end Referencing.Citation
