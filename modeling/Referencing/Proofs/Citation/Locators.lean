import Referencing.Proofs.Citation.Mentions
import Referencing.Proofs.Citation.Prose

namespace Referencing.Citation

open Text Markup

variable {source : Source} {state : Disambiguation} {format : Format}

theorem mentionEnd_eq_some {around : Surroundings} {resource : Resource} {place : Nat}
    (h : mentionEnd around resource = some place) :
    ∃ surname mention, leadSurname resource = some surname ∧
      findMention around.sentence surname = some mention ∧
      place = around.earlier.length + mention.before.length + mention.text.length := by
  simp only [mentionEnd, Option.map_eq_some_iff, Option.bind_eq_some_iff] at h
  obtain ⟨mention, ⟨surname, hsurname, hmention⟩, hplace⟩ := h
  exact ⟨surname, mention, hsurname, hmention, hplace.symm⟩

-- The prose of a passage up to a cut, and the same with the locators in it.
def reachedBy (before : List Cut) (cut : Cut) : Text :=
  (before ++ [cut]).flatMap (·.prose)

def writtenBefore (format : Format) (before : List Cut) (cut : Cut) : Text :=
  before.flatMap (Cut.written format) ++ cut.prose

-- A locator directly follows a mention in the prose of its own passage: nothing
-- but other locators of the passage stands between the two.
structure FollowsMention (format : Format) (before : List Cut) (cut : Cut) (mention : Text) :
    Prop where
  own : mention <:+ reachedBy before cut
  direct : ∃ head last between, mention.getLast? = some last ∧
    between <:+ before.map (·.splice) ∧
    writtenBefore format before cut =
      head ++ last :: between.flatMap fun splice => format.export splice.text

-- Only locators without prose between them stand at the same place.
theorem exists_between (format : Format) (before : List Cut) (cut : Cut)
    (h : reachedBy before cut ≠ []) :
    ∃ head last between, (reachedBy before cut).getLast? = some last ∧
      between <:+ before.map (·.splice) ∧
      writtenBefore format before cut =
        head ++ last :: between.flatMap fun splice => format.export splice.text := by
  induction before using List.reverseRecOn generalizing cut with
  | nil =>
    have hprose : cut.prose ≠ [] := by simpa [reachedBy] using h
    obtain ⟨head, last, hcut⟩ := List.eq_nil_or_concat cut.prose |>.resolve_left hprose
    exact ⟨head, last, [], by simp [reachedBy, hcut], List.nil_suffix,
      by simp [writtenBefore, hcut]⟩
  | append_singleton before other ih =>
    rcases List.eq_nil_or_concat cut.prose with hprose | ⟨head, last, hprose⟩
    -- Without prose of its own the cut is where the one before it is.
    · have hreached : reachedBy (before ++ [other]) cut = reachedBy before other := by
        simp [reachedBy, hprose]
      rw [hreached] at h ⊢
      obtain ⟨head, last, between, hlast, ⟨rest, hbetween⟩, hwritten⟩ := ih other h
      refine ⟨head, last, between ++ [other.splice], hlast, ⟨rest, ?_⟩, ?_⟩
      · rw [← List.append_assoc, hbetween, List.map_append]
        rfl
      · rw [writtenBefore] at hwritten ⊢
        rw [hprose, List.append_nil, List.flatMap_append, List.flatMap_singleton, Cut.written,
          ← List.append_assoc, hwritten, List.flatMap_append, List.flatMap_singleton,
          List.append_assoc, List.cons_append]
    · refine ⟨(before ++ [other]).flatMap (Cut.written format) ++ head, last, [], ?_,
        List.nil_suffix, by simp [writtenBefore, hprose]⟩
      simp [reachedBy, hprose]

-- The mention ends where the locator stands, so it is in the prose of the passage
-- exactly when it begins there.
theorem followsMention_iff {prose sentences : Text} {mention : Mention} {before : List Cut}
    {cut : Cut} (hne : mention.text ≠ [])
    (h : sentences ++ mention.before ++ mention.text = prose ++ reachedBy before cut) :
    FollowsMention format before cut mention.text ↔
      prose.length ≤ sentences.length + mention.before.length := by
  have hlength := congrArg List.length h
  simp only [List.length_append] at hlength
  constructor
  · intro hfollows
    have hle := hfollows.own.length_le
    omega
  · intro hle
    have hwhole : mention.text <:+ prose ++ reachedBy before cut := ⟨_, h⟩
    have hown : mention.text <:+ reachedBy before cut :=
      List.suffix_of_suffix_length_le hwhole (List.suffix_append _ _) (by omega)
    obtain ⟨head, last, between, hlast, hbetween, hwritten⟩ :=
      exists_between format before cut (hown.ne_nil hne)
    refine ⟨hown, head, last, between, ?_, hbetween, hwritten⟩
    rw [← hlast, List.getLast?_eq_some_getLast hne,
      List.getLast?_eq_some_getLast (hown.ne_nil hne), hown.getLast hne]

-- The mention at whose end the locator of a citation stands. Earlier locators and
-- citations are not in the prose, so only prose is counted.
theorem Passage.Composes.exists_mention {prose : Text} {passage : Passage} {before after : List Cut}
    {cut : Cut} {printed : Printed} (h : passage.Composes source state prose)
    (hcuts : passage.cuts = before ++ cut :: after) (hprinted : printed ∈ passage.printed)
    (hsplice : printed.splice = some cut.splice) :
    printed.variant = .followCreator ∧
      ∃ surname sentences sentence mention,
        leadSurname printed.resource = some surname ∧
        cutLastSentence (prose ++ passage.group.first.textBefore) = (sentences, sentence) ∧
        findMention sentence surname = some mention ∧
        sentences ++ mention.before ++ mention.text = prose ++ reachedBy before cut := by
  have hmoves := h.moved printed hprinted cut.splice hsplice
  obtain ⟨place, hplace, hpassed, hposition⟩ := hmoves.position
  obtain ⟨surname, mention, hsurname, hmention, hend⟩ := mentionEnd_eq_some hplace
  rcases hsentence : cutLastSentence (prose ++ passage.group.first.textBefore) with
    ⟨sentences, sentence⟩
  simp only [surroundings, hsentence] at hmention hend hpassed hposition
  refine ⟨hmoves.variant, surname, sentences, sentence, mention, hsurname, rfl, hmention, ?_⟩
  have hwhole := append_cutLastSentence (prose ++ passage.group.first.textBefore)
  rw [hsentence, ← (cuts_of_findMention hmention).2.1] at hwhole
  have hlength : (sentences ++ mention.before ++ mention.text).length = place := by
    simp only [List.length_append]
    omega
  calc sentences ++ mention.before ++ mention.text
      = (prose ++ passage.group.first.textBefore).take place := by
        rw [← hwhole, ← hlength]
        simp only [← List.append_assoc, List.take_left]
    _ = prose ++ passage.group.first.textBefore.take (place - prose.length) := by
        rw [List.take_append, List.take_of_length_le hpassed]
    _ = prose ++ reachedBy before cut := by
        rw [reachedBy, h.reached before cut after hcuts, hposition]

theorem Passage.export_eq_of_cuts {passage : Passage} {before after : List Cut} {cut : Cut}
    (options : CitationOptions) (format : Format) (h : passage.cuts = before ++ cut :: after) :
    ∃ following, passage.export options format =
      writtenBefore format before cut ++ format.export cut.splice.text ++ following := by
  refine ⟨after.flatMap (Cut.written format) ++ passage.rest ++ passage.bracket options format, ?_⟩
  simp [Passage.export, Passage.written, h, writtenBefore, Cut.written]

-- Every locator that was moved out of a citation stands where a mention of its
-- first creator ends; it is next to that mention in the text exactly when the
-- mention begins in the prose of its own group.
theorem renderDocument_locators (source : Source) (format : Format) (document : Document)
    (session : Session) (h : source.style.citation.mode = .inText) :
    ∃ passages,
      KeepsProse source format document (renderDocument source format document session).2
        passages ∧
      ∀ earlier passage later before cut after,
        passages = earlier ++ passage :: later → passage.cuts = before ++ cut :: after →
        (∃ following, (renderDocument source format document session).2.text =
          earlier.flatMap (Passage.export source.style.citation format) ++
            writtenBefore format before cut ++ format.export cut.splice.text ++ following) ∧
        ∀ printed ∈ passage.printed, printed.splice = some cut.splice →
          printed.variant = .followCreator ∧
          ∃ surname sentences sentence mention,
            leadSurname printed.resource = some surname ∧
            cutLastSentence (proseOf earlier ++ passage.group.first.textBefore) =
              (sentences, sentence) ∧
            findMention sentence surname = some mention ∧
            sentences ++ mention.before ++ mention.text =
              proseOf earlier ++ reachedBy before cut ∧
            (FollowsMention format before cut mention.text ↔
              (proseOf earlier).length ≤ sentences.length + mention.before.length) := by
  obtain ⟨passages, hkeeps, hcomposes⟩ := exists_passages source format document session h
  refine ⟨passages, hkeeps, ?_⟩
  intro earlier passage later before cut after hsplit hcuts
  constructor
  · obtain ⟨following, hexport⟩ :=
      passage.export_eq_of_cuts source.style.citation format hcuts
    refine ⟨following ++ later.flatMap (Passage.export source.style.citation format) ++
      document.tail, ?_⟩
    rw [hkeeps.text, hsplit, List.flatMap_append, List.flatMap_cons, hexport]
    simp only [List.append_assoc]
  · intro printed hprinted hsplice
    obtain ⟨hvariant, surname, sentences, sentence, mention, hsurname, hsentence, hmention,
      hreached⟩ :=
      (hcomposes earlier passage later hsplit).exists_mention hcuts hprinted hsplice
    refine ⟨hvariant, surname, sentences, sentence, mention, hsurname, hsentence, hmention,
      hreached, followsMention_iff ?_ hreached⟩
    obtain ⟨hname, -, hprefix⟩ := cuts_of_findMention hmention
    intro hempty
    exact hname (List.prefix_nil.1 (hempty ▸ hprefix))

-- The first group of a document has no prose before it.
theorem locators_in_first_group :
    let source := Source.make
      { citation := { followCreatorTemplate := some "year|: pages".toList
                      followCreatorPageSplit := true } }
      (.ofList [workOf ['a'] "Smith".toList "2004".toList, workOf ['b'] "Doe".toList "2010".toList])
    let document : Document :=
      { citations := [
          { id := ['a'], textBefore := "As Smith argues ".toList
            values := .ofList [("pages".toList, "12".toList)] }]
        tail := ['.'] }
    source.style.citation.mode = .inText ∧
      (renderDocument source .plain document {}).2.text = "As Smith (12) argues (2004).".toList ∧
      ∃ passages,
        KeepsProse source .plain document (renderDocument source .plain document {}).2
          passages ∧
        ∀ passage later before cut after, passages = passage :: later →
          passage.cuts = before ++ cut :: after →
          ∃ mention, FollowsMention .plain before cut mention := by
  intro source document
  refine ⟨rfl, by decide +kernel, ?_⟩
  obtain ⟨passages, hkeeps, hlocators⟩ := renderDocument_locators source .plain document {} rfl
  refine ⟨passages, hkeeps, ?_⟩
  intro passage later before cut after hpassages hcuts
  have hsplices := hkeeps.splices passage (by simp [hpassages])
  have hcut : cut.splice ∈ passage.cuts.map (·.splice) := by simp [hcuts]
  obtain ⟨printed, hprinted, hsplice⟩ := List.mem_filterMap.1 (hsplices.mem_iff.1 hcut)
  obtain ⟨-, hmentions⟩ := hlocators [] passage later before cut after hpassages hcuts
  obtain ⟨-, surname, sentences, sentence, mention, -, -, -, -, hfollows⟩ :=
    hmentions printed hprinted hsplice
  exact ⟨mention.text, hfollows.2 (Nat.zero_le _)⟩

-- A mention that ends where the prose of its citation begins: the locator comes
-- to stand after the citation of the earlier group.
theorem locator_after_earlier_group :
    let source := Source.make
      { citation := { followCreatorTemplate := some "year|: pages".toList
                      followCreatorPageSplit := true } }
      (.ofList [workOf ['a'] "Smith".toList "2004".toList, workOf ['b'] "Doe".toList "2010".toList])
    let document : Document :=
      { citations := [
          { id := ['b'], textBefore := "As Smith".toList },
          { id := ['a'], textBefore := " argues ".toList
            values := .ofList [("pages".toList, "12".toList)] }]
        tail := ['.'] }
    let output := (renderDocument source .plain document {}).2
    output.citations.map (fun cited => (cited.text, cited.variant)) =
        [("Doe 2010".toList, .base), ("2004".toList, .followCreator)] ∧
      findMention "As Smith argues ".toList "Smith".toList =
        some ⟨"As ".toList, "Smith".toList, " argues ".toList⟩ ∧
      output.text = "As Smith(Doe 2010)".toList ++ " (12)".toList ++ " argues (2004).".toList ∧
      ¬"Smith".toList <:+ "As Smith(Doe 2010)".toList := by
  decide +kernel

end Referencing.Citation
