import Referencing.Proofs.Template.Affixes
import Referencing.Proofs.Template.Scanner

namespace Referencing.Template

open Text

section Reading

variable {field raw : Text} {side : Side} {reading next : Reading} {lexeme : Lexeme}

theorem without_tick_dependent (primary : Text) (alternative : Option Text) :
    without tick (Lexeme.dependent primary alternative).spelling =
      (Lexeme.dependent (without tick primary) (alternative.map (without tick))).spelling := by
  have hpercent : '%' ≠ tick := by decide
  cases alternative <;> simp [Lexeme.spelling, without, hpercent]

theorem without_tick_plural (one many : Text) :
    without tick (Lexeme.plural one many).spelling =
      (Lexeme.plural (without tick one) (without tick many)).spelling := by
  have hcaret : '^' ≠ tick := by decide
  simp [Lexeme.spelling, without, hcaret]

theorem without_tick_escaped {body : Text} (h : tick ∉ body) (closed : Bool) :
    without tick (Lexeme.escaped body closed).spelling = body := by
  have hbody : body.filter (fun c => !decide (c = tick)) = body := by
    simpa [without] using without_eq_self h
  cases closed <;> simp [Lexeme.spelling, without, hbody]

-- What the reading of a token can come to: a text, or a marker whose place in the field
-- was free.
inductive Reading.Step (side : Side) (reading : Reading) (run : Text) : Reading → Prop
  | text (diagnostics : List Diagnostic)
      (about : ∀ diagnostic ∈ diagnostics, diagnostic.isAboutField = true) :
      Step side reading run
        { reading with
          affix := reading.affix.pushText run
          diagnostics := reading.diagnostics ++ diagnostics }
  | dependent (primary : Text) (alternative : Option Text)
      (free : reading.spec.dependent side = none)
      (written : (Lexeme.dependent primary alternative).spelling = run) :
      Step side reading run
        { reading with
          spec := reading.spec.setDependent side primary alternative
          affix := reading.affix.pushMarker .dependent }
  | plural (one many : Text) (free : reading.spec.singular = none ∧ reading.spec.plural = none)
      (written : (Lexeme.plural one many).spelling = run) :
      Step side reading run
        { reading with
          spec := reading.spec.setPlural one many
          affix := reading.affix.pushMarker .plural }

def Reading.addLexeme (field raw : Text) (side : Side) (reading : Reading) (lexeme : Lexeme) :
    Reading :=
  reading.add field raw side lexeme.kind lexeme.spelling

theorem step_addText (side : Side) (reading : Reading) (run : Text) :
    Reading.Step side reading run (reading.addText run) := by
  have hstep : reading.Step side run _ := .text [] (List.forall_mem_nil _)
  simpa [Reading.addText] using hstep

theorem step_addLexeme (h : lexeme.IsUnticked) :
    Reading.Step side reading (without tick lexeme.spelling)
      (reading.addLexeme field raw side lexeme) := by
  cases lexeme with
  | text run =>
    rw [Lexeme.spelling, without_eq_self h]
    exact step_addText side reading run
  | escaped body closed =>
    rw [without_tick_escaped h]
    exact step_addText side reading body
  | unterminated marker =>
    have hmarker : tick ∉ [marker] := by simpa using Ne.symm h
    rw [Lexeme.spelling, without_eq_self hmarker]
    refine .text [_] fun diagnostic hdiagnostic => ?_
    rw [List.mem_singleton.1 hdiagnostic]
    split <;> rfl
  | dependent primary alternative =>
    rw [Reading.addLexeme, Lexeme.kind, Reading.add]
    split
    · next hfree => exact .dependent _ _ hfree (without_tick_dependent primary alternative).symm
    · exact .text [_] (by simp [Diagnostic.isAboutField])
  | plural one many =>
    rw [Reading.addLexeme, Lexeme.kind, Reading.add]
    split
    · next hfree =>
      exact .plural _ _ (by simpa using hfree) (without_tick_plural one many).symm
    · exact .text [_] (by simp [Diagnostic.isAboutField])

-- The bytes of a token are those that its lexeme is written with.
theorem foldl_addToken {before : Text} {lexemes : List Lexeme} (reading : Reading)
    (h : before ++ lexemes.flatMap Lexeme.spelling = raw) :
    (tokensFrom (size before) lexemes).foldl (Reading.addToken field raw side) reading =
      lexemes.foldl (Reading.addLexeme field raw side) reading := by
  induction lexemes generalizing before reading with
  | nil => rfl
  | cons lexeme rest ih =>
    have hslice : slice (size before) (size before + size lexeme.spelling) raw =
        lexeme.spelling := by
      rw [← h, List.flatMap_cons, ← List.append_assoc, ← size_append]
      exact slice_size before lexeme.spelling _
    have hpassed : (before ++ lexeme.spelling) ++ rest.flatMap Lexeme.spelling = raw := by
      rw [← h, List.flatMap_cons, List.append_assoc]
    have hrest := ih (reading.addLexeme field raw side lexeme) hpassed
    rw [size_append] at hrest
    rw [tokensFrom, List.foldl_cons, List.foldl_cons, ← hrest, Reading.addToken, Lexeme.token,
      hslice]
    rfl

-- A side is read in lexemes.
theorem readSide_eq (field : Text) (side : Side) (spec : FieldSpec) (raw : Text) :
    FieldSpec.readSide field side spec raw =
      let reading := (lexemesOf .affix raw).foldl (Reading.addLexeme field raw side)
        { spec := spec }
      (reading.spec.setAffix side reading.affix, reading.diagnostics) := by
  have hraw := flatMap_spelling_lexemesOf .affix raw
  rw [FieldSpec.readSide, lex_eq, ← size_nil, foldl_addToken _ hraw]

end Reading

-- What is true while a side is read that was begun with some of the field: the affix
-- and the places of the field for marker texts are filled together, and what has been
-- passed over can be read off them.
structure Reading.Tracks (side : Side) (begun : FieldSpec) (passed : Text) (reading : Reading) :
    Prop where
  nonEmpty : Part.text [] ∉ reading.affix
  apart : reading.affix.IsChain fun left right => ¬(left.isText = true ∧ right.isText = true)
  dependent : reading.affix.count .dependent = (reading.spec.dependent side).isSome.toNat
  alternative : (reading.spec.alternative side).isSome = true →
    (reading.spec.dependent side).isSome = true
  plural : reading.affix.count .plural + begun.singular.isSome.toNat =
    reading.spec.singular.isSome.toNat
  together : reading.spec.singular.isSome = reading.spec.plural.isSome
  rebuilt : reading.affix.rebuilt reading.spec side = passed
  -- The other side is left alone, and so are plural texts that are there.
  affixes : ∀ other, reading.spec.affix other = begun.affix other
  otherDependent : ∀ other, other ≠ side → reading.spec.dependent other = begun.dependent other
  otherAlternative : ∀ other, other ≠ side →
    reading.spec.alternative other = begun.alternative other
  kept : begun.singular.isSome = true →
    reading.spec.singular = begun.singular ∧ reading.spec.plural = begun.plural
  diagnostics : ∀ diagnostic ∈ reading.diagnostics, diagnostic.isAboutField = true

section Tracking

variable {side : Side} {begun : FieldSpec} {passed : Text} {reading next : Reading}

theorem Reading.tracks_start (hdependent : begun.dependent side = none)
    (halternative : begun.alternative side = none)
    (htogether : begun.singular.isSome = begun.plural.isSome) :
    Reading.Tracks side begun [] { spec := begun } where
  nonEmpty := by simp
  apart := .nil
  dependent := by simp [hdependent]
  alternative := by simp [halternative]
  plural := by simp
  together := htogether
  rebuilt := rfl
  affixes := fun _ => rfl
  otherDependent := fun _ _ => rfl
  otherAlternative := fun _ _ => rfl
  kept := fun _ => ⟨rfl, rfl⟩
  diagnostics := by simp

theorem Reading.Tracks.text (h : reading.Tracks side begun passed) (run : Text)
    {diagnostics : List Diagnostic}
    (about : ∀ diagnostic ∈ diagnostics, diagnostic.isAboutField = true) :
    Reading.Tracks side begun (passed ++ run)
      { reading with
        affix := reading.affix.pushText run
        diagnostics := reading.diagnostics ++ diagnostics } := by
  refine { h with
    nonEmpty := nonEmpty_pushText h.nonEmpty run
    apart := apart_pushText h.apart run
    dependent := (count_pushText rfl _ run).trans h.dependent
    plural := ?_
    rebuilt := ?_
    diagnostics := List.forall_mem_append.2 ⟨h.diagnostics, about⟩ }
  · rw [count_pushText rfl, h.plural]
  · rw [rebuilt_pushText, h.rebuilt]

-- The first dependent marker of a side. What was rebuilt before has none, so its texts
-- change nothing there.
theorem Reading.Tracks.dependentMarker (h : reading.Tracks side begun passed) (primary : Text)
    (alternative : Option Text) (free : reading.spec.dependent side = none) :
    Reading.Tracks side begun (passed ++ (Lexeme.dependent primary alternative).spelling)
      { reading with
        spec := reading.spec.setDependent side primary alternative
        affix := reading.affix.pushMarker .dependent } := by
  have hcount : reading.affix.count .dependent = 0 := by
    rw [h.dependent, free]
    rfl
  refine {
    nonEmpty := by simpa [Affix.pushMarker] using h.nonEmpty
    apart := apart_pushMarker h.apart rfl
    dependent := by simp [Affix.pushMarker, hcount]
    alternative := by simp
    plural := by simpa [Affix.pushMarker] using h.plural
    together := by simpa using h.together
    rebuilt := ?_
    affixes := by simpa using h.affixes
    otherDependent := fun other hother => ?_
    otherAlternative := fun other hother => ?_
    kept := by simpa using h.kept
    diagnostics := h.diagnostics }
  · have hbefore : reading.affix.rebuilt (reading.spec.setDependent side primary alternative)
        side = reading.affix.rebuilt reading.spec side :=
      rebuilt_congr (fun hmem => absurd hmem (List.count_eq_zero.1 hcount)) (by simp)
    rw [Affix.pushMarker, rebuilt_append, hbefore, h.rebuilt]
    simp [Affix.rebuilt, Part.rebuilt]
  · rw [dependent_setDependent_of_ne _ _ _ _ hother, h.otherDependent other hother]
  · rw [alternative_setDependent_of_ne _ _ _ _ hother, h.otherAlternative other hother]

-- The first plural marker of a field, on either side.
theorem Reading.Tracks.pluralMarker (h : reading.Tracks side begun passed) (one many : Text)
    (free : reading.spec.singular = none) :
    Reading.Tracks side begun (passed ++ (Lexeme.plural one many).spelling)
      { reading with
        spec := reading.spec.setPlural one many
        affix := reading.affix.pushMarker .plural } := by
  have hbegun : begun.singular.isSome.toNat = 0 ∧ reading.affix.count .plural = 0 := by
    have hplural := h.plural
    rw [free, Option.isSome_none, Bool.toNat_false] at hplural
    omega
  refine {
    nonEmpty := by simpa [Affix.pushMarker] using h.nonEmpty
    apart := apart_pushMarker h.apart rfl
    dependent := by simpa [Affix.pushMarker] using h.dependent
    alternative := by simpa using h.alternative
    plural := by simp [Affix.pushMarker, FieldSpec.setPlural, hbegun]
    together := rfl
    rebuilt := ?_
    affixes := by simpa using h.affixes
    otherDependent := by simpa using h.otherDependent
    otherAlternative := by simpa using h.otherAlternative
    kept := fun hsome => by simp [hsome] at hbegun
    diagnostics := h.diagnostics }
  have hbefore : reading.affix.rebuilt (reading.spec.setPlural one many) side =
      reading.affix.rebuilt reading.spec side :=
    rebuilt_congr (by simp) fun hmem => absurd hmem (List.count_eq_zero.1 hbegun.2)
  rw [Affix.pushMarker, rebuilt_append, hbefore, h.rebuilt]
  simp [Affix.rebuilt, Part.rebuilt, FieldSpec.setPlural]

theorem Reading.Tracks.step (h : reading.Tracks side begun passed) {run : Text}
    (hstep : reading.Step side run next) : next.Tracks side begun (passed ++ run) := by
  cases hstep with
  | text diagnostics about => exact h.text run about
  | dependent primary alternative free written =>
    exact written ▸ h.dependentMarker primary alternative free
  | plural one many free written => exact written ▸ h.pluralMarker one many free.1

theorem Reading.Tracks.foldl (h : reading.Tracks side begun passed) (field raw : Text)
    {lexemes : List Lexeme} (hunticked : ∀ lexeme ∈ lexemes, lexeme.IsUnticked) :
    (lexemes.foldl (Reading.addLexeme field raw side) reading).Tracks side begun
      (passed ++ without tick (lexemes.flatMap Lexeme.spelling)) := by
  induction lexemes generalizing reading passed with
  | nil => simpa using h
  | cons lexeme rest ih =>
    rw [List.forall_mem_cons] at hunticked
    have hrest := ih (h.step (@step_addLexeme field raw _ _ _ hunticked.1)) hunticked.2
    rwa [List.append_assoc, ← without_append, ← List.flatMap_cons] at hrest

-- Reading a side to its end passes over all of it.
theorem exists_tracks_readSide (field raw : Text) (hdependent : begun.dependent side = none)
    (halternative : begun.alternative side = none)
    (htogether : begun.singular.isSome = begun.plural.isSome) :
    ∃ reading : Reading, reading.Tracks side begun (without tick raw) ∧
      FieldSpec.readSide field side begun raw =
        (reading.spec.setAffix side reading.affix, reading.diagnostics) := by
  refine ⟨_, ?_, readSide_eq field side begun raw⟩
  have hread := (Reading.tracks_start hdependent halternative htogether).foldl field raw
    fun lexeme (hmem : lexeme ∈ lexemesOf .affix raw) => isUnticked_of_mem_lexemesOf hmem
  rwa [flatMap_spelling_lexemesOf, List.nil_append] at hread

end Tracking

-- Each side can be rebuilt from its parts, its own dependent texts and the plural
-- texts, which are those of either side.
structure FieldSpec.Rebuilds (spec : FieldSpec) (before after : Text) : Prop where
  pre : spec.pre.rebuilt spec .pre = without tick before
  post : spec.post.rebuilt spec .post = without tick after

section Whole

variable {first second : Reading} {before after : Text}

-- The second side is begun with what the first one has come to.
theorem exists_tracks_read (field before after : Text) :
    ∃ first second : Reading, first.Tracks .pre {} (without tick before) ∧
      second.Tracks .post (first.spec.setAffix .pre first.affix) (without tick after) ∧
      FieldSpec.read field before after =
        (second.spec.setAffix .post second.affix, first.diagnostics ++ second.diagnostics) := by
  have hstart : ({} : FieldSpec).dependent .pre = none ∧ ({} : FieldSpec).alternative .pre = none :=
    ⟨rfl, rfl⟩
  obtain ⟨first, hfirst, hpre⟩ := exists_tracks_readSide field before hstart.1 hstart.2 rfl
  have hdependent : (first.spec.setAffix .pre first.affix).dependent .post = none :=
    hfirst.otherDependent .post (by decide)
  have halternative : (first.spec.setAffix .pre first.affix).alternative .post = none :=
    hfirst.otherAlternative .post (by decide)
  obtain ⟨second, hsecond, hpost⟩ :=
    exists_tracks_readSide field after hdependent halternative hfirst.together
  exact ⟨first, second, hfirst, hsecond, by simp only [FieldSpec.read, hpre, hpost]⟩

-- A side holds as many markers of a kind as there are texts for one.
theorem mem_iff_of_count {affix : Affix} {marker : Part} {isThere : Bool}
    (h : affix.count marker = isThere.toNat) :
    (marker ∈ affix ↔ isThere = true) ∧ affix.count marker ≤ 1 := by
  rw [← List.count_pos_iff, h]
  cases isThere <;> simp

theorem wellFormed_setAffix (hfirst : first.Tracks .pre {} before)
    (hsecond : second.Tracks .post (first.spec.setAffix .pre first.affix) after) :
    (second.spec.setAffix .post second.affix).WellFormed := by
  generalize hspec : second.spec.setAffix .post second.affix = spec
  have hpre : spec.affix .pre = first.affix := hspec ▸ hsecond.affixes .pre
  have hpost : spec.affix .post = second.affix := hspec ▸ rfl
  have hdependent : spec.dependent .pre = first.spec.dependent .pre :=
    hspec ▸ hsecond.otherDependent .pre (by decide)
  have halternative : spec.alternative .pre = first.spec.alternative .pre :=
    hspec ▸ hsecond.otherAlternative .pre (by decide)
  have hmarkers : ∀ side, (spec.affix side).count .dependent =
      (spec.dependent side).isSome.toNat := by
    rintro (_ | _)
    · rw [hpre, hdependent, hfirst.dependent]
    · rw [hpost, hsecond.dependent, ← hspec]
      rfl
  have hplurals : (spec.pre ++ spec.post).count .plural = spec.singular.isSome.toNat := by
    have hbegun : first.affix.count .plural = first.spec.singular.isSome.toNat := hfirst.plural
    have hdone : second.affix.count .plural + first.spec.singular.isSome.toNat =
        spec.singular.isSome.toNat := hspec ▸ hsecond.plural
    change (spec.affix .pre ++ spec.affix .post).count .plural = spec.singular.isSome.toNat
    rw [List.count_append, hpre, hpost, hbegun, ← hdone, Nat.add_comm]
  constructor
  case nonEmpty =>
    rintro (_ | _)
    · exact hpre ▸ hfirst.nonEmpty
    · exact hpost ▸ hsecond.nonEmpty
  case apart =>
    rintro (_ | _)
    · exact hpre ▸ hfirst.apart
    · exact hpost ▸ hsecond.apart
  case dependent => exact fun side => (mem_iff_of_count (hmarkers side)).1
  case dependents => exact fun side => (mem_iff_of_count (hmarkers side)).2
  case alternative =>
    rintro (_ | _)
    · rw [hdependent, halternative]
      exact hfirst.alternative
    · exact hspec ▸ hsecond.alternative
  case plural =>
    have htogether : spec.singular.isSome = spec.plural.isSome := hspec ▸ hsecond.together
    rw [(mem_iff_of_count hplurals).1, ← htogether, and_self]
  case plurals => exact (mem_iff_of_count hplurals).2
  case together => exact hspec ▸ hsecond.together

theorem rebuilds_setAffix (hfirst : first.Tracks .pre {} (without tick before))
    (hsecond : second.Tracks .post (first.spec.setAffix .pre first.affix) (without tick after)) :
    (second.spec.setAffix .post second.affix).Rebuilds before after := by
  have hpre : second.spec.pre = first.affix := hsecond.affixes .pre
  refine ⟨?_, hsecond.rebuilt⟩
  rw [← hfirst.rebuilt]
  refine (congrArg (Affix.rebuilt _ _) hpre).trans (rebuilt_congr (fun _ => ?_) fun hmem => ?_)
  · exact ⟨hsecond.otherDependent .pre (by decide), hsecond.otherAlternative .pre (by decide)⟩
  · have hcount : first.affix.count .plural = first.spec.singular.isSome.toNat := hfirst.plural
    exact hsecond.kept ((mem_iff_of_count hcount).1.1 hmem)

end Whole

theorem FieldSpec.wellFormed_read (field before after : Text) :
    (FieldSpec.read field before after).1.WellFormed := by
  obtain ⟨first, second, hfirst, hsecond, hread⟩ := exists_tracks_read field before after
  rw [hread]
  exact wellFormed_setAffix hfirst hsecond

theorem FieldSpec.rebuilds_read (field before after : Text) :
    (FieldSpec.read field before after).1.Rebuilds before after := by
  obtain ⟨first, second, hfirst, hsecond, hread⟩ := exists_tracks_read field before after
  rw [hread]
  exact rebuilds_setAffix hfirst hsecond

theorem FieldSpec.diagnostics_read (field before after : Text) :
    ∀ diagnostic ∈ (FieldSpec.read field before after).2, diagnostic.isAboutField = true := by
  obtain ⟨first, second, hfirst, hsecond, hread⟩ := exists_tracks_read field before after
  rw [hread]
  exact List.forall_mem_append.2 ⟨hfirst.diagnostics, hsecond.diagnostics⟩

end Referencing.Template
