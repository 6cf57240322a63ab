import Referencing.Proofs.Template.Fields

namespace Referencing.Template

open Text

-- A field between two quoted texts.
structure Quotation where
  before : Text
  name : Text
  after : Text
  deriving DecidableEq, Repr

namespace Quotation

def segment (quotation : Quotation) : Text :=
  tick :: quotation.before ++ [tick, ' '] ++ quotation.name ++ [' ', tick] ++ quotation.after ++
    [tick]

-- The segment cut at its field.
def located (quotation : Quotation) : Located where
  before := tick :: quotation.before ++ [tick, ' ']
  name := quotation.name
  after := [' ', tick] ++ quotation.after ++ [tick]

-- What the segment is compiled to: the two texts as they are, without a marker.
def spec (quotation : Quotation) : FieldSpec where
  pre := [.text (quotation.before ++ [' '])]
  post := [.text (' ' :: quotation.after)]

-- Neither text ends its quotation or the segment. The name does not either, nor does it
-- begin a plural marker.
structure IsLiteral (names : FieldSet) (quotation : Quotation) : Prop where
  known : names.contains quotation.name = true
  name : '|' ∉ quotation.name ∧ tick ∉ quotation.name ∧ '^' ∉ quotation.name
  before : '|' ∉ quotation.before ∧ tick ∉ quotation.before
  after : '|' ∉ quotation.after ∧ tick ∉ quotation.after

instance (names : FieldSet) (quotation : Quotation) : Decidable (quotation.IsLiteral names) :=
  decidable_of_iff
    (names.contains quotation.name = true ∧
      ('|' ∉ quotation.name ∧ tick ∉ quotation.name ∧ '^' ∉ quotation.name) ∧
      ('|' ∉ quotation.before ∧ tick ∉ quotation.before) ∧
      ('|' ∉ quotation.after ∧ tick ∉ quotation.after))
    ⟨fun h => ⟨h.1, h.2.1, h.2.2.1, h.2.2.2⟩, fun h => ⟨h.known, h.name, h.before, h.after⟩⟩

end Quotation

section Searching

variable {names : FieldSet} {before after name other : Text}

-- Nothing begins right behind a quotation.
theorem find?_beginsField_behind_tick (names : List Text) (before run after : Text) :
    names.find? (beginsField (before ++ [tick]) run after) = none := by
  simp [beginsField, isBoundary]

-- The only name longer than another that could stand at the beginning of that one and a
-- blank is both together, and then it touches the quotation.
theorem not_precedes_of_beginsField
    (h : beginsField before (name ++ [' ']) (tick :: after) other = true) :
    ¬Precedes other name := by
  simp only [beginsField, Bool.and_eq_true, List.isPrefixOf_iff_prefix] at h
  obtain ⟨⟨hbegins, -⟩, hnext⟩ := h
  rcases List.prefix_concat_iff.1 hbegins with rfl | ⟨rest, rfl⟩
  · simp [isBoundary] at hnext
  · rw [Precedes, size_append]
    rintro (hsize | ⟨hsize, hlt⟩)
    · omega
    · cases rest with
      | nil =>
        rw [List.append_nil] at hlt
        exact List.lt_irrefl other hlt
      | cons c rest =>
        have hpos := size_pos_of_ne_nil (List.cons_ne_nil c rest)
        omega

-- Between two quotations a name is found with one blank on either side of it.
theorem seekInRun_between (hname : name ∈ names.names) (before after : Text) :
    seekInRun names.names (before ++ [tick]) (' ' :: (name ++ [' '])) (tick :: after) =
      some ⟨before ++ [tick] ++ [' '], name, ' ' :: tick :: after⟩ := by
  have hblank : isBoundary (some ' ') = true := by decide +kernel
  have hstarts : beginsField (before ++ [tick] ++ [' ']) (name ++ [' ']) (tick :: after) name =
      true := by
    simp [beginsField, hblank]
  have hfind := FieldSet.find?_eq_some hname hstarts fun other => not_precedes_of_beginsField
  obtain ⟨c, rest, hrun⟩ := List.exists_cons_of_ne_nil (List.concat_ne_nil ' ' name)
  rw [hrun] at hfind
  rw [seekInRun, find?_beginsField_behind_tick, hrun, seekInRun, hfind]
  simp [← hrun]

end Searching

section Quoting

variable {names : FieldSet} {quotation : Quotation}

-- Anything can follow a quotation with both its ticks.
theorem Lexeme.canPrecede_closed {scope : Scope} (body after : Text) :
    (Lexeme.escaped body true).CanPrecede scope after := by
  simp [Lexeme.CanPrecede]

theorem lexemesOf_segment (h : quotation.IsLiteral names) :
    lexemesOf .segment quotation.segment =
      [.escaped quotation.before true, .text (' ' :: quotation.name ++ [' ']),
        .escaped quotation.after true] := by
  have hspace : Scope.opens .segment ' ' = false := by decide
  have hname : ∀ c ∈ quotation.name, Scope.opens .segment c = false := by
    intro c hc
    exact opens_eq_false_iff.2 ⟨ne_of_mem_of_not_mem hc h.name.2.1,
      ne_of_mem_of_not_mem hc h.name.2.2, by simp⟩
  have hrun : ∀ c ∈ ' ' :: quotation.name ++ [' '], Scope.opens .segment c = false :=
    List.forall_mem_append.2 ⟨List.forall_mem_cons.2 ⟨hspace, hname⟩, by simpa using hspace⟩
  refine lexemesOf_eq_iff.2 ⟨?_, by simp [Quotation.segment, Lexeme.spelling]⟩
  refine .cons h.before.2 (Lexeme.canPrecede_closed _ _) ?_
  refine .cons ⟨by simp, hrun⟩ (by simp [Lexeme.CanPrecede, Lexeme.spelling]) ?_
  exact .cons h.after.2 (Lexeme.canPrecede_closed _ _) .nil

theorem locate_segment (h : quotation.IsLiteral names) :
    locate names quotation.segment = some quotation.located := by
  have hrun : seekInRun names.names (tick :: (quotation.before ++ [tick]))
      (' ' :: (quotation.name ++ [' '])) (tick :: (quotation.after ++ [tick])) =
        some quotation.located := by
    simpa [Quotation.located] using
      seekInRun_between (List.contains_iff_mem.1 h.known) (tick :: quotation.before)
        (quotation.after ++ [tick])
  simp [locate_eq, lexemesOf_segment h, seek, Lexeme.spelling, hrun]

theorem read_located (h : quotation.IsLiteral names) :
    FieldSpec.read quotation.name quotation.located.before quotation.located.after =
      (quotation.spec, []) := by
  have hblank : Scope.opens .affix ' ' = false := by decide
  have hspace : (Lexeme.text [' ']).FitsIn .affix := ⟨by simp, List.forall_mem_singleton.2 hblank⟩
  have hbefore : lexemesOf .affix quotation.located.before =
      [.escaped quotation.before true, .text [' ']] := by
    refine lexemesOf_eq_iff.2 ⟨?_, by simp [Quotation.located, Lexeme.spelling]⟩
    refine .cons h.before.2 (Lexeme.canPrecede_closed _ _) ?_
    exact .cons hspace (by simp [Lexeme.CanPrecede]) .nil
  have hafter : lexemesOf .affix quotation.located.after =
      [.text [' '], .escaped quotation.after true] := by
    refine lexemesOf_eq_iff.2 ⟨?_, by simp [Quotation.located, Lexeme.spelling]⟩
    refine .cons hspace (by simp [Lexeme.CanPrecede, Lexeme.spelling]) ?_
    exact .cons h.after.2 (Lexeme.canPrecede_closed _ _) .nil
  -- An empty text leaves the blank alone.
  have hpre : Affix.pushText (Affix.pushText [] quotation.before) [' '] = quotation.spec.pre := by
    by_cases hempty : quotation.before = [] <;> simp [Affix.pushText, Quotation.spec, hempty]
  have hpost : Affix.pushText (Affix.pushText [] [' ']) quotation.after = quotation.spec.post := by
    by_cases hempty : quotation.after = [] <;> simp [Affix.pushText, Quotation.spec, hempty]
  simp [FieldSpec.read, readSide_eq, hbefore, hafter, Reading.addLexeme, Reading.add, Lexeme.kind,
    Reading.addText, FieldSpec.setAffix, hpre, hpost, Quotation.spec]

theorem bar_not_mem_segment (h : quotation.IsLiteral names) : '|' ∉ quotation.segment := by
  have htick : '|' ≠ tick := by decide
  simp [Quotation.segment, htick, h.before.1, h.name.1, h.after.1]

end Quoting

section Compiling

variable {names : FieldSet} {quotations : List Quotation}

-- Fields that are all different are gathered in their order, and nothing besides. The
-- names are different because they are the keys of what is gathered.
theorem Progress.addSegments_quotations {progress : Progress} {fields : Dict FieldSpec}
    (hliteral : ∀ quotation ∈ quotations, quotation.IsLiteral names)
    (hfields : fields.entries = progress.fields.entries ++
      quotations.map fun quotation => (quotation.name, quotation.spec)) :
    progress.addSegments names (quotations.map Quotation.segment) =
      { progress with fields := fields } := by
  induction quotations generalizing progress with
  | nil =>
    obtain rfl : fields = progress.fields := Dict.ext (by simpa using hfields)
    rfl
  | cons quotation rest ih =>
    rw [List.forall_mem_cons] at hliteral
    have hnew : quotation.name ∉ progress.fields.keys := by
      have hdistinct := fields.distinct
      rw [hfields, List.map_append, List.nodup_append] at hdistinct
      exact fun hmem => hdistinct.2.2 _ hmem _ (by simp) rfl
    have hadd : progress.addField quotation.located =
        { progress with fields := progress.fields.insert quotation.name quotation.spec } :=
      Progress.addField_of_read (read_located hliteral.1) hnew
    rw [List.map_cons, Progress.addSegments, Progress.addSegment, locate_segment hliteral.1]
    simp only [hadd]
    refine ih hliteral.2 ?_
    rw [hfields, Dict.entries_insert_of_not_mem quotation.spec hnew, List.map_cons,
      List.append_assoc, List.singleton_append]

theorem isBlankText_quotations (hne : quotations ≠ []) :
    isBlankText (join ['|'] (quotations.map Quotation.segment)) = false := by
  have htick : isBlank tick = false := by decide +kernel
  cases quotations with
  | nil => contradiction
  | cons quotation rest =>
    cases rest <;> simp [join, Quotation.segment, isBlankText, htick]

theorem segments_quotations (hne : quotations ≠ [])
    (hliteral : ∀ quotation ∈ quotations, quotation.IsLiteral names) :
    segments (join ['|'] (quotations.map Quotation.segment)) =
      quotations.map Quotation.segment := by
  have hsplit : split '|' (join ['|'] (quotations.map Quotation.segment)) =
      quotations.map Quotation.segment := by
    refine split_join (by simpa using hne) ?_
    rw [List.forall_mem_map]
    exact fun quotation hquotation => bar_not_mem_segment (hliteral quotation hquotation)
  rw [segments, hsplit, List.filter_eq_self, List.forall_mem_map]
  simp [Quotation.segment]

end Compiling

-- Quoted text is printed as it stands, whatever markers and names there are in it.
theorem compile_quotations (names : FieldSet) {quotations : List Quotation}
    (hne : quotations ≠ [])
    (hliteral : ∀ quotation ∈ quotations, quotation.IsLiteral names)
    (hdistinct : (quotations.map (·.name)).Nodup) :
    let template := compile (join ['|'] (quotations.map Quotation.segment)) names
    template.fields.entries = quotations.map (fun quotation => (quotation.name, quotation.spec)) ∧
      template.preliminary = none ∧ template.ultimate = none ∧ template.pairs = [] ∧
      template.diagnostics = [] := by
  intro template
  let fields : Dict FieldSpec :=
    ⟨quotations.map fun quotation => (quotation.name, quotation.spec),
      by simpa [Function.comp_def] using hdistinct⟩
  have hgathered : Progress.addSegments names {} (quotations.map Quotation.segment) =
      { fields := fields } :=
    Progress.addSegments_quotations hliteral rfl
  have hfields : fields.entries ≠ [] := by simpa [fields] using hne
  have htemplate : template = Progress.finish { fields := fields } := by
    simp only [template, compile, isBlankText_quotations hne, segments_quotations hne hliteral,
      hgathered, hfields, Bool.false_eq_true, if_false]
  rw [htemplate]
  exact ⟨rfl, rfl, rfl, rfl, rfl⟩

-- Names that begin alike or with a blank, or have a percent sign in them, between texts
-- with markers, with names, and none at all.
theorem dates_between_quotations :
    let names := FieldSet.ofList (["date", " date", "date 50%", "title"].map String.toList)
    let quotations : List Quotation :=
      [⟨"^title^ 50%".toList, " date".toList, "date".toList⟩, ⟨[], "date".toList, []⟩,
        ⟨"%, %".toList, "date 50%".toList, "title ^".toList⟩]
    let source := "`^title^ 50%`  date `date`|`` date ``|`%, %` date 50% `title ^`".toList
    let template := compile source names
    quotations ≠ [] ∧ (∀ quotation ∈ quotations, quotation.IsLiteral names) ∧
      (quotations.map (·.name)).Nodup ∧ join ['|'] (quotations.map Quotation.segment) = source ∧
      template.fields.entries =
        quotations.map (fun quotation => (quotation.name, quotation.spec)) ∧
      template.preliminary = none ∧ template.ultimate = none ∧ template.pairs = [] ∧
      template.diagnostics = [] := by
  intro names quotations source template
  have hne : quotations ≠ [] := by decide
  have hliteral : ∀ quotation ∈ quotations, quotation.IsLiteral names := by decide +kernel
  have hdistinct : (quotations.map (·.name)).Nodup := by decide +kernel
  have hsource : join ['|'] (quotations.map Quotation.segment) = source := by decide +kernel
  have htemplate : compile (join ['|'] (quotations.map Quotation.segment)) names = template := by
    rw [hsource]
  refine ⟨hne, hliteral, hdistinct, hsource, ?_⟩
  rw [← htemplate]
  exact compile_quotations names hne hliteral hdistinct

end Referencing.Template
