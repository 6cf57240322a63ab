import Referencing.Proofs.Data.Options
import Referencing.Style.Basic

namespace Referencing

open Form Referencing.Field

section Tables

theorem StyleInfo.apart_fields : Apart StyleInfo.fields where
  names := by decide
  places := by
    iterate 2 refine .step (.sparing fun _ _ => rfl) ?_
    exact .done

theorem Bundle.apart_fields : Apart Bundle.fields where
  names := by decide
  places := by
    iterate 9 refine .step (.always fun _ _ => rfl) ?_
    refine .step (.sparing fun _ _ => rfl) ?_
    iterate 2 refine .step (.always fun _ _ => rfl) ?_
    exact .done

theorem DateOptions.apart_fields : Apart DateOptions.fields where
  names := by decide
  places := by
    iterate 5 refine .step (.always fun _ _ => rfl) ?_
    refine .step (.sparing fun _ _ => rfl) ?_
    exact .done

theorem BibliographyOptions.apart_fields : Apart BibliographyOptions.fields where
  names := by decide
  places := by
    iterate 7 refine .step (.always fun _ _ => rfl) ?_
    refine .step (.sparing fun _ _ => rfl) ?_
    refine .step (.always fun _ _ => rfl) ?_
    iterate 3 refine .step (.sparing fun _ _ => rfl) ?_
    exact .done

theorem FootnoteOptions.apart_fields : Apart FootnoteOptions.fields where
  names := by decide
  places := by
    iterate 3 refine .step (.always fun _ _ => rfl) ?_
    exact .done

theorem NoteMarker.apart_fields : Apart NoteMarker.fields where
  names := by decide
  places := by
    iterate 3 refine .step (.always fun _ _ => rfl) ?_
    exact .done

theorem CitationOptions.apart_fields : Apart CitationOptions.fields where
  names := by decide
  places := by
    iterate 7 refine .step (.always fun _ _ => rfl) ?_
    refine .step (.sparing fun _ _ => rfl) ?_
    refine .step (.always fun _ _ => rfl) ?_
    iterate 7 refine .step (.sparing fun _ _ => rfl) ?_
    iterate 7 refine .step (.always fun _ _ => rfl) ?_
    exact .done

theorem Style.apart_fields : Apart Style.fields where
  names := by decide
  places := by
    iterate 4 refine .step (.always fun _ _ => rfl) ?_
    exact .done

end Tables

namespace Style

-- What is written for an option of a style.
def option? (style : Style) (path : List Text) : Option Json :=
  Json.at? path (form.write style)

-- A record that stands in every style: where, with which fields, what it is when nothing
-- is said about them, and what a style gives for it.
structure Part where
  path : List Text
  {Record : Type}
  fields : List (Field Record)
  sparse : Bool
  default : Record
  given? : {κ σ : Type} → Dialect κ σ → Tree κ σ → Option (Tree κ σ)

namespace Part

def form (part : Part) : Form part.Record :=
  recordWith part.sparse part.fields part.default

-- A style mentions an option if it gives something for it.
def Mentions {κ σ : Type} (part : Part) (dialect : Dialect κ σ) (tree : Tree κ σ)
    (name : Text) : Prop :=
  ((part.given? dialect tree).bind (Field.given? dialect part.fields name)).isSome

def whole : Part where
  path := []
  fields := Style.fields
  sparse := true
  default := {}
  given? _ tree := some tree

-- The record in a field of another one.
def within {ρ : Type} (outer : Part) (name : String) (fields : List (Field ρ)) (default : ρ)
    (sparse : Bool := true) : Part where
  path := outer.path ++ [name.toList]
  fields := fields
  sparse := sparse
  default := default
  given? dialect tree :=
    (outer.given? dialect tree).bind (Field.given? dialect outer.fields name.toList)

def bibliography : Part := whole.within "bibliography" BibliographyOptions.fields {}

def footnote : Part := whole.within "footnote" FootnoteOptions.fields {}

def citation : Part := whole.within "citation" CitationOptions.fields {}

def citationCreators : Part := citation.within "creators" Bundle.fields {}

def all : List Part :=
  [whole, whole.within "info" StyleInfo.fields {} false,
    bibliography, bibliography.within "primary" Bundle.fields {},
    bibliography.within "other" Bundle.fields {}, bibliography.within "dates" DateOptions.fields {},
    footnote, footnote.within "primary" Bundle.fields {}, footnote.within "other" Bundle.fields {},
    citation, citationCreators, citation.within "endnote-marker" NoteMarker.fields {}]

-- Where a part stands in the styles that are read.
structure Tracked (part : Part) : Prop where
  apart : Apart part.fields
  missing : ∀ {κ σ : Type} {dialect : Dialect κ σ} {tree : Tree κ σ} {style : Style},
    Style.form.read dialect tree = some style → part.given? dialect tree = none →
      style.option? part.path = option? {} part.path
  given : ∀ {κ σ : Type} {dialect : Dialect κ σ} {tree inner : Tree κ σ} {style : Style},
    Style.form.read dialect tree = some style → part.given? dialect tree = some inner →
      ∃ record, part.form.read dialect inner = some record ∧
        style.option? part.path = some (part.form.write record)

theorem tracked_whole : whole.Tracked where
  apart := apart_fields
  missing := fun _ hnone => absurd hnone (Option.some_ne_none _)
  given := by
    rintro κ σ dialect tree _ style hread ⟨⟩
    exact ⟨style, hread, rfl⟩

section

variable {κ σ : Type} {dialect : Dialect κ σ} {tree inner : Tree κ σ} {style : Style} {part : Part}
  {field : Field part.Record}

theorem Tracked.option?_field (h : part.Tracked) {record : part.Record}
    (hwritten : style.option? part.path = some (part.form.write record))
    (hfield : field ∈ part.fields) :
    style.option? (part.path ++ [field.name]) = field.write record := by
  rw [option?, Json.at?_append, ← option?, hwritten, Option.bind_some]
  exact at?_write_recordWith h.apart hfield record

theorem Tracked.settles (h : part.Tracked) (hread : Style.form.read dialect tree = some style)
    (hgiven : part.given? dialect tree = some inner) (hfield : field ∈ part.fields) :
    ∃ record,
      field.Settles dialect part.default record
        (Field.given? dialect part.fields field.name inner) ∧
      style.option? (part.path ++ [field.name]) = field.write record := by
  obtain ⟨record, hrecord, hwritten⟩ := h.given hread hgiven
  exact ⟨record, settles_recordWith h.apart hfield hrecord, h.option?_field hwritten hfield⟩

-- An option that is not mentioned has the default of the part, or where the whole part
-- is missing, that of the style.
theorem Tracked.option?_of_not_mentions (h : part.Tracked)
    (hread : Style.form.read dialect tree = some style) (hfield : field ∈ part.fields)
    (hnot : ¬part.Mentions dialect tree field.name) :
    style.option? (part.path ++ [field.name]) =
      if (part.given? dialect tree).isSome then field.write part.default
      else option? {} (part.path ++ [field.name]) := by
  cases hgiven : part.given? dialect tree with
  | none =>
    rw [option?, option?, Json.at?_append, Json.at?_append, ← option?, ← option?,
      h.missing hread hgiven]
    rfl
  | some inner =>
    obtain ⟨record, hsettles, hwritten⟩ := h.settles hread hgiven hfield
    have hnone : Field.given? dialect part.fields field.name inner = none := by
      rw [Mentions, hgiven, Option.bind_some, Option.not_isSome_iff_eq_none] at hnot
      exact hnot
    rw [hnone] at hsettles
    exact hwritten.trans hsettles

end

-- A record in a field that is always written is read from what is given for the field.
theorem Tracked.within {outer : Part} (h : outer.Tracked)
    (hdefault : option? {} outer.path = some (outer.form.write outer.default)) {ρ : Type}
    {name : String} {fields : List (Field ρ)} {default : ρ} {sparse : Bool}
    {get : outer.Record → ρ} {set : ρ → outer.Record → outer.Record} (place : Nat)
    (hplace : outer.fields[place]? =
      some (.always name (recordWith sparse fields default) get set))
    (hget : ∀ value record, get (set value record) = value) (hapart : Apart fields) :
    (outer.within name fields default sparse).Tracked where
  apart := hapart
  missing := by
    intro κ σ dialect tree style hread hnone
    have hnot : ¬outer.Mentions dialect tree name.toList := by
      rw [Mentions, Option.not_isSome_iff_eq_none]
      exact hnone
    have hfield := List.mem_of_getElem? hplace
    refine (h.option?_of_not_mentions hread hfield hnot).trans ?_
    split
    · exact (h.option?_field hdefault hfield).symm
    · rfl
  given := by
    intro κ σ dialect tree inner style hread hgiven
    obtain ⟨around, haround, hinner⟩ := Option.bind_eq_some_iff.1 hgiven
    obtain ⟨record, hsettles, hwritten⟩ := h.settles hread haround (List.mem_of_getElem? hplace)
    rw [show (Field.always name (recordWith sparse fields default) get set).name = name.toList
      from rfl, hinner] at hsettles
    obtain ⟨value, hvalue, hwrite⟩ := hsettles.always hget
    exact ⟨value, hvalue, hwritten.trans hwrite⟩

theorem tracked_bibliography : bibliography.Tracked :=
  tracked_whole.within rfl 1 rfl (fun _ _ => rfl) BibliographyOptions.apart_fields

theorem tracked_footnote : footnote.Tracked :=
  tracked_whole.within rfl 2 rfl (fun _ _ => rfl) FootnoteOptions.apart_fields

theorem tracked_citation : citation.Tracked :=
  tracked_whole.within rfl 3 rfl (fun _ _ => rfl) CitationOptions.apart_fields

theorem tracked_all : ∀ part ∈ all, part.Tracked := by
  have hbundle := Bundle.apart_fields
  simp only [all, List.forall_mem_cons]
  refine ⟨tracked_whole, ?_, tracked_bibliography, ?_, ?_, ?_, tracked_footnote, ?_, ?_,
    tracked_citation, ?_, ?_, by simp⟩
  · exact tracked_whole.within rfl 0 rfl (fun _ _ => rfl) StyleInfo.apart_fields
  · exact tracked_bibliography.within rfl 0 rfl (fun _ _ => rfl) hbundle
  · exact tracked_bibliography.within rfl 1 rfl (fun _ _ => rfl) hbundle
  · exact tracked_bibliography.within rfl 3 rfl (fun _ _ => rfl) DateOptions.apart_fields
  · exact tracked_footnote.within rfl 0 rfl (fun _ _ => rfl) hbundle
  · exact tracked_footnote.within rfl 1 rfl (fun _ _ => rfl) hbundle
  · exact tracked_citation.within rfl 3 rfl (fun _ _ => rfl) hbundle
  · exact tracked_citation.within rfl 22 rfl (fun _ _ => rfl) NoteMarker.apart_fields

-- A default style has each part as it is when nothing is said about it, except for the
-- creators of citations.
theorem eq_citationCreators_or_default : ∀ part ∈ all, part = citationCreators ∨
    part.path ≠ citationCreators.path ∧
      option? {} part.path = some (part.form.write part.default) := by
  simp only [all, List.forall_mem_cons]
  refine ⟨.inr ⟨by decide, rfl⟩, .inr ⟨by decide, rfl⟩, .inr ⟨by decide, rfl⟩,
    .inr ⟨by decide, rfl⟩, .inr ⟨by decide, rfl⟩, .inr ⟨by decide, rfl⟩, .inr ⟨by decide, rfl⟩,
    .inr ⟨by decide, rfl⟩, .inr ⟨by decide, rfl⟩, .inr ⟨by decide, rfl⟩, .inl trivial,
    .inr ⟨by decide, rfl⟩, by simp⟩

end Part

-- What the default style has otherwise for the creators of citations than for others.
def citationCreatorsOptions : List Text :=
  ["first-order", "other-order", "sep-next-last"].map String.toList

theorem some_text_ne {left right : Text} (h : left ≠ right) :
    some (Json.text left) ≠ some (Json.text right) := by
  rintro ⟨⟩
  exact h rfl

theorem write_default_creators_iff : ∀ field ∈ Bundle.fields,
    field.write {} = field.write ({} : Style).citation.creators ↔
      field.name ∉ citationCreatorsOptions := by
  simp only [Bundle.fields, List.forall_mem_cons]
  refine ⟨?_, ?_, ?_, ?_, ?_, ?_, ?_, ?_, ?_, ?_, ?_, ?_, by simp⟩
  · exact iff_of_false (some_text_ne (by decide)) (by decide)
  · exact iff_of_false (some_text_ne (by decide)) (by decide)
  iterate 6 exact iff_of_true rfl (by decide)
  · exact iff_of_false (some_text_ne (by decide)) (by decide)
  iterate 3 exact iff_of_true rfl (by decide)

-- A style keeps the default of what it does not mention, except that once it says
-- anything about the creators of citations, the three options that they have of their
-- own in the default style become those of all creators.
theorem keeps_default_iff {κ σ : Type} {dialect : Dialect κ σ} {tree : Tree κ σ}
    {style blank : Style} (hstyle : Style.form.read dialect tree = some style)
    (hblank : Style.form.read dialect (.mapping []) = some blank) {part : Part}
    (hpart : part ∈ Part.all) {field : Field part.Record} (hfield : field ∈ part.fields)
    (hnot : ¬part.Mentions dialect tree field.name) :
    style.option? (part.path ++ [field.name]) = blank.option? (part.path ++ [field.name]) ↔
      ¬(part.path = ["citation", "creators"].map String.toList ∧
        (part.given? dialect tree).isSome ∧ field.name ∈ citationCreatorsOptions) := by
  cases hblank
  have htracked := Part.tracked_all part hpart
  rw [htracked.option?_of_not_mentions hstyle hfield hnot]
  by_cases hgiven : (part.given? dialect tree).isSome
  · rw [if_pos hgiven]
    rcases Part.eq_citationCreators_or_default part hpart with rfl | ⟨hpath, hdefault⟩
    · have hwritten : option? {} (Part.citationCreators.path ++ [field.name]) =
          field.write ({} : Style).citation.creators :=
        htracked.option?_field rfl hfield
      rw [hwritten]
      refine (write_default_creators_iff field hfield).trans ?_
      exact ⟨fun hother h => hother h.2.2, fun h hown => h ⟨rfl, hgiven, hown⟩⟩
    · rw [htracked.option?_field hdefault hfield]
      exact iff_of_true rfl fun h => hpath h.1
  · rw [if_neg hgiven]
    exact iff_of_true rfl fun h => hgiven h.2.1

-- Nothing is said but that the creators of citations are in capitals.
def uppercaseCreators : Json :=
  Json.object [("citation".toList,
    Json.object [("creators".toList, Json.object [("uppercase".toList, Json.bool true)])])]

theorem keeps_separator_of_uppercase :
    let style : Style := { citation := { creators := { uppercase := true } } }
    let path := ["citation", "creators", "sep-first-between"].map String.toList
    Style.form.read .json uppercaseCreators = some style ∧
      Style.form.read .json (.mapping []) = some {} ∧
      ¬Part.citationCreators.Mentions .json uppercaseCreators "sep-first-between".toList ∧
      style.option? path = option? {} path := by
  intro style path
  have hstyle : Style.form.read .json uppercaseCreators = some style := rfl
  have hblank : Style.form.read .json (.mapping []) = some {} := rfl
  have hpart : Part.citationCreators ∈ Part.all := by simp [Part.all]
  have hfield : Bundle.fields[6] ∈ Part.citationCreators.fields := List.getElem_mem _
  have hnot : ¬Part.citationCreators.Mentions .json uppercaseCreators
      "sep-first-between".toList := by
    unfold Part.Mentions
    decide +kernel
  refine ⟨hstyle, hblank, hnot, (keeps_default_iff hstyle hblank hpart hfield hnot).2 ?_⟩
  rintro ⟨-, -, hown⟩
  exact absurd hown (by decide)

-- The order of the first name is not mentioned, and is another one than in a style that
-- says nothing at all.
theorem order_lost_of_uppercase :
    let style : Style := { citation := { creators := { uppercase := true } } }
    let path := ["citation", "creators", "first-order"].map String.toList
    Style.form.read .json uppercaseCreators = some style ∧
      Style.form.read .json (.mapping []) = some {} ∧
      ¬Part.citationCreators.Mentions .json uppercaseCreators "first-order".toList ∧
      style.option? path = some (Json.text "last-comma-first".toList) ∧
      option? {} path = some (Json.text "last-only".toList) ∧
      style.option? path ≠ option? {} path := by
  intro style path
  have hnot : ¬Part.citationCreators.Mentions .json uppercaseCreators "first-order".toList := by
    unfold Part.Mentions
    decide +kernel
  exact ⟨rfl, rfl, hnot, rfl, rfl, some_text_ne (by decide)⟩

end Style

end Referencing
