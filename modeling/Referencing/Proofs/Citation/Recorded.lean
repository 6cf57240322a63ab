import Referencing.Proofs.Citation.Prose
import Referencing.Proofs.Markup.Joins

namespace Referencing.Citation

open Text Markup

variable {source : Source} (options : CitationOptions) (format : Format)

-- The texts of members, and between neighbours what parts them.
def memberParts : List Member → List Text
  | [] => []
  | [only] => [only.text]
  | left :: right :: rest =>
    left.text :: separator options left right :: memberParts (right :: rest)

-- What is recorded of citations, with their separators as a medium writes them.
def recordedTexts : List Printed → Text
  | [] => []
  | [only] => (only.cited.export format).text
  | left :: right :: rest =>
    (left.cited.export format).text ++
      format.export (separator options left.member right.member) ++ recordedTexts (right :: rest)

-- The neutral texts that the citations of a passage in brackets are joined from.
def Passage.parts (passage : Passage) : List Text :=
  options.firstChars :: memberParts options passage.members ++ [options.lastChars]

-- What is recorded of the citations that are not blank, in brackets.
def Passage.recorded (passage : Passage) : Text :=
  format.export options.firstChars ++
    recordedTexts options format (passage.printed.filter Printed.isShown) ++
      format.export options.lastChars

theorem flatten_memberParts (members : List Member) :
    (memberParts options members).flatten = joinMembers options members := by
  fun_induction memberParts options members with
  | case1 => rfl
  | case2 only => simp [joinMembers]
  | case3 left right rest ih => simp [joinMembers, ih]

theorem flatMap_export_memberParts (shown : List Printed) :
    (memberParts options (shown.map Printed.member)).flatMap format.export =
      recordedTexts options format shown := by
  fun_induction recordedTexts options format shown with
  | case1 => rfl
  | case2 only => exact List.flatMap_singleton _ _
  | case3 left right rest ih =>
    rw [List.map_cons] at ih
    rw [List.map_cons, List.map_cons, memberParts, List.flatMap_cons, List.flatMap_cons, ih,
      List.append_assoc]
    rfl

section Passage

variable {options format} {passage : Passage}

theorem Passage.bracket_eq_export (h : passage.members ≠ []) :
    passage.bracket options format = format.export (passage.parts options).flatten := by
  rw [bracket, if_neg h, parts, List.flatten_append, List.flatten_cons, flatten_memberParts,
    List.flatten_singleton]

theorem Passage.recorded_eq_flatMap :
    passage.recorded options format = (passage.parts options).flatMap format.export := by
  have hmembers : passage.members =
      (passage.printed.filter Printed.isShown).map Printed.member :=
    filterMap_member? passage.printed
  rw [recorded, parts, List.flatMap_append, List.flatMap_cons, hmembers,
    flatMap_export_memberParts, List.flatMap_singleton]

-- Citations are printed as they are recorded unless a marker, or the placeholder
-- of a dash, is read where they meet their brackets and separators.
theorem Passage.bracket_eq_recorded_iff (h : passage.members ≠ []) :
    passage.bracket options format = passage.recorded options format ↔
      format = .raw ∨ ¬Severed (passage.parts options) := by
  rw [bracket_eq_export h, recorded_eq_flatMap, export_flatten_iff]

-- So it is if no text has an opening bracket of its own.
theorem Passage.bracket_eq_recorded (h : passage.members ≠ [])
    (hliterals : ∀ part ∈ passage.parts options, literals part = 0) :
    passage.bracket options format = passage.recorded options format :=
  (bracket_eq_recorded_iff h).2 (.inr (not_severed_of_literals hliterals))

end Passage

theorem renderDocument_recorded (source : Source) (format : Format) (document : Document)
    (session : Session) (h : source.style.citation.mode = .inText) :
    let options := source.style.citation
    ∃ passages : List Passage,
      KeepsProse source format document (renderDocument source format document session).2
        passages ∧
      ∀ passage ∈ passages, passage.members ≠ [] →
        (passage.bracket options format = passage.recorded options format ↔
          format = .raw ∨ ¬Severed (passage.parts options)) := by
  intro options
  obtain ⟨passages, hkeeps, -⟩ := exists_passages source format document session h
  exact ⟨passages, hkeeps, fun passage _ hmembers => passage.bracket_eq_recorded_iff hmembers⟩

-- Markers that are complete in the title and in the brackets.
theorem recorded_of_italic_title :
    let options : CitationOptions :=
      { template := "[i]title[/i]".toList
        firstChars := "[b](".toList
        lastChars := ")[/b]".toList }
    let source := Source.make { citation := options }
      (.ofList [{ id := ['a'], values := .ofList [("title".toList, "Q & A".toList)] }])
    let document : Document := { citations := [{ id := ['a'] }], tail := ['.'] }
    let output := (renderDocument source .html document {}).2
    source.style.citation.mode = .inText ∧
      (∃ passages : List Passage, KeepsProse source .html document output passages ∧
        ∀ passage ∈ passages, passage.members ≠ [] →
          (passage.bracket options .html = passage.recorded options .html ↔
            Format.html = .raw ∨ ¬Severed (passage.parts options))) ∧
      output.citations.map (·.text) = ["<em>Q &amp; A</em>".toList] ∧
      output.text = "<strong>(<em>Q &amp; A</em>)</strong>.".toList := by
  intro options source document output
  refine ⟨rfl, renderDocument_recorded source .html document {} rfl, ?_⟩
  decide +kernel

-- The locator of a preface: with square brackets around it, it is read as a marker,
-- and nothing of the recorded text is printed.
theorem recorded_locator_read_as_marker :
    let options : CitationOptions :=
      { template := "pages".toList, firstChars := ['['], lastChars := [']'] }
    let source := Source.make { citation := options }
      (.ofList [{ id := ['a'], values := .ofList [("title".toList, "Essays".toList)] }])
    let document : Document :=
      { citations := [{ id := ['a'], textBefore := "See ".toList
                        values := .ofList [("pages".toList, ['i'])] }]
        tail := ['.'] }
    let output := (renderDocument source .plain document {}).2
    let recorded : Text := Format.plain.export options.firstChars ++
      output.citations.flatMap (·.text) ++ Format.plain.export options.lastChars
    output.citations.map (·.text) = [['i']] ∧ recorded = "[i]".toList ∧
      output.text ≠ "See ".toList ++ recorded ++ document.tail ∧ output.text = "See .".toList := by
  decide +kernel

end Referencing.Citation
