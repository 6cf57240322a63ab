import Referencing.CommandLine.Run
import Referencing.Proofs.Bibliography.Writing
import Referencing.Proofs.Markup.Unaltered

namespace Referencing.CommandLine

open Text Markup Citation Bibliography Loading

-- The texts of a report.
def Findings.citationTexts (found : Findings) : Option (List Text) :=
  found.citations.map fun output => output.citations.map (·.text)

def Findings.documentText (found : Findings) : Option Text :=
  found.citations.map (·.text)

def Findings.entryTexts (found : Findings) : Option (List Text) :=
  found.entries.map (List.map (·.text))

-- What is found before it is exported.
structure Drafts where
  citations : Option Draft
  entries : Option (List Entry)

def drafts (source : Source) (document : Option Document) (arguments : Arguments) : Drafts :=
  let (session, citations) :=
    if arguments.citations then
      (draftDocument source (citationsFor source.library document) {}).map id some
    else ({}, none)
  let entries :=
    if arguments.bibliography then
      some (writeEntries source id (disambiguated source session) source.library.resources).2
    else none
  ⟨citations, entries⟩

def neutral? : Stretch → Option Text
  | .prose _ => none
  | .markup text => some text

-- The neutral texts of the citations, of what is exported of the document, and of the entries.
def Drafts.citationTexts (drafts : Drafts) : List Text :=
  drafts.citations.toList.flatMap fun draft => draft.citations.map (·.text)

def Drafts.documentTexts (drafts : Drafts) : List Text :=
  drafts.citations.toList.flatMap fun draft => draft.stretches.filterMap neutral?

def Drafts.entryTexts (drafts : Drafts) : List Text :=
  drafts.entries.toList.flatMap (List.map (·.text))

def Drafts.export (format : Format) (drafts : Drafts) : Findings where
  citations := drafts.citations.map (·.export format)
  entries := drafts.entries.map (List.map (Entry.convert format.export))

-- The format makes no difference to what is found.
theorem findings_eq_export (source : Source) (document : Option Document) (format : Format)
    (arguments : Arguments) :
    findings source document format arguments =
      (drafts source document arguments).export format := by
  have hrender : ∀ session, (Bibliography.render source format session).2 =
      (writeEntries source id (disambiguated source session) source.library.resources).2.map
        (Entry.convert format.export) := by
    intro session
    rw [Bibliography.render, renderEntries_eq_writeEntries, writeEntries_eq]
    rfl
  unfold findings drafts Drafts.export renderDocument
  simp only [hrender]
  cases arguments.citations <;> cases arguments.bibliography <;> rfl

section Agreement

variable (drafts : Drafts) (format : Format)

-- Texts that are exported one by one.
theorem map_export_eq_iff {α : Type*} (text : α → Text) (items : List α) :
    (items.map fun item => Format.plain.export (text item)) =
        items.map (fun item => format.export (text item)) ↔
      ∀ neutral ∈ items.map text, format.Spares neutral := by
  rw [List.map_inj_left, List.forall_mem_map]
  exact forall₂_congr fun item _ => format.export_plain_eq_iff (text item)

theorem citationTexts_export_eq_iff :
    (drafts.export .plain).citationTexts = (drafts.export format).citationTexts ↔
      ∀ text ∈ drafts.citationTexts, format.Spares text := by
  obtain ⟨none | draft, entries⟩ := drafts
  · exact iff_of_true rfl (List.forall_mem_nil _)
  · have hiff := map_export_eq_iff format Cited.text draft.citations
    simpa [Drafts.export, Draft.export, Findings.citationTexts, Drafts.citationTexts] using hiff

theorem entryTexts_export_eq_iff :
    (drafts.export .plain).entryTexts = (drafts.export format).entryTexts ↔
      ∀ text ∈ drafts.entryTexts, format.Spares text := by
  obtain ⟨citations, none | entries⟩ := drafts
  · exact iff_of_true rfl (List.forall_mem_nil _)
  · have hiff := map_export_eq_iff format Entry.text entries
    simpa [Drafts.export, Entry.convert, Findings.entryTexts, Drafts.entryTexts] using hiff

theorem length_stretch_export_le (stretch : Stretch) :
    (stretch.export .plain).length ≤ (stretch.export format).length := by
  cases stretch with
  | prose text => exact le_rfl
  | markup text => exact format.length_export_plain_le text

theorem stretch_export_eq_iff (stretch : Stretch) :
    stretch.export .plain = stretch.export format ↔
      ∀ text, neutral? stretch = some text → format.Spares text := by
  cases stretch with
  | prose text => exact iff_of_true rfl (by simp [neutral?])
  | markup text => simpa [Stretch.export, neutral?] using format.export_plain_eq_iff text

theorem documentText_export_eq_iff :
    (drafts.export .plain).documentText = (drafts.export format).documentText ↔
      ∀ text ∈ drafts.documentTexts, format.Spares text := by
  obtain ⟨none | draft, entries⟩ := drafts
  · exact iff_of_true rfl (List.forall_mem_nil _)
  · have hiff := flatMap_eq_iff fun stretch (_ : stretch ∈ draft.stretches) =>
      length_stretch_export_le format stretch
    simp only [stretch_export_eq_iff] at hiff
    simp only [Drafts.documentTexts, Option.toList_some, List.flatMap_singleton,
      List.mem_filterMap]
    refine (Option.some_inj.trans hiff).trans ⟨?_, fun h stretch hmem text htext => ?_⟩
    · rintro h text ⟨stretch, hmem, htext⟩
      exact h stretch hmem text htext
    · exact h text ⟨stretch, hmem, htext⟩

end Agreement

section Runs

-- What a run reports on.
structure Inputs where
  styleName : Text
  source : Source
  document : Option Document

def inputs (files : Text → Content) (arguments : Arguments) : Except Problem Inputs := do
  let (styleName, style) ← resolveStyle files arguments.style
  let library ← loadAs (.library arguments.library)
    (loadLibrary arguments.library (files arguments.library))
  let document ←
    match arguments.document with
    | none => .ok none
    | some path => (loadAs (.document path) (loadDocument path (files path))).map some
  .ok ⟨styleName, Source.make style library, document⟩

def Inputs.findings (loaded : Inputs) (format : Format) (arguments : Arguments) : Findings :=
  CommandLine.findings loaded.source loaded.document format arguments

def Inputs.drafts (loaded : Inputs) (arguments : Arguments) : Drafts :=
  CommandLine.drafts loaded.source loaded.document arguments

-- The report for a program takes no notice of the format.
def Inputs.report (loaded : Inputs) (arguments : Arguments) : Text :=
  if arguments.json then
    Json.pretty 0 (structured loaded.styleName loaded.source.library.size loaded.document.isSome
      (loaded.findings .plain arguments)) ++ ['\n']
  else
    readable loaded.styleName loaded.document.isSome (loaded.findings arguments.format arguments)

variable (files : Text → Content) {arguments : Arguments}

theorem report_eq (arguments : Arguments) (styleName : Text) (style : Style)
    (h : resolveStyle files arguments.style = .ok (styleName, style)) :
    report files arguments styleName style =
      (inputs files arguments).map fun loaded => loaded.report arguments := by
  unfold report inputs Inputs.report
  rw [h]
  simp only [bind, Except.bind]
  cases loadAs (.library arguments.library)
      (loadLibrary arguments.library (files arguments.library)) with
  | error problem => rfl
  | ok library =>
    cases arguments.document with
    | none => cases arguments.json <;> rfl
    | some path =>
      dsimp only
      cases loadAs (.document path) (loadDocument path (files path)) with
      | error problem => rfl
      | ok document => cases arguments.json <;> rfl

theorem ok_of_mem_toOption {α β : Type*} {result : Except α β} {value : β}
    (h : value ∈ result.toOption) : result = .ok value := by
  cases result with
  | error problem => cases h
  | ok other => exact congrArg Except.ok (Option.some.inj h)

theorem run_eq {words : List Text} (h : Arguments.parse? words = some arguments)
    (hcheck : arguments.check = false) :
    run files words =
      match inputs files arguments with
      | .ok loaded => .done (loaded.report arguments)
      | .error problem => .failed [] problem := by
  rw [run, h]
  cases hstyle : resolveStyle files arguments.style with
  | error problem => simp [hstyle, inputs, bind, Except.bind]
  | ok named =>
    obtain ⟨styleName, style⟩ := named
    simp only [hstyle, hcheck, report_eq files arguments styleName style hstyle]
    cases inputs files arguments <;> rfl

-- Two command lines that differ in the kind of report come to nothing for the same reason,
-- or report on the same citations and entries in the same order. The report for a program
-- has the texts that the reader's report has for plain text, whatever the format; so one of its
-- texts is the reader's exactly if the format writes what is exported of it as plain text does.
theorem reports_agree_iff {reader program : List Text}
    (hreader : Arguments.parse? reader = some { arguments with json := false })
    (hprogram : Arguments.parse? program = some { arguments with json := true })
    (hcheck : arguments.check = false) :
    (∀ problem, inputs files arguments = .error problem →
      run files reader = .failed [] problem ∧ run files program = .failed [] problem) ∧
    ∀ loaded, inputs files arguments = .ok loaded →
      let shown := loaded.findings arguments.format arguments
      let printed := loaded.findings .plain arguments
      let drafts := loaded.drafts arguments
      run files reader = .done (readable loaded.styleName loaded.document.isSome shown) ∧
      run files program = .done (Json.pretty 0 (structured loaded.styleName
        loaded.source.library.size loaded.document.isSome printed) ++ ['\n']) ∧
      shown = drafts.export arguments.format ∧ printed = drafts.export .plain ∧
      (printed.citationTexts = shown.citationTexts ↔
        ∀ text ∈ drafts.citationTexts, arguments.format.Spares text) ∧
      (printed.documentText = shown.documentText ↔
        ∀ text ∈ drafts.documentTexts, arguments.format.Spares text) ∧
      (printed.entryTexts = shown.entryTexts ↔
        ∀ text ∈ drafts.entryTexts, arguments.format.Spares text) := by
  have hread := run_eq files hreader hcheck
  have hprint := run_eq files hprogram hcheck
  have hinputs : ∀ json, inputs files { arguments with json := json } = inputs files arguments :=
    fun _ => rfl
  rw [hinputs] at hread hprint
  constructor
  · intro problem hproblem
    rw [hproblem] at hread hprint
    exact ⟨hread, hprint⟩
  · intro loaded hloaded shown printed drafts
    rw [hloaded] at hread hprint
    have hexport : ∀ format, loaded.findings format arguments = drafts.export format :=
      fun format => findings_eq_export _ _ format _
    refine ⟨hread, hprint, hexport _, hexport _, ?_, ?_, ?_⟩
    all_goals simp only [shown, printed, hexport]
    · exact citationTexts_export_eq_iff drafts arguments.format
    · exact documentText_export_eq_iff drafts arguments.format
    · exact entryTexts_export_eq_iff drafts arguments.format

end Runs

section Books

-- A library with one book, and a style that cites and lists it in one way.
def bookFiles (template : String) (path : Text) : Content :=
  if path = "library.yaml".toList then
    .ok "- id: a\n  type: book\n  fields:\n    title: Essays".toUTF8
  else if path = "style.yaml".toList then
    .ok ("citation:\n  template: '" ++ template ++
      "'\nbibliography:\n  templates:\n    book: '" ++ template ++ "'").toUTF8
  else .error .missing

def bookWords : List Text :=
  ["-l", "library.yaml", "-s", "style.yaml", "-f", "html"].map String.toList

def bookArguments : Arguments where
  style := some "style.yaml".toList
  library := "library.yaml".toList
  document := none
  format := .html
  bibliography := true
  citations := true
  json := false
  check := false

theorem parse?_bookWords : Arguments.parse? bookWords = some bookArguments := by
  decide

theorem parse?_bookWords_json :
    Arguments.parse? (bookWords ++ ["--json".toList]) =
      some { bookArguments with json := true } := by
  decide

theorem reports_agree_of_bare_title :
    ∃ loaded, inputs (bookFiles "title") bookArguments = .ok loaded ∧
      run (bookFiles "title") bookWords = .done (readable loaded.styleName
        loaded.document.isSome (loaded.findings .html bookArguments)) ∧
      (loaded.findings .html bookArguments).entryTexts = some ["Essays".toList] ∧
      (loaded.findings .plain bookArguments).entryTexts =
        (loaded.findings .html bookArguments).entryTexts := by
  have hfound : ∃ loaded ∈ (inputs (bookFiles "title") bookArguments).toOption,
      (∀ text ∈ (loaded.drafts bookArguments).entryTexts, Format.html.Spares text) ∧
      (loaded.findings .html bookArguments).entryTexts = some ["Essays".toList] := by
    decide +kernel
  obtain ⟨loaded, hmem, hspared, hentries⟩ := hfound
  have hloaded := ok_of_mem_toOption hmem
  obtain ⟨hread, -, -, -, -, -, hlisted⟩ :=
    (reports_agree_iff (bookFiles "title") parse?_bookWords parse?_bookWords_json rfl).2
      loaded hloaded
  exact ⟨loaded, hloaded, hread, hentries, hlisted.2 hspared⟩

-- The report for a program loses the italics that the reader's report has.
theorem reports_differ_of_italic_title :
    ∃ loaded, inputs (bookFiles "[i]title[/i]") bookArguments = .ok loaded ∧
      let shown := loaded.findings .html bookArguments
      let printed := loaded.findings .plain bookArguments
      run (bookFiles "[i]title[/i]") bookWords = .done (readable loaded.styleName false shown) ∧
      run (bookFiles "[i]title[/i]") (bookWords ++ ["--json".toList]) =
        .done (Json.pretty 0 (structured loaded.styleName 1 false printed) ++ ['\n']) ∧
      shown.citationTexts = some ["<em>Essays</em>".toList] ∧
      printed.citationTexts = some ["Essays".toList] ∧
      shown.entryTexts = some ["<em>Essays</em>".toList] ∧
      printed.entryTexts = some ["Essays".toList] := by
  have hfound : ∃ loaded ∈ (inputs (bookFiles "[i]title[/i]") bookArguments).toOption,
      loaded.source.library.size = 1 ∧ loaded.document.isSome = false ∧
      (loaded.findings .html bookArguments).citationTexts = some ["<em>Essays</em>".toList] ∧
      (loaded.findings .plain bookArguments).citationTexts = some ["Essays".toList] ∧
      (loaded.findings .html bookArguments).entryTexts = some ["<em>Essays</em>".toList] ∧
      (loaded.findings .plain bookArguments).entryTexts = some ["Essays".toList] := by
    decide +kernel
  obtain ⟨loaded, hmem, hsize, hdocument, htexts⟩ := hfound
  have hloaded := ok_of_mem_toOption hmem
  have hinputs : inputs (bookFiles "[i]title[/i]") { bookArguments with json := true } =
      .ok loaded := hloaded
  have hread := run_eq (bookFiles "[i]title[/i]") parse?_bookWords rfl
  have hprint := run_eq (bookFiles "[i]title[/i]") parse?_bookWords_json rfl
  rw [hloaded] at hread
  rw [hinputs] at hprint
  refine ⟨loaded, hloaded, ?_, ?_, htexts⟩
  · rw [hread, ← hdocument]
    rfl
  · rw [hprint, ← hdocument, ← hsize]
    rfl

end Books

end Referencing.CommandLine
