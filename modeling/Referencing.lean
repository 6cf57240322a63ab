import Referencing.Bibliography
import Referencing.Citation.Disambiguation
import Referencing.Citation.Document
import Referencing.Citation.Draft
import Referencing.Citation.InText
import Referencing.Citation.Mention
import Referencing.Citation.Sentence
import Referencing.Citation.Source
import Referencing.CommandLine.Arguments
import Referencing.CommandLine.Report
import Referencing.CommandLine.Run
import Referencing.Data.Decimal
import Referencing.Data.Dialect
import Referencing.Data.Dict
import Referencing.Data.Double
import Referencing.Data.Field
import Referencing.Data.Form
import Referencing.Data.Json
import Referencing.Data.Json.Plain
import Referencing.Data.Json.Printer
import Referencing.Data.Json.Reader
import Referencing.Data.Tree
import Referencing.Data.Yaml
import Referencing.Data.Yaml.Character
import Referencing.Data.Yaml.Layout
import Referencing.Data.Yaml.Reader
import Referencing.Data.Yaml.Scalar
import Referencing.Loading
import Referencing.Main
import Referencing.Markup.Export
import Referencing.Markup.Marker
import Referencing.Markup.Medium
import Referencing.Markup.Scan
import Referencing.Markup.Visible
import Referencing.Proofs.Bibliography.Entries
import Referencing.Proofs.Bibliography.Repetition
import Referencing.Proofs.Bibliography.Sessions
import Referencing.Proofs.Bibliography.WithoutDocument
import Referencing.Proofs.Bibliography.Writing
import Referencing.Proofs.Citation.Accounting
import Referencing.Proofs.Citation.Ambiguity
import Referencing.Proofs.Citation.CollatedNotes
import Referencing.Proofs.Citation.Endnotes
import Referencing.Proofs.Citation.FirstCitations
import Referencing.Proofs.Citation.Identities
import Referencing.Proofs.Citation.Known
import Referencing.Proofs.Citation.LetterNumbers
import Referencing.Proofs.Citation.Locators
import Referencing.Proofs.Citation.Mentions
import Referencing.Proofs.Citation.NameSearch
import Referencing.Proofs.Citation.NoteNumbers
import Referencing.Proofs.Citation.NoteRun
import Referencing.Proofs.Citation.NoteVariants
import Referencing.Proofs.Citation.Passages
import Referencing.Proofs.Citation.Printed
import Referencing.Proofs.Citation.Prose
import Referencing.Proofs.Citation.Recorded
import Referencing.Proofs.Citation.RepeatedLocators
import Referencing.Proofs.Citation.SentenceEnds
import Referencing.Proofs.Citation.StableLetters
import Referencing.Proofs.Citation.TextVariants
import Referencing.Proofs.Citation.YearLetters
import Referencing.Proofs.CommandLine.Reports
import Referencing.Proofs.Data.Forms
import Referencing.Proofs.Data.Options
import Referencing.Proofs.Data.Sorting
import Referencing.Proofs.Markup.Closings
import Referencing.Proofs.Markup.Html
import Referencing.Proofs.Markup.Joins
import Referencing.Proofs.Markup.LookAround
import Referencing.Proofs.Markup.Nesting
import Referencing.Proofs.Markup.Rtf
import Referencing.Proofs.Markup.Scanning
import Referencing.Proofs.Markup.Unaltered
import Referencing.Proofs.Markup.VisibleEnds
import Referencing.Proofs.Markup.WellMarked
import Referencing.Proofs.Style.RoundTrip
import Referencing.Proofs.Style.Unmentioned
import Referencing.Proofs.Template.Affixes
import Referencing.Proofs.Template.Agreement
import Referencing.Proofs.Template.Alternatives
import Referencing.Proofs.Template.Arranging
import Referencing.Proofs.Template.Attaching
import Referencing.Proofs.Template.Balance
import Referencing.Proofs.Template.Bracketing
import Referencing.Proofs.Template.CleanUp
import Referencing.Proofs.Template.Fallbacks
import Referencing.Proofs.Template.Fields
import Referencing.Proofs.Template.Keeping
import Referencing.Proofs.Template.Layout
import Referencing.Proofs.Template.Lexemes
import Referencing.Proofs.Template.Lexing
import Referencing.Proofs.Template.Locating
import Referencing.Proofs.Template.PairOrder
import Referencing.Proofs.Template.Places
import Referencing.Proofs.Template.Quotations
import Referencing.Proofs.Template.Reading
import Referencing.Proofs.Template.Rebuilding
import Referencing.Proofs.Template.Recognition
import Referencing.Proofs.Template.Reports
import Referencing.Proofs.Template.Scanner
import Referencing.Proofs.Template.Spans
import Referencing.Proofs.Template.Stripped
import Referencing.Proofs.Template.Texts
import Referencing.Proofs.Template.Thinning
import Referencing.Proofs.Template.WellFormed
import Referencing.Proofs.Text.Joined
import Referencing.Proofs.Text.Trimmed
import Referencing.Proofs.Value.Abbreviation
import Referencing.Proofs.Value.EditorSwitch
import Referencing.Proofs.Value.Initials
import Referencing.Proofs.Value.Overlay
import Referencing.Proofs.Value.PageRanges
import Referencing.Proofs.Value.SinglePages
import Referencing.Proofs.Value.Titles
import Referencing.Record.Creator
import Referencing.Record.Document
import Referencing.Record.Item
import Referencing.Record.Library
import Referencing.Record.Resource
import Referencing.Session
import Referencing.Style.Basic
import Referencing.Style.Bibliography
import Referencing.Style.Bundled
import Referencing.Style.Citation
import Referencing.Style.Compiled
import Referencing.Style.Creators
import Referencing.Style.Values
import Referencing.Template.Affix
import Referencing.Template.Bracket
import Referencing.Template.Compile
import Referencing.Template.Compiled
import Referencing.Template.Diagnostic
import Referencing.Template.FieldSet
import Referencing.Template.Render
import Referencing.Template.Segment
import Referencing.Template.Slot
import Referencing.Template.Token
import Referencing.Text.Alphabetic
import Referencing.Text.Basic
import Referencing.Text.Blank
import Referencing.Text.Bytes
import Referencing.Text.CaseMapping
import Referencing.Text.Cased
import Referencing.Text.LetterCase
import Referencing.Text.Lowercase
import Referencing.Text.Numeral
import Referencing.Text.Printable
import Referencing.Text.Ranges
import Referencing.Text.WordCharacter
import Referencing.Value.Creators
import Referencing.Value.Date
import Referencing.Value.Name
import Referencing.Value.Ordinal
import Referencing.Value.Pages
import Referencing.Value.Prepared
import Referencing.Value.RunningTime
import Referencing.Value.Title
