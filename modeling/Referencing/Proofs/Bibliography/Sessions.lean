import Referencing.Citation.Document
import Referencing.Proofs.Bibliography.Entries

namespace Referencing

open Markup Citation Bibliography

variable {source : Source} {format : Format}

namespace Bibliography

-- The last of the resources that has an entry, or else the one before them.
def lastListed (source : Source) (previous : Option Resource) (resources : List Resource) :
    Option Resource :=
  (resources.filter (isListed source)).getLast?.or previous

theorem lastListed_cons_of_none {resource : Resource} (previous : Option Resource)
    (rest : List Resource) (h : source.compiled.bibliographyTemplate? resource.type = none) :
    lastListed source previous (resource :: rest) = lastListed source previous rest := by
  have hlisted : ¬isListed source resource = true := by simp [isListed, h]
  rw [lastListed, List.filter_cons_of_neg hlisted, lastListed]

theorem lastListed_cons_of_some {resource : Resource} {template : Template}
    (previous : Option Resource) (rest : List Resource)
    (h : source.compiled.bibliographyTemplate? resource.type = some template) :
    lastListed source previous (resource :: rest) = lastListed source (some resource) rest := by
  have hlisted : isListed source resource = true := by simp [isListed, h]
  rw [lastListed, List.filter_cons_of_pos hlisted, List.getLast?_cons, lastListed]
  cases (rest.filter (isListed source)).getLast? <;> rfl

-- Entries leave behind the creators of the last one, and nothing else.
theorem renderFrom_fst (session : Session) (previous : Option Resource)
    (resources : List Resource)
    (h : session.history.lastCreators = previous.bind (creatorsOf? source)) :
    (renderFrom source format session resources).1 =
      { session with
        history :=
          { session.history with
            lastCreators := (lastListed source previous resources).bind (creatorsOf? source) } } := by
  induction resources generalizing session previous with
  | nil =>
    have hlast : lastListed source previous [] = previous := Option.none_or
    rw [hlast, ← h]
    rfl
  | cons resource rest ih =>
    cases htemplate : source.compiled.bibliographyTemplate? resource.type with
    | none =>
      rw [lastListed_cons_of_none previous rest htemplate, ← ih session previous h]
      simp only [renderFrom, renderEntry_of_none session htemplate]
    | some template =>
      have hrest := ih
        { session with
          history := { session.history with lastCreators := creatorsOf? source resource } }
        (some resource) rfl
      rw [lastListed_cons_of_some previous rest htemplate, ← hrest]
      simp only [renderFrom, renderEntry_of_some htemplate h]

theorem renderEntries_fst (session : Session) (resources : List Resource) :
    (renderEntries source format session resources).1 =
      { session with
        history :=
          { session.history with
            lastCreators := (lastListed source none resources).bind (creatorsOf? source) } } :=
  renderFrom_fst _ none resources rfl

-- The letters of the library are taken once: to take them again changes nothing,
-- also where the library needs none.
theorem disambiguated_of_history {session : Session} {history : History}
    (h : history.cited = session.history.cited) :
    disambiguated source { disambiguated source session with history := history } =
      { disambiguated source session with history := history } := by
  have hcited : history.hasCitations = session.history.hasCitations := by
    rw [History.hasCitations, h, History.hasCitations]
  by_cases hbare :
      session.disambiguation.ambiguous.isEmpty && !session.history.hasCitations
  · have hletters : disambiguated source session =
        { session with disambiguation := .ofLibrary source.library source.style.citation } :=
      if_pos hbare
    rw [hletters]
    exact ite_self _
  · have hletters : disambiguated source session = session := if_neg hbare
    rw [hletters]
    exact if_neg (by rw [hcited]; exact hbare)

theorem render_fst (session : Session) :
    (render source format session).1 =
      { disambiguated source session with
        history :=
          { session.history with
            lastCreators :=
              (lastListed source none source.library.resources).bind (creatorsOf? source) } } := by
  have hhistory : (disambiguated source session).history = session.history := by
    unfold disambiguated
    split <;> rfl
  rw [render, renderEntries_fst, hhistory]

-- A second bibliography finds the letters that the first one has used, and the
-- creators that the first one has left behind are forgotten at its beginning.
theorem render_after_render (source : Source) (shown format : Format) (session : Session) :
    render source format (render source shown session).1 =
      ((render source shown session).1, (render source format session).2) := by
  have hletters : disambiguated source (render source shown session).1 =
      (render source shown session).1 := by
    rw [render_fst]
    exact disambiguated_of_history rfl
  have hentries : (render source format (render source shown session).1).2 =
      (render source format session).2 := by
    rw [render, renderEntries_snd, hletters, render_fst, render, renderEntries_snd]
  have hsession : (render source format (render source shown session).1).1 =
      (render source shown session).1 := by
    rw [render_fst, hletters, render_fst]
  exact Prod.ext hsession hentries

end Bibliography

namespace Session

-- What can be done with a session: renderings, by whatever processor, and what is
-- set, recorded or forgotten by hand.
inductive Operation where
  | document (source : Source) (format : Format) (document : Document)
  | bibliography (source : Source) (format : Format)
  | entries (source : Source) (format : Format) (resources : List Resource)
  | entry (source : Source) (format : Format) (resource : Resource)
  | newDocument
  | setDisambiguation (state : Disambiguation)
  | setLastCreators (creators : Text)
  | resetCreators
  | record (id : Text) (pages : Option Text)
  | clearLastCitation
  | nextNote
  | noteIdFor (id : Text)
  | fixedNoteId (id : Text) (number : Nat)

inductive Answer where
  | done
  | document (output : Output)
  | entries (entries : List Entry)
  | entry (entry : Except NoTemplate Text)
  | note (number : Nat)
  | noteId (number : Nat) (isNew : Bool)

def perform (session : Session) : Operation → Session × Answer
  | .document source format document =>
    (renderDocument source format document session).map id .document
  | .bibliography source format => (render source format session).map id .entries
  | .entries source format resources =>
    (renderEntries source format session resources).map id .entries
  | .entry source format resource => (renderEntry source format session resource).map id .entry
  | .newDocument => (session.newDocument, .done)
  | .setDisambiguation state => (session.setDisambiguation state, .done)
  | .setLastCreators creators =>
    (session.withHistory (session.history.setLastCreators creators), .done)
  | .resetCreators => (session.withHistory session.history.resetCreators, .done)
  | .record id pages => (session.withHistory (session.history.record id pages), .done)
  | .clearLastCitation => (session.withHistory session.history.clearLastCitation, .done)
  | .nextNote =>
    let (number, history) := session.history.nextNote
    (session.withHistory history, .note number)
  | .noteIdFor id =>
    let ((number, isNew), history) := session.history.noteIdFor id
    (session.withHistory history, .noteId number isNew)
  | .fixedNoteId id number =>
    let ((number, isNew), history) := session.history.fixedNoteId id number
    (session.withHistory history, .noteId number isNew)

def run (session : Session) : List Operation → Session × List Answer
  | [] => (session, [])
  | operation :: rest =>
    let (session, answer) := session.perform operation
    let (session, answers) := run session rest
    (session, answer :: answers)

-- The session that operations lead to from a new one.
def after (operations : List Operation) : Session :=
  (run {} operations).1

-- A document sees of a session what is left of it at the boundary, which is nothing.
theorem renderDocument_newDocument (source : Source) (format : Format) (document : Document)
    (session : Session) :
    renderDocument source format document session.newDocument =
      renderDocument source format document session := rfl

theorem renderDocument_eq_of_sessions (source : Source) (format : Format) (document : Document)
    (session other : Session) :
    renderDocument source format document session =
      renderDocument source format document other := by
  have hforgotten : session.newDocument = other.newDocument := rfl
  rw [← renderDocument_newDocument, hforgotten, renderDocument_newDocument]

theorem run_document (source : Source) (format : Format) (document : Document)
    (session other : Session) (later : List Operation) :
    session.run (.document source format document :: later) =
      other.run (.document source format document :: later) := by
  have hstep : session.perform (.document source format document) =
      other.perform (.document source format document) := by
    rw [perform, perform, renderDocument_eq_of_sessions]
  rw [run, hstep, run]

-- What was done with a session before makes no difference to a document, nor to
-- anything that is done after the document; and a bibliography is the same each time,
-- in each format, and leaves nothing behind that was not there before it.
theorem renderings_keep_apart (source : Source) (format : Format) (document : Document)
    (earlier other : List Operation) :
    renderDocument source format document (after earlier) =
        renderDocument source format document (after other) ∧
      (∀ later, (after earlier).run (.document source format document :: later) =
        (after other).run (.document source format document :: later)) ∧
      ∀ shown,
        render source shown (render source shown (after earlier)).1 =
          render source shown (after earlier) ∧
        render source format (render source shown (after earlier)).1 =
          ((render source shown (after earlier)).1, (render source format (after earlier)).2) :=
  ⟨renderDocument_eq_of_sessions source format document _ _,
    run_document source format document _ _, fun shown =>
    ⟨render_after_render source shown shown _, render_after_render source shown format _⟩⟩

end Session

end Referencing
