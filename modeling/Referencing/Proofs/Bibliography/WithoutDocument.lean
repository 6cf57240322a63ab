import Mathlib.Data.List.Basic
import Referencing.CommandLine.Report
import Referencing.Proofs.Bibliography.Entries
import Referencing.Proofs.Citation.Ambiguity

namespace Referencing

namespace Bibliography

open Markup Citation CommandLine

variable {source : Source}

theorem disambiguation_renderDocument (source : Source) (format : Format) (document : Document)
    (session : Session) :
    (renderDocument source format document session).1.disambiguation =
      source.disambiguation document := rfl

-- Whether or not the letters of the library take the place of those that the
-- session has.
theorem disambiguated_eq_ofLibrary {session : Session}
    (h : session.disambiguation = .ofLibrary source.library source.style.citation) :
    (disambiguated source session).disambiguation =
      .ofLibrary source.library source.style.citation := by
  unfold disambiguated
  split
  · rfl
  · exact h

theorem entries_after_bare_citations (source : Source) (shown format : Format)
    (session : Session) :
    (render source format
        (renderDocument source shown (citationsFor source.library none) session).1).2 =
      (render source format {}).2 := by
  have hcited := disambiguation_renderDocument source shown (citationsFor source.library none)
    session
  have hletters : source.disambiguation (citationsFor source.library none) =
      .ofLibrary source.library source.style.citation :=
    Disambiguation.ofOccurrences_bare source.library source.style.citation
  have hfresh : (disambiguated source {}).disambiguation =
      .ofLibrary source.library source.style.citation := rfl
  rw [render, render, renderEntries_snd, renderEntries_snd,
    disambiguated_eq_ofLibrary (hcited.trans hletters), hfresh]

-- Citing every resource of the library once, as is done where there is no document,
-- makes no difference to the bibliography: not to its letters, not to its entries,
-- and not to what is reported when citations are asked for as well.
theorem render_without_document (source : Source) (format : Format) (session : Session) :
    let document := citationsFor source.library none
    (render source format (renderDocument source format document session).1).2 =
        (render source format {}).2 ∧
      Disambiguation.ofOccurrences source.library source.style.citation document.citations =
        Disambiguation.ofLibrary source.library source.style.citation ∧
      ∀ arguments : Arguments,
        (findings source none format arguments).entries =
          if arguments.bibliography then some (render source format {}).2 else none := by
  refine ⟨entries_after_bare_citations source format format session,
    Disambiguation.ofOccurrences_bare source.library source.style.citation, fun arguments => ?_⟩
  have hentries := entries_after_bare_citations source format format {}
  cases hcitations : arguments.citations with
  | false => simp only [findings, hcitations, Bool.false_eq_true, if_false]
  | true => simp only [findings, hcitations, if_true, hentries]

end Bibliography

end Referencing
