import Referencing.Style.Basic

namespace Referencing.Style

private def templates (entries : List (String × String)) : Dict Text :=
  Dict.ofList (entries.map fun (type, source) => (type.toList, source.toList))

-- A bibliography by author and date, with citations in parentheses.
def authorDate : Style where
  info :=
    { name := some "Author-date".toList
      description :=
        some "Author-date bibliography with parenthetical in-text citations.".toList }
  bibliography :=
    { primary :=
        { given := .initial
          truncation := some { moreThan := 5, limit := 3 }
          repeated := .replace
          repeatText := "---".toList }
      other :=
        { firstOrder := .firstLast
          given := .initial
          lastSeparator := " and ".toList }
      titleCase := .sentence
      editionForm := .ordinal
      pageForm := .expanded
      editorSwitch := some {}
      fallback := some "book".toList
      templates := templates
        [("book",
            "creator1. |year1. |[i]title[/i]|. edition edn" ++
              "|. publisherLocation|%: %. %publisherName|."),
          ("book_chapter",
            "creator1. |year1. |title. |In creator2 ^(ed.)^(eds.)^, |%%In %[i]collection[/i]" ++
              "|, ^p.^pp.^ pages|. publisherLocation|%: %. %publisherName|."),
          ("journal_article",
            "creator1. |year1. |title. |[i]collection[/i]|, volume|(issue)|, pages|."),
          ("film",
            "[i]title[/i]|. Directed by creator1|. publisherName|, year1| (runningTime)|."),
          ("web_article",
            "creator1. |year1. |title. |Available at: URL| (accessed date)|.")] }
  citation :=
    { creators :=
        { firstOrder := .lastOnly
          otherOrder := .lastOnly
          lastSeparator := " and ".toList
          truncation := some { moreThan := 3, limit := 1 } }
      followCreatorTemplate := some "year|: pages".toList
      consecutiveCreatorTemplate := some "year|: pages".toList }

-- Notes that abbreviate repetitions, and a bibliography.
def footnotes : Style where
  info :=
    { name := some "Footnote".toList
      description := some "Notes with ibid and op. cit., plus a bibliography.".toList }
  bibliography :=
    { other := { firstOrder := .firstLast }
      fallback := some "book".toList
      templates := templates
        [("book",
            "creator1. |[i]title[/i]|. publisherLocation|%: %. %publisherName|, year1|."),
          ("journal_article",
            "creator1. |\"title.\"| [i]collection[/i]| volume|, no. issue| (year1)|: pages|.")] }
  footnote :=
    { primary := { firstOrder := .firstLast }
      other := { firstOrder := .firstLast }
      templates := templates
        [("book",
            "creator1, |[i]title[/i]| (|publisherLocation|%: %%publisherName|%, %%year1" ++
              "|)|, pages|."),
          ("journal_article",
            "creator1, |\"title,\"| [i]collection[/i]| volume| (year1)|: pages|.")] }
  citation :=
    { mode := .endnote
      endnoteStyle := .footnote
      template := "creator, |[i]shortTitle[/i]|, pages|.".toList
      ibidTemplate := some "Ibid|., pages|.".toList
      idemTemplate := some "Ibid|., pages|.".toList
      opCitTemplate := some "creator, op. cit.|, pages|.".toList }

-- The styles that are known by name.
def bundled : List (Text × Style) :=
  [("author-date".toList, authorDate), ("footnote".toList, footnotes)]

-- The style used when none is named.
def defaultName : Text :=
  "author-date".toList

def named? (name : Text) : Option Style :=
  bundled.lookup name

end Referencing.Style
