import Referencing.Record.Resource
import Referencing.Style.Compiled
import Referencing.Template.Render
import Referencing.Value.Creators
import Referencing.Value.Date
import Referencing.Value.Pages
import Referencing.Value.RunningTime
import Referencing.Value.Title

namespace Referencing.Value

-- Where values are going to be printed.
inductive Context
  | bibliography
  | footnote
  | citation
  deriving DecidableEq, Repr

def Context.role (context : Context) (field : Text) : Role :=
  match context with
  | .bibliography => if field = "creator1".toList then .primary else .other
  | .footnote => if field = "creator1".toList then .footnotePrimary else .footnoteOther
  | .citation => .citation

-- Values ready to be printed, and which of them are plural.
structure Prepared where
  item : Item
  plurals : Plurals

namespace Prepared

def empty : Prepared := ⟨.empty, .empty⟩

def put (field : String) (value : Text) (prepared : Prepared) : Prepared :=
  { prepared with item := prepared.item.insert field.toList value }

-- A value that is not there leaves what was there.
def putSome (field : String) (value : Option Text) (prepared : Prepared) : Prepared :=
  value.elim prepared (prepared.put field ·)

def erase (field : String) (prepared : Prepared) : Prepared :=
  { prepared with item := prepared.item.erase field.toList }

def mark (field : String) (plural : Bool) (prepared : Prepared) : Prepared :=
  { prepared with plurals := prepared.plurals.insert field.toList plural }

def putCreators (field : Text) (creators : Creators) (prepared : Prepared) : Prepared :=
  ⟨prepared.item.insert field creators.text, prepared.plurals.insert field creators.isPlural⟩

def putPages (pages : Pages) (prepared : Prepared) : Prepared :=
  (prepared.mark "pages" pages.isPlural).put "pages" pages.text

end Prepared

-- Values that only serve to make other ones.
def consumedFields : List Text :=
  ["subtitle", "day", "month", "pageStart", "pageEnd"].map String.toList

-- The values as entered, without those that are consumed.
def entered (resource : Resource) : Prepared :=
  ⟨.ofList (resource.values.toList.filter (!consumedFields.contains ·.1)), .empty⟩

-- The creators of each field in the bundle of its role. Rewrites belong to the
-- bibliography.
def withCreators (style : Style) (context : Context) (resource : Resource) (prepared : Prepared) :
    Prepared :=
  (resource.creatorLists.entries.filter (·.2 ≠ [])).foldl (fun prepared (field, creators) =>
    let rewrite :=
      if context = .bibliography then style.bibliography.rewrite? resource.type field else none
    prepared.putCreators field
      (layoutCreators (style.bundle (context.role field)) rewrite creators)) prepared

-- Editors as the text of the trigger template.
def switchedEditors (style : Style) (switch : Template) (editors : CreatorList) : Creators :=
  let creators := layoutCreators style.bibliography.primary none editors
  let item := Item.ofList [("editor".toList, creators.text)]
  let plurals : Plurals := .ofList [("editor".toList, creators.isPlural)]
  { creators with text := switch.render item plurals }

-- Moves editors to the place of authors that are missing.
def switchEditors (style : Style) (compiled : CompiledStyle) (resource : Resource)
    (prepared : Prepared) : Prepared :=
  if prepared.item.has "creator1".toList then prepared
  else
    match resource.creators? "creator2".toList, compiled.editorSwitch with
    | some editors, some switch =>
      ((prepared.erase "creator2").mark "creator2" false).putCreators "creator1".toList
        (switchedEditors style switch editors)
    | _, _ => prepared

def titleCaseFor (style : Style) (context : Context) : TitleCase :=
  if context = .citation then style.citation.titleCase else style.bibliography.titleCase

def pageFormFor (style : Style) (context : Context) : PageForm :=
  if context = .citation then style.citation.pageForm else style.bibliography.pageForm

-- A page range takes precedence over a locator that was entered as one text.
def resourcePages (form : PageForm) (values : Item) : Option Pages :=
  match values.get? "pageStart".toList with
  | some start => some (layoutRange form start (values.get? "pageEnd".toList))
  | none => (values.get? "pages".toList).map (layoutPages form)

def withValues (style : Style) (context : Context) (resource : Resource) (prepared : Prepared) :
    Prepared :=
  let options := style.bibliography
  let value (field : String) : Option Text := resource.values.get? field.toList
  let titleCase := titleCaseFor style context
  let prepared := prepared
    |>.putSome "title" ((value "title").map (layoutTitle titleCase · (value "subtitle")))
    |>.putSome "shortTitle" ((value "shortTitle").map (layoutTitle titleCase · none))
    |>.putSome "date" (layoutDate options.dates (value "day") (value "month"))
    |>.putSome "edition" ((value "edition").map (layoutEdition options.editionForm))
  let prepared := (resourcePages (pageFormFor style context) resource.values).elim prepared
    (prepared.putPages ·)
  prepared.putSome "runningTime"
    ((value "runningTime").map (layoutRunningTime options.runningTimeForm))

-- What only citations have: the creators a resource is known by, its year, its
-- id.
def withCitationValues (style : Style) (resource : Resource) (prepared : Prepared) : Prepared :=
  let prepared := resource.primaryCreators?.elim prepared fun creators =>
    prepared.putCreators "creator".toList (layoutCreators style.citation.creators none creators)
  (prepared.putSome "year" resource.year?).put "id" resource.id

def prepare (style : Style) (compiled : CompiledStyle) (context : Context) (resource : Resource) :
    Prepared :=
  let prepared := withCreators style context resource (entered resource)
  let prepared :=
    if context = .bibliography then switchEditors style compiled resource prepared else prepared
  let prepared := withValues style context resource prepared
  if context = .citation then withCitationValues style resource prepared else prepared

-- The values of an occurrence replace those of the resource; its locator, or
-- the lack of one, replaces the pages.
def overlay (form : PageForm) (occurrence : Item) (prepared : Prepared) : Prepared :=
  let prepared := (prepared.erase "pages").mark "pages" false
  let prepared := { prepared with item := prepared.item.merge occurrence }
  ((occurrence.get? "pages".toList).map (layoutPages form)).elim prepared (prepared.putPages ·)

def prepareCitation (style : Style) (compiled : CompiledStyle) (occurrence : Item)
    (resource : Resource) : Prepared :=
  overlay style.citation.pageForm occurrence (prepare style compiled .citation resource)

end Referencing.Value
