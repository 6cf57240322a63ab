import Referencing.Citation.Disambiguation
import Referencing.Citation.Draft
import Referencing.Value.Prepared

namespace Referencing.Citation

open Text Value

-- What citations are made from: a style, compiled, and a library.
structure Source where
  style : Style
  compiled : CompiledStyle
  library : Library

def Source.make (style : Style) (library : Library) : Source :=
  ⟨style, .ofStyle style, library⟩

-- The resource type of a citation; the occurrence may name one itself.
def typeOf (occurrence : Occurrence) (resource : Resource) : Text :=
  if occurrence.resourceType = [] then resource.type else occurrence.resourceType

-- Puts a letter after the year in the given field.
def withLetter (field : String) (letter : Option Text) (prepared : Prepared) : Prepared :=
  match letter, prepared.item.get? field.toList with
  | some letter, some year => prepared.put field (year ++ letter)
  | _, _ => prepared

def Source.prepare (source : Source) (state : Disambiguation) (occurrence : Occurrence)
    (resource : Resource) : Prepared :=
  withLetter "year" (state.letter? resource.id)
    (prepareCitation source.style source.compiled occurrence.values resource)

-- The template of a variant, or the base template where it has none.
def Source.template (source : Source) (variant : Variant) (type : Text) : Template :=
  let citation := source.compiled.citation
  let chosen :=
    match variant with
    | .base => none
    | .ambiguous => citation.ambiguous
    | .typeReplacement => citation.byType.get? type
    | .followCreator => citation.followCreator
    | .consecutiveCreator => citation.consecutiveCreator
    | .subsequent => citation.subsequent
    | .ibid => citation.ibid
    | .idem => citation.idem
    | .opCit => citation.opCit
  chosen.getD citation.base

-- Whether a resource is to be told apart by the template made for that.
def Source.usesAmbiguous (source : Source) (state : Disambiguation) (id : Text) : Bool :=
  source.style.citation.ambiguity = .template && state.isAmbiguous id &&
    source.compiled.citation.ambiguous.isSome

-- Two texts with a space between them unless there is white space already.
def joinWords (left right : Text) : Text :=
  if left = [] || right = [] || left.getLast?.any isBlank || right.head?.any isBlank then
    left ++ right
  else left ++ ' ' :: right

-- The texts that an occurrence puts before and after its citation.
def withAffixes (occurrence : Occurrence) (text : Text) : Text :=
  let before := occurrence.preText.filter (!isBlankText ·)
  let after := occurrence.postText.filter (!isBlankText ·)
  let text := before.elim text (joinWords · text)
  after.elim text (joinWords text ·)

end Referencing.Citation
