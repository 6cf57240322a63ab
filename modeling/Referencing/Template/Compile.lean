import Referencing.Template.Compiled
import Referencing.Template.Segment
import Referencing.Text.Blank

namespace Referencing.Template

open Text

-- What has been gathered from the segments read so far. `leading` is the first
-- independent text before any field, `trailing` the one that ends the template
-- when the texts queued before it pair up.
structure Progress where
  fields : Dict FieldSpec := Dict.empty
  leading : Option Independent := none
  queue : List Independent := []
  trailing : Option Text := none
  diagnostics : List Diagnostic := []

def Progress.report (progress : Progress) (diagnostics : List Diagnostic) : Progress :=
  { progress with diagnostics := progress.diagnostics ++ diagnostics }

def Progress.addField (progress : Progress) (found : Located) : Progress :=
  let (spec, diagnostics) := FieldSpec.read found.name found.before found.after
  let again := if progress.fields.contains found.name then [.duplicateField found.name] else []
  { progress.report (diagnostics ++ again) with
    fields := progress.fields.insert found.name spec }

-- Before the first field one independent text is kept; later ones are ignored.
def Progress.addIndependent (progress : Progress) (isLast : Bool) (found : Independent) :
    Progress :=
  if found.position = 0 then
    match progress.leading with
    | none => { progress with leading := some found }
    | some _ => progress.report [.ignoredLeadingText found.text]
  else if isLast && progress.queue.length % 2 = 0 then
    { progress with trailing := some found.text }
  else
    { progress with queue := progress.queue ++ [found] }

def Progress.addSegment (names : FieldSet) (isLast : Bool) (progress : Progress) (segment : Text) :
    Progress :=
  match locate names segment with
  | some found => progress.addField found
  | none => progress.addIndependent isLast (.read segment progress.fields.size)

def Progress.addSegments (names : FieldSet) (progress : Progress) : List Text → Progress
  | [] => progress
  | segment :: rest =>
    (progress.addSegment names rest.isEmpty segment).addSegments names rest

-- The independent texts once it is decided which of them lead and close.
structure Arrangement where
  preliminary : Option Text
  ultimate : Option Text
  bracketing : List Independent

private def isAt (queue : List Independent) (position : Nat) : Bool :=
  queue.any (·.position = position)

-- Of three texts one at the very start leads, or one at the very end closes; an
-- even number that touches both ends gives up both; an odd number gives up the
-- first text if it stands at the start and the last one otherwise.
def arrange (fieldCount : Nat) (queue : List Independent) : Arrangement :=
  let first := queue.head?.map (·.text)
  let last := queue.getLast?.map (·.text)
  if queue.length = 3 && queue.head?.any (·.position = 0) then
    ⟨first, none, queue.tail⟩
  else if queue.length = 3 && isAt queue fieldCount then
    ⟨none, last, queue.dropLast⟩
  else if queue ≠ [] && queue.length % 2 = 0 && isAt queue 0 && isAt queue fieldCount then
    ⟨first, last, queue.tail.dropLast⟩
  else if queue.length % 2 = 1 then
    if isAt queue 0 then ⟨first, none, queue.tail⟩ else ⟨none, last, queue.dropLast⟩
  else ⟨none, none, queue⟩

-- The leading text joins the queue unless it would be alone there.
def arrangeWithLeading (fieldCount : Nat) (leading : Option Independent)
    (queue : List Independent) : Arrangement :=
  match leading with
  | none => arrange fieldCount queue
  | some lead =>
    if queue = [] then ⟨some lead.text, none, []⟩ else arrange fieldCount (lead :: queue)

def pairUp : List Independent → List Pair
  | opening :: closing :: rest =>
    ⟨opening.text, opening.alternative, closing.text, closing.alternative,
      opening.position, closing.position⟩ :: pairUp rest
  | _ => []

private def nonEmpty (text : Option Text) : Option Text :=
  text.filter (· ≠ [])

-- The closing text of the arrangement has precedence over the trailing one.
def Progress.finish (progress : Progress) : Template :=
  let arrangement := arrangeWithLeading progress.fields.size progress.leading progress.queue
  let pairs := pairUp arrangement.bracketing
  let discarded :=
    if arrangement.ultimate.isSome then progress.trailing.toList.map .discardedIndependent else []
  let hollow := (pairs.filter fun pair => pair.stop ≤ pair.first).map fun pair =>
    .emptyIndependentPair pair.opening pair.closing
  { fields := progress.fields
    preliminary := nonEmpty arrangement.preliminary
    ultimate := nonEmpty (arrangement.ultimate.or progress.trailing)
    pairs := pairs
    diagnostics := progress.diagnostics ++ discarded ++ hollow }

-- Without any field the whole template is leading text.
def Progress.finishWithoutField (progress : Progress) (segments : List Text) : Template :=
  { blank with
    preliminary := nonEmpty (some (segments.flatMap (without tick)))
    diagnostics := progress.diagnostics ++ [.noRecognizedField] }

def segments (source : Text) : List Text :=
  (split '|' source).filter (· ≠ [])

def compile (source : Text) (names : FieldSet) : Template :=
  if isBlankText source then blank
  else
    let pieces := segments source
    let progress := Progress.addSegments names {} pieces
    if progress.fields.entries = [] then progress.finishWithoutField pieces
    else progress.finish

end Referencing.Template
