import Referencing.Template.Bracket
import Referencing.Template.Slot
import Referencing.Text.Blank

namespace Referencing.Template

open Text Markup

-- The closing text is left out where it would be idle.
def appendUltimate (body ultimate : Text) : Text :=
  match lastVisible (trimEnd body), (trimStart ultimate).head? with
  | some last, some lead => if isIdle last lead then body else body ++ ultimate
  | _, _ => body ++ ultimate

-- Several spaces in a row become one. Only the space itself is meant, not other
-- white space.
def collapseSpaces : Text → Text
  | ' ' :: ' ' :: rest => collapseSpaces (' ' :: rest)
  | c :: rest => c :: collapseSpaces rest
  | [] => []

-- The texts of the fields with the pairs attached.
def body (template : Template) (item : Item) (plurals : Plurals) : Text :=
  let printed := (slots template item plurals).map (·.map Slot.text)
  ((attachAll template.pairs printed).map (·.getD [])).flatten

-- Leading text is printed even when no field is there, closing text only after
-- something.
def render (template : Template) (item : Item) (plurals : Plurals) : Text :=
  let fields := body template item plurals
  if template.preliminary.isNone && fields.isEmpty then []
  else
    let text := template.preliminary.getD [] ++ fields
    trim (collapseSpaces (template.ultimate.elim text (appendUltimate text)))

end Referencing.Template
