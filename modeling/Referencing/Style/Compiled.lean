import Referencing.Style.Basic
import Referencing.Template.Compile

namespace Referencing

open Template

-- The templates of citations, one for each way of citing.
structure CitationTemplates where
  base : Template
  followCreator : Option Template
  consecutiveCreator : Option Template
  subsequent : Option Template
  ambiguous : Option Template
  ibid : Option Template
  idem : Option Template
  opCit : Option Template
  byType : Dict Template

-- A style with all its templates compiled.
structure CompiledStyle where
  bibliography : Dict Template
  fallback : Option Text
  footnote : Dict Template
  citation : CitationTemplates
  editorSwitch : Option Template

namespace CompiledStyle

-- The field names that a resource type may use.
def fieldsOfType (options : BibliographyOptions) (type : Text) : FieldSet :=
  (options.fieldNames.get? type).elim .bibliography .ofList

def compileTypes (options : BibliographyOptions) (templates : Dict Text) : Dict Template :=
  templates.mapValues fun type source => compile source (fieldsOfType options type)

def compileCitation (style : Style) : CitationTemplates :=
  let options := style.citation
  let optional (source : Option Text) : Option Template := source.map (compile · .citation)
  { base := compile options.template .citation
    followCreator := optional options.followCreatorTemplate
    consecutiveCreator := optional options.consecutiveCreatorTemplate
    subsequent := optional options.subsequentTemplate
    ambiguous := optional options.ambiguousTemplate
    ibid := optional options.ibidTemplate
    idem := optional options.idemTemplate
    opCit := optional options.opCitTemplate
    byType := options.typeTemplates.mapValues fun type source =>
      compile source
        (FieldSet.citation.extend ((style.bibliography.fieldNames.get? type).getD [])) }

-- A fallback type without a template is none.
def ofStyle (style : Style) : CompiledStyle :=
  let options := style.bibliography
  { bibliography := compileTypes options options.templates
    fallback := options.fallback.filter options.templates.contains
    footnote := compileTypes options style.footnote.templates
    citation := compileCitation style
    editorSwitch := options.editorSwitch.map fun switch =>
      compile switch.template (.ofList ["editor".toList]) }

-- The bibliography template of a type, or that of the fallback type.
def bibliographyTemplate? (style : CompiledStyle) (type : Text) : Option Template :=
  (style.bibliography.get? type).or (style.fallback.bind style.bibliography.get?)

def footnoteTemplate? (style : CompiledStyle) (type : Text) : Option Template :=
  style.footnote.get? type

private def labelled (label : Text) (template : Option Template) : List (Text × Diagnostic) :=
  (template.elim [] (·.diagnostics)).map fun diagnostic => (label, diagnostic)

private def labelledTypes (section_ : String) (templates : Dict Template) :
    List (Text × Diagnostic) :=
  templates.entries.flatMap fun (type, template) =>
    labelled (section_.toList ++ '.' :: type) (some template)

-- Everything odd about the templates of a style, with the place of the template.
def diagnostics (style : CompiledStyle) : List (Text × Diagnostic) :=
  let citation := style.citation
  labelledTypes "bibliography.templates" style.bibliography ++
    labelledTypes "footnote.templates" style.footnote ++
    labelledTypes "citation.type-templates" citation.byType ++
    [("citation.template", some citation.base),
      ("citation.follow-creator-template", citation.followCreator),
      ("citation.consecutive-creator-template", citation.consecutiveCreator),
      ("citation.subsequent-template", citation.subsequent),
      ("citation.ambiguous-template", citation.ambiguous),
      ("citation.ibid-template", citation.ibid),
      ("citation.idem-template", citation.idem),
      ("citation.op-cit-template", citation.opCit),
      ("bibliography.editor-switch", style.editorSwitch)].flatMap fun (label, template) =>
        labelled label.toList template

end CompiledStyle

end Referencing
