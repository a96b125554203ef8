/-
  Extensions of file names, and the kinds of sources they stand for.
-/
import PotCatalog.Message
import PotCatalog.Path
import PotCatalog.Text.Blank

namespace PotCatalog

/-- An extension without blanks around it and without dots before it. -/
def normalizeExtension (text : String) : String :=
  String.ofList ((trim text.toList).dropWhile (· == '.'))

/-- The extensions of templates and of scripts, normalized. -/
structure ExtensionMap where
  template : List String
  script : List String
  deriving DecidableEq, Repr

/-- The extensions of templates if nothing else is configured. -/
def defaultTemplateExtensions : List String := ["html", "njk", "jinja", "jinja2"]

/-- The extensions of scripts if nothing else is configured. -/
def defaultScriptExtensions : List String := ["js", "mjs", "cjs"]

namespace ExtensionMap

/-- The map of two lists of extensions. -/
def ofLists (template script : List String) : ExtensionMap :=
  ⟨template.map normalizeExtension, script.map normalizeExtension⟩

/-- The map if nothing else is configured. -/
def default : ExtensionMap := ofLists defaultTemplateExtensions defaultScriptExtensions

/-- The kind of an extension; templates come first. -/
def kindOf (m : ExtensionMap) (extension : String) : Option SourceKind :=
  if extension ∈ m.template then some .template
  else if extension ∈ m.script then some .script
  else none

/-- The kind of source that a path names. -/
def kindFor (m : ExtensionMap) (p : Path) : Option SourceKind := p.extension?.bind m.kindOf

/-- Whether a path names a source. -/
def supports (m : ExtensionMap) (p : Path) : Bool := (m.kindFor p).isSome

end ExtensionMap

end PotCatalog
