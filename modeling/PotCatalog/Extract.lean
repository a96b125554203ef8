/-
  Messages of one file.

  The source of a file is parsed according to its kind, and its calls are
  judged by the markers of that kind.
-/
import PotCatalog.Script.Sites
import PotCatalog.Template.Sites

namespace PotCatalog

/-- The call sites of a source of a kind. -/
def SourceKind.sites : SourceKind → String → Except ParseError (List CallSite)
  | .template => Template.sites
  | .script => Script.sites

/-- What calls yield. -/
def MarkerSet.collect (markers : MarkerSet) (file source : String) (calls : List CallSite) :
    Extraction :=
  ⟨markers.messages file calls, markers.refusals file source calls⟩

/-- What the source of a file yields. -/
def extract (kind : SourceKind) (file source : String) : Extraction :=
  match kind.sites source with
  | .ok calls => kind.markers.collect file source calls
  | .error e => .parseFailure file source e

end PotCatalog
