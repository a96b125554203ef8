/-
  Paths.

  A path is a text cut into parts at its slashes.

  * `components` are the parts that matter: empty parts are dropped, and so is
    a single dot unless the path starts with it;
  * `join`, `parent?`, `fileName?` and `extension?` are arithmetic on the text
    of a path and look at no file;
  * `displayPath` is the name of a path below a base directory.

  Paths and the names of files are texts here: those whose bytes are not valid
  UTF-8 are left out of `Path`, and so of all trees of files.  `RawPath` has the
  paths of any bytes, with their names below a base directory.
-/

namespace PotCatalog

/-! ## Parts -/

/-- The parts of a text between its slashes.  There is always at least one,
    perhaps an empty one. -/
def splitSlash : List Char → List (List Char)
  | [] => [[]]
  | c :: cs =>
    if c = '/' then [] :: splitSlash cs
    else match splitSlash cs with
      | [] => [[c]]
      | part :: parts => (c :: part) :: parts

/-- Parts with a slash between any two of them. -/
def joinSlash : List (List Char) → List Char
  | [] => []
  | [part] => part
  | part :: parts => part ++ '/' :: joinSlash parts

/-- Whether a part leads nowhere: it is empty or a single dot. -/
def isIdlePart (part : List Char) : Bool := part.isEmpty || part == ['.']

/-- Parts without the idle ones at their end. -/
def trimParts (parts : List (List Char)) : List (List Char) :=
  (parts.reverse.dropWhile isIdlePart).reverse

/-! ## Paths -/

/-- A path. -/
structure Path where
  text : String
  deriving DecidableEq, Repr, Inhabited

/-- A step of a path. -/
inductive Component where
  | root
  | current
  | parent
  | name (text : String)
  deriving DecidableEq, Repr

/-- A step as it is written. -/
def Component.text : Component → String
  | root => "/"
  | current => "."
  | parent => ".."
  | name text => text

/-- The step that a part inside a path stands for, if it is not idle. -/
def Component.ofPart? (part : List Char) : Option Component :=
  if isIdlePart part then none
  else if part = ['.', '.'] then some .parent
  else some (.name (String.ofList part))

/-- What a path starts at. -/
inductive Anchor where
  | root
  /-- The working directory, written as a dot. -/
  | current
  /-- The working directory, not written. -/
  | plain
  deriving DecidableEq, Repr

namespace Path

/-- Where a path starts, and the parts behind that. -/
def anatomy (p : Path) : Anchor × List (List Char) :=
  match splitSlash p.text.toList with
  | [] :: part :: parts => (.root, part :: parts)
  | ['.'] :: parts => (.current, parts)
  | parts => (.plain, parts)

/-- The path with an anchor and the given parts behind it. -/
def ofAnatomy (anchor : Anchor) (parts : List (List Char)) : Path :=
  let body := joinSlash parts
  match anchor, parts with
  | .root, _ => ⟨String.ofList ('/' :: body)⟩
  | .current, [] => ⟨"."⟩
  | .current, _ => ⟨String.ofList ('.' :: '/' :: body)⟩
  | .plain, _ => ⟨String.ofList body⟩

/-- The steps of a path. -/
def components (p : Path) : List Component :=
  match p.anatomy with
  | (.root, parts) => .root :: parts.filterMap Component.ofPart?
  | (.current, parts) => .current :: parts.filterMap Component.ofPart?
  | (.plain, parts) => parts.filterMap Component.ofPart?

/-- Whether a path starts at the root. -/
def isAbsolute (p : Path) : Bool := p.text.toList.head? == some '/'

/-- Whether a path ends in a slash. -/
def endsInSlash (p : Path) : Bool := p.text.toList.getLast? == some '/'

/-- A path read from a base directory.  An absolute path stays what it is, and
    the empty path leaves a slash behind the base. -/
def join (base p : Path) : Path :=
  if p.isAbsolute then p
  else if base.text.isEmpty || base.endsInSlash then ⟨base.text ++ p.text⟩
  else ⟨base.text ++ "/" ++ p.text⟩

/-- A path without its last step; none for the root and the empty path. -/
def parent? (p : Path) : Option Path :=
  let (anchor, parts) := p.anatomy
  match trimParts parts with
  | [] => if anchor = .current then some ⟨""⟩ else none
  | kept => some (ofAnatomy anchor (trimParts kept.dropLast))

/-- The paths above a path, the nearest first, with at most `fuel` of them. -/
def above : Nat → Path → List Path
  | 0, _ => []
  | fuel + 1, p =>
    match p.parent? with
    | none => []
    | some q => q :: above fuel q

/-- The paths above a path, the nearest first. -/
def ancestors (p : Path) : List Path := above (p.text.length + 1) p

/-- The name that a path ends in; none if it ends in another step. -/
def fileName? (p : Path) : Option String :=
  match p.components.getLast? with
  | some (.name text) => some text
  | _ => none

/-- What stands behind the last dot of a name.  A name without a dot, and one
    whose only dot is its first character, have no extension. -/
def extensionOf (name : List Char) : Option (List Char) :=
  match name.reverse.dropWhile (· != '.') with
  | [] | [_] => none
  | _ => some (name.reverse.takeWhile (· != '.')).reverse

/-- The extension of the name that a path ends in. -/
def extension? (p : Path) : Option String :=
  p.fileName?.bind fun name => (extensionOf name.toList).map String.ofList

end Path

/-! ## Names below a base directory -/

/-- The rest of a list behind another one, if it starts with that one. -/
def stripStart? {α : Type} [DecidableEq α] : List α → List α → Option (List α)
  | [], rest => some rest
  | _ :: _, [] => none
  | a :: start, b :: rest => if a = b then stripStart? start rest else none

theorem stripStart?_eq_some_iff {α : Type} [DecidableEq α] {start list rest : List α} :
    stripStart? start list = some rest ↔ list = start ++ rest := by
  induction start generalizing list with
  | nil => simp [stripStart?, eq_comm]
  | cons a start ih =>
    cases list with
    | nil => simp [stripStart?]
    | cons b list =>
      by_cases h : a = b
      · simp [stripStart?, h, ih]
      · simp [stripStart?, h, Ne.symm h]

/-- Steps as a path without idle parts. -/
def Component.render (steps : List Component) : String :=
  match steps with
  | .root :: rest => "/" ++ "/".intercalate (rest.map Component.text)
  | steps => "/".intercalate (steps.map Component.text)

/-- The name of a path below a base directory: its steps behind those of the
    base, or all of them if it lies elsewhere, without single dots. -/
def displayPath (base p : Path) : String :=
  let steps := (stripStart? base.components p.components).getD p.components
  Component.render (steps.filter (· ≠ .current))

end PotCatalog
