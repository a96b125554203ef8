/-
  Reading configurations.

  A configuration is an object with four known fields, each of which may be
  missing but not repeated, or a list of the four values in order.
-/
import PotCatalog.Config.Basic
import PotCatalog.Json.Container

namespace PotCatalog

open Json Json.Reader

namespace Config

/-! ## Fields -/

/-- A field of a configuration. -/
inductive Field where
  | targets
  | ignores
  | templateExtensions
  | scriptExtensions
  deriving DecidableEq, Repr

/-- The key of a field. -/
def Field.key : Field → String
  | targets => "targets"
  | ignores => "ignores"
  | templateExtensions => "templateExtensions"
  | scriptExtensions => "scriptExtensions"

/-- The field of a key. -/
def Field.ofKey? (key : String) : Option Field :=
  [targets, ignores, templateExtensions, scriptExtensions].find? (·.key = key)

/-- The fields read so far. -/
structure Fields where
  targets : Option (List Target) := none
  ignores : Option (List String) := none
  templateExtensions : Option (List String) := none
  scriptExtensions : Option (List String) := none
  deriving Repr

namespace Fields

/-- Whether a field was read. -/
def has (fields : Fields) : Field → Bool
  | .targets => fields.targets.isSome
  | .ignores => fields.ignores.isSome
  | .templateExtensions => fields.templateExtensions.isSome
  | .scriptExtensions => fields.scriptExtensions.isSome

/-- The configuration with these fields; what is missing is as without a
    configuration file. -/
def config (fields : Fields) : Config :=
  { targets := fields.targets.getD default.targets
    ignores := fields.ignores.getD default.ignores
    templateExtensions := fields.templateExtensions.getD default.templateExtensions
    scriptExtensions := fields.scriptExtensions.getD default.scriptExtensions }

end Fields

/-! ## Targets -/

/-- Adds a target.  One with the same output keeps its place and takes the new
    sources. -/
def addTarget (targets : List Target) (new : Target) : List Target :=
  if targets.any (·.output = new.output) then
    targets.map fun t => if t.output = new.output then new else t
  else targets ++ [new]

/-- The targets of an object, of which there are at most `fuel`, added to those
    read before. -/
def readTargetsFrom : Nat → Bool → List Target → Reader (List Target)
  | 0, _, _ => failHere .endInObject
  | fuel + 1, isFirst, targets => do
    match ← nextKey isFirst with
    | none => return targets
    | some output =>
      readColon
      let sources ← readList readText
      readTargetsFrom fuel false (addTarget targets ⟨output, sources⟩)

/-- The object of the targets. -/
def readTargets : Reader (List Target) := do
  openValue .map '{'
  let targets ← readTargetsFrom ((← get).rest.length + 1) true []
  bump
  return targets

/-! ## Configurations -/

/-- Reads the value of a field. -/
def Fields.readValue (fields : Fields) : Field → Reader Fields
  | .targets => return { fields with targets := some (← readTargets) }
  | .ignores => return { fields with ignores := some (← readList readText) }
  | .templateExtensions => return { fields with templateExtensions := some (← readList readText) }
  | .scriptExtensions => return { fields with scriptExtensions := some (← readList readText) }

/-- Fails because of a field that is given twice, behind its key and the white
    space there. -/
def failDuplicate {α : Type} (field : Field) : Reader α := do
  if (← peekPastSpace) = some '}' then bump
  failHere (.duplicateField field.key)

/-- The members of a configuration, of which there are at most `fuel`.  Unknown
    ones are skipped. -/
def readMembers : Nat → Bool → Fields → Reader Fields
  | 0, _, _ => failHere .endInObject
  | fuel + 1, isFirst, fields => do
    match ← nextKey isFirst with
    | none => return fields
    | some key =>
      match Field.ofKey? key with
      | none =>
        readColon
        skip
        readMembers fuel false fields
      | some field =>
        if fields.has field then failDuplicate field
        else
          readColon
          readMembers fuel false (← fields.readValue field)

/-- The values of a configuration that is written as a list. -/
def readValues (isFirst : Bool) (fields : Fields) : List Field → Reader Fields
  | [] => return fields
  | field :: rest => do
    if ← nextItem isFirst then readValues false (← fields.readValue field) rest
    else return fields

/-- A configuration. -/
def reader : Reader Config := do
  match ← peekPastSpace with
  | none => failHere .endInValue
  | some '[' =>
    bump
    let fields ← readValues true {}
      [.targets, .ignores, .templateExtensions, .scriptExtensions]
    endList
    return fields.config
  | some '{' =>
    bump
    let fields ← readMembers ((← get).rest.length + 1) true {}
    bump
    return fields.config
  | some c => failType .config c

/-- Reads a configuration. -/
def parse (text : String) : Except Fault Config := Json.parse reader text

end Config

end PotCatalog
