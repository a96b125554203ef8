/-
  Lists and objects in JSON.

  `readList` reads a list of values that are all read alike; `nextKey` and
  `readColon` are the steps through an object.  `skipValue` moves over any
  value, and `failType` says what stands where something else is wanted.
-/
import PotCatalog.Json.Scalar

namespace PotCatalog.Json

open Reader

/-! ## Values of a wrong kind -/

/-- Fails because something else is wanted than the value that starts with the
    given character.  Words, numbers and strings are read to their end first. -/
def failType {α : Type} (wanted : Wanted) (first : Char) : Reader α := do
  match first with
  | 'n' =>
    bump
    readWord "ull".toList
    failHere (.wrongType .null wanted)
  | 't' =>
    bump
    readWord "rue".toList
    failHere (.wrongType (.boolean true) wanted)
  | 'f' =>
    bump
    readWord "alse".toList
    failHere (.wrongType (.boolean false) wanted)
  | '-' =>
    bump
    let given ← readNumber true
    failHere (.wrongType given wanted)
  | '"' =>
    bump
    let text ← readString
    failHere (.wrongType (.string text) wanted)
  | '[' => failHere (.wrongType .sequence wanted)
  | '{' => failHere (.wrongType .map wanted)
  | c =>
    if isDecimal c then
      let given ← readNumber false
      failHere (.wrongType given wanted)
    else failAhead .expectedValue

/-- Moves over the opening character of a value of the wanted kind. -/
def openValue (wanted : Wanted) (opening : Char) : Reader Unit := do
  match ← peekPastSpace with
  | none => failHere .endInValue
  | some c => if c = opening then bump else failType wanted c

/-- A string. -/
def readText : Reader String := do
  openValue .string '"'
  readString

/-! ## Lists -/

/-- Whether a list has another item; a comma before it is moved over, the
    closing bracket is not. -/
def nextItem (isFirst : Bool) : Reader Bool := do
  match ← peekPastSpace with
  | none => failHere .endInList
  | some ']' => return false
  | some c =>
    if isFirst then return true
    else if c = ',' then
      bump
      match ← peekPastSpace with
      | none => failHere .endInValue
      | some ']' => failAhead .trailingComma
      | some _ => return true
    else failAhead .expectedListEnd

/-- The items of a list, of which there are at most `fuel`. -/
def readItems {α : Type} (item : Reader α) : Nat → Bool → Reader (List α)
  | 0, _ => failHere .endInList
  | fuel + 1, isFirst => do
    if ← nextItem isFirst then
      let value ← item
      return value :: (← readItems item fuel false)
    else return []

/-- A list of values that are all read alike. -/
def readList {α : Type} (item : Reader α) : Reader (List α) := do
  openValue .sequence '['
  let items ← readItems item ((← get).rest.length + 1) true
  bump
  return items

/-- Moves over the end of a list that has no more items to be read. -/
def endList : Reader Unit := do
  match ← peekPastSpace with
  | none => failHere .endInList
  | some ']' => bump
  | some ',' =>
    bump
    if (← peekPastSpace) = some ']' then failAhead .trailingComma
    else failAhead .trailingCharacters
  | some _ => failAhead .trailingCharacters

/-! ## Objects -/

/-- The next key of an object, if it has another one; the closing brace is not
    moved over. -/
def nextKey (isFirst : Bool) : Reader (Option String) := do
  match ← peekPastSpace with
  | none => failHere .endInObject
  | some '}' => return none
  | some c =>
    if isFirst then
      if c ≠ '"' then failAhead .keyNotString
    else if c ≠ ',' then failAhead .expectedObjectEnd
    else
      bump
      match ← peekPastSpace with
      | none => failHere .endInValue
      | some '"' => pure ()
      | some '}' => failAhead .trailingComma
      | some _ => failAhead .keyNotString
    bump
    return some (← readString)

/-- Moves over the colon behind a key. -/
def readColon : Reader Unit := do
  match ← peekPastSpace with
  | none => failHere .endInObject
  | some ':' => bump
  | some _ => failAhead .expectedColon

/-! ## Skipping -/

mutual

/-- Moves over a value, in at most `fuel` steps. -/
def skipValue : Nat → Reader Unit
  | 0 => failHere .endInValue
  | fuel + 1 => do
    match ← peekPastSpace with
    | none => failHere .endInValue
    | some 'n' =>
      bump
      readWord "ull".toList
    | some 't' =>
      bump
      readWord "rue".toList
    | some 'f' =>
      bump
      readWord "alse".toList
    | some '-' =>
      bump
      skipNumber
    | some '"' =>
      bump
      skipString
    | some '[' =>
      bump
      if (← peekPastSpace) = some ']' then bump
      else if (← peekPastSpace) = none then failHere .endInList
      else skipItems fuel
    | some '{' =>
      bump
      if (← peekPastSpace) = some '}' then bump
      else skipMembers fuel
    | some c => if isDecimal c then skipNumber else failAhead .expectedValue

/-- Moves over the items of a list and its closing bracket. -/
def skipItems : Nat → Reader Unit
  | 0 => failHere .endInList
  | fuel + 1 => do
    skipValue fuel
    match ← peekPastSpace with
    | none => failHere .endInList
    | some ',' =>
      bump
      skipItems fuel
    | some ']' => bump
    | some _ => failAhead .expectedListEnd

/-- Moves over the members of an object and its closing brace. -/
def skipMembers : Nat → Reader Unit
  | 0 => failHere .endInObject
  | fuel + 1 => do
    match ← peekPastSpace with
    | none => failHere .endInObject
    | some '"' =>
      bump
      skipString
      readColon
      skipValue fuel
      match ← peekPastSpace with
      | none => failHere .endInObject
      | some ',' =>
        bump
        skipMembers fuel
      | some '}' => bump
      | some _ => failAhead .expectedObjectEnd
    | some _ => failAhead .keyNotString

end

/-- Moves over a value. -/
def skip : Reader Unit := do skipValue (2 * (← get).rest.length + 2)

/-! ## Whole texts -/

/-- Reads a whole text. -/
def parse {α : Type} (value : Reader α) (text : String) : Except Fault α :=
  let whole : Reader α := do
    let result ← value
    match ← peekPastSpace with
    | none => return result
    | some _ => failAhead .trailingCharacters
  (StateT.run whole ⟨text.toList, .start⟩).map (·.1)

end PotCatalog.Json
