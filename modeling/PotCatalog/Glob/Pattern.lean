/-
  Patterns for names and paths.

  `?` stands for any character, `*` for any run of characters, `[abc]`,
  `[a-z]` and `[!a]` for one character of a class or outside of it, and `**`
  for any number of whole directories.  All other characters stand for
  themselves.  `Pattern.parse` reads a pattern and `Pattern.accepts` is its
  meaning.
-/

namespace PotCatalog.Glob

/-! ## Faults -/

/-- What is wrong with a pattern. -/
inductive Cause where
  /-- Three stars or more in a row. -/
  | starRun
  /-- Two stars that are not a whole component. -/
  | partialRecursion
  /-- A class that is empty or does not end. -/
  | badClass
  deriving DecidableEq, Repr

/-- The wording of a cause. -/
def Cause.message : Cause → String
  | starRun => "wildcards are either regular `*` or recursive `**`"
  | partialRecursion => "recursive wildcards must form a single path component"
  | badClass => "invalid range pattern"

/-- What is wrong with a pattern, and at which character. -/
structure Fault where
  position : Nat
  cause : Cause
  deriving DecidableEq, Repr

/-- The wording of a fault. -/
def Fault.message (f : Fault) : String :=
  "Pattern syntax error near position " ++ toString f.position ++ ": " ++ f.cause.message

/-! ## Tokens -/

/-- The members of a class, as ranges with their ends included. -/
abbrev Members := List (Char × Char)

/-- Whether a class has a character. -/
def Members.has (members : Members) (c : Char) : Bool :=
  members.any fun (low, high) => low ≤ c && c ≤ high

/-- A piece of a pattern. -/
inductive Token where
  | literal (c : Char)
  /-- Any character. -/
  | anyOne
  /-- Any run of characters. -/
  | anyRun
  /-- Any number of whole directories. -/
  | anyFolders
  | oneOf (members : Members)
  | noneOf (members : Members)
  deriving DecidableEq, Repr

/-- A pattern. -/
abbrev Pattern := List Token

/-- The members that stand between the brackets of a class. -/
def readMembers : List Char → Members
  | low :: '-' :: high :: rest => (low, high) :: readMembers rest
  | c :: rest => (c, c) :: readMembers rest
  | [] => []

/-- A text up to a closing bracket, and what follows that. -/
def untilBracket : List Char → Option (List Char × List Char)
  | [] => none
  | c :: rest =>
    if c = ']' then some ([], rest)
    else (untilBracket rest).map fun (body, after) => (c :: body, after)

/-- The text of a class and what follows it.  A class is never empty, so its
    first character is a member whatever it is. -/
def classBody : List Char → Option (List Char × List Char)
  | [] => none
  | c :: rest => (untilBracket rest).map fun (body, after) => (c :: body, after)

/-- The class that starts behind an opening bracket, and what follows it. -/
def readClass : List Char → Option (Token × List Char)
  | '!' :: rest => (classBody rest).map fun (body, after) => (.noneOf (readMembers body), after)
  | rest => (classBody rest).map fun (body, after) => (.oneOf (readMembers body), after)

theorem untilBracket_length {cs body after : List Char}
    (h : untilBracket cs = some (body, after)) : after.length < cs.length := by
  induction cs generalizing body after with
  | nil => simp [untilBracket] at h
  | cons c rest ih =>
    unfold untilBracket at h
    split at h
    · simp only [Option.some.injEq, Prod.mk.injEq] at h
      simp [h.2]
    · simp only [Option.map_eq_some_iff, Prod.mk.injEq, Prod.exists] at h
      obtain ⟨b, a, hb, _, rfl⟩ := h
      have := ih hb
      simp only [List.length_cons]; omega

theorem classBody_length {cs body after : List Char}
    (h : classBody cs = some (body, after)) : after.length < cs.length := by
  cases cs with
  | nil => simp [classBody] at h
  | cons c rest =>
    simp only [classBody, Option.map_eq_some_iff, Prod.mk.injEq, Prod.exists] at h
    obtain ⟨b, a, hb, _, rfl⟩ := h
    have := untilBracket_length hb
    simp only [List.length_cons]; omega

theorem readClass_length {cs after : List Char} {token : Token}
    (h : readClass cs = some (token, after)) : after.length < cs.length := by
  unfold readClass at h
  split at h
  · simp only [Option.map_eq_some_iff, Prod.mk.injEq, Prod.exists] at h
    obtain ⟨b, a, hb, _, rfl⟩ := h
    have := classBody_length hb
    simp only [List.length_cons]; omega
  · simp only [Option.map_eq_some_iff, Prod.mk.injEq, Prod.exists] at h
    obtain ⟨b, a, hb, _, rfl⟩ := h
    exact classBody_length hb

/-- The tokens of a text whose first character is the one at `position`.
    `fresh` says that a component starts there. -/
def readTokens (position : Nat) (fresh : Bool) : List Char → Except Fault Pattern
  | [] => .ok []
  | '*' :: '*' :: '*' :: _ => .error ⟨position + 2, .starRun⟩
  | '*' :: '*' :: rest =>
    if !fresh then .error ⟨position - 1, .partialRecursion⟩
    else match rest with
      | [] => .ok [.anyFolders]
      | '/' :: more => do return .anyFolders :: (← readTokens (position + 3) true more)
      | _ => .error ⟨position + 2, .partialRecursion⟩
  | '*' :: rest => do return .anyRun :: (← readTokens (position + 1) false rest)
  | '?' :: rest => do return .anyOne :: (← readTokens (position + 1) false rest)
  | '[' :: rest =>
    match found : readClass rest with
    | none => .error ⟨position, .badClass⟩
    | some (token, after) =>
      have _shorter : after.length < rest.length := readClass_length found
      do return token :: (← readTokens (position + 1 + (rest.length - after.length)) false after)
  | c :: rest => do return .literal c :: (← readTokens (position + 1) (c == '/') rest)
termination_by cs => cs.length
decreasing_by all_goals (simp only [List.length_cons]; omega)

namespace Pattern

/-- Reads a pattern. -/
def parse (text : String) : Except Fault Pattern := readTokens 0 true text.toList

/-! ## Meaning -/

/-- The suffixes of a text, the longest first. -/
def suffixes : List Char → List (List Char)
  | [] => [[]]
  | c :: rest => (c :: rest) :: suffixes rest

/-- The suffixes of a text behind its slashes, and the empty one. -/
def folderSuffixes : List Char → List (List Char)
  | [] => [[]]
  | c :: rest => if c = '/' then rest :: folderSuffixes rest else folderSuffixes rest

/-- Whether a pattern stands for a text.  Slashes are no special characters
    here, except that `**` takes whole directories. -/
def accepts : Pattern → List Char → Bool
  | [], text => text.isEmpty
  | .literal c :: rest, d :: text => c == d && accepts rest text
  | .anyOne :: rest, _ :: text => accepts rest text
  | .oneOf members :: rest, d :: text => members.has d && accepts rest text
  | .noneOf members :: rest, d :: text => !members.has d && accepts rest text
  | .anyRun :: rest, text => (suffixes text).any (accepts rest)
  | .anyFolders :: rest, text => accepts rest text || (folderSuffixes text).any (accepts rest)
  | _ :: _, [] => false

/-- Whether a pattern stands for a text. -/
def isMatch (pattern : Pattern) (text : String) : Bool := pattern.accepts text.toList

/-- The text that a pattern without wildcards stands for. -/
def literalText? : Pattern → Option (List Char)
  | [] => some []
  | .literal c :: rest => (literalText? rest).map (c :: ·)
  | _ :: _ => none

/-- Whether a pattern stands for whole directories. -/
def isRecursive (pattern : Pattern) : Bool := pattern.contains .anyFolders

end Pattern

/-- Whether a text holds a wildcard and so is a pattern rather than a path. -/
def isPattern (text : String) : Bool :=
  text.toList.any fun c => c == '*' || c == '?' || c == '['

end PotCatalog.Glob
