/-
  What can be wrong with a script.

  A fault either ends the parsing or is noted while the parsing goes on.
  `Fault.message` is its wording, and a `Failure` adds the byte offset it is
  reported at.
-/
import PotCatalog.Text.Printable

namespace PotCatalog.Script

/-- What can be wrong with a script. -/
inductive Fault where
  -- Characters and literals
  | unexpectedCharacter (c : Char)
  | noUnicodeEscape
  | badNameCharacter
  | escapedWord (word : String)
  | unterminatedComment
  | legacyComment
  | unterminatedText
  | unterminatedTemplate
  | unterminatedPattern
  | textEscape
  /-- A number in an escape is not written as it has to be. -/
  | badEscape (expected : String)
  | openEscape
  | legacyOctal
  | legacyDecimal
  /-- A digit of a certain kind is missing. -/
  | noDigit (kind : String)
  | noExponent
  | nameAfterNumber
  | digitSeparator
  | repeatedFlag (flag : Char)
  | unknownFlags
  -- Missing and unexpected tokens
  | noExpression
  | expected (wanted found : String)
  | unexpected (found wanted : String)
  | noSeparator
  | noSemicolon
  | noName
  | endOfSource
  | trailingComma
  -- Statements
  | strayReturn
  | strayBreak
  | breakTarget
  | strayContinue
  | continueTarget
  | repeatedLabel (name : String)
  | labelledGenerator
  | throwLineBreak
  | secondDefault
  | declaration
  | constInitializer
  | patternInitializer
  | oneBinding
  | loopInitializer
  | asyncLoopHead
  | awaitLoop
  | nestedModuleItem
  | usingDeclaration
  | usingPattern
  | usingInitializer
  -- Assignment and patterns
  | badTarget
  | targetShape
  | notAssignable
  | notPattern
  | restNotLast
  | restParameterNotLast
  | restInitializer
  | commaAfterRest
  | restName
  | strayDefault
  | emptyParentheses
  | spreadInParentheses
  | arrowLineBreak
  | strayArrow
  | reservedShorthand
  -- Operators
  | mixedCoalescing
  | unaryPower
  -- Strict code, generators and asynchronous functions
  | withInStrict
  | deleteName
  | strictName (name : String)
  | strictBinding
  | awaitName
  | awaitInFunction
  | awaitInParameter
  | awaitStar
  | yieldInParameter
  | strictDirective
  -- Classes and objects
  | secondConstructor
  | accessorConstructor
  | generatorConstructor
  | asyncConstructor
  | privateConstructor
  | fieldConstructor
  | secondBase
  | getterParameter
  | setterParameter
  | setterRest
  | badSuper
  | newTarget
  | optionalConstructor
  | optionalTemplate
  | argumentsInField
  | privateSpace
  -- Modules
  | textBinding (name : String)
  | textExport
  | reservedImport
  | reservedExport (name : String)
  | importArguments
  | badImport
  deriving DecidableEq, Repr

/-- The wording of a fault. -/
def Fault.message : Fault → String
  | unexpectedCharacter c => "Unexpected character " ++ quotedCharacter c
  | noUnicodeEscape => "Expected unicode escape"
  | badNameCharacter => "Invalid character in identifier"
  | escapedWord word => "Unexpected escape sequence in reserved word: " ++ word
  | unterminatedComment => "Unterminated block comment"
  | legacyComment => "Legacy comments cannot be used in module code"
  | unterminatedText => "Unterminated string constant"
  | unterminatedTemplate => "Unterminated template"
  | unterminatedPattern => "Unterminated regexp literal"
  | textEscape => "Invalid string escape"
  | badEscape wanted => "Bad character escape sequence, expected " ++ wanted
  | openEscape => "Invalid unicode escape"
  | legacyOctal => "Legacy octal escape is not permitted in strict mode"
  | legacyDecimal => "Legacy decimal escape is not permitted in strict mode"
  | noDigit kind => "Expected " ++ kind ++ " digit"
  | noExponent => "Expected +, - or decimal digit after e"
  | nameAfterNumber => "Identifier cannot follow number"
  | digitSeparator => "A numeric separator is only allowed between two digits"
  | repeatedFlag flag => "Duplicated regular expression flag '" ++ flag.toString ++ "'."
  | unknownFlags => "Unknown regular expression flags."
  | noExpression => "Expression expected"
  | expected wanted found => "Expected '" ++ wanted ++ "', got '" ++ found ++ "'"
  | unexpected found wanted => "Unexpected token `" ++ found ++ "`. Expected " ++ wanted
  | noSeparator => "Expected ';', '\x7d' or <eof>"
  | noSemicolon => "Expected a semicolon"
  | noName => "Expected ident"
  | endOfSource => "Unexpected eof"
  | trailingComma => "Trailing comma is not allowed"
  | strayReturn => "Return statement is not allowed here"
  | strayBreak =>
    "A 'break' statement can only be used within an enclosing iteration or switch statement"
  | breakTarget => "A 'break' statement can only jump to a label of an enclosing statement"
  | strayContinue =>
    "A 'continue' statement can only jump to a label of an enclosing iteration statement"
  | continueTarget => "Jump target cannot cross function boundary"
  | repeatedLabel name => "Label " ++ name ++ " is already declared"
  | labelledGenerator => "Generator or async function cannot be labelled"
  | throwLineBreak => "LineBreak cannot follow 'throw'"
  | secondDefault => "A switch block cannot have multiple defaults"
  | declaration => "Declaration is not allowed"
  | constInitializer => "'const' declarations must be initialized"
  | patternInitializer => "Destructuring bindings require initializers"
  | oneBinding => "Expected one variable binding"
  | loopInitializer => "Unexpected initializer in for in/of loop"
  | asyncLoopHead => "The left-hand side of a 'for...of' statement may not be 'async'."
  | awaitLoop => "for await syntax is valid only for for-of statement"
  | nestedModuleItem => "'import', and 'export' cannot be used outside of module code"
  | usingDeclaration =>
    "Using declaration is not enabled. Set jsc.parser.explicitResourceManagement to true"
  | usingPattern => "Using declaration only allows identifiers"
  | usingInitializer => "Using declaration requires initializer"
  | badTarget => "Invalid assignment target"
  | targetShape =>
    "The left-hand side of an assignment expression must be a variable or a property access."
  | notAssignable => "Cannot assign to this"
  | notPattern => "Not a pattern"
  | restNotLast => "Rest element must be final element"
  | restParameterNotLast => "A rest parameter must be last in a parameter list"
  | restInitializer => "A rest parameter cannot have an initializer"
  | commaAfterRest => "Trailing comma isn't permitted after a rest element"
  | restName => "`...` must be followed by an identifier in declaration contexts"
  | strayDefault => "assignment property is invalid syntax"
  | emptyParentheses => "Parenthesized expression cannot be empty"
  | spreadInParentheses => "Parenthesized expression cannot contain spread operator"
  | arrowLineBreak => "Unexpected line break between arrow head and arrow"
  | strayArrow => "An arrow function is not allowed here"
  | reservedShorthand => "Cannot use a reserved word as a shorthand property"
  | mixedCoalescing =>
    "Nullish coalescing operator(??) requires parens when mixing with logical operators"
  | unaryPower => "'**' cannot be applied to unary/await expression."
  | withInStrict => "With statement are not allowed in strict mode"
  | deleteName => "'delete' cannot be called on an identifier in strict mode"
  | strictName name => "`" ++ name ++ "` cannot be used as an identifier in strict mode"
  | strictBinding =>
    "'eval' and 'arguments' cannot be used as a binding identifier in strict mode"
  | awaitName => "`await` cannot be used as an identifier in an async context"
  | awaitInFunction => "await isn't allowed in non-async function"
  | awaitInParameter => "`await` expressions cannot be used in a parameter initializer."
  | awaitStar =>
    "`await*` has been removed from the async functions proposal. Use Promise.all() instead."
  | yieldInParameter => "`yield` expressions cannot be used in a parameter initializer."
  | strictDirective =>
    "Illegal 'use strict' directive in function with non-simple parameter list."
  | secondConstructor => "A class can only have one constructor"
  | accessorConstructor => "Class constructor can't be an accessor."
  | generatorConstructor => "A class constructor cannot be a generator"
  | asyncConstructor => "Constructor can't be an async function"
  | privateConstructor => "Classes can't have a private field named '#constructor'."
  | fieldConstructor => "Classes may not have a non-static field named 'constructor'"
  | secondBase => "'extends' clause already seen."
  | getterParameter => "A `get` accessor cannot have parameters"
  | setterParameter => "A `set` accessor must have exactly one parameter"
  | setterRest => "Rest pattern is not allowed in setter"
  | badSuper => "Invalid access to super"
  | newTarget =>
    "'new.target' is only allowed in the body of a function declaration, function expression, " ++
      "or class."
  | optionalConstructor => "Constructor in/after an optional chaining is not allowed."
  | optionalTemplate => "Tagged template literals are not allowed in optional chain."
  | argumentsInField => "'arguments' is only allowed in functions and class methods"
  | privateSpace => "Unexpected space between # and identifier"
  | textBinding name =>
    "A string literal cannot be used as an imported binding.\n- Did you mean `import \x7b \"" ++
      name ++ "\" as foo \x7d`?"
  | textExport => "A string literal cannot be used as an exported binding without `from`."
  | reservedImport => "cannot import as reserved word"
  | reservedExport name => "`" ++ name ++ "` cannot be used without `from` clause"
  | importArguments => "`import()` requires exactly one or two arguments"
  | badImport => "Import is not allowed here"

/-- A fault, and the byte offset it is reported at. -/
structure Failure where
  fault : Fault
  offset : Nat
  deriving DecidableEq, Repr

end PotCatalog.Script
