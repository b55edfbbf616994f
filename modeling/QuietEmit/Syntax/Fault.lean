/-
  QuietEmit.Syntax.Fault

  What can be wrong with the text of a module, and how that is said.
-/
namespace QuietEmit.Syntax

/-- Faults in reading a module. -/
inductive Fault where
  -- Tokens
  | invalidCharacter (c : Char)
  | invalidEscape
  | invalidUnicodeEscape
  | numberEnd
  | invalidNumber (reason : String)
  | unterminatedComment
  | unterminatedString
  | unterminatedRegex
  | regexFlag (c : Char)
  | regexFlagTwice (c : Char)
  | regexFlagsApart
  | unexpectedEnd
  | escapedKeyword
  | badTemplateEscape
  -- Tokens in the wrong place
  | unexpectedToken
  | diffMarker
  | stringExpected
  | expected (wanted found : String)
  | expectedClosing (separator closing found : String)
  | missingSemicolon
  | newlineBeforeArrow
  | newlineAfter (word : String)
  | reservedName (word : String)
  | nameInAsync (word : String)
  | nameInGenerator (word : String)
  -- Expressions
  | invalidAssignment
  | invalidLeftSide
  | objectAssignment
  | spreadNotLast
  | restArgument
  | optionalChainInNew
  | instantiationMember
  | newImport
  | emptyParentheses
  | trailingComma (construct : String)
  | defaultOperator
  | optionalName
  | unexpectedMarkup
  | optionalTaggedTemplate
  | mixedCoalesce
  | exponentiation
  | importMeta
  | newTarget
  | importSource
  | importArguments
  | unexpectedSuper
  | awaitOutside
  | yieldOutside
  | privateInPrivate
  -- Variables, functions and parameters
  | destructuringWithoutValue
  | constWithoutValue
  | usingWithoutValue
  | usingPattern
  | usingExported
  | usingInCase
  | optionalVariable
  | definiteWithValue
  | definiteWithoutType
  | restNotLast
  | restPattern
  | restName
  | restParameterNotLast
  | restTrailingComma
  | restOptional
  | restDefault
  | optionalWithDefault
  | functionName
  | functionBody
  | getterParameters
  | setterParameters
  | setterRest
  | setterDefault
  | setterResult
  | arrowThis
  | constructorThis
  | constructorTypeParameters
  | ambientBody
  -- Statements
  | lexicalInStatement
  | asyncInStatement
  | generatorInStatement
  | classInStatement
  | forOfAsync
  | forOfLet
  | forInUsing (isAwait : Bool)
  | forAwait
  | catchOrFinally
  | switchClause
  | returnOutside
  | exportNamedString (name : String)
  | exportReservedWord (word : String)
  | halfInExportName
  | typeOnlyTwice (imported : Bool)
  | exportedTwice (name : String)
  | attributeTwice (name : String)
  | exportedImport
  | decoratorPlace
  | decoratorsAround
  | decoratedOverload
  -- Classes
  | extendsTwice
  | implementsTwice
  | extendsAfterImplements
  | privateConstructor
  | staticPrototype
  | constructorField
  | constructorAccessor
  | constructorAsync
  | constructorGenerator
  | abstractMethodBody (name : String)
  | abstractAccessorBody (name : String)
  | abstractFieldValue (name : String)
  | optionalDefinite
  | optionalAccessor
  | constMember
  -- Modifiers
  | modifierHere (word : String)
  | modifierOnMember (word : String)
  | modifierOnTypeParameter (word : String)
  | modifierOn (word place : String)
  | modifierOnlyOn (word place : String)
  | readonlyMethod
  | modifierTwice (word : String)
  | accessTwice
  | modifierOrder (word other : String)
  | modifiersTogether (word other : String)
  | propertyPattern
  | accessOnPrivateName
  -- Types
  | readonlyType
  | emptyTypeParameters
  | emptyTypeArguments
  | indexParameterCount
  | indexOptional
  | indexWithoutType
  | labelBeforeOptional
  | labelBeforeRest
  | optionalRest
  | interfaceExtends
  | interfaceImplements
  | enumNumericName
  | enumComputedName
  -- Markup
  | closingTag (name : String)
  | markupText (c : Char) (entity : String)
  | markupHyphen
  | markupEmptyValue
  -- Types where there are none
  | typedOnly (construct : String)
  | flow
deriving DecidableEq, Repr

/-- The wording of a fault. -/
def Fault.text : Fault → String
  | .invalidCharacter c => "Invalid Character `" ++ String.singleton c ++ "`"
  | .invalidEscape => "Invalid escape sequence"
  | .invalidUnicodeEscape => "Invalid Unicode escape sequence"
  | .numberEnd => "Invalid characters after number"
  | .invalidNumber reason => "Invalid Number " ++ reason
  | .unterminatedComment => "Unterminated multiline comment"
  | .unterminatedString => "Unterminated string"
  | .unterminatedRegex => "Unterminated regular expression"
  | .regexFlag c => "Unexpected flag " ++ String.singleton c ++ " in regular expression literal"
  | .regexFlagTwice c =>
    "Flag " ++ String.singleton c ++ " is mentioned twice in regular expression literal"
  | .unexpectedEnd => "Unexpected end of file"
  | .escapedKeyword => "Keywords cannot contain escape characters"
  | .badTemplateEscape => "Bad escape sequence in untagged template literal"
  | .regexFlagsApart =>
    "The 'u' and 'v' regular expression flags cannot be enabled at the same time"
  | .unexpectedToken => "Unexpected token"
  | .diffMarker => "Encountered diff marker"
  | .stringExpected => "String literal expected."
  | .expected wanted found => "Expected `" ++ wanted ++ "` but found `" ++ found ++ "`"
  | .expectedClosing separator closing found =>
    "Expected `" ++ separator ++ "` or `" ++ closing ++ "` but found `" ++ found ++ "`"
  | .missingSemicolon =>
    "Expected a semicolon or an implicit semicolon after a statement, but found none"
  | .newlineBeforeArrow => "Line terminator not permitted before arrow"
  | .newlineAfter word => "Illegal newline after " ++ word
  | .reservedName word =>
    "Identifier expected. '" ++ word ++ "' is a reserved word that cannot be used here."
  | .nameInAsync word => "Cannot use `" ++ word ++ "` as an identifier in an async context"
  | .nameInGenerator word => "Cannot use `" ++ word ++ "` as an identifier in a generator context"
  | .invalidAssignment => "Cannot assign to this expression"
  | .invalidLeftSide => "Invalid left-hand side in assignment"
  | .objectAssignment => "Invalid assignment in object literal"
  | .spreadNotLast => "Spread must be last element"
  | .restArgument => "Invalid rest operator's argument."
  | .optionalChainInNew => "Invalid optional chain from new expression."
  | .instantiationMember => "An instantiation expression cannot be followed by a property access."
  | .newImport => "Cannot use new with dynamic import"
  | .emptyParentheses => "Empty parenthesized expression"
  | .trailingComma construct => construct ++ " may not have a trailing comma."
  | .defaultOperator => "Only '=' operator can be used for specifying default value."
  | .optionalName => "Identifier expected after '?.'"
  | .unexpectedMarkup => "Unexpected JSX expression"
  | .optionalTaggedTemplate =>
    "Tagged template expressions are not permitted in an optional chain"
  | .mixedCoalesce => "Logical expressions and coalesce expressions cannot be mixed"
  | .exponentiation => "Unexpected exponentiation expression"
  | .importMeta => "The only valid meta property for import is import.meta"
  | .newTarget => "The only valid meta property for new is new.target"
  | .importSource => "import() requires a specifier."
  | .importArguments =>
    "Dynamic imports can only accept a module specifier and an optional set of attributes as arguments"
  | .unexpectedSuper => "'super' can only be used with function calls or in property accesses"
  | .awaitOutside =>
    "`await` is only allowed within async functions and at the top levels of modules"
  | .yieldOutside => "A 'yield' expression is only allowed in a generator body."
  | .privateInPrivate => "Unexpected right-hand side of private-in expression"
  | .destructuringWithoutValue => "Missing initializer in destructuring declaration"
  | .constWithoutValue => "Missing initializer in const declaration"
  | .usingWithoutValue => "Using declarations must have an initializer."
  | .usingPattern => "Using declarations may not have binding patterns."
  | .usingExported => "Using declarations cannot be exported directly."
  | .usingInCase => "Using declaration cannot appear in the bare case statement."
  | .optionalVariable => "Optional declaration is not allowed here"
  | .definiteWithValue =>
    "Declarations with initializers cannot also have definite assignment assertions."
  | .definiteWithoutType =>
    "Declarations with definite assignment assertions must also have type annotations."
  | .restNotLast => "A rest element must be last in a destructuring pattern"
  | .restPattern => "Invalid rest element"
  | .restName => "A rest element cannot have a property name."
  | .restParameterNotLast => "A rest parameter must be last in a parameter list"
  | .restTrailingComma => "A rest parameter or binding pattern may not have a trailing comma."
  | .restOptional => "A rest parameter cannot be optional"
  | .restDefault => "A rest element cannot have an initializer."
  | .optionalWithDefault => "Parameter cannot have question mark and initializer."
  | .functionName => "Expected function name"
  | .functionBody => "Expected function body"
  | .getterParameters => "A 'get' accessor must not have any formal parameters."
  | .setterParameters => "A 'set' accessor must have exactly one parameter."
  | .setterRest => "A 'set' accessor cannot have rest parameter."
  | .setterDefault => "A 'set' accessor cannot have an initializer."
  | .setterResult => "A 'set' accessor cannot have a return type annotation."
  | .arrowThis => "An arrow function cannot have a `this` parameter."
  | .constructorThis => "A constructor cannot have a `this` parameter."
  | .constructorTypeParameters => "Type parameters cannot appear on a constructor declaration"
  | .ambientBody => "An implementation cannot be declared in ambient contexts."
  | .lexicalInStatement => "Lexical declaration cannot appear in a single-statement context"
  | .asyncInStatement =>
    "Async functions can only be declared at the top level or inside a block"
  | .generatorInStatement =>
    "Generators can only be declared at the top level or inside a block"
  | .classInStatement => "Invalid class declaration"
  | .forOfAsync => "The left-hand side of a `for...of` statement may not be `async`"
  | .forOfLet => "The left-hand side of a `for...of` statement may not start with `let`"
  | .forInUsing isAwait =>
    "The left-hand side of a for...in statement cannot be an " ++
      (if isAwait then "await using" else "using") ++ " declaration."
  | .forAwait => "await can only be used in conjunction with `for...of` statements"
  | .catchOrFinally => "Missing catch or finally clause"
  | .switchClause => "Expected switch clause"
  | .returnOutside => "A 'return' statement can only be used within a function body."
  | .exportNamedString _ => "A string literal cannot be used as an exported binding without `from`"
  | .exportReservedWord _ => "A reserved word cannot be used as an exported binding without `from`"
  | .halfInExportName => "An export name cannot include a unicode lone surrogate"
  | .typeOnlyTwice imported =>
    if imported then
      "The 'type' modifier cannot be used on a named import when 'import type' is used on its import statement."
    else
      "The 'type' modifier cannot be used on a named export when 'export type' is used on its export statement."
  | .attributeTwice n => "Identifier \x60" ++ n ++ "\x60 has already been declared"
  | .exportedImport => "Unexpected export."
  | .exportedTwice n => "Duplicated export '" ++ n ++ "'"
  | .decoratorPlace => "Decorators are not valid here."
  | .decoratorsAround =>
    "Decorators may not appear after 'export' or 'export default' if they also appear before 'export'."
  | .decoratedOverload =>
    "A decorator can only decorate a method implementation, not an overload."
  | .extendsTwice => "'extends' clause already seen"
  | .implementsTwice => "'implements' clause already seen"
  | .extendsAfterImplements => "'extends' clause must precede 'implements' clause"
  | .privateConstructor => "Classes can't have an element named '#constructor'"
  | .staticPrototype => "Classes may not have a static property named 'prototype'"
  | .constructorField => "Classes may not have a field named 'constructor'"
  | .constructorAccessor => "Constructor can't have get/set modifier"
  | .constructorAsync => "Constructor can't be an async method"
  | .constructorGenerator => "Constructor can't be a generator"
  | .abstractMethodBody n =>
    "Method '" ++ n ++ "' cannot have an implementation because it is marked abstract."
  | .abstractAccessorBody n =>
    "Accessor '" ++ n ++ "' cannot have an implementation because it is marked abstract."
  | .abstractFieldValue n =>
    "Property '" ++ n ++ "' cannot have an initializer because it is marked abstract."
  | .optionalDefinite => "A property cannot be both optional and definite."
  | .optionalAccessor => "An 'accessor' property cannot be declared optional."
  | .constMember => "A class member cannot have the 'const' keyword."
  | .modifierHere word => "'" ++ word ++ "' modifier cannot be used here."
  | .modifierOn word place => "'" ++ word ++ "' modifier cannot appear on " ++ place ++ "."
  | .modifierOnlyOn word place => "'" ++ word ++ "' modifier can only appear on " ++ place ++ "."
  | .readonlyMethod =>
    "'readonly' modifier can only appear on a property declaration or index signature."
  | .modifierOnMember word =>
    "'" ++ word ++ "' modifier cannot appear on class elements of this kind."
  | .modifierOnTypeParameter word =>
    "'" ++ word ++ "' modifier cannot be used on a type parameter."
  | .modifierTwice word => "'" ++ word ++ "' modifier already seen."
  | .accessTwice => "Accessibility modifier already seen."
  | .modifierOrder word other =>
    "'" ++ word ++ "' modifier must precede '" ++ other ++ "' modifier."
  | .modifiersTogether word other =>
    "'" ++ word ++ "' modifier cannot be used with '" ++ other ++ "' modifier."
  | .propertyPattern => "A parameter property may not be declared using a binding pattern."
  | .accessOnPrivateName =>
    "An accessibility modifier cannot be used with a private identifier."
  | .readonlyType => "'readonly' type modifier is only permitted on array and tuple literal types."
  | .emptyTypeParameters => "Type parameter list cannot be empty."
  | .emptyTypeArguments => "Type argument list cannot be empty."
  | .indexParameterCount => "An index signature must have exactly one parameter."
  | .indexOptional => "An index signature parameter cannot have a question mark."
  | .indexWithoutType => "An index signature must have a type annotation."
  | .labelBeforeOptional =>
    "A labeled tuple element is declared as optional with a question mark after the name and before the colon, rather than after the type."
  | .labelBeforeRest =>
    "A labeled tuple element is declared as rest with a '...' before the name, rather than before the type."
  | .optionalRest => "A tuple member cannot be both optional and rest."
  | .interfaceExtends =>
    "An interface can only extend an identifier/qualified-name with optional type arguments."
  | .interfaceImplements => "Interface declaration cannot have 'implements' clause."
  | .enumNumericName => "An enum member cannot have a numeric name."
  | .enumComputedName => "Computed property names are not allowed in enums."
  | .closingTag n => "Expected corresponding JSX closing tag for '" ++ n ++ "'."
  | .markupText c entity =>
    "Unexpected token. Did you mean `\x7b'" ++ String.singleton c ++ "'\x7d` or `&" ++ entity ++ ";`?"
  | .markupHyphen => "Identifiers in JSX cannot contain hyphens"
  | .markupEmptyValue => "JSX attributes must only be assigned a non-empty 'expression'."
  | .typedOnly construct => construct ++ " can only be used in TypeScript files."
  | .flow => "Flow is not supported"

end QuietEmit.Syntax
