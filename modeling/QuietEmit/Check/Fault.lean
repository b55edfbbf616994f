/-
  QuietEmit.Check.Fault

  Faults of modules that can be read but mean nothing.
-/
import QuietEmit.Syntax.Tree

namespace QuietEmit.Check

/-- What is wrong with a module that can be read. -/
inductive Fault where
  -- Names
  | redeclared (name : String)
  | letDeclared (word : String)
  | reservedKeyword (word : String)
  | assignStrict (name : String)
  | argumentsIn (place : String)
  | undefinedExport (name : String)
  | reservedTypeName (construct name : String)
  -- Literals
  | legacyOctal
  | digitEscape
  | leadingZero
  -- Statements
  | breakOutside
  | continueOutside
  | undefinedLabel
  | labelNotLoop
  | labelAcrossFunction
  | redeclaredLabel (name : String)
  | withStatement
  /-- `anywhere` when no text may hold it, strict or not. -/
  | functionPlace (anywhere : Bool)
  | className
  | loopDeclarations (loop : String)
  /-- `anywhere` when no text may hold it, strict or not. -/
  | loopInitializer (loop : String) (anywhere : Bool)
  | loopType (loop : String)
  | topLevel (statement : String)
  | outsideModule (statement : String)
  -- Expressions
  | markupComma
  | deleteName
  | deletePrivate
  | newTarget
  | importMeta
  -- Functions
  | inParameter (word : String)
  | staticAwait
  | illegalStrict
  | requiredAfterOptional
  -- Classes
  | secondConstructor
  | superCall
  | superNotDerived
  | superReference
  | superPrivate
  | privateOutside (name : String)
  | privateUndeclared (name : String)
  | parameterMember
  | abstractMember (members : String)
  | missingFunctionBody
  | missingConstructorBody
  | missingAccessorBody
  | abstractConstructor
  | varianceModifier (word : String)
  -- Declarations of types
  | enumValueMissing
  | namespaceInside
  | typeOnlyAlias
  | globalWithoutDeclare
  | optionalElement
  | typedElement
  | markedType (mark place : String)
deriving DecidableEq, Repr, Inhabited

/-- The text of a fault. -/
def Fault.message : Fault → String
  | .redeclared n => "Identifier `" ++ n ++ "` has already been declared"
  | .letDeclared word =>
    "\x60let\x60 cannot be declared as a variable name inside of a \x60" ++ word ++
      "\x60 declaration"
  | .reservedKeyword w => "The keyword '" ++ w ++ "' is reserved"
  | .assignStrict n => "Cannot assign to '" ++ n ++ "' in strict mode"
  | .argumentsIn place => "'arguments' is not allowed in " ++ place
  | .undefinedExport n => "Export '" ++ n ++ "' is not defined"
  | .reservedTypeName construct n => construct ++ " name cannot be '" ++ n ++ "'"
  | .legacyOctal => "'0'-prefixed octal literals and octal escape sequences are deprecated"
  | .digitEscape => "Invalid escape sequence"
  | .leadingZero => "Decimals with leading zeros are not allowed in strict mode"
  | .breakOutside => "Illegal break statement"
  | .continueOutside => "Illegal continue statement: no surrounding iteration statement"
  | .undefinedLabel => "Use of undefined label"
  | .labelNotLoop =>
    "A `continue` statement can only jump to a label of an enclosing `for`, `while` or `do while` statement."
  | .labelAcrossFunction => "Jump target cannot cross function boundary."
  | .redeclaredLabel n => "Label `" ++ n ++ "` has already been declared"
  | .withStatement => "'with' statements are not allowed"
  | .functionPlace _ => "Invalid function declaration"
  | .className => "A class name is required."
  | .loopDeclarations loop =>
    "Only a single declaration is allowed in a `" ++ loop ++ "` statement"
  | .loopInitializer loop _ => loop ++ " loop variable declaration may not have an initializer"
  | .loopType loop =>
    "The left-hand side of a '" ++ loop ++ "' statement cannot use a type annotation."
  | .topLevel statement =>
    "'" ++ statement ++ "' declaration can only be used at the top level of a module"
  | .outsideModule statement => "Cannot use " ++ statement ++ " outside a module"
  | .markupComma => "JSX expressions may not use the comma operator"
  | .deleteName => "Delete of an unqualified identifier in strict mode."
  | .deletePrivate => "The operand of a 'delete' operator cannot be a private identifier."
  | .newTarget => "Unexpected new.target expression"
  | .importMeta => "Unexpected import.meta expression"
  | .inParameter word => word ++ " expression not allowed in formal parameter"
  | .staticAwait => "Cannot use await in class static initialization block"
  | .illegalStrict =>
    "Illegal 'use strict' directive in function with non-simple parameter list"
  | .requiredAfterOptional => "A required parameter cannot follow an optional parameter."
  | .secondConstructor => "Multiple constructor implementations are not allowed."
  | .superCall =>
    "Super calls are not permitted outside constructors or in nested functions inside constructors."
  | .superNotDerived => "'super' can only be referenced in a derived class."
  | .superReference =>
    "'super' can only be referenced in members of derived classes or object literal expressions."
  | .superPrivate => "Private fields cannot be accessed on super"
  | .privateOutside n => "Private identifier '#" ++ n ++ "' is not allowed outside class bodies"
  | .privateUndeclared n =>
    "Private field '" ++ n ++ "' must be declared in an enclosing class"
  | .parameterMember =>
    "A parameter property is only allowed in a constructor implementation."
  | .abstractMember members =>
    "Abstract " ++ members ++ " can only appear within an abstract class."
  | .missingFunctionBody =>
    "Function implementation is missing or not immediately following the declaration."
  | .missingConstructorBody => "Constructor implementation is missing."
  | .missingAccessorBody => "Getters and setters must have an implementation."
  | .abstractConstructor =>
    "'abstract' modifier can only appear on a class, method, or property declaration."
  | .varianceModifier word =>
    "'" ++ word ++
      "' modifier can only appear on a type parameter of a class, interface or type alias."
  | .enumValueMissing => "Enum member must have initializer."
  | .namespaceInside =>
    "A namespace declaration is only allowed at the top level of a namespace or module."
  | .typeOnlyAlias => "An import alias cannot use 'import type'"
  | .globalWithoutDeclare =>
    "Augmentations for the global scope should have 'declare' modifier unless they appear in already ambient context."
  | .optionalElement => "Unexpected \x60?\x60 operator"
  | .typedElement => "Unexpected type annotation"
  | .markedType mark place =>
    "'" ++ mark ++ "' at the " ++ place ++ " of a type is not valid TypeScript syntax."

/-- Faults that only strict text has. -/
def Fault.isStrictOnly : Fault → Bool
  | .reservedKeyword w => w != "await"
  | .assignStrict _ | .legacyOctal | .digitEscape | .leadingZero | .withStatement | .deleteName
  | .functionPlace false | .loopInitializer _ false => true
  | _ => false

/-- Faults that strict text cannot have. -/
def Fault.isSloppyOnly : Fault → Bool
  | .letDeclared _ => true
  | _ => false

/-- A fault and where it is found. -/
structure Finding where
  place : Nat
  fault : Fault
deriving DecidableEq, Repr, Inhabited

end QuietEmit.Check
