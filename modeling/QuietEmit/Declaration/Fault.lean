/-
  QuietEmit.Declaration.Fault

  Reasons why the type of an exported name cannot be told from its declaration
  alone.
-/
namespace QuietEmit.Declaration

/-- What a declaration lacks. -/
inductive Fault where
  | functionResult
  | methodResult
  | accessorResult
  | variableType
  | parameterType
  | propertyType
  | expressionType
  | objectSpread
  | shorthand
  | plainArray
  | arraySpread
  | bindingElement
  | enumValue
  | extendsExpression
  | classExpression
  | functionProperty
  | addedUndefined
  | defaultExport
  | computedName
  | signatureName
  | privateName (name : String)
deriving DecidableEq, Repr, Inhabited

namespace Fault

/-- The number of a fault. -/
def number : Fault → Nat
  | .functionResult => 9007
  | .methodResult => 9008
  | .accessorResult => 9009
  | .variableType => 9010
  | .parameterType => 9011
  | .propertyType => 9012
  | .expressionType => 9013
  | .objectSpread => 9015
  | .shorthand => 9016
  | .plainArray => 9017
  | .arraySpread => 9018
  | .bindingElement => 9019
  | .enumValue => 9020
  | .extendsExpression => 9021
  | .classExpression => 9022
  | .functionProperty => 9023
  | .addedUndefined => 9025
  | .defaultExport => 9037
  | .computedName => 9038
  | .signatureName => 9014
  | .privateName _ => 9039

/-- What a fault says. -/
def reason : Fault → String
  | .functionResult => "Function must have an explicit return type annotation with --isolatedDeclarations."
  | .methodResult => "Method must have an explicit return type annotation with --isolatedDeclarations."
  | .accessorResult => "At least one accessor must have an explicit return type annotation with --isolatedDeclarations."
  | .variableType => "Variable must have an explicit type annotation with --isolatedDeclarations."
  | .parameterType => "Parameter must have an explicit type annotation with --isolatedDeclarations."
  | .propertyType => "Property must have an explicit type annotation with --isolatedDeclarations."
  | .expressionType => "Expression type can't be inferred with --isolatedDeclarations."
  | .objectSpread => "Objects that contain spread assignments can't be inferred with --isolatedDeclarations."
  | .shorthand => "Objects that contain shorthand properties can't be inferred with --isolatedDeclarations."
  | .plainArray => "Only const arrays can be inferred with --isolatedDeclarations."
  | .arraySpread => "Arrays with spread elements can't inferred with --isolatedDeclarations."
  | .bindingElement => "Binding elements can't be exported directly with --isolatedDeclarations."
  | .enumValue => "Enum member initializers must be computable without references to external symbols with --isolatedDeclarations."
  | .extendsExpression => "Extends clause can't contain an expression with --isolatedDeclarations."
  | .classExpression => "Inference from class expressions is not supported with --isolatedDeclarations."
  | .functionProperty => "Assigning properties to functions without declaring them is not supported with --isolatedDeclarations. Add an explicit declaration for the properties assigned to this function."
  | .addedUndefined => "Declaration emit for this parameter requires implicitly adding undefined to it's type. This is not supported with --isolatedDeclarations."
  | .defaultExport => "Default exports can't be inferred with --isolatedDeclarations."
  | .computedName => "Computed property names on class or object literals cannot be inferred with --isolatedDeclarations."
  | .signatureName => "Computed properties must be number or string literals, variables or dotted expressions with --isolatedDeclarations."
  | .privateName n => "Type containing private name '" ++ n ++ "' can't be used with --isolatedDeclarations."

/-- The text of a fault. -/
def message (f : Fault) : String := "TS" ++ toString f.number ++ ": " ++ f.reason

end Fault

/-- Making declarations, with the faults found on the way. -/
abbrev Declaring := StateM (List Fault)

/-- Note a fault. -/
def note (f : Fault) : Declaring Unit := modify (· ++ [f])

end QuietEmit.Declaration
