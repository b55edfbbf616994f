/-
  QuietEmit.Erasure.FreshName

  Names that are not taken yet. A new name is made from an old one by an
  underscore before it and, if names like it are taken, a number after it.
-/
import QuietEmit.Syntax.Names

namespace QuietEmit.Erasure

open Syntax

/-! ## Numbered names -/

/-- A name of underscores, a base, and a number. -/
structure NumberedName where
  underscores : Nat
  base : String
  number : Nat
deriving DecidableEq, Repr

namespace NumberedName

/-- A name without the underscores before it and the digits after it. -/
def baseOf (n : String) : String :=
  String.ofList
    ((((n.toList.dropWhile (· == '_')).reverse).dropWhile Char.isDigit).reverse)

/-- A name that starts with an underscore, taken apart; without digits its number is one. -/
def ofName? (n : String) : Option NumberedName :=
  let underscores := (n.toList.takeWhile (· == '_')).length
  let digits := ((n.toList.drop underscores).reverse.takeWhile Char.isDigit).reverse
  if underscores == 0 then none
  else some ⟨underscores, baseOf n, max 1 (digits.foldl (fun n c => n * 10 + (c.toNat - 48)) 0)⟩

/-- The one with more underscores, or of as many the one with the greater number. -/
def later (a b : NumberedName) : NumberedName :=
  if a.underscores < b.underscores then b
  else if b.underscores < a.underscores then a
  else if a.number < b.number then b else a

/-- The name after this one. -/
def next (n : NumberedName) : String :=
  String.ofList (List.replicate n.underscores '_') ++ n.base ++ toString (n.number + 1)

end NumberedName

/-- A name made from another one: it comes after all names of its base that are taken. -/
def freshName (name : String) (taken : List String) : String :=
  let base := NumberedName.baseOf name
  match (taken.filterMap NumberedName.ofName?).filter (·.base == base) with
  | [] => "_" ++ base
  | n :: rest => (rest.foldl NumberedName.later n).next

/-! ## Names of a module -/

/-- The names that a tree declares or uses, those of components in markup among them; the names of
members and labels are none of them. -/
def takenNames : Tree → List String :=
  Tree.recurse fun form _ parts =>
    let result (i : Nat) : List String := ((parts[i]?).map Prod.snd).getD []
    let all := parts.flatMap Prod.snd
    match form with
    | .identifier n => [n]
    | .member _ | .qualifiedName | .exportSpecifier _ => result 0
    | .property false _ | .methodProperty _ false | .propertySignature { isComputed := false, .. }
    | .methodSignature _ { isComputed := false, .. } | .labeled | .importSpecifier _
    | .namedElement _ => (parts.drop 1).flatMap Prod.snd
    | .field { isComputed := false, .. } | .method _ { isComputed := false, .. } =>
      result 0 ++ (parts.drop 2).flatMap Prod.snd
    | .jsxElement =>
      ((parts.head?).bind fun p => FreeNames.component? p.1).toList ++ all
    | .break_ | .continue_ | .metaProperty | .importAttribute | .namespaceExport => []
    | _ => all

end QuietEmit.Erasure
