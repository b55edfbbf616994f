/-
  QuietEmit.Syntax.Build

  Trees that were not read from a text.
-/
import QuietEmit.Syntax.Printer.Literals
import QuietEmit.Syntax.Tree

namespace QuietEmit.Syntax.Build

/-- A tree that no text belongs to. -/
def made (form : Form) (parts : List Tree) : Tree := .node form ⟨0, 0⟩ parts

/-- A name. -/
def name (n : String) : Tree := made (.identifier n) []

/-- A string. -/
def text (s : String) : Tree := made (.string s false) []

/-- A number; one with a negative sign is a negated number. -/
def number (x : Float) : Tree :=
  if x.isNaN then name "NaN"
  else
    let size : Tree :=
      if x.isInf then name "Infinity" else made (.number (Literal.plainNumber x.abs)) []
    if x.toBits >>> 63 == 1 then made (.unary "-") [size] else size

/-- `f(a, b)`. -/
def call (callee : Tree) (args : List Tree) : Tree :=
  made (.call false) [callee, .none, .list args]

/-- A call that is marked to have no effects, and stands where the text had something else. -/
def pureCallAt (span : Span) (callee : Tree) (args : List Tree) : Tree :=
  made .pureCall [.node (.call false) span [callee, .none, .list args]]

/-- A call that is marked to have no effects. -/
def pureCall (callee : Tree) (args : List Tree) : Tree := pureCallAt ⟨0, 0⟩ callee args

/-- `a = b`. -/
def assign (target value : Tree) : Tree := made (.assign "=") [target, value]

/-- `a.b`. -/
def member (object : Tree) (n : String) : Tree := made (.member false) [object, name n]

/-- `a[b]`. -/
def index (object key : Tree) : Tree := made (.computedMember false) [object, key]

/-- `a || b`. -/
def either (a b : Tree) : Tree := made (.binary "||") [a, b]

/-- An object of properties. -/
def object (ps : List Tree) : Tree := made .object ps

/-- `key: value`. -/
def property (key value : Tree) : Tree := made (.property false false) [key, value]

/-- An expression as a statement. -/
def statement (span : Span) (e : Tree) : Tree := .node .expression span [e]

/-- A plain function without a name. -/
def function (params : List String) (directives body : List Tree) : Tree :=
  let parameter (n : String) : Tree :=
    made (.parameter {}) [.list [], made (.binding false) [name n, .none]]
  made (.function {}) [.none, .none, .list (params.map parameter), .none,
    made .functionBody [.list directives, .list body]]

/-- A declaration of one variable. -/
def declaring (span : Span) (kind : VariableKind) (n : String) (type value : Tree) : Tree :=
  .node (.variableList kind false) span
    [made (.declarator false) [made (.binding false) [name n, type], value]]

/-- A declaration that is exported. -/
def exported (span : Span) (declaration : Tree) : Tree :=
  .node (.exportNamed false) span [declaration, .list [], .none, .none]

/-- `export {}`. -/
def exportNothing : Tree := made (.exportNamed false) [.none, .list [], .none, .none]

end QuietEmit.Syntax.Build
