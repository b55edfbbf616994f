/-
  QuietEmit.CommandLine.Reading

  Reading the arguments of the program from left to right. An option waits for
  its value, which is checked when the next option or stray argument comes.
-/
import QuietEmit.CommandLine.Refusal
import QuietEmit.Text.Similarity

namespace QuietEmit.CommandLine

/-- What was read so far. -/
structure Progress where
  arguments : Arguments := {}
  /-- Options given, in the order of their first use. -/
  given : List CliOption := []
  /-- An option with its value, if that has come. -/
  waiting : Option (CliOption × Option String) := none
  /-- Only stray arguments follow. -/
  onlyStrays : Bool := false
deriving Repr, Inhabited

namespace Progress

/-- Note an option as given. -/
def mark (p : Progress) (o : CliOption) : Progress :=
  if p.given.contains o then p else { p with given := p.given ++ [o] }

/-- Set a value. An empty path is no value. -/
def setValue (p : Progress) (o : CliOption) (value : String) : Except Refusal Progress :=
  if p.given.contains o then .error (.repeated o)
  else
    let p := p.mark o
    match o with
    | .project =>
      if value.isEmpty then .error (.missingValue o)
      else .ok { p with arguments := { p.arguments with project := some value } }
    | .compiler => .ok { p with arguments := { p.arguments with compiler := some value } }
    | _ => .ok p

/-- Check the option that waits. -/
def settle (p : Progress) : Except Refusal Progress :=
  match p.waiting with
  | none => .ok p
  | some (o, none) => .error (.missingValue o)
  | some (o, some value) => { p with waiting := none }.setValue o value

/-- Options that a usage line shows after a fault: those given, and the waiting one once it has a
value, whatever that is worth. -/
def used (p : Progress) : List CliOption :=
  match p.settle with
  | .ok p => p.given
  | .error (.repeated o) => p.given.filter (· != o)
  | .error (.missingValue o) =>
    match p.waiting with
    | some (_, some _) => p.given ++ [o]
    | _ => p.given
  | .error _ => p.given

/-- Set an option that takes no value. -/
def setFlag (p : Progress) (long : Bool) (o : CliOption) : Except Refusal Progress := do
  let p ← p.settle
  match o with
  | .help => throw (.help long)
  | .version => throw .version
  | _ =>
    if p.given.contains o then throw (.repeated o)
    let p := p.mark o
    let a := p.arguments
    return { p with
      arguments := match o with
        | .watch => { a with watch := true }
        | .verbose => { a with verbose := true }
        | .quiet => { a with quiet := true }
        | .noColor => { a with noColor := true }
        | _ => a }

/-- Give an option its value, or let it wait for one. -/
def setOption (p : Progress) (o : CliOption) (value : Option String) : Except Refusal Progress := do
  let p ← p.settle
  match value with
  | some v => p.setValue o v
  | none => return { p with waiting := some (o, none) }

/-- An argument that begins with two hyphens, without them. -/
def long (p : Progress) (text : List Char) : Except Refusal Progress :=
  let name := String.ofList (text.takeWhile (· != '='))
  let value : Option String := match text.dropWhile (· != '=') with
    | _ :: rest => some (String.ofList rest)
    | [] => none
  match CliOption.ofLong? name with
  | some o =>
    if o.takesValue then p.setOption o value
    else
      match value with
      | some v =>
        let afterStrays := p.waiting.isSome && !p.arguments.strays.isEmpty
        .error (.unneededValue o v (!p.given.isEmpty || afterStrays))
      | none => p.setFlag true o
  | none =>
    let similar := (Text.mostSimilar? name (CliOption.all.map CliOption.long)).bind CliOption.ofLong?
    .error (.unknown ("--" ++ name) similar (p.used ++ similar.toList))

/-- Letters after a hyphen; what follows the letter of an option with a value is that value. -/
def letters (p : Progress) : List Char → Except Refusal Progress
  | [] => .ok p
  | c :: rest =>
    match CliOption.ofShort? c with
    | some o =>
      if o.takesValue then
        let value : Option String := match rest with
          | [] => none
          | '=' :: v => some (String.ofList v)
          | v => some (String.ofList v)
        p.setOption o value
      else do
        let p ← p.setFlag false o
        p.letters rest
    | none => .error (.unknown ("-" ++ String.singleton c) none [])

/-- An argument that belongs to no option. -/
def stray (p : Progress) (text : String) : Except Refusal Progress := do
  let p ← p.settle
  return { p with arguments := { p.arguments with strays := p.arguments.strays ++ [text] } }

/-- One argument. -/
def argument (p : Progress) (text : String) : Except Refusal Progress :=
  if p.onlyStrays then p.stray text
  else
    match text.toList with
    | ['-', '-'] => .ok { p with onlyStrays := true }
    | '-' :: '-' :: rest => p.long rest
    | '-' :: c :: rest => p.letters (c :: rest)
    | _ =>
      match p.waiting with
      | some (o, none) => .ok { p with waiting := some (o, some text) }
      | _ => p.stray text

/-- Options given together that cannot be. -/
def conflict? (p : Progress) : Option Refusal :=
  p.given.findSome? fun o =>
    (p.given.find? o.conflicts).map fun other =>
      .conflict o other (p.given.filter (· != other))

end Progress

/-- Read the arguments of the program, its own name left out. -/
def Arguments.read (args : List String) : Except Refusal Arguments := do
  let p ← args.foldlM Progress.argument {}
  let p ← p.settle
  match p.conflict? with
  | some refusal => throw refusal
  | none => return p.arguments

end QuietEmit.CommandLine
