/-
  QuietEmit.Regex.Property

  What the property classes of a pattern stand for. A query is a name alone, or the
  name of a property with a value. Names are compared loosely: without case,
  blanks, hyphens and underscores, and without a leading "is".
-/
import QuietEmit.Unicode.Age
import QuietEmit.Unicode.Binary
import QuietEmit.Unicode.Script
import QuietEmit.Unicode.Segment
import QuietEmit.Regex.Error

namespace QuietEmit.Regex

/-! ## Names -/

/-- A name in its loose spelling; characters beyond ASCII do not count. -/
def looseName (name : String) : String :=
  let cs := name.toList
  let begins := (cs.take 2).map Char.toLower == ['i', 's']
  let kept := (if begins then cs.drop 2 else cs).filter fun c =>
    c != ' ' && c != '_' && c != '-' && c.toNat < 128
  match begins, kept.map Char.toLower with
  | true, ['c'] => "isc"
  | _, loose => String.ofList loose

/-- Properties that have values. -/
inductive ValuedProperty where
  | age
  | category
  | script
  | scriptExtensions
  | clusterBreak
  | wordBreak
  | sentenceBreak
deriving DecidableEq, Repr

/-- The property with values of that name. -/
def ValuedProperty.ofName? : String → Option ValuedProperty
  | "age" => some .age
  | "gc" | "generalcategory" => some .category
  | "sc" | "script" => some .script
  | "scx" | "scriptextensions" => some .scriptExtensions
  | "gcb" | "graphemeclusterbreak" => some .clusterBreak
  | "wb" | "wordbreak" => some .wordBreak
  | "sb" | "sentencebreak" => some .sentenceBreak
  | _ => none

/-- Names of properties of the standard of which no set is known. -/
def otherProperties : List String := [
  "bc bidiclass blk block bmg bidimirroringglyph bpb bidipairedbracket bpt bidipairedbrackettype",
  "ccc canonicalcombiningclass ce compositionexclusion cf casefolding cjkaccountingnumeric",
  "kaccountingnumeric cjkcompatibilityvariant kcompatibilityvariant cjkiicore kiicore",
  "cjkirggsource kirggsource cjkirghsource kirghsource cjkirgjsource kirgjsource",
  "cjkirgkpsource kirgkpsource cjkirgksource kirgksource cjkirgmsource kirgmsource",
  "cjkirgssource kirgssource cjkirgtsource kirgtsource cjkirguksource kirguksource",
  "cjkirgusource kirgusource cjkirgvsource kirgvsource cjkothernumeric kothernumeric",
  "cjkprimarynumeric kprimarynumeric cjkrsunicode krsunicode unicoderadicalstroke urs",
  "compex fullcompositionexclusion cwkcf changeswhennfkccasefolded dm decompositionmapping",
  "dt decompositiontype ea eastasianwidth equideo equivalentunifiedideograph",
  "expandsonnfc xonfc expandsonnfd xonfd expandsonnfkc xonfkc expandsonnfkd xonfkd",
  "fcnfkc fcnfkcclosure hst hangulsyllabletype incb indicconjunctbreak",
  "inpc indicpositionalcategory insc indicsyllabiccategory isc ocomment jamoshortname jsn",
  "jg joininggroup jt joiningtype lb linebreak lc lowercasemapping na name na1 unicode1name",
  "namealias nfcqc nfcquickcheck nfdqc nfdquickcheck nfkccasefold nfkccf nfkcqc nfkcquickcheck",
  "nfkcscf nfkcsimplecasefold nfkdqc nfkdquickcheck nt numerictype nv numericvalue",
  "scf simplecasefolding sfc slc simplelowercasemapping stc simpletitlecasemapping",
  "suc simpleuppercasemapping tc titlecasemapping uc uppercasemapping vo verticalorientation"]

/-- Whether a name is that of some property of the standard. -/
def isPropertyName (name : String) : Bool :=
  (Unicode.Binary.find? name).isSome || (ValuedProperty.ofName? name).isSome ||
    otherProperties.any fun row => (row.splitOn " ").contains name

/-! ## Sets -/

/-- A general category; the category of surrogates holds no character that a text could hold, and
is not known as a set. -/
def category? (name : String) : Option (Char → Bool) :=
  open Unicode.Category in
  match name with
  | "any" => some fun _ => true
  | "ascii" => some fun c => c.toNat < 128
  | "assigned" => some fun c => !unassigned c
  | "cn" | "unassigned" => some unassigned
  | "c" | "other" =>
    some fun c => unassigned c || [control, format, privateUse].any (Unicode.inRanges · c)
  | _ => (find? name).map fun tables c => tables.any (Unicode.inRanges · c)

/-- A script. -/
def script? (name : String) : Option (Char → Bool) :=
  (Unicode.Script.find? name).map Unicode.inRanges

/-- Categories and scripts that have names but no sets. -/
def isEmptyName (name : String) : Bool :=
  name == "cs" || name == "surrogate" || Unicode.Script.withoutCharacters.contains name

/-- The set of a value of a property. -/
def ValuedProperty.set? : ValuedProperty → String → Option (Char → Bool)
  | .age, value => (Unicode.Age.upTo? value).map Unicode.inRanges
  | .category, value => category? value
  | .script, value => script? value
  | .scriptExtensions, value => Unicode.Script.findUses? value
  | .clusterBreak, value => Unicode.Segment.cluster? value
  | .wordBreak, value => Unicode.Segment.word? value
  | .sentenceBreak, value => Unicode.Segment.sentence? value

/-- The set of a name alone: a property that a character has or has not, a category or a script.
A few short names stand for categories though properties have them too. -/
def namedSet (name : String) : Except Cause (Char → Bool) :=
  let loose := looseName name
  if isPropertyName loose && !(["cf", "sc", "lc"].contains loose) then
    match Unicode.Binary.find? loose with
    | some set => .ok set
    | none => .error .propertyNotFound
  else
    match (category? loose).or (script? loose) with
    | some set => .ok set
    | none => .error (if isEmptyName loose then .propertyValueNotFound else .propertyNotFound)

/-- The set of a property with a value. -/
def valueSet (property value : String) : Except Cause (Char → Bool) :=
  let loose := looseName property
  if !isPropertyName loose then .error .propertyNotFound
  else
    match (ValuedProperty.ofName? loose).bind (·.set? (looseName value)) with
    | some set => .ok set
    | none => .error .propertyValueNotFound

end QuietEmit.Regex
