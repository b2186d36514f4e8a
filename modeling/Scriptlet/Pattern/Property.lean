import Scriptlet.Unicode.Age
import Scriptlet.Unicode.Break

/-!
# Names of properties

The names under which patterns ask for properties of characters. Case, spaces, hyphens, underscores
and characters beyond ASCII do not count, nor does the word `is` in front. A name alone is that of a
trait, of a category or of a script; with a value, it is that of a property with several values.
-/

namespace Scriptlet.Pattern

open Unicode

def looseCharacters (cs : List Char) : List Char :=
  (cs.filter fun c => c.toNat < 0x80 && c != ' ' && c != '-' && c != '_').map Char.toLower

/-- A name without what does not count. `isc` is a name of its own, not that of `c`. -/
def looseName (name : String) : List Char :=
  match name.toList with
  | i :: s :: rest =>
    if i.toLower = 'i' && s.toLower = 's' then
      let rest := looseCharacters rest
      if rest = ['c'] then ['i', 's', 'c'] else rest
    else looseCharacters (i :: s :: rest)
  | cs => looseCharacters cs

/-- What a list tells about a name, which is given without what does not count. -/
def named? {α : Type} (list : List (List String × α)) (name : List Char) : Option α :=
  (list.find? fun n => n.1.any fun s => looseName s = name).map Prod.snd

/-- General categories and groups of them, by their names. -/
def categoryNames : List (List String × List Category) :=
  [(["Lu", "Uppercase_Letter"], [.uppercaseLetter]),
   (["Ll", "Lowercase_Letter"], [.lowercaseLetter]),
   (["Lt", "Titlecase_Letter"], [.titlecaseLetter]),
   (["LC", "Cased_Letter"], [.uppercaseLetter, .lowercaseLetter, .titlecaseLetter]),
   (["Lm", "Modifier_Letter"], [.modifierLetter]), (["Lo", "Other_Letter"], [.otherLetter]),
   (["L", "Letter"], Category.letters),
   (["Mn", "Nonspacing_Mark"], [.nonspacingMark]), (["Mc", "Spacing_Mark"], [.spacingMark]),
   (["Me", "Enclosing_Mark"], [.enclosingMark]),
   (["M", "Mark", "Combining_Mark"], Category.marks),
   (["Nd", "Decimal_Number", "digit"], [.decimalNumber]),
   (["Nl", "Letter_Number"], [.letterNumber]), (["No", "Other_Number"], [.otherNumber]),
   (["N", "Number"], Category.numbers),
   (["Pc", "Connector_Punctuation"], [.connectorPunctuation]),
   (["Pd", "Dash_Punctuation"], [.dashPunctuation]),
   (["Ps", "Open_Punctuation"], [.openPunctuation]),
   (["Pe", "Close_Punctuation"], [.closePunctuation]),
   (["Pi", "Initial_Punctuation"], [.initialPunctuation]),
   (["Pf", "Final_Punctuation"], [.finalPunctuation]),
   (["Po", "Other_Punctuation"], [.otherPunctuation]),
   (["P", "Punctuation", "punct"], Category.punctuation),
   (["Sm", "Math_Symbol"], [.mathSymbol]), (["Sc", "Currency_Symbol"], [.currencySymbol]),
   (["Sk", "Modifier_Symbol"], [.modifierSymbol]), (["So", "Other_Symbol"], [.otherSymbol]),
   (["S", "Symbol"], Category.symbols),
   (["Zs", "Space_Separator"], [.spaceSeparator]), (["Zl", "Line_Separator"], [.lineSeparator]),
   (["Zp", "Paragraph_Separator"], [.paragraphSeparator]),
   (["Z", "Separator"], Category.separators),
   (["Cc", "Control", "cntrl"], [.control]), (["Cf", "Format"], [.format]),
   (["Co", "Private_Use"], [.privateUse]), (["Cn", "Unassigned"], [.unassigned]),
   (["C", "Other"], Category.others)]

def categorySet? (name : List Char) : Option CodeSet :=
  match String.ofList name with
  | "any" => some .scalars
  | "assigned" => some (.compl (Category.set [.unassigned]))
  | "ascii" => some (.range 0 0x7F)
  | _ => (named? categoryNames name).map Category.set

def script? (name : List Char) : Option String :=
  (scripts.find? fun names => names.any fun s => looseName s = name).bind List.head?

/-- The set of a name alone. Where a trait and a category have a name in common, it is that of the
category. -/
def propertySet? (name : String) : Option CodeSet :=
  let name := looseName name
  (named? traits name).or ((categorySet? name).or ((script? name).map scriptSet))

/-- The set of an age: a version, with its point or with a letter in front. -/
def ageSet? (name : List Char) : Option CodeSet :=
  let version := versions.find? fun v =>
    v.2.toList = name || 'v' :: v.2.toList.filter Char.isDigit = name
  version.bind fun v => assignedUpTo? v.2

/-- The set of the characters with this value of a property. -/
def valueSet? (property value : String) : Option CodeSet :=
  let value := looseName value
  match String.ofList (looseName property) with
  | "gc" | "generalcategory" => categorySet? value
  | "sc" | "script" => (script? value).map scriptSet
  | "scx" | "scriptextensions" => (script? value).map extendedScriptSet
  | "age" => ageSet? value
  | "gcb" | "graphemeclusterbreak" => named? graphemeBreaks value
  | "wb" | "wordbreak" => named? wordBreaks value
  | "sb" | "sentencebreak" => named? sentenceBreaks value
  | _ => none

/-- A text before and behind the first place at which another stands in it. -/
def cutAt (mark : List Char) : List Char → Option (List Char × List Char)
  | [] => none
  | c :: rest =>
    if mark.isPrefixOf (c :: rest) then some ([], (c :: rest).drop mark.length)
    else (cutAt mark rest).map fun r => (c :: r.1, r.2)

/-- The set of which the text in the braces behind `\p` speaks, and whether that stands for all
other characters. -/
def bracedSet? (text : List Char) : Option (CodeSet × Bool) :=
  let value (others : Bool) (r : List Char × List Char) : Option (CodeSet × Bool) :=
    (valueSet? (String.ofList r.1) (String.ofList r.2)).map fun s => (s, others)
  match cutAt ['!', '='] text, cutAt [':'] text, cutAt ['='] text with
  | some r, _, _ => value true r
  | none, some r, _ => value false r
  | none, none, some r => value false r
  | none, none, none => (propertySet? (String.ofList text)).map fun s => (s, false)

/-- The classes of ASCII characters that have names within brackets. -/
def asciiSet? (name : String) : Option CodeSet :=
  let digit := (0x30, 0x39)
  let upper := (0x41, 0x5A)
  let lower := (0x61, 0x7A)
  match name with
  | "alnum" => some (.ofRanges [digit, upper, lower])
  | "alpha" => some (.ofRanges [upper, lower])
  | "ascii" => some (.range 0 0x7F)
  | "blank" => some (.ofPoints [0x9, 0x20])
  | "cntrl" => some (.ofRanges [(0, 0x1F), (0x7F, 0x7F)])
  | "digit" => some (.ofRanges [digit])
  | "graph" => some (.range 0x21 0x7E)
  | "lower" => some (.ofRanges [lower])
  | "print" => some (.range 0x20 0x7E)
  | "punct" => some (.ofRanges [(0x21, 0x2F), (0x3A, 0x40), (0x5B, 0x60), (0x7B, 0x7E)])
  | "space" => some (.ofRanges [(0x9, 0xD), (0x20, 0x20)])
  | "upper" => some (.ofRanges [upper])
  | "word" => some (.ofRanges [digit, upper, lower, (0x5F, 0x5F)])
  | "xdigit" => some (.ofRanges [digit, (0x41, 0x46), (0x61, 0x66)])
  | _ => none

end Scriptlet.Pattern
