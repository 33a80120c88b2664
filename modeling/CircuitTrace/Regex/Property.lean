import CircuitTrace.Regex.CharSet
import CircuitTrace.Regex.Complaint
import CircuitTrace.Unicode.Age
import CircuitTrace.Unicode.Binary
import CircuitTrace.Unicode.Break
import CircuitTrace.Unicode.Category
import CircuitTrace.Unicode.Property
import CircuitTrace.Unicode.Script

namespace CircuitTrace.CharSet

open Unicode (listed changing looseName named?)
open Regex (Complaint)

def category (labels : List String) : CharSet := ranges (Unicode.inCategories labels)

def alphabetic : CharSet :=
  union (ofRanges [('A', 'Z'), ('a', 'z')]) (ranges Unicode.alphabeticRanges)

def uppercase : CharSet := union (category ["Lu"]) (ranges (listed "Other_Uppercase"))

def lowercase : CharSet := union (category ["Ll"]) (ranges (listed "Other_Lowercase"))

def letters : CharSet := category ["Lu", "Ll", "Lt", "Lm", "Lo", "Nl"]

def pattern : CharSet :=
  union (ranges (listed "Pattern_Syntax")) (ranges (listed "Pattern_White_Space"))

def idStart : CharSet := diff (union letters (ranges (listed "Other_ID_Start"))) pattern

def idContinue : CharSet :=
  union idStart (diff (union (category ["Mn", "Mc", "Nd", "Pc"])
    (ranges (listed "Other_ID_Continue"))) pattern)

def unstable : CharSet :=
  ranges #[(0x37a, 0x37a), (0x309b, 0x309c), (0xfc5e, 0xfc63), (0xfdfa, 0xfdfb), (0xfe70, 0xfe70),
    (0xfe72, 0xfe72), (0xfe74, 0xfe74), (0xfe76, 0xfe76), (0xfe78, 0xfe78), (0xfe7a, 0xfe7a),
    (0xfe7c, 0xfe7c), (0xfe7e, 0xfe7e)]

/-- The characters that may begin an identifier, but not one that is normalized, although they may
stand inside it. -/
def unstableStart : CharSet := ranges #[(0xe33, 0xe33), (0xeb3, 0xeb3), (0xff9e, 0xff9f)]

def graphemeExtend : CharSet :=
  union (category ["Mn", "Me"]) (ranges (listed "Other_Grapheme_Extend"))

def visibleFormat : CharSet :=
  union (ranges (listed "Prepended_Concatenation_Mark"))
    (ranges #[(0xfff9, 0xfffb), (0x13430, 0x1343f)])

def derived? : String → Option CharSet
  | "ASCII_Hex_Digit" => ascii? "xdigit"
  | "Alphabetic" => some alphabetic
  | "Case_Ignorable" => some (union (category ["Mn", "Me", "Cf", "Lm", "Sk"])
    (ranges (Unicode.runs 2 ["MB", "ML", "SQ"].contains Unicode.wordRuns)))
  | "Cased" => some (union (union uppercase lowercase) (category ["Lt"]))
  | "Changes_When_Casefolded" => some (ranges (changing ["U", "s", "T", "X"]))
  | "Changes_When_Casemapped" => some (ranges (changing ["U", "l", "s", "A", "a", "T", "X"]))
  | "Changes_When_Lowercased" => some (ranges (changing ["U", "A", "T", "X"]))
  | "Changes_When_Titlecased" => some (ranges (changing ["l", "s", "X"]))
  | "Changes_When_Uppercased" => some (ranges (changing ["l", "s", "a", "T"]))
  | "Default_Ignorable_Code_Point" => some (diff (union (category ["Cf"])
    (union (ranges (listed "Variation_Selector"))
      (ranges (listed "Other_Default_Ignorable_Code_Point")))) visibleFormat)
  | "Grapheme_Base" => some (compl (union graphemeExtend
    (category ["Cc", "Cf", "Co", "Cn", "Zl", "Zp"])))
  | "Grapheme_Extend" => some graphemeExtend
  | "ID_Continue" => some idContinue
  | "ID_Start" => some idStart
  | "Lowercase" => some lowercase
  | "Math" => some (union (category ["Sm"]) (ranges (listed "Other_Math")))
  | "Other_Alphabetic" => some (diff alphabetic letters)
  | "Uppercase" => some uppercase
  | "White_Space" => some space
  | "XID_Continue" => some (diff idContinue unstable)
  | "XID_Start" => some (diff idStart (union unstable unstableStart))
  | _ => Option.none

def binary? (property : String) : Option CharSet :=
  match derived? property with
  | some s => some s
  | Option.none =>
    if Unicode.binaryRuns.any (·.1 == property) then some (ranges (listed property))
    else Option.none

def category? (name : List Char) : Option CharSet :=
  match String.ofList name with
  | "any" => some all
  | "assigned" => some (compl (category ["Cn"]))
  | "ascii" => ascii? "ascii"
  | _ => (named? Prod.fst Unicode.categories name).map fun entry => category entry.2

def script? (name : List Char) : Option String :=
  (named? id Unicode.scripts name).bind List.head?

/-- A category or a script without any character is a name without a set. -/
def isVoid (name : List Char) : Bool :=
  (named? id [["Cs", "Surrogate"], ["Hrkt", "Katakana_Or_Hiragana"], ["Zzzz", "Unknown"]]
    name).isSome

def inScript (label : String) : CharSet := ranges (Unicode.inScript label)

def usedIn (label : String) : CharSet :=
  union (ranges (Unicode.extendedTo label)) (diff (inScript label) (ranges Unicode.extended))

/-- The characters with a value that a table names, by the text of their labels. -/
def labelled? (table : List (List String × String)) (text : String) (value : List Char) :
    Option CharSet :=
  (named? Prod.fst table value).map fun entry => ranges (Unicode.runs 2 (· == entry.2) text)

def grapheme? (value : List Char) : Option CharSet :=
  match String.ofList value with
  | "lv" => some (ranges Unicode.openSyllables)
  | "lvt" => some (ranges Unicode.closedSyllables)
  | _ => labelled? Unicode.graphemeValues Unicode.graphemeRuns value

/-- The characters with a value of a property, which is given by its full name. -/
def valued? (property : String) (value : List Char) : Option CharSet :=
  match property with
  | "General_Category" => category? value
  | "Script" => (script? value).map inScript
  | "Script_Extensions" => (script? value).map usedIn
  | "Age" =>
    (named? Prod.fst Unicode.versions value).map fun entry => ranges (Unicode.assignedIn entry.2)
  | "Grapheme_Cluster_Break" => grapheme? value
  | "Sentence_Break" => labelled? Unicode.sentenceValues Unicode.sentenceRuns value
  | "Word_Break" => labelled? Unicode.wordValues Unicode.wordRuns value
  | _ => Option.none

/-- What a single name stands for: a property that holds or does not, a category or a script. Three
names of categories abbreviate other properties as well. -/
def ofName (name : List Char) : Except Complaint CharSet :=
  let name := looseName name
  let property? := if String.ofList name ∈ ["cf", "sc", "lc"] then Option.none
    else Unicode.property? name
  match property? with
  | some property =>
    match binary? property with
    | some s => .ok s
    | Option.none => .error .propertyNotFound
  | Option.none =>
    match (category? name).or ((script? name).map inScript) with
    | some s => .ok s
    | Option.none => .error (if isVoid name then .propertyValueNotFound else .propertyNotFound)

def ofValue (property value : List Char) : Except Complaint CharSet :=
  match Unicode.property? (looseName property) with
  | Option.none => .error .propertyNotFound
  | some property =>
    match valued? property (looseName value) with
    | some s => .ok s
    | Option.none => .error .propertyValueNotFound

end CircuitTrace.CharSet
