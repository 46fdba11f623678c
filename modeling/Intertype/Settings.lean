/-
# Settings

How sources are laid out, and which packages are in scope without an import. Settings are read from
plain data field by field; a field that is missing has its default, and every unsuitable value is
complained about, in the order of the fields. A truth value may be given as a number or a word.

Key definitions: `Settings`, `Settings.ofFields`, `Settings.Complaint`, `Settings.readTruth`.
-/
import Intertype.Data
import Intertype.Layout

namespace Intertype

/-- The settings of a composition. -/
structure Settings extends Layout where
  /-- The packages whose types need no import. -/
  implicitPackages : List String := ["java.lang"]
  deriving DecidableEq, Repr, Inhabited

namespace Settings

/-- The fields that can be set. -/
inductive Key
  | indentUnit
  | newline
  | implicitPackages
  | indentBlankLines
  deriving DecidableEq, Repr

/-- The name of a field in the data. -/
def Key.name : Key → String
  | .indentUnit => "indent_unit"
  | .newline => "newline"
  | .implicitPackages => "implicit_packages"
  | .indentBlankLines => "indent_blank_lines"

/-- What is wrong with a value. -/
inductive Problem
  /-- It is not text. -/
  | notText
  /-- It is not a list. -/
  | notList
  /-- It is of a type that has no truth value. -/
  | notTruth
  /-- It is a number or a word that stands for no truth value. -/
  | unknownTruth
  deriving DecidableEq, Repr

/-- The short name of a problem. -/
def Problem.code : Problem → String
  | .notText => "string_type"
  | .notList => "list_type"
  | .notTruth => "bool_type"
  | .unknownTruth => "bool_parsing"

/-- The wording of a problem. -/
def Problem.message : Problem → String
  | .notText => "Input should be a valid string"
  | .notList => "Input should be a valid list"
  | .notTruth => "Input should be a valid boolean"
  | .unknownTruth => "Input should be a valid boolean, unable to interpret input"

/-- A value that does not suit its field. -/
structure Complaint where
  /-- The field. -/
  key : Key
  /-- The place in the list, where the value is an item of one. -/
  index : Option Nat := none
  problem : Problem
  deriving DecidableEq, Repr

/-- Reads text. -/
def readText (key : Key) (index : Option Nat) : Data → Except (List Complaint) String
  | .text s => .ok s
  | _ => .error [⟨key, index, .notText⟩]

/-- Reads the items of a list from the given place on, and complains about each that is not text. -/
def readItems (key : Key) : Nat → List Data → Except (List Complaint) (List String)
  | _, [] => .ok []
  | n, d :: rest =>
    match readText key (some n) d, readItems key (n + 1) rest with
    | .ok s, .ok more => .ok (s :: more)
    | .error e, .error more => .error (e ++ more)
    | .error e, .ok _ => .error e
    | .ok _, .error more => .error more

/-- Reads a list of texts. -/
def readList (key : Key) : Data → Except (List Complaint) (List String)
  | .list items => readItems key 0 items
  | _ => .error [⟨key, none, .notList⟩]

/-- The words for yes, in lower case. -/
def yesWords : List String := ["1", "on", "t", "true", "y", "yes"]

/-- The words for no, in lower case. -/
def noWords : List String := ["0", "off", "f", "false", "n", "no"]

/-- The truth value of a whole number. -/
def truthOfInteger (i : Int) : Except Problem Bool :=
  if i = 0 then .ok false else if i = 1 then .ok true else .error .unknownTruth

/-- The truth value of plain data: of a truth value itself, of the numbers zero and one, and of a word
for yes or no in letters of either case. A double counts as a number if it is a whole one of 64 bits. -/
def truthOf : Data → Except Problem Bool
  | .boolean b => .ok b
  | .integer i => truthOfInteger i
  | .double x =>
    match x.whole? with
    | some i => if -(Int.pow 2 63) ≤ i ∧ i < Int.pow 2 63 then truthOfInteger i else .error .notTruth
    | none => .error .notTruth
  | .text s =>
    let word := String.ofList (s.toList.map Char.toLower)
    if word ∈ yesWords then .ok true
    else if word ∈ noWords then .ok false
    else .error .unknownTruth
  | _ => .error .notTruth

/-- Reads a truth value. -/
def readTruth (key : Key) (d : Data) : Except (List Complaint) Bool :=
  match truthOf d with
  | .ok b => .ok b
  | .error problem => .error [⟨key, none, problem⟩]

/-- Reads a field, or takes its default where it is missing. -/
def readField {α : Type} (fields : List (Data × Data)) (key : Key) (default : α)
    (read : Key → Data → Except (List Complaint) α) : Except (List Complaint) α :=
  match Data.lookup key.name fields with
  | none => .ok default
  | some d => read key d

/-- The complaints in an outcome. -/
def complaints {α : Type} : Except (List Complaint) α → List Complaint
  | .ok _ => []
  | .error cs => cs

/-- Reads settings from the fields of a mapping; unknown fields make no difference. -/
def ofFields (fields : List (Data × Data)) : Except (List Complaint) Settings :=
  let default : Settings := {}
  let indentUnit := readField fields .indentUnit default.indentUnit (readText · none)
  let newline := readField fields .newline default.newline (readText · none)
  let packages := readField fields .implicitPackages default.implicitPackages readList
  let blanks := readField fields .indentBlankLines default.indentBlankLines readTruth
  match indentUnit, newline, packages, blanks with
  | .ok indentUnit, .ok newline, .ok implicitPackages, .ok indentBlankLines =>
    .ok { indentUnit, newline, implicitPackages, indentBlankLines }
  | _, _, _, _ =>
    .error (complaints indentUnit ++ complaints newline ++ complaints packages ++
      complaints blanks)

end Settings
end Intertype
