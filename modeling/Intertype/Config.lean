/-
# Configuration

Settings come from one section of a configuration file, a YAML file in a directory that an environment
variable names; where it names none, the file that comes with the library is read. What was read is
kept, the fields of the file and the settings each, until a reload is asked for, whatever happens to the
file in between.

A file that is missing, that cannot be read, or that holds no mapping leaves a warning and no fields,
and the settings have their defaults. Bytes that are no text, a section that is no mapping, and values
that do not suit are faults, and of a fault nothing is kept. It is also a fault when it cannot be found
out whether there is a file, or when reading it fails otherwise.

How a document is read from bytes and how settings are made of named values is left open: the
configuration is read by given means (`Config.Means`), of which `Config.standard` are one.

Key definitions: `Config`, `Config.File`, `Config.Means`, `Config.standard`, `Config.File.fields?`,
`Config.settingsOf`, `Config.load`, `Config.readSettings`, `Config.reload`.
Key theorems: `Config.load_of_kept`, `Config.fields_load`, `Config.load_eq_error_iff`.
-/
import Intertype.Settings
import Intertype.Text.Newline
import Intertype.Text.Utf8
import Intertype.Yaml.Reading

namespace Intertype
namespace Config

/-- What stands in the place of a configuration file. -/
inductive File
  /-- Nothing. -/
  | absent
  /-- It cannot be found out whether there is anything; the error says why. -/
  | unreachable (error : String)
  /-- A directory. -/
  | directory
  /-- A file that is there, but cannot be opened or read. -/
  | inaccessible
  /-- A file with these bytes. -/
  | content (bytes : List UInt8)
  deriving DecidableEq, Repr

/-- What is wrong with a configuration file of which no field is read. -/
inductive Warning
  /-- There is no file. -/
  | missing
  /-- It is a directory, it cannot be read, or it is not YAML. -/
  | unreadable
  /-- It holds something other than a mapping. -/
  | notMapping
  deriving DecidableEq, Repr

/-- Why there are no settings. -/
inductive Fault
  /-- It cannot be found out whether there is a file. -/
  | unreachable (error : String)
  /-- In the file there are bytes that are no text. -/
  | undecodable (fault : Text.Utf8.Fault)
  /-- Reading the file failed in a way of its own; the error says how. -/
  | broken (error : String)
  /-- The section is of a type that has no fields. -/
  | sectionNotMapping (typeName : String)
  /-- A field of the section has a name that is no text. -/
  | nameNotText
  /-- Values in the section do not suit. -/
  | unsuitable (complaints : List Settings.Complaint)
  deriving DecidableEq

/-- The wording of a fault; complaints are worded one by one. -/
def Fault.message : Fault → String
  | .unreachable error => error
  | .undecodable fault => fault.message
  | .broken error => error
  | .sectionNotMapping typeName =>
    "aspectloom.setting.setting.ComposerSettings() argument after ** must be a mapping, not " ++
      typeName
  | .nameNotText => "keywords must be strings"
  | .unsuitable complaints => "\n".intercalate (complaints.map fun c => c.problem.message)

/-- The fields of a mapping. -/
abbrev Fields := List (Data × Data)

/-- The fields of a document; one that holds nothing has none. -/
def fieldsOf (document : Data) : Fields × Option Warning :=
  if document.isTruthy then
    match document with
    | .mapping fields => (fields, none)
    | _ => ([], some .notMapping)
  else ([], none)

/-- What reading a document from bytes comes to. -/
inductive Reading
  /-- This is the document. -/
  | document (data : Data)
  /-- The text is no document. -/
  | unreadable
  /-- Bytes are met that are no text. -/
  | undecodable (fault : Text.Utf8.Fault)
  /-- Reading fails in any other way. -/
  | broken (error : String)

/-- What the configuration is read by. -/
structure Means where
  /-- Reads a document from the bytes of a file. -/
  read : List UInt8 → Reading
  /-- Makes settings of named values, or complains about values. -/
  make : Fields → Except (List Settings.Complaint) Settings

/-- The fields of a file. -/
def File.fields? (means : Means) : File → Except Fault (Fields × Option Warning)
  | .absent => .ok ([], some .missing)
  | .unreachable error => .error (.unreachable error)
  | .directory => .ok ([], some .unreadable)
  | .inaccessible => .ok ([], some .unreadable)
  | .content bytes =>
    match means.read bytes with
    | .undecodable fault => .error (.undecodable fault)
    | .broken error => .error (.broken error)
    | .unreadable => .ok ([], some .unreadable)
    | .document data => .ok (fieldsOf data)

/-- The name of the section with the settings. -/
def sectionName : String := "composer"

/-- The settings in named values. -/
def settingsOfSection (means : Means) : Data → Except Fault Settings
  | .mapping fields =>
    if fields.any fun f => f.1.text?.isNone then .error .nameNotText
    else (means.make fields).mapError .unsuitable
  | d => .error (.sectionNotMapping d.typeName)

/-- The settings in the fields of a file; a section that is missing, or that holds nothing, is one
without values. -/
def settingsOf (means : Means) (fields : Fields) : Except Fault Settings :=
  match Data.lookup sectionName fields with
  | none => settingsOfSection means (.mapping [])
  | some d => settingsOfSection means (if d.isTruthy then d else .mapping [])

/-- Reads a document of YAML from bytes that are decoded to the end first. -/
def readYaml (bytes : List UInt8) : Reading :=
  match Text.Utf8.decode bytes with
  | .error fault => .undecodable fault
  | .ok cs =>
    match Yaml.read? (Text.withLineFeeds cs) with
    | none => .unreadable
    | some data => .document data

/-- YAML in the file, and settings of the values that it holds. -/
def standard : Means := ⟨readYaml, Settings.ofFields⟩

example : (settingsOf standard []).toOption = some {} := rfl

/-- The text of the file that comes with the library. -/
def shippedText : String :=
  "composer:\n  indent_unit: \"    \"\n  newline: \"\\n\"\n  implicit_packages:\n    - java.lang\n" ++
  "  indent_blank_lines: true\n"

end Config

/-- Where the configuration is looked for, and what is kept of it. -/
structure Config where
  /-- The directory that the environment names. -/
  override : Option String := none
  /-- What stands in place of the file, by directory. -/
  files : List (String × Config.File) := []
  /-- The fields that were read. -/
  fields : Option Config.Fields := none
  /-- The settings that were read. -/
  settings : Option Settings := none

namespace Config

/-- The directory that the file is looked for in, unless it is the one that comes with the library; an
empty name counts as none. -/
def directory? (c : Config) : Option String :=
  c.override.filter (· ≠ "")

/-- What stands in place of the file. -/
def file (c : Config) : File :=
  match c.directory? with
  | none => .content shippedText.toUTF8.toList
  | some directory => (c.files.lookup directory).getD .absent

/-- With something else in place of the file in a directory. -/
def replace (c : Config) (directory : String) (file : File) : Config :=
  { c with files := (directory, file) :: c.files }

/-- With nothing kept. -/
def reload (c : Config) : Config :=
  { c with fields := none, settings := none }

/-- What asking for something of the configuration comes to. -/
structure Answer (α : Type) where
  result : Except Fault α
  /-- The warning that was given. -/
  warning : Option Warning
  /-- The configuration afterwards. -/
  after : Config

/-- The fields of the file: those that were kept, or else those that are read now. -/
def load (c : Config) (means : Means) : Answer Fields :=
  match c.fields with
  | some fields => ⟨.ok fields, none, c⟩
  | none =>
    match c.file.fields? means with
    | .error fault => ⟨.error fault, none, c⟩
    | .ok (fields, warning) => ⟨.ok fields, warning, { c with fields := some fields }⟩

/-- The settings: those that were kept, or else those in the fields of the file. -/
def readSettings (c : Config) (means : Means) : Answer Settings :=
  match c.settings with
  | some s => ⟨.ok s, none, c⟩
  | none =>
    let loaded := c.load means
    match loaded.result with
    | .error fault => ⟨.error fault, loaded.warning, loaded.after⟩
    | .ok fields =>
      match settingsOf means fields with
      | .error fault => ⟨.error fault, loaded.warning, loaded.after⟩
      | .ok s => ⟨.ok s, loaded.warning, { loaded.after with settings := some s }⟩

variable {c : Config} {means : Means} {fields : Fields} {fault : Fault}

/-- Fields that were kept are not read again. -/
theorem load_of_kept (h : c.fields = some fields) : c.load means = ⟨.ok fields, none, c⟩ := by
  unfold load
  rw [h]

/-- The fields that a load answers are kept. -/
theorem fields_load (h : (c.load means).result = .ok fields) :
    (c.load means).after.fields = some fields := by
  cases hc : c.fields with
  | some kept =>
    rw [load_of_kept hc] at h ⊢
    injection h with h
    rw [hc, h]
  | none =>
    unfold load at h ⊢
    rw [hc] at h ⊢
    cases hf : c.file.fields? means with
    | error fault =>
      simp only [hf] at h
      cases h
    | ok p =>
      simp only [hf] at h ⊢
      injection h with h
      rw [h]

/-- A load fails where no fields are kept and those of the file cannot be had. -/
theorem load_eq_error_iff : (c.load means).result = .error fault ↔
    c.fields = none ∧ c.file.fields? means = .error fault := by
  unfold load
  cases c.fields with
  | some kept => exact iff_of_false nofun nofun
  | none =>
    cases hfile : c.file.fields? means with
    | error f =>
      refine ⟨fun h => ⟨rfl, ?_⟩, fun ⟨_, h⟩ => ?_⟩
      · rw [Except.error.inj h]
      · rw [Except.error.inj h]
    | ok answer => exact iff_of_false nofun nofun

/-- A load that fails gives no warning and keeps nothing. -/
theorem load_of_fault (h : (c.load means).result = .error fault) :
    c.load means = ⟨.error fault, none, c⟩ := by
  obtain ⟨hkept, hfile⟩ := load_eq_error_iff.mp h
  unfold load
  rw [hkept]
  simp only [hfile]

end Config
end Intertype
