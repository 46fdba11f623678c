/-
# When asking for the configuration fails

A faulty configuration file should not stop a composition: where there is none, where it cannot be read or
holds no YAML or no mapping, there are no fields, and the settings have their defaults or are complained
about value by value. Three kinds of faults get past this. It may not be found out whether there is a
file at all; the bytes in it may be no text, which is met while a document is read from them; and a
section that is no mapping, or in which a name is no text, fails before its values are looked at.

These are the only ones, by whatever means documents are read and settings are made, as long as text in
UTF-8 is found to be a document or to be none (`fails_iff`). A reader may come upon a fault in the text
before it comes upon bytes that are no text, so not every file that is no UTF-8 fails. All of them fail
with the standard reader, which decodes a file to its end before it reads a document from it
(`standard_isFaulty_iff`).

Key definitions: `Config.File.IsFaulty`, `Config.Means.ReadsText`, `Config.HasUnfitSection`,
`Config.Fault.IsUnsuitable`.
Key theorems: `Config.fields?_fails_iff`, `Config.settingsOf_fails_iff`, `Config.fails_iff`,
`Config.standard_isFaulty_iff`.
-/
import Intertype.Proofs.Config.Keeping
import Intertype.Proofs.Text.Utf8

namespace Intertype
namespace Config

/-! ### What goes wrong -/

variable (means : Means)

/-- Whether bytes were met that are no text, or reading failed in any other way. -/
def Reading.IsFault : Reading → Prop
  | .undecodable _ => True
  | .broken _ => True
  | _ => False

/-- Whether it cannot be found out if there is a file, or reading it fails. -/
def File.IsFaulty : File → Prop
  | .unreachable _ => True
  | .content bytes => (means.read bytes).IsFault
  | _ => False

/-- Whether text in UTF-8 is found to be a document, or to be none. -/
def Means.ReadsText : Prop :=
  ∀ bytes : List UInt8, bytes.toByteArray.IsValidUTF8 → ¬ (means.read bytes).IsFault

/-- Whether the section is a mapping in which every name is text. -/
def IsNamed : Data → Prop
  | .mapping fields => ∀ f ∈ fields, f.1.text? ≠ none
  | _ => False

/-- Whether there is something in the section with the settings, but no named values. -/
def HasUnfitSection (fields : Fields) : Prop :=
  ∃ d, Data.lookup sectionName fields = some d ∧ d.isTruthy = true ∧ ¬ IsNamed d

/-- Whether values were looked at and complained about. -/
def Fault.IsUnsuitable : Fault → Prop
  | .unsuitable _ => True
  | _ => False

/-! ### One file -/

/-- The fields of a file can be had, unless it is faulty. -/
theorem fields?_fails_iff (file : File) :
    (∃ f, file.fields? means = .error f) ↔ file.IsFaulty means := by
  cases file with
  | content bytes =>
    rw [File.IsFaulty, File.fields?]
    cases means.read bytes with
    | undecodable fault => exact iff_of_true ⟨.undecodable fault, rfl⟩ trivial
    | broken error => exact iff_of_true ⟨.broken error, rfl⟩ trivial
    | _ => exact iff_of_false nofun id
  | unreachable error => exact iff_of_true ⟨.unreachable error, rfl⟩ trivial
  | _ => exact iff_of_false nofun id

/-- The fault of a file is no complaint about values. -/
theorem not_isUnsuitable_of_fields? {file : File} {f : Fault} (h : file.fields? means = .error f) :
    ¬ f.IsUnsuitable := by
  cases file with
  | content bytes =>
    rw [File.fields?] at h
    cases hread : means.read bytes with
    | undecodable fault | broken error =>
      rw [hread] at h
      rw [← Except.error.inj h]
      exact id
    | _ =>
      rw [hread] at h
      cases h
  | unreachable error =>
    rw [← Except.error.inj h]
    exact id
  | _ => cases h

/-- Named values are good or complained about; anything else fails in another way. -/
theorem settingsOfSection_fails_iff (d : Data) :
    (∃ f, settingsOfSection means d = .error f ∧ ¬ f.IsUnsuitable) ↔ ¬ IsNamed d := by
  cases d with
  | mapping fields =>
    have hnamed : IsNamed (.mapping fields) ↔ (fields.any fun f => f.1.text?.isNone) = false := by
      rw [List.any_eq_false]
      exact forall₂_congr fun f _ => by rw [Option.isNone_iff_eq_none]
    rw [settingsOfSection, hnamed]
    cases hany : fields.any fun f => f.1.text?.isNone with
    | true => exact iff_of_true ⟨.nameNotText, rfl, id⟩ nofun
    | false =>
      refine iff_of_false (fun ⟨f, hf, hsuits⟩ => ?_) (fun h => h rfl)
      cases hmake : means.make fields with
      | ok s =>
        rw [hmake] at hf
        cases hf
      | error complaints =>
        rw [hmake] at hf
        exact hsuits (Except.error.inj hf ▸ trivial)
  | _ => exact iff_of_true ⟨_, rfl, id⟩ id

/-- Fields come to settings or to complaints, unless there is something unfit in the section. -/
theorem settingsOf_fails_iff (fields : Fields) :
    (∃ f, settingsOf means fields = .error f ∧ ¬ f.IsUnsuitable) ↔ HasUnfitSection fields := by
  have hempty : IsNamed (.mapping []) := fun f hf => absurd hf List.not_mem_nil
  unfold settingsOf HasUnfitSection
  cases hlookup : Data.lookup sectionName fields with
  | none =>
    refine (settingsOfSection_fails_iff means (.mapping [])).trans (iff_of_false (· hempty) ?_)
    exact fun ⟨d, hd, _⟩ => nomatch hd
  | some d =>
    refine (settingsOfSection_fails_iff means _).trans ?_
    cases htruthy : d.isTruthy with
    | true => exact ⟨fun h => ⟨d, rfl, htruthy, h⟩, fun ⟨e, he, _, h⟩ => Option.some.inj he ▸ h⟩
    | false =>
      refine iff_of_false (· hempty) fun ⟨e, he, hne, _⟩ => ?_
      rw [← Option.some.inj he, htruthy] at hne
      cases hne

/-! ### Any moment -/

variable {means}

/-- A load fails exactly if no fields are kept and the file is faulty. -/
theorem load_fails_iff (c : Config) :
    (∃ f, (c.load means).result = .error f) ↔ c.fields = none ∧ c.file.IsFaulty means := by
  rw [← fields?_fails_iff]
  constructor
  · rintro ⟨f, h⟩
    obtain ⟨hkept, hfile⟩ := load_eq_error_iff.mp h
    exact ⟨hkept, f, hfile⟩
  · rintro ⟨hkept, f, hfile⟩
    exact ⟨f, load_eq_error_iff.mpr ⟨hkept, hfile⟩⟩

/-- The settings that are answered are those in the fields that a load comes to. -/
theorem Consistent.readSettings_result {c : Config} (h : c.Consistent means) :
    (c.readSettings means).result = (c.load means).result >>= settingsOf means :=
  Reply.settings.inj (h.reply .settings)

/-- A file that is faulty cannot be looked for or is no UTF-8. -/
theorem File.IsFaulty.cause (hreads : means.ReadsText) {file : File} (h : file.IsFaulty means) :
    (∃ error, file = .unreachable error) ∨
      ∃ bytes, file = .content bytes ∧ ¬ bytes.toByteArray.IsValidUTF8 := by
  cases file with
  | unreachable error => exact Or.inl ⟨error, rfl⟩
  | content bytes => exact Or.inr ⟨bytes, rfl, fun hvalid => hreads bytes hvalid h⟩
  | _ => exact h.elim

/-- **What makes the configuration fail.** At every moment of a process a load fails exactly if nothing
is kept and the file is faulty, and the settings fail otherwise than by complaints about values exactly if
the load does or there is something in the section of the fields it comes to that is not named values. A
file is faulty only where it cannot be found out whether there is one, or where it is no UTF-8. -/
theorem fails_iff (hreads : means.ReadsText) (override : Option String)
    (files : List (String × File)) (before : List Step) :
    let c := ((fresh override files).run means before).2
    ((∃ f, (c.load means).result = .error f) ↔ c.fields = none ∧ c.file.IsFaulty means) ∧
    ((∃ f, (c.readSettings means).result = .error f ∧ ¬ f.IsUnsuitable) ↔
      (c.fields = none ∧ c.file.IsFaulty means) ∨
        ∃ loaded, (c.load means).result = .ok loaded ∧ HasUnfitSection loaded) ∧
    (c.file.IsFaulty means → (∃ error, c.file = .unreachable error) ∨
      ∃ bytes, c.file = .content bytes ∧ ¬ bytes.toByteArray.IsValidUTF8) := by
  intro c
  have hc : c.Consistent means :=
    Consistent.run (Or.inl (keepsNothing_fresh override files)) before
  refine ⟨c.load_fails_iff, ?_, File.IsFaulty.cause hreads⟩
  rw [← load_fails_iff, hc.readSettings_result]
  cases hload : (c.load means).result with
  | error f =>
    have hf : ¬ f.IsUnsuitable := not_isUnsuitable_of_fields? means (load_eq_error_iff.mp hload).2
    exact iff_of_true ⟨f, rfl, hf⟩ (Or.inl ⟨f, rfl⟩)
  | ok loaded =>
    refine (settingsOf_fails_iff means loaded).trans ⟨fun h => Or.inr ⟨loaded, rfl, h⟩, ?_⟩
    rintro (⟨f, hf⟩ | ⟨other, hother, h⟩)
    · cases hf
    · rwa [Except.ok.inj hother]

/-- To the standard reader bytes are faulty exactly if they are no UTF-8. -/
theorem standard_isFaulty_iff (bytes : List UInt8) :
    (File.content bytes).IsFaulty standard ↔ ¬ bytes.toByteArray.IsValidUTF8 := by
  show (readYaml bytes).IsFault ↔ _
  rw [← Text.Utf8.decode_eq_error_iff]
  unfold readYaml
  cases Text.Utf8.decode bytes with
  | error fault => exact iff_of_true trivial ⟨fault, rfl⟩
  | ok cs =>
    refine iff_of_false ?_ nofun
    cases hread : Yaml.read? (Text.withLineFeeds cs) <;> simp only [hread] <;> exact id

theorem standard_readsText : standard.ReadsText := fun bytes hvalid h =>
  (standard_isFaulty_iff bytes).mp h hvalid

/-- The fault that an answer is, if it is one. -/
def Answer.fault? {α : Type} (a : Answer α) : Option Fault :=
  match a.result with
  | .ok _ => none
  | .error f => some f

/-- A byte that begins no character is in the file that was put in place of a good one, after a
reload. -/
theorem fails_iff_replaced :
    let good : File := .content "composer: \x7b\x7d".toUTF8.toList
    let c := ((fresh (some "d") [("d", good)]).run standard
      [.settings, .replace "d" (.content [0xFF]), .reload]).2
    standard.ReadsText ∧ (∃ f, (c.load standard).result = .error f) ∧
      ∃ f, (c.readSettings standard).result = .error f ∧ ¬ f.IsUnsuitable := by
  intro good c
  obtain ⟨hload, hsettings, -⟩ := fails_iff standard_readsText (some "d") [("d", good)]
    [.settings, .replace "d" (.content [0xFF]), .reload]
  have hfile : c.file = .content [0xFF] := by decide +kernel
  have hfaulty : c.fields = none ∧ c.file.IsFaulty standard := by
    rw [hfile]
    exact ⟨rfl, trivial⟩
  exact ⟨standard_readsText, hload.mpr hfaulty, hsettings.mpr (Or.inl hfaulty)⟩

/-- A byte that begins no character stops a load, and a number in place of the section stops the
settings. -/
theorem faulty_file_fails :
    let holding (bytes : List UInt8) : Config := fresh (some "d") [("d", .content bytes)]
    ((holding [0xFF]).load standard).fault? = some (.undecodable ⟨.invalidStart, 0xFF, 0, 1⟩) ∧
      ((holding "composer: 5".toUTF8.toList).readSettings standard).fault? =
        some (.sectionNotMapping "int") := by
  decide +kernel

end Config
end Intertype
