/-
# What is kept of the configuration

The fields of the configuration file and the settings in them are kept apart from each other: where the
section with the settings does not suit, the fields are kept and the settings are not. Whatever happens
to the file and in whatever order the two are asked for, only two kinds of states arise
(`Config.Consistent.run`): nothing is kept at all, or fields are, and the settings with them, if
any, are those in the fields. So what is answered depends on the fields that a load comes to, and on
nothing else (`Config.Consistent.reply`). By which means documents are read and settings are made does
not matter to any of this.

That nothing is looked up where fields are kept is said with the look at the file as an action of any
kind, which may fail or be counted: `Config.loadBy` and `Config.readSettingsBy` are `Config.load` and
`Config.readSettings` for the action that hands out the file (`Config.loadBy_file`), and with fields
kept they do without the action (`Config.Keeps.loadBy`).

Key definitions: `Config.Step`, `Config.perform`, `Config.run`, `Config.fresh`, `Config.KeepsNothing`,
`Config.Keeps`, `Config.Consistent`, `Config.loadBy`, `Config.readSettingsBy`.
Key theorems: `Config.Keeps.run`, `Config.Consistent.run`, `Config.Consistent.reply`,
`Config.kept_until_reload`.
-/
import Intertype.Config

namespace Intertype
namespace Config

/-! ### Runs -/

/-- What can happen to a configuration. -/
inductive Step
  /-- Something else comes to stand in place of the file in a directory: another file, a directory, or
  nothing. -/
  | replace (directory : String) (file : File)
  /-- The environment comes to name another directory, or none. -/
  | lookIn (directory : Option String)
  /-- The fields are asked for. -/
  | load
  /-- The settings are asked for. -/
  | settings
  /-- What was kept is given up. -/
  | reload

/-- Whether something of the configuration is asked for. -/
def Step.asks : Step → Bool
  | .load => true
  | .settings => true
  | _ => false

/-- What is answered. -/
inductive Reply
  | done
  | fields (result : Except Fault Fields)
  | settings (result : Except Fault Settings)

/-- The answer that follows from what a load comes to. -/
def Step.replyFrom (means : Means) (loaded : Except Fault Fields) : Step → Reply
  | .load => .fields loaded
  | .settings => .settings (loaded >>= settingsOf means)
  | _ => .done

/-- Carries out a step: the answer, with the warning given, and the configuration afterwards. -/
def perform (c : Config) (means : Means) : Step → (Reply × Option Warning) × Config
  | .replace directory file => ((.done, none), c.replace directory file)
  | .lookIn directory => ((.done, none), { c with override := directory })
  | .load =>
    let answer := c.load means
    ((.fields answer.result, answer.warning), answer.after)
  | .settings =>
    let answer := c.readSettings means
    ((.settings answer.result, answer.warning), answer.after)
  | .reload => ((.done, none), c.reload)

/-- Carries out steps in order. -/
def run (c : Config) (means : Means) : List Step → List (Reply × Option Warning) × Config
  | [] => ([], c)
  | s :: rest =>
    let first := c.perform means s
    let others := first.2.run means rest
    (first.1 :: others.1, others.2)

/-- The configuration of a process that has just started. -/
def fresh (override : Option String) (files : List (String × File)) : Config :=
  { override, files }

/-! ### What is kept -/

/-- Whether nothing is kept. -/
def KeepsNothing (c : Config) : Prop :=
  c = fresh c.override c.files

/-- Whether these fields are kept, and no settings but those in them. -/
structure Keeps (c : Config) (means : Means) (kept : Fields) : Prop where
  fields : c.fields = some kept
  settings : ∀ s, c.settings = some s → settingsOf means kept = .ok s

/-- Whether nothing is kept, or else fields are, with no settings but theirs. -/
def Consistent (c : Config) (means : Means) : Prop :=
  c.KeepsNothing ∨ ∃ kept, c.Keeps means kept

variable {c : Config} {means : Means} {kept : Fields} {fault : Fault}

theorem keepsNothing_fresh (override : Option String) (files : List (String × File)) :
    (fresh override files).KeepsNothing := rfl

theorem keepsNothing_reload (c : Config) : c.reload.KeepsNothing := rfl

theorem KeepsNothing.settings (h : c.KeepsNothing) : c.settings = none := by
  rw [h]
  rfl

theorem KeepsNothing.fields (h : c.KeepsNothing) : c.fields = none := by
  rw [h]
  rfl

/-- A load leaves the settings alone. -/
theorem settings_load (c : Config) (means : Means) : (c.load means).after.settings = c.settings := by
  unfold load
  split
  · rfl
  · split <;> rfl

/-- The settings in the fields that were loaded. -/
def settingsFrom (means : Means) (loaded : Answer Fields) : Answer Settings :=
  match loaded.result with
  | .error fault => ⟨.error fault, loaded.warning, loaded.after⟩
  | .ok fields =>
    match settingsOf means fields with
    | .error fault => ⟨.error fault, loaded.warning, loaded.after⟩
    | .ok s => ⟨.ok s, loaded.warning, { loaded.after with settings := some s }⟩

theorem settingsFrom_of_ok {loaded : Answer Fields} (h : loaded.result = .ok kept) :
    settingsFrom means loaded =
      match settingsOf means kept with
      | .error fault => ⟨.error fault, loaded.warning, loaded.after⟩
      | .ok s => ⟨.ok s, loaded.warning, { loaded.after with settings := some s }⟩ := by
  unfold settingsFrom
  rw [h]

/-- They are good or not by the fields, and the warning is that of the load. -/
theorem settingsFrom_answers (means : Means) (loaded : Answer Fields) :
    (settingsFrom means loaded).result = loaded.result >>= settingsOf means ∧
      (settingsFrom means loaded).warning = loaded.warning := by
  cases hloaded : loaded.result with
  | error fault =>
    have hfrom : settingsFrom means loaded = ⟨.error fault, loaded.warning, loaded.after⟩ := by
      unfold settingsFrom
      rw [hloaded]
    rw [hfrom]
    exact ⟨rfl, rfl⟩
  | ok fields =>
    have hresult : ((.ok fields : Except Fault Fields) >>= settingsOf means) =
        settingsOf means fields := rfl
    rw [hresult, settingsFrom_of_ok hloaded]
    cases settingsOf means fields with
    | error fault => exact ⟨rfl, rfl⟩
    | ok s => exact ⟨rfl, rfl⟩

/-- Settings that are not kept are those in the fields that a load comes to. -/
theorem readSettings_of_none (h : c.settings = none) :
    c.readSettings means = settingsFrom means (c.load means) := by
  unfold readSettings
  rw [h]
  rfl

namespace Keeps

theorem load (h : c.Keeps means kept) : c.load means = ⟨.ok kept, none, c⟩ :=
  load_of_kept h.fields

/-- Taking up the settings in the fields that are kept. -/
theorem settingsFrom {loaded : Answer Fields} (h : loaded.after.Keeps means kept)
    (hloaded : loaded.result = .ok kept) : (settingsFrom means loaded).after.Keeps means kept := by
  rw [settingsFrom_of_ok hloaded]
  cases hs : settingsOf means kept with
  | error fault => exact h
  | ok s => exact ⟨h.fields, fun t ht => by rw [hs, ← Option.some.inj ht]⟩

/-- Settings are those in the fields, be they kept or not, and the fields stay. -/
theorem readSettings (h : c.Keeps means kept) :
    (c.readSettings means).result = settingsOf means kept ∧
      (c.readSettings means).warning = none ∧
      (c.readSettings means).after.Keeps means kept := by
  cases hs : c.settings with
  | some s =>
    rw [Config.readSettings, hs]
    exact ⟨(h.settings s hs).symm, rfl, h⟩
  | none =>
    obtain ⟨hresult, hwarning⟩ := settingsFrom_answers means (c.load means)
    rw [readSettings_of_none hs, hresult, hwarning, h.load]
    exact ⟨rfl, rfl, settingsFrom h rfl⟩

/-- Where fields are kept, they alone decide every answer, and they stay until a reload. -/
theorem perform (h : c.Keeps means kept) {s : Step} (hs : s ≠ .reload) :
    (c.perform means s).1 = (s.replyFrom means (.ok kept), none) ∧
      (c.perform means s).2.Keeps means kept := by
  cases s with
  | replace directory file => exact ⟨rfl, h.fields, h.settings⟩
  | lookIn directory => exact ⟨rfl, h.fields, h.settings⟩
  | load =>
    rw [Config.perform, h.load]
    exact ⟨rfl, h⟩
  | settings =>
    obtain ⟨hresult, hwarning, hafter⟩ := h.readSettings
    rw [Config.perform, hresult, hwarning]
    exact ⟨rfl, hafter⟩
  | reload => exact absurd rfl hs

/-- **As long as there is no reload every answer follows from the fields that are kept.** -/
theorem run (h : c.Keeps means kept) {steps : List Step} (hs : .reload ∉ steps) :
    (c.run means steps).1 = steps.map (fun s => (s.replyFrom means (.ok kept), none)) ∧
      (c.run means steps).2.Keeps means kept := by
  induction steps generalizing c with
  | nil => exact ⟨rfl, h⟩
  | cons s rest ih =>
    obtain ⟨hreply, hafter⟩ := h.perform fun he => hs (he ▸ List.mem_cons_self)
    obtain ⟨hreplies, hend⟩ := ih hafter fun hr => hs (List.mem_cons_of_mem s hr)
    rw [Config.run, hreply, hreplies]
    exact ⟨rfl, hend⟩

end Keeps

namespace KeepsNothing

/-- A load that comes to fields keeps them, whichever of the two was asked for. -/
theorem keeps (h : c.KeepsNothing) {s : Step} (hs : s.asks = true)
    (hload : (c.load means).result = .ok kept) : (c.perform means s).2.Keeps means kept := by
  have hloaded : (c.load means).after.Keeps means kept := by
    refine ⟨fields_load hload, fun s hset => ?_⟩
    rw [settings_load, h.settings] at hset
    cases hset
  cases s with
  | load => exact hloaded
  | settings =>
    rw [perform, readSettings_of_none h.settings]
    exact hloaded.settingsFrom hload
  | _ => cases hs

/-- A load that fails leaves everything as it is, whichever of the two was asked for. -/
theorem perform_of_fault (h : c.KeepsNothing) {s : Step} (hs : s.asks = true)
    (hload : (c.load means).result = .error fault) :
    c.perform means s = ((s.replyFrom means (.error fault), none), c) := by
  have hloaded : c.load means = ⟨.error fault, none, c⟩ := load_of_fault hload
  cases s with
  | load =>
    rw [perform, hloaded]
    rfl
  | settings =>
    rw [perform, readSettings_of_none h.settings, hloaded]
    rfl
  | _ => cases hs

end KeepsNothing

namespace Consistent

theorem perform (h : c.Consistent means) (s : Step) : (c.perform means s).2.Consistent means := by
  by_cases hs : s = .reload
  · subst hs
    exact Or.inl (keepsNothing_reload c)
  rcases h with h | ⟨kept, h⟩
  · cases s with
    | replace directory file =>
      rw [h]
      exact Or.inl rfl
    | lookIn directory =>
      rw [h]
      exact Or.inl rfl
    | reload => exact absurd rfl hs
    | _ =>
      cases hload : (c.load means).result with
      | ok kept => exact Or.inr ⟨kept, h.keeps rfl hload⟩
      | error fault =>
        rw [h.perform_of_fault rfl hload]
        exact Or.inl h
  · exact Or.inr ⟨kept, (h.perform hs).2⟩

/-- **Nothing is kept, or fields are with no other settings than theirs**, after any steps. -/
theorem run (h : c.Consistent means) (steps : List Step) :
    (c.run means steps).2.Consistent means := by
  induction steps generalizing c with
  | nil => exact h
  | cons s rest ih => exact ih (h.perform s)

/-- What is answered follows from what a load comes to. -/
theorem reply (h : c.Consistent means) (s : Step) :
    (c.perform means s).1.1 = s.replyFrom means (c.load means).result := by
  cases s with
  | settings =>
    rw [Config.perform]
    rcases h with h | ⟨kept, h⟩
    · rw [readSettings_of_none h.settings, (settingsFrom_answers means (c.load means)).1]
      rfl
    · rw [h.readSettings.1, h.load]
      rfl
  | _ => rfl

/-- The fields that an answer was drawn from are kept. -/
theorem keeps (h : c.Consistent means) {s : Step} (hs : s.asks = true)
    (hload : (c.load means).result = .ok kept) : (c.perform means s).2.Keeps means kept := by
  rcases h with h | ⟨fields, h⟩
  · exact h.keeps hs hload
  · rw [h.load] at hload
    injection hload with hload
    subst hload
    exact (h.perform fun he => by rw [he] at hs; cases hs).2

/-- Where a load fails nothing is kept. -/
theorem keepsNothing (h : c.Consistent means) (hload : (c.load means).result = .error fault) :
    c.KeepsNothing := by
  rcases h with h | ⟨fields, h⟩
  · exact h
  · rw [h.load] at hload
    cases hload

end Consistent

/-! ### Looking at the file -/

/-- What a load comes to where this stands in place of the file. -/
def loadFrom (c : Config) (means : Means) (file : File) : Answer Fields :=
  match file.fields? means with
  | .error fault => ⟨.error fault, none, c⟩
  | .ok (fields, warning) => ⟨.ok fields, warning, { c with fields := some fields }⟩

section Looking

variable {M : Type → Type} [Monad M]

/-- The load with an action that looks at the file. -/
def loadBy (c : Config) (means : Means) (look : M File) : M (Answer Fields) :=
  match c.fields with
  | some fields => pure ⟨.ok fields, none, c⟩
  | none => c.loadFrom means <$> look

/-- The settings with an action that looks at the file. -/
def readSettingsBy (c : Config) (means : Means) (look : M File) : M (Answer Settings) :=
  match c.settings with
  | some s => pure ⟨.ok s, none, c⟩
  | none => settingsFrom means <$> c.loadBy means look

variable [LawfulMonad M]

/-- Where the load with the action comes to what the load comes to, the settings do as well. -/
theorem readSettingsBy_of_loadBy {look : M File} (h : c.loadBy means look = pure (c.load means)) :
    c.readSettingsBy means look = pure (c.readSettings means) := by
  rw [readSettingsBy, h]
  cases hs : c.settings with
  | some s => rw [readSettings, hs]
  | none => rw [readSettings_of_none hs, map_pure]

/-- With the file that there is, this is what asking for the fields and for the settings means. -/
theorem loadBy_file (c : Config) (means : Means) :
    c.loadBy means (pure c.file : M File) = pure (c.load means) ∧
      c.readSettingsBy means (pure c.file : M File) = pure (c.readSettings means) := by
  have hload : c.loadBy means (pure c.file : M File) = pure (c.load means) := by
    unfold loadBy load
    cases c.fields with
    | some fields => rfl
    | none => exact map_pure _ _
  exact ⟨hload, readSettingsBy_of_loadBy hload⟩

/-- Where fields are kept nobody looks at the file. -/
theorem Keeps.loadBy (h : c.Keeps means kept) (look : M File) :
    c.loadBy means look = pure (c.load means) ∧
      c.readSettingsBy means look = pure (c.readSettings means) := by
  have hload : c.loadBy means look = pure (c.load means) := by
    rw [Config.loadBy, h.fields, h.load]
  exact ⟨hload, readSettingsBy_of_loadBy hload⟩

/-- Where nothing is kept the file is looked at, once. -/
theorem KeepsNothing.loadBy (h : c.KeepsNothing) (look : M File) :
    c.loadBy means look = c.loadFrom means <$> look ∧
      c.readSettingsBy means look =
        (fun file => Config.settingsFrom means (c.loadFrom means file)) <$> look := by
  have hload : c.loadBy means look = c.loadFrom means <$> look := by
    rw [Config.loadBy, h.fields]
  refine ⟨hload, ?_⟩
  rw [readSettingsBy, h.settings, hload]
  exact (comp_map _ _ _).symm

end Looking

/-! ### Main result -/

/-- **What was loaded is kept until a reload.** Take any steps after which the fields or the settings are
asked for. If that comes to fields, then up to the next reload every answer follows from these fields,
without a warning and without a look at the file, whatever becomes of the file; where the settings are
no good, they are no good every time. If it fails, nothing is kept, and the file is looked at again.
And after a reload everything is as in a process that has just started, which looks at the file first. -/
theorem kept_until_reload (means : Means) (override : Option String)
    (files : List (String × File)) (before : List Step) :
    let c := ((fresh override files).run means before).2
    (∀ s, (c.perform means s).1.1 = s.replyFrom means (c.load means).result) ∧
    (∀ s kept, s.asks = true → (c.load means).result = .ok kept → ∀ more, .reload ∉ more →
      let later := (c.perform means s).2.run means more
      later.1 = more.map (fun t => (t.replyFrom means (.ok kept), none)) ∧
      ∀ (M : Type → Type) [Monad M] [LawfulMonad M] (look : M File),
        later.2.loadBy means look = pure (later.2.load means) ∧
        later.2.readSettingsBy means look = pure (later.2.readSettings means)) ∧
    (∀ s fault, s.asks = true → (c.load means).result = .error fault →
      (c.perform means s).1 = (s.replyFrom means (.error fault), none) ∧
      (c.perform means s).2 = fresh c.override c.files) ∧
    (∀ more, ((c.perform means .reload).2.run means more).1 =
      ((fresh c.override c.files).run means more).1) ∧
    ∀ (M : Type → Type) [Monad M] [LawfulMonad M],
      (c.loadBy means (pure c.file : M File) = pure (c.load means) ∧
        c.readSettingsBy means (pure c.file : M File) = pure (c.readSettings means)) ∧
      ∀ look : M File,
        let d := fresh c.override c.files
        d.loadBy means look = d.loadFrom means <$> look ∧
        d.readSettingsBy means look =
          (fun file => settingsFrom means (d.loadFrom means file)) <$> look := by
  intro c
  have hc : c.Consistent means :=
    Consistent.run (Or.inl (keepsNothing_fresh override files)) before
  refine ⟨hc.reply, fun s kept hs hload more hmore => ?_, fun s fault hs hload => ?_,
    fun more => rfl, fun M _ _ => ⟨loadBy_file c means, fun look => ?_⟩⟩
  · obtain ⟨hreplies, hend⟩ := (hc.keeps hs hload).run hmore
    exact ⟨hreplies, fun M _ _ look => hend.loadBy look⟩
  · have hnothing : c.KeepsNothing := hc.keepsNothing hload
    rw [hnothing.perform_of_fault hs hload]
    exact ⟨rfl, hnothing⟩
  · exact (keepsNothing_fresh c.override c.files).loadBy look

/-- A file whose section is no mapping is taken away: it is missed after the reload, and not before. -/
example :
    ((fresh (some "d") [("d", .content "composer: 5".toUTF8.toList)]).run standard
      [.settings, .replace "d" .absent, .settings, .reload, .settings]).1.map Prod.snd =
      [none, none, none, none, some .missing] := by
  decide +kernel

end Config
end Intertype
