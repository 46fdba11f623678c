/-
# Writing sources as configured

Sources of aspects and bodies of members are laid out by the settings of the configuration, unless
others are given. What is not there to be composed is refused before the settings are asked for.

Key definitions: `Config.source?`, `Config.startBody`.
-/
import Intertype.Body
import Intertype.Composition
import Intertype.Config

namespace Intertype
namespace Config

/-- Why there is no source. -/
inductive SourceFault
  /-- There are no settings. -/
  | settings (fault : Fault)
  /-- The aspect cannot be composed. -/
  | composition (fault : Composition.Fault)

/-- What asking for a source comes to. -/
structure SourceAnswer where
  result : Except SourceFault (Option String)
  warning : Option Warning
  after : Config

/-- The source of an introduction, if it declares anything. -/
def source? (c : Config) (means : Means) (given : Option Introduction) : SourceAnswer :=
  match given with
  | none => ⟨.error (.composition .noIntroduction), none, c⟩
  | some i =>
    let answer := c.readSettings means
    let result :=
      match answer.result with
      | .error fault => .error (.settings fault)
      | .ok s => (i.source? s).mapError .composition
    ⟨result, answer.warning, answer.after⟩

/-- An empty body of a member. -/
def startBody (c : Config) (means : Means) : Answer Body :=
  let answer := c.readSettings means
  ⟨answer.result.map fun s => Body.start s.toLayout, answer.warning, answer.after⟩

end Config
end Intertype
