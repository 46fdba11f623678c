/-
# Reading types with the parser for a method in a class

Types are read with `Java.parse`, a parser that is enough for the source in which a type is read. Nothing
is proved of it but what it makes of single texts: what is proved about reading is proved for any parser
that keeps to the grammar.

Key definition: `TypeRef.read`.
-/
import Intertype.Java.Parser
import Intertype.TypeRef.Reading

namespace Intertype
namespace TypeRef

/-- Reads a type, where the names listed are type variables. -/
def read (text : String) (parameters : List String) : Except ReadFault TypeRef :=
  readBy Java.parse text parameters

example : (read "java.util.Map<K, ? extends V[]>[]" ["K", "V"]).toOption =
    some ⟨"java.util.Map", [⟨"K", [], 0, .typeVariable, none, some ""⟩,
      ⟨"V", [], 1, .typeVariable, some .upper, some ""⟩], 1, .declared, none, none⟩ := by
  decide +kernel

example : (read "A<B>.C" []).toOption = none := by decide +kernel

end TypeRef
end Intertype
