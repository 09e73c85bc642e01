import Rulebook.Builtin.Arithmetic
import Rulebook.Builtin.Calendars
import Rulebook.Builtin.Lists
import Rulebook.Builtin.Texts
import Rulebook.Builtin.Truth

/-!
The functions that every table can use without anyone registering them.
-/

namespace Rulebook

def Builtin.functions : List Function :=
  Builtin.texts ++ Builtin.arithmetic ++ Builtin.lists ++ Builtin.truth ++ Builtin.calendars

def Registry.builtins : Registry := ⟨Builtin.functions⟩

end Rulebook
