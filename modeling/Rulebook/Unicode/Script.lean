import Rulebook.Unicode.CharSet
import Rulebook.Unicode.ScriptTable

/-!
Sets of characters of a script. Scripts go by numbers, their places in the list of names.
-/

namespace Rulebook.Unicode

-- Names come in small letters without separators.
def scriptNumber? (name : String) : Option Nat := scriptNames.findIdx? (·.contains name)

def scriptSet (script : Nat) : CharSet :=
  .ofAnswers (scriptRuns.toList.map fun entry => (entry / 256, entry % 256 == script))

def extensionRanges (entries : List (Nat × Nat × List Nat)) : CharSet :=
  .ofRanges (entries.map fun (low, high, _) => (low, high))

-- Characters used in a script, whether it is their own or not.
def scriptExtensionSet (script : Nat) : CharSet :=
  ((scriptSet script).difference (extensionRanges scriptExtensions)).union
    (extensionRanges (scriptExtensions.filter fun (_, _, scripts) => scripts.contains script))

end Rulebook.Unicode
