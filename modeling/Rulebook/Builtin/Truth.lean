import Rulebook.Builtin.Arguments
import Rulebook.Eval.Operators

/-!
Functions of booleans. An item that is no boolean is unknown.
-/

namespace Rulebook.Builtin

-- Whether some item decides; if none does, unknown items leave the answer open.
def decidedBy (deciding : Bool) (items : List Value) : Value :=
  if items.any fun v => v.boolean? == some deciding then .boolean deciding
  else if items.all fun v => v.boolean?.isSome then .boolean !deciding
  else .null

def truth : List Function :=
  [⟨"all", .atLeast 1, false, fun arguments => .ok (decidedBy false (listOrItems arguments))⟩,
   ⟨"any", .atLeast 1, false, fun arguments => .ok (decidedBy true (listOrItems arguments))⟩,
   ⟨"is_null", .exact 1, false, fun arguments => .ok (.boolean (arguments.all Value.isNull))⟩]

end Rulebook.Builtin
