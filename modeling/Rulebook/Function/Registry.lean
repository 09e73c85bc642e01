import Rulebook.Eval.Error

/-!
Functions that expressions can call, kept under their names. A name once taken keeps its function.
-/

namespace Rulebook

structure Function where
  name : String
  arity : Arity
  -- With a null among its arguments the call is null and the body does not run.
  propagatesNull : Bool
  body : List Value → Outcome Value

inductive RegistryError
  | duplicate (name : String)
  | emptyName
  | badStart (name : String)
  | badName (name : String)
  | emptyArity (name : String)
  deriving DecidableEq

namespace RegistryError

def invalidSignature (name reason : String) : String :=
  "invalid signature for " ++ Text.quoted name ++ ": " ++ reason

def message : RegistryError → String
  | duplicate name => "function already registered: " ++ name
  | emptyName => invalidSignature "" "empty name"
  | badStart name => invalidSignature name "name must start with a letter or `_`"
  | badName name => invalidSignature name "name must be an identifier"
  | emptyArity name => invalidSignature name "arity range is empty"

end RegistryError

namespace Function

def nameFault? (name : String) : Option RegistryError :=
  match name.toList with
  | [] => some .emptyName
  | c :: rest =>
    if !(c.isAlpha || c == '_') then some (.badStart name)
    else if !rest.all (fun c => c.isAlphanum || c == '_') then some (.badName name)
    else none

def arityFault? (name : String) : Arity → Option RegistryError
  | .range low high => if high < low then some (.emptyArity name) else none
  | _ => none

-- Names are plain identifiers, so that every function can be called.
def fault? (f : Function) : Option RegistryError :=
  (nameFault? f.name).or (arityFault? f.name f.arity)

def call (f : Function) (arguments : List Value) : Outcome Value :=
  if !f.arity.accepts arguments.length then .error (.wrongCount f.name f.arity arguments.length)
  else if f.propagatesNull && arguments.any Value.isNull then .ok .null
  else f.body arguments

end Function

structure Registry where
  functions : List Function

namespace Registry

def empty : Registry := ⟨[]⟩

def find? (r : Registry) (name : String) : Option Function :=
  r.functions.find? (·.name == name)

def contains (r : Registry) (name : String) : Bool :=
  (r.find? name).isSome

def size (r : Registry) : Nat := r.functions.length

def names (r : Registry) : List String :=
  (r.functions.map (·.name)).mergeSort (fun a b => a ≤ b)

def register (r : Registry) (f : Function) : Except RegistryError Registry :=
  match f.fault? with
  | some fault => .error fault
  | none =>
    if r.contains f.name then .error (.duplicate f.name) else .ok ⟨r.functions ++ [f]⟩

def call (r : Registry) (name : String) (arguments : List Value) : Outcome Value :=
  match r.find? name with
  | some f => f.call arguments
  | none => .error (.unknownFunction name)

end Registry

end Rulebook
