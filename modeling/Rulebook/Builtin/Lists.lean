import Rulebook.Builtin.Arguments

/-!
Functions of lists.
-/

namespace Rulebook.Builtin

-- The numbers to add up; none at all if there is no item or a null among them.
def aggregated (function : String) (items : List Value) : Outcome (Option (List Float)) :=
  if items.isEmpty || items.any Value.isNull then .ok none
  else do
    let numbers ← items.mapM fun v =>
      match v with
      | .number x => .ok x
      | v => invalid function (.other ("expected numbers, got " ++ v.typeName))
    .ok (some numbers)

def aggregate (name : String) (f : List Float → Float) : Function :=
  ⟨name, .atLeast 1, false, fun arguments => do
    match ← aggregated name (listOrItems arguments) with
    | some numbers => .ok (.number (f numbers))
    | none => .ok .null⟩

-- From the left, starting at the negative zero, which changes no number.
def total (numbers : List Float) : Float :=
  numbers.foldl (· + ·) (-0.0)

def product (numbers : List Float) : Float :=
  numbers.foldl (· * ·) 1

def average (numbers : List Float) : Float :=
  total numbers / Number.ofInt numbers.length

-- The middle number, or halfway between the two in the middle.
def median (numbers : List Float) : Float :=
  let ordered := numbers.mergeSort fun x y => Number.totalKey x ≤ Number.totalKey y
  let middle := numbers.length / 2
  let at_ (i : Nat) : Float := (ordered[i]?).getD 0
  if numbers.length % 2 = 0 then (at_ (middle - 1) + at_ middle) / 2 else at_ middle

-- The first item that no later one beats; each item must have an order with the best so far.
def best (function : String) (wanted : Ordering) (current : Value) :
    List Value → Outcome Value
  | [] => .ok current
  | v :: vs =>
    match Value.compare? v current with
    | some o => best function wanted (if o == wanted then v else current) vs
    | none => .error (.unordered function v current)

def extreme (name : String) (wanted : Ordering) : Function :=
  ⟨name, .atLeast 1, false, fun arguments =>
    let items := listOrItems arguments
    if items.any Value.isNull then .ok .null
    else
      match items with
      | [] => .ok .null
      | v :: vs => best name wanted v vs⟩

-- Puts an item into a list sorted downwards, in front of its equals.
def insertDownward (v : Value) : List Value → Outcome (List Value)
  | [] => .ok [v]
  | w :: ws =>
    match Value.compare? v w with
    | some .lt => do .ok (w :: (← insertDownward v ws))
    | some _ => .ok (v :: w :: ws)
    | none => .error (.unordered "sort" v w)

-- Items are put one after the other behind those that are not greater; two items that meet must
-- have an order.
def sortItems (items : List Value) : Outcome (List Value) := do
  let downward ← items.foldlM (fun sorted v => insertDownward v sorted) []
  .ok downward.reverse

-- The first of each group of equal items.
def distinctFrom (kept : List Value) : List Value → List Value
  | [] => kept.reverse
  | v :: vs => if kept.any (· == v) then distinctFrom kept vs else distinctFrom (v :: kept) vs

def distinct (items : List Value) : List Value := distinctFrom [] items

mutual

def flattened : Value → List Value
  | .list items => flattenedItems items
  | v => [v]

def flattenedItems : List Value → List Value
  | [] => []
  | v :: vs => flattened v ++ flattenedItems vs

end

-- All arguments as lists, one after the other.
def joinLists (function : String) (arguments : List Value) : Outcome (List Value) := do
  let lists ← (List.range arguments.length).mapM fun i => expectList function arguments i
  .ok lists.flatten

def positionsOf (v : Value) (items : List Value) : List Value :=
  (items.zipIdx.filter fun (item, _) => item == v).map fun (_, i) => Value.ofInt (i + 1)

-- A function that leaves a null list null, whatever its other arguments.
def onList (name : String) (arity : Arity) (f : List Value → List Value → Value) : Function :=
  ⟨name, arity, false, fun arguments =>
    match arguments with
    | .null :: _ => .ok .null
    | _ => do
      let items ← expectList name arguments 0
      .ok (f items (arguments.drop 1))⟩

def listToList (name : String) (f : List Value → List Value) : Function :=
  ⟨name, .exact 1, true, fun arguments => do .ok (.list (f (← expectList name arguments 0)))⟩

def lists : List Function :=
  [⟨"count", .exact 1, true, fun arguments => do
      .ok (.ofInt (← expectList "count" arguments 0).length)⟩,
   extreme "min" .lt,
   extreme "max" .gt,
   aggregate "sum" total,
   aggregate "mean" average,
   aggregate "product" product,
   aggregate "median" median,
   onList "list_contains" (.exact 2) fun items others =>
     .boolean (items.any fun item => others.any (item == ·)),
   onList "append" (.atLeast 1) fun items others => .list (items ++ others),
   ⟨"concatenate", .atLeast 0, true, fun arguments => do
      .ok (.list (← joinLists "concatenate" arguments))⟩,
   listToList "reverse" List.reverse,
   ⟨"index_of", .exact 2, false, fun arguments => do
      let items ← expectList "index_of" arguments 0
      .ok (.list (positionsOf ((arguments[1]?).getD .null) items))⟩,
   listToList "distinct_values" distinct,
   ⟨"union", .atLeast 0, true, fun arguments => do
      .ok (.list (distinct (← joinLists "union" arguments)))⟩,
   listToList "flatten" flattenedItems,
   ⟨"sort", .exact 1, true, fun arguments => do
      .ok (.list (← sortItems (← expectList "sort" arguments 0)))⟩,
   ⟨"sublist", .range 2 3, true, fun arguments => do
      .ok (.list (← selectPart "sublist" arguments (← expectList "sublist" arguments 0)))⟩]

end Rulebook.Builtin
