import Rulebook.Eval.Error

/-!
The operators on values. Nulls spread through arithmetic and comparison; `and` and `or` are
three-valued, with everything that is no boolean unknown.
-/

namespace Rulebook

-- The remainder with the sign of the divisor.
def Number.modulo? (dividend divisor : Float) : Option Float :=
  if Number.equal divisor 0 then none
  else some (dividend - divisor * Number.floor (dividend / divisor))

namespace Value

def boolean? : Value → Option Bool
  | boolean b => some b
  | _ => none

def conjunction (left right : Value) : Value :=
  match left.boolean?, right.boolean? with
  | some false, _ => boolean false
  | _, some false => boolean false
  | some true, some true => boolean true
  | _, _ => null

def disjunction (left right : Value) : Value :=
  match left.boolean?, right.boolean? with
  | some true, _ => boolean true
  | _, some true => boolean true
  | some false, some false => boolean false
  | _, _ => null

def orOverflow {α : Type} (op : BinaryOp) (left right : Value) (make : α → Value) :
    Option α → Outcome Value
  | some a => .ok (make a)
  | none => .error (.binaryOverflow op left right)

-- Months first, then the whole days of the exact part.
def addToDate? (d : Calendar.Date) (by_ : Calendar.Duration) : Option Calendar.Date := do
  let moved ← d.addMonths? by_.months
  moved.addDays? by_.days

-- The exact part must itself be a length of time that can be told backwards.
def addToDateTime? (d : Calendar.DateTime) (by_ : Calendar.Duration) :
    Option Calendar.DateTime := do
  let moved ← d.date.addMonths? by_.months
  if by_.millis = Calendar.minPart then none
  else Calendar.DateTime.addMillis? ⟨moved, d.time⟩ by_.millis

-- Around midnight; months do not matter.
def addToTime (t : Calendar.Time) (by_ : Calendar.Duration) : Calendar.Time :=
  (t.addMillis (by_.millis.tmod Calendar.millisPerDay)).1

def add (left right : Value) : Outcome Value :=
  match left, right with
  | null, _ => .ok null
  | _, null => .ok null
  | number x, number y => .ok (number (x + y))
  | string a, string b => .ok (string (a ++ b))
  | duration a, duration b => orOverflow .add left right duration (a.add? b)
  | date d, duration a => orOverflow .add left right date (addToDate? d a)
  | duration a, date d => orOverflow .add left right date (addToDate? d a)
  | dateTime d, duration a => orOverflow .add left right dateTime (addToDateTime? d a)
  | duration a, dateTime d => orOverflow .add left right dateTime (addToDateTime? d a)
  | time t, duration a => .ok (time (addToTime t a))
  | duration a, time t => .ok (time (addToTime t a))
  | _, _ => .error (.operands .add left right)

-- Whole milliseconds, rounded toward zero.
def millisOfNanos (nanos : Int) : Calendar.Duration :=
  ⟨0, nanos.tdiv 1000000⟩

def isTemporal : Value → Bool
  | date _ | time _ | dateTime _ | duration _ => true
  | _ => false

-- Taking a duration away is adding its negation.
def subtract (left right : Value) : Outcome Value :=
  match left, right with
  | null, _ => .ok null
  | _, null => .ok null
  | number x, number y => .ok (number (x - y))
  | date a, date b => .ok (duration ⟨0, (a.dayNumber - b.dayNumber) * Calendar.millisPerDay⟩)
  | dateTime a, dateTime b => .ok (duration (millisOfNanos (a.nanosBetween b)))
  | time a, time b => .ok (duration (millisOfNanos (a.nanosBetween b)))
  | _, duration d =>
    if left.isTemporal then
      match d.negate? with
      | some n => add left (duration n)
      | none => .error (.binaryOverflow .subtract left right)
    else .error (.operands .subtract left right)
  | _, _ => .error (.operands .subtract left right)

def multiply (left right : Value) : Outcome Value :=
  match left, right with
  | null, _ => .ok null
  | _, null => .ok null
  | number x, number y => .ok (number (x * y))
  | duration d, number x => orOverflow .multiply left right duration (d.scale? x)
  | number x, duration d => orOverflow .multiply left right duration (d.scale? x)
  | _, _ => .error (.operands .multiply left right)

def divide (left right : Value) : Outcome Value :=
  match left, right with
  | null, _ => .ok null
  | _, null => .ok null
  | number x, number y =>
    if Number.equal y 0 then .error .divisionByZero else .ok (number (x / y))
  | duration d, number y =>
    if Number.equal y 0 then .error .divisionByZero
    else orOverflow .divide left right duration (d.scale? (1 / y))
  | duration a, duration b =>
    if (a.compare? b).isNone then .error (.operands .divide left right)
    else if Number.equal b.magnitude 0 then .error .divisionByZero
    else .ok (number (a.magnitude / b.magnitude))
  | _, _ => .error (.operands .divide left right)

def modulo (left right : Value) : Outcome Value :=
  match left, right with
  | null, _ => .ok null
  | _, null => .ok null
  | number x, number y =>
    match Number.modulo? x y with
    | some z => .ok (number z)
    | none => .error .divisionByZero
  | _, _ => .error (.operands .modulo left right)

def power (left right : Value) : Outcome Value :=
  match left, right with
  | null, _ => .ok null
  | _, null => .ok null
  | number x, number y => .ok (number (x.pow y))
  | _, _ => .error (.operands .power left right)

-- Null with a null operand, otherwise the answer of the test.
def nullOr (left right : Value) (answer : Bool) : Value :=
  if left.isNull || right.isNull then null else boolean answer

-- Values without an order compare as false.
def ordered (left right : Value) (accept : Ordering → Bool) : Value :=
  nullOr left right (((compare? left right).map accept).getD false)

-- Membership in a range; in no range if there is no order with its bounds.
def inRange (start finish : Value) (i j : Bool) (v : Value) : Bool :=
  (rangeContains? start finish i j v).getD false

-- The value is in a range among the items, or equals an item.
def holdsItem (v : Value) : Value → Bool
  | range s f i j => inRange s f i j v
  | item => item == v

def holds (collection v : Value) : Bool :=
  match collection with
  | list items => items.any (holdsItem v)
  | other => holdsItem v other

def binary (op : BinaryOp) (left right : Value) : Outcome Value :=
  match op with
  | .add => add left right
  | .subtract => subtract left right
  | .multiply => multiply left right
  | .divide => divide left right
  | .modulo => modulo left right
  | .power => power left right
  | .equal => .ok (nullOr left right (left == right))
  | .notEqual => .ok (nullOr left right (left != right))
  | .less => .ok (ordered left right Ordering.isLT)
  | .greater => .ok (ordered left right Ordering.isGT)
  | .lessEqual => .ok (ordered left right Ordering.isLE)
  | .greaterEqual => .ok (ordered left right Ordering.isGE)
  | .and => .ok (conjunction left right)
  | .or => .ok (disjunction left right)
  | .isIn => .ok (nullOr left right (holds right left))

def unary (op : UnaryOp) (v : Value) : Outcome Value :=
  match op, v with
  | _, null => .ok null
  | .negate, number x => .ok (number (-x))
  | .negate, duration d =>
    match d.negate? with
    | some n => .ok (duration n)
    | none => .error (.negateOverflow v)
  | .negate, _ => .error (.operand v)
  | .not, boolean b => .ok (boolean !b)
  | .not, _ => .ok null

def between (v lower upper : Value) : Value :=
  conjunction (ordered v lower Ordering.isGE) (ordered v upper Ordering.isLE)

def typeNames : List String :=
  ["number", "string", "boolean", "date", "time", "date_and_time", "duration", "list", "context",
   "range", "null", "any"]

-- `any` is every value but null.
def instanceOf (v : Value) (name : String) : Outcome Value :=
  if !typeNames.contains name then .error (.unknownType name)
  else if name == "any" then .ok (boolean !v.isNull)
  else .ok (boolean (v.typeName == name))

-- What an iteration goes through; nothing at all for null.
def iterationItems (source : Value) : Outcome (Option (List Value)) :=
  match source with
  | null => .ok none
  | list items => .ok (some items)
  | range s f i j =>
    match rangeItems s f i j with
    | .items numbers => .ok (some (numbers.map ofInt))
    | .notWhole => .ok (some [source])
    | .tooMany => .error (.rangeTooLarge s f)
  | v => .ok (some [v])

-- Positions count from 1, and from the end if negative.
def elementAt (items : List Value) (position : Float) : Value :=
  match Number.toInt? position with
  | some n =>
    if 0 < n then (items[(n - 1).toNat]?).getD null
    else if n < 0 ∧ -n ≤ items.length then (items[(items.length + n).toNat]?).getD null
    else null
  | none => null

end Value

end Rulebook
