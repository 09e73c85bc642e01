import Rulebook.Calendar.Text

/-!
The values of the expression language. A context is a list of named entries in the order in which
the names first arrived; every operation keeps the names apart.
-/

namespace Rulebook

inductive Value
  | null
  | boolean (b : Bool)
  | number (x : Float)
  | string (s : String)
  | date (d : Calendar.Date)
  | time (t : Calendar.Time)
  | dateTime (d : Calendar.DateTime)
  | duration (d : Calendar.Duration)
  | list (items : List Value)
  | context (entries : List (String × Value))
  | range (start finish : Value) (startIncluded finishIncluded : Bool)

abbrev Context := List (String × Value)

instance : Inhabited Value := ⟨.null⟩

namespace Context

def empty : Context := []

def get? (c : Context) (key : String) : Option Value :=
  c.lookup key

def contains (c : Context) (key : String) : Bool :=
  (c.get? key).isSome

def keys (c : Context) : List String :=
  c.map (·.1)

-- A name that is there keeps its place.
def insert (key : String) (value : Value) : Context → Context
  | [] => [(key, value)]
  | (k, v) :: rest => if key == k then (key, value) :: rest else (k, v) :: insert key value rest

-- An insertion that gives back the value it replaces.
def getThenInsert? (key : String) (value : Value) : Context → Option Value × Context
  | [] => (none, [(key, value)])
  | (k, v) :: rest =>
    if key == k then (some v, (key, value) :: rest)
    else
      let (former, others) := getThenInsert? key value rest
      (former, (k, v) :: others)

def ofList (entries : List (String × Value)) : Context :=
  entries.foldl (fun c e => insert e.1 e.2 c) empty

variable {c : Context} {k k' : String} {v : Value}

theorem get?_insert_self : get? (insert k v c) k = some v := by
  induction c with
  | nil => simp [insert, get?]
  | cons e c ih =>
    obtain ⟨k₀, v₀⟩ := e
    by_cases h : k = k₀
    · simp [insert, get?, h]
    · simp only [get?] at ih
      simp only [insert, get?, beq_eq_false_iff_ne.2 h, Bool.false_eq_true, ↓reduceIte,
        List.lookup_cons, ih]

theorem get?_insert_of_ne (h : k' ≠ k) : get? (insert k v c) k' = get? c k' := by
  induction c with
  | nil => simp [insert, get?, h]
  | cons e c ih =>
    obtain ⟨k₀, v₀⟩ := e
    by_cases h₀ : k = k₀
    · subst h₀
      simp [insert, get?, List.lookup_cons, beq_eq_false_iff_ne.2 h]
    · simp only [get?] at ih
      simp only [insert, get?, beq_eq_false_iff_ne.2 h₀, Bool.false_eq_true, ↓reduceIte,
        List.lookup_cons, ih]

theorem get?_insert (c : Context) (k : String) (v : Value) (k' : String) :
    get? (insert k v c) k' = if k' = k then some v else get? c k' := by
  split
  case isTrue h => rw [h, get?_insert_self]
  case isFalse h => rw [get?_insert_of_ne h]

theorem getThenInsert?_eq (k : String) (v : Value) (c : Context) :
    getThenInsert? k v c = (get? c k, insert k v c) := by
  induction c with
  | nil => rfl
  | cons e c ih =>
    obtain ⟨k₀, v₀⟩ := e
    by_cases h : k = k₀
    · simp [getThenInsert?, insert, get?, h]
    · simp only [get?] at ih
      simp only [getThenInsert?, insert, get?, beq_eq_false_iff_ne.2 h, Bool.false_eq_true,
        ↓reduceIte, List.lookup_cons, ih]

theorem keys_insert_of_mem (h : k ∈ keys c) : keys (insert k v c) = keys c := by
  induction c with
  | nil => simp [keys] at h
  | cons e c ih =>
    obtain ⟨k₀, v₀⟩ := e
    by_cases h₀ : k = k₀
    · simp [insert, keys, h₀]
    · simp only [keys, List.map_cons, List.mem_cons, h₀, false_or] at h
      simpa [insert, keys, h₀] using ih h

theorem keys_insert_of_not_mem (h : k ∉ keys c) : keys (insert k v c) = keys c ++ [k] := by
  induction c with
  | nil => simp [insert, keys]
  | cons e c ih =>
    obtain ⟨k₀, v₀⟩ := e
    simp only [keys, List.map_cons, List.mem_cons, not_or] at h
    simpa [insert, keys, h.1] using ih h.2

end Context

namespace Value

def typeName : Value → String
  | null => "null"
  | boolean _ => "boolean"
  | number _ => "number"
  | string _ => "string"
  | date _ => "date"
  | time _ => "time"
  | dateTime _ => "date_and_time"
  | duration _ => "duration"
  | list _ => "list"
  | context _ => "context"
  | range .. => "range"

def isNull : Value → Bool
  | null => true
  | _ => false

def isTrue : Value → Bool
  | boolean b => b
  | _ => false

def ofInt (n : Int) : Value := number (Number.ofInt n)

mutual

-- Contexts are equal whatever the order of their entries.
def equal : Value → Value → Bool
  | null, null => true
  | boolean a, boolean b => a == b
  | number x, number y => Number.equal x y
  | string a, string b => a == b
  | date a, date b => a == b
  | time a, time b => a == b
  | dateTime a, dateTime b => a == b
  | duration a, duration b => a == b
  | list as, list bs => equalItems as bs
  | context as, context bs => as.length == bs.length && entriesIn as bs
  | range s f i j, range s' f' i' j' => equal s s' && equal f f' && i == i' && j == j'
  | _, _ => false

def equalItems : List Value → List Value → Bool
  | [], [] => true
  | a :: as, b :: bs => equal a b && equalItems as bs
  | _, _ => false

def entriesIn : List (String × Value) → List (String × Value) → Bool
  | [], _ => true
  | (k, a) :: as, bs =>
    (match bs.lookup k with
      | some b => equal a b
      | none => false) && entriesIn as bs

end

instance : BEq Value := ⟨equal⟩

-- Two values of one ordered type; all others have no order.
def compare? : Value → Value → Option Ordering
  | number x, number y => Number.compare? x y
  | string a, string b => some (compare a b)
  | date a, date b => some (a.compare b)
  | time a, time b => some (a.compare b)
  | dateTime a, dateTime b => some (a.compare b)
  | duration a, duration b => a.compare? b
  | _, _ => none

def dateProperty? (d : Calendar.Date) (key : String) : Option Value :=
  match key with
  | "year" => some (ofInt d.year)
  | "month" => some (ofInt d.month)
  | "day" => some (ofInt d.day)
  | "weekday" => some (ofInt d.weekday)
  | _ => none

-- The second carries its fraction, and in a leap second it goes on past 59.
def timeProperty? (t : Calendar.Time) (key : String) : Option Value :=
  match key with
  | "hour" => some (ofInt t.hour)
  | "minute" => some (ofInt t.minute)
  | "second" =>
    some (number (Number.ofInt t.secondOfMinute + Number.ofInt t.nano / 1000000000))
  | _ => none

def durationProperty? (d : Calendar.Duration) (key : String) : Option Value :=
  match key with
  | "years" => some (ofInt d.years)
  | "months" => some (ofInt d.monthOfYear)
  | "days" => some (ofInt d.days)
  | "hours" => some (ofInt d.hours)
  | "minutes" => some (ofInt d.minutes)
  | "seconds" => some (number d.seconds)
  | _ => none

def rangeProperty? (start finish : Value) (startIncluded finishIncluded : Bool) (key : String) :
    Option Value :=
  match key with
  | "start" => some start
  | "end" => some finish
  | "start_included" => some (boolean startIncluded)
  | "end_included" => some (boolean finishIncluded)
  | _ => none

-- What a value does not have is null.
def property (v : Value) (key : String) : Value :=
  let found :=
    match v with
    | context entries => Context.get? entries key
    | date d => dateProperty? d key
    | time t => timeProperty? t key
    | dateTime d => (dateProperty? d.date key).or (timeProperty? d.time key)
    | duration d => durationProperty? d key
    | range s f i j => rangeProperty? s f i j key
    | _ => none
  found.getD null

end Value

end Rulebook
