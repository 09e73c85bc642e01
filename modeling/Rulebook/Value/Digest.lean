import Rulebook.Value.Basic

/-!
The digest of a value: what a hash of it may depend on. Both zeros have one digest, and the entries
of a context count in the order of their names.
-/

namespace Rulebook

inductive Digest
  | kind (name : String)
  | boolean (b : Bool)
  | bits (n : Nat)
  | string (s : String)
  | int (n : Int)
  | length (n : Nat)
  deriving DecidableEq, Hashable, Repr

namespace Value

-- A context's entries, sorted by name, each with the digest of its value.
abbrev EntryDigests := List (String × List Digest)

def insertDigest (key : String) (digest : List Digest) : EntryDigests → EntryDigests
  | [] => [(key, digest)]
  | (k, d) :: rest =>
    if key < k then (key, digest) :: (k, d) :: rest else (k, d) :: insertDigest key digest rest

def numberDigest (x : Float) : Digest :=
  .bits (if Number.equal x 0 then 0 else x.toBits.toNat)

def dateDigest (d : Calendar.Date) : List Digest :=
  [.int d.year, .int d.month, .int d.day]

def timeDigest (t : Calendar.Time) : List Digest :=
  [.int t.second, .int t.nano]

mutual

def digest (v : Value) : List Digest :=
  match v with
  | null => [.kind "null"]
  | boolean b => [.kind "boolean", .boolean b]
  | number x => [.kind "number", numberDigest x]
  | string s => [.kind "string", .string s]
  | date d => .kind "date" :: dateDigest d
  | time t => .kind "time" :: timeDigest t
  | dateTime d => .kind "date_and_time" :: dateDigest d.date ++ timeDigest d.time
  | duration d => [.kind "duration", .int d.months, .int d.millis]
  | list items => .kind "list" :: .length items.length :: itemDigests items
  | context entries =>
    .kind "context" :: .length entries.length ::
      (entryDigests entries).flatMap fun e => .string e.1 :: e.2
  | range s f i j => .kind "range" :: digest s ++ digest f ++ [.boolean i, .boolean j]

def itemDigests : List Value → List Digest
  | [] => []
  | v :: vs => digest v ++ itemDigests vs

def entryDigests : List (String × Value) → EntryDigests
  | [] => []
  | (key, v) :: rest => insertDigest key (digest v) (entryDigests rest)

end

end Value

end Rulebook
