import Std.Data.HashMap

/-!
A cache of bounded size. When it is full the entry that has been there longest goes, and an entry
older than the lifetime of the cache counts as absent.
-/

namespace Rulebook

structure CacheStats where
  hits : Nat
  misses : Nat
  size : Nat
  capacity : Nat
  deriving DecidableEq, Repr

structure Stored (ν : Type) where
  value : ν
  -- When the value was stored.
  since : Nat

-- Times are milliseconds since the cache was made; a lifetime of 0 has no end.
structure Cache (κ ν : Type) [BEq κ] [Hashable κ] where
  capacity : Nat
  lifetime : Nat
  now : Nat
  entries : Std.HashMap κ (Stored ν)
  -- The keys of the entries in the order in which they came, oldest first.
  order : List κ
  hits : Nat
  misses : Nat

namespace Cache

variable {κ ν : Type} [BEq κ] [Hashable κ]

def empty (capacity lifetime : Nat) : Cache κ ν := ⟨capacity, lifetime, 0, ∅, [], 0, 0⟩

variable (c : Cache κ ν)

def isFresh (s : Stored ν) : Bool :=
  c.lifetime == 0 || c.now - s.since < c.lifetime

def hit : Cache κ ν := { c with hits := c.hits + 1 }

def miss : Cache κ ν := { c with misses := c.misses + 1 }

def remove (key : κ) : Cache κ ν :=
  { c with entries := c.entries.erase key, order := c.order.filter (· != key) }

-- A value that is no longer fresh is removed when it is asked for.
def get (key : κ) : Option ν × Cache κ ν :=
  match c.entries[key]? with
  | none => (none, c.miss)
  | some s => if c.isFresh s then (some s.value, c.hit) else (none, (c.remove key).miss)

-- Entries go, oldest first, until no more are left than there is room for.
def dropOldest (capacity : Nat) (entries : Std.HashMap κ (Stored ν)) :
    List κ → Std.HashMap κ (Stored ν) × List κ
  | [] => (entries, [])
  | key :: order =>
    if capacity < entries.size then dropOldest capacity (entries.erase key) order
    else (entries, key :: order)

-- A key that is there keeps its place in the order.
def insert (key : κ) (value : ν) : Cache κ ν :=
  if c.capacity = 0 then c
  else
    let entries := c.entries.insert key ⟨value, c.now⟩
    if c.entries.contains key then { c with entries := entries }
    else
      let (entries, order) := dropOldest c.capacity entries (c.order ++ [key])
      { c with entries := entries, order := order }

-- The counters start again as well.
def clear : Cache κ ν := { c with entries := ∅, order := [], hits := 0, misses := 0 }

def wait (duration : Nat) : Cache κ ν := { c with now := c.now + duration }

def size : Nat := c.entries.size

def isEmpty : Bool := c.size == 0

def stats : CacheStats := ⟨c.hits, c.misses, c.size, c.capacity⟩

end Cache

-- A cache that may be switched off. It then holds nothing and counts nothing.
structure SwitchedCache (κ ν : Type) [BEq κ] [Hashable κ] where
  capacity : Nat
  cache : Option (Cache κ ν)

namespace SwitchedCache

variable {κ ν : Type} [BEq κ] [Hashable κ] (s : SwitchedCache κ ν)

def get (key : κ) : Option ν × SwitchedCache κ ν :=
  match s.cache with
  | none => (none, s)
  | some c => ((c.get key).1, { s with cache := some (c.get key).2 })

def map (f : Cache κ ν → Cache κ ν) : SwitchedCache κ ν := { s with cache := s.cache.map f }

def insert (key : κ) (value : ν) : SwitchedCache κ ν := s.map (·.insert key value)

def clear : SwitchedCache κ ν := s.map Cache.clear

def wait (duration : Nat) : SwitchedCache κ ν := s.map (·.wait duration)

def stats : CacheStats :=
  match s.cache with
  | none => ⟨0, 0, 0, s.capacity⟩
  | some c => c.stats

end SwitchedCache

end Rulebook
