import Rulebook.Cache.Basic
import Rulebook.Json.Reader

/-!
The configuration of an engine's caches, and how it is written as JSON.
-/

namespace Rulebook

-- The lifetime is in milliseconds.
structure CacheConfig where
  enabled : Bool := true
  capacity : Nat := 1024
  lifetime : Nat := 600000
  deriving DecidableEq, Repr

structure EngineConfig where
  sources : CacheConfig := {}
  results : CacheConfig := { capacity := 4096, lifetime := 60000 }
  deriving DecidableEq, Repr

def EngineConfig.uncached : EngineConfig :=
  { sources := { enabled := false },
    results := { enabled := false, capacity := 4096, lifetime := 60000 } }

def SwitchedCache.ofConfig {κ ν : Type} [BEq κ] [Hashable κ] (config : CacheConfig) :
    SwitchedCache κ ν :=
  ⟨config.capacity, if config.enabled then some (.empty config.capacity config.lifetime) else none⟩

namespace Json

-- The named fields of an object, or in their place the items of an array. None may come twice, and
-- fields of other names do not count.
def record? (names : List String) : Json → Option (List (Option Json))
  | object fields =>
    if names.any fun name => 1 < (fields.filter (·.1 == name)).length then none
    else some (names.map fun name => fields.lookup name)
  | array items =>
    if names.length < items.length then none
    else some ((List.range names.length).map fun i => items[i]?)
  | _ => none

def bool? : Json → Option Bool
  | bool b => some b
  | _ => none

-- A whole number of 64 bits.
def word? : Json → Option Nat
  | integer n => if 0 ≤ n ∧ n < UInt64.size then some n.toNat else none
  | _ => none

def orDefault {α : Type} (read : Json → Option α) (default : α) : Option Json → Option α
  | some json => read json
  | none => some default

end Json

namespace CacheConfig

def fieldNames : List String := ["enabled", "capacity", "ttl"]

def ofJson? (json : Json) : Option CacheConfig := do
  let default : CacheConfig := {}
  match ← json.record? fieldNames with
  | [enabled, capacity, lifetime] =>
    let enabled ← Json.orDefault Json.bool? default.enabled enabled
    let capacity ← Json.orDefault Json.word? default.capacity capacity
    let lifetime ← Json.orDefault Json.word? default.lifetime lifetime
    some ⟨enabled, capacity, lifetime⟩
  | _ => none

def toJson (c : CacheConfig) : Json :=
  .object [("enabled", .bool c.enabled), ("capacity", .integer c.capacity),
    ("ttl", .integer c.lifetime)]

end CacheConfig

namespace EngineConfig

def fieldNames : List String := ["ast_cache", "result_cache"]

def ofJson? (json : Json) : Option EngineConfig := do
  let default : EngineConfig := {}
  match ← json.record? fieldNames with
  | [sources, results] =>
    let sources ← Json.orDefault CacheConfig.ofJson? default.sources sources
    let results ← Json.orDefault CacheConfig.ofJson? default.results results
    some ⟨sources, results⟩
  | _ => none

-- Of other fields than the named ones nothing is wanted.
def wanted : Json.Wanted :=
  .record (fieldNames.map (·, .record (CacheConfig.fieldNames.map (·, .all))))

def read? (text : String) : Option EngineConfig :=
  (Json.readWanted? wanted text).bind ofJson?

def toJson (c : EngineConfig) : Json :=
  .object [("ast_cache", c.sources.toJson), ("result_cache", c.results.toJson)]

end EngineConfig

end Rulebook
