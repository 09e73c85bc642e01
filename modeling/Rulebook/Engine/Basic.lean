import Rulebook.Builtin.Basic
import Rulebook.Cache.Config
import Rulebook.Engine.Evaluation
import Rulebook.Value.Digest

/-!
An engine: functions, the texts read so far, and the decisions taken so far. A decision is found
again by its table and a hash of the context, and given only if the contexts are equal.
-/

namespace Rulebook

structure ResultKey where
  table : Table
  contextHash : List Digest
  deriving DecidableEq, Hashable

structure StoredDecision where
  context : Context
  decision : Decision

abbrev Results := SwitchedCache ResultKey StoredDecision

structure Engine where
  registry : Registry
  -- The hash of a context; equal contexts have one hash.
  hash : Context → List Digest
  sources : Sources
  results : Results

structure EngineStats where
  sources : CacheStats
  results : CacheStats
  deriving DecidableEq, Repr

def Context.digest (c : Context) : List Digest := Value.digest (.context c)

def Context.equal (a b : Context) : Bool := Value.equal (.context a) (.context b)

namespace Results

-- Contexts of one hash that differ are told apart here.
def find? (results : Results) (key : ResultKey) (context : Context) : Option Decision × Results :=
  let (found, results) := results.get key
  let usable := found.filter fun s => Context.equal s.context context
  (usable.map (·.decision), results)

end Results

namespace Engine

def ofConfig (config : EngineConfig) (registry : Registry) : Engine :=
  ⟨registry, Context.digest, .ofConfig config.sources, .ofConfig config.results⟩

variable (g : Engine)

def evaluateText (text : String) (context : Context) : Except SourceError Value × Engine :=
  let (parsed, sources) := Sources.expression text g.sources
  let g := { g with sources := sources }
  match parsed with
  | .error e => (.error (.parse e), g)
  | .ok e => (evaluateParsed g.registry e context, g)

-- A failure is not kept.
def evaluate (table : Table) (context : Context) : Except DecisionError Decision × Engine :=
  let key : ResultKey := ⟨table, g.hash context⟩
  let (found, results) := Results.find? g.results key context
  match found with
  | some decision => (.ok decision, { g with results := results })
  | none =>
    let (outcome, sources) := (table.decide g.registry context).run g.sources
    match outcome with
    | .error e => (.error e, { g with sources := sources, results := results })
    | .ok decision =>
      let results := results.insert key ⟨context, decision⟩
      (.ok decision, { g with sources := sources, results := results })

def register (f : Function) : Except RegistryError Engine :=
  (g.registry.register f).map fun registry => { g with registry := registry }

def clear : Engine := { g with sources := g.sources.clear, results := g.results.clear }

def wait (duration : Nat) : Engine :=
  { g with sources := g.sources.wait duration, results := g.results.wait duration }

def stats : EngineStats := ⟨g.sources.stats, g.results.stats⟩

end Engine

end Rulebook
