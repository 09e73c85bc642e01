import Rulebook.Cache.Basic
import Rulebook.Syntax.ParseError

/-!
Texts that were read before. Only what could be read is kept, and under each grammar on its own.
-/

namespace Rulebook

open Syntax (ParseError parseExpression parseCell)

inductive Grammar
  | expression
  | cell
  deriving DecidableEq, Hashable

inductive Parsed
  | expression (e : Expr)
  | cell (c : Cell)

abbrev Sources := SwitchedCache (Grammar × String) Parsed

abbrev WithSources := StateM Sources

namespace Sources

def expression (text : String) : WithSources (Except ParseError Expr) := fun s =>
  match s.get (.expression, text) with
  | (some (.expression e), s) => (.ok e, s)
  | (_, s) =>
    match parseExpression text with
    | .ok e => (.ok e, s.insert (.expression, text) (.expression e))
    | .error e => (.error e, s)

def cell (text : String) : WithSources (Except ParseError Cell) := fun s =>
  match s.get (.cell, text) with
  | (some (.cell c), s) => (.ok c, s)
  | (_, s) =>
    match parseCell text with
    | .ok c => (.ok c, s.insert (.cell, text) (.cell c))
    | .error e => (.error e, s)

end Sources

end Rulebook
