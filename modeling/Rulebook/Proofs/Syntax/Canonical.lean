import Rulebook.Eval.Scope
import Rulebook.Proofs.Number.Bits
import Rulebook.Proofs.Syntax.Parts
import Rulebook.Syntax.Expr
import Rulebook.Syntax.Lexer

/-!
The canonical expressions: those that the functions building expressions can return. A negated
number is a number, names joined by points are one path, and every name is one that the lexer takes
as an identifier.
-/

namespace Rulebook

namespace Syntax

-- The lexer asks for blanks before it asks for names.
def isWord : List Char → Bool
  | c :: cs => startsName c && !isInlineSpace c && cs.all continuesName
  | [] => false

def isName (name : String) : Bool :=
  name == inputName || (isWord name.toList && (Keyword.ofText? name).isNone)

def isPath (path : String) : Bool :=
  (Scope.segments path.toList).all fun segment => isName (String.ofList segment)

def isTypeName (name : String) : Bool :=
  isName name || name == "null"

-- A number has no sign of its own, and comments and blanks have been left out.
def Token.isLexical : Token → Bool
  | .identifier name => isName name
  | .number x => !Number.isNegative x && !Number.isUndefined x
  | t => !t.isTrivia

def Lexical (ts : List Token) : Prop :=
  ∀ t ∈ ts, t.isLexical = true

end Syntax

open Syntax

namespace Scope

variable {c : Char} {cs ds first : List Char} {others : List (List Char)}

theorem exists_segments_eq (cs : List Char) : ∃ first others, segments cs = first :: others := by
  rw [segments.eq_def]
  split
  · exact ⟨_, _, rfl⟩
  · exact ⟨_, _, rfl⟩
  · split <;> exact ⟨_, _, rfl⟩

theorem segments_cons (hc : c ≠ '.') (h : segments cs = first :: others) :
    segments (c :: cs) = (c :: first) :: others := by
  rw [segments, h]
  exact hc

theorem segments_append : segments (cs ++ '.' :: ds) = segments cs ++ segments ds := by
  induction cs with
  | nil => rfl
  | cons c cs ih =>
    by_cases hc : c = '.'
    · subst hc
      rw [List.cons_append, segments, segments, ih, List.cons_append]
    · obtain ⟨first, others, h⟩ := exists_segments_eq cs
      rw [h] at ih
      rw [List.cons_append, segments_cons hc ih, segments_cons hc h]
      rfl

theorem segments_eq_singleton (h : '.' ∉ cs) : segments cs = [cs] := by
  induction cs with
  | nil => rfl
  | cons c cs ih =>
    have hc : c ≠ '.' := fun hc => h (hc ▸ List.mem_cons_self)
    exact segments_cons hc (ih fun hmem => h (List.mem_cons_of_mem _ hmem))

theorem eq_of_segments_eq (h : segments cs = first :: others) :
    cs = first ++ others.flatMap ('.' :: ·) := by
  induction cs generalizing first others with
  | nil => cases h; rfl
  | cons c cs ih =>
    obtain ⟨first', others', h'⟩ := exists_segments_eq cs
    by_cases hc : c = '.'
    · subst hc
      rw [segments, h'] at h
      cases h
      simp [ih h']
    · rw [segments_cons hc h'] at h
      cases h
      simp [← ih h']

end Scope

namespace Syntax

variable {t : Token} {ts us : List Token} {name path : String} {cs : List Char}

theorem Lexical.tail (h : Lexical (t :: ts)) : Lexical ts :=
  (List.forall_mem_cons.1 h).2

theorem Lexical.nil : Lexical [] :=
  nofun

theorem Lexical.cons (ht : t.isLexical = true) (h : Lexical ts) : Lexical (t :: ts) :=
  List.forall_mem_cons.2 ⟨ht, h⟩

theorem Lexical.append (hts : Lexical ts) (hus : Lexical us) : Lexical (ts ++ us) :=
  List.forall_mem_append.2 ⟨hts, hus⟩

theorem isWord_no_dot (h : isWord cs = true) : '.' ∉ cs := by
  cases cs with
  | nil => cases h
  | cons c cs =>
    rw [isWord, Bool.and_eq_true, Bool.and_eq_true, List.all_eq_true] at h
    rintro (_ | ⟨_, hmem⟩)
    · exact absurd h.1.1 (by decide)
    · exact absurd (h.2 _ hmem) (by decide)

theorem isName_no_dot (h : isName name = true) : '.' ∉ name.toList := by
  rw [isName, Bool.or_eq_true, beq_iff_eq, Bool.and_eq_true] at h
  obtain rfl | h := h
  · decide
  · exact isWord_no_dot h.1

theorem isPath_of_isName (h : isName name = true) : isPath name = true := by
  simp [isPath, Scope.segments_eq_singleton (isName_no_dot h), h]

theorem isPath_append (hpath : isPath path = true) (hname : isName name = true) :
    isPath (path ++ "." ++ name) = true := by
  have hlist : (path ++ "." ++ name).toList = path.toList ++ '.' :: name.toList := by simp
  rw [isPath, hlist, Scope.segments_append, List.all_append, Bool.and_eq_true]
  exact ⟨hpath, isPath_of_isName hname⟩

end Syntax

namespace Expr

def isNumber : Expr → Bool
  | literal (.number _) => true
  | _ => false

def isReference : Expr → Bool
  | reference _ => true
  | _ => false

mutual

def isCanonical : Expr → Bool
  | literal (.number x) => !Number.isUndefined x
  | literal _ => true
  | reference path => isPath path
  | binary _ l r => isCanonical l && isCanonical r
  | unary op e => isCanonical e && !(op == .negate && e.isNumber)
  | range l u _ _ => isCanonical l && isCanonical u
  | list items => canonicalItems items
  | context entries => canonicalEntries entries
  | call function arguments => isName function && canonicalItems arguments
  | property base key => isCanonical base && isName key && !base.isReference
  | conditional c y n => isCanonical c && isCanonical y && isCanonical n
  | loop name s b => isName name && isCanonical s && isCanonical b
  | quantified _ name s p => isName name && isCanonical s && isCanonical p
  | between e l u => isCanonical e && isCanonical l && isCanonical u
  | instanceOf e type => isCanonical e && isTypeName type
  | filter b p => isCanonical b && isCanonical p

def canonicalItems : List Expr → Bool
  | [] => true
  | e :: es => isCanonical e && canonicalItems es

def canonicalEntries : List (String × Expr) → Bool
  | [] => true
  | (_, e) :: es => isCanonical e && canonicalEntries es

end

attribute [local simp] isCanonical canonicalItems canonicalEntries

variable {e base : Expr} {key : String}

theorem canonicalItems_iff {items : List Expr} :
    canonicalItems items = true ↔ ∀ e ∈ items, e.isCanonical = true := by
  induction items with
  | nil => simp
  | cons e items ih => simp [ih]

theorem canonicalEntries_iff {entries : List (String × Expr)} :
    canonicalEntries entries = true ↔ ∀ e ∈ entries, e.2.isCanonical = true := by
  induction entries with
  | nil => simp
  | cons e entries ih =>
    rw [canonicalEntries, Bool.and_eq_true, ih, List.forall_mem_cons]

theorem negated_eq_unary (h : e.isNumber = false) : e.negated = unary .negate e := by
  unfold negated
  split
  · cases h
  · rfl

theorem member_eq_property (h : base.isReference = false) :
    base.member key = property base key := by
  unfold member
  split
  · cases h
  · rfl

theorem isCanonical_negated (h : e.isCanonical = true) : e.negated.isCanonical = true := by
  cases hnumber : e.isNumber with
  | false =>
    rw [negated_eq_unary hnumber, isCanonical, h, hnumber]
    rfl
  | true =>
    unfold isNumber at hnumber
    split at hnumber
    · rw [isCanonical, Bool.not_eq_true'] at h
      rw [negated, isCanonical, Number.isUndefined_neg h]
      rfl
    · cases hnumber

theorem isCanonical_member (hbase : base.isCanonical = true) (hkey : isName key = true) :
    (base.member key).isCanonical = true := by
  cases hreference : base.isReference with
  | false =>
    rw [member_eq_property hreference, isCanonical, hbase, hkey, hreference]
    rfl
  | true =>
    unfold isReference at hreference
    split at hreference
    · rw [isCanonical] at hbase
      exact isPath_append hbase hkey
    · cases hreference

end Expr

end Rulebook
