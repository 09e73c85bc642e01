import Rulebook.Builtin.Arguments
import Rulebook.Proofs.Value.WholeNumbers

/-!
The steps on the way to an answer that are not defined everywhere: an item or a part of a list, a
part of a text, an operation on the integers of the machine. An answer that is reached over such
steps is absent if one of them is not defined.
-/

namespace Rulebook

open Value (checked)

abbrev Guarded (α : Type) := ExceptT EvalError Option α

namespace Guarded

variable {α β : Type}

def step (o : Option α) : Guarded α := ExceptT.mk (o.map .ok)

-- An outcome that takes no such step.
def given (x : Outcome α) : Guarded α := ExceptT.mk (some x)

theorem step_some_bind (a : α) (f : α → Guarded β) : (step (some a) >>= f) = f a := rfl

theorem given_ok_bind (a : α) (f : α → Guarded β) : (given (.ok a) >>= f) = f a := rfl

theorem pure_eq_given (a : α) : (pure a : Guarded α) = given (.ok a) := rfl

theorem given_bind {x : Outcome α} {f : α → Guarded β} {g : α → Outcome β}
    (h : ∀ a, x = .ok a → f a = given (g a)) : (given x >>= f) = given (x >>= g) := by
  cases x with
  | error e => rfl
  | ok a => exact h a rfl

theorem mapM_eq_given {f : α → Guarded β} {g : α → Outcome β} {as : List α}
    (h : ∀ a ∈ as, f a = given (g a)) : as.mapM f = given (as.mapM g) := by
  induction as with
  | nil => rfl
  | cons a as ih =>
    rw [List.forall_mem_cons] at h
    rw [List.mapM_cons, List.mapM_cons, h.1, ih h.2]
    exact given_bind fun b _ => given_bind fun bs _ => rfl

end Guarded

namespace Builtin

-- An unsigned integer of the machine.
def word? (n : ℤ) : Option ℕ :=
  if 0 ≤ n ∧ n < 2 ^ 64 then some n.toNat else none

-- The machine's integers of either kind at the place of the other.
def asInteger (n : ℕ) : ℤ := (n : ℤ).bmod (2 ^ 64)

def asWord (n : ℤ) : ℕ := (n % 2 ^ 64).toNat

-- Quotient and remainder.
def divided? (n divisor : ℕ) : Option (ℕ × ℕ) :=
  if divisor = 0 then none else some (n / divisor, n % divisor)

-- The quotient has to fit as well.
def remainder? (n divisor : ℤ) : Option ℤ :=
  if divisor = 0 then none else (checked (n.tdiv divisor)).map fun _ => n.tmod divisor

def slice? {α : Type} (as : List α) (start finish : ℕ) : Option (List α) :=
  if start ≤ finish ∧ finish ≤ as.length then some ((as.take finish).drop start) else none

def byteLength (cs : List Char) : ℕ :=
  (cs.map Char.utf8Size).sum

-- A text cut at a byte, which must not be inside of a character or behind the end.
def cutAt? (n : ℕ) : List Char → Option (List Char × List Char)
  | [] => if n = 0 then some ([], []) else none
  | c :: cs =>
    if n = 0 then some ([], c :: cs)
    else if n < c.utf8Size then none
    else (cutAt? (n - c.utf8Size) cs).map fun (front, rest) => (c :: front, rest)

section

variable {n : ℕ} {cs front rest : List Char}

theorem word?_natCast (h : n < 2 ^ 64) : word? n = some n := by
  rw [word?, if_pos (by omega), Int.toNat_natCast]

theorem asInteger_of_lt (h : n < 2 ^ 63) : asInteger n = n := by
  have hlt : (n : ℤ) < 2 ^ 63 := by exact_mod_cast h
  exact Int.bmod_eq_of_le (Int.le_trans (by decide) (Int.natCast_nonneg n)) hlt

theorem asWord_natCast (h : n < 2 ^ 64) : asWord n = n := by
  have hlt : (n : ℤ) < 2 ^ 64 := by omega
  rw [asWord, Int.emod_eq_of_lt (Int.natCast_nonneg n) hlt, Int.toNat_natCast]

theorem checked_eq {k : ℤ} (h : Calendar.fits k = true) : checked k = some k :=
  if_pos h

theorem fits_of_expectInteger {function : String} {arguments : List Value} {k : ℤ}
    (h : expectInteger function arguments n = .ok k) : Calendar.fits k = true := by
  simp only [expectInteger, bind, Except.bind] at h
  split at h
  · cases h
  · rename_i x _
    split at h
    · cases h
      simp only [Number.clampToInt, Calendar.fits_iff, minInteger, maxInteger]
      split
      · omega
      · split <;> omega
      · split <;> omega
    · cases h

theorem lt_of_indexOfPosition {function : String} {position : ℤ} {length start : ℕ}
    (h : indexOfPosition function position length = .ok start) : start < max length 1 := by
  rw [indexOfPosition] at h
  generalize (if 0 < position then position - 1 else length + position) = i at h
  split at h
  · cases h
  · cases h
    omega

theorem le_of_partEnd {function : String} {arguments : List Value} {start whole finish : ℕ}
    (h : partEnd function arguments n start whole = .ok finish) : finish ≤ whole := by
  rw [partEnd] at h
  cases harg : arguments[n]? with
  | none =>
    rw [harg] at h
    cases h
    exact Nat.le_refl _
  | some v =>
    simp only [harg, bind, Except.bind] at h
    split at h
    · cases h
    · split at h
      · cases h
      · cases h
        exact Nat.min_le_right ..

theorem length_le_byteLength : cs.length ≤ byteLength cs := by
  induction cs with
  | nil => exact Nat.le_refl _
  | cons c cs ih =>
    have := c.utf8Size_pos
    simp only [byteLength, List.map_cons, List.sum_cons, List.length_cons] at ih ⊢
    omega

theorem byteLength_append : byteLength (front ++ rest) = byteLength front + byteLength rest := by
  rw [byteLength, List.map_append, List.sum_append]
  rfl

theorem cutAt?_byteLength : cutAt? (byteLength front) (front ++ rest) = some (front, rest) := by
  induction front with
  | nil => cases rest <;> rfl
  | cons c front ih =>
    have hlength : byteLength (c :: front) = c.utf8Size + byteLength front := List.sum_cons
    have := c.utf8Size_pos
    rw [List.cons_append, cutAt?, hlength, if_neg (by omega), if_neg (by omega),
      Nat.add_sub_cancel_left, ih]
    rfl

theorem slice?_getD {α : Type} {as : List α} {start finish : ℕ} (h : finish ≤ as.length) :
    (slice? as start finish).getD [] = (as.take finish).drop start := by
  rw [slice?]
  split
  case isTrue => rfl
  case isFalse hgap =>
    have hlength : (as.take finish).length ≤ start := by
      rw [List.length_take]
      omega
    exact (List.drop_eq_nil_of_le hlength).symm

end

-- What there is room for: a list has fewer items, and a text fewer bytes, than there are integers
-- from zero up.
def IsStorable : Value → Prop
  | .string s => byteLength s.toList < 2 ^ 63
  | .list items => items.length < 2 ^ 63
  | _ => True

structure Storable (arguments : List Value) : Prop where
  length : arguments.length < 2 ^ 63
  each : ∀ v ∈ arguments, IsStorable v

namespace Guarded

open Rulebook.Guarded (step given given_bind step_some_bind pure_eq_given)

section

variable (function : String) (arguments : List Value) (index : ℕ)

def wrongType {α : Type} (expected : String) : Guarded α := do
  let argument ← step (word? (index + 1))
  given (invalid function (.wrongType argument expected arguments[index]?))

def expectString : Guarded String :=
  match arguments[index]? with
  | some (.string s) => pure s
  | _ => wrongType function arguments index "string"

def expectNumber : Guarded Float :=
  match arguments[index]? with
  | some (.number x) => pure x
  | _ => wrongType function arguments index "number"

def expectList : Guarded (List Value) :=
  match arguments[index]? with
  | some (.list items) => pure items
  | _ => wrongType function arguments index "list"

def expectInteger : Guarded ℤ := do
  let x ← expectNumber function arguments index
  if Number.isWhole x then pure (Number.clampToInt minInteger maxInteger x)
  else
    let argument ← step (word? (index + 1))
    given (invalid function (.notWhole argument x))

def indexOfPosition (position : ℤ) (length : ℕ) : Guarded ℕ := do
  let index ← step
    (if 0 < position then checked (position - 1) else checked (asInteger length + position))
  if position = 0 ∨ index < 0 ∨ max length 1 ≤ asWord index then
    given (invalid function (.outOfBounds position))
  else pure (asWord index)

def partEnd (start whole : ℕ) : Guarded ℕ :=
  match arguments[index]? with
  | none => pure whole
  | some _ => do
    let length ← expectInteger function arguments index
    if length < 0 then given (invalid function (.other "length must not be negative"))
    else
      let finish ← step (word? (start + asWord length))
      pure (min finish whole)

-- A part that is not there is empty.
def selectPart {α : Type} (items : List α) : Guarded (List α) := do
  let position ← expectInteger function arguments 1
  let start ← indexOfPosition function position items.length
  let finish ← partEnd function arguments 2 start items.length
  pure ((slice? items start finish).getD [])

end

section

variable {function : String} {arguments : List Value} {index length : ℕ} {position : ℤ}

theorem wrongType_eq {α : Type} {expected : String} (h : index + 1 < 2 ^ 64) :
    (wrongType function arguments index expected : Guarded α) =
      given (Builtin.wrongType function arguments index expected) := by
  have hword : word? ((index : ℤ) + 1) = some (index + 1) := word?_natCast h
  rw [wrongType, hword]
  rfl

theorem expectString_eq (h : index + 1 < 2 ^ 64) : expectString function arguments index =
    given (Builtin.expectString function arguments index) := by
  rw [expectString, Builtin.expectString]
  cases arguments[index]? with
  | none => exact wrongType_eq h
  | some v =>
    cases v
    case string => rfl
    all_goals exact wrongType_eq h

theorem expectNumber_eq (h : index + 1 < 2 ^ 64) : expectNumber function arguments index =
    given (Builtin.expectNumber function arguments index) := by
  rw [expectNumber, Builtin.expectNumber]
  cases arguments[index]? with
  | none => exact wrongType_eq h
  | some v =>
    cases v
    case number => rfl
    all_goals exact wrongType_eq h

theorem expectList_eq (h : index + 1 < 2 ^ 64) : expectList function arguments index =
    given (Builtin.expectList function arguments index) := by
  rw [expectList, Builtin.expectList]
  cases arguments[index]? with
  | none => exact wrongType_eq h
  | some v =>
    cases v
    case list => rfl
    all_goals exact wrongType_eq h

theorem expectInteger_eq (h : index + 1 < 2 ^ 64) : expectInteger function arguments index =
    given (Builtin.expectInteger function arguments index) := by
  have hword : word? ((index : ℤ) + 1) = some (index + 1) := word?_natCast h
  rw [expectInteger, Builtin.expectInteger, expectNumber_eq h]
  refine given_bind fun x _ => ?_
  split
  · rfl
  · rw [hword]
    rfl

section

variable {α : Type}

theorem expectString_bind {f : String → Guarded α} {g : String → Outcome α}
    (h : index + 1 < 2 ^ 64)
    (hf : ∀ s, Builtin.expectString function arguments index = .ok s → f s = given (g s)) :
    (expectString function arguments index >>= f) =
      given (Builtin.expectString function arguments index >>= g) := by
  rw [expectString_eq h]
  exact given_bind hf

theorem expectNumber_bind {f : Float → Guarded α} {g : Float → Outcome α}
    (h : index + 1 < 2 ^ 64) (hf : ∀ x, f x = given (g x)) :
    (expectNumber function arguments index >>= f) =
      given (Builtin.expectNumber function arguments index >>= g) := by
  rw [expectNumber_eq h]
  exact given_bind fun x _ => hf x

theorem expectList_bind {f : List Value → Guarded α} {g : List Value → Outcome α}
    (h : index + 1 < 2 ^ 64)
    (hf : ∀ vs, Builtin.expectList function arguments index = .ok vs → f vs = given (g vs)) :
    (expectList function arguments index >>= f) =
      given (Builtin.expectList function arguments index >>= g) := by
  rw [expectList_eq h]
  exact given_bind hf

theorem expectInteger_bind {f : ℤ → Guarded α} {g : ℤ → Outcome α} (h : index + 1 < 2 ^ 64)
    (hf : ∀ n, Calendar.fits n = true → f n = given (g n)) :
    (expectInteger function arguments index >>= f) =
      given (Builtin.expectInteger function arguments index >>= g) := by
  rw [expectInteger_eq h]
  exact given_bind fun n hn => hf n (fits_of_expectInteger hn)

end

theorem indexOfPosition_eq (hposition : Calendar.fits position = true)
    (hlength : length < 2 ^ 63) : indexOfPosition function position length =
      given (Builtin.indexOfPosition function position length) := by
  rw [Calendar.fits_iff] at hposition
  have hindex : (if 0 < position then checked (position - 1) else checked (length + position)) =
      some (if 0 < position then position - 1 else length + position) := by
    split
    · exact checked_eq (Calendar.fits_iff.2 (by omega))
    · exact checked_eq (Calendar.fits_iff.2 (by omega))
  rw [indexOfPosition, Builtin.indexOfPosition, asInteger_of_lt hlength, hindex, step_some_bind]
  generalize hi : (if 0 < position then position - 1 else length + position) = i
  have hbound : i < 2 ^ 64 := by
    rw [← hi]
    split <;> omega
  obtain hneg | hnonneg := Int.lt_or_le i 0
  · rw [if_pos (.inr (.inl hneg)), if_pos (.inr (.inl hneg))]
  · obtain ⟨k, rfl⟩ := Int.eq_ofNat_of_zero_le hnonneg
    rw [asWord_natCast (by omega), Int.toNat_natCast]
    exact (apply_ite given ..).symm.trans (congrArg given (if_congr (by omega) rfl rfl))

theorem partEnd_eq {start whole : ℕ} (hindex : index + 1 < 2 ^ 64) (hstart : start < 2 ^ 63) :
    partEnd function arguments index start whole =
      given (Builtin.partEnd function arguments index start whole) := by
  rw [partEnd, Builtin.partEnd]
  cases arguments[index]? with
  | none => rfl
  | some v =>
    refine expectInteger_bind hindex fun n hn => ?_
    have hfits := Calendar.fits_iff.1 hn
    split
    case isTrue => rfl
    case isFalse hnonneg =>
      obtain ⟨k, rfl⟩ := Int.eq_ofNat_of_zero_le (Int.not_lt.1 hnonneg)
      have hword : word? ((start : ℤ) + k) = some (start + k) := word?_natCast (by omega)
      rw [asWord_natCast (by omega), hword]
      rfl

theorem selectPart_eq {α : Type} {items : List α} (h : items.length < 2 ^ 63) :
    selectPart function arguments items = given (Builtin.selectPart function arguments items) := by
  refine expectInteger_bind (by decide) fun position hposition => ?_
  rw [indexOfPosition_eq hposition h]
  refine given_bind fun start hstart => ?_
  have hlt : start < max items.length 1 := lt_of_indexOfPosition hstart
  rw [partEnd_eq (by decide) (by omega)]
  refine given_bind fun finish hfinish => ?_
  rw [pure_eq_given, slice?_getD (le_of_partEnd hfinish)]

end

end Guarded

end Builtin

end Rulebook
