import Rulebook.Proofs.Eval.Intervals

/-!
Arithmetic of durations. A sum, a negation and a difference are exact in both parts, or an error
tells that a part has no room in 64 bits. A difference alone is refused as well where it would have
room, if a part of what is taken away is the least number of 64 bits: that one cannot be negated.
-/

namespace Rulebook

open Calendar

variable {r : Registry} {scope : Scope} {left right : Expr} {a b d : Duration} {n : Int}

namespace Calendar

theorem fits_iff_exists_word : fits n = true ↔ ∃ w : Int64, n = w.toInt := by
  rw [fits_iff]
  constructor
  · rintro ⟨hmin, hmax⟩
    exact ⟨.ofInt n, (Int64.toInt_ofInt_of_le hmin (by omega)).symm⟩
  · rintro ⟨w, rfl⟩
    have hmin := w.le_toInt
    have hlt := w.toInt_lt
    omega

theorem fits_neg_iff (h : fits n = true) : fits (-n) = true ↔ n ≠ Int64.minValue.toInt := by
  have hleast : Int64.minValue.toInt = -9223372036854775808 := rfl
  rw [fits_iff] at h ⊢
  rw [hleast]
  omega

namespace Duration

-- There are 64-bit words for both parts.
def Fits (d : Duration) : Prop :=
  ∃ months millis : Int64, d = ⟨months.toInt, millis.toInt⟩

-- A part is the least number of 64 bits.
def HasLeastPart (d : Duration) : Prop :=
  d.months = Int64.minValue.toInt ∨ d.millis = Int64.minValue.toInt

instance : Decidable d.HasLeastPart := inferInstanceAs (Decidable (_ ∨ _))

def plus (a b : Duration) : Duration := ⟨a.months + b.months, a.millis + b.millis⟩

def minus (a b : Duration) : Duration := ⟨a.months - b.months, a.millis - b.millis⟩

def opposite (d : Duration) : Duration := ⟨-d.months, -d.millis⟩

theorem fits_iff_parts : d.Fits ↔ (fits d.months && fits d.millis) = true := by
  rw [Bool.and_eq_true, fits_iff_exists_word, fits_iff_exists_word]
  constructor
  · rintro ⟨m, i, rfl⟩
    exact ⟨⟨m, rfl⟩, ⟨i, rfl⟩⟩
  · rintro ⟨⟨m, hm⟩, ⟨i, hi⟩⟩
    exact ⟨m, i, by rw [← hm, ← hi]⟩

theorem ofParts?_of_fits (h : d.Fits) : ofParts? d.months d.millis = some d :=
  if_pos (fits_iff_parts.1 h)

theorem ofParts?_of_not_fits (h : ¬d.Fits) : ofParts? d.months d.millis = none :=
  if_neg (mt fits_iff_parts.2 h)

theorem fits_opposite_iff (h : d.Fits) : d.opposite.Fits ↔ ¬d.HasLeastPart := by
  rw [fits_iff_parts, Bool.and_eq_true] at h ⊢
  exact (and_congr (fits_neg_iff h.1) (fits_neg_iff h.2)).trans not_or.symm

theorem plus_opposite (a b : Duration) : a.plus b.opposite = a.minus b := by
  simp only [plus, opposite, minus, Int.sub_eq_add_neg]

end Duration

end Calendar

-- The error that a value is out of range.
def EvalError.isOverflow : EvalError → Bool
  | binaryOverflow .. | negateOverflow _ | rangeTooLarge .. => true
  | _ => false

-- The outcome is the duration if it has room, and otherwise the error that it has none.
structure Exactly (outcome : Outcome Value) (d : Duration) : Prop where
  value : d.Fits → outcome = .ok (.duration d)
  overflow : ¬d.Fits → ∃ e, outcome = .error e ∧ e.isOverflow = true

namespace Value

theorem exactly_orOverflow (op : BinaryOp) (v w : Value) (d : Duration) :
    Exactly (orOverflow op v w duration (Duration.ofParts? d.months d.millis)) d where
  value h := by
    rw [Duration.ofParts?_of_fits h]
    rfl
  overflow h := by
    rw [Duration.ofParts?_of_not_fits h]
    exact ⟨_, rfl, rfl⟩

theorem exactly_add (a b : Duration) : Exactly (add (duration a) (duration b)) (a.plus b) :=
  exactly_orOverflow .add (duration a) (duration b) (a.plus b)

theorem exactly_negate (d : Duration) : Exactly (unary .negate (duration d)) d.opposite where
  value h := by
    have hnegate : d.negate? = some d.opposite := Duration.ofParts?_of_fits h
    rw [unary, hnegate]
  overflow h := by
    have hnegate : d.negate? = none := Duration.ofParts?_of_not_fits h
    rw [unary, hnegate]
    exact ⟨_, rfl, rfl⟩

-- What can be negated is taken away by adding its negation.
theorem exactly_subtract (h : b.opposite.Fits) :
    Exactly (subtract (duration a) (duration b)) (a.minus b) := by
  have hnegate : b.negate? = some b.opposite := Duration.ofParts?_of_fits h
  have hsubtract : subtract (duration a) (duration b) = add (duration a) (duration b.opposite) := by
    simp only [subtract, hnegate]
    rfl
  rw [hsubtract, ← Duration.plus_opposite]
  exact exactly_add a b.opposite

theorem subtract_of_not_fits (h : ¬b.opposite.Fits) : subtract (duration a) (duration b) =
    .error (.binaryOverflow .subtract (duration a) (duration b)) := by
  have hnegate : b.negate? = none := Duration.ofParts?_of_not_fits h
  simp only [subtract, hnegate]
  rfl

theorem exactly_subtract_iff (hb : b.Fits) :
    Exactly (subtract (duration a) (duration b)) (a.minus b) ↔
      ¬(b.HasLeastPart ∧ (a.minus b).Fits) := by
  by_cases hleast : b.HasLeastPart
  case neg =>
    have hexact := exactly_subtract (a := a) ((Duration.fits_opposite_iff hb).2 hleast)
    simp only [hexact, hleast, false_and, not_false_eq_true]
  case pos =>
    have hrefused := subtract_of_not_fits (a := a) fun h =>
      (Duration.fits_opposite_iff hb).1 h hleast
    constructor
    · rintro hexact ⟨-, hfits⟩
      cases hrefused.symm.trans (hexact.value hfits)
    · intro h
      exact ⟨fun hfits => absurd ⟨hleast, hfits⟩ h, fun _ => ⟨_, hrefused, rfl⟩⟩

end Value

theorem eval_negate {v : Value} (h : eval r scope right = .ok v) :
    eval r scope (.unary .negate right) = Value.unary .negate v := by
  rw [eval, h]
  rfl

-- For durations of 64-bit words the exact outcome of each operation is given, or an error if it has
-- no room; for a difference that is so just in case no part of what is taken away is the least
-- number while the difference has room. It is refused then.
theorem eval_duration_arithmetic (hb : b.Fits) (hleft : eval r scope left = .ok (.duration a))
    (hright : eval r scope right = .ok (.duration b)) :
    Exactly (eval r scope (.binary .add left right)) (a.plus b) ∧
      Exactly (eval r scope (.unary .negate right)) b.opposite ∧
      (Exactly (eval r scope (.binary .subtract left right)) (a.minus b) ↔
        ¬(b.HasLeastPart ∧ (a.minus b).Fits)) ∧
      (b.HasLeastPart → eval r scope (.binary .subtract left right) =
        .error (.binaryOverflow .subtract (.duration a) (.duration b))) := by
  rw [eval_binary rfl hleft hright, eval_binary rfl hleft hright, eval_negate hright]
  refine ⟨Value.exactly_add a b, Value.exactly_negate b, Value.exactly_subtract_iff hb, fun h => ?_⟩
  exact Value.subtract_of_not_fits fun hfits => (Duration.fits_opposite_iff hb).1 hfits h

-- The least number of months taken away from one month less than none: the difference would be the
-- greatest number of months.
theorem eval_duration_arithmetic_least :
    let a : Duration := ⟨-1, 0⟩
    let b : Duration := ⟨-9223372036854775808, 0⟩
    let scope : Scope := [[("a", .duration a), ("b", .duration b)]]
    b.Fits ∧ a.minus b = ⟨9223372036854775807, 0⟩ ∧ (a.minus b).Fits ∧
      eval .empty scope (.binary .subtract (.reference "a") (.reference "b")) =
        .error (.binaryOverflow .subtract (.duration a) (.duration b)) ∧
      ¬Exactly (eval .empty scope (.binary .subtract (.reference "a") (.reference "b")))
        (a.minus b) ∧
      eval .empty scope (.binary .subtract (.reference "a") (.reference "a")) =
        .ok (.duration ⟨0, 0⟩) := by
  intro a b scope
  have ha : a.Fits := ⟨-1, 0, rfl⟩
  have hb : b.Fits := ⟨Int64.minValue, 0, rfl⟩
  have hdifference : (a.minus b).Fits := ⟨Int64.maxValue, 0, rfl⟩
  have hevalA : eval .empty scope (.reference "a") = .ok (.duration a) := rfl
  have hevalB : eval .empty scope (.reference "b") = .ok (.duration b) := rfl
  obtain ⟨-, -, hexact, hrefused⟩ := eval_duration_arithmetic hb hevalA hevalB
  have hself := (eval_duration_arithmetic ha hevalA hevalA).2.2.1.2 fun h =>
    absurd h.1 (by decide)
  exact ⟨hb, rfl, hdifference, hrefused (.inl rfl), fun h => hexact.1 h ⟨.inl rfl, hdifference⟩,
    hself.value ⟨0, 0, rfl⟩⟩

end Rulebook
