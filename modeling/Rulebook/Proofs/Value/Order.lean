import Mathlib.Order.Defs.LinearOrder
import Rulebook.Proofs.Eval.Operators

/-!
The order of values. Values of one ordered type are ordered as a whole, but for durations: the zero
duration has an order with those of either kind, which have none with each other. So whatever is
ordered step by step is ordered as a whole, or else the steps pass through the zero duration.
-/

namespace Rulebook

namespace Calendar

variable {a b c : Duration}

instance : Std.TransCmp Date.compare :=
  inferInstanceAs (Std.TransCmp
    (compareLex (compareOn Date.year) (compareLex (compareOn Date.month) (compareOn Date.day))))

instance : Std.TransCmp Time.compare :=
  inferInstanceAs (Std.TransCmp (compareLex (compareOn Time.second) (compareOn Time.nano)))

instance : Std.TransCmp DateTime.compare :=
  have : Std.TransCmp fun a b : DateTime => a.date.compare b.date :=
    { eq_swap := Std.OrientedCmp.eq_swap, isLE_trans := Std.TransCmp.isLE_trans }
  have : Std.TransCmp fun a b : DateTime => a.time.compare b.time :=
    { eq_swap := Std.OrientedCmp.eq_swap, isLE_trans := Std.TransCmp.isLE_trans }
  inferInstanceAs (Std.TransCmp (compareLex (fun a b : DateTime => a.date.compare b.date)
    fun a b => a.time.compare b.time))

theorem Date.eq_of_compare_eq {a b : Date} (h : a.compare b = .eq) : a = b := by
  simp only [Date.compare, Ordering.then_eq_eq, Std.LawfulEqCmp.compare_eq_iff_eq] at h
  cases a
  cases b
  simp_all

theorem Time.eq_of_compare_eq {a b : Time} (h : a.compare b = .eq) : a = b := by
  simp only [Time.compare, Ordering.then_eq_eq, Std.LawfulEqCmp.compare_eq_iff_eq] at h
  cases a
  cases b
  simp_all

theorem DateTime.eq_of_compare_eq {a b : DateTime} (h : a.compare b = .eq) : a = b := by
  rw [DateTime.compare, Ordering.then_eq_eq] at h
  cases a
  cases b
  cases Date.eq_of_compare_eq h.1
  cases Time.eq_of_compare_eq h.2
  rfl

namespace Duration

def AtMost (a b : Duration) : Prop := ∃ o, a.compare? b = some o ∧ o.isLE = true

-- Of different kinds, one below and one above the zero duration.
def Astride (a b : Duration) : Prop :=
  a.months < 0 ∧ a.millis = 0 ∧ b.months = 0 ∧ 0 < b.millis ∨
    a.months = 0 ∧ a.millis < 0 ∧ 0 < b.months ∧ b.millis = 0

theorem eq_iff : a = b ↔ a.months = b.months ∧ a.millis = b.millis := by
  cases a
  cases b
  simp

theorem isSome_compare?_iff : (a.compare? b).isSome = true ↔
    a.months = 0 ∧ b.months = 0 ∨ a.millis = 0 ∧ b.millis = 0 ∨ a = b := by
  simp only [compare?, isDayTime, isYearMonth, Bool.and_eq_true, beq_iff_eq]
  split_ifs <;> simp_all

theorem atMost_iff : AtMost a b ↔
    a.months = 0 ∧ b.months = 0 ∧ a.millis ≤ b.millis ∨
      a.millis = 0 ∧ b.millis = 0 ∧ a.months ≤ b.months ∨
      a.months = b.months ∧ a.millis = b.millis := by
  simp only [AtMost, compare?, isDayTime, isYearMonth, Bool.and_eq_true, beq_iff_eq, eq_iff]
  split_ifs
  · simp only [Option.some.injEq, exists_eq_left', Int.isLE_compare]
    omega
  · simp only [Option.some.injEq, exists_eq_left', Int.isLE_compare]
    omega
  · simp only [Option.some.injEq, exists_eq_left', Ordering.isLE_eq, true_iff]
    omega
  · simp only [false_and, exists_false, false_iff]
    omega

theorem AtMost.trans (h₁ : AtMost a b) (h₂ : AtMost b c) : AtMost a c ∨ Astride a c := by
  rw [atMost_iff] at *
  rw [Astride]
  -- Both of one kind, both of the other, or equal.
  obtain h₁ | h₁ | h₁ := h₁ <;> obtain h₂ | h₂ | h₂ := h₂ <;> omega

theorem AtMost.astride (h₁ : AtMost a b) (h₂ : Astride b c) : Astride a c := by
  rw [atMost_iff] at h₁
  rw [Astride] at *
  omega

theorem Astride.atMost (h₁ : Astride a b) (h₂ : AtMost b c) : Astride a c := by
  rw [atMost_iff] at h₂
  rw [Astride] at *
  omega

theorem Astride.not_astride (h : Astride a b) : ¬Astride b c := by
  rw [Astride] at *
  omega

theorem eq_of_compare? (h : a.compare? b = some .eq) : a = b := by
  simp only [compare?, isDayTime, isYearMonth, Bool.and_eq_true, beq_iff_eq] at h
  split_ifs at h
  all_goals simp_all [eq_iff]

theorem compare?_self : a.compare? a = some .eq := by
  simp only [compare?]
  split_ifs <;> simp

theorem isSome_compare?_trans (h₁ : (a.compare? b).isSome = true)
    (h₂ : (b.compare? c).isSome = true) : (a.compare? c).isSome = true ∨ b = .zero := by
  simp only [isSome_compare?_iff, eq_iff, zero] at *
  omega

end Duration

end Calendar

theorem Number.compare?_eq_some_iff {x y : Float} {o : Ordering} : compare? x y = some o ↔
    ∃ i j, key? x = some i ∧ key? y = some j ∧ Ord.compare i j = o := by
  simp only [compare?]
  cases key? x <;> cases key? y <;> simp

namespace Value

-- What it takes for two values to have an order.
inductive Ordered : Value → Value → Ordering → Prop
  | number {x y : Float} {o : Ordering} (h : Number.compare? x y = some o) :
      Ordered (.number x) (.number y) o
  | string (s t : String) : Ordered (.string s) (.string t) (Ord.compare s t)
  | date (d e : Calendar.Date) : Ordered (.date d) (.date e) (d.compare e)
  | time (t u : Calendar.Time) : Ordered (.time t) (.time u) (t.compare u)
  | dateTime (d e : Calendar.DateTime) : Ordered (.dateTime d) (.dateTime e) (d.compare e)
  | duration {d e : Calendar.Duration} {o : Ordering} (h : d.compare? e = some o) :
      Ordered (.duration d) (.duration e) o

def Comparable (a b : Value) : Prop := (compare? a b).isSome = true

instance {a b : Value} : Decidable (Comparable a b) := inferInstanceAs (Decidable (_ = true))

def AtMost (a b : Value) : Prop := ∃ o, compare? a b = some o ∧ o.isLE = true

-- The least relation that has the order of values and can be passed on from value to value.
inductive Before : Value → Value → Prop
  | atMost {a b : Value} (h : AtMost a b) : Before a b
  | astride {d e : Calendar.Duration} (h : d.Astride e) : Before (.duration d) (.duration e)

variable {a b c : Value} {o : Ordering}

theorem compare?_eq_some_iff : compare? a b = some o ↔ Ordered a b o := by
  constructor
  · intro h
    unfold compare? at h
    split at h
    case h_1 => exact .number h
    case h_2 => cases h; exact .string ..
    case h_3 => cases h; exact .date ..
    case h_4 => cases h; exact .time ..
    case h_5 => cases h; exact .dateTime ..
    case h_6 => exact .duration h
    case h_7 => cases h
  · intro h
    cases h with
    | number h | duration h => exact h
    | string | date | time | dateTime => rfl

theorem Ordered.swap (h : Ordered a b o) : Ordered b a o.swap := by
  cases h with
  | @number x y _ h => exact .number (by rw [Number.compare?_swap x y, h]; rfl)
  | @duration d e _ h => exact .duration (by rw [Calendar.Duration.compare?_swap d e, h]; rfl)
  | string => rw [← Std.OrientedCmp.eq_swap]; exact .string ..
  | date => rw [← Std.OrientedCmp.eq_swap]; exact .date ..
  | time => rw [← Std.OrientedCmp.eq_swap]; exact .time ..
  | dateTime => rw [← Std.OrientedCmp.eq_swap]; exact .dateTime ..

theorem compare?_swap (h : compare? a b = some o) : compare? b a = some o.swap :=
  compare?_eq_some_iff.2 (compare?_eq_some_iff.1 h).swap

theorem Comparable.symm (h : Comparable a b) : Comparable b a := by
  obtain ⟨o, h⟩ := Option.isSome_iff_exists.1 h
  rw [Comparable, compare?_swap h, Option.isSome_some]

theorem AtMost.comparable (h : AtMost a b) : Comparable a b := by
  obtain ⟨o, h, -⟩ := h
  rw [Comparable, h, Option.isSome_some]

theorem AtMost.of_isGE (h : compare? a b = some o) (ho : o.isGE = true) : AtMost b a :=
  ⟨o.swap, compare?_swap h, by rwa [Ordering.isLE_swap]⟩

theorem Comparable.atMost_or (h : Comparable a b) : AtMost a b ∨ AtMost b a := by
  obtain ⟨o, h⟩ := Option.isSome_iff_exists.1 h
  cases ho : o.isLE with
  | true => exact .inl ⟨o, h, ho⟩
  | false => exact .inr (.of_isGE h (by cases o <;> trivial))

theorem AtMost.antisymm (h₁ : AtMost a b) (h₂ : AtMost b a) : compare? a b = some .eq := by
  obtain ⟨o, h₁, ho⟩ := h₁
  obtain ⟨p, h₂, hp⟩ := h₂
  rw [compare?_swap h₁, Option.some.injEq] at h₂
  subst h₂
  cases o
  · cases hp
  · exact h₁
  · cases ho

theorem equal_of_compare? (h : compare? a b = some .eq) : equal a b = true := by
  generalize ho : Ordering.eq = o at h
  cases compare?_eq_some_iff.1 h with
  | number h => simp [equal, Number.equal, h, ← ho]
  | duration h => subst ho; simp [equal, Calendar.Duration.eq_of_compare? h]
  | string => simp [equal, Std.LawfulEqCmp.eq_of_compare ho.symm]
  | date => simp [equal, Calendar.Date.eq_of_compare_eq ho.symm]
  | time => simp [equal, Calendar.Time.eq_of_compare_eq ho.symm]
  | dateTime => simp [equal, Calendar.DateTime.eq_of_compare_eq ho.symm]

-- Values on one level have the same order with any third.
theorem compare?_eq_of_level (h : compare? a b = some .eq) : compare? a c = compare? b c := by
  generalize ho : Ordering.eq = o at h
  cases compare?_eq_some_iff.1 h with
  | number h =>
    obtain ⟨i, j, hi, hj, rfl⟩ := Number.compare?_eq_some_iff.1 h
    obtain rfl := Std.LawfulEqCmp.eq_of_compare ho.symm
    cases c <;> simp [compare?, Number.compare?, hi, hj]
  | duration h => subst ho; rw [Calendar.Duration.eq_of_compare? h]
  | string => rw [Std.LawfulEqCmp.eq_of_compare ho.symm]
  | date => rw [Calendar.Date.eq_of_compare_eq ho.symm]
  | time => rw [Calendar.Time.eq_of_compare_eq ho.symm]
  | dateTime => rw [Calendar.DateTime.eq_of_compare_eq ho.symm]

theorem AtMost.trans (h₁ : AtMost a b) (h₂ : AtMost b c) : Before a c := by
  obtain ⟨o, h₁, ho⟩ := h₁
  obtain ⟨p, h₂, hp⟩ := h₂
  cases compare?_eq_some_iff.1 h₁ <;> cases compare?_eq_some_iff.1 h₂
  case number.number h₁ _ h₂ =>
    obtain ⟨i, j, hi, hj, rfl⟩ := Number.compare?_eq_some_iff.1 h₁
    obtain ⟨_, k, hj', hk, rfl⟩ := Number.compare?_eq_some_iff.1 h₂
    cases hj.symm.trans hj'
    refine .atMost ⟨_, ?_, Std.TransCmp.isLE_trans ho hp⟩
    simp [compare?, Number.compare?, hi, hk]
  case duration.duration h₁ _ h₂ =>
    obtain ⟨o, h⟩ | h := Calendar.Duration.AtMost.trans ⟨o, h₁, ho⟩ ⟨p, h₂, hp⟩
    · exact .atMost ⟨o, h⟩
    · exact .astride h
  all_goals exact .atMost ⟨_, rfl, Std.TransCmp.isLE_trans ho hp⟩

theorem AtMost.astride_trans {d e : Calendar.Duration} (h₁ : AtMost a (.duration d))
    (h₂ : d.Astride e) : Before a (.duration e) := by
  obtain ⟨o, h, -⟩ := id h₁
  cases compare?_eq_some_iff.1 h with
  | duration => exact .astride (Calendar.Duration.AtMost.astride h₁ h₂)

theorem Before.astride_trans {d e : Calendar.Duration} (h₁ : d.Astride e)
    (h₂ : AtMost (.duration e) c) : Before (.duration d) c := by
  obtain ⟨o, h, -⟩ := id h₂
  cases compare?_eq_some_iff.1 h with
  | duration => exact .astride (h₁.atMost h₂)

theorem Before.trans (h₁ : Before a b) (h₂ : Before b c) : Before a c := by
  cases h₁ with
  | atMost h₁ =>
    cases h₂ with
    | atMost h₂ => exact h₁.trans h₂
    | astride h₂ => exact h₁.astride_trans h₂
  | astride h₁ =>
    cases h₂ with
    | atMost h₂ => exact astride_trans h₁ h₂
    | astride h₂ => exact absurd h₂ h₁.not_astride

instance : Trans Before Before Before := ⟨Before.trans⟩

theorem Before.antisymm (h₁ : Before a b) (h₂ : Before b a) : compare? a b = some .eq := by
  cases h₁ with
  | atMost h₁ =>
    cases h₂ with
    | atMost h₂ => exact h₁.antisymm h₂
    | astride h₂ => exact absurd (h₂.atMost h₁) (h₂.atMost h₁).not_astride
  | astride h₁ =>
    cases h₂ with
    | atMost h₂ => exact absurd (h₁.atMost h₂) (h₁.atMost h₂).not_astride
    | astride h₂ => exact absurd h₂ h₁.not_astride

theorem Before.atMost_of_comparable (h : Before a b) (hab : Comparable a b) : AtMost a b := by
  obtain hab | hba := hab.atMost_or
  · exact hab
  · exact ⟨.eq, h.antisymm (.atMost hba), rfl⟩

-- Only the zero duration has an order with values that have none with each other.
theorem comparable_trans (hab : Comparable a b) (hbc : Comparable b c) :
    Comparable a c ∨ b = .duration .zero := by
  obtain ⟨o, ho⟩ := Option.isSome_iff_exists.1 hab
  obtain ⟨p, hp⟩ := Option.isSome_iff_exists.1 hbc
  cases compare?_eq_some_iff.1 ho <;> cases compare?_eq_some_iff.1 hp
  case number.number h₁ _ h₂ =>
    obtain ⟨i, j, hi, -, -⟩ := Number.compare?_eq_some_iff.1 h₁
    obtain ⟨-, k, -, hk, -⟩ := Number.compare?_eq_some_iff.1 h₂
    exact .inl (by simp [Comparable, compare?, Number.compare?, hi, hk])
  case duration.duration h₁ _ h₂ =>
    refine (Calendar.Duration.isSome_compare?_trans hab hbc).imp_right fun h => ?_
    rw [h]
  all_goals exact .inl rfl

theorem Comparable.level_self (h : Comparable a b) : compare? a a = some .eq := by
  obtain ⟨o, h⟩ := Option.isSome_iff_exists.1 h
  cases compare?_eq_some_iff.1 h with
  | number h =>
    obtain ⟨i, _, hi, -, -⟩ := Number.compare?_eq_some_iff.1 h
    simp [compare?, Number.compare?, hi]
  | duration => exact Calendar.Duration.compare?_self
  | string | date | time | dateTime => exact congrArg some Std.ReflCmp.compare_self

theorem Before.level_self (h : Before a b) :
    compare? a a = some .eq ∧ compare? b b = some .eq := by
  cases h with
  | atMost h => exact ⟨h.comparable.level_self, h.comparable.symm.level_self⟩
  | astride => exact ⟨Calendar.Duration.compare?_self, Calendar.Duration.compare?_self⟩

end Value

end Rulebook
