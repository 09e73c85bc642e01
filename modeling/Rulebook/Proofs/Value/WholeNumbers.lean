import Mathlib.Data.Int.Interval
import Mathlib.Data.Set.Card
import Rulebook.Proofs.Number.Conversion
import Rulebook.Proofs.Number.Order
import Rulebook.Value.Range

/-!
The whole numbers that a range lists are those that it contains, one after the other. A range that
goes down lists the numbers of its mirror image backwards. No step of the way to them leaves the
64-bit integers.
-/

namespace Rulebook.Value

open Number

variable {x y : Float} {m n k : ℤ} {i j : Bool}

def wholeBound? : Value → Option ℤ
  | number x => toInt? x
  | _ => none

theorem exists_of_wholeBound? {v : Value} (h : wholeBound? v = some m) :
    ∃ x, v = number x ∧ toInt? x = some m := by
  cases v
  case number x => exact ⟨x, rfl, h⟩
  all_goals cases h

-- The whole numbers of a range as its membership test tells them.
def covered (start finish : Value) (i j : Bool) : Set ℤ :=
  {k | ∃ z, toInt? z = some k ∧ rangeContains? start finish i j (number z) = some true}

def lowest (m : ℤ) (included : Bool) : ℤ :=
  if included then m else m + 1

def highest (n : ℤ) (included : Bool) : ℤ :=
  if included then n else n - 1

section Covered

theorem onSide_gt_iff : onSide .gt i (compare k m) = true ↔ lowest m i ≤ k := by
  obtain h | rfl | h := lt_trichotomy k m
  · rw [compare_lt_iff_lt.2 h]
    cases i <;> simp [onSide, lowest] <;> omega
  · rw [compare_eq_iff_eq.2 rfl]
    cases i <;> simp [onSide, lowest]
  · rw [compare_gt_iff_gt.2 h]
    cases i <;> simp [onSide, lowest] <;> omega

theorem onSide_lt_iff : onSide .lt j (compare k n) = true ↔ k ≤ highest n j := by
  obtain h | rfl | h := lt_trichotomy k n
  · rw [compare_lt_iff_lt.2 h]
    cases j <;> simp [onSide, highest] <;> omega
  · rw [compare_eq_iff_eq.2 rfl]
    cases j <;> simp [onSide, highest]
  · rw [compare_gt_iff_gt.2 h]
    cases j <;> simp [onSide, highest] <;> omega

theorem toInt?_ofInt_of_between (hm : m.natAbs ≤ maxExactInteger)
    (hn : n.natAbs ≤ maxExactInteger) (hk : lowest m i ≤ k ∧ k ≤ highest n j) :
    toInt? (Number.ofInt k) = some k := by
  apply toInt?_ofInt
  have hlow : m ≤ lowest m i := by
    rw [lowest]
    split <;> omega
  have hhigh : highest n j ≤ n := by
    rw [highest]
    split <;> omega
  simp only [maxExactInteger, leadingBit] at *
  omega

variable (hx : toInt? x = some m) (hy : toInt? y = some n)
include hx hy

theorem rangeContains?_number {z : Float} (hz : toInt? z = some k) :
    rangeContains? (number x) (number y) i j (number z) =
      some (decide (lowest m i ≤ k ∧ k ≤ highest n j)) := by
  have hboth : (onSide .gt i (compare k m) && onSide .lt j (compare k n)) =
      decide (lowest m i ≤ k ∧ k ≤ highest n j) := by
    rw [Bool.eq_iff_iff, Bool.and_eq_true, onSide_gt_iff, onSide_lt_iff, decide_eq_true_eq]
  simp [rangeContains?, compare?, compare?_of_toInt? hz hx, compare?_of_toInt? hz hy, hboth]

theorem covered_eq (hm : m.natAbs ≤ maxExactInteger) (hn : n.natAbs ≤ maxExactInteger) :
    covered (number x) (number y) i j = Set.Icc (lowest m i) (highest n j) := by
  ext k
  simp only [covered, Set.mem_ofPred_eq, Set.mem_Icc]
  constructor
  · rintro ⟨z, hz, hcontains⟩
    simpa [rangeContains?_number hx hy hz] using hcontains
  · intro hk
    have hz := toInt?_ofInt_of_between hm hn hk
    exact ⟨Number.ofInt k, hz, by simp [rangeContains?_number hx hy hz, hk]⟩

end Covered

-- The numbers from `first` upwards.
def upward (first : ℤ) (count : ℕ) : List ℤ :=
  (List.range count).map fun (i : ℕ) => first + i

section Listing

variable {first : ℤ} {count : ℕ}

theorem isChain_upward : (upward first count).IsChain fun a b => b = a + 1 := by
  rw [List.isChain_iff_getElem]
  intro i hi
  simp only [upward, List.getElem_map, List.getElem_range]
  omega

theorem mem_upward_iff : k ∈ upward first count ↔ first ≤ k ∧ k < first + count := by
  simp only [upward, List.mem_map, List.mem_range]
  constructor
  · rintro ⟨i, hi, rfl⟩
    omega
  · rintro ⟨hlow, hhigh⟩
    exact ⟨(k - first).toNat, by omega, by omega⟩

end Listing

def RangeItems.reverse : RangeItems → RangeItems
  | items numbers => .items numbers.reverse
  | other => other

section Steps

variable (hm : m.natAbs ≤ maxExactInteger) (hn : n.natAbs ≤ maxExactInteger)
include hm hn

theorem wholeNumbers_of_le (h : m ≤ n) : wholeNumbers m n i j =
    if (maxRangeItems : ℤ) < highest n j - lowest m i + 1 then .tooMany
    else .items (upward (lowest m i) (highest n j - lowest m i + 1).toNat) := by
  have hsmall : ¬(maxExactInteger < m.natAbs ∨ maxExactInteger < n.natAbs) := by omega
  simp only [wholeNumbers, hsmall, h, ↓reduceIte, mul_one]
  rfl

theorem wholeNumbers_of_lt (h : n < m) :
    wholeNumbers m n i j = (wholeNumbers n m j i).reverse := by
  have hsmall : ¬(maxExactInteger < m.natAbs ∨ maxExactInteger < n.natAbs) := by omega
  have hcount : ((if j then n else n - -1) - if i then m else m + -1) * -1 + 1 =
      highest m i - lowest n j + 1 := by
    cases i <;> cases j <;> simp [highest, lowest] <;> omega
  rw [wholeNumbers_of_le hn hm h.le]
  simp only [wholeNumbers, hsmall, not_le.2 h, ↓reduceIte, hcount]
  split
  case isTrue => rfl
  case isFalse =>
    rw [RangeItems.reverse, RangeItems.items.injEq]
    apply List.ext_getElem
    · simp [upward]
    · intro k hk hk'
      simp [upward] at hk ⊢
      cases i <;> cases j <;> simp [highest, lowest] at hk ⊢ <;> omega

end Steps

-- What an upward range lists: each whole number that it contains, as a number, and after it the
-- next one; or there are too many of them.
def Lists (start finish : Value) (i j : Bool) : RangeItems → Prop
  | .notWhole => False
  | .tooMany => maxRangeItems < (covered start finish i j).encard
  | .items numbers => (covered start finish i j).encard ≤ maxRangeItems ∧
      numbers.IsChain (fun a b => b = a + 1) ∧
        ∀ k, (k ∈ numbers ↔ k ∈ covered start finish i j) ∧
          (k ∈ numbers → toInt? (Number.ofInt k) = some k)

theorem lists_of_le (hx : toInt? x = some m) (hy : toInt? y = some n)
    (hm : m.natAbs ≤ maxExactInteger) (hn : n.natAbs ≤ maxExactInteger) (h : m ≤ n) :
    Lists (number x) (number y) i j (rangeItems (number x) (number y) i j) := by
  have hcovered := covered_eq (i := i) (j := j) hx hy hm hn
  have hcount : (Set.Icc (lowest m i) (highest n j)).encard =
      ((highest n j - lowest m i + 1).toNat : ℕ∞) := by
    rw [← Finset.coe_Icc, Set.encard_coe_eq_coe_finsetCard, Int.card_Icc, sub_add_eq_add_sub]
  simp only [rangeItems, hx, hy, wholeNumbers_of_le hm hn h]
  split
  case isTrue hmany =>
    rw [Lists, hcovered, hcount, Nat.cast_lt]
    omega
  case isFalse hfew =>
    refine ⟨?_, isChain_upward, fun k => ?_⟩
    · rw [hcovered, hcount, Nat.cast_le]
      omega
    · have hmem : k ∈ upward (lowest m i) (highest n j - lowest m i + 1).toNat ↔
          lowest m i ≤ k ∧ k ≤ highest n j := by
        rw [mem_upward_iff]
        omega
      rw [hcovered, hmem, Set.mem_Icc]
      exact ⟨Iff.rfl, toInt?_ofInt_of_between hm hn⟩

section Checked

-- An operation on 64-bit integers, without an outcome where it overflows.
def checked (n : ℤ) : Option ℤ :=
  if Calendar.fits n then some n else none

def checkedListing? (first last step : ℤ) : Option RangeItems := do
  let distance ← checked (last - first)
  let span ← checked (distance * step)
  if span < 0 then some (.items [])
  else if maxRangeItems ≤ span then some .tooMany
  else
    let numbers ← (List.range (span.toNat + 1)).mapM fun (k : ℕ) => do
      let offset ← checked (k * step)
      checked (first + offset)
    some (.items numbers)

-- The way from the bounds to the whole numbers between them, with a check of each operation.
def checkedWholeNumbers? (start finish : ℤ) (i j : Bool) : Option RangeItems :=
  if maxExactInteger < start.natAbs ∨ maxExactInteger < finish.natAbs then some .tooMany
  else do
    let step : ℤ := if start ≤ finish then 1 else -1
    let first ← (if i then some start else checked (start + step) : Option ℤ)
    let last ← (if j then some finish else checked (finish - step) : Option ℤ)
    checkedListing? first last step

theorem checked_of_natAbs_le (h : k.natAbs ≤ 2 ^ 60) : checked k = some k := by
  have hmin : Calendar.minPart ≤ -2 ^ 60 := by decide
  have hmax : 2 ^ 60 ≤ Calendar.maxPart := by decide
  have hfits : Calendar.fits k = true := by
    rw [Calendar.fits, Bool.and_eq_true, decide_eq_true_eq, decide_eq_true_eq]
    omega
  rw [checked, if_pos hfits]

theorem mapM_eq_some {α β : Type} {f : α → Option β} {g : α → β} {as : List α}
    (h : ∀ a ∈ as, f a = some (g a)) : as.mapM f = some (as.map g) := by
  induction as with
  | nil => rfl
  | cons a as ih =>
    rw [List.forall_mem_cons] at h
    simp [h.1, ih h.2]

theorem checkedListing?_eq {first last step : ℤ} (hfirst : first.natAbs ≤ 2 ^ 54)
    (hlast : last.natAbs ≤ 2 ^ 54) (hstep : step = 1 ∨ step = -1) :
    checkedListing? first last step = some (
      if (maxRangeItems : ℤ) < (last - first) * step + 1 then .tooMany
      else .items ((List.range ((last - first) * step + 1).toNat).map fun (k : ℕ) =>
        first + k * step)) := by
  have hspan : ((last - first) * step).natAbs ≤ 2 ^ 55 := by
    obtain rfl | rfl := hstep <;> omega
  simp only [checkedListing?, Option.bind_eq_bind]
  rw [checked_of_natAbs_le (by omega), Option.bind_some, checked_of_natAbs_le (by omega),
    Option.bind_some]
  generalize (last - first) * step = span at *
  by_cases hempty : span < 0
  case pos =>
    have hnone : (span + 1).toNat = 0 := by omega
    rw [if_pos hempty, if_neg (by omega), hnone]
    rfl
  case neg =>
    rw [if_neg hempty]
    by_cases hmany : (maxRangeItems : ℤ) ≤ span
    case pos => rw [if_pos hmany, if_pos (by omega)]
    case neg =>
      have hcount : (span + 1).toNat = span.toNat + 1 := by omega
      rw [if_neg hmany, if_neg (by omega), hcount, mapM_eq_some, Option.bind_some]
      intro k hk
      rw [List.mem_range] at hk
      simp only [maxRangeItems] at hmany
      have hoffset : (k * step : ℤ).natAbs ≤ 2 ^ 55 := by
        obtain rfl | rfl := hstep <;> omega
      rw [checked_of_natAbs_le (by omega), Option.bind_some, checked_of_natAbs_le (by omega)]

-- No operation overflows, whatever the bounds.
theorem checkedWholeNumbers?_eq (m n : ℤ) (i j : Bool) :
    checkedWholeNumbers? m n i j = some (wholeNumbers m n i j) := by
  rw [checkedWholeNumbers?, wholeNumbers]
  by_cases hlarge : maxExactInteger < m.natAbs ∨ maxExactInteger < n.natAbs
  case pos => rw [if_pos hlarge, if_pos hlarge]
  case neg =>
    rw [if_neg hlarge, if_neg hlarge]
    generalize hstep : (if m ≤ n then (1 : ℤ) else -1) = step
    have hstep : step = 1 ∨ step = -1 := by
      rw [← hstep]
      split
      · exact .inl rfl
      · exact .inr rfl
    simp only [maxExactInteger] at hlarge
    have hfirst : (if i then some m else checked (m + step)) =
        some (if i then m else m + step) := by
      cases i
      · exact checked_of_natAbs_le (by omega)
      · rfl
    have hlast : (if j then some n else checked (n - step)) =
        some (if j then n else n - step) := by
      cases j
      · exact checked_of_natAbs_le (by omega)
      · rfl
    simp only [hfirst, hlast, Option.bind_eq_bind, Option.bind_some]
    apply checkedListing?_eq _ _ hstep
    · split <;> omega
    · split <;> omega

end Checked

-- Downwards the mirror image, with bounds and their belonging swapped, is listed backwards.
theorem rangeItems_spec (start finish : Value) (i j : Bool) :
    match wholeBound? start, wholeBound? finish with
    | some m, some n =>
      checkedWholeNumbers? m n i j = some (rangeItems start finish i j) ∧
        if maxExactInteger < m.natAbs ∨ maxExactInteger < n.natAbs then
          rangeItems start finish i j = .tooMany
        else if m ≤ n then Lists start finish i j (rangeItems start finish i j)
        else
          Lists finish start j i (rangeItems finish start j i) ∧
            rangeItems start finish i j = (rangeItems finish start j i).reverse
    | _, _ => rangeItems start finish i j = .notWhole := by
  split
  case h_1 m n hstart hfinish =>
    obtain ⟨x, rfl, hx⟩ := exists_of_wholeBound? hstart
    obtain ⟨y, rfl, hy⟩ := exists_of_wholeBound? hfinish
    have hlisted : rangeItems (number x) (number y) i j = wholeNumbers m n i j := by
      simp only [rangeItems, hx, hy]
    have hmirrored : rangeItems (number y) (number x) j i = wholeNumbers n m j i := by
      simp only [rangeItems, hx, hy]
    refine ⟨by rw [hlisted, checkedWholeNumbers?_eq], ?_⟩
    split
    case isTrue hlarge => rw [hlisted, wholeNumbers, if_pos hlarge]
    case isFalse hsmall =>
      push Not at hsmall
      split
      case isTrue h => exact lists_of_le hx hy hsmall.1 hsmall.2 h
      case isFalse h =>
        have h := not_le.1 h
        refine ⟨lists_of_le hy hx hsmall.2 hsmall.1 h.le, ?_⟩
        rw [hlisted, hmirrored, wholeNumbers_of_lt hsmall.1 hsmall.2 h]
  case h_2 hnone =>
    simp only [rangeItems]
    split
    case h_1 x y =>
      split
      case h_1 m n hx hy => exact absurd hy (hnone m n hx)
      case h_2 => rfl
    case h_2 => rfl

end Rulebook.Value
