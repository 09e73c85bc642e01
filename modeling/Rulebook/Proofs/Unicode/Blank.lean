import Mathlib.Algebra.Group.Nat.Defs
import Mathlib.Data.List.Chain
import Rulebook.Unicode.Property

/-!
No blank is alphabetic. The category of a code point is that of the run of code points around it, so
one walk along the runs is enough to see that no run of letters has a blank.
-/

namespace Rulebook.Unicode

section Runs

variable {entries : Array Nat} {key : Nat}

-- The search ends in the last entry that is not above the key.
theorem Category.lastAtMost_spec (hsorted : entries.toList.Pairwise (· < ·)) (width low : Nat)
    (hlow : ∃ entry ∈ entries[low]?, entry ≤ key) :
    (∃ entry ∈ entries[lastAtMost entries key width low]?, entry ≤ key) ∧
      ∀ i, lastAtMost entries key width low < i → i < low + 2 ^ width →
        ∀ entry ∈ entries[i]?, key < entry := by
  induction width generalizing low with
  | zero => exact ⟨hlow, fun i hi hlt => absurd hlt (by rw [lastAtMost] at hi; omega)⟩
  | succ width ih =>
    have hmiddle : low + 2 ^ (width + 1) = low + Nat.pow 2 width + 2 ^ width := by
      rw [Nat.pow_succ, Nat.pow_eq]; omega
    rw [lastAtMost, hmiddle]
    split
    case h_1 entry hentry =>
      split
      case isTrue hle => exact ih _ ⟨entry, hentry, hle⟩
      case isFalse hlt =>
        obtain ⟨hfound, habove⟩ := ih low hlow
        refine ⟨hfound, fun i hi _ later hlater => ?_⟩
        obtain hi' | hi' := Nat.lt_or_ge i (low + 2 ^ width)
        · exact habove i hi hi' later hlater
        · have hle : entry ≤ later := by
            rw [Option.mem_def] at hlater
            obtain ⟨_, rfl⟩ := Array.getElem?_eq_some_iff.1 hentry
            obtain ⟨_, rfl⟩ := Array.getElem?_eq_some_iff.1 hlater
            obtain rfl | hlt := Nat.eq_or_lt_of_le (Nat.pow_eq ▸ hi')
            · exact Nat.le_refl _
            · exact Nat.le_of_lt (List.pairwise_iff_getElem.1 hsorted _ _ _ _ hlt)
          omega
    case h_2 hnone =>
      obtain ⟨hfound, habove⟩ := ih low hlow
      refine ⟨hfound, fun i hi _ later hlater => ?_⟩
      obtain hi' | hi' := Nat.lt_or_ge i (low + 2 ^ width)
      · exact habove i hi hi' later hlater
      · rw [Array.getElem?_eq_none_iff, Nat.pow_eq] at hnone
        rw [Option.mem_def, Array.getElem?_eq_none (by omega)] at hlater
        cases hlater

end Runs

-- The run from `entry` up to `next` has no code point of the range.
def separates (range : Nat × Nat) (entry next : Nat) : Bool :=
  32 * range.2 + 31 < entry || next ≤ 32 * range.1 + 31

def isAlphabeticRun (entry : Nat) : Bool :=
  Property.alphabetic.hasCategory (.ofCode (entry % 32) 0)

-- The entries ascend, and the runs of letters are clear of the ranges.
def areClear (ranges : List (Nat × Nat)) : List Nat → Bool
  | entry :: next :: entries =>
    decide (entry < next) && (!isAlphabeticRun entry || ranges.all (separates · entry next)) &&
      areClear ranges (next :: entries)
  | _ => true

theorem isChain_of_areClear {ranges : List (Nat × Nat)} {entries : List Nat}
    (h : areClear ranges entries = true) : entries.IsChain fun entry next =>
      entry < next ∧ (isAlphabeticRun entry = true →
        ∀ range ∈ ranges, separates range entry next = true) := by
  induction entries using areClear.induct with
  | case1 entry next entries ih =>
    rw [areClear, Bool.and_eq_true, Bool.and_eq_true, Bool.or_eq_true, Bool.not_eq_true',
      decide_eq_true_eq, List.all_eq_true] at h
    refine List.isChain_cons_cons.2 ⟨⟨h.1.1, fun hrun => ?_⟩, ih h.2⟩
    simpa [hrun] using h.1.2
  | case2 entries hne =>
    match entries with
    | [] => exact .nil
    | [entry] => exact .singleton entry
    | entry :: next :: entries => exact absurd rfl (hne entry next entries)

theorem areClear_categoryRuns : areClear blankRanges categoryRuns.toList = true := by
  decide +kernel

theorem categoryRuns_pairwise : categoryRuns.toList.Pairwise (· < ·) :=
  List.isChain_iff_pairwise.1 ((isChain_of_areClear areClear_categoryRuns).imp fun _ _ h => h.1)

theorem isAlphabeticRun_of_hasCategory {entry offset : Nat}
    (h : Property.alphabetic.hasCategory (.ofCode (entry % 32) offset) = true) :
    isAlphabeticRun entry = true := by
  rw [isAlphabeticRun]
  rw [Category.ofCode] at h ⊢
  split
  case isTrue => rfl
  case isFalse hcode => rwa [if_neg hcode] at h

-- Within the bounds of the search, and without letters in the last run, which has no end.
theorem categoryRuns_bounds : categoryRuns[0]? = some 25 ∧ categoryRuns.toList.length ≤ 2 ^ 12 ∧
    ∀ entry ∈ categoryRuns.toList.getLast?, isAlphabeticRun entry = false := by
  decide +kernel

-- A code point has the category of the run that it is in.
theorem Category.exists_run (n : Nat) : ∃ i, ∃ h : i < categoryRuns.toList.length,
    (∀ h' : i + 1 < categoryRuns.toList.length, 32 * n + 31 < categoryRuns.toList[i + 1]) ∧
      categoryRuns.toList[i] ≤ 32 * n + 31 ∧
      ofCodePoint n = ofCode (categoryRuns.toList[i] % 32) (n - categoryRuns.toList[i] / 32) := by
  obtain ⟨hfirst, hlength, -⟩ := categoryRuns_bounds
  have hstart : ∃ entry ∈ categoryRuns[0]?, entry ≤ 32 * n + 31 := ⟨25, hfirst, by omega⟩
  obtain ⟨⟨entry, hentry, hle⟩, habove⟩ := lastAtMost_spec categoryRuns_pairwise 12 0 hstart
  rw [Option.mem_def] at hentry
  have hcategory : ofCodePoint n = ofCode (entry % 32) (n - entry / 32) := by
    rw [ofCodePoint, hentry]
    rfl
  rw [← Array.getElem?_toList] at hentry
  obtain ⟨hi, rfl⟩ := List.getElem?_eq_some_iff.1 hentry
  refine ⟨_, hi, fun hnext => ?_, hle, hcategory⟩
  exact habove _ (Nat.lt_succ_self _) (by omega) _
    (Array.getElem?_toList ▸ List.getElem?_eq_getElem hnext)

theorem hasCategory_of_inRanges {n : Nat} (h : inRanges blankRanges n = true) :
    Property.alphabetic.hasCategory (.ofCodePoint n) = false := by
  obtain ⟨range, hrange, hlow, hhigh⟩ := inRanges_iff.1 h
  obtain ⟨i, hi, habove, hle, hcategory⟩ := Category.exists_run n
  rw [Bool.eq_false_iff, hcategory]
  intro halphabetic
  have hrun := isAlphabeticRun_of_hasCategory halphabetic
  obtain hnext | hend := Nat.lt_or_ge (i + 1) categoryRuns.toList.length
  · have hkey := habove hnext
    have hclear := ((isChain_of_areClear areClear_categoryRuns).getElem i hnext).2 hrun range hrange
    rw [separates, Bool.or_eq_true, decide_eq_true_eq, decide_eq_true_eq] at hclear
    omega
  · have hlast : categoryRuns.toList.getLast? = some categoryRuns.toList[i] := by
      rw [List.getLast?_eq_getElem?, Nat.sub_eq_of_eq_add (show _ = i + 1 by omega)]
      exact List.getElem?_eq_getElem hi
    cases (categoryRuns_bounds.2.2 _ hlast).symm.trans hrun

theorem not_isAlphabetic_of_isBlank {c : Char} (h : isBlank c = true) : isAlphabetic c = false := by
  rw [isBlank] at h
  obtain ⟨range, hrange, hlow, hhigh⟩ := inRanges_iff.1 h
  rw [isAlphabetic]
  split
  case isTrue hascii =>
    have hletters : ∀ n < 128, inRanges blankRanges n = true → (Char.ofNat n).isAlpha = false := by
      decide
    have hc := hletters c.toNat hascii h
    rwa [Char.ofNat_toNat] at hc
  case isFalse =>
    rw [Property.holds, Bool.or_eq_false_iff]
    refine ⟨hasCategory_of_inRanges h, Bool.eq_false_iff.2 fun hother => ?_⟩
    obtain ⟨other, hother, hlow', hhigh'⟩ := inRanges_iff.1 hother
    have hapart : ∀ range ∈ blankRanges, ∀ other ∈ otherAlphabeticRanges,
        range.2 < other.1 ∨ other.2 < range.1 := by decide +kernel
    have := hapart range hrange other hother
    omega

end Rulebook.Unicode
