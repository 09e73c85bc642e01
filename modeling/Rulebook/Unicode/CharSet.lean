import Rulebook.Unicode.Edition

/-!
Sets of characters. A set is given by its borders: the code points, in ascending order, from which
on the answer to "is it a member?" is another one. Main statement: the answer for two sets combined
is the combination of their answers.
-/

namespace Rulebook

structure CharSet where
  borders : List Nat
  deriving DecidableEq, Repr

namespace CharSet

-- One more than the last code point.
def codePointCount : Nat := 0x110000

def containsFrom (inside : Bool) (codePoint : Nat) : List Nat → Bool
  | [] => inside
  | border :: borders =>
    if codePoint < border then inside else containsFrom (!inside) codePoint borders

def contains (s : CharSet) (c : Char) : Bool := containsFrom false c.toNat s.borders

def none : CharSet := ⟨[]⟩

def all : CharSet := ⟨[0, codePointCount]⟩

def single (c : Char) : CharSet := ⟨[c.toNat, c.toNat + 1]⟩

-- The first is not above the second.
def between (low high : Char) : CharSet := ⟨[low.toNat, high.toNat + 1]⟩

def addBorder (before after : Bool) (border : Nat) (borders : List Nat) : List Nat :=
  if before == after then borders else border :: borders

-- Walks along the borders of two sets, `a` and `b` being the answers so far.
def combineFrom (op : Bool → Bool → Bool) (a b : Bool) : List Nat → List Nat → List Nat
  | [], [] => []
  | x :: xs, [] => addBorder (op a b) (op (!a) b) x (combineFrom op (!a) b xs [])
  | [], y :: ys => addBorder (op a b) (op a (!b)) y (combineFrom op a (!b) [] ys)
  | x :: xs, y :: ys =>
    if x < y then addBorder (op a b) (op (!a) b) x (combineFrom op (!a) b xs (y :: ys))
    else if y < x then addBorder (op a b) (op a (!b)) y (combineFrom op a (!b) (x :: xs) ys)
    else addBorder (op a b) (op (!a) (!b)) x (combineFrom op (!a) (!b) xs ys)
termination_by xs ys => xs.length + ys.length

theorem containsFrom_cons (inside : Bool) (n border : Nat) (borders : List Nat) :
    containsFrom inside n (border :: borders) =
      if n < border then inside else containsFrom (!inside) n borders := rfl

theorem containsFrom_of_lt (inside : Bool) {n : Nat} {borders : List Nat}
    (h : ∀ border ∈ borders, n < border) : containsFrom inside n borders = inside := by
  cases borders with
  | nil => rfl
  | cons border borders => simp [containsFrom, h border]

-- A border is left out only where nothing changes.
theorem containsFrom_addBorder {before after : Bool} {n border : Nat} {borders : List Nat}
    (h : n < border → containsFrom after n borders = after) :
    containsFrom before n (addBorder before after border borders) =
      if n < border then before else containsFrom after n borders := by
  unfold addBorder
  split
  · next e =>
    obtain rfl := beq_iff_eq.1 e
    split
    · next hn => exact h hn
    · rfl
  · next e =>
    have : after = !before := by cases before <;> cases after <;> simp_all
    simp [containsFrom, this]

theorem containsFrom_combineFrom (op : Bool → Bool → Bool) (n : Nat) {a b : Bool} {xs ys : List Nat}
    (hx : xs.Pairwise (· < ·)) (hy : ys.Pairwise (· < ·)) :
    containsFrom (op a b) n (combineFrom op a b xs ys) =
      op (containsFrom a n xs) (containsFrom b n ys) := by
  fun_induction combineFrom op a b xs ys with
  | case1 => rfl
  | case2 a b x xs ih =>
    obtain ⟨hlt, hx⟩ := List.pairwise_cons.1 hx
    have ih := ih hx hy
    rw [containsFrom_addBorder, containsFrom_cons, ih]
    · split <;> rfl
    · intro hn
      rw [ih, containsFrom_of_lt _ fun y h => Nat.lt_trans hn (hlt y h)]
      rfl
  | case3 a b y ys ih =>
    obtain ⟨hlt, hy⟩ := List.pairwise_cons.1 hy
    have ih := ih hx hy
    rw [containsFrom_addBorder, containsFrom_cons, ih]
    · split <;> rfl
    · intro hn
      rw [ih, containsFrom_of_lt (!b) fun z h => Nat.lt_trans hn (hlt z h)]
      rfl
  | case4 a b x xs y ys h ih =>
    obtain ⟨hlt, hx⟩ := List.pairwise_cons.1 hx
    have ih := ih hx hy
    rw [containsFrom_addBorder, containsFrom_cons, ih]
    · split
      · next hn => rw [containsFrom_cons, if_pos (Nat.lt_trans hn h)]
      · rfl
    · intro hn
      rw [ih, containsFrom_of_lt _ fun z h => Nat.lt_trans hn (hlt z h), containsFrom_cons,
        if_pos (Nat.lt_trans hn h)]
  | case5 a b x xs y ys _ h ih =>
    obtain ⟨hlt, hy⟩ := List.pairwise_cons.1 hy
    have ih := ih hx hy
    rw [containsFrom_addBorder, containsFrom_cons b n y, ih]
    · split
      · next hn => rw [containsFrom_cons, if_pos (Nat.lt_trans hn h)]
      · rfl
    · intro hn
      rw [ih, containsFrom_of_lt (!b) fun z h => Nat.lt_trans hn (hlt z h), containsFrom_cons,
        if_pos (Nat.lt_trans hn h)]
  | case6 a b x xs y ys h₁ h₂ ih =>
    obtain rfl : x = y := by omega
    obtain ⟨hltx, hx⟩ := List.pairwise_cons.1 hx
    obtain ⟨hlty, hy⟩ := List.pairwise_cons.1 hy
    have ih := ih hx hy
    rw [containsFrom_addBorder, containsFrom_cons, containsFrom_cons, ih]
    · split <;> rfl
    · intro hn
      rw [ih, containsFrom_of_lt _ fun z h => Nat.lt_trans hn (hltx z h),
        containsFrom_of_lt _ fun z h => Nat.lt_trans hn (hlty z h)]

-- The characters for which `op` of the two answers is true; it is false where both are.
def combine (op : Bool → Bool → Bool) (s t : CharSet) : CharSet :=
  ⟨combineFrom op false false s.borders t.borders⟩

def Ascending (s : CharSet) : Prop := s.borders.Pairwise (· < ·)

theorem contains_combine (op : Bool → Bool → Bool) (h : op false false = false) {s t : CharSet}
    (hs : s.Ascending) (ht : t.Ascending) (c : Char) :
    (combine op s t).contains c = op (s.contains c) (t.contains c) := by
  have := @containsFrom_combineFrom op c.toNat false false _ _ hs ht
  rwa [h] at this

def union : CharSet → CharSet → CharSet := combine (· || ·)

def intersection : CharSet → CharSet → CharSet := combine (· && ·)

def difference : CharSet → CharSet → CharSet := combine fun a b => a && !b

def symmetricDifference : CharSet → CharSet → CharSet := combine (· != ·)

def negate (s : CharSet) : CharSet := all.difference s

theorem contains_all (c : Char) : all.contains c = true := by
  have h : c.toNat < codePointCount := by
    have := c.valid
    simp only [UInt32.isValidChar, Nat.isValidChar] at this
    simp only [codePointCount, Char.toNat]
    omega
  simp [contains, all, containsFrom_cons, containsFrom, h]

theorem contains_negate {s : CharSet} (h : s.Ascending) (c : Char) :
    s.negate.contains c = !s.contains c := by
  rw [negate, difference, contains_combine _ rfl (by simp [Ascending, all, codePointCount]) h,
    contains_all, Bool.true_and]

def rangesOf : List Nat → List (Nat × Nat)
  | low :: behind :: borders => (low, behind - 1) :: rangesOf borders
  | _ => []

-- The runs of members, first and last code point of each.
def ranges (s : CharSet) : List (Nat × Nat) := rangesOf s.borders

def isAscii (s : CharSet) : Bool := s.ranges.all (·.2 < 128)

def singleton? (s : CharSet) : Option Char :=
  match s.ranges with
  | [(low, high)] => if low = high then some (Char.ofNat low) else Option.none
  | _ => Option.none

def bordersOfRanges : List (Nat × Nat) → List Nat
  | [] => []
  | (low, high) :: ranges =>
    match bordersOfRanges ranges with
    | [] => [low, high + 1]
    | border :: borders =>
      if border = high + 1 then low :: borders else low :: (high + 1) :: border :: borders

-- Of ranges in ascending order, which may touch.
def ofRanges (ranges : List (Nat × Nat)) : CharSet := ⟨bordersOfRanges ranges⟩

def ofCharRanges (ranges : List (Char × Char)) : CharSet :=
  ofRanges (ranges.map fun (low, high) => (low.toNat, high.toNat))

def bordersOfCodePoints : List Nat → List Nat
  | [] => []
  | n :: ns =>
    match bordersOfCodePoints ns with
    | [] => [n, n + 1]
    | border :: borders =>
      if border = n then border :: borders
      else if border = n + 1 then n :: borders
      else n :: (n + 1) :: border :: borders

def ofCodePoints (ns : List Nat) : CharSet := ⟨bordersOfCodePoints ns.mergeSort⟩

-- Of answers that each hold up to the next one.
def bordersOfAnswers (inside : Bool) : List (Nat × Bool) → List Nat
  | [] => if inside then [codePointCount] else []
  | (first, answer) :: answers =>
    addBorder inside answer first (bordersOfAnswers answer answers)

def ofAnswers (answers : List (Nat × Bool)) : CharSet := ⟨bordersOfAnswers false answers⟩

def added : CharSet := ofRanges Unicode.addedRanges

-- The set where the members of another one count as this answer says.
def settle (s changed : CharSet) (answer : Bool) : CharSet :=
  if answer then s.union changed else s.difference changed

-- By the categories of the former edition.
open Unicode in
def ofCategories (p : Category → Bool) : CharSet :=
  let current := ofAnswers (categoryChanges.map fun (first, category) => (first, p category))
  (current.settle added (p .unassigned)).settle (ofCodePoints [smallGlottalStop])
    (p .lowercaseLetter)

def ofProperty (p : Unicode.Property) : CharSet :=
  (ofCategories p.hasCategory).union ((ofRanges p.others).difference added)

end CharSet

end Rulebook
