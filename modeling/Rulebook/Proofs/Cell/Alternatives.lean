import Rulebook.Eval.Cell

/-!
The tests of a cell as alternatives. They are tried in order, and the first that does not simply
fail to match decides, be it by matching or by an error. So an error counts against the matching
tests behind it, and not against those before it.
-/

namespace Rulebook.Cell

-- The cell that has nothing but the test.
def ofTest (test : CellTest) : Cell := tests false [test]

-- The first answer that is not `false`, if there is one.
def firstDecided : List (Outcome Bool) → Outcome Bool
  | [] => .ok false
  | .ok false :: others => firstDecided others
  | decided :: _ => decided

variable {r : Registry} {scope : Scope} {input : Value} {names : List String} {c : Context}
  {test : CellTest} {alternatives : List CellTest}

theorem firstDecided_eq_true_iff {answers : List (Outcome Bool)} :
    firstDecided answers = .ok true ↔
      ∃ before after, answers = before ++ .ok true :: after ∧ ∀ a ∈ before, a = .ok false := by
  constructor
  · intro h
    fun_induction firstDecided answers with
    | case1 => cases h
    | case2 others ih =>
      obtain ⟨before, after, rfl, hbefore⟩ := ih h
      exact ⟨.ok false :: before, after, rfl, List.forall_mem_cons.2 ⟨rfl, hbefore⟩⟩
    | case3 decided others =>
      subst h
      exact ⟨[], others, rfl, nofun⟩
  · rintro ⟨before, after, rfl, hbefore⟩
    induction before with
    | nil => rfl
    | cons a before ih =>
      rw [List.forall_mem_cons] at hbefore
      rw [hbefore.1]
      exact ih hbefore.2

theorem anyMatches_eq_firstDecided :
    anyMatches r scope input names alternatives =
      firstDecided (alternatives.map (testMatches r scope input names)) := by
  induction alternatives with
  | nil => rfl
  | cons test alternatives ih =>
    rw [anyMatches, ih, List.map_cons]
    cases testMatches r scope input names test with
    | error e => rfl
    | ok found => cases found <;> rfl

theorem matches?_tests :
    matches? r (tests false alternatives) input names c =
      anyMatches r [inputFrame input names, c] input names alternatives := by
  rw [matches?]
  cases anyMatches r [inputFrame input names, c] input names alternatives with
  | error e => rfl
  | ok found => cases found <;> rfl

theorem matches?_ofTest :
    matches? r (ofTest test) input names c =
      testMatches r [inputFrame input names, c] input names test := by
  rw [ofTest, matches?_tests, anyMatches]
  cases testMatches r [inputFrame input names, c] input names test with
  | error e => rfl
  | ok found => cases found <;> rfl

-- An expression that does not speak of the input is a value that holds the input or is equal to it.
theorem matches?_value {e : Expr} {v : Value} (he : eval r [inputFrame input names, c] e = .ok v)
    (hvalue : isPredicate e names = false) :
    matches? r (ofTest (.expression e)) input names c = .ok (v.holds input) := by
  rw [matches?_ofTest, testMatches, he]
  simp only [bind, Except.bind, hvalue]
  rfl

-- A cell is told from what its tests are as cells of their own.
theorem matches?_eq_firstDecided :
    matches? r (tests false alternatives) input names c =
      firstDecided (alternatives.map fun test => matches? r (ofTest test) input names c) := by
  simp only [matches?_tests, anyMatches_eq_firstDecided, matches?_ofTest]

theorem matches?_iff_first :
    matches? r (tests false alternatives) input names c = .ok true ↔
      ∃ before test after, alternatives = before ++ test :: after ∧
        (∀ earlier ∈ before, matches? r (ofTest earlier) input names c = .ok false) ∧
        matches? r (ofTest test) input names c = .ok true := by
  rw [matches?_eq_firstDecided, firstDecided_eq_true_iff]
  constructor
  · rintro ⟨before, after, hsplit, hbefore⟩
    obtain ⟨before, rest, rfl, rfl, hrest⟩ := List.map_eq_append_iff.1 hsplit
    obtain ⟨test, after, rfl, htest, rfl⟩ := List.map_eq_cons_iff.1 hrest
    exact ⟨before, test, after, rfl, List.forall_mem_map.1 hbefore, htest⟩
  · rintro ⟨before, test, after, rfl, hbefore, htest⟩
    exact ⟨_, _, by rw [List.map_append, List.map_cons, htest], List.forall_mem_map.2 hbefore⟩

theorem exists_matches_of_matches?
    (h : matches? r (tests false alternatives) input names c = .ok true) :
    ∃ test ∈ alternatives, matches? r (ofTest test) input names c = .ok true := by
  obtain ⟨before, test, after, rfl, -, htest⟩ := matches?_iff_first.1 h
  exact ⟨test, List.mem_append_right before List.mem_cons_self, htest⟩

theorem matches?_of_succeed
    (hsucceed : ∀ test ∈ alternatives, ∃ found, matches? r (ofTest test) input names c = .ok found)
    (hmatch : ∃ test ∈ alternatives, matches? r (ofTest test) input names c = .ok true) :
    matches? r (tests false alternatives) input names c = .ok true := by
  rw [matches?_eq_firstDecided]
  induction alternatives with
  | nil =>
    obtain ⟨test, hmem, -⟩ := hmatch
    cases hmem
  | cons test alternatives ih =>
    obtain ⟨⟨found, hfound⟩, hsucceed⟩ := List.forall_mem_cons.1 hsucceed
    rw [List.map_cons, hfound]
    cases found with
    | true => rfl
    | false =>
      refine ih hsucceed ?_
      obtain ⟨test', hmem, htest'⟩ := hmatch
      refine ⟨test', (List.mem_cons.1 hmem).resolve_left ?_, htest'⟩
      rintro rfl
      cases hfound.symm.trans htest'

-- The test moved to the front decides, unless it says `false`.
theorem succeeds_of_reordered
    (h : ∀ others, others.Perm alternatives →
      matches? r (tests false others) input names c = .ok true)
    (hmem : test ∈ alternatives) : ∃ found, matches? r (ofTest test) input names c = .ok found := by
  obtain ⟨before, after, rfl⟩ := List.append_of_mem hmem
  have hfront := h (test :: (before ++ after)) List.perm_middle.symm
  rw [matches?_eq_firstDecided, List.map_cons] at hfront
  cases htest : matches? r (ofTest test) input names c with
  | ok found => exact ⟨found, rfl⟩
  | error e =>
    rw [htest] at hfront
    cases hfront

-- Which cells match, and which of them are read as alternatives whatever the order: those that
-- do not have a matching test and a failing one.
theorem matches?_iff_alternative :
    (matches? r (tests false alternatives) input names c = .ok true ↔
      ∃ before test after, alternatives = before ++ test :: after ∧
        (∀ earlier ∈ before, matches? r (ofTest earlier) input names c = .ok false) ∧
        matches? r (ofTest test) input names c = .ok true) ∧
    ((∀ others, others.Perm alternatives →
        (matches? r (tests false others) input names c = .ok true ↔
          ∃ test ∈ alternatives, matches? r (ofTest test) input names c = .ok true)) ↔
      ((∃ test ∈ alternatives, matches? r (ofTest test) input names c = .ok true) →
        ∀ test ∈ alternatives, ∃ found, matches? r (ofTest test) input names c = .ok found)) := by
  refine ⟨matches?_iff_first, fun h hmatch test hmem => ?_, fun h others hperm => ⟨?_, ?_⟩⟩
  · exact succeeds_of_reordered (fun others hperm => (h others hperm).2 hmatch) hmem
  · intro hothers
    obtain ⟨test, hmem, htest⟩ := exists_matches_of_matches? hothers
    exact ⟨test, hperm.mem_iff.1 hmem, htest⟩
  · intro hmatch
    refine matches?_of_succeed (fun test hmem => h hmatch test (hperm.mem_iff.1 hmem)) ?_
    obtain ⟨test, hmem, htest⟩ := hmatch
    exact ⟨test, hperm.mem_iff.2 hmem, htest⟩

end Rulebook.Cell
