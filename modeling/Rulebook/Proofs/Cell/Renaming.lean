import Rulebook.Proofs.Cell.Alternatives
import Rulebook.Proofs.Eval.Renaming
import Rulebook.Syntax.Lexer

/-!
Cells with other names for the variables of a test. The variables of a test are its own, but a name
of the column is looked for in the whole test, so that a variable of that name makes a condition of
what else would be a value to compare.
-/

namespace Rulebook

open Rulebook.Expr (NoPathOf Renames)
open Syntax (inputName)
open Value (EachContext eachContext_context eachContext_list eachContext_of_isPlain)

variable {r : Registry} {old new name : String} {inTests negated : Bool} {e e' : Expr}
  {input v : Value} {names : List String} {c : Context} {scope : Scope}
  {test test' : CellTest} {before after : List CellTest}

theorem Context.Clear.insert (h : c.Clear old new inTests)
    (hname : NoPathOf old name ∧ NoPathOf new name)
    (hv : EachContext (Context.Admissible old new inTests) v) :
    (c.insert name v).Clear old new inTests :=
  ⟨forall_mem_keys_insert h.1 hname, forall_mem_insert hv h.2⟩

namespace Cell

theorem clear_inputFrame (hold : '.' ∉ old.toList) (hnew : '.' ∉ new.toList)
    (hinput : EachContext (Context.Admissible old new inTests) input)
    (hnames : ∀ name ∈ usableNames names, NoPathOf old name ∧ NoPathOf new name) :
    (inputFrame input names).Clear old new inTests := by
  have hfold {frame : Context} (hframe : frame.Clear old new inTests) {names : List String}
      (hnames : ∀ name ∈ names, NoPathOf old name ∧ NoPathOf new name) :
      (names.foldl (fun frame name => frame.insert name input) frame).Clear old new inTests := by
    induction names generalizing frame with
    | nil => exact hframe
    | cons name names ih =>
      rw [List.forall_mem_cons] at hnames
      exact ih (hframe.insert hnames.1 hinput) hnames.2
  exact hfold (Context.clear_singleton hold hnew (by decide) hinput) hnames

theorem isPredicate_renamed (hold : '.' ∉ old.toList) (hnew : '.' ∉ new.toList)
    (h : Renames old new inTests .unchanged e e')
    (hnames : ∀ name ∈ usableNames names, NoPathOf old name ∧ NoPathOf new name)
    (hne : ∀ name ∈ inputName :: usableNames names, name ≠ old ∧ name ≠ new) :
    isPredicate e' names = isPredicate e names := by
  have hpath : ∀ name ∈ inputName :: usableNames names, NoPathOf old name ∧ NoPathOf new name :=
    List.forall_mem_cons.2 ⟨⟨Expr.noPathOf_of_no_dot hold (by decide),
      Expr.noPathOf_of_no_dot hnew (by decide)⟩, hnames⟩
  rw [isPredicate, isPredicate, Bool.eq_iff_iff, List.any_eq_true, List.any_eq_true]
  refine exists_congr fun name => and_congr_right fun hmem => ?_
  have hapart : Expr.Apart old new name :=
    ⟨⟨(hne name hmem).1, (hpath name hmem).1⟩, (hne name hmem).2, (hpath name hmem).2⟩
  rw [h.mentions_eq hold hnew hapart]

theorem matches?_congr_test
    (h : testMatches r [inputFrame input names, c] input names test' =
      testMatches r [inputFrame input names, c] input names test) :
    matches? r (tests negated (before ++ test' :: after)) input names c =
      matches? r (tests negated (before ++ test :: after)) input names c := by
  simp only [matches?, anyMatches_eq_firstDecided, List.map_append, List.map_cons, h]

-- The cell stays the same, unless the test is read as a condition on the input with one of the
-- names only.
theorem matches?_renamed (negated : Bool) (before after : List CellTest)
    (hold : '.' ∉ old.toList) (hnew : '.' ∉ new.toList)
    (h : Renames old new inTests .unchanged e e')
    (hr : ∀ f ∈ r.functions, f.Preserves (Context.Admissible old new inTests))
    (hkeys : ∀ key ∈ itemName :: e.entryNames, Admits old new inTests key)
    (hinput : EachContext (Context.Admissible old new inTests) input)
    (hnames : ∀ name ∈ usableNames names, NoPathOf old name ∧ NoPathOf new name)
    (hc : c.Clear old new inTests) :
    eval r [inputFrame input names, c] e' = eval r [inputFrame input names, c] e ∧
      ((∀ name ∈ inputName :: usableNames names, name ≠ old ∧ name ≠ new) ∨
          isPredicate e' names = isPredicate e names →
        matches? r (tests negated (before ++ .expression e' :: after)) input names c =
          matches? r (tests negated (before ++ .expression e :: after)) input names c) := by
  rw [List.forall_mem_cons] at hkeys
  have hclear : Scope.Clear old new inTests [inputFrame input names, c] :=
    List.forall_mem_cons.2
      ⟨clear_inputFrame hold hnew hinput hnames, List.forall_mem_singleton.2 hc⟩
  have heval : eval r [inputFrame input names, c] e' = eval r [inputFrame input names, c] e :=
    eval_renamed hr hold hnew hkeys.1 hkeys.2 h (.refl hclear)
  refine ⟨heval, fun hread => matches?_congr_test ?_⟩
  have hpredicate : isPredicate e' names = isPredicate e names :=
    hread.elim (isPredicate_renamed hold hnew h hnames) id
  simp only [testMatches, heval, hpredicate]

-- `not(null, some limit in [{low: 1}, {low: 7}] satisfies ?[item > limit.low] = [])`, in a context
-- with a `limit` of its own.
theorem matches?_renamed_limit :
    let number (x : Float) : Expr := .literal (.number x)
    let source : Expr := .list [.context [("low", number 1)], .context [("low", number 7)]]
    let above (name : String) : Expr := .filter (.reference inputName)
      (.binary .greater (.reference itemName) (.reference (name ++ "." ++ "low")))
    let test (name : String) : Expr :=
      .quantified .some name source (.binary .equal (above name) (.list []))
    let cell (name : String) : Cell :=
      .tests true [.expression (.literal .null), .expression (test name)]
    let prices : Value := .list [.number 3, .number 5]
    let c : Context := [("limit", .null)]
    Renames "limit" "bound" true .unchanged (test "limit") (test "bound") ∧
      (∀ key ∈ itemName :: (test "limit").entryNames, Admits "limit" "bound" true key) ∧
      EachContext (Context.Admissible "limit" "bound" true) prices ∧
      (∀ name ∈ usableNames ["prices"], NoPathOf "limit" name ∧ NoPathOf "bound" name) ∧
      c.Clear "limit" "bound" true ∧
      matches? .empty (cell "bound") prices ["prices"] c = .ok false := by
  intro number source above test cell prices c
  have hold : '.' ∉ "limit".toList := by decide
  have hnew : '.' ∉ "bound".toList := by decide
  have hno {name : String} (hname : '.' ∉ name.toList) :
      NoPathOf "limit" name ∧ NoPathOf "bound" name :=
    ⟨Expr.noPathOf_of_no_dot hold hname, Expr.noPathOf_of_no_dot hnew hname⟩
  have hitem : Expr.Apart "limit" "bound" itemName :=
    ⟨⟨by decide, (hno (by decide)).1⟩, by decide, (hno (by decide)).2⟩
  have h : Renames "limit" "bound" true .unchanged (test "limit") (test "bound") :=
    .quantifiedVariable (.refl rfl) (Expr.renames_rename hold hnew hitem rfl)
  have hnames : ∀ key ∈ itemName :: (test "limit").entryNames,
      '.' ∉ key.toList ∧ key ≠ "limit" ∧ key ≠ "bound" := by decide
  have hkeys : ∀ key ∈ itemName :: (test "limit").entryNames, Admits "limit" "bound" true key :=
    fun key hkey =>
      have ⟨hdot, hne⟩ := hnames key hkey
      ⟨(hno hdot).1, (hno hdot).2, fun _ => hne⟩
  have hprices : EachContext (Context.Admissible "limit" "bound" true) prices :=
    eachContext_list.2 (List.forall_mem_cons.2
      ⟨eachContext_of_isPlain rfl, List.forall_mem_singleton.2 (eachContext_of_isPlain rfl)⟩)
  have hnames : ∀ name ∈ usableNames ["prices"], NoPathOf "limit" name ∧ NoPathOf "bound" name :=
    List.forall_mem_singleton.2 (hno (by decide))
  have hc : c.Clear "limit" "bound" true :=
    Context.clear_singleton hold hnew hold (eachContext_of_isPlain rfl)
  have hmatches := (matches?_renamed true [.expression (.literal .null)] [] hold hnew h
    (r := .empty) nofun hkeys hprices hnames hc).2 (.inl (by decide))
  exact ⟨h, hkeys, hprices, hnames, hc, hmatches.trans rfl⟩

-- The items have an entry of the new name.
theorem not_matches?_renamed :
    ¬∀ (r : Registry) (old new : String) (e e' : Expr) (negated : Bool) (input : Value)
        (names : List String) (c : Context), '.' ∉ old.toList → '.' ∉ new.toList →
      Renames old new true .unchanged e e' → new ∉ names →
      EachContext (fun entries => entries.Undotted ∧ new ∉ entries.keys) (.context c) →
      matches? r (tests negated [.expression e']) input names c =
        matches? r (tests negated [.expression e]) input names c := by
  intro h
  let test (name : String) : Expr := .quantified .some name (.list [.literal (.boolean true)])
    (.binary .equal (.filter (.reference inputName) (.reference name))
      (.list [.reference inputName]))
  let input : Value := .context [("q", .boolean false)]
  have hrenames : Renames "v" "q" true .unchanged (test "v") (test "q") :=
    .quantifiedVariable (.refl rfl) (.binary
      (.filterVariable rfl (.reference (by decide) (.inr (by decide))) .named (by decide))
      (.list (.cons (.reference (by decide) (.inr (by decide))) .nil)))
  have hc : EachContext (fun entries => entries.Undotted ∧ "q" ∉ entries.keys) (.context []) :=
    Value.eachContext_empty ⟨nofun, nofun⟩
  have heq := h .empty "v" "q" (test "v") (test "q") false input [] [] (by decide) (by decide)
    hrenames nofun hc
  have hold : matches? .empty (tests false [.expression (test "v")]) input [] [] = .ok true := rfl
  have hnew : matches? .empty (tests false [.expression (test "q")]) input [] [] = .ok false := rfl
  rw [hold, hnew] at heq
  cases heq

end Cell

end Rulebook
