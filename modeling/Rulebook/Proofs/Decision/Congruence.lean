import Rulebook.Proofs.Builtin.Impartial
import Rulebook.Proofs.Decision.Reference
import Rulebook.Proofs.Eval.Congruence

/-!
A table decides alike in contexts that are alike: the same rules match, and their outputs fail or
are alike.
-/

namespace Rulebook

open Syntax (parseExpression parseCell)
open Number (Zeros)
open Value (Alike)

variable {zeros : Zeros} {mayCall : String → Bool} {text : String} {t : Table}

def CellTest.isImpartial (zeros : Zeros) (mayCall : String → Bool) : CellTest → Bool
  | .comparison op e => op.isImpartial zeros && e.isImpartial zeros mayCall
  | .expression e => e.isImpartial zeros mayCall

def Cell.isImpartial (zeros : Zeros) (mayCall : String → Bool) : Cell → Bool
  | .any => true
  | .tests _ alternatives => alternatives.all (CellTest.isImpartial zeros mayCall)

-- What the text says is impartial, where it says anything.
def ReadsImpartial (zeros : Zeros) (mayCall : String → Bool) (text : String) : Prop :=
  ∀ e, parseExpression text = .ok e → e.isImpartial zeros mayCall = true

def ReadsImpartialCell (zeros : Zeros) (mayCall : String → Bool) (text : String) : Prop :=
  ∀ cell, parseCell text = .ok cell → cell.isImpartial zeros mayCall = true

instance : Decidable (ReadsImpartial zeros mayCall text) :=
  match h : parseExpression text with
  | .ok e => decidable_of_iff (e.isImpartial zeros mayCall = true) (by simp [ReadsImpartial, h])
  | .error _ => isTrue (by simp [ReadsImpartial, h])

instance : Decidable (ReadsImpartialCell zeros mayCall text) :=
  match h : parseCell text with
  | .ok cell =>
    decidable_of_iff (cell.isImpartial zeros mayCall = true) (by simp [ReadsImpartialCell, h])
  | .error _ => isTrue (by simp [ReadsImpartialCell, h])

structure Table.Impartial (zeros : Zeros) (mayCall : String → Bool) (t : Table) : Prop where
  inputs : ∀ column ∈ t.inputs, ReadsImpartial zeros mayCall column.source
  cells : ∀ rule ∈ t.rules, ∀ entry ∈ rule.inputs,
    ReadsImpartialCell zeros mayCall (Text.trim entry)
  expressions : ∀ column ∈ t.outputs, ReadsImpartial zeros mayCall (Text.trim column.expression)
  outputs : ∀ rule ∈ t.rules, ∀ entry ∈ rule.outputs, ReadsImpartial zeros mayCall (Text.trim entry)

instance : Decidable (t.Impartial zeros mayCall) :=
  decidable_of_iff (_ ∧ _ ∧ _ ∧ _) ⟨fun ⟨hi, hc, he, ho⟩ => ⟨hi, hc, he, ho⟩,
    fun ⟨hi, hc, he, ho⟩ => ⟨hi, hc, he, ho⟩⟩

section

variable {r : Registry} {c c' : Context} {v v' : Value}

theorem Cell.inputFrame_alike (hv : Alike zeros v v') (names : List String) :
    (inputFrame v names).BindAlike zeros (inputFrame v' names) := by
  have hfold {frame frame' : Context} (h : frame.BindAlike zeros frame') (names : List String) :
      Context.BindAlike zeros (names.foldl (fun frame name => frame.insert name v) frame)
        (names.foldl (fun frame name => frame.insert name v') frame') := by
    induction names generalizing frame frame' with
    | nil => exact h
    | cons name names ih => exact ih (h.insert hv)
  exact hfold (bindAlike_singleton hv) (usableNames names)

theorem isFreeText_eq (e : Expr) (hc : c.BindAlike zeros c') :
    isFreeText e c = isFreeText e c' := by
  have hunbound : isUnbound c = isUnbound c' := by
    funext path
    have hcontains (name : String) : c.contains name = c'.contains name :=
      isSome_eq_of_rel (hc name)
    simp only [isUnbound, hcontains]
  simp only [isFreeText, hunbound]

variable (hr : ∀ name, mayCall name = true → r.Impartial zeros name) (hc : c.BindAlike zeros c')
include hr hc

theorem evaluate_alike {e : Expr} (he : e.isImpartial zeros mayCall = true) :
    Both (Alike zeros) (evaluate r e c) (evaluate r e c') :=
  eval_alike hr he (Scope.bindAlike_singleton hc)

theorem evaluateText_alike (ht : ReadsImpartial zeros mayCall text) :
    Both (Alike zeros) (evaluateText r text c) (evaluateText r text c') := by
  simp only [evaluateText]
  cases h : parseExpression text with
  | error e => exact .failed
  | ok e => exact (evaluate_alike hr hc (ht e h)).mapError

namespace Cell

variable {names : List String}

omit hc in
theorem testMatches_alike {s s' : Scope} {test : CellTest}
    (ht : test.isImpartial zeros mayCall = true) (hs : s.BindAlike zeros s')
    (hv : Alike zeros v v') :
    Both Eq (testMatches r s v names test) (testMatches r s' v' names test) := by
  cases test with
  | comparison op e =>
    rw [CellTest.isImpartial, Bool.and_eq_true, BinaryOp.isImpartial_iff] at ht
    refine (eval_alike hr ht.2 hs).bind fun _ _ hw => (hv.binary ht.1 hw).bind fun _ _ hx => ?_
    rw [hx.isTrue_eq]
    exact .given rfl
  | expression e =>
    refine (eval_alike hr ht hs).bind fun _ _ hw => ?_
    rw [hw.isTrue_eq, hw.holds_eq hv]
    exact .given rfl

omit hc in
theorem anyMatches_alike {s s' : Scope} {tests : List CellTest}
    (ht : ∀ test ∈ tests, test.isImpartial zeros mayCall = true) (hs : s.BindAlike zeros s')
    (hv : Alike zeros v v') :
    Both Eq (anyMatches r s v names tests) (anyMatches r s' v' names tests) := by
  induction tests with
  | nil => exact .given rfl
  | cons test tests ih =>
    rw [List.forall_mem_cons] at ht
    refine (testMatches_alike hr ht.1 hs hv).bind fun | found, _, rfl => ?_
    exact .ite (.given rfl) (ih ht.2)

theorem matches?_alike {cell : Cell} (hcell : cell.isImpartial zeros mayCall = true)
    (hv : Alike zeros v v') :
    Both Eq (cell.matches? r v names c) (cell.matches? r v' names c') := by
  cases cell with
  | any => exact .given rfl
  | tests negated alternatives =>
    rw [isImpartial, List.all_eq_true] at hcell
    have hs := (Scope.bindAlike_singleton hc).push (inputFrame_alike hv names)
    exact (anyMatches_alike hr hcell hs hv).bind fun | found, _, rfl => .given rfl

end Cell

namespace Column

variable {column : Column} {entry : String}

theorem test_alike (hsource : ReadsImpartial zeros mayCall column.source)
    (hentry : ReadsImpartialCell zeros mayCall (Text.trim entry)) :
    Both Eq (column.test r c entry) (column.test r c' entry) := by
  refine .ite (.given rfl) ((evaluateText_alike hr hc hsource).bind fun v v' hv => ?_)
  simp only [testParsed]
  cases h : parseCell (Text.trim entry) with
  | error e => exact .failed
  | ok cell => exact (Cell.matches?_alike hr hc (hentry cell h) hv).mapError

theorem accepts_eq (hsource : ReadsImpartial zeros mayCall column.source)
    (hentry : ReadsImpartialCell zeros mayCall (Text.trim entry)) :
    column.accepts r c entry = column.accepts r c' entry := by
  have h := test_alike hr hc hsource hentry
  simp only [accepts]
  generalize column.test r c entry = x at h ⊢
  generalize column.test r c' entry = y at h ⊢
  cases h with
  | failed => rfl
  | given h => rw [h]

theorem outputValue_alike (hexpression : ReadsImpartial zeros mayCall (Text.trim column.expression))
    (hentry : ReadsImpartial zeros mayCall (Text.trim entry)) :
    Both (Alike zeros) (column.outputValue r c entry) (column.outputValue r c' entry) := by
  have htext : ReadsImpartial zeros mayCall
      (if Text.isAllBlank entry then Text.trim column.expression else Text.trim entry) := by
    split
    · exact hexpression
    · exact hentry
  simp only [outputValue]
  generalize (if Text.isAllBlank entry then Text.trim column.expression else Text.trim entry) = text
    at htext ⊢
  refine .ite (.given .null) ?_
  cases h : parseExpression text with
  | error e => exact .given (.string _)
  | ok e =>
    refine (evaluate_alike hr hc (htext e h)).map fun v v' hv => ?_
    rw [hv.isNull_eq, isFreeText_eq e hc]
    split
    · exact .string _
    · exact hv

end Column

namespace Table

variable (ht : t.Impartial zeros mayCall) {rule : Rule} (hrule : rule ∈ t.rules)
include ht hrule

theorem applies_eq : t.applies r c rule = t.applies r c' rule := by
  simp only [applies]
  congr 1
  funext i
  cases hcolumn : t.inputs[i]? with
  | none => rfl
  | some column =>
    cases hentry : rule.inputs[i]? with
    | none => rfl
    | some entry =>
      exact column.accepts_eq hr hc (ht.inputs column (List.mem_of_getElem? hcolumn))
        (ht.cells rule hrule entry (List.mem_of_getElem? hentry))

omit hr hc in
theorem readsImpartial_output (i : Nat) :
    ReadsImpartial zeros mayCall (Text.trim (rule.outputs.getD i "")) := by
  rw [List.getD_eq_getElem?_getD]
  cases hentry : rule.outputs[i]? with
  | some entry => exact ht.outputs rule hrule entry (List.mem_of_getElem? hentry)
  | none =>
    -- There is no such entry, and a blank one says nothing.
    intro e he
    have hblank : (parseExpression (Text.trim "")).toOption.isNone = true := by decide +kernel
    rw [Option.getD_none] at he
    simp [he, Except.toOption] at hblank

theorem outputOf_alike : Both (Alike zeros) (t.outputOf r c rule) (t.outputOf r c' rule) := by
  have hcell {column : Column} (hcolumn : column ∈ t.outputs) (i : Nat) :
      Both (Alike zeros) (rule.output r c column (rule.outputs.getD i ""))
        (rule.output r c' column (rule.outputs.getD i "")) :=
    (column.outputValue_alike hr hc (ht.expressions column hcolumn)
      (readsImpartial_output ht hrule i)).mapError
  simp only [outputOf]
  split
  case h_1 column heq => exact hcell (heq ▸ List.mem_singleton_self column) 0
  case h_2 =>
    have hcells : List.Forall₂ (fun a b => a = b ∧ a.1 ∈ t.outputs ∧
          ∃ i, a.2 = rule.outputs.getD i "")
        (t.outputs.mapIdx fun i column => (column, rule.outputs.getD i ""))
        (t.outputs.mapIdx fun i column => (column, rule.outputs.getD i "")) := by
      refine List.forall₂_same.2 fun cell hcell => ?_
      obtain ⟨i, hi, rfl⟩ := List.mem_mapIdx.1 hcell
      exact ⟨rfl, List.getElem_mem hi, i, rfl⟩
    refine Both.map (Both.mapM hcells ?_) fun values values' h => Value.alike_ofList h
    rintro ⟨column, _⟩ _ ⟨rfl, hcolumn, i, rfl⟩
    exact (hcell hcolumn i).map fun _ _ hv => ⟨rfl, hv⟩

end Table

end

def Match.Alike (zeros : Zeros) (m n : Match) : Prop :=
  m.rule = n.rule ∧ Value.Alike zeros m.output n.output

-- The same rules match, and their outputs are alike.
structure Decision.Alike (zeros : Zeros) (d d' : Decision) : Prop where
  rules : d.rules = d'.rules
  output : Option.Rel (Value.Alike zeros) d.output d'.output
  collected : Option.Rel (List.Forall₂ (Match.Alike zeros)) d.collected d'.collected

namespace Table

variable {r : Registry} {c c' : Context}
  (hr : ∀ name, mayCall name = true → r.Impartial zeros name) (hc : c.BindAlike zeros c')
  (ht : t.Impartial zeros mayCall)

include hr hc ht in
theorem applicable_eq : t.applicable r c = t.applicable r c' :=
  List.filter_congr fun _ hrule => applies_eq hr hc ht hrule

include hr hc ht in
theorem matchOf_alike {rule : Rule} (hrule : rule ∈ t.rules) :
    Both (Match.Alike zeros) (t.matchOf r c rule) (t.matchOf r c' rule) :=
  (outputOf_alike hr hc ht hrule).map fun _ _ hv => ⟨rfl, hv⟩

theorem pairwise_equal_iff {found found' : List Match}
    (h : List.Forall₂ (Match.Alike zeros) found found') :
    (found.Pairwise fun m n => m.output == n.output) ↔
      found'.Pairwise fun m n => m.output == n.output := by
  have hequal {m m' n n' : Match} (hm : m.Alike zeros m') (hn : n.Alike zeros n') :
      (m.output == n.output) = (m'.output == n'.output) := hm.2.equal_eq hn.2
  have hall {m m' : Match} {rest rest' : List Match} (hm : m.Alike zeros m')
      (h : List.Forall₂ (Match.Alike zeros) rest rest') :
      (∀ n ∈ rest, (m.output == n.output) = true) ↔
        ∀ n ∈ rest', (m'.output == n.output) = true := by
    rw [← List.all_eq_true, ← List.all_eq_true, all_eq_of_forall₂ h fun _ _ => hequal hm]
  induction h with
  | nil => exact Iff.rfl
  | cons hm h ih =>
    rw [List.pairwise_cons, List.pairwise_cons]
    exact and_congr (hall hm h) ih

theorem head?_alike {found found' : List Match}
    (h : List.Forall₂ (Match.Alike zeros) found found') :
    Option.Rel (Alike zeros) (found.head?.map (·.output)) (found'.head?.map (·.output)) := by
  cases h with
  | nil => exact .none
  | cons hm => exact .some hm.2

theorem map_rule_eq {found found' : List Match}
    (h : List.Forall₂ (Match.Alike zeros) found found') :
    found.map (·.rule) = found'.map (·.rule) := by
  induction h with
  | nil => rfl
  | cons hm _ ih => rw [List.map_cons, List.map_cons, hm.1, ih]

include hr hc ht in
theorem found_alike :
    Both (List.Forall₂ (Match.Alike zeros)) ((t.applicable r c).mapM (t.matchOf r c))
      ((t.applicable r c').mapM (t.matchOf r c')) := by
  rw [applicable_eq hr hc ht]
  have hrules : List.Forall₂ (fun rule rule' => rule = rule' ∧ rule ∈ t.rules)
      (t.applicable r c') (t.applicable r c') :=
    List.forall₂_same.2 fun rule hrule => ⟨rfl, List.mem_of_mem_filter hrule⟩
  exact Both.mapM hrules fun | rule, _, ⟨rfl, hrule⟩ => matchOf_alike hr hc ht hrule

include hr hc ht in
theorem decision_alike : Both (Decision.Alike zeros) (t.decision r c) (t.decision r c') := by
  have happlicable := applicable_eq hr hc ht
  have hsingle {policy : HitPolicy} {rule : Rule} {rules : List Rule}
      (traced traced' : List RuleTrace) (h : t.applicable r c' = rule :: rules) :
      Both (Decision.Alike zeros)
        (t.matchOf r c rule >>= fun m =>
          return ⟨t.id, policy, some m.output, [m.rule], none, traced⟩)
        (t.matchOf r c' rule >>= fun m =>
          return ⟨t.id, policy, some m.output, [m.rule], none, traced'⟩) := by
    have hrule : rule ∈ t.rules := List.mem_of_mem_filter (h ▸ List.mem_cons_self)
    refine (matchOf_alike hr hc ht hrule).bind fun m m' hm => .given ?_
    exact ⟨congrArg ([·]) hm.1, .some hm.2, .none⟩
  simp only [decision, happlicable]
  cases t.policy with
  | first =>
    cases h : t.applicable r c' with
    | nil => exact .given ⟨rfl, .none, .none⟩
    | cons rule rules => exact hsingle _ _ h
  | priority =>
    cases h : t.applicable r c' with
    | nil => exact .given ⟨rfl, .none, .none⟩
    | cons rule rules => exact hsingle _ _ h
  | unique =>
    cases h : t.applicable r c' with
    | nil => exact .failed
    | cons rule rules =>
      cases rules with
      | nil => exact hsingle _ _ h
      | cons => exact .failed
  | any =>
    refine (happlicable ▸ found_alike hr hc ht).bind fun found found' h => ?_
    simp only [pairwise_equal_iff h]
    split
    · exact .given ⟨map_rule_eq h, head?_alike h, .none⟩
    · exact .failed
  | collect =>
    refine (happlicable ▸ found_alike hr hc ht).bind fun found found' h => ?_
    exact .given ⟨map_rule_eq h, head?_alike h, .some h⟩

end Table

end Rulebook
