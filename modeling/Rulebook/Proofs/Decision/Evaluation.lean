import Rulebook.Engine.Basic
import Rulebook.Proofs.Decision.Reference
import Rulebook.Proofs.Engine.Sources
import Rulebook.Proofs.Table.Shape
import Rulebook.Proofs.Value.Equality

/-!
An engine decides what the reference says. The inputs are observed once and not for every cell, the
rules behind the first match are not tested where it decides, and the answers under ANY are compared
with their neighbours only; none of it shows.
-/

namespace Rulebook

open Syntax (parseExpression parseCell)

section

variable {α β γ : Type}

theorem zipWith_eq_mapIdx {f : α → β → γ} {as : List α} {bs : List β}
    (h : bs.length = as.length) (b : β) :
    as.zipWith f bs = as.mapIdx fun i a => f a (bs.getD i b) := by
  refine List.ext_getElem (by simp [h]) fun i h₁ _ => ?_
  simp only [List.length_zipWith, h, Nat.min_self] at h₁
  simp [List.getElem?_eq_getElem (h.symm ▸ h₁ : i < bs.length)]

theorem except_map_map {ε : Type} {f : α → β} {g : β → γ} {x : Except ε α} :
    (x.map f).map g = x.map fun a => g (f a) := by
  cases x <;> rfl

theorem zip_zip_map (f : α → γ) {as : List α} {bs : List β} :
    as.zip (bs.zip (as.map f)) = (as.zip bs).map fun c => (c.1, c.2, f c.1) := by
  induction as generalizing bs with
  | nil => rfl
  | cons a as ih =>
    cases bs with
    | nil => rfl
    | cons b bs => simp [ih]

end

variable {r : Registry} {context : Context}

namespace Column

variable {c : Column} {entry : String}

theorem yields_observe : Yields (c.observe r context) (c.observed r context) := by
  refine (Sources.yields_expression _).bind ?_
  simp only [observed, evaluateText]
  cases parseExpression c.source <;> exact .pure

theorem yields_observeAll {columns : List Column} :
    Yields (observeAll r context columns) (columns.map (observed r context)) := by
  induction columns with
  | nil => exact .pure
  | cons c columns ih => exact yields_observe.bind (ih.bind .pure)

theorem yields_testCell {cell : String} {seen : Observed} :
    Yields (testCell r context c cell seen) (seen.bind fun v => c.testParsed r context v cell) := by
  cases seen with
  | error e => exact .pure
  | ok v =>
    refine (Sources.yields_cell _).bind ?_
    simp only [Except.bind, testParsed]
    cases parseCell cell <;> exact .pure

theorem yields_traceCell :
    Yields (traceCell r context c entry (c.observed r context)) (c.cellTrace r context entry) := by
  by_cases h : isWildcard entry = true
  case pos =>
    simp only [traceCell, cellTrace, accepts, fault?, test, h, ↓reduceIte]
    exact .pure
  case neg =>
    simp only [traceCell, h, cellTrace, accepts, fault?, test]
    refine yields_testCell.bind ?_
    simp only [Bool.false_eq_true, ↓reduceIte]
    cases (c.observed r context).bind fun v => c.testParsed r context v (Text.trim entry) <;>
      exact .pure

theorem yields_traceCells {cells : List (Column × String)} :
    Yields (traceCells r context (cells.map fun c => (c.1, c.2, c.1.observed r context)))
      (cells.map fun c => c.1.cellTrace r context c.2) := by
  induction cells with
  | nil => exact .pure
  | cons c cells ih => exact yields_traceCell.bind (ih.bind .pure)

theorem yields_outputCell :
    Yields (outputCell r context c entry) (c.outputValue r context entry) := by
  simp only [outputCell, outputValue]
  generalize (if Text.isAllBlank entry then Text.trim c.expression else Text.trim entry) = text
  refine .ite .pure ((Sources.yields_expression _).bind ?_)
  cases parseExpression text with
  | error e => exact .pure
  | ok e =>
    simp only
    cases evaluate r e context <;> exact .pure

end Column

namespace Rule

variable {rule : Rule} {column : Column} {entry : String}

theorem yields_ruleCell :
    Yields (ruleCell r context rule column entry).run (rule.output r context column entry) := by
  simp only [ruleCell, output, ExceptT.run_bind]
  refine (Column.yields_outputCell.liftExcept).bind ?_
  cases column.outputValue r context entry <;> exact .pure

theorem namedOutputs_cons {c : Column × String} {cells : List (Column × String)} {done : Context} :
    (((c :: cells).mapM fun c => rule.namedOutput r context c.1 c.2).map fun values =>
        values.foldl (fun done e => Context.insert e.1 e.2 done) done) =
      (rule.output r context c.1 c.2).bind fun v =>
        (cells.mapM fun c => rule.namedOutput r context c.1 c.2).map fun values =>
          values.foldl (fun done e => Context.insert e.1 e.2 done) (done.insert c.1.name v) := by
  simp only [List.mapM_cons, namedOutput]
  cases rule.output r context c.1 c.2 with
  | error e => rfl
  | ok v =>
    cases cells.mapM fun c => (rule.output r context c.1 c.2).map fun v => (c.1.name, v) <;> rfl

theorem yields_ruleEntries {cells : List (Column × String)} {done : Context} :
    Yields (ruleEntries r context rule done cells).run
      ((cells.mapM fun c => rule.namedOutput r context c.1 c.2).map fun values =>
        values.foldl (fun done e => Context.insert e.1 e.2 done) done) := by
  induction cells generalizing done with
  | nil => exact .pure
  | cons c cells ih =>
    rw [namedOutputs_cons]
    exact yields_ruleCell.bindExcept fun v => ih

theorem yields_ruleOutput {t : Table} (h : rule.outputs.length = t.outputs.length) :
    Yields (ruleOutput r context t.outputs rule).run (t.outputOf r context rule) := by
  simp only [ruleOutput, List.zip, zipWith_eq_mapIdx h "", Table.outputOf]
  generalize t.outputs = columns
  have several {cells : List (Column × String)} :
      Yields (do return .context (← ruleEntries r context rule .empty cells) : Evaluation Value).run
        ((cells.mapM fun c => rule.namedOutput r context c.1 c.2).map fun values =>
          .context (Context.ofList values)) := by
    have h : Yields (ruleEntries r context rule .empty cells).run
        ((cells.mapM fun c => rule.namedOutput r context c.1 c.2).map Context.ofList) :=
      yields_ruleEntries
    have h' := h.mapExcept Value.context
    rwa [except_map_map] at h'
  match columns with
  | [column] => exact yields_ruleCell
  | [] => exact several
  | _ :: _ :: _ =>
    simp only [List.mapIdx_cons]
    exact several

end Rule

namespace Table

variable {t : Table}

theorem applies_iff {rule : Rule} (h : rule.inputs.length = t.inputs.length) :
    t.applies r context rule =
      (t.inputs.zip rule.inputs).all fun c => c.1.accepts r context c.2 := by
  rw [Bool.eq_iff_iff, applies, List.all_eq_true, List.all_eq_true]
  have hlen : (t.inputs.zip rule.inputs).length = t.inputs.length := by simp [h]
  constructor
  · intro h' c hc
    obtain ⟨i, hi, rfl⟩ := List.mem_iff_getElem.1 hc
    have hi' : i < t.inputs.length := hlen ▸ hi
    have := h' i (List.mem_range.2 hi')
    rw [List.getElem?_eq_getElem hi', List.getElem?_eq_getElem (h ▸ hi')] at this
    simpa using this
  · intro h' i hi
    have hi' := List.mem_range.1 hi
    have := h' _ (List.getElem_mem (hlen.symm ▸ hi'))
    rw [List.getElem?_eq_getElem hi', List.getElem?_eq_getElem (h ▸ hi')]
    simpa using this

theorem yields_traceRule {rule : Rule} (h : rule.inputs.length = t.inputs.length) :
    Yields (traceRule r context t.inputs (t.inputs.map (Column.observed r context)) rule)
      (t.ruleTrace r context rule) := by
  simp only [traceRule, zip_zip_map]
  refine Column.yields_traceCells.bind ?_
  simp only [List.all_map, ruleTrace, applies_iff h]
  rw [List.map_zip_eq_zipWith, zipWith_eq_mapIdx h ""]
  exact .pure

theorem yields_traceRules {rules : List Rule}
    (h : ∀ rule ∈ rules, rule.inputs.length = t.inputs.length) :
    Yields (traceRules r context t.policy t.inputs (t.inputs.map (Column.observed r context)) rules)
      (if t.policy.stopsAtFirstMatch then
        ((rules.take (rules.findIdx (t.applies r context) + 1)).map (t.ruleTrace r context),
          (rules.filter (t.applies r context)).take 1)
      else (rules.map (t.ruleTrace r context), rules.filter (t.applies r context))) := by
  induction rules with
  | nil => split <;> exact .pure
  | cons rule rules ih =>
    rw [List.forall_mem_cons] at h
    refine (yields_traceRule h.1).bind ?_
    have hm : (t.ruleTrace r context rule).isMatch = t.applies r context rule := rfl
    rw [hm]
    cases ha : t.applies r context rule <;> cases hp : t.policy.stopsAtFirstMatch
    case true.true =>
      simp only [List.findIdx_cons, List.filter_cons, ha]
      exact .pure
    all_goals
      refine (ih h.2).bind ?_
      simp only [List.findIdx_cons, List.filter_cons, ha, hp]
      exact .pure

theorem yields_ruleMatches {rules : List Rule}
    (h : ∀ rule ∈ rules, rule.outputs.length = t.outputs.length) :
    Yields (ruleMatches r context t.outputs rules).run (rules.mapM (t.matchOf r context)) := by
  induction rules with
  | nil => exact .pure
  | cons rule rules ih =>
    rw [List.forall_mem_cons] at h
    have heq : (rule :: rules).mapM (t.matchOf r context) =
        (t.outputOf r context rule).bind fun output =>
          (rules.mapM (t.matchOf r context)).map fun others => ⟨rule.id, output⟩ :: others := by
      rw [List.mapM_cons, matchOf]
      cases t.outputOf r context rule with
      | error e => rfl
      | ok v => cases rules.mapM (t.matchOf r context) <;> rfl
    rw [heq]
    exact (Rule.yields_ruleOutput h.1).bindExcept fun _ => (ih h.2).mapExcept _

theorem yields_obeying {α : Type} {x : Except Violation α} :
    Yields (obeying x).run (x.mapError .violation) := by
  cases x <;> exact .pure

end Table

namespace HitPolicy

theorem agree_iff {found : List Match} :
    agree found = true ↔ found.Pairwise fun m n => m.output == n.output := by
  induction found with
  | nil => simp [agree]
  | cons m found ih =>
    cases found with
    | nil => simp [agree]
    | cons n found =>
      simp only [agree, Bool.and_eq_true, ih]
      constructor
      · rintro ⟨hmn, h⟩
        refine .cons (fun x hx => ?_) h
        obtain rfl | hx := List.mem_cons.1 hx
        · exact hmn
        · exact Value.equal_trans hmn (List.rel_of_pairwise_cons h hx)
      · exact fun h => ⟨List.rel_of_pairwise_cons h (.head _), h.of_cons⟩

end HitPolicy

namespace Table

variable {t : Table}

-- What the hit policy makes of the rules that were found.
def resolved (r : Registry) (context : Context) (t : Table) (trace : List RuleTrace)
    (found : List Rule) : Except DecisionError Decision := do
  (t.policy.checkCount (found.map (·.id))).mapError .violation
  let candidates ← found.mapM (t.matchOf r context)
  ((t.policy.resolve candidates).mapError .violation).map fun resolution =>
    ⟨t.id, t.policy, resolution.output, resolution.rules, resolution.collected, trace⟩

theorem upToFirst_of_applicable_eq_nil (h : t.applicable r context = []) :
    t.upToFirst r context = t.rules := by
  have hlen : t.rules.findIdx (t.applies r context) = t.rules.length :=
    List.findIdx_eq_length.2 fun rule hr => by simpa using List.filter_eq_nil_iff.1 h rule hr
  rw [upToFirst, hlen]
  exact List.take_of_length_le (Nat.le_succ _)

theorem resolved_eq_decision :
    (if t.policy.stopsAtFirstMatch then
      t.resolved r context ((t.upToFirst r context).map (t.ruleTrace r context))
        ((t.applicable r context).take 1)
    else t.resolved r context (t.rules.map (t.ruleTrace r context)) (t.applicable r context)) =
      t.decision r context := by
  simp only [decision, resolved]
  cases hp : t.policy
  case first | priority =>
    cases ha : t.applicable r context with
    | nil => rw [upToFirst_of_applicable_eq_nil ha]; rfl
    | cons rule rules =>
      simp only [HitPolicy.stopsAtFirstMatch, List.take_succ_cons, List.take_zero,
        List.mapM_cons, List.mapM_nil]
      cases t.matchOf r context rule <;> rfl
  case unique =>
    match t.applicable r context with
    | [] => rfl
    | [rule] =>
      simp only [HitPolicy.stopsAtFirstMatch, List.mapM_cons, List.mapM_nil]
      cases t.matchOf r context rule <;> rfl
    | _ :: _ :: _ => rfl
  case any =>
    simp only [HitPolicy.stopsAtFirstMatch]
    cases (t.applicable r context).mapM (t.matchOf r context) with
    | error e => rfl
    | ok found =>
      show ((HitPolicy.resolve .any found).mapError DecisionError.violation).map _ = ite _ _ _
      simp only [HitPolicy.resolve, HitPolicy.agree_iff]
      split <;> rfl
  case collect =>
    simp only [HitPolicy.stopsAtFirstMatch]
    cases (t.applicable r context).mapM (t.matchOf r context) <;> rfl

theorem yields_decide (t : Table) (r : Registry) (context : Context) :
    Yields (t.decide r context).run (t.decision r context) := by
  simp only [Table.decide]
  refine Column.yields_observeAll.bindLift ?_
  refine (yields_traceRules fun _ => t.length_inputs).bindLift ?_
  have yields_resolved {trace : List RuleTrace} {found : List Rule} (h : found ⊆ t.rules) :
      Yields (do
        obeying (t.policy.checkCount (found.map (·.id)))
        let candidates ← ruleMatches r context t.outputs found
        let resolution ← obeying (t.policy.resolve candidates)
        return ⟨t.id, t.policy, resolution.output, resolution.rules, resolution.collected, trace⟩
          : Evaluation Decision).run (t.resolved r context trace found) := by
    refine yields_obeying.bindExcept fun _ => ?_
    refine (yields_ruleMatches fun _ hr => t.length_outputs (h hr)).bindExcept fun _ => ?_
    exact yields_obeying.mapExcept _
  rw [← resolved_eq_decision]
  split
  · exact yields_resolved (List.Subset.trans (List.take_subset ..) List.filter_sublist.subset)
  · exact yields_resolved List.filter_sublist.subset

end Table

end Rulebook
