import Mathlib.Data.List.Perm.Basic
import Rulebook.Proofs.Decision.Outputs
import Rulebook.Proofs.Eval.Contexts
import Rulebook.Proofs.Table.Construction
import Rulebook.Proofs.Value.Equivalence
import Rulebook.Proofs.Value.Related

/-!
The order of the rules under policies that want one answer. How many rules match, whether an output
fails and whether the outputs agree are questions about the set of rules that match, and then it does
not matter which of them comes first.
-/

namespace Rulebook

open Value (EachContext eachContext_context eachContext_of_isPlain)

theorem Distinguish.perm {ids ids' : List String} (h : Distinguish ids) (hids : ids.Perm ids') :
    Distinguish ids' where
  not_blank id hid := h.not_blank id (hids.mem_iff.2 hid)
  nodup := hids.nodup_iff.1 h.nodup

namespace Table

theorem WellFormed.perm {id : String} {inputs outputs : List Column} {rules rules' : List Rule}
    (h : WellFormed id inputs outputs rules) (hrules : rules.Perm rules') :
    WellFormed id inputs outputs rules' where
  id_not_blank := h.id_not_blank
  outputs_ne_nil := h.outputs_ne_nil
  fits rule hrule := h.fits rule (hrules.mem_iff.2 hrule)
  inputs := h.inputs
  outputs := h.outputs
  rules := h.rules.perm (hrules.map _)

-- The same table with its rules in another order.
def reordered (t : Table) {rules : List Rule} (h : t.rules.Perm rules) : Table :=
  { t with
    rules
    faultless :=
      TableFault.ofParts?_eq_none_iff.2 ((TableFault.ofParts?_eq_none_iff.1 t.faultless).perm h) }

theorem build_reordered (t : Table) {rules : List Rule} (h : t.rules.Perm rules) :
    build t.id t.policy t.inputs t.outputs rules = .ok (t.reordered h) :=
  build_self (t.reordered h)

end Table

-- Errors for one reason, which may name other rules, or the same rules in another order.
inductive DecisionError.SameKind : DecisionError → DecisionError → Prop
  | noMatch : SameKind (.violation .noMatch) (.violation .noMatch)
  | multipleMatches {ids ids' : List String} (h : ids.Perm ids') :
      SameKind (.violation (.multipleMatches ids)) (.violation (.multipleMatches ids'))
  | conflictingOutputs {found found' : List Match} (h : found.Perm found') :
      SameKind (.violation (.conflictingOutputs found)) (.violation (.conflictingOutputs found'))
  | output {rule rule' column column' : String} {e e' : EvalError} :
      SameKind (.output rule column e) (.output rule' column' e')

-- Both fail for one reason, or both succeed and the answers are related.
inductive EndAlike {α β : Type} (R : α → β → Prop) :
    Except DecisionError α → Except DecisionError β → Prop
  | failed {e e' : DecisionError} (h : e.SameKind e') : EndAlike R (.error e) (.error e')
  | given {a : α} {b : β} (h : R a b) : EndAlike R (.ok a) (.ok b)

namespace EndAlike

variable {α β γ δ : Type} {R : α → β → Prop} {S : γ → δ → Prop} {x : Except DecisionError α}
  {y : Except DecisionError β}

theorem both (h : EndAlike R x y) : Both R x y := by
  cases h with
  | failed => exact .failed
  | given h => exact .given h

theorem bind {f : α → Except DecisionError γ} {g : β → Except DecisionError δ}
    (h : EndAlike R x y) (hf : ∀ a b, R a b → EndAlike S (f a) (g b)) :
    EndAlike S (x >>= f) (y >>= g) := by
  cases h with
  | failed h => exact .failed h
  | given h => exact hf _ _ h

theorem map {f : α → γ} {g : β → δ} (h : EndAlike R x y) (hf : ∀ a b, R a b → S (f a) (g b)) :
    EndAlike S (x.map f) (y.map g) := by
  cases h with
  | failed h => exact .failed h
  | given h => exact .given (hf _ _ h)

end EndAlike

-- Equal outputs, or the one output of a single rule, which for an undefined number in it does not
-- even equal itself.
def SameOutput (rules : List String) (o o' : Option Value) : Prop :=
  (o == o') = true ∨ ∃ id v, rules = [id] ∧ o = some v ∧ o' = some v ∧ ¬v.Defined

structure Resolution.Rearranged (x y : Resolution) : Prop where
  output : SameOutput x.rules x.output y.output
  rules : x.rules.Perm y.rules
  collected : x.collected = y.collected

structure Decision.Rearranged (d d' : Decision) : Prop where
  table : d.table = d'.table
  policy : d.policy = d'.policy
  output : SameOutput d.rules d.output d'.output
  rules : d.rules.Perm d'.rules
  collected : d.collected = d'.collected
  trace : d.trace.Perm d'.trace

theorem SameOutput.single {id : String} {v : Value} (h : v.UniqueKeys) :
    SameOutput [id] (some v) (some v) := by
  by_cases hv : v.Defined
  · exact .inl ((Value.equal_self_iff_defined h).2 hv)
  · exact .inr ⟨id, v, rfl, rfl, rfl, hv⟩

namespace HitPolicy

variable {found found' : List Match} {ids ids' : List String} {policy : HitPolicy}

theorem checkCount_perm (h : ids.Perm ids') (hpolicy : policy = unique ∨ policy = any) :
    EndAlike (fun _ _ => policy = unique → ids.length = 1)
      ((policy.checkCount ids).mapError .violation)
      ((policy.checkCount ids').mapError .violation) := by
  obtain rfl | rfl := hpolicy
  case inl =>
    match ids, h with
    | [], h =>
      cases h.nil_eq
      exact .failed .noMatch
    | [id], h =>
      cases List.perm_singleton.1 h.symm
      exact .given fun _ => rfl
    | _ :: _ :: _, h =>
      match ids', h.length_eq with
      | _ :: _ :: _, _ => exact .failed (.multipleMatches h)
  case inr => exact .given nofun

-- What is asked of neighbours goes for any two, as soon as there are neighbours.
theorem agree_iff_forall (hlength : 2 ≤ found.length) (h : ∀ m ∈ found, m.output.UniqueKeys) :
    agree found = true ↔ ∀ m ∈ found, ∀ n ∈ found, (m.output == n.output) = true := by
  rw [agree_iff]
  refine ⟨fun hpair => ?_, List.pairwise_of_forall_mem_list⟩
  match found, hlength with
  | m :: n :: rest, _ =>
    have hsymm {k l : Match} (hk : k ∈ m :: n :: rest) (hl : l ∈ m :: n :: rest) :
        (k.output == l.output) = true → (l.output == k.output) = true :=
      Value.equal_symm (h k hk) (h l hl)
    have hlater : ∀ k ∈ n :: rest, (m.output == k.output) = true :=
      fun k hk => List.rel_of_pairwise_cons hpair hk
    have hmn : (m.output == n.output) = true := hlater n (.head _)
    have hfirst : ∀ k ∈ m :: n :: rest, (m.output == k.output) = true := by
      rw [List.forall_mem_cons]
      exact ⟨Value.equal_trans hmn (hsymm (.head _) (.tail _ (.head _)) hmn), hlater⟩
    intro k hk l hl
    exact Value.equal_trans (hsymm (.head _) hk (hfirst k hk)) (hfirst l hl)

theorem agree_perm (h : found.Perm found') (hunique : ∀ m ∈ found, m.output.UniqueKeys) :
    agree found = agree found' := by
  match found, h with
  | [], h => rw [h.nil_eq]
  | [m], h => rw [List.perm_singleton.1 h.symm]
  | m :: n :: rest, h =>
    have hlength : 2 ≤ (m :: n :: rest).length := by simp
    have hunique' : ∀ k ∈ found', k.output.UniqueKeys := fun k hk => hunique k (h.mem_iff.2 hk)
    rw [Bool.eq_iff_iff, agree_iff_forall hlength hunique,
      agree_iff_forall (h.length_eq ▸ hlength) hunique']
    simp only [h.mem_iff]

theorem sameOutput_of_agree (h : found.Perm found') (hunique : ∀ m ∈ found, m.output.UniqueKeys)
    (hagree : agree found = true) :
    SameOutput (found.map (·.rule)) (found.head?.map (·.output)) (found'.head?.map (·.output)) := by
  match found, h with
  | [], h =>
    cases h.nil_eq
    exact .inl rfl
  | [m], h =>
    cases List.perm_singleton.1 h.symm
    exact .single (hunique m (.head _))
  | m :: n :: rest, h =>
    match found', h with
    | [], h => cases h.eq_nil
    | m' :: rest', h =>
      have hall := (agree_iff_forall (by simp) hunique).1 hagree
      exact .inl (hall m (.head _) m' (h.mem_iff.2 (.head _)))

-- Where one rule is all that may match, the number of rules was checked before.
theorem resolve_perm (h : found.Perm found') (hunique : ∀ m ∈ found, m.output.UniqueKeys)
    (hpolicy : policy = unique ∨ policy = any) (hcount : policy = unique → found.length = 1) :
    EndAlike Resolution.Rearranged ((policy.resolve found).mapError .violation)
      ((policy.resolve found').mapError .violation) := by
  obtain rfl | rfl := hpolicy
  case inl =>
    obtain ⟨m, rfl⟩ := List.length_eq_one_iff.1 (hcount rfl)
    rw [List.perm_singleton.1 h.symm]
    exact .given ⟨.single (hunique m (.head _)), .refl _, rfl⟩
  case inr =>
    simp only [resolve, ← agree_perm h hunique]
    cases hagree : agree found with
    | false => exact .failed (.conflictingOutputs h)
    | true => exact .given ⟨sameOutput_of_agree h hunique hagree, h.map _, rfl⟩

end HitPolicy

theorem mapM_perm {α β ε : Type} {f : α → Except ε β} {as as' : List α} {bs : List β}
    (h : as.Perm as') (hbs : as.mapM f = .ok bs) : ∃ bs', as'.mapM f = .ok bs' ∧ bs.Perm bs' := by
  obtain ⟨bs', hbs', hperm⟩ := List.perm_comp_forall₂ h.symm (mapM_eq_ok_iff.1 hbs)
  exact ⟨bs', mapM_eq_ok_iff.2 hbs', hperm.symm⟩

def DecisionError.isOutput : DecisionError → Bool
  | output .. => true
  | violation _ => false

theorem DecisionError.SameKind.of_isOutput {e e' : DecisionError} (h : e.isOutput = true)
    (h' : e'.isOutput = true) : e.SameKind e' := by
  cases e with
  | violation v => cases h
  | output rule column fault =>
    cases e' with
    | violation v => cases h'
    | output rule' column' fault' => exact .output

namespace Context

theorem uniqueKeys_foldl_insert {es : List (String × Value)} {c : Context}
    (hc : (Value.context c).UniqueKeys) (h : ∀ e ∈ es, e.2.UniqueKeys) :
    (Value.context (es.foldl (fun c e => insert e.1 e.2 c) c)).UniqueKeys := by
  induction es generalizing c with
  | nil => exact hc
  | cons e es ih =>
    rw [List.forall_mem_cons] at h
    refine ih ?_ h.2
    rw [Value.uniqueKeys_iff_eachContext] at hc ⊢
    exact eachContext_insert nodup_keys_insert hc (Value.uniqueKeys_iff_eachContext.1 h.1)

theorem uniqueKeys_ofList {es : List (String × Value)} (h : ∀ e ∈ es, e.2.UniqueKeys) :
    (Value.context (ofList es)).UniqueKeys :=
  uniqueKeys_foldl_insert (Value.uniqueKeys_context.2 ⟨List.nodup_nil, nofun⟩) h

end Context

-- An error, if there is one, comes from an output that cannot be evaluated.
def FailsInOutput {α : Type} : Except DecisionError α → Prop
  | .error e => e.isOutput = true
  | .ok _ => True

namespace FailsInOutput

variable {α β : Type} {x : Except DecisionError α} {y : Except DecisionError β}

theorem map {f : α → β} (h : FailsInOutput x) : FailsInOutput (x.map f) := by
  cases x with
  | error e => exact h
  | ok a => exact True.intro

theorem mapM {f : α → Except DecisionError β} (h : ∀ a, FailsInOutput (f a)) (as : List α) :
    FailsInOutput (as.mapM f) := by
  induction as with
  | nil => exact True.intro
  | cons a as ih =>
    have ha := h a
    rw [List.mapM_cons]
    cases hb : f a with
    | error e =>
      rw [hb] at ha
      exact ha
    | ok b =>
      cases hbs : as.mapM f with
      | error e =>
        rw [hbs] at ih
        exact ih
      | ok bs => exact True.intro

end FailsInOutput

section

variable {r : Registry} {context : Context} {t : Table} {rule : Rule} {column : Column}
  {entry : String} {rules : List Rule}

theorem Rule.failsInOutput_output : FailsInOutput (rule.output r context column entry) := by
  rw [output]
  cases column.outputValue r context entry with
  | error e => exact rfl
  | ok v => exact True.intro

theorem Table.failsInOutput_outputOf : FailsInOutput (t.outputOf r context rule) := by
  rw [outputOf]
  split
  · exact Rule.failsInOutput_output
  · exact (FailsInOutput.mapM (fun c => Rule.failsInOutput_output.map) _).map

-- The values that functions and contexts bring in have no name twice in a context.
variable (hr : ∀ f ∈ r.functions, f.Preserves fun c => c.keys.Nodup)
  (hcontext : (Value.context context).UniqueKeys)

include hr hcontext

theorem Column.outputValue_uniqueKeys :
    Ensures Value.UniqueKeys (column.outputValue r context entry) := by
  simp only [outputValue]
  refine .ite True.intro ?_
  split
  · exact True.intro
  · refine (evaluate_uniqueKeys hr hcontext).map fun v hv => ?_
    split
    · exact True.intro
    · exact hv

theorem Rule.output_uniqueKeys :
    Ensures Value.UniqueKeys (rule.output r context column entry) := by
  have hvalue : Ensures Value.UniqueKeys (column.outputValue r context entry) :=
    Column.outputValue_uniqueKeys hr hcontext
  rw [output]
  cases hv : column.outputValue r context entry with
  | error e => exact True.intro
  | ok v => exact hvalue.of_ok hv

theorem Table.outputOf_uniqueKeys : Ensures Value.UniqueKeys (t.outputOf r context rule) := by
  rw [outputOf]
  split
  · exact Rule.output_uniqueKeys hr hcontext
  · refine (Ensures.mapM (Q := fun e => e.2.UniqueKeys) fun c _ => ?_).map fun es hes => ?_
    · exact (Rule.output_uniqueKeys hr hcontext).map fun _ hv => hv
    · exact Context.uniqueKeys_ofList hes

theorem Table.mapM_matchOf_perm {rules' : List Rule} (h : rules.Perm rules') :
    EndAlike (fun found found' => found.Perm found' ∧ found.length = rules.length ∧
        ∀ m ∈ found, m.output.UniqueKeys)
      (rules.mapM (t.matchOf r context)) (rules'.mapM (t.matchOf r context)) := by
  have hfails (rules : List Rule) : FailsInOutput (rules.mapM (t.matchOf r context)) :=
    .mapM (fun _ => failsInOutput_outputOf.map) rules
  have hunique : Ensures (fun found => ∀ m ∈ found, m.output.UniqueKeys)
      (rules.mapM (t.matchOf r context)) :=
    .mapM fun rule _ => (outputOf_uniqueKeys hr hcontext).map fun _ hv => hv
  cases hfound : rules.mapM (t.matchOf r context) with
  | ok found =>
    obtain ⟨found', hfound', hperm⟩ := mapM_perm h hfound
    rw [hfound']
    exact .given ⟨hperm, (mapM_eq_ok_iff.1 hfound).length_eq.symm, hunique.of_ok hfound⟩
  | error e =>
    cases hfound' : rules'.mapM (t.matchOf r context) with
    | error e' =>
      have he := hfails rules
      have he' := hfails rules'
      rw [hfound] at he
      rw [hfound'] at he'
      exact .failed (.of_isOutput he he')
    | ok found' =>
      -- What succeeds in one order succeeds in the other, so that the orders cannot part here.
      obtain ⟨found, hok, -⟩ := mapM_perm h.symm hfound'
      cases hfound.symm.trans hok

theorem Table.decision_reordered (hpolicy : t.policy = .unique ∨ t.policy = .any)
    (h : t.rules.Perm rules) :
    EndAlike Decision.Rearranged (t.decision r context) ((t.reordered h).decision r context) := by
  have happlicable : (t.applicable r context).Perm ((t.reordered h).applicable r context) :=
    h.filter _
  have hstops : t.policy.stopsAtFirstMatch = false := by
    obtain hp | hp := hpolicy <;> rw [hp] <;> rfl
  rw [← resolved_eq_decision, ← resolved_eq_decision]
  change EndAlike _ (if _ then _ else _) (if t.policy.stopsAtFirstMatch then _ else _)
  rw [hstops]
  refine (HitPolicy.checkCount_perm (happlicable.map _) hpolicy).bind fun _ _ hcount => ?_
  refine (mapM_matchOf_perm hr hcontext happlicable).bind ?_
  rintro found found' ⟨hfound, hlength, hunique⟩
  have hcount' (hp : t.policy = .unique) : found.length = 1 := by
    rw [hlength, ← hcount hp, List.length_map]
  refine (HitPolicy.resolve_perm hfound hunique hpolicy hcount').map fun x y hxy => ?_
  exact ⟨rfl, rfl, hxy.output, hxy.rules, hxy.collected, h.map _⟩

end

end Rulebook
