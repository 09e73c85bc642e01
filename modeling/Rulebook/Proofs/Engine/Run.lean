import Rulebook.Proofs.Decision.Evaluation

/-!
Runs of an engine: any order of evaluations, registrations, clearing and waiting. The texts read so
far only save work, so that every step is told by the functions and the decisions that are kept.
-/

namespace Rulebook

namespace Engine

inductive Step
  | evaluate (table : Table) (context : Context)
  | expression (text : String) (context : Context)
  | register (f : Function)
  | clear
  | wait (duration : Nat)

inductive Answer
  | decision (outcome : Except DecisionError Decision)
  | value (outcome : Except SourceError Value)
  | registered (fault : Option RegistryError)
  | done

def step (g : Engine) : Step → Answer × Engine
  | .evaluate table context =>
    let (outcome, g) := g.evaluate table context
    (.decision outcome, g)
  | .expression text context =>
    let (outcome, g) := g.evaluateText text context
    (.value outcome, g)
  | .register f =>
    match g.register f with
    | .ok g => (.registered none, g)
    | .error fault => (.registered (some fault), g)
  | .clear => (.done, g.clear)
  | .wait duration => (.done, g.wait duration)

-- The answer to each step, and the statistics after it.
def run (g : Engine) : List Step → List (Answer × EngineStats)
  | [] => []
  | s :: steps => ((g.step s).1, (g.step s).2.stats) :: run (g.step s).2 steps

def after (g : Engine) (steps : List Step) : Engine :=
  steps.foldl (fun g s => (g.step s).2) g

theorem run_append (g : Engine) (xs ys : List Step) :
    g.run (xs ++ ys) = g.run xs ++ (g.after xs).run ys := by
  induction xs generalizing g with
  | nil => rfl
  | cons s xs ih => simp only [List.cons_append, run, ih]; rfl

theorem after_append (g : Engine) (xs ys : List Step) :
    g.after (xs ++ ys) = (g.after xs).after ys :=
  List.foldl_append

-- The functions after a step.
def Step.functions (r : Registry) : Step → Registry
  | .register f => (r.register f).toOption.getD r
  | _ => r

-- An evaluation that reads every text anew, but finds the decisions that are kept.
def consult (g : Engine) (table : Table) (context : Context) :
    Except DecisionError Decision × Results :=
  let key : ResultKey := ⟨table, g.hash context⟩
  let (found, results) := Results.find? g.results key context
  match found with
  | some decision => (.ok decision, results)
  | none =>
    match table.decision g.registry context with
    | .error e => (.error e, results)
    | .ok decision => (.ok decision, results.insert key ⟨context, decision⟩)

def answer (g : Engine) : Step → Answer
  | .evaluate table context => .decision (g.consult table context).1
  | .expression text context => .value (Rulebook.evaluateText g.registry text context)
  | .register f =>
    match g.registry.register f with
    | .ok _ => .registered none
    | .error fault => .registered (some fault)
  | .clear | .wait _ => .done

-- The decisions that are kept after a step.
def kept (g : Engine) : Step → Results
  | .evaluate table context => (g.consult table context).2
  | .clear => g.results.clear
  | .wait duration => g.results.wait duration
  | .expression .. | .register _ => g.results

variable {g : Engine} {t : Table} {context : Context}

theorem evaluate_eq_consult (h : g.sources.Faithful) (t : Table) (context : Context) :
    ∃ texts : Sources, texts.Faithful ∧ g.evaluate t context =
      ((g.consult t context).1,
        { g with sources := texts, results := (g.consult t context).2 }) := by
  obtain ⟨hd, hs⟩ := t.yields_decide g.registry context g.sources h
  simp only [evaluate, consult]
  rcases Results.find? g.results ⟨t, g.hash context⟩ context with ⟨_ | d, results⟩
  case some => exact ⟨g.sources, h, rfl⟩
  case none =>
    rcases hm : (t.decide g.registry context).run g.sources with ⟨outcome, texts⟩
    rw [hm] at hd hs
    subst hd
    refine ⟨texts, hs, ?_⟩
    cases t.decision g.registry context <;> rfl

theorem fst_evaluate (h : g.sources.Faithful) (t : Table) (context : Context) :
    (g.evaluate t context).1 = (g.consult t context).1 := by
  obtain ⟨_, -, heq⟩ := evaluate_eq_consult h t context
  rw [heq]

theorem results_evaluate (h : g.sources.Faithful) (t : Table) (context : Context) :
    (g.evaluate t context).2.results = (g.consult t context).2 := by
  obtain ⟨_, -, heq⟩ := evaluate_eq_consult h t context
  rw [heq]

theorem evaluateText_eq (h : g.sources.Faithful) (text : String) (context : Context) :
    ∃ texts : Sources, texts.Faithful ∧ g.evaluateText text context =
      (Rulebook.evaluateText g.registry text context, { g with sources := texts }) := by
  obtain ⟨hd, hs⟩ := Sources.yields_expression text g.sources h
  simp only [evaluateText, Rulebook.evaluateText]
  rcases hm : Sources.expression text g.sources with ⟨parsed, texts⟩
  rw [hm] at hd hs
  subst hd
  refine ⟨texts, hs, ?_⟩
  cases Syntax.parseExpression text <;> rfl

theorem step_eq (h : g.sources.Faithful) (s : Step) :
    ∃ texts : Sources, texts.Faithful ∧
      g.step s = (g.answer s, ⟨s.functions g.registry, g.hash, texts, g.kept s⟩) := by
  cases s with
  | evaluate t context =>
    obtain ⟨texts, hs, heq⟩ := evaluate_eq_consult h t context
    exact ⟨texts, hs, by simp only [step, heq]; rfl⟩
  | expression text context =>
    obtain ⟨texts, hs, heq⟩ := evaluateText_eq h text context
    exact ⟨texts, hs, by simp only [step, heq]; rfl⟩
  | register f =>
    refine ⟨g.sources, h, ?_⟩
    simp only [step, register, answer, Step.functions]
    cases g.registry.register f <;> rfl
  | clear => exact ⟨g.sources.clear, .clear, rfl⟩
  | wait duration => exact ⟨g.sources.wait duration, h.wait, rfl⟩

theorem faithful_step (h : g.sources.Faithful) (s : Step) : (g.step s).2.sources.Faithful := by
  obtain ⟨_, hs, heq⟩ := step_eq h s
  exact heq ▸ hs

theorem fst_step (h : g.sources.Faithful) (s : Step) : (g.step s).1 = g.answer s := by
  obtain ⟨_, -, heq⟩ := step_eq h s
  rw [heq]

theorem registry_step (h : g.sources.Faithful) (s : Step) :
    (g.step s).2.registry = s.functions g.registry := by
  obtain ⟨_, -, heq⟩ := step_eq h s
  rw [heq]

theorem hash_step (h : g.sources.Faithful) (s : Step) : (g.step s).2.hash = g.hash := by
  obtain ⟨_, -, heq⟩ := step_eq h s
  rw [heq]

theorem results_step (h : g.sources.Faithful) (s : Step) : (g.step s).2.results = g.kept s := by
  obtain ⟨_, -, heq⟩ := step_eq h s
  rw [heq]

theorem consult_of_off (h : g.results.cache = none) :
    g.consult t context = (t.decision g.registry context, g.results) := by
  simp only [consult, Results.find?, SwitchedCache.get_of_off h, Option.filter_none,
    Option.map_none]
  cases t.decision g.registry context with
  | error e => rfl
  | ok d => exact congrArg (Prod.mk _) (SwitchedCache.map_of_off h)

theorem evaluate_of_off (hs : g.sources.cache = none) (hr : g.results.cache = none) :
    (g.evaluate t context).1 = t.decision g.registry context := by
  obtain ⟨s, -, h⟩ := evaluate_eq_consult (Sources.faithful_of_off hs) t context
  rw [h, consult_of_off hr]

theorem evaluate_of_off_agreeing :
    let table : Table :=
      ⟨"t", .any, [], [.output "o"], [⟨"a", [], [""]⟩, ⟨"b", [], [""]⟩], by decide⟩
    let g := Engine.ofConfig .uncached .empty
    g.sources.cache = none ∧ g.results.cache = none ∧
      (g.evaluate table []).1 = .ok ⟨"t", .any, some .null, ["a", "b"], none,
        [⟨"a", true, []⟩, ⟨"b", true, []⟩]⟩ :=
  ⟨rfl, rfl, (evaluate_of_off rfl rfl).trans rfl⟩

end Engine

end Rulebook
