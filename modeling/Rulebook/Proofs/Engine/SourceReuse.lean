import Rulebook.Proofs.Engine.Run

/-!
Texts that were read before change no answer, and not the decisions that are kept either: two
engines that differ in the texts they hold go through every run alike.
-/

namespace Rulebook

open Syntax (parseExpression parseCell)

namespace Engine

variable {g₁ g₂ : Engine} {t : Table} {context : Context} {text : String}

-- The engines hold the same, but for texts that they have read.
structure SameDecisions (g₁ g₂ : Engine) : Prop where
  registry : g₁.registry = g₂.registry
  hash : g₁.hash = g₂.hash
  results : g₁.results = g₂.results
  faithful₁ : g₁.sources.Faithful
  faithful₂ : g₂.sources.Faithful

namespace SameDecisions

theorem ofConfig {registry : Registry} {results sources₁ sources₂ : CacheConfig} :
    SameDecisions (Engine.ofConfig ⟨sources₁, results⟩ registry)
      (Engine.ofConfig ⟨sources₂, results⟩ registry) :=
  ⟨rfl, rfl, rfl, Sources.faithful_ofConfig, Sources.faithful_ofConfig⟩

theorem consult_eq (h : SameDecisions g₁ g₂) : g₁.consult t context = g₂.consult t context := by
  simp only [consult, h.registry, h.hash, h.results]

theorem answer_eq (h : SameDecisions g₁ g₂) (s : Step) : g₁.answer s = g₂.answer s := by
  cases s <;> simp only [answer, h.consult_eq, h.registry]

theorem kept_eq (h : SameDecisions g₁ g₂) (s : Step) : g₁.kept s = g₂.kept s := by
  cases s <;> simp only [kept, h.consult_eq, h.results]

theorem step (h : SameDecisions g₁ g₂) (s : Step) :
    (g₁.step s).1 = (g₂.step s).1 ∧ SameDecisions (g₁.step s).2 (g₂.step s).2 := by
  obtain ⟨texts₁, hs₁, h₁⟩ := step_eq h.faithful₁ s
  obtain ⟨texts₂, hs₂, h₂⟩ := step_eq h.faithful₂ s
  rw [h₁, h₂]
  exact ⟨h.answer_eq s, congrArg s.functions h.registry, h.hash, h.kept_eq s, hs₁, hs₂⟩

theorem run (h : SameDecisions g₁ g₂) (steps : List Step) :
    (g₁.run steps).map (fun o => (o.1, o.2.results)) =
      (g₂.run steps).map fun o => (o.1, o.2.results) := by
  induction steps generalizing g₁ g₂ with
  | nil => rfl
  | cons s steps ih =>
    obtain ⟨ha, h'⟩ := h.step s
    simp only [Engine.run, List.map_cons, ih h', ha, stats, h'.results]

theorem after (h : SameDecisions g₁ g₂) (steps : List Step) :
    SameDecisions (g₁.after steps) (g₂.after steps) := by
  induction steps generalizing g₁ g₂ with
  | nil => exact h
  | cons s steps ih => exact ih (h.step s).2

end SameDecisions

-- Whatever is kept of the texts, each is read under its grammar as if for the first time.
theorem run_eq_of_results_eq (registry : Registry) (results sources₁ sources₂ : CacheConfig)
    (steps : List Step) :
    let g₁ := Engine.ofConfig ⟨sources₁, results⟩ registry
    let g₂ := Engine.ofConfig ⟨sources₂, results⟩ registry
    ((g₁.run steps).map fun o => (o.1, o.2.results)) =
        ((g₂.run steps).map fun o => (o.1, o.2.results)) ∧
      ∀ text, (Sources.expression text (g₁.after steps).sources).1 = parseExpression text ∧
        (Sources.cell text (g₁.after steps).sources).1 = parseCell text := by
  intro g₁ g₂
  have h : SameDecisions g₁ g₂ := .ofConfig
  refine ⟨h.run steps, fun text => ?_⟩
  have hs := (h.after steps).faithful₁
  exact ⟨(Sources.yields_expression text _ hs).1, (Sources.yields_cell text _ hs).1⟩

end Engine

end Rulebook
