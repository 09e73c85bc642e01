import Rulebook.Proofs.Engine.Memory
import Rulebook.Proofs.Value.Digest

/-!
When the decisions that are kept change no answer. A decision is given again for the same table and
an equal context, so that the answers of a run stay what they would be without it exactly if no
later evaluation of this kind would decide otherwise.
-/

namespace Rulebook

namespace Engine

-- What a step answers where nothing is kept.
def Step.freshAnswer (r : Registry) : Step → Answer
  | .evaluate table context => .decision (table.decision r context)
  | .expression text context => .value (Rulebook.evaluateText r text context)
  | .register f =>
    match r.register f with
    | .ok _ => .registered none
    | .error fault => .registered (some fault)
  | .clear | .wait _ => .done

def freshAnswers (r : Registry) : List Step → List Answer
  | [] => []
  | s :: steps => s.freshAnswer r :: freshAnswers (s.functions r) steps

-- A decision taken of a table in one context is, until everything kept is cleared, also the one
-- that would be taken of it in an equal context.
def Steady (r : Registry) (steps : List Step) : Prop :=
  ∀ before table context between context' rest,
    steps = before ++ .evaluate table context :: (between ++ .evaluate table context' :: rest) →
    Step.clear ∉ between → Context.equal context context' = true →
    ∀ d, table.decision (functionsAfter r before) context = .ok d →
      table.decision (functionsAfter r (before ++ between)) context' = .ok d

-- The contexts that are evaluated in have no name twice.
def Step.UniqueKeys : Step → Prop
  | .evaluate _ context => Value.UniqueKeys (.context context)
  | _ => True

variable {r : Registry} {g : Engine} {config : EngineConfig} {steps past : List Step} {s : Step}

theorem map_fst_run_eq_iff :
    (g.run steps).map (·.1) = freshAnswers r steps ↔
      ∀ before s rest, steps = before ++ s :: rest →
        ((g.after before).step s).1 = s.freshAnswer (functionsAfter r before) := by
  induction steps generalizing g r with
  | nil => simp [run, freshAnswers]
  | cons s steps ih =>
    simp only [run, freshAnswers, List.map_cons, List.cons.injEq, ih]
    constructor
    · rintro ⟨h, hs⟩ before s' rest heq
      cases before with
      | nil => cases heq; exact h
      | cons s₀ before => cases heq; exact hs before s' rest rfl
    · intro h
      refine ⟨h [] s steps rfl, fun before s' rest heq => ?_⟩
      exact h (s :: before) s' rest (congrArg (s :: ·) heq)

theorem answer_eq_freshAnswer (h : ∀ t context stored, s = .evaluate t context →
    g.results.Holds ⟨t, g.hash context⟩ stored → Context.equal stored.context context = true →
      t.decision g.registry context = .ok stored.decision) :
    g.answer s = s.freshAnswer g.registry := by
  cases s with
  | evaluate t context =>
    have hr := consults_consult g t context
    simp only [answer, Step.freshAnswer]
    generalize g.consult t context = outcome at hr ⊢
    cases hr with
    | found hk hequal => rw [h t context _ rfl hk hequal]
    | failed hd | taken hd => rw [hd]
  | expression | register | clear | wait => rfl

theorem Steady.map_fst_run_eq (h : Steady r steps) :
    ((ofConfig config r).run steps).map (·.1) = freshAnswers r steps := by
  refine map_fst_run_eq_iff.2 fun before s rest heq => ?_
  have hrem : Remembers r before _ := (remembers_ofConfig config).after before
  rw [fst_step hrem.faithful, ← hrem.functions]
  refine answer_eq_freshAnswer ?_
  rintro t context stored rfl hk hequal
  obtain ⟨before', between, hpast, hclear, hd⟩ := hrem.taken _ _ hk
  have hsteps : steps = before' ++ .evaluate t stored.context ::
      (between ++ .evaluate t context :: rest) := by simp [heq, hpast]
  have hfunctions : functionsAfter r before = functionsAfter r (before' ++ between) := by
    rw [hpast, functionsAfter_evaluate]
  rw [hrem.functions, hfunctions]
  exact h before' t _ between context rest hsteps hclear hequal _ hd

theorem map_fst_run_eq_of_off (h : config.results.enabled = false) :
    ((ofConfig config r).run steps).map (·.1) = freshAnswers r steps := by
  refine map_fst_run_eq_iff.2 fun before s rest _ => ?_
  have hrem : Remembers r [] (ofConfig config r) := remembers_ofConfig _
  have hoff : (ofConfig config r).results.cache = none := by
    simp [ofConfig, SwitchedCache.ofConfig, h]
  have hrem' : Remembers r before _ := hrem.after before
  rw [fst_step hrem'.faithful, ← hrem'.functions]
  refine answer_eq_freshAnswer fun _ _ _ _ hk => ?_
  exact absurd hk (SwitchedCache.not_holds_of_off (hrem.off_after hoff before))

-- A context that equals some other one equals every context of its hash.
theorem equal_of_digest_eq {a b c : Context} (ha : Value.UniqueKeys (.context a))
    (hb : Value.UniqueKeys (.context b)) (hc : Value.UniqueKeys (.context c))
    (hac : Context.equal a c = true) (h : Context.digest a = Context.digest b) :
    Context.equal a b = true :=
  Value.equal_of_digest_eq ha hb (Value.equal_self_of_equal ha hc hac) h

-- With room for all of them every decision is found again.
theorem steady_of_map_fst_run_eq (config : EngineConfig) (hu : ∀ s ∈ steps, s.UniqueKeys)
    (hroom : (ofConfig config r).results.HasRoom steps.length)
    (h : ((ofConfig config r).run steps).map (·.1) = freshAnswers r steps) : Steady r steps := by
  rintro before t c between c' rest rfl hclear hequal d hd
  rw [map_fst_run_eq_iff] at h
  have huc : Value.UniqueKeys (.context c) := hu (.evaluate t c) (by simp)
  have huc' : Value.UniqueKeys (.context c') := hu (.evaluate t c') (by simp)
  have hrem : Remembers r [] (ofConfig config r) := remembers_ofConfig _
  have hash_eq : (ofConfig config r).hash = Context.digest := rfl
  generalize ofConfig config r = g at *
  -- The first of the two evaluations leaves its decision behind.
  have hrem₁ : Remembers r before (g.after before) := hrem.after before
  have hash₁ : (g.after before).hash = Context.digest := (hrem.hash_after before).trans hash_eq
  have hroom₁ : (g.after before).results.HasRoom (between.length + (rest.length + 1) + 1) :=
    hrem.hasRoom_after (by simpa [Nat.add_assoc, Nat.add_comm] using hroom)
  have hanswer := h before (.evaluate t c) _ rfl
  rw [fst_step hrem₁.faithful] at hanswer
  simp only [answer, Step.freshAnswer, hd, Answer.decision.injEq] at hanswer
  obtain ⟨stored, hk, hstored, rfl⟩ :=
    holds_of_consult hroom₁ (Value.equal_self_of_equal huc huc' hequal) hanswer
  have hrem₂ := hrem₁.step (.evaluate t c)
  have hash₂ := (hash_step hrem₁.faithful (.evaluate t c)).trans hash₁
  have hroom₂ := hasRoom_kept hroom₁ (.evaluate t c)
  rw [← results_step hrem₁.faithful] at hk hroom₂
  have hafter : g.after (before ++ .evaluate t c :: between) =
      ((g.after before).step (.evaluate t c)).2.after between := after_append ..
  generalize ((g.after before).step (.evaluate t c)).2 = g₂ at *
  -- It is still there at the second, since any context of its hash equals the one it is kept for.
  have hdigest : Context.digest c = Context.digest stored.context := by
    have := hrem₂.hash _ _ hk
    rwa [hash₁, hash₂] at this
  have hustored : Value.UniqueKeys (.context stored.context) := by
    obtain ⟨before', between', hpast, -, -⟩ := hrem₂.taken _ _ hk
    have hmem : Step.evaluate t stored.context ∈ before ++ [.evaluate t c] := hpast ▸ by simp
    refine hu (.evaluate t stored.context) ?_
    simp only [List.mem_append, List.mem_cons, List.not_mem_nil, or_false] at hmem ⊢
    exact hmem.imp_right .inl
  have hsame {c'' : Context} (hu'' : Value.UniqueKeys (.context c''))
      (h : Context.digest c = Context.digest c'') : Context.equal stored.context c'' = true :=
    equal_of_digest_eq hustored hu'' huc hstored (hdigest.symm.trans h)
  have hk₃ := hrem₂.holds_after hroom₂ hk hclear fun t' c'' hmem hkey => by
    obtain ⟨rfl, hhash⟩ := ResultKey.mk.inj hkey
    rw [hash₁, hash₂] at hhash
    exact hsame (hu (.evaluate t c'') (by simp [hmem])) hhash
  have hroom₃ := hrem₂.hasRoom_after hroom₂
  have hash₃ := (hrem₂.hash_after between).trans hash₂
  have hanswer' := h (before ++ .evaluate t c :: between) (.evaluate t c') rest (by simp)
  rw [hafter, fst_step (hrem₂.after between).faithful, functionsAfter_evaluate] at hanswer'
  have hcc' : Context.digest c = Context.digest c' := Value.digest_eq_of_equal huc huc' hequal
  have hk' : (g₂.after between).results.Holds ⟨t, (g₂.after between).hash c'⟩ stored := by
    rwa [hash₃, ← hcc', ← hash₁]
  have hfound := consult_of_holds hroom₃ hk' (hsame huc' hcc')
  simp only [answer, Step.freshAnswer, hfound, Answer.decision.injEq] at hanswer'
  exact hanswer'.symm

theorem map_fst_run_eq_iff_steady (hu : ∀ s ∈ steps, s.UniqueKeys) :
    (∀ sources results₁ results₂ : CacheConfig,
      ((ofConfig ⟨sources, results₁⟩ r).run steps).map (·.1) =
        ((ofConfig ⟨sources, results₂⟩ r).run steps).map (·.1)) ↔ Steady r steps := by
  constructor
  · intro h
    refine steady_of_map_fst_run_eq ⟨{}, ⟨true, steps.length, 0⟩⟩ hu
      SwitchedCache.hasRoom_ofConfig ?_
    exact (h _ _ ⟨false, 0, 0⟩).trans (map_fst_run_eq_of_off rfl)
  · exact fun h _ _ _ => h.map_fst_run_eq.trans h.map_fst_run_eq.symm

-- A function that arrives after a decision in which the call of it did not match.
def lateFunction : Function := ⟨"f", .exact 0, false, fun _ => .ok (.boolean true)⟩

def lateContext : Context := [("x", .boolean true)]

def lateTable : Table :=
  ⟨"t", .first, [.input "x"], [.output "o"], [⟨"r", ["f()"], [""]⟩], by decide⟩

def lateSteps : List Step :=
  [.evaluate lateTable lateContext, .register lateFunction, .evaluate lateTable lateContext]

theorem not_steady_lateSteps : ¬Steady .empty lateSteps := by
  intro h
  have h₁ : (lateTable.decision .empty lateContext).toOption.map (·.rules) = some [] := by
    decide +kernel
  have h₂ : (lateTable.decision (functionsAfter .empty [.register lateFunction])
      lateContext).toOption.map (·.rules) = some ["r"] := by
    decide +kernel
  have heq := h [] lateTable lateContext [.register lateFunction] lateContext [] rfl (by simp)
    (by decide +kernel)
  cases hd : lateTable.decision .empty lateContext with
  | error e => simp [hd, Except.toOption] at h₁
  | ok d =>
    have hd' : lateTable.decision (functionsAfter .empty [.register lateFunction]) lateContext =
        .ok d := heq d hd
    simp [hd, hd', Except.toOption] at h₁ h₂
    simp [h₁] at h₂

theorem map_fst_run_eq_iff_steady_lateSteps :
    (∀ s ∈ lateSteps, s.UniqueKeys) ∧ ¬∀ sources results₁ results₂ : CacheConfig,
      ((ofConfig ⟨sources, results₁⟩ .empty).run lateSteps).map (·.1) =
        ((ofConfig ⟨sources, results₂⟩ .empty).run lateSteps).map (·.1) := by
  have hu : ∀ s ∈ lateSteps, s.UniqueKeys := by
    simp [lateSteps, lateContext, Step.UniqueKeys, Context.keys, Value.UniqueKeys,
      Value.UniqueInEntries]
  exact ⟨hu, fun h => not_steady_lateSteps ((map_fst_run_eq_iff_steady hu).1 h)⟩

end Engine

end Rulebook
