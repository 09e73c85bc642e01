import Rulebook.Proofs.Engine.Memory

/-!
Where the decisions that are given again come from. Whatever the hash, and also where it is one for
contexts that differ, each was taken anew at an earlier step, of the same table and in an equal
context, since everything was last cleared and within the lifetime of what is kept.
-/

namespace Rulebook

namespace Engine

-- The decision that is found again, if any.
def recalled (g : Engine) (t : Table) (context : Context) : Option Decision :=
  (Results.find? g.results ⟨t, g.hash context⟩ context).1

-- The time a step takes.
def Step.duration : Step → Nat
  | .wait duration => duration
  | _ => 0

def elapsed : List Step → Nat
  | [] => 0
  | s :: steps => s.duration + elapsed steps

-- An engine that has done nothing yet, with any hash of contexts.
def withHash (config : EngineConfig) (hash : Context → List Digest) (r : Registry) : Engine :=
  { ofConfig config r with hash := hash }

variable {g : Engine} {t : Table} {context : Context} {past : List Step} {s : Step} {d : Decision}
  {key : ResultKey} {stored : StoredDecision} {since now lifetime : Nat}

theorem recalled_eq_some_iff : g.recalled t context = some d ↔
    ∃ stored, (g.results.get ⟨t, g.hash context⟩).1 = some stored ∧
      Context.equal stored.context context = true ∧ stored.decision = d := by
  simp only [recalled, Results.find?, Option.map_eq_some_iff, Option.filter_eq_some_iff, and_assoc]

theorem recalled_eq_none (h : ∀ stored, (g.results.get ⟨t, g.hash context⟩).1 = some stored →
    Context.equal stored.context context = false) : g.recalled t context = none := by
  rw [Option.eq_none_iff_forall_ne_some]
  intro d hd
  obtain ⟨stored, hget, hequal, -⟩ := recalled_eq_some_iff.1 hd
  simp [h stored hget] at hequal

theorem fst_consult (g : Engine) (t : Table) (context : Context) : (g.consult t context).1 =
    match g.recalled t context with
    | some d => .ok d
    | none => t.decision g.registry context := by
  simp only [consult, recalled]
  rcases Results.find? g.results ⟨t, g.hash context⟩ context with ⟨_ | d, results⟩
  · cases t.decision g.registry context <;> rfl
  · rfl

theorem elapsed_append (xs ys : List Step) : elapsed (xs ++ ys) = elapsed xs + elapsed ys := by
  induction xs with
  | nil => exact (Nat.zero_add _).symm
  | cons s xs ih => rw [List.cons_append, elapsed, elapsed, ih, Nat.add_assoc]

-- A decision that is kept was taken anew at that time, and nothing was cleared since.
def TakenAt (start : Engine) (past : List Step) (key : ResultKey) (stored : StoredDecision)
    (since : Nat) : Prop :=
  ∃ before between, past = before ++ .evaluate key.table stored.context :: between ∧
    Step.clear ∉ between ∧ since = elapsed before ∧
    (start.after before).recalled key.table stored.context = none ∧
    key.table.decision (start.after before).registry stored.context = .ok stored.decision

theorem TakenAt.snoc {start : Engine} (h : TakenAt start past key stored since)
    (hs : s ≠ .clear) : TakenAt start (past ++ [s]) key stored since := by
  obtain ⟨before, between, rfl, hclear, hrest⟩ := h
  refine ⟨before, between ++ [s], by simp, ?_, hrest⟩
  simpa [hs.symm] using hclear

-- What a run from this start leaves behind.
structure Dates (start : Engine) (lifetime : Nat) (past : List Step) : Prop where
  faithful : (start.after past).sources.Faithful
  clock : (start.after past).results.Shows (elapsed past) lifetime
  taken : ∀ key stored since, (start.after past).results.HoldsSince key stored since →
    TakenAt start past key stored since

theorem shows_kept (h : g.results.Shows now lifetime) (s : Step) :
    (g.kept s).Shows (now + s.duration) lifetime := by
  cases s with
  | evaluate t context =>
    have hr := consults_consult g t context
    simp only [kept]
    generalize g.consult t context = outcome at hr ⊢
    cases hr with
    | found | failed => exact h.get
    | taken => exact h.get.insert
  | expression | register => exact h
  | clear => exact h.clear
  | wait duration => exact h.wait

namespace Dates

variable {config : EngineConfig} {hash : Context → List Digest} {r : Registry} {start : Engine}

theorem nil : Dates (withHash config hash r) config.results.lifetime [] where
  faithful := Sources.faithful_ofConfig
  clock := SwitchedCache.shows_ofConfig
  taken _ _ _ h := absurd h.holds SwitchedCache.not_holds_ofConfig

theorem snoc (h : Dates start lifetime past) (s : Step) :
    Dates start lifetime (past ++ [s]) := by
  have hafter : start.after (past ++ [s]) = ((start.after past).step s).2 := after_append ..
  refine ⟨?_, ?_, fun key stored since hk => ?_⟩
  · rw [hafter]
    exact faithful_step h.faithful s
  · rw [hafter, results_step h.faithful, elapsed_append]
    simpa [elapsed] using shows_kept h.clock s
  · rw [hafter, results_step h.faithful] at hk
    obtain ⟨hs, hk⟩ | ⟨t, context, d, rfl, rfl, rfl, rfl, hd, hunknown⟩ :=
      holdsSince_of_kept h.clock hk
    · exact (h.taken key stored since hk).snoc hs
    · exact ⟨past, [], rfl, by simp, rfl, recalled_eq_none hunknown, hd⟩

theorem after (h : Dates start lifetime past) (steps : List Step) :
    Dates start lifetime (past ++ steps) := by
  induction steps generalizing past with
  | nil => rwa [List.append_nil]
  | cons s steps ih =>
    rw [List.append_cons]
    exact ih (h.snoc s)

end Dates

-- A failure leaves nothing that was not kept before.
theorem holdsSince_of_consult_error {e : DecisionError} (he : (g.consult t context).1 = .error e)
    (h : (g.consult t context).2.HoldsSince key stored since) :
    g.results.HoldsSince key stored since := by
  have hr := consults_consult g t context
  generalize g.consult t context = outcome at he h hr
  cases hr with
  | failed => exact h.of_get
  | found | taken => simp at he

-- With room for it, the answer to an evaluation is found again in an equal context of its hash.
theorem recalled_step {n : Nat} {context' : Context} (hg : g.sources.Faithful)
    (hroom : g.results.HasRoom (n + 1)) (hself : Context.equal context context = true)
    (hequal : Context.equal context context' = true) (hhash : g.hash context' = g.hash context)
    (hd : (g.consult t context).1 = .ok d) :
    (g.step (.evaluate t context)).2.recalled t context' = some d := by
  obtain ⟨stored, hk, hstored, rfl⟩ := holds_of_consult hroom hself hd
  refine recalled_eq_some_iff.2 ⟨stored, ?_, Value.equal_trans hstored hequal, rfl⟩
  rw [hash_step hg, results_step hg, hhash]
  exact (hasRoom_kept hroom _).get_of_holds hk

theorem taken_of_recalled (config : EngineConfig) (hash : Context → List Digest) (r : Registry)
    (past : List Step) (t : Table) (context : Context) :
    let start := withHash config hash r
    let g := start.after past
    (g.recalled t context = none → (g.evaluate t context).1 = t.decision g.registry context) ∧
    (∀ d, g.recalled t context = some d → (g.evaluate t context).1 = .ok d ∧
      ∃ before context' between, past = before ++ .evaluate t context' :: between ∧
        Step.clear ∉ between ∧ Context.equal context' context = true ∧
        (config.results.lifetime = 0 ∨ elapsed between < config.results.lifetime) ∧
        (start.after before).recalled t context' = none ∧
        t.decision (start.after before).registry context' = .ok d ∧
        ((start.after before).evaluate t context').1 = .ok d) ∧
    ∀ e, (g.evaluate t context).1 = .error e → ∀ key stored since,
      (g.evaluate t context).2.results.HoldsSince key stored since →
        g.results.HoldsSince key stored since := by
  intro start g
  have hdates : Dates start config.results.lifetime past := Dates.nil.after past
  have hanswer : (g.evaluate t context).1 = (g.consult t context).1 :=
    fst_evaluate hdates.faithful t context
  refine ⟨fun hnone => ?fresh, fun d hd => ⟨?answer, ?origin⟩,
    fun e he key stored since hk => ?failure⟩
  case fresh => rw [hanswer, fst_consult, hnone]
  case answer => rw [hanswer, fst_consult, hd]
  case origin =>
    obtain ⟨stored, hget, hequal, rfl⟩ := recalled_eq_some_iff.1 hd
    obtain ⟨since, hk, hfresh⟩ := SwitchedCache.holdsSince_of_get hdates.clock hget
    obtain ⟨before, between, hpast, hclear, rfl, hnone, hd⟩ := hdates.taken _ _ _ hk
    have hdates' : Dates start config.results.lifetime before := Dates.nil.after before
    have helapsed : elapsed past = elapsed before + elapsed between := by
      simp only [hpast, elapsed_append, elapsed, Step.duration, Nat.zero_add]
    refine ⟨before, stored.context, between, hpast, hclear, hequal, ?_, hnone, hd, ?_⟩
    · exact hfresh.imp_right fun h => by omega
    · rw [fst_evaluate hdates'.faithful, fst_consult, hnone]
      exact hd
  case failure =>
    rw [results_evaluate hdates.faithful] at hk
    exact holdsSince_of_consult_error (hanswer ▸ he) hk

-- A context and the same one in another order, beside one that differs but has their hash as well.
def orderedContext : Context := [("x", .boolean true), ("y", .null)]

def reorderedContext : Context := [("y", .null), ("x", .boolean true)]

def collidingContext : Context := [("x", .null)]

def readTable : Table :=
  ⟨"t", .first, [], [.output "o"], [⟨"r", [], ["x"]⟩], by decide⟩

theorem taken_of_recalled_reordered :
    let start := withHash ⟨{}, ⟨true, 2, 0⟩⟩ (fun _ => []) .empty
    let past := [.evaluate readTable collidingContext, .evaluate readTable orderedContext]
    ∃ d, (start.after past).recalled readTable reorderedContext = some d ∧
      ((start.after past).evaluate readTable reorderedContext).1 = .ok d := by
  intro start past
  have hstart : start.sources.Faithful := Sources.faithful_ofConfig
  have hroom : start.results.HasRoom 2 := SwitchedCache.hasRoom_ofConfig
  have hroom₁ := hasRoom_kept hroom (.evaluate readTable collidingContext)
  have hstart₁ := faithful_step hstart (.evaluate readTable collidingContext)
  have hregistry := registry_step hstart (.evaluate readTable collidingContext)
  have hhash := hash_step hstart (.evaluate readTable collidingContext)
  rw [← results_step hstart] at hroom₁
  obtain ⟨fresh, hfresh⟩ : ∃ d, readTable.decision .empty orderedContext = .ok d := by
    have h : (readTable.decision .empty orderedContext).toOption.isSome = true := by
      decide +kernel
    cases hd : readTable.decision .empty orderedContext with
    | error e => simp [hd, Except.toOption] at h
    | ok d => exact ⟨d, rfl⟩
  obtain ⟨d, hd⟩ : ∃ d, ((start.after [.evaluate readTable collidingContext]).consult readTable
      orderedContext).1 = .ok d := by
    rw [fst_consult]
    split
    case h_1 d _ => exact ⟨d, rfl⟩
    case h_2 => exact ⟨fresh, hregistry ▸ hfresh⟩
  have hrecalled : (start.after past).recalled readTable reorderedContext = some d :=
    recalled_step hstart₁ hroom₁ (by decide +kernel) (by decide +kernel) (by rw [hhash]; rfl) hd
  exact ⟨d, hrecalled, ((taken_of_recalled _ _ _ past _ _).2.1 d hrecalled).1⟩

end Engine

end Rulebook
