import Rulebook.Proofs.Cache.Clock
import Rulebook.Proofs.Cache.Room
import Rulebook.Proofs.Engine.Run

/-!
Which decisions an engine keeps. Each was taken earlier in the run, of the table and in the context
it is kept for, since everything was last cleared; and with room for all of them each stays.
-/

namespace Rulebook

namespace Engine

def functionsAfter (r : Registry) (steps : List Step) : Registry :=
  steps.foldl Step.functions r

variable {r : Registry} {g : Engine} {t : Table} {context : Context} {steps past : List Step}
  {s : Step}

theorem functionsAfter_append {xs ys : List Step} :
    functionsAfter r (xs ++ ys) = functionsAfter (functionsAfter r xs) ys :=
  List.foldl_append

theorem functionsAfter_evaluate {before between : List Step} :
    functionsAfter r (before ++ .evaluate t context :: between) =
      functionsAfter r (before ++ between) := by
  rw [functionsAfter_append, functionsAfter_append]
  rfl

-- An evaluation finds a decision, or fails, or takes one anew that is then kept.
inductive Consults (g : Engine) (t : Table) (context : Context) :
    Except DecisionError Decision × Results → Prop
  | found {stored : StoredDecision} (holds : g.results.Holds ⟨t, g.hash context⟩ stored)
      (equal : Context.equal stored.context context = true) :
      Consults g t context (.ok stored.decision, (g.results.get ⟨t, g.hash context⟩).2)
  | failed {e : DecisionError} (fresh : t.decision g.registry context = .error e) :
      Consults g t context (.error e, (g.results.get ⟨t, g.hash context⟩).2)
  | taken {d : Decision} (fresh : t.decision g.registry context = .ok d)
      (unknown : ∀ stored, (g.results.get ⟨t, g.hash context⟩).1 = some stored →
        Context.equal stored.context context = false) :
      Consults g t context
        (.ok d, (g.results.get ⟨t, g.hash context⟩).2.insert ⟨t, g.hash context⟩ ⟨context, d⟩)

theorem consults_consult (g : Engine) (t : Table) (context : Context) :
    Consults g t context (g.consult t context) := by
  simp only [consult, Results.find?]
  cases hget : (g.results.get ⟨t, g.hash context⟩).1 with
  | none =>
    simp only [Option.filter_none, Option.map_none]
    cases hd : t.decision g.registry context with
    | error e => exact .failed hd
    | ok d => exact .taken hd (by simp [hget])
  | some stored =>
    cases heq : Context.equal stored.context context with
    | true =>
      simp only [Option.filter_some, heq, ↓reduceIte, Option.map_some]
      exact .found (SwitchedCache.holds_of_get hget) heq
    | false =>
      simp only [Option.filter_some, heq, Bool.false_eq_true, ↓reduceIte, Option.map_none]
      cases hd : t.decision g.registry context with
      | error e => exact .failed hd
      | ok d => exact .taken hd (by simp [hget, heq])

def TakenIn (r : Registry) (past : List Step) (key : ResultKey) (stored : StoredDecision) : Prop :=
  ∃ before between, past = before ++ .evaluate key.table stored.context :: between ∧
    Step.clear ∉ between ∧
    key.table.decision (functionsAfter r before) stored.context = .ok stored.decision

theorem TakenIn.snoc {key : ResultKey} {stored : StoredDecision} (h : TakenIn r past key stored)
    (hs : s ≠ .clear) : TakenIn r (past ++ [s]) key stored := by
  obtain ⟨before, between, rfl, hclear, hd⟩ := h
  refine ⟨before, between ++ [s], by simp, ?_, hd⟩
  simpa [hs.symm] using hclear

structure Remembers (r : Registry) (past : List Step) (g : Engine) : Prop where
  functions : g.registry = functionsAfter r past
  faithful : g.sources.Faithful
  hash : ∀ key stored, g.results.Holds key stored → key.contextHash = g.hash stored.context
  taken : ∀ key stored, g.results.Holds key stored → TakenIn r past key stored

theorem remembers_ofConfig (config : EngineConfig) : Remembers r [] (ofConfig config r) :=
  ⟨rfl, Sources.faithful_ofConfig, fun _ _ h => absurd h SwitchedCache.not_holds_ofConfig,
    fun _ _ h => absurd h SwitchedCache.not_holds_ofConfig⟩

-- What is kept after a step was kept before, or is the decision just taken.
theorem holdsSince_of_kept {key : ResultKey} {stored : StoredDecision} {since now lifetime : Nat}
    (hclock : g.results.Shows now lifetime) (h : (g.kept s).HoldsSince key stored since) :
    (s ≠ .clear ∧ g.results.HoldsSince key stored since) ∨
      ∃ t context d, s = .evaluate t context ∧ key = ⟨t, g.hash context⟩ ∧
        stored = ⟨context, d⟩ ∧ since = now ∧ t.decision g.registry context = .ok d ∧
        ∀ stored, (g.results.get ⟨t, g.hash context⟩).1 = some stored →
          Context.equal stored.context context = false := by
  cases s with
  | evaluate t context =>
    have hr := consults_consult g t context
    simp only [kept] at h
    generalize g.consult t context = outcome at h hr
    cases hr with
    | found | failed => exact .inl ⟨by simp, h.of_get⟩
    | taken hd hunknown =>
      obtain ⟨rfl, rfl, rfl⟩ | h := h.of_insert hclock.get
      · exact .inr ⟨t, context, _, rfl, rfl, rfl, rfl, hd, hunknown⟩
      · exact .inl ⟨by simp, h.of_get⟩
  | expression | register => exact .inl ⟨by simp, h⟩
  | clear => exact absurd h.holds SwitchedCache.not_holds_clear
  | wait duration => exact .inl ⟨by simp, h.of_wait⟩

theorem holds_of_kept {key : ResultKey} {stored : StoredDecision}
    (h : (g.kept s).Holds key stored) : (s ≠ .clear ∧ g.results.Holds key stored) ∨
      ∃ t context d, s = .evaluate t context ∧ key = ⟨t, g.hash context⟩ ∧
        stored = ⟨context, d⟩ ∧ t.decision g.registry context = .ok d := by
  obtain ⟨since, h⟩ := h.exists_since
  obtain ⟨now, lifetime, hclock⟩ := g.results.exists_shows
  obtain ⟨hs, h⟩ | ⟨t, context, d, hs, hkey, hstored, -, hd, -⟩ := holdsSince_of_kept hclock h
  · exact .inl ⟨hs, h.holds⟩
  · exact .inr ⟨t, context, d, hs, hkey, hstored, hd⟩

namespace Remembers

theorem step (h : Remembers r past g) (s : Step) : Remembers r (past ++ [s]) (g.step s).2 where
  functions := by
    rw [registry_step h.faithful, h.functions, functionsAfter_append]
    rfl
  faithful := faithful_step h.faithful s
  hash key stored hk := by
    rw [results_step h.faithful] at hk
    rw [hash_step h.faithful]
    obtain ⟨-, hk⟩ | ⟨t, context, d, -, rfl, rfl, -⟩ := holds_of_kept hk
    · exact h.hash key stored hk
    · rfl
  taken key stored hk := by
    rw [results_step h.faithful] at hk
    obtain ⟨hs, hk⟩ | ⟨t, context, d, rfl, rfl, rfl, hd⟩ := holds_of_kept hk
    · exact (h.taken key stored hk).snoc hs
    · exact ⟨past, [], rfl, by simp, h.functions ▸ hd⟩

theorem after (h : Remembers r past g) (steps : List Step) :
    Remembers r (past ++ steps) (g.after steps) := by
  induction steps generalizing past g with
  | nil => rwa [List.append_nil]
  | cons s steps ih =>
    rw [List.append_cons]
    exact ih (h.step s)

theorem hash_after (h : Remembers r past g) (steps : List Step) :
    (g.after steps).hash = g.hash := by
  induction steps generalizing past g with
  | nil => rfl
  | cons s steps ih => exact (ih (h.step s)).trans (hash_step h.faithful s)

end Remembers

-- Where nothing is kept, nothing will be.
theorem kept_of_off (h : g.results.cache = none) (s : Step) : g.kept s = g.results := by
  cases s with
  | evaluate t context => rw [kept, consult_of_off h]
  | expression | register => rfl
  | clear | wait => exact SwitchedCache.map_of_off h

theorem Remembers.off_after (h : Remembers r past g) (ho : g.results.cache = none)
    (steps : List Step) : (g.after steps).results.cache = none := by
  induction steps generalizing past g with
  | nil => exact ho
  | cons s steps ih =>
    refine ih (h.step s) ?_
    rw [results_step h.faithful, kept_of_off ho, ho]

theorem hasRoom_kept {n : Nat} (h : g.results.HasRoom (n + 1)) (s : Step) :
    (g.kept s).HasRoom n := by
  have h' := h.mono (Nat.le_succ n)
  cases s with
  | evaluate t context =>
    have hr := consults_consult g t context
    simp only [kept]
    generalize g.consult t context = outcome at hr ⊢
    cases hr with
    | found | failed => exact h'.get
    | taken => exact h.get.insert
  | expression | register => exact h'
  | clear => exact h'.map fun _ h => h.clear
  | wait duration => exact h'.map fun _ h => h.wait

theorem Remembers.hasRoom_after {n : Nat} (h : Remembers r past g)
    (hroom : g.results.HasRoom (steps.length + n)) : (g.after steps).results.HasRoom n := by
  induction steps generalizing past g with
  | nil => rwa [List.length_nil, Nat.zero_add] at hroom
  | cons s steps ih =>
    rw [List.length_cons, Nat.add_right_comm] at hroom
    exact ih (h.step s) (results_step h.faithful s ▸ hasRoom_kept hroom s)

variable {key : ResultKey} {stored : StoredDecision} {n : Nat}

-- What is kept stays, unless it is cleared or another context has the same hash.
theorem holds_kept (h : g.results.HasRoom (n + 1)) (hk : g.results.Holds key stored)
    (hs : s ≠ .clear) (hsame : ∀ t context, s = .evaluate t context → key = ⟨t, g.hash context⟩ →
      Context.equal stored.context context = true) : (g.kept s).Holds key stored := by
  cases s with
  | evaluate t context =>
    have hr := consults_consult g t context
    simp only [kept]
    generalize g.consult t context = outcome at hr ⊢
    cases hr with
    | found | failed => exact h.holds_get hk
    | taken _ hunknown =>
      refine h.get.holds_insert_of_ne (h.holds_get hk) ?_
      rintro rfl
      have := hunknown stored (h.get_of_holds hk)
      simp [hsame t context rfl rfl] at this
  | expression | register => exact hk
  | clear => exact absurd rfl hs
  | wait duration => exact hk.wait

theorem Remembers.holds_after (h : Remembers r past g)
    (hroom : g.results.HasRoom (steps.length + n)) (hk : g.results.Holds key stored)
    (hclear : Step.clear ∉ steps) (hsame : ∀ t context, Step.evaluate t context ∈ steps →
      key = ⟨t, g.hash context⟩ → Context.equal stored.context context = true) :
    (g.after steps).results.Holds key stored := by
  induction steps generalizing past g with
  | nil => exact hk
  | cons s steps ih =>
    rw [List.length_cons, Nat.add_right_comm] at hroom
    rw [List.mem_cons, not_or] at hclear
    refine ih (h.step s) ?_ ?_ hclear.2 fun t context hm hkey => ?_
    · rw [results_step h.faithful]
      exact hasRoom_kept hroom s
    · rw [results_step h.faithful]
      exact holds_kept hroom hk (Ne.symm hclear.1) fun t context hs hkey =>
        hsame t context (hs ▸ .head _) hkey
    · exact hsame t context (.tail _ hm) (hash_step h.faithful s ▸ hkey)

theorem consult_of_holds (h : g.results.HasRoom n)
    (hk : g.results.Holds ⟨t, g.hash context⟩ stored)
    (hequal : Context.equal stored.context context = true) :
    (g.consult t context).1 = .ok stored.decision := by
  simp only [consult, Results.find?, h.get_of_holds hk, Option.filter_some, hequal, ↓reduceIte,
    Option.map_some]

theorem holds_of_consult {d : Decision} (h : g.results.HasRoom (n + 1))
    (hself : Context.equal context context = true) (hd : (g.consult t context).1 = .ok d) :
    ∃ stored, (g.kept (.evaluate t context)).Holds ⟨t, g.hash context⟩ stored ∧
      Context.equal stored.context context = true ∧ stored.decision = d := by
  have hr := consults_consult g t context
  simp only [kept]
  generalize g.consult t context = outcome at hr hd ⊢
  cases hr with
  | found hk hequal => cases hd; exact ⟨_, h.holds_get hk, hequal, rfl⟩
  | failed => simp at hd
  | taken => cases hd; exact ⟨_, h.get.holds_insert, hself, rfl⟩

end Engine

end Rulebook
