import Mathlib.Logic.Relation
import Rulebook.Proofs.Syntax.CombinatorAnswers

/-!
The calls of rules and the turns of repetitions that a parser leads to. A rule gets back to itself,
and a repetition to its next turn, with fewer tokens only.
-/

namespace Rulebook.Syntax

variable {ρ : Type} {Output : ρ → Type} {α β : Type} {c d : Bool} {ts us : List Token}

-- Where a rule is called, or another turn of a repetition is made.
inductive Site (Output : ρ → Type) : Type 1
  | rule (r : ρ) (ts : List Token)
  | turn {α : Type} (repetition : Parser Output false (List α)) (ts : List Token)

namespace Site

def tokens : Site Output → List Token
  | rule _ ts | turn _ ts => ts

-- What is done from the tokens left by a success on.
def behind (a : Answer α) (f : List Token → List (Site Output)) : List (Site Output) :=
  match a with
  | .ok _ rest => f rest
  | .fail _ => []

variable {a : Answer α} {f : List Token → List (Site Output)} {s : Site Output}

theorem mem_behind : s ∈ behind a f ↔ ∃ value rest, a = .ok value rest ∧ s ∈ f rest := by
  cases a <;> simp [behind, and_assoc]

end Site

namespace Grammar

variable {G : Grammar Output} {p : Parser Output c α} {s s' : Site Output} {r r' : ρ}

-- The calls and turns that a parser leaves to others, in their order.
def asks (G : Grammar Output) {c : Bool} {α : Type} :
    Parser Output c α → List Token → List (Site Output)
  | .satisfy _, _ | .endOfInput, _ => []
  | .call r, ts => [.rule r ts]
  | .map _ p, ts | .optional p, ts => asks G p ts
  | .pair p q, ts => asks G p ts ++ Site.behind (G.answer p ts) (asks G q)
  | .either p q, ts =>
    asks G p ts ++
      match G.answer p ts with
      | .ok _ _ => []
      | .fail _ => asks G q ts
  | .many p, ts =>
    asks G p ts ++ Site.behind (G.answer p ts) fun rest => [.turn (.many p) rest]
  | .following p q, ts =>
    asks G p ts ++ Site.behind (G.answer p ts) fun rest =>
      asks G q rest ++ Site.behind (G.answer q rest) fun rest => [.turn (.following p q) rest]
  | .separated p q, ts =>
    asks G q ts ++ Site.behind (G.answer q ts) fun rest => [.turn (.following p q) rest]

-- What is called or turned to at one site is so at another one next.
def Leads (G : Grammar Output) : Site Output → Site Output → Prop
  | .rule r ts, s => s ∈ G.asks (G.rule r) ts
  | .turn p ts, s => s ∈ G.asks p ts

-- With the answers at those sites alone a parser gives its answer.
theorem run_eq_of_asks {later : Attempt Output}
    (hrule : ∀ r us, .rule r us ∈ G.asks p ts → later (G.rule r) us = some (G.answer (G.rule r) us))
    (hturn : ∀ {α : Type} (q : Parser Output false (List α)) us, .turn q us ∈ G.asks p ts →
      later q us = some (G.answer q us)) :
    G.run later p ts = some (G.answer p ts) := by
  induction p generalizing ts with
  | satisfy accept? => rw [run, answer_satisfy]
  | endOfInput => rw [run, answer_endOfInput]
  | call r =>
    rw [run, answer_call]
    exact hrule r ts (List.mem_singleton_self _)
  | map f p ih =>
    rw [run, ih hrule hturn, answer_map]
    rfl
  | optional p ih =>
    rw [run, ih hrule hturn, answer_optional]
    rfl
  | pair p q ihp ihq =>
    have hp := ihp (fun r us h => hrule r us (List.mem_append_left _ h))
      fun q us h => hturn q us (List.mem_append_left _ h)
    rw [run, hp, answer_pair, Option.bind_some]
    cases hans : G.answer p ts with
    | fail us => rfl
    | ok first rest =>
      have hmem {s : Site _} (h : s ∈ G.asks q rest) : s ∈ G.asks (.pair p q) ts :=
        List.mem_append_right _ (Site.mem_behind.2 ⟨first, rest, hans, h⟩)
      dsimp only
      rw [ihq (fun r us h => hrule r us (hmem h)) fun q us h => hturn q us (hmem h)]
      rfl
  | either p q ihp ihq =>
    have hp := ihp (fun r us h => hrule r us (List.mem_append_left _ h))
      fun q us h => hturn q us (List.mem_append_left _ h)
    rw [run, hp, answer_either, Option.bind_some]
    cases hans : G.answer p ts with
    | ok value rest => rfl
    | fail us =>
      have hmem {s : Site _} (h : s ∈ G.asks q ts) : s ∈ G.asks (.either p q) ts := by
        rw [asks, hans]
        exact List.mem_append_right _ h
      dsimp only
      rw [ihq (fun r us h => hrule r us (hmem h)) fun q us h => hturn q us (hmem h)]
      rfl
  | many p ih =>
    have hp := ih (fun r us h => hrule r us (List.mem_append_left _ h))
      fun q us h => hturn q us (List.mem_append_left _ h)
    rw [run, hp, answer_many, Option.bind_some]
    cases hans : G.answer p ts with
    | fail us => rfl
    | ok value rest =>
      have hmem : .turn (.many p) rest ∈ G.asks (.many p) ts :=
        List.mem_append_right _
          (Site.mem_behind.2 ⟨value, rest, hans, List.mem_singleton_self _⟩)
      dsimp only
      rw [if_pos (lt_of_ok rfl hans), hturn _ rest hmem]
      rfl
  | following p q ihp ihq =>
    have hp := ihp (fun r us h => hrule r us (List.mem_append_left _ h))
      fun q us h => hturn q us (List.mem_append_left _ h)
    rw [run, hp, answer_following, Option.bind_some]
    cases hans : G.answer p ts with
    | fail us => rfl
    | ok value rest =>
      have hmem {s : Site _} (h : s ∈ G.asks q rest ++ Site.behind (G.answer q rest) fun rest =>
          [.turn (.following p q) rest]) : s ∈ G.asks (.following p q) ts :=
        List.mem_append_right _ (Site.mem_behind.2 ⟨value, rest, hans, h⟩)
      have hq := ihq (fun r us h => hrule r us (hmem (List.mem_append_left _ h)))
        fun q us h => hturn q us (hmem (List.mem_append_left _ h))
      dsimp only
      rw [hq, Option.bind_some]
      cases hans' : G.answer q rest with
      | fail us => rfl
      | ok value' rest' =>
        have hloop := hturn _ rest' (hmem (List.mem_append_right _
          (Site.mem_behind.2 ⟨value', rest', hans', List.mem_singleton_self _⟩)))
        dsimp only
        rw [hloop]
        rfl
  | separated p q ihp ihq =>
    have hq := ihq (fun r us h => hrule r us (List.mem_append_left _ h))
      fun q us h => hturn q us (List.mem_append_left _ h)
    rw [run, hq, answer_separated, Option.bind_some]
    cases hans : G.answer q ts with
    | fail us => rfl
    | ok value rest =>
      have hloop := hturn _ rest (List.mem_append_right _
        (Site.mem_behind.2 ⟨value, rest, hans, List.mem_singleton_self _⟩))
      dsimp only
      rw [hloop]
      rfl

theorem tokens_of_mem_asks (h : s ∈ G.asks p ts) : s.tokens.length < ts.length ∨
    ∃ r, s = .rule r ts ∧ ∀ k, p.startsBelow G.level k → G.level r < k := by
  induction p generalizing ts with
  | satisfy | endOfInput => cases h
  | call r =>
    cases List.mem_singleton.1 h
    exact .inr ⟨r, rfl, fun k => of_decide_eq_true⟩
  | map f p ih | optional p ih => exact ih h
  | @pair c d _ _ p q ihp ihq =>
    obtain h | h := List.mem_append.1 h
    · obtain hlt | ⟨r, rfl, hr⟩ := ihp h
      · exact .inl hlt
      · exact .inr ⟨r, rfl, fun k hk => hr k (Bool.and_eq_true_iff.1 hk).1⟩
    · obtain ⟨value, rest, hp, hmem⟩ := Site.mem_behind.1 h
      have hsuffix := suffix_of_ok hp
      obtain hlt | ⟨r, rfl, hr⟩ := ihq hmem
      · exact .inl (Nat.lt_of_lt_of_le hlt hsuffix.length_le)
      · obtain hlt | heq := Nat.lt_or_eq_of_le hsuffix.length_le
        · exact .inl hlt
        cases hsuffix.eq_of_length heq
        -- The first parser has taken nothing: it is not one that has to.
        have hc : c = false := Bool.eq_false_iff.2 fun hc => Nat.lt_irrefl _ (lt_of_ok hc hp)
        subst hc
        exact .inr ⟨r, rfl, fun k hk => hr k (Bool.and_eq_true_iff.1 hk).2⟩
  | either p q ihp ihq =>
    obtain h | h := List.mem_append.1 h
    · obtain hlt | ⟨r, rfl, hr⟩ := ihp h
      · exact .inl hlt
      · exact .inr ⟨r, rfl, fun k hk => hr k (Bool.and_eq_true_iff.1 hk).1⟩
    · split at h
      · cases h
      · obtain hlt | ⟨r, rfl, hr⟩ := ihq h
        · exact .inl hlt
        · exact .inr ⟨r, rfl, fun k hk => hr k (Bool.and_eq_true_iff.1 hk).2⟩
  | many p ih =>
    obtain h | h := List.mem_append.1 h
    · exact ih h
    · obtain ⟨value, rest, hp, hmem⟩ := Site.mem_behind.1 h
      cases List.mem_singleton.1 hmem
      exact .inl (lt_of_ok rfl hp)
  | following p q ihp ihq =>
    obtain h | h := List.mem_append.1 h
    · exact ihp h
    · obtain ⟨_, rest, hp, hmem⟩ := Site.mem_behind.1 h
      have hrest := lt_of_ok rfl hp
      obtain hmem | hmem := List.mem_append.1 hmem
      · obtain hlt | ⟨r, rfl, -⟩ := ihq hmem
        · exact .inl (Nat.lt_trans hlt hrest)
        · exact .inl hrest
      · obtain ⟨value, rest', hq, hmem⟩ := Site.mem_behind.1 hmem
        cases List.mem_singleton.1 hmem
        exact .inl (Nat.lt_trans (lt_of_ok rfl hq) hrest)
  | separated p q ihp ihq =>
    obtain h | h := List.mem_append.1 h
    · exact ihq h
    · obtain ⟨value, rest, hq, hmem⟩ := Site.mem_behind.1 h
      cases List.mem_singleton.1 hmem
      exact .inl (lt_of_ok rfl hq)

theorem Leads.tokens_le (h : G.Leads s s') : s'.tokens.length ≤ s.tokens.length := by
  cases s <;> obtain hlt | ⟨r, rfl, -⟩ := tokens_of_mem_asks h
  · exact Nat.le_of_lt hlt
  · exact Nat.le_refl _
  · exact Nat.le_of_lt hlt
  · exact Nat.le_refl _

-- Every repetition makes progress.
theorem Leads.turn_lt {q : Parser Output false (List α)} (h : G.Leads s (.turn q us)) :
    us.length < s.tokens.length := by
  cases s <;> obtain hlt | ⟨r, heq, -⟩ := tokens_of_mem_asks h
  · exact hlt
  · cases heq
  · exact hlt
  · cases heq

theorem tokens_of_transGen_leads (h : Relation.TransGen G.Leads (.rule r ts) s) :
    s.tokens.length < ts.length ∨ ∃ r', s = .rule r' ts ∧ G.level r' < G.level r := by
  induction h with
  | single h =>
    obtain hlt | ⟨r', rfl, hr⟩ := tokens_of_mem_asks h
    · exact .inl hlt
    · exact .inr ⟨r', rfl, hr _ (G.descends r)⟩
  | tail _ h ih =>
    obtain hlt | ⟨r', rfl, hr'⟩ := ih
    · exact .inl (Nat.lt_of_le_of_lt h.tokens_le hlt)
    · obtain hlt | ⟨r'', rfl, hr⟩ := tokens_of_mem_asks h
      · exact .inl hlt
      · exact .inr ⟨r'', rfl, Nat.lt_trans (hr _ (G.descends r')) hr'⟩

-- Every cycle takes a token.
theorem lt_of_transGen_leads (h : Relation.TransGen G.Leads (.rule r ts) (.rule r us)) :
    us.length < ts.length := by
  obtain hlt | ⟨r', heq, hr⟩ := tokens_of_transGen_leads h
  · exact hlt
  · cases heq
    exact absurd hr (Nat.lt_irrefl _)

end Grammar

end Rulebook.Syntax
