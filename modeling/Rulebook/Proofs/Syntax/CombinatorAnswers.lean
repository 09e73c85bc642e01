import Rulebook.Proofs.Syntax.Combinators

/-!
The answers of parsers made of smaller ones. Of two parsers one that fails at the first token leaves
the answer to the other one, and so does a repetition that stops there.
-/

namespace Rulebook.Syntax

namespace Answer

variable {α β γ : Type} {a : Answer α} {ts us vs : List Token}

@[simp] theorem andThen_ok {f : α → List Token → Answer β} {value : α} :
    (ok value ts).andThen f = f value ts :=
  rfl

@[simp] theorem andThen_fail {f : α → List Token → Answer β} : (fail ts).andThen f = fail ts :=
  rfl

@[simp] theorem map_ok {f : α → β} {value : α} : (ok value ts).map f = ok (f value) ts :=
  rfl

@[simp] theorem map_fail {f : α → β} : (fail ts).map f = fail ts :=
  rfl

@[simp] theorem map_map {f : α → β} {g : β → γ} : (a.map f).map g = a.map fun x => g (f x) := by
  cases a <;> rfl

@[simp] theorem map_self : (a.map fun x => x) = a := by
  cases a <;> rfl

@[simp] theorem map_andThen {f : α → List Token → Answer β} {g : β → γ} :
    (a.andThen f).map g = a.andThen fun value rest => (f value rest).map g := by
  cases a <;> rfl

@[simp] theorem andThen_map {f : α → β} {g : β → List Token → Answer γ} :
    (a.map f).andThen g = a.andThen fun value rest => g (f value) rest := by
  cases a <;> rfl

@[simp] theorem andThen_assoc {f : α → List Token → Answer β} {g : β → List Token → Answer γ} :
    (a.andThen f).andThen g = a.andThen fun value rest => (f value rest).andThen g := by
  cases a <;> rfl

-- A failure is not at `ts` itself.
def Started (ts : List Token) : Answer α → Prop
  | ok _ _ => True
  | fail rest => rest.length < ts.length

theorem unlessTaken_self {value : α} : unlessTaken ts ts value = ok value ts :=
  if_neg (Nat.lt_irrefl _)

theorem unlessTaken_of_lt {value : α} (h : us.length < ts.length) :
    unlessTaken ts us value = fail us :=
  if_pos h

theorem furthest_left (h : vs <:+ ts) : (furthest ts ts vs : Answer α) = fail vs := by
  unfold furthest
  obtain hlt | heq := Nat.lt_or_eq_of_le h.length_le
  · rw [if_pos (.inr hlt), if_pos hlt]
  · rw [h.eq_of_length heq, if_neg (by simp)]

theorem furthest_right (h : us <:+ ts) : (furthest ts us ts : Answer α) = fail us := by
  unfold furthest
  obtain hlt | heq := Nat.lt_or_eq_of_le h.length_le
  · rw [if_pos (.inl hlt), if_neg (Nat.not_lt_of_lt hlt)]
  · rw [h.eq_of_length heq, if_neg (by simp)]

end Answer

variable {ρ : Type} {Output : ρ → Type} {α β : Type} {c d : Bool}

-- The parser fails at `t` itself, if the calls of the rules that are `known` do.
def Parser.refuses (known : ρ → Bool) (t : Token) {c : Bool} {α : Type} : Parser Output c α → Bool
  | satisfy accept? => (accept? t).isNone
  | call r => known r
  | map _ p | pair p _ => p.refuses known t
  | either p q => p.refuses known t && q.refuses known t
  | _ => false

theorem accept_of_isNone {accept? : Token → Option α} {t : Token} {ts : List Token}
    (h : (accept? t).isNone) : accept accept? (t :: ts) = .fail (t :: ts) := by
  rw [accept, Option.isNone_iff_eq_none.1 h]

namespace Grammar

variable {G : Grammar Output} {p : Parser Output c α} {q : Parser Output d β} {ts us : List Token}
  {f : α → β} {r : ρ} {n : Nat}

@[simp] theorem answer_satisfy {accept? : Token → Option α} :
    G.answer (.satisfy accept?) ts = accept accept? ts := by
  have h := run_answer (G := G) (.satisfy accept?) ts
  exact (Option.some.inj h).symm

@[simp] theorem answer_endOfInput :
    G.answer .endOfInput ts = if ts = [] then .ok () ts else .fail ts := by
  have h := run_answer (G := G) .endOfInput ts
  exact (Option.some.inj h).symm

@[simp] theorem answer_call : G.answer (.call r) ts = G.answer (G.rule r) ts := by
  have h := run_answer (G := G) (.call r) ts
  exact (Option.some.inj h).symm

@[simp] theorem answer_map : G.answer (.map f p) ts = (G.answer p ts).map f := by
  have h := run_answer (G := G) (.map f p) ts
  rw [run, run_answer] at h
  exact (Option.some.inj h).symm

@[simp] theorem answer_pair : G.answer (.pair p q) ts =
    (G.answer p ts).andThen fun first rest => (G.answer q rest).map (first, ·) := by
  have h := run_answer (G := G) (.pair p q) ts
  rw [run, run_answer, Option.bind_some] at h
  cases hp : G.answer p ts with
  | fail us =>
    rw [hp] at h
    exact (Option.some.inj h).symm
  | ok first rest =>
    rw [hp] at h
    dsimp only at h
    rw [run_answer] at h
    exact (Option.some.inj h).symm

theorem answer_either {q : Parser Output d α} : G.answer (.either p q) ts =
    match G.answer p ts with
    | .ok value rest => .ok value rest
    | .fail us =>
      match G.answer q ts with
      | .ok value rest => .ok value rest
      | .fail vs => .furthest ts us vs := by
  have h := run_answer (G := G) (.either p q) ts
  rw [run, run_answer, Option.bind_some, run_answer] at h
  cases hp : G.answer p ts <;> rw [hp] at h
  · exact (Option.some.inj h).symm
  · exact (Option.some.inj h).symm

theorem answer_either_of_ok {q : Parser Output d α} {value : α} (h : G.answer p ts = .ok value us) :
    G.answer (.either p q) ts = .ok value us := by
  rw [answer_either, h]

theorem answer_either_of_fail_left {q : Parser Output d α} (h : G.answer p ts = .fail ts) :
    G.answer (.either p q) ts = G.answer q ts := by
  rw [answer_either, h]
  cases hq : G.answer q ts with
  | ok value rest => rfl
  | fail vs => exact Answer.furthest_left (suffix_of_fail hq)

theorem answer_either_of_fail_right {q : Parser Output d α} (h : G.answer q ts = .fail ts) :
    G.answer (.either p q) ts = G.answer p ts := by
  rw [answer_either, h]
  cases hp : G.answer p ts with
  | ok value rest => rfl
  | fail us => exact Answer.furthest_right (suffix_of_fail hp)

theorem answer_optional : G.answer (.optional p) ts =
    match G.answer p ts with
    | .ok value rest => .ok (some value) rest
    | .fail us => .unlessTaken ts us none := by
  have h := run_answer (G := G) (.optional p) ts
  rw [run, run_answer] at h
  exact (Option.some.inj h).symm

theorem answer_many {p : Parser Output true α} : G.answer (.many p) ts =
    match G.answer p ts with
    | .ok value rest => (G.answer (.many p) rest).map (value :: ·)
    | .fail us => .unlessTaken ts us [] := by
  have h := run_answer (G := G) (.many p) ts
  rw [run, run_answer, Option.bind_some] at h
  cases hp : G.answer p ts <;> rw [hp] at h
  · dsimp only at h
    rw [if_pos (lt_of_ok rfl hp)] at h
    exact (Option.some.inj h).symm
  · exact (Option.some.inj h).symm

theorem answer_following {separator : Parser Output true Unit} {item : Parser Output true α} :
    G.answer (.following separator item) ts =
    match G.answer separator ts with
    | .ok _ rest => (G.answer item rest).andThen fun value rest =>
        (G.answer (.following separator item) rest).map (value :: ·)
    | .fail _ => .ok [] ts := by
  have h := run_answer (G := G) (.following separator item) ts
  rw [run, run_answer, Option.bind_some] at h
  cases hs : G.answer separator ts with
  | fail us =>
    rw [hs] at h
    exact (Option.some.inj h).symm
  | ok _ rest =>
    rw [hs] at h
    dsimp only at h ⊢
    rw [run_answer, Option.bind_some] at h
    cases hi : G.answer item rest <;> rw [hi] at h <;> exact (Option.some.inj h).symm

theorem answer_separated {separator : Parser Output true Unit} {item : Parser Output true α} :
    G.answer (.separated separator item) ts =
    match G.answer item ts with
    | .ok value rest => (G.answer (.following separator item) rest).map (value :: ·)
    | .fail us => .unlessTaken ts us [] := by
  have h := run_answer (G := G) (.separated separator item) ts
  rw [run, run_answer, Option.bind_some] at h
  cases hi : G.answer item ts <;> rw [hi] at h <;> exact (Option.some.inj h).symm

theorem answer_optional_of_fail (h : G.answer p ts = .fail ts) :
    G.answer (.optional p) ts = .ok none ts := by
  rw [answer_optional, h]
  exact Answer.unlessTaken_self

theorem answer_optional_of_started (h : (G.answer p ts).Started ts) :
    G.answer (.optional p) ts = (G.answer p ts).map some := by
  rw [answer_optional]
  cases hp : G.answer p ts with
  | ok value rest => rfl
  | fail us =>
    rw [hp] at h
    exact Answer.unlessTaken_of_lt h

theorem answer_many_of_fail {p : Parser Output true α} (h : G.answer p ts = .fail ts) :
    G.answer (.many p) ts = .ok [] ts := by
  rw [answer_many, h]
  exact Answer.unlessTaken_self

theorem answer_many_of_started {p : Parser Output true α} (h : (G.answer p ts).Started ts) :
    G.answer (.many p) ts =
      (G.answer p ts).andThen fun value rest => (G.answer (.many p) rest).map (value :: ·) := by
  rw [answer_many]
  cases hp : G.answer p ts with
  | ok value rest => rfl
  | fail us =>
    rw [hp] at h
    exact Answer.unlessTaken_of_lt h

theorem started_of_ok {value : α} (h : G.answer p ts = .ok value us) :
    (G.answer p ts).Started ts := by
  rw [h]
  trivial

theorem started_map (h : (G.answer p ts).Started ts) : (G.answer (.map f p) ts).Started ts := by
  rw [answer_map]
  cases hp : G.answer p ts <;> rw [hp] at h <;> exact h

theorem started_pair {p : Parser Output true α} (h : (G.answer p ts).Started ts) :
    (G.answer (.pair p q) ts).Started ts := by
  rw [answer_pair]
  cases hp : G.answer p ts with
  | fail us =>
    rw [hp] at h
    exact h
  | ok first rest =>
    rw [Answer.andThen_ok]
    cases hq : G.answer q rest with
    | ok second rest' => trivial
    | fail us => exact Nat.lt_of_le_of_lt (suffix_of_fail hq).length_le (lt_of_ok rfl hp)

-- There is no token to take.
theorem answer_nil {p : Parser Output true α} : G.answer p [] = .fail [] := by
  cases hp : G.answer p [] with
  | ok value rest => exact absurd (lt_of_ok rfl hp) (Nat.not_lt_zero _)
  | fail us => rw [List.suffix_nil.1 (suffix_of_fail hp)]

theorem answer_of_refuses {known : ρ → Bool} {t : Token}
    (hknown : ∀ r, known r → G.answer (.call r) (t :: ts) = .fail (t :: ts))
    (h : p.refuses known t) : G.answer p (t :: ts) = .fail (t :: ts) := by
  induction p with
  | satisfy accept? => rw [answer_satisfy, accept_of_isNone h]
  | call r => exact hknown r h
  | map f p ih => rw [answer_map, ih h, Answer.map_fail]
  | pair p q ihp => rw [answer_pair, ihp h, Answer.andThen_fail]
  | either p q ihp ihq =>
    obtain ⟨hp, hq⟩ := Bool.and_eq_true_iff.1 h
    rw [answer_either_of_fail_left (ihp hp), ihq hq]
  | _ => cases h

-- The token `t` is refused where rules that start with a token do so.
def refuses (G : Grammar Output) (t : Token) (p : Parser Output c α) : Bool :=
  p.refuses (fun r => (G.rule r).refuses (fun _ => false) t) t

theorem answer_of_refuses_head {t : Token} (h : G.refuses t p) :
    G.answer p (t :: ts) = .fail (t :: ts) := by
  refine answer_of_refuses (fun r hr => ?_) h
  rw [answer_call]
  exact answer_of_refuses (fun _ => Bool.noConfusion) hr

theorem answer_either_left {q : Parser Output d α} {t : Token} (h : G.refuses t q) :
    G.answer (.either p q) (t :: ts) = G.answer p (t :: ts) :=
  answer_either_of_fail_right (answer_of_refuses_head h)

theorem answer_either_right {q : Parser Output d α} {t : Token} (h : G.refuses t p) :
    G.answer (.either p q) (t :: ts) = G.answer q (t :: ts) :=
  answer_either_of_fail_left (answer_of_refuses_head h)

-- What a function reads that stops where `p` fails at once, and else goes on behind it.
theorem answer_many_eq {p : Parser Output true α} {g : List Token → Answer (List α)}
    (h : ∀ us : List Token, us.length < n → G.answer p us = .fail us ∧ g us = .ok [] us ∨
      (G.answer p us).Started us ∧
        g us = (G.answer p us).andThen fun value rest => (g rest).map (value :: ·))
    (hts : ts.length < n) : g ts = G.answer (.many p) ts := by
  induction hlength : ts.length using Nat.strongRecOn generalizing ts with
  | ind m ih =>
    obtain ⟨hfail, hg⟩ | ⟨hstarted, hg⟩ := h ts hts
    · rw [hg, answer_many_of_fail hfail]
    rw [hg, answer_many_of_started hstarted]
    cases hp : G.answer p ts with
    | fail us => rfl
    | ok value rest =>
      have hlt := lt_of_ok rfl hp
      rw [Answer.andThen_ok, Answer.andThen_ok,
        ih rest.length (hlength ▸ hlt) (Nat.lt_trans hlt hts) rfl]

theorem answer_many_foldl {p : Parser Output true α} {step : β → α → β}
    {g : β → List Token → Answer β}
    (h : ∀ base, ∀ us : List Token, us.length < n →
      G.answer p us = .fail us ∧ g base us = .ok base us ∨
      (G.answer p us).Started us ∧
        g base us = (G.answer p us).andThen fun value rest => g (step base value) rest)
    (base : β) (hts : ts.length < n) :
    g base ts = (G.answer (.many p) ts).map (List.foldl step base) := by
  induction hlength : ts.length using Nat.strongRecOn generalizing ts base with
  | ind m ih =>
    obtain ⟨hfail, hg⟩ | ⟨hstarted, hg⟩ := h base ts hts
    · rw [hg, answer_many_of_fail hfail]
      rfl
    rw [hg, answer_many_of_started hstarted]
    cases hp : G.answer p ts with
    | fail us => rfl
    | ok value rest =>
      have hlt := lt_of_ok rfl hp
      rw [Answer.andThen_ok, Answer.andThen_ok, Answer.map_map,
        ih rest.length (hlength ▸ hlt) _ (Nat.lt_trans hlt hts) rfl]
      rfl

-- A separator that fails at once if at all.
theorem answer_following_eq {separator : Parser Output true Unit} {item : Parser Output true α}
    (h : ∀ us vs, G.answer separator us = .fail vs → vs = us) :
    G.answer (.following separator item) ts =
      G.answer (.many (.map Prod.snd (.pair separator item))) ts := by
  refine answer_many_eq (g := G.answer (.following separator item)) (fun us _ => ?_)
    (Nat.lt_succ_self _)
  rw [answer_following, answer_map, answer_pair]
  cases hs : G.answer separator us with
  | fail vs =>
    cases h us vs hs
    exact .inl ⟨rfl, rfl⟩
  | ok value rest =>
    refine .inr ⟨?_, by simp⟩
    have hpair := started_map (f := Prod.snd) (started_pair (q := item) (started_of_ok hs))
    rwa [answer_map, answer_pair, hs] at hpair

end Grammar

end Rulebook.Syntax
