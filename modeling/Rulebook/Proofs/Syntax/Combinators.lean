import Rulebook.Syntax.Grammar

/-!
Parsers made of smaller ones, and grammars, whose rules call each other. A parser takes tokens from
the front of a list. Its type tells whether each success of it takes a token; what is repeated does.
The rules of a grammar have levels, and until a rule has taken a token it calls rules of lower
levels only. So no rule gets back to itself without a token taken, and each parser has an answer.
-/

namespace Rulebook.Syntax

-- A value and the tokens left, or the tokens from the one on at which the parser fails.
inductive Answer (α : Type)
  | ok (value : α) (rest : List Token)
  | fail (rest : List Token)

namespace Answer

variable {α β γ : Type} {a : Answer α} {c d : Bool} {ts us vs : List Token}

def andThen (a : Answer α) (f : α → List Token → Answer β) : Answer β :=
  match a with
  | ok value rest => f value rest
  | fail rest => fail rest

def map (f : α → β) (a : Answer α) : Answer β :=
  a.andThen fun value rest => ok (f value) rest

-- A failure is one only if tokens were taken before it, and else nothing to read.
def unlessTaken (ts us : List Token) (value : α) : Answer α :=
  if us.length < ts.length then fail us else ok value ts

-- The failure with fewer tokens left, if tokens were taken before it.
def furthest (ts us vs : List Token) : Answer α :=
  if us.length < ts.length ∨ vs.length < ts.length then
    fail (if vs.length < us.length then vs else us)
  else fail ts

-- The answer is not past the end nor before `ts`, and behind it where a token has to be taken.
def Within (takes : Bool) (ts : List Token) : Answer α → Prop
  | ok _ rest => rest <:+ ts ∧ (takes = true → rest.length < ts.length)
  | fail rest => rest <:+ ts

namespace Within

theorem map {f : α → β} (h : a.Within c ts) : (a.map f).Within c ts := by
  cases a <;> exact h

theorem mono (h : a.Within c ts) (hd : d = true → c = true) : a.Within d ts := by
  cases a with
  | ok value rest => exact ⟨h.1, fun htakes => h.2 (hd htakes)⟩
  | fail rest => exact h

theorem after (hus : us <:+ ts) (hc : c = true → us.length < ts.length) (h : a.Within d us) :
    a.Within (c || d) ts := by
  cases a with
  | fail rest => exact h.trans hus
  | ok value rest =>
    refine ⟨h.1.trans hus, fun htakes => ?_⟩
    obtain hc' | hd := Bool.or_eq_true_iff.1 htakes
    · exact Nat.lt_of_le_of_lt h.1.length_le (hc hc')
    · exact Nat.lt_of_lt_of_le (h.2 hd) hus.length_le

theorem unlessTaken {value : α} (h : us <:+ ts) : (unlessTaken ts us value).Within false ts := by
  unfold Answer.unlessTaken
  split
  · exact h
  · exact ⟨List.suffix_refl ts, nofun⟩

theorem furthest (hus : us <:+ ts) (hvs : vs <:+ ts) :
    (furthest ts us vs : Answer α).Within c ts := by
  unfold Answer.furthest
  split
  · show (if vs.length < us.length then vs else us) <:+ ts
    split <;> assumption
  · exact List.suffix_refl ts

end Within

end Answer

variable {ρ : Type} {Output : ρ → Type}

-- The rules that can be called have names in `ρ` and yield values of the types `Output`.
inductive Parser (Output : ρ → Type) : Bool → Type → Type 1
  | satisfy {α : Type} (accept? : Token → Option α) : Parser Output true α
  | endOfInput : Parser Output false Unit
  | call (r : ρ) : Parser Output true (Output r)
  | map {c : Bool} {α β : Type} (f : α → β) (p : Parser Output c α) : Parser Output c β
  | pair {c d : Bool} {α β : Type} (p : Parser Output c α) (q : Parser Output d β) :
      Parser Output (c || d) (α × β)
  | either {c d : Bool} {α : Type} (p : Parser Output c α) (q : Parser Output d α) :
      Parser Output (c && d) α
  | optional {c : Bool} {α : Type} (p : Parser Output c α) : Parser Output false (Option α)
  | many {α : Type} (p : Parser Output true α) : Parser Output false (List α)
  -- Items, each after a separator.
  | following {α : Type} (separator : Parser Output true Unit) (item : Parser Output true α) :
      Parser Output false (List α)
  | separated {α : Type} (separator : Parser Output true Unit) (item : Parser Output true α) :
      Parser Output false (List α)

-- The rules called before a token is taken are of levels below `k`.
def Parser.startsBelow (level : ρ → Nat) (k : Nat) {c : Bool} {α : Type} : Parser Output c α → Bool
  | satisfy _ | endOfInput => true
  | call r => level r < k
  | map _ p | optional p | many p | following p _ | separated _ p => p.startsBelow level k
  | pair (c := c) p q => p.startsBelow level k && (c || q.startsBelow level k)
  | either p q => p.startsBelow level k && q.startsBelow level k

structure Grammar (Output : ρ → Type) where
  rule : (r : ρ) → Parser Output true (Output r)
  level : ρ → Nat
  height : Nat
  level_lt : ∀ r, level r < height
  descends : ∀ r, (rule r).startsBelow level (level r) = true

-- One token.
def accept (accept? : Token → Option α) : List Token → Answer α
  | [] => .fail []
  | t :: rest =>
    match accept? t with
    | some value => .ok value rest
    | none => .fail (t :: rest)

-- A parser that may have no answer.
abbrev Attempt (Output : ρ → Type) : Type 1 :=
  ∀ {c : Bool} {α : Type}, Parser Output c α → List Token → Option (Answer α)

namespace Grammar

variable {α β : Type} {c d : Bool} {G : Grammar Output} {p : Parser Output c α} {ts us : List Token}
  {a : Answer α} {j k m n : Nat}

-- A call, and one more turn of a repetition, is left to `later`.
def run (G : Grammar Output) (later : Attempt Output) {c : Bool} {α : Type} :
    Parser Output c α → List Token → Option (Answer α)
  | .satisfy accept?, ts => some (accept accept? ts)
  | .endOfInput, ts => some (if ts = [] then .ok () ts else .fail ts)
  | .call r, ts => later (G.rule r) ts
  | .map f p, ts => (run G later p ts).map (·.map f)
  | .pair p q, ts =>
    (run G later p ts).bind fun
      | .ok first rest => (run G later q rest).map (·.map (first, ·))
      | .fail us => some (.fail us)
  | .either p q, ts =>
    (run G later p ts).bind fun
      | .ok value rest => some (.ok value rest)
      | .fail us =>
        (run G later q ts).map fun
          | .ok value rest => .ok value rest
          | .fail vs => .furthest ts us vs
  | .optional p, ts =>
    (run G later p ts).map fun
      | .ok value rest => .ok (some value) rest
      | .fail us => .unlessTaken ts us none
  | .many p, ts =>
    (run G later p ts).bind fun
      | .ok value rest =>
        if rest.length < ts.length then (later (.many p) rest).map (·.map (value :: ·))
        else some (.ok [] ts)
      | .fail us => some (.unlessTaken ts us [])
  | .following separator item, ts =>
    (run G later separator ts).bind fun
      | .ok _ rest =>
        (run G later item rest).bind fun
          | .ok value rest => (later (.following separator item) rest).map (·.map (value :: ·))
          | .fail us => some (.fail us)
      | .fail _ => some (.ok [] ts)
  | .separated separator item, ts =>
    (run G later item ts).bind fun
      | .ok value rest => (later (.following separator item) rest).map (·.map (value :: ·))
      | .fail us => some (.unlessTaken ts us [])

-- With more than `n` calls and turns under way at once there is no answer.
def parse (G : Grammar Output) : Nat → Attempt Output
  | 0 => fun _ _ => none
  | n + 1 => G.run (parse G n)

theorem accept_within {accept? : Token → Option α} : (accept accept? ts).Within true ts := by
  cases ts with
  | nil => exact List.suffix_refl _
  | cons t rest =>
    cases h : accept? t <;> simp [accept, h, Answer.Within]

theorem run_within {later : Attempt Output}
    (hlater : ∀ {c : Bool} {α : Type} (p : Parser Output c α) us a, later p us = some a →
      a.Within c us)
    (h : G.run later p ts = some a) : a.Within c ts := by
  induction p generalizing ts with
  | satisfy accept? =>
    cases h
    exact accept_within
  | endOfInput =>
    simp only [run] at h
    split at h <;> cases h <;> simp [Answer.Within]
  | call r => exact hlater _ _ _ h
  | map f p ih =>
    obtain ⟨b, hp, rfl⟩ := Option.map_eq_some_iff.1 h
    exact (ih hp).map
  | pair p q ihp ihq =>
    obtain ⟨b, hp, hb⟩ := Option.bind_eq_some_iff.1 h
    cases b with
    | fail us =>
      cases hb
      exact ihp hp
    | ok first rest =>
      obtain ⟨b, hq, rfl⟩ := Option.map_eq_some_iff.1 hb
      exact .after (ihp hp).1 (ihp hp).2 (ihq hq).map
  | either p q ihp ihq =>
    obtain ⟨b, hp, hb⟩ := Option.bind_eq_some_iff.1 h
    cases b with
    | ok value rest =>
      cases hb
      exact (ihp hp).mono fun h => (Bool.and_eq_true_iff.1 h).1
    | fail us =>
      obtain ⟨b, hq, rfl⟩ := Option.map_eq_some_iff.1 hb
      cases b with
      | ok value rest => exact (ihq hq).mono fun h => (Bool.and_eq_true_iff.1 h).2
      | fail vs => exact .furthest (ihp hp) (ihq hq)
  | optional p ih =>
    obtain ⟨b, hp, rfl⟩ := Option.map_eq_some_iff.1 h
    cases b with
    | ok value rest => exact ⟨(ih hp).1, nofun⟩
    | fail us => exact .unlessTaken (ih hp)
  | many p ih =>
    obtain ⟨b, hp, hb⟩ := Option.bind_eq_some_iff.1 h
    cases b with
    | fail us =>
      cases hb
      exact .unlessTaken (ih hp)
    | ok value rest =>
      dsimp only at hb
      split at hb
      case isTrue =>
        obtain ⟨b, hmore, rfl⟩ := Option.map_eq_some_iff.1 hb
        exact .after (c := false) (ih hp).1 nofun (hlater _ _ _ hmore).map
      case isFalse =>
        cases hb
        exact ⟨List.suffix_refl ts, nofun⟩
  | following separator item ihs ihi =>
    obtain ⟨b, hs, hb⟩ := Option.bind_eq_some_iff.1 h
    cases b with
    | fail us =>
      cases hb
      exact ⟨List.suffix_refl ts, nofun⟩
    | ok _ rest =>
      obtain ⟨b, hi, hb⟩ := Option.bind_eq_some_iff.1 hb
      cases b with
      | fail us =>
        cases hb
        exact (ihi hi).trans (ihs hs).1
      | ok value rest' =>
        obtain ⟨b, hmore, rfl⟩ := Option.map_eq_some_iff.1 hb
        exact .after (c := false) ((ihi hi).1.trans (ihs hs).1) nofun (hlater _ _ _ hmore).map
  | separated separator item ihs ihi =>
    obtain ⟨b, hi, hb⟩ := Option.bind_eq_some_iff.1 h
    cases b with
    | fail us =>
      cases hb
      exact .unlessTaken (ihi hi)
    | ok value rest =>
      obtain ⟨b, hmore, rfl⟩ := Option.map_eq_some_iff.1 hb
      exact .after (c := false) (ihi hi).1 nofun (hlater _ _ _ hmore).map

theorem parse_within (h : G.parse n p ts = some a) : a.Within c ts := by
  induction n generalizing c α p ts a with
  | zero => cases h
  | succ n ih => exact run_within (fun _ _ _ => ih) h

theorem run_mono {later later' : Attempt Output}
    (hlater : ∀ {c : Bool} {α : Type} (p : Parser Output c α) us a, later p us = some a →
      later' p us = some a)
    (h : G.run later p ts = some a) : G.run later' p ts = some a := by
  induction p generalizing ts with
  | satisfy | endOfInput => exact h
  | call r => exact hlater _ _ _ h
  | map f p ih | optional p ih =>
    obtain ⟨b, hp, rfl⟩ := Option.map_eq_some_iff.1 h
    exact Option.map_eq_some_iff.2 ⟨b, ih hp, rfl⟩
  | pair p q ihp ihq =>
    obtain ⟨b, hp, hb⟩ := Option.bind_eq_some_iff.1 h
    refine Option.bind_eq_some_iff.2 ⟨b, ihp hp, ?_⟩
    cases b with
    | fail us => exact hb
    | ok first rest =>
      obtain ⟨b, hq, rfl⟩ := Option.map_eq_some_iff.1 hb
      exact Option.map_eq_some_iff.2 ⟨b, ihq hq, rfl⟩
  | either p q ihp ihq =>
    obtain ⟨b, hp, hb⟩ := Option.bind_eq_some_iff.1 h
    refine Option.bind_eq_some_iff.2 ⟨b, ihp hp, ?_⟩
    cases b with
    | ok value rest => exact hb
    | fail us =>
      obtain ⟨b, hq, rfl⟩ := Option.map_eq_some_iff.1 hb
      exact Option.map_eq_some_iff.2 ⟨b, ihq hq, rfl⟩
  | many p ih =>
    obtain ⟨b, hp, hb⟩ := Option.bind_eq_some_iff.1 h
    refine Option.bind_eq_some_iff.2 ⟨b, ih hp, ?_⟩
    cases b with
    | fail us => exact hb
    | ok value rest =>
      dsimp only at hb ⊢
      split at hb
      case isFalse hrest => rwa [if_neg hrest]
      case isTrue hrest =>
        obtain ⟨b, hmore, rfl⟩ := Option.map_eq_some_iff.1 hb
        rw [if_pos hrest]
        exact Option.map_eq_some_iff.2 ⟨b, hlater _ _ _ hmore, rfl⟩
  | following separator item ihs ihi =>
    obtain ⟨b, hs, hb⟩ := Option.bind_eq_some_iff.1 h
    refine Option.bind_eq_some_iff.2 ⟨b, ihs hs, ?_⟩
    cases b with
    | fail us => exact hb
    | ok _ rest =>
      obtain ⟨b, hi, hb⟩ := Option.bind_eq_some_iff.1 hb
      refine Option.bind_eq_some_iff.2 ⟨b, ihi hi, ?_⟩
      cases b with
      | fail us => exact hb
      | ok value rest' =>
        obtain ⟨b, hmore, rfl⟩ := Option.map_eq_some_iff.1 hb
        exact Option.map_eq_some_iff.2 ⟨b, hlater _ _ _ hmore, rfl⟩
  | separated separator item ihs ihi =>
    obtain ⟨b, hi, hb⟩ := Option.bind_eq_some_iff.1 h
    refine Option.bind_eq_some_iff.2 ⟨b, ihi hi, ?_⟩
    cases b with
    | fail us => exact hb
    | ok value rest =>
      obtain ⟨b, hmore, rfl⟩ := Option.map_eq_some_iff.1 hb
      exact Option.map_eq_some_iff.2 ⟨b, hlater _ _ _ hmore, rfl⟩

theorem parse_succ (h : G.parse n p ts = some a) : G.parse (n + 1) p ts = some a := by
  induction n generalizing c α p ts a with
  | zero => cases h
  | succ n ih => exact run_mono (fun _ _ _ => ih) h

theorem parse_mono (hle : m ≤ n) (h : G.parse m p ts = some a) : G.parse n p ts = some a := by
  induction hle with
  | refl => exact h
  | step _ ih => exact parse_succ ih

theorem startsBelow_height : p.startsBelow G.level G.height := by
  induction p <;> simp_all [Parser.startsBelow, G.level_lt]

-- The calls and turns that may be under way at once before the tokens `ts`.
def limit (G : Grammar Output) (k : Nat) (ts : List Token) : Nat :=
  (G.height + 1) * ts.length + k

theorem limit_lt (h : us.length < ts.length) : G.limit G.height us < G.limit k ts := by
  have hmul : (G.height + 1) * (us.length + 1) ≤ (G.height + 1) * ts.length :=
    Nat.mul_le_mul_left _ h
  simp only [limit, Nat.mul_succ] at *
  omega

theorem limit_le (h : us <:+ ts) : G.limit k us ≤ G.limit k ts :=
  Nat.add_le_add_right (Nat.mul_le_mul_left _ h.length_le) k

theorem run_eq_some {later : Attempt Output} {m : Nat}
    (hwithin : ∀ {c : Bool} {α : Type} (p : Parser Output c α) us a, later p us = some a →
      a.Within c us)
    (hlater : ∀ {c : Bool} {α : Type} (p : Parser Output c α) us j, p.startsBelow G.level j →
      G.limit j us < m → ∃ a, later p us = some a)
    (hp : p.startsBelow G.level k) (hm : G.limit k ts ≤ m) : ∃ a, G.run later p ts = some a := by
  -- Where a token has been taken, rules of all levels can be called.
  have hturn {c : Bool} {α : Type} (p : Parser Output c α) {us ts : List Token} {k : Nat}
      (hlt : us.length < ts.length) (hm : G.limit k ts ≤ m) : ∃ a, later p us = some a :=
    hlater p us G.height startsBelow_height (Nat.lt_of_lt_of_le (limit_lt hlt) hm)
  induction p generalizing ts k with
  | satisfy | endOfInput => exact ⟨_, rfl⟩
  | call r =>
    have hlevel : G.level r < k := of_decide_eq_true hp
    exact hlater _ ts _ (G.descends r) (Nat.lt_of_lt_of_le (Nat.add_lt_add_left hlevel _) hm)
  | map f p ih | optional p ih =>
    obtain ⟨a, ha⟩ := ih hp hm
    exact ⟨_, Option.map_eq_some_iff.2 ⟨a, ha, rfl⟩⟩
  | @pair c _ _ _ p q ihp ihq =>
    obtain ⟨hpk, hqk⟩ := Bool.and_eq_true_iff.1 hp
    obtain ⟨b, hb⟩ := ihp hpk hm
    have hfirst := run_within hwithin hb
    cases b with
    | fail us => exact ⟨_, Option.bind_eq_some_iff.2 ⟨_, hb, rfl⟩⟩
    | ok first rest =>
      have hsecond : ∃ a, G.run later q rest = some a := by
        cases c with
        | false => exact ihq hqk (Nat.le_trans (limit_le hfirst.1) hm)
        | true =>
          have hlt : G.limit G.height rest < G.limit k ts := limit_lt (hfirst.2 rfl)
          exact ihq startsBelow_height (Nat.le_trans (Nat.le_of_lt hlt) hm)
      obtain ⟨a, ha⟩ := hsecond
      exact ⟨_, Option.bind_eq_some_iff.2 ⟨_, hb, Option.map_eq_some_iff.2 ⟨a, ha, rfl⟩⟩⟩
  | either p q ihp ihq =>
    obtain ⟨hpk, hqk⟩ := Bool.and_eq_true_iff.1 hp
    obtain ⟨b, hb⟩ := ihp hpk hm
    cases b with
    | ok value rest => exact ⟨_, Option.bind_eq_some_iff.2 ⟨_, hb, rfl⟩⟩
    | fail us =>
      obtain ⟨a, ha⟩ := ihq hqk hm
      exact ⟨_, Option.bind_eq_some_iff.2 ⟨_, hb, Option.map_eq_some_iff.2 ⟨a, ha, rfl⟩⟩⟩
  | many p ih =>
    obtain ⟨b, hb⟩ := ih hp hm
    have hitem := run_within hwithin hb
    cases b with
    | fail us => exact ⟨_, Option.bind_eq_some_iff.2 ⟨_, hb, rfl⟩⟩
    | ok value rest =>
      obtain ⟨a, ha⟩ := hturn (.many p) (hitem.2 rfl) hm
      refine ⟨a.map (value :: ·), Option.bind_eq_some_iff.2 ⟨_, hb, ?_⟩⟩
      dsimp only
      rw [if_pos (hitem.2 rfl), ha]
      rfl
  | following separator item ihs ihi =>
    obtain ⟨b, hb⟩ := ihs hp hm
    have hseparator := run_within hwithin hb
    cases b with
    | fail us => exact ⟨_, Option.bind_eq_some_iff.2 ⟨_, hb, rfl⟩⟩
    | ok _ rest =>
      have hlt := hseparator.2 rfl
      obtain ⟨b', hb'⟩ := ihi (startsBelow_height (p := item))
        (Nat.le_trans (Nat.le_of_lt (limit_lt hlt)) hm)
      have hitem := run_within hwithin hb'
      cases b' with
      | fail us =>
        exact ⟨_, Option.bind_eq_some_iff.2 ⟨_, hb, Option.bind_eq_some_iff.2 ⟨_, hb', rfl⟩⟩⟩
      | ok value rest' =>
        obtain ⟨a, ha⟩ := hturn (.following separator item) (Nat.lt_trans (hitem.2 rfl) hlt) hm
        exact ⟨_, Option.bind_eq_some_iff.2 ⟨_, hb, Option.bind_eq_some_iff.2 ⟨_, hb',
          Option.map_eq_some_iff.2 ⟨a, ha, rfl⟩⟩⟩⟩
  | separated separator item ihs ihi =>
    obtain ⟨b, hb⟩ := ihi hp hm
    have hitem := run_within hwithin hb
    cases b with
    | fail us => exact ⟨_, Option.bind_eq_some_iff.2 ⟨_, hb, rfl⟩⟩
    | ok value rest =>
      obtain ⟨a, ha⟩ := hturn (.following separator item) (hitem.2 rfl) hm
      exact ⟨_, Option.bind_eq_some_iff.2 ⟨_, hb, Option.map_eq_some_iff.2 ⟨a, ha, rfl⟩⟩⟩

theorem exists_parse_eq (hp : p.startsBelow G.level k) (h : G.limit k ts < n) :
    ∃ a, G.parse n p ts = some a := by
  induction n generalizing c α p k ts with
  | zero => exact absurd h (Nat.not_lt_zero _)
  | succ n ih =>
    exact run_eq_some (fun _ _ _ => parse_within) (fun p us j => ih) hp (Nat.le_of_lt_succ h)

theorem isSome_parse (p : Parser Output c α) (ts : List Token) :
    (G.parse (G.limit G.height ts + 1) p ts).isSome :=
  Option.isSome_iff_exists.2 (exists_parse_eq startsBelow_height (Nat.lt_succ_self _))

def answer (G : Grammar Output) (p : Parser Output c α) (ts : List Token) : Answer α :=
  (G.parse (G.limit G.height ts + 1) p ts).get (isSome_parse p ts)

theorem answer_eq (h : G.parse n p ts = some a) : G.answer p ts = a := by
  obtain ⟨b, hb⟩ := Option.isSome_iff_exists.1 (isSome_parse (G := G) p ts)
  have hboth := (parse_mono (Nat.le_max_left ..) h).symm.trans (parse_mono (Nat.le_max_right ..) hb)
  cases hboth
  rw [answer, Option.get_of_eq_some _ hb]

theorem parse_eq (hp : p.startsBelow G.level k) (h : G.limit k ts < n) :
    G.parse n p ts = some (G.answer p ts) := by
  obtain ⟨a, ha⟩ := exists_parse_eq hp h
  rw [ha, answer_eq ha]

theorem answer_within : (G.answer p ts).Within c ts :=
  parse_within (parse_eq startsBelow_height (Nat.lt_succ_self _))

theorem suffix_of_ok {value : α} (h : G.answer p ts = .ok value us) : us <:+ ts := by
  have hwithin : (G.answer p ts).Within c ts := answer_within
  rw [h] at hwithin
  exact hwithin.1

theorem lt_of_ok {value : α} (hc : c = true) (h : G.answer p ts = .ok value us) :
    us.length < ts.length := by
  have hwithin : (G.answer p ts).Within c ts := answer_within
  rw [h] at hwithin
  exact hwithin.2 hc

theorem suffix_of_fail (h : G.answer p ts = .fail us) : us <:+ ts := by
  have hwithin : (G.answer p ts).Within c ts := answer_within
  rw [h] at hwithin
  exact hwithin

-- With the answers of all parsers at hand.
theorem run_answer (p : Parser Output c α) (ts : List Token) :
    G.run (fun p us => some (G.answer p us)) p ts = some (G.answer p ts) := by
  have h : G.parse (G.limit G.height ts + 1) p ts = some (G.answer p ts) :=
    parse_eq startsBelow_height (Nat.lt_succ_self _)
  exact run_mono (fun _ _ _ hparse => congrArg some (answer_eq hparse)) h

end Grammar

end Rulebook.Syntax
