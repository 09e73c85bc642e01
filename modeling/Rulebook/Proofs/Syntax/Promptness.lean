import Rulebook.Proofs.Syntax.Reading

/-!
Rules that fail promptly. Such a rule looks at one token beyond what it takes: whatever follows that
token, it does the same, so a failure cannot be mended behind it, and what was taken before can be
completed.
-/

namespace Rulebook.Syntax

-- What a rule does with a token list: a value and the tokens left, or a failure.
abbrev Reading (α : Type) := List Token → Except Failure (α × List Token)

variable {α β : Type} {n m : Nat}

namespace Reply

def result : Reply α n → Except Failure (α × List Token)
  | ok value rest _ => .ok (value, rest)
  | fail failure => .error failure

variable {r : Reply α n} {value : α} {ts rest : List Token}

theorem result_widen {h : n ≤ m} : (r.widen h).result = r.result := by
  cases r <;> rfl

theorem Reads.result (h : r.Reads value rest) : r.result = .ok (value, rest) := by
  obtain ⟨_, rfl⟩ := h
  rfl

theorem length_lt (h : r.result = .ok (value, rest)) : rest.length < n := by
  cases r with
  | ok _ _ hlt => cases h; exact hlt
  | fail failure => cases h

theorem Rejects.result (h : r.Rejects ts) : ∃ f, r.result = .error f ∧ f.rest = ts := by
  obtain ⟨f, rfl, hrest⟩ := h
  exact ⟨f, rfl, hrest⟩

end Reply

namespace Reading

def andThen (p : Reading α) (q : α → Reading β) : Reading β :=
  fun ts => (p ts).bind fun (value, rest) => q value rest

def map (f : α → β) (p : Reading α) : Reading β :=
  fun ts => (p ts).map fun (value, rest) => (f value, rest)

def ofRule {bound : List Token → Nat} (rule : (ts : List Token) → Reply α (bound ts)) : Reading α :=
  fun ts => (rule ts).result

variable {p : Reading α} {q : α → Reading β} {value : α} {ts rest : List Token} {f : Failure}

theorem andThen_of_ok (h : p ts = .ok (value, rest)) : p.andThen q ts = q value rest := by
  rw [andThen, h]
  rfl

theorem andThen_of_error (h : p ts = .error f) : p.andThen q ts = .error f := by
  rw [andThen, h]
  rfl

theorem map_of_ok {g : α → β} (h : p ts = .ok (value, rest)) :
    p.map g ts = .ok (g value, rest) := by
  rw [map, h]
  rfl

theorem map_of_error {g : α → β} (h : p ts = .error f) : p.map g ts = .error f := by
  rw [map, h]
  rfl

end Reading

namespace Reply

variable {r : Reply α n} {p : Reading α} {ts : List Token}

theorem result_map {f : α → β} (hr : r.result = p ts) : (r.map f).result = p.map f ts := by
  cases r with
  | ok value rest h => exact (Reading.map_of_ok hr.symm).symm
  | fail failure => exact (Reading.map_of_error hr.symm).symm

theorem result_andThen {q : α → Reading β}
    {f : (value : α) → (rest : List Token) → rest.length < n → Reply β m}
    (hr : r.result = p ts) (h : ∀ value rest hlt, (f value rest hlt).result = q value rest) :
    (r.andThen f).result = p.andThen q ts := by
  cases r with
  | ok value rest hlt => exact (h value rest hlt).trans (Reading.andThen_of_ok hr.symm).symm
  | fail failure => exact (Reading.andThen_of_error hr.symm).symm

theorem result_andThen_ok {f : α → β}
    {g : (value : α) → (rest : List Token) → rest.length < n → rest.length < m}
    (hr : r.result = p ts) :
    (r.andThen fun value rest h => .ok (f value) rest (g value rest h)).result = p.map f ts := by
  cases r with
  | ok value rest h => exact (Reading.map_of_ok hr.symm).symm
  | fail failure => exact (Reading.map_of_error hr.symm).symm

end Reply

-- What a rule has to say once it knows which token comes next.
inductive Verdict (α : Type)
  | yields (value : α)
  | fails (expected : Option Expected) (rule : Option Rule)

namespace Verdict

def before (us : List Token) : Verdict α → Except Failure (α × List Token)
  | yields value => .ok (value, us)
  | fails expected rule => .error ⟨us, expected, rule⟩

def map (f : α → β) : Verdict α → Verdict β
  | yields value => yields (f value)
  | fails expected rule => fails expected rule

end Verdict

variable {p q : Reading α} {start start' : List Token} {stop stop' : List Token → Prop}
  {front ts rest us : List Token} {t : Token}

-- The first tokens are the same, or there are none.
def SameHead (us ts : List Token) : Prop := us.head? = ts.head?

namespace SameHead

theorem eq_nil (h : SameHead us []) : us = [] :=
  List.head?_eq_none_iff.1 h

theorem exists_eq_cons (h : SameHead us (t :: ts)) : ∃ rest, us = t :: rest :=
  List.head?_eq_some_iff.1 h

theorem ne_cons (h : SameHead us ts) (ht : ts.head? ≠ some t) (rest : List Token) :
    us ≠ t :: rest :=
  fun heq => ht (h.symm.trans (heq ▸ rfl))

theorem append (h : SameHead us ts) (front : List Token) :
    SameHead (front ++ us) (front ++ ts) := by
  cases front with
  | nil => exact h
  | cons t front => rfl

theorem of_front (h : front ≠ []) : SameHead (front ++ us) (front ++ ts) := by
  cases front with
  | nil => exact absurd rfl h
  | cons t front => rfl

end SameHead

-- The rule takes `front`, and then its verdict depends on the next token only. What it has taken
-- can be completed before tokens at which it can `stop`.
inductive PromptOn (p : Reading α) (stop : List Token → Prop) (ts : List Token) : Prop
  | intro (front rest : List Token) (verdict : Verdict α) (hts : ts = front ++ rest)
      (hverdict : ∀ us, SameHead us rest → p (front ++ us) = verdict.before us)
      (hmore : front ≠ [] →
        ∃ more, ∀ us, stop us → ∃ value, p (front ++ (more ++ us)) = .ok (value, us))

-- On lists of fewer than `n` tokens; `start` satisfies the rule when nothing has been taken.
structure Prompt (p : Reading α) (start : List Token) (stop : List Token → Prop) (n : Nat) :
    Prop where
  starts : ∀ us, stop us → ∃ value, p (start ++ us) = .ok (value, us)
  on : ∀ ts, ts.length < n → PromptOn p stop ts

-- For rules that do not care what follows, and for those that only this token can follow.

def Anywhere (_ : List Token) : Prop := True

def Before (t : Token) (us : List Token) : Prop := us.head? = some t

-- Behind `front`, which can be completed, the rule goes on as `q` does.
theorem PromptOn.along (hq : PromptOn q stop rest)
    (hread : ∀ us, SameHead us rest → p (front ++ us) = q us)
    (hclosed : front ≠ [] →
      ∃ more, ∀ us, stop us → ∃ value, p (front ++ (more ++ us)) = .ok (value, us)) :
    PromptOn p stop (front ++ rest) := by
  obtain ⟨front', rest', verdict, rfl, hverdict, hmore⟩ := hq
  refine .intro (front ++ front') rest' verdict (List.append_assoc ..).symm (fun us hus => ?_)
    fun hfronts => ?_
  · rw [List.append_assoc, hread _ (hus.append front'), hverdict us hus]
  · by_cases hfront' : front' = []
    case pos =>
      rw [hfront', List.append_nil] at hfronts ⊢
      exact hclosed hfronts
    case neg =>
      obtain ⟨more, hmore⟩ := hmore hfront'
      refine ⟨more, fun us hus => ?_⟩
      rw [List.append_assoc, hread _ (.of_front hfront')]
      exact hmore us hus

namespace Prompt

theorem mono (h : Prompt p start stop n) (hle : m ≤ n) : Prompt p start stop m :=
  ⟨h.starts, fun ts hlt => h.on ts (Nat.lt_of_lt_of_le hlt hle)⟩

theorem congr (hq : Prompt q start stop n) (h : ∀ us, p us = q us) : Prompt p start stop n :=
  funext h ▸ hq

theorem weaken (h : Prompt p start stop n) (hstop : ∀ us, stop' us → stop us) :
    Prompt p start stop' n := by
  refine ⟨fun us hus => h.starts us (hstop us hus), fun ts hlt => ?_⟩
  obtain ⟨front, rest, verdict, hts, hverdict, hmore⟩ := h.on ts hlt
  refine .intro front rest verdict hts hverdict fun hfront => ?_
  obtain ⟨more, hmore⟩ := hmore hfront
  exact ⟨more, fun us hus => hmore us (hstop us hus)⟩

theorem anywhere (h : Prompt p start Anywhere n) : Prompt p start stop n :=
  h.weaken fun _ _ => trivial

theorem map {f : α → β} (h : Prompt p start stop n) : Prompt (p.map f) start stop n := by
  have hok {ts us : List Token} : (∃ value, p ts = .ok (value, us)) →
      ∃ value, p.map f ts = .ok (value, us) :=
    fun ⟨value, hvalue⟩ => ⟨f value, Reading.map_of_ok hvalue⟩
  refine ⟨fun us hus => hok (h.starts us hus), fun ts hlt => ?_⟩
  obtain ⟨front, rest, verdict, hts, hverdict, hmore⟩ := h.on ts hlt
  refine .intro front rest (verdict.map f) hts (fun us hus => ?_) fun hfront => ?_
  · cases verdict with
    | yields value => exact Reading.map_of_ok (hverdict us hus)
    | fails expected rule => exact Reading.map_of_error (hverdict us hus)
  · obtain ⟨more, hmore⟩ := hmore hfront
    exact ⟨more, fun us hus => hok (hmore us hus)⟩

-- The second rule can start where the first one can stop.
theorem andThen {q : α → Reading β} (hp : Prompt p start stop n)
    (hq : ∀ value, Prompt (q value) start' stop' n)
    (hstop : ∀ us, stop' us → stop (start' ++ us)) :
    Prompt (p.andThen q) (start ++ start') stop' n := by
  have hok {ts : List Token} : ∀ us, stop' us → (∃ value, p ts = .ok (value, start' ++ us)) →
      ∃ value, p.andThen q ts = .ok (value, us) := by
    rintro us hus ⟨value, hvalue⟩
    rw [Reading.andThen_of_ok hvalue]
    exact (hq value).starts us hus
  refine ⟨fun us hus => ?_, fun ts hlt => ?_⟩
  · refine hok us hus ?_
    rw [List.append_assoc]
    exact hp.starts _ (hstop us hus)
  obtain ⟨front, rest, verdict, rfl, hverdict, hmore⟩ := hp.on ts hlt
  -- Where the second rule has taken nothing, the first one is completed and the second one started.
  have hfirst (hfront : front ≠ []) : ∃ more, ∀ us, stop' us →
      ∃ value, p.andThen q (front ++ (more ++ us)) = .ok (value, us) := by
    obtain ⟨more, hmore⟩ := hmore hfront
    refine ⟨more ++ start', fun us hus => hok us hus ?_⟩
    rw [List.append_assoc]
    exact hmore _ (hstop us hus)
  cases verdict with
  | fails expected rule =>
    refine .intro front rest (.fails expected rule) rfl (fun us hus => ?_) hfirst
    exact Reading.andThen_of_error (hverdict us hus)
  | yields value =>
    have hrest : rest.length < n := by
      rw [List.length_append] at hlt
      omega
    exact .along ((hq value).on rest hrest)
      (fun us hus => Reading.andThen_of_ok (hverdict us hus)) hfirst

end Prompt

namespace PromptOn

-- The rule takes nothing.
theorem nothing (verdict : Verdict α) (h : ∀ us, SameHead us ts → p us = verdict.before us) :
    PromptOn p stop ts :=
  .intro [] ts verdict rfl h fun hfront => absurd rfl hfront

theorem leaves (verdict : Verdict α) (h : ∀ us, p (t :: us) = verdict.before (t :: us)) :
    PromptOn p stop (t :: rest) := by
  refine .nothing verdict fun us hus => ?_
  obtain ⟨us, rfl⟩ := hus.exists_eq_cons
  exact h us

theorem takes (value : α) (h : ∀ us, p (t :: us) = .ok (value, us)) : PromptOn p stop (t :: rest) :=
  .intro [t] rest (.yields value) rfl (fun us _ => h us) fun _ => ⟨[], fun us _ => ⟨value, h us⟩⟩

theorem after (hq : Prompt q start stop n) (hlt : rest.length < n) (hts : ts = front ++ rest)
    (h : ∀ us, SameHead us rest ∨ (∃ vs, stop vs ∧ us = start ++ vs) → p (front ++ us) = q us) :
    PromptOn p stop ts := by
  subst hts
  refine .along (hq.on rest hlt) (fun us hus => h us (.inl hus)) fun _ => ⟨start, fun us hus => ?_⟩
  rw [h _ (.inr ⟨us, hus, rfl⟩)]
  exact hq.starts us hus

theorem as (hq : Prompt q start stop n) (hlt : ts.length < n)
    (h : ∀ us, SameHead us ts ∨ (∃ vs, stop vs ∧ us = start ++ vs) → p us = q us) :
    PromptOn p stop ts :=
  .after hq hlt (List.nil_append ts).symm h

theorem behind (hq : Prompt q start stop n) (hlt : rest.length < n)
    (h : ∀ us, p (t :: us) = q us) : PromptOn p stop (t :: rest) :=
  .after hq hlt (List.singleton_append ..).symm fun us _ => h us

end PromptOn

-- Any number of times `t` in front of what `q` reads.
theorem Prompt.repeated {f : α → α} (hq : Prompt q start stop n)
    (hrepeat : ∀ us, p (t :: us) = p.map f us) (hother : ∀ us, us.head? ≠ some t → p us = q us)
    (hstart : ∀ us, (start ++ us).head? ≠ some t) : Prompt p start stop n := by
  have hstarts : ∀ us, stop us → ∃ value, p (start ++ us) = .ok (value, us) := by
    intro us hus
    rw [hother _ (hstart us)]
    exact hq.starts us hus
  induction n with
  | zero => exact ⟨hstarts, nofun⟩
  | succ n ih =>
    refine ⟨hstarts, fun ts hlt => ?_⟩
    by_cases hts : ts.head? = some t
    case pos =>
      obtain ⟨rest, rfl⟩ := List.head?_eq_some_iff.1 hts
      exact .behind (ih (hq.mono n.le_succ)).map (Nat.lt_of_succ_lt_succ hlt) hrepeat
    case neg =>
      refine .as hq hlt fun us hus => hother us ?_
      obtain hus | ⟨vs, -, rfl⟩ := hus
      · exact hus ▸ hts
      · exact hstart vs

-- A rule of one token.
def Reading.single (accept? : Token → Option α) (expected : Option Expected)
    (rule : Option Rule) : Reading α
  | t :: rest =>
    match accept? t with
    | some value => .ok (value, rest)
    | none => .error ⟨t :: rest, expected, rule⟩
  | [] => .error ⟨[], expected, rule⟩

theorem prompt_single {accept? : Token → Option α} {expected : Option Expected}
    {rule : Option Rule} {value : α} (h : accept? t = some value) :
    Prompt (.single accept? expected rule) [t] Anywhere n := by
  refine ⟨fun us _ => ⟨value, by simp [Reading.single, h]⟩, fun ts _ => ?_⟩
  cases ts with
  | nil => exact .nothing (.fails expected rule) fun us hus => hus.eq_nil ▸ rfl
  | cons u rest =>
    cases hu : accept? u with
    | none =>
      refine .leaves (.fails expected rule) fun us => ?_
      simp [Reading.single, hu, Verdict.before]
    | some value =>
      refine .takes value fun us => ?_
      simp [Reading.single, hu]

-- A list may be empty: its first item is not missed where it cannot even start.
def Reading.quietly (first : Reading α) (others : Reading (List α)) : Reading (List α) := fun ts =>
  match first ts with
  | .ok (value, rest) => others.map (value :: ·) rest
  | .error f => if f.rest.length < ts.length then .error f else .ok ([], ts)

theorem Prompt.quietly {first : Reading α} {others : Reading (List α)}
    (hfirst : Prompt first start stop n) (hothers : Prompt others [] (Before t) n)
    (hstop : ∀ us, Before t us → stop us)
    (hrejects : ∀ us, ∃ f, first (t :: us) = .error f ∧ f.rest = t :: us)
    (htakes : ∀ us value rest, first us = .ok (value, rest) → rest.length < us.length) :
    Prompt (first.quietly others) [] (Before t) n := by
  have hnone {us : List Token} {f : Failure} (hf : first us = .error f) (hrest : f.rest = us) :
      first.quietly others us = .ok ([], us) := by
    simp only [Reading.quietly, hf]
    exact if_neg (hrest ▸ Nat.lt_irrefl _)
  have hsome {us rest : List Token} {value : α} (h : first us = .ok (value, rest)) :
      first.quietly others us = others.map (value :: ·) rest := by
    simp only [Reading.quietly, h]
  refine ⟨fun us hus => ?_, fun ts hlt => ?_⟩
  · obtain ⟨us, rfl⟩ := List.head?_eq_some_iff.1 hus
    obtain ⟨f, hf, hrest⟩ := hrejects us
    exact ⟨[], hnone hf hrest⟩
  obtain ⟨front, rest, verdict, rfl, hverdict, hmore⟩ := hfirst.on ts hlt
  -- With the first item alone.
  have hclosed (hfront : front ≠ []) : ∃ more, ∀ us, Before t us →
      ∃ values, first.quietly others (front ++ (more ++ us)) = .ok (values, us) := by
    obtain ⟨more, hmore⟩ := hmore hfront
    refine ⟨more, fun us hus => ?_⟩
    obtain ⟨value, hvalue⟩ := hmore us (hstop us hus)
    obtain ⟨values, hvalues⟩ := hothers.starts us hus
    exact ⟨value :: values, (hsome hvalue).trans (Reading.map_of_ok hvalues)⟩
  by_cases hfront : front = []
  case pos =>
    subst hfront
    cases verdict with
    | yields value => exact absurd (htakes _ _ _ (hverdict rest rfl)) (Nat.lt_irrefl _)
    | fails expected rule => exact .nothing (.yields []) fun us hus => hnone (hverdict us hus) rfl
  case neg =>
    have hpos := List.length_pos_of_ne_nil hfront
    cases verdict with
    | fails expected rule =>
      refine .intro front rest (.fails expected rule) rfl (fun us hus => ?_) hclosed
      have hlt : us.length < (front ++ us).length := by
        rw [List.length_append]
        omega
      have hfail : first (front ++ us) = .error ⟨us, expected, rule⟩ := hverdict us hus
      simp only [Reading.quietly, hfail]
      exact if_pos hlt
    | yields value =>
      have hrest : rest.length < n := by
        rw [List.length_append] at hlt
        omega
      exact .along ((hothers.map (f := (value :: ·))).on rest hrest)
        (fun us hus => hsome (hverdict us hus)) hclosed

end Rulebook.Syntax
