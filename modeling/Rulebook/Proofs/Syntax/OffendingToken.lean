import Rulebook.Proofs.Syntax.PromptGrammar

/-!
Failures of the two grammars, of expressions and of cells, are reported at the first offending
token: the tokens before it can be continued to something that is accepted, but not with it.
-/

namespace Rulebook.Syntax

open Reading (ofRule)

theorem prompt_cellTest (n : Nat) : Prompt (ofRule cellTest) nullMember (Stops .whole) n := by
  have hwhole := (promptExpressions n).whole
  have hexpression := hwhole.map (f := CellTest.expression)
  have hother (us : List Token)
      (hus : ∀ o, us.head? = some (.operator o) → comparisonOp? (.operator o) = none) :
      ofRule cellTest us = (ofRule expression).map .expression us := by
    rw [ofRule, cellTest.eq_def]
    split
    case h_1 o rest =>
      have hnone := hus o rfl
      split
      case h_1 hop => cases hnone.symm.trans hop
      case h_2 => exact Reply.result_map rfl
    case h_2 => exact Reply.result_map rfl
  have hnull (us : List Token) : ofRule cellTest (nullMember ++ us) =
      (ofRule expression).map .expression (nullMember ++ us) :=
    hother _ fun o heq => by cases heq
  refine ⟨fun us hus => ?_, fun ts hlt => ?_⟩
  · rw [hnull]
    exact hexpression.starts us hus
  · by_cases hts : ∃ o op, ts.head? = some (.operator o) ∧ comparisonOp? (.operator o) = some op
    case pos =>
      obtain ⟨o, op, hts, hop⟩ := hts
      obtain ⟨rest, rfl⟩ := List.head?_eq_some_iff.1 hts
      refine .behind (hwhole.map (f := CellTest.comparison op)) (Nat.lt_of_succ_lt hlt) fun us => ?_
      rw [ofRule, cellTest]
      split
      case h_1 hop' =>
        cases hop.symm.trans hop'
        exact Reply.result_widen.trans (Reply.result_map rfl)
      case h_2 hnone => cases hop.symm.trans hnone
    case neg =>
      refine .as hexpression hlt fun us hus => ?_
      obtain hus | ⟨vs, -, rfl⟩ := hus
      · refine hother us fun o ho => Option.eq_none_iff_forall_ne_some.2 fun op hop => hts ?_
        exact ⟨o, op, hus ▸ ho, hop⟩
      · exact hnull vs

theorem prompt_cellTests (n : Nat) : Prompt (ofRule cellTests) nullMember EndsItems n := by
  have hcommas : Prompt (ofRule commaTests) [] EndsItems n := by
    refine prompt_commas (prompt_cellTest n) (fun us => ?_) fun us hus => ?_
    · rw [ofRule, commaTests]
      exact Reply.result_andThen rfl fun _ _ _ => Reply.result_widen.trans (Reply.result_map rfl)
    · rw [ofRule, commaTests.eq_2 us hus]
      rfl
  have htests := (prompt_cellTest n).andThen (fun test => hcommas.map (f := (test :: ·)))
    fun us hus => hus.1
  refine htests.congr fun us => ?_
  rw [ofRule, cellTests]
  exact Reply.result_andThen rfl fun _ _ _ => Reply.result_widen.trans (Reply.result_map rfl)

-- The whole list has to be taken.
def Reading.complete {α : Type} (p : Reading α) (ts : List Token) : Except Failure α :=
  match p ts with
  | .ok (value, []) => .ok value
  | .ok (_, rest) => .error ⟨rest, some .endOfInput, none⟩
  | .error f => .error f

theorem complete_eq {α : Type} {n : Nat} {r : Reply α n} {p : Reading α} {ts : List Token}
    (hr : r.result = p ts) : complete r = p.complete ts := by
  rw [Reading.complete, ← hr]
  cases r with
  | ok value rest h => cases rest <;> rfl
  | fail f => rfl

def Accepted {α : Type} (grammar : List Token → Except Failure α) (ts : List Token) : Prop :=
  ∃ value, grammar ts = .ok value

namespace Failure

-- How many tokens stand before the offending one.
def position (f : Failure) (ts : List Token) : Nat := ts.length - f.rest.length

structure FirstOffence (accepts : List Token → Prop) (ts : List Token) (f : Failure) : Prop where
  rest_eq : f.rest = ts.drop (f.position ts)
  continues : ∃ more, accepts (ts.take (f.position ts) ++ more)
  offends : f.position ts < ts.length → ∀ more, ¬accepts (ts.take (f.position ts + 1) ++ more)

variable {accepts accepts' : List Token → Prop} {ts before : List Token} {f g : Failure}

theorem FirstOffence.of_append (hcontinues : ∃ more, accepts (before ++ more))
    (hoffends : ∀ t rest, f.rest = t :: rest → ∀ more, ¬accepts (before ++ t :: more)) :
    FirstOffence accepts (before ++ f.rest) f := by
  have hposition : f.position (before ++ f.rest) = before.length := by
    rw [position, List.length_append, Nat.add_sub_cancel]
  constructor
  · rw [hposition, List.drop_left]
  · rwa [hposition, List.take_left]
  · intro hlt more
    rw [hposition] at hlt ⊢
    cases hrest : f.rest with
    | nil => simp [hrest] at hlt
    | cons t rest =>
      rw [List.take_length_add_append, List.append_assoc]
      exact hoffends t rest hrest more

theorem FirstOffence.congr (h : FirstOffence accepts ts f) (hrest : g.rest = f.rest) :
    FirstOffence accepts ts g := by
  have hposition : g.position ts = f.position ts := by rw [position, position, hrest]
  obtain ⟨hrest', hcontinues, hoffends⟩ := h
  rw [← hrest, ← hposition] at hrest'
  rw [← hposition] at hcontinues hoffends
  exact ⟨hrest', hcontinues, hoffends⟩

-- What cannot go on with one token cannot go on with more.
theorem FirstOffence.not_accepts (h : FirstOffence accepts ts f) {i : Nat}
    (hle : f.position ts ≤ i) (hlt : i < ts.length) (more : List Token) :
    ¬accepts (ts.take (i + 1) ++ more) := by
  have htake : (ts.take (i + 1)).take (f.position ts + 1) = ts.take (f.position ts + 1) := by
    rw [List.take_take, Nat.min_eq_left (by omega)]
  rw [← List.take_append_drop (f.position ts + 1) (ts.take (i + 1)), htake, List.append_assoc]
  exact h.offends (Nat.lt_of_le_of_lt hle hlt) _

-- A list is accepted in one of two ways, and the failure is that of the way that went further.
theorem FirstOffence.furthest (hf : FirstOffence accepts ts f) (hg : FirstOffence accepts' ts g) :
    FirstOffence (fun us => accepts us ∨ accepts' us) ts (f.furthest g) := by
  rw [Failure.furthest]
  split
  case isTrue hlt =>
    have hle : f.position ts ≤ g.position ts := by
      simp only [position]
      omega
    obtain ⟨more, hmore⟩ := hg.continues
    refine ⟨hg.rest_eq, ⟨more, .inr hmore⟩, fun hlt more => not_or.2 ⟨?_, ?_⟩⟩
    · exact hf.not_accepts hle hlt more
    · exact hg.offends hlt more
  case isFalse hge =>
    have hle : g.position ts ≤ f.position ts := by
      simp only [position]
      omega
    obtain ⟨more, hmore⟩ := hf.continues
    refine ⟨hf.rest_eq, ⟨more, .inl hmore⟩, fun hlt more => not_or.2 ⟨?_, ?_⟩⟩
    · exact hf.offends hlt more
    · exact hg.not_accepts hle hlt more

end Failure

open Failure (FirstOffence)

theorem Prompt.firstOffence {α : Type} {p : Reading α} {start ts : List Token}
    {stop : List Token → Prop} {f : Failure} (hp : ∀ n, Prompt p start stop n) (hstop : stop [])
    (h : p.complete ts = .error f) : FirstOffence (Accepted p.complete) ts f := by
  have haccepted {us : List Token} (h : ∃ value, p us = .ok (value, [])) :
      Accepted p.complete us := by
    obtain ⟨value, hvalue⟩ := h
    exact ⟨value, by rw [Reading.complete, hvalue]⟩
  obtain ⟨front, rest, verdict, rfl, hverdict, hmore⟩ := (hp _).on ts (Nat.lt_succ_self _)
  have hcontinues : ∃ more, Accepted p.complete (front ++ more) := by
    by_cases hfront : front = []
    case pos =>
      subst hfront
      have hstart := (hp 0).starts [] hstop
      rw [List.append_nil] at hstart
      exact ⟨start, haccepted hstart⟩
    case neg =>
      obtain ⟨more, hmore⟩ := hmore hfront
      have hmore := hmore [] hstop
      rw [List.append_nil] at hmore
      exact ⟨more, haccepted hmore⟩
  have hfails (us : List Token) (hus : SameHead us rest) :
      ∃ g, p.complete (front ++ us) = .error g ∧ g.rest = us := by
    rw [Reading.complete, hverdict us hus]
    cases verdict with
    | fails expected rule => exact ⟨_, rfl, rfl⟩
    | yields value =>
      cases us with
      | cons t us => exact ⟨_, rfl, rfl⟩
      | nil =>
        rw [Reading.complete, hverdict rest rfl, SameHead.eq_nil hus.symm] at h
        cases h
  obtain ⟨g, hg, hrest⟩ := hfails rest rfl
  cases hg.symm.trans h
  subst hrest
  refine .of_append hcontinues fun t rest hrest more => ?_
  obtain ⟨g, hg, -⟩ := hfails (t :: more) (hrest ▸ rfl)
  rintro ⟨value, hvalue⟩
  cases hg.symm.trans hvalue

theorem prompt_expression (n : Nat) : Prompt (ofRule expression) nullMember (Stops .whole) n :=
  (promptExpressions n).whole

theorem completeExpression_eq (ts : List Token) :
    completeExpression ts = (ofRule expression).complete ts :=
  complete_eq rfl

def anyReading : Reading Cell :=
  .single (fun | .operator .minus => some .any | _ => none) none none

def notReading : Reading Unit :=
  .single (fun | .keyword .not => some () | _ => none) none none

def negatedReading : Reading Cell :=
  notReading.andThen fun _ =>
    (ofRule (delimiter .openParen none)).andThen fun _ =>
      (ofRule cellTests).andThen fun tests =>
        (ofRule (delimiter .closeParen none)).map fun _ => .tests true tests

def plainReading : Reading Cell :=
  (ofRule cellTests).map (.tests false)

theorem anyCell_eq (ts : List Token) : anyCell ts = anyReading.complete ts := by
  cases ts with
  | nil => rfl
  | cons t ts =>
    cases t with
    | operator o => cases o <;> cases ts <;> rfl
    | _ => rfl

theorem negatedCell_eq (ts : List Token) : negatedCell ts = negatedReading.complete ts := by
  cases ts with
  | nil => rfl
  | cons t ts =>
    cases t with
    | keyword k =>
      cases k
      case not =>
        cases ts with
        | nil => rfl
        | cons u rest =>
          cases u with
          | delimiter d =>
            cases d
            case openParen =>
              have hread : negatedReading (.keyword .not :: .delimiter .openParen :: rest) =
                  (ofRule cellTests).andThen (fun tests => (ofRule (delimiter .closeParen none)).map
                    fun _ => .tests true tests) rest :=
                rfl
              rw [negatedCell, Reading.complete, hread]
              exact complete_eq <| Reply.result_andThen rfl fun _ _ _ =>
                Reply.result_widen.trans (Reply.result_map rfl)
            all_goals rfl
          | _ => rfl
      all_goals rfl
    | _ => rfl

theorem plainCell_eq (ts : List Token) : plainCell ts = plainReading.complete ts :=
  complete_eq (Reply.result_map rfl)

theorem prompt_anyReading (n : Nat) : Prompt anyReading [.operator .minus] Anywhere n :=
  prompt_single rfl

theorem prompt_negatedReading (n : Nat) : Prompt negatedReading
    (.keyword .not :: .delimiter .openParen :: (nullMember ++ [.delimiter .closeParen]))
    Anywhere n := by
  have hclose (tests : List CellTest) := (prompt_delimiter (n := n) .closeParen none).map
    (f := fun _ => Cell.tests true tests)
  have htests := (prompt_cellTests n).andThen hclose fun us _ => endsItems_delimiter rfl nofun
  have hopen := (prompt_delimiter .openParen none).andThen (fun _ => htests) fun _ _ => trivial
  have hnot : Prompt notReading [.keyword .not] Anywhere n := prompt_single rfl
  exact hnot.andThen (fun _ => hopen) fun _ _ => trivial

theorem prompt_plainReading (n : Nat) : Prompt plainReading nullMember EndsItems n :=
  (prompt_cellTests n).map

-- Every failure of a grammar is at the first offence.
def Pinpoints {α : Type} (grammar : List Token → Except Failure α) : Prop :=
  ∀ ts f, grammar ts = .error f → FirstOffence (Accepted grammar) ts f

theorem pinpoints_of_prompt {α : Type} {grammar : List Token → Except Failure α} {p : Reading α}
    {start : List Token} {stop : List Token → Prop} (heq : ∀ ts, grammar ts = p.complete ts)
    (hp : ∀ n, Prompt p start stop n) (hstop : stop []) : Pinpoints grammar := by
  rw [funext heq]
  exact fun ts f h => Prompt.firstOffence hp hstop h

theorem accepted_orElse {α : Type} {p q : List Token → Except Failure α} :
    Accepted (fun us => orElse (p us) (q us)) = fun us => Accepted p us ∨ Accepted q us := by
  funext us
  cases hp : p us <;> cases hq : q us <;> simp [Accepted, orElse, hp, hq]

theorem pinpoints_orElse {α : Type} {p q : List Token → Except Failure α} (hp : Pinpoints p)
    (hq : Pinpoints q) : Pinpoints fun ts => orElse (p ts) (q ts) := by
  intro ts f h
  rw [accepted_orElse]
  cases hfp : p ts with
  | ok value => simp [orElse, hfp] at h
  | error fp =>
    cases hfq : q ts with
    | ok value => simp [orElse, hfp, hfq] at h
    | error fq =>
      simp only [orElse, hfp, hfq, Except.error.injEq] at h
      subst h
      exact (hp ts fp hfp).furthest (hq ts fq hfq)

theorem pinpoints_completeExpression : Pinpoints completeExpression :=
  pinpoints_of_prompt completeExpression_eq prompt_expression trivial

theorem accepted_cell : Accepted cell =
    Accepted fun ts => orElse (orElse (anyCell ts) (negatedCell ts)) (plainCell ts) := by
  funext ts
  rw [Accepted, Accepted, cell]
  split
  case h_1 c heq => rw [heq]
  case h_2 f heq =>
    rw [heq]
    split <;> simp

theorem pinpoints_cell : Pinpoints cell := by
  have hany := pinpoints_of_prompt anyCell_eq prompt_anyReading trivial
  have hnegated := pinpoints_of_prompt negatedCell_eq prompt_negatedReading trivial
  have hplain := pinpoints_of_prompt plainCell_eq prompt_plainReading ⟨trivial, nofun⟩
  have hways := pinpoints_orElse (pinpoints_orElse hany hnegated) hplain
  intro ts f h
  rw [accepted_cell]
  rw [cell] at h
  split at h
  case h_1 => cases h
  case h_2 g hg =>
    have hfirst := hways ts g hg
    split at h
    case isTrue hlt =>
      cases h
      exact hfirst.congr rfl
    case isFalse hge =>
      cases h
      refine hfirst.congr ?_
      rw [hfirst.rest_eq, Failure.position, Nat.sub_eq_zero_of_le (Nat.le_of_not_lt hge)]
      rfl

theorem failure_at_first_offence (ts : List Token) (f : Failure) :
    (completeExpression ts = .error f → f.FirstOffence (Accepted completeExpression) ts) ∧
      (cell ts = .error f → f.FirstOffence (Accepted cell) ts) :=
  ⟨pinpoints_completeExpression ts f, pinpoints_cell ts f⟩

-- The upper bound of `a between if b then c else d` is missing, and a test in `not (b, )`.
theorem failure_at_first_offence_unfinished :
    let between : List Token := [.identifier "a", .keyword .between, .keyword .if, .identifier "b",
      .keyword .then, .identifier "c", .keyword .else, .identifier "d"]
    let tests : List Token :=
      [.keyword .not, .delimiter .openParen, .identifier "b", .delimiter .comma]
    completeExpression between =
        .error ⟨[], some (.token (.keyword .and)), some (.keyword .and)⟩ ∧
      (∃ more, Accepted completeExpression (between ++ more)) ∧
      cell (tests ++ [.delimiter .closeParen]) =
        .error ⟨[.delimiter .closeParen], none, some .cell⟩ ∧
      (∃ more, Accepted cell (tests ++ more)) ∧
      ∀ more, ¬Accepted cell (tests ++ [.delimiter .closeParen] ++ more) := by
  intro between tests
  have hbetween : completeExpression between =
      .error ⟨[], some (.token (.keyword .and)), some (.keyword .and)⟩ := by
    cbv
  have htests : cell (tests ++ [.delimiter .closeParen]) =
      .error ⟨[.delimiter .closeParen], none, some .cell⟩ := by
    cbv
  have hcompletable := ((failure_at_first_offence _ _).1 hbetween).continues
  have hoffence := (failure_at_first_offence _ _).2 htests
  exact ⟨hbetween, hcompletable, htests, hoffence.continues, hoffence.offends (by decide)⟩

end Rulebook.Syntax
