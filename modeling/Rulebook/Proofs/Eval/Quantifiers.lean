import Rulebook.Eval.Basic

/-!
Quantifiers against the loop over the same source. A quantifier stops at the first item that decides
it, and the loop at the first item on which the body fails. So where the loop has an answer, both
quantifiers are told from it; where it fails, a quantifier fails alike, unless an item in front of
the failing one has decided it.
-/

namespace Rulebook

namespace Quantifier

-- An item with this answer to the test settles the quantifier.
def decides : Quantifier → Value → Bool
  | some, answer => answer.isTrue
  | every, answer => !answer.isTrue

-- What the quantifier then comes to.
def verdict : Quantifier → Bool
  | some => true
  | every => false

def holds (q : Quantifier) (test : Value → Outcome Value) (items : List Value) : Outcome Bool :=
  match q with
  | some => someHolds test items
  | every => everyHolds test items

-- The test fails on some item, and it is by an item before the first such one that the quantifier
-- is decided.
def DecidedBefore (q : Quantifier) (test : Value → Outcome Value) (e : EvalError)
    (items : List Value) : Prop :=
  ∃ before failing after, items = before ++ failing :: after ∧ test failing = .error e ∧
    (∀ v ∈ before, ∃ answer, test v = .ok answer) ∧
    ∃ v ∈ before, ∃ answer, test v = .ok answer ∧ q.decides answer = true

end Quantifier

variable {r : Registry} {s : Scope} {name : String} {source body : Expr} {q : Quantifier}
  {test : Value → Outcome Value} {items results : List Value} {v answer : Value} {e : EvalError}

theorem Value.isTrue_iff : v.isTrue = true ↔ v = .boolean true := by
  cases v <;> simp [isTrue]

namespace Quantifier

theorem holds_nil : q.holds test [] = .ok !q.verdict := by
  cases q <;> rfl

theorem holds_cons (h : test v = .ok answer) :
    q.holds test (v :: items) =
      if q.decides answer then .ok q.verdict else q.holds test items := by
  cases q with
  | some =>
    simp only [holds, someHolds, h, decides, verdict]
    rfl
  | every =>
    simp only [holds, everyHolds, h, decides, verdict, Bool.not_eq_true']
    cases hanswer : answer.isTrue <;> simp [bind, Except.bind, hanswer]

theorem holds_cons_of_error (h : test v = .error e) : q.holds test (v :: items) = .error e := by
  cases q <;> simp only [holds, someHolds, everyHolds, h] <;> rfl

theorem DecidedBefore.cons (h : test v = .ok answer) (hitems : q.DecidedBefore test e items) :
    q.DecidedBefore test e (v :: items) := by
  obtain ⟨before, failing, after, rfl, hfailing, hbefore, w, hw, hdecides⟩ := hitems
  refine ⟨v :: before, failing, after, rfl, hfailing, ?_, w, .tail _ hw, hdecides⟩
  exact List.forall_mem_cons.2 ⟨⟨answer, h⟩, hbefore⟩

end Quantifier

theorem forEach_cons (h : test v = .ok answer) :
    forEach test (v :: items) = (forEach test items).map (answer :: ·) := by
  simp only [forEach, h]
  cases forEach test items <;> rfl

theorem forEach_cons_of_error (h : test v = .error e) :
    forEach test (v :: items) = .error e := by
  simp only [forEach, h]
  rfl

theorem exists_failing_of_forEach (h : forEach test items = .error e) :
    ∃ before failing after, items = before ++ failing :: after ∧ test failing = .error e ∧
      ∀ v ∈ before, ∃ answer, test v = .ok answer := by
  induction items with
  | nil => cases h
  | cons v items ih =>
    cases hv : test v with
    | error e' =>
      rw [forEach_cons_of_error hv] at h
      cases h
      exact ⟨[], v, items, rfl, hv, nofun⟩
    | ok answer =>
      rw [forEach_cons hv] at h
      cases hitems : forEach test items with
      | ok results => simp [hitems, Except.map] at h
      | error e' =>
        rw [hitems] at h
        cases h
        obtain ⟨before, failing, after, rfl, hfailing, hbefore⟩ := ih hitems
        exact ⟨v :: before, failing, after, rfl, hfailing,
          List.forall_mem_cons.2 ⟨⟨answer, hv⟩, hbefore⟩⟩

namespace Quantifier

-- A loop that ends has looked at every item that the quantifier looks at.
theorem holds_of_forEach_ok (h : forEach test items = .ok results) :
    q.holds test items = .ok (if results.any q.decides then q.verdict else !q.verdict) := by
  induction items generalizing results with
  | nil =>
    cases h
    exact holds_nil
  | cons v items ih =>
    cases hv : test v with
    | error e => simp [forEach_cons_of_error hv] at h
    | ok answer =>
      rw [forEach_cons hv] at h
      cases hitems : forEach test items with
      | error e => simp [hitems, Except.map] at h
      | ok others =>
        rw [hitems] at h
        cases h
        rw [holds_cons hv, ih hitems, List.any_cons]
        cases q.decides answer <;> rfl

-- A loop that fails has passed the items in front; the quantifier may have stopped among them.
theorem holds_of_forEach_error (h : forEach test items = .error e) :
    q.holds test items = .error e ∨
      q.holds test items = .ok q.verdict ∧ q.DecidedBefore test e items := by
  induction items with
  | nil => cases h
  | cons v items ih =>
    cases hv : test v with
    | error e' =>
      rw [forEach_cons_of_error hv] at h
      cases h
      exact .inl (holds_cons_of_error hv)
    | ok answer =>
      have hitems : forEach test items = .error e := by
        rw [forEach_cons hv] at h
        cases hitems : forEach test items with
        | ok results => simp [hitems, Except.map] at h
        | error e' => simpa [hitems, Except.map] using h
      rw [holds_cons hv]
      cases hdecides : q.decides answer with
      | true =>
        obtain ⟨before, failing, after, rfl, hfailing, hbefore⟩ := exists_failing_of_forEach hitems
        exact .inr ⟨rfl, v :: before, failing, after, rfl, hfailing,
          List.forall_mem_cons.2 ⟨⟨answer, hv⟩, hbefore⟩, v, .head _, answer, hv, hdecides⟩
      | false => exact (ih hitems).imp id (.imp id (.cons hv))

end Quantifier

theorem eval_loop :
    eval r s (.loop name source body) =
      (eval r s source >>= Value.iterationItems) >>= fun
        | none => .ok .null
        | some items => (forEach (fun v => eval r (s.push [(name, v)]) body) items).map .list := by
  rw [eval]
  cases eval r s source with
  | error e => rfl
  | ok v =>
    show (Value.iterationItems v >>= _) = (Value.iterationItems v >>= _)
    exact congrArg _ (funext fun o => by cases o <;> rfl)

theorem eval_quantified :
    eval r s (.quantified q name source body) =
      (eval r s source >>= Value.iterationItems) >>= fun
        | none => .ok .null
        | some items =>
          (q.holds (fun v => eval r (s.push [(name, v)]) body) items).map .boolean := by
  rw [eval]
  cases eval r s source with
  | error e => rfl
  | ok v =>
    show (Value.iterationItems v >>= _) = (Value.iterationItems v >>= _)
    refine congrArg _ (funext fun o => ?_)
    cases o with
    | none => rfl
    | some items => cases q <;> rfl

-- The verdict of `some` is true and that of `every` false.
theorem eval_quantified_of_loop (r : Registry) (s : Scope) (name : String) (source body : Expr) :
    match eval r s (.loop name source body) with
    | .ok (.list results) =>
      (∃ b, eval r s (.quantified .some name source body) = .ok (.boolean b) ∧
        (b = true ↔ .boolean true ∈ results)) ∧
      ∃ b, eval r s (.quantified .every name source body) = .ok (.boolean b) ∧
        (b = true ↔ ∀ w ∈ results, w = .boolean true)
    | .ok other =>
      other = .null ∧ ∀ q, eval r s (.quantified q name source body) = .ok .null
    | .error e => ∀ q,
      eval r s (.quantified q name source body) = .error e ∨
        eval r s (.quantified q name source body) = .ok (.boolean q.verdict) ∧
          ∃ items, eval r s source >>= Value.iterationItems = .ok (some items) ∧
            q.DecidedBefore (fun v => eval r (s.push [(name, v)]) body) e items := by
  cases hitems : eval r s source >>= Value.iterationItems with
  | error e =>
    rw [eval_loop, hitems]
    intro q
    rw [eval_quantified, hitems]
    exact .inl rfl
  | ok o =>
    cases o with
    | none =>
      rw [eval_loop, hitems]
      refine ⟨rfl, fun q => ?_⟩
      rw [eval_quantified, hitems]
      rfl
    | some items =>
      let test v := eval r (s.push [(name, v)]) body
      have hquantified (q : Quantifier) :
          eval r s (.quantified q name source body) = (q.holds test items).map .boolean := by
        rw [eval_quantified, hitems]
        rfl
      have hloop : eval r s (.loop name source body) = (forEach test items).map .list := by
        rw [eval_loop, hitems]
        rfl
      rw [hloop]
      cases hresults : forEach test items with
      | ok results =>
        simp only [Except.map, hquantified, Quantifier.holds_of_forEach_ok hresults]
        refine ⟨⟨_, rfl, ?_⟩, _, rfl, ?_⟩
        · simp [Quantifier.verdict, Quantifier.decides, Value.isTrue_iff]
        · simp [Quantifier.verdict, Quantifier.decides, Value.isTrue_iff]
      | error e =>
        intro q
        rw [hquantified]
        obtain h | ⟨h, hdecided⟩ := Quantifier.holds_of_forEach_error (q := q) hresults
        · exact .inl (by rw [h]; rfl)
        · exact .inr ⟨by rw [h]; rfl, items, rfl, hdecided⟩

end Rulebook
