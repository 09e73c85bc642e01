import Rulebook.Eval.Operators
import Rulebook.Proofs.Value.Alike

/-!
The operators on values that are alike. They fail on both sides or give values that are alike, and
comparison and membership give the same answer; only the power must be told the signs of zeros.
-/

namespace Rulebook

open Number (Zeros)

variable {zeros : Zeros}

theorem Number.Alike.modulo? {x x' y y' : Float} (hx : Number.Alike zeros x x')
    (hy : Number.Alike zeros y y') :
    Option.Rel (Number.Alike zeros) (Number.modulo? x y) (Number.modulo? x' y') := by
  simp only [Number.modulo?, ← hy.equal_eq (.refl 0)]
  cases h₀ : Number.equal y 0 with
  | true => exact .none
  | false => exact .some (hx.sub (hy.mul (hx.div_of_ne_zero hy h₀).floor))

theorem Number.Alike.scale?_eq {x y : Float} (h : Number.Alike zeros x y) (d : Calendar.Duration) :
    d.scale? x = d.scale? y := by
  have hpart (part : Int) :
      Calendar.Duration.scalePart? part x = Calendar.Duration.scalePart? part y := by
    simp only [Calendar.Duration.scalePart?, ((Number.Alike.refl _).mul h).round.toInt?_eq]
  simp only [Calendar.Duration.scale?, hpart]

namespace Value

theorem both_orOverflow {α : Type} {op op' : BinaryOp} {a b a' b' : Value} (make : α → Value)
    {o : Option α} (h : ∀ a, (make a).UniqueKeys) :
    Both (Alike zeros) (orOverflow op a b make o) (orOverflow op' a' b' make o) := by
  cases o with
  | none => exact .failed
  | some v => exact .given (.refl (h v))

namespace Alike

variable {a b c a' b' c' : Value}

theorem isNull_eq (h : Alike zeros a b) : a.isNull = b.isNull := by cases h <;> rfl

theorem isTrue_eq (h : Alike zeros a b) : a.isTrue = b.isTrue := by cases h <;> rfl

theorem typeName_eq (h : Alike zeros a b) : a.typeName = b.typeName := by cases h <;> rfl

theorem boolean?_eq (h : Alike zeros a b) : a.boolean? = b.boolean? := by cases h <;> rfl

theorem compare?_eq (ha : Alike zeros a a') (hb : Alike zeros b b') :
    compare? a b = compare? a' b' := by
  cases ha <;> cases hb
  case number.number hx _ _ hy => exact hx.compare?_eq hy
  all_goals rfl

theorem conjunction_eq (ha : Alike zeros a a') (hb : Alike zeros b b') :
    Value.conjunction a b = Value.conjunction a' b' := by
  simp only [Value.conjunction, ha.boolean?_eq, hb.boolean?_eq]

theorem disjunction_eq (ha : Alike zeros a a') (hb : Alike zeros b b') :
    Value.disjunction a b = Value.disjunction a' b' := by
  simp only [Value.disjunction, ha.boolean?_eq, hb.boolean?_eq]

-- The numbers are what two alike operands can differ in; all else is the same on both sides.
theorem add (ha : Alike zeros a a') (hb : Alike zeros b b') :
    Both (Alike zeros) (a.add b) (a'.add b') := by
  cases ha <;> cases hb
  case number.number hx _ _ hy => exact .given (.number (hx.add hy))
  all_goals first
    | exact .failed
    | exact .given (.refl trivial)
    | exact both_orOverflow _ fun _ => trivial

theorem add_negated {d : Calendar.Duration} {e e' : EvalError} (h : Alike zeros a a') :
    Both (Alike zeros) (match d.negate? with | some n => a.add (.duration n) | none => .error e)
      (match d.negate? with | some n => a'.add (.duration n) | none => .error e') := by
  cases d.negate? with
  | none => exact .failed
  | some n => exact h.add (.duration n)

theorem subtract (ha : Alike zeros a a') (hb : Alike zeros b b') :
    Both (Alike zeros) (a.subtract b) (a'.subtract b') := by
  cases ha <;> cases hb
  case number.number hx _ _ hy => exact .given (.number (hx.sub hy))
  all_goals first
    | exact .failed
    | exact .given (.refl trivial)
    | exact add_negated (.refl trivial)

theorem multiply (ha : Alike zeros a a') (hb : Alike zeros b b') :
    Both (Alike zeros) (a.multiply b) (a'.multiply b') := by
  cases ha <;> cases hb
  case number.number hx _ _ hy => exact .given (.number (hx.mul hy))
  case number.duration hx d =>
    simp only [Value.multiply, hx.scale?_eq]
    exact both_orOverflow _ fun _ => trivial
  case duration.number d _ _ hx =>
    simp only [Value.multiply, hx.scale?_eq]
    exact both_orOverflow _ fun _ => trivial
  all_goals first
    | exact .failed
    | exact .given (.refl trivial)

theorem divide (ha : Alike zeros a a') (hb : Alike zeros b b') :
    Both (Alike zeros) (a.divide b) (a'.divide b') := by
  cases ha <;> cases hb
  case number.number hx y _ hy =>
    simp only [Value.divide, ← hy.equal_eq (.refl 0)]
    cases h₀ : Number.equal y 0 with
    | true => exact .failed
    | false => exact .given (.number (hx.div_of_ne_zero hy h₀))
  case duration.number d y _ hy =>
    simp only [Value.divide, ← hy.equal_eq (.refl 0)]
    cases h₀ : Number.equal y 0 with
    | true => exact .failed
    | false =>
      have hinverse : Number.Alike zeros (1 / y) (1 / _) :=
        (Number.Alike.refl 1).div_of_ne_zero hy h₀
      simp only [hinverse.scale?_eq, Bool.false_eq_true, ↓reduceIte]
      exact both_orOverflow _ fun _ => trivial
  case duration.duration =>
    simp only [Value.divide]
    exact .ite .failed (.ite .failed (.given (.refl trivial)))
  all_goals first
    | exact .failed
    | exact .given (.refl trivial)

theorem modulo (ha : Alike zeros a a') (hb : Alike zeros b b') :
    Both (Alike zeros) (a.modulo b) (a'.modulo b') := by
  cases ha <;> cases hb
  case number.number hx _ _ hy =>
    have h := hx.modulo? hy
    simp only [Value.modulo]
    generalize Number.modulo? _ _ = o at h ⊢
    generalize Number.modulo? _ _ = o' at h ⊢
    cases h with
    | none => exact .failed
    | some h => exact .given (.number h)
  all_goals first
    | exact .failed
    | exact .given (.refl trivial)

theorem nullOr_eq (ha : Alike zeros a a') (hb : Alike zeros b b') (answer : Bool) :
    nullOr a b answer = nullOr a' b' answer := by
  simp only [nullOr, ha.isNull_eq, hb.isNull_eq]

theorem ordered_eq (ha : Alike zeros a a') (hb : Alike zeros b b') (accept : Ordering → Bool) :
    ordered a b accept = ordered a' b' accept := by
  simp only [ordered, ha.compare?_eq hb, ha.nullOr_eq hb]

theorem between_eq (ha : Alike zeros a a') (hb : Alike zeros b b') (hc : Alike zeros c c') :
    a.between b c = a'.between b' c' := by
  simp only [between, ha.ordered_eq hb, ha.ordered_eq hc]

theorem inRange_eq (ha : Alike zeros a a') (hb : Alike zeros b b') (hc : Alike zeros c c')
    (i j : Bool) : inRange a b i j c = inRange a' b' i j c' := by
  simp only [inRange, rangeContains?, hc.compare?_eq ha, hc.compare?_eq hb]

theorem holdsItem_eq (hv : Alike zeros a a') (h : Alike zeros b b') :
    a.holdsItem b = a'.holdsItem b' := by
  have hequal : equal b a = equal b' a' := h.equal_eq hv
  cases h
  case range hs hf i j => exact hs.inRange_eq hf hv i j
  all_goals exact hequal

theorem holds_eq (h : Alike zeros a a') (hv : Alike zeros b b') : a.holds b = a'.holds b' := by
  have hitem : b.holdsItem a = b'.holdsItem a' := hv.holdsItem_eq h
  cases h
  case list h => exact any_eq_of_forall₂ h fun x y hxy => hv.holdsItem_eq hxy
  all_goals exact hitem

theorem uniqueKeys_nullOr {answer : Bool} : (nullOr a b answer).UniqueKeys := by
  unfold nullOr
  split <;> trivial

theorem uniqueKeys_conjunction : (Value.conjunction a b).UniqueKeys := by
  unfold Value.conjunction
  split <;> trivial

theorem uniqueKeys_disjunction : (Value.disjunction a b).UniqueKeys := by
  unfold Value.disjunction
  split <;> trivial

-- A power of a zero may be one of the infinite numbers, by its sign.
theorem power (ha : Alike .signed a a') (hb : Alike .signed b b') :
    Both (Alike .signed) (a.power b) (a'.power b') := by
  cases ha <;> cases hb
  case number.number hx _ _ hy =>
    rw [hx.eq, hy.eq]
    exact .given (.number (.refl _))
  all_goals first
    | exact .failed
    | exact .given (.refl trivial)

theorem binary {op : BinaryOp} (hop : op = .power → zeros = .signed) (ha : Alike zeros a a')
    (hb : Alike zeros b b') : Both (Alike zeros) (Value.binary op a b) (Value.binary op a' b') := by
  cases op with
  | power =>
    obtain rfl := hop rfl
    exact ha.power hb
  | add => exact ha.add hb
  | subtract => exact ha.subtract hb
  | multiply => exact ha.multiply hb
  | divide => exact ha.divide hb
  | modulo => exact ha.modulo hb
  | and =>
    simp only [Value.binary, ha.conjunction_eq hb]
    exact .given (.refl uniqueKeys_conjunction)
  | or =>
    simp only [Value.binary, ha.disjunction_eq hb]
    exact .given (.refl uniqueKeys_disjunction)
  | isIn =>
    simp only [Value.binary, hb.holds_eq ha, ha.nullOr_eq hb]
    exact .given (.refl uniqueKeys_nullOr)
  | equal | notEqual =>
    have hequal : (a == b) = (a' == b') := ha.equal_eq hb
    simp only [Value.binary, bne, hequal, ha.nullOr_eq hb]
    exact .given (.refl uniqueKeys_nullOr)
  | less | greater | lessEqual | greaterEqual =>
    simp only [Value.binary, ha.ordered_eq hb]
    exact .given (.refl uniqueKeys_nullOr)

theorem unary (op : UnaryOp) (h : Alike zeros a a') :
    Both (Alike zeros) (Value.unary op a) (Value.unary op a') := by
  cases op <;> cases h
  case negate.number h => exact .given (.number h.neg)
  case negate.duration d =>
    simp only [Value.unary]
    cases d.negate? with
    | none => exact .failed
    | some n => exact .given (.duration n)
  all_goals first
    | exact .failed
    | exact .given (.refl trivial)

theorem instanceOf (h : Alike zeros a a') (name : String) :
    Both (Alike zeros) (a.instanceOf name) (a'.instanceOf name) := by
  simp only [Value.instanceOf, h.isNull_eq, h.typeName_eq]
  exact .ite .failed (.ite (.given (.refl trivial)) (.given (.refl trivial)))

theorem rangeItems_eq (ha : Alike zeros a a') (hb : Alike zeros b b') (i j : Bool) :
    rangeItems a b i j = rangeItems a' b' i j := by
  cases ha <;> cases hb
  case number.number hx _ _ hy => simp only [rangeItems, hx.toInt?_eq, hy.toInt?_eq]
  all_goals rfl

theorem forall₂_ofInt (numbers : List Int) :
    List.Forall₂ (Alike zeros) (numbers.map ofInt) (numbers.map ofInt) := by
  refine List.forall₂_same.2 fun v hv => .refl ?_
  obtain ⟨n, -, rfl⟩ := List.mem_map.1 hv
  trivial

theorem iterationItems (h : Alike zeros a a') :
    Both (Option.Rel (List.Forall₂ (Alike zeros))) a.iterationItems a'.iterationItems := by
  cases h
  case null => exact .given .none
  case list h => exact .given (.some h)
  case range s s' f f' hs hf i j =>
    simp only [Value.iterationItems, hs.rangeItems_eq hf]
    cases rangeItems s' f' i j with
    | notWhole => exact .given (.some (.cons (.range hs hf i j) .nil))
    | tooMany => exact .failed
    | items numbers => exact .given (.some (forall₂_ofInt numbers))
  case context ha hb h => exact .given (.some (.cons (.context ha hb h) .nil))
  case number h => exact .given (.some (.cons (.number h) .nil))
  all_goals exact .given (.some (.cons (.refl trivial) .nil))

theorem getD_null {o o' : Option Value} (h : Option.Rel (Alike zeros) o o') :
    Alike zeros (o.getD .null) (o'.getD .null) := by
  cases h with
  | none => exact .null
  | some h => exact h

theorem elementAt {as bs : List Value} {x y : Float} (h : List.Forall₂ (Alike zeros) as bs)
    (hx : Number.Alike zeros x y) :
    Alike zeros (Value.elementAt as x) (Value.elementAt bs y) := by
  simp only [Value.elementAt, hx.toInt?_eq, h.length_eq]
  cases Number.toInt? y with
  | none => exact .null
  | some n =>
    simp only
    split
    · exact getD_null (rel_getElem? h _)
    · split
      · exact getD_null (rel_getElem? h _)
      · exact .null

theorem dateProperty (d : Calendar.Date) (key : String) :
    Option.Rel (Alike zeros) (dateProperty? d key) (dateProperty? d key) := by
  unfold dateProperty?
  split
  case h_5 => exact .none
  all_goals exact .some (.refl trivial)

theorem timeProperty (t : Calendar.Time) (key : String) :
    Option.Rel (Alike zeros) (timeProperty? t key) (timeProperty? t key) := by
  unfold timeProperty?
  split
  case h_4 => exact .none
  all_goals exact .some (.refl trivial)

theorem durationProperty (d : Calendar.Duration) (key : String) :
    Option.Rel (Alike zeros) (durationProperty? d key) (durationProperty? d key) := by
  unfold durationProperty?
  split
  case h_7 => exact .none
  all_goals exact .some (.refl trivial)

theorem rangeProperty (ha : Alike zeros a a') (hb : Alike zeros b b') (i j : Bool) (key : String) :
    Option.Rel (Alike zeros) (rangeProperty? a b i j key) (rangeProperty? a' b' i j key) := by
  unfold rangeProperty?
  split
  · exact .some ha
  · exact .some hb
  · exact .some (.boolean i)
  · exact .some (.boolean j)
  · exact .none

theorem property (h : Alike zeros a a') (key : String) :
    Alike zeros (a.property key) (a'.property key) := by
  refine getD_null ?_
  cases h
  case context h => exact h key
  case range hs hf i j => exact rangeProperty hs hf i j key
  case date d => exact dateProperty d key
  case time t => exact timeProperty t key
  case dateTime d => exact rel_or (dateProperty d.date key) (timeProperty d.time key)
  case duration d => exact durationProperty d key
  all_goals exact .none

end Alike

end Value

end Rulebook
