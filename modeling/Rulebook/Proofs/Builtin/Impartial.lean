import Rulebook.Builtin.Basic
import Rulebook.Proofs.Builtin.Lists

/-!
All functions that are there without registration treat alike values alike, but for `string`, which
shows the order of the entries of a context.
-/

namespace Rulebook

open Number (Zeros)
open Value (Alike)

variable {zeros : Zeros}

namespace Number

theorem roundToEven_alike {x y : Float} (h : Alike zeros x y) :
    Alike zeros (roundToEven x) (roundToEven y) :=
  h.map (by decide +kernel)

theorem roundAt_alike {rounding : Float → Float} {x y : Float} (places : Int)
    (hr : ∀ x y, Alike zeros x y → Alike zeros (rounding x) (rounding y)) (h : Alike zeros x y) :
    Alike zeros (roundAt rounding x places) (roundAt rounding y places) :=
  (hr _ _ (h.mul (.refl _))).div _

end Number

namespace Builtin

variable {f name : String} {as bs : List Value} {i : Nat}

theorem optionalString_alike (h : List.Forall₂ (Alike zeros) as bs) :
    Both Eq (optionalString f as i) (optionalString f bs i) := by
  simp only [optionalString, h.length_eq]
  exact .ite (expectString_alike h) (.given rfl)

theorem expectPattern_alike (h : List.Forall₂ (Alike zeros) as bs) {j : Nat} :
    Both Eq (expectPattern f as i j) (expectPattern f bs i j) := by
  refine (expectString_alike h).bind fun | pattern, _, rfl => ?_
  exact (optionalString_alike h).bind fun | flags, _, rfl => .same

theorem joinable_alike {v v' : Value} (h : Alike zeros v v') :
    Both Eq (joinable v) (joinable v') := by
  cases h
  case null => exact .given rfl
  case string s => exact .given rfl
  all_goals exact .failed

theorem impartial_textToText {g : String → String} : (textToText name g).Impartial zeros := by
  intro as bs h
  exact (expectString_alike h).bind fun | _, _, rfl => .given (.string _)

theorem impartial_onTexts {g : List Char → List Char → Value}
    (hg : ∀ text other, (g text other).UniqueKeys) : (onTexts name g).Impartial zeros := by
  intro as bs h
  refine (expectString_alike h).bind fun | text, _, rfl => ?_
  exact (expectString_alike h).bind fun | other, _, rfl => .given (.refl (hg _ _))

theorem impartial_substring : substring.Impartial zeros := by
  intro as bs h
  refine (expectString_alike h).bind fun | text, _, rfl => ?_
  have hpart := selectPart_alike (R := Eq) (f := "substring") h
    (List.forall₂_same (l := text.toList).2 fun _ _ => rfl)
  refine hpart.bind fun part part' hpart => ?_
  rw [List.forall₂_eq_eq_eq] at hpart
  exact .given (hpart ▸ .string _)

theorem impartial_stringJoin : stringJoin.Impartial zeros := by
  intro as bs h
  refine (expectList_alike h).bind fun _ _ hitems => ?_
  refine (optionalString_alike h).bind fun | delimiter, _, rfl => ?_
  refine (Both.mapM hitems fun _ _ => joinable_alike).bind fun parts parts' hparts => ?_
  rw [List.forall₂_eq_eq_eq] at hparts
  exact .given (hparts ▸ .string _)

theorem impartial_patternFunctions : ∀ f ∈ patternFunctions, f.Impartial zeros := by
  simp only [patternFunctions, List.forall_mem_cons, List.not_mem_nil, false_imp_iff,
    implies_true, and_true]
  refine ⟨?occurs, ?replace, ?split⟩
  case occurs =>
    intro as bs h
    refine (expectString_alike h).bind fun | text, _, rfl => ?_
    exact (expectPattern_alike h).bind fun | e, _, rfl => .given (.boolean _)
  case replace =>
    intro as bs h
    refine (expectString_alike h).bind fun | text, _, rfl => ?_
    refine (expectPattern_alike h).bind fun | e, _, rfl => ?_
    exact (expectString_alike h).bind fun | replacement, _, rfl => .given (.string _)
  case split =>
    intro as bs h
    refine (expectString_alike h).bind fun | text, _, rfl => ?_
    refine (expectPattern_alike h).bind fun | e, _, rfl => .given (.refl ?_)
    refine Value.uniqueKeys_list.2 fun v hv => ?_
    obtain ⟨part, -, rfl⟩ := List.mem_map.1 hv
    trivial

theorem impartial_texts : ∀ f ∈ texts, f.name ≠ "string" → f.Impartial zeros := by
  simp only [texts, List.forall_mem_append, List.forall_mem_cons, List.not_mem_nil, false_imp_iff,
    implies_true, and_true]
  refine ⟨⟨⟨fun _ => impartial_substring, fun _ => ?length, fun _ => impartial_textToText,
    fun _ => impartial_textToText, fun _ => impartial_onTexts fun _ _ => trivial,
    fun _ => impartial_onTexts fun _ _ => trivial, fun _ => impartial_onTexts fun _ _ => trivial,
    fun _ => impartial_onTexts fun _ _ => trivial, fun _ => impartial_onTexts fun _ _ => trivial⟩,
    fun f hf _ => impartial_patternFunctions f hf⟩, fun _ => impartial_stringJoin,
    fun _ => impartial_textToText, fun h => absurd rfl h⟩
  intro as bs h
  exact (expectString_alike h).bind fun | _, _, rfl => .given (.refl trivial)

theorem impartial_numeric {g : Float → Float}
    (hg : ∀ x y, Number.Alike zeros x y → Number.Alike zeros (g x) (g y)) :
    (numeric name g).Impartial zeros := by
  intro as bs h
  exact (expectNumber_alike h).bind fun _ _ hx => .given (.number (hg _ _ hx))

theorem impartial_parity {accept : Int → Bool} : (parity name accept).Impartial zeros := by
  intro as bs h
  exact (expectInteger_alike h).bind fun | _, _, rfl => .given (.boolean _)

theorem toNumber_alike (h : List.Forall₂ (Alike zeros) as bs) :
    Both (Alike zeros) (toNumber as) (toNumber bs) := by
  cases h with
  | nil => exact .failed
  | cons hv _ =>
    cases hv
    case number hx => exact .given (.number hx)
    case string s =>
      simp only [toNumber, numberOfText]
      split
      · exact .given (.refl trivial)
      · exact .failed
    all_goals exact .failed

theorem impartial_arithmetic : ∀ f ∈ arithmetic, f.Impartial zeros := by
  simp only [arithmetic, List.forall_mem_cons, List.not_mem_nil, false_imp_iff, implies_true,
    and_true]
  refine ⟨impartial_numeric fun _ _ => .abs, impartial_numeric fun _ _ => .floor,
    impartial_numeric fun _ _ => .ceiling, ?decimal, ?round, ?modulo, ?sqrt,
    fun _ _ => toNumber_alike, impartial_parity, impartial_parity⟩
  case decimal =>
    intro as bs h
    refine (expectNumber_alike h).bind fun _ _ hx => ?_
    refine (expectInteger_alike h).bind fun | places, _, rfl => .given (.number ?_)
    exact Number.roundAt_alike places (fun _ _ => Number.roundToEven_alike) hx
  case round =>
    intro as bs h
    refine (expectNumber_alike h).bind fun _ _ hx => ?_
    have hround (places : Int) := Number.roundAt_alike places (fun _ _ => .round) hx
    rw [h.length_eq]
    refine .ite (.given (.number (hround 0))) ((expectInteger_alike h).bind ?_)
    exact fun | places, _, rfl => .given (.number (hround places))
  case modulo =>
    intro as bs h
    refine (expectNumber_alike h).bind fun x x' hx => (expectNumber_alike h).bind fun y y' hy => ?_
    have hmodulo := hx.modulo? hy
    generalize Number.modulo? x y = o at hmodulo ⊢
    generalize Number.modulo? x' y' = o' at hmodulo ⊢
    cases hmodulo with
    | none => exact .failed
    | some h => exact .given (.number h)
  case sqrt =>
    intro as bs h
    refine (expectNumber_alike h).bind fun _ _ hx => ?_
    simp only [Number.less, hx.compare?_eq (.refl 0)]
    exact .ite .failed (.given (.number hx.sqrt))

theorem decidedBy_alike {deciding : Bool} (h : List.Forall₂ (Alike zeros) as bs) :
    Alike zeros (decidedBy deciding as) (decidedBy deciding bs) := by
  have hany : (as.any fun v => v.boolean? == some deciding) =
      bs.any fun v => v.boolean? == some deciding :=
    any_eq_of_forall₂ h fun _ _ hv => by rw [hv.boolean?_eq]
  have hall : (as.all fun v => v.boolean?.isSome) = bs.all fun v => v.boolean?.isSome :=
    all_eq_of_forall₂ h fun _ _ hv => by rw [hv.boolean?_eq]
  simp only [decidedBy, hany, hall]
  split
  · exact .boolean _
  · split
    · exact .boolean _
    · exact .null

theorem impartial_truth : ∀ f ∈ truth, f.Impartial zeros := by
  simp only [truth, List.forall_mem_cons, List.not_mem_nil, false_imp_iff, implies_true, and_true]
  refine ⟨fun as bs h => .given (decidedBy_alike (listOrItems_alike h)),
    fun as bs h => .given (decidedBy_alike (listOrItems_alike h)), fun as bs h => .given ?_⟩
  rw [all_eq_of_forall₂ h fun _ _ hv => hv.isNull_eq]
  exact .boolean _

theorem dateOfParts_alike (h : List.Forall₂ (Alike zeros) as bs) :
    Both (Alike zeros) (dateOfParts as) (dateOfParts bs) := by
  refine (expectInteger_alike h).bind fun | year, _, rfl => ?_
  refine (expectInteger_alike h).bind fun | month, _, rfl => ?_
  refine (expectInteger_alike h).bind fun | day, _, rfl => ?_
  cases dateOfParts? year month day with
  | none => exact .failed
  | some d => exact .given (.date d)

theorem timeOfParts?_eq {hour minute : Int} {x y : Float} (h : Number.Alike zeros x y) :
    timeOfParts? hour minute x = timeOfParts? hour minute y := by
  have hnanos : nanosOfSecond x = nanosOfSecond y := by
    simp only [nanosOfSecond, (h.fraction.mul (.refl _)).round.clampToInt_eq]
  have hwhole : wholeSecond x = wholeSecond y := by
    simp only [wholeSecond, h.clampToInt_eq]
  simp only [timeOfParts?, hnanos, hwhole]

theorem timeOfParts_alike (h : List.Forall₂ (Alike zeros) as bs) :
    Both (Alike zeros) (timeOfParts as) (timeOfParts bs) := by
  refine (expectInteger_alike h).bind fun | hour, _, rfl => ?_
  refine (expectInteger_alike h).bind fun | minute, _, rfl => ?_
  refine (expectNumber_alike h).bind fun x y hx => ?_
  rw [timeOfParts?_eq hx]
  cases timeOfParts? hour minute y with
  | none => exact .failed
  | some t => exact .given (.time t)

theorem makeDate_alike (h : List.Forall₂ (Alike zeros) as bs) :
    Both (Alike zeros) (makeDate as) (makeDate bs) := by
  have hparts := dateOfParts_alike h
  rcases h with _ | ⟨hv, _ | ⟨hw, _ | ⟨hz, _ | _⟩⟩⟩
  · exact .failed
  · cases hv
    case string s => exact Both.same.bind fun | d, _, rfl => .given (.date d)
    case dateTime d => exact .given (.date _)
    case date d => exact .given (.date d)
    all_goals exact .failed
  · cases hv <;> exact .failed
  · cases hv <;> exact hparts
  · cases hv <;> exact .failed

theorem makeTime_alike (h : List.Forall₂ (Alike zeros) as bs) :
    Both (Alike zeros) (makeTime as) (makeTime bs) := by
  have hparts := timeOfParts_alike h
  rcases h with _ | ⟨hv, _ | ⟨hw, _ | ⟨hz, _ | _⟩⟩⟩
  · exact .failed
  · cases hv
    case string s => exact Both.same.bind fun | t, _, rfl => .given (.time t)
    case dateTime d => exact .given (.time _)
    case time t => exact .given (.time t)
    all_goals exact .failed
  · cases hv <;> exact .failed
  · cases hv <;> exact hparts
  · cases hv <;> exact .failed

theorem makeDateTime_alike (h : List.Forall₂ (Alike zeros) as bs) :
    Both (Alike zeros) (makeDateTime as) (makeDateTime bs) := by
  rcases h with _ | ⟨hv, _ | ⟨hw, _ | _⟩⟩
  · exact .failed
  · cases hv
    case string s => exact Both.same.bind fun | d, _, rfl => .given (.dateTime d)
    case dateTime d => exact .given (.dateTime d)
    all_goals exact .failed
  · cases hv <;> cases hw
    case date.time => exact .given (.dateTime _)
    case dateTime.time => exact .given (.dateTime _)
    all_goals exact .failed
  · cases hv <;> cases hw <;> exact .failed

theorem calendarDate_alike {v v' : Value} (h : Alike zeros v v') :
    Both Eq (calendarDate f v) (calendarDate f v') := by
  cases h
  case date d => exact .given rfl
  case dateTime d => exact .given rfl
  all_goals exact .failed

theorem impartial_calendars : ∀ f ∈ calendars, f.Impartial zeros := by
  simp only [calendars, List.forall_mem_cons, List.not_mem_nil, false_imp_iff, implies_true,
    and_true]
  refine ⟨fun _ _ => makeDate_alike, fun _ _ => makeTime_alike, fun _ _ => makeDateTime_alike,
    ?duration, ?months, ?weekday⟩
  case duration =>
    intro as bs h
    refine (expectString_alike h).bind fun | s, _, rfl => ?_
    exact Both.same.bind fun | d, _, rfl => .given (.duration d)
  case months =>
    intro as bs h
    refine (calendarDate_alike (.getD_null (rel_getElem? h 0))).bind fun | start, _, rfl => ?_
    refine (calendarDate_alike (.getD_null (rel_getElem? h 1))).bind fun | finish, _, rfl => ?_
    exact .given (.duration _)
  case weekday =>
    intro as bs h
    refine (calendarDate_alike (.getD_null (rel_getElem? h 0))).bind fun | d, _, rfl => ?_
    exact .given (.string _)

theorem impartial_functions : ∀ f ∈ functions, f.name ≠ "string" → f.Impartial zeros := by
  intro f hf hname
  simp only [functions, List.mem_append] at hf
  obtain (((hf | hf) | hf) | hf) | hf := hf
  · exact impartial_texts f hf hname
  · exact impartial_arithmetic f hf
  · exact impartial_lists f hf
  · exact impartial_truth f hf
  · exact impartial_calendars f hf

end Builtin

end Rulebook
