import Rulebook.Proofs.Builtin.Stepwise
import Rulebook.Proofs.Calendar.Days
import Rulebook.Proofs.Value.Keys
import Rulebook.Proofs.Value.Related

/-!
No call of a built-in function goes wrong on the way. On arguments that its arity accepts every step
of a function is defined, and the steps lead to its answer.
-/

namespace Rulebook.Builtin

open Rulebook.Guarded (step given given_bind step_some_bind given_ok_bind pure_eq_given
  mapM_eq_given)
open Value (checked)

namespace Guarded

-- On all arguments that reach the body each step is defined, and they lead to the answer of the
-- function.
structure Defines (g : GuardedFunction) (f : Function) : Prop where
  name : g.name = f.name
  arity : g.arity = f.arity
  propagatesNull : g.propagatesNull = f.propagatesNull
  body : ∀ arguments, Storable arguments → f.arity.accepts arguments.length = true →
    g.body arguments = given (f.body arguments)

theorem steady_defines {f : Function} : Defines (steady f) f :=
  ⟨rfl, rfl, rfl, fun _ _ _ => rfl⟩

variable {name function : String} {arguments : List Value}

-- The fewest arguments that are accepted.
def fewest : Arity → ℕ
  | .exact n | .range n _ | .atLeast n => n

theorem exists_getElem?_of_accepts {arity : Arity} {index : ℕ}
    (h : arity.accepts arguments.length = true) (hindex : index < fewest arity) :
    ∃ v, arguments[index]? = some v := by
  refine ⟨_, List.getElem?_eq_getElem (Nat.lt_of_lt_of_le hindex ?_)⟩
  cases arity with
  | exact n => exact Nat.le_of_eq (beq_iff_eq.1 h).symm
  | range low high => exact of_decide_eq_true (Bool.and_eq_true_iff.1 h).1
  | atLeast low => exact of_decide_eq_true h

section Texts

variable {index : ℕ}

theorem isStorable_of_getElem? {v : Value} (h : Storable arguments)
    (hv : arguments[index]? = some v) : IsStorable v :=
  h.each v (List.mem_of_getElem? hv)

theorem byteLength_of_expectString {s : String} (h : Storable arguments)
    (hs : Builtin.expectString function arguments index = .ok s) :
    byteLength s.toList < 2 ^ 63 := by
  rw [Builtin.expectString] at hs
  split at hs
  case h_1 text htext =>
    cases hs
    exact isStorable_of_getElem? h htext
  case h_2 => cases hs

theorem length_of_expectList {items : List Value} (h : Storable arguments)
    (hitems : Builtin.expectList function arguments index = .ok items) :
    items.length < 2 ^ 63 := by
  rw [Builtin.expectList] at hitems
  split at hitems
  case h_1 items' hfound =>
    cases hitems
    exact isStorable_of_getElem? h hfound
  case h_2 => cases hitems

theorem textToText_defines {f : String → String} :
    Defines (textToText name f) (Builtin.textToText name f) := by
  refine ⟨rfl, rfl, rfl, fun arguments _ _ => ?_⟩
  exact expectString_bind (by decide) fun _ _ => rfl

theorem onTexts_defines {f : List Char → List Char → Guarded Value}
    {g : List Char → List Char → Value}
    (h : ∀ text other, byteLength text < 2 ^ 63 → f text other = given (.ok (g text other))) :
    Defines (onTexts name f) (Builtin.onTexts name g) := by
  refine ⟨rfl, rfl, rfl, fun arguments hstorable _ => ?_⟩
  exact expectString_bind (by decide) fun text htext => expectString_bind (by decide) fun other _ =>
    h _ _ (byteLength_of_expectString hstorable htext)

theorem textBefore_eq {text pattern : List Char} : textBefore text pattern =
    given (.ok (ofChars (((Text.splitAt? pattern text).map (·.1)).getD []))) := by
  rw [textBefore, find?]
  cases hsplit : Text.splitAt? pattern text with
  | none => rfl
  | some parts =>
    obtain ⟨front, rest⟩ := parts
    have hcut : cutAt? (byteLength front) text = some (front, pattern ++ rest) := by
      rw [← Text.eq_of_splitAt? hsplit, List.append_assoc, cutAt?_byteLength]
    simp only [Option.map_some, hcut]
    rfl

theorem textAfter_eq {text pattern : List Char} (h : byteLength text < 2 ^ 63) :
    textAfter text pattern =
      given (.ok (ofChars (((Text.splitAt? pattern text).map (·.2)).getD []))) := by
  rw [textAfter, find?]
  cases hsplit : Text.splitAt? pattern text with
  | none => rfl
  | some parts =>
    obtain ⟨front, rest⟩ := parts
    have htext := Text.eq_of_splitAt? hsplit
    have hlength : byteLength front + byteLength pattern = byteLength (front ++ pattern) :=
      byteLength_append.symm
    have hword : word? (byteLength front + byteLength pattern : ℕ) =
        some (byteLength (front ++ pattern)) := by
      rw [hlength]
      refine word?_natCast ?_
      rw [← htext, byteLength_append] at h
      omega
    have hcut : cutAt? (byteLength (front ++ pattern)) text = some (front ++ pattern, rest) := by
      rw [← htext, cutAt?_byteLength]
    simp only [Option.map_some, ← Int.natCast_add, hword, step_some_bind, hcut]
    rfl

theorem optionalString_eq (h : index + 1 < 2 ^ 64) : optionalString function arguments index =
    given (Builtin.optionalString function arguments index) := by
  rw [optionalString, Builtin.optionalString, expectString_eq h]
  obtain hlt | hge := Nat.lt_or_ge index arguments.length
  · rw [List.getElem?_eq_getElem hlt, if_pos hlt]
  · rw [List.getElem?_eq_none hge, if_neg (Nat.not_lt.2 hge)]
    rfl

theorem expectPattern_eq {flagsIndex : ℕ} (h : index + 1 < 2 ^ 64)
    (hflags : flagsIndex + 1 < 2 ^ 64) :
    expectPattern function arguments index flagsIndex =
      given (Builtin.expectPattern function arguments index flagsIndex) := by
  rw [expectPattern, Builtin.expectPattern, expectString_eq h, optionalString_eq hflags]
  refine given_bind fun pattern _ => given_bind fun flags _ => ?_
  cases flags.toList.find? (!isPatternFlag ·) with
  | some c => rfl
  | none =>
    cases Regex.read? (withFlags flags pattern) with
    | none => rfl
    | some e => exact (apply_ite given ..).symm

theorem compile_eq (h : index + 2 < 2 ^ 64) : compile function arguments index =
    given (Builtin.expectPattern function arguments index (index + 1)) := by
  have hword : word? ((index : ℤ) + 1) = some (index + 1) :=
    word?_natCast (by omega : index + 1 < 2 ^ 64)
  rw [compile, hword, step_some_bind, expectPattern_eq (by omega) h]

theorem divided?_eq {n divisor : ℕ} (h : divisor ≠ 0) :
    divided? n divisor = some (n / divisor, n % divisor) :=
  if_neg h

theorem secondsText?_eq {millis : ℕ} :
    secondsText? millis = some (Calendar.secondsText millis) := by
  rw [secondsText?, divided?_eq (by decide), Calendar.secondsText]
  simp only [Option.bind_eq_bind, Option.bind_some]
  split
  · rfl
  · split <;> rfl

theorem durationText?_eq {d : Calendar.Duration} : durationText? d = some d.text := by
  rw [durationText?, Calendar.Duration.text]
  split
  case isTrue => rfl
  case isFalse =>
    rw [divided?_eq (by decide), divided?_eq (by decide)]
    simp only [Option.bind_eq_bind, Option.bind_some, timeText?]
    split
    · simp
    · simp only [divided?_eq (show 3600000 ≠ 0 by decide), divided?_eq (show 60000 ≠ 0 by decide),
        secondsText?_eq, Option.bind_some, String.append_assoc]

theorem itemTexts?_eq {items : List Value}
    (h : ∀ v ∈ items, textWith? true v = some (v.textWith true)) :
    itemTexts? items = some (Value.itemTexts items) := by
  induction items with
  | nil => rfl
  | cons v items ih =>
    rw [List.forall_mem_cons] at h
    rw [itemTexts?, h.1, ih h.2]
    rfl

theorem entryTexts?_eq {entries : List (String × Value)}
    (h : ∀ e ∈ entries, textWith? true e.2 = some (e.2.textWith true)) :
    entryTexts? entries = some (Value.entryTexts entries) := by
  induction entries with
  | nil => rfl
  | cons e entries ih =>
    rw [List.forall_mem_cons] at h
    rw [entryTexts?, h.1, ih h.2]
    rfl

theorem textWith?_eq (quotes : Bool) (v : Value) :
    textWith? quotes v = some (v.textWith quotes) := by
  induction v using Value.induction generalizing quotes with
  | duration d =>
    rw [textWith?, durationText?_eq]
    rfl
  | list items ih =>
    rw [textWith?, itemTexts?_eq fun v hv => ih v hv true]
    rfl
  | context entries ih =>
    rw [textWith?, entryTexts?_eq fun e he => ih e he true]
    rfl
  | range s f i j hs hf =>
    rw [textWith?, hs true, hf true]
    rfl
  | _ => rfl

theorem texts_define : List.Forall₂ Defines texts Builtin.texts := by
  refine .cons ⟨rfl, rfl, rfl, fun arguments hstorable _ => ?_⟩ <|
    .cons ⟨rfl, rfl, rfl, fun arguments _ _ => ?_⟩ <|
    .cons textToText_defines <| .cons textToText_defines <|
    .cons (onTexts_defines fun _ _ _ => textBefore_eq) <|
    .cons (onTexts_defines fun _ _ h => textAfter_eq h) <|
    .cons (onTexts_defines fun _ _ _ => rfl) <| .cons (onTexts_defines fun _ _ _ => rfl) <|
    .cons (onTexts_defines fun _ _ _ => rfl) <|
    .cons ⟨rfl, rfl, rfl, fun arguments _ _ => ?_⟩ <|
    .cons ⟨rfl, rfl, rfl, fun arguments _ _ => ?_⟩ <|
    .cons ⟨rfl, rfl, rfl, fun arguments _ _ => ?_⟩ <|
    .cons ⟨rfl, rfl, rfl, fun arguments _ _ => ?_⟩ <|
    .cons textToText_defines <| .cons ⟨rfl, rfl, rfl, fun arguments _ hcount => ?_⟩ .nil
  -- The part of a text, its length, and then the functions of patterns.
  · refine expectString_bind (by decide) fun text htext => ?_
    have hlength := byteLength_of_expectString hstorable htext
    rw [selectPart_eq (length_le_byteLength.trans_lt hlength)]
    exact given_bind fun _ _ => rfl
  · exact expectString_bind (by decide) fun _ _ => rfl
  · refine expectString_bind (by decide) fun text _ => ?_
    rw [compile_eq (by decide)]
    exact given_bind fun _ _ => rfl
  · refine expectString_bind (by decide) fun text _ => ?_
    rw [expectPattern_eq (by decide) (by decide)]
    exact given_bind fun e _ => expectString_bind (by decide) fun _ _ => rfl
  · refine expectString_bind (by decide) fun text _ => ?_
    rw [compile_eq (by decide)]
    exact given_bind fun _ _ => rfl
  · refine expectList_bind (by decide) fun items _ => ?_
    rw [optionalString_eq (by decide)]
    exact given_bind fun delimiter _ => given_bind fun _ _ => rfl
  · obtain ⟨v, hv⟩ : ∃ v, arguments[0]? = some v := exists_getElem?_of_accepts hcount (by decide)
    change (step arguments[0]? >>= _) =
      given (.ok (Value.string ((arguments[0]?.map Value.text).getD "")))
    rw [hv, step_some_bind, textWith?_eq]
    rfl

end Texts

section Arithmetic

theorem numeric_defines {f : Float → Float} :
    Defines (numeric name f) (Builtin.numeric name f) := by
  refine ⟨rfl, rfl, rfl, fun arguments _ _ => ?_⟩
  exact expectNumber_bind (by decide) fun _ => rfl

theorem remainder?_two {n : ℤ} (h : Calendar.fits n = true) :
    remainder? n 2 = some (n.tmod 2) := by
  have hquotient : (n.tdiv 2).natAbs = n.natAbs / 2 := Int.natAbs_tdiv n 2
  rw [Calendar.fits_iff] at h
  have hfits : Calendar.fits (n.tdiv 2) = true := Calendar.fits_iff.2 (by omega)
  rw [remainder?, if_neg (by decide), checked_eq hfits]
  rfl

theorem tmod_two_eq_zero_iff {n : ℤ} : n.tmod 2 = 0 ↔ n % 2 = 0 := by
  rw [← Int.dvd_iff_tmod_eq_zero, Int.dvd_iff_emod_eq_zero]

theorem parity_defines {accept accept' : ℤ → Bool} (h : ∀ n : ℤ, accept (n.tmod 2) = accept' n) :
    Defines (parity name accept) (Builtin.parity name accept') := by
  refine ⟨rfl, rfl, rfl, fun arguments _ _ => ?_⟩
  refine expectInteger_bind (by decide) fun n hn => ?_
  rw [remainder?_two hn, step_some_bind, h]
  rfl

theorem toNumber_eq (h : arguments ≠ []) :
    toNumber arguments = given (Builtin.toNumber arguments) := by
  match arguments with
  | [] => exact absurd rfl h
  | v :: rest =>
    rw [toNumber, List.getElem?_cons_zero, step_some_bind]
    cases v <;> simp only [Builtin.toNumber, pure_eq_given]

theorem arithmetic_defines : List.Forall₂ Defines arithmetic Builtin.arithmetic := by
  refine .cons numeric_defines <| .cons numeric_defines <| .cons numeric_defines <|
    .cons ⟨rfl, rfl, rfl, fun arguments _ _ => ?_⟩ <|
    .cons ⟨rfl, rfl, rfl, fun arguments _ _ => ?_⟩ <|
    .cons ⟨rfl, rfl, rfl, fun arguments _ _ => ?_⟩ <|
    .cons ⟨rfl, rfl, rfl, fun arguments _ _ => ?_⟩ <|
    .cons ⟨rfl, rfl, rfl, fun arguments _ hcount => ?_⟩ <|
    .cons (parity_defines ?_) <| .cons (parity_defines ?_) .nil
  · refine expectNumber_bind (by decide) fun x => ?_
    exact expectInteger_bind (by decide) fun _ _ => rfl
  · refine expectNumber_bind (by decide) fun x => ?_
    rw [optionalInteger]
    by_cases hshort : arguments.length < 2
    · rw [List.getElem?_eq_none (by omega)]
      simp only [if_pos hshort]
      rfl
    · rw [List.getElem?_eq_getElem (by omega)]
      simp only [if_neg hshort]
      exact expectInteger_bind (by decide) fun _ _ => rfl
  · refine expectNumber_bind (by decide) fun dividend => ?_
    refine expectNumber_bind (by decide) fun divisor => ?_
    cases Number.modulo? dividend divisor <;> rfl
  · exact expectNumber_bind (by decide) fun x => (apply_ite given ..).symm
  · exact toNumber_eq fun hnil => by rw [hnil] at hcount; cases hcount
  · intro n
    rw [Bool.eq_iff_iff, bne_iff_ne, bne_iff_ne, ne_eq, ne_eq, tmod_two_eq_zero_iff]
  · intro n
    rw [Bool.eq_iff_iff, beq_iff_eq, beq_iff_eq, tmod_two_eq_zero_iff]

end Arithmetic

section Lists

theorem length_listOrItems_lt (h : Storable arguments) :
    (listOrItems arguments).length < 2 ^ 63 := by
  unfold listOrItems
  split
  case h_1 items => exact h.each (.list items) (.head _)
  case h_2 => exact h.length

theorem length_of_aggregated {items : List Value} {numbers : List Float}
    (h : aggregated function items = .ok (some numbers)) :
    numbers.length = items.length ∧ numbers ≠ [] := by
  rw [aggregated] at h
  split at h
  case isTrue => cases h
  case isFalse hitems =>
    simp only [bind, Except.bind] at h
    split at h
    · cases h
    · rename_i found hfound
      cases h
      have hlength := (mapM_eq_ok_iff.1 hfound).length_eq
      refine ⟨hlength.symm, fun hnil => hitems ?_⟩
      rw [hnil, List.length_nil, List.length_eq_zero_iff] at hlength
      simp [hlength]

theorem median_eq {numbers : List Float} (hne : numbers ≠ []) (h : numbers.length < 2 ^ 63) :
    median numbers = given (.ok (Builtin.median numbers)) := by
  have hpos := List.length_pos_iff.2 hne
  rw [median, Builtin.median]
  generalize hordered : numbers.mergeSort _ = ordered
  have hlength : ordered.length = numbers.length := hordered ▸ List.length_mergeSort ..
  have hmiddle : ordered[numbers.length / 2]? = some (ordered[numbers.length / 2]?.getD 0) := by
    rw [List.getElem?_eq_getElem (by omega)]
    rfl
  simp only [hlength, divided?_eq (show 2 ≠ 0 by decide), step_some_bind]
  split
  case isTrue heven =>
    have hword : word? (((numbers.length / 2 : ℕ) : ℤ) - 1) = some (numbers.length / 2 - 1) := by
      rw [← Int.natCast_pred_of_pos (by omega)]
      exact word?_natCast (by omega)
    have hbelow : ordered[numbers.length / 2 - 1]? =
        some (ordered[numbers.length / 2 - 1]?.getD 0) := by
      rw [List.getElem?_eq_getElem (by omega)]
      rfl
    rw [hword, step_some_bind, hbelow, step_some_bind, hmiddle, step_some_bind]
    rfl
  case isFalse =>
    rw [hmiddle]
    rfl

theorem onList_defines {arity : Arity} {f : List Value → List Value → Guarded Value}
    {g : List Value → List Value → Value} (hfewest : 0 < fewest arity)
    (h : ∀ arguments items, arity.accepts arguments.length = true →
      f arguments items = given (.ok (g items (arguments.drop 1)))) :
    Defines (onList name arity f) (Builtin.onList name arity g) := by
  refine ⟨rfl, rfl, rfl, fun arguments _ hcount => ?_⟩
  obtain ⟨v, hv⟩ := exists_getElem?_of_accepts hcount hfewest
  have hlist : (expectList name arguments 0 >>= f arguments) =
      given (Builtin.expectList name arguments 0 >>= fun items =>
        .ok (g items (arguments.drop 1))) := by
    exact expectList_bind (by decide) fun items _ => h arguments items hcount
  match arguments with
  | [] => cases hv
  | w :: rest =>
    cases w
    case null => rfl
    all_goals exact hlist

theorem joinLists_eq (h : Storable arguments) :
    joinLists function arguments = given (Builtin.joinLists function arguments) := by
  rw [joinLists, Builtin.joinLists, mapM_eq_given fun i hi => expectList_eq ?_]
  · exact given_bind fun _ _ => rfl
  · have := List.mem_range.1 hi
    have := h.length
    omega

theorem listToList_defines {f : List Value → List Value} :
    Defines (listToList name f) (Builtin.listToList name f) := by
  refine ⟨rfl, rfl, rfl, fun arguments _ _ => ?_⟩
  exact expectList_bind (by decide) fun _ _ => rfl

theorem filterMap_map_if {α β : Type} {p : α → Bool} {f : α → β} {as : List α} :
    (as.map fun a => if p a = true then some (f a) else none).filterMap id =
      (as.filter p).map f := by
  induction as with
  | nil => rfl
  | cons a as ih => cases h : p a <;> simpa [h] using ih

theorem positions_eq {items : List Value} {wanted : Value} (hwanted : arguments[1]? = some wanted)
    (h : items.length < 2 ^ 63) :
    (do
      let found ← items.zipIdx.mapM fun (item, i) => positionOf arguments item i
      pure (.list (found.filterMap id)) : Guarded Value) =
      given (.ok (.list (positionsOf wanted items))) := by
  have hposition : ∀ p ∈ items.zipIdx, positionOf arguments p.1 p.2 =
      given (.ok (if p.1 == wanted then some (Value.ofInt (p.2 + 1)) else none)) := by
    intro p hp
    have hlt := List.snd_lt_of_mem_zipIdx hp
    have hword : word? ((p.2 : ℤ) + 1) = some (p.2 + 1) :=
      word?_natCast (by omega : p.2 + 1 < 2 ^ 64)
    rw [positionOf, hwanted, step_some_bind, hword]
    split <;> rfl
  let found (p : Value × ℕ) : Option Value :=
    if p.1 == wanted then some (Value.ofInt (p.2 + 1)) else none
  have hall : items.zipIdx.mapM (fun p => (.ok (found p) : Outcome (Option Value))) =
      .ok (items.zipIdx.map found) := List.mapM_pure
  rw [mapM_eq_given hposition, hall, given_ok_bind, filterMap_map_if, positionsOf]
  rfl

theorem lists_define : List.Forall₂ Defines lists Builtin.lists := by
  refine .cons ⟨rfl, rfl, rfl, fun arguments _ _ => ?_⟩ <|
    .cons steady_defines <| .cons steady_defines <| .cons steady_defines <|
    .cons steady_defines <| .cons steady_defines <|
    .cons ⟨rfl, rfl, rfl, fun arguments hstorable _ => ?_⟩ <|
    .cons (onList_defines (by decide) fun arguments items hcount => ?_) <|
    .cons (onList_defines (by decide) fun arguments items hcount => ?_) <|
    .cons ⟨rfl, rfl, rfl, fun arguments hstorable _ => ?_⟩ <| .cons listToList_defines <|
    .cons ⟨rfl, rfl, rfl, fun arguments hstorable hcount => ?_⟩ <| .cons listToList_defines <|
    .cons ⟨rfl, rfl, rfl, fun arguments hstorable _ => ?_⟩ <| .cons listToList_defines <|
    .cons ⟨rfl, rfl, rfl, fun arguments _ _ => ?_⟩ <|
    .cons ⟨rfl, rfl, rfl, fun arguments hstorable _ => ?_⟩ .nil
  · exact expectList_bind (by decide) fun _ _ => rfl
  · refine given_bind fun found hfound => ?_
    cases found with
    | none => rfl
    | some numbers =>
      obtain ⟨hlength, hne⟩ := length_of_aggregated hfound
      change (median numbers >>= _) = _
      rw [median_eq hne (hlength ▸ length_listOrItems_lt hstorable)]
      rfl
  · match arguments with
    | [_, wanted] =>
      change given (.ok (Value.boolean (items.any (· == wanted)))) = _
      simp
  · match arguments with
    | v :: rest =>
      change (step (slice? (v :: rest) 1 (rest.length + 1)) >>= _) = _
      rw [slice?, if_pos ⟨Nat.le_add_left .., Nat.le_refl _⟩, step_some_bind,
        List.take_of_length_le (Nat.le_of_eq List.length_cons)]
      rfl
  · change (joinLists _ _ >>= _) = given (Builtin.joinLists _ _ >>= _)
    rw [joinLists_eq hstorable]
    exact given_bind fun _ _ => rfl
  · obtain ⟨wanted, hwanted⟩ : ∃ v, arguments[1]? = some v :=
      exists_getElem?_of_accepts hcount (by decide)
    refine expectList_bind (by decide) fun items hitems => ?_
    rw [positions_eq hwanted (length_of_expectList hstorable hitems), hwanted]
    rfl
  · change (joinLists _ _ >>= _) = given (Builtin.joinLists _ _ >>= _)
    rw [joinLists_eq hstorable]
    exact given_bind fun _ _ => rfl
  · exact expectList_bind (by decide) fun _ _ => given_bind fun _ _ => rfl
  · refine expectList_bind (by decide) fun items hitems => ?_
    rw [selectPart_eq (length_of_expectList hstorable hitems)]
    exact given_bind fun _ _ => rfl

theorem truth_defines : List.Forall₂ Defines truth Builtin.truth := by
  refine .cons steady_defines <| .cons steady_defines <|
    .cons ⟨rfl, rfl, rfl, fun arguments _ hcount => ?_⟩ .nil
  match arguments with
  | [v] =>
    change given (.ok (Value.boolean v.isNull)) = given (.ok (Value.boolean (v.isNull && true)))
    rw [Bool.and_true]

end Lists

section Calendars

open Calendar

theorem dateOfParts_eq : dateOfParts arguments = given (Builtin.dateOfParts arguments) := by
  rw [dateOfParts, Builtin.dateOfParts, expectInteger_eq (by decide)]
  refine given_bind fun year _ => ?_
  refine expectInteger_bind (by decide) fun month _ => ?_
  refine expectInteger_bind (by decide) fun day _ => ?_
  cases dateOfParts? year month day <;> rfl

theorem makeDate_eq : makeDate arguments = given (Builtin.makeDate arguments) := by
  match arguments with
  | [] => rfl
  | [v] | [v, _] | v :: _ :: _ :: _ :: _ => cases v <;> rfl
  | [v, _, _] => cases v <;> exact dateOfParts_eq

theorem timeOfParts_eq {second : Value} (h : arguments[2]? = some second) :
    timeOfParts arguments = given (Builtin.timeOfParts arguments) := by
  rw [timeOfParts, Builtin.timeOfParts, expectInteger_eq (by decide)]
  refine given_bind fun hour _ => ?_
  refine expectInteger_bind (by decide) fun minute _ => ?_
  rw [h, step_some_bind, Builtin.expectNumber, h]
  cases second
  case number x =>
    change _ = given (pure x >>= _)
    simp only [pure_bind]
    cases timeOfParts? hour minute x <;> rfl
  all_goals
    simp only [Builtin.wrongType, h]
    rfl

theorem makeTime_eq : makeTime arguments = given (Builtin.makeTime arguments) := by
  match arguments with
  | [] => rfl
  | [v] | [v, _] | v :: _ :: _ :: _ :: _ => cases v <;> rfl
  | [v, _, second] =>
    have hsecond (v w : Value) : timeOfParts [v, w, second] =
        given (Builtin.timeOfParts [v, w, second]) := timeOfParts_eq rfl
    cases v <;> exact hsecond ..

theorem monthsBetween?_eq {finish start : Date} :
    monthsBetween? finish start = some (Date.monthsBetween finish start) := by
  obtain ⟨⟨hmin, hmax⟩, ⟨-, hmonth⟩, -⟩ := finish.bounds
  obtain ⟨⟨hmin', hmax'⟩, ⟨-, hmonth'⟩, -⟩ := start.bounds
  simp only [minYear, maxYear] at hmin hmax hmin' hmax'
  have hfits {k : ℤ} (h : k.natAbs < 2 ^ 60) : checked k = some k :=
    checked_eq (Calendar.fits_iff.2 (by omega))
  rw [monthsBetween?, hfits (by omega)]
  change (checked ((finish.year - start.year) * 12) >>= _) = _
  rw [hfits (by omega)]
  change (checked ((finish.year - start.year) * 12 + finish.month) >>= _) = _
  rw [hfits (by omega)]
  change (checked ((finish.year - start.year) * 12 + finish.month - start.month) >>= _) = _
  rw [hfits (by omega), Date.monthsBetween]
  simp only [Option.bind_eq_bind, Option.bind_some]
  rw [hfits (by omega), hfits (by omega)]
  simp only [apply_ite some]

theorem calendars_define : List.Forall₂ Defines calendars Builtin.calendars := by
  refine .cons ⟨rfl, rfl, rfl, fun _ _ _ => makeDate_eq⟩ <|
    .cons ⟨rfl, rfl, rfl, fun _ _ _ => makeTime_eq⟩ <| .cons steady_defines <|
    .cons ⟨rfl, rfl, rfl, fun arguments _ _ => ?_⟩ <|
    .cons ⟨rfl, rfl, rfl, fun arguments _ hcount => ?_⟩ <|
    .cons ⟨rfl, rfl, rfl, fun arguments _ hcount => ?_⟩ .nil
  · exact expectString_bind (by decide) fun _ _ => given_bind fun _ _ => rfl
  · match arguments with
    | [v, w] =>
      change (given (calendarDate _ v) >>= fun start => given (calendarDate _ w) >>= fun finish =>
          step (monthsBetween? finish start) >>= _) =
        given (calendarDate _ v >>= fun start => calendarDate _ w >>= _)
      refine given_bind fun start _ => given_bind fun finish _ => ?_
      rw [monthsBetween?_eq]
      rfl
  · match arguments with
    | [v] => exact given_bind fun _ _ => rfl

end Calendars

theorem functions_define : List.Forall₂ Defines functions Builtin.functions :=
  List.rel_append (List.rel_append (List.rel_append (List.rel_append texts_define
    arithmetic_defines) lists_define) truth_defines) calendars_define

theorem find?_defines {gs : List GuardedFunction} {fs : List Function}
    (h : List.Forall₂ Defines gs fs) (name : String) :
    Option.Rel Defines (gs.find? (·.name == name)) (fs.find? (·.name == name)) := by
  induction h with
  | nil => exact .none
  | cons hd _ ih =>
    rw [List.find?_cons, List.find?_cons, hd.name]
    split
    · exact .some hd
    · exact ih

theorem Defines.call {g : GuardedFunction} {f : Function} (h : Defines g f)
    (hstorable : Storable arguments) : g.call arguments = given (f.call arguments) := by
  rw [GuardedFunction.call, Function.call, h.name, h.arity, h.propagatesNull]
  split
  case isTrue => rfl
  case isFalse hcount =>
    split
    case isTrue => rfl
    case isFalse => exact h.body arguments hstorable (by simpa using hcount)

-- Whatever is called, and with whatever arguments there is room for: no step is missing.
theorem call_eq_some (name : String) (h : Storable arguments) :
    (call name arguments).run = some (Registry.builtins.call name arguments) := by
  have hfind := find?_defines functions_define name
  rw [call, Registry.call, Registry.find?, Registry.builtins]
  generalize functions.find? (·.name == name) = found at hfind ⊢
  generalize Builtin.functions.find? (·.name == name) = found' at hfind ⊢
  cases hfind with
  | none => rfl
  | some hd => exact congrArg ExceptT.run (hd.call h)

-- The last two of three items, of which there are none behind the last.
theorem call_eq_some_sublist :
    let arguments := [.list [.boolean true, .null, .boolean false], .number (-2), .number 7]
    Storable arguments ∧ (call "sublist" arguments).run.map (·.toOption.map Value.text) =
      some (some "[null, false]") := by
  intro arguments
  have h : Storable arguments := ⟨by decide, by simp [arguments, IsStorable]⟩
  refine ⟨h, ?_⟩
  rw [call_eq_some "sublist" h]
  decide +kernel

end Guarded

end Rulebook.Builtin
