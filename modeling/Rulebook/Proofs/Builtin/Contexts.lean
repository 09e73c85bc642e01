import Rulebook.Builtin.Basic
import Rulebook.Proofs.Value.Within

/-!
The functions that are there without registration build no context. What holds of every context in
the arguments of a call holds of every context in its answer.
-/

namespace Rulebook

open Value (EachContext eachContext_list eachContext_getD eachContext_of_isPlain)

variable {p : Context → Prop}

def Function.Preserves (p : Context → Prop) (f : Function) : Prop :=
  ∀ vs, (∀ v ∈ vs, EachContext p v) → Ensures (EachContext p) (f.body vs)

theorem Function.Preserves.call {f : Function} (hf : f.Preserves p) {vs : List Value}
    (h : ∀ v ∈ vs, EachContext p v) : Ensures (EachContext p) (f.call vs) := by
  rw [Function.call]
  exact .ite trivial (.ite (eachContext_of_isPlain rfl) (hf vs h))

namespace Builtin

open Calendar (readDate readDateTime readTime)

variable {f name : String} {vs items : List Value} {i : Nat} {v : Value}

-- A function whose answer is never a list, a context or a range.
theorem preserves_of_isPlain {arity : Arity} {propagates : Bool}
    {body : List Value → Outcome Value} (h : ∀ vs, Ensures (·.isPlain = true) (body vs)) :
    Function.Preserves p ⟨name, arity, propagates, body⟩ := by
  intro vs _
  have hbody := h vs
  change Ensures (EachContext p) (body vs)
  cases hv : body vs with
  | error e => trivial
  | ok v => exact eachContext_of_isPlain (hbody.of_ok hv)

theorem expectList_preserves (h : ∀ v ∈ vs, EachContext p v) :
    Ensures (fun items => ∀ v ∈ items, EachContext p v) (expectList f vs i) := by
  unfold expectList
  split
  · rename_i items hitems
    exact eachContext_list.1 (h _ (List.mem_of_getElem? hitems))
  · trivial

theorem listOrItems_preserves (h : ∀ v ∈ vs, EachContext p v) :
    ∀ v ∈ listOrItems vs, EachContext p v := by
  unfold listOrItems
  split
  · exact eachContext_list.1 (h _ (.head _))
  · exact h

theorem selectPart_preserves (h : ∀ v ∈ items, EachContext p v) :
    Ensures (fun part => ∀ v ∈ part, EachContext p v) (selectPart f vs items) := by
  refine .after fun position => .after fun start => .after fun finish => ?_
  intro v hv
  exact h v (List.mem_of_mem_take (List.mem_of_mem_drop hv))

theorem joinLists_preserves (h : ∀ v ∈ vs, EachContext p v) :
    Ensures (fun items => ∀ v ∈ items, EachContext p v) (joinLists f vs) := by
  refine (Ensures.mapM fun i _ => expectList_preserves h).bind fun lists hlists => ?_
  intro v hv
  obtain ⟨list, hlist, hv⟩ := List.mem_flatten.1 hv
  exact hlists list hlist v hv

theorem best_preserves {wanted : Ordering} (hv : EachContext p v)
    (h : ∀ w ∈ items, EachContext p w) : Ensures (EachContext p) (best f wanted v items) := by
  induction items generalizing v with
  | nil => exact hv
  | cons w items ih =>
    rw [List.forall_mem_cons] at h
    rw [best]
    split
    · refine ih ?_ h.2
      split
      · exact h.1
      · exact hv
    · trivial

theorem extreme_preserves {wanted : Ordering} : (extreme name wanted).Preserves p := by
  intro vs h
  have hitems := listOrItems_preserves h
  change Ensures (EachContext p) (if (listOrItems vs).any Value.isNull then _ else _)
  refine .ite (eachContext_of_isPlain rfl) ?_
  generalize listOrItems vs = items at hitems ⊢
  cases items with
  | nil => exact eachContext_of_isPlain rfl
  | cons v items =>
    rw [List.forall_mem_cons] at hitems
    exact best_preserves hitems.1 hitems.2

theorem insertDownward_preserves (hv : EachContext p v) (h : ∀ w ∈ items, EachContext p w) :
    Ensures (fun sorted => ∀ w ∈ sorted, EachContext p w) (insertDownward v items) := by
  induction items with
  | nil => exact List.forall_mem_singleton.2 hv
  | cons w items ih =>
    have hcons := List.forall_mem_cons.1 h
    rw [insertDownward]
    split
    · exact (ih hcons.2).bind fun sorted hsorted => List.forall_mem_cons.2 ⟨hcons.1, hsorted⟩
    · exact List.forall_mem_cons.2 ⟨hv, h⟩
    · trivial

theorem sortItems_preserves (h : ∀ v ∈ items, EachContext p v) :
    Ensures (fun sorted => ∀ w ∈ sorted, EachContext p w) (sortItems items) := by
  refine Ensures.bind (Ensures.foldlM (Q := fun sorted => ∀ w ∈ sorted, EachContext p w) nofun
    fun sorted hsorted v hv => insertDownward_preserves (h v hv) hsorted) fun downward hdown => ?_
  intro v hv
  exact hdown v (List.mem_reverse.1 hv)

theorem distinctFrom_preserves {kept : List Value} (hkept : ∀ v ∈ kept, EachContext p v)
    (h : ∀ v ∈ items, EachContext p v) : ∀ v ∈ distinctFrom kept items, EachContext p v := by
  induction items generalizing kept with
  | nil => exact fun v hv => hkept v (List.mem_reverse.1 hv)
  | cons w items ih =>
    rw [List.forall_mem_cons] at h
    rw [distinctFrom]
    split
    · exact ih hkept h.2
    · exact ih (List.forall_mem_cons.2 ⟨h.1, hkept⟩) h.2

theorem flattened_preserves (h : EachContext p v) : ∀ w ∈ flattened v, EachContext p w := by
  induction v using Value.induction with
  | list items ih =>
    rw [eachContext_list] at h
    rw [flattened]
    induction items with
    | nil => exact nofun
    | cons v items ihs =>
      rw [List.forall_mem_cons] at h ih
      rw [flattenedItems]
      exact List.forall_mem_append.2 ⟨ih.1 h.1, ihs ih.2 h.2⟩
  | _ => exact List.forall_mem_singleton.2 h

theorem positionsOf_isPlain : ∀ w ∈ positionsOf v items, w.isPlain = true := by
  intro w hw
  obtain ⟨e, -, rfl⟩ := List.mem_map.1 hw
  rfl

theorem onList_preserves {arity : Arity} {g : List Value → List Value → Value}
    (hg : ∀ items others, (∀ v ∈ items, EachContext p v) → (∀ v ∈ others, EachContext p v) →
      EachContext p (g items others)) : (onList name arity g).Preserves p := by
  intro vs h
  simp only [onList]
  split
  · exact eachContext_of_isPlain rfl
  · refine (expectList_preserves h).bind fun items hitems => ?_
    exact hg items _ hitems fun v hv => h v (List.mem_of_mem_drop hv)

theorem listToList_preserves {g : List Value → List Value}
    (hg : ∀ items, (∀ v ∈ items, EachContext p v) → ∀ v ∈ g items, EachContext p v) :
    (listToList name g).Preserves p := by
  intro vs h
  exact (expectList_preserves h).bind fun items hitems => eachContext_list.2 (hg items hitems)

theorem aggregate_preserves {g : List Float → Float} : (aggregate name g).Preserves p := by
  refine preserves_of_isPlain fun vs => .after fun numbers => ?_
  cases numbers <;> rfl

theorem lists_preserve : ∀ f ∈ lists, f.Preserves p := by
  simp only [lists, List.forall_mem_cons, List.not_mem_nil, false_imp_iff, implies_true, and_true]
  refine ⟨preserves_of_isPlain fun vs => .after fun items => rfl, extreme_preserves,
    extreme_preserves, aggregate_preserves, aggregate_preserves, aggregate_preserves,
    aggregate_preserves, onList_preserves fun _ _ _ _ => eachContext_of_isPlain rfl,
    onList_preserves ?append, ?concatenate, listToList_preserves ?reverse, ?indexOf,
    listToList_preserves fun _ h => distinctFrom_preserves nofun h, ?union,
    listToList_preserves ?flatten, ?sort, ?sublist⟩
  case append =>
    exact fun items others h h' => eachContext_list.2 (List.forall_mem_append.2 ⟨h, h'⟩)
  case concatenate =>
    exact fun vs h => (joinLists_preserves h).bind fun items hitems => eachContext_list.2 hitems
  case reverse => exact fun items h v hv => h v (List.mem_reverse.1 hv)
  case indexOf =>
    intro vs h
    refine .after fun items => eachContext_list.2 fun v hv => ?_
    exact eachContext_of_isPlain (positionsOf_isPlain v hv)
  case union =>
    intro vs h
    refine (joinLists_preserves h).bind fun items hitems => ?_
    exact eachContext_list.2 (distinctFrom_preserves nofun hitems)
  case flatten => exact fun items h => flattened_preserves (eachContext_list.2 h)
  case sort =>
    intro vs h
    refine (expectList_preserves h).bind fun items hitems => ?_
    exact (sortItems_preserves hitems).bind fun sorted hsorted => eachContext_list.2 hsorted
  case sublist =>
    intro vs h
    refine (expectList_preserves h).bind fun items hitems => ?_
    exact (selectPart_preserves hitems).bind fun part hpart => eachContext_list.2 hpart

theorem texts_preserve : ∀ f ∈ texts, f.Preserves p := by
  have htext {g : String → String} {name : String} : (textToText name g).Preserves p :=
    preserves_of_isPlain fun vs => .after fun text => rfl
  have htexts {g : List Char → List Char → Value} {name : String}
      (hg : ∀ text other, (g text other).isPlain = true) : (onTexts name g).Preserves p :=
    preserves_of_isPlain fun vs => .after fun text => .after fun other => hg _ _
  simp only [texts, patternFunctions, List.forall_mem_append, List.forall_mem_cons,
    List.not_mem_nil, false_imp_iff, implies_true, and_true]
  refine ⟨⟨⟨?substring, ?length, htext, htext, htexts fun _ _ => rfl, htexts fun _ _ => rfl,
    htexts fun _ _ => rfl, htexts fun _ _ => rfl, htexts fun _ _ => rfl⟩, ?occurs, ?replace,
    ?split⟩, ?join, htext, ?string⟩
  case substring =>
    exact preserves_of_isPlain fun vs => .after fun text => .after fun part => rfl
  case length => exact preserves_of_isPlain fun vs => .after fun text => rfl
  case occurs => exact preserves_of_isPlain fun vs => .after fun text => .after fun e => rfl
  case replace =>
    exact preserves_of_isPlain fun vs => .after fun text => .after fun e =>
      .after fun replacement => rfl
  case split =>
    intro vs _
    refine .after fun text => .after fun e => eachContext_list.2 fun v hv => ?_
    obtain ⟨part, -, rfl⟩ := List.mem_map.1 hv
    exact eachContext_of_isPlain rfl
  case join =>
    exact preserves_of_isPlain fun vs => .after fun items => .after fun delimiter =>
      .after fun parts => rfl
  case string => exact preserves_of_isPlain fun vs => rfl

theorem toNumber_isPlain (vs : List Value) : Ensures (·.isPlain = true) (toNumber vs) := by
  unfold toNumber
  split
  · rfl
  · unfold numberOfText
    split
    · rfl
    · exact True.intro
  · exact True.intro
  · exact True.intro

theorem roundToPlaces_isPlain (vs : List Value) :
    Ensures (·.isPlain = true) (roundToPlaces vs) := by
  refine .after fun x => ?_
  split
  · exact .after fun places => rfl
  · exact .after fun places => rfl

theorem arithmetic_preserves : ∀ f ∈ arithmetic, f.Preserves p := by
  have hnumeric {g : Float → Float} {name : String} : (numeric name g).Preserves p :=
    preserves_of_isPlain fun vs => .after fun x => rfl
  have hparity {accept : Int → Bool} {name : String} : (parity name accept).Preserves p :=
    preserves_of_isPlain fun vs => .after fun n => rfl
  simp only [arithmetic, List.forall_mem_cons, List.not_mem_nil, false_imp_iff, implies_true,
    and_true]
  refine ⟨hnumeric, hnumeric, hnumeric, ?decimal,
    preserves_of_isPlain roundToPlaces_isPlain, ?modulo, ?sqrt,
    preserves_of_isPlain toNumber_isPlain, hparity, hparity⟩
  case decimal => exact preserves_of_isPlain fun vs => .after fun x => .after fun places => rfl
  case modulo =>
    refine preserves_of_isPlain fun vs => .after fun dividend => .after fun divisor => ?_
    split
    · rfl
    · exact True.intro
  case sqrt => exact preserves_of_isPlain fun vs => .after fun x => .ite True.intro rfl

theorem decidedBy_isPlain {deciding : Bool} : (decidedBy deciding items).isPlain = true := by
  unfold decidedBy
  split
  · rfl
  · split <;> rfl

theorem truth_preserves : ∀ f ∈ truth, f.Preserves p := by
  simp only [truth, List.forall_mem_cons, List.not_mem_nil, false_imp_iff, implies_true, and_true]
  exact ⟨preserves_of_isPlain fun vs => decidedBy_isPlain,
    preserves_of_isPlain fun vs => decidedBy_isPlain, preserves_of_isPlain fun vs => rfl⟩

theorem dateOfParts_isPlain (vs : List Value) : Ensures (·.isPlain = true) (dateOfParts vs) := by
  unfold dateOfParts
  refine .after fun year => .after fun month => .after fun day => ?_
  split
  · rfl
  · exact True.intro

theorem timeOfParts_isPlain (vs : List Value) : Ensures (·.isPlain = true) (timeOfParts vs) := by
  unfold timeOfParts
  refine .after fun hour => .after fun minute => .after fun second => ?_
  split
  · rfl
  · exact True.intro

theorem makeDate_isPlain (vs : List Value) : Ensures (·.isPlain = true) (makeDate vs) := by
  unfold makeDate
  split
  · rename_i text
    -- Unifying would otherwise run the reader, here and below.
    generalize orError (readDate text) = date
    exact .after fun d => rfl
  · rfl
  · rfl
  · exact dateOfParts_isPlain _
  · exact True.intro

theorem makeTime_isPlain (vs : List Value) : Ensures (·.isPlain = true) (makeTime vs) := by
  unfold makeTime
  split
  · rename_i text
    generalize orError (readTime text) = time
    exact .after fun t => rfl
  · rfl
  · rfl
  · exact timeOfParts_isPlain _
  · exact True.intro

theorem makeDateTime_isPlain (vs : List Value) : Ensures (·.isPlain = true) (makeDateTime vs) := by
  unfold makeDateTime
  split
  · rename_i text
    generalize orError (readDateTime text) = dateTime
    exact .after fun d => rfl
  · rfl
  · rfl
  · rfl
  · exact True.intro

theorem calendars_preserve : ∀ f ∈ calendars, f.Preserves p := by
  simp only [calendars, List.forall_mem_cons, List.not_mem_nil, false_imp_iff, implies_true,
    and_true]
  refine ⟨preserves_of_isPlain makeDate_isPlain, preserves_of_isPlain makeTime_isPlain,
    preserves_of_isPlain makeDateTime_isPlain, ?duration, ?months, ?weekday⟩
  case duration => exact preserves_of_isPlain fun vs => .after fun s => .after fun d => rfl
  case months =>
    exact preserves_of_isPlain fun vs => .after fun start => .after fun finish => rfl
  case weekday => exact preserves_of_isPlain fun vs => .after fun d => rfl

theorem functions_preserve : ∀ f ∈ functions, f.Preserves p := by
  simp only [functions, List.forall_mem_append]
  exact ⟨⟨⟨⟨texts_preserve, arithmetic_preserves⟩, lists_preserve⟩, truth_preserves⟩,
    calendars_preserve⟩

end Builtin

end Rulebook
