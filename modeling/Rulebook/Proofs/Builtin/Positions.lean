import Rulebook.Builtin.Basic
import Rulebook.Eval.Basic
import Rulebook.Proofs.Number.Whole
import Rulebook.Proofs.Value.Related

/-!
Positions count from 1, and from the end if negative. The item that a filter selects by its position
is the one with which the part of the list that starts there begins, and a part of a text is what
the same part of its characters spells.
-/

namespace Rulebook

variable {α : Type} {items before after : List α} {v : α} {p : ℤ} {x : Float}

-- The number of an item of a list, counted from the start or from the end.
def Counts (p : ℤ) (before after : List α) : Prop :=
  0 < p ∧ before.length + 1 = p ∨ p < 0 ∧ after.length + 1 = -p

theorem exists_counts (hlow : 1 ≤ p.natAbs) (hhigh : p.natAbs ≤ items.length) :
    ∃ before v after, items = before ++ v :: after ∧ Counts p before after := by
  have hplace : ∃ i : ℕ, i < items.length ∧
      (0 < p ∧ i + 1 = p ∨ p < 0 ∧ (items.length - (i + 1) : ℕ) + 1 = -p) := by
    obtain hp | hp : 0 < p ∨ p < 0 := by omega
    · exact ⟨(p - 1).toNat, by omega, by omega⟩
    · exact ⟨(items.length + p).toNat, by omega, by omega⟩
  obtain ⟨i, hi, hcounts⟩ := hplace
  refine ⟨items.take i, items[i], items.drop (i + 1), by simp, ?_⟩
  rw [Counts, List.length_take_of_le hi.le, List.length_drop]
  exact hcounts

section Places

variable {test : α → ℕ → Bool} {i : ℕ}

-- Where the items are that a test picks by themselves and their places.
def places (test : α → ℕ → Bool) (items : List α) : List ℕ :=
  (items.zipIdx.filter fun e => test e.1 e.2).map (·.2)

theorem pairwise_places : (places test items).Pairwise (· < ·) := by
  have hsub : (places test items).Sublist (items.zipIdx.map (·.2)) := List.filter_sublist.map _
  rw [List.zipIdx_map_snd] at hsub
  exact (List.pairwise_lt_range' 1).sublist hsub

theorem mem_places_iff : i ∈ places test items ↔ ∃ v, items[i]? = some v ∧ test v i = true := by
  simp only [places, List.mem_map, List.mem_filter, List.mem_zipIdx_iff_getElem?]
  constructor
  · rintro ⟨⟨v, _⟩, hv, rfl⟩
    exact ⟨v, hv⟩
  · rintro ⟨v, hv⟩
    exact ⟨(v, i), hv, rfl⟩

-- The items at these places.
theorem filterMap_places : (places test items).filterMap (items[·]?) =
    (items.zipIdx.filter fun e => test e.1 e.2).map (·.1) := by
  rw [places, List.filterMap_map, ← List.filterMap_eq_map]
  refine List.filterMap_congr fun e he => ?_
  exact List.mem_zipIdx_iff_getElem?.1 (List.mem_of_mem_filter he)

end Places

theorem Value.elementAt_of_counts {before after : List Value} {v : Value}
    (hx : Number.toInt? x = some p) (h : Counts p before after) :
    Value.elementAt (before ++ v :: after) x = v := by
  simp only [Value.elementAt, hx, List.length_append, List.length_cons]
  obtain ⟨hp, hbefore⟩ | ⟨hp, hafter⟩ := h
  · have hplace : (p - 1).toNat = before.length := by omega
    rw [if_pos hp, hplace]
    simp
  · have hplace : ((before.length + (after.length + 1) : ℕ) + p).toNat = before.length := by omega
    rw [if_neg (by omega), if_pos (by omega), hplace]
    simp

theorem Value.elementAt_of_not_counts {items : List Value} (hx : Number.toInt? x = some p)
    (h : p = 0 ∨ items.length < p.natAbs) : Value.elementAt items x = .null := by
  simp only [Value.elementAt, hx]
  split
  case isTrue => rw [List.getElem?_eq_none (by omega)]; rfl
  case isFalse => rw [if_neg (by omega)]

namespace Builtin

variable {function : String} {arguments : List Value} {index length : ℕ}

-- The nearest 64-bit integer.
def held (p : ℤ) : ℤ :=
  max minInteger (min maxInteger p)

theorem expectInteger_of_toInt? (h : arguments[index]? = some (.number x))
    (hx : Number.toInt? x = some p) :
    expectInteger function arguments index = .ok (held p) := by
  have hwhole : Number.isWhole x = true := by rw [Number.isWhole, hx, Option.isSome_some]
  rw [held, ← Number.clampToInt_of_toInt? hx]
  simp only [expectInteger, expectNumber, h, bind, Except.bind, hwhole, if_true]

-- The position is a 64-bit integer, or else past the end, as it is of every list that fits into
-- memory.
def Fits (p : ℤ) (length : ℕ) : Prop :=
  p.natAbs ≤ maxInteger ∨ length < maxInteger

theorem held_of_natAbs_le (hfits : Fits p length) (h : p.natAbs ≤ length) : held p = p := by
  simp only [Fits, held, minInteger, maxInteger] at *
  omega

theorem held_of_lt_natAbs (hfits : Fits p length) (h : p = 0 ∨ length < p.natAbs) :
    (held p = 0 ∨ length < (held p).natAbs) ∧ (held p = 1 ↔ p = 1) := by
  simp only [Fits, held, minInteger, maxInteger] at *
  omega

theorem indexOfPosition_of_counts (h : Counts p before after) :
    indexOfPosition function p (before ++ v :: after).length = .ok before.length := by
  simp only [indexOfPosition, List.length_append, List.length_cons]
  rw [Counts] at h
  rw [if_neg (by split <;> omega)]
  exact congrArg Except.ok (by split <;> omega)

theorem indexOfPosition_of_not_counts (h : p = 0 ∨ length < p.natAbs) :
    indexOfPosition function p length =
      if length = 0 ∧ p = 1 then .ok 0 else invalid function (.outOfBounds p) := by
  simp only [indexOfPosition]
  by_cases hfirst : length = 0 ∧ p = 1
  · obtain ⟨rfl, rfl⟩ := hfirst
    rfl
  · rw [if_neg hfirst, if_pos (by split <;> omega)]

section

variable (hx : Number.toInt? x = some p) (harg : arguments[1]? = some (.number x))

include hx harg

theorem selectPart_of_counts (h : Counts p before after)
    (hfits : Fits p (before ++ v :: after).length) :
    selectPart function arguments (before ++ v :: after) =
      (partEnd function arguments 2 before.length (before ++ v :: after).length).map
        fun finish => ((before ++ v :: after).take finish).drop before.length := by
  have hheld : held p = p := by
    apply held_of_natAbs_le hfits
    rw [Counts] at h
    rw [List.length_append, List.length_cons]
    omega
  simp only [selectPart, expectInteger_of_toInt? harg hx, hheld, indexOfPosition_of_counts h, bind,
    Except.bind]
  rfl

theorem selectPart_of_not_counts (hend : arguments[2]? = none)
    (h : p = 0 ∨ items.length < p.natAbs) (hfits : Fits p items.length) :
    selectPart function arguments items =
      if items.length = 0 ∧ p = 1 then .ok []
      else invalid function (.outOfBounds (held p)) := by
  obtain ⟨hout, hone⟩ := held_of_lt_natAbs hfits h
  simp only [selectPart, expectInteger_of_toInt? harg hx, indexOfPosition_of_not_counts hout, hone,
    bind, Except.bind]
  by_cases hfirst : items.length = 0 ∧ p = 1
  · rw [if_pos hfirst, if_pos hfirst]
    simp [partEnd, hend, List.length_eq_zero_iff.1 hfirst.1]
  · rw [if_neg hfirst, if_neg hfirst]
    rfl

end

-- The arguments of a call that selects a part, with a length or without.
def partArguments (whole : Value) (x : Float) (length? : Option Float) : List Value :=
  whole :: .number x :: length?.toList.map .number

theorem call_sublist {items : List Value} (length? : Option Float) :
    Registry.builtins.call "sublist" (partArguments (.list items) x length?) =
      (selectPart "sublist" (partArguments (.list items) x length?) items).map .list := by
  have hfind : Registry.builtins.find? "sublist" = some ⟨"sublist", .range 2 3, true,
      fun arguments => do
        .ok (.list (← selectPart "sublist" arguments (← expectList "sublist" arguments 0)))⟩ := rfl
  rw [Registry.call, hfind]
  cases length? <;> rfl

theorem call_substring {text : String} (length? : Option Float) :
    Registry.builtins.call "substring" (partArguments (.string text) x length?) =
      (selectPart "substring" (partArguments (.string text) x length?) text.toList).map
        ofChars := by
  have hfind : Registry.builtins.find? "substring" = some substring := rfl
  rw [Registry.call, hfind]
  cases length? <;> rfl

theorem partEnd_one {whole : Value} {start : ℕ} :
    partEnd function (partArguments whole x (some 1)) 2 start length =
      .ok (min (start + 1) length) := by
  have hone : expectInteger function (partArguments whole x (some 1)) 2 = .ok (held 1) :=
    expectInteger_of_toInt? rfl (by decide)
  have harg : (partArguments whole x (some 1))[2]? = some (.number 1) := rfl
  simp only [partEnd, harg, hone, bind, Except.bind]
  rfl

section

variable {before after : List Value} {v : Value} (hx : Number.toInt? x = some p)
  (h : Counts p before after) (hfits : Fits p (before ++ v :: after).length)

include hx h hfits

theorem call_sublist_one_of_counts :
    Registry.builtins.call "sublist" [.list (before ++ v :: after), .number x, .number 1] =
      .ok (.list [v]) := by
  refine (call_sublist (some 1)).trans ?_
  rw [selectPart_of_counts hx rfl h hfits, partEnd_one]
  have hend : min (before.length + 1) (before ++ v :: after).length = before.length + 1 := by
    rw [List.length_append, List.length_cons]
    omega
  simp only [Except.map, hend, List.take_length_add_append, List.drop_left]
  rfl

theorem call_sublist_of_counts :
    Registry.builtins.call "sublist" [.list (before ++ v :: after), .number x] =
      .ok (.list (v :: after)) := by
  refine (call_sublist none).trans ?_
  rw [selectPart_of_counts hx rfl h hfits]
  simp only [partEnd, partArguments, Option.toList_none, List.map_nil, Except.map,
    List.getElem?_cons_succ, List.getElem?_nil, List.take_length, List.drop_left]

end

theorem call_sublist_of_not_counts {items : List Value} (hx : Number.toInt? x = some p)
    (h : p = 0 ∨ items.length < p.natAbs) (hfits : Fits p items.length) :
    Registry.builtins.call "sublist" [.list items, .number x] =
      if items.length = 0 ∧ p = 1 then .ok (.list [])
      else .error (.invalidArgument "sublist" (.outOfBounds (held p))) := by
  refine (call_sublist none).trans ?_
  rw [selectPart_of_not_counts hx rfl rfl h hfits]
  split <;> rfl

-- The characters of a text as texts of their own.
def characters (text : String) : List Value :=
  text.toList.map fun c => .string (String.singleton c)

section

variable {other : String} {arguments' : List Value}

theorem expectInteger_congr (h : arguments[index]? = arguments'[index]?) :
    Both Eq (expectInteger function arguments index) (expectInteger other arguments' index) := by
  have hnumber : Both Eq (expectNumber function arguments index)
      (expectNumber other arguments' index) := by
    simp only [expectNumber, h]
    split
    · exact .given rfl
    · exact .failed
  exact hnumber.bind fun | x, _, rfl => .ite (.given rfl) .failed

theorem partEnd_congr {start : ℕ} (h : arguments[index]? = arguments'[index]?) :
    Both Eq (partEnd function arguments index start length)
      (partEnd other arguments' index start length) := by
  simp only [partEnd, ← h]
  split
  · exact .given rfl
  · exact (expectInteger_congr h).bind fun | n, _, rfl => .ite .failed (.given rfl)

theorem indexOfPosition_congr : Both Eq (indexOfPosition function p length)
    (indexOfPosition other p length) :=
  .ite .failed (.given rfl)

theorem selectPart_map {β : Type} (f : α → β) (hposition : arguments[1]? = arguments'[1]?)
    (hlength : arguments[2]? = arguments'[2]?) :
    Both (fun part part' => part = part'.map f) (selectPart function arguments (items.map f))
      (selectPart other arguments' items) := by
  refine (expectInteger_congr hposition).bind fun | p, _, rfl => ?_
  rw [List.length_map]
  refine indexOfPosition_congr.bind fun | start, _, rfl => ?_
  refine (partEnd_congr hlength).bind fun | finish, _, rfl => .given ?_
  rw [List.map_drop, List.map_take]

end

-- A part of a text is what the same part of its characters spells.
theorem call_substring_spells (text : String) (x : Float) (length? : Option Float) :
    Both (fun part spelled => ∃ ts : List String, part = .list (ts.map .string) ∧
        spelled = .string (String.join ts))
      (Registry.builtins.call "sublist" (partArguments (.list (characters text)) x length?))
      (Registry.builtins.call "substring" (partArguments (.string text) x length?)) := by
  rw [call_sublist, call_substring]
  refine (selectPart_map _ rfl rfl).map ?_
  rintro _ cs rfl
  refine ⟨cs.map String.singleton, by rw [List.map_map]; rfl, ?_⟩
  have hspelled : (cs.map fun c => [c]).flatten = cs := List.flatMap_singleton' cs
  simp [ofChars, String.join_eq, Function.comp_def, hspelled]

end Builtin

open Builtin (Fits characters held partArguments)

theorem eval_filter_position {r : Registry} {s : Scope} {list position : Expr}
    {items : List Value} (hlist : eval r s list = .ok (.list items))
    (hposition : eval r s position = .ok (.number x)) :
    eval r s (.filter list position) = .ok (Value.elementAt items x) := by
  simp only [eval, hlist, hposition]
  rfl

theorem positions_agree {r : Registry} {s : Scope} {list position : Expr} {items : List Value}
    (hlist : eval r s list = .ok (.list items)) (hposition : eval r s position = .ok (.number x))
    (hx : Number.toInt? x = some p) (hfits : Fits p items.length) :
    (1 ≤ p.natAbs → p.natAbs ≤ items.length → ∃ before v after,
        items = before ++ v :: after ∧ Counts p before after ∧
          eval r s (.filter list position) = .ok v ∧
          Registry.builtins.call "sublist" [.list items, .number x, .number 1] = .ok (.list [v]) ∧
          Registry.builtins.call "sublist" [.list items, .number x] = .ok (.list (v :: after))) ∧
      (p = 0 ∨ items.length < p.natAbs →
        eval r s (.filter list position) = .ok .null ∧
          Registry.builtins.call "sublist" [.list items, .number x] =
            if items.length = 0 ∧ p = 1 then .ok (.list [])
            else .error (.invalidArgument "sublist" (.outOfBounds (held p)))) ∧
      ∀ (text : String) (length? : Option Float),
        Both (fun part spelled => ∃ ts : List String, part = .list (ts.map .string) ∧
            spelled = .string (String.join ts))
          (Registry.builtins.call "sublist" (partArguments (.list (characters text)) x length?))
          (Registry.builtins.call "substring" (partArguments (.string text) x length?)) := by
  rw [eval_filter_position hlist hposition]
  refine ⟨fun hlow hhigh => ?_, fun hout => ?_, fun text => Builtin.call_substring_spells text x⟩
  · obtain ⟨before, v, after, rfl, hcounts⟩ := exists_counts hlow hhigh
    exact ⟨before, v, after, rfl, hcounts,
      congrArg Except.ok (Value.elementAt_of_counts hx hcounts),
      Builtin.call_sublist_one_of_counts hx hcounts hfits,
      Builtin.call_sublist_of_counts hx hcounts hfits⟩
  · exact ⟨congrArg Except.ok (Value.elementAt_of_not_counts hx hout),
      Builtin.call_sublist_of_not_counts hx hout hfits⟩

-- `["a", "b", "c"][-2]`.
theorem positions_agree_letters :
    let letter (t : String) : Expr := .literal (.string t)
    let list : Expr := .list [letter "a", letter "b", letter "c"]
    let position : Expr := .literal (.number (-2))
    let items : List Value := [.string "a", .string "b", .string "c"]
    eval .empty [] list = .ok (.list items) ∧
      eval .empty [] position = .ok (.number (-2)) ∧
      Number.toInt? (-2) = some (-2) ∧ Fits (-2) items.length ∧
      eval .empty [] (.filter list position) = .ok (.string "b") ∧
      Registry.builtins.call "sublist" [.list items, .number (-2)] =
        .ok (.list [.string "b", .string "c"]) := by
  intro letter list position items
  have hlist : eval .empty [] list = .ok (.list items) := rfl
  have hposition : eval .empty [] position = .ok (.number (-2)) := rfl
  have hx : Number.toInt? (-2) = some (-2) := by decide
  have hfits : Fits (-2) items.length := .inl (by decide)
  refine ⟨hlist, hposition, hx, hfits, ?_⟩
  obtain ⟨hcounted, -, -⟩ := positions_agree hlist hposition hx hfits
  obtain ⟨before, v, after, hsplit, hcounts, hselected, -, hpart⟩ :=
    hcounted (by decide) (by decide)
  rw [Counts] at hcounts
  obtain ⟨c, rfl⟩ := List.length_eq_one_iff.1 (by omega : after.length = 1)
  have hbefore : before.length = 1 := by simpa [items] using (congrArg List.length hsplit).symm
  obtain ⟨a, rfl⟩ := List.length_eq_one_iff.1 hbefore
  obtain ⟨rfl, rfl, rfl⟩ : .string "a" = a ∧ .string "b" = v ∧ .string "c" = c := by
    simpa [items] using hsplit
  exact ⟨hselected, hpart⟩

end Rulebook
