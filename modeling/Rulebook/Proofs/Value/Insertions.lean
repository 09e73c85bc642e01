import Mathlib.Data.Finset.Card
import Mathlib.Data.List.Induction
import Rulebook.Proofs.Value.Keys

/-!
Contexts by the insertions that make them. What is put into the empty context, entry by entry, is
recorded: the names are those of the entries, each where it first came in, and under each of them is
the value that came in last. Only one context records given entries.
-/

namespace Rulebook.Context

variable {c c' : Context} {entries : List (String × Value)} {k : String} {v : Value}

-- The answers to insertions made one after the other, and the context after them.
def insertMany (c : Context) : List (String × Value) → List (Option Value) × Context
  | [] => ([], c)
  | (k, v) :: entries =>
    let (former, c) := c.getThenInsert? k v
    let (others, c) := insertMany c entries
    (former :: others, c)

theorem insertMany_cons : c.insertMany ((k, v) :: entries) =
    (c.get? k :: ((c.insert k v).insertMany entries).1, ((c.insert k v).insertMany entries).2) := by
  rw [insertMany, getThenInsert?_eq]

theorem snd_insertMany (c : Context) (entries : List (String × Value)) :
    (c.insertMany entries).2 = entries.foldl (fun c e => c.insert e.1 e.2) c := by
  induction entries generalizing c with
  | nil => rfl
  | cons e entries ih => rw [insertMany_cons, List.foldl_cons, ih]

-- Each insertion gives back what could be found under its name just before.
theorem fst_insertMany (c : Context) (entries : List (String × Value)) :
    (c.insertMany entries).1 =
      entries.mapIdx fun i e => (c.insertMany (entries.take i)).2.get? e.1 := by
  induction entries generalizing c with
  | nil => rfl
  | cons e entries ih =>
    obtain ⟨k, v⟩ := e
    rw [List.mapIdx_cons, insertMany_cons, ih]
    simp only [List.take_succ_cons, insertMany_cons]
    rfl

example : empty.insertMany [("a", .boolean true), ("b", .null), ("a", .boolean false)] =
    ([none, none, some (.boolean true)], [("a", .boolean false), ("b", .null)]) := rfl

-- The last of the entries under the name has this value.
def LastUnder (entries : List (String × Value)) (k : String) (v : Value) : Prop :=
  ∃ before after, entries = before ++ (k, v) :: after ∧ k ∉ keys after

-- What is left of the entries if a later value takes the place of an earlier one of its name.
structure Records (c : Context) (entries : List (String × Value)) : Prop where
  nodup : c.keys.Nodup
  ordered : c.keys.Pairwise fun k k' => (keys entries).idxOf k < (keys entries).idxOf k'
  length_eq : c.length = (keys entries).toFinset.card
  get?_eq_some_iff : ∀ k v, c.get? k = some v ↔ LastUnder entries k v
  get?_eq_none_iff : ∀ k, c.get? k = none ↔ k ∉ keys entries

theorem not_mem_keys_iff : k ∉ keys c ↔ ∀ e ∈ c, (k != e.1) = true := by
  rw [mem_keys_iff, get?, ← List.lookup_eq_none_iff, Option.not_isSome_iff_eq_none]

theorem mem_keys_iff_lookup_reverse :
    k ∈ keys entries ↔ (entries.reverse.lookup k).isSome = true := by
  rw [← get?, ← mem_keys_iff, keys, keys, List.map_reverse, List.mem_reverse]

-- The last entry under a name is the first one from the end.
theorem lookup_reverse_eq_some_iff : entries.reverse.lookup k = some v ↔ LastUnder entries k v := by
  rw [List.lookup_eq_some_iff]
  constructor
  · rintro ⟨after, before, heq, hafter⟩
    refine ⟨before.reverse, after.reverse, ?_, not_mem_keys_iff.2 ?_⟩
    · simpa using congrArg List.reverse heq
    · exact fun e he => hafter e (List.mem_reverse.1 he)
  · rintro ⟨before, after, rfl, hafter⟩
    refine ⟨after.reverse, before.reverse, by simp, fun e he => ?_⟩
    exact not_mem_keys_iff.1 hafter e (List.mem_reverse.1 he)

namespace Records

theorem get?_eq (h : c.Records entries) (k : String) : c.get? k = entries.reverse.lookup k :=
  Option.ext fun v => by rw [h.get?_eq_some_iff, lookup_reverse_eq_some_iff]

theorem mem_keys_iff (h : c.Records entries) : k ∈ c.keys ↔ k ∈ keys entries := by
  rw [Context.mem_keys_iff, h.get?_eq, mem_keys_iff_lookup_reverse]

-- The order of the names and the values under them entail the rest.
theorem of_ordered
    (hkeys : c.keys.Pairwise fun k k' => (keys entries).idxOf k < (keys entries).idxOf k')
    (hget : ∀ k, c.get? k = entries.reverse.lookup k) : c.Records entries := by
  have hnodup : c.keys.Nodup := hkeys.imp fun h heq => absurd (heq ▸ h) (lt_irrefl _)
  have hmem (k : String) : k ∈ c.keys ↔ k ∈ keys entries := by
    rw [Context.mem_keys_iff, hget, mem_keys_iff_lookup_reverse]
  have hlength : c.length = (keys entries).toFinset.card := by
    rw [← List.toFinset.ext_iff.2 hmem, List.toFinset_card_of_nodup hnodup, keys, List.length_map]
  refine ⟨hnodup, hkeys, hlength, fun k v => ?_, fun k => ?_⟩
  · rw [hget, lookup_reverse_eq_some_iff]
  · rw [← hmem, Context.mem_keys_iff, Option.not_isSome_iff_eq_none]

theorem nil : empty.Records [] :=
  of_ordered .nil fun _ => rfl

-- A new name comes behind all others. One that was there keeps its place, and so does every other:
-- the names of the entries so far are found where they were.
theorem ordered_insert (h : c.Records entries) (k : String) (v : Value) :
    (c.insert k v).keys.Pairwise fun k₁ k₂ =>
      (keys (entries ++ [(k, v)])).idxOf k₁ < (keys (entries ++ [(k, v)])).idxOf k₂ := by
  have hkeys : keys (entries ++ [(k, v)]) = keys entries ++ [k] := List.map_append
  have hidxOf {k' : String} (hk' : k' ∈ c.keys) :
      (keys (entries ++ [(k, v)])).idxOf k' = (keys entries).idxOf k' := by
    rw [hkeys, List.idxOf_append_of_mem (h.mem_keys_iff.1 hk')]
  have hordered : c.keys.Pairwise fun k₁ k₂ =>
      (keys (entries ++ [(k, v)])).idxOf k₁ < (keys (entries ++ [(k, v)])).idxOf k₂ :=
    h.ordered.imp_of_mem fun h₁ h₂ hlt => by rwa [hidxOf h₁, hidxOf h₂]
  by_cases hmem : k ∈ c.keys
  case pos => rwa [keys_insert_of_mem hmem]
  case neg =>
    rw [keys_insert_of_not_mem hmem, List.pairwise_append]
    refine ⟨hordered, List.pairwise_singleton .., fun k₁ h₁ k₂ h₂ => ?_⟩
    rw [List.mem_singleton.1 h₂, hidxOf h₁, hkeys,
      List.idxOf_append_of_notMem (mt h.mem_keys_iff.2 hmem)]
    exact Nat.lt_add_right _ (List.idxOf_lt_length_iff.2 (h.mem_keys_iff.1 h₁))

theorem insert (h : c.Records entries) (k : String) (v : Value) :
    (c.insert k v).Records (entries ++ [(k, v)]) := by
  refine of_ordered (h.ordered_insert k v) fun k' => ?_
  rw [get?_insert, h.get?_eq, List.reverse_append, List.reverse_singleton, List.singleton_append,
    List.lookup_cons]
  by_cases hk : k' = k
  case pos => rw [if_pos hk, hk, beq_self_eq_true]
  case neg => rw [if_neg hk, beq_eq_false_iff_ne.2 hk]

theorem ofList (entries : List (String × Value)) : (ofList entries).Records entries := by
  induction entries using List.reverseRecOn with
  | nil => exact nil
  | append_singleton entries e ih =>
    have hlast := ih.insert e.1 e.2
    rwa [Context.ofList, List.foldl_append]

end Records

theorem map_keys_get? (h : c.keys.Nodup) :
    (c.keys.map fun k => (k, (c.get? k).getD .null)) = c := by
  rw [keys, List.map_map]
  refine (List.map_congr_left fun e he => ?_).trans (List.map_id c)
  simp only [Function.comp_apply, get?, lookup_of_mem h he, Option.getD_some]
  rfl

theorem Records.unique (h : c.Records entries) (h' : c'.Records entries) : c = c' := by
  have hperm : c.keys.Perm c'.keys := by
    rw [List.perm_ext_iff_of_nodup h.nodup h'.nodup]
    exact fun k => h.mem_keys_iff.trans h'.mem_keys_iff.symm
  have hkeys : c.keys = c'.keys :=
    hperm.eq_of_pairwise (fun _ _ _ _ hlt hgt => absurd hlt (lt_asymm hgt)) h.ordered h'.ordered
  have hget : c.get? = c'.get? := funext fun k => (h.get?_eq k).trans (h'.get?_eq k).symm
  rw [← map_keys_get? h.nodup, ← map_keys_get? h'.nodup, hkeys, hget]

end Rulebook.Context
