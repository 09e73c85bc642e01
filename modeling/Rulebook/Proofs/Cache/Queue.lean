import Mathlib.Data.List.Nodup
import Rulebook.Proofs.Cache.Room

/-!
A cache as a queue: its entries in the order in which their keys came in, with nothing beside them.
The map of a cache and its list of keys stay in step, so that each operation does to the cache what
it does to the queue.
-/

namespace Rulebook

inductive CacheStep (κ ν : Type)
  | get (key : κ)
  | insert (key : κ) (value : ν)
  | clear
  | wait (duration : Nat)

structure Queue (κ ν : Type) where
  capacity : Nat
  lifetime : Nat
  now : Nat
  -- The key that came first is at the front.
  entries : List (κ × Stored ν)
  hits : Nat
  misses : Nat

namespace Queue

variable {κ ν : Type} [BEq κ]

def empty (capacity lifetime : Nat) : Queue κ ν := ⟨capacity, lifetime, 0, [], 0, 0⟩

variable (q : Queue κ ν)

def get (key : κ) : Option ν × Queue κ ν :=
  match q.entries.lookup key with
  | none => (none, { q with misses := q.misses + 1 })
  | some s =>
    if q.lifetime = 0 ∨ q.now < s.since + q.lifetime then
      (some s.value, { q with hits := q.hits + 1 })
    else
      (none, { q with entries := q.entries.filter (·.1 != key), misses := q.misses + 1 })

-- The value under a key that is there is replaced; a new key goes to the end, and the front has to
-- make room for it.
def insert (key : κ) (value : ν) : Queue κ ν :=
  let entry := (key, ⟨value, q.now⟩)
  if q.capacity = 0 then q
  else if (q.entries.lookup key).isSome then
    { q with entries := q.entries.map fun e => if e.1 == key then entry else e }
  else
    let entries := q.entries ++ [entry]
    { q with entries := if q.capacity < entries.length then entries.tail else entries }

def clear : Queue κ ν := { q with entries := [], hits := 0, misses := 0 }

def wait (duration : Nat) : Queue κ ν := { q with now := q.now + duration }

def stats : CacheStats := ⟨q.hits, q.misses, q.entries.length, q.capacity⟩

def step : CacheStep κ ν → Option ν × Queue κ ν
  | .get key => q.get key
  | .insert key value => (none, q.insert key value)
  | .clear => (none, q.clear)
  | .wait duration => (none, q.wait duration)

end Queue

namespace Cache

variable {κ ν : Type} [BEq κ] [Hashable κ]

-- The entries that are found under these keys, in their order.
def listed (entries : Std.HashMap κ (Stored ν)) (order : List κ) : List (κ × Stored ν) :=
  order.filterMap fun k => entries[k]?.map (k, ·)

def queue (c : Cache κ ν) : Queue κ ν :=
  ⟨c.capacity, c.lifetime, c.now, listed c.entries c.order, c.hits, c.misses⟩

def step (c : Cache κ ν) : CacheStep κ ν → Option ν × Cache κ ν
  | .get key => c.get key
  | .insert key value => (none, c.insert key value)
  | .clear => (none, c.clear)
  | .wait duration => (none, c.wait duration)

-- What a step makes of the map and of the list of keys.
inductive Change (c : Cache κ ν) :
    CacheStep κ ν → Std.HashMap κ (Stored ν) → List κ → Prop
  | kept {s : CacheStep κ ν} : Change c s c.entries c.order
  | expired {k : κ} {s : Stored ν} (hk : c.entries[k]? = some s) (hs : c.isFresh s = false) :
    Change c (.get k) (c.entries.erase k) (c.order.filter (· != k))
  | replaced {k : κ} {v : ν} (hk : k ∈ c.entries) :
    Change c (.insert k v) (c.entries.insert k ⟨v, c.now⟩) c.order
  | added {k : κ} {v : ν} (hk : k ∉ c.entries) (hsize : c.size < c.capacity) :
    Change c (.insert k v) (c.entries.insert k ⟨v, c.now⟩) (c.order ++ [k])
  | evicted {k oldest : κ} {v : ν} {order : List κ} (hk : k ∉ c.entries)
    (hsize : c.size = c.capacity) (horder : c.order = oldest :: order) :
    Change c (.insert k v) ((c.entries.insert k ⟨v, c.now⟩).erase oldest) (order ++ [k])
  | cleared : Change c .clear ∅ []

-- The list holds the keys of the map, each once.
structure InStep (entries : Std.HashMap κ (Stored ν)) (order : List κ) : Prop where
  nodup : order.Nodup
  mem_iff : ∀ k, k ∈ order ↔ k ∈ entries

structure Tidy (c : Cache κ ν) : Prop where
  inStep : InStep c.entries c.order
  size_le : c.size ≤ c.capacity

variable {c : Cache κ ν} {entries entries' : Std.HashMap κ (Stored ν)} {order : List κ}
  {k k' : κ} {v : ν} {s : Stored ν} {capacity lifetime : Nat}

theorem isFresh_iff :
    c.isFresh s = true ↔ c.lifetime = 0 ∨ c.now < s.since + c.lifetime := by
  simp only [isFresh, Bool.or_eq_true, beq_iff_eq, decide_eq_true_eq]
  omega

theorem listed_cons_of_some (h : entries[k]? = some s) :
    listed entries (k :: order) = (k, s) :: listed entries order := by
  simp [listed, h]

theorem listed_cons_of_none (h : entries[k]? = none) :
    listed entries (k :: order) = listed entries order := by
  simp [listed, h]

theorem listed_append {order' : List κ} :
    listed entries (order ++ order') = listed entries order ++ listed entries order' :=
  List.filterMap_append

theorem listed_congr (h : ∀ k ∈ order, entries[k]? = entries'[k]?) :
    listed entries order = listed entries' order :=
  List.filterMap_congr fun k hk => by rw [h k hk]

theorem InStep.mem_entries (h : InStep entries order) : ∀ k ∈ order, k ∈ entries :=
  fun k hk => (h.mem_iff k).1 hk

theorem tidy_iff : c.Tidy ↔ InStep c.entries c.order ∧ c.entries.size ≤ c.capacity :=
  ⟨fun h => ⟨h.inStep, h.size_le⟩, fun h => ⟨h.1, h.2⟩⟩

theorem capacity_step (c : Cache κ ν) (s : CacheStep κ ν) :
    (c.step s).2.capacity = c.capacity := by
  cases s with
  | get key =>
    simp only [step, get]
    split
    · rfl
    · split <;> rfl
  | insert => exact capacity_insert
  | clear | wait => rfl

theorem tidy_empty : (empty capacity lifetime : Cache κ ν).Tidy where
  inStep := ⟨List.nodup_nil, fun k => by simp [empty]⟩
  size_le := by simp [empty, size]

theorem insert_of_mem (hc : c.capacity ≠ 0) (hk : k ∈ c.entries) :
    c.insert k v = { c with entries := c.entries.insert k ⟨v, c.now⟩ } := by
  simp only [insert, hc, ↓reduceIte]
  rw [if_pos (Std.HashMap.contains_iff_mem.2 hk)]

variable [LawfulBEq κ]

theorem getElem?_eq_some_of_mem (h : k ∈ entries) : ∃ s, entries[k]? = some s :=
  Option.isSome_iff_exists.1 (Std.HashMap.isSome_getElem?_iff_mem.2 h)

theorem lookup_listed :
    (listed entries order).lookup k = if k ∈ order then entries[k]? else none := by
  induction order with
  | nil => rfl
  | cons k' order ih =>
    by_cases hk : k = k'
    case pos =>
      subst hk
      cases hs : entries[k]? with
      | none => simp [listed_cons_of_none hs, ih, hs]
      | some s => simp [listed_cons_of_some hs]
    case neg =>
      have hne : (k == k') = false := beq_eq_false_iff_ne.2 hk
      cases hs : entries[k']? with
      | none => simp [listed_cons_of_none hs, ih, hk]
      | some s => simp [listed_cons_of_some hs, List.lookup_cons, hne, ih, hk]

theorem length_listed (h : ∀ k ∈ order, k ∈ entries) :
    (listed entries order).length = order.length := by
  induction order with
  | nil => rfl
  | cons k order ih =>
    obtain ⟨hk, horder⟩ := List.forall_mem_cons.1 h
    obtain ⟨s, hs⟩ := getElem?_eq_some_of_mem hk
    rw [listed_cons_of_some hs, List.length_cons, List.length_cons, ih horder]

theorem listed_erase (h : k ∉ order) : listed (entries.erase k) order = listed entries order := by
  refine listed_congr fun k' hk' => ?_
  have hne : k ≠ k' := fun hk => h (hk ▸ hk')
  simp [Std.HashMap.getElem?_erase, hne]

theorem listed_insert (h : k ∉ order) :
    listed (entries.insert k s) order = listed entries order := by
  refine listed_congr fun k' hk' => ?_
  have hne : k ≠ k' := fun hk => h (hk ▸ hk')
  simp [Std.HashMap.getElem?_insert, hne]

theorem listed_filter :
    listed (entries.erase k) (order.filter (· != k)) =
      (listed entries order).filter (·.1 != k) := by
  rw [listed_erase (by simp)]
  induction order with
  | nil => rfl
  | cons k' order ih =>
    by_cases hk : k' = k
    case pos =>
      subst hk
      rw [List.filter_cons_of_neg (by simp), ih]
      cases hs : entries[k']? with
      | none => rw [listed_cons_of_none hs]
      | some s => rw [listed_cons_of_some hs, List.filter_cons_of_neg (by simp)]
    case neg =>
      rw [List.filter_cons_of_pos (by simpa using hk)]
      cases hs : entries[k']? with
      | none => rw [listed_cons_of_none hs, listed_cons_of_none hs, ih]
      | some s =>
        rw [listed_cons_of_some hs, listed_cons_of_some hs, ih,
          List.filter_cons_of_pos (by simpa using hk)]

theorem listed_replace (h : ∀ k ∈ order, k ∈ entries) :
    listed (entries.insert k s) order =
      (listed entries order).map fun e => if e.1 == k then (k, s) else e := by
  induction order with
  | nil => rfl
  | cons k' order ih =>
    obtain ⟨hk', horder⟩ := List.forall_mem_cons.1 h
    obtain ⟨s', hs'⟩ := getElem?_eq_some_of_mem hk'
    rw [listed_cons_of_some hs', List.map_cons, ← ih horder]
    by_cases hk : k' = k
    case pos =>
      subst hk
      rw [listed_cons_of_some Std.HashMap.getElem?_insert_self, if_pos (BEq.refl k')]
    case neg =>
      have hsame : (entries.insert k s)[k']? = some s' := by
        simp [Std.HashMap.getElem?_insert, Ne.symm hk, hs']
      rw [listed_cons_of_some hsame, if_neg (by simpa using hk)]

namespace InStep

theorem erase_head (h : InStep entries (k :: order)) : InStep (entries.erase k) order where
  nodup := (List.nodup_cons.1 h.nodup).2
  mem_iff k' := by
    have hk : k ∉ order := (List.nodup_cons.1 h.nodup).1
    rw [Std.HashMap.mem_erase, ← h.mem_iff, List.mem_cons, beq_eq_false_iff_ne]
    constructor
    · exact fun hk' => ⟨fun heq => hk (heq ▸ hk'), .inr hk'⟩
    · exact fun ⟨hne, hk'⟩ => hk'.resolve_left (Ne.symm hne)

variable (h : InStep entries order)
include h

theorem size_eq : entries.size = order.length := by
  have hperm : entries.keys.Perm order :=
    (List.perm_ext_iff_of_nodup Std.HashMap.nodup_keys h.nodup).2 fun k =>
      Std.HashMap.mem_keys.trans (h.mem_iff k).symm
  rw [← Std.HashMap.length_keys, hperm.length_eq]

theorem lookup_listed : (listed entries order).lookup k = entries[k]? := by
  rw [Cache.lookup_listed]
  split
  case isTrue => rfl
  case isFalse hk =>
    rw [h.mem_iff, ← Std.HashMap.isSome_getElem?_iff_mem, Bool.not_eq_true,
      Option.isSome_eq_false_iff, Option.isNone_iff_eq_none] at hk
    exact hk.symm

theorem erase : InStep (entries.erase k) (order.filter (· != k)) where
  nodup := h.nodup.filter _
  mem_iff k' := by
    rw [Std.HashMap.mem_erase, List.mem_filter, h.mem_iff, bne_iff_ne, ne_comm,
      ← beq_eq_false_iff_ne, and_comm]

theorem replace (hk : k ∈ entries) : InStep (entries.insert k s) order where
  nodup := h.nodup
  mem_iff k' := by
    rw [Std.HashMap.mem_insert, h.mem_iff, beq_iff_eq]
    exact ⟨.inr, fun hk' => hk'.elim (· ▸ hk) id⟩

theorem append (hk : k ∉ entries) : InStep (entries.insert k s) (order ++ [k]) where
  nodup := by
    rw [List.nodup_append]
    refine ⟨h.nodup, List.nodup_singleton k, fun a ha b hb hab => hk ?_⟩
    rw [← List.mem_singleton.1 hb, ← hab]
    exact h.mem_entries a ha
  mem_iff k' := by
    rw [Std.HashMap.mem_insert, List.mem_append, h.mem_iff, List.mem_singleton, beq_iff_eq,
      or_comm, eq_comm]

end InStep

-- The oldest entry alone has to go when there is one too many.
theorem dropOldest_of_size_eq (hsize : entries.size = capacity + 1) (hk : k ∈ entries) :
    dropOldest capacity entries (k :: order) = (entries.erase k, order) := by
  have herase : (entries.erase k).size ≤ capacity := by
    rw [Std.HashMap.size_erase, if_pos hk]
    omega
  rw [dropOldest, if_pos (by omega), dropOldest_of_size_le herase]

namespace Tidy

variable (h : c.Tidy)
include h

theorem stats_queue : c.queue.stats = c.stats := by
  have hlength : c.queue.entries.length = c.size :=
    (length_listed h.inStep.mem_entries).trans h.inStep.size_eq.symm
  rw [Queue.stats, hlength]
  rfl

theorem queue_get (k : κ) : c.queue.get k = ((c.get k).1, (c.get k).2.queue) := by
  have hlookup : c.queue.entries.lookup k = c.entries[k]? := h.inStep.lookup_listed
  rw [Queue.get, hlookup, Cache.get]
  cases c.entries[k]? with
  | none => rfl
  | some s =>
    have hiff : c.isFresh s = true ↔
        c.queue.lifetime = 0 ∨ c.queue.now < s.since + c.queue.lifetime := isFresh_iff
    by_cases hfresh : c.isFresh s = true
    case pos =>
      simp only [if_pos (hiff.1 hfresh), if_pos hfresh]
      rfl
    case neg =>
      have hqueue : (c.remove k).miss.queue =
          { c.queue with
            entries := c.queue.entries.filter (·.1 != k), misses := c.misses + 1 } := by
        rw [queue, queue, ← listed_filter]
        rfl
      simp only [if_neg (mt hiff.2 hfresh), if_neg hfresh, hqueue]
      rfl

-- A new key finds room, or the key that has been there longest makes it.
theorem insert_of_not_mem (hc : c.capacity ≠ 0) (hk : k ∉ c.entries) :
    (c.size < c.capacity ∧ c.insert k v =
      { c with entries := c.entries.insert k ⟨v, c.now⟩, order := c.order ++ [k] }) ∨
    ∃ oldest order, c.order = oldest :: order ∧ c.size = c.capacity ∧ c.insert k v =
      { c with entries := (c.entries.insert k ⟨v, c.now⟩).erase oldest, order := order ++ [k] } := by
  have hsize : (c.entries.insert k ⟨v, c.now⟩).size = c.size + 1 := by
    rw [Std.HashMap.size_insert, if_neg hk, size]
  have hinsert : c.insert k v =
      let dropped := dropOldest c.capacity (c.entries.insert k ⟨v, c.now⟩) (c.order ++ [k])
      { c with entries := dropped.1, order := dropped.2 } := by
    simp only [Cache.insert, hc, ↓reduceIte]
    rw [if_neg (by rwa [Std.HashMap.contains_iff_mem])]
  obtain hlt | heq := Nat.lt_or_eq_of_le h.size_le
  case inl =>
    refine .inl ⟨hlt, ?_⟩
    rw [hinsert, dropOldest_of_size_le (by omega)]
  case inr =>
    obtain ⟨oldest, order, horder⟩ : ∃ oldest order, c.order = oldest :: order := by
      refine List.exists_cons_of_ne_nil fun hnil => hc ?_
      rw [← heq, size, h.inStep.size_eq, hnil, List.length_nil]
    have hmem : oldest ∈ c.entries.insert k ⟨v, c.now⟩ := by
      rw [Std.HashMap.mem_insert]
      exact .inr (h.inStep.mem_entries oldest (horder ▸ List.mem_cons_self))
    refine .inr ⟨oldest, order, horder, heq, ?_⟩
    rw [hinsert, horder, List.cons_append, dropOldest_of_size_eq (by omega) hmem]

theorem queue_insert (k : κ) (v : ν) : c.queue.insert k v = (c.insert k v).queue := by
  by_cases hc : c.capacity = 0
  · rw [Queue.insert, Cache.insert, if_pos hc]
    exact if_pos hc
  have hcapacity : c.queue.capacity ≠ 0 := hc
  have hlookup : c.queue.entries.lookup k = c.entries[k]? := h.inStep.lookup_listed
  by_cases hk : k ∈ c.entries
  case pos =>
    have hsome : (c.queue.entries.lookup k).isSome = true := by
      rwa [hlookup, Std.HashMap.isSome_getElem?_iff_mem]
    simp only [Queue.insert, if_neg hcapacity, if_pos hsome, insert_of_mem hc hk]
    simp only [queue, listed_replace h.inStep.mem_entries]
  case neg =>
    have hnone : ¬(c.queue.entries.lookup k).isSome = true := by
      rwa [hlookup, Std.HashMap.isSome_getElem?_iff_mem]
    have hadded := h.inStep.append (s := ⟨v, c.now⟩) hk
    have hnew : listed (c.entries.insert k ⟨v, c.now⟩) (c.order ++ [k]) =
        c.queue.entries ++ [(k, Stored.mk v c.queue.now)] := by
      rw [listed_append, listed_insert (mt (h.inStep.mem_iff k).1 hk),
        listed_cons_of_some Std.HashMap.getElem?_insert_self]
      rfl
    have hlength : (c.queue.entries ++ [(k, Stored.mk v c.queue.now)]).length = c.size + 1 := by
      rw [← hnew, length_listed hadded.mem_entries, ← hadded.size_eq, Std.HashMap.size_insert,
        if_neg hk, size]
    simp only [Queue.insert, if_neg hcapacity, if_neg hnone, hlength]
    obtain ⟨hlt, heq⟩ | ⟨oldest, order, horder, hfull, heq⟩ := h.insert_of_not_mem (v := v) hc hk
    case inl =>
      have hroom : ¬c.queue.capacity < c.size + 1 := Nat.not_lt.2 hlt
      rw [heq, if_neg hroom, ← hnew]
      rfl
    case inr =>
      have hroom : c.queue.capacity < c.size + 1 := hfull ▸ Nat.lt_succ_self _
      obtain ⟨s, hs⟩ := getElem?_eq_some_of_mem (hadded.mem_entries oldest (by simp [horder]))
      rw [horder, List.cons_append] at hnew hadded
      rw [heq, if_pos hroom, ← hnew, listed_cons_of_some hs, List.tail_cons,
        ← listed_erase (List.nodup_cons.1 hadded.nodup).1]
      rfl

theorem queue_step (s : CacheStep κ ν) :
    c.queue.step s = ((c.step s).1, (c.step s).2.queue) := by
  cases s with
  | get key => exact h.queue_get key
  | insert key value => exact congrArg (Prod.mk none) (h.queue_insert key value)
  | clear | wait => rfl

theorem change (s : CacheStep κ ν) : c.Change s (c.step s).2.entries (c.step s).2.order := by
  cases s with
  | get key =>
    rw [step, Cache.get]
    split
    case h_1 => exact .kept
    case h_2 hk =>
      split
      case isTrue => exact .kept
      case isFalse hs => exact .expired hk (Bool.eq_false_iff.2 hs)
  | insert key value =>
    simp only [step]
    by_cases hc : c.capacity = 0
    · rw [Cache.insert, if_pos hc]
      exact .kept
    by_cases hk : key ∈ c.entries
    · rw [insert_of_mem hc hk]
      exact .replaced hk
    obtain ⟨hsize, heq⟩ | ⟨oldest, order, horder, hsize, heq⟩ :=
      h.insert_of_not_mem (v := value) hc hk
    · rw [heq]
      exact .added hk hsize
    · rw [heq]
      exact .evicted hk hsize horder
  | clear => exact .cleared
  | wait => exact .kept

theorem step (s : CacheStep κ ν) : (c.step s).2.Tidy := by
  have hsize (k : κ) (v : ν) (hk : k ∉ c.entries) :
      (c.entries.insert k ⟨v, c.now⟩).size = c.size + 1 := by
    rw [Std.HashMap.size_insert, if_neg hk, size]
  have hle := h.size_le
  have hstep := h.change s
  rw [tidy_iff, capacity_step]
  generalize (c.step s).2.entries = entries, (c.step s).2.order = order at hstep ⊢
  cases hstep with
  | kept => exact ⟨h.inStep, hle⟩
  | expired => exact ⟨h.inStep.erase, Nat.le_trans Std.HashMap.size_erase_le hle⟩
  | replaced hk =>
    refine ⟨h.inStep.replace hk, ?_⟩
    rwa [Std.HashMap.size_insert, if_pos hk]
  | added hk hlt =>
    refine ⟨h.inStep.append hk, ?_⟩
    rw [hsize _ _ hk]
    exact hlt
  | @evicted k _ v _ hk hfull horder =>
    have hadded := h.inStep.append (s := ⟨v, c.now⟩) hk
    rw [horder, List.cons_append] at hadded
    refine ⟨hadded.erase_head, ?_⟩
    rw [Std.HashMap.size_erase, if_pos (hadded.mem_entries _ List.mem_cons_self), hsize _ _ hk]
    exact Nat.le_of_eq hfull
  | cleared => exact ⟨⟨List.nodup_nil, fun k => by simp⟩, by simp⟩

end Tidy

end Cache

end Rulebook
