import Mathlib.Data.List.Induction
import Rulebook.Proofs.Cache.Queue

/-!
Runs of a cache: any order of asking, storing, clearing and waiting. A run answers as that of the
queue does, and a key that has to make room is the one that has been there longest.
-/

namespace Rulebook

namespace CacheStep

variable {κ ν : Type}

def isGet : CacheStep κ ν → Bool
  | get _ => true
  | _ => false

def isClear : CacheStep κ ν → Bool
  | clear => true
  | _ => false

end CacheStep

variable {κ ν : Type}

def getsSinceClear (past : List (CacheStep κ ν)) : Nat :=
  (past.reverse.takeWhile (!·.isClear)).countP (·.isGet)

theorem getsSinceClear_snoc (past : List (CacheStep κ ν)) (s : CacheStep κ ν) :
    getsSinceClear (past ++ [s]) =
      if s.isClear then 0 else getsSinceClear past + if s.isGet then 1 else 0 := by
  cases s <;> simp [getsSinceClear, CacheStep.isClear, CacheStep.isGet]

namespace Queue

variable [BEq κ]

-- The answer to each step, and the statistics after it.
def run (q : Queue κ ν) : List (CacheStep κ ν) → List (Option ν × CacheStats)
  | [] => []
  | s :: steps => ((q.step s).1, (q.step s).2.stats) :: run (q.step s).2 steps

def after (q : Queue κ ν) (steps : List (CacheStep κ ν)) : Queue κ ν :=
  steps.foldl (fun q s => (q.step s).2) q

end Queue

namespace Cache

variable [BEq κ] [Hashable κ]

def run (c : Cache κ ν) : List (CacheStep κ ν) → List (Option ν × CacheStats)
  | [] => []
  | s :: steps => ((c.step s).1, (c.step s).2.stats) :: run (c.step s).2 steps

def after (c : Cache κ ν) (steps : List (CacheStep κ ν)) : Cache κ ν :=
  steps.foldl (fun c s => (c.step s).2) c

-- One key has been there, without a break, since a time when the other was not.
def Precedes (start : Cache κ ν) (past : List (CacheStep κ ν)) (k k' : κ) : Prop :=
  ∃ before since, past = before ++ since ∧ k' ∉ (start.after before).entries ∧
    ∀ part, part <+: since → k ∈ (start.after (before ++ part)).entries

variable {c start : Cache κ ν} {past steps : List (CacheStep κ ν)} {s : CacheStep κ ν} {k k' : κ}

theorem after_snoc (start : Cache κ ν) (past : List (CacheStep κ ν)) (s : CacheStep κ ν) :
    start.after (past ++ [s]) = ((start.after past).step s).2 :=
  List.foldl_append ..

theorem Precedes.snoc (h : start.Precedes past k k')
    (hk : k ∈ (start.after (past ++ [s])).entries) : start.Precedes (past ++ [s]) k k' := by
  obtain ⟨before, since, rfl, hk', hsince⟩ := h
  refine ⟨before, since ++ [s], List.append_assoc .., hk', fun part hpart => ?_⟩
  obtain rfl | hpart := List.prefix_concat_iff.1 hpart
  · rwa [← List.append_assoc]
  · exact hsince part hpart

theorem precedes_of_new (hk : k ∈ (start.after past).entries)
    (hk' : k' ∉ (start.after past).entries) (hkept : k ∈ (start.after (past ++ [s])).entries) :
    start.Precedes (past ++ [s]) k k' := by
  refine ⟨past, [s], rfl, hk', fun part hpart => ?_⟩
  have hpart : part <+: [] ++ [s] := hpart
  obtain rfl | hpart := List.prefix_concat_iff.1 hpart
  · exact hkept
  · rwa [List.prefix_nil.1 hpart, List.append_nil]

theorem capacity_after (start : Cache κ ν) (past : List (CacheStep κ ν)) :
    (start.after past).capacity = start.capacity := by
  induction past using List.reverseRecOn with
  | nil => rfl
  | append_singleton past s ih => rw [after_snoc, capacity_step, ih]

theorem lifetime_step (c : Cache κ ν) (s : CacheStep κ ν) :
    (c.step s).2.lifetime = c.lifetime := by
  cases s with
  | get => exact lifetime_get
  | insert => exact lifetime_insert
  | clear | wait => rfl

theorem lifetime_after (start : Cache κ ν) (past : List (CacheStep κ ν)) :
    (start.after past).lifetime = start.lifetime := by
  induction past using List.reverseRecOn with
  | nil => rfl
  | append_singleton past s ih => rw [after_snoc, lifetime_step, ih]

theorem hits_add_misses_step (c : Cache κ ν) (s : CacheStep κ ν) :
    (c.step s).2.hits + (c.step s).2.misses =
      if s.isClear then 0 else c.hits + c.misses + if s.isGet then 1 else 0 := by
  cases s with
  | get key =>
    simp only [step, get, CacheStep.isClear, CacheStep.isGet]
    split
    · simp [miss, Nat.add_assoc]
    · split
      · simp [hit, Nat.add_right_comm]
      · simp [miss, remove, Nat.add_assoc]
  | insert key value =>
    simp only [step, insert, CacheStep.isClear, CacheStep.isGet]
    split
    · rfl
    · split <;> rfl
  | clear | wait => rfl

theorem hits_add_misses_after (capacity lifetime : Nat) (past : List (CacheStep κ ν)) :
    ((empty capacity lifetime : Cache κ ν).after past).hits +
      ((empty capacity lifetime : Cache κ ν).after past).misses = getsSinceClear past := by
  induction past using List.reverseRecOn with
  | nil => rfl
  | append_singleton past s ih => rw [after_snoc, hits_add_misses_step, getsSinceClear_snoc, ih]

-- What is new in the order stands behind what was there.
theorem Change.order_sublist {entries : Std.HashMap κ (Stored ν)} {order : List κ}
    (h : c.Change s entries order) : ∃ added : Option κ,
      order.Sublist (c.order ++ added.toList) ∧ ∀ k ∈ added, k ∉ c.entries := by
  cases h with
  | kept | replaced => exact ⟨none, by simp, by simp⟩
  | expired => exact ⟨none, by simp, by simp⟩
  | @added k _ hk => exact ⟨some k, .refl _, by simpa using hk⟩
  | @evicted k oldest _ order hk _ horder =>
    refine ⟨some k, ?_, by simpa using hk⟩
    rw [horder]
    exact List.sublist_cons_self oldest (order ++ [k])
  | cleared => exact ⟨none, List.nil_sublist _, by simp⟩

variable [LawfulBEq κ]

theorem tidy_after (h : start.Tidy) (past : List (CacheStep κ ν)) : (start.after past).Tidy := by
  induction past using List.reverseRecOn with
  | nil => exact h
  | append_singleton past s ih =>
    rw [after_snoc]
    exact ih.step s

theorem queue_after (h : start.Tidy) (past : List (CacheStep κ ν)) :
    start.queue.after past = (start.after past).queue := by
  induction past generalizing start with
  | nil => rfl
  | cons s past ih =>
    have hstep := h.queue_step s
    rw [Queue.after, List.foldl_cons, hstep]
    exact ih (h.step s)

theorem queue_run (h : start.Tidy) (past : List (CacheStep κ ν)) :
    start.queue.run past = start.run past := by
  induction past generalizing start with
  | nil => rfl
  | cons s past ih =>
    have hstep := h.queue_step s
    rw [Queue.run, run, hstep, ih (h.step s), (h.step s).stats_queue]

-- The keys stand in the order in which they came.
theorem pairwise_precedes (h : start.Tidy) (hempty : start.order = [])
    (past : List (CacheStep κ ν)) :
    (start.after past).order.Pairwise (start.Precedes past) := by
  induction past using List.reverseRecOn with
  | nil => exact hempty ▸ List.Pairwise.nil
  | append_singleton past s ih =>
    have htidy := tidy_after h past
    have hkept : ∀ k ∈ (start.after (past ++ [s])).order,
        k ∈ (start.after (past ++ [s])).entries :=
      (tidy_after h (past ++ [s])).inStep.mem_entries
    obtain ⟨added, hsub, hadded⟩ := (htidy.change s).order_sublist
    rw [← after_snoc] at hsub
    have hpairs : ((start.after past).order ++ added.toList).Pairwise fun k k' =>
        k ∈ (start.after (past ++ [s])).entries → start.Precedes (past ++ [s]) k k' := by
      refine List.pairwise_append.2 ⟨ih.imp fun hprecedes hk => hprecedes.snoc hk, ?_, ?_⟩
      · cases added with
        | none => exact List.Pairwise.nil
        | some => exact List.pairwise_singleton ..
      · intro k hk k' hk' hafter
        exact precedes_of_new (htidy.inStep.mem_entries k hk) (hadded k' (by simpa using hk')) hafter
    exact (hpairs.sublist hsub).imp_of_mem fun hk _ hprecedes => hprecedes (hkept _ hk)

-- A key that is gone was cleared away, was found too old, or has made room.
theorem Change.gone {entries : Std.HashMap κ (Stored ν)} {order : List κ}
    (h : c.Change s entries order) (hk : k ∈ c.entries) (hgone : k ∉ entries) :
    s = .clear ∨
    (s = .get k ∧ ∃ stored, c.entries[k]? = some stored ∧ c.isFresh stored = false) ∨
    ∃ key value, s = .insert key value ∧ key ∉ c.entries ∧ c.size = c.capacity ∧
      ∃ others, c.order = k :: others := by
  cases h with
  | kept => exact absurd hk hgone
  | @expired key stored hkey hold =>
    rw [Std.HashMap.mem_erase, not_and, imp_not_comm] at hgone
    have heq : key = k := by simpa using hgone hk
    subst heq
    exact .inr (.inl ⟨rfl, stored, hkey, hold⟩)
  | replaced => exact absurd (Std.HashMap.mem_insert.2 (.inr hk)) hgone
  | added => exact absurd (Std.HashMap.mem_insert.2 (.inr hk)) hgone
  | @evicted key oldest value order hkey hsize horder =>
    rw [Std.HashMap.mem_erase, not_and, imp_not_comm] at hgone
    have heq : oldest = k := by simpa using hgone (Std.HashMap.mem_insert.2 (.inr hk))
    subst heq
    exact .inr (.inr ⟨key, value, rfl, hkey, hsize, order, horder⟩)
  | cleared => exact .inl rfl

theorem behaves_as_queue (capacity lifetime : Nat) (past : List (CacheStep κ ν)) :
    let start : Cache κ ν := empty capacity lifetime
    let c := start.after past
    start.run past = (Queue.empty capacity lifetime).run past ∧
    c.queue = (Queue.empty capacity lifetime).after past ∧
    c.order.Nodup ∧ (∀ k, k ∈ c.order ↔ k ∈ c.entries) ∧
    c.size ≤ capacity ∧
    c.hits + c.misses = getsSinceClear past ∧
    ∀ s k, k ∈ c.entries → k ∉ (c.step s).2.entries →
      s = .clear ∨
      (s = .get k ∧ ∃ stored, c.entries[k]? = some stored ∧
        lifetime ≠ 0 ∧ stored.since + lifetime ≤ c.now) ∨
      (∃ key value, s = .insert key value ∧ key ∉ c.entries ∧ c.size = capacity ∧
        c.order.head? = some k ∧
        ∀ other ∈ c.entries, other ≠ k → start.Precedes past k other) := by
  intro start c
  have htidy : c.Tidy := tidy_after tidy_empty past
  have hcapacity : c.capacity = capacity := capacity_after start past
  have hlifetime : c.lifetime = lifetime := lifetime_after start past
  refine ⟨(queue_run tidy_empty past).symm, (queue_after tidy_empty past).symm,
    htidy.inStep.nodup, htidy.inStep.mem_iff, hcapacity ▸ htidy.size_le,
    hits_add_misses_after capacity lifetime past, fun s k hk hgone => ?_⟩
  obtain rfl | ⟨rfl, stored, hstored, hold⟩ | ⟨key, value, rfl, hkey, hsize, others, horder⟩ :=
    (htidy.change s).gone hk hgone
  case inl => exact .inl rfl
  case inr.inl =>
    rw [← Bool.not_eq_true, isFresh_iff, hlifetime, not_or, Nat.not_lt] at hold
    exact .inr (.inl ⟨rfl, stored, hstored, hold⟩)
  case inr.inr =>
    refine .inr (.inr ⟨key, value, rfl, hkey, hsize.trans hcapacity, by rw [horder]; rfl,
      fun other hother hne => ?_⟩)
    have hpairs : c.order.Pairwise (start.Precedes past) := pairwise_precedes tidy_empty rfl past
    rw [horder, List.pairwise_cons] at hpairs
    have hmem := (htidy.inStep.mem_iff other).2 hother
    rw [horder, List.mem_cons] at hmem
    exact hpairs.1 other (hmem.resolve_left hne)

-- A replaced value keeps the place of its key, and so does one that is asked for; a value that is
-- too old goes when it is asked for.
theorem behaves_as_queue_replaced :
    (empty 2 10 : Cache Nat String).run [.insert 1 "a", .insert 2 "b", .wait 5, .insert 1 "c",
      .get 1, .insert 3 "d", .get 1, .wait 9, .get 3, .get 2, .clear] =
    [(none, ⟨0, 0, 1, 2⟩), (none, ⟨0, 0, 2, 2⟩), (none, ⟨0, 0, 2, 2⟩), (none, ⟨0, 0, 2, 2⟩),
      (some "c", ⟨1, 0, 2, 2⟩), (none, ⟨1, 0, 2, 2⟩), (none, ⟨1, 1, 2, 2⟩), (none, ⟨1, 1, 2, 2⟩),
      (some "d", ⟨2, 1, 2, 2⟩), (none, ⟨2, 2, 1, 2⟩), (none, ⟨0, 0, 0, 2⟩)] :=
  (behaves_as_queue 2 10 _).1.trans (by decide)

end Cache

end Rulebook
