import Mathlib.Data.List.Nodup
import Rulebook.Value.Basic

/-!
Values by their parts. The values that can be built have no name twice in a context, and then an
entry is found under its name.
-/

namespace Rulebook

namespace Value

@[elab_as_elim]
theorem induction {P : Value → Prop} (null : P .null) (boolean : ∀ b, P (.boolean b))
    (number : ∀ x, P (.number x)) (string : ∀ s, P (.string s)) (date : ∀ d, P (.date d))
    (time : ∀ t, P (.time t)) (dateTime : ∀ d, P (.dateTime d)) (duration : ∀ d, P (.duration d))
    (list : ∀ items, (∀ v ∈ items, P v) → P (.list items))
    (context : ∀ entries, (∀ e ∈ entries, P e.2) → P (.context entries))
    (range : ∀ s f i j, P s → P f → P (.range s f i j)) (v : Value) : P v :=
  Value.rec (motive_1 := P) (motive_2 := fun vs => ∀ v ∈ vs, P v)
    (motive_3 := fun es => ∀ e ∈ es, P e.2) (motive_4 := fun e => P e.2)
    null boolean number string date time dateTime duration list context
    (fun s f i j hs hf => range s f i j hs hf)
    (fun _ h => absurd h List.not_mem_nil)
    (fun _ _ hv hvs => List.forall_mem_cons.2 ⟨hv, hvs⟩)
    (fun _ h => absurd h List.not_mem_nil)
    (fun _ _ he hes => List.forall_mem_cons.2 ⟨he, hes⟩)
    (fun _ _ h => h) v

mutual

def UniqueKeys : Value → Prop
  | list items => UniqueInItems items
  | context entries => (Context.keys entries).Nodup ∧ UniqueInEntries entries
  | range s f _ _ => UniqueKeys s ∧ UniqueKeys f
  | _ => True

def UniqueInItems : List Value → Prop
  | [] => True
  | v :: vs => UniqueKeys v ∧ UniqueInItems vs

def UniqueInEntries : List (String × Value) → Prop
  | [] => True
  | (_, v) :: rest => UniqueKeys v ∧ UniqueInEntries rest

end

variable {items : List Value} {entries : List (String × Value)} {k : String} {v : Value}

theorem uniqueInItems_iff : UniqueInItems items ↔ ∀ v ∈ items, v.UniqueKeys := by
  induction items with
  | nil => simp [UniqueInItems]
  | cons v items ih => simp [UniqueInItems, ih]

theorem uniqueInEntries_iff : UniqueInEntries entries ↔ ∀ e ∈ entries, e.2.UniqueKeys := by
  induction entries with
  | nil => simp [UniqueInEntries]
  | cons e entries ih =>
    rw [List.forall_mem_cons, ← ih]
    exact Iff.rfl

theorem uniqueKeys_list : UniqueKeys (.list items) ↔ ∀ v ∈ items, v.UniqueKeys := by
  rw [UniqueKeys, uniqueInItems_iff]

theorem uniqueKeys_context :
    UniqueKeys (.context entries) ↔
      (Context.keys entries).Nodup ∧ ∀ e ∈ entries, e.2.UniqueKeys := by
  rw [UniqueKeys, uniqueInEntries_iff]

end Value

namespace Context

variable {c : Context} {k : String} {v : Value}

theorem mem_keys_iff : k ∈ keys c ↔ (get? c k).isSome = true := by
  rw [get?, List.lookup_isSome_iff, keys, List.mem_map]
  simp only [beq_iff_eq, eq_comm (a := k)]

theorem nodup_keys_insert (h : (keys c).Nodup) : (keys (insert k v c)).Nodup := by
  by_cases hk : k ∈ keys c
  case pos => rwa [keys_insert_of_mem hk]
  case neg =>
    rw [keys_insert_of_not_mem hk, ← List.concat_eq_append]
    exact h.concat hk

theorem mem_of_lookup (h : c.lookup k = some v) : (k, v) ∈ c := by
  induction c with
  | nil => simp at h
  | cons e c ih =>
    rw [List.lookup_cons] at h
    split at h
    case h_1 hk => cases h; simp [eq_of_beq hk]
    case h_2 => exact List.mem_cons_of_mem _ (ih h)

theorem lookup_of_mem (h : (keys c).Nodup) (hm : (k, v) ∈ c) : c.lookup k = some v := by
  induction c with
  | nil => simp at hm
  | cons e c ih =>
    obtain ⟨k₀, v₀⟩ := e
    simp only [keys, List.map_cons, List.nodup_cons, List.mem_map, not_exists, not_and] at h
    rw [List.lookup_cons]
    obtain heq | hm := List.mem_cons.1 hm
    · cases heq; simp
    · have hne : k ≠ k₀ := fun hk => h.1 _ hm hk
      simp only [beq_eq_false_iff_ne.2 hne]
      exact ih h.2 hm

end Context

end Rulebook
