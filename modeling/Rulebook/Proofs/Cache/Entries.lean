import Rulebook.Cache.Config

/-!
Which values a cache holds. Every value that it gives out is one that it holds, and every value that
it holds was put there under its own key.
-/

namespace Rulebook

namespace Cache

variable {κ ν : Type} [BEq κ] [Hashable κ]

def HoldsSince (c : Cache κ ν) (key : κ) (value : ν) (since : Nat) : Prop :=
  c.entries[key]? = some ⟨value, since⟩

def Holds (c : Cache κ ν) (key : κ) (value : ν) : Prop :=
  ∃ since, c.entries[key]? = some ⟨value, since⟩

variable {c : Cache κ ν} {k k' : κ} {v v' : ν} {since duration : Nat}

theorem holdsSince_of_get (h : (c.get k).1 = some v) :
    ∃ since, c.HoldsSince k v since ∧ (c.lifetime = 0 ∨ c.now - since < c.lifetime) := by
  simp only [get] at h
  split at h
  case h_1 => simp at h
  case h_2 s hs =>
    split at h
    case isFalse => simp at h
    case isTrue hfresh =>
      simp only [isFresh, Bool.or_eq_true, beq_iff_eq, decide_eq_true_eq] at hfresh
      exact ⟨s.since, by simp [HoldsSince, hs, ← Option.some.inj h], hfresh⟩

theorem holds_of_get (h : (c.get k).1 = some v) : c.Holds k v := by
  obtain ⟨since, h, -⟩ := holdsSince_of_get h
  exact ⟨since, h⟩

@[simp]
theorem now_get : (c.get k).2.now = c.now := by
  simp only [get]
  split
  · rfl
  · split <;> rfl

@[simp]
theorem lifetime_get : (c.get k).2.lifetime = c.lifetime := by
  simp only [get]
  split
  · rfl
  · split <;> rfl

@[simp]
theorem now_insert : (c.insert k v).now = c.now := by
  simp only [insert]
  split
  · rfl
  · split <;> rfl

@[simp]
theorem lifetime_insert : (c.insert k v).lifetime = c.lifetime := by
  simp only [insert]
  split
  · rfl
  · split <;> rfl

variable [LawfulBEq κ]

theorem not_holds_empty {capacity lifetime : Nat} :
    ¬(empty capacity lifetime : Cache κ ν).Holds k v := by
  simp [Holds, empty]

theorem HoldsSince.of_get (h : (c.get k).2.HoldsSince k' v since) : c.HoldsSince k' v since := by
  simp only [get] at h
  split at h
  case h_1 => exact h
  case h_2 s hs =>
    split at h
    · exact h
    · simp only [HoldsSince, remove, miss, Std.HashMap.getElem?_erase] at h
      split at h
      · simp at h
      · exact h

theorem Holds.of_get (h : (c.get k).2.Holds k' v) : c.Holds k' v :=
  h.imp fun _ h => HoldsSince.of_get h

theorem getElem?_of_dropOldest {capacity : Nat} {order : List κ} {s : Stored ν}
    {entries : Std.HashMap κ (Stored ν)}
    (h : (dropOldest capacity entries order).1[k]? = some s) : entries[k]? = some s := by
  induction order generalizing entries with
  | nil => exact h
  | cons oldest order ih =>
    simp only [dropOldest] at h
    split at h
    · have h' := ih h
      rw [Std.HashMap.getElem?_erase] at h'
      split at h'
      · simp at h'
      · exact h'
    · exact h

theorem HoldsSince.of_insert (h : (c.insert k v).HoldsSince k' v' since) :
    (k' = k ∧ v' = v ∧ since = c.now) ∨ c.HoldsSince k' v' since := by
  have step : (c.entries.insert k ⟨v, c.now⟩)[k']? = some ⟨v', since⟩ →
      (k' = k ∧ v' = v ∧ since = c.now) ∨ c.HoldsSince k' v' since := by
    rw [Std.HashMap.getElem?_insert]
    split
    case isTrue hk => intro he; cases he; exact .inl ⟨(eq_of_beq hk).symm, rfl, rfl⟩
    case isFalse => exact .inr
  simp only [HoldsSince, insert] at h
  split at h
  · exact .inr h
  · split at h
    · exact step h
    · exact step (getElem?_of_dropOldest h)

theorem Holds.of_insert (h : (c.insert k v).Holds k' v') : (k' = k ∧ v' = v) ∨ c.Holds k' v' := by
  obtain ⟨since, h⟩ := h
  obtain ⟨hk, hv, -⟩ | h := HoldsSince.of_insert h
  · exact .inl ⟨hk, hv⟩
  · exact .inr ⟨since, h⟩

theorem not_holds_clear : ¬c.clear.Holds k v := by
  simp [Holds, clear]

end Cache

namespace SwitchedCache

variable {κ ν : Type} [BEq κ] [Hashable κ]

def Holds (s : SwitchedCache κ ν) (key : κ) (value : ν) : Prop :=
  ∃ c, s.cache = some c ∧ c.Holds key value

variable {s : SwitchedCache κ ν} {k k' : κ} {v v' : ν}

theorem not_holds_of_off (h : s.cache = none) : ¬s.Holds k v := by
  simp [Holds, h]

theorem holds_of_get (h : (s.get k).1 = some v) : s.Holds k v := by
  simp only [get] at h
  split at h
  case h_1 => simp at h
  case h_2 c hc => exact ⟨c, hc, Cache.holds_of_get h⟩

theorem Holds.of_wait {duration : Nat} (h : (s.wait duration).Holds k v) : s.Holds k v := by
  obtain ⟨c, hc, h⟩ := h
  obtain ⟨c, hs, rfl⟩ := Option.map_eq_some_iff.1 hc
  exact ⟨c, hs, h⟩

theorem Holds.wait {duration : Nat} (h : s.Holds k v) : (s.wait duration).Holds k v := by
  obtain ⟨c, hc, h⟩ := h
  exact ⟨c.wait duration, by simp [SwitchedCache.wait, map, hc], h⟩

theorem get_of_off (h : s.cache = none) : s.get k = (none, s) := by
  simp [get, h]

theorem map_of_off {f : Cache κ ν → Cache κ ν} (h : s.cache = none) : s.map f = s := by
  rcases s with ⟨capacity, cache⟩
  simp only at h
  simp [map, h]

variable [LawfulBEq κ]

theorem not_holds_ofConfig {config : CacheConfig} :
    ¬(ofConfig config : SwitchedCache κ ν).Holds k v := by
  rintro ⟨c, hc, h⟩
  simp only [ofConfig] at hc
  split at hc <;> simp at hc
  exact Cache.not_holds_empty (hc ▸ h)

theorem Holds.of_get (h : (s.get k).2.Holds k' v) : s.Holds k' v := by
  simp only [get] at h
  split at h
  case h_1 => exact h
  case h_2 c hc =>
    obtain ⟨c', hc', h⟩ := h
    cases hc'
    exact ⟨c, hc, h.of_get⟩

theorem Holds.of_insert (h : (s.insert k v).Holds k' v') : (k' = k ∧ v' = v) ∨ s.Holds k' v' := by
  obtain ⟨c, hc, h⟩ := h
  obtain ⟨c, hs, rfl⟩ := Option.map_eq_some_iff.1 hc
  exact h.of_insert.imp_right fun h => ⟨c, hs, h⟩

theorem not_holds_clear : ¬s.clear.Holds k v := by
  rintro ⟨c, hc, h⟩
  obtain ⟨c, -, rfl⟩ := Option.map_eq_some_iff.1 hc
  exact Cache.not_holds_clear h

end SwitchedCache

end Rulebook
