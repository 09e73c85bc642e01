import Rulebook.Proofs.Cache.Entries

/-!
When the values that a cache holds were stored. Only waiting moves the clock, and a value that is
given out is younger than the lifetime of the cache, if that has an end.
-/

namespace Rulebook

namespace SwitchedCache

variable {κ ν : Type} [BEq κ] [Hashable κ]

def HoldsSince (s : SwitchedCache κ ν) (key : κ) (value : ν) (since : Nat) : Prop :=
  ∃ c, s.cache = some c ∧ c.HoldsSince key value since

-- What the clock shows and how long values last, where the cache is on.
def Shows (s : SwitchedCache κ ν) (now lifetime : Nat) : Prop :=
  ∀ c, s.cache = some c → c.now = now ∧ c.lifetime = lifetime

variable {s : SwitchedCache κ ν} {k k' : κ} {v v' : ν} {since now lifetime duration : Nat}

theorem HoldsSince.holds (h : s.HoldsSince k v since) : s.Holds k v := by
  obtain ⟨c, hc, h⟩ := h
  exact ⟨c, hc, since, h⟩

theorem Holds.exists_since (h : s.Holds k v) : ∃ since, s.HoldsSince k v since := by
  obtain ⟨c, hc, since, h⟩ := h
  exact ⟨since, c, hc, h⟩

theorem exists_shows (s : SwitchedCache κ ν) : ∃ now lifetime, s.Shows now lifetime := by
  cases h : s.cache with
  | none => exact ⟨0, 0, fun c hc => by simp [h] at hc⟩
  | some c => exact ⟨c.now, c.lifetime, fun c' hc => by simp_all⟩

theorem holdsSince_of_get (hs : s.Shows now lifetime) (h : (s.get k).1 = some v) :
    ∃ since, s.HoldsSince k v since ∧ (lifetime = 0 ∨ now - since < lifetime) := by
  simp only [get] at h
  split at h
  case h_1 => simp at h
  case h_2 c hc =>
    obtain ⟨rfl, rfl⟩ := hs c hc
    obtain ⟨since, h, hfresh⟩ := Cache.holdsSince_of_get h
    exact ⟨since, ⟨c, hc, h⟩, hfresh⟩

theorem shows_ofConfig {config : CacheConfig} :
    (ofConfig config : SwitchedCache κ ν).Shows 0 config.lifetime := by
  intro c hc
  simp only [ofConfig] at hc
  split at hc
  · cases hc
    exact ⟨rfl, rfl⟩
  · cases hc

namespace Shows

theorem get (h : s.Shows now lifetime) : (s.get k).2.Shows now lifetime := by
  intro c hc
  simp only [SwitchedCache.get] at hc
  split at hc
  case h_1 hoff => exact h c hc
  case h_2 c' hc' =>
    cases hc
    rw [Cache.now_get, Cache.lifetime_get]
    exact h c' hc'

theorem map {m : Nat} {f : Cache κ ν → Cache κ ν} (h : s.Shows now lifetime)
    (hf : ∀ c, c.now = now → (f c).now = m ∧ (f c).lifetime = c.lifetime) :
    (s.map f).Shows m lifetime := by
  intro c hc
  obtain ⟨c, hs, rfl⟩ := Option.map_eq_some_iff.1 hc
  obtain ⟨hnow, hlifetime⟩ := h c hs
  obtain ⟨hnow', hlifetime'⟩ := hf c hnow
  exact ⟨hnow', hlifetime'.trans hlifetime⟩

theorem insert (h : s.Shows now lifetime) : (s.insert k v).Shows now lifetime :=
  h.map fun _ hnow => ⟨Cache.now_insert.trans hnow, Cache.lifetime_insert⟩

theorem clear (h : s.Shows now lifetime) : s.clear.Shows now lifetime :=
  h.map fun _ hnow => ⟨hnow, rfl⟩

theorem wait (h : s.Shows now lifetime) : (s.wait duration).Shows (now + duration) lifetime :=
  h.map fun _ hnow => ⟨congrArg (· + duration) hnow, rfl⟩

end Shows

theorem HoldsSince.of_wait (h : (s.wait duration).HoldsSince k v since) :
    s.HoldsSince k v since := by
  obtain ⟨c, hc, h⟩ := h
  obtain ⟨c, hs, rfl⟩ := Option.map_eq_some_iff.1 hc
  exact ⟨c, hs, h⟩

variable [LawfulBEq κ]

theorem HoldsSince.of_get (h : (s.get k).2.HoldsSince k' v since) : s.HoldsSince k' v since := by
  simp only [get] at h
  split at h
  case h_1 => exact h
  case h_2 c hc =>
    obtain ⟨c', hc', h⟩ := h
    cases hc'
    exact ⟨c, hc, h.of_get⟩

theorem HoldsSince.of_insert (hs : s.Shows now lifetime)
    (h : (s.insert k v).HoldsSince k' v' since) :
    (k' = k ∧ v' = v ∧ since = now) ∨ s.HoldsSince k' v' since := by
  obtain ⟨c, hc, h⟩ := h
  obtain ⟨c, hon, rfl⟩ := Option.map_eq_some_iff.1 hc
  obtain ⟨hk, hv, hsince⟩ | h := h.of_insert
  · exact .inl ⟨hk, hv, hsince.trans (hs c hon).1⟩
  · exact .inr ⟨c, hon, h⟩

end SwitchedCache

end Rulebook
