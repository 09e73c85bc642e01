import Rulebook.Proofs.Cache.Entries

/-!
A cache without an end to its lifetime keeps what it holds for as long as there is room.
-/

namespace Rulebook

namespace Cache

variable {κ ν : Type} [BEq κ] [Hashable κ]

-- Nothing grows old, and so many entries can be added.
structure HasRoom (c : Cache κ ν) (n : Nat) : Prop where
  lifetime : c.lifetime = 0
  size : c.entries.size + n ≤ c.capacity

variable {c : Cache κ ν} {k k' : κ} {v v' : ν} {n : Nat}

theorem hasRoom_empty : (empty n 0 : Cache κ ν).HasRoom n :=
  ⟨rfl, by simp [empty]⟩

theorem get_of_lifetime (h : c.lifetime = 0) :
    c.get k =
      ((c.entries[k]?).map (·.value), if (c.entries[k]?).isSome then c.hit else c.miss) := by
  simp only [get]
  split
  case h_1 h => simp [h]
  case h_2 h' => simp [h', isFresh, h]

theorem get_of_holds (h : c.lifetime = 0) (hv : c.Holds k v) : (c.get k).1 = some v := by
  obtain ⟨since, hv⟩ := hv
  simp [get_of_lifetime h, hv]

theorem Holds.get (h : c.Holds k' v) (hl : c.lifetime = 0) : (c.get k).2.Holds k' v := by
  rw [get_of_lifetime hl]
  simp only
  split
  · exact h
  · exact h

theorem HasRoom.get (h : c.HasRoom n) : (c.get k).2.HasRoom n := by
  rw [get_of_lifetime h.lifetime]
  simp only
  split
  · exact ⟨h.lifetime, h.size⟩
  · exact ⟨h.lifetime, h.size⟩

theorem HasRoom.mono {m : Nat} (h : c.HasRoom n) (hm : m ≤ n) : c.HasRoom m :=
  ⟨h.lifetime, Nat.le_trans (Nat.add_le_add_left hm _) h.size⟩

theorem HasRoom.wait {duration : Nat} (h : c.HasRoom n) : (c.wait duration).HasRoom n :=
  ⟨h.lifetime, h.size⟩

theorem HasRoom.clear (h : c.HasRoom n) : c.clear.HasRoom n := by
  refine ⟨h.lifetime, ?_⟩
  have := h.size
  simp only [Cache.clear, Std.HashMap.size_empty]
  omega

theorem dropOldest_of_size_le {capacity : Nat} {entries : Std.HashMap κ (Stored ν)} {order : List κ}
    (h : entries.size ≤ capacity) : dropOldest capacity entries order = (entries, order) := by
  cases order with
  | nil => rfl
  | cons k order => simp [dropOldest, Nat.not_lt.2 h]

theorem capacity_insert : (c.insert k v).capacity = c.capacity := by
  simp only [insert]
  split
  · rfl
  · split <;> rfl

variable [LawfulBEq κ]

theorem HasRoom.entries_insert (h : c.HasRoom (n + 1)) :
    (c.insert k v).entries = c.entries.insert k ⟨v, c.now⟩ := by
  have hsize := h.size
  have hle : (c.entries.insert k ⟨v, c.now⟩).size ≤ c.capacity :=
    Nat.le_trans Std.HashMap.size_insert_le (by omega)
  have hc : c.capacity ≠ 0 := by omega
  simp only [Cache.insert, hc, ↓reduceIte, dropOldest_of_size_le hle]
  split <;> rfl

theorem HasRoom.insert (h : c.HasRoom (n + 1)) : (c.insert k v).HasRoom n := by
  refine ⟨lifetime_insert.trans h.lifetime, ?_⟩
  have hsize := h.size
  have hle : (c.entries.insert k ⟨v, c.now⟩).size ≤ c.entries.size + 1 := Std.HashMap.size_insert_le
  rw [h.entries_insert, capacity_insert]
  omega

theorem HasRoom.holds_insert (h : c.HasRoom (n + 1)) : (c.insert k v).Holds k v :=
  ⟨c.now, by simp [h.entries_insert]⟩

theorem Holds.insert (h' : c.Holds k' v') (h : c.HasRoom (n + 1)) (hk : k' ≠ k) :
    (c.insert k v).Holds k' v' := by
  obtain ⟨since, h'⟩ := h'
  refine ⟨since, ?_⟩
  rw [h.entries_insert, Std.HashMap.getElem?_insert]
  simp [hk.symm, h']

end Cache

namespace SwitchedCache

variable {κ ν : Type} [BEq κ] [Hashable κ]

def HasRoom (s : SwitchedCache κ ν) (n : Nat) : Prop :=
  ∃ c, s.cache = some c ∧ c.HasRoom n

variable {s : SwitchedCache κ ν} {k k' : κ} {v v' : ν} {n : Nat}

theorem hasRoom_ofConfig : (ofConfig ⟨true, n, 0⟩ : SwitchedCache κ ν).HasRoom n :=
  ⟨_, rfl, Cache.hasRoom_empty⟩

namespace HasRoom

theorem get_of_holds (h : s.HasRoom n) (hv : s.Holds k v) : (s.get k).1 = some v := by
  obtain ⟨c, hc, h⟩ := h
  obtain ⟨c', hc', hv⟩ := hv
  cases hc.symm.trans hc'
  simp only [SwitchedCache.get, hc]
  exact Cache.get_of_holds h.lifetime hv

theorem holds_get (h : s.HasRoom n) (hv : s.Holds k' v) : (s.get k).2.Holds k' v := by
  obtain ⟨c, hc, h⟩ := h
  obtain ⟨c', hc', hv⟩ := hv
  cases hc.symm.trans hc'
  simp only [SwitchedCache.get, hc]
  exact ⟨_, rfl, hv.get h.lifetime⟩

theorem get (h : s.HasRoom n) : (s.get k).2.HasRoom n := by
  obtain ⟨c, hc, h⟩ := h
  simp only [SwitchedCache.get, hc]
  exact ⟨_, rfl, h.get⟩

theorem mono {m : Nat} (h : s.HasRoom n) (hm : m ≤ n) : s.HasRoom m := by
  obtain ⟨c, hc, h⟩ := h
  exact ⟨c, hc, h.mono hm⟩

theorem map {m : Nat} {f : Cache κ ν → Cache κ ν} (h : s.HasRoom n)
    (hf : ∀ c, c.HasRoom n → (f c).HasRoom m) : (s.map f).HasRoom m := by
  obtain ⟨c, hc, h⟩ := h
  exact ⟨f c, by simp [SwitchedCache.map, hc], hf c h⟩

variable [LawfulBEq κ]

theorem insert (h : s.HasRoom (n + 1)) : (s.insert k v).HasRoom n :=
  h.map fun _ h => h.insert

theorem holds_insert (h : s.HasRoom (n + 1)) : (s.insert k v).Holds k v := by
  obtain ⟨c, hc, h⟩ := h
  exact ⟨c.insert k v, by simp [SwitchedCache.insert, SwitchedCache.map, hc], h.holds_insert⟩

theorem holds_insert_of_ne (h : s.HasRoom (n + 1)) (hv : s.Holds k' v') (hk : k' ≠ k) :
    (s.insert k v).Holds k' v' := by
  obtain ⟨c, hc, h⟩ := h
  obtain ⟨c', hc', hv⟩ := hv
  cases hc.symm.trans hc'
  exact ⟨c.insert k v, by simp [SwitchedCache.insert, SwitchedCache.map, hc], hv.insert h hk⟩

end HasRoom

end SwitchedCache

end Rulebook
