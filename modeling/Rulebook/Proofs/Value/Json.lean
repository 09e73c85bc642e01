import Rulebook.Proofs.Json.Canonical
import Rulebook.Proofs.Number.Whole
import Rulebook.Proofs.Value.Alike
import Rulebook.Value.Json

/-!
Values as JSON. What JSON can hold is written in canonical form and read back as an equal value, so
that two such values are equal exactly if their JSON is.
-/

namespace Rulebook.Value

inductive Portable : Value → Prop
  | null : Portable .null
  | boolean (b : Bool) : Portable (.boolean b)
  | number {x : Float} (finite : Number.isFinite x = true) : Portable (.number x)
  | string (s : String) : Portable (.string s)
  | list {items : List Value} (h : ∀ v ∈ items, Portable v) : Portable (.list items)
  | context {entries : Context} (unique : entries.keys.Nodup) (h : ∀ e ∈ entries, Portable e.2) :
      Portable (.context entries)

variable {v a b : Value} {x y : Float} {items : List Value} {entries as bs : Context}
  {done fields : Json.Fields} {json : Json}

theorem Portable.uniqueKeys (h : Portable v) : v.UniqueKeys := by
  induction h with
  | list h ih => exact uniqueKeys_list.2 ih
  | context unique h ih => exact uniqueKeys_context.2 ⟨unique, ih⟩
  | _ => trivial

theorem itemsToJson_eq_map : itemsToJson items = items.map toJson := by
  induction items with
  | nil => rfl
  | cons v items ih => rw [itemsToJson, ih, List.map_cons]

theorem ofSortedItems_eq_map {items : List Json} :
    ofSortedItems items = items.map ofSortedJson := by
  induction items with
  | nil => rfl
  | cons json items ih => rw [ofSortedItems, ih, List.map_cons]

theorem ofSortedFields_eq_map : ofSortedFields fields = fields.map fun f => (f.1, ofSortedJson f.2) := by
  induction fields with
  | nil => rfl
  | cons f fields ih => rw [ofSortedFields, ih, List.map_cons]

def fieldToJson (e : String × Value) : String × Json := (e.1, toJson e.2)

theorem ascend_entriesToJson (h : done.Ascend) : (entriesToJson entries done).Ascend := by
  induction entries generalizing done with
  | nil => exact h
  | cons e entries ih => exact ih h.insertSorted

theorem entriesToJson_perm_append (h : entries.keys.Nodup)
    (hdone : ∀ f ∈ done, f.1 ∉ entries.keys) :
    (entriesToJson entries done).Perm (done ++ entries.map fieldToJson) := by
  induction entries generalizing done with
  | nil => rw [entriesToJson, List.map_nil, List.append_nil]
  | cons e entries ih =>
    obtain ⟨k, v⟩ := e
    obtain ⟨hk, h⟩ := List.nodup_cons.1 h
    have hnew : ∀ f ∈ done, f.1 ≠ k := fun f hf hfk => hdone f hf (hfk ▸ .head _)
    have hperm : (done.insertSorted k (toJson v)).Perm ((k, toJson v) :: done) :=
      Json.Fields.insertSorted_perm hnew
    refine (ih h fun f hf => ?_).trans ((hperm.append_right _).trans List.perm_middle.symm)
    obtain rfl | hf := List.mem_cons.1 (hperm.mem_iff.1 hf)
    · exact hk
    · exact fun hmem => hdone f hf (.tail _ hmem)

theorem entriesToJson_perm (h : entries.keys.Nodup) :
    (entriesToJson entries []).Perm (entries.map fieldToJson) :=
  entriesToJson_perm_append h nofun

theorem mem_entriesToJson_iff (h : entries.keys.Nodup) {f : String × Json} :
    f ∈ entriesToJson entries [] ↔ (entries.get? f.1).map toJson = some f.2 := by
  rw [(entriesToJson_perm h).mem_iff, List.mem_map, Option.map_eq_some_iff]
  constructor
  · rintro ⟨e, he, rfl⟩
    exact ⟨e.2, Context.lookup_of_mem h he, rfl⟩
  · rintro ⟨v, hv, hf⟩
    exact ⟨(f.1, v), Context.mem_of_lookup hv, Prod.ext rfl hf⟩

theorem numberToJson_of_zero (h : Number.equal x 0 = true) : numberToJson x = .integer 0 := by
  have hx : Number.toInt? x = some 0 :=
    (Number.Alike.of_equal h).toInt?_eq.trans (by decide +kernel)
  simp [numberToJson, hx]

theorem numberToJson_eq_of_alike (h : Number.Alike .unsigned x y) :
    numberToJson x = numberToJson y := by
  obtain rfl | ⟨-, hx, hy⟩ := h
  · rfl
  · rw [numberToJson_of_zero hx, numberToJson_of_zero hy]

-- Zeros are whole numbers.
theorem canonical_numberToJson (hx : Number.isFinite x = true) : (numberToJson x).Canonical := by
  cases hzero : Number.equal x 0 with
  | true =>
    rw [numberToJson_of_zero hzero]
    exact .integer 0
  | false =>
    have hreal : (Json.real x).Canonical := .real hx hzero
    simp only [numberToJson]
    split
    · split
      · exact .integer _
      · exact hreal
    · rwa [if_pos hx]

theorem equal_ofSortedJson_numberToJson (hx : Number.isFinite x = true) :
    equal (ofSortedJson (numberToJson x)) (.number x) = true := by
  have hreal : equal (.number x) (.number x) = true :=
    (Number.equal_self_iff x).2 (Number.isUndefined_of_isFinite hx)
  simp only [numberToJson]
  split
  case h_1 n hn =>
    split
    · exact Number.equal_ofInt_of_toInt? hn
    · exact hreal
  case h_2 =>
    rw [if_pos hx]
    exact hreal

theorem canonical_toJson (h : Portable v) : v.toJson.Canonical := by
  induction h with
  | null => exact .null
  | boolean b => exact .bool b
  | number finite => exact canonical_numberToJson finite
  | string s => exact .string s
  | list h ih =>
    rw [toJson, itemsToJson_eq_map]
    exact .array (List.forall_mem_map.2 ih)
  | context unique h ih =>
    refine .object (ascend_entriesToJson .nil) fun f hf => ?_
    obtain ⟨e, he, rfl⟩ := List.mem_map.1 ((entriesToJson_perm unique).mem_iff.1 hf)
    exact ih e he

theorem equal_ofSortedJson_toJson (h : Portable v) : equal (ofSortedJson v.toJson) v = true := by
  induction h with
  | null | boolean | string => simp [toJson, ofSortedJson, equal]
  | number finite => exact equal_ofSortedJson_numberToJson finite
  | @list items h ih =>
    rw [toJson, ofSortedJson, itemsToJson_eq_map, ofSortedItems_eq_map, List.map_map]
    refine equal_list_iff.2 ⟨items, rfl, ?_⟩
    exact List.forall₂_map_left_iff.2 (List.forall₂_same.2 ih)
  | @context entries unique h ih =>
    have hperm := entriesToJson_perm unique
    rw [toJson, ofSortedJson, ofSortedFields_eq_map]
    refine equal_context_iff.2 ⟨entries, rfl, by simp [hperm.length_eq], ?_⟩
    refine List.forall_mem_map.2 fun f hf => ?_
    obtain ⟨e, he, rfl⟩ := List.mem_map.1 (hperm.mem_iff.1 hf)
    exact ⟨e.2, Context.lookup_of_mem unique he, ih e he⟩

theorem toJson_eq_of_alike (h : Alike .unsigned a b) : a.toJson = b.toJson := by
  induction a using induction generalizing b with
  | number x =>
    cases h with
    | number h => exact numberToJson_eq_of_alike h
  | list items ih =>
    cases h with
    | @list _ ys h =>
      have hitems : items.map toJson = ys.map toJson := by
        rw [← List.forall₂_eq_eq_eq, List.forall₂_map_left_iff, List.forall₂_map_right_iff]
        exact forall₂_imp h fun x hx y _ => ih x hx
      rw [toJson, toJson, itemsToJson_eq_map, itemsToJson_eq_map, hitems]
  | context as ih =>
    cases h with
    | @context _ bs ha hb h =>
      have hget (k : String) :
          (Context.get? as k).map toJson = (Context.get? bs k).map toJson := by
        have hk := rel_imp (S := fun v w => v.toJson = w.toJson) (h k) fun v hv w =>
          ih _ (Context.mem_of_lookup hv)
        generalize Context.get? as k = o at hk ⊢
        generalize Context.get? bs k = o' at hk ⊢
        cases hk with
        | none => rfl
        | some hvw => exact congrArg some hvw
      have hentries : entriesToJson as [] = entriesToJson bs [] :=
        (ascend_entriesToJson .nil).eq_of_mem_iff (ascend_entriesToJson .nil) fun f => by
          rw [mem_entriesToJson_iff ha, mem_entriesToJson_iff hb, hget]
      rw [toJson, toJson, hentries]
  | range s f i j hs hf =>
    cases h with
    | range hs' hf' => rw [toJson, toJson, hs hs', hf hf']
  | _ => cases h; rfl

theorem uniqueKeys_ofSortedJson (h : json.Canonical) : (ofSortedJson json).UniqueKeys := by
  induction h with
  | array h ih =>
    rw [ofSortedJson, ofSortedItems_eq_map, uniqueKeys_list]
    exact List.forall_mem_map.2 ih
  | object ascend h ih =>
    rw [ofSortedJson, ofSortedFields_eq_map, uniqueKeys_context]
    refine ⟨?_, List.forall_mem_map.2 ih⟩
    rw [Context.keys, List.map_map]
    exact ascend.nodup_keys
  | _ => trivial

theorem ofJson_toJson (h : Portable v) : ofJson v.toJson = ofSortedJson v.toJson := by
  rw [ofJson, (canonical_toJson h).sorted_eq]

theorem equal_ofJson_toJson_and_equal_iff (ha : Portable a) (hb : Portable b) :
    equal (ofJson a.toJson) a = true ∧
      (equal a b = true ↔ Json.equal a.toJson b.toJson = true) := by
  rw [(canonical_toJson ha).equal_iff (canonical_toJson hb), ofJson_toJson ha]
  refine ⟨equal_ofSortedJson_toJson ha, fun h => ?_, fun h => ?_⟩
  · exact toJson_eq_of_alike (.of_equal ha.uniqueKeys hb.uniqueKeys h)
  · have hunique := uniqueKeys_ofSortedJson (canonical_toJson ha)
    have hsymm := equal_symm hunique ha.uniqueKeys (equal_ofSortedJson_toJson ha)
    rw [h] at hsymm
    exact equal_trans hsymm (equal_ofSortedJson_toJson hb)

-- One zero for the other, and the fields come back in another order.
theorem equal_ofJson_toJson_and_equal_iff_zeros :
    let half : Value := .number (Number.ofRatio false 1 2)
    let a : Value := .context [("y", .list [.number (-0), half]), ("x", .null)]
    let b : Value := .context [("x", .null), ("y", .list [.number 0, half])]
    a.Portable ∧ b.Portable ∧ equal (ofJson a.toJson) a = true ∧ equal a b = true ∧
      Json.equal a.toJson b.toJson = true := by
  intro half a b
  have hlist {x : Float} (hx : Number.isFinite x = true) :
      Portable (.list [.number x, half]) := by
    refine .list (List.forall_mem_cons.2 ⟨.number hx, List.forall_mem_singleton.2 (.number ?_)⟩)
    decide +kernel
  have ha : a.Portable := by
    refine .context (by decide) (List.forall_mem_cons.2 ⟨hlist (by decide +kernel), ?_⟩)
    exact List.forall_mem_singleton.2 .null
  have hb : b.Portable := by
    refine .context (by decide) (List.forall_mem_cons.2 ⟨.null, ?_⟩)
    exact List.forall_mem_singleton.2 (hlist (by decide +kernel))
  have hequal : equal a b = true := by decide +kernel
  obtain ⟨hself, hiff⟩ := equal_ofJson_toJson_and_equal_iff ha hb
  exact ⟨ha, hb, hself, hequal, hiff.1 hequal⟩

end Rulebook.Value
