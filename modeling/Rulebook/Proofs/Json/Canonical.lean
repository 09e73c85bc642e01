import Mathlib.Data.List.Nodup
import Mathlib.Data.String.Basic
import Rulebook.Json.Basic
import Rulebook.Proofs.Number.Zeros

/-!
Equality of JSON, to which the order of fields does not matter, and canonical JSON, which has the
fields of every object in the order of their names and whole numbers in the place of zeros. What is
canonical is equal to nothing else that is.
-/

namespace Rulebook.Json

mutual

def equalSorted : Json → Json → Bool
  | null, null => true
  | bool a, bool b => a == b
  | integer m, integer n => m == n
  | real x, real y => Number.equal x y
  | string s, string t => s == t
  | array as, array bs => equalItems as bs
  | object as, object bs => equalFields as bs
  | _, _ => false

def equalItems : List Json → List Json → Bool
  | [], [] => true
  | a :: as, b :: bs => equalSorted a b && equalItems as bs
  | _, _ => false

def equalFields : Fields → Fields → Bool
  | [], [] => true
  | (k, a) :: as, (l, b) :: bs => k == l && equalSorted a b && equalFields as bs
  | _, _ => false

end

-- A whole number is never equal to one that was written with a fraction or an exponent.
def equal (a b : Json) : Bool := equalSorted a.sorted b.sorted

def Fields.Ascend (fields : Fields) : Prop := fields.Pairwise fun f g => f.1 < g.1

inductive Canonical : Json → Prop
  | null : Canonical .null
  | bool (b : Bool) : Canonical (.bool b)
  | integer (n : Int) : Canonical (.integer n)
  | real {x : Float} (finite : Number.isFinite x = true) (nonzero : Number.equal x 0 = false) :
      Canonical (.real x)
  | string (s : String) : Canonical (.string s)
  | array {items : List Json} (h : ∀ item ∈ items, Canonical item) : Canonical (.array items)
  | object {fields : Fields} (ascend : fields.Ascend) (h : ∀ f ∈ fields, Canonical f.2) :
      Canonical (.object fields)

variable {fields done : Fields} {items : List Json} {key : String} {value a b : Json}

namespace Fields

theorem mem_of_mem_insertSorted {f : String × Json} (h : f ∈ fields.insertSorted key value) :
    f = (key, value) ∨ f ∈ fields := by
  induction fields with
  | nil => exact .inl (List.mem_singleton.1 h)
  | cons g fields ih =>
    simp only [insertSorted] at h
    split at h
    case h_1 => exact List.mem_cons.1 h
    case h_2 => exact (List.mem_cons.1 h).imp_right (.tail _)
    case h_3 =>
      obtain rfl | h := List.mem_cons.1 h
      · exact .inr (.head _)
      · exact (ih h).imp_right (.tail _)

theorem insertSorted_perm (h : ∀ f ∈ fields, f.1 ≠ key) :
    (fields.insertSorted key value).Perm ((key, value) :: fields) := by
  induction fields with
  | nil => rfl
  | cons g fields ih =>
    rw [List.forall_mem_cons] at h
    simp only [insertSorted]
    split
    case h_1 => rfl
    case h_2 heq => exact absurd (compare_eq_iff_eq.1 heq).symm h.1
    case h_3 => exact ((ih h.2).cons g).trans (.swap ..)

theorem Ascend.insertSorted (h : fields.Ascend) : (fields.insertSorted key value).Ascend := by
  induction fields with
  | nil => exact List.pairwise_singleton ..
  | cons g fields ih =>
    obtain ⟨hg, h⟩ := List.pairwise_cons.1 h
    simp only [Fields.insertSorted]
    split
    case h_1 hlt =>
      have hlt := compare_lt_iff_lt.1 hlt
      refine .cons (List.forall_mem_cons.2 ⟨hlt, fun f hf => ?_⟩) (.cons hg h)
      exact String.lt_trans hlt (hg f hf)
    case h_2 heq =>
      obtain rfl := compare_eq_iff_eq.1 heq
      exact .cons hg h
    case h_3 hgt =>
      refine .cons (fun f hf => ?_) (ih h)
      obtain rfl | hf := mem_of_mem_insertSorted hf
      · exact compare_gt_iff_gt.1 hgt
      · exact hg f hf

theorem insertSorted_of_last (h : ∀ f ∈ fields, f.1 < key) :
    fields.insertSorted key value = fields ++ [(key, value)] := by
  induction fields with
  | nil => rfl
  | cons g fields ih =>
    rw [List.forall_mem_cons] at h
    simp only [insertSorted, compare_gt_iff_gt.2 h.1, ih h.2, List.cons_append]

theorem Ascend.nodup_keys (h : fields.Ascend) : (fields.map (·.1)).Nodup :=
  List.pairwise_map.2 (h.imp ne_of_lt)

theorem Ascend.nodup (h : fields.Ascend) : fields.Nodup :=
  List.Nodup.of_map _ h.nodup_keys

theorem Ascend.eq_of_mem_iff {as bs : Fields} (ha : as.Ascend) (hb : bs.Ascend)
    (h : ∀ f, f ∈ as ↔ f ∈ bs) : as = bs := by
  have hperm : as.Perm bs :=
    (List.perm_ext_iff_of_nodup ha.nodup hb.nodup).2 h
  exact hperm.eq_of_pairwise (fun _ _ _ _ h₁ h₂ => absurd h₂ (String.lt_asymm h₁)) ha hb

end Fields

theorem sortedItems_eq_self (h : ∀ item ∈ items, item.sorted = item) :
    sortedItems items = items := by
  induction items with
  | nil => rfl
  | cons item items ih =>
    rw [List.forall_mem_cons] at h
    rw [sortedItems, h.1, ih h.2]

theorem sortedFields_eq_append (hascend : Fields.Ascend (done ++ fields))
    (h : ∀ f ∈ fields, f.2.sorted = f.2) : sortedFields fields done = done ++ fields := by
  induction fields generalizing done with
  | nil => rw [sortedFields, List.append_nil]
  | cons f fields ih =>
    obtain ⟨k, json⟩ := f
    rw [List.forall_mem_cons] at h
    have hlast : ∀ g ∈ done, g.1 < k := fun g hg =>
      (List.pairwise_append.1 hascend).2.2 g hg _ (.head _)
    rw [List.append_cons] at hascend ⊢
    rw [sortedFields, h.1, Fields.insertSorted_of_last hlast, ih hascend h.2]

theorem equalItems_iff {as bs : List Json}
    (h : ∀ a ∈ as, ∀ b ∈ bs, equalSorted a b = true ↔ a = b) :
    equalItems as bs = true ↔ as = bs := by
  induction as generalizing bs with
  | nil => cases bs <;> simp [equalItems]
  | cons a as ih =>
    cases bs with
    | nil => simp [equalItems]
    | cons b bs =>
      rw [List.forall_mem_cons] at h
      have hrest := ih fun a ha b hb => h.2 a ha b (.tail _ hb)
      rw [equalItems, Bool.and_eq_true, h.1 b (.head _), hrest, List.cons.injEq]

theorem equalFields_iff {as bs : Fields}
    (h : ∀ f ∈ as, ∀ g ∈ bs, equalSorted f.2 g.2 = true ↔ f.2 = g.2) :
    equalFields as bs = true ↔ as = bs := by
  induction as generalizing bs with
  | nil => cases bs <;> simp [equalFields]
  | cons f as ih =>
    cases bs with
    | nil => simp [equalFields]
    | cons g bs =>
      rw [List.forall_mem_cons] at h
      have hrest := ih fun f hf g hg => h.2 f hf g (.tail _ hg)
      rw [equalFields, Bool.and_eq_true, Bool.and_eq_true, beq_iff_eq, h.1 g (.head _), hrest,
        List.cons.injEq, Prod.ext_iff]

namespace Canonical

theorem sorted_eq (h : Canonical a) : a.sorted = a := by
  induction h with
  | array h ih => rw [sorted, sortedItems_eq_self ih]
  | @object fields ascend h ih =>
    have hfields : sortedFields fields [] = [] ++ fields := sortedFields_eq_append ascend ih
    rw [sorted, hfields, List.nil_append]
  | _ => rw [sorted] <;> nofun

theorem equalSorted_iff (ha : Canonical a) (hb : Canonical b) :
    equalSorted a b = true ↔ a = b := by
  induction ha generalizing b with
  | @real x finite nonzero =>
    cases hb with
    | @real y =>
      rw [equalSorted, real.injEq]
      constructor
      · intro h
        exact (Number.Alike.of_equal h).resolve_right fun h => by simp [nonzero] at h
      · rintro rfl
        exact (Number.equal_self_iff x).2 (Number.isUndefined_of_isFinite finite)
    | _ => simp [equalSorted]
  | array h ih =>
    cases hb with
    | array h' =>
      rw [equalSorted, equalItems_iff fun a ha b hb => ih a ha (h' b hb), array.injEq]
    | _ => simp [equalSorted]
  | object ascend h ih =>
    cases hb with
    | object ascend' h' =>
      rw [equalSorted, equalFields_iff fun f hf g hg => ih f hf (h' g hg), object.injEq]
    | _ => simp [equalSorted]
  | _ => cases hb <;> simp [equalSorted]

theorem equal_iff (ha : Canonical a) (hb : Canonical b) : equal a b = true ↔ a = b := by
  rw [equal, ha.sorted_eq, hb.sorted_eq, equalSorted_iff ha hb]

end Canonical

end Rulebook.Json
