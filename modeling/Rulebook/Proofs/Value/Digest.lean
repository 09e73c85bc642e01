import Mathlib.Data.List.Nodup
import Rulebook.Proofs.Value.Equality
import Rulebook.Value.Digest

/-!
Values without repeated names have one digest exactly if they are equal, but for the undefined
number, which is not equal to itself. A digest tells where it ends.
-/

namespace Rulebook

namespace Value

attribute [local simp] equal digest

section

variable {x y : Float}

theorem numberDigest_eq_of_equal (h : Number.equal x y = true) :
    numberDigest x = numberDigest y := by
  cases hx : Number.equal x 0
  case true =>
    have hy : Number.equal y 0 = true :=
      Number.equal_trans (Number.equal_comm x y ▸ h) hx
    simp [numberDigest, hx, hy]
  case false =>
    have hy : Number.equal y 0 = false := by
      refine Bool.eq_false_iff.2 fun hy => ?_
      simp [Number.equal_trans h hy] at hx
    simp [numberDigest, hx, hy, Number.bits_eq_of_equal h hx]

theorem equal_of_numberDigest_eq (h : numberDigest x = numberDigest y)
    (hx : Number.equal x x = true) : Number.equal x y = true := by
  simp only [numberDigest, Digest.bits.injEq] at h
  cases hx₀ : Number.equal x 0 <;> cases hy₀ : Number.equal y 0
  case true.true => exact Number.equal_trans hx₀ (Number.equal_comm 0 y ▸ hy₀)
  case true.false =>
    simp only [hx₀, hy₀, ↓reduceIte] at h
    simp [Number.equal_zero_of_bits h.symm] at hy₀
  case false.true =>
    simp only [hx₀, hy₀, ↓reduceIte] at h
    simp [Number.equal_zero_of_bits h] at hx₀
  case false.false =>
    simp only [hx₀, hy₀] at h
    obtain ⟨i, hi, -⟩ := Number.equal_iff.1 hx
    exact Number.equal_iff.2 ⟨i, hi, Number.key?_eq_of_bits h ▸ hi⟩

end

variable {entries as bs : List (String × Value)} {k : String} {d : List Digest}

theorem insertDigest_perm {es : EntryDigests} : (insertDigest k d es).Perm ((k, d) :: es) := by
  induction es with
  | nil => rfl
  | cons e es ih =>
    simp only [insertDigest]
    split
    · rfl
    · exact (ih.cons e).trans (.swap ..)

theorem entryDigests_perm :
    (entryDigests entries).Perm (entries.map fun e => (e.1, digest e.2)) := by
  induction entries with
  | nil => rfl
  | cons e entries ih => exact insertDigest_perm.trans (ih.cons _)

def KeysAscend (es : EntryDigests) : Prop := es.Pairwise fun a b => a.1 < b.1

theorem keysAscend_insertDigest {es : EntryDigests} (h : KeysAscend es)
    (hk : ∀ e ∈ es, e.1 ≠ k) : KeysAscend (insertDigest k d es) := by
  induction es with
  | nil => exact List.pairwise_singleton ..
  | cons e es ih =>
    obtain ⟨hle, h⟩ := List.pairwise_cons.1 h
    rw [List.forall_mem_cons] at hk
    simp only [insertDigest]
    split
    case isTrue hlt =>
      refine .cons (List.forall_mem_cons.2 ⟨hlt, fun x hx => ?_⟩) (.cons hle h)
      exact String.lt_trans hlt (hle x hx)
    case isFalse hnlt =>
      have hlt : e.1 < k :=
        Decidable.byContradiction fun h =>
          hk.1 (String.le_antisymm (String.not_lt.1 hnlt) (String.not_lt.1 h))
      refine .cons (fun x hx => ?_) (ih h hk.2)
      obtain rfl | hx := List.mem_cons.1 (insertDigest_perm.mem_iff.1 hx)
      · exact hlt
      · exact hle x hx

theorem keysAscend_entryDigests (h : (Context.keys entries).Nodup) :
    KeysAscend (entryDigests entries) := by
  induction entries with
  | nil => exact .nil
  | cons e entries ih =>
    obtain ⟨hn, h⟩ := List.nodup_cons.1 h
    refine keysAscend_insertDigest (ih h) fun d hd hk => hn ?_
    obtain ⟨e', he', rfl⟩ := List.mem_map.1 (entryDigests_perm.mem_iff.1 hd)
    exact List.mem_map.2 ⟨e', he', hk⟩

theorem entryDigests_eq_of_equal (h : equal (.context as) (.context bs) = true)
    (ha : (Context.keys as).Nodup) (hb : (Context.keys bs).Nodup)
    (hd : ∀ e ∈ as, ∀ v, (e.1, v) ∈ bs → equal e.2 v = true → digest e.2 = digest v) :
    entryDigests as = entryDigests bs := by
  obtain ⟨_, heq, hlen, h⟩ := equal_context_iff.1 h
  cases heq
  have hsub : as.map (fun e => (e.1, digest e.2)) ⊆ bs.map fun e => (e.1, digest e.2) := by
    intro d hd'
    obtain ⟨e, he, rfl⟩ := List.mem_map.1 hd'
    obtain ⟨v, hv, hev⟩ := h e he
    have hv := Context.mem_of_lookup hv
    exact List.mem_map.2 ⟨(e.1, v), hv, by simp [hd e he v hv hev]⟩
  have hnodup : (as.map fun e => (e.1, digest e.2)).Nodup :=
    List.Nodup.of_map Prod.fst (by simpa [Context.keys, Function.comp_def] using ha)
  have hperm := (List.subperm_of_subset hnodup hsub).perm_of_length_le (by simp [hlen])
  exact List.Perm.eq_of_pairwise (fun _ _ _ _ h₁ h₂ => absurd h₂ (String.lt_asymm h₁))
    (keysAscend_entryDigests ha) (keysAscend_entryDigests hb)
    ((entryDigests_perm.trans hperm).trans entryDigests_perm.symm)

variable {a b : Value} {xs ys : List Value}

theorem itemDigests_eq_of_equal (h : equal (.list xs) (.list ys) = true)
    (hd : ∀ x ∈ xs, ∀ y ∈ ys, equal x y = true → digest x = digest y) :
    xs.length = ys.length ∧ itemDigests xs = itemDigests ys := by
  induction xs generalizing ys with
  | nil => cases equal_nil_iff.1 h; exact ⟨rfl, rfl⟩
  | cons x xs ih =>
    obtain ⟨y, ys', heq, hxy, h'⟩ := equal_cons_iff.1 h
    cases heq
    obtain ⟨hlen, hds⟩ := ih h' fun x hx y hy => hd x (.tail _ hx) y (.tail _ hy)
    simp [itemDigests, hlen, hds, hd x (.head _) y (.head _) hxy]

theorem digest_eq_of_equal (ha : a.UniqueKeys) (hb : b.UniqueKeys) (h : equal a b = true) :
    digest a = digest b := by
  induction a using induction generalizing b with
  | number x =>
    obtain ⟨y, rfl, hxy⟩ := equal_number_iff.1 h
    simp only [digest, numberDigest_eq_of_equal hxy]
  | list xs ih =>
    cases b <;> try simp at h
    case list ys =>
      rw [uniqueKeys_list] at ha hb
      have h : equal (.list xs) (.list ys) = true := by simpa using h
      obtain ⟨hlen, hds⟩ := itemDigests_eq_of_equal h fun x hx y hy hxy =>
        ih x hx (ha x hx) (hb y hy) hxy
      simp only [digest, hlen, hds]
  | context as ih =>
    obtain ⟨bs, rfl, hlen, -⟩ := equal_context_iff.1 h
    rw [uniqueKeys_context] at ha hb
    simp only [digest, hlen]
    rw [entryDigests_eq_of_equal h ha.1 hb.1 fun e he v hv hev =>
      ih e he (ha.2 e he) (hb.2 _ hv) hev]
  | range s f i j ihs ihf =>
    obtain ⟨s', f', rfl, hs, hf⟩ := equal_range_iff.1 h
    simp only [digest, ihs ha.1 hb.1 hs, ihf ha.2 hb.2 hf]
  | _ => cases b <;> simp_all

theorem dateDigest_append_iff {d d' : Calendar.Date} {rest rest' : List Digest} :
    dateDigest d ++ rest = dateDigest d' ++ rest' ↔ d = d' ∧ rest = rest' := by
  cases d
  cases d'
  simp [dateDigest, and_assoc, Int.natCast_inj]

theorem timeDigest_append_iff {t t' : Calendar.Time} {rest rest' : List Digest} :
    timeDigest t ++ rest = timeDigest t' ++ rest' ↔ t = t' ∧ rest = rest' := by
  cases t
  cases t'
  simp [timeDigest, and_assoc, Int.natCast_inj]

-- With nothing but the digest of another value in front, what follows is the same as well.
def Decodes (a : Value) : Prop :=
  ∀ b rest rest', b.UniqueKeys → digest a ++ rest = digest b ++ rest' →
    rest = rest' ∧ (equal a a = true → equal a b = true)

theorem itemDigests_decode (ih : ∀ x ∈ xs, Decodes x) (hb : ∀ y ∈ ys, y.UniqueKeys)
    (hlen : xs.length = ys.length) {rest rest' : List Digest}
    (h : itemDigests xs ++ rest = itemDigests ys ++ rest') :
    rest = rest' ∧ (equal (.list xs) (.list xs) = true → equal (.list xs) (.list ys) = true) := by
  induction xs generalizing ys with
  | nil =>
    cases ys with
    | nil => exact ⟨h, id⟩
    | cons => simp at hlen
  | cons x xs ihs =>
    cases ys with
    | nil => simp at hlen
    | cons y ys =>
      rw [List.forall_mem_cons] at ih hb
      simp only [itemDigests, List.append_assoc] at h
      obtain ⟨h, hxy⟩ := ih.1 y _ _ hb.1 h
      obtain ⟨h, hs⟩ := ihs ih.2 hb.2 (Nat.succ.inj hlen) h
      refine ⟨h, fun heq => ?_⟩
      obtain ⟨_, _, hxs, hx, heq⟩ := equal_cons_iff.1 heq
      cases hxs
      exact equal_cons_iff.2 ⟨y, ys, rfl, hxy hx, hs heq⟩

def entryText (e : String × List Digest) : List Digest := .string e.1 :: e.2

theorem entryDigests_decode (ih : ∀ e ∈ as, Decodes e.2) (hb : ∀ e ∈ bs, e.2.UniqueKeys)
    {ds ds' : EntryDigests} (hlen : ds.length = ds'.length)
    (hds : ∀ d ∈ ds, ∃ e ∈ as, d = (e.1, digest e.2))
    (hds' : ∀ d ∈ ds', ∃ e ∈ bs, d = (e.1, digest e.2)) {rest rest' : List Digest}
    (h : ds.flatMap entryText ++ rest = ds'.flatMap entryText ++ rest') :
    rest = rest' ∧ ∀ e ∈ as, (e.1, digest e.2) ∈ ds →
      ∃ v, (e.1, v) ∈ bs ∧ (equal e.2 e.2 = true → equal e.2 v = true) := by
  induction ds generalizing ds' with
  | nil =>
    cases ds' with
    | nil => exact ⟨h, fun _ _ h => absurd h List.not_mem_nil⟩
    | cons => simp at hlen
  | cons d ds ihs =>
    cases ds' with
    | nil => simp at hlen
    | cons d' ds' =>
      rw [List.forall_mem_cons] at hds hds'
      obtain ⟨⟨e₀, he₀, rfl⟩, hds⟩ := hds
      obtain ⟨⟨e', he', rfl⟩, hds'⟩ := hds'
      simp only [List.flatMap_cons, entryText, List.cons_append, List.append_assoc,
        List.cons.injEq, Digest.string.injEq] at h
      obtain ⟨hk, h⟩ := h
      have h₀ := h
      obtain ⟨h, -⟩ := ih e₀ he₀ e'.2 _ _ (hb e' he') h
      obtain ⟨h, hs⟩ := ihs (Nat.succ.inj hlen) hds hds' h
      refine ⟨h, fun e he hd => ?_⟩
      obtain hd | hd := List.mem_cons.1 hd
      · obtain ⟨hke, hde⟩ := Prod.mk.inj hd
        rw [← hde] at h₀
        obtain ⟨-, heq⟩ := ih e he e'.2 _ _ (hb e' he') h₀
        exact ⟨e'.2, hke.trans hk ▸ he', heq⟩
      · exact hs e he hd

theorem decodes_context (ha : (Context.keys as).Nodup) (ih : ∀ e ∈ as, Decodes e.2) :
    Decodes (.context as) := by
  intro b rest rest' hb h
  cases b <;> simp at h
  case context bs =>
    rw [uniqueKeys_context] at hb
    obtain ⟨hlen, h⟩ := h
    have hmem {es : List (String × Value)} :
        ∀ d ∈ entryDigests es, ∃ e ∈ es, d = (e.1, digest e.2) := by
      intro d hd
      obtain ⟨e, he, rfl⟩ := List.mem_map.1 (entryDigests_perm.mem_iff.1 hd)
      exact ⟨e, he, rfl⟩
    have hlen' : (entryDigests as).length = (entryDigests bs).length := by
      simp [entryDigests_perm.length_eq, hlen]
    obtain ⟨h, hs⟩ := entryDigests_decode ih hb.2 hlen' hmem hmem h
    refine ⟨h, fun heq => equal_context_iff.2 ⟨bs, rfl, hlen, fun e he => ?_⟩⟩
    obtain ⟨v, hv, hev⟩ :=
      hs e he (entryDigests_perm.mem_iff.2 (List.mem_map.2 ⟨e, he, rfl⟩))
    obtain ⟨_, has, -, heq⟩ := equal_context_iff.1 heq
    cases has
    obtain ⟨w, hw, heq⟩ := heq e he
    rw [Context.lookup_of_mem ha he] at hw
    cases hw
    exact ⟨v, Context.lookup_of_mem hb.1 hv, hev heq⟩

theorem decodes (ha : a.UniqueKeys) : Decodes a := by
  induction a using induction with
  | list xs ih =>
    rw [uniqueKeys_list] at ha
    intro b rest rest' hb h
    cases b <;> simp at h
    case list ys =>
      exact itemDigests_decode (fun x hx => ih x hx (ha x hx)) (uniqueKeys_list.1 hb) h.1 h.2
  | context as ih =>
    rw [uniqueKeys_context] at ha
    exact decodes_context ha.1 fun e he => ih e he (ha.2 e he)
  | range s f i j ihs ihf =>
    intro b rest rest' hb h
    cases b <;> simp at h
    case range s' f' i' j' =>
      obtain ⟨h, hs⟩ := ihs ha.1 _ _ _ hb.1 h
      obtain ⟨h, hf⟩ := ihf ha.2 _ _ _ hb.2 h
      simp only [List.cons.injEq, Digest.boolean.injEq] at h
      obtain ⟨rfl, rfl, hrest⟩ := h
      refine ⟨hrest, fun heq => ?_⟩
      obtain ⟨_, _, hsf, hss, hff⟩ := equal_range_iff.1 heq
      cases hsf
      exact equal_range_iff.2 ⟨s', f', rfl, hs hss, hf hff⟩
  | number x =>
    intro b rest rest' hb h
    cases b <;> simp at h
    case number y => exact ⟨h.2, equal_of_numberDigest_eq h.1⟩
  | date d | time t =>
    intro b rest rest' hb h
    cases b <;> simp at h
    simp only [dateDigest_append_iff, timeDigest_append_iff] at h
    simp [h.1, h.2]
  | dateTime d =>
    intro b rest rest' hb h
    cases b <;> simp [dateDigest_append_iff, timeDigest_append_iff] at h
    case dateTime d' =>
      obtain rfl : d = d' := by cases d; cases d'; simp_all
      simp [h.2.2]
  | duration d =>
    intro b rest rest' hb h
    cases b <;> simp at h
    case duration d' =>
      obtain rfl : d = d' := by cases d; cases d'; simp_all
      simp [h.2.2]
  | null | boolean b | string s =>
    intro b rest rest' hb h
    cases b <;> simp at h
    simp [h]

theorem equal_of_digest_eq (ha : a.UniqueKeys) (hb : b.UniqueKeys) (hself : equal a a = true)
    (h : digest a = digest b) : equal a b = true :=
  (decodes ha b [] [] hb (congrArg (· ++ []) h)).2 hself

end Value

end Rulebook
