import Rulebook.Proofs.Eval.Operators
import Rulebook.Proofs.Eval.Relevance

/-!
Evaluation where names are bound to values that are alike. An expression whose functions treat alike
values alike fails on both sides or has values that are alike, unless the signs of zeros do not
count and it has a power.
-/

namespace Rulebook

open Number (Zeros)
open Value (Alike)

variable {zeros : Zeros}

-- Arguments that are alike give results that are alike.
def Registry.Impartial (zeros : Zeros) (r : Registry) (name : String) : Prop :=
  ∀ as bs, List.Forall₂ (Alike zeros) as bs → Both (Alike zeros) (r.call name as) (r.call name bs)

def BinaryOp.isImpartial (zeros : Zeros) (op : BinaryOp) : Bool :=
  op != .power || zeros == .signed

theorem BinaryOp.isImpartial_iff {op : BinaryOp} :
    op.isImpartial zeros = true ↔ (op = .power → zeros = .signed) := by
  rw [isImpartial, Bool.or_eq_true, bne_iff_ne, beq_iff_eq, or_iff_not_imp_left, not_not]

namespace Expr

section

variable (zeros) (mayCall : String → Bool)

mutual

-- The expression calls these functions only, and has a power only where signs of zeros count.
def isImpartial : Expr → Bool
  | literal _ => true
  | reference _ => true
  | binary op l r => op.isImpartial zeros && isImpartial l && isImpartial r
  | unary _ e => isImpartial e
  | range l u _ _ => isImpartial l && isImpartial u
  | list items => impartialItems items
  | context entries => impartialEntries entries
  | call f arguments => mayCall f && impartialItems arguments
  | property base _ => isImpartial base
  | conditional c y n => isImpartial c && isImpartial y && isImpartial n
  | loop _ s b => isImpartial s && isImpartial b
  | quantified _ _ s p => isImpartial s && isImpartial p
  | between e l u => isImpartial e && isImpartial l && isImpartial u
  | instanceOf e _ => isImpartial e
  | filter b p => isImpartial b && isImpartial p

def impartialItems : List Expr → Bool
  | [] => true
  | e :: es => isImpartial e && impartialItems es

def impartialEntries : List (String × Expr) → Bool
  | [] => true
  | (_, e) :: es => isImpartial e && impartialEntries es

end

end

variable {mayCall : String → Bool}

theorem impartialItems_iff {items : List Expr} :
    impartialItems zeros mayCall items = true ↔
      ∀ e ∈ items, e.isImpartial zeros mayCall = true := by
  induction items with
  | nil => simp [impartialItems]
  | cons e items ih => simp [impartialItems, ih]

theorem impartialEntries_iff {entries : List (String × Expr)} :
    impartialEntries zeros mayCall entries = true ↔
      ∀ e ∈ entries, e.2.isImpartial zeros mayCall = true := by
  induction entries with
  | nil => simp [impartialEntries]
  | cons e entries ih =>
    rw [List.forall_mem_cons, ← ih]
    simp [impartialEntries]

end Expr

namespace Context

-- Names are bound in both or in none, and to values that are alike.
def BindAlike (zeros : Zeros) (c c' : Context) : Prop :=
  ∀ name, Option.Rel (Alike zeros) (c.get? name) (c'.get? name)

variable {c c' : Context} {v v' : Value} {key : String}

theorem BindAlike.insert (h : BindAlike zeros c c') (hv : Alike zeros v v') :
    BindAlike zeros (c.insert key v) (c'.insert key v') := by
  intro name
  by_cases hname : name = key
  · subst hname
    rw [get?_insert_self, get?_insert_self]
    exact .some hv
  · rw [get?_insert_of_ne hname, get?_insert_of_ne hname]
    exact h name

theorem BindAlike.cons (h : BindAlike zeros c c') (hv : Alike zeros v v') :
    BindAlike zeros ((key, v) :: c) ((key, v') :: c') := by
  intro name
  have h := h name
  simp only [get?, List.lookup_cons] at h ⊢
  split
  · exact .some hv
  · exact h

theorem get?_filter (p : String → Bool) (c : Context) (name : String) :
    get? (c.filter (p ·.1)) name = if p name then get? c name else none := by
  induction c with
  | nil => simp [get?]
  | cons e c ih =>
    obtain ⟨key, v⟩ := e
    simp only [get?] at ih ⊢
    rw [List.filter_cons, List.lookup_cons]
    by_cases hname : name = key
    · subst hname
      split
      case isTrue hp => simp
      case isFalse hp => simp [ih, hp]
    · rw [beq_eq_false_iff_ne.2 hname]
      split
      · rw [List.lookup_cons, beq_eq_false_iff_ne.2 hname]
        exact ih
      · exact ih

theorem BindAlike.filter (h : BindAlike zeros c c') (p : String → Bool) :
    BindAlike zeros (c.filter (p ·.1)) (c'.filter (p ·.1)) := by
  intro name
  rw [get?_filter, get?_filter]
  split
  · exact h name
  · exact .none

theorem bindAlike_empty : BindAlike zeros empty empty := fun _ => .none

theorem BindAlike.any_eq (h : BindAlike zeros c c') (p : String → Bool) :
    c.any (p ·.1) = c'.any (p ·.1) := by
  have hany (c : Context) : c.any (p ·.1) = true ↔ ∃ key ∈ c.keys, p key = true := by
    simp [Context.keys]
  rw [Bool.eq_iff_iff, hany, hany]
  simp only [mem_keys_iff, isSome_eq_of_rel (h _)]

end Context

theorem Value.Alike.bindAlike {c c' : Context} (h : Alike zeros (.context c) (.context c')) :
    c.BindAlike zeros c' := by
  cases h with
  | context _ _ h => exact h

theorem Value.alike_empty : Alike zeros (.context Context.empty) (.context Context.empty) :=
  .context .nil .nil Context.bindAlike_empty

theorem Value.Alike.insert {c c' : Context} {v v' : Value} {key : String}
    (h : Alike zeros (.context c) (.context c')) (hv : Alike zeros v v') :
    Alike zeros (.context (c.insert key v)) (.context (c'.insert key v')) := by
  cases h with
  | context ha hb h =>
    exact .context (Context.nodup_keys_insert ha) (Context.nodup_keys_insert hb)
      (Context.BindAlike.insert h hv)

theorem Value.alike_ofList {entries entries' : Context}
    (h : List.Forall₂ (fun e e' => e.1 = e'.1 ∧ Alike zeros e.2 e'.2) entries entries') :
    Alike zeros (.context (Context.ofList entries)) (.context (Context.ofList entries')) := by
  have hfold {c c' : Context} (hc : Alike zeros (.context c) (.context c')) :
      Alike zeros (.context (entries.foldl (fun c e => Context.insert e.1 e.2 c) c))
        (.context (entries'.foldl (fun c e => Context.insert e.1 e.2 c) c')) := by
    induction h generalizing c c' with
    | nil => exact hc
    | cons he _ ih =>
      rw [List.foldl_cons, List.foldl_cons, he.1]
      exact ih (hc.insert he.2)
  exact hfold alike_empty

namespace Scope

def BindAlike (zeros : Zeros) (s s' : Scope) : Prop :=
  ∀ name, Option.Rel (Alike zeros) (s.get? name) (s'.get? name)

variable {s s' : Scope} {frame frame' : Context} {v v' : Value}

theorem BindAlike.push (h : BindAlike zeros s s') (hframe : Context.BindAlike zeros frame frame') :
    BindAlike zeros (s.push frame) (s'.push frame') := by
  intro name
  rw [get?_push, get?_push]
  exact rel_or (hframe name) (h name)

theorem bindAlike_singleton (h : frame.BindAlike zeros frame') :
    BindAlike zeros [frame] [frame'] := by
  intro name
  rw [get?_singleton, get?_singleton]
  exact h name

theorem walk_alike (h : Alike zeros v v') (keys : List Char) :
    Alike zeros (walk v keys) (walk v' keys) := by
  simp only [walk]
  induction segments keys generalizing v v' with
  | nil => exact h
  | cons key keys ih => exact ih (h.property _)

theorem BindAlike.resolve (h : BindAlike zeros s s') (path : String) :
    Alike zeros (s.resolve path) (s'.resolve path) := by
  have hpath := h path
  simp only [Scope.resolve]
  generalize s.get? path = o at hpath ⊢
  generalize s'.get? path = o' at hpath ⊢
  cases hpath with
  | some h => exact h
  | none =>
    refine Alike.getD_null (rel_findSome? (fun cut => ?_) _)
    exact rel_map (h _) fun v v' hv => walk_alike hv cut.2

end Scope

section

variable {r : Registry} {mayCall : String → Bool} {f g : Value → Outcome Value}
  {items items' : List Value} {v v' : Value} {e : Expr} {s s' : Scope}

-- A loop body, or a test, that treats alike items alike.
theorem forEach_alike (hf : ∀ v v', Alike zeros v v' → Both (Alike zeros) (f v) (g v'))
    (h : List.Forall₂ (Alike zeros) items items') :
    Both (List.Forall₂ (Alike zeros)) (forEach f items) (forEach g items') := by
  induction h with
  | nil => exact .given .nil
  | cons hv _ ih => exact (hf _ _ hv).bind fun _ _ hw => ih.bind fun _ _ hs => .given (.cons hw hs)

theorem someHolds_alike (hf : ∀ v v', Alike zeros v v' → Both (Alike zeros) (f v) (g v'))
    (h : List.Forall₂ (Alike zeros) items items') :
    Both Eq (someHolds f items) (someHolds g items') := by
  induction h with
  | nil => exact .given rfl
  | cons hv _ ih =>
    refine (hf _ _ hv).bind fun _ _ hw => ?_
    rw [hw.isTrue_eq]
    exact .ite (.given rfl) ih

theorem everyHolds_alike (hf : ∀ v v', Alike zeros v v' → Both (Alike zeros) (f v) (g v'))
    (h : List.Forall₂ (Alike zeros) items items') :
    Both Eq (everyHolds f items) (everyHolds g items') := by
  induction h with
  | nil => exact .given rfl
  | cons hv _ ih =>
    refine (hf _ _ hv).bind fun _ _ hw => ?_
    rw [hw.isTrue_eq]
    exact .ite ih (.given rfl)

theorem selectWhere_alike (hf : ∀ v v', Alike zeros v v' → Both (Alike zeros) (f v) (g v'))
    (h : List.Forall₂ (Alike zeros) items items') :
    Both (List.Forall₂ (Alike zeros)) (selectWhere f items) (selectWhere g items') := by
  induction h with
  | nil => exact .given .nil
  | cons hv _ ih =>
    refine (hf _ _ hv).bind fun _ _ hw => ih.bind fun _ _ hs => .given ?_
    rw [hw.isTrue_eq]
    split
    · exact .cons hv hs
    · exact hs

theorem entriesOf_alike (h : Alike zeros v v') : (entriesOf v).BindAlike zeros (entriesOf v') := by
  cases h
  case context h => exact h
  all_goals exact Context.bindAlike_empty

theorem itemFrame_alike (h : Alike zeros v v') : (itemFrame v).BindAlike zeros (itemFrame v') :=
  ((entriesOf_alike h).filter (· != itemName)).cons h

theorem bindsItemNames_eq (h : List.Forall₂ (Alike zeros) items items') :
    bindsItemNames e items = bindsItemNames e items' := by
  simp only [bindsItemNames]
  rw [any_eq_of_forall₂ h fun v v' hv => (entriesOf_alike hv).any_eq e.mentions]

theorem filterItems_alike {outer outer' : Outcome Value} (houter : Both (Alike zeros) outer outer')
    (hf : ∀ v v', Alike zeros v v' → Both (Alike zeros) (f v) (g v'))
    (h : List.Forall₂ (Alike zeros) items items') :
    Both (Alike zeros) (filterItems e outer f items) (filterItems e outer' g items') := by
  have hselect : Both (Alike zeros) ((selectWhere f items).map .list)
      ((selectWhere g items').map .list) :=
    (selectWhere_alike hf h).map fun _ _ => .list
  cases houter with
  | failed =>
    simp only [filterItems, bindsItemNames_eq h]
    exact .ite hselect .failed
  | given hv =>
    cases hv
    case number hx => exact .given (.elementAt h hx)
    all_goals exact hselect

theorem decidesAlone_eq {op : BinaryOp} (h : Alike zeros v v') :
    decidesAlone op v = decidesAlone op v' := by
  cases op <;> cases h <;> rfl

theorem evalItems_alike {items : List Expr}
    (h : ∀ e ∈ items, Both (Alike zeros) (eval r s e) (eval r s' e)) :
    Both (List.Forall₂ (Alike zeros)) (evalItems r s items) (evalItems r s' items) := by
  induction items with
  | nil => exact .given .nil
  | cons e items ih =>
    rw [List.forall_mem_cons] at h
    exact h.1.bind fun _ _ hv => (ih h.2).bind fun _ _ hs => .given (.cons hv hs)

theorem evalEntries_alike {entries : List (String × Expr)} {done done' : Context}
    (h : ∀ e ∈ entries, ∀ frame frame' : Context, frame.BindAlike zeros frame' →
      Both (Alike zeros) (eval r (s.push frame) e.2) (eval r (s'.push frame') e.2))
    (hdone : Alike zeros (.context done) (.context done')) :
    Both (fun c c' => Alike zeros (.context c) (.context c')) (evalEntries r s done entries)
      (evalEntries r s' done' entries) := by
  induction entries generalizing done done' with
  | nil => exact .given hdone
  | cons e entries ih =>
    rw [List.forall_mem_cons] at h
    exact (h.1 _ _ hdone.bindAlike).bind fun _ _ hv => ih h.2 (hdone.insert hv)

theorem bindAlike_singleton {name : String} (hv : Alike zeros v v') :
    Context.BindAlike zeros [(name, v)] [(name, v')] :=
  Context.bindAlike_empty.cons hv

-- Alike scopes stay alike in front of the frames that loops, filters and contexts open, for these
-- bind what was evaluated to alike values.
theorem eval_alike (hr : ∀ name, mayCall name = true → r.Impartial zeros name)
    (he : e.isImpartial zeros mayCall = true) (hs : s.BindAlike zeros s') :
    Both (Alike zeros) (eval r s e) (eval r s' e) := by
  induction e using Expr.induction generalizing s s' with
  | literal l =>
    refine .given (.refl ?_)
    cases l <;> trivial
  | reference path => exact .given (hs.resolve path)
  | binary op l u hl hu =>
    simp only [Expr.isImpartial, Bool.and_eq_true, BinaryOp.isImpartial_iff] at he
    obtain ⟨⟨hop, hel⟩, heu⟩ := he
    refine (hl hel hs).bind fun v v' hv => ?_
    rw [decidesAlone_eq hv]
    exact .ite (.given hv) ((hu heu hs).bind fun _ _ hw => hv.binary hop hw)
  | unary op e he' => exact (he' he hs).bind fun _ _ hv => hv.unary op
  | range l u i j hl hu =>
    rw [Expr.isImpartial, Bool.and_eq_true] at he
    exact (hl he.1 hs).bind fun _ _ hv => (hu he.2 hs).bind fun _ _ hw => .given (.range hv hw i j)
  | list items hitems =>
    rw [Expr.isImpartial, Expr.impartialItems_iff] at he
    have h := evalItems_alike fun e hmem => hitems e hmem (he e hmem) hs
    exact h.map fun _ _ => .list
  | context entries hentries =>
    rw [Expr.isImpartial, Expr.impartialEntries_iff] at he
    have h := evalEntries_alike (fun e hmem frame frame' hframe =>
      hentries e hmem (he e hmem) (hs.push hframe)) Value.alike_empty
    exact h.map fun _ _ hc => hc
  | call f arguments harguments =>
    rw [Expr.isImpartial, Bool.and_eq_true, Expr.impartialItems_iff] at he
    have h := evalItems_alike fun e hmem => harguments e hmem (he.2 e hmem) hs
    exact h.bind fun as bs => hr f he.1 as bs
  | property b key hb => exact (hb he hs).bind fun _ _ hv => .given (hv.property key)
  | conditional c y n hc hy hn =>
    simp only [Expr.isImpartial, Bool.and_eq_true] at he
    refine (hc he.1.1 hs).bind fun v v' hv => ?_
    rw [hv.isTrue_eq]
    exact .ite (hy he.1.2 hs) (hn he.2 hs)
  | loop name source b hsource hb =>
    rw [Expr.isImpartial, Bool.and_eq_true] at he
    refine (hsource he.1 hs).bind fun _ _ hv => hv.iterationItems.bind fun _ _ hitems => ?_
    cases hitems with
    | none => exact .given .null
    | some h =>
      exact (forEach_alike (fun _ _ hw => hb he.2 (hs.push (bindAlike_singleton hw))) h).map
        fun _ _ => .list
  | quantified q name source p hsource hp =>
    rw [Expr.isImpartial, Bool.and_eq_true] at he
    refine (hsource he.1 hs).bind fun _ _ hv => hv.iterationItems.bind fun _ _ hitems => ?_
    cases hitems with
    | none => exact .given .null
    | some h =>
      have hp (v v' : Value) (hw : Alike zeros v v') :
          Both (Alike zeros) (eval r (s.push [(name, v)]) p) (eval r (s'.push [(name, v')]) p) :=
        hp he.2 (hs.push (bindAlike_singleton hw))
      cases q with
      | some => exact (someHolds_alike hp h).map fun _ _ heq => heq ▸ .boolean _
      | every => exact (everyHolds_alike hp h).map fun _ _ heq => heq ▸ .boolean _
  | between e l u he' hl hu =>
    simp only [Expr.isImpartial, Bool.and_eq_true] at he
    refine (he' he.1.1 hs).bind fun _ _ hv => (hl he.1.2 hs).bind fun _ _ hw =>
      (hu he.2 hs).bind fun _ _ hz => ?_
    rw [hv.between_eq hw hz]
    exact .given (.refl Alike.uniqueKeys_conjunction)
  | instanceOf e type he' => exact (he' he hs).bind fun _ _ hv => hv.instanceOf type
  | filter b p hb hp =>
    rw [Expr.isImpartial, Bool.and_eq_true] at he
    refine (hb he.1 hs).bind fun _ _ hv => hv.iterationItems.bind fun _ _ hitems => ?_
    cases hitems with
    | none => exact .given .null
    | some h =>
      exact filterItems_alike (hp he.2 hs) (fun _ _ hw => hp he.2 (hs.push (itemFrame_alike hw))) h

end

end Rulebook
