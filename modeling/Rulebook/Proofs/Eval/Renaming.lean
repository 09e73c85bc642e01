import Rulebook.Proofs.Eval.BoundNames

/-!
The evaluation of an expression with other names for its variables. A path that is bound as a whole
is never looked for under its first name, and a filter sees the entries of the items under their own
names. Where neither happens to the old or the new name, the evaluation is the same.
-/

namespace Rulebook

open Rulebook.Expr (NoPathOf Standing Renames RenamesItems RenamesEntries)
open Value (EachContext eachContext_context eachContext_empty)

-- Which names the entries of a context may have.
def Admits (old new : String) (inTests : Bool) (key : String) : Prop :=
  NoPathOf old key ∧ NoPathOf new key ∧ (inTests = true → key ≠ old ∧ key ≠ new)

variable {old new name path : String} {inTests : Bool} {standing : Standing} {v : Value}
  {frame : Context} {s s' t t' : Scope}

namespace Context

variable {c : Context}

-- A context that may be an item, so that the test of a filter sees its entries.
def Admissible (old new : String) (inTests : Bool) (c : Context) : Prop :=
  ∀ key ∈ c.keys, Admits old new inTests key

-- A context that may be a frame. It may bind the two names themselves.
def Clear (old new : String) (inTests : Bool) (c : Context) : Prop :=
  (∀ key ∈ c.keys, NoPathOf old key ∧ NoPathOf new key) ∧
    ∀ e ∈ c, EachContext (Admissible old new inTests) e.2

theorem admissible_empty : Admissible old new inTests .empty :=
  List.forall_mem_nil _

theorem Admissible.insert {key : String} (h : c.Admissible old new inTests)
    (hkey : Admits old new inTests key) : (c.insert key v).Admissible old new inTests :=
  forall_mem_keys_insert h hkey

theorem clear_of_eachContext (h : EachContext (Admissible old new inTests) (.context c)) :
    c.Clear old new inTests := by
  rw [eachContext_context] at h
  exact ⟨fun key hkey => ⟨(h.1 key hkey).1, (h.1 key hkey).2.1⟩, h.2⟩

theorem clear_singleton (hold : '.' ∉ old.toList) (hnew : '.' ∉ new.toList)
    (hname : '.' ∉ name.toList) (hv : EachContext (Admissible old new inTests) v) :
    Clear old new inTests [(name, v)] :=
  ⟨List.forall_mem_singleton.2
    ⟨Expr.noPathOf_of_no_dot hold hname, Expr.noPathOf_of_no_dot hnew hname⟩,
    List.forall_mem_singleton.2 hv⟩

end Context

namespace Scope

def Clear (old new : String) (inTests : Bool) (s : Scope) : Prop :=
  ∀ frame ∈ s, frame.Clear old new inTests

theorem Clear.push (h : s.Clear old new inTests) (hframe : frame.Clear old new inTests) :
    (s.push frame).Clear old new inTests :=
  List.forall_mem_cons.2 ⟨hframe, h⟩

theorem Clear.resolve (hs : s.Clear old new inTests) (hname : name = old ∨ name = new)
    (hdot : '.' ∉ name.toList) (hroot : Expr.root path = name) :
    s.resolve path = (segments path.toList).tail.foldl
      (fun v key => v.property (String.ofList key)) ((s.get? name).getD .null) := by
  rw [resolve_of_root, hroot]
  intro front hfront hmention
  have hstarts : Expr.pathMentions name front = true :=
    (Expr.pathMentions_iff hdot).2 ((Expr.root_eq_of_pathMentions hmention).trans hroot)
  refine List.findSome?_eq_none_iff.2 fun frame hframe => ?_
  rw [← Option.not_isSome_iff_eq_none, ← Context.mem_keys_iff]
  intro hmem
  have hkey := (hs frame hframe).1 front hmem
  have heq : front = name := by
    obtain rfl | rfl := hname
    · exact hkey.1 hstarts
    · exact hkey.2 hstarts
  exact hdot (heq ▸ hfront)

-- One more name is bound, hiding what was bound under it.
structure Binds (name : String) (v : Value) (s t : Scope) : Prop where
  self : t.get? name = some v
  others : ∀ key, key ≠ name → t.get? key = s.get? key

theorem binds_push (s : Scope) (name : String) (v : Value) :
    Binds name v s (s.push [(name, v)]) where
  self := by rw [get?_push]; simp [Context.get?]
  others key hkey := by
    rw [get?_push]
    simp [Context.get?, List.lookup_cons, beq_eq_false_iff_ne.2 hkey]

theorem binds_insert (s : Scope) (done : Context) (name : String) (v : Value) :
    Binds name v (s.push done) (s.push (done.insert name v)) where
  self := by rw [get?_push, Context.get?_insert_self, Option.some_or]
  others key hkey := by rw [get?_push, get?_push, Context.get?_insert_of_ne hkey]

-- What an expression and the renamed one see.
structure Renamed (old new : String) (inTests : Bool) (standing : Standing) (s s' : Scope) :
    Prop where
  left : s.Clear old new inTests
  right : s'.Clear old new inTests
  others : ∀ key, key ≠ old → key ≠ new → s'.get? key = s.get? key
  unchanged : standing = .unchanged → s'.get? old = s.get? old
  renamed : standing = .renamed → s'.get? new = s.get? old

namespace Renamed

theorem refl (h : s.Clear old new inTests) : Renamed old new inTests .unchanged s s :=
  ⟨h, h, fun _ _ _ => rfl, fun _ => rfl, nofun⟩

theorem inTest (h : Renamed old new inTests standing s s') :
    Renamed old new inTests standing.inTest s s' := by
  cases standing with
  | unchanged => exact h
  | renamed | unclear => exact { h with unchanged := nofun, renamed := nofun }

-- A frame that may bind either name leaves open what they stand for.
theorem push (h : Renamed old new inTests standing s s') (hframe : frame.Clear old new inTests)
    (hopen : standing = .renamed → frame.get? old = none ∧ frame.get? new = none) :
    Renamed old new inTests standing (s.push frame) (s'.push frame) where
  left := h.left.push hframe
  right := h.right.push hframe
  others key hold hnew := by rw [get?_push, get?_push, h.others key hold hnew]
  unchanged hstanding := by rw [get?_push, get?_push, h.unchanged hstanding]
  renamed hstanding := by
    rw [get?_push, get?_push, (hopen hstanding).1, (hopen hstanding).2, h.renamed hstanding]

theorem bind (h : Renamed old new inTests standing s s') (hname : name ≠ new)
    (ht : Binds name v s t) (ht' : Binds name v s' t') (hclear : t.Clear old new inTests)
    (hclear' : t'.Clear old new inTests) :
    Renamed old new inTests (standing.behind old name) t t' where
  left := hclear
  right := hclear'
  others key hold hnew := by
    by_cases hkey : key = name
    · rw [hkey, ht.self, ht'.self]
    · rw [ht.others key hkey, ht'.others key hkey, h.others key hold hnew]
  unchanged hstanding := by
    by_cases hold : old = name
    · rw [hold, ht.self, ht'.self]
    · rw [Standing.behind, if_neg (Ne.symm hold)] at hstanding
      rw [ht.others old hold, ht'.others old hold, h.unchanged hstanding]
  renamed hstanding := by
    rw [Standing.behind] at hstanding
    split at hstanding
    case isTrue => cases hstanding
    case isFalse hold =>
      rw [ht.others old (Ne.symm hold), ht'.others new hname.symm, h.renamed hstanding]

theorem bindVariable (h : Renamed old new inTests standing s s') (ht : Binds old v s t)
    (ht' : Binds new v s' t') (hclear : t.Clear old new inTests)
    (hclear' : t'.Clear old new inTests) : Renamed old new inTests .renamed t t' where
  left := hclear
  right := hclear'
  others key hold hnew := by rw [ht.others key hold, ht'.others key hnew, h.others key hold hnew]
  unchanged := nofun
  renamed _ := by rw [ht.self, ht'.self]

section

variable (hold : '.' ∉ old.toList) (hnew : '.' ∉ new.toList)
include hold hnew

theorem pushBound (h : Renamed old new inTests standing s s') (hname : name ≠ new)
    (hdot : '.' ∉ name.toList) (hv : Value.EachContext (Context.Admissible old new inTests) v) :
    Renamed old new inTests (standing.behind old name) (s.push [(name, v)])
      (s'.push [(name, v)]) :=
  have hframe := Context.clear_singleton hold hnew hdot hv
  h.bind hname (binds_push ..) (binds_push ..) (h.left.push hframe) (h.right.push hframe)

theorem pushVariable (h : Renamed old new inTests standing s s')
    (hv : Value.EachContext (Context.Admissible old new inTests) v) :
    Renamed old new inTests .renamed (s.push [(old, v)]) (s'.push [(new, v)]) :=
  h.bindVariable (binds_push ..) (binds_push ..)
    (h.left.push (Context.clear_singleton hold hnew hold hv))
    (h.right.push (Context.clear_singleton hold hnew hnew hv))

end

theorem pushItem (h : Renamed old new inTests standing s s')
    (hitem : Admits old new inTests itemName)
    (hv : Value.EachContext (Context.Admissible old new inTests) v) :
    Renamed old new inTests standing.inTest (s.push (itemFrame v)) (s'.push (itemFrame v)) := by
  refine h.inTest.push (Context.clear_of_eachContext (eachContext_itemFrame hitem hv)) ?_
  cases standing <;> exact nofun

theorem pushItem_of_inTests (h : Renamed old new inTests standing s s') (hinTests : inTests = true)
    (hitem : Admits old new inTests itemName)
    (hv : Value.EachContext (Context.Admissible old new inTests) v) :
    Renamed old new inTests standing (s.push (itemFrame v)) (s'.push (itemFrame v)) := by
  have hframe := eachContext_itemFrame hitem hv
  have hkeys := (eachContext_context.1 hframe).1
  refine h.push (Context.clear_of_eachContext hframe) fun _ => ⟨?_, ?_⟩ <;>
    rw [← Option.not_isSome_iff_eq_none, ← Context.mem_keys_iff]
  · exact fun hmem => ((hkeys old hmem).2.2 hinTests).1 rfl
  · exact fun hmem => ((hkeys new hmem).2.2 hinTests).2 rfl

theorem resolve_reference (h : Renamed old new inTests standing s s')
    (hnew : Expr.pathMentions new path = false)
    (hold : standing = .unchanged ∨ Expr.pathMentions old path = false) :
    s'.resolve path = s.resolve path := by
  refine resolve_eq fun key hkey => ?_
  by_cases hnew' : key = new
  · rw [hnew', hnew] at hkey
    cases hkey
  by_cases hold' : key = old
  · subst hold'
    refine h.unchanged (hold.resolve_right ?_)
    rw [hkey]
    exact nofun
  · exact h.others key hold' hnew'

section

variable (h : Renamed old new inTests .renamed s s') (hold : '.' ∉ old.toList)
  (hnew : '.' ∉ new.toList)
include h hold hnew

theorem resolve_named : s'.resolve new = s.resolve old := by
  rw [h.right.resolve (.inr rfl) hnew (Expr.root_of_no_dot hnew),
    h.left.resolve (.inl rfl) hold (Expr.root_of_no_dot hold), h.renamed rfl,
    segments_eq_singleton hnew, segments_eq_singleton hold]
  rfl

theorem resolve_rooted (rest : String) :
    s'.resolve (new ++ "." ++ rest) = s.resolve (old ++ "." ++ rest) := by
  rw [h.right.resolve (.inr rfl) hnew (Expr.root_path hnew rest),
    h.left.resolve (.inl rfl) hold (Expr.root_path hold rest), h.renamed rfl,
    Expr.segments_path hnew, Expr.segments_path hold]
  rfl

end

end Renamed

end Scope

variable {r : Registry} {e e' test test' : Expr} {items : List Value}

-- An error outside of any item is also the answer for an item, unless the test speaks of it.
theorem filterItems_of_item (hitems : items ≠ [])
    (hposition : askedPosition? (eval r s test) = none) :
    filterItems test (eval r s test) (fun w => eval r (s.push (itemFrame w)) test) items =
      (selectWhere (fun w => eval r (s.push (itemFrame w)) test) items).map .list := by
  cases houter : eval r s test with
  | ok v => exact filterItems_of_ok (houter ▸ hposition)
  | error error =>
    rw [filterItems]
    split
    case isTrue => rfl
    case isFalse hbinds =>
      obtain ⟨w, others, rfl⟩ := List.exists_cons_of_ne_nil hitems
      rw [bindsItemNames, Bool.or_eq_true, List.any_cons, Bool.or_eq_true, List.any_eq_true,
        not_or, not_or] at hbinds
      have hhidden (key : String) (hkey : test.mentions key = true) :
          (itemFrame w).get? key = none := by
        rw [← Option.not_isSome_iff_eq_none, ← Context.mem_keys_iff]
        intro hmem
        obtain rfl | hmem := List.mem_cons.1 hmem
        · exact hbinds.1 hkey
        · obtain ⟨entry, hentry, rfl⟩ := List.mem_map.1 hmem
          exact hbinds.2.1 ⟨entry, List.mem_of_mem_filter hentry, hkey⟩
      have hagree : Scope.Agree test.paths (s.push (itemFrame w)) s :=
        Scope.agree_paths_iff.2 fun key hkey => by
          rw [Scope.get?_push, hhidden key hkey, Option.none_or]
      rw [selectWhere, eval_eq_of_agree hagree, houter]
      rfl

theorem filterItems_renamed (houter : eval r s' test' = eval r s test)
    (hitems : ∀ w ∈ items, eval r (s'.push (itemFrame w)) test' =
      eval r (s.push (itemFrame w)) test)
    (hmention : test'.mentions itemName = test.mentions itemName) :
    filterItems test' (eval r s' test') (fun w => eval r (s'.push (itemFrame w)) test') items =
      filterItems test (eval r s test) (fun w => eval r (s.push (itemFrame w)) test) items := by
  by_cases hnil : items = []
  case pos =>
    subst hnil
    rw [filterItems.eq_def, filterItems.eq_def, houter, bindsItemNames, bindsItemNames, hmention]
    rfl
  case neg =>
    cases hposition : askedPosition? (eval r s test) with
    | some x =>
      rw [filterItems_of_askedPosition? (houter ▸ hposition),
        filterItems_of_askedPosition? hposition]
    | none =>
      rw [filterItems_of_item hnil (houter ▸ hposition), filterItems_of_item hnil hposition,
        selectWhere_congr hitems]

theorem evalItems_renamed {items items' : List Expr}
    (h : RenamesItems old new inTests standing items items')
    (hitems : ∀ e ∈ items, ∀ {e'}, Renames old new inTests standing e e' →
      eval r s' e' = eval r s e) : evalItems r s' items' = evalItems r s items := by
  induction items generalizing items' with
  | nil =>
    cases h
    rfl
  | cons e items ih =>
    cases h with
    | cons he hes =>
      rw [List.forall_mem_cons] at hitems
      simp only [evalItems, hitems.1 he, ih hes hitems.2]

section

variable (hr : ∀ f ∈ r.functions, f.Preserves (Context.Admissible old new inTests))
include hr

theorem eval_admissible (hkeys : ∀ key ∈ e.entryNames, Admits old new inTests key)
    (hs : s.Clear old new inTests) :
    Ensures (EachContext (Context.Admissible old new inTests)) (eval r s e) :=
  eval_eachContext hr Context.admissible_empty (fun key hkey _ _ hc => hc.insert (hkeys key hkey))
    fun frame hframe => (hs frame hframe).2

theorem evalEntries_renamed {entries entries' : List (String × Expr)} {done : Context}
    (h : RenamesEntries old new inTests standing entries entries')
    (hkeys : ∀ e ∈ entries, Admits old new inTests e.1 ∧
      ∀ key ∈ e.2.entryNames, Admits old new inTests key)
    (hentries : ∀ e ∈ entries, ∀ {standing e' s s'}, Renames old new inTests standing e.2 e' →
      Scope.Renamed old new inTests standing s s' → eval r s' e' = eval r s e.2)
    (hs : Scope.Renamed old new inTests standing (s.push done) (s'.push done))
    (hdone : EachContext (Context.Admissible old new inTests) (.context done)) :
    evalEntries r s' done entries' = evalEntries r s done entries := by
  induction entries generalizing entries' standing done with
  | nil =>
    cases h
    rfl
  | cons e entries ih =>
    cases h with
    | cons hkey he hes =>
      rw [List.forall_mem_cons] at hkeys hentries
      simp only [evalEntries, hentries.1 he hs]
      refine (eval_admissible hr hkeys.1.2 hs.left).bind_congr fun v hv => ?_
      have hinsert := eachContext_insert (fun hc => hc.insert hkeys.1.1) hdone hv
      have hclear := Context.clear_of_eachContext hinsert
      refine ih hes hkeys.2 hentries.2 (hs.bind hkey (Scope.binds_insert ..)
        (Scope.binds_insert ..) ?_ ?_) hinsert
      · exact Scope.Clear.push (List.forall_mem_cons.1 hs.left).2 hclear
      · exact Scope.Clear.push (List.forall_mem_cons.1 hs.right).2 hclear

-- What is bound on the way was evaluated, so that the frames are the same but for the name.
theorem eval_renamed (hold : '.' ∉ old.toList) (hnew : '.' ∉ new.toList)
    (hitem : Admits old new inTests itemName)
    (hkeys : ∀ key ∈ e.entryNames, Admits old new inTests key)
    (h : Renames old new inTests standing e e')
    (hs : Scope.Renamed old new inTests standing s s') : eval r s' e' = eval r s e := by
  have hadmissible {e : Expr} {standing : Standing} {s s' : Scope}
      (hkeys : ∀ key ∈ e.entryNames, Admits old new inTests key)
      (hs : Scope.Renamed old new inTests standing s s') := eval_admissible hr hkeys hs.left
  induction e using Expr.induction generalizing standing e' s s' with
  | literal l =>
    cases h
    rfl
  | reference path =>
    cases h with
    | reference hnew' hold' => exact congrArg Except.ok (hs.resolve_reference hnew' hold')
    | named => exact congrArg Except.ok (hs.resolve_named hold hnew)
    | rooted rest => exact congrArg Except.ok (hs.resolve_rooted hold hnew rest)
  | binary op l u hl hu =>
    rw [Expr.entryNames, List.forall_mem_append] at hkeys
    cases h with
    | binary hl' hu' => simp only [eval, hl hkeys.1 hl' hs, hu hkeys.2 hu' hs]
  | unary op e he =>
    cases h with
    | unary he' => simp only [eval, he hkeys he' hs]
  | range l u i j hl hu =>
    rw [Expr.entryNames, List.forall_mem_append] at hkeys
    cases h with
    | range hl' hu' => simp only [eval, hl hkeys.1 hl' hs, hu hkeys.2 hu' hs]
  | list items hitems =>
    rw [Expr.entryNames, Expr.forall_mem_itemEntryNames] at hkeys
    cases h with
    | list h =>
      simp only [eval, evalItems_renamed h fun e he _ he' => hitems e he (hkeys e he) he' hs]
  | context entries hentries =>
    rw [Expr.entryNames, Expr.forall_mem_nestedEntryNames] at hkeys
    cases h with
    | context h =>
      have hempty : EachContext (Context.Admissible old new inTests) (.context Context.empty) :=
        eachContext_empty Context.admissible_empty
      have hstart := hs.push (Context.clear_of_eachContext hempty) fun _ => ⟨rfl, rfl⟩
      simp only [eval, evalEntries_renamed hr h hkeys
        (fun e he _ _ _ _ he' hs => hentries e he (hkeys e he).2 he' hs) hstart hempty]
  | call f arguments harguments =>
    rw [Expr.entryNames, Expr.forall_mem_itemEntryNames] at hkeys
    cases h with
    | call h =>
      simp only [eval, evalItems_renamed h fun e he _ he' => harguments e he (hkeys e he) he' hs]
  | property b key hb =>
    cases h with
    | property hb' => simp only [eval, hb hkeys hb' hs]
  | conditional c y n hc hy hn =>
    simp only [Expr.entryNames, List.forall_mem_append] at hkeys
    cases h with
    | conditional hc' hy' hn' =>
      simp only [eval, hc hkeys.1.1 hc' hs, hy hkeys.1.2 hy' hs, hn hkeys.2 hn' hs]
  | loop name source body hsource hbody =>
    rw [Expr.entryNames, List.forall_mem_append] at hkeys
    cases h with
    | loop hname hdot hsource' hbody' =>
      exact eval_loop_congr (hsource hkeys.1 hsource' hs) (hadmissible hkeys.1 hs) fun v hv =>
        hbody hkeys.2 hbody' (hs.pushBound hold hnew hname hdot hv)
    | loopVariable hsource' hbody' =>
      exact eval_loop_congr (hsource hkeys.1 hsource' hs) (hadmissible hkeys.1 hs) fun v hv =>
        hbody hkeys.2 hbody' (hs.pushVariable hold hnew hv)
  | quantified q name source test hsource htest =>
    rw [Expr.entryNames, List.forall_mem_append] at hkeys
    cases h with
    | quantified hname hdot hsource' htest' =>
      exact eval_quantified_congr (hsource hkeys.1 hsource' hs) (hadmissible hkeys.1 hs)
        fun v hv => htest hkeys.2 htest' (hs.pushBound hold hnew hname hdot hv)
    | quantifiedVariable hsource' htest' =>
      exact eval_quantified_congr (hsource hkeys.1 hsource' hs) (hadmissible hkeys.1 hs)
        fun v hv => htest hkeys.2 htest' (hs.pushVariable hold hnew hv)
  | between e l u he hl hu =>
    simp only [Expr.entryNames, List.forall_mem_append] at hkeys
    cases h with
    | between he' hl' hu' =>
      simp only [eval, he hkeys.1.1 he' hs, hl hkeys.1.2 hl' hs, hu hkeys.2 hu' hs]
  | instanceOf e type he =>
    cases h with
    | instanceOf he' => simp only [eval, he hkeys he' hs]
  | filter b test hb htest =>
    rw [Expr.entryNames, List.forall_mem_append] at hkeys
    cases h with
    | filter hb' htest' hmention =>
      refine eval_filter_congr (hb hkeys.1 hb' hs) (hadmissible hkeys.1 hs) fun items hitems => ?_
      exact filterItems_renamed (htest hkeys.2 htest' hs.inTest)
        (fun v hv => htest hkeys.2 htest' (hs.pushItem hitem (hitems v hv))) hmention
    | filterVariable hinTests hb' htest' hmention =>
      refine eval_filter_congr (hb hkeys.1 hb' hs) (hadmissible hkeys.1 hs) fun items hitems => ?_
      exact filterItems_renamed (htest hkeys.2 htest' hs)
        (fun v hv => htest hkeys.2 htest' (hs.pushItem_of_inTests hinTests hitem (hitems v hv)))
        hmention

end

end Rulebook
