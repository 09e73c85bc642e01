import Rulebook.Proofs.Eval.Contexts
import Rulebook.Proofs.Eval.Relevance
import Rulebook.Proofs.Syntax.Canonical

/-!
What the canonical forms stand for. Where no name has a point in it, a dotted path is what its first
name is bound to and from there one member after another, and a negative number is a negation.
-/

namespace Rulebook

open Syntax (isName_no_dot)
open Value (EachContext eachContext_context eachContext_empty eachContext_list
  eachContext_of_isPlain)

theorem Scope.not_mem_of_mem_segments {cs segment : List Char} (h : segment ∈ segments cs) :
    '.' ∉ segment := by
  induction cs generalizing segment with
  | nil =>
    cases List.mem_singleton.1 h
    exact List.not_mem_nil
  | cons c cs ih =>
    obtain ⟨first, others, hsegments⟩ := exists_segments_eq cs
    by_cases hc : c = '.'
    · subst hc
      obtain rfl | h := List.mem_cons.1 h
      · exact List.not_mem_nil
      · exact ih h
    · rw [segments_cons hc hsegments] at h
      rw [hsegments] at ih
      obtain rfl | h := List.mem_cons.1 h
      · exact List.not_mem_cons_of_ne_of_not_mem (Ne.symm hc) (ih List.mem_cons_self)
      · exact ih (List.mem_cons_of_mem _ h)

namespace Expr

-- The first name of a path.
def root (path : String) : String :=
  String.ofList ((Scope.segments path.toList).headD [])

def members (base : Expr) (keys : List (List Char)) : Expr :=
  keys.foldl (fun e key => .property e (String.ofList key)) base

def ofPath (path : String) : Expr :=
  members (.reference (root path)) (Scope.segments path.toList).tail

def ofNumber (x : Float) : Expr :=
  if Number.isNegative x then .unary .negate (.literal (.number x.abs)) else .literal (.number x)

mutual

-- With neither dotted paths nor numbers below zero.
def expand : Expr → Expr
  | literal (.number x) => ofNumber x
  | literal l => literal l
  | reference path => ofPath path
  | binary op l r => binary op (expand l) (expand r)
  | unary op e => unary op (expand e)
  | range l u i j => range (expand l) (expand u) i j
  | list items => list (expandItems items)
  | context entries => context (expandEntries entries)
  | call function arguments => call function (expandItems arguments)
  | property base key => property (expand base) key
  | conditional c y n => conditional (expand c) (expand y) (expand n)
  | loop name s b => loop name (expand s) (expand b)
  | quantified q name s p => quantified q name (expand s) (expand p)
  | between e l u => between (expand e) (expand l) (expand u)
  | instanceOf e type => instanceOf (expand e) type
  | filter b p => filter (expand b) (expand p)

def expandItems : List Expr → List Expr
  | [] => []
  | e :: es => expand e :: expandItems es

def expandEntries : List (String × Expr) → List (String × Expr)
  | [] => []
  | (key, e) :: es => (key, expand e) :: expandEntries es

end

variable {e : Expr} {name path : String}

theorem segments_root (path : String) :
    Scope.segments path.toList = (root path).toList :: (Scope.segments path.toList).tail := by
  obtain ⟨first, others, h⟩ := Scope.exists_segments_eq path.toList
  simp [root, h]

theorem paths_members {base : Expr} (keys : List (List Char)) :
    (members base keys).paths = base.paths := by
  rw [members]
  induction keys generalizing base with
  | nil => rfl
  | cons key keys ih => exact ih

theorem paths_expandItems {items : List Expr}
    (h : ∀ e ∈ items, e.expand.paths = e.paths.map root) :
    itemPaths (expandItems items) = (itemPaths items).map root := by
  induction items with
  | nil => rfl
  | cons e items ih =>
    rw [List.forall_mem_cons] at h
    rw [expandItems, itemPaths, itemPaths, h.1, ih h.2, List.map_append]

theorem paths_expandEntries {entries : List (String × Expr)}
    (h : ∀ e ∈ entries, e.2.expand.paths = e.2.paths.map root) :
    entryPaths (expandEntries entries) = (entryPaths entries).map root := by
  induction entries with
  | nil => rfl
  | cons e entries ih =>
    rw [List.forall_mem_cons] at h
    rw [expandEntries, entryPaths, entryPaths, h.1, ih h.2, List.map_append]

-- Only the first name of a path is still referenced.
theorem paths_expand (e : Expr) : e.expand.paths = e.paths.map root := by
  induction e using induction with
  | literal l =>
    cases l with
    | number x =>
      rw [expand, ofNumber]
      split <;> rfl
    | _ => rfl
  | reference path => exact paths_members _
  | list items hitems => exact paths_expandItems hitems
  | call f arguments harguments => exact paths_expandItems harguments
  | context entries hentries => exact paths_expandEntries hentries
  | unary _ _ he | property _ _ he | instanceOf _ _ he => exact he
  | _ => simp_all only [expand, paths, List.map_append]

theorem pathMentions_iff (hname : '.' ∉ name.toList) :
    pathMentions name path = true ↔ root path = name := by
  rw [pathMentions, Bool.or_eq_true, beq_iff_eq, List.isPrefixOf_iff_prefix, root]
  have hsegments := Scope.segments_eq_singleton hname
  constructor
  · rintro (rfl | ⟨rest, hrest⟩)
    · simp [hsegments]
    · rw [← hrest, List.append_assoc, List.singleton_append, Scope.segments_append, hsegments]
      exact String.ofList_toList
  · rintro rfl
    have hpath := Scope.eq_of_segments_eq (segments_root path)
    rw [root] at hpath
    cases hothers : (Scope.segments path.toList).tail with
    | nil =>
      rw [hothers] at hpath
      exact .inl (String.toList_inj.1 (hpath.trans (List.append_nil _)))
    | cons key keys =>
      rw [hothers] at hpath
      exact .inr ⟨key ++ keys.flatMap ('.' :: ·), by simpa using hpath.symm⟩

theorem segments_root_eq (path : String) :
    Scope.segments (root path).toList = [(root path).toList] :=
  Scope.segments_eq_singleton
    (Scope.not_mem_of_mem_segments (segments_root path ▸ List.mem_cons_self))

theorem root_root (path : String) : root (root path) = root path := by
  rw [root, segments_root_eq]
  exact String.ofList_toList

theorem mentions_expand (e : Expr) (hname : '.' ∉ name.toList) :
    e.expand.mentions name = e.mentions name := by
  have hroot : pathMentions name ∘ root = pathMentions name := by
    funext path
    rw [Function.comp, Bool.eq_iff_iff, pathMentions_iff hname, pathMentions_iff hname, root_root]
  rw [mentions, paths_expand, List.any_map, hroot, mentions]

end Expr

open Rulebook.Expr (root)

namespace Context

variable {c : Context} {key : String} {v : Value}

-- No name has a point in it.
def Undotted (c : Context) : Prop :=
  ∀ key ∈ c.keys, '.' ∉ key.toList

theorem Undotted.get?_eq_none (h : c.Undotted) (hkey : '.' ∈ key.toList) : c.get? key = none := by
  rw [← Option.not_isSome_iff_eq_none, ← mem_keys_iff]
  exact fun hmem => h key hmem hkey

theorem forall_mem_keys_insert {q : String → Prop} (h : ∀ k ∈ c.keys, q k) (hkey : q key) :
    ∀ k ∈ (c.insert key v).keys, q k := by
  by_cases hmem : key ∈ c.keys
  case pos => rwa [keys_insert_of_mem hmem]
  case neg =>
    rw [keys_insert_of_not_mem hmem]
    exact List.forall_mem_append.2 ⟨h, List.forall_mem_singleton.2 hkey⟩

theorem Undotted.insert (h : c.Undotted) (hkey : '.' ∉ key.toList) : (c.insert key v).Undotted :=
  forall_mem_keys_insert h hkey

end Context

namespace Scope

variable {s : Scope} {frame : Context} {cs : List Char} {key path : String} {v : Value}

-- No name has a point in it, in the frames and in the values that they bind.
def Undotted (s : Scope) : Prop :=
  ∀ frame ∈ s, Value.EachContext Context.Undotted (.context frame)

theorem Undotted.push (h : s.Undotted)
    (hframe : Value.EachContext Context.Undotted (.context frame)) : (s.push frame).Undotted :=
  List.forall_mem_cons.2 ⟨hframe, h⟩

theorem Undotted.eachContext (h : s.Undotted) : s.EachContext Context.Undotted :=
  fun frame hframe => (eachContext_context.1 (h frame hframe)).2

theorem Undotted.get?_eq_none (h : s.Undotted) (hkey : '.' ∈ key.toList) : s.get? key = none :=
  List.findSome?_eq_none_iff.2 fun frame hframe =>
    (eachContext_context.1 (h frame hframe)).1.get?_eq_none hkey

-- The first point comes last, and before it stands no other.
theorem cuts_cases (cs : List Char) :
    segments cs = [cs] ∧ cuts cs = [] ∨
      ∃ first rest earlier, segments cs = first :: segments rest ∧
        cuts cs = earlier ++ [(first, rest)] ∧ ∀ cut ∈ earlier, '.' ∈ cut.1 := by
  induction cs with
  | nil => exact .inl ⟨rfl, rfl⟩
  | cons c cs ih =>
    by_cases hc : c = '.'
    · subst hc
      refine .inr ⟨[], cs, _, rfl, by rw [cuts, if_pos rfl], fun cut hcut => ?_⟩
      obtain ⟨inner, -, rfl⟩ := List.mem_map.1 hcut
      exact List.mem_cons_self
    · obtain ⟨hsegments, hcuts⟩ | ⟨first, rest, earlier, hsegments, hcuts, hearlier⟩ := ih
      · exact .inl ⟨segments_cons hc hsegments, by simp [cuts, hc, hcuts]⟩
      · refine .inr ⟨c :: first, rest, _, segments_cons hc hsegments,
          by rw [cuts, if_neg hc, hcuts, List.map_append]; rfl, fun cut hcut => ?_⟩
        obtain ⟨inner, hinner, rfl⟩ := List.mem_map.1 hcut
        exact List.mem_cons_of_mem _ (hearlier inner hinner)

theorem foldl_property_null (keys : List (List Char)) :
    keys.foldl (fun v key => v.property (String.ofList key)) Value.null = .null := by
  induction keys with
  | nil => rfl
  | cons key keys ih => exact ih

-- Where no front of a path but its first name is bound, the first name decides.
theorem resolve_of_root
    (h : ∀ front : String, '.' ∈ front.toList → Expr.pathMentions front path = true →
      s.get? front = none) :
    s.resolve path = (segments path.toList).tail.foldl (fun v key => v.property (String.ofList key))
      ((s.get? (root path)).getD .null) := by
  obtain ⟨hsegments, hcuts⟩ | ⟨first, rest, earlier, hsegments, hcuts, hearlier⟩ :=
    cuts_cases path.toList
  case inl =>
    have hroot : root path = path := by simp [root, hsegments]
    rw [Scope.resolve, hroot, hsegments, hcuts]
    cases s.get? path <;> rfl
  case inr =>
    have hpath : '.' ∈ path.toList := by
      obtain ⟨_, _, hrest⟩ := exists_segments_eq rest
      rw [eq_of_segments_eq hsegments, hrest]
      simp
    have hwhole : s.get? path = none := h path hpath (by simp [Expr.pathMentions])
    have hnone : earlier.findSome?
        (fun cut => (s.get? (String.ofList cut.1)).map (walk · cut.2)) = none := by
      refine List.findSome?_eq_none_iff.2 fun cut hcut => ?_
      have hfront := pathMentions_of_mem_cuts (hcuts ▸ List.mem_append_left _ hcut)
      rw [h _ (by simpa using hearlier cut hcut) hfront, Option.map_none]
    have hroot : root path = String.ofList first := by simp [root, hsegments]
    simp only [Scope.resolve, hwhole, hcuts, List.findSome?_append, hnone, hroot,
      hsegments, List.tail_cons, Option.none_or, List.findSome?_singleton]
    cases s.get? (String.ofList first) with
    | none => exact (foldl_property_null _).symm
    | some v => rfl

theorem Undotted.resolve (h : s.Undotted) (path : String) :
    s.resolve path = (segments path.toList).tail.foldl (fun v key => v.property (String.ofList key))
      ((s.get? (root path)).getD .null) :=
  resolve_of_root fun _ hdot _ => h.get?_eq_none hdot

end Scope

section

variable {f g : Value → Outcome Value} {items : List Value}

theorem forEach_congr (h : ∀ v ∈ items, f v = g v) : forEach f items = forEach g items := by
  induction items with
  | nil => rfl
  | cons v items ih =>
    rw [List.forall_mem_cons] at h
    simp only [forEach, h.1, ih h.2]

theorem someHolds_congr (h : ∀ v ∈ items, f v = g v) : someHolds f items = someHolds g items := by
  induction items with
  | nil => rfl
  | cons v items ih =>
    rw [List.forall_mem_cons] at h
    simp only [someHolds, h.1, ih h.2]

theorem everyHolds_congr (h : ∀ v ∈ items, f v = g v) :
    everyHolds f items = everyHolds g items := by
  induction items with
  | nil => rfl
  | cons v items ih =>
    rw [List.forall_mem_cons] at h
    simp only [everyHolds, h.1, ih h.2]

theorem selectWhere_congr (h : ∀ v ∈ items, f v = g v) :
    selectWhere f items = selectWhere g items := by
  induction items with
  | nil => rfl
  | cons v items ih =>
    rw [List.forall_mem_cons] at h
    simp only [selectWhere, h.1, ih h.2]

end

section

variable {p : Context → Prop} {r : Registry} {s s' : Scope} {name name' : String}
  {source source' body body' : Expr}
  (hsource : eval r s' source' = eval r s source) (hp : Ensures (EachContext p) (eval r s source))
include hsource hp

theorem eval_loop_congr
    (h : ∀ v, EachContext p v →
      eval r (s'.push [(name', v)]) body' = eval r (s.push [(name, v)]) body) :
    eval r s' (.loop name' source' body') = eval r s (.loop name source body) := by
  rw [eval, eval, hsource]
  refine hp.bind_congr fun v hv => hv.iterationItems.bind_congr fun o hitems => ?_
  cases o with
  | none => rfl
  | some items =>
    exact congrArg (Except.map Value.list) (forEach_congr fun w hw => h w (hitems _ rfl w hw))

theorem eval_quantified_congr {q : Quantifier}
    (h : ∀ v, EachContext p v →
      eval r (s'.push [(name', v)]) body' = eval r (s.push [(name, v)]) body) :
    eval r s' (.quantified q name' source' body') = eval r s (.quantified q name source body) := by
  rw [eval, eval, hsource]
  refine hp.bind_congr fun v hv => hv.iterationItems.bind_congr fun o hitems => ?_
  cases o with
  | none => rfl
  | some items =>
    have hitems := fun w hw => h w (hitems _ rfl w hw)
    cases q with
    | some => exact congrArg (Except.map Value.boolean) (someHolds_congr hitems)
    | every => exact congrArg (Except.map Value.boolean) (everyHolds_congr hitems)

theorem eval_filter_congr
    (h : ∀ items : List Value, (∀ v ∈ items, EachContext p v) →
      filterItems body' (eval r s' body') (fun v => eval r (s'.push (itemFrame v)) body') items =
        filterItems body (eval r s body) (fun v => eval r (s.push (itemFrame v)) body) items) :
    eval r s' (.filter source' body') = eval r s (.filter source body) := by
  rw [eval, eval, hsource]
  refine hp.bind_congr fun v hv => hv.iterationItems.bind_congr fun o hitems => ?_
  cases o with
  | none => rfl
  | some items => exact h items (hitems _ rfl)

end

section

variable {r : Registry} {e : Expr} {s : Scope} {v : Value} {items : List Value} {name : String}

theorem undotted_empty : Context.Undotted .empty :=
  List.forall_mem_nil _

theorem undotted_singleton (hname : '.' ∉ name.toList) (hv : EachContext Context.Undotted v) :
    EachContext Context.Undotted (.context [(name, v)]) :=
  eachContext_context.2 ⟨List.forall_mem_singleton.2 hname, List.forall_mem_singleton.2 hv⟩

section

variable {q : String → Prop}

theorem forall_mem_keys_entriesOf (hv : EachContext (fun c => ∀ key ∈ c.keys, q key) v) :
    ∀ key ∈ (entriesOf v).keys, q key := by
  cases v with
  | context entries => exact (eachContext_context.1 hv).1
  | _ => exact nofun

-- A filter brings in the item and names of entries.
theorem eachContext_itemFrame (hitem : q itemName)
    (hv : EachContext (fun c => ∀ key ∈ c.keys, q key) v) :
    EachContext (fun c => ∀ key ∈ c.keys, q key) (.context (itemFrame v)) := by
  refine eachContext_context.2 ⟨?_, itemFrame_eachContext hv⟩
  refine List.forall_mem_cons.2 ⟨hitem, fun key hkey => ?_⟩
  obtain ⟨entry, hentry, rfl⟩ := List.mem_map.1 hkey
  exact forall_mem_keys_entriesOf hv _ (List.mem_map_of_mem (List.mem_of_mem_filter hentry))

end

-- A filter asks for the item and for names of entries, and finds the same.
theorem bindsItemNames_expand (h : ∀ v ∈ items, EachContext Context.Undotted v) :
    bindsItemNames e.expand items = bindsItemNames e items := by
  have hitem : '.' ∉ itemName.toList := by decide
  rw [bindsItemNames, bindsItemNames, Expr.mentions_expand e hitem]
  refine congrArg _ (Bool.eq_iff_iff.2 ?_)
  simp only [List.any_eq_true]
  refine exists_congr fun v => and_congr_right fun hv => exists_congr fun entry =>
    and_congr_right fun hentry => ?_
  have hkey := forall_mem_keys_entriesOf (h v hv) entry.1 (List.mem_map_of_mem hentry)
  rw [Expr.mentions_expand e hkey]

theorem filterItems_expand {outer : Outcome Value} {f g : Value → Outcome Value}
    (h : ∀ v ∈ items, EachContext Context.Undotted v) (hf : ∀ v ∈ items, f v = g v) :
    filterItems e.expand outer f items = filterItems e outer g items := by
  rw [filterItems.eq_def, filterItems.eq_def, selectWhere_congr hf, bindsItemNames_expand h]

theorem eval_members {base : Expr} {keys : List (List Char)} (h : eval r s base = .ok v) :
    eval r s (base.members keys) =
      .ok (keys.foldl (fun v key => v.property (String.ofList key)) v) := by
  rw [Expr.members]
  induction keys generalizing base v with
  | nil => exact h
  | cons key keys ih => exact ih (by rw [eval, h]; rfl)

theorem eval_ofPath (hs : s.Undotted) (path : String) :
    eval r s (Expr.ofPath path) = .ok (s.resolve path) := by
  rw [hs.resolve, Expr.ofPath]
  refine eval_members ?_
  rw [eval, hs.resolve, Expr.root_root, Expr.segments_root_eq]
  rfl

theorem eval_ofNumber {x : Float} (hx : Number.isUndefined x = false) :
    eval r s (Expr.ofNumber x) = .ok (.number x) := by
  rw [Expr.ofNumber]
  split
  case isTrue hneg =>
    have hvalue : -(x.abs) = x := by rw [Number.abs_eq_neg hneg, Number.neg_neg hx]
    exact congrArg (fun y => Except.ok (Value.number y)) hvalue
  case isFalse => rfl

theorem evalItems_expand {items : List Expr} (h : ∀ e ∈ items, eval r s e.expand = eval r s e) :
    evalItems r s (Expr.expandItems items) = evalItems r s items := by
  induction items with
  | nil => rfl
  | cons e items ih =>
    rw [List.forall_mem_cons] at h
    simp only [Expr.expandItems, evalItems, h.1, ih h.2]

theorem eval_undotted (hr : ∀ f ∈ r.functions, f.Preserves Context.Undotted)
    (hkeys : ∀ key ∈ e.entryNames, '.' ∉ key.toList) (hs : s.Undotted) :
    Ensures (EachContext Context.Undotted) (eval r s e) :=
  eval_eachContext hr undotted_empty (fun key hkey _ _ hc => hc.insert (hkeys key hkey))
    hs.eachContext

theorem evalEntries_expand {entries : List (String × Expr)} {done : Context}
    (hr : ∀ f ∈ r.functions, f.Preserves Context.Undotted)
    (hkeys : ∀ e ∈ entries, '.' ∉ e.1.toList ∧ ∀ key ∈ e.2.entryNames, '.' ∉ key.toList)
    (hs : s.Undotted)
    (h : ∀ e ∈ entries, ∀ s : Scope, s.Undotted → eval r s e.2.expand = eval r s e.2)
    (hdone : EachContext Context.Undotted (.context done)) :
    evalEntries r s done (Expr.expandEntries entries) = evalEntries r s done entries := by
  induction entries generalizing done with
  | nil => rfl
  | cons e entries ih =>
    rw [List.forall_mem_cons] at hkeys h
    have hpush := hs.push hdone
    simp only [Expr.expandEntries, evalEntries, h.1 _ hpush]
    refine (eval_undotted hr hkeys.1.2 hpush).bind_congr fun v hv => ih hkeys.2 h.2 ?_
    exact eachContext_insert (fun hc => hc.insert hkeys.1.1) hdone hv

-- What a loop, a filter or a context binds was evaluated, and so its names have no point either.
theorem eval_expand (hr : ∀ f ∈ r.functions, f.Preserves Context.Undotted)
    (he : e.isCanonical = true) (hkeys : ∀ key ∈ e.entryNames, '.' ∉ key.toList)
    (hs : s.Undotted) : eval r s e.expand = eval r s e := by
  induction e using Expr.induction generalizing s with
  | literal l =>
    cases l with
    | number x =>
      rw [Expr.isCanonical, Bool.not_eq_true'] at he
      exact eval_ofNumber he
    | _ => rfl
  | reference path => exact eval_ofPath hs path
  | binary op l u hl hu =>
    rw [Expr.isCanonical, Bool.and_eq_true] at he
    rw [Expr.entryNames, List.forall_mem_append] at hkeys
    simp only [Expr.expand, eval, hl he.1 hkeys.1 hs, hu he.2 hkeys.2 hs]
  | unary op e he' =>
    rw [Expr.isCanonical, Bool.and_eq_true] at he
    simp only [Expr.expand, eval, he' he.1 hkeys hs]
  | range l u i j hl hu =>
    rw [Expr.isCanonical, Bool.and_eq_true] at he
    rw [Expr.entryNames, List.forall_mem_append] at hkeys
    simp only [Expr.expand, eval, hl he.1 hkeys.1 hs, hu he.2 hkeys.2 hs]
  | list items hitems =>
    rw [Expr.isCanonical, Expr.canonicalItems_iff] at he
    rw [Expr.entryNames, Expr.forall_mem_itemEntryNames] at hkeys
    simp only [Expr.expand, eval,
      evalItems_expand fun e hmem => hitems e hmem (he e hmem) (hkeys e hmem) hs]
  | context entries hentries =>
    rw [Expr.isCanonical, Expr.canonicalEntries_iff] at he
    rw [Expr.entryNames, Expr.forall_mem_nestedEntryNames] at hkeys
    simp only [Expr.expand, eval, evalEntries_expand hr hkeys hs
      (fun e hmem s hs => hentries e hmem (he e hmem) (hkeys e hmem).2 hs)
      (eachContext_empty undotted_empty)]
  | call f arguments harguments =>
    rw [Expr.isCanonical, Bool.and_eq_true, Expr.canonicalItems_iff] at he
    rw [Expr.entryNames, Expr.forall_mem_itemEntryNames] at hkeys
    simp only [Expr.expand, eval,
      evalItems_expand fun e hmem => harguments e hmem (he.2 e hmem) (hkeys e hmem) hs]
  | property b key hb =>
    simp only [Expr.isCanonical, Bool.and_eq_true] at he
    simp only [Expr.expand, eval, hb he.1.1 hkeys hs]
  | conditional c y n hc hy hn =>
    simp only [Expr.isCanonical, Bool.and_eq_true] at he
    simp only [Expr.entryNames, List.forall_mem_append] at hkeys
    simp only [Expr.expand, eval, hc he.1.1 hkeys.1.1 hs, hy he.1.2 hkeys.1.2 hs,
      hn he.2 hkeys.2 hs]
  | loop name source b hsource hb =>
    simp only [Expr.isCanonical, Bool.and_eq_true] at he
    rw [Expr.entryNames, List.forall_mem_append] at hkeys
    refine eval_loop_congr (hsource he.1.2 hkeys.1 hs) (eval_undotted hr hkeys.1 hs) fun v hv => ?_
    exact hb he.2 hkeys.2 (hs.push (undotted_singleton (isName_no_dot he.1.1) hv))
  | quantified q name source test hsource htest =>
    simp only [Expr.isCanonical, Bool.and_eq_true] at he
    rw [Expr.entryNames, List.forall_mem_append] at hkeys
    refine eval_quantified_congr (hsource he.1.2 hkeys.1 hs) (eval_undotted hr hkeys.1 hs)
      fun v hv => ?_
    exact htest he.2 hkeys.2 (hs.push (undotted_singleton (isName_no_dot he.1.1) hv))
  | between e l u he' hl hu =>
    simp only [Expr.isCanonical, Bool.and_eq_true] at he
    simp only [Expr.entryNames, List.forall_mem_append] at hkeys
    simp only [Expr.expand, eval, he' he.1.1 hkeys.1.1 hs, hl he.1.2 hkeys.1.2 hs,
      hu he.2 hkeys.2 hs]
  | instanceOf e type he' =>
    rw [Expr.isCanonical, Bool.and_eq_true] at he
    simp only [Expr.expand, eval, he' he.1 hkeys hs]
  | filter b test hb htest =>
    rw [Expr.isCanonical, Bool.and_eq_true] at he
    rw [Expr.entryNames, List.forall_mem_append] at hkeys
    refine eval_filter_congr (hb he.1 hkeys.1 hs) (eval_undotted hr hkeys.1 hs)
      fun items hitems => ?_
    rw [htest he.2 hkeys.2 hs]
    refine filterItems_expand hitems fun v hv => ?_
    exact htest he.2 hkeys.2 (hs.push (eachContext_itemFrame (by decide) (hitems v hv)))

end

theorem evaluate_expand {e : Expr} {c : Context} (he : e.isCanonical = true)
    (hkeys : ∀ key ∈ e.entryNames, '.' ∉ key.toList)
    (hc : EachContext Context.Undotted (.context c)) :
    evaluate .builtins e.expand c = evaluate .builtins e c :=
  eval_expand (fun f hf => Builtin.functions_preserve f hf) he hkeys
    (List.forall_mem_singleton.2 hc)

-- The orders above a limit, and those below -1.
theorem evaluate_expand_filter :
    let e : Expr := .context [("above", .filter (.reference "shop.orders")
      (.binary .greater (.reference "item.price") (.reference "limits.low"))),
      ("under", .filter (.reference "shop.orders")
        (.binary .less (.reference "price") (.literal (.number (-1)))))]
    let large : Value := .context [("price", .number 5)]
    let small : Value := .context [("price", .number 1)]
    let c : Context := [("shop", .context [("orders", .list [large, small])]),
      ("limits", .context [("low", .number 2)])]
    e.isCanonical = true ∧ (∀ key ∈ e.entryNames, '.' ∉ key.toList) ∧
      EachContext Context.Undotted (.context c) ∧
      evaluate .builtins e.expand c =
        .ok (.context [("above", .list [large]), ("under", .list [])]) := by
  intro e large small c
  have he : e.isCanonical = true := by decide +kernel
  have hkeys : ∀ key ∈ e.entryNames, '.' ∉ key.toList := by decide
  have hnumber (x : Float) : EachContext Context.Undotted (.number x) := eachContext_of_isPlain rfl
  have hc : EachContext Context.Undotted (.context c) := by
    simp [c, large, small, eachContext_context, eachContext_list, Context.Undotted, Context.keys,
      hnumber]
  exact ⟨he, hkeys, hc, (evaluate_expand he hkeys hc).trans rfl⟩

end Rulebook
