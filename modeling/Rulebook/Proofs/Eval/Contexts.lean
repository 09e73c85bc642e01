import Rulebook.Eval.Basic
import Rulebook.Proofs.Builtin.Contexts
import Rulebook.Proofs.Syntax.Parts

/-!
Where the contexts in an answer come from. An evaluation builds contexts only for the context
literals it meets; all others are those of the values that its scope binds.
-/

namespace Rulebook

open Value (EachContext eachContext_list eachContext_context eachContext_empty eachContext_range
  eachContext_getD eachContext_of_isPlain)

variable {p : Context → Prop}

namespace Value

variable {v l u : Value} {items : List Value} {key : String}

theorem orOverflow_isPlain {α : Type} {op : BinaryOp} {make : α → Value} {o : Option α}
    (h : ∀ a, (make a).isPlain = true) :
    Ensures (·.isPlain = true) (orOverflow op l u make o) := by
  cases o with
  | none => exact True.intro
  | some a => exact h a

theorem add_isPlain : Ensures (·.isPlain = true) (add l u) := by
  unfold add
  split
  case h_5 | h_6 | h_7 | h_8 | h_9 => exact orOverflow_isPlain fun _ => rfl
  all_goals trivial

theorem subtract_isPlain : Ensures (·.isPlain = true) (subtract l u) := by
  unfold subtract
  split
  case h_7 =>
    refine .ite ?_ True.intro
    split
    · exact add_isPlain
    · exact True.intro
  all_goals trivial

theorem multiply_isPlain : Ensures (·.isPlain = true) (multiply l u) := by
  unfold multiply
  split
  case h_4 | h_5 => exact orOverflow_isPlain fun _ => rfl
  all_goals trivial

theorem divide_isPlain : Ensures (·.isPlain = true) (divide l u) := by
  unfold divide
  split
  case h_3 => exact .ite True.intro rfl
  case h_4 => exact .ite True.intro (orOverflow_isPlain fun _ => rfl)
  case h_5 => exact .ite True.intro (.ite True.intro rfl)
  all_goals trivial

theorem modulo_isPlain : Ensures (·.isPlain = true) (modulo l u) := by
  unfold modulo
  split
  case h_3 => split <;> trivial
  all_goals trivial

theorem power_isPlain : Ensures (·.isPlain = true) (power l u) := by
  unfold power
  split <;> trivial

theorem nullOr_isPlain {answer : Bool} : (nullOr l u answer).isPlain = true := by
  unfold nullOr
  split <;> rfl

theorem conjunction_isPlain : (conjunction l u).isPlain = true := by
  unfold conjunction
  split <;> rfl

theorem disjunction_isPlain : (disjunction l u).isPlain = true := by
  unfold disjunction
  split <;> rfl

theorem binary_isPlain {op : BinaryOp} : Ensures (·.isPlain = true) (binary op l u) := by
  cases op with
  | add => exact add_isPlain
  | subtract => exact subtract_isPlain
  | multiply => exact multiply_isPlain
  | divide => exact divide_isPlain
  | modulo => exact modulo_isPlain
  | power => exact power_isPlain
  | and => exact conjunction_isPlain
  | or => exact disjunction_isPlain
  | _ => exact nullOr_isPlain

theorem unary_isPlain {op : UnaryOp} : Ensures (·.isPlain = true) (unary op v) := by
  unfold unary
  split
  case h_3 => split <;> trivial
  all_goals trivial

theorem instanceOf_isPlain : Ensures (·.isPlain = true) (instanceOf v key) :=
  .ite True.intro (.ite rfl rfl)

theorem dateProperty?_isPlain {d : Calendar.Date} (h : dateProperty? d key = some v) :
    v.isPlain = true := by
  unfold dateProperty? at h
  split at h <;> cases h <;> rfl

theorem timeProperty?_isPlain {t : Calendar.Time} (h : timeProperty? t key = some v) :
    v.isPlain = true := by
  unfold timeProperty? at h
  split at h <;> cases h <;> rfl

theorem durationProperty?_isPlain {d : Calendar.Duration} (h : durationProperty? d key = some v) :
    v.isPlain = true := by
  unfold durationProperty? at h
  split at h <;> cases h <;> rfl

theorem eachContext_of_rangeProperty? {i j : Bool} (hl : EachContext p l) (hu : EachContext p u)
    (h : rangeProperty? l u i j key = some v) : EachContext p v := by
  unfold rangeProperty? at h
  split at h <;> cases h
  · exact hl
  · exact hu
  · exact eachContext_of_isPlain rfl
  · exact eachContext_of_isPlain rfl

namespace EachContext

theorem property (h : EachContext p v) (key : String) : EachContext p (v.property key) := by
  refine eachContext_getD fun w hw => ?_
  cases v with
  | context entries =>
    exact (eachContext_context.1 h).2 _ (Context.mem_of_lookup hw)
  | range s f i j =>
    obtain ⟨hs, hf⟩ := eachContext_range.1 h
    exact eachContext_of_rangeProperty? hs hf hw
  | date d => exact eachContext_of_isPlain (dateProperty?_isPlain hw)
  | time t => exact eachContext_of_isPlain (timeProperty?_isPlain hw)
  | duration d => exact eachContext_of_isPlain (durationProperty?_isPlain hw)
  | dateTime d =>
    obtain hw | ⟨-, hw⟩ := Option.or_eq_some_iff.1 hw
    · exact eachContext_of_isPlain (dateProperty?_isPlain hw)
    · exact eachContext_of_isPlain (timeProperty?_isPlain hw)
  | _ => cases hw

theorem iterationItems (h : EachContext p v) :
    Ensures (fun o => ∀ items, o = some items → ∀ w ∈ items, EachContext p w)
      v.iterationItems := by
  unfold Value.iterationItems
  split
  · exact nofun
  · rintro items ⟨⟩
    exact eachContext_list.1 h
  · split
    · rintro items ⟨⟩ w hw
      obtain ⟨n, -, rfl⟩ := List.mem_map.1 hw
      exact eachContext_of_isPlain rfl
    · rintro items ⟨⟩
      exact List.forall_mem_singleton.2 h
    · exact True.intro
  · rintro items ⟨⟩
    exact List.forall_mem_singleton.2 h

theorem elementAt (h : ∀ v ∈ items, EachContext p v) (position : Float) :
    EachContext p (elementAt items position) := by
  unfold Value.elementAt
  split
  · split
    · exact eachContext_getD fun v hv => h v (List.mem_of_getElem? hv)
    · split
      · exact eachContext_getD fun v hv => h v (List.mem_of_getElem? hv)
      · exact eachContext_of_isPlain rfl
  · exact eachContext_of_isPlain rfl

end EachContext

end Value

namespace Expr

mutual

-- The names that the context literals of an expression give to their entries.
def entryNames : Expr → List String
  | literal _ => []
  | reference _ => []
  | binary _ l r => entryNames l ++ entryNames r
  | unary _ e => entryNames e
  | range l u _ _ => entryNames l ++ entryNames u
  | list items => itemEntryNames items
  | context entries => nestedEntryNames entries
  | call _ arguments => itemEntryNames arguments
  | property base _ => entryNames base
  | conditional c y n => entryNames c ++ entryNames y ++ entryNames n
  | loop _ s b => entryNames s ++ entryNames b
  | quantified _ _ s p => entryNames s ++ entryNames p
  | between e l u => entryNames e ++ entryNames l ++ entryNames u
  | instanceOf e _ => entryNames e
  | filter b p => entryNames b ++ entryNames p

def itemEntryNames : List Expr → List String
  | [] => []
  | e :: es => entryNames e ++ itemEntryNames es

def nestedEntryNames : List (String × Expr) → List String
  | [] => []
  | (key, e) :: es => key :: (entryNames e ++ nestedEntryNames es)

end

variable {q : String → Prop}

theorem forall_mem_itemEntryNames {items : List Expr} :
    (∀ key ∈ itemEntryNames items, q key) ↔ ∀ e ∈ items, ∀ key ∈ e.entryNames, q key := by
  induction items with
  | nil => simp [itemEntryNames]
  | cons e items ih => rw [itemEntryNames, List.forall_mem_append, ih, List.forall_mem_cons]

theorem forall_mem_nestedEntryNames {entries : List (String × Expr)} :
    (∀ key ∈ nestedEntryNames entries, q key) ↔
      ∀ e ∈ entries, q e.1 ∧ ∀ key ∈ e.2.entryNames, q key := by
  induction entries with
  | nil => simp [nestedEntryNames]
  | cons e entries ih =>
    rw [nestedEntryNames, List.forall_mem_cons, List.forall_mem_append, ih, List.forall_mem_cons,
      and_assoc]

end Expr

namespace Scope

variable {s : Scope} {frame : Context} {v : Value}

def EachContext (p : Context → Prop) (s : Scope) : Prop :=
  ∀ frame ∈ s, ∀ e ∈ frame, Value.EachContext p e.2

theorem EachContext.push (h : s.EachContext p) (hframe : ∀ e ∈ frame, Value.EachContext p e.2) :
    (s.push frame).EachContext p :=
  List.forall_mem_cons.2 ⟨hframe, h⟩

theorem EachContext.get? {key : String} (h : s.EachContext p) (hv : s.get? key = some v) :
    Value.EachContext p v := by
  obtain ⟨frame, hframe, hv⟩ := List.exists_of_findSome?_eq_some hv
  exact h frame hframe _ (Context.mem_of_lookup hv)

theorem eachContext_walk (h : Value.EachContext p v) (keys : List Char) :
    Value.EachContext p (walk v keys) := by
  rw [walk]
  induction segments keys generalizing v with
  | nil => exact h
  | cons key keys ih => exact ih (h.property _)

theorem EachContext.resolve (h : s.EachContext p) (path : String) :
    Value.EachContext p (s.resolve path) := by
  unfold Scope.resolve
  split
  case h_1 hv => exact h.get? hv
  case h_2 =>
    refine eachContext_getD fun v hv => ?_
    obtain ⟨cut, -, hv⟩ := List.exists_of_findSome?_eq_some hv
    obtain ⟨base, hbase, rfl⟩ := Option.map_eq_some_iff.1 hv
    exact eachContext_walk (h.get? hbase) _

end Scope

section

variable {r : Registry} {f : Value → Outcome Value} {v : Value} {items : List Value} {e : Expr}
  {s : Scope}

theorem Literal.value_isPlain (l : Literal) : l.value.isPlain = true := by
  cases l <;> rfl

theorem forEach_eachContext (hf : ∀ v ∈ items, Ensures (EachContext p) (f v)) :
    Ensures (fun vs => ∀ v ∈ vs, EachContext p v) (forEach f items) := by
  induction items with
  | nil => exact nofun
  | cons v items ih =>
    rw [List.forall_mem_cons] at hf
    refine hf.1.bind fun w hw => (ih hf.2).bind fun ws hws => ?_
    exact List.forall_mem_cons.2 ⟨hw, hws⟩

-- Whatever the test says, what it keeps was there before.
theorem selectWhere_subset {q : Value → Prop} (h : ∀ v ∈ items, q v) :
    Ensures (fun vs => ∀ v ∈ vs, q v) (selectWhere f items) := by
  induction items with
  | nil => exact nofun
  | cons v items ih =>
    rw [List.forall_mem_cons] at h
    refine .after fun keep => (ih h.2).bind fun vs hvs => ?_
    change ∀ w ∈ if keep.isTrue then v :: vs else vs, q w
    split
    · exact List.forall_mem_cons.2 ⟨h.1, hvs⟩
    · exact hvs

theorem entriesOf_eachContext (h : EachContext p v) : ∀ e ∈ entriesOf v, EachContext p e.2 := by
  cases v with
  | context entries => exact (eachContext_context.1 h).2
  | _ => exact nofun

theorem itemFrame_eachContext (h : EachContext p v) : ∀ e ∈ itemFrame v, EachContext p e.2 := by
  refine List.forall_mem_cons.2 ⟨h, fun e he => ?_⟩
  exact entriesOf_eachContext h e (List.mem_of_mem_filter he)

theorem filterItems_eachContext {outer : Outcome Value} (h : ∀ v ∈ items, EachContext p v) :
    Ensures (EachContext p) (filterItems e outer f items) := by
  have hselect : Ensures (EachContext p) ((selectWhere f items).map .list) :=
    (selectWhere_subset h).map fun vs hvs => eachContext_list.2 hvs
  unfold filterItems
  split
  · exact Value.EachContext.elementAt h _
  · exact hselect
  · exact .ite hselect True.intro

theorem Registry.call_eachContext {name : String} {vs : List Value}
    (hr : ∀ f ∈ r.functions, f.Preserves p) (h : ∀ v ∈ vs, EachContext p v) :
    Ensures (EachContext p) (r.call name vs) := by
  unfold Registry.call
  split
  case h_1 f hf => exact (hr f (List.mem_of_find?_eq_some hf)).call h
  case h_2 => exact True.intro

theorem evalItems_eachContext {items : List Expr}
    (h : ∀ e ∈ items, Ensures (EachContext p) (eval r s e)) :
    Ensures (fun vs => ∀ v ∈ vs, EachContext p v) (evalItems r s items) := by
  induction items with
  | nil => exact nofun
  | cons e items ih =>
    rw [List.forall_mem_cons] at h
    refine h.1.bind fun v hv => (ih h.2).bind fun vs hvs => ?_
    exact List.forall_mem_cons.2 ⟨hv, hvs⟩

theorem Context.forall_mem_insert {c : Context} {key : String} (hv : EachContext p v)
    (h : ∀ e ∈ c, EachContext p e.2) : ∀ e ∈ c.insert key v, EachContext p e.2 := by
  induction c with
  | nil => exact List.forall_mem_singleton.2 hv
  | cons e c ih =>
    rw [List.forall_mem_cons] at h
    rw [Context.insert]
    split
    · exact List.forall_mem_cons.2 ⟨hv, h.2⟩
    · exact List.forall_mem_cons.2 ⟨h.1, ih h.2⟩

theorem eachContext_insert {c : Context} {key : String} (hp : p c → p (c.insert key v))
    (hc : EachContext p (.context c)) (hv : EachContext p v) :
    EachContext p (.context (c.insert key v)) := by
  rw [eachContext_context] at hc ⊢
  exact ⟨hp hc.1, Context.forall_mem_insert hv hc.2⟩

theorem evalEntries_eachContext {entries : List (String × Expr)} {done : Context}
    (hp : ∀ e ∈ entries, ∀ c v, p c → p (c.insert e.1 v))
    (h : ∀ e ∈ entries, ∀ frame : Context, (∀ e ∈ frame, EachContext p e.2) →
      Ensures (EachContext p) (eval r (s.push frame) e.2))
    (hdone : EachContext p (.context done)) :
    Ensures (fun c => EachContext p (.context c)) (evalEntries r s done entries) := by
  induction entries generalizing done with
  | nil => exact hdone
  | cons e entries ih =>
    rw [List.forall_mem_cons] at hp h
    refine (h.1 done (eachContext_context.1 hdone).2).bind fun v hv => ?_
    exact ih hp.2 h.2 (eachContext_insert (hp.1 done v) hdone hv)

-- What is asked of each context need only hold of the empty one and last while entries are added
-- under the names that the expression uses.
theorem eval_eachContext (hr : ∀ f ∈ r.functions, f.Preserves p) (hempty : p .empty)
    (hp : ∀ key ∈ e.entryNames, ∀ c v, p c → p (c.insert key v)) (hs : s.EachContext p) :
    Ensures (EachContext p) (eval r s e) := by
  induction e using Expr.induction generalizing s with
  | literal l => exact eachContext_of_isPlain l.value_isPlain
  | reference path => exact hs.resolve path
  | binary op l u hl hu =>
    rw [Expr.entryNames, List.forall_mem_append] at hp
    refine (hl hp.1 hs).bind fun v hv => .ite hv ?_
    exact .after fun w => Value.binary_isPlain.mono fun _ => eachContext_of_isPlain
  | unary op e he =>
    exact .after fun v => Value.unary_isPlain.mono fun _ => eachContext_of_isPlain
  | range l u i j hl hu =>
    rw [Expr.entryNames, List.forall_mem_append] at hp
    refine (hl hp.1 hs).bind fun v hv => (hu hp.2 hs).bind fun w hw => ?_
    exact eachContext_range.2 ⟨hv, hw⟩
  | list items hitems =>
    rw [Expr.entryNames, Expr.forall_mem_itemEntryNames] at hp
    exact (evalItems_eachContext fun e he => hitems e he (hp e he) hs).map fun _ =>
      eachContext_list.2
  | context entries hentries =>
    rw [Expr.entryNames, Expr.forall_mem_nestedEntryNames] at hp
    refine (evalEntries_eachContext (fun e he => (hp e he).1) (fun e he frame hframe => ?_)
      (eachContext_empty hempty)).map fun _ hc => hc
    exact hentries e he (hp e he).2 (hs.push hframe)
  | call f arguments harguments =>
    rw [Expr.entryNames, Expr.forall_mem_itemEntryNames] at hp
    refine (evalItems_eachContext fun e he => harguments e he (hp e he) hs).bind fun vs hvs => ?_
    exact Registry.call_eachContext hr hvs
  | property b key hb => exact (hb hp hs).bind fun v hv => hv.property key
  | conditional c y n hc hy hn =>
    simp only [Expr.entryNames, List.forall_mem_append] at hp
    exact .after fun v => .ite (hy hp.1.2 hs) (hn hp.2 hs)
  | loop name source b hsource hb =>
    rw [Expr.entryNames, List.forall_mem_append] at hp
    refine (hsource hp.1 hs).bind fun v hv => hv.iterationItems.bind fun o hitems => ?_
    cases o with
    | none => exact eachContext_of_isPlain rfl
    | some items =>
      refine (forEach_eachContext fun w hw => ?_).map fun _ => eachContext_list.2
      exact hb hp.2 (hs.push (List.forall_mem_singleton.2 (hitems items rfl w hw)))
  | quantified q name source test hsource htest =>
    refine .after fun v => .after fun o => ?_
    cases o with
    | none => exact eachContext_of_isPlain rfl
    | some items => cases q <;> exact Ensures.unit.map fun _ _ => eachContext_of_isPlain rfl
  | between e l u he hl hu =>
    exact .after fun v => .after fun w => .after fun z =>
      eachContext_of_isPlain Value.conjunction_isPlain
  | instanceOf e type he =>
    exact .after fun v => Value.instanceOf_isPlain.mono fun _ => eachContext_of_isPlain
  | filter b test hb htest =>
    rw [Expr.entryNames, List.forall_mem_append] at hp
    refine (hb hp.1 hs).bind fun v hv => hv.iterationItems.bind fun o hitems => ?_
    cases o with
    | none => exact eachContext_of_isPlain rfl
    | some items => exact filterItems_eachContext (hitems items rfl)

-- The names in a context stay different, whatever the expression.
theorem evaluate_uniqueKeys {c : Context}
    (hr : ∀ f ∈ r.functions, f.Preserves fun c => c.keys.Nodup)
    (hc : (Value.context c).UniqueKeys) : Ensures Value.UniqueKeys (evaluate r e c) := by
  rw [Value.uniqueKeys_iff_eachContext, eachContext_context] at hc
  have hvalue : Ensures (EachContext fun c => c.keys.Nodup) (evaluate r e c) :=
    eval_eachContext hr List.nodup_nil (fun _ _ _ _ hc => Context.nodup_keys_insert hc)
      (List.forall_mem_singleton.2 hc.2)
  exact hvalue.mono fun _ => Value.uniqueKeys_iff_eachContext.2

end

end Rulebook
