import Rulebook.Eval.Basic
import Rulebook.Proofs.Syntax.Parts

/-!
What an evaluation looks at. It asks a scope for the names that the expression mentions, the fronts
of its paths, and for no other; what else the caller binds cannot be seen in the answer.
-/

namespace Rulebook

namespace Scope

variable {s₁ s₂ : Scope} {path : String} {frame : Context}

-- No path leads to a name that the two scopes tell apart.
def Agree (paths : List String) (s₁ s₂ : Scope) : Prop :=
  ∀ path ∈ paths, ∀ name, Expr.pathMentions name path = true → s₁.get? name = s₂.get? name

theorem agree_append {xs ys : List String} :
    Agree (xs ++ ys) s₁ s₂ ↔ Agree xs s₁ s₂ ∧ Agree ys s₁ s₂ :=
  List.forall_mem_append

theorem get?_push (name : String) :
    (s₁.push frame).get? name = (frame.get? name).or (s₁.get? name) := by
  simp only [push, get?, List.findSome?_cons]
  cases frame.get? name <;> rfl

theorem get?_singleton (c : Context) (name : String) : get? [c] name = c.get? name := by
  simp [get?]

-- A frame in front hides the same names from both.
theorem Agree.push {paths : List String} (h : Agree paths s₁ s₂) (frame : Context) :
    Agree paths (s₁.push frame) (s₂.push frame) := by
  intro path hpath name hname
  rw [get?_push, get?_push, h path hpath name hname]

theorem isPrefixOf_of_mem_cuts {cs before after : List Char} (h : (before, after) ∈ cuts cs) :
    (before ++ ['.']).isPrefixOf cs = true := by
  induction cs generalizing before with
  | nil => simp [cuts] at h
  | cons c rest ih =>
    simp only [cuts] at h
    split at h
    case isTrue hc =>
      obtain h | h := List.mem_append.1 h
      · obtain ⟨⟨inner, _⟩, hinner, heq⟩ := List.mem_map.1 h
        cases heq
        simpa using ih hinner
      · cases List.mem_singleton.1 h
        simp [hc]
    case isFalse =>
      obtain ⟨⟨inner, _⟩, hinner, heq⟩ := List.mem_map.1 h
      cases heq
      simpa using ih hinner

theorem pathMentions_of_mem_cuts {before after : List Char}
    (h : (before, after) ∈ cuts path.toList) :
    Expr.pathMentions (String.ofList before) path = true := by
  rw [Expr.pathMentions, String.toList_ofList, isPrefixOf_of_mem_cuts h, Bool.or_true]

theorem findSome?_eq {α β : Type} {f g : α → Option β} {as : List α} (h : ∀ a ∈ as, f a = g a) :
    as.findSome? f = as.findSome? g := by
  induction as with
  | nil => rfl
  | cons a as ih =>
    rw [List.forall_mem_cons] at h
    rw [List.findSome?_cons, List.findSome?_cons, h.1, ih h.2]

theorem resolve_eq (h : ∀ name, Expr.pathMentions name path = true → s₁.get? name = s₂.get? name) :
    s₁.resolve path = s₂.resolve path := by
  have hcuts : (cuts path.toList).findSome? (fun c =>
        (s₁.get? (String.ofList c.1)).map (walk · c.2)) =
      (cuts path.toList).findSome? fun c => (s₂.get? (String.ofList c.1)).map (walk · c.2) :=
    findSome?_eq fun c hc => by rw [h _ (pathMentions_of_mem_cuts hc)]
  simp only [resolve, h path (by simp [Expr.pathMentions])]
  cases s₂.get? path with
  | some v => rfl
  | none => exact congrArg (·.getD .null) hcuts

end Scope

variable {r : Registry} {s₁ s₂ : Scope} {c₁ c₂ : Context}

theorem agree_itemPaths {items : List Expr} :
    Scope.Agree (Expr.itemPaths items) s₁ s₂ ↔ ∀ e ∈ items, Scope.Agree e.paths s₁ s₂ := by
  induction items with
  | nil => simp [Expr.itemPaths, Scope.Agree]
  | cons e items ih => rw [Expr.itemPaths, Scope.agree_append, ih, List.forall_mem_cons]

theorem agree_entryPaths {entries : List (String × Expr)} :
    Scope.Agree (Expr.entryPaths entries) s₁ s₂ ↔ ∀ e ∈ entries, Scope.Agree e.2.paths s₁ s₂ := by
  induction entries with
  | nil => simp [Expr.entryPaths, Scope.Agree]
  | cons e entries ih => rw [Expr.entryPaths, Scope.agree_append, ih, List.forall_mem_cons]

theorem evalItems_eq {items : List Expr} (h : ∀ e ∈ items, eval r s₁ e = eval r s₂ e) :
    evalItems r s₁ items = evalItems r s₂ items := by
  induction items with
  | nil => rfl
  | cons e items ih =>
    rw [List.forall_mem_cons] at h
    simp only [evalItems, h.1, ih h.2]

theorem evalEntries_eq {entries : List (String × Expr)} {done : Context}
    (h : ∀ e ∈ entries, ∀ frame, eval r (s₁.push frame) e.2 = eval r (s₂.push frame) e.2) :
    evalEntries r s₁ done entries = evalEntries r s₂ done entries := by
  induction entries generalizing done with
  | nil => rfl
  | cons e entries ih =>
    rw [List.forall_mem_cons] at h
    simp only [evalEntries, h.1, ih h.2]

-- The frames that loops, filters and contexts open are the same on both sides, since what they
-- bind was evaluated to the same.
theorem eval_eq_of_agree {e : Expr} (h : Scope.Agree e.paths s₁ s₂) :
    eval r s₁ e = eval r s₂ e := by
  induction e using Expr.induction generalizing s₁ s₂ with
  | literal l => rfl
  | reference path =>
    simp only [eval, Scope.resolve_eq (h path (List.mem_singleton_self path))]
  | binary op l u hl hu =>
    rw [Expr.paths, Scope.agree_append] at h
    simp only [eval, hl h.1, hu h.2]
  | range l u i j hl hu =>
    rw [Expr.paths, Scope.agree_append] at h
    simp only [eval, hl h.1, hu h.2]
  | unary op e he | property e key he | instanceOf e type he =>
    rw [Expr.paths] at h
    simp only [eval, he h]
  | list items hitems =>
    rw [Expr.paths, agree_itemPaths] at h
    simp only [eval, evalItems_eq fun e he => hitems e he (h e he)]
  | call f arguments harguments =>
    rw [Expr.paths, agree_itemPaths] at h
    simp only [eval, evalItems_eq fun e he => harguments e he (h e he)]
  | context entries hentries =>
    rw [Expr.paths, agree_entryPaths] at h
    simp only [eval, evalEntries_eq fun e he frame => hentries e he ((h e he).push frame)]
  | conditional c y n hc hy hn =>
    rw [Expr.paths, Scope.agree_append, Scope.agree_append] at h
    simp only [eval, hc h.1.1, hy h.1.2, hn h.2]
  | between e l u he hl hu =>
    rw [Expr.paths, Scope.agree_append, Scope.agree_append] at h
    simp only [eval, he h.1.1, hl h.1.2, hu h.2]
  | loop name s b hs hb =>
    rw [Expr.paths, Scope.agree_append] at h
    simp only [eval, hs h.1, hb (h.2.push _)]
  | quantified q name s p hs hp =>
    rw [Expr.paths, Scope.agree_append] at h
    simp only [eval, hs h.1, hp (h.2.push _)]
  | filter b p hb hp =>
    rw [Expr.paths, Scope.agree_append] at h
    simp only [eval, hb h.1, hp h.2, hp (h.2.push _)]

theorem evaluate_eq_of_mentions (r : Registry) {e : Expr}
    (h : ∀ name, e.mentions name = true → c₁.get? name = c₂.get? name) :
    evaluate r e c₁ = evaluate r e c₂ := by
  refine eval_eq_of_agree fun path hpath name hname => ?_
  rw [Scope.get?_singleton, Scope.get?_singleton]
  exact h name (List.any_eq_true.2 ⟨path, hpath, hname⟩)

-- The loop hides `x`, not `x.y`, which decides what `x.y.z` means; nothing asks for `z`.
theorem evaluate_eq_of_mentions_loop :
    let e : Expr := .loop "x" (.reference "xs") (.reference "x.y.z")
    let shared : Context := [("xs", .list [.null]), ("x.y", .context [("z", .boolean true)])]
    let other : Context := ("z", .boolean false) :: shared
    (∀ name, e.mentions name = true → Context.get? shared name = Context.get? other name) ∧
      evaluate .empty e other = .ok (.list [.boolean true]) := by
  intro e shared other
  have h : ∀ name, e.mentions name = true → Context.get? shared name = Context.get? other name := by
    intro name hname
    have hz : name ≠ "z" := by
      rintro rfl
      exact absurd hname (by decide)
    simp [other, Context.get?, List.lookup_cons, beq_eq_false_iff_ne.2 hz]
  exact ⟨h, (evaluate_eq_of_mentions .empty h).symm.trans rfl⟩

end Rulebook
