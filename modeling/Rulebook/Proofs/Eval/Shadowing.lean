import Rulebook.Proofs.Eval.Relevance

/-!
What the names that an expression binds itself leave of the caller's. A loop hides the caller's
entry of its own name, but not those for paths that start at it, since a path is looked up as a
whole before its fronts. A filter hides the caller's `item` from its test of the items; outside of
any item it is evaluated all the same, and may turn out to be a position.
-/

namespace Rulebook

namespace Expr

variable {e : Expr} {name path front : String}

theorem pathMentions_trans (h₁ : pathMentions name front = true)
    (h₂ : pathMentions front path = true) : pathMentions name path = true := by
  simp only [pathMentions, Bool.or_eq_true, beq_iff_eq, List.isPrefixOf_iff_prefix] at h₁ h₂ ⊢
  obtain rfl | h₁ := h₁
  · exact h₂
  · obtain rfl | h₂ := h₂
    · exact .inr h₁
    · exact .inr (h₁.trans ((List.prefix_append ..).trans h₂))

theorem mentions_iff : e.mentions name = true ↔ ∃ path ∈ e.paths, pathMentions name path = true :=
  List.any_eq_true

end Expr

open Rulebook.Expr (pathMentions pathMentions_trans mentions_iff)

variable {r : Registry} {e source body base test : Expr} {name : String} {s₁ s₂ : Scope}
  {c c₁ c₂ : Context}

theorem Scope.agree_paths_iff :
    Scope.Agree e.paths s₁ s₂ ↔ ∀ key, e.mentions key = true → s₁.get? key = s₂.get? key := by
  constructor
  · intro h key hkey
    obtain ⟨path, hpath, hmention⟩ := mentions_iff.1 hkey
    exact h path hpath key hmention
  · intro h path hpath key hkey
    exact h key (mentions_iff.2 ⟨path, hpath, hkey⟩)

-- Where the frame binds the names that the scopes tell apart, it hides the difference.
theorem Scope.agree_push {frame : Context}
    (h : ∀ key, frame.get? key = none → e.mentions key = true → s₁.get? key = s₂.get? key) :
    Scope.Agree e.paths (s₁.push frame) (s₂.push frame) := by
  refine agree_paths_iff.2 fun key hkey => ?_
  rw [get?_push, get?_push]
  cases hframe : frame.get? key with
  | some v => rfl
  | none => rw [h key hframe hkey]

-- Of the caller's entries, that of the name itself and those that the body does not ask for are
-- hidden.
theorem evaluate_eq_of_bound (hsource : source.mentions name = false)
    (hother : ∀ key, pathMentions name key = false → c₁.get? key = c₂.get? key)
    (hbody : ∀ key, key ≠ name → body.mentions key = true → c₁.get? key = c₂.get? key) :
    evaluate r (.loop name source body) c₁ = evaluate r (.loop name source body) c₂ ∧
      ∀ q, evaluate r (.quantified q name source body) c₁ =
        evaluate r (.quantified q name source body) c₂ := by
  have heval : eval r [c₁] source = eval r [c₂] source := by
    refine eval_eq_of_agree (Scope.agree_paths_iff.2 fun key hkey => ?_)
    rw [Scope.get?_singleton, Scope.get?_singleton]
    refine hother key (Bool.eq_false_iff.2 fun hname => ?_)
    obtain ⟨path, hpath, hmention⟩ := mentions_iff.1 hkey
    have := mentions_iff.2 ⟨path, hpath, pathMentions_trans hname hmention⟩
    simp [hsource] at this
  have hitem (v : Value) : eval r (Scope.push [(name, v)] [c₁]) body =
      eval r (Scope.push [(name, v)] [c₂]) body := by
    refine eval_eq_of_agree (Scope.agree_push fun key hframe hkey => ?_)
    rw [Scope.get?_singleton, Scope.get?_singleton]
    refine hbody key (fun heq => ?_) hkey
    simp [Context.get?, heq] at hframe
  simp only [evaluate, eval, heval, hitem, implies_true, and_self]

-- The caller has an `x` and an `x.z` of its own, and the body asks for `x.y` and `low`.
theorem evaluate_eq_of_bound_rebound :
    let source : Expr := .reference "xs"
    let body : Expr := .binary .equal (.reference "x.y") (.reference "low")
    let c₁ : Context :=
      [("xs", .list [.context [("y", .boolean true)]]), ("low", .boolean true)]
    let c₂ : Context := ("x", .context [("y", .boolean false)]) :: ("x.z", .null) :: c₁
    source.mentions "x" = false ∧
      (∀ key, pathMentions "x" key = false → Context.get? c₁ key = Context.get? c₂ key) ∧
      (∀ key, key ≠ "x" → body.mentions key = true → Context.get? c₁ key = Context.get? c₂ key) ∧
      evaluate .empty (.loop "x" source body) c₂ = .ok (.list [.boolean true]) ∧
      evaluate .empty (.quantified .some "x" source body) c₂ = .ok (.boolean true) := by
  intro source body c₁ c₂
  have hget (key : String) (hx : key ≠ "x") (hz : key ≠ "x.z") :
      Context.get? c₁ key = Context.get? c₂ key := by
    simp [c₂, Context.get?, List.lookup_cons, beq_eq_false_iff_ne.2 hx, beq_eq_false_iff_ne.2 hz]
  have hother (key : String) (hkey : pathMentions "x" key = false) :
      Context.get? c₁ key = Context.get? c₂ key := by
    refine hget key ?_ ?_ <;>
      · rintro rfl
        exact absurd hkey (by decide)
  have hbody (key : String) (hx : key ≠ "x") (hkey : body.mentions key = true) :
      Context.get? c₁ key = Context.get? c₂ key := by
    refine hget key hx ?_
    rintro rfl
    exact absurd hkey (by decide)
  have hsource : source.mentions "x" = false := by decide
  obtain ⟨hloop, hquantified⟩ := evaluate_eq_of_bound (r := .empty) hsource hother hbody
  exact ⟨hsource, hother, hbody, hloop.symm.trans rfl, (hquantified .some).symm.trans rfl⟩

-- The caller's `x.y` stands in the place of the member `y` of every item.
theorem not_evaluate_eq_of_rooted :
    ¬∀ (r : Registry) (name : String) (source body : Expr) (c₁ c₂ : Context),
      source.mentions name = false →
      (∀ key, pathMentions name key = false → c₁.get? key = c₂.get? key) →
      evaluate r (.loop name source body) c₁ = evaluate r (.loop name source body) c₂ ∧
        ∀ q, evaluate r (.quantified q name source body) c₁ =
          evaluate r (.quantified q name source body) c₂ := by
  intro h
  let source : Expr := .list [.context [("y", .literal (.boolean true))]]
  let loop : Expr := .loop "x" source (.reference "x.y")
  have hother (key : String) (hkey : pathMentions "x" key = false) :
      Context.get? [] key = Context.get? [("x.y", .boolean false)] key := by
    have hne : key ≠ "x.y" := by
      rintro rfl
      exact absurd hkey (by decide)
    simp [Context.get?, List.lookup_cons, beq_eq_false_iff_ne.2 hne]
  have hmember : evaluate .empty loop [] = .ok (.list [.boolean true]) := rfl
  have hentry : evaluate .empty loop [("x.y", .boolean false)] = .ok (.list [.boolean false]) := rfl
  have heq := (h .empty "x" source (.reference "x.y") [] [("x.y", .boolean false)] rfl hother).1
  rw [hmember, hentry] at heq
  cases heq

-- The position for which a test asks where there is no item.
def askedPosition? : Outcome Value → Option Float
  | .ok (.number x) => some x
  | _ => none

-- The test never asks for a position, but holds of the same items.
def Expr.asTruth (test : Expr) : Expr :=
  .conditional test (.literal (.boolean true)) (.literal (.boolean false))

section

variable {outer : Outcome Value} {f : Value → Outcome Value} {items : List Value} {x : Float}

theorem filterItems_of_askedPosition? (h : askedPosition? outer = some x) :
    filterItems test outer f items = .ok (Value.elementAt items x) := by
  unfold askedPosition? at h
  split at h
  case h_1 => cases h; rfl
  case h_2 => cases h

theorem filterItems_of_ok {v : Value} (h : askedPosition? (.ok v) = none) :
    filterItems test (.ok v) f items = (selectWhere f items).map .list := by
  cases v with
  | number x => cases h
  | _ => rfl

theorem filterItems_of_mentions (hposition : askedPosition? outer = none)
    (h : test.mentions itemName = true) :
    filterItems test outer f items = (selectWhere f items).map .list := by
  cases outer with
  | ok v => exact filterItems_of_ok hposition
  | error e => exact if_pos (by rw [bindsItemNames, h, Bool.true_or])

theorem mentions_asTruth : test.asTruth.mentions name = test.mentions name := by
  simp [Expr.mentions, Expr.asTruth, Expr.paths]

theorem eval_asTruth {s : Scope} :
    eval r s test.asTruth = (eval r s test).map fun v => .boolean v.isTrue := by
  simp only [Expr.asTruth, eval]
  cases eval r s test with
  | error e => rfl
  | ok v => cases h : v.isTrue <;> simp [bind, Except.bind, Except.map, h, Literal.value]

theorem selectWhere_isTrue :
    selectWhere (fun v => (f v).map fun w => .boolean w.isTrue) items = selectWhere f items := by
  induction items with
  | nil => rfl
  | cons v items ih =>
    simp only [selectWhere, ih]
    cases f v <;> rfl

theorem filterItems_asTruth (h : askedPosition? outer = none) :
    filterItems test.asTruth (outer.map fun v => .boolean v.isTrue)
        (fun v => (f v).map fun w => .boolean w.isTrue) items =
      filterItems test outer f items := by
  cases outer with
  | ok v =>
    show filterItems test.asTruth (.ok (.boolean v.isTrue)) _ items = _
    rw [filterItems_of_ok rfl, filterItems_of_ok h, selectWhere_isTrue]
  | error e =>
    have hbinds : bindsItemNames test.asTruth items = bindsItemNames test items := by
      simp only [bindsItemNames, mentions_asTruth]
    show filterItems test.asTruth (.error e) _ items = _
    unfold filterItems
    rw [hbinds, selectWhere_isTrue]

-- The two tests of the items may differ, as long as they are the same if the item is not mentioned.
theorem filterItems_congr {outer' : Outcome Value}
    (hposition : askedPosition? outer = askedPosition? outer')
    (houter : test.mentions itemName = false → outer = outer') :
    filterItems test outer f items = filterItems test outer' f items := by
  cases hmentions : test.mentions itemName with
  | false => rw [houter hmentions]
  | true =>
    cases h : askedPosition? outer with
    | some x =>
      rw [filterItems_of_askedPosition? h, filterItems_of_askedPosition? (hposition ▸ h)]
    | none =>
      rw [filterItems_of_mentions h hmentions, filterItems_of_mentions (hposition ▸ h) hmentions]

end

section

variable (hbase : base.mentions itemName = false)
  (hother : ∀ key, key ≠ itemName → c₁.get? key = c₂.get? key)
include hbase hother

theorem evaluate_filter_congr
    (hposition : askedPosition? (evaluate r test c₁) = askedPosition? (evaluate r test c₂)) :
    evaluate r (.filter base test) c₁ = evaluate r (.filter base test) c₂ := by
  have hagree {e : Expr} (he : e.mentions itemName = false) : evaluate r e c₁ = evaluate r e c₂ := by
    refine eval_eq_of_agree (Scope.agree_paths_iff.2 fun key hkey => ?_)
    rw [Scope.get?_singleton, Scope.get?_singleton]
    exact hother key (by rintro rfl; simp [he] at hkey)
  have hitem (v : Value) : eval r (Scope.push (itemFrame v) [c₁]) test =
      eval r (Scope.push (itemFrame v) [c₂]) test := by
    refine eval_eq_of_agree (Scope.agree_push fun key hframe _ => ?_)
    rw [Scope.get?_singleton, Scope.get?_singleton]
    refine hother key ?_
    rintro rfl
    simp [itemFrame, Context.get?] at hframe
  have hbase : eval r [c₁] base = eval r [c₂] base := hagree hbase
  have houter (f : Value → Outcome Value) (items : List Value) :
      filterItems test (eval r [c₁] test) f items = filterItems test (eval r [c₂] test) f items :=
    filterItems_congr hposition hagree
  simp only [evaluate, eval, hbase, hitem, houter]

end

theorem evaluate_filter_of_askedPosition? {x : Float}
    (h : askedPosition? (evaluate r test c) = some x) :
    evaluate r (.filter base test) c = evaluate r (.filter base (.literal (.number x))) c := by
  have houter (f : Value → Outcome Value) (items : List Value) :
      filterItems test (eval r [c] test) f items = .ok (Value.elementAt items x) :=
    filterItems_of_askedPosition? h
  simp only [evaluate, eval, houter]
  rfl

theorem evaluate_filter_asTruth (h : askedPosition? (evaluate r test c) = none) :
    evaluate r (.filter base test.asTruth) c = evaluate r (.filter base test) c := by
  have houter (f : Value → Outcome Value) (items : List Value) :
      filterItems test.asTruth ((eval r [c] test).map fun v => .boolean v.isTrue)
          (fun v => (f v).map fun w => .boolean w.isTrue) items =
        filterItems test (eval r [c] test) f items :=
    filterItems_asTruth h
  simp only [evaluate, eval, eval_asTruth, houter]

theorem askedPosition?_asTruth : askedPosition? (evaluate r test.asTruth c) = none := by
  rw [evaluate, eval_asTruth]
  cases eval r [c] test <;> rfl

-- The caller's `item` can only be seen in the position that the test asks for outside of any item.
theorem evaluate_filter_outer (hbase : base.mentions itemName = false)
    (hother : ∀ key, key ≠ itemName → c₁.get? key = c₂.get? key) :
    (askedPosition? (evaluate r test c₁) = askedPosition? (evaluate r test c₂) →
      evaluate r (.filter base test) c₁ = evaluate r (.filter base test) c₂) ∧
    evaluate r (.filter base test) c₁ =
      match askedPosition? (evaluate r test c₁) with
      | some x => evaluate r (.filter base (.literal (.number x))) c₂
      | none => evaluate r (.filter base test.asTruth) c₂ := by
  refine ⟨evaluate_filter_congr hbase hother, ?_⟩
  split
  case h_1 x hposition =>
    rw [evaluate_filter_of_askedPosition? hposition, evaluate_filter_congr hbase hother rfl]
  case h_2 hposition =>
    rw [← evaluate_filter_asTruth hposition]
    exact evaluate_filter_congr hbase hother
      (askedPosition?_asTruth.trans askedPosition?_asTruth.symm)

-- Which items are true, asked where `item` is nothing, a text and the number of the first item.
theorem evaluate_filter_outer_flags :
    let base : Expr := .reference "flags"
    let test : Expr := .reference "item"
    let c : Context := [("flags", .list [.boolean false, .boolean true])]
    let worded : Context := ("item", .string "a") :: c
    let numbered : Context := ("item", .number 1) :: c
    (base.mentions itemName = false ∧
      (∀ key, key ≠ itemName → Context.get? c key = Context.get? worded key) ∧
      (∀ key, key ≠ itemName → Context.get? numbered key = Context.get? worded key) ∧
      askedPosition? (evaluate .empty test c) = askedPosition? (evaluate .empty test worded)) ∧
    evaluate .empty (.filter base test) c = .ok (.list [.boolean true]) ∧
      evaluate .empty (.filter base test) worded = .ok (.list [.boolean true]) ∧
      evaluate .empty (.filter base test) numbered = .ok (.boolean false) := by
  intro base test c worded numbered
  have hbase : base.mentions itemName = false := by decide
  have hget (v : Value) (key : String) (hkey : key ≠ itemName) :
      Context.get? ((itemName, v) :: c) key = Context.get? c key := by
    simp [Context.get?, List.lookup_cons, beq_eq_false_iff_ne.2 hkey]
  have hworded (key : String) (hkey : key ≠ itemName) :
      Context.get? c key = Context.get? worded key := (hget _ key hkey).symm
  have hnumbered (key : String) (hkey : key ≠ itemName) :
      Context.get? numbered key = Context.get? worded key :=
    (hget _ key hkey).trans (hworded key hkey)
  have hposition : askedPosition? (evaluate .empty test c) =
      askedPosition? (evaluate .empty test worded) := rfl
  have hsame := (evaluate_filter_outer hbase hworded).1 hposition
  have hasked : evaluate .empty (.filter base test) numbered =
      evaluate .empty (.filter base (.literal (.number 1))) worded :=
    (evaluate_filter_outer hbase hnumbered).2
  have hlist : evaluate .empty (.filter base test) worded = .ok (.list [.boolean true]) := rfl
  exact ⟨⟨hbase, hworded, hnumbered, hposition⟩, hsame.trans hlist, hlist, hasked.trans rfl⟩

end Rulebook
