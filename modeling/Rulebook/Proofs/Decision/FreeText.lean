import Mathlib.Data.List.TakeWhile
import Rulebook.Proofs.Decision.Evaluation
import Rulebook.Proofs.Eval.Relevance
import Rulebook.Proofs.Value.Related

/-!
Free text among the outputs. Operators over names that the context does not know evaluate to null,
since every operator gives null where it is given nothing else, and the cell then says what was
written in it.
-/

namespace Rulebook

open Syntax (inputName parseExpression)

namespace Expr

-- Unary and binary operators over variables that have the property.
inductive MadeOf (p : String → Prop) : Expr → Prop
  | reference {path : String} (h : p path) : MadeOf p (.reference path)
  | binary {op : BinaryOp} {left right : Expr} (hleft : MadeOf p left) (hright : MadeOf p right) :
    MadeOf p (.binary op left right)
  | unary {op : UnaryOp} {operand : Expr} (h : MadeOf p operand) : MadeOf p (.unary op operand)

variable {p q : String → Prop} {e : Expr}

theorem MadeOf.imp (h : e.MadeOf p) (hpq : ∀ path, p path → q path) : e.MadeOf q := by
  induction h with
  | reference h => exact .reference (hpq _ h)
  | binary _ _ ihl ihr => exact .binary ihl ihr
  | unary _ ih => exact .unary ih

theorem madeOf_iff : e.MadeOf p ↔ ∃ names, e.freeNames? = some names ∧ ∀ name ∈ names, p name := by
  constructor
  · intro h
    induction h with
    | reference h => exact ⟨_, rfl, by simpa using h⟩
    | binary _ _ ihl ihr =>
      obtain ⟨ls, hls, hl⟩ := ihl
      obtain ⟨rs, hrs, hr⟩ := ihr
      exact ⟨ls ++ rs, by simp [freeNames?, hls, hrs], List.forall_mem_append.2 ⟨hl, hr⟩⟩
    | unary _ ih => exact ih
  · rintro ⟨names, hnames, h⟩
    induction e using freeNames?.induct generalizing names with
    | case1 path =>
      cases hnames
      exact .reference (h _ (.head _))
    | case2 op left right ihl ihr =>
      simp only [freeNames?, Option.bind_eq_bind, Option.bind_eq_some_iff, Option.some.injEq]
        at hnames
      obtain ⟨ls, hls, rs, hrs, rfl⟩ := hnames
      obtain ⟨hl, hr⟩ := List.forall_mem_append.1 h
      exact .binary (ihl ls hls hl) (ihr rs hrs hr)
    | case3 op operand ih => exact .unary (ih names hnames h)
    | case4 e hreference hbinary hunary =>
      cases e
      case reference path => exact absurd rfl (hreference path)
      case binary op left right => exact absurd rfl (hbinary op left right)
      case unary op operand => exact absurd rfl (hunary op operand)
      all_goals cases hnames

end Expr

-- No front of the path, up to the whole of it, is bound.
def Context.Unknown (context : Context) (path : String) : Prop :=
  ∀ front, Expr.pathMentions front path = true → context.get? front = none

-- A word of free text; the value under test is none.
def Context.IsWord (context : Context) (path : String) : Prop :=
  path ≠ inputName ∧ context.Unknown path

theorem Context.unknown_iff {context : Context} {path : String} :
    context.Unknown path ↔ ∀ key ∈ context.keys, Expr.pathMentions key path = false := by
  have hnone (key : String) : context.get? key = none ↔ key ∉ context.keys := by
    rw [get?, List.lookup_eq_none_iff, keys, List.mem_map, not_exists]
    exact forall_congr' fun entry => by
      rw [not_and, bne_iff_ne, ne_comm]
  simp only [Unknown, hnone, ← Bool.not_eq_true]
  exact ⟨fun h key hkey hfront => h key hfront hkey, fun h front hfront hkey => h front hkey hfront⟩

instance {context : Context} {path : String} : Decidable (context.IsWord path) :=
  decidable_of_iff (_ ∧ _) (and_congr_right' Context.unknown_iff.symm)

namespace Value

theorem binary_null (op : BinaryOp) : binary op null null = .ok null := by
  cases op <;> rfl

theorem unary_null (op : UnaryOp) : unary op null = .ok null := by
  cases op <;> rfl

theorem eq_string_of_beq {v : Value} {s : String} (h : (v == string s) = true) : v = string s := by
  cases v
  case string a => exact congrArg string (beq_iff_eq.1 (show (a == s) = true from h))
  all_goals cases h

theorem eq_string_of_string_beq {v : Value} {s : String} (h : (string s == v) = true) :
    v = string s := by
  cases v
  case string a => exact congrArg string (beq_iff_eq.1 (show (s == a) = true from h)).symm
  all_goals cases h

end Value

theorem decidesAlone_null (op : BinaryOp) : decidesAlone op .null = false := by
  cases op <;> rfl

variable {r : Registry} {context : Context} {e : Expr} {path entry : String}

theorem Scope.resolve_eq_null (h : context.Unknown path) :
    Scope.resolve [context] path = .null := by
  have hnone : ∀ key, Expr.pathMentions key path = true → get? [context] key = get? [] key :=
    fun key hkey => (get?_singleton context key).trans (h key hkey)
  rw [resolve_eq hnone]
  simp only [resolve, get?, List.findSome?_nil, Option.map_none]
  rw [List.findSome?_eq_none_iff.2 fun _ _ => rfl]
  rfl

theorem evaluate_eq_null (h : e.MadeOf context.Unknown) : evaluate r e context = .ok .null := by
  rw [evaluate]
  induction h with
  | reference h => rw [eval, Scope.resolve_eq_null h]
  | @binary op _ _ _ _ ihl ihr =>
    rw [eval, ihl, ihr]
    show (if decidesAlone op .null = true then .ok .null else Value.binary op .null .null) = _
    rw [decidesAlone_null, Value.binary_null]
    rfl
  | @unary op _ _ ih =>
    rw [eval, ih]
    exact Value.unary_null op

theorem pathMentions_firstSegment (path : String) :
    Expr.pathMentions (firstSegment path) path = true := by
  rw [Expr.pathMentions, firstSegment, String.toList_ofList, Bool.or_eq_true, beq_iff_eq,
    List.isPrefixOf_iff_prefix]
  have happend := List.takeWhile_append_dropWhile (p := (· != '.')) (l := path.toList)
  cases hrest : path.toList.dropWhile (· != '.') with
  | nil =>
    rw [hrest, List.append_nil] at happend
    exact .inl (by rw [happend, String.ofList_toList])
  | cons c rest =>
    have hc : c = '.' := by
      have := List.head?_dropWhile_not (· != '.') path.toList
      simpa [hrest] using this
    rw [hrest, hc] at happend
    exact .inr ⟨rest, by rw [List.append_assoc]; exact happend⟩

theorem isUnbound_of_isWord (h : context.IsWord path) : isUnbound context path = true := by
  have hwhole : context.get? path = none := h.2 path (by simp [Expr.pathMentions])
  have hfirst := h.2 _ (pathMentions_firstSegment path)
  simp [isUnbound, Context.contains, h.1, hwhole, hfirst]

theorem isFreeText_of_madeOf (h : e.MadeOf context.IsWord) : isFreeText e context = true := by
  obtain ⟨names, hnames, hwords⟩ := Expr.madeOf_iff.1 h
  simp only [isFreeText, hnames]
  exact List.all_eq_true.2 fun name hname => isUnbound_of_isWord (hwords name hname)

theorem not_isAllBlank_of_parse (h : parseExpression (Text.trim entry) = .ok e) :
    Text.isAllBlank entry = false ∧ (Text.trim entry).isEmpty = false := by
  have hempty : (Text.trim entry).isEmpty = false := by
    rw [Bool.eq_false_iff]
    intro hempty
    have hfails : (parseExpression "").toOption.isSome = false := by decide +kernel
    rw [String.isEmpty_iff.1 hempty] at h
    rw [h] at hfails
    cases hfails
  refine ⟨Bool.eq_false_iff.2 fun hblank => ?_, hempty⟩
  rw [Text.isAllBlank, List.all_eq_true] at hblank
  have : Text.trim entry = "" := by
    rw [Text.trim, List.dropWhile_eq_nil_iff.2 hblank]
    rfl
  rw [this] at hempty
  cases hempty

-- The text of the cell is what comes out.
theorem Column.outputValue_eq_text {c : Column} (h : parseExpression (Text.trim entry) = .ok e)
    (hwords : e.MadeOf context.IsWord) :
    c.outputValue r context entry = .ok (.string (Text.trim entry)) := by
  obtain ⟨hblank, hempty⟩ := not_isAllBlank_of_parse h
  simp only [outputValue, hblank, hempty, Bool.false_eq_true, ↓reduceIte, h,
    evaluate_eq_null (hwords.imp fun _ h => h.2)]
  simp [Except.map, Value.isNull, isFreeText_of_madeOf hwords]

theorem exists_mapM_of_forall {α β ε : Type} {f : α → Except ε β} {as : List α}
    (h : ∀ a ∈ as, ∃ b, f a = .ok b) : ∃ bs, as.mapM f = .ok bs := by
  induction as with
  | nil => exact ⟨[], rfl⟩
  | cons a as ih =>
    rw [List.forall_mem_cons] at h
    obtain ⟨⟨b, hb⟩, has⟩ := h
    obtain ⟨bs, hbs⟩ := ih has
    exact ⟨b :: bs, by rw [List.mapM_cons, hb, hbs]; rfl⟩

namespace HitPolicy

variable {policy : HitPolicy} {ids : List String} {found : List Match} {resolution : Resolution}

theorem checkCount_eq_ok_iff :
    policy.checkCount ids = .ok () ↔ (policy = .unique → ids.length = 1) := by
  cases policy
  case unique =>
    match ids with
    | [] => exact ⟨nofun, fun h => absurd (h rfl) (by decide)⟩
    | [id] => exact ⟨fun _ _ => rfl, fun _ => rfl⟩
    | _ :: _ :: _ => exact ⟨nofun, fun h => absurd (h rfl) (by simp)⟩
  all_goals exact ⟨fun _ => nofun, fun _ => rfl⟩

theorem exists_resolve_iff : (∃ resolution, policy.resolve found = .ok resolution) ↔
    (policy = .any → found.Pairwise fun m n => m.output == n.output) := by
  cases policy
  case any =>
    simp only [resolve, ← agree_iff]
    split <;> simp_all
  all_goals
    refine iff_of_true ⟨_, rfl⟩ fun hany => ?_
    cases hany

theorem of_resolve (h : policy.resolve found = .ok resolution) :
    resolution.output = found.head?.map (·.output) ∧
      (policy = .collect → resolution.collected = some found) := by
  cases policy
  case any =>
    simp only [resolve] at h
    split at h <;> cases h
    exact ⟨rfl, HitPolicy.noConfusion⟩
  case collect =>
    cases h
    exact ⟨rfl, fun _ => rfl⟩
  all_goals
    cases h
    exact ⟨rfl, HitPolicy.noConfusion⟩

end HitPolicy

namespace Table

variable {t : Table} {column : Column} {rule : Rule} {rules : List Rule} {trace : List RuleTrace}
  {d : Decision} {s : Sources} {v : Value}

-- The rules whose outputs the hit policy chooses from.
def selected (r : Registry) (context : Context) (t : Table) : List Rule :=
  if t.policy.stopsAtFirstMatch then (t.applicable r context).take 1 else t.applicable r context

theorem exists_decision_eq_resolved (t : Table) (r : Registry) (context : Context) :
    ∃ trace, t.decision r context = t.resolved r context trace (t.selected r context) := by
  rw [← resolved_eq_decision, selected]
  split
  · exact ⟨_, rfl⟩
  · exact ⟨_, rfl⟩

theorem resolved_eq_ok_iff : t.resolved r context trace rules = .ok d ↔
    (t.policy = .unique → rules.length = 1) ∧
      ∃ found, rules.mapM (t.matchOf r context) = .ok found ∧
        ∃ chosen, t.policy.resolve found = .ok chosen ∧
          ⟨t.id, t.policy, chosen.output, chosen.rules, chosen.collected, trace⟩ = d := by
  have hcount : t.policy.checkCount (rules.map (·.id)) = .ok () ↔
      (t.policy = .unique → rules.length = 1) := by
    rw [HitPolicy.checkCount_eq_ok_iff, List.length_map]
  rw [← hcount, resolved]
  cases t.policy.checkCount (rules.map (·.id)) with
  | error e =>
    refine iff_of_false (fun h => ?_) fun h => ?_
    · cases h
    · cases h.1
  | ok _ =>
    cases rules.mapM (t.matchOf r context) with
    | error e =>
      refine iff_of_false (fun h => ?_) ?_
      · cases h
      · rintro ⟨-, found, hfound, -⟩
        cases hfound
    | ok found =>
      change ((t.policy.resolve found).mapError DecisionError.violation).map _ = _ ↔ _
      simp only [Except.ok.injEq, exists_eq_left', true_and]
      cases t.policy.resolve found with
      | error e =>
        refine iff_of_false (fun h => ?_) ?_
        · cases h
        · rintro ⟨resolution, hresolution, -⟩
          cases hresolution
      | ok resolution => simp [Except.mapError, Except.map]

theorem exists_decision_iff : (∃ d, t.decision r context = .ok d) ↔
    (t.policy = .unique → (t.selected r context).length = 1) ∧
      ∃ found, (t.selected r context).mapM (t.matchOf r context) = .ok found ∧
        (t.policy = .any → found.Pairwise fun m n => m.output == n.output) := by
  obtain ⟨trace, htrace⟩ := t.exists_decision_eq_resolved r context
  simp only [htrace, resolved_eq_ok_iff, ← HitPolicy.exists_resolve_iff]
  constructor
  · rintro ⟨d, hcount, found, hfound, resolution, h, -⟩
    exact ⟨hcount, found, hfound, resolution, h⟩
  · rintro ⟨hcount, found, hfound, resolution, h⟩
    exact ⟨_, hcount, found, hfound, resolution, h, rfl⟩

theorem of_decision (h : t.decision r context = .ok d) :
    (t.policy = .unique → (t.selected r context).length = 1) ∧
      ∃ found, (t.selected r context).mapM (t.matchOf r context) = .ok found ∧
        (t.policy = .any → found.Pairwise fun m n => m.output == n.output) ∧
        d.output = found.head?.map (·.output) ∧
        (t.policy = .collect → d.collected = some found) := by
  obtain ⟨trace, htrace⟩ := t.exists_decision_eq_resolved r context
  obtain ⟨hcount, found, hfound, resolution, hresolution, rfl⟩ :=
    resolved_eq_ok_iff.1 (htrace ▸ h)
  exact ⟨hcount, found, hfound, HitPolicy.exists_resolve_iff.1 ⟨_, hresolution⟩,
    HitPolicy.of_resolve hresolution⟩

theorem outputOf_of_single (houtputs : t.outputs = [column]) (hentry : rule.outputs = [entry])
    (h : column.outputValue r context entry = .ok v) : t.outputOf r context rule = .ok v := by
  rw [outputOf, houtputs]
  simp [hentry, Rule.output, h, Except.mapError]

theorem matchOf_eq_ok_iff {m : Match} : t.matchOf r context rule = .ok m ↔
    m.rule = rule.id ∧ t.outputOf r context rule = .ok m.output := by
  rw [matchOf]
  cases t.outputOf r context rule with
  | error e =>
    refine iff_of_false (fun h => ?_) fun h => ?_
    · cases h
    · cases h.2
  | ok v =>
    obtain ⟨id, output⟩ := m
    simp [Except.map, eq_comm]

theorem head?_selected (hrule : rule ∈ t.selected r context)
    (hcount : t.policy = .unique → (t.selected r context).length = 1)
    (hpolicy : t.policy ≠ .any ∧ t.policy ≠ .collect) :
    (t.selected r context).head? = some rule := by
  have hlength : (t.selected r context).length ≤ 1 := by
    cases hp : t.policy
    case unique => exact Nat.le_of_eq (hcount hp)
    case any => exact absurd hp hpolicy.1
    case collect => exact absurd hp hpolicy.2
    all_goals
      rw [selected, hp]
      exact List.length_take_le ..
  match hrules : t.selected r context with
  | [] => rw [hrules] at hrule; cases hrule
  | [first] => rw [hrules, List.mem_singleton] at hrule; rw [hrule]; rfl
  | _ :: _ :: _ => simp [hrules] at hlength

-- Where matches agree, one text among them is the output of all.
theorem output_eq_of_pairwise {found : List Match} {m n : Match} {text : String}
    (h : found.Pairwise fun m n => m.output == n.output) (hm : m ∈ found) (hn : n ∈ found)
    (htext : m.output = .string text) : n.output = .string text := by
  obtain ⟨before, behind, rfl⟩ := List.append_of_mem hm
  obtain ⟨-, htail, hacross⟩ := List.pairwise_append.1 h
  obtain hn | rfl | hn := (List.mem_append.trans (or_congr_right List.mem_cons)).1 hn
  · exact Value.eq_string_of_beq (htext ▸ hacross n hn m (.head _))
  · exact htext
  · exact Value.eq_string_of_string_beq (htext ▸ (List.pairwise_cons.1 htail).1 n hn)

section

variable (houtput : t.outputOf r context rule = .ok (.string (Text.trim entry)))
  (hrule : rule ∈ t.selected r context)
include houtput hrule

theorem exists_decision_iff_of_text : (∃ d, t.decision r context = .ok d) ↔
    (t.policy = .unique → t.selected r context = [rule]) ∧
      ∀ other ∈ t.selected r context, other ≠ rule → ∃ v, t.outputOf r context other = .ok v ∧
        (t.policy = .any → v = .string (Text.trim entry)) := by
  have hself : t.matchOf r context rule = .ok ⟨rule.id, .string (Text.trim entry)⟩ :=
    matchOf_eq_ok_iff.2 ⟨rfl, houtput⟩
  rw [exists_decision_iff, List.length_eq_one_iff]
  refine and_congr (imp_congr_right fun _ => ⟨?_, fun h => ⟨rule, h⟩⟩) ⟨?_, fun h => ?_⟩
  · rintro ⟨first, hfirst⟩
    rw [hfirst] at hrule ⊢
    rw [List.mem_singleton.1 hrule]
  · rintro ⟨found, hfound, hagree⟩ other hother -
    have hmatches := mapM_eq_ok_iff.1 hfound
    obtain ⟨m, hm, hmatch⟩ := exists_of_mem hmatches hrule
    obtain ⟨n, hn, hothers⟩ := exists_of_mem hmatches hother
    cases hself.symm.trans hmatch
    exact ⟨n.output, (matchOf_eq_ok_iff.1 hothers).2,
      fun hp => output_eq_of_pairwise (hagree hp) hm hn rfl⟩
  · have heach : ∀ other ∈ t.selected r context, ∃ v, t.outputOf r context other = .ok v ∧
        (t.policy = .any → v = .string (Text.trim entry)) := by
      intro other hother
      obtain rfl | hne := eq_or_ne other rule
      · exact ⟨_, houtput, fun _ => rfl⟩
      · exact h other hother hne
    obtain ⟨found, hfound⟩ := exists_mapM_of_forall fun other hother =>
      (heach other hother).imp' (Match.mk other.id) fun _ hv => matchOf_eq_ok_iff.2 ⟨rfl, hv.1⟩
    refine ⟨found, hfound, fun hp => List.pairwise_of_forall_mem_list fun m hm n hn => ?_⟩
    have houtput {m : Match} (hm : m ∈ found) : m.output = .string (Text.trim entry) := by
      obtain ⟨other, hother, hmatch⟩ := exists_of_mem (mapM_eq_ok_iff.1 hfound).flip hm
      obtain ⟨v, hv, htext⟩ := heach other hother
      cases hv.symm.trans (matchOf_eq_ok_iff.1 hmatch).2
      exact htext hp
    rw [houtput hm, houtput hn]
    exact beq_self_eq_true (Text.trim entry)

theorem output_of_decision (h : t.decision r context = .ok d) :
    (d.output = some (.string (Text.trim entry)) ∨
        t.policy = .collect ∧ (t.selected r context).head? ≠ some rule) ∧
      (t.policy = .collect → ∃ found, d.collected = some found ∧
        ⟨rule.id, .string (Text.trim entry)⟩ ∈ found) := by
  obtain ⟨hcount, found, hfound, hagree, hdecided, hcollected⟩ := of_decision h
  have hself : t.matchOf r context rule = .ok ⟨rule.id, .string (Text.trim entry)⟩ :=
    matchOf_eq_ok_iff.2 ⟨rfl, houtput⟩
  have hmatches := mapM_eq_ok_iff.1 hfound
  obtain ⟨m, hm, hmatch⟩ := exists_of_mem hmatches hrule
  cases hself.symm.trans hmatch
  refine ⟨?_, fun hp => ⟨found, hcollected hp, hm⟩⟩
  by_cases hhead : (t.selected r context).head? = some rule
  case pos =>
    refine .inl ?_
    obtain ⟨others, hothers⟩ := List.head?_eq_some_iff.1 hhead
    rw [hothers] at hmatches
    cases hmatches with
    | cons hfirst _ =>
      cases hself.symm.trans hfirst
      exact hdecided
  case neg =>
    have hshared := mt (head?_selected hrule hcount) hhead
    cases hp : t.policy
    case collect => exact .inr ⟨rfl, hhead⟩
    case any =>
      refine .inl (hdecided.trans ?_)
      cases found with
      | nil => cases hm
      | cons first found =>
        exact congrArg some (output_eq_of_pairwise (hagree hp) hm (.head _) rfl)
    all_goals simp [hp] at hshared

end

-- The decision is there unless another rule stands in its way, and it is the text; under COLLECT,
-- where the first rule answers for all, the text is reported for its rule.
theorem decide_freeText (hs : s.Faithful) (houtputs : t.outputs = [column])
    (hrule : rule ∈ t.selected r context) (hentry : rule.outputs = [entry])
    (hparse : parseExpression (Text.trim entry) = .ok e) (hwords : e.MadeOf context.IsWord) :
    ((∃ d, ((t.decide r context).run s).1 = .ok d) ↔
      (t.policy = .unique → t.selected r context = [rule]) ∧
        ∀ other ∈ t.selected r context, other ≠ rule → ∃ v, t.outputOf r context other = .ok v ∧
          (t.policy = .any → v = .string (Text.trim entry))) ∧
    ∀ d, ((t.decide r context).run s).1 = .ok d →
      (d.output = some (.string (Text.trim entry)) ∨
        t.policy = .collect ∧ (t.selected r context).head? ≠ some rule) ∧
      (t.policy = .collect → ∃ found, d.collected = some found ∧
        ⟨rule.id, .string (Text.trim entry)⟩ ∈ found) := by
  rw [(t.yields_decide r context s hs).1]
  have houtput := outputOf_of_single houtputs hentry
    (Column.outputValue_eq_text (r := r) (c := column) hparse hwords)
  exact ⟨exists_decision_iff_of_text houtput hrule, fun d => output_of_decision houtput hrule⟩

theorem decide_freeText_joined :
    let entry := "  a.b-c and not d  "
    let context : Context := [("b", .null), ("a.c", .null)]
    let rules : List Rule := [⟨"r", [], [entry]⟩, ⟨"q", [], ["1"]⟩]
    let t : Table := ⟨"t", .first, [], [⟨"o", "", ""⟩], rules, by decide⟩
    let s : Sources := .ofConfig {}
    ∃ d, ((t.decide .empty context).run s).1 = .ok d ∧
      d.output = some (.string "a.b-c and not d") := by
  intro entry context rules t s
  have hselected : t.selected .empty context = [⟨"r", [], [entry]⟩] := by decide
  have htext : Text.trim entry = "a.b-c and not d" := by decide
  have hnames : (parseExpression (Text.trim entry)).toOption.map Expr.freeNames? =
      some (some ["a.b", "c", "d"]) := by
    decide +kernel
  cases hparse : parseExpression (Text.trim entry) with
  | error e =>
    rw [hparse] at hnames
    cases hnames
  | ok e =>
    rw [hparse] at hnames
    have hwords : e.MadeOf context.IsWord :=
      Expr.madeOf_iff.2 ⟨_, Option.some.inj hnames, by decide⟩
    obtain ⟨hdecides, houtput⟩ := decide_freeText Sources.faithful_ofConfig rfl
      (hselected ▸ List.mem_singleton_self _) rfl hparse hwords
    obtain ⟨d, hd⟩ := hdecides.2 ⟨nofun, fun other hother hne =>
      absurd (List.mem_singleton.1 (hselected ▸ hother)) hne⟩
    obtain ⟨htext' | hcollect, -⟩ := houtput d hd
    · exact ⟨d, hd, htext ▸ htext'⟩
    · cases hcollect.1

end Table

end Rulebook
