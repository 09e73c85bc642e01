import Mathlib.Data.List.Induction
import Mathlib.Data.List.Nodup
import Rulebook.Proofs.Table.Shape
import Rulebook.Table.Json

/-!
Which parts make up a table, which fault is reported of parts that do not, and that a table is what
is read from its written form.
-/

namespace Rulebook

-- Identifiers of one kind: each has something to it, and none comes twice.
structure Distinguish (ids : List String) : Prop where
  not_blank : ∀ id ∈ ids, Text.isAllBlank id = false
  nodup : ids.Nodup

-- One entry for each column.
structure Rule.Fits (inputs outputs : Nat) (rule : Rule) : Prop where
  inputs : rule.inputs.length = inputs
  outputs : rule.outputs.length = outputs

structure Table.WellFormed (id : String) (inputs outputs : List Column) (rules : List Rule) :
    Prop where
  id_not_blank : Text.isAllBlank id = false
  outputs_ne_nil : outputs ≠ []
  fits : ∀ rule ∈ rules, rule.Fits inputs.length outputs.length
  inputs : Distinguish (inputs.map (·.id))
  outputs : Distinguish (outputs.map (·.id))
  rules : Distinguish (rules.map (·.id))

theorem Distinguish.snoc {ids : List String} {id : String} (h : Distinguish ids)
    (hblank : Text.isAllBlank id = false) (hmem : id ∉ ids) : Distinguish (ids ++ [id]) where
  not_blank := by
    intro id' hid'
    obtain hid' | hid' := List.mem_append.1 hid'
    · exact h.not_blank id' hid'
    · rwa [List.mem_singleton.1 hid']
  nodup := List.concat_eq_append ▸ h.nodup.concat hmem

namespace TableFault

-- What is wrong with the first identifier that is blank or stands among those before it.
inductive OfIds (part : Part) (ids : List String) : TableFault → Prop
  | blank {before after : List String} {id : String} (split : ids = before ++ id :: after)
      (good : Distinguish before) (blank : Text.isAllBlank id = true) :
      OfIds part ids (.emptyId part)
  | repeated {before after : List String} {id : String} (split : ids = before ++ id :: after)
      (good : Distinguish before) (not_blank : Text.isAllBlank id = false) (mem : id ∈ before) :
      OfIds part ids (.duplicateId part id)

-- What is wrong with the first rule that does not fit; its inputs are counted first.
inductive OfRules (inputs outputs : Nat) (rules : List Rule) : TableFault → Prop
  | inputs {before after : List Rule} {rule : Rule} (split : rules = before ++ rule :: after)
      (good : ∀ r ∈ before, r.Fits inputs outputs) (count : rule.inputs.length ≠ inputs) :
      OfRules inputs outputs rules (.wrongCount rule.id .input inputs rule.inputs.length)
  | outputs {before after : List Rule} {rule : Rule} (split : rules = before ++ rule :: after)
      (good : ∀ r ∈ before, r.Fits inputs outputs) (count : rule.inputs.length = inputs)
      (count' : rule.outputs.length ≠ outputs) :
      OfRules inputs outputs rules (.wrongCount rule.id .output outputs rule.outputs.length)

-- Each part is looked at only if the parts before it are in order.
inductive First (id : String) (inputs outputs : List Column) (rules : List Rule) :
    TableFault → Prop
  | id (blank : Text.isAllBlank id = true) : First id inputs outputs rules (.emptyId .table)
  | noOutputs (id_not_blank : Text.isAllBlank id = false) (nil : outputs = []) :
      First id inputs outputs rules (.noOutputs id)
  | inputId {fault : TableFault} (id_not_blank : Text.isAllBlank id = false)
      (ne_nil : outputs ≠ []) (h : OfIds .input (inputs.map (·.id)) fault) :
      First id inputs outputs rules fault
  | outputId {fault : TableFault} (id_not_blank : Text.isAllBlank id = false)
      (ne_nil : outputs ≠ []) (inputs_good : Distinguish (inputs.map (·.id)))
      (h : OfIds .output (outputs.map (·.id)) fault) : First id inputs outputs rules fault
  | ruleId {fault : TableFault} (id_not_blank : Text.isAllBlank id = false)
      (ne_nil : outputs ≠ []) (inputs_good : Distinguish (inputs.map (·.id)))
      (outputs_good : Distinguish (outputs.map (·.id)))
      (h : OfIds .rule (rules.map (·.id)) fault) : First id inputs outputs rules fault
  | count {fault : TableFault} (id_not_blank : Text.isAllBlank id = false)
      (ne_nil : outputs ≠ []) (inputs_good : Distinguish (inputs.map (·.id)))
      (outputs_good : Distinguish (outputs.map (·.id)))
      (rules_good : Distinguish (rules.map (·.id)))
      (h : OfRules inputs.length outputs.length rules fault) : First id inputs outputs rules fault

variable {id : String} {ids seen : List String} {part : Part} {inputs outputs : List Column}
  {rules : List Rule} {rule : Rule} {fault : TableFault} {m n : Nat}

theorem OfIds.append (h : OfIds part ids fault) (ids' : List String) :
    OfIds part (ids ++ ids') fault := by
  cases h with
  | blank split good blank => exact .blank (by rw [split, List.append_assoc]; rfl) good blank
  | repeated split good not_blank mem =>
    exact .repeated (by rw [split, List.append_assoc]; rfl) good not_blank mem

theorem distinguish_or_ofIds (part : Part) (ids : List String) :
    Distinguish ids ∨ ∃ fault, OfIds part ids fault := by
  induction ids using List.reverseRecOn with
  | nil => exact .inl ⟨nofun, List.nodup_nil⟩
  | append_singleton ids id ih =>
    obtain h | ⟨fault, h⟩ := ih
    case inr => exact .inr ⟨fault, h.append [id]⟩
    cases hblank : Text.isAllBlank id with
    | true => exact .inr ⟨_, .blank rfl h hblank⟩
    | false =>
      by_cases hmem : id ∈ ids
      · exact .inr ⟨_, .repeated rfl h hblank hmem⟩
      · exact .inl (h.snoc hblank hmem)

-- Identifiers in good order only make those before the rest more.
theorem ofIds?_append (h : Distinguish (seen ++ ids)) (rest : List String) :
    ofIds? part seen.reverse (ids ++ rest) = ofIds? part (seen ++ ids).reverse rest := by
  induction ids generalizing seen with
  | nil => rw [List.append_nil, List.nil_append]
  | cons id ids ih =>
    have hblank : Text.isAllBlank id = false := h.not_blank id (by simp)
    have hmem : seen.reverse.contains id = false := by
      have hnodup := List.disjoint_of_nodup_append h.nodup
      simpa using fun hid => hnodup hid (List.mem_cons_self)
    have hih := @ih (seen ++ [id]) (by simpa using h)
    rw [List.cons_append, ofIds?, hblank, hmem]
    simpa using hih

theorem ofIds?_of_distinguish (h : Distinguish ids) : ofIds? part [] ids = none := by
  have happend : ofIds? part [] (ids ++ []) = ofIds? part ids.reverse [] :=
    @ofIds?_append ids [] part h []
  rwa [List.append_nil] at happend

theorem OfIds.ofIds?_eq (h : OfIds part ids fault) : ofIds? part [] ids = some fault := by
  cases h with
  | @blank before after id split good blank =>
    have happend : ofIds? part [] (before ++ id :: after) =
        ofIds? part before.reverse (id :: after) :=
      @ofIds?_append before [] part good (id :: after)
    rw [split, happend, ofIds?, if_pos blank]
  | @repeated before after id split good not_blank mem =>
    have happend : ofIds? part [] (before ++ id :: after) =
        ofIds? part before.reverse (id :: after) :=
      @ofIds?_append before [] part good (id :: after)
    have hmem : before.reverse.contains id = true := by simpa using mem
    rw [split, happend, ofIds?, not_blank, hmem]
    rfl

theorem ofIds?_eq_none_iff : ofIds? part [] ids = none ↔ Distinguish ids := by
  constructor
  · intro h
    obtain hids | ⟨fault, hids⟩ := distinguish_or_ofIds part ids
    · exact hids
    · cases h.symm.trans hids.ofIds?_eq
  · exact ofIds?_of_distinguish

theorem ofIds?_eq_some_iff : ofIds? part [] ids = some fault ↔ OfIds part ids fault := by
  constructor
  · intro h
    obtain hids | ⟨fault', hids⟩ := distinguish_or_ofIds part ids
    · cases h.symm.trans (ofIds?_of_distinguish hids)
    · have heq := hids.ofIds?_eq.symm.trans h
      exact Option.some.inj heq ▸ hids
  · exact OfIds.ofIds?_eq

theorem ofRule?_eq_none_iff_fits : ofRule? m n rule = none ↔ rule.Fits m n := by
  rw [ofRule?_eq_none_iff]
  exact ⟨fun h => ⟨h.1, h.2⟩, fun h => ⟨h.inputs, h.outputs⟩⟩

theorem ofCount?_eq_some_iff {expected actual : Nat} :
    ofCount? id part expected actual = some fault ↔
      actual ≠ expected ∧ wrongCount id part expected actual = fault := by
  simp [ofCount?]

theorem findSome?_ofRule?_eq_none_iff :
    rules.findSome? (ofRule? m n) = none ↔ ∀ rule ∈ rules, rule.Fits m n := by
  simp only [List.findSome?_eq_none_iff, ofRule?_eq_none_iff_fits]

theorem findSome?_ofRule?_eq_some_iff :
    rules.findSome? (ofRule? m n) = some fault ↔ OfRules m n rules fault := by
  simp only [List.findSome?_eq_some_iff, ofRule?_eq_none_iff_fits]
  constructor
  · rintro ⟨before, rule, after, rfl, hrule, hgood⟩
    obtain hinputs | ⟨hinputs, houtputs⟩ := Option.or_eq_some_iff.1 hrule
    · obtain ⟨hcount, rfl⟩ := ofCount?_eq_some_iff.1 hinputs
      exact .inputs rfl hgood hcount
    · obtain ⟨hcount, rfl⟩ := ofCount?_eq_some_iff.1 houtputs
      exact .outputs rfl hgood (ofCount?_eq_none_iff.1 hinputs) hcount
  · intro h
    cases h with
    | inputs split good count =>
      exact ⟨_, _, _, split, Option.or_eq_some_iff.2 (.inl (ofCount?_eq_some_iff.2 ⟨count, rfl⟩)),
        good⟩
    | outputs split good count count' =>
      exact ⟨_, _, _, split, Option.or_eq_some_iff.2 (.inr ⟨ofCount?_eq_none_iff.2 count,
        ofCount?_eq_some_iff.2 ⟨count', rfl⟩⟩), good⟩

theorem ofParts?_eq_none_iff :
    ofParts? id inputs outputs rules = none ↔ Table.WellFormed id inputs outputs rules := by
  simp only [ofParts?]
  cases hblank : Text.isAllBlank id with
  | true =>
    constructor
    · rintro ⟨⟩
    · intro h
      cases h.id_not_blank.symm.trans hblank
  | false =>
    cases outputs with
    | nil =>
      constructor
      · rintro ⟨⟩
      · intro h
        exact absurd rfl h.outputs_ne_nil
    | cons column columns =>
      simp only [Bool.false_eq_true, ↓reduceIte, List.isEmpty_cons, Option.or_eq_none_iff,
        ofIds?_eq_none_iff, findSome?_ofRule?_eq_none_iff]
      constructor
      · rintro ⟨hinputs, houtputs, hrules, hfits⟩
        exact ⟨hblank, List.cons_ne_nil _ _, hfits, hinputs, houtputs, hrules⟩
      · intro h
        exact ⟨h.inputs, h.outputs, h.rules, h.fits⟩

theorem ofParts?_eq_some_iff :
    ofParts? id inputs outputs rules = some fault ↔ First id inputs outputs rules fault := by
  simp only [ofParts?]
  cases hblank : Text.isAllBlank id with
  | true =>
    constructor
    · rintro ⟨⟩
      exact .id hblank
    · intro h
      cases h <;> simp_all
  | false =>
    cases outputs with
    | nil =>
      constructor
      · rintro ⟨⟩
        exact .noOutputs hblank rfl
      · intro h
        cases h <;> simp_all
    | cons column columns =>
      have hne : column :: columns ≠ [] := List.cons_ne_nil _ _
      simp only [Bool.false_eq_true, ↓reduceIte, List.isEmpty_cons, Option.or_eq_some_iff,
        ofIds?_eq_none_iff, ofIds?_eq_some_iff, findSome?_ofRule?_eq_some_iff]
      constructor
      · rintro (h | ⟨hinputs, h | ⟨houtputs, h | ⟨hrules, h⟩⟩⟩)
        · exact .inputId hblank hne h
        · exact .outputId hblank hne hinputs h
        · exact .ruleId hblank hne hinputs houtputs h
        · exact .count hblank hne hinputs houtputs hrules h
      · intro h
        cases h with
        | id blank => simp [hblank] at blank
        | noOutputs _ nil => exact absurd nil hne
        | inputId _ _ h => exact .inl h
        | outputId _ _ hinputs h => exact .inr ⟨hinputs, .inl h⟩
        | ruleId _ _ hinputs houtputs h => exact .inr ⟨hinputs, .inr ⟨houtputs, .inl h⟩⟩
        | count _ _ hinputs houtputs hrules h =>
          exact .inr ⟨hinputs, .inr ⟨houtputs, .inr ⟨hrules, h⟩⟩⟩

end TableFault

theorem HitPolicy.ofName?_name (policy : HitPolicy) : ofName? policy.name = some policy := by
  cases policy <;> decide

namespace Json

variable {α : Type}

theorem readList_map {read : Json → TableRead α} {write : α → Json}
    (h : ∀ a, read (write a) = .ok a) (as : List α) :
    readList read (.array (as.map write)) = .ok as := by
  rw [readList]
  induction as with
  | nil => rfl
  | cons a as ih => rw [List.map_cons, List.mapM_cons, h, ih]; rfl

theorem readTexts_ofTexts (texts : List String) : readTexts (ofTexts texts) = .ok texts := by
  have hstring (s : String) : readText (.string s) = .ok s := rfl
  exact readList_map hstring texts

end Json

theorem Column.ofJson_toJson (c : Column) : Column.ofJson c.toJson = .ok c := rfl

theorem Rule.ofJson_toJson (r : Rule) : Rule.ofJson r.toJson = .ok r := by
  have hinputs := Json.readTexts_ofTexts r.inputs
  have houtputs := Json.readTexts_ofTexts r.outputs
  change Rule.ofFields _ = _
  simp only [ofFields, Json.readField?, List.lookup_cons_self, Option.mapM_some, List.lookup_cons,
    String.reduceBEq, hinputs, Except.map_ok, houtputs, bind_map_left]
  rfl

namespace Table

-- What is written of a table and read again before it is checked.
def parts (t : Table) : TableParts := ⟨t.id, t.policy.name, t.inputs, t.outputs, t.rules⟩

theorem parts_ofJson_toJson (t : Table) : TableParts.ofJson t.toJson = .ok t.parts := by
  have hinputs := Json.readList_map Column.ofJson_toJson t.inputs
  have houtputs := Json.readList_map Column.ofJson_toJson t.outputs
  have hrules := Json.readList_map Rule.ofJson_toJson t.rules
  change TableParts.ofFields _ = _
  simp only [TableParts.ofFields, Json.readField?, List.lookup_cons, String.reduceBEq,
    Option.mapM_some, TableParts.readColumns, hinputs, Except.map_ok, houtputs,
    TableParts.readRules, hrules, bind_map_left]
  rfl

theorem buildNamed_parts (t : Table) :
    buildNamed t.parts.id t.parts.policy t.parts.inputs t.parts.outputs t.parts.rules = .ok t := by
  simp only [buildNamed, parts, HitPolicy.ofName?_name, build_self]

theorem ofJson_toJson (t : Table) : Table.ofJson t.toJson = .ok t := by
  rw [Table.ofJson, parts_ofJson_toJson]
  simp only [bind, Except.bind, buildNamed_parts]
  rfl

variable {id : String} (policy : HitPolicy) {inputs outputs : List Column} {rules : List Rule}

theorem build_of_wellFormed (h : WellFormed id inputs outputs rules) :
    build id policy inputs outputs rules =
      .ok ⟨id, policy, inputs, outputs, rules, TableFault.ofParts?_eq_none_iff.2 h⟩ := by
  rw [build]
  split
  · rfl
  · rename_i hfault
    cases hfault.symm.trans (TableFault.ofParts?_eq_none_iff.2 h)

theorem build_of_first {fault : TableFault} (h : TableFault.First id inputs outputs rules fault) :
    build id policy inputs outputs rules = .error fault := by
  have hfault := TableFault.ofParts?_eq_some_iff.2 h
  rw [build]
  split
  · rename_i hnone
    cases hnone.symm.trans hfault
  · rename_i fault' hsome
    rw [Option.some.inj (hsome.symm.trans hfault)]

-- Parts are in order, or there is a first fault.
theorem wellFormed_or_first (id : String) (inputs outputs : List Column) (rules : List Rule) :
    WellFormed id inputs outputs rules ∨
      ∃ fault, TableFault.First id inputs outputs rules fault := by
  cases h : TableFault.ofParts? id inputs outputs rules with
  | none => exact .inl (TableFault.ofParts?_eq_none_iff.1 h)
  | some fault => exact .inr ⟨fault, TableFault.ofParts?_eq_some_iff.1 h⟩

theorem build_iff_wellFormed_and_restored (id : String) (policy : HitPolicy)
    (inputs outputs : List Column) (rules : List Rule) :
    ((∃ t, build id policy inputs outputs rules = .ok t) ↔ WellFormed id inputs outputs rules) ∧
      (∀ fault, build id policy inputs outputs rules = .error fault ↔
        TableFault.First id inputs outputs rules fault) ∧
      ∀ t, build id policy inputs outputs rules = .ok t →
        (t.id = id ∧ t.policy = policy ∧ t.inputs = inputs ∧ t.outputs = outputs ∧
          t.rules = rules) ∧
        buildNamed t.parts.id t.parts.policy t.parts.inputs t.parts.outputs t.parts.rules = .ok t ∧
        (ofJson t.toJson).map (fun t' => (t', hash t')) = .ok (t, hash t) := by
  obtain hgood | ⟨fault, hfault⟩ := wellFormed_or_first id inputs outputs rules
  · have hbuild := build_of_wellFormed policy hgood
    refine ⟨⟨fun _ => hgood, fun _ => ⟨_, hbuild⟩⟩,
      fun fault => ⟨fun h => ?_, build_of_first policy⟩, fun t h => ?_⟩
    · cases h.symm.trans hbuild
    · have ht := Except.ok.inj (h.symm.trans hbuild)
      exact ⟨by simp [ht], t.buildNamed_parts, by rw [ofJson_toJson]; rfl⟩
  · have hbuild := build_of_first policy hfault
    refine ⟨⟨?_, fun h => ?_⟩, fun fault' => ⟨fun h => ?_, build_of_first policy⟩, fun t h => ?_⟩
    · rintro ⟨t, h⟩
      cases h.symm.trans hbuild
    · cases (build_of_wellFormed policy h).symm.trans hbuild
    · exact Except.error.inj (h.symm.trans hbuild) ▸ hfault
    · cases h.symm.trans hbuild

end Table

end Rulebook
