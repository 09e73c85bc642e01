import Mathlib.Data.List.Forall2
import Mathlib.Data.List.Nodup
import Rulebook.Proofs.Decision.Evaluation
import Rulebook.Proofs.Value.Insertions
import Rulebook.Proofs.Value.Related

/-!
The output of a rule of a table with several output columns. It has one entry for each name that the
columns have, so that it holds the value of every cell exactly if no two columns share a name.
-/

namespace Rulebook

namespace Context

variable {c : Context} {es : List (String × Value)} {k : String} {v : Value}

theorem insert_of_not_mem (h : k ∉ keys c) : insert k v c = c ++ [(k, v)] := by
  induction c with
  | nil => rfl
  | cons e c ih =>
    simp only [keys, List.map_cons, List.mem_cons, not_or] at h
    simp only [insert, beq_eq_false_iff_ne.2 h.1, List.cons_append, ih h.2]
    rfl

theorem foldl_insert_of_nodup (h : (keys (c ++ es)).Nodup) :
    es.foldl (fun c e => insert e.1 e.2 c) c = c ++ es := by
  induction es generalizing c with
  | nil => exact (List.append_nil c).symm
  | cons e es ih =>
    have hmem : e.1 ∉ keys c := by
      simp only [keys, List.map_append, List.map_cons] at h
      exact fun hc => List.disjoint_of_nodup_append h hc (.head _)
    rw [List.append_cons] at h ⊢
    rw [List.foldl_cons, insert_of_not_mem hmem, ih h]

theorem ofList_eq_self_iff : ofList es = es ↔ (keys es).Nodup :=
  ⟨fun h => h ▸ (Records.ofList es).nodup, fun h => foldl_insert_of_nodup h⟩

end Context

variable {r : Registry} {context : Context} {t : Table} {rule : Rule} {values : List Value}

-- All cells evaluate, to these values.
def HaveValues (r : Registry) (context : Context) : List (Column × String) → List Value → Prop :=
  List.Forall₂ fun c v => c.1.outputValue r context c.2 = .ok v

theorem Rule.namedOutputs_of_values {cells : List (Column × String)}
    (h : HaveValues r context cells values) :
    (cells.mapM fun c => rule.namedOutput r context c.1 c.2) =
      .ok ((cells.map (·.1.name)).zip values) := by
  rw [mapM_eq_ok_iff]
  induction h with
  | nil => exact .nil
  | cons hv _ ih => exact .cons (by rw [namedOutput, output, hv]; rfl) ih

namespace Table

theorem map_name_zip {columns : List Column} {entries : List String}
    (h : entries.length = columns.length) :
    (columns.zip entries).map (·.1.name) = columns.map Column.name := by
  have hfst := congrArg (List.map Column.name) (List.map_fst_zip (Nat.le_of_eq h.symm))
  rwa [List.map_map] at hfst

theorem outputOf_of_values (hrule : rule ∈ t.rules) (hcolumns : 2 ≤ t.outputs.length)
    (h : HaveValues r context (t.outputs.zip rule.outputs) values) :
    t.outputOf r context rule =
      .ok (.context (Context.ofList ((t.outputs.map Column.name).zip values))) := by
  have hlength := t.length_outputs hrule
  have hcells : t.outputs.mapIdx (fun i column => (column, rule.outputs.getD i "")) =
      t.outputs.zip rule.outputs := (zipWith_eq_mapIdx hlength "").symm
  rw [outputOf]
  split
  case h_1 heq => simp [heq] at hcolumns
  case h_2 =>
    simp only [hcells, Rule.namedOutputs_of_values h, map_name_zip hlength]
    rfl

-- From faithful sources on: what was read before does not matter.
theorem ruleOutput_eq_iff_nodup_names {s : Sources} (hs : s.Faithful) (hrule : rule ∈ t.rules)
    (hcolumns : 2 ≤ t.outputs.length)
    (h : HaveValues r context (t.outputs.zip rule.outputs) values) :
    ((ruleOutput r context t.outputs rule).run s).1 =
        .ok (.context ((t.outputs.map Column.name).zip values)) ↔
      (t.outputs.map Column.name).Nodup := by
  have hlength : (t.outputs.map Column.name).length = values.length := by
    rw [← h.length_eq, List.length_map, List.length_zip, t.length_outputs hrule, Nat.min_self]
  have hkeys : Context.keys ((t.outputs.map Column.name).zip values) = t.outputs.map Column.name :=
    List.map_fst_zip (Nat.le_of_eq hlength)
  rw [(Rule.yields_ruleOutput (t.length_outputs hrule) s hs).1, outputOf_of_values hrule hcolumns h,
    Except.ok.injEq, Value.context.injEq, Context.ofList_eq_self_iff, hkeys]

-- Two columns with one label: the second cell takes the place of the first.
theorem ruleOutput_eq_iff_nodup_names_clash :
    let columns : List Column := [⟨"a", "x", ""⟩, ⟨"b", "x", ""⟩]
    let rule : Rule := ⟨"r", [], ["1", "2"]⟩
    let t : Table := ⟨"t", .first, [], columns, [rule], by decide⟩
    let s : Sources := .ofConfig {}
    ∃ values, values.map Value.text = ["1", "2"] ∧
      ((ruleOutput .empty [] t.outputs rule).run s).1 ≠
        .ok (.context ((t.outputs.map Column.name).zip values)) := by
  intro columns rule t s
  have h : ((t.outputs.zip rule.outputs).mapM fun c : Column × String =>
      c.1.outputValue .empty [] c.2).toOption.map (·.map Value.text) = some ["1", "2"] := by
    decide +kernel
  cases hvalues : (t.outputs.zip rule.outputs).mapM fun c : Column × String =>
      c.1.outputValue .empty [] c.2 with
  | error e => rw [hvalues] at h; cases h
  | ok values =>
    rw [hvalues] at h
    refine ⟨values, Option.some.inj h, fun heq => ?_⟩
    exact absurd ((ruleOutput_eq_iff_nodup_names Sources.faithful_ofConfig (.head _) (by decide)
      (mapM_eq_ok_iff.1 hvalues)).1 heq) (by decide)

end Table

end Rulebook
