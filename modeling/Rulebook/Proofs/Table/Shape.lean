import Rulebook.Table.Basic

/-!
What the checks of a table leave to rely on: there is an output column, and every rule has exactly
one entry for each column.
-/

namespace Rulebook

namespace TableFault

variable {id : String} {inputs outputs : List Column} {rules : List Rule} {rule : Rule}

theorem ofCount?_eq_none_iff {part : Part} {expected actual : Nat} :
    ofCount? id part expected actual = none ↔ actual = expected := by
  simp [ofCount?]

theorem ofRule?_eq_none_iff {m n : Nat} :
    ofRule? m n rule = none ↔ rule.inputs.length = m ∧ rule.outputs.length = n := by
  simp [ofRule?, ofCount?_eq_none_iff]

theorem outputs_ne_nil_of_ofParts? (h : ofParts? id inputs outputs rules = none) :
    outputs ≠ [] := by
  rintro rfl
  simp only [ofParts?] at h
  split at h <;> simp at h

theorem ofRule?_of_ofParts? (h : ofParts? id inputs outputs rules = none) (hr : rule ∈ rules) :
    ofRule? inputs.length outputs.length rule = none := by
  simp only [ofParts?] at h
  split at h
  · simp at h
  · split at h
    · simp at h
    · simp only [Option.or_eq_none_iff, List.findSome?_eq_none_iff] at h
      exact h.2.2.2 rule hr

end TableFault

namespace Table

variable (t : Table) {rule : Rule}

theorem outputs_ne_nil : t.outputs ≠ [] :=
  TableFault.outputs_ne_nil_of_ofParts? t.faultless

theorem length_inputs (h : rule ∈ t.rules) : rule.inputs.length = t.inputs.length :=
  TableFault.ofRule?_eq_none_iff.1 (TableFault.ofRule?_of_ofParts? t.faultless h) |>.1

theorem length_outputs (h : rule ∈ t.rules) : rule.outputs.length = t.outputs.length :=
  TableFault.ofRule?_eq_none_iff.1 (TableFault.ofRule?_of_ofParts? t.faultless h) |>.2

end Table

end Rulebook
