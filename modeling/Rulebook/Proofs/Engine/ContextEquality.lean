import Rulebook.Proofs.Decision.Congruence
import Rulebook.Proofs.Engine.Run

/-!
An engine that keeps nothing, asked for one table in two contexts that are equal. Such contexts may
differ in the order of entries, which the text of a value tells apart, and in the signs of zeros,
which a power tells apart; a function that was registered may tell apart what it likes.
-/

namespace Rulebook

open Number (Zeros)
open Value (Alike)

variable {zeros : Zeros}

theorem Registry.impartial_of_find? {r : Registry} {name : String}
    (h : ∀ f, r.find? name = some f → f ∈ Builtin.functions ∧ name ≠ "string" ∨ f.Impartial zeros) :
    r.Impartial zeros name := by
  intro as bs hab
  simp only [Registry.call]
  cases hf : r.find? name with
  | none => exact .failed
  | some f =>
    have hname : f.name = name := by simpa using List.find?_some hf
    obtain ⟨hmem, hstring⟩ | himpartial := h f hf
    · exact (Builtin.impartial_functions f hmem (hname ▸ hstring)).call hab
    · exact himpartial.call hab

-- An undefined number is all that keeps alike outputs from being equal.
theorem Decision.Alike.output_equal {d d' : Decision} (h : d.Alike zeros d')
    (hself : d.output == d.output) : d.output == d'.output := by
  have houtput := h.output
  generalize d.output = o at houtput hself ⊢
  generalize d'.output = o' at houtput ⊢
  cases houtput with
  | none => rfl
  | some hv => exact hv.equal_of_self hself

namespace Engine

variable {g : Engine} {t : Table} {c c' : Context} {mayCall : String → Bool}

theorem decided_alike_of_equal (hsources : g.sources.cache = none)
    (hresults : g.results.cache = none)
    (hcall : ∀ name, mayCall name = true → ∀ f, g.registry.find? name = some f →
      f ∈ Builtin.functions ∧ name ≠ "string" ∨ f.Impartial zeros)
    (ht : t.Impartial zeros mayCall) (hc : Value.UniqueKeys (.context c))
    (hc' : Value.UniqueKeys (.context c')) (h : Context.equal c c' = true)
    (hzeros : zeros = .signed → Alike .signed (.context c) (.context c')) :
    Both (fun d d' => d.Alike zeros d' ∧ (d.output == d.output → d.output == d'.output))
      (g.evaluate t c).1 (g.evaluate t c').1 := by
  have hdecision (c : Context) : (g.evaluate t c).1 = t.decision g.registry c := by
    rw [fst_evaluate (Sources.faithful_of_off hsources), consult_of_off hresults]
  have hr (name : String) (hname : mayCall name = true) : g.registry.Impartial zeros name :=
    Registry.impartial_of_find? (hcall name hname)
  have halike : Alike zeros (.context c) (.context c') := by
    cases zeros with
    | signed => exact hzeros rfl
    | unsigned => exact .of_equal hc hc' h
  have hboth : Both (Decision.Alike zeros) (t.decision g.registry c) (t.decision g.registry c') :=
    Table.decision_alike hr halike.bindAlike ht
  rw [hdecision, hdecision]
  exact hboth.imp fun _ _ hd => ⟨hd, hd.output_equal⟩

def ascending : Context := [("a", .number 0), ("b", .number 2)]

def descending : Context := [("b", .number 2), ("a", .number 0)]

-- The other zero in the place of the first.
def mirrored : Context := [("b", .number 2), ("a", .number Number.negativeZero)]

def large : Context := [("x", .number (Number.ofRatio false (Nat.pow 10 300) 1))]

-- Where the signs of zeros differ there must be no power; where they are the same there may be one.
theorem decided_alike_of_equal_descending :
    let g := ofConfig .uncached .builtins
    let distance : Table :=
      ⟨"t", .first, [.input "a"], [.output "o"], [⟨"r", ["[0..1]"], ["abs(a)"]⟩], by decide⟩
    let square : Table :=
      ⟨"t", .first, [.input "a"], [.output "o"], [⟨"r", ["[0..1]"], ["abs(b ** 2)"]⟩], by decide⟩
    (Context.equal ascending mirrored = true ∧
      Both (fun d d' => d.Alike .unsigned d' ∧ (d.output == d.output → d.output == d'.output))
        (g.evaluate distance ascending).1 (g.evaluate distance mirrored).1) ∧
    Context.equal ascending descending = true ∧
      Both (fun d d' => d.Alike .signed d' ∧ (d.output == d.output → d.output == d'.output))
        (g.evaluate square ascending).1 (g.evaluate square descending).1 := by
  intro g distance square
  have hunique : Value.UniqueKeys (.context ascending) := by
    simp [ascending, Context.keys, Value.UniqueKeys, Value.UniqueInEntries]
  have hunique' : Value.UniqueKeys (.context descending) := by
    simp [descending, Context.keys, Value.UniqueKeys, Value.UniqueInEntries]
  have hmirrored : Value.UniqueKeys (.context mirrored) := by
    simp [mirrored, Context.keys, Value.UniqueKeys, Value.UniqueInEntries]
  have hcall (name : String) (hname : (name != "string") = true) (f : Function)
      (hf : g.registry.find? name = some f) : f ∈ Builtin.functions ∧ name ≠ "string" :=
    ⟨List.mem_of_find?_eq_some hf, by simpa using hname⟩
  have horder : Alike .signed (.context ascending) (.context descending) :=
    .of_perm hunique (List.Perm.swap ..)
  have hequal : Context.equal ascending mirrored = true := by decide +kernel
  have hequal' : Context.equal ascending descending = true := by decide +kernel
  refine ⟨⟨hequal, ?zeros⟩, hequal', ?order⟩
  case zeros =>
    exact decided_alike_of_equal rfl rfl (fun name hname f hf => .inl (hcall name hname f hf))
      (by decide +kernel) hunique hmirrored hequal (by simp)
  case order =>
    exact decided_alike_of_equal rfl rfl (fun name hname f hf => .inl (hcall name hname f hf))
      (by decide +kernel) hunique hunique' hequal' fun _ => horder

-- Equal decisions, as far as the matched rules and the output go.
def DecidesEqually (g : Engine) (t : Table) (c c' : Context) : Prop :=
  Both (fun d d' => d.rules = d'.rules ∧ d.output == d'.output) (g.evaluate t c).1
    (g.evaluate t c').1

instance {g : Engine} {t : Table} {c c' : Context} : Decidable (DecidesEqually g t c c') :=
  inferInstanceAs (Decidable (Both _ _ _))

-- A text gives the entries in their order, and a difference of infinite numbers is undefined.
theorem not_decidesEqually :
    let g := ofConfig .uncached .builtins
    let spelling : Table :=
      ⟨"t", .first, [], [.output "o"], [⟨"r", [], ["string(x)"]⟩], by decide⟩
    let difference : Table :=
      ⟨"t", .first, [], [.output "o"], [⟨"r", [], ["x * x - x * x"]⟩], by decide⟩
    let c : Context := [("x", .context ascending)]
    let c' : Context := [("x", .context descending)]
    (Context.equal c c' = true ∧ ¬g.DecidesEqually spelling c c') ∧
      Context.equal large large = true ∧ ¬g.DecidesEqually difference large large := by
  decide +kernel

end Engine

end Rulebook
