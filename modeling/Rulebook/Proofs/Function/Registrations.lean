import Mathlib
import Rulebook.Builtin.Basic

/-!
Runs of registrations. A registry only grows: the first function that it can take under a name is
kept, one that is rejected might as well not have been offered, and a call answers by the function
that is kept. The built-in functions are what is left of registering each of them.
-/

namespace Rulebook

variable {r r' : Registry} {f g : Function} {fs : List Function} {name : String}
  {e : RegistryError} {arguments : List Value}

namespace Registry

-- The registry after each function has been offered to it in turn.
def after (r : Registry) (fs : List Function) : Registry :=
  fs.foldl (fun r f => (r.register f).toOption.getD r) r

-- Those of the functions that were taken.
def accepted (r : Registry) : List Function → List Function
  | [] => []
  | f :: fs =>
    match r.register f with
    | .ok r' => f :: accepted r' fs
    | .error _ => accepted r fs

theorem after_append (r : Registry) (fs gs : List Function) :
    r.after (fs ++ gs) = (r.after fs).after gs :=
  List.foldl_append

theorem after_cons_of_ok (h : r.register f = .ok r') (fs : List Function) :
    r.after (f :: fs) = r'.after fs := by
  rw [after, List.foldl_cons, h]
  rfl

theorem after_cons_of_error (h : r.register f = .error e) (fs : List Function) :
    r.after (f :: fs) = r.after fs := by
  rw [after, List.foldl_cons, h]
  rfl

theorem contains_iff : r.contains name = true ↔ ∃ f ∈ r.functions, f.name = name := by
  simp [contains, find?]

theorem find?_eq_none_iff : r.find? name = none ↔ ∀ f ∈ r.functions, f.name ≠ name := by
  simp [find?]

theorem names_perm (r : Registry) : r.names.Perm (r.functions.map (·.name)) :=
  List.mergeSort_perm ..

theorem mem_names : name ∈ r.names ↔ ∃ f ∈ r.functions, f.name = name := by
  rw [r.names_perm.mem_iff, List.mem_map]

theorem register_eq_ok_iff :
    r.register f = .ok r' ↔ f.fault? = none ∧ f.name ∉ r.names ∧ r' = ⟨r.functions ++ [f]⟩ := by
  rw [register, mem_names, ← contains_iff]
  split
  case h_1 fault hfault => simp [hfault]
  case h_2 hfault =>
    cases r.contains f.name <;> simp [hfault, eq_comm]

theorem register_eq_error_iff : r.register f = .error e ↔
    f.fault? = some e ∨ f.fault? = none ∧ f.name ∈ r.names ∧ e = .duplicate f.name := by
  rw [register, mem_names, ← contains_iff]
  split
  case h_1 fault hfault => simp [hfault]
  case h_2 hfault =>
    cases r.contains f.name <;> simp [hfault, eq_comm]

theorem functions_after (r : Registry) (fs : List Function) :
    (r.after fs).functions = r.functions ++ r.accepted fs := by
  induction fs generalizing r with
  | nil => exact (List.append_nil _).symm
  | cons f fs ih =>
    rw [accepted]
    cases h : r.register f with
    | ok r' =>
      obtain ⟨-, -, rfl⟩ := register_eq_ok_iff.1 h
      rw [after_cons_of_ok h, ih, List.append_assoc]
      rfl
    | error e => rw [after_cons_of_error h, ih]

-- No two functions have one name.
def Distinct (r : Registry) : Prop :=
  (r.functions.map (·.name)).Nodup

theorem Distinct.register (hr : r.Distinct) (h : r.register f = .ok r') : r'.Distinct := by
  obtain ⟨-, hnew, rfl⟩ := register_eq_ok_iff.1 h
  rw [r.names_perm.mem_iff] at hnew
  rw [Distinct, List.map_append, List.map_singleton, ← List.concat_eq_append]
  exact hr.concat hnew

theorem Distinct.after (hr : r.Distinct) (fs : List Function) : (r.after fs).Distinct := by
  induction fs generalizing r with
  | nil => exact hr
  | cons f fs ih =>
    cases h : r.register f with
    | ok r' =>
      rw [after_cons_of_ok h]
      exact ih (hr.register h)
    | error e =>
      rw [after_cons_of_error h]
      exact ih hr

theorem Distinct.find? (hr : r.Distinct) (hf : f ∈ r.functions) : r.find? f.name = some f := by
  rw [Registry.find?]
  obtain ⟨g, hg⟩ : ∃ g, r.functions.find? (·.name == f.name) = some g := by
    rw [← Option.isSome_iff_exists, List.find?_isSome]
    exact ⟨f, hf, beq_self_eq_true _⟩
  have hname : g.name = f.name := by simpa using List.find?_some hg
  rw [hg, List.inj_on_of_nodup_map hr (List.mem_of_find?_eq_some hg) hf hname]

-- The first of the functions that a registry can take under the name.
def firstFit? (fs : List Function) (name : String) : Option Function :=
  fs.find? fun f => f.name == name && f.fault?.isNone

theorem firstFit?_cons (f : Function) (fs : List Function) (name : String) :
    firstFit? (f :: fs) name =
      if f.name = name ∧ f.fault? = none then some f else firstFit? fs name := by
  have hfits : (f.name == name && f.fault?.isNone) = decide (f.name = name ∧ f.fault? = none) := by
    rw [Bool.eq_iff_iff]
    simp
  rw [firstFit?, List.find?_cons, hfits]
  split <;> simp_all [firstFit?]

theorem find?_append_singleton (r : Registry) (f : Function) (name : String) :
    find? ⟨r.functions ++ [f]⟩ name =
      (r.find? name).or (if f.name = name then some f else none) := by
  rw [find?, List.find?_append, find?]
  by_cases h : f.name = name <;> simp [h]

-- What is kept under a name: the function that was there, or else the first that fits.
theorem find?_after (r : Registry) (fs : List Function) (name : String) :
    (r.after fs).find? name = (r.find? name).or (firstFit? fs name) := by
  induction fs generalizing r with
  | nil => exact Option.or_none.symm
  | cons f fs ih =>
    rw [firstFit?_cons]
    cases h : r.register f with
    | ok r' =>
      obtain ⟨hfault, -, rfl⟩ := register_eq_ok_iff.1 h
      rw [after_cons_of_ok h, ih, find?_append_singleton, Option.or_assoc]
      by_cases hname : f.name = name <;> simp [hname, hfault]
    | error e =>
      rw [after_cons_of_error h, ih]
      obtain hfault | ⟨-, htaken, -⟩ := register_eq_error_iff.1 h
      · simp [hfault]
      · by_cases hname : f.name = name
        · obtain ⟨g, hg⟩ : ∃ g, r.find? name = some g := by
            rw [← Option.isSome_iff_exists]
            exact contains_iff.2 (mem_names.1 (hname ▸ htaken))
          rw [hg, Option.some_or, Option.some_or]
        · rw [if_neg fun h => hname h.1]

-- Functions without fault and with names of their own are all taken.
theorem after_eq_of_nodup (hfault : ∀ f ∈ fs, f.fault? = none)
    (hnames : ((r.functions ++ fs).map (·.name)).Nodup) : r.after fs = ⟨r.functions ++ fs⟩ := by
  induction fs generalizing r with
  | nil => rw [List.append_nil]; rfl
  | cons f fs ih =>
    have hnew : f.name ∉ r.names := by
      rw [r.names_perm.mem_iff]
      rw [List.map_append, List.map_cons, List.nodup_append] at hnames
      exact fun hmem => hnames.2.2 _ hmem _ (.head _) rfl
    have hregister := register_eq_ok_iff.2 ⟨hfault f (.head _), hnew, rfl⟩
    rw [List.append_cons] at hnames ⊢
    rw [after_cons_of_ok hregister, ih (fun g hg => hfault g (.tail _ hg)) hnames]

theorem distinct_empty : empty.Distinct :=
  List.nodup_nil

theorem distinct_builtins : builtins.Distinct := by
  have hnames : (Builtin.functions.map (·.name)).Nodup := by decide +kernel
  exact hnames

-- Registering the built-in functions one by one makes the registry that holds them.
theorem after_empty_functions : empty.after Builtin.functions = builtins := by
  have hfault : ∀ f ∈ Builtin.functions, f.fault? = none := by decide +kernel
  exact after_eq_of_nodup (r := empty) hfault distinct_builtins

theorem name_of_find? (h : r.find? name = some f) : f.name = name := by
  simpa using List.find?_some h

theorem call_eq (r : Registry) (name : String) (arguments : List Value) :
    r.call name arguments =
      match r.find? name with
      | none => .error (.unknownFunction name)
      | some f =>
        if f.arity.accepts arguments.length = false then
          .error (.wrongCount name f.arity arguments.length)
        else if f.propagatesNull = true ∧ ∃ v ∈ arguments, v.isNull = true then .ok .null
        else f.body arguments := by
  rw [call]
  split
  case h_1 f hf =>
    rw [hf, Function.call, name_of_find? hf]
    simp
  case h_2 hf => rw [hf]

-- The names are those of the functions that were there and of those that were taken, and each of
-- these is found under its name. Under each name the function is kept that was there, or else the
-- first that fits, whatever comes later. One that is rejected changes nothing, now or later. A call
-- asks for the function, for its arity and for nulls.
theorem after_keeps_first (hr : r = .empty ∨ r = .builtins) (fs : List Function) :
    ((r.after fs).names.Perm (r.names ++ (r.accepted fs).map (·.name)) ∧
      (r.after fs).names.Nodup ∧ (r.after fs).size = r.size + (r.accepted fs).length) ∧
    (∀ f ∈ r.functions ++ r.accepted fs, (r.after fs).find? f.name = some f) ∧
    (∀ name, (r.after fs).find? name = (r.find? name).or (firstFit? fs name) ∧
      ((r.after fs).find? name = none ↔ name ∉ (r.after fs).names) ∧
      ∀ f, (r.after fs).find? name = some f →
        f.name = name ∧ ∀ gs, (r.after (fs ++ gs)).find? name = some f) ∧
    (∀ f e, (r.after fs).register f = .error e →
      (f.fault? = some e ∨
        f.fault? = none ∧ f.name ∈ (r.after fs).names ∧ e = .duplicate f.name) ∧
      ∀ gs, r.after (fs ++ f :: gs) = r.after (fs ++ gs)) ∧
    ∀ name arguments, (r.after fs).call name arguments =
      match (r.after fs).find? name with
      | none => .error (.unknownFunction name)
      | some f =>
        if f.arity.accepts arguments.length = false then
          .error (.wrongCount name f.arity arguments.length)
        else if f.propagatesNull = true ∧ ∃ v ∈ arguments, v.isNull = true then .ok .null
        else f.body arguments := by
  have hdistinct : (r.after fs).Distinct := by
    obtain rfl | rfl := hr
    · exact distinct_empty.after fs
    · exact distinct_builtins.after fs
  have hnames := (r.after fs).names_perm
  refine ⟨⟨?_, hnames.nodup_iff.2 hdistinct, ?_⟩,
    fun f hf => hdistinct.find? (r.functions_after fs ▸ hf),
    fun name => ⟨r.find?_after fs name, ?_, fun f hf => ⟨name_of_find? hf, fun gs => ?_⟩⟩,
    fun f e he => ⟨register_eq_error_iff.1 he, fun gs => ?_⟩, (r.after fs).call_eq⟩
  · rw [functions_after, List.map_append] at hnames
    exact hnames.trans (r.names_perm.symm.append_right _)
  · rw [size, functions_after, List.length_append, size]
  · simp [find?_eq_none_iff, mem_names]
  · rw [after_append, find?_after, hf, Option.some_or]
  · rw [after_append, after_cons_of_error he, after_append]

-- A function is taken; another one of its name is not, nor is one of a built-in function's name.
theorem after_keeps_first_duplicates :
    let first : Function := ⟨"pick", .exact 2, true, fun vs => .ok (vs.headD .null)⟩
    let second : Function := ⟨"pick", .exact 0, false, fun _ => .ok (.boolean true)⟩
    let total : Function := ⟨"sum", .atLeast 0, false, fun _ => .ok (.boolean true)⟩
    let r := Registry.builtins.after [first, second, total]
    r.find? "pick" = some first ∧ r.names.Nodup ∧ r.size = Registry.builtins.size + 1 ∧
      r.call "pick" [] = .error (.wrongCount "pick" (.exact 2) 0) ∧
      r.call "pick" [.boolean true, .null] = .ok .null ∧
      r.call "pick" [.boolean true, .boolean false] = .ok (.boolean true) := by
  intro first second total r
  obtain ⟨⟨-, hnodup, hsize⟩, -, hfind, -, hcall⟩ :=
    after_keeps_first (r := .builtins) (.inr rfl) [first, second, total]
  have hnew : Registry.builtins.find? "pick" = none := by
    rw [find?_eq_none_iff]
    decide +kernel
  have hfirst : r.find? "pick" = some first := by
    rw [(hfind "pick").1, hnew, firstFit?_cons, if_pos ⟨rfl, by decide +kernel⟩]
    rfl
  have haccepted : (Registry.builtins.accepted [first, second, total]).length = 1 := by
    decide +kernel
  rw [haccepted] at hsize
  refine ⟨hfirst, hnodup, hsize, ?_, ?_, ?_⟩ <;> rw [hcall, hfirst] <;> rfl

end Registry

end Rulebook
