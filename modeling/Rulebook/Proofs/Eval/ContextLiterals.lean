import Rulebook.Eval.Basic
import Rulebook.Proofs.Value.Insertions
import Rulebook.Proofs.Value.Related

/-!
Context literals as insertions. A literal evaluates its expressions in turn, each in sight of the
entries put in before it, and its value records all of them: it is the very context that the same
entries make when they are inserted one by one or taken from a list.
-/

namespace Rulebook

variable {r : Registry} {s : Scope} {literal : List (String × Expr)} {c : Context}

-- The entries that a literal puts in.
inductive Inserts (r : Registry) (s : Scope) :
    List (String × Expr) → List (String × Value) → Prop
  | nil : Inserts r s [] []
  | concat {literal inserted} {c : Context} {key e v} (h : Inserts r s literal inserted)
      (hc : c.Records inserted) (hv : eval r (s.push c) e = .ok v) :
      Inserts r s (literal ++ [(key, e)]) (inserted ++ [(key, v)])

theorem evalEntries_concat (done : Context) (literal : List (String × Expr)) (key : String)
    (e : Expr) : evalEntries r s done (literal ++ [(key, e)]) =
      evalEntries r s done literal >>= fun c =>
        eval r (s.push c) e >>= fun v => .ok (c.insert key v) := by
  induction literal generalizing done with
  | nil => rfl
  | cons entry literal ih =>
    rw [List.cons_append, evalEntries, evalEntries, bind_assoc]
    simp only [ih]

theorem evalEntries_concat_eq_ok_iff {done : Context} {key : String} {e : Expr} :
    evalEntries r s done (literal ++ [(key, e)]) = .ok c ↔
      ∃ c₀, evalEntries r s done literal = .ok c₀ ∧
        ∃ v, eval r (s.push c₀) e = .ok v ∧ c₀.insert key v = c := by
  simp only [evalEntries_concat, bind_eq_ok_iff, Except.ok.injEq]

-- The evaluation takes the entries from the front, the insertions are told from the end.
theorem evalEntries_eq_ok_iff : evalEntries r s .empty literal = .ok c ↔
    ∃ inserted, Inserts r s literal inserted ∧ c.Records inserted := by
  constructor
  · intro h
    induction literal using List.reverseRecOn generalizing c with
    | nil =>
      cases h
      exact ⟨[], .nil, .nil⟩
    | append_singleton literal entry ih =>
      obtain ⟨c₀, hc₀, v, hv, rfl⟩ := evalEntries_concat_eq_ok_iff.1 h
      obtain ⟨inserted, hinserted, hrecords⟩ := ih hc₀
      exact ⟨_, hinserted.concat hrecords hv, hrecords.insert entry.1 v⟩
  · rintro ⟨inserted, hinserted, hrecords⟩
    induction hinserted generalizing c with
    | nil => rw [hrecords.unique .nil]; rfl
    | concat _ hc hv ih =>
      exact evalEntries_concat_eq_ok_iff.2 ⟨_, ih hc, _, hv, (hc.insert ..).unique hrecords⟩

theorem eval_context_eq_ok_iff {v : Value} : eval r s (.context literal) = .ok v ↔
    ∃ (inserted : List (String × Value)) (c : Context),
      Inserts r s literal inserted ∧ c.Records inserted ∧ v = .context c := by
  simp only [eval, map_eq_ok_iff, evalEntries_eq_ok_iff]
  constructor
  · rintro ⟨c, ⟨inserted, hinserted, hc⟩, hv⟩
    exact ⟨inserted, c, hinserted, hc, hv.symm⟩
  · rintro ⟨inserted, c, hinserted, hc, hv⟩
    exact ⟨c, ⟨inserted, hinserted, hc⟩, hv.symm⟩

-- One by one, from a list or by a literal: the entries are recorded. An insertion, whichever of
-- these makes it, gives back what could be found under its name just before.
theorem records_of_insertions (entries : List (String × Value)) (r : Registry) (s : Scope)
    (literal : List (String × Expr)) (v : Value) :
    ((Context.empty.insertMany entries).2.Records entries ∧
      (Context.ofList entries).Records entries ∧
      (eval r s (.context literal) = .ok v ↔
        ∃ (inserted : List (String × Value)) (c : Context),
          Inserts r s literal inserted ∧ c.Records inserted ∧ v = .context c)) ∧
    ((Context.empty.insertMany entries).1 = entries.mapIdx fun i e =>
      (Context.empty.insertMany (entries.take i)).2.get? e.1) ∧
    ∀ (c : Context) key v, c.getThenInsert? key v = (c.get? key, c.insert key v) := by
  refine ⟨⟨?_, .ofList entries, eval_context_eq_ok_iff⟩, Context.fst_insertMany .empty entries,
    fun c key v => Context.getThenInsert?_eq key v c⟩
  rw [Context.snd_insertMany]
  exact .ofList entries

end Rulebook
