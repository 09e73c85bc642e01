import Rulebook.Syntax.Expr

/-!
Expressions by their parts.
-/

namespace Rulebook.Expr

@[elab_as_elim]
theorem induction {P : Expr → Prop} (literal : ∀ l, P (.literal l))
    (reference : ∀ path, P (.reference path)) (binary : ∀ op l r, P l → P r → P (.binary op l r))
    (unary : ∀ op e, P e → P (.unary op e)) (range : ∀ l u i j, P l → P u → P (.range l u i j))
    (list : ∀ items, (∀ e ∈ items, P e) → P (.list items))
    (context : ∀ entries, (∀ e ∈ entries, P e.2) → P (.context entries))
    (call : ∀ f arguments, (∀ e ∈ arguments, P e) → P (.call f arguments))
    (property : ∀ b key, P b → P (.property b key))
    (conditional : ∀ c y n, P c → P y → P n → P (.conditional c y n))
    (loop : ∀ name s b, P s → P b → P (.loop name s b))
    (quantified : ∀ q name s p, P s → P p → P (.quantified q name s p))
    (between : ∀ e l u, P e → P l → P u → P (.between e l u))
    (instanceOf : ∀ e type, P e → P (.instanceOf e type))
    (filter : ∀ b p, P b → P p → P (.filter b p)) (e : Expr) : P e :=
  Expr.rec (motive_1 := P) (motive_2 := fun es => ∀ e ∈ es, P e)
    (motive_3 := fun es => ∀ e ∈ es, P e.2) (motive_4 := fun e => P e.2)
    literal reference (fun op l r => binary op l r) (fun op e => unary op e)
    (fun l u i j => range l u i j) list context call (fun b key => property b key)
    (fun c y n => conditional c y n) (fun name s b => loop name s b)
    (fun q name s p => quantified q name s p) (fun e l u => between e l u)
    (fun e type => instanceOf e type) (fun b p => filter b p)
    (fun _ h => absurd h List.not_mem_nil)
    (fun _ _ he hes => List.forall_mem_cons.2 ⟨he, hes⟩)
    (fun _ h => absurd h List.not_mem_nil)
    (fun _ _ he hes => List.forall_mem_cons.2 ⟨he, hes⟩)
    (fun _ _ h => h) e

end Rulebook.Expr
