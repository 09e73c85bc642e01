import Rulebook.Proofs.Eval.Expansion
import Rulebook.Proofs.Eval.Shadowing

/-!
Expressions that differ in the name of a bound variable. Loops and quantifiers bind a variable in
their body, and an entry of a context stands in the place of a variable of its name for the entries
behind it. What a name means in the test of a filter is only known with the items, whose entries
may have any name.
-/

namespace Rulebook

namespace Expr

-- What a name stands for at a place of an expression: the same in both, the variable that is
-- renamed, or, where an item may have an entry of that name, one or the other.
inductive Standing
  | unchanged
  | renamed
  | unclear

namespace Standing

-- Where `name` has been bound anew.
def behind (old name : String) (standing : Standing) : Standing :=
  if name = old then unchanged else standing

def inTest : Standing → Standing
  | renamed => unclear
  | standing => standing

end Standing

section

variable (old new : String) (inTests : Bool)

mutual

-- The second expression is the first with one or several of its variables `old` bound under the
-- name `new` instead, which is not used in the first. The renamed variables may occur in the test
-- of a filter only if `inTests`; whether a test speaks of the item is left as it was.
inductive Renames : Standing → Expr → Expr → Prop
  | literal {s : Standing} (l : Literal) : Renames s (literal l) (literal l)
  | reference {s : Standing} {path : String} (hnew : pathMentions new path = false)
      (hold : s = .unchanged ∨ pathMentions old path = false) :
      Renames s (reference path) (reference path)
  | named : Renames .renamed (reference old) (reference new)
  | rooted (rest : String) :
      Renames .renamed (reference (old ++ "." ++ rest)) (reference (new ++ "." ++ rest))
  | binary {s : Standing} {op : BinaryOp} {l l' u u' : Expr} (hl : Renames s l l')
      (hu : Renames s u u') : Renames s (binary op l u) (binary op l' u')
  | unary {s : Standing} {op : UnaryOp} {e e' : Expr} (he : Renames s e e') :
      Renames s (unary op e) (unary op e')
  | range {s : Standing} {l l' u u' : Expr} {i j : Bool} (hl : Renames s l l')
      (hu : Renames s u u') : Renames s (range l u i j) (range l' u' i j)
  | list {s : Standing} {items items' : List Expr} (h : RenamesItems s items items') :
      Renames s (list items) (list items')
  | context {s : Standing} {entries entries' : List (String × Expr)}
      (h : RenamesEntries s entries entries') : Renames s (context entries) (context entries')
  | call {s : Standing} {f : String} {arguments arguments' : List Expr}
      (h : RenamesItems s arguments arguments') : Renames s (call f arguments) (call f arguments')
  | property {s : Standing} {b b' : Expr} {key : String} (hb : Renames s b b') :
      Renames s (property b key) (property b' key)
  | conditional {s : Standing} {c c' y y' n n' : Expr} (hc : Renames s c c')
      (hy : Renames s y y') (hn : Renames s n n') :
      Renames s (conditional c y n) (conditional c' y' n')
  | loop {s : Standing} {name : String} {source source' body body' : Expr} (hname : name ≠ new)
      (hdot : '.' ∉ name.toList) (hsource : Renames s source source')
      (hbody : Renames (s.behind old name) body body') :
      Renames s (loop name source body) (loop name source' body')
  | loopVariable {s : Standing} {source source' body body' : Expr}
      (hsource : Renames s source source') (hbody : Renames .renamed body body') :
      Renames s (loop old source body) (loop new source' body')
  | quantified {s : Standing} {q : Quantifier} {name : String} {source source' test test' : Expr}
      (hname : name ≠ new) (hdot : '.' ∉ name.toList) (hsource : Renames s source source')
      (htest : Renames (s.behind old name) test test') :
      Renames s (quantified q name source test) (quantified q name source' test')
  | quantifiedVariable {s : Standing} {q : Quantifier} {source source' test test' : Expr}
      (hsource : Renames s source source') (htest : Renames .renamed test test') :
      Renames s (quantified q old source test) (quantified q new source' test')
  | between {s : Standing} {e e' l l' u u' : Expr} (he : Renames s e e') (hl : Renames s l l')
      (hu : Renames s u u') : Renames s (between e l u) (between e' l' u')
  | instanceOf {s : Standing} {e e' : Expr} {type : String} (he : Renames s e e') :
      Renames s (instanceOf e type) (instanceOf e' type)
  | filter {s : Standing} {b b' test test' : Expr} (hb : Renames s b b')
      (htest : Renames s.inTest test test')
      (hitem : test'.mentions itemName = test.mentions itemName) :
      Renames s (filter b test) (filter b' test')
  | filterVariable {b b' test test' : Expr} (hinTests : inTests = true)
      (hb : Renames .renamed b b') (htest : Renames .renamed test test')
      (hitem : test'.mentions itemName = test.mentions itemName) :
      Renames .renamed (filter b test) (filter b' test')

inductive RenamesItems : Standing → List Expr → List Expr → Prop
  | nil {s : Standing} : RenamesItems s [] []
  | cons {s : Standing} {e e' : Expr} {es es' : List Expr} (he : Renames s e e')
      (hes : RenamesItems s es es') : RenamesItems s (e :: es) (e' :: es')

inductive RenamesEntries : Standing → List (String × Expr) → List (String × Expr) → Prop
  | nil {s : Standing} : RenamesEntries s [] []
  | cons {s : Standing} {key : String} {e e' : Expr} {es es' : List (String × Expr)}
      (hkey : key ≠ new) (he : Renames s e e') (hes : RenamesEntries (s.behind old key) es es') :
      RenamesEntries s ((key, e) :: es) ((key, e') :: es')

end

end

-- The key is no path that starts at the name and goes on.
def NoPathOf (name key : String) : Prop :=
  pathMentions name key = true → key = name

-- The name is neither of the two and starts at neither.
def Apart (old new name : String) : Prop :=
  (name ≠ old ∧ NoPathOf old name) ∧ name ≠ new ∧ NoPathOf new name

variable {old new name front path : String} {inTests : Bool} {standing : Standing} {e e' : Expr}

theorem root_eq_of_pathMentions (h : pathMentions front path = true) : root front = root path := by
  rw [pathMentions, Bool.or_eq_true, beq_iff_eq, List.isPrefixOf_iff_prefix] at h
  obtain rfl | ⟨rest, hrest⟩ := h
  · rfl
  · obtain ⟨first, others, hfront⟩ := Scope.exists_segments_eq front.toList
    rw [List.append_assoc, List.singleton_append] at hrest
    rw [root, root, ← hrest, Scope.segments_append, hfront]
    rfl

theorem noPathOf_of_no_dot (hname : '.' ∉ name.toList) (hkey : '.' ∉ front.toList) :
    NoPathOf name front := by
  intro h
  have hroot := (pathMentions_iff hname).1 h
  rw [root, Scope.segments_eq_singleton hkey] at hroot
  exact String.ofList_toList.symm.trans hroot

-- A name that neither is the first name of a path nor has it in front is none of its fronts.
theorem pathMentions_of_root (hdot : '.' ∉ (root path).toList) (hne : name ≠ root path)
    (hname : NoPathOf (root path) name) : pathMentions name path = false := by
  refine Bool.eq_false_iff.2 fun h => hne (hname ?_)
  exact (pathMentions_iff hdot).2 (root_eq_of_pathMentions h)

theorem segments_path (hname : '.' ∉ name.toList) (rest : String) :
    Scope.segments (name ++ "." ++ rest).toList = name.toList :: Scope.segments rest.toList := by
  have hlist : (name ++ "." ++ rest).toList = name.toList ++ '.' :: rest.toList := by simp
  rw [hlist, Scope.segments_append, Scope.segments_eq_singleton hname, List.singleton_append]

theorem root_of_no_dot (hname : '.' ∉ name.toList) : root name = name := by
  rw [root, Scope.segments_eq_singleton hname]
  exact String.ofList_toList

theorem root_path (hname : '.' ∉ name.toList) (rest : String) :
    root (name ++ "." ++ rest) = name := by
  rw [root, segments_path hname]
  exact String.ofList_toList

theorem RenamesItems.any_paths {items items' : List Expr}
    (h : RenamesItems old new inTests standing items items')
    (hitems : ∀ e ∈ items, ∀ {standing e'}, Renames old new inTests standing e e' →
      e'.paths.any (pathMentions name) = e.paths.any (pathMentions name)) :
    (itemPaths items').any (pathMentions name) = (itemPaths items).any (pathMentions name) := by
  induction items generalizing items' with
  | nil =>
    cases h
    rfl
  | cons e items ih =>
    cases h with
    | cons he hes =>
      rw [List.forall_mem_cons] at hitems
      rw [itemPaths, itemPaths, List.any_append, List.any_append, hitems.1 he, ih hes hitems.2]

theorem RenamesEntries.any_paths {entries entries' : List (String × Expr)}
    (h : RenamesEntries old new inTests standing entries entries')
    (hentries : ∀ e ∈ entries, ∀ {standing e'}, Renames old new inTests standing e.2 e' →
      e'.paths.any (pathMentions name) = e.2.paths.any (pathMentions name)) :
    (entryPaths entries').any (pathMentions name) =
      (entryPaths entries).any (pathMentions name) := by
  induction entries generalizing entries' standing with
  | nil =>
    cases h
    rfl
  | cons e entries ih =>
    cases h with
    | cons hkey he hes =>
      rw [List.forall_mem_cons] at hentries
      rw [entryPaths, entryPaths, List.any_append, List.any_append, hentries.1 he,
        ih hes hentries.2]

-- All other names occur where they did.
theorem Renames.mentions_eq (h : Renames old new inTests standing e e') (hold : '.' ∉ old.toList)
    (hnew : '.' ∉ new.toList) (hname : Apart old new name) :
    e'.mentions name = e.mentions name := by
  have hpath {a path : String} (ha : '.' ∉ a.toList) (happart : name ≠ a ∧ NoPathOf a name)
      (hroot : root path = a) : pathMentions name path = false := by
    subst hroot
    exact pathMentions_of_root ha happart.1 happart.2
  unfold mentions
  induction e using Expr.induction generalizing standing e' with
  | literal l =>
    cases h
    rfl
  | reference path =>
    cases h with
    | reference => rfl
    | named =>
      simp only [paths, List.any_cons, hpath hold hname.1 (root_of_no_dot hold),
        hpath hnew hname.2 (root_of_no_dot hnew)]
    | rooted rest =>
      simp only [paths, List.any_cons, hpath hold hname.1 (root_path hold rest),
        hpath hnew hname.2 (root_path hnew rest)]
  | binary op l u hl hu =>
    cases h with
    | binary hl' hu' => simp only [paths, List.any_append, hl hl', hu hu']
  | unary op e he =>
    cases h with
    | unary he' => simp only [paths, he he']
  | range l u i j hl hu =>
    cases h with
    | range hl' hu' => simp only [paths, List.any_append, hl hl', hu hu']
  | list items hitems =>
    cases h with
    | list h => exact h.any_paths hitems
  | context entries hentries =>
    cases h with
    | context h => exact h.any_paths hentries
  | call f arguments harguments =>
    cases h with
    | call h => exact h.any_paths harguments
  | property b key hb =>
    cases h with
    | property hb' => simp only [paths, hb hb']
  | conditional c y n hc hy hn =>
    cases h with
    | conditional hc' hy' hn' => simp only [paths, List.any_append, hc hc', hy hy', hn hn']
  | loop name source body hsource hbody =>
    cases h with
    | loop _ _ hsource' hbody' | loopVariable hsource' hbody' =>
      simp only [paths, List.any_append, hsource hsource', hbody hbody']
  | quantified q name source test hsource htest =>
    cases h with
    | quantified _ _ hsource' htest' | quantifiedVariable hsource' htest' =>
      simp only [paths, List.any_append, hsource hsource', htest htest']
  | between e l u he hl hu =>
    cases h with
    | between he' hl' hu' => simp only [paths, List.any_append, he he', hl hl', hu hu']
  | instanceOf e type he =>
    cases h with
    | instanceOf he' => simp only [paths, he he']
  | filter b test hb htest =>
    cases h with
    | filter hb' htest' _ | filterVariable _ hb' htest' _ =>
      simp only [paths, List.any_append, hb hb', htest htest']

mutual

-- The name is not used, and no variable has a point in its name.
def leavesOut (new : String) : Expr → Bool
  | literal _ => true
  | reference path => !pathMentions new path
  | binary _ l r => leavesOut new l && leavesOut new r
  | unary _ e => leavesOut new e
  | range l u _ _ => leavesOut new l && leavesOut new u
  | list items => itemsLeaveOut new items
  | context entries => entriesLeaveOut new entries
  | call _ arguments => itemsLeaveOut new arguments
  | property base _ => leavesOut new base
  | conditional c y n => leavesOut new c && leavesOut new y && leavesOut new n
  | loop name s b => name != new && !name.contains '.' && leavesOut new s && leavesOut new b
  | quantified _ name s p =>
    name != new && !name.contains '.' && leavesOut new s && leavesOut new p
  | between e l u => leavesOut new e && leavesOut new l && leavesOut new u
  | instanceOf e _ => leavesOut new e
  | filter b p => leavesOut new b && leavesOut new p

def itemsLeaveOut (new : String) : List Expr → Bool
  | [] => true
  | e :: es => leavesOut new e && itemsLeaveOut new es

def entriesLeaveOut (new : String) : List (String × Expr) → Bool
  | [] => true
  | (key, e) :: es => key != new && leavesOut new e && entriesLeaveOut new es

end

mutual

-- Another name for a variable where it is not bound anew.
def rename (old new : String) : Expr → Expr
  | literal l => literal l
  | reference path =>
    reference (if pathMentions old path then
      String.ofList (new.toList ++ path.toList.drop old.toList.length) else path)
  | binary op l r => binary op (rename old new l) (rename old new r)
  | unary op e => unary op (rename old new e)
  | range l u i j => range (rename old new l) (rename old new u) i j
  | list items => list (renameItems old new items)
  | context entries => context (renameEntries old new entries)
  | call function arguments => call function (renameItems old new arguments)
  | property base key => property (rename old new base) key
  | conditional c y n => conditional (rename old new c) (rename old new y) (rename old new n)
  | loop name s b => loop name (rename old new s) (if name = old then b else rename old new b)
  | quantified q name s p =>
    quantified q name (rename old new s) (if name = old then p else rename old new p)
  | between e l u => between (rename old new e) (rename old new l) (rename old new u)
  | instanceOf e type => instanceOf (rename old new e) type
  | filter b p => filter (rename old new b) (rename old new p)

def renameItems (old new : String) : List Expr → List Expr
  | [] => []
  | e :: es => rename old new e :: renameItems old new es

def renameEntries (old new : String) : List (String × Expr) → List (String × Expr)
  | [] => []
  | (key, e) :: es =>
    (key, rename old new e) :: if key = old then es else renameEntries old new es

end

theorem RenamesItems.refl {items : List Expr} (h : itemsLeaveOut new items = true)
    (hitems : ∀ e ∈ items, e.leavesOut new = true → Renames old new inTests standing e e) :
    RenamesItems old new inTests standing items items := by
  induction items with
  | nil => exact .nil
  | cons e items ih =>
    rw [itemsLeaveOut, Bool.and_eq_true] at h
    rw [List.forall_mem_cons] at hitems
    exact .cons (hitems.1 h.1) (ih h.2 hitems.2)

theorem behind_unchanged : Standing.unchanged.behind old name = .unchanged := by
  unfold Standing.behind
  split <;> rfl

theorem RenamesEntries.refl {entries : List (String × Expr)}
    (h : entriesLeaveOut new entries = true)
    (hentries : ∀ e ∈ entries, e.2.leavesOut new = true →
      Renames old new inTests .unchanged e.2 e.2) :
    RenamesEntries old new inTests .unchanged entries entries := by
  induction entries with
  | nil => exact .nil
  | cons e entries ih =>
    simp only [entriesLeaveOut, Bool.and_eq_true, bne_iff_ne] at h
    rw [List.forall_mem_cons] at hentries
    refine .cons h.1.1 (hentries.1 h.1.2) ?_
    rw [behind_unchanged]
    exact ih h.2 hentries.2

-- Nothing need be renamed.
theorem Renames.refl (h : e.leavesOut new = true) : Renames old new inTests .unchanged e e := by
  induction e using Expr.induction with
  | literal l => exact .literal l
  | reference path => exact .reference (by simpa [leavesOut] using h) (.inl rfl)
  | binary op l u hl hu =>
    rw [leavesOut, Bool.and_eq_true] at h
    exact .binary (hl h.1) (hu h.2)
  | unary op e he => exact .unary (he h)
  | range l u i j hl hu =>
    rw [leavesOut, Bool.and_eq_true] at h
    exact .range (hl h.1) (hu h.2)
  | list items hitems => exact .list (.refl h hitems)
  | context entries hentries => exact .context (.refl h hentries)
  | call f arguments harguments => exact .call (.refl h harguments)
  | property b key hb => exact .property (hb h)
  | conditional c y n hc hy hn =>
    simp only [leavesOut, Bool.and_eq_true] at h
    exact .conditional (hc h.1.1) (hy h.1.2) (hn h.2)
  | loop name source body hsource hbody =>
    simp only [leavesOut, Bool.and_eq_true, bne_iff_ne] at h
    refine .loop h.1.1.1 (by simpa using h.1.1.2) (hsource h.1.2) ?_
    rw [behind_unchanged]
    exact hbody h.2
  | quantified q name source test hsource htest =>
    simp only [leavesOut, Bool.and_eq_true, bne_iff_ne] at h
    refine .quantified h.1.1.1 (by simpa using h.1.1.2) (hsource h.1.2) ?_
    rw [behind_unchanged]
    exact htest h.2
  | between e l u he hl hu =>
    simp only [leavesOut, Bool.and_eq_true] at h
    exact .between (he h.1.1) (hl h.1.2) (hu h.2)
  | instanceOf e type he => exact .instanceOf (he h)
  | filter b test hb htest =>
    rw [leavesOut, Bool.and_eq_true] at h
    exact .filter (hb h.1) (htest h.2) rfl

theorem behind_renamed_of_ne (h : name ≠ old) : Standing.renamed.behind old name = .renamed :=
  if_neg h

theorem behind_renamed_self : Standing.renamed.behind old old = .unchanged :=
  if_pos rfl

theorem exists_of_pathMentions (h : pathMentions name path = true) :
    path = name ∨ ∃ rest, path = name ++ "." ++ rest := by
  rw [pathMentions, Bool.or_eq_true, beq_iff_eq, List.isPrefixOf_iff_prefix] at h
  refine h.imp_right ?_
  rintro ⟨rest, hrest⟩
  exact ⟨String.ofList rest, String.toList_inj.1 (by simpa using hrest.symm)⟩

theorem renames_reference (h : pathMentions new path = false) :
    Renames old new inTests .renamed (.reference path) (rename old new (.reference path)) := by
  rw [rename]
  split
  case isTrue hmention =>
    obtain rfl | ⟨rest, rfl⟩ := exists_of_pathMentions hmention
    · have hdrop : String.ofList (new.toList ++ path.toList.drop path.toList.length) = new := by
        simp
      rw [hdrop]
      exact .named
    · have hdrop : String.ofList
          (new.toList ++ (old ++ "." ++ rest).toList.drop old.toList.length) =
            new ++ "." ++ rest := by
        simp [← String.toList_inj]
      rw [hdrop]
      exact .rooted rest
  case isFalse hmention => exact .reference h (.inr (Bool.eq_false_iff.2 hmention))

theorem RenamesItems.rename {items : List Expr} (h : itemsLeaveOut new items = true)
    (hitems : ∀ e ∈ items, e.leavesOut new = true →
      Renames old new inTests .renamed e (rename old new e)) :
    RenamesItems old new inTests .renamed items (renameItems old new items) := by
  induction items with
  | nil => exact .nil
  | cons e items ih =>
    rw [itemsLeaveOut, Bool.and_eq_true] at h
    rw [List.forall_mem_cons] at hitems
    exact .cons (hitems.1 h.1) (ih h.2 hitems.2)

theorem RenamesEntries.rename {entries : List (String × Expr)}
    (h : entriesLeaveOut new entries = true)
    (hentries : ∀ e ∈ entries, e.2.leavesOut new = true →
      Renames old new inTests .renamed e.2 (rename old new e.2)) :
    RenamesEntries old new inTests .renamed entries (renameEntries old new entries) := by
  induction entries with
  | nil => exact .nil
  | cons e entries ih =>
    simp only [entriesLeaveOut, Bool.and_eq_true, bne_iff_ne] at h
    rw [List.forall_mem_cons] at hentries
    refine .cons h.1.1 (hentries.1 h.1.2) ?_
    split
    case isTrue hkey =>
      subst hkey
      rw [behind_renamed_self]
      exact .refl h.2 fun _ _ he => .refl he
    case isFalse hkey =>
      rw [behind_renamed_of_ne hkey]
      exact ih h.2 hentries.2

-- A variable can take any name that is not used in its scope.
theorem renames_rename (hold : '.' ∉ old.toList) (hnew : '.' ∉ new.toList)
    (hitem : Apart old new itemName) (h : e.leavesOut new = true) :
    Renames old new true .renamed e (rename old new e) := by
  have hscope {name : String} {body : Expr} (hbody : body.leavesOut new = true)
      (ih : Renames old new true .renamed body (rename old new body)) :
      Renames old new true (Standing.renamed.behind old name) body
        (if name = old then body else rename old new body) := by
    split
    case isTrue hname =>
      subst hname
      rw [behind_renamed_self]
      exact .refl hbody
    case isFalse hname => rwa [behind_renamed_of_ne hname]
  induction e using Expr.induction with
  | literal l => exact .literal l
  | reference path => exact renames_reference (by simpa [leavesOut] using h)
  | binary op l u hl hu =>
    rw [leavesOut, Bool.and_eq_true] at h
    exact .binary (hl h.1) (hu h.2)
  | unary op e he => exact .unary (he h)
  | range l u i j hl hu =>
    rw [leavesOut, Bool.and_eq_true] at h
    exact .range (hl h.1) (hu h.2)
  | list items hitems => exact .list (.rename h hitems)
  | context entries hentries => exact .context (.rename h hentries)
  | call f arguments harguments => exact .call (.rename h harguments)
  | property b key hb => exact .property (hb h)
  | conditional c y n hc hy hn =>
    simp only [leavesOut, Bool.and_eq_true] at h
    exact .conditional (hc h.1.1) (hy h.1.2) (hn h.2)
  | loop name source body hsource hbody =>
    simp only [leavesOut, Bool.and_eq_true, bne_iff_ne] at h
    exact .loop h.1.1.1 (by simpa using h.1.1.2) (hsource h.1.2) (hscope h.2 (hbody h.2))
  | quantified q name source test hsource htest =>
    simp only [leavesOut, Bool.and_eq_true, bne_iff_ne] at h
    exact .quantified h.1.1.1 (by simpa using h.1.1.2) (hsource h.1.2) (hscope h.2 (htest h.2))
  | between e l u he hl hu =>
    simp only [leavesOut, Bool.and_eq_true] at h
    exact .between (he h.1.1) (hl h.1.2) (hu h.2)
  | instanceOf e type he => exact .instanceOf (he h)
  | filter b test hb htest =>
    rw [leavesOut, Bool.and_eq_true] at h
    exact .filterVariable rfl (hb h.1) (htest h.2) ((htest h.2).mentions_eq hold hnew hitem)

end Expr

end Rulebook
