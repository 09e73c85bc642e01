import Rulebook.Engine.Sources
import Rulebook.Proofs.Cache.Entries

/-!
Reading a text through the texts that were read before gives what reading it anew would give. What
is kept is what the grammar of its key makes of the text of its key, and every computation that
only reads texts keeps it so.
-/

namespace Rulebook

open Syntax (ParseError parseExpression parseCell)

def Parsed.IsReadingOf : Parsed → Grammar × String → Prop
  | .expression e, (.expression, text) => parseExpression text = .ok e
  | .cell c, (.cell, text) => parseCell text = .ok c
  | _, _ => False

namespace Sources

def Faithful (s : Sources) : Prop :=
  ∀ key parsed, s.Holds key parsed → parsed.IsReadingOf key

variable {s : Sources} {key : Grammar × String} {parsed : Parsed}

theorem faithful_of_off (h : s.cache = none) : s.Faithful :=
  fun _ _ h' => absurd h' (SwitchedCache.not_holds_of_off h)

theorem faithful_ofConfig {config : CacheConfig} : Faithful (SwitchedCache.ofConfig config) :=
  fun _ _ h => absurd h SwitchedCache.not_holds_ofConfig

namespace Faithful

theorem get (h : s.Faithful) : Faithful (s.get key).2 :=
  fun _ _ h' => h _ _ h'.of_get

theorem insert (h : s.Faithful) (hp : parsed.IsReadingOf key) : Faithful (s.insert key parsed) := by
  intro key' parsed' h'
  obtain ⟨rfl, rfl⟩ | h' := h'.of_insert
  · exact hp
  · exact h _ _ h'

theorem clear : Faithful s.clear :=
  fun _ _ h => absurd h SwitchedCache.not_holds_clear

theorem wait {duration : Nat} (h : s.Faithful) : Faithful (s.wait duration) :=
  fun _ _ h' => h _ _ h'.of_wait

end Faithful

end Sources

-- From faithful sources on, the computation gives this answer and leaves them faithful.
def Yields {α : Type} (m : WithSources α) (a : α) : Prop :=
  ∀ s : Sources, s.Faithful → (m s).1 = a ∧ Sources.Faithful (m s).2

namespace Yields

variable {α β ε : Type} {a : α} {b : β}

theorem pure : Yields (Pure.pure a) a :=
  fun _ h => ⟨rfl, h⟩

theorem bind {m : WithSources α} {f : α → WithSources β} (h₁ : Yields m a) (h₂ : Yields (f a) b) :
    Yields (m >>= f) b := by
  intro s hs
  obtain ⟨ha, hs⟩ := h₁ s hs
  subst ha
  exact h₂ _ hs

theorem ite {c : Prop} [Decidable c] {m₁ m₂ : WithSources α} {a₁ a₂ : α} (h₁ : Yields m₁ a₁)
    (h₂ : Yields m₂ a₂) : Yields (if c then m₁ else m₂) (if c then a₁ else a₂) := by
  split
  · exact h₁
  · exact h₂

theorem liftExcept {m : WithSources α} (h : Yields m a) :
    Yields (liftM m : ExceptT ε WithSources α).run (.ok a) :=
  fun s hs => ⟨congrArg Except.ok (h s hs).1, (h s hs).2⟩

theorem bindLift {m : WithSources α} {x : Except ε β} {f : α → ExceptT ε WithSources β}
    (h₁ : Yields m a) (h₂ : Yields (f a).run x) : Yields (liftM m >>= f).run x := by
  rw [ExceptT.run_bind]
  exact h₁.liftExcept.bind h₂

-- A computation that may fail does so with the same error.
theorem bindExcept {m : ExceptT ε WithSources α} {x : Except ε α} {f : α → ExceptT ε WithSources β}
    {g : α → Except ε β} (h₁ : Yields m.run x) (h₂ : ∀ a, Yields (f a).run (g a)) :
    Yields (m >>= f).run (x >>= g) := by
  rw [ExceptT.run_bind]
  refine h₁.bind ?_
  cases x with
  | error e => exact pure
  | ok a => exact h₂ a

theorem mapExcept {m : ExceptT ε WithSources α} {x : Except ε α} (f : α → β) (h : Yields m.run x) :
    Yields (m >>= fun a => Pure.pure (f a)).run (x.map f) := by
  have hx : x.map f = x >>= fun a => Pure.pure (f a) := by cases x <;> rfl
  rw [hx]
  exact h.bindExcept fun _ => pure

end Yields

namespace Sources

theorem yields_expression (text : String) : Yields (expression text) (parseExpression text) := by
  intro s hs
  have hs' : Faithful (s.get (.expression, text)).2 := hs.get
  simp only [expression]
  split
  case h_1 e s' hget =>
    have h : (s.get (.expression, text)).1 = some (.expression e) := by rw [hget]
    rw [hget] at hs'
    exact ⟨(hs _ _ (SwitchedCache.holds_of_get h)).symm, hs'⟩
  case h_2 found s' _ hget =>
    rw [hget] at hs'
    split
    case h_1 e h => exact ⟨h.symm, hs'.insert h⟩
    case h_2 e h => exact ⟨h.symm, hs'⟩

theorem yields_cell (text : String) : Yields (cell text) (parseCell text) := by
  intro s hs
  have hs' : Faithful (s.get (.cell, text)).2 := hs.get
  simp only [cell]
  split
  case h_1 c s' hget =>
    have h : (s.get (.cell, text)).1 = some (.cell c) := by rw [hget]
    rw [hget] at hs'
    exact ⟨(hs _ _ (SwitchedCache.holds_of_get h)).symm, hs'⟩
  case h_2 found s' _ hget =>
    rw [hget] at hs'
    split
    case h_1 c h => exact ⟨h.symm, hs'.insert h⟩
    case h_2 e h => exact ⟨h.symm, hs'⟩

end Sources

end Rulebook
