import HandleBridge.Error
import Mathlib.Data.List.Forall2

/-!
Computations that end alike: both with results that are related, or both with errors that are. The rules follow the way
computations are put together, so that two of the same shape are related step by step.
-/

namespace HandleBridge

/-- Whether two computations end alike: with related results, or with related errors. -/
inductive Matches {α β : Type} (E : Error → Error → Prop) (R : α → β → Prop) :
    Except Error α → Except Error β → Prop where
  | ok {a : α} {b : β} (related : R a b) : Matches E R (.ok a) (.ok b)
  | error {e e' : Error} (related : E e e') : Matches E R (.error e) (.error e')

namespace Matches

variable {α β γ δ : Type} {E F : Error → Error → Prop} {R : α → β → Prop} {S : γ → δ → Prop} {x : Except Error α}
  {y : Except Error β}

theorem mono (related : Matches E R x y) (implies : ∀ e e', E e e' → F e e') : Matches F R x y := by
  cases related with
  | ok same => exact .ok same
  | error same => exact .error (implies _ _ same)

theorem of_error {x : Except Error α} {e : Error} {R : α → α → Prop} (related : Matches E R x x)
    (failed : x = .error e) : E e e := by
  subst failed
  cases related with
  | error same => exact same

/-- Computations in two parts match if their parts do. -/
theorem bind {f : α → Except Error γ} {g : β → Except Error δ} (first : Matches E R x y)
    (rest : ∀ a b, x = .ok a → y = .ok b → R a b → Matches E S (f a) (g b)) : Matches E S (x >>= f) (y >>= g) := by
  cases first with
  | ok same => exact rest _ _ rfl rfl same
  | error same => exact .error same

theorem map {f : α → γ} {g : β → δ} (related : Matches E R x y) (maps : ∀ a b, R a b → S (f a) (g b)) :
    Matches E S (x.map f) (y.map g) := by
  cases related with
  | ok same => exact .ok (maps _ _ same)
  | error same => exact .error same

/-- Two checks that decide alike, each before the rest of its work. -/
theorem check {p q : Prop} [Decidable p] [Decidable q] {e e' : Error} {f : PUnit → Except Error γ}
    {g : PUnit → Except Error δ} (same : p ↔ q) (refused : E e e') (rest : Matches E S (f ⟨⟩) (g ⟨⟩)) :
    Matches E S (if p then f ⟨⟩ else MonadExcept.throw e >>= f) (if q then g ⟨⟩ else MonadExcept.throw e' >>= g) := by
  by_cases passes : p
  · rw [if_pos passes,if_pos (same.mp passes)]
    exact rest
  · rw [if_neg passes,if_neg (mt same.mpr passes)]
    exact .error refused

/-- Two refusals that decide alike, each before the rest of its work. -/
theorem refuse {p q : Prop} [Decidable p] [Decidable q] {e e' : Error} {f : PUnit → Except Error γ}
    {g : PUnit → Except Error δ} (same : p ↔ q) (refused : E e e') (rest : Matches E S (f ⟨⟩) (g ⟨⟩)) :
    Matches E S (if p then MonadExcept.throw e >>= f else f ⟨⟩) (if q then MonadExcept.throw e' >>= g else g ⟨⟩) := by
  by_cases refuses : p
  · rw [if_pos refuses,if_pos (same.mp refuses)]
    exact .error refused
  · rw [if_neg refuses,if_neg (mt same.mpr refuses)]
    exact rest

theorem forM {T : γ → δ → Prop} {xs : List γ} {ys : List δ} {f : γ → Except Error Unit} {g : δ → Except Error Unit}
    (alike : List.Forall₂ T xs ys) (each : ∀ x y, T x y → Matches E Eq (f x) (g y)) :
    Matches E Eq (xs.forM f) (ys.forM g) := by
  induction alike with
  | nil => exact .ok rfl
  | cons same _ ih => exact (each _ _ same).bind fun _ _ _ _ _ => ih

end Matches

end HandleBridge
