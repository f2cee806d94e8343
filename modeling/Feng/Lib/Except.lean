import Mathlib.Logic.Basic

/-
  Taking computations that may fail apart.

  Key theorems include:
    * `Except.bind_eq_ok`
    * `Except.bind_map_congr`
    * `Except.ok_of_map_eq`
-/

namespace Feng

variable {ε α β γ δ : Type}

/- A sequence succeeds when both of its parts do. -/
theorem Except.bind_eq_ok
    {x : Except ε α}
    {f : α → Except ε β}
    {b : β} :
    (x >>= f) = .ok b ↔ ∃ a, x = .ok a ∧ f a = .ok b := by
  cases x with
  | error e =>
      simp [bind, Except.bind]
  | ok a =>
      simp [bind, Except.bind]

/-
  Sequences look alike when their first parts do, and when
  what follows does not notice where these differ.
-/
theorem Except.bind_map_congr
    {x y : Except ε α}
    {f g : α → Except ε β}
    {u : α → γ}
    {v : β → δ}
    (hFirst : x.map u = y.map u)
    (hRest :
      ∀ a b, u a = u b → (f a).map v = (g b).map v) :
    (x >>= f).map v = (y >>= g).map v := by
  cases x with
  | error e =>
      cases y with
      | error e' =>
          cases hFirst
          rfl
      | ok b => cases hFirst
  | ok a =>
      cases y with
      | error e' => cases hFirst
      | ok b =>
          simp only [Except.map, Except.ok.injEq] at hFirst
          exact hRest a b hFirst

/- Where one computation succeeds, so does one like it. -/
theorem Except.ok_of_map_eq
    {x y : Except ε α}
    {u : α → γ}
    {a : α}
    (hSame : x.map u = y.map u)
    (hOk : x = .ok a) :
    ∃ b, y = .ok b ∧ u a = u b := by
  subst hOk
  cases y with
  | error e => cases hSame
  | ok b =>
      simp only [Except.map, Except.ok.injEq] at hSame
      exact ⟨b, rfl, hSame⟩

end Feng
