import Mathlib.Data.List.Basic

/-
  Things that are tried in order, up to the first with which
  there is a success.

  An attempt changes a state, also where it fails. There may
  be no way to make it, and then the whole comes to nothing.

  Key definitions include:
    * `tryInOrder`
    * `AllFail`

  Key theorems include:
    * `tryInOrder_eq_success`
    * `tryInOrder_eq_failure`
    * `tryInOrder_eq_none`
    * `tryInOrder_keeps`
-/

------------------------------------------------------------
-- Trying In Order
------------------------------------------------------------

namespace Feng

variable {σ α ρ : Type}

/- An attempt, if there is one: the state, and a success. -/
abbrev Attempt (σ α ρ : Type) :=
  σ → α → Option (σ × Option ρ)

def tryInOrder
    (attempt : Attempt σ α ρ) :
    σ → List α → Option (σ × Option ρ)
| s, [] => some (s, none)
| s, a :: as =>
    match attempt s a with
    | none => none
    | some (t, some r) => some (t, some r)
    | some (t, none) => tryInOrder attempt t as

/- All attempts can be made, and fail one after the other. -/
inductive AllFail (attempt : Attempt σ α ρ) :
    σ → List α → σ → Prop where
| nil {s : σ} : AllFail attempt s [] s
| cons {s t u : σ} {a : α} {as : List α} :
    attempt s a = some (t, none) →
      AllFail attempt t as u →
      AllFail attempt s (a :: as) u

end Feng

------------------------------------------------------------
-- What Comes Of It
------------------------------------------------------------

namespace Feng

variable {σ α ρ : Type} {attempt : Attempt σ α ρ}
variable {s t u : σ} {a : α} {as bs : List α} {r : ρ}

/- Attempts that fail are left behind. -/
theorem AllFail.tryInOrder_append
    (h : AllFail attempt s as t)
    (bs : List α) :
    tryInOrder attempt s (as ++ bs) =
      tryInOrder attempt t bs := by
  induction h with
  | nil => rfl
  | cons hFails _ ih =>
      rw [List.cons_append, tryInOrder, hFails]
      exact ih

/- The state in which attempts have failed is the only one. -/
theorem AllFail.unique
    (h : AllFail attempt s as t)
    (h' : AllFail attempt s as u) :
    t = u := by
  induction h with
  | nil =>
      cases h'
      rfl
  | cons hFails _ ih =>
      cases h' with
      | cons hFails' hRest =>
          rw [hFails] at hFails'
          cases hFails'
          exact ih hRest

/- All attempts fail, or there is a first one that does not. -/
theorem allFail_or_first
    (attempt : Attempt σ α ρ)
    (s : σ)
    (as : List α) :
    (∃ t, AllFail attempt s as t) ∨
      ∃ first a rest t,
        as = first ++ a :: rest ∧
        AllFail attempt s first t ∧
        ∀ u, attempt t a ≠ some (u, none) := by
  induction as generalizing s with
  | nil => exact .inl ⟨s, .nil⟩
  | cons a as ih =>
      by_cases hFails : ∃ t, attempt s a = some (t, none)
      · rcases hFails with ⟨t, hFails⟩
        rcases ih t with ⟨u, hAll⟩ |
          ⟨first, b, rest, u, rfl, hFirst, hNot⟩
        · exact .inl ⟨u, .cons hFails hAll⟩
        · exact .inr ⟨a :: first, b, rest, u, rfl,
            .cons hFails hFirst, hNot⟩
      · refine .inr ⟨[], a, as, s, rfl, .nil, ?_⟩
        intro u hIs
        exact hFails ⟨u, hIs⟩

theorem tryInOrder_eq_failure :
    tryInOrder attempt s as = some (t, none) ↔
      AllFail attempt s as t := by
  constructor
  · intro hTry
    rcases allFail_or_first attempt s as with ⟨u, hAll⟩ |
      ⟨first, a, rest, u, rfl, hFirst, hNot⟩
    · have hEnd := hAll.tryInOrder_append []
      rw [List.append_nil, hTry, tryInOrder] at hEnd
      cases hEnd
      exact hAll
    · rw [hFirst.tryInOrder_append, tryInOrder] at hTry
      split at hTry
      · cases hTry
      · cases hTry
      · rename_i next hNext
        exact absurd hNext (hNot next)
  · intro hAll
    have hEnd := hAll.tryInOrder_append []
    rwa [List.append_nil, tryInOrder] at hEnd

/- The first success is what comes of it. -/
theorem tryInOrder_eq_success :
    tryInOrder attempt s as = some (t, some r) ↔
      ∃ first a rest u,
        as = first ++ a :: rest ∧
        AllFail attempt s first u ∧
        attempt u a = some (t, some r) := by
  constructor
  · intro hTry
    rcases allFail_or_first attempt s as with ⟨u, hAll⟩ |
      ⟨first, a, rest, u, rfl, hFirst, hNot⟩
    · rw [tryInOrder_eq_failure.mpr hAll] at hTry
      cases hTry
    · rw [hFirst.tryInOrder_append, tryInOrder] at hTry
      refine ⟨first, a, rest, u, rfl, hFirst, ?_⟩
      split at hTry
      · cases hTry
      · rename_i hSuccess
        rw [hSuccess]
        exact hTry
      · rename_i next hNext
        exact absurd hNext (hNot next)
  · rintro ⟨first, a, rest, u, rfl, hFirst, hSuccess⟩
    rw [hFirst.tryInOrder_append, tryInOrder, hSuccess]

/- It comes to nothing at an attempt that cannot be made. -/
theorem tryInOrder_eq_none :
    tryInOrder attempt s as = none ↔
      ∃ first a rest u,
        as = first ++ a :: rest ∧
        AllFail attempt s first u ∧
        attempt u a = none := by
  constructor
  · intro hTry
    rcases allFail_or_first attempt s as with ⟨u, hAll⟩ |
      ⟨first, a, rest, u, rfl, hFirst, hNot⟩
    · rw [tryInOrder_eq_failure.mpr hAll] at hTry
      cases hTry
    · rw [hFirst.tryInOrder_append, tryInOrder] at hTry
      refine ⟨first, a, rest, u, rfl, hFirst, ?_⟩
      split at hTry
      · assumption
      · cases hTry
      · rename_i next hNext
        exact absurd hNext (hNot next)
  · rintro ⟨first, a, rest, u, rfl, hFirst, hNone⟩
    rw [hFirst.tryInOrder_append, tryInOrder, hNone]

/- What every attempt keeps is still so in the end. -/
theorem tryInOrder_keeps
    {P : σ → Prop}
    {result : Option ρ}
    (hKeeps : ∀ s a t r,
      attempt s a = some (t, r) → P s → P t)
    (hStart : P s)
    (hTry : tryInOrder attempt s as = some (t, result)) :
    P t := by
  induction as generalizing s with
  | nil =>
      cases hTry
      exact hStart
  | cons a as ih =>
      rw [tryInOrder] at hTry
      split at hTry
      · cases hTry
      · rename_i next found hAttempt
        cases hTry
        exact hKeeps _ _ _ _ hAttempt hStart
      · rename_i next hAttempt
        exact ih (hKeeps _ _ _ _ hAttempt hStart) hTry

end Feng
