import Mathlib.Data.List.Basic
import Mathlib.Data.List.Range

/-
  Lists whose elements carry consecutive numbers, such as
  the elements of a queue in the order they were put.

  Key definitions include:
    * `Consecutive`

  Key theorems include:
    * `consecutive_append_singleton`
    * `Consecutive.dropWhile_ne`
    * `Consecutive.dropWhile_le`
    * `Consecutive.head?_drop`
-/

namespace Feng

variable {α : Type} {f : α → Nat} {a : Nat} {l : List α}

/- The numbers of the elements are `a`, `a + 1`, and so on. -/
def Consecutive (f : α → Nat) : Nat → List α → Prop
| _, [] => True
| a, x :: l => f x = a ∧ Consecutive f (a + 1) l

@[simp] theorem consecutive_nil :
    Consecutive f a [] :=
  trivial

@[simp] theorem consecutive_cons
    {x : α} :
    Consecutive f a (x :: l) ↔
      f x = a ∧ Consecutive f (a + 1) l :=
  Iff.rfl

theorem consecutive_append_singleton
    {x : α} :
    Consecutive f a (l ++ [x]) ↔
      Consecutive f a l ∧ f x = a + l.length := by
  induction l generalizing a with
  | nil =>
      simp
  | cons y l ih =>
      simp only [List.cons_append, consecutive_cons, ih,
        List.length_cons]
      constructor
      · rintro ⟨hy, hl, hx⟩
        exact ⟨⟨hy, hl⟩, by omega⟩
      · rintro ⟨⟨hy, hl⟩, hx⟩
        exact ⟨hy, hl, by omega⟩

/- Changing the elements but not their numbers. -/
theorem Consecutive.map
    {g : α → α}
    (hKeeps : ∀ x, f (g x) = f x)
    (h : Consecutive f a l) :
    Consecutive f a (l.map g) := by
  induction l generalizing a with
  | nil =>
      simp
  | cons x l ih =>
      exact ⟨(hKeeps x).trans h.1, ih h.2⟩

/- Taking the same away from all numbers. -/
theorem Consecutive.map_sub
    {g : α → α}
    {n : Nat}
    (hLess : ∀ x, f (g x) = f x - n)
    (hLow : n ≤ a)
    (h : Consecutive f a l) :
    Consecutive f (a - n) (l.map g) := by
  induction l generalizing a with
  | nil =>
      simp
  | cons x l ih =>
      rcases h with ⟨hx, hl⟩
      have hNext : a - n + 1 = a + 1 - n := by
        omega
      refine ⟨by rw [hLess, hx], ?_⟩
      rw [hNext]
      exact ih (by omega) hl

theorem Consecutive.map_eq_range'
    (h : Consecutive f a l) :
    l.map f = List.range' a l.length := by
  induction l generalizing a with
  | nil =>
      rfl
  | cons x l ih =>
      simp [List.range'_succ, h.1, ih h.2]

theorem Consecutive.bounds
    (h : Consecutive f a l)
    {x : α}
    (hx : x ∈ l) :
    a ≤ f x ∧ f x < a + l.length := by
  have hMem : f x ∈ List.range' a l.length := by
    rw [← h.map_eq_range']
    exact List.mem_map_of_mem hx
  simpa using hMem

theorem Consecutive.exists_of_bounds
    (h : Consecutive f a l)
    {n : Nat}
    (hLow : a ≤ n)
    (hHigh : n < a + l.length) :
    ∃ x ∈ l, f x = n := by
  have hMem : n ∈ l.map f := by
    rw [h.map_eq_range']
    simp [hLow, hHigh]
  simpa using hMem

/- Looking for a number skips exactly the elements before it. -/
theorem Consecutive.dropWhile_ne
    (h : Consecutive f a l)
    {n : Nat}
    (hLow : a ≤ n) :
    l.dropWhile (fun x => f x ≠ n) = l.drop (n - a) := by
  induction l generalizing a with
  | nil =>
      simp
  | cons x l ih =>
      rcases h with ⟨hx, hl⟩
      by_cases hn : n = a
      · simp [hx, hn]
      · have hDrop : n - a = (n - (a + 1)) + 1 := by
          omega
        have hne : f x ≠ n := by
          omega
        rw [List.dropWhile_cons_of_pos (by simpa using hne),
          ih hl (by omega), hDrop, List.drop_succ_cons]

/- So does skipping every number up to a bound. -/
theorem Consecutive.dropWhile_le
    (h : Consecutive f a l)
    {n : Nat}
    (hLow : a ≤ n + 1) :
    l.dropWhile (fun x => f x ≤ n) =
      l.drop (n + 1 - a) := by
  induction l generalizing a with
  | nil =>
      simp
  | cons x l ih =>
      rcases h with ⟨hx, hl⟩
      by_cases hn : n + 1 = a
      · have hgt : ¬ f x ≤ n := by
          omega
        rw [List.dropWhile_cons_of_neg (by simpa using hgt),
          hn, Nat.sub_self, List.drop_zero]
      · have hDrop : n + 1 - a = (n + 1 - (a + 1)) + 1 := by
          omega
        have hle : f x ≤ n := by
          omega
        rw [List.dropWhile_cons_of_pos (by simpa using hle),
          ih hl (by omega), hDrop, List.drop_succ_cons]

theorem Consecutive.drop
    (h : Consecutive f a l)
    (i : Nat) :
    Consecutive f (a + i) (l.drop i) := by
  induction l generalizing a i with
  | nil =>
      simp
  | cons x l ih =>
      cases i with
      | zero =>
          exact h
      | succ i =>
          have hNext : a + 1 + i = a + (i + 1) := by
            omega
          simpa [hNext] using ih h.2 i

/- The number of the first element behind a prefix. -/
theorem Consecutive.head?_drop
    (h : Consecutive f a l)
    (i : Nat) :
    (l.drop i).head?.map f =
      if i < l.length then some (a + i) else none := by
  have hDrop := h.drop i
  cases hRest : l.drop i with
  | nil =>
      have hLength := List.drop_eq_nil_iff.mp hRest
      simp [hLength]
  | cons x rest =>
      have hLength : i < l.length := by
        by_contra hn
        rw [List.drop_eq_nil_of_le (by omega)] at hRest
        cases hRest
      rw [hRest] at hDrop
      simp [hLength, hDrop.1]

end Feng
