import Feng.Lib.System

/-
  Forward simulations between labelled transition systems, in
  which some steps of the first are silent in the second.

  Whatever a run of the first system does, the second can do
  as well, with the labels that are seen of it.

  Key definitions include:
    * `System.observed`
    * `System.Simulation`

  Key theorems include:
    * `System.Simulation.run`
-/

------------------------------------------------------------
-- Simulations
------------------------------------------------------------

namespace System

variable {σ τ α β : Type}
variable {S : System σ α} {T : System τ β}
variable {see : σ → α → Option β} {R : σ → τ → Prop}
variable {I : σ → Prop}

/- What is seen of the steps of a run. -/
def observed
    (see : σ → α → Option β)
    (trace : List (σ × α)) : List β :=
  trace.filterMap (fun x => see x.1 x.2)

theorem observed_snoc
    (trace : List (σ × α))
    (s : σ)
    (a : α) :
    observed see (trace ++ [(s, a)]) =
      observed see trace ++ (see s a).toList := by
  unfold observed
  rw [List.filterMap_append]
  cases hSee : see s a with
  | none => simp [hSee]
  | some b => simp [hSee]

/-
  Related states stay related: a step that is not seen leaves
  the second state as it is, and one that is seen is a step of
  the second system, with what is seen for its label.
-/
structure Simulation
    (S : System σ α)
    (T : System τ β)
    (see : σ → α → Option β)
    (I : σ → Prop)
    (R : σ → τ → Prop) : Prop where
  init : ∀ s, S.init s → ∃ t, T.init t ∧ R s t
  silent :
    ∀ s a s' t, I s → S.step s a s' → see s a = none →
      R s t → R s' t
  seen :
    ∀ s a s' t b, I s → S.step s a s' → see s a = some b →
      R s t → ∃ t', T.step t b t' ∧ R s' t'

/- A run is one of the second system, as far as it is seen. -/
theorem Simulation.run
    {trace : List (σ × α)}
    {last : σ}
    (h : Simulation S T see I R)
    (hAlways : Always I trace last)
    (hRun : S.Run trace last) :
    ∃ trace' last',
      T.Run trace' last' ∧ R last last' ∧
        trace'.map Prod.snd = observed see trace := by
  induction hRun with
  | start hInit =>
      rcases h.init _ hInit with ⟨t, hStart, hRelated⟩
      exact ⟨[], t, .start hStart, hRelated, rfl⟩
  | step hRun hStep ih =>
      rename_i trace s s' a
      have hPrior := (always_snoc.mp hAlways).1
      rcases ih hPrior with
        ⟨trace', t, hRun', hRelated, hLabels⟩
      cases hSee : see s a with
      | none =>
          refine ⟨trace', t, hRun',
            h.silent s a s' t hPrior.2 hStep hSee hRelated,
            ?_⟩
          rw [observed_snoc, hSee, hLabels]
          simp
      | some b =>
          rcases h.seen s a s' t b hPrior.2 hStep hSee
              hRelated with ⟨t', hStep', hRelated'⟩
          refine ⟨trace' ++ [(t, b)], t', .step hRun' hStep',
            hRelated', ?_⟩
          rw [observed_snoc, hSee, List.map_append, hLabels]
          rfl

end System
