import Mathlib.Data.List.Basic
import Mathlib.Tactic.Tauto

/-
  Labelled transition systems, their runs and the rules by
  which a property of every run is proved from its steps.

  A run records, for every step taken, the state the step
  was taken in and its label, so that both a condition on
  the steps and a property of the states visited can be
  stated about it.

  Key definitions include:
    * `System`
    * `System.Run`
    * `System.Always`
    * `System.Guarded`
    * `System.PastGuarded`
    * `System.ofStep`
    * `System.replay`
    * `System.replayTrace`
    * `System.replayEnd`
    * `System.Throughout`
    * `System.collect`

  Key theorems include:
    * `System.Run.invariant`
    * `System.Run.guarded_always`
    * `System.Run.invariant_of_always`
    * `System.Run.safe_iff_guarded`
    * `System.Run.always_iff_guarded`
    * `System.Run.transfer`
    * `System.Run.guarded_congr`
    * `System.replay_run`
    * `System.guarded_replayTrace`
    * `System.collect_snoc`
-/

------------------------------------------------------------
-- Systems And Runs
------------------------------------------------------------

/- Initial states and labelled steps. -/
structure System (σ α : Type) where
  init : σ → Prop
  step : σ → α → σ → Prop

namespace System

variable {σ α ε : Type}

/-
  The runs of a system: the steps taken, oldest first, and
  the state they lead to.
-/
inductive Run (S : System σ α) :
    List (σ × α) → σ → Prop where
| start {s : σ} :
    S.init s → Run S [] s
| step {trace : List (σ × α)} {s t : σ} {a : α} :
    Run S trace s → S.step s a t →
      Run S (trace ++ [(s, a)]) t

/- A property of every state a run visits. -/
def Always
    (I : σ → Prop)
    (trace : List (σ × α))
    (last : σ) : Prop :=
  (∀ x ∈ trace, I x.1) ∧ I last

instance decidableAlways
    (I : σ → Prop)
    [DecidablePred I]
    (trace : List (σ × α))
    (last : σ) :
    Decidable (Always I trace last) :=
  inferInstanceAs
    (Decidable ((∀ x ∈ trace, I x.1) ∧ I last))

/- A condition on every step of a run. -/
def Guarded
    (C : σ → α → Prop)
    (trace : List (σ × α)) : Prop :=
  ∀ x ∈ trace, C x.1 x.2

instance decidableGuarded
    (C : σ → α → Prop)
    [∀ s a, Decidable (C s a)]
    (trace : List (σ × α)) :
    Decidable (Guarded C trace) :=
  inferInstanceAs (Decidable (∀ x ∈ trace, C x.1 x.2))

/-
  A condition on every step of a run that also looks at the
  steps before it.
-/
def PastGuarded
    (C : List (σ × α) → σ → α → Prop)
    (past : List (σ × α)) :
    List (σ × α) → Prop
| [] => True
| x :: rest =>
    C past x.1 x.2 ∧ PastGuarded C (past ++ [x]) rest

instance decidablePastGuarded
    (C : List (σ × α) → σ → α → Prop)
    [∀ past s a, Decidable (C past s a)] :
    (past trace : List (σ × α)) →
      Decidable (PastGuarded C past trace)
| _, [] => isTrue trivial
| past, x :: rest =>
    have := decidablePastGuarded C (past ++ [x]) rest
    inferInstanceAs
      (Decidable
        (C past x.1 x.2 ∧ PastGuarded C (past ++ [x]) rest))

theorem pastGuarded_snoc
    {C : List (σ × α) → σ → α → Prop}
    {past trace : List (σ × α)}
    {s : σ}
    {a : α} :
    PastGuarded C past (trace ++ [(s, a)]) ↔
      PastGuarded C past trace ∧ C (past ++ trace) s a := by
  induction trace generalizing past with
  | nil =>
      simp [PastGuarded]
  | cons x trace ih =>
      simp only [List.cons_append, PastGuarded, ih,
        List.append_assoc, List.nil_append, and_assoc]

theorem guarded_snoc
    {C : σ → α → Prop}
    {trace : List (σ × α)}
    {s : σ}
    {a : α} :
    Guarded C (trace ++ [(s, a)]) ↔
      Guarded C trace ∧ C s a := by
  simp [Guarded, or_imp, forall_and]

theorem always_snoc
    {I : σ → Prop}
    {trace : List (σ × α)}
    {s t : σ}
    {a : α} :
    Always I (trace ++ [(s, a)]) t ↔
      Always I trace s ∧ I t := by
  simp [Always, or_imp, forall_and, and_assoc]

theorem always_and
    {I J : σ → Prop}
    {trace : List (σ × α)}
    {last : σ} :
    Always (fun s => I s ∧ J s) trace last ↔
      Always I trace last ∧ Always J trace last := by
  unfold Always
  simp only [imp_and, forall_and]
  tauto

end System

------------------------------------------------------------
-- Invariant Rules
------------------------------------------------------------

namespace System

variable {σ α ε : Type}
variable {S : System σ α}
variable {I : σ → Prop} {C : σ → α → Prop}

/-
  A property of the initial states that every step meeting
  the guard preserves holds throughout every run whose steps
  all meet the guard.
-/
theorem Run.guarded_always
    (hInit : ∀ s, S.init s → I s)
    (hStep :
      ∀ s a t, I s → C s a → S.step s a t → I t)
    {trace : List (σ × α)}
    {last : σ}
    (hRun : S.Run trace last)
    (hGuard : Guarded C trace) :
    Always I trace last := by
  induction hRun with
  | start hs =>
      exact ⟨by simp, hInit _ hs⟩
  | step hRun hLast ih =>
      rcases guarded_snoc.mp hGuard with ⟨hTrace, hC⟩
      have hPrior := ih hTrace
      exact always_snoc.mpr
        ⟨hPrior, hStep _ _ _ hPrior.2 hC hLast⟩

/- An inductive property holds at the end of every run. -/
theorem Run.invariant
    (hInit : ∀ s, S.init s → I s)
    (hStep : ∀ s a t, I s → S.step s a t → I t)
    {trace : List (σ × α)}
    {last : σ}
    (hRun : S.Run trace last) :
    I last :=
  (hRun.guarded_always (C := fun _ _ => True) hInit
    (fun s a t hI _ => hStep s a t hI)
    (fun _ _ => trivial)).2

/-
  Where every state visited has a property, only the steps to
  such states need to keep the invariant.
-/
theorem Run.invariant_of_always
    {P : σ → Prop}
    (hInit : ∀ s, S.init s → I s)
    (hStep : ∀ s a t, I s → P t → S.step s a t → I t)
    {trace : List (σ × α)}
    {last : σ}
    (hRun : S.Run trace last)
    (hAlways : Always P trace last) :
    I last := by
  induction hRun with
  | start hs => exact hInit _ hs
  | step hRun hLast ih =>
      rcases always_snoc.mp hAlways with ⟨hTrace, hP⟩
      exact hStep _ _ _ (ih hTrace) hP hLast

/-
  If the states of an invariant are safe, and every step from
  one of them that misses the guard leads to one that is not,
  the runs that are safe throughout are the guarded ones.
-/
theorem Run.safe_iff_guarded
    {P : σ → Prop}
    (hInit : ∀ s, S.init s → I s)
    (hStep :
      ∀ s a t, I s → C s a → S.step s a t → I t)
    (hSafe : ∀ s, I s → P s)
    (hBreak :
      ∀ s a t, I s → ¬ C s a → S.step s a t → ¬ P t)
    {trace : List (σ × α)}
    {last : σ}
    (hRun : S.Run trace last) :
    Always P trace last ↔ Guarded C trace := by
  constructor
  · intro hAlways
    induction hRun with
    | start _ =>
        simp [Guarded]
    | step hRun hLast ih =>
        rcases always_snoc.mp hAlways with ⟨hTrace, hP⟩
        have hGuard := ih hTrace
        refine guarded_snoc.mpr ⟨hGuard, ?_⟩
        have hI :=
          (hRun.guarded_always hInit hStep hGuard).2
        by_contra hC
        exact hBreak _ _ _ hI hC hLast hP
  · intro hGuard
    have hAlways := hRun.guarded_always hInit hStep hGuard
    exact ⟨fun x hx => hSafe _ (hAlways.1 x hx),
      hSafe _ hAlways.2⟩

/- In particular where the safe states are the invariant. -/
theorem Run.always_iff_guarded
    (hInit : ∀ s, S.init s → I s)
    (hStep :
      ∀ s a t, I s → C s a → S.step s a t → I t)
    (hBreak :
      ∀ s a t, I s → ¬ C s a → S.step s a t → ¬ I t)
    {trace : List (σ × α)}
    {last : σ}
    (hRun : S.Run trace last) :
    Always I trace last ↔ Guarded C trace :=
  hRun.safe_iff_guarded hInit hStep (fun _ hI => hI) hBreak

/-
  A run is one of another system too that takes the same steps
  from each of the states it visits.
-/
theorem Run.transfer
    {T : System σ α}
    (hInit : ∀ s, S.init s → T.init s)
    (hSame : ∀ s a t, I s → S.step s a t → T.step s a t)
    {trace : List (σ × α)}
    {last : σ}
    (hRun : S.Run trace last)
    (hAlways : Always I trace last) :
    T.Run trace last := by
  induction hRun with
  | start hs =>
      exact .start (hInit _ hs)
  | step hRun hLast ih =>
      have hTrace := (always_snoc.mp hAlways).1
      exact .step (ih hTrace) (hSame _ _ _ hTrace.2 hLast)

/-
  Two conditions that say the same of the steps taken from
  the states of an invariant hold of the same runs, if either
  of them keeps the invariant.
-/
theorem Run.guarded_congr
    {P : σ → α → Prop}
    (hInit : ∀ s, S.init s → I s)
    (hStep :
      ∀ s a t, I s → C s a → S.step s a t → I t)
    (hIff :
      ∀ s a t, I s → S.step s a t → (P s a ↔ C s a))
    {trace : List (σ × α)}
    {last : σ}
    (hRun : S.Run trace last) :
    Guarded P trace ↔ Guarded C trace := by
  induction hRun with
  | start _ =>
      simp [Guarded]
  | step hRun hLast ih =>
      rw [guarded_snoc, guarded_snoc, ih]
      apply and_congr_right
      intro hTrace
      have hPrior :=
        (hRun.guarded_always hInit hStep hTrace).2
      exact hIff _ _ _ hPrior hLast

end System

------------------------------------------------------------
-- Executable Systems
------------------------------------------------------------

namespace System

variable {σ α ε : Type}

/-
  The system of a step function that may fail; a label can
  only be taken where it is enabled.
-/
def ofStep
    (start : σ)
    (enabled : σ → α → Prop)
    (step : σ → α → Except ε σ) : System σ α where
  init := fun s => s = start
  step := fun s a t => enabled s a ∧ step s a = .ok t

/- Run a list of labels from a state. -/
def replay
    (step : σ → α → Except ε σ) :
    σ → List α → Except ε σ
| s, [] => .ok s
| s, a :: as =>
    match step s a with
    | .ok t => replay step t as
    | .error e => .error e

/- The state a replay leads to. -/
def replayEnd
    (step : σ → α → Except ε σ)
    (s : σ)
    (labels : List α) : σ :=
  match replay step s labels with
  | .ok t => t
  | .error _ => s

/- The steps taken by a replay. -/
def replayTrace
    (step : σ → α → Except ε σ) :
    σ → List α → List (σ × α)
| _, [] => []
| s, a :: as =>
    match step s a with
    | .ok t => (s, a) :: replayTrace step t as
    | .error _ => []

/- Every label of a replay is enabled where it is taken. -/
def Enabled
    (enabled : σ → α → Prop)
    (step : σ → α → Except ε σ) :
    σ → List α → Prop
| _, [] => True
| s, a :: as =>
    enabled s a ∧
      match step s a with
      | .ok t => Enabled enabled step t as
      | .error _ => True

instance decidableEnabled
    (enabled : σ → α → Prop)
    [∀ s a, Decidable (enabled s a)]
    (step : σ → α → Except ε σ) :
    (s : σ) → (as : List α) →
      Decidable (Enabled enabled step s as)
| _, [] => isTrue trivial
| s, a :: as =>
    match hStep : step s a with
    | .ok t =>
        have := decidableEnabled enabled step t as
        decidable_of_iff
          (enabled s a ∧ Enabled enabled step t as)
          (by simp [Enabled, hStep])
    | .error _ =>
        decidable_of_iff (enabled s a)
          (by simp [Enabled, hStep])

/- A property of every state a replay reaches on its way. -/
def Throughout
    (P : σ → Prop)
    (step : σ → α → Except ε σ) :
    σ → List α → Prop
| s, [] => P s
| s, a :: as =>
    P s ∧
      match step s a with
      | .ok t => Throughout P step t as
      | .error _ => True

instance decidableThroughout
    (P : σ → Prop)
    [DecidablePred P]
    (step : σ → α → Except ε σ) :
    (s : σ) → (as : List α) →
      Decidable (Throughout P step s as)
| s, [] => inferInstanceAs (Decidable (P s))
| s, a :: as =>
    match hStep : step s a with
    | .ok t =>
        have := decidableThroughout P step t as
        decidable_of_iff (P s ∧ Throughout P step t as)
          (by simp [Throughout, hStep])
    | .error _ =>
        decidable_of_iff (P s) (by simp [Throughout, hStep])

theorem Throughout.start
    {P : σ → Prop}
    {step : σ → α → Except ε σ}
    {s : σ}
    {labels : List α}
    (h : Throughout P step s labels) :
    P s := by
  cases labels with
  | nil => exact h
  | cons a labels => exact h.1

/- A successful replay from a state on a run extends the run. -/
theorem replay_run_from
    {start : σ}
    {enabled : σ → α → Prop}
    {step : σ → α → Except ε σ}
    {labels : List α}
    {trace : List (σ × α)}
    {s : σ}
    (hRun : (ofStep start enabled step).Run trace s)
    (hEnabled : Enabled enabled step s labels)
    (hReplay : (replay step s labels).isOk = true) :
    (ofStep start enabled step).Run
      (trace ++ replayTrace step s labels)
      (replayEnd step s labels) := by
  induction labels generalizing trace s with
  | nil =>
      simpa [replayTrace, replayEnd, replay] using hRun
  | cons a labels ih =>
      cases hStep : step s a with
      | ok u =>
          simp only [replay, hStep] at hReplay
          simp only [Enabled, hStep] at hEnabled
          have hNext :
              (ofStep start enabled step).Run
                (trace ++ [(s, a)]) u :=
            Run.step hRun ⟨hEnabled.1, hStep⟩
          have hRest := ih hNext hEnabled.2 hReplay
          cases hEnd : replay step u labels with
          | ok t =>
              simpa [replayTrace, replayEnd, replay, hStep,
                hEnd] using hRest
          | error e =>
              rw [hEnd] at hReplay
              cases hReplay
      | error e =>
          simp only [replay, hStep] at hReplay
          cases hReplay

/- A successful replay of enabled labels is a run. -/
theorem replay_run
    {start : σ}
    {enabled : σ → α → Prop}
    {step : σ → α → Except ε σ}
    {labels : List α}
    (hEnabled : Enabled enabled step start labels)
    (hReplay : (replay step start labels).isOk = true) :
    (ofStep start enabled step).Run
      (replayTrace step start labels)
      (replayEnd step start labels) := by
  simpa using
    replay_run_from (Run.start rfl) hEnabled hReplay

theorem replayEnd_step
    {step : σ → α → Except ε σ}
    {s : σ}
    {a : α}
    (h : (step s a).isOk = true) :
    step s a = .ok (replayEnd step s [a]) := by
  cases hStep : step s a with
  | ok t => simp [replayEnd, replay, hStep]
  | error e =>
      rw [hStep] at h
      cases h

/- Labels that are enabled anywhere are enabled in a replay. -/
theorem enabled_of_labels
    {enabled : σ → α → Prop}
    {step : σ → α → Except ε σ}
    {labels : List α}
    (hLabels : ∀ a ∈ labels, ∀ s, enabled s a)
    (s : σ) :
    Enabled enabled step s labels := by
  induction labels generalizing s with
  | nil => trivial
  | cons a labels ih =>
      refine ⟨hLabels a List.mem_cons_self s, ?_⟩
      split
      · exact ih
          (fun b hMem =>
            hLabels b (List.mem_cons_of_mem a hMem)) _
      · trivial

/- What is asked of the labels alone holds of their replay. -/
theorem guarded_replayTrace
    {C : α → Prop}
    {step : σ → α → Except ε σ}
    {labels : List α}
    (hLabels : ∀ a ∈ labels, C a)
    (s : σ) :
    Guarded (fun _ a => C a) (replayTrace step s labels) := by
  induction labels generalizing s with
  | nil =>
      intro x hMem
      cases hMem
  | cons a labels ih =>
      have hRest : ∀ b ∈ labels, C b := fun b hMem =>
        hLabels b (List.mem_cons_of_mem a hMem)
      intro x hMem
      unfold replayTrace at hMem
      split at hMem
      · rename_i t hStep
        rcases List.mem_cons.mp hMem with rfl | hLater
        · exact hLabels a List.mem_cons_self
        · exact ih hRest t x hLater
      · cases hMem

end System

------------------------------------------------------------
-- What A Run Writes Down
------------------------------------------------------------

namespace System

variable {σ α β : Type}

/- What the steps write down, each with those before in view. -/
def collect
    (f : List (σ × α) → σ → α → Option β)
    (past : List (σ × α)) :
    List (σ × α) → List β
| [] => []
| x :: rest =>
    (f past x.1 x.2).toList ++ collect f (past ++ [x]) rest

theorem collect_snoc
    (f : List (σ × α) → σ → α → Option β)
    (past trace : List (σ × α))
    (x : σ × α) :
    collect f past (trace ++ [x]) =
      collect f past trace ++
        (f (past ++ trace) x.1 x.2).toList := by
  induction trace generalizing past with
  | nil => simp [collect]
  | cons y trace ih =>
      simp only [List.cons_append, collect, ih,
        List.append_assoc, List.nil_append]

end System
