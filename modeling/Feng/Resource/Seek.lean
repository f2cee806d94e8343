import Feng.Resource.Fill
import Feng.Rtp.Session

/-
  Seeking in a stored resource: the flag that says that the
  resource has ended is set where a packet is read, and never
  reset. It is looked at by the task that fills the queue and
  by the callback that writes from it.

  Key definitions include:
    * `SeekState`
    * `Seek.step`
    * `Seek.SoughtOpen`
    * `Seek.SeeksOpen`

  Key theorems include:
    * `Fill.step_eor`
    * `Seek.run_eor`
    * `Seek.sought_open_iff`
    * `Seek.sought_ended`
-/

------------------------------------------------------------
-- The End Of The Resource
------------------------------------------------------------

namespace Feng

namespace Fill

variable {bufferedFrames : Nat} {s t : FillState} {op : Op}

/- A packet is read, and there is none or an error. -/
def Ends (op : Op) : Prop :=
  op = .taskRead .eof ∨ op = .taskRead .error

instance decidableEnds : DecidablePred Ends :=
  fun op =>
    inferInstanceAs
      (Decidable
        (op = .taskRead .eof ∨ op = .taskRead .error))

theorem lockSession_eor
    {next : SessionPc}
    (hStep : lockSession s next = .ok t) :
    t.eor = s.eor := by
  rcases lockSession_eq_ok.mp hStep with ⟨_, rfl⟩
  rfl

theorem sessionStep_eor
    {pc : SessionPc}
    (hStep : sessionStep s op pc = .ok t) :
    t.eor = s.eor := by
  unfold sessionStep at hStep
  split at hStep
  all_goals first
    | exact lockSession_eor hStep
    | cases hStep <;> rfl
    | split at hStep <;> cases hStep <;> rfl

theorem taskStep_eor
    {pc : TaskPc}
    (hStep : taskStep bufferedFrames s op pc = .ok t) :
    t.eor = (s.eor || decide (Ends op)) := by
  unfold taskStep at hStep
  split at hStep
  case h_5 result =>
    cases result with
    | ok =>
        cases hStep
        simp [Ends]
    | eof =>
        cases hStep
        simp [Ends]
    | error =>
        cases hStep
        simp [Ends]
  case h_8 => cases hStep
  case h_6 =>
    cases hStep
    simp [Ends]
  all_goals
    split at hStep
    all_goals
      cases hStep
      try simp [Ends]

/- The flag is set at the end, and otherwise left as it is. -/
theorem step_eor
    (hStep : step bufferedFrames s op = .ok t) :
    t.eor = (s.eor || decide (Ends op)) := by
  unfold step at hStep
  split at hStep
  · rename_i hSession
    rw [sessionStep_eor hStep]
    have hNot : ¬ Ends op := by
      rintro (rfl | rfl)
      · cases hSession
      · cases hSession
    simp [hNot]
  · exact taskStep_eor hStep

/-
  While the flag is not set, the task ends only where it finds
  the pool cleared, or enough buffers.
-/
theorem step_fills
    (hOpen : s.eor = false)
    (hRuns : s.task ≠ .none)
    (hStep : step bufferedFrames s op = .ok t)
    (hOver : t.task = .none) :
    s.fillPool = false ∨
      ∃ unseen, op = .taskTestUnseen unseen ∧
        unseen ≥ bufferedFrames := by
  unfold step at hStep
  split at hStep
  · have hMove := sessionStep_move rfl hStep
    rw [hMove.task] at hOver
    exact absurd hOver hRuns
  · unfold taskStep at hStep
    split at hStep
    · rename_i hTask _
      exact absurd hTask hRuns
    · split at hStep
      · cases hStep
        cases hOver
      · rename_i hPool
        exact .inl (Bool.eq_false_iff.mpr hPool)
    · split at hStep
      · rename_i unseen _ _ hEnough
        exact .inr ⟨unseen, rfl, hEnough⟩
      · cases hStep
        cases hOver
    · split at hStep
      · cases hStep
        cases hOver
      · cases hStep
    · split at hStep
      all_goals
        cases hStep
        cases hOver
    · cases hStep
      cases hOver
    · rw [hOpen] at hStep
      cases hStep
      cases hOver
    · cases hStep

end Fill

end Feng

------------------------------------------------------------
-- Seeking
------------------------------------------------------------

namespace Feng

/-
  A resource that is sought in and filled. It is recorded
  whether no packet read since the last `r_seek` that returned
  0 was the end, or an error.
-/
structure SeekState where
  fill : FillState
  sought : Bool
deriving DecidableEq, Repr

namespace Seek

/- The end of `r_seek` comes with what it returns. -/
inductive Op where
| fill (op : Fill.Op)
| seekUnlock (res : Int)
deriving DecidableEq, Repr

def step
    (bufferedFrames : Nat)
    (s : SeekState) :
    Op → Except Fill.NotTaken SeekState
| .fill op =>
    if op = .seekUnlock then
      .error .elsewhere
    else
      match Fill.step bufferedFrames s.fill op with
      | .error reason => .error reason
      | .ok fill =>
          .ok
            { fill := fill
              sought := s.sought && !decide (Fill.Ends op) }
| .seekUnlock res =>
    match Fill.step bufferedFrames s.fill .seekUnlock with
    | .error reason => .error reason
    | .ok fill =>
        .ok
          { fill := fill
            sought := s.sought || decide (res = 0) }

def initial : SeekState where
  fill := Fill.initial
  sought := false

def enabled (_ : SeekState) (_ : Op) : Prop :=
  True

instance decidableEnabled
    (s : SeekState)
    (op : Op) :
    Decidable (enabled s op) :=
  isTrue trivial

def system (bufferedFrames : Nat) : System SeekState Op :=
  System.ofStep initial enabled (step bufferedFrames)

/- A packet is read, and there is none or an error. -/
def Ends : Op → Prop
| .fill op => Fill.Ends op
| .seekUnlock _ => False

instance decidableEnds : DecidablePred Ends
| .fill op => inferInstanceAs (Decidable (Fill.Ends op))
| .seekUnlock _ => isFalse id

/-
  What is asked for after a seek: the flag is not set, the
  task fills on until there are enough buffers or the pool is
  cleared, and the writer does not end an empty stream.
-/
structure Continues
    (bufferedFrames : Nat)
    (s : FillState) : Prop where
  eor : s.eor = false
  fills : ∀ op t,
    s.task ≠ .none →
      Fill.step bufferedFrames s op = .ok t →
      t.task = .none →
      s.fillPool = false ∨
        ∃ unseen, op = .taskTestUnseen unseen ∧
          unseen ≥ bufferedFrames
  waits : ∀ (rtp rtp' : RtpState) (env : RtpEnv)
      (producer : BufferQueueProducer)
      (consumer : BufferQueueConsumer),
    env.eor = s.eor →
      bqConsumerStopped rtp.queue.producer = false →
      bqConsumerGet rtp.queue.producer
          (rtp.queue.consumer rtp.session.consumer) =
        .ok (producer, consumer, none) →
      rtpWriteCbGet rtp env = .ok rtp' →
      rtp'.sent = rtp.sent

def SoughtOpen
    (bufferedFrames : Nat)
    (s : SeekState) : Prop :=
  s.sought = true → Continues bufferedFrames s.fill

/- No packet was the end before a seek that succeeds. -/
def SeeksOpen
    (past : List (SeekState × Op))
    (_ : SeekState) : Op → Prop
| .seekUnlock res => res = 0 → ∀ x ∈ past, ¬ Ends x.2
| .fill _ => True

instance decidableSeeksOpen
    (past : List (SeekState × Op))
    (s : SeekState) :
    (op : Op) → Decidable (SeeksOpen past s op)
| .seekUnlock res =>
    inferInstanceAs
      (Decidable (res = 0 → ∀ x ∈ past, ¬ Ends x.2))
| .fill _ => isTrue trivial

end Seek

end Feng

------------------------------------------------------------
-- When The Flag Is Not Set
------------------------------------------------------------

namespace Feng

namespace Seek

variable {bufferedFrames : Nat}
variable {trace : List (SeekState × Op)}
variable {s t : SeekState} {op : Op}

theorem continues_of_open
    (bufferedFrames : Nat)
    {fill : FillState}
    (hOpen : fill.eor = false) :
    Continues bufferedFrames fill where
  eor := hOpen
  fills := by
    intro op t hRuns hStep hOver
    exact Fill.step_fills hOpen hRuns hStep hOver
  waits := by
    intro rtp rtp' env producer consumer hEnv hStopped hGet hCb
    rw [hOpen] at hEnv
    unfold rtpWriteCbGet at hCb
    simp only [hStopped, Bool.false_eq_true, if_false] at hCb
    rw [hGet] at hCb
    simp only [queueCall, hEnv] at hCb
    cases hCb
    rfl

theorem soughtOpen_iff :
    SoughtOpen bufferedFrames s ↔
      (s.sought = true → s.fill.eor = false) := by
  constructor
  · intro h hSought
    exact (h hSought).eor
  · intro h hSought
    exact continues_of_open bufferedFrames (h hSought)

/- All that is used of a step. -/
structure StepMove (s t : SeekState) (op : Op) : Prop where
  eor : t.fill.eor = (s.fill.eor || decide (Ends op))
  sought : t.sought = true →
    op = .seekUnlock 0 ∨ s.sought = true ∧ ¬ Ends op
  seeks : op = .seekUnlock 0 → t.sought = true

theorem step_move
    (hStep : step bufferedFrames s op = .ok t) :
    StepMove s t op := by
  cases op with
  | fill op =>
      simp only [step] at hStep
      split at hStep
      · cases hStep
      · split at hStep
        · cases hStep
        · rename_i fill hFill
          cases hStep
          refine ⟨Fill.step_eor hFill, ?_, nofun⟩
          intro hSought
          simp only [Bool.and_eq_true, Bool.not_eq_true',
            decide_eq_false_iff_not] at hSought
          exact .inr hSought
  | seekUnlock res =>
      simp only [step] at hStep
      split at hStep
      · cases hStep
      · rename_i fill hFill
        cases hStep
        have hNone : ¬ Fill.Ends .seekUnlock := by
          decide
        refine ⟨?_, ?_, ?_⟩
        · have hEor := Fill.step_eor hFill
          rw [decide_eq_false hNone] at hEor
          exact hEor
        · intro hSought
          simp only [Bool.or_eq_true, decide_eq_true_eq]
            at hSought
          rcases hSought with hOld | rfl
          · exact .inr ⟨hOld, id⟩
          · exact .inl rfl
        · intro hOp
          cases hOp
          simp

/- The flag says whether a packet was the end, in all the run. -/
theorem run_eor
    (hRun : (system bufferedFrames).Run trace s) :
    s.fill.eor = true ↔ ∃ x ∈ trace, Ends x.2 := by
  induction hRun with
  | start hStart =>
      rw [hStart]
      simp [initial, Fill.initial]
  | @step trace s t op hRun hStep ih =>
      rw [(step_move hStep.2).eor, Bool.or_eq_true,
        decide_eq_true_eq, ih]
      simp only [List.mem_append, List.mem_singleton,
        or_and_right, exists_or, exists_eq_left]

/-
  After every seek that succeeds, until a packet is the end,
  the flag is not set and all goes on, exactly if no packet
  had been the end before such a seek.
-/
theorem sought_open_iff
    (hRun : (system bufferedFrames).Run trace s) :
    System.Always (SoughtOpen bufferedFrames) trace s ↔
      System.PastGuarded SeeksOpen [] trace := by
  induction hRun with
  | start hStart =>
      apply iff_of_true _ trivial
      constructor
      · intro x hMem
        cases hMem
      · rw [hStart]
        intro hSought
        cases hSought
  | @step trace s t op hRun hStep ih =>
      have hMove := step_move hStep.2
      rw [System.always_snoc, System.pastGuarded_snoc, ih,
        List.nil_append]
      apply and_congr_right
      intro hTrace
      have hPrior := (ih.mpr hTrace).2
      rw [soughtOpen_iff] at hPrior ⊢
      have hEor := run_eor hRun
      constructor
      · intro hOpen
        cases op with
        | fill op => trivial
        | seekUnlock res =>
            rintro rfl x hMem hEnds
            have hSet := hEor.mpr ⟨x, hMem, hEnds⟩
            have hNot := hOpen (hMove.seeks rfl)
            rw [hMove.eor, hSet] at hNot
            cases hNot
      · intro hGuard hSought
        rw [hMove.eor]
        rcases hMove.sought hSought with
          rfl | ⟨hOld, hNotEnds⟩
        · have hNone : s.fill.eor ≠ true := by
            intro hSet
            rcases hEor.mp hSet with ⟨x, hMem, hEnds⟩
            exact hGuard rfl x hMem hEnds
          rw [Bool.eq_false_iff.mpr hNone]
          rfl
        · rw [hPrior hOld, decide_eq_false hNotEnds]
          rfl

/- A seek, and then a packet that is the end. -/
def seekOps : List Op :=
  [.fill .resume, .fill .seekLock, .seekUnlock 0,
    .fill .fillLock, .fill .fillPush, .fill .fillUnlock,
    .fill .taskStart, .fill .taskTestPool,
    .fill (.taskTestUnseen 0), .fill .taskLock,
    .fill (.taskRead .eof), .fill .taskUnlock]

theorem sought_open_iff_seek :
    System.Always (SoughtOpen 16)
        (System.replayTrace (step 16) initial seekOps)
        (System.replayEnd (step 16) initial seekOps) ↔
      System.PastGuarded SeeksOpen []
        (System.replayTrace (step 16) initial seekOps) :=
  sought_open_iff
    (System.replay_run (by decide +kernel)
      (by decide +kernel))

/- Back to the start, once all was played. -/
def seekBackOps : List Op :=
  seekOps ++ [.fill .seekLock, .seekUnlock 0]

theorem sought_ended :
    ¬ ∀ trace s,
      (system 16).Run trace s → SoughtOpen 16 s := by
  intro hAll
  have hRun :
      (system 16).Run
        (System.replayTrace (step 16) initial seekBackOps)
        (System.replayEnd (step 16) initial seekBackOps) :=
    System.replay_run (by decide +kernel)
      (by decide +kernel)
  have hOpen := soughtOpen_iff.mp (hAll _ _ hRun)
  exact absurd hOpen (by decide +kernel)

end Seek

end Feng
