import Feng.Lib.System
import Mathlib.Data.List.Basic

/-
  The thread of a session and the task that fills the queues
  of its stored resource: the steps in which each takes and
  leaves `Resource::lock`, and the pool they share.

  `g_thread_pool_free` drops the tasks not started yet, and
  returns only when no task is running.

  Key definitions include:
    * `FillState`
    * `Fill.step`
    * `Fill.Deadlock`
    * `Fill.OutsideWindow`

  Key theorems include:
    * `Fill.no_deadlock_iff`
    * `Fill.deadlock_forever`
    * `Fill.stop_fill_unlocked`
-/

------------------------------------------------------------
-- Threads
------------------------------------------------------------

namespace Feng

inductive FillThread where
| session
| task
deriving DecidableEq, Repr

/- Where the thread of the session is. -/
inductive SessionPc where
| idle
/- In `r_seek`, with the lock. -/
| seeking
/- In `r_fill`, with the lock, before and after the push. -/
| filling
| filled
/- In `r_pause`, about to take the lock. -/
| pausing
/- In `r_pause`, with the lock, about to clear the pool. -/
| clearing
/- In `r_pause`, in the call of `g_thread_pool_free`. -/
| pauseFreeing
/- In `r_pause`, about to release the lock. -/
| paused
/- In `r_stop_fill`, in the call of `g_thread_pool_free`. -/
| stopFreeing
deriving DecidableEq, Repr

/- Where the running task of `r_read_cb` is, if there is one. -/
inductive TaskPc where
| none
| testPool
| testUnseen
/- About to take the lock. -/
| locking
/- With the lock, about to read a packet. -/
| reading
/- With the lock, about to release it. -/
| unlocking
| testEor
deriving DecidableEq, Repr

inductive ReadResult where
| ok
| eof
| error
deriving DecidableEq, Repr

/-
  A stored resource with its pool. `fillPool` tells whether
  the attribute is set, `pending` counts the tasks pushed and
  not started.
-/
structure FillState where
  lock : Option FillThread
  fillPool : Bool
  eor : Bool
  pending : Nat
  session : SessionPc
  task : TaskPc
deriving DecidableEq, Repr

/- The points at which the session holds the lock. -/
def SessionPc.locked : SessionPc → Bool
| .seeking => true
| .filling => true
| .filled => true
| .clearing => true
| .pauseFreeing => true
| .paused => true
| .idle => false
| .pausing => false
| .stopFreeing => false

/- The points at which the task holds the lock. -/
def TaskPc.locked : TaskPc → Bool
| .reading => true
| .unlocking => true
| .none => false
| .testPool => false
| .testUnseen => false
| .locking => false
| .testEor => false

end Feng

------------------------------------------------------------
-- Steps
------------------------------------------------------------

namespace Feng

namespace Fill

/- The steps of the session, and then those of the task. -/
inductive Op where
| resume
| seekLock
| seekUnlock
| fillLock
| fillPush
| fillUnlock
| pauseTest
| pauseLock
| pauseClear
| poolDrop
| poolReturn
| pauseUnlock
| stopFill
| taskStart
| taskTestPool
| taskTestUnseen (unseen : Nat)
| taskLock
| taskRead (result : ReadResult)
| taskUnlock
| taskTestEor
deriving DecidableEq, Repr

/- A thread is not where the step begins, or has to wait. -/
inductive NotTaken where
| elsewhere
| waits
deriving DecidableEq, Repr

/- `g_mutex_lock`, on the way to the next point. -/
def lockSession
    (s : FillState)
    (next : SessionPc) : Except NotTaken FillState :=
  match s.lock with
  | none =>
      .ok { s with lock := some .session, session := next }
  | some _ => .error .waits

/- A step of the session. -/
def sessionStep
    (s : FillState) :
    Op → SessionPc → Except NotTaken FillState
| .resume, .idle =>
    .ok { s with fillPool := true }
| .seekLock, .idle => lockSession s .seeking
| .seekUnlock, .seeking =>
    .ok { s with lock := none, session := .idle }
| .fillLock, .idle => lockSession s .filling
| .fillPush, .filling =>
    if s.fillPool then
      .ok { s with
        pending := s.pending + 1
        session := .filled }
    else
      .ok { s with session := .filled }
| .fillUnlock, .filled =>
    .ok { s with lock := none, session := .idle }
| .pauseTest, .idle =>
    if s.fillPool then
      .ok { s with session := .pausing }
    else
      .ok s
| .pauseLock, .pausing => lockSession s .clearing
| .pauseClear, .clearing =>
    .ok { s with fillPool := false, session := .pauseFreeing }
| .pauseUnlock, .paused =>
    .ok { s with lock := none, session := .idle }
| .stopFill, .idle =>
    if s.fillPool then
      .ok { s with fillPool := false, session := .stopFreeing }
    else
      .ok s
| .poolDrop, .pauseFreeing => .ok { s with pending := 0 }
| .poolDrop, .stopFreeing => .ok { s with pending := 0 }
| .poolReturn, .pauseFreeing =>
    if s.pending = 0 ∧ s.task = .none then
      .ok { s with session := .paused }
    else
      .error .waits
| .poolReturn, .stopFreeing =>
    if s.pending = 0 ∧ s.task = .none then
      .ok { s with session := .idle }
    else
      .error .waits
| _, _ => .error .elsewhere

/- A step of the pool, or of the task it runs. -/
def taskStep
    (bufferedFrames : Nat)
    (s : FillState) :
    Op → TaskPc → Except NotTaken FillState
| .taskStart, .none =>
    if s.pending = 0 then
      .error .waits
    else
      .ok { s with
        pending := s.pending - 1
        task := .testPool }
| .taskTestPool, .testPool =>
    if s.fillPool then
      .ok { s with task := .testUnseen }
    else
      .ok { s with task := .none }
| .taskTestUnseen unseen, .testUnseen =>
    if unseen ≥ bufferedFrames then
      .ok { s with task := .none }
    else
      .ok { s with task := .locking }
| .taskLock, .locking =>
    match s.lock with
    | none =>
        .ok { s with lock := some .task, task := .reading }
    | some _ => .error .waits
| .taskRead result, .reading =>
    match result with
    | .ok => .ok { s with task := .unlocking }
    | .eof => .ok { s with eor := true, task := .unlocking }
    | .error => .ok { s with eor := true, task := .unlocking }
| .taskUnlock, .unlocking =>
    .ok { s with lock := none, task := .testEor }
| .taskTestEor, .testEor =>
    if s.eor then
      .ok { s with task := .none }
    else
      .ok { s with task := .testPool }
| _, _ => .error .elsewhere

/- Whether a step is one of the session. -/
def Op.ofSession : Op → Bool
| .taskStart => false
| .taskTestPool => false
| .taskTestUnseen _ => false
| .taskLock => false
| .taskRead _ => false
| .taskUnlock => false
| .taskTestEor => false
| _ => true

def step
    (bufferedFrames : Nat)
    (s : FillState)
    (op : Op) : Except NotTaken FillState :=
  if op.ofSession then
    sessionStep s op s.session
  else
    taskStep bufferedFrames s op s.task

/- A resource just opened, not resumed yet. -/
def initial : FillState where
  lock := none
  fillPool := false
  eor := false
  pending := 0
  session := .idle
  task := .none

def enabled (_ : FillState) (_ : Op) : Prop :=
  True

instance decidableEnabled
    (s : FillState)
    (op : Op) :
    Decidable (enabled s op) :=
  isTrue trivial

def system (bufferedFrames : Nat) : System FillState Op :=
  System.ofStep initial enabled (step bufferedFrames)

end Fill

end Feng

------------------------------------------------------------
-- Deadlock
------------------------------------------------------------

namespace Feng

namespace Fill

variable {bufferedFrames : Nat}
variable {trace : List (FillState × Op)}
variable {s t : FillState} {op : Op}

/- `r_pause` waits for the task, the task for the lock. -/
def Deadlock (s : FillState) : Prop :=
  s.session = .pauseFreeing ∧ s.task = .locking

instance decidableDeadlock :
    DecidablePred Deadlock :=
  fun s =>
    inferInstanceAs
      (Decidable
        (s.session = .pauseFreeing ∧ s.task = .locking))

/-
  The pool is not cleared while the task is about to take the
  lock, and once it is cleared no task finds too few buffers.
-/
def OutsideWindow
    (bufferedFrames : Nat)
    (s : FillState) : Op → Prop
| .pauseClear => s.task ≠ .locking
| .taskTestUnseen unseen =>
    s.session = .pauseFreeing → unseen ≥ bufferedFrames
| _ => True

instance decidableOutsideWindow
    (s : FillState) :
    (op : Op) →
      Decidable (OutsideWindow bufferedFrames s op) := by
  intro op
  cases op <;> unfold OutsideWindow <;> infer_instance

theorem lockSession_eq_ok
    {next : SessionPc} :
    lockSession s next = .ok t ↔
      s.lock = none ∧
        t =
          { s with
            lock := some .session
            session := next } := by
  unfold lockSession
  cases hLock : s.lock with
  | none => simp [eq_comm]
  | some holder => simp

/- What a step does to the lock, and to who is in it. -/
inductive LockMove
    (thread : FillThread)
    (lock lock' : Option FillThread)
    (inside inside' : Bool) : Prop where
| acquire :
    lock = none → lock' = some thread →
      inside = false → inside' = true →
        LockMove thread lock lock' inside inside'
| release :
    lock' = none → inside = true → inside' = false →
      LockMove thread lock lock' inside inside'
| keep :
    lock' = lock → inside' = inside →
      LockMove thread lock lock' inside inside'

/- All that is used of a step of the session. -/
structure SessionMove
    (s t : FillState)
    (op : Op) : Prop where
  task : t.task = s.task
  lock :
    LockMove .session s.lock t.lock
      s.session.locked t.session.locked
  freeing :
    t.session = .pauseFreeing →
      s.session = .pauseFreeing ∨ op = .pauseClear

/- All that is used of a step of the task. -/
structure TaskMove
    (bufferedFrames : Nat)
    (s t : FillState)
    (op : Op) : Prop where
  session : t.session = s.session
  lock :
    LockMove .task s.lock t.lock s.task.locked t.task.locked
  locking :
    t.task = .locking →
      ∃ unseen,
        op = .taskTestUnseen unseen ∧
          unseen < bufferedFrames

theorem sessionMove_lock
    {next : SessionPc}
    (hOutside : s.session.locked = false)
    (hInside : next.locked = true)
    (hNext : next ≠ .pauseFreeing)
    (hStep : lockSession s next = .ok t) :
    SessionMove s t op := by
  rcases lockSession_eq_ok.mp hStep with ⟨hLock, hEq⟩
  subst hEq
  constructor
  · rfl
  · exact .acquire hLock rfl hOutside hInside
  · intro hFreeing
    exact absurd hFreeing hNext

theorem sessionMove_unlock
    {next : SessionPc}
    (hInside : s.session.locked = true)
    (hOutside : next.locked = false) :
    SessionMove s { s with lock := none, session := next }
      op := by
  constructor
  · rfl
  · exact .release rfl hInside hOutside
  · intro hFreeing
    simp only at hFreeing
    subst hFreeing
    cases hOutside

theorem sessionMove_keep
    (hTask : t.task = s.task)
    (hLock : t.lock = s.lock)
    (hInside : t.session.locked = s.session.locked)
    (hFreeing :
      t.session = .pauseFreeing →
        s.session = .pauseFreeing ∨ op = .pauseClear) :
    SessionMove s t op := by
  constructor
  · exact hTask
  · exact .keep hLock hInside
  · exact hFreeing

theorem sessionStep_move
    {pc : SessionPc}
    (hPc : s.session = pc)
    (hStep : sessionStep s op pc = .ok t) :
    SessionMove s t op := by
  unfold sessionStep at hStep
  have hIdle (h : s.session = .idle) :
      s.session.locked = false := by
    rw [h]
    rfl
  split at hStep
  · cases hStep
    exact sessionMove_keep rfl rfl rfl .inl
  · exact sessionMove_lock (hIdle hPc) rfl (by simp) hStep
  · cases hStep
    exact sessionMove_unlock (by rw [hPc]; rfl) rfl
  · exact sessionMove_lock (hIdle hPc) rfl (by simp) hStep
  · split at hStep
    · cases hStep
      exact sessionMove_keep rfl rfl (by rw [hPc]; rfl)
        (by simp)
    · cases hStep
      exact sessionMove_keep rfl rfl (by rw [hPc]; rfl)
        (by simp)
  · cases hStep
    exact sessionMove_unlock (by rw [hPc]; rfl) rfl
  · split at hStep
    · cases hStep
      exact sessionMove_keep rfl rfl (by rw [hPc]; rfl)
        (by simp)
    · cases hStep
      exact sessionMove_keep rfl rfl rfl .inl
  · exact sessionMove_lock (by rw [hPc]; rfl) rfl (by simp)
      hStep
  · cases hStep
    exact sessionMove_keep rfl rfl (by rw [hPc]; rfl)
      (fun _ => .inr rfl)
  · cases hStep
    exact sessionMove_unlock (by rw [hPc]; rfl) rfl
  · split at hStep
    · cases hStep
      exact sessionMove_keep rfl rfl (by rw [hPc]; rfl)
        (by simp)
    · cases hStep
      exact sessionMove_keep rfl rfl rfl .inl
  · cases hStep
    exact sessionMove_keep rfl rfl rfl .inl
  · cases hStep
    exact sessionMove_keep rfl rfl rfl .inl
  · split at hStep
    · cases hStep
      exact sessionMove_keep rfl rfl (by rw [hPc]; rfl)
        (by simp)
    · cases hStep
  · split at hStep
    · cases hStep
      exact sessionMove_keep rfl rfl (by rw [hPc]; rfl)
        (by simp)
    · cases hStep
  · cases hStep

theorem taskMove_keep
    (hSession : t.session = s.session)
    (hLock : t.lock = s.lock)
    (hInside : t.task.locked = s.task.locked)
    (hLocking : t.task ≠ .locking) :
    TaskMove bufferedFrames s t op := by
  constructor
  · exact hSession
  · exact .keep hLock hInside
  · intro hTask
    exact absurd hTask hLocking

theorem taskStep_move
    {pc : TaskPc}
    (hPc : s.task = pc)
    (hStep : taskStep bufferedFrames s op pc = .ok t) :
    TaskMove bufferedFrames s t op := by
  unfold taskStep at hStep
  split at hStep
  · split at hStep
    · cases hStep
    · cases hStep
      exact taskMove_keep rfl rfl (by rw [hPc]; rfl)
        (by simp)
  · split at hStep
    · cases hStep
      exact taskMove_keep rfl rfl (by rw [hPc]; rfl)
        (by simp)
    · cases hStep
      exact taskMove_keep rfl rfl (by rw [hPc]; rfl)
        (by simp)
  · split at hStep
    · cases hStep
      exact taskMove_keep rfl rfl (by rw [hPc]; rfl)
        (by simp)
    · rename_i hFew
      cases hStep
      constructor
      · rfl
      · exact .keep rfl (by rw [hPc]; rfl)
      · intro _
        exact ⟨_, rfl, Nat.lt_of_not_le hFew⟩
  · split at hStep
    · rename_i hLock
      cases hStep
      constructor
      · rfl
      · exact .acquire hLock rfl (by rw [hPc]; rfl) rfl
      · intro hLocking
        cases hLocking
    · cases hStep
  · split at hStep
    all_goals
      cases hStep
      exact taskMove_keep rfl rfl (by rw [hPc]; rfl)
        (by simp)
  · cases hStep
    constructor
    · rfl
    · exact .release rfl (by rw [hPc]; rfl) rfl
    · intro hLocking
      cases hLocking
  · split at hStep
    all_goals
      cases hStep
      exact taskMove_keep rfl rfl (by rw [hPc]; rfl)
        (by simp)
  · cases hStep

/- A step is one of the session or one of the task. -/
theorem step_move
    (hStep : step bufferedFrames s op = .ok t) :
    SessionMove s t op ∨ TaskMove bufferedFrames s t op := by
  unfold step at hStep
  split at hStep
  · exact .inl (sessionStep_move rfl hStep)
  · exact .inr (taskStep_move rfl hStep)

/-
  The lock is held by the session exactly where it has taken
  it and not released it, and likewise by the task.
-/
structure LockHeld (s : FillState) : Prop where
  session :
    s.lock = some .session ↔ s.session.locked = true
  task : s.lock = some .task ↔ s.task.locked = true

theorem initial_lockHeld :
    LockHeld initial := by
  constructor
  · simp [initial, SessionPc.locked]
  · simp [initial, TaskPc.locked]

/- The lock as a thread and the rest see it after a move. -/
theorem LockMove.holds
    {thread : FillThread}
    {lock lock' : Option FillThread}
    {inside inside' : Bool}
    (hMove : LockMove thread lock lock' inside inside')
    (hHeld : lock = some thread ↔ inside = true) :
    (lock' = some thread ↔ inside' = true) ∧
      ∀ other, other ≠ thread →
        (lock' = some other ↔ lock = some other) := by
  cases hMove with
  | acquire hFree hTaken hOut hIn =>
      subst hFree hTaken
      refine ⟨by simp [hIn], ?_⟩
      intro other hOther
      simp [hOther.symm]
  | release hFree hIn hOut =>
      have hLock := hHeld.mpr hIn
      subst hFree hLock
      refine ⟨by simp [hOut], ?_⟩
      intro other hOther
      simp [hOther.symm]
  | keep hLock hInside =>
      subst hLock hInside
      exact ⟨hHeld, fun _ _ => Iff.rfl⟩

theorem LockHeld.step
    (h : LockHeld s)
    (hStep : step bufferedFrames s op = .ok t) :
    LockHeld t := by
  rcases step_move hStep with hMove | hMove
  · rcases hMove.lock.holds h.session with
      ⟨hSession, hOther⟩
    constructor
    · exact hSession
    · rw [hOther .task (by simp), hMove.task]
      exact h.task
  · rcases hMove.lock.holds h.task with ⟨hTask, hOther⟩
    constructor
    · rw [hOther .session (by simp), hMove.session]
      exact h.session
    · exact hTask

theorem run_lockHeld
    (hRun : (system bufferedFrames).Run trace s) :
    LockHeld s := by
  apply hRun.invariant
  · intro s hStart
    subst hStart
    exact initial_lockHeld
  · intro s op t hHeld hStep
    exact hHeld.step hStep.2

end Fill

end Feng

------------------------------------------------------------
-- Pausing And Filling
------------------------------------------------------------

namespace Feng

namespace Fill

variable {bufferedFrames : Nat}
variable {trace : List (FillState × Op)}
variable {s t : FillState} {op : Op}

/- Outside the window no step leads into a deadlock. -/
theorem not_deadlock_step
    (hNot : ¬ Deadlock s)
    (hOutside : OutsideWindow bufferedFrames s op)
    (hStep : step bufferedFrames s op = .ok t) :
    ¬ Deadlock t := by
  rintro ⟨hSession, hTask⟩
  rcases step_move hStep with hMove | hMove
  · rw [hMove.task] at hTask
    rcases hMove.freeing hSession with hFreeing | hClear
    · exact hNot ⟨hFreeing, hTask⟩
    · subst hClear
      exact hOutside hTask
  · rw [hMove.session] at hSession
    rcases hMove.locking hTask with ⟨unseen, hOp, hFew⟩
    subst hOp
    exact absurd (hOutside hSession) (Nat.not_le.mpr hFew)

theorem pauseClear_step
    (hStep : step bufferedFrames s .pauseClear = .ok t) :
    t.session = .pauseFreeing ∧ t.task = s.task := by
  change sessionStep s .pauseClear s.session = .ok t at hStep
  cases hPc : s.session
  case clearing =>
    rw [hPc] at hStep
    cases hStep
    exact ⟨rfl, rfl⟩
  all_goals
    rw [hPc] at hStep
    cases hStep

theorem taskTestUnseen_step
    {unseen : Nat}
    (hFew : unseen < bufferedFrames)
    (hStep :
      step bufferedFrames s (.taskTestUnseen unseen) =
        .ok t) :
    t.session = s.session ∧ t.task = .locking := by
  change taskStep bufferedFrames s (.taskTestUnseen unseen)
    s.task = .ok t at hStep
  cases hPc : s.task
  case testUnseen =>
    rw [hPc] at hStep
    simp only [taskStep, if_neg (Nat.not_le.mpr hFew)]
      at hStep
    cases hStep
    exact ⟨rfl, rfl⟩
  all_goals
    rw [hPc] at hStep
    cases hStep

/- Inside the window every step leads into one. -/
theorem deadlock_step
    (hInside : ¬ OutsideWindow bufferedFrames s op)
    (hStep : step bufferedFrames s op = .ok t) :
    Deadlock t := by
  cases op
  case pauseClear =>
    rcases pauseClear_step hStep with ⟨hSession, hTask⟩
    have hLocking : s.task = .locking :=
      not_not.mp hInside
    exact ⟨hSession, hTask.trans hLocking⟩
  case taskTestUnseen unseen =>
    rcases Classical.not_imp.mp hInside with
      ⟨hFreeing, hFew⟩
    rcases taskTestUnseen_step (Nat.lt_of_not_le hFew)
      hStep with ⟨hSession, hTask⟩
    exact ⟨hSession.trans hFreeing, hTask⟩
  all_goals exact absurd trivial hInside

/-
  A run meets no deadlock exactly when every `r_pause` in it
  clears the pool outside the window between the tests of the
  task and its taking the lock.
-/
theorem no_deadlock_iff
    (hRun : (system bufferedFrames).Run trace s) :
    System.Always (fun s => ¬ Deadlock s) trace s ↔
      System.Guarded (OutsideWindow bufferedFrames) trace := by
  apply hRun.always_iff_guarded
  · intro s hStart
    subst hStart
    decide
  · intro s op t hNot hOutside hStep
    exact not_deadlock_step hNot hOutside hStep.2
  · intro s op t _ hInside hStep hNot
    exact hNot (deadlock_step hInside hStep.2)

/- The task reads a packet before the session pauses. -/
def fillOps : List Op :=
  [.resume, .fillLock, .fillPush, .fillUnlock, .taskStart,
    .taskTestPool, .taskTestUnseen 0, .taskLock,
    .taskRead .ok, .taskUnlock, .taskTestEor, .pauseTest,
    .pauseLock, .pauseClear, .taskTestPool, .poolDrop,
    .poolReturn, .pauseUnlock]

theorem no_deadlock_iff_fill :
    System.Always (fun s => ¬ Deadlock s)
        (System.replayTrace (step 16) initial fillOps)
        (System.replayEnd (step 16) initial fillOps) ↔
      System.Guarded (OutsideWindow 16)
        (System.replayTrace (step 16) initial fillOps) :=
  no_deadlock_iff
    (System.replay_run (by decide +kernel)
      (by decide +kernel))

/- The session pauses before the task takes the lock. -/
def windowOps : List Op :=
  [.resume, .fillLock, .fillPush, .fillUnlock, .taskStart,
    .taskTestPool, .taskTestUnseen 0, .pauseTest,
    .pauseLock, .pauseClear]

theorem deadlock_reachable :
    ¬ ∀ trace s,
      (system 16).Run trace s → ¬ Deadlock s := by
  intro hAll
  have hRun :
      (system 16).Run
        (System.replayTrace (step 16) initial windowOps)
        (System.replayEnd (step 16) initial windowOps) :=
    System.replay_run (by decide +kernel)
      (by decide +kernel)
  exact absurd (hAll _ _ hRun) (by decide +kernel)

end Fill

end Feng

------------------------------------------------------------
-- Deadlocks Last
------------------------------------------------------------

namespace Feng

namespace Fill

variable {bufferedFrames : Nat}
variable {trace : List (FillState × Op)}
variable {s t : FillState} {op : Op}

/- While the task runs, the call only drops pending tasks. -/
theorem pauseFreeing_step
    (hTask : s.task ≠ .none)
    (hStep : sessionStep s op .pauseFreeing = .ok t) :
    t = { s with pending := 0 } := by
  cases op
  case poolDrop =>
    cases hStep
    rfl
  case poolReturn =>
    simp only [sessionStep] at hStep
    split at hStep
    · rename_i hDone
      exact absurd hDone.2 hTask
    · cases hStep
  all_goals cases hStep

/- A task that wants the lock can do nothing without it. -/
theorem locking_step
    (hLock : s.lock ≠ none)
    (hStep : taskStep bufferedFrames s op .locking = .ok t) :
    False := by
  cases op
  case taskLock =>
    simp only [taskStep] at hStep
    split at hStep
    · rename_i hFree
      exact hLock hFree
    · cases hStep
  all_goals cases hStep

/- A deadlock that was reached is never left. -/
theorem deadlock_forever
    (hRun : (system bufferedFrames).Run trace s)
    (hDead : Deadlock s)
    (hStep : step bufferedFrames s op = .ok t) :
    Deadlock t := by
  rcases hDead with ⟨hSession, hTask⟩
  have hHeld : s.lock = some .session := by
    apply (run_lockHeld hRun).session.mpr
    rw [hSession]
    rfl
  unfold step at hStep
  split at hStep
  · rw [hSession] at hStep
    have hEq := pauseFreeing_step (by rw [hTask]; simp) hStep
    subst hEq
    exact ⟨hSession, hTask⟩
  · rw [hTask] at hStep
    exact (locking_step (by rw [hHeld]; simp) hStep).elim

/-
  While `r_stop_fill` waits, which clears the pool without
  the lock, a task that wants the lock can take it.
-/
theorem stop_fill_unlocked
    (hRun : (system bufferedFrames).Run trace s)
    (hStop : s.session = .stopFreeing)
    (hTask : s.task = .locking) :
    ∃ t, step bufferedFrames s .taskLock = .ok t := by
  have hHeld := run_lockHeld hRun
  have hFree : s.lock = none := by
    cases hLock : s.lock with
    | none => rfl
    | some holder =>
        cases holder with
        | session =>
            have hIn := hHeld.session.mp hLock
            rw [hStop] at hIn
            cases hIn
        | task =>
            have hIn := hHeld.task.mp hLock
            rw [hTask] at hIn
            cases hIn
  refine ⟨{ s with lock := some .task, task := .reading }, ?_⟩
  change taskStep bufferedFrames s .taskLock s.task = _
  rw [hTask]
  simp only [taskStep, hFree]

end Fill

end Feng
