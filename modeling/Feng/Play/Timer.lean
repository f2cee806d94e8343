import Feng.Play.Invariant

/-
  The timer of a client and its session.

  `client_ev_timeout` uses the session, and TEARDOWN does away
  with it without a look at the timer; PAUSE stops the timer.

  Key definitions include:
    * `Play.TimerSafe`
    * `Play.TimerSpared`

  Key theorems include:
    * `Play.timer_safe_iff`
    * `Play.timer_without_session`
-/

------------------------------------------------------------
-- Timers Without A Session
------------------------------------------------------------

namespace Feng

namespace Play

variable {env : Env} {req : RFC822Request} {s t : Client}

/-
  The timer is armed only with a session, and so its callback
  dereferences no null session.
-/
def TimerSafe (s : Client) : Prop :=
  (s.evTimeout = true → s.rtsp.session ≠ none) ∧
    ∀ time, enabled s (.timeout time) →
      step s (.timeout time) ≠ .error .nullSession

/- A TEARDOWN that ends the session finds the timer stopped. -/
def TimerSpared (s : Client) : Op → Prop
| .request req _ =>
    ∀ v, Reaches s req v → EndsSession req →
      s.evTimeout = false
| _ => True

theorem timerSafe_iff :
    TimerSafe s ↔
      (s.evTimeout = true → s.rtsp.session ≠ none) := by
  refine ⟨And.left, ?_⟩
  intro hSession
  refine ⟨hSession, ?_⟩
  intro time hArmed hFault
  rcases Option.ne_none_iff_exists'.mp (hSession hArmed) with
    ⟨session, hSome⟩
  unfold step clientEvTimeout at hFault
  rw [hSome] at hFault
  cases hFault

theorem timerSafe_of_session
    {session : RTSPSession}
    (h : s.rtsp.session = some session) :
    TimerSafe s := by
  apply timerSafe_iff.mpr
  intro _ hNone
  rw [h] at hNone
  cases hNone

theorem timerSafe_of_curState
    (hState : s.curState ≠ .init) :
    TimerSafe s := by
  rcases curState_ne_init hState with ⟨session, hSession⟩
  exact timerSafe_of_session hSession

/- Only the end of the session can leave an armed timer. -/
theorem timerSafe_kept (env : Env) (req : RFC822Request) :
    Kept env req TimerSafe where
  untouched := by
    rintro s t ⟨rtsp, hSession, rfl⟩ hSafe
    apply timerSafe_iff.mpr
    intro hArmed hNone
    exact timerSafe_iff.mp hSafe hArmed
      (hSession.symm.trans hNone)
  opened := by
    rintro s t ⟨next, _, rfl⟩ _
    exact timerSafe_of_session rfl
  allocated := by
    rintro s t ⟨free, channels, rfl⟩ hSafe
    have hOld := hSafe.1
    exact timerSafe_iff.mpr hOld
  joined := by
    intro s t next track session _ _ _ _ _
    exact timerSafe_of_session rfl
  paused := by
    intro s t now _ hPause _
    apply timerSafe_of_curState
    rw [rtspDoPause_curState hPause]
    decide
  fixed := by
    intro s t hState hFixed _
    apply timerSafe_of_curState
    rw [hFixed.curState_eq]
    exact hState
  plays := by
    intro s t hState _ hPlays _
    apply timerSafe_of_curState
    rw [hPlays.curState_eq hState]
    decide
  armed := by
    intro s hPlaying _
    have hState : s.curState ≠ .init := by
      rw [hPlaying]
      decide
    rcases curState_ne_init hState with ⟨session, hSession⟩
    exact timerSafe_of_session hSession

theorem updateSession_safe
    (session : RTPSession)
    (hSafe : TimerSafe s) :
    TimerSafe (updateSession s session) := by
  have hOld := hSafe.1
  exact timerSafe_iff.mpr hOld

theorem step_timerSafe
    {op : Op}
    (hSafe : TimerSafe s)
    (hSpared : TimerSpared s op)
    (h : step s op = .ok t) :
    TimerSafe t := by
  cases op with
  | request req env =>
      refine (timerSafe_kept env req).request ?_ h hSafe
      intro v hReaches hEnds _
      have hStopped := hSpared v hReaches hEnds
      apply timerSafe_iff.mpr
      intro hArmed
      have hStill : s.evTimeout = true := hArmed
      rw [hStopped] at hStill
      cases hStill
  | write address env =>
      rcases writeStep_cases h with
        rfl | ⟨session, due, next, _, _, _, rfl⟩
      · exact hSafe
      · exact updateSession_safe next hSafe
  | timeout time =>
      rcases step_timeout_cases h with
        ⟨session, connected, hSession, rfl⟩
      exact timerSafe_of_session hSession

/- A TEARDOWN leaves the timer as it is. -/
theorem step_breaks_timer
    {op : Op}
    (hNot : ¬ TimerSpared s op)
    (h : step s op = .ok t) :
    ¬ TimerSafe t := by
  cases op with
  | write address env => exact absurd trivial hNot
  | timeout time => exact absurd trivial hNot
  | request req env =>
      unfold TimerSpared at hNot
      push Not at hNot
      rcases hNot with ⟨v, hReaches, ⟨hMethod, hPasses⟩,
        hArmed⟩
      have hOk : rtspHandleRequest env s req = .ok t := h
      rw [rtspHandleRequest_teardown hReaches hMethod hPasses]
        at hOk
      cases hOk
      intro hSafe
      apply timerSafe_iff.mp hSafe
      · have hStill : s.evTimeout = true := by
          simpa using hArmed
        exact hStill
      · rfl

end Play

end Feng

------------------------------------------------------------
-- Runs
------------------------------------------------------------

namespace Feng

namespace Play

/-
  In a run the timer is safe throughout exactly if it is not
  armed whenever a TEARDOWN ends the session.
-/
theorem timer_safe_iff
    {trace : List (Client × Op)}
    {last : Client}
    (hRun : system.Run trace last) :
    System.Always TimerSafe trace last ↔
      System.Guarded TimerSpared trace := by
  apply hRun.always_iff_guarded
  · rintro s rfl
    exact timerSafe_iff.mpr (by decide)
  · intro s op t hSafe hSpared hStep
    exact step_timerSafe hSafe hSpared hStep.2
  · intro s op t _ hNot hStep
    exact step_breaks_timer hNot hStep.2

theorem timer_safe_iff_sample :
    System.Always TimerSafe
        (System.replayTrace step clientNew sampleOps)
        (System.replayEnd step clientNew sampleOps) ↔
      System.Guarded TimerSpared
        (System.replayTrace step clientNew sampleOps) :=
  timer_safe_iff
    (System.replay_run (by decide +kernel)
      (by decide +kernel))

/- A session that was played and torn down. -/
def teardownOps : List Op :=
  [.request (sampleRequest RTSPMethod.setup 1)
      (sampleEnv 1000),
    .request (sampleRequest RTSPMethod.play 2)
      (sampleEnv 1000),
    .request (sampleRequest RTSPMethod.teardown 3)
      (sampleEnv 1010)]

/- The timer expires twelve seconds later. -/
theorem timer_without_session :
    ∃ trace last, system.Run trace last ∧
      last.evTimeout = true ∧ last.rtsp.session = none ∧
      enabled last (.timeout 1022) ∧
      step last (.timeout 1022) = .error .nullSession := by
  have hRun :
      system.Run
        (System.replayTrace step clientNew teardownOps)
        (System.replayEnd step clientNew teardownOps) :=
    System.replay_run (by decide +kernel) (by decide +kernel)
  exact ⟨_, _, hRun, by decide +kernel, by decide +kernel,
    by decide +kernel, by decide +kernel⟩

end Play

end Feng
