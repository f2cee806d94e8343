import Mathlib.Data.List.Induction
import Mathlib.Tactic.Linarith
import Feng.Play.Head

/-
  The pause points that a session records.

  As long as it is only paused and resumed, a session is at
  the point where it began plus the time it has played, less
  what is lost whenever a PLAY finds it playing: that PLAY
  sets the time it started at, and keeps where it began.

  Key definitions include:
    * `Play.Stopwatch`
    * `Play.Restarts`
    * `Play.LosesTime`
    * `Play.FirstPlay`

  Key theorems include:
    * `Play.request_pausePoint`
    * `Play.pause_point_iff`
-/

------------------------------------------------------------
-- The Point After A Request
------------------------------------------------------------

namespace Feng

namespace Play

variable {env : Env} {req : RFC822Request} {s t u : Client}
variable {range next : RTSPRange}

/- A PLAY that finds the session playing, and leaves it so. -/
structure Restarts
    (s : Client)
    (req : RFC822Request) : Prop where
  passes : PlayPasses s req
  playing : s.curState = .playing
  agent : vlcUserAgent req = false

/- The session is resumed or paused, and goes nowhere else. -/
def WithoutRange : Op → Prop
| .request req _ =>
    req.methodId ≠ RTSPMethod.teardown ∧
      (req.methodId = RTSPMethod.play →
        rfc822HeadersLookup req.headers .range = none)
| _ => True

instance decidableWithoutRange :
    (op : Op) → Decidable (WithoutRange op)
| .request req _ =>
    inferInstanceAs
      (Decidable
        (req.methodId ≠ RTSPMethod.teardown ∧
          (req.methodId = RTSPMethod.play →
            rfc822HeadersLookup req.headers .range = none)))
| .write _ _ => isTrue trivial
| .timeout _ => isTrue trivial

/- Behind the checks of a PLAY without a range. -/
theorem Played.head_eq
    (hHead : head s = some range)
    (hHeader :
      rfc822HeadersLookup req.headers .range = none)
    (h : Played env req s t) :
    ∃ next, head t = some next ∧
      next.playbackTime = env.evNow ∧
      next.beginTime =
        if s.curState = .playing ∧
            vlcUserAgent req = false then
          range.beginTime
        else
          pausePoint env.evNow s range := by
  rcases h with ⟨u, hWorked, hRest⟩
  rcases hWorked.pausePoint_eq hHead with
    ⟨worked, hHeadU, hPoint, hStill⟩
  have hResumes : Resumes req u := by
    refine ⟨hHeader, ?_⟩
    rcases head_eq_some.mp hHeadU with ⟨address, hAddress, _⟩
    rw [hAddress]
    exact Option.some_ne_none address
  -- The time it starts at does not move where it begins.
  have hBegin :
      worked.beginTime =
        if s.curState = .playing ∧
            vlcUserAgent req = false then
          range.beginTime
        else
          pausePoint env.evNow s range := by
    by_cases hPlaying : u.curState = .playing
    · rcases hStill hPlaying with ⟨rfl, rfl, hVlc⟩
      rw [if_pos ⟨hPlaying, hVlc⟩]
    · rw [← hPoint, pausePoint_paused _ _ hPlaying, if_neg]
      rintro ⟨hPlays, hVlc⟩
      rcases hWorked with ⟨_, rfl⟩ | ⟨_, hAgent, _⟩
      · exact hPlaying hPlays
      · rw [hVlc] at hAgent
        cases hAgent
  rcases hRest with ⟨hNot, _⟩ | ⟨v, hFixed, hRest⟩
  · exact absurd hResumes hNot
  refine ⟨{ worked with playbackTime := env.evNow }, ?_, rfl,
    hBegin⟩
  rw [← hFixed.head_eq hHeadU hHeader]
  rcases hRest with hAround | ⟨w, hPlays, _, hAround⟩
  · exact hAround.head_eq
  · rw [hAround.head_eq, hPlays.head_eq]

/-
  A request leaves the session at the point it is at, but for
  a PLAY that finds it playing: that one takes it back to the
  begin of its range.
-/
theorem request_pausePoint
    (hInv : Inv s)
    (hHead : head s = some range)
    (hWithout : WithoutRange (.request req env))
    (h : rtspHandleRequest env s req = .ok t) :
    ∃ next, head t = some next ∧
      (t.curState = .playing →
        next.playbackTime = env.evNow ∨
          (s.curState = .playing ∧
            next.playbackTime = range.playbackTime)) ∧
      (Restarts s req →
        pausePoint env.evNow t next = range.beginTime) ∧
      (¬ Restarts s req →
        pausePoint env.evNow t next =
          pausePoint env.evNow s range) := by
  cases request_moves hInv h with
  | around hAround hNot =>
      refine ⟨range, ?_, ?_, ?_, ?_⟩
      · rw [hAround.head_eq]
        exact hHead
      · intro hPlaying
        exact .inr ⟨hAround.playing.mp hPlaying, rfl⟩
      · intro hRestarts
        exact absurd hRestarts.passes hNot
      · intro _
        exact hAround.pausePoint_eq _ _
  | paused address other hMethod hPlaying hAt hOther hAround =>
      have hSame : other = range := by
        have hFound : head s = some other :=
          head_eq_some.mpr ⟨address, hAt, hOther⟩
        rw [hHead] at hFound
        exact (Option.some.inj hFound).symm
      subst hSame
      have hStopped : t.curState ≠ .playing := by
        rw [Ne, hAround.playing, pausedAt_curState hPlaying]
        decide
      refine ⟨pausedRange env.evNow other, ?_, ?_, ?_, ?_⟩
      · rw [hAround.head_eq]
        exact head_pausedAt hAt hOther
      · intro hPlays
        exact absurd hPlays hStopped
      · intro hRestarts
        have hPlay := hRestarts.passes.method
        rw [hMethod] at hPlay
        cases hPlay
      · intro _
        rw [pausePoint_paused _ _ hStopped]
        exact pausedRange_beginTime hPlaying
  | ended hMethod _ _ =>
      exact absurd hMethod hWithout.1
  | played u hPasses hUntouched hPlayed =>
      have hSame := hUntouched.around
      have hHeadU : head u = some range := by
        rw [hSame.head_eq]
        exact hHead
      rcases hPlayed.head_eq hHeadU
        (hWithout.2 hPasses.method) with
        ⟨next, hNext, hTime, hBegin⟩
      have hPoint :
          pausePoint env.evNow t next = next.beginTime := by
        unfold pausePoint
        rw [hTime, sub_self, add_zero, ite_self]
      rw [hUntouched.curState_eq, hSame.pausePoint_eq] at hBegin
      refine ⟨next, hNext, fun _ => .inl hTime, ?_, ?_⟩
      · intro hRestarts
        rw [hPoint, hBegin,
          if_pos ⟨hRestarts.playing, hRestarts.agent⟩]
      · intro hNot
        rw [hPoint, hBegin, if_neg]
        rintro ⟨hPlaying, hVlc⟩
        exact hNot ⟨hPasses, hPlaying, hVlc⟩

end Play

end Feng

------------------------------------------------------------
-- Time Played
------------------------------------------------------------

namespace Feng

namespace Play

variable {s t : Client} {op : Op} {range : RTSPRange}
variable {trace : List (Client × Op)} {start : ℚ}

/- When the last request came, and the time played by then. -/
structure Stopwatch where
  now : ℚ
  played : ℚ

def Stopwatch.next
    (watch : Stopwatch)
    (x : Client × Op) : Stopwatch :=
  match x.2 with
  | .request _ env =>
      { now := env.evNow
        played :=
          watch.played +
            if x.1.curState = .playing then
              env.evNow - watch.now
            else
              0 }
  | _ => watch

/- The watch after the steps of a run that began at `start`. -/
def stopwatch
    (start : ℚ)
    (trace : List (Client × Op)) : Stopwatch :=
  trace.foldl Stopwatch.next ⟨start, 0⟩

theorem stopwatch_snoc :
    stopwatch start (trace ++ [(s, op)]) =
      (stopwatch start trace).next (s, op) := by
  simp [stopwatch]

/- The time of a request. -/
def requestTime : Client × Op → Option ℚ
| (_, .request _ env) => some env.evNow
| _ => none

/- The requests come at times that do not decrease. -/
def Timely
    (start : ℚ)
    (trace : List (Client × Op)) : Prop :=
  (start :: trace.filterMap requestTime).Pairwise (· ≤ ·)

instance decidableTimely
    (start : ℚ)
    (trace : List (Client × Op)) :
    Decidable (Timely start trace) :=
  inferInstanceAs
    (Decidable
      ((start :: trace.filterMap requestTime).Pairwise
        (· ≤ ·)))

theorem stopwatch_now_mem
    (start : ℚ)
    (trace : List (Client × Op)) :
    (stopwatch start trace).now ∈
      start :: trace.filterMap requestTime := by
  induction trace using List.reverseRecOn with
  | nil => exact List.mem_cons_self
  | append_singleton trace x ih =>
      rcases x with ⟨s, op⟩
      rw [stopwatch_snoc, List.filterMap_append,
        ← List.cons_append]
      cases op with
      | request req env =>
          apply List.mem_append_right
          exact List.mem_singleton_self _
      | write address env =>
          exact List.mem_append_left _ ih
      | timeout time =>
          exact List.mem_append_left _ ih

theorem Timely.of_snoc
    (h : Timely start (trace ++ [(s, op)])) :
    Timely start trace := by
  unfold Timely at h ⊢
  rw [List.filterMap_append, ← List.cons_append] at h
  exact (List.pairwise_append.mp h).1

theorem Timely.now_le
    {req : RFC822Request}
    {env : Env}
    (h : Timely start (trace ++ [(s, .request req env)])) :
    (stopwatch start trace).now ≤ env.evNow := by
  unfold Timely at h
  rw [List.filterMap_append, ← List.cons_append] at h
  apply (List.pairwise_append.mp h).2.2 _
    (stopwatch_now_mem start trace)
  exact List.mem_singleton_self _

end Play

end Feng

------------------------------------------------------------
-- Runs
------------------------------------------------------------

namespace Feng

namespace Play

variable {s t u : Client} {op : Op} {range : RTSPRange}
variable {trace : List (Client × Op)} {start : ℚ}
variable {env : Env} {req : RFC822Request}

/- A PLAY takes a playing session back, some time after it
  began. -/
def LosesTime (s : Client) : Op → Prop
| .request req env =>
    Restarts s req ∧ ∃ range, head s = some range ∧
      range.playbackTime < env.evNow
| _ => False

/-
  The session is at the point where it began plus the time it
  has played, less the time that was lost; and some was lost
  if a step of the run loses time.
-/
structure Accounted
    (begin : ℚ)
    (watch : Stopwatch)
    (trace : List (Client × Op))
    (s : Client)
    (range : RTSPRange)
    (lost : ℚ) : Prop where
  head : head s = some range
  started :
    s.curState = .playing → range.playbackTime ≤ watch.now
  point :
    pausePoint watch.now s range = begin + watch.played - lost
  lost_nonneg : 0 ≤ lost
  lost_iff :
    lost = 0 ↔
      System.Guarded (fun s op => ¬ LosesTime s op) trace

/- Writers and the timer leave the edit list alone. -/
theorem quiet_step
    (h : step s op = .ok t)
    (hOp : ∀ req env, op ≠ .request req env) :
    head t = head s ∧ t.curState = s.curState := by
  cases op with
  | request req env => exact absurd rfl (hOp req env)
  | write address env =>
      rcases writeStep_cases h with
        rfl | ⟨_, _, next, _, _, _, rfl⟩
      · exact ⟨rfl, rfl⟩
      · exact ⟨rfl, rfl⟩
  | timeout time =>
      rcases step_timeout_cases h with ⟨_, connected, _, rfl⟩
      exact ⟨rfl, rfl⟩

theorem Accounted.quiet
    {begin lost : ℚ}
    (h : step s op = .ok t)
    (hOp : ∀ req env, op ≠ .request req env)
    (hPrior :
      Accounted begin (stopwatch start trace) trace s range
        lost) :
    Accounted begin (stopwatch start (trace ++ [(s, op)]))
      (trace ++ [(s, op)]) t range lost := by
  rcases quiet_step h hOp with ⟨hHead, hState⟩
  have hWatch :
      stopwatch start (trace ++ [(s, op)]) =
        stopwatch start trace := by
    rw [stopwatch_snoc]
    cases op with
    | request req env => exact absurd rfl (hOp req env)
    | write address env => rfl
    | timeout time => rfl
  have hSpared : ¬ LosesTime s op := by
    cases op with
    | request req env => exact absurd rfl (hOp req env)
    | write address env => exact id
    | timeout time => exact id
  rw [hWatch]
  refine ⟨?_, ?_, ?_, hPrior.lost_nonneg, ?_⟩
  · rw [hHead]
    exact hPrior.head
  · rw [hState]
    exact hPrior.started
  · rw [← hPrior.point]
    unfold pausePoint
    rw [hState]
  · rw [System.guarded_snoc, ← hPrior.lost_iff]
    exact ⟨fun hZero => ⟨hZero, hSpared⟩, fun hBoth => hBoth.1⟩

/- A request: the time that is lost by it is added up. -/
theorem Accounted.request
    {begin lost : ℚ}
    (hInv : Inv s)
    (hWithout : WithoutRange (.request req env))
    (hNow : (stopwatch start trace).now ≤ env.evNow)
    (h : rtspHandleRequest env s req = .ok t)
    (hPrior :
      Accounted begin (stopwatch start trace) trace s range
        lost) :
    ∃ next lost',
      Accounted begin
        (stopwatch start (trace ++ [(s, .request req env)]))
        (trace ++ [(s, .request req env)]) t next lost' := by
  rcases request_pausePoint hInv hPrior.head hWithout h with
    ⟨next, hNext, hTime, hRestart, hKeep⟩
  have hWatch :
      stopwatch start (trace ++ [(s, .request req env)]) =
        { now := env.evNow
          played :=
            (stopwatch start trace).played +
              if s.curState = .playing then
                env.evNow - (stopwatch start trace).now
              else
                0 } := stopwatch_snoc
  have hLater :
      pausePoint env.evNow s range =
        begin + (stopwatch start trace).played - lost +
          if s.curState = .playing then
            env.evNow - (stopwatch start trace).now
          else
            0 := by
    rw [← hPrior.point]
    exact pausePoint_later _ _ range
  have hStarted :
      t.curState = .playing →
        next.playbackTime ≤ env.evNow := by
    intro hPlaying
    rcases hTime hPlaying with hNowTime | ⟨hWas, hSame⟩
    · exact hNowTime.le
    · rw [hSame]
      exact (hPrior.started hWas).trans hNow
  rw [hWatch]
  by_cases hRestarts : Restarts s req
  · have hBefore :
        range.playbackTime ≤ env.evNow :=
      (hPrior.started hRestarts.playing).trans hNow
    have hPoint :
        pausePoint env.evNow s range =
          range.beginTime +
            (env.evNow - range.playbackTime) :=
      pausePoint_playing _ _ hRestarts.playing
    have hLost := hPrior.lost_nonneg
    refine ⟨next, lost + (env.evNow - range.playbackTime),
      hNext, hStarted, ?_, by linarith, ?_⟩
    · rw [hRestart hRestarts]
      simp only
      linarith
    · rw [System.guarded_snoc, ← hPrior.lost_iff]
      constructor
      · intro hZero
        refine ⟨by linarith, ?_⟩
        rintro ⟨_, other, hOther, hLt⟩
        rw [hPrior.head] at hOther
        cases hOther
        linarith
      · rintro ⟨hZero, hSpared⟩
        have hNotLt : ¬ range.playbackTime < env.evNow :=
          fun hLt => hSpared
            ⟨hRestarts, range, hPrior.head, hLt⟩
        have hEq : range.playbackTime = env.evNow :=
          le_antisymm hBefore (not_lt.mp hNotLt)
        rw [hZero, hEq]
        ring
  · refine ⟨next, lost, hNext, hStarted, ?_,
      hPrior.lost_nonneg, ?_⟩
    · rw [hKeep hRestarts]
      simp only
      linarith
    · rw [System.guarded_snoc, ← hPrior.lost_iff]
      exact ⟨fun hZero => ⟨hZero, fun hLoses =>
        hRestarts hLoses.1⟩, fun hBoth => hBoth.1⟩

/-
  After a PLAY that starts a session with its range, at once,
  every run without another range is accounted for.
-/
theorem run_accounted
    (hInv : Inv s)
    (hHead : head s = some range)
    (hPlaying : s.curState = .playing)
    (hTime : range.playbackTime = start)
    (hRun : (System.ofStep s enabled step).Run trace t)
    (hWithout :
      System.Guarded (fun _ op => WithoutRange op) trace)
    (hTimely : Timely start trace) :
    Inv t ∧ ∃ next lost,
      Accounted range.beginTime (stopwatch start trace) trace
        t next lost := by
  induction hRun with
  | start hInit =>
      cases hInit
      refine ⟨hInv, range, 0, hHead, ?_, ?_, le_refl 0, ?_⟩
      · intro _
        exact hTime.le
      · rw [pausePoint_playing _ _ hPlaying, hTime]
        simp [stopwatch]
      · refine ⟨fun _ => ?_, fun _ => rfl⟩
        intro x hMem
        cases hMem
  | step hRun hStep ih =>
      rename_i before u v op
      rcases System.guarded_snoc.mp hWithout with
        ⟨hTrace, hLast⟩
      rcases ih hTrace hTimely.of_snoc with
        ⟨hInvU, next, lost, hPrior⟩
      refine ⟨step_inv hStep.2 hInvU, ?_⟩
      cases op with
      | request req env =>
          exact hPrior.request hInvU hLast hTimely.now_le
            hStep.2
      | write address env =>
          exact ⟨next, lost, hPrior.quiet hStep.2
            (by simp)⟩
      | timeout time =>
          exact ⟨next, lost, hPrior.quiet hStep.2
            (by simp)⟩

/-
  The first PLAY of a session that does not play: its head
  range is fixed, and it starts at once.
-/
structure FirstPlay
    (before : List (Client × Op))
    (s : Client)
    (req : RFC822Request)
    (env : Env)
    (t : Client)
    (range : RTSPRange) : Prop where
  run : system.Run before s
  method : req.methodId = RTSPMethod.play
  stopped : s.curState ≠ .playing
  step : Play.step s (.request req env) = .ok t
  plays : t.curState = .playing
  head : Play.head t = some range
  immediate : range.playbackTime = env.evNow

/-
  Right after a PAUSE the head range begins where it began at
  first plus the time played so far, exactly if no PLAY took
  the session back in between.
-/
theorem pause_point_iff
    {before : List (Client × Op)}
    {pause : RFC822Request}
    {now : Env}
    {v : Client}
    (hFirst : FirstPlay before s req env t range)
    (hRun :
      (System.ofStep t enabled step).Run
        (trace ++ [(u, .request pause now)]) v)
    (hWithout :
      System.Guarded (fun _ op => WithoutRange op) trace)
    (hTimely :
      Timely env.evNow (trace ++ [(u, .request pause now)]))
    (hPause : pause.methodId = RTSPMethod.pause)
    (hDone : v.curState ≠ .playing) :
    ∃ next, head v = some next ∧
      (next.beginTime =
          range.beginTime +
            (stopwatch env.evNow
              (trace ++ [(u, .request pause now)])).played ↔
        System.Guarded (fun s op => ¬ LosesTime s op)
          trace) := by
  have hInv : Inv t :=
    step_inv hFirst.step (run_inv hFirst.run)
  have hAllowed : WithoutRange (.request pause now) := by
    refine ⟨?_, ?_⟩
    · rw [hPause]
      decide
    · rw [hPause]
      intro hPlay
      cases hPlay
  have hSpared : ¬ LosesTime u (.request pause now) := by
    rintro ⟨hRestarts, _⟩
    have hPlay := hRestarts.passes.method
    rw [hPause] at hPlay
    cases hPlay
  rcases run_accounted hInv hFirst.head hFirst.plays
    hFirst.immediate hRun
    (System.guarded_snoc.mpr ⟨hWithout, hAllowed⟩) hTimely with
    ⟨_, next, lost, hAccounted⟩
  refine ⟨next, hAccounted.head, ?_⟩
  have hPoint := hAccounted.point
  rw [pausePoint_paused _ _ hDone] at hPoint
  have hIff := hAccounted.lost_iff
  rw [System.guarded_snoc] at hIff
  constructor
  · intro hBegin
    exact (hIff.mp (by linarith)).1
  · intro hGuarded
    have hZero := hIff.mpr ⟨hGuarded, hSpared⟩
    rw [hPoint, hZero, sub_zero]

/- A client that has set a session up and played it. -/
def playedClient : Client :=
  System.replayEnd step
    (System.replayEnd step clientNew setupOps)
    [.request (sampleRequest RTSPMethod.play 2)
      (sampleEnv 1000)]

def sampleRange : RTSPRange where
  beginTime := 0
  endTime := 60
  playbackTime := 1000

theorem firstPlay_sample :
    FirstPlay (System.replayTrace step clientNew setupOps)
      (System.replayEnd step clientNew setupOps)
      (sampleRequest RTSPMethod.play 2) (sampleEnv 1000)
      playedClient sampleRange where
  run :=
    System.replay_run (by decide) (by decide)
  method := rfl
  stopped := by decide
  step := by decide +kernel
  plays := by decide
  head := by decide +kernel
  immediate := rfl

/- Paused at 1010, and played from 1020 to 1025. -/
def resumedOps : List Op :=
  [.request (sampleRequest RTSPMethod.pause 3)
      (sampleEnv 1010),
    .request (sampleRequest RTSPMethod.play 4)
      (sampleEnv 1020)]

theorem pause_point_iff_sample :
    ∃ next,
      head
          (System.replayEnd step
            (System.replayEnd step playedClient resumedOps)
            [.request (sampleRequest RTSPMethod.pause 5)
              (sampleEnv 1025)]) =
        some next ∧
      (next.beginTime =
          0 +
            (stopwatch 1000
              (System.replayTrace step playedClient
                  resumedOps ++
                [(System.replayEnd step playedClient
                    resumedOps,
                  .request
                    (sampleRequest RTSPMethod.pause 5)
                    (sampleEnv 1025))])).played ↔
        System.Guarded (fun s op => ¬ LosesTime s op)
          (System.replayTrace step playedClient
            resumedOps)) :=
  pause_point_iff firstPlay_sample
    (System.Run.step
      (System.replay_run (by decide +kernel)
        (by decide +kernel))
      ⟨trivial, by decide +kernel⟩)
    (by decide +kernel) (by decide +kernel) rfl
    (by decide +kernel)

/- Five of ten seconds are lost by a PLAY halfway. -/
theorem pause_point_lost :
    ∃ before s req env t range trace u pause now v next,
      FirstPlay before s req env t range ∧
      (System.ofStep t enabled step).Run
        (trace ++ [(u, .request pause now)]) v ∧
      System.Guarded (fun _ op => WithoutRange op) trace ∧
      Timely env.evNow
        (trace ++ [(u, .request pause now)]) ∧
      pause.methodId = RTSPMethod.pause ∧
      v.curState ≠ .playing ∧
      head v = some next ∧
      next.beginTime = 5 ∧
      range.beginTime +
          (stopwatch env.evNow
            (trace ++ [(u, .request pause now)])).played =
        10 := by
  have hRun :
      (System.ofStep playedClient enabled step).Run
        (System.replayTrace step playedClient
          [.request (sampleRequest RTSPMethod.play 3)
            (sampleEnv 1005)])
        (System.replayEnd step playedClient
          [.request (sampleRequest RTSPMethod.play 3)
            (sampleEnv 1005)]) :=
    System.replay_run (by decide +kernel) (by decide +kernel)
  have hPaused :
      step
          (System.replayEnd step playedClient
            [.request (sampleRequest RTSPMethod.play 3)
              (sampleEnv 1005)])
          (.request (sampleRequest RTSPMethod.pause 4)
            (sampleEnv 1010)) =
        .ok
          (System.replayEnd step playedClient
            [.request (sampleRequest RTSPMethod.play 3)
                (sampleEnv 1005),
              .request (sampleRequest RTSPMethod.pause 4)
                (sampleEnv 1010)]) := by
    decide +kernel
  exact ⟨_, _, _, _, _, _, _, _, _, _, _,
    { beginTime := 5, endTime := 60, playbackTime := -1 / 10 },
    firstPlay_sample, hRun.step ⟨trivial, hPaused⟩,
    by decide +kernel, by decide +kernel, rfl,
    by decide +kernel, by decide +kernel, rfl,
    by decide +kernel⟩

end Play

end Feng
