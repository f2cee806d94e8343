import Feng.Lib.Simulation
import Feng.Play.Head

/-
  The server's side of the protocol: what state a session is
  in, told from the answers its client has been given.

  The abstract machine is that of RTSP: SETUP makes a session
  ready, PLAY and PAUSE take it to playing and back, TEARDOWN
  ends it, and an error changes nothing. There is one exception:
  a PLAY that is refused has paused a client that seeks by PLAY
  alone.

  Key definitions include:
    * `Protocol.Exchange`
    * `Protocol.next`
    * `Protocol.server`
    * `Play.exchangeOf`

  Key theorems include:
    * `Play.server_simulation`
    * `Play.state_follows_answers`
-/

------------------------------------------------------------
-- The Abstract Machine
------------------------------------------------------------

namespace Feng

namespace Protocol

/- What there is to see of the handling of a request. -/
inductive Exchange where
/- A request for a method is answered with a status. -/
| answered (methodId status : Nat)
/- A PLAY is refused, behind a pause. -/
| interrupted
deriving DecidableEq, Repr

/- The state after a method succeeded, if it may succeed. -/
def afterSuccess
    (state : RTSPServerState)
    (methodId : Nat) : Option RTSPServerState :=
  if methodId = RTSPMethod.setup then
    match state with
    | .init => some .ready
    | other => some other
  else if methodId = RTSPMethod.play then
    match state with
    | .init => none
    | _ => some .playing
  else if methodId = RTSPMethod.pause then
    match state with
    | .playing => some .ready
    | _ => none
  else if methodId = RTSPMethod.teardown then
    some .init
  else
    some state

/- The state after an exchange, if it may take place. -/
def next
    (state : RTSPServerState) :
    Exchange → Option RTSPServerState
| .answered methodId status =>
    if status = 200 then
      afterSuccess state methodId
    else
      some state
| .interrupted =>
    match state with
    | .playing => some .ready
    | _ => none

theorem next_success
    (state : RTSPServerState)
    (methodId : Nat) :
    next state (.answered methodId 200) =
      afterSuccess state methodId :=
  rfl

theorem next_error
    {status : Nat}
    (hError : status ≠ 200)
    (state : RTSPServerState)
    (methodId : Nat) :
    next state (.answered methodId status) = some state := by
  simp only [next, if_neg hError]

/- A server that follows the protocol. -/
def server : System RTSPServerState Exchange where
  init state := state = .init
  step state exchange state' :=
    next state exchange = some state'

end Protocol

end Feng

------------------------------------------------------------
-- What A Client Sees
------------------------------------------------------------

namespace Feng

namespace Play

variable {env : Env} {req : RFC822Request} {s t u v : Client}
variable {code status : Nat}

/- One response was queued, with a status. -/
def AnsweredWith (status : Nat) (s t : Client) : Prop :=
  ∃ response,
    t.rtsp.responses = s.rtsp.responses ++ [response] ∧
      response.status = status

/- The status of the answer to a request, if there is one. -/
def answerOf
    (env : Env)
    (s : Client)
    (req : RFC822Request) : Option Nat :=
  match rtspHandleRequest env s req with
  | .error _ => none
  | .ok t =>
      (t.rtsp.responses.drop
        s.rtsp.responses.length).head?.map
          RFC822Response.status

/- A PLAY is worked around by pausing the session. -/
def PausedFirst (s : Client) (req : RFC822Request) : Prop :=
  PlayPasses s req ∧ s.curState = .playing ∧
    vlcUserAgent req = true

instance decidablePausedFirst
    (s : Client)
    (req : RFC822Request) :
    Decidable (PausedFirst s req) :=
  inferInstanceAs
    (Decidable
      (PlayPasses s req ∧ s.curState = .playing ∧
        vlcUserAgent req = true))

def exchangeWith
    (s : Client)
    (req : RFC822Request)
    (status : Nat) : Protocol.Exchange :=
  if PausedFirst s req ∧ status ≠ 200 then
    .interrupted
  else
    .answered req.methodId status

/- What a client sees of a step. -/
def exchangeOf (s : Client) : Op → Option Protocol.Exchange
| .request req env =>
    (answerOf env s req).map (exchangeWith s req)
| .write _ _ => none
| .timeout _ => none

theorem Answered.answeredWith
    (hSame : u.rtsp.responses = s.rtsp.responses)
    (h : Answered req code u t) :
    AnsweredWith code s t := by
  rcases h with ⟨response, rfl, _, hStatus⟩
  refine ⟨response, ?_, hStatus⟩
  rw [← hSame]
  rfl

theorem Refused.answeredWith
    (hSame : u.rtsp.responses = s.rtsp.responses)
    (h : Refused req u t) :
    ∃ status, status ≠ 200 ∧ AnsweredWith status s t := by
  rcases h with ⟨status, hNot, hAnswered⟩
  exact ⟨status, hNot, hAnswered.answeredWith hSame⟩

theorem PlayReplied.answeredWith
    (hSame : u.rtsp.responses = s.rtsp.responses)
    (h : PlayReplied req u t) :
    AnsweredWith 200 s t := by
  rcases h with ⟨range, _, rfl⟩
  refine ⟨playReply u req range, ?_, rfl⟩
  rw [← hSame]
  rfl

/- The answer is the response that was queued. -/
theorem answerOf_answered
    (hHandled : rtspHandleRequest env s req = .ok t)
    (h : AnsweredWith status s t) :
    answerOf env s req = some status := by
  rcases h with ⟨response, hQueued, hStatus⟩
  unfold answerOf
  rw [hHandled]
  simp only [hQueued, List.drop_left, List.head?_cons,
    Option.map_some, hStatus]

theorem answerOf_silent
    (hHandled : rtspHandleRequest env s req = .ok t)
    (hSame : t.rtsp.responses = s.rtsp.responses) :
    answerOf env s req = none := by
  unfold answerOf
  rw [hHandled]
  simp only [hSame, List.drop_length, List.head?_nil,
    Option.map_none]

end Play

end Feng

------------------------------------------------------------
-- Answers And States
------------------------------------------------------------

namespace Feng

namespace Play

variable {env : Env} {req : RFC822Request} {s t u v : Client}
variable {code status : Nat}

/- A request was answered, and the state is the next one. -/
def Follows
    (req : RFC822Request)
    (s t : Client) : Prop :=
  ∃ status, AnsweredWith status s t ∧
    Protocol.next s.curState (exchangeWith s req status) =
      some t.curState

/- Nothing was paused, and the state is that of the answer. -/
theorem Follows.of_answered
    (hNot : ¬ (PausedFirst s req ∧ status ≠ 200))
    (hAnswered : AnsweredWith status s t)
    (hNext :
      Protocol.next s.curState
          (.answered req.methodId status) =
        some t.curState) :
    Follows req s t := by
  refine ⟨status, hAnswered, ?_⟩
  unfold exchangeWith
  rw [if_neg hNot]
  exact hNext

theorem Follows.of_success
    (hAnswered : AnsweredWith 200 s t)
    (hNext :
      Protocol.afterSuccess s.curState req.methodId =
        some t.curState) :
    Follows req s t := by
  apply Follows.of_answered _ hAnswered
  · rw [Protocol.next_success]
    exact hNext
  · exact fun h => h.2 rfl

/- An error leaves the state alone. -/
theorem Follows.of_refused
    (hNot : ¬ PausedFirst s req)
    (hSame : u.rtsp.responses = s.rtsp.responses)
    (hState : u.curState = s.curState)
    (h : Refused req u t) :
    Follows req s t := by
  rcases h.answeredWith hSame with
    ⟨status, hError, hAnswered⟩
  apply Follows.of_answered _ hAnswered
  · rw [Protocol.next_error hError,
      h.untouched.curState_eq, hState]
  · exact fun hBoth => hNot hBoth.1

theorem Follows.finished
    (h : Follows req s t) :
    Follows req s (finished t) := by
  rcases h with ⟨status, hAnswered, hNext⟩
  refine ⟨status, hAnswered, ?_⟩
  rw [(finished_untouched t).curState_eq]
  exact hNext

/- A SETUP that succeeds makes a new session ready. -/
theorem afterSuccess_setup
    (hMethod : req.methodId = RTSPMethod.setup)
    (state : RTSPServerState) :
    Protocol.afterSuccess state req.methodId =
      some
        (match state with
        | .init => .ready
        | other => other) := by
  unfold Protocol.afterSuccess
  rw [if_pos hMethod]
  cases state with
  | init => rfl
  | ready => rfl
  | playing => rfl

theorem joined_curState
    {next : RTSPSession}
    (hNext : s.rtsp.session = some next)
    (track : List UInt8)
    (session : RTPSession) :
    (joinSession s next track session).curState =
      match s.curState with
      | .init => .ready
      | other => other := by
  unfold Client.curState RTSPClient.curState
  rw [hNext]
  rfl

theorem rtspSetup_follows
    (hNot : ¬ PausedFirst s req)
    (hMethod : req.methodId = RTSPMethod.setup)
    (hSame : u.rtsp.responses = s.rtsp.responses)
    (hState : u.curState = s.curState)
    (h : rtspSetup env u req = .ok t) :
    Follows req s t := by
  rcases rtspSetup_cases h with
    hRefused | ⟨_, v, hOpened, hRest⟩
  · exact .of_refused hNot hSame hState hRefused
  have hSameOpened := hOpened.answers.2.trans hSame
  have hStateOpened := hOpened.curState_eq.trans hState
  rcases hRest with
    hRefused | ⟨next, w, hNext, _, hAllocated, hRest⟩
  · exact .of_refused hNot hSameOpened hStateOpened hRefused
  have hSameAllocated :=
    hAllocated.answers.2.trans hSameOpened
  have hStateAllocated :=
    hAllocated.curState_eq.1.trans hStateOpened
  rcases hRest with
    ⟨hRefused, _⟩ | ⟨session, track, _, _, hAnswered⟩
  · exact .of_refused hNot hSameAllocated hStateAllocated
      hRefused
  · have hJoined :
        (joinSession w next track session).rtsp.responses =
            s.rtsp.responses :=
      hSameAllocated
    have hSession : w.rtsp.session = some next := by
      rcases hAllocated with ⟨free, channels, rfl⟩
      exact hNext
    apply Follows.of_success (hAnswered.answeredWith hJoined)
    rw [afterSuccess_setup hMethod,
      hAnswered.untouched.curState_eq,
      joined_curState hSession, hStateAllocated]

theorem rtspPause_follows
    (hNot : ¬ PausedFirst s req)
    (hMethod : req.methodId = RTSPMethod.pause)
    (hSame : u.rtsp.responses = s.rtsp.responses)
    (hState : u.curState = s.curState)
    (h : rtspPause env u req = .ok t) :
    Follows req s t := by
  rcases rtspPause_cases h with
    hRefused | ⟨_, hPlaying, v, hPaused, rfl⟩
  · exact .of_refused hNot hSame hState hRefused
  · have hAnswered := answered_quick req v 200
    apply Follows.of_success
      (hAnswered.answeredWith
        ((rtspDoPause_answers hPaused).2.trans hSame))
    rw [hAnswered.untouched.curState_eq,
      rtspDoPause_curState hPaused, ← hState, hPlaying,
      hMethod]
    rfl

theorem rtspTeardown_follows
    (hNot : ¬ PausedFirst s req)
    (hMethod : req.methodId = RTSPMethod.teardown)
    (hSame : u.rtsp.responses = s.rtsp.responses)
    (hState : u.curState = s.curState)
    (h : rtspTeardown u req = .ok t) :
    Follows req s t := by
  rcases rtspTeardown_cases h with
    hRefused | ⟨_, hAnswered⟩
  · exact .of_refused hNot hSame hState hRefused
  · have hTorn :
        (tornDown u).rtsp.responses = s.rtsp.responses :=
      hSame
    apply Follows.of_success (hAnswered.answeredWith hTorn)
    rw [hAnswered.untouched.curState_eq, hMethod]
    rfl

/- A PLAY that succeeds leaves the session playing. -/
theorem afterSuccess_play
    (hMethod : req.methodId = RTSPMethod.play)
    (hState : s.curState ≠ .init) :
    Protocol.afterSuccess s.curState req.methodId =
      some .playing := by
  rw [hMethod]
  cases hIs : s.curState with
  | init => exact absurd hIs hState
  | ready => rfl
  | playing => rfl

theorem playChecked_follows
    (hPasses : PlayPasses s req)
    (hSame : u.rtsp.responses = s.rtsp.responses)
    (hState : u.curState = s.curState)
    (h : playChecked env u req = .ok t) :
    Follows req s t := by
  rcases playChecked_cases h with ⟨v, hWorked, hRest⟩
  have hSameWorked := hWorked.answers.2.trans hSame
  have hNotInit : u.curState ≠ .init := by
    rw [hState]
    exact hPasses.state
  -- A refusal is an error, or comes behind a pause.
  have hRefusal :
      ∀ {w}, w.rtsp.responses = s.rtsp.responses →
        w.curState = v.curState →
        Refused req w t → Follows req s t := by
    intro w hSameNow hStateNow hRefused
    rcases hWorked with ⟨hNot, rfl⟩ | ⟨hPlaying, hVlc, hPause⟩
    · apply Follows.of_refused _ hSameNow
        (hStateNow.trans hState) hRefused
      rintro ⟨_, hPlaying, hVlc⟩
      exact hNot ⟨hState.trans hPlaying, hVlc⟩
    · rcases hRefused.answeredWith hSameNow with
        ⟨status, hError, hAnswered⟩
      have hWasPlaying := hState.symm.trans hPlaying
      have hPausedFirst : PausedFirst s req :=
        ⟨hPasses, hWasPlaying, hVlc⟩
      refine ⟨status, hAnswered, ?_⟩
      unfold exchangeWith
      rw [if_pos ⟨hPausedFirst, hError⟩, hWasPlaying,
        hRefused.untouched.curState_eq, hStateNow,
        rtspDoPause_curState hPause]
      rfl
  rcases hRest with ⟨_, hRefused⟩ | ⟨w, hFixed, hRest⟩
  · exact hRefusal hSameWorked rfl hRefused
  have hSameFixed := hFixed.answers.2.trans hSameWorked
  rcases hRest with
    ⟨_, _, hRefused⟩ | ⟨x, hPlays, _, hReplied⟩
  · exact hRefusal hSameFixed hFixed.curState_eq hRefused
  · have hNotInitFixed : w.curState ≠ .init := by
      rw [hFixed.curState_eq]
      exact hWorked.curState_ne hNotInit
    have hPlaying := hPlays.curState_eq hNotInitFixed
    apply Follows.of_success
      (hReplied.answeredWith
        (hPlays.answers.2.trans hSameFixed))
    rw [afterSuccess_play hPasses.method hPasses.state]
    rcases hReplied with ⟨range, _, rfl⟩
    exact congrArg some hPlaying.symm

/- A method that is not a PLAY behind its checks. -/
theorem callMethod_follows
    {number : Nat}
    (hNot : ¬ PlayPasses s req)
    (hReaches : Reaches s req number)
    (h : callMethod env (numbered s number) req = .ok t) :
    Follows req s t := by
  have hPausedNot : ¬ PausedFirst s req :=
    fun hPaused => hNot hPaused.1
  have hSame :
      (numbered s number).rtsp.responses =
        s.rtsp.responses := rfl
  have hState : (numbered s number).curState = s.curState :=
    rfl
  rcases callMethod_cases h with
    ⟨hMethod, hDone⟩ | ⟨hMethod, hSetup⟩ |
    ⟨hMethod, hPlay⟩ | ⟨hMethod, hPause⟩ |
    ⟨hMethod, hTeardown⟩
  · rcases hDone with hRefused | hAnswered
    · exact .of_refused hPausedNot hSame hState hRefused
    · apply Follows.of_success (hAnswered.answeredWith hSame)
      rw [hAnswered.untouched.curState_eq, hState]
      rcases hMethod with hMethod | hMethod
      · rw [hMethod]
        rfl
      · rw [hMethod]
        rfl
  · exact rtspSetup_follows hPausedNot hMethod hSame hState
      hSetup
  · rcases rtspPlay_cases hPlay with
      hRefused | ⟨hPasses, hNotInit, _⟩
    · exact .of_refused hPausedNot hSame hState hRefused
    · exact absurd
        ⟨hMethod, ⟨number, hReaches⟩, hPasses, hNotInit⟩ hNot
  · exact rtspPause_follows hPausedNot hMethod hSame hState
      hPause
  · exact rtspTeardown_follows hPausedNot hMethod hSame hState
      hTeardown

/-
  A request is answered and the state follows the answer, or
  nothing is said and the state stays.
-/
theorem request_follows
    (h : rtspHandleRequest env s req = .ok t) :
    Follows req s t ∨
      (t.rtsp.responses = s.rtsp.responses ∧
        t.curState = s.curState) := by
  by_cases hPasses : PlayPasses s req
  · rcases hPasses.reaches with ⟨number, hReaches⟩
    have hEq :
        callMethod env (numbered s number) req =
          playChecked env (numbered s number) req := by
      rw [callMethod_play hPasses.method]
      exact rtspPlay_eq hPasses.url hPasses.state
    rw [rtspHandleRequest_eq hReaches, hEq] at h
    cases hChecked :
        playChecked env (numbered s number) req with
    | error fault =>
        rw [hChecked] at h
        cases h
    | ok u =>
        rw [hChecked] at h
        cases h
        exact .inl
          (playChecked_follows hPasses
            (u := numbered s number) rfl rfl
            hChecked).finished
  · have hNot : ¬ PausedFirst s req :=
      fun hPaused => hPasses hPaused.1
    rcases rtspHandleRequest_cases h with
      ⟨_, u, hRefused, rfl⟩ | ⟨number, _, _, rfl⟩ |
      ⟨number, u, _, _, hRefused, rfl⟩ |
      ⟨number, u, hReaches, hMethod, rfl⟩
    · exact .inl
        (Follows.of_refused hNot rfl rfl hRefused).finished
    · exact .inr ⟨rfl, rfl⟩
    · exact .inl
        (Follows.of_refused hNot (u := numbered s number) rfl
          rfl hRefused).finished
    · exact .inl
        (callMethod_follows hPasses hReaches hMethod).finished

end Play

end Feng

------------------------------------------------------------
-- The Simulation
------------------------------------------------------------

namespace Feng

namespace Play

variable {s t : Client} {op : Op}
variable {trace : List (Client × Op)}

/- Only a request that is answered changes the state. -/
theorem step_follows
    (h : step s op = .ok t) :
    match exchangeOf s op with
    | none => t.curState = s.curState
    | some exchange =>
        Protocol.next s.curState exchange =
          some t.curState := by
  cases op with
  | request req env =>
      have hHandled : rtspHandleRequest env s req = .ok t := h
      have hSee :
          exchangeOf s (.request req env) =
            (answerOf env s req).map (exchangeWith s req) :=
        rfl
      rcases request_follows hHandled with
        ⟨status, hAnswered, hNext⟩ | ⟨hSame, hState⟩
      · rw [hSee, answerOf_answered hHandled hAnswered]
        exact hNext
      · rw [hSee, answerOf_silent hHandled hSame]
        exact hState
  | write address env =>
      rcases writeStep_cases h with
        rfl | ⟨session, due, next, _, _, _, rfl⟩
      · rfl
      · rfl
  | timeout time =>
      rcases step_timeout_cases h with
        ⟨session, connected, _, rfl⟩
      rfl

/- What clients see is what a server that follows does. -/
theorem server_simulation :
    System.Simulation system Protocol.server exchangeOf
      (fun _ => True)
      (fun s state => state = s.curState) where
  init := by
    rintro s rfl
    exact ⟨.init, rfl, rfl⟩
  silent := by
    rintro s op t state _ hStep hSee rfl
    have hState := step_follows hStep.2
    rw [hSee] at hState
    exact hState.symm
  seen := by
    rintro s op t state exchange _ hStep hSee rfl
    have hNext := step_follows hStep.2
    rw [hSee] at hNext
    exact ⟨t.curState, hNext, rfl⟩

/-
  In every run the state of the session is the one the
  protocol has after the answers given so far, none of which
  it forbids.
-/
theorem state_follows_answers
    (hRun : system.Run trace s) :
    ∃ states,
      Protocol.server.Run states s.curState ∧
        states.map Prod.snd =
          System.observed exchangeOf trace := by
  have hAlways : System.Always (fun _ => True) trace s :=
    ⟨fun _ _ => trivial, trivial⟩
  rcases server_simulation.run hAlways hRun with
    ⟨states, state, hStates, rfl, hLabels⟩
  exact ⟨states, hStates, hLabels⟩

/- A session that is set up, played, and played once more. -/
def replayedOps : List Op :=
  setupOps ++
    [.request (sampleRequest RTSPMethod.play 2)
        (sampleEnv 1000),
      .request
        { sampleRequest RTSPMethod.play 3 with
          headers :=
            some [(.cSeq, printInt 3),
              (.userAgent, ascii "VLC media player 0.8.6"),
              (.range, ascii "npt=x")] }
        { sampleEnv 1005 with parseRange := fun _ _ => none }]

theorem state_follows_answers_replayed :
    ∃ states,
      Protocol.server.Run states .ready ∧
        states.map Prod.snd =
          [.answered RTSPMethod.setup 200,
            .answered RTSPMethod.play 200, .interrupted] := by
  have hState :
      (System.replayEnd step clientNew replayedOps).curState =
        .ready := by
    decide +kernel
  have hSeen :
      System.observed exchangeOf
          (System.replayTrace step clientNew replayedOps) =
        [.answered RTSPMethod.setup 200,
          .answered RTSPMethod.play 200, .interrupted] := by
    decide +kernel
  rw [← hState, ← hSeen]
  exact state_follows_answers
    (System.replay_run (by decide +kernel)
      (by decide +kernel))

end Play

end Feng
