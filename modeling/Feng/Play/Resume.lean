import Feng.Play.Answers
import Feng.Play.Invariant

/-
  Which RTP sessions a PLAY starts.

  SETUP adds an RTP session in any state, and a PLAY that finds
  the session playing does not resume any, unless it comes
  from a client that is paused first.

  Key definitions include:
    * `Play.Succeeds`
    * `Play.AllResumed`
    * `Play.LateSetup`

  Key theorems include:
    * `Play.request_effect`
    * `Play.play_resumes_iff`
-/

------------------------------------------------------------
-- Answers
------------------------------------------------------------

namespace Feng

namespace Play

variable {env : Env} {req : RFC822Request} {s t u : Client}
variable {code : Nat}

/- One response was queued, and it is a 200. -/
def Succeeds (s t : Client) : Prop :=
  ∃ response,
    t.rtsp.responses = s.rtsp.responses ++ [response] ∧
      response.status = 200

theorem succeeds_iff :
    Succeeds s t ↔
      t.rtsp.responses.dropLast = s.rtsp.responses ∧
        t.rtsp.responses.getLast?.any
          (fun response => response.status = 200) = true := by
  constructor
  · rintro ⟨response, hQueued, hStatus⟩
    rw [hQueued]
    simp [hStatus]
  · rintro ⟨hInit, hLast⟩
    rcases List.eq_nil_or_concat t.rtsp.responses with
      hNil | ⟨init, response, hQueued⟩
    · rw [hNil] at hLast
      cases hLast
    · rw [hQueued] at hInit hLast
      refine ⟨response, ?_, by simpa using hLast⟩
      rw [hQueued, ← hInit]
      simp

instance decidableSucceeds (s t : Client) :
    Decidable (Succeeds s t) :=
  decidable_of_iff _ succeeds_iff.symm

theorem Answered.succeeds_iff
    (hSame : SameAnswers s u)
    (h : Answered req code u t) :
    Succeeds s t ↔ code = 200 := by
  rcases h with ⟨response, rfl, _, rfl⟩
  have hQueued :
      (u.send response).rtsp.responses =
        s.rtsp.responses ++ [response] := by
    rw [← hSame.2]
    rfl
  constructor
  · rintro ⟨other, hOther, hStatus⟩
    rw [hQueued] at hOther
    have hEq : [response] = [other] :=
      List.append_cancel_left hOther
    cases hEq
    exact hStatus
  · intro hStatus
    exact ⟨response, hQueued, hStatus⟩

theorem Refused.not_succeeds
    (hSame : SameAnswers s u)
    (h : Refused req u t) :
    ¬ Succeeds s t := by
  rcases h with ⟨code, hCode, hAnswered⟩
  intro hSucceeds
  exact hCode ((hAnswered.succeeds_iff hSame).mp hSucceeds)

theorem SameAnswers.refl (s : Client) : SameAnswers s s :=
  ⟨rfl, rfl⟩

end Play

end Feng

------------------------------------------------------------
-- What Requests Do To RTP Sessions
------------------------------------------------------------

namespace Feng

namespace Play

variable {env : Env} {req : RFC822Request} {s t u : Client}

/- Every RTP session was resumed since it was last paused. -/
def AllResumed (s : Client) : Prop :=
  ∀ session ∈ s.playback.rtpSessions,
    session.resumed = true ∧ session.range ≠ none

def AllUnicast (s : Client) : Prop :=
  ∀ session ∈ s.playback.rtpSessions,
    session.multicast = false

/- What a request does to the RTP sessions of its client. -/
inductive Effect
    (req : RFC822Request)
    (s t : Client) : Prop where
| same :
    t.playback.rtpSessions = s.playback.rtpSessions →
    t.curState = s.curState →
    (Succeeds s t →
      req.methodId ≠ RTSPMethod.setup ∧
        (req.methodId = RTSPMethod.play →
          s.curState = .playing ∧
            vlcUserAgent req = false)) →
      Effect req s t
| stopped :
    t.curState ≠ .playing →
    (req.methodId = RTSPMethod.play → ¬ Succeeds s t) →
      Effect req s t
| joined (session : RTPSession) :
    req.methodId = RTSPMethod.setup → Succeeds s t →
    session.resumed = false →
    t.playback.rtpSessions =
      s.playback.rtpSessions ++ [session] →
    t.curState = s.curState →
      Effect req s t
| started :
    req.methodId = RTSPMethod.play → Succeeds s t →
    (s.curState = .playing → vlcUserAgent req = true) →
    t.curState = .playing → AllResumed t →
      Effect req s t

/- A refusal leaves the RTP sessions alone. -/
theorem Effect.refused
    (hSame : SameAnswers s u)
    (hSessions :
      u.playback.rtpSessions = s.playback.rtpSessions)
    (hState : u.curState = s.curState)
    (h : Refused req u t) :
    Effect req s t := by
  have hNot := h.not_succeeds hSame
  have hSameState := h.untouched.curState_eq.trans hState
  rcases h.untouched with ⟨rtsp, _, rfl⟩
  exact .same hSessions hSameState
    (fun hSucceeds => absurd hSucceeds hNot)

theorem Opened.curState_eq
    (h : Opened env s t) :
    t.curState = s.curState := by
  rcases h with ⟨next, hNext, rfl⟩
  unfold openSession at hNext ⊢
  cases hSession : s.rtsp.session with
  | none =>
      simp only [hSession] at hNext ⊢
      have hState : next.curState = .init := by
        rcases hNext with rfl | ⟨_, resource, rfl⟩
        · rfl
        · rfl
      simp [Client.curState, RTSPClient.curState, hSession,
        hState]
  | some session =>
      simp only [hSession] at hNext ⊢
      have hState : next.curState = session.curState := by
        rcases hNext with rfl | ⟨_, resource, rfl⟩
        · rfl
        · rfl
      simp [Client.curState, RTSPClient.curState, hSession,
        hState]

theorem Opened.playback_eq
    (hState : s.curState ≠ .init)
    (h : Opened env s t) :
    t.playback = s.playback := by
  rcases h with ⟨next, _, rfl⟩
  rcases curState_ne_init hState with ⟨session, hSession⟩
  unfold openSession
  rw [hSession]

theorem Allocated.curState_eq
    (h : Allocated s t) :
    t.curState = s.curState ∧ t.playback = s.playback := by
  rcases h with ⟨free, channels, rfl⟩
  exact ⟨rfl, rfl⟩

theorem rtspSetup_effect
    (hMethod : req.methodId = RTSPMethod.setup)
    (h : rtspSetup env s req = .ok t) :
    Effect req s t := by
  have hNotPlay : req.methodId ≠ RTSPMethod.play := by
    rw [hMethod]
    decide
  by_cases hPlaying : s.curState = .playing
  · have hNot : s.curState ≠ .init := by
      rw [hPlaying]
      decide
    rcases rtspSetup_cases h with
      hRefused | ⟨_, u, hOpened, hRefused |
        ⟨next, v, hNext, _, hAllocated, ⟨hRefused, _⟩ |
          ⟨session, track, hNew, _, hAnswered⟩⟩⟩
    · exact Effect.refused (SameAnswers.refl s) rfl rfl
        hRefused
    · exact Effect.refused hOpened.answers
        (by rw [hOpened.playback_eq hNot])
        hOpened.curState_eq hRefused
    · exact Effect.refused
        (hOpened.answers.trans hAllocated.answers)
        (by rw [hAllocated.curState_eq.2,
          hOpened.playback_eq hNot])
        (hAllocated.curState_eq.1.trans hOpened.curState_eq)
        hRefused
    · have hSame :
          SameAnswers s (joinSession v next track session) :=
        hOpened.answers.trans hAllocated.answers
      have hState :
          (joinSession v next track session).curState =
            .playing := by
        have hSession : v.rtsp.session = some next := by
          rcases hAllocated with ⟨free, channels, rfl⟩
          exact hNext
        rw [joinSession_curState hSession,
          hAllocated.curState_eq.1, hOpened.curState_eq]
        exact hPlaying
      refine .joined session hMethod
        ((hAnswered.succeeds_iff hSame).mpr rfl) hNew.resumed
        ?_ ?_
      · rcases hAnswered.untouched with ⟨rtsp, _, rfl⟩
        have hPlayback := hAllocated.curState_eq.2.trans
          (hOpened.playback_eq hNot)
        change v.playback.rtpSessions ++ [session] = _
        rw [hPlayback]
      · rw [hAnswered.untouched.curState_eq, hState, hPlaying]
  · refine .stopped ?_ (fun hPlay => absurd hPlay hNotPlay)
    rcases rtspSetup_cases h with
      hRefused | ⟨_, u, hOpened, hRefused |
        ⟨next, v, hNext, _, hAllocated, ⟨hRefused, _⟩ |
          ⟨session, track, _, _, hAnswered⟩⟩⟩
    · rw [hRefused.untouched.curState_eq]
      exact hPlaying
    · rw [hRefused.untouched.curState_eq, hOpened.curState_eq]
      exact hPlaying
    · rw [hRefused.untouched.curState_eq,
        hAllocated.curState_eq.1, hOpened.curState_eq]
      exact hPlaying
    · have hSession : v.rtsp.session = some next := by
        rcases hAllocated with ⟨free, channels, rfl⟩
        exact hNext
      rw [hAnswered.untouched.curState_eq, Ne,
        joinSession_curState hSession,
        hAllocated.curState_eq.1, hOpened.curState_eq]
      exact hPlaying

end Play

end Feng

------------------------------------------------------------
-- What A PLAY Does To Them
------------------------------------------------------------

namespace Feng

namespace Play

variable {env : Env} {req : RFC822Request} {s t u : Client}

theorem AllUnicast.not_first
    (h : AllUnicast s) :
    ¬ FirstMulticast s := by
  unfold FirstMulticast
  cases hSessions : s.playback.rtpSessions with
  | nil => simp
  | cons session sessions =>
      have hMem : session ∈ s.playback.rtpSessions := by
        simp [hSessions]
      simp [h session hMem]

theorem AllUnicast.paused
    {now : ℚ}
    (h : rtspDoPause now s = .ok t)
    (hUnicast : AllUnicast s) :
    AllUnicast t := by
  rcases rtspDoPause_cases h with
    ⟨_, address, range, _, _, _, rfl⟩
  intro session hMem
  rcases List.mem_map.mp hMem with ⟨old, hOld, rfl⟩
  exact hUnicast old hOld

/- A session that is made to play has all its parts resumed. -/
theorem PlayStarted.all_resumed
    (hUnicast : AllUnicast s)
    (h : PlayStarted env s t) :
    AllResumed t := by
  rcases h with ⟨hFirst, _⟩ | ⟨_, address, range, _, _, rfl⟩
  · exact absurd hFirst hUnicast.not_first
  · intro session hMem
    rcases List.mem_map.mp hMem with ⟨old, _, rfl⟩
    exact ⟨rfl, Option.some_ne_none address⟩

theorem PlayReplied.succeeds
    (hSame : SameAnswers s u)
    (h : PlayReplied req u t) :
    Succeeds s t := by
  rcases h with ⟨range, _, rfl⟩
  refine ⟨playReply u req range, ?_, rfl⟩
  rw [← hSame.2]
  rfl

theorem playChecked_effect
    (hMethod : req.methodId = RTSPMethod.play)
    (hState : s.curState ≠ .init)
    (hUnicast : AllUnicast s)
    (h : playChecked env s req = .ok t) :
    Effect req s t := by
  rcases playChecked_cases h with ⟨u, hWorked, hRest⟩
  have hAnswersU := hWorked.answers
  have hStateU := hWorked.curState_ne hState
  have hUnicastU : AllUnicast u := by
    rcases hWorked with ⟨_, rfl⟩ | ⟨_, _, hPause⟩
    · exact hUnicast
    · exact hUnicast.paused hPause
  -- The workaround leaves the session paused.
  have hPausedU :
      s.curState = .playing → vlcUserAgent req = true →
        u.curState ≠ .playing := by
    intro hPlaying hVlc
    rcases hWorked with ⟨hNot, _⟩ | ⟨_, _, hPause⟩
    · exact absurd ⟨hPlaying, hVlc⟩ hNot
    · rw [rtspDoPause_curState hPause]
      decide
  have hSameU :
      ¬ (s.curState = .playing ∧ vlcUserAgent req = true) →
        u = s := by
    intro hNot
    rcases hWorked with ⟨_, hSame⟩ | ⟨hPlaying, hVlc, _⟩
    · exact hSame
    · exact absurd ⟨hPlaying, hVlc⟩ hNot
  by_cases hVlc :
      s.curState = .playing ∧ vlcUserAgent req = true
  · have hNotU := hPausedU hVlc.1 hVlc.2
    rcases hRest with ⟨_, hRefused⟩ | ⟨v, hFixed, hRest⟩
    · refine .stopped ?_ (fun _ =>
        hRefused.not_succeeds hAnswersU)
      rw [hRefused.untouched.curState_eq]
      exact hNotU
    have hAnswersV := hAnswersU.trans hFixed.answers
    rcases hRest with
      ⟨_, _, hRefused⟩ | ⟨w, hPlays, _, hReplied⟩
    · refine .stopped ?_ (fun _ =>
        hRefused.not_succeeds hAnswersV)
      rw [hRefused.untouched.curState_eq, hFixed.curState_eq]
      exact hNotU
    have hStateV : v.curState ≠ .init := by
      rw [hFixed.curState_eq]
      exact hStateU
    have hSucceeds :=
      hReplied.succeeds (hAnswersV.trans hPlays.answers)
    have hPlayingW := hPlays.curState_eq hStateV
    have hUnicastV : AllUnicast v := by
      unfold AllUnicast
      rw [hFixed.sessions_eq.1]
      exact hUnicastU
    rcases hPlays with ⟨hPlayingV, _⟩ | ⟨_, hStarted⟩
    · rw [hFixed.curState_eq] at hPlayingV
      exact absurd hPlayingV hNotU
    · have hResumed := hStarted.all_resumed hUnicastV
      rcases hReplied with ⟨range, _, rfl⟩
      exact .started hMethod hSucceeds (fun _ => hVlc.2)
        hPlayingW hResumed
  · cases hSameU hVlc
    rcases hRest with ⟨_, hRefused⟩ | ⟨v, hFixed, hRest⟩
    · exact Effect.refused (SameAnswers.refl s) rfl rfl
        hRefused
    rcases hRest with
      ⟨_, _, hRefused⟩ | ⟨w, hPlays, _, hReplied⟩
    · exact Effect.refused hFixed.answers hFixed.sessions_eq.1
        hFixed.curState_eq hRefused
    have hStateV : v.curState ≠ .init := by
      rw [hFixed.curState_eq]
      exact hState
    have hSucceeds :=
      hReplied.succeeds (hFixed.answers.trans hPlays.answers)
    have hPlayingW := hPlays.curState_eq hStateV
    rcases hPlays with ⟨hPlayingV, rfl⟩ | ⟨hNotV, hStarted⟩
    · have hPlaying : s.curState = .playing := by
        rw [← hFixed.curState_eq]
        exact hPlayingV
      have hAgent : vlcUserAgent req = false := by
        by_contra hTrue
        exact hVlc ⟨hPlaying, by simpa using hTrue⟩
      rcases hReplied with ⟨range, _, rfl⟩
      refine .same hFixed.sessions_eq.1 hFixed.curState_eq ?_
      intro _
      refine ⟨?_, fun _ => ⟨hPlaying, hAgent⟩⟩
      rw [hMethod]
      decide
    · have hNot : s.curState ≠ .playing := by
        rw [← hFixed.curState_eq]
        exact hNotV
      have hUnicastV : AllUnicast v := by
        unfold AllUnicast
        rw [hFixed.sessions_eq.1]
        exact hUnicast
      have hResumed := hStarted.all_resumed hUnicastV
      rcases hReplied with ⟨range, _, rfl⟩
      exact .started hMethod hSucceeds
        (fun hPlaying => absurd hPlaying hNot) hPlayingW
        hResumed

theorem callMethod_effect
    (hUnicast : AllUnicast s)
    (h : callMethod env s req = .ok t) :
    Effect req s t := by
  have hRefl := SameAnswers.refl s
  rcases callMethod_cases h with
    ⟨hOther, hRefused | hAnswered⟩ | ⟨hMethod, hSetup⟩ |
    ⟨hMethod, hPlay⟩ | ⟨hMethod, hPause⟩ |
    ⟨hMethod, hTeardown⟩
  · exact Effect.refused hRefl rfl rfl hRefused
  · have hState := hAnswered.untouched.curState_eq
    rcases hAnswered.untouched with ⟨rtsp, _, rfl⟩
    refine .same rfl hState ?_
    intro _
    rcases hOther with hOptions | hDescribe
    · rw [hOptions]
      exact ⟨by decide, fun hPlay => by cases hPlay⟩
    · rw [hDescribe]
      exact ⟨by decide, fun hPlay => by cases hPlay⟩
  · exact rtspSetup_effect hMethod hSetup
  · rcases rtspPlay_cases hPlay with
      hRefused | ⟨_, hState, hChecked⟩
    · exact Effect.refused hRefl rfl rfl hRefused
    · exact playChecked_effect hMethod hState hUnicast hChecked
  · rcases rtspPause_cases hPause with
      hRefused | ⟨_, _, u, hDone, rfl⟩
    · exact Effect.refused hRefl rfl rfl hRefused
    · have hReady : u.curState = .ready :=
        rtspDoPause_curState hDone
      have hSame := (answered_quick req u 200).untouched
      refine .stopped ?_ ?_
      · rw [hSame.curState_eq, hReady]
        decide
      · rw [hMethod]
        intro hPlay
        cases hPlay
  · rcases rtspTeardown_cases hTeardown with
      hRefused | ⟨_, hAnswered⟩
    · exact Effect.refused hRefl rfl rfl hRefused
    · refine .stopped ?_ ?_
      · rw [hAnswered.untouched.curState_eq]
        exact (by decide : RTSPServerState.init ≠ .playing)
      · rw [hMethod]
        intro hPlay
        cases hPlay

/- The end of the handling changes nothing about it. -/
theorem Effect.finished
    (h : Effect req s t) :
    Effect req s (finished t) := by
  cases h with
  | same hSessions hState hOther =>
      exact .same hSessions hState hOther
  | stopped hState hOther =>
      exact .stopped hState hOther
  | joined session hSetup hOk hNew hSessions hState =>
      exact .joined session hSetup hOk hNew hSessions hState
  | started hPlay hOk hVlc hState hResumed =>
      exact .started hPlay hOk hVlc hState hResumed

/- Nor does the number that was noted at the start. -/
theorem Effect.of_numbered
    {v : Nat}
    (h : Effect req (numbered s v) t) :
    Effect req s t := by
  cases h with
  | same hSessions hState hOther =>
      exact .same hSessions hState hOther
  | stopped hState hOther =>
      exact .stopped hState hOther
  | joined session hSetup hOk hNew hSessions hState =>
      exact .joined session hSetup hOk hNew hSessions hState
  | started hPlay hOk hVlc hState hResumed =>
      exact .started hPlay hOk hVlc hState hResumed

/- What handling a request does to the RTP sessions. -/
theorem request_effect
    (hUnicast : AllUnicast s)
    (h : rtspHandleRequest env s req = .ok t) :
    Effect req s t := by
  rcases rtspHandleRequest_cases h with
    ⟨_, u, hRefused, rfl⟩ | ⟨v, _, _, rfl⟩ |
    ⟨v, u, _, _, hRefused, rfl⟩ | ⟨v, u, _, hMethod, rfl⟩
  · have hEffect : Effect req s u :=
      Effect.refused (SameAnswers.refl s) rfl rfl hRefused
    exact hEffect.finished
  · refine .same rfl rfl ?_
    rintro ⟨response, hQueued, _⟩
    simp [Play.finished] at hQueued
  · have hEffect : Effect req (numbered s v) u :=
      Effect.refused (SameAnswers.refl _) rfl rfl hRefused
    exact hEffect.of_numbered.finished
  · have hSame : AllUnicast (numbered s v) := hUnicast
    exact (callMethod_effect hSame
      hMethod).of_numbered.finished

end Play

end Feng

------------------------------------------------------------
-- No Session Is Multicast
------------------------------------------------------------

namespace Feng

namespace Play

variable {s t : Client}

theorem allUnicast_kept (env : Env) (req : RFC822Request) :
    Kept env req AllUnicast where
  untouched := by
    rintro s t ⟨rtsp, _, rfl⟩ hUnicast
    exact hUnicast
  opened := by
    rintro s t ⟨next, _, rfl⟩ hUnicast
    unfold openSession
    cases s.rtsp.session with
    | none =>
        intro session hMem
        cases hMem
    | some session => exact hUnicast
  allocated := by
    rintro s t ⟨free, channels, rfl⟩ hUnicast
    exact hUnicast
  joined := by
    rintro s t next track session _ _ ⟨free, channels, rfl⟩
      hNew hUnicast other hMem
    rcases List.mem_append.mp hMem with hOld | hLast
    · exact hUnicast other hOld
    · cases List.mem_singleton.mp hLast
      exact hNew.multicast
  paused := by
    intro s t now _ hPause hUnicast
    exact hUnicast.paused hPause
  fixed := by
    intro s t _ hFixed hUnicast
    unfold AllUnicast
    rw [hFixed.sessions_eq.1]
    exact hUnicast
  plays := by
    intro s t _ _ hPlays hUnicast
    rcases hPlays with
      ⟨_, rfl⟩ | ⟨_, ⟨_, rfl⟩ | ⟨_, address, range, _, _, rfl⟩⟩
    · exact hUnicast
    · exact hUnicast
    · intro session hMem
      rcases List.mem_map.mp hMem with ⟨old, hOld, rfl⟩
      exact hUnicast old hOld
  armed := fun _ hUnicast => hUnicast

/- What a writer leaves alone in its RTP session. -/
theorem rtpWriteCb_keeps
    {env : WriterEnv}
    {session next : RTPSession}
    {due : ℚ}
    (h : rtpWriteCb env s session due = .ok next) :
    next.multicast = session.multicast ∧
      next.resumed = session.resumed ∧
      next.transport = session.transport := by
  unfold rtpWriteCb at h
  split at h
  · split at h
    · cases h
    · cases h
      exact ⟨rfl, rfl, rfl⟩
  · split at h
    · split at h
      · split at h
        · cases h
        · cases h
          exact ⟨rfl, rfl, rfl⟩
      · cases h
        exact ⟨rfl, rfl, rfl⟩
    · split at h
      · cases h
      · cases h
        unfold rtpPacketSend
        split
        · exact ⟨rfl, rfl, rfl⟩
        · exact ⟨rfl, rfl, rfl⟩

theorem step_allUnicast
    {op : Op}
    (h : step s op = .ok t)
    (hUnicast : AllUnicast s) :
    AllUnicast t := by
  cases op with
  | request req env =>
      refine (allUnicast_kept env req).request ?_ h hUnicast
      intro v _ _ _ session hMem
      cases hMem
  | write address env =>
      rcases writeStep_cases h with
        rfl | ⟨session, due, next, hAt, _, hWrite, rfl⟩
      · exact hUnicast
      · intro other hOther
        rcases mem_updateSession hOther with rfl | hOld
        · rw [(rtpWriteCb_keeps hWrite).1]
          exact hUnicast session (sessionAt_mem hAt).1
        · exact hUnicast other hOld
  | timeout time =>
      rcases step_timeout_cases h with ⟨_, connected, _, rfl⟩
      exact hUnicast

end Play

end Feng

------------------------------------------------------------
-- Late SETUPs
------------------------------------------------------------

namespace Feng

namespace Play

variable {s t : Client} {op : Op}
variable {trace : List (Client × Op)}

/- The step is a SETUP that is answered with 200. -/
def SetsUp (s : Client) : Op → Prop
| .request req env =>
    req.methodId = RTSPMethod.setup ∧
      ∃ t, rtspHandleRequest env s req = .ok t ∧ Succeeds s t
| _ => False

/- The step is a PLAY answered with 200 that starts playing. -/
def Starts (s : Client) : Op → Prop
| .request req env =>
    req.methodId = RTSPMethod.play ∧
      (s.curState = .playing → vlcUserAgent req = true) ∧
      ∃ t, rtspHandleRequest env s req = .ok t ∧ Succeeds s t
| _ => False

/- A SETUP was accepted since the session last started. -/
def LateSetup (trace : List (Client × Op)) : Prop :=
  trace.foldl
    (fun late x =>
      SetsUp x.1 x.2 ∨ (late ∧ ¬ Starts x.1 x.2))
    False

theorem lateSetup_snoc :
    LateSetup (trace ++ [(s, op)]) ↔
      SetsUp s op ∨ (LateSetup trace ∧ ¬ Starts s op) := by
  simp [LateSetup]

/-
  While it plays, a session has all its parts resumed unless
  one was set up since it started.
-/
def ResumedUnlessLate
    (trace : List (Client × Op))
    (s : Client) : Prop :=
  s.curState = .playing → (AllResumed s ↔ ¬ LateSetup trace)

theorem allResumed_congr
    (h : t.playback.rtpSessions = s.playback.rtpSessions) :
    AllResumed t ↔ AllResumed s := by
  unfold AllResumed
  rw [h]

/- One request, by what it does to the RTP sessions. -/
theorem request_resumed
    {env : Env}
    {req : RFC822Request}
    (hUnicast : AllUnicast s)
    (h : rtspHandleRequest env s req = .ok t)
    (hPrior : ResumedUnlessLate trace s) :
    ResumedUnlessLate (trace ++ [(s, .request req env)]) t := by
  intro hPlaying
  rw [lateSetup_snoc]
  have hSucceeds :
      (∃ u, rtspHandleRequest env s req = .ok u ∧
        Succeeds s u) ↔ Succeeds s t := by
    rw [h]
    constructor
    · rintro ⟨u, hSame, hOk⟩
      cases hSame
      exact hOk
    · intro hOk
      exact ⟨t, rfl, hOk⟩
  simp only [SetsUp, Starts, hSucceeds]
  cases request_effect hUnicast h with
  | same hSessions hState hOther =>
      have hNow := hPrior (hState.symm.trans hPlaying)
      rw [allResumed_congr hSessions, hNow]
      constructor
      · rintro hNot (⟨hSetup, hOk⟩ | ⟨hLate, _⟩)
        · exact (hOther hOk).1 hSetup
        · exact hNot hLate
      · intro hNot hLate
        apply hNot
        refine .inr ⟨hLate, ?_⟩
        rintro ⟨hPlay, hVlc, hOk⟩
        rcases (hOther hOk).2 hPlay with ⟨hPlays, hAgent⟩
        rw [hVlc hPlays] at hAgent
        cases hAgent
  | stopped hState _ =>
      exact absurd hPlaying hState
  | joined session hSetup hOk hNew hSessions _ =>
      apply iff_of_false
      · intro hAll
        have hMem : session ∈ t.playback.rtpSessions := by
          rw [hSessions]
          simp
        have hResumed := (hAll session hMem).1
        rw [hNew] at hResumed
        cases hResumed
      · intro hNot
        exact hNot (.inl ⟨hSetup, hOk⟩)
  | started hPlay hOk hVlc _ hResumed =>
      apply iff_of_true hResumed
      rintro (⟨hSetup, _⟩ | ⟨_, hNot⟩)
      · rw [hPlay] at hSetup
        cases hSetup
      · exact hNot ⟨hPlay, hVlc, hOk⟩

/- Writers and the timer resume and pause nothing. -/
theorem ResumedUnlessLate.quiet
    (hOp : ¬ SetsUp s op ∧ ¬ Starts s op)
    (hState : t.curState = s.curState)
    (hResumed : AllResumed t ↔ AllResumed s)
    (hPrior : ResumedUnlessLate trace s) :
    ResumedUnlessLate (trace ++ [(s, op)]) t := by
  intro hPlaying
  rw [lateSetup_snoc, hResumed,
    hPrior (hState.symm.trans hPlaying)]
  simp [hOp.1, hOp.2]

/- A writer that goes off resumes and pauses nothing. -/
theorem write_allResumed
    {env : WriterEnv}
    {address : Nat}
    (hAddressed : Addressed s)
    (h : writeStep env s address = .ok t) :
    t.curState = s.curState ∧
      (AllResumed t ↔ AllResumed s) := by
  rcases writeStep_cases h with
    rfl | ⟨session, due, next, hAt, _, hWrite, rfl⟩
  · exact ⟨rfl, Iff.rfl⟩
  refine ⟨rfl, ?_⟩
  have hMem := (sessionAt_mem hAt).1
  have hCases := rtpWriteCb_cases hWrite
  have hKeeps := rtpWriteCb_keeps hWrite
  constructor
  · intro hAll other hOther
    by_cases hEq : other = session
    · subst hEq
      have hNext := hAll next
        ((mem_updateSession_iff hAddressed hMem
          hCases.1).mpr (.inl rfl))
      rw [hKeeps.2.1, hCases.2] at hNext
      exact hNext
    · exact hAll other
        ((mem_updateSession_iff hAddressed hMem
          hCases.1).mpr (.inr ⟨hOther, hEq⟩))
  · intro hAll other hOther
    rcases (mem_updateSession_iff hAddressed hMem
      hCases.1).mp hOther with rfl | ⟨hOld, _⟩
    · rw [hKeeps.2.1, hCases.2]
      exact hAll session hMem
    · exact hAll other hOld

theorem step_resumed
    (hUnicast : AllUnicast s)
    (hAddressed : Addressed s)
    (h : step s op = .ok t)
    (hPrior : ResumedUnlessLate trace s) :
    ResumedUnlessLate (trace ++ [(s, op)]) t := by
  cases op with
  | request req env =>
      exact request_resumed hUnicast h hPrior
  | write address env =>
      rcases write_allResumed hAddressed h with
        ⟨hState, hResumed⟩
      exact hPrior.quiet ⟨id, id⟩ hState hResumed
  | timeout time =>
      rcases step_timeout_cases h with ⟨_, connected, _, rfl⟩
      exact hPrior.quiet ⟨id, id⟩ rfl Iff.rfl

end Play

end Feng

------------------------------------------------------------
-- Runs
------------------------------------------------------------

namespace Feng

namespace Play

variable {s t : Client} {trace : List (Client × Op)}
variable {env : Env} {req : RFC822Request}

theorem run_allUnicast
    (hRun : system.Run trace s) :
    AllUnicast s := by
  apply hRun.invariant
  · rintro s rfl session hMem
    cases hMem
  · intro s op t hUnicast hStep
    exact step_allUnicast hStep.2 hUnicast

theorem run_resumed
    (hRun : system.Run trace s) :
    ResumedUnlessLate trace s := by
  induction hRun with
  | start hInit =>
      cases hInit
      intro hPlaying
      cases hPlaying
  | step hRun hStep ih =>
      exact step_resumed (run_allUnicast hRun)
        (run_addressed hRun) hStep.2 ih

/-
  A PLAY answered with 200 leaves every RTP session resumed
  exactly if it starts the session itself, or no SETUP was
  accepted since the session last started.
-/
theorem play_resumes_iff
    (hRun : system.Run trace s)
    (hPlay : req.methodId = RTSPMethod.play)
    (hStep : step s (.request req env) = .ok t)
    (hOk : Succeeds s t) :
    AllResumed t ↔
      (s.curState = .playing → vlcUserAgent req = false →
        ¬ LateSetup trace) := by
  cases request_effect (run_allUnicast hRun) hStep with
  | same hSessions _ hOther =>
      rcases (hOther hOk).2 hPlay with ⟨hPlaying, hAgent⟩
      rw [allResumed_congr hSessions,
        run_resumed hRun hPlaying]
      exact ⟨fun hNot _ _ => hNot,
        fun hNot => hNot hPlaying hAgent⟩
  | stopped _ hNot =>
      exact absurd hOk (hNot hPlay)
  | joined session hSetup _ _ _ _ =>
      rw [hPlay] at hSetup
      cases hSetup
  | started _ _ hVlc _ hResumed =>
      apply iff_of_true hResumed
      intro hPlaying hAgent
      rw [hVlc hPlaying] at hAgent
      cases hAgent

/- A session that is set up. -/
def setupOps : List Op :=
  [.request (sampleRequest RTSPMethod.setup 1)
    (sampleEnv 1000)]

/- A session that is set up once more while it plays. -/
def lateOps : List Op :=
  setupOps ++
    [.request (sampleRequest RTSPMethod.play 2)
        (sampleEnv 1000),
      .request (sampleRequest RTSPMethod.setup 3)
        (sampleEnv 1005)]

theorem play_resumes_iff_sample :
    AllResumed
        (System.replayEnd step
          (System.replayEnd step clientNew setupOps)
          [.request (sampleRequest RTSPMethod.play 2)
            (sampleEnv 1000)]) ↔
      ((System.replayEnd step clientNew setupOps).curState =
          .playing →
        vlcUserAgent (sampleRequest RTSPMethod.play 2) =
            false →
          ¬ LateSetup
            (System.replayTrace step clientNew setupOps)) := by
  have hStep :
      step (System.replayEnd step clientNew setupOps)
          (.request (sampleRequest RTSPMethod.play 2)
            (sampleEnv 1000)) =
        .ok (System.replayEnd step
          (System.replayEnd step clientNew setupOps)
          [.request (sampleRequest RTSPMethod.play 2)
            (sampleEnv 1000)]) := by
    decide +kernel
  exact play_resumes_iff
    (System.replay_run (by decide +kernel)
      (by decide +kernel))
    rfl hStep (by decide +kernel)

/- The new RTP session is not started by a second PLAY. -/
theorem play_leaves_stream :
    ∃ trace s t, system.Run trace s ∧
      step s
          (.request (sampleRequest RTSPMethod.play 4)
            (sampleEnv 1010)) =
        .ok t ∧
      Succeeds s t ∧
      ∃ session ∈ t.playback.rtpSessions,
        session.multicast = false ∧
          session.range = none ∧ session.rtpWriter = none ∧
          session.resumed = false := by
  have hRun :
      system.Run (System.replayTrace step clientNew lateOps)
        (System.replayEnd step clientNew lateOps) :=
    System.replay_run (by decide +kernel) (by decide +kernel)
  exact ⟨_, _,
    System.replayEnd step
      (System.replayEnd step clientNew lateOps)
      [.request (sampleRequest RTSPMethod.play 4)
        (sampleEnv 1010)],
    hRun, by decide +kernel, by decide +kernel,
    by decide +kernel⟩

end Play

end Feng
