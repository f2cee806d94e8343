import Feng.Play.Resume

/-
  The range at the head of the edit list, and what a request
  does to it.

  A session that plays is at a point of that range that moves
  with the clock; PAUSE records the point.

  Key definitions include:
    * `Play.head`
    * `Play.pausePoint`
    * `Play.Around`
    * `Play.PlayPasses`

  Key theorems include:
    * `Play.request_moves`
    * `Play.Worked.pausePoint_eq`
    * `Play.NowPlays.head_eq`
-/

------------------------------------------------------------
-- The Head Of The Edit List
------------------------------------------------------------

namespace Feng

namespace Play

variable {s t : Client} {range : RTSPRange} {address : Nat}

/- The range at the head of the edit list, if there is one. -/
def head (s : Client) : Option RTSPRange :=
  s.headRange.bind s.rangeAt

theorem head_eq_some :
    head s = some range ↔
      ∃ address, s.headRange = some address ∧
        s.rangeAt address = some range := by
  unfold head
  rw [Option.bind_eq_some_iff]

theorem rangeAt_lt
    (h : s.rangeAt address = some range) :
    address < s.ranges.length := by
  unfold Client.rangeAt at h
  by_contra hNot
  rw [List.getElem?_eq_none (Nat.le_of_not_lt hNot)] at h
  cases h

/- The range that was put at an address is found there. -/
theorem rangeAt_setRange_eq
    (next : RTSPRange)
    (h : s.rangeAt address = some range) :
    (s.setRange address next).rangeAt address = some next := by
  have hLt := rangeAt_lt h
  unfold Client.rangeAt Client.setRange
  simp [List.getElem?_set_self hLt]

/-
  The point of its head range that a session is at: it moves
  with the clock while the session plays.
-/
def pausePoint
    (now : ℚ)
    (s : Client)
    (range : RTSPRange) : ℚ :=
  if s.curState = .playing then
    range.beginTime + (now - range.playbackTime)
  else
    range.beginTime

theorem pausePoint_playing
    (now : ℚ)
    (range : RTSPRange)
    (h : s.curState = .playing) :
    pausePoint now s range =
      range.beginTime + (now - range.playbackTime) :=
  if_pos h

theorem pausePoint_paused
    (now : ℚ)
    (range : RTSPRange)
    (h : s.curState ≠ .playing) :
    pausePoint now s range = range.beginTime :=
  if_neg h

/- While the session plays, its point moves with the clock. -/
theorem pausePoint_later
    (before now : ℚ)
    (range : RTSPRange) :
    pausePoint now s range =
      pausePoint before s range +
        if s.curState = .playing then now - before else 0 := by
  unfold pausePoint
  split
  · ring
  · ring

end Play

end Feng

------------------------------------------------------------
-- Requests Around The Edit List
------------------------------------------------------------

namespace Feng

namespace Play

variable {env : Env} {req : RFC822Request} {s t u : Client}

/-
  The edit list was left alone, and so were the RTP sessions,
  but for new ones that have not played.
-/
structure Around (s t : Client) : Prop where
  ranges : t.ranges = s.ranges
  requests :
    t.playback.playRequests = s.playback.playRequests
  playing : t.curState = .playing ↔ s.curState = .playing
  sessions :
    ∀ session ∈ t.playback.rtpSessions,
      session ∈ s.playback.rtpSessions ∨
        ∃ address, NewSession address session

theorem Around.refl (s : Client) : Around s s where
  ranges := rfl
  requests := rfl
  playing := Iff.rfl
  sessions := fun _ hMem => .inl hMem

theorem Around.trans
    (hFirst : Around s t)
    (hSecond : Around t u) :
    Around s u where
  ranges := hSecond.ranges.trans hFirst.ranges
  requests := hSecond.requests.trans hFirst.requests
  playing := hSecond.playing.trans hFirst.playing
  sessions := by
    intro session hMem
    rcases hSecond.sessions session hMem with hOld | hNew
    · exact hFirst.sessions session hOld
    · exact .inr hNew

theorem Around.head_eq
    (h : Around s t) :
    head t = head s := by
  unfold head Client.headRange Client.rangeAt
  rw [h.requests, h.ranges]

theorem Around.pausePoint_eq
    (h : Around s t)
    (now : ℚ)
    (range : RTSPRange) :
    pausePoint now t range = pausePoint now s range := by
  unfold pausePoint
  simp only [h.playing]

theorem Untouched.around
    (h : Untouched s t) :
    Around s t := by
  have hState := h.curState_eq
  rcases h with ⟨rtsp, _, rfl⟩
  exact ⟨rfl, rfl, by rw [hState], fun _ hMem => .inl hMem⟩

theorem Opened.around
    (hInv : Inv s)
    (h : Opened env s t) :
    Around s t := by
  have hState := h.curState_eq
  have hSame :
      t.ranges = s.ranges ∧ t.playback = s.playback := by
    rcases h with ⟨next, _, rfl⟩
    unfold openSession
    cases hSession : s.rtsp.session with
    | none => exact ⟨rfl, (hInv.absent hSession).symm⟩
    | some session => exact ⟨rfl, rfl⟩
  refine ⟨hSame.1, by rw [hSame.2], by rw [hState], ?_⟩
  intro session hMem
  rw [hSame.2] at hMem
  exact .inl hMem

theorem Allocated.around
    (h : Allocated s t) :
    Around s t := by
  rcases h with ⟨free, channels, rfl⟩
  exact ⟨rfl, rfl, Iff.rfl, fun _ hMem => .inl hMem⟩

theorem around_joinSession
    {next : RTSPSession}
    {address : Nat}
    {session : RTPSession}
    (track : List UInt8)
    (hNext : s.rtsp.session = some next)
    (hNew : NewSession address session) :
    Around s (joinSession s next track session) where
  ranges := rfl
  requests := rfl
  playing := joinSession_curState hNext track session
  sessions := by
    intro other hMem
    rcases List.mem_append.mp hMem with hOld | hLast
    · exact .inl hOld
    · cases List.mem_singleton.mp hLast
      exact .inr ⟨address, hNew⟩

/- SETUP leaves the edit list alone. -/
theorem rtspSetup_around
    (hInv : Inv s)
    (h : rtspSetup env s req = .ok t) :
    Around s t := by
  rcases rtspSetup_cases h with
    hRefused | ⟨_, u, hOpened, hRest⟩
  · exact hRefused.untouched.around
  apply (hOpened.around hInv).trans
  rcases hRest with
    hRefused | ⟨next, v, hNext, _, hAllocated, hRest⟩
  · exact hRefused.untouched.around
  apply hAllocated.around.trans
  rcases hRest with
    ⟨hRefused, _⟩ | ⟨session, track, hNew, _, hAnswered⟩
  · exact hRefused.untouched.around
  · have hSession : v.rtsp.session = some next := by
      rcases hAllocated with ⟨free, channels, rfl⟩
      exact hNext
    exact (around_joinSession track hSession hNew).trans
      hAnswered.untouched.around

end Play

end Feng

------------------------------------------------------------
-- What A Request Does
------------------------------------------------------------

namespace Feng

namespace Play

variable {env : Env} {req : RFC822Request} {s t : Client}

/- A PLAY that gets behind its checks. -/
structure PlayPasses
    (s : Client)
    (req : RFC822Request) : Prop where
  method : req.methodId = RTSPMethod.play
  reaches : ∃ v, Reaches s req v
  url : PassesCheck req
  state : s.curState ≠ .init

instance decidablePassesCheck (req : RFC822Request) :
    Decidable (PassesCheck req) :=
  inferInstanceAs
    (Decidable
      (∃ uri ∈ req.uri, checkForbiddenPath uri = .ok true))

instance decidableReaches
    (s : Client)
    (req : RFC822Request) :
    Decidable (∃ v, Reaches s req v) :=
  decidable_of_iff
    (∃ v ∈ cseqVal req, s.rtsp.lastCseq < v ∧
      (rtspCheckSession s.rtsp req).2 = true ∧
      (rtspCheckRequiredOptions s.rtsp req).2 = true)
    ⟨fun ⟨v, hNumber, hOrder, hSession, hOptions⟩ =>
        ⟨v, hNumber, hOrder, hSession, hOptions⟩,
      fun ⟨v, h⟩ =>
        ⟨v, h.number, h.order, h.session, h.options⟩⟩

instance decidablePlayPasses
    (s : Client)
    (req : RFC822Request) :
    Decidable (PlayPasses s req) :=
  decidable_of_iff
    (req.methodId = RTSPMethod.play ∧
      (∃ v, Reaches s req v) ∧ PassesCheck req ∧
      s.curState ≠ .init)
    ⟨fun ⟨hMethod, hReaches, hUrl, hState⟩ =>
        ⟨hMethod, hReaches, hUrl, hState⟩,
      fun h => ⟨h.method, h.reaches, h.url, h.state⟩⟩

/- What is done behind the checks of a PLAY. -/
def Played
    (env : Env)
    (req : RFC822Request)
    (s t : Client) : Prop :=
  ∃ u, Worked env req s u ∧
    (¬ Resumes req u ∧ Around u t ∨
      ∃ v, RangeFixed env req u v ∧
        (Around v t ∨
          ∃ w, NowPlays env v w ∧
            (v.curState ≠ .playing → ¬ SeekFails env v) ∧
            Around w t))

/- What a request does, seen from the edit list. -/
inductive Moved
    (env : Env)
    (req : RFC822Request)
    (s t : Client) : Prop where
| around :
    Around s t → ¬ PlayPasses s req → Moved env req s t
| paused (address : Nat) (range : RTSPRange) :
    req.methodId = RTSPMethod.pause →
    s.curState = .playing →
    s.headRange = some address →
    s.rangeAt address = some range →
    Around (pausedAt env.evNow s address range) t →
      Moved env req s t
| ended :
    req.methodId = RTSPMethod.teardown →
    t.playback = Playback.empty →
    t.curState ≠ .playing → Moved env req s t
| played (u : Client) :
    PlayPasses s req → Untouched s u →
    Played env req u t → Moved env req s t

theorem playChecked_played
    (h : playChecked env s req = .ok t) :
    Played env req s t := by
  rcases playChecked_cases h with ⟨u, hWorked, hRest⟩
  refine ⟨u, hWorked, ?_⟩
  rcases hRest with ⟨hNot, hRefused⟩ | ⟨v, hFixed, hRest⟩
  · exact .inl ⟨hNot.1, hRefused.untouched.around⟩
  refine .inr ⟨v, hFixed, ?_⟩
  rcases hRest with
    ⟨_, _, hRefused⟩ | ⟨w, hPlays, hSeeks, hReplied⟩
  · exact .inl hRefused.untouched.around
  · rcases hReplied with ⟨range, _, rfl⟩
    exact .inr ⟨w, hPlays, hSeeks, rfl, rfl, Iff.rfl,
      fun _ hMem => .inl hMem⟩

theorem callMethod_play
    (hMethod : req.methodId = RTSPMethod.play) :
    callMethod env s req = rtspPlay env s req := by
  unfold callMethod
  rw [hMethod]
  rfl

theorem callMethod_moves
    {v : Nat}
    (hInv : Inv s)
    (hReaches : Reaches s req v)
    (hNot : ¬ PlayPasses s req)
    (h : callMethod env (numbered s v) req = .ok t) :
    Moved env req s t := by
  have hNumbered : Around s (numbered s v) :=
    (numbered_untouched s v).around
  have hRefused :
      ∀ {u}, Refused req (numbered s v) u →
        Moved env req s u := by
    intro u hRefused
    exact .around
      (hNumbered.trans hRefused.untouched.around) hNot
  rcases callMethod_cases h with
    ⟨_, hDone | hAnswered⟩ | ⟨_, hSetup⟩ | ⟨hMethod, hPlay⟩ |
    ⟨hMethod, hPause⟩ | ⟨hMethod, hTeardown⟩
  · exact hRefused hDone
  · exact .around
      (hNumbered.trans hAnswered.untouched.around) hNot
  · have hInvNumbered : Inv (numbered s v) :=
      hInv.untouched (numbered_untouched s v)
    exact .around
      (hNumbered.trans (rtspSetup_around hInvNumbered hSetup))
      hNot
  · rcases rtspPlay_cases hPlay with
      hDone | ⟨hPasses, hState, _⟩
    · exact hRefused hDone
    · exact absurd ⟨hMethod, ⟨v, hReaches⟩, hPasses, hState⟩
        hNot
  · rcases rtspPause_cases hPause with
      hDone | ⟨_, hPlaying, u, hPaused, rfl⟩
    · exact hRefused hDone
    · rcases rtspDoPause_cases hPaused with
        ⟨_, address, range, _, hHead, hRange, rfl⟩
      have hSame :=
        (answered_quick req
          (pausedAt env.evNow (numbered s v) address range)
          200).untouched.around
      refine .paused address range hMethod hPlaying hHead
        hRange ?_
      exact ⟨hSame.ranges, hSame.requests, hSame.playing,
        hSame.sessions⟩
  · rcases rtspTeardown_cases hTeardown with
      hDone | ⟨_, hAnswered⟩
    · exact hRefused hDone
    · have hState := hAnswered.untouched.curState_eq
      rcases hAnswered.untouched with ⟨rtsp, _, rfl⟩
      refine .ended hMethod rfl ?_
      rw [hState]
      exact (by decide : RTSPServerState.init ≠ .playing)

theorem Moved.finished
    (h : Moved env req s t) :
    Moved env req s (finished t) := by
  have hSame := (finished_untouched t).around
  cases h with
  | around hAround hNot =>
      exact .around (hAround.trans hSame) hNot
  | paused address range hMethod hState hHead hRange hAround =>
      exact .paused address range hMethod hState hHead hRange
        (hAround.trans hSame)
  | ended hMethod hPlayback hState =>
      exact .ended hMethod hPlayback hState
  | played u hPasses hUntouched hPlayed =>
      refine .played u hPasses hUntouched ?_
      rcases hPlayed with ⟨v, hWorked, hRest⟩
      refine ⟨v, hWorked, ?_⟩
      rcases hRest with ⟨hNot, hAround⟩ | ⟨w, hFixed, hRest⟩
      · exact .inl ⟨hNot, hAround.trans hSame⟩
      refine .inr ⟨w, hFixed, ?_⟩
      rcases hRest with hAround | ⟨x, hPlays, hSeeks, hAround⟩
      · exact .inl (hAround.trans hSame)
      · exact .inr ⟨x, hPlays, hSeeks, hAround.trans hSame⟩

/- What handling a request does, seen from the edit list. -/
theorem request_moves
    (hInv : Inv s)
    (h : rtspHandleRequest env s req = .ok t) :
    Moved env req s t := by
  by_cases hPasses : PlayPasses s req
  · rcases hPasses.reaches with ⟨v, hReaches⟩
    have hEq :
        callMethod env (numbered s v) req =
          playChecked env (numbered s v) req := by
      rw [callMethod_play hPasses.method]
      exact rtspPlay_eq hPasses.url hPasses.state
    rw [rtspHandleRequest_eq hReaches, hEq] at h
    cases hChecked : playChecked env (numbered s v) req with
    | error fault =>
        rw [hChecked] at h
        cases h
    | ok u =>
        rw [hChecked] at h
        cases h
        have hMoved : Moved env req s u :=
          .played (numbered s v) hPasses
            (numbered_untouched s v)
            (playChecked_played hChecked)
        exact hMoved.finished
  · rcases rtspHandleRequest_cases h with
      ⟨_, u, hRefused, rfl⟩ | ⟨v, _, _, rfl⟩ |
      ⟨v, u, _, _, hRefused, rfl⟩ |
      ⟨v, u, hReaches, hMethod, rfl⟩
    · have hMoved : Moved env req s u :=
        .around hRefused.untouched.around hPasses
      exact hMoved.finished
    · exact .around (finished_untouched s).around hPasses
    · have hMoved : Moved env req s u :=
        .around ((numbered_untouched s v).around.trans
          hRefused.untouched.around) hPasses
      exact hMoved.finished
    · exact (callMethod_moves hInv hReaches hPasses
        hMethod).finished

end Play

end Feng

------------------------------------------------------------
-- Pieces Of A PLAY
------------------------------------------------------------

namespace Feng

namespace Play

variable {env : Env} {req : RFC822Request} {s t : Client}
variable {range : RTSPRange} {address : Nat} {now : ℚ}

theorem head_setRange
    (next : RTSPRange)
    (hHead : s.headRange = some address)
    (hRange : s.rangeAt address = some range) :
    head (s.setRange address next) = some next :=
  head_eq_some.mpr
    ⟨address, hHead, rangeAt_setRange_eq next hRange⟩

/- PAUSE records the point that the session is at. -/
theorem head_pausedAt
    (hHead : s.headRange = some address)
    (hRange : s.rangeAt address = some range) :
    head (pausedAt now s address range) =
      some (pausedRange now range) :=
  head_setRange (pausedRange now range) hHead hRange

theorem pausedAt_curState
    (hPlaying : s.curState = .playing) :
    (pausedAt now s address range).curState = .ready := by
  have hState : s.curState ≠ .init := by
    rw [hPlaying]
    decide
  rcases curState_ne_init hState with ⟨session, hSession⟩
  have hSame :
      ({ (s.setRange address
          (pausedRange now range)).setSessions
          (s.playback.rtpSessions.map rtpSessionPause) with
        evTimeout := false } : Client).rtsp.session =
          some session := hSession
  exact curState_setState hSame .ready

theorem pausedRange_beginTime
    (hPlaying : s.curState = .playing) :
    (pausedRange now range).beginTime =
      pausePoint now s range := by
  rw [pausePoint_playing now range hPlaying]
  rfl

/- After the workaround the session is at the same point. -/
theorem Worked.pausePoint_eq
    (hHead : head s = some range)
    (h : Worked env req s t) :
    ∃ next, head t = some next ∧
      pausePoint env.evNow t next =
        pausePoint env.evNow s range ∧
      (t.curState = .playing →
        t = s ∧ next = range ∧ vlcUserAgent req = false) := by
  rcases h with ⟨hNot, rfl⟩ | ⟨hPlaying, _, hPause⟩
  · refine ⟨range, hHead, rfl, ?_⟩
    intro hPlaying
    refine ⟨rfl, rfl, ?_⟩
    by_contra hVlc
    exact hNot ⟨hPlaying, by simpa using hVlc⟩
  · have hReady := rtspDoPause_curState hPause
    have hStopped : t.curState ≠ .playing := by
      rw [hReady]
      decide
    rcases rtspDoPause_cases hPause with
      ⟨_, address, other, _, hAddress, hRange, rfl⟩
    have hSame : other = range := by
      have hOther : head s = some other :=
        head_eq_some.mpr ⟨address, hAddress, hRange⟩
      rw [hHead] at hOther
      exact (Option.some.inj hOther).symm
    subst hSame
    refine ⟨_, head_pausedAt hAddress hRange, ?_, ?_⟩
    · rw [pausePoint_paused _ _ hStopped]
      exact pausedRange_beginTime hPlaying
    · intro hNow
      exact absurd hNow hStopped

/- A PLAY without a range only sets the time it starts at. -/
theorem RangeFixed.head_eq
    (hHead : head s = some range)
    (hHeader :
      rfc822HeadersLookup req.headers .range = none)
    (h : RangeFixed env req s t) :
    head t = some { range with playbackTime := env.evNow } := by
  rcases head_eq_some.mp hHead with ⟨address, hAddress, hRange⟩
  rcases h with
    ⟨_, other, fixed, hOther, hFixed, rfl⟩ | ⟨hNot, _⟩
  · have hSame : some address = some other :=
      hAddress.symm.trans hOther
    cases hSame
    have hSame : some range = some fixed :=
      hRange.symm.trans hFixed
    cases hSame
    exact head_setRange _ hAddress hRange
  · refine absurd ⟨hHeader, ?_⟩ hNot
    rw [hAddress]
    exact Option.some_ne_none address

theorem NowPlays.head_eq
    (h : NowPlays env s t) :
    head t = head s := by
  rcases h with
    ⟨_, rfl⟩ | ⟨_, ⟨_, rfl⟩ | ⟨_, address, range, _, _, rfl⟩⟩
  · rfl
  · rfl
  · rfl

end Play

end Feng
