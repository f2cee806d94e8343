import Feng.Play.Cases

/-
  What holds of a client between two events, whatever requests
  it sends and whenever its writers and its timer go off: the
  state of its session, its edit list and the writers that are
  armed fit together.

  Key definitions include:
    * `Play.Kept`
    * `Play.SessionInvariant`
    * `Play.Inv`

  Key theorems include:
    * `Play.Kept.request`
    * `Play.step_inv`
    * `Play.session_invariant`
-/

------------------------------------------------------------
-- The Pieces Of A Request
------------------------------------------------------------

namespace Feng

namespace Play

variable {env : Env} {req : RFC822Request} {s t : Client}
variable {I : Client → Prop}

/-
  A property that every piece of a request preserves, but for
  the end of the session.
-/
structure Kept
    (env : Env)
    (req : RFC822Request)
    (I : Client → Prop) : Prop where
  untouched : ∀ {s t}, Untouched s t → I s → I t
  opened : ∀ {s t}, Opened env s t → I s → I t
  allocated : ∀ {s t}, Allocated s t → I s → I t
  joined :
    ∀ {s t next track session},
      s.rtsp.session = some next →
      next.resource.isSome = true → Allocated s t →
      NewSession s.nextAddress session → I s →
        I (joinSession t next track session)
  paused :
    ∀ {s t now}, s.curState = .playing →
      rtspDoPause now s = .ok t → I s → I t
  fixed :
    ∀ {s t}, s.curState ≠ .init →
      RangeFixed env req s t → I s → I t
  plays :
    ∀ {s t}, s.curState ≠ .init → s.headRange ≠ none →
      NowPlays env s t → I s → I t
  armed :
    ∀ {s}, s.curState = .playing → I s →
      I { s with evTimeout := true }

theorem curState_setState
    {session : RTSPSession}
    (hSession : s.rtsp.session = some session)
    (state : RTSPServerState) :
    (s.setState state).curState = state := by
  simp [Client.curState, Client.setState,
    RTSPClient.curState, hSession]

theorem curState_ne_init
    (hState : s.curState ≠ .init) :
    ∃ session, s.rtsp.session = some session := by
  cases hSession : s.rtsp.session with
  | none =>
      simp [Client.curState, RTSPClient.curState,
        hSession] at hState
  | some session => exact ⟨session, rfl⟩

theorem rtspDoPause_curState
    {now : ℚ}
    (h : rtspDoPause now s = .ok t) :
    t.curState = .ready := by
  rcases rtspDoPause_cases h with
    ⟨session, address, range, hSession, _, _, rfl⟩
  have hSame :
      ({ (s.setRange address
          (pausedRange now range)).setSessions
          (s.playback.rtpSessions.map rtpSessionPause) with
        evTimeout := false } : Client).rtsp.session =
          some session := hSession
  exact curState_setState hSame .ready

theorem Worked.curState_ne
    (hState : s.curState ≠ .init)
    (h : Worked env req s t) :
    t.curState ≠ .init := by
  rcases h with ⟨_, rfl⟩ | ⟨_, _, hPause⟩
  · exact hState
  · rw [rtspDoPause_curState hPause]
    decide

theorem queueRange_rtsp
    (env : Env)
    (s : Client)
    (range : RTSPRange) :
    (queueRange env s range).rtsp = s.rtsp := by
  unfold queueRange
  simp only
  split
  · rfl
  · rfl

theorem RangeFixed.rtsp_eq
    (h : RangeFixed env req s t) :
    t.rtsp = s.rtsp := by
  rcases h with
    ⟨_, address, range, _, _, rfl⟩ | ⟨_, range, _, rfl⟩
  · rfl
  · exact queueRange_rtsp env s range

theorem RangeFixed.curState_eq
    (h : RangeFixed env req s t) :
    t.curState = s.curState := by
  unfold Client.curState
  rw [h.rtsp_eq]

/- Afterwards there is a range to play. -/
theorem RangeFixed.headRange_ne
    (h : RangeFixed env req s t) :
    t.headRange ≠ none := by
  rcases h with
    ⟨hResumes, address, range, _, _, rfl⟩ | ⟨_, range, _, rfl⟩
  · exact hResumes.2
  · unfold queueRange rtspSessionEditlistAppend
      Client.headRange
    simp

theorem NowPlays.curState_eq
    (hState : s.curState ≠ .init)
    (h : NowPlays env s t) :
    t.curState = .playing := by
  rcases curState_ne_init hState with ⟨session, hSession⟩
  rcases h with
    ⟨hPlaying, rfl⟩ |
    ⟨_, ⟨_, rfl⟩ | ⟨_, address, range, _, _, rfl⟩⟩
  · exact hPlaying
  · exact curState_setState hSession .playing
  · exact curState_setState hSession .playing

theorem Kept.playChecked
    (hKept : Kept env req I)
    (hState : s.curState ≠ .init)
    (h : playChecked env s req = .ok t)
    (hI : I s) :
    I t := by
  rcases playChecked_cases h with ⟨u, hWorked, hRest⟩
  have hStateU := hWorked.curState_ne hState
  have hU : I u := by
    rcases hWorked with ⟨_, rfl⟩ | ⟨hPlaying, _, hPause⟩
    · exact hI
    · exact hKept.paused hPlaying hPause hI
  rcases hRest with ⟨_, hRefused⟩ | ⟨v, hFixed, hRest⟩
  · exact hKept.untouched hRefused.untouched hU
  have hStateV : v.curState ≠ .init := by
    rw [hFixed.curState_eq]
    exact hStateU
  have hV := hKept.fixed hStateU hFixed hU
  rcases hRest with
    ⟨_, _, hRefused⟩ | ⟨w, hPlays, _, hReplied⟩
  · exact hKept.untouched hRefused.untouched hV
  have hW := hKept.plays hStateV hFixed.headRange_ne hPlays hV
  rcases hReplied with ⟨range, _, rfl⟩
  have hSent :
      Untouched w (w.send (playReply w req range)) :=
    ⟨(w.send (playReply w req range)).rtsp, rfl, rfl⟩
  have hPlaying : w.curState = .playing :=
    hPlays.curState_eq hStateV
  exact hKept.armed hPlaying (hKept.untouched hSent hW)

/- The request is a TEARDOWN that passes the check. -/
def EndsSession (req : RFC822Request) : Prop :=
  req.methodId = RTSPMethod.teardown ∧ PassesCheck req

theorem Kept.callMethod
    (hKept : Kept env req I)
    (hEnd : EndsSession req → I s → I (tornDown s))
    (h : callMethod env s req = .ok t)
    (hI : I s) :
    I t := by
  rcases callMethod_cases h with
    ⟨_, hRefused | hAnswered⟩ | ⟨_, hSetup⟩ | ⟨_, hPlay⟩ |
    ⟨_, hPause⟩ | ⟨hMethod, hTeardown⟩
  · exact hKept.untouched hRefused.untouched hI
  · exact hKept.untouched hAnswered.untouched hI
  · rcases rtspSetup_cases hSetup with
      hRefused | ⟨_, u, hOpened, hRefused |
        ⟨next, v, hNext, hResource, hAllocated,
          ⟨hRefused, _⟩ |
            ⟨session, track, hNew, _, hAnswered⟩⟩⟩
    · exact hKept.untouched hRefused.untouched hI
    · exact hKept.untouched hRefused.untouched
        (hKept.opened hOpened hI)
    · exact hKept.untouched hRefused.untouched
        (hKept.allocated hAllocated (hKept.opened hOpened hI))
    · exact hKept.untouched hAnswered.untouched
        (hKept.joined hNext hResource hAllocated hNew
          (hKept.opened hOpened hI))
  · rcases rtspPlay_cases hPlay with
      hRefused | ⟨_, hState, hChecked⟩
    · exact hKept.untouched hRefused.untouched hI
    · exact hKept.playChecked hState hChecked hI
  · rcases rtspPause_cases hPause with
      hRefused | ⟨_, hPlaying, u, hDone, rfl⟩
    · exact hKept.untouched hRefused.untouched hI
    · exact hKept.untouched
        (answered_quick req u 200).untouched
        (hKept.paused hPlaying hDone hI)
  · rcases rtspTeardown_cases hTeardown with
      hRefused | ⟨hPasses, hAnswered⟩
    · exact hKept.untouched hRefused.untouched hI
    · exact hKept.untouched hAnswered.untouched
        (hEnd ⟨hMethod, hPasses⟩ hI)

/- What every piece preserves, every request preserves. -/
theorem Kept.request
    (hKept : Kept env req I)
    (hEnd :
      ∀ v, Reaches s req v → EndsSession req →
        I (numbered s v) → I (tornDown (numbered s v)))
    (h : rtspHandleRequest env s req = .ok t)
    (hI : I s) :
    I t := by
  rcases rtspHandleRequest_cases h with
    ⟨_, u, hRefused, rfl⟩ | ⟨v, _, _, rfl⟩ |
    ⟨v, u, _, _, hRefused, rfl⟩ |
    ⟨v, u, hReaches, hMethod, rfl⟩
  · exact hKept.untouched
      (hRefused.untouched.trans (finished_untouched u)) hI
  · exact hKept.untouched (finished_untouched s) hI
  · exact hKept.untouched
      (((numbered_untouched s v).trans
        hRefused.untouched).trans (finished_untouched u)) hI
  · exact hKept.untouched (finished_untouched u)
      (hKept.callMethod (hEnd v hReaches) hMethod
        (hKept.untouched (numbered_untouched s v) hI))

end Play

end Feng

------------------------------------------------------------
-- The Invariant
------------------------------------------------------------

namespace Feng

namespace Play

/-
  The state of the session, its edit list and the writers that
  are armed fit together, and the head range is not freed.
-/
structure SessionInvariant (s : Client) : Prop where
  opened :
    s.curState ≠ .init →
      hasResource s = true ∧ s.playback.rtpSessions ≠ []
  ranged :
    s.curState = .playing → s.playback.playRequests ≠ []
  armed :
    ∀ session ∈ s.playback.rtpSessions,
      session.rtpWriter ≠ none →
        s.curState = .playing ∧ session.range = s.headRange
  head :
    ∀ address, s.headRange = some address →
      s.rangeAt address ≠ none

/-
  No range of the edit list is freed, and without a session
  there is nothing to play.
-/
structure Inv (s : Client) : Prop extends
    SessionInvariant s where
  live :
    ∀ address ∈ s.playback.playRequests,
      s.rangeAt address ≠ none
  absent :
    s.rtsp.session = none → s.playback = Playback.empty

theorem inv_clientNew : Inv clientNew where
  opened := by
    intro h
    exact absurd rfl h
  ranged := by
    intro h
    cases h
  armed := by
    intro session hMem
    cases hMem
  head := by
    intro address h
    cases h
  live := by
    intro address hMem
    cases hMem
  absent := by
    intro _
    rfl

end Play

end Feng

------------------------------------------------------------
-- Ranges That Are There
------------------------------------------------------------

namespace Feng

namespace Play

variable {env : Env} {req : RFC822Request} {s t : Client}
variable {address other : Nat} {range : RTSPRange}

theorem rangeAt_setRange
    (hLive : s.rangeAt address ≠ none) :
    (s.setRange other range).rangeAt address ≠ none := by
  unfold Client.rangeAt Client.setRange at *
  simp only [List.getElem?_set]
  split
  · split
    · simp
    · rename_i hEq hBound
      subst hEq
      rw [List.getElem?_eq_none (not_lt.mp hBound)] at hLive
      exact absurd rfl hLive
  · exact hLive

theorem rangeAt_append
    (hLive : s.rangeAt address ≠ none) :
    (rtspSessionEditlistAppend s range).rangeAt address ≠
      none := by
  have hBound : address < s.ranges.length := by
    by_contra hNot
    apply hLive
    unfold Client.rangeAt
    rw [List.getElem?_eq_none (not_lt.mp hNot)]
    rfl
  unfold Client.rangeAt rtspSessionEditlistAppend at *
  rw [List.getElem?_append_left hBound]
  exact hLive

theorem rangeAt_append_new
    (s : Client)
    (range : RTSPRange) :
    (rtspSessionEditlistAppend s range).rangeAt
        s.ranges.length =
      some range := by
  unfold Client.rangeAt rtspSessionEditlistAppend
  simp

/- The head of the edit list is one of its ranges. -/
theorem headRange_mem
    (hHead : s.headRange = some address) :
    address ∈ s.playback.playRequests :=
  List.mem_of_mem_head? hHead

end Play

end Feng

------------------------------------------------------------
-- Requests Keep The Invariant
------------------------------------------------------------

namespace Feng

namespace Play

variable {env : Env} {req : RFC822Request} {s t : Client}

theorem Untouched.curState_eq
    (h : Untouched s t) :
    t.curState = s.curState := by
  rcases h with ⟨rtsp, hSession, rfl⟩
  simp only [Client.curState, RTSPClient.curState, hSession]

theorem Untouched.hasResource_eq
    (h : Untouched s t) :
    hasResource t = hasResource s := by
  rcases h with ⟨rtsp, hSession, rfl⟩
  simp only [hasResource, hSession]

theorem Inv.untouched
    (h : Untouched s t)
    (hInv : Inv s) :
    Inv t := by
  have hState := h.curState_eq
  have hResource := h.hasResource_eq
  rcases h with ⟨rtsp, hSession, rfl⟩
  refine ⟨⟨?_, ?_, ?_, hInv.head⟩, hInv.live, ?_⟩
  · rw [hState, hResource]
    exact hInv.opened
  · rw [hState]
    exact hInv.ranged
  · intro session hMem hArmed
    rw [hState]
    exact hInv.armed session hMem hArmed
  · intro hNone
    exact hInv.absent (hSession.symm.trans hNone)

theorem Inv.opened_session
    (h : Opened env s t)
    (hInv : Inv s) :
    Inv t := by
  rcases h with ⟨next, hNext, rfl⟩
  unfold openSession at hNext ⊢
  cases hSession : s.rtsp.session with
  | none =>
      simp only [hSession] at hNext ⊢
      have hState : next.curState = .init := by
        rcases hNext with rfl | ⟨_, resource, rfl⟩
        · rfl
        · rfl
      refine ⟨⟨?_, ?_, ?_, ?_⟩, ?_, ?_⟩
      · intro hNot
        exact absurd hState hNot
      · intro hPlaying
        have hEq := hState.symm.trans hPlaying
        cases hEq
      · intro session hMem
        cases hMem
      · intro address hHead
        cases hHead
      · intro address hMem
        cases hMem
      · intro hNone
        cases hNone
  | some session =>
      simp only [hSession] at hNext ⊢
      have hOld : s.curState = session.curState := by
        simp [Client.curState, RTSPClient.curState, hSession]
      have hState : next.curState = s.curState := by
        rcases hNext with rfl | ⟨_, resource, rfl⟩
        · exact hOld.symm
        · exact hOld.symm
      have hResource :
          session.resource.isSome = true →
            next.resource.isSome = true := by
        intro hSome
        rcases hNext with rfl | ⟨_, resource, rfl⟩
        · exact hSome
        · rfl
      refine ⟨⟨?_, ?_, ?_, hInv.head⟩, hInv.live, ?_⟩
      · intro hNot
        have hOldNot : s.curState ≠ .init := by
          rw [← hState]
          exact hNot
        rcases hInv.opened hOldNot with ⟨hHas, hNonempty⟩
        refine ⟨?_, hNonempty⟩
        apply hResource
        simpa [hasResource, hSession] using hHas
      · intro hPlaying
        exact hInv.ranged (hState.symm.trans hPlaying)
      · intro other hMem hArmed
        rcases hInv.armed other hMem hArmed with
          ⟨hPlaying, hRange⟩
        exact ⟨hState.trans hPlaying, hRange⟩
      · intro hNone
        cases hNone

theorem Inv.allocated
    (h : Allocated s t)
    (hInv : Inv s) :
    Inv t := by
  rcases h with ⟨free, channels, rfl⟩
  exact ⟨⟨hInv.opened, hInv.ranged, hInv.armed, hInv.head⟩,
    hInv.live, hInv.absent⟩

theorem joinSession_curState
    {next : RTSPSession}
    (hNext : s.rtsp.session = some next)
    (track : List UInt8)
    (session : RTPSession) :
    (joinSession s next track session).curState = .playing ↔
      s.curState = .playing := by
  have hOld : s.curState = next.curState := by
    simp [Client.curState, RTSPClient.curState, hNext]
  rw [hOld]
  cases hState : next.curState with
  | init =>
      simp [joinSession, Client.curState,
        RTSPClient.curState, Client.setSessions, hState]
  | ready =>
      simp [joinSession, Client.curState,
        RTSPClient.curState, Client.setSessions, hState]
  | playing =>
      simp [joinSession, Client.curState,
        RTSPClient.curState, Client.setSessions, hState]

theorem Inv.joined
    {next : RTSPSession}
    {track : List UInt8}
    {session : RTPSession}
    (hNext : s.rtsp.session = some next)
    (hResource : next.resource.isSome = true)
    (h : Allocated s t)
    (hNew : NewSession s.nextAddress session)
    (hInv : Inv s) :
    Inv (joinSession t next track session) := by
  rcases h with ⟨free, channels, rfl⟩
  have hPlays := joinSession_curState hNext track session
  refine ⟨⟨?_, ?_, ?_, hInv.head⟩, hInv.live, ?_⟩
  · intro _
    exact ⟨hResource, by simp [joinSession,
      Client.setSessions]⟩
  · intro hPlaying
    exact hInv.ranged (hPlays.mp hPlaying)
  · intro other hMem hArmed
    rcases List.mem_append.mp hMem with hMem | hMem
    · rcases hInv.armed other hMem hArmed with
        ⟨hPlaying, hRange⟩
      exact ⟨hPlays.mpr hPlaying, hRange⟩
    · cases List.mem_singleton.mp hMem
      exact absurd hNew.rtpWriter hArmed
  · intro hNone
    cases hNone

theorem Inv.paused
    {now : ℚ}
    (hPlaying : s.curState = .playing)
    (h : rtspDoPause now s = .ok t)
    (hInv : Inv s) :
    Inv t := by
  have hState := rtspDoPause_curState h
  rcases rtspDoPause_cases h with
    ⟨session, address, range, hSession, hHead, _, rfl⟩
  have hNot : s.curState ≠ .init := by
    rw [hPlaying]
    decide
  rcases hInv.opened hNot with ⟨hResource, hNonempty⟩
  refine ⟨⟨?_, ?_, ?_, ?_⟩, ?_, ?_⟩
  · intro _
    constructor
    · simpa [hasResource, pausedAt, Client.setState,
        Client.setSessions, Client.setRange, hSession]
        using hResource
    · simpa [pausedAt, Client.setState, Client.setSessions,
        Client.setRange] using hNonempty
  · intro hPlaying
    rw [hState] at hPlaying
    cases hPlaying
  · intro other hMem hArmed
    rcases List.mem_map.mp hMem with ⟨old, _, rfl⟩
    exact absurd rfl hArmed
  · intro other hOther
    exact rangeAt_setRange (hInv.head other hOther)
  · intro other hMem
    exact rangeAt_setRange (hInv.live other hMem)
  · intro hNone
    simp [pausedAt, Client.setState, Client.setSessions,
      Client.setRange, hSession] at hNone

theorem Inv.tornDown (s : Client) : Inv (tornDown s) := by
  refine ⟨⟨?_, ?_, ?_, ?_⟩, ?_, ?_⟩
  · intro hNot
    exact absurd rfl hNot
  · intro hPlaying
    cases hPlaying
  · intro session hMem
    cases hMem
  · intro address hHead
    cases hHead
  · intro address hMem
    cases hMem
  · intro _
    rfl

/- A new range joins the edit list, or replaces it. -/
theorem Inv.queued
    (range : RTSPRange)
    (hState : s.curState ≠ .init)
    (hInv : Inv s) :
    Inv (queueRange env s range) := by
  have hRtsp := queueRange_rtsp env s range
  have hSame :
      (queueRange env s range).curState = s.curState := by
    unfold Client.curState
    rw [hRtsp]
  rcases curState_ne_init hState with ⟨session, hSession⟩
  by_cases hPlaying : s.curState = .playing
  · have hNonempty := hInv.ranged hPlaying
    have hEq :
        queueRange env s range =
          rtspSessionEditlistAppend s
            (completeRange env range) := by
      unfold queueRange
      rw [if_neg (not_not.mpr hPlaying)]
    rw [hEq] at hRtsp hSame ⊢
    have hHead :
        (rtspSessionEditlistAppend s
          (completeRange env range)).headRange =
            s.headRange := by
      unfold Client.headRange rtspSessionEditlistAppend
      exact List.head?_append_of_ne_nil _ hNonempty
    have hLive :
        ∀ address ∈ (rtspSessionEditlistAppend s
          (completeRange env range)).playback.playRequests,
          (rtspSessionEditlistAppend s
            (completeRange env range)).rangeAt address ≠
              none := by
      intro address hMem
      rcases List.mem_append.mp hMem with hOld | hNew
      · exact rangeAt_append (hInv.live address hOld)
      · rw [List.mem_singleton.mp hNew, rangeAt_append_new]
        exact Option.some_ne_none _
    refine ⟨⟨?_, ?_, ?_, ?_⟩, hLive, ?_⟩
    · intro _
      exact hInv.opened hState
    · intro _
      simp [rtspSessionEditlistAppend]
    · intro other hMem hArmed
      rw [hHead]
      exact hInv.armed other hMem hArmed
    · intro address hAddress
      exact hLive address (headRange_mem hAddress)
    · intro hNone
      have hNone : s.rtsp.session = none := hNone
      rw [hSession] at hNone
      cases hNone
  · have hEq :
        queueRange env s range =
          rtspSessionEditlistAppend (rtspSessionEditlistFree s)
            (completeRange env range) := by
      unfold queueRange
      rw [if_pos hPlaying]
    rw [hEq] at hRtsp hSame ⊢
    have hLive :
        ∀ address ∈ (rtspSessionEditlistAppend
          (rtspSessionEditlistFree s)
          (completeRange env range)).playback.playRequests,
          (rtspSessionEditlistAppend
            (rtspSessionEditlistFree s)
            (completeRange env range)).rangeAt address ≠
              none := by
      intro address hMem
      rcases List.mem_append.mp hMem with hOld | hNew
      · cases hOld
      · rw [List.mem_singleton.mp hNew, rangeAt_append_new]
        exact Option.some_ne_none _
    refine ⟨⟨?_, ?_, ?_, ?_⟩, hLive, ?_⟩
    · intro _
      exact hInv.opened hState
    · intro hNow
      exact absurd (hSame.symm.trans hNow) hPlaying
    · intro other hMem hArmed
      exact absurd (hInv.armed other hMem hArmed).1 hPlaying
    · intro address hAddress
      exact hLive address (headRange_mem hAddress)
    · intro hNone
      have hNone : s.rtsp.session = none := hNone
      rw [hSession] at hNone
      cases hNone

theorem Inv.fixed
    (hState : s.curState ≠ .init)
    (h : RangeFixed env req s t)
    (hInv : Inv s) :
    Inv t := by
  rcases h with
    ⟨_, address, range, _, _, rfl⟩ | ⟨_, range, _, rfl⟩
  · refine ⟨⟨hInv.opened, hInv.ranged, hInv.armed, ?_⟩, ?_,
      hInv.absent⟩
    · intro other hOther
      exact rangeAt_setRange (hInv.head other hOther)
    · intro other hMem
      exact rangeAt_setRange (hInv.live other hMem)
  · exact hInv.queued range hState

/- The session plays; its RTP sessions may be resumed. -/
theorem Inv.plays
    (hState : s.curState ≠ .init)
    (hHead : s.headRange ≠ none)
    (h : NowPlays env s t)
    (hInv : Inv s) :
    Inv t := by
  have hPlaying := h.curState_eq hState
  have hNonempty : s.playback.playRequests ≠ [] := by
    intro hEmpty
    apply hHead
    unfold Client.headRange
    rw [hEmpty]
    rfl
  rcases curState_ne_init hState with ⟨session, hSession⟩
  rcases hInv.opened hState with ⟨hResource, hSessions⟩
  have hStill :
      hasResource (s.setState .playing) = true := by
    simpa [hasResource, Client.setState, hSession]
      using hResource
  have hSome :
      (s.setState .playing).rtsp.session ≠ none := by
    simp [Client.setState, hSession]
  rcases h with
    ⟨_, rfl⟩ | ⟨hNot, ⟨_, rfl⟩ | ⟨_, address, range, hAt, _, rfl⟩⟩
  · exact hInv
  · refine ⟨⟨?_, ?_, ?_, hInv.head⟩, hInv.live, ?_⟩
    · intro _
      exact ⟨hStill, hSessions⟩
    · intro _
      exact hNonempty
    · intro other hMem hArmed
      exact absurd (hInv.armed other hMem hArmed).1 hNot
    · intro hNone
      exact absurd hNone hSome
  · refine ⟨⟨?_, ?_, ?_, hInv.head⟩, hInv.live, ?_⟩
    · intro _
      refine ⟨hStill, ?_⟩
      simpa [startedAt] using hSessions
    · intro _
      exact hNonempty
    · intro other hMem _
      rcases List.mem_map.mp hMem with ⟨old, _, rfl⟩
      exact ⟨hPlaying, hAt.symm⟩
    · intro hNone
      exact absurd hNone hSome

/- Every piece of a request keeps the invariant. -/
theorem inv_kept (env : Env) (req : RFC822Request) :
    Kept env req Inv where
  untouched := fun h hInv => hInv.untouched h
  opened := fun h hInv => hInv.opened_session h
  allocated := fun h hInv => hInv.allocated h
  joined := fun hNext hResource h hNew hInv =>
    hInv.joined hNext hResource h hNew
  paused := fun hPlaying h hInv => hInv.paused hPlaying h
  fixed := fun hState h hInv => hInv.fixed hState h
  plays := fun hState hHead h hInv =>
    hInv.plays hState hHead h
  armed := fun _ hInv =>
    ⟨⟨hInv.opened, hInv.ranged, hInv.armed, hInv.head⟩,
      hInv.live, hInv.absent⟩

end Play

end Feng

------------------------------------------------------------
-- Writers And The Timer
------------------------------------------------------------

namespace Feng

namespace Play

variable {s t : Client} {session next : RTPSession}

/- What the writer leaves of its RTP session. -/
theorem rtpWriteCb_cases
    {env : WriterEnv}
    {due : ℚ}
    (h : rtpWriteCb env s session due = .ok next) :
    next.address = session.address ∧
      next.range = session.range := by
  unfold rtpWriteCb at h
  split at h
  · split at h
    · cases h
    · cases h
      exact ⟨rfl, rfl⟩
  · split at h
    · split at h
      · split at h
        · cases h
        · cases h
          exact ⟨rfl, rfl⟩
      · cases h
        exact ⟨rfl, rfl⟩
    · split at h
      · cases h
      · cases h
        unfold rtpPacketSend
        split
        · exact ⟨rfl, rfl⟩
        · exact ⟨rfl, rfl⟩

theorem sessionAt_mem
    {address : Nat}
    (h : sessionAt s address = some session) :
    session ∈ s.playback.rtpSessions ∧
      session.address = address := by
  unfold sessionAt at h
  refine ⟨List.mem_of_find?_eq_some h, ?_⟩
  simpa using List.find?_some h

/- What a writer that goes off does to its client. -/
theorem writeStep_cases
    {env : WriterEnv}
    {address : Nat}
    (h : writeStep env s address = .ok t) :
    t = s ∨ ∃ session due next,
      sessionAt s address = some session ∧
      session.rtpWriter = some due ∧
      rtpWriteCb env s session due = .ok next ∧
      t = updateSession s next := by
  unfold writeStep at h
  split at h
  · cases h
    exact .inl rfl
  · rename_i session hSession
    split at h
    · cases h
      exact .inl rfl
    · rename_i due hDue
      split at h
      · cases h
      · rename_i next hNext
        cases h
        exact .inr
          ⟨session, due, next, hSession, hDue, hNext, rfl⟩

theorem mem_updateSession
    {other : RTPSession}
    (hMem :
      other ∈ (updateSession s next).playback.rtpSessions) :
    other = next ∨ other ∈ s.playback.rtpSessions := by
  rcases List.mem_map.mp hMem with ⟨old, hOld, rfl⟩
  split
  · exact .inl rfl
  · exact .inr hOld

theorem Inv.writeStep
    {env : WriterEnv}
    {address : Nat}
    (h : writeStep env s address = .ok t)
    (hInv : Inv s) :
    Inv t := by
  rcases writeStep_cases h with
    rfl | ⟨session, due, next, hAt, hDue, hWrite, rfl⟩
  · exact hInv
  have hMem := (sessionAt_mem hAt).1
  have hRange := (rtpWriteCb_cases hWrite).2
  have hArmedNow := hInv.armed session hMem (by simp [hDue])
  have hEmpty : s.playback ≠ Playback.empty := by
    intro hEmpty
    rw [hEmpty] at hMem
    cases hMem
  refine ⟨⟨?_, hInv.ranged, ?_, hInv.head⟩, hInv.live, ?_⟩
  · intro hNot
    rcases hInv.opened hNot with ⟨hResource, hNonempty⟩
    refine ⟨hResource, ?_⟩
    simpa [updateSession, Client.setSessions] using hNonempty
  · intro other hOther hArmed
    rcases mem_updateSession hOther with rfl | hOld
    · exact ⟨hArmedNow.1, hRange.trans hArmedNow.2⟩
    · exact hInv.armed other hOld hArmed
  · intro hNone
    exact absurd (hInv.absent hNone) hEmpty

theorem Inv.timeout
    {time : Nat}
    (h : step s (.timeout time) = .ok t)
    (hInv : Inv s) :
    Inv t := by
  rcases step_timeout_cases h with ⟨session, connected, _, rfl⟩
  exact ⟨⟨hInv.opened, hInv.ranged, hInv.armed, hInv.head⟩,
    hInv.live, hInv.absent⟩

/- Every step keeps the invariant. -/
theorem step_inv
    {op : Op}
    (h : step s op = .ok t)
    (hInv : Inv s) :
    Inv t := by
  cases op with
  | request req env =>
      exact (inv_kept env req).request
        (fun _ _ _ _ => Inv.tornDown _) h hInv
  | write address env =>
      exact hInv.writeStep h
  | timeout time =>
      exact hInv.timeout h

end Play

end Feng

------------------------------------------------------------
-- No Missing Range
------------------------------------------------------------

namespace Feng

namespace Play

variable {env : Env} {req : RFC822Request} {s : Client}

/- A fault about a range, or about the resource it is in. -/
def Fault.IsMissing : Fault → Prop
| .nullResource => True
| .nullRange => True
| .freedRange => True
| _ => False

theorem Inv.deref_head
    (hHead : s.headRange ≠ none)
    (hInv : Inv s) :
    ∃ range, s.deref s.headRange = .ok range := by
  rcases Option.ne_none_iff_exists'.mp hHead with
    ⟨address, hAddress⟩
  rcases Option.ne_none_iff_exists'.mp
    (hInv.head address hAddress) with ⟨range, hRange⟩
  exact ⟨range, deref_eq_ok.mpr ⟨address, hAddress, hRange⟩⟩

theorem Inv.headRange_ne
    (hPlaying : s.curState = .playing)
    (hInv : Inv s) :
    s.headRange ≠ none := by
  intro hNone
  exact hInv.ranged hPlaying (List.head?_eq_none_iff.mp hNone)

theorem Inv.pause_ok
    (hPlaying : s.curState = .playing)
    (hInv : Inv s)
    (now : ℚ) :
    ∃ t, rtspDoPause now s = .ok t := by
  have hNot : s.curState ≠ .init := by
    rw [hPlaying]
    decide
  rcases curState_ne_init hNot with ⟨session, hSession⟩
  rcases Option.ne_none_iff_exists'.mp
    (hInv.headRange_ne hPlaying) with ⟨address, hAddress⟩
  rcases Option.ne_none_iff_exists'.mp
    (hInv.head address hAddress) with ⟨range, hRange⟩
  unfold rtspDoPause
  simp only [hSession, hAddress, hRange]
  exact ⟨_, rfl⟩

theorem Inv.workAround_ok
    (hInv : Inv s)
    (env : Env)
    (req : RFC822Request) :
    ∃ t, workAround env s req = .ok t := by
  unfold workAround
  split
  · rename_i hVlc
    exact hInv.pause_ok hVlc.1 env.evNow
  · exact ⟨s, rfl⟩

theorem Inv.parseRangeHeader_ok
    (hState : s.curState ≠ .init)
    (hInv : Inv s)
    (env : Env)
    (req : RFC822Request) :
    ∃ result, parseRangeHeader env s req = .ok result := by
  have hResource := (hInv.opened hState).1
  unfold parseRangeHeader
  simp only
  split
  · rename_i address _ hAddress
    rcases Option.ne_none_iff_exists'.mp
      (hInv.head address hAddress) with ⟨range, hRange⟩
    rw [hRange]
    exact ⟨_, rfl⟩
  · split
    · exact ⟨_, rfl⟩
    · rw [if_neg (by simp [hResource])]
      split
      · exact ⟨_, rfl⟩
      · exact ⟨_, rfl⟩

theorem Inv.startPlaying_ok
    (hHead : s.headRange ≠ none)
    (hInv : Inv s)
    (env : Env) :
    ∃ result, startPlaying env s = .ok result := by
  rcases hInv.deref_head hHead with ⟨range, hRange⟩
  rcases deref_eq_ok.mp hRange with ⟨address, hAddress, _⟩
  have hSame : (s.setState .playing).headRange = some address :=
    hAddress
  have hSameRange :
      (s.setState .playing).deref (some address) =
        .ok range := by
    rw [← hAddress]
    exact hRange
  unfold startPlaying
  simp only [hSame, hSameRange]
  split
  · exact ⟨_, rfl⟩
  · exact ⟨_, rfl⟩

theorem Inv.playUnlessPlaying_ok
    (hState : s.curState ≠ .init)
    (hHead : s.headRange ≠ none)
    (hInv : Inv s)
    (env : Env) :
    ∃ result, playUnlessPlaying env s = .ok result := by
  have hResource := (hInv.opened hState).1
  rcases hInv.deref_head hHead with ⟨range, hRange⟩
  unfold playUnlessPlaying
  split
  · unfold doPlay
    rw [if_neg (by simp [hResource])]
    split
    · rw [hRange]
      simp only
      split
      · exact ⟨_, rfl⟩
      · exact hInv.startPlaying_ok hHead env
    · exact hInv.startPlaying_ok hHead env
  · exact ⟨_, rfl⟩

theorem NowPlays.headRange_eq
    {t : Client}
    (h : NowPlays env s t) :
    t.headRange = s.headRange := by
  rcases h with
    ⟨_, rfl⟩ | ⟨_, ⟨_, rfl⟩ | ⟨_, address, range, _, _, rfl⟩⟩
  · rfl
  · rfl
  · rfl

/- PLAY comes to an end behind its checks. -/
theorem Inv.playChecked_ok
    (hState : s.curState ≠ .init)
    (hInv : Inv s)
    (env : Env)
    (req : RFC822Request) :
    ∃ t, playChecked env s req = .ok t := by
  rcases hInv.workAround_ok env req with ⟨u, hWork⟩
  have hWorked := workAround_cases hWork
  have hStateU := hWorked.curState_ne hState
  have hU : Inv u := by
    rcases hWorked with ⟨_, rfl⟩ | ⟨hPlaying, _, hPause⟩
    · exact hInv
    · exact hInv.paused hPlaying hPause
  rcases hU.parseRangeHeader_ok hStateU env req with
    ⟨⟨v, code⟩, hRange⟩
  unfold playChecked
  simp only [hWork, hRange, bind, Except.bind]
  rcases parseRangeHeader_cases hRange with
    ⟨hCode, _⟩ | ⟨rfl, _, hFixed⟩
  · rw [if_pos hCode]
    exact ⟨_, rfl⟩
  rw [if_neg (not_not.mpr rfl)]
  have hV := hU.fixed hStateU hFixed
  have hStateV : v.curState ≠ .init := by
    rw [hFixed.curState_eq]
    exact hStateU
  have hHead := hFixed.headRange_ne
  rcases hV.playUnlessPlaying_ok hStateV hHead env with
    ⟨⟨w, code⟩, hPlay⟩
  simp only [hPlay]
  rcases playUnlessPlaying_cases hPlay with
    ⟨hCode, _⟩ | ⟨rfl, hPlays, _⟩
  · rw [if_pos hCode]
    exact ⟨_, rfl⟩
  rw [if_neg (not_not.mpr rfl)]
  have hW := hV.plays hStateV hHead hPlays
  have hHeadW : w.headRange ≠ none := by
    rw [hPlays.headRange_eq]
    exact hHead
  rcases hW.deref_head hHeadW with ⟨range, hDeref⟩
  unfold sendPlayReply
  rw [hDeref]
  exact ⟨_, rfl⟩

theorem Inv.rtspPlay_fault
    {fault : Fault}
    (h : rtspPlay env s req = .error fault)
    (hInv : Inv s) :
    ¬ fault.IsMissing := by
  unfold rtspPlay at h
  rcases rtspCheckInvalidState_cases req s.rtsp .init with
    ⟨hInit, hCheck⟩ | ⟨_, denied, _, hCheck⟩
  · rw [hCheck] at h
    rcases rfc822RequestCheckUrl_cases req s.rtsp with
      ⟨_, hUrl⟩ | ⟨_, denied, _, hUrl⟩ | ⟨_, found, hUrl⟩
    · simp only [hUrl] at h
      rcases hInv.playChecked_ok hInit env req with ⟨t, hOk⟩
      rw [hOk] at h
      cases h
    · simp only [hUrl] at h
      cases h
    · simp only [hUrl] at h
      cases h
      exact id
  · rw [hCheck] at h
    cases h

theorem Inv.rtspPause_fault
    {fault : Fault}
    (h : rtspPause env s req = .error fault)
    (hInv : Inv s) :
    ¬ fault.IsMissing := by
  unfold rtspPause at h
  rcases rtspCheckInvalidState_cases req s.rtsp .init with
    ⟨hInit, hCheck⟩ | ⟨_, denied, _, hCheck⟩
  · rw [hCheck] at h
    rcases rtspCheckInvalidState_cases req s.rtsp .ready with
      ⟨hReady, hCheck⟩ | ⟨_, denied, _, hCheck⟩
    · simp only [hCheck] at h
      rcases rfc822RequestCheckUrl_cases req s.rtsp with
        ⟨_, hUrl⟩ | ⟨_, denied, _, hUrl⟩ | ⟨_, found, hUrl⟩
      · rcases hInv.pause_ok
          (curState_of_others hInit hReady) env.evNow with
          ⟨t, hOk⟩
        simp only [hUrl, hOk] at h
        cases h
      · simp only [hUrl] at h
        cases h
      · simp only [hUrl] at h
        cases h
        exact id
    · simp only [hCheck] at h
      cases h
  · rw [hCheck] at h
    cases h

theorem rtspTeardown_fault
    {fault : Fault}
    (h : rtspTeardown s req = .error fault) :
    ¬ fault.IsMissing := by
  unfold rtspTeardown at h
  rcases rfc822RequestCheckUrl_cases req s.rtsp with
    ⟨_, hUrl⟩ | ⟨_, denied, _, hUrl⟩ | ⟨_, found, hUrl⟩
  · rw [hUrl] at h
    cases h
  · rw [hUrl] at h
    cases h
  · rw [hUrl] at h
    cases h
    exact id

theorem rtpTransportInit_fault
    {fault : Fault}
    {address : Nat}
    {transports : List ParsedTransport}
    (h :
      rtpTransportInit env s address transports =
        .error fault) :
    fault = .noTransport := by
  induction transports generalizing s with
  | nil => cases h
  | cons parsed transports ih =>
      unfold rtpTransportInit at h
      cases hProtocol : parsed.protocol with
      | sctp =>
          simp only [hProtocol] at h
          cases h
          rfl
      | udp =>
          simp only [hProtocol] at h
          split at h
          · cases h
          · exact ih h
      | tcp =>
          simp only [hProtocol] at h
          split at h
          · cases h
          · exact ih h

theorem rtspSetup_fault
    {fault : Fault}
    (h : rtspSetup env s req = .error fault) :
    ¬ fault.IsMissing := by
  unfold rtspSetup at h
  rcases rfc822RequestCheckUrl_cases req s.rtsp with
    ⟨_, hUrl⟩ | ⟨_, denied, _, hUrl⟩ | ⟨_, found, hUrl⟩
  · rw [hUrl] at h
    simp only at h
    split at h
    · cases h
    · split at h
      · cases h
        exact id
      · cases h
      · unfold setupTrack rtpSessionNew at h
        simp only at h
        split at h
        · rename_i hNew
          split at hNew
          · rename_i hInit
            cases hNew
            cases h
            rw [rtpTransportInit_fault hInit]
            exact id
          · cases hNew
          · cases hNew
        · cases h
        · cases h
  · rw [hUrl] at h
    cases h
  · rw [hUrl] at h
    cases h
    exact id

theorem Inv.callMethod_fault
    {fault : Fault}
    (h : callMethod env s req = .error fault)
    (hInv : Inv s) :
    ¬ fault.IsMissing := by
  unfold callMethod at h
  split at h
  · cases h
  · split at h
    · cases h
      exact id
    · unfold rtspDescribe at h
      split at h
      · cases h
        exact id
      · cases h
    · exact rtspSetup_fault h
    · exact hInv.rtspPlay_fault h
    · exact hInv.rtspPause_fault h
    · exact rtspTeardown_fault h

theorem Inv.handleNumberedRequest_fault
    {fault : Fault}
    {v : Nat}
    (h : handleNumberedRequest env s req v = .error fault)
    (hInv : Inv s) :
    ¬ fault.IsMissing := by
  unfold handleNumberedRequest at h
  rcases rtspCheckSession_cases req
    { s.rtsp with lastCseq := v } with
    hSession | ⟨denied, _, hSession⟩
  · rw [hSession] at h
    rcases rtspCheckRequiredOptions_cases req
      { s.rtsp with lastCseq := v } with
      hOptions | ⟨denied, _, hOptions⟩
    · simp only [hOptions] at h
      exact (hInv.untouched
        (numbered_untouched s v)).callMethod_fault h
    · simp only [hOptions] at h
      cases h
  · rw [hSession] at h
    cases h

theorem Inv.request_fault
    {fault : Fault}
    (h : rtspHandleRequest env s req = .error fault)
    (hInv : Inv s) :
    ¬ fault.IsMissing := by
  unfold rtspHandleRequest at h
  split at h
  · rename_i found hBody
    cases h
    unfold handleRequestBody at hBody
    split at hBody
    · cases hBody
    · simp only at hBody
      split at hBody
      · cases hBody
      · split at hBody
        · cases hBody
        · split at hBody
          · cases hBody
          · exact hInv.handleNumberedRequest_fault hBody
  · cases h

/- A writer that goes off has its range. -/
theorem Inv.rtpWriteCb_ok
    {session : RTPSession}
    {due : ℚ}
    (hMem : session ∈ s.playback.rtpSessions)
    (hDue : session.rtpWriter = some due)
    (hInv : Inv s)
    (env : WriterEnv) :
    ∃ next, rtpWriteCb env s session due = .ok next := by
  have hArmed := hInv.armed session hMem (by simp [hDue])
  rcases hInv.deref_head (hInv.headRange_ne hArmed.1) with
    ⟨range, hRange⟩
  unfold rtpWriteCb
  rw [hArmed.2, hRange]
  split
  · exact ⟨_, rfl⟩
  · split
    · split
      · exact ⟨_, rfl⟩
      · exact ⟨_, rfl⟩
    · exact ⟨_, rfl⟩

theorem Inv.write_fault
    {fault : Fault}
    {address : Nat}
    {env : WriterEnv}
    (h : Play.writeStep env s address = .error fault)
    (hInv : Inv s) :
    False := by
  unfold Play.writeStep at h
  split at h
  · cases h
  · rename_i session hSession
    split at h
    · cases h
    · rename_i due hDue
      rcases hInv.rtpWriteCb_ok (sessionAt_mem hSession).1 hDue
        env with ⟨next, hOk⟩
      rw [hOk] at h
      cases h

theorem timeout_fault
    {fault : Fault}
    {time : Nat}
    (h : clientEvTimeout time s = .error fault) :
    ¬ fault.IsMissing := by
  unfold clientEvTimeout at h
  split at h
  · cases h
    exact id
  · cases h

theorem Inv.step_fault
    {op : Op}
    {fault : Fault}
    (h : step s op = .error fault)
    (hInv : Inv s) :
    ¬ fault.IsMissing := by
  cases op with
  | request req env =>
      exact hInv.request_fault h
  | write address env =>
      exact (hInv.write_fault h).elim
  | timeout time =>
      exact timeout_fault h

end Play

end Feng

------------------------------------------------------------
-- Addresses Of RTP Sessions
------------------------------------------------------------

namespace Feng

namespace Play

variable {s t : Client} {session next other : RTPSession}

/- The RTP sessions are at different addresses, all used up. -/
structure Addressed (s : Client) : Prop where
  below :
    ∀ session ∈ s.playback.rtpSessions,
      session.address < s.nextAddress
  distinct :
    (s.playback.rtpSessions.map RTPSession.address).Nodup

/- Sessions may change, as long as their addresses do not. -/
theorem Addressed.of_map
    (hAddressed : Addressed s)
    (h :
      t.playback.rtpSessions.map RTPSession.address =
        s.playback.rtpSessions.map RTPSession.address)
    (hNext : t.nextAddress = s.nextAddress) :
    Addressed t where
  below := by
    intro session hMem
    have hAddress :
        session.address ∈
          s.playback.rtpSessions.map RTPSession.address := by
      rw [← h]
      exact List.mem_map_of_mem hMem
    rcases List.mem_map.mp hAddress with ⟨old, hOld, hEq⟩
    rw [hNext, ← hEq]
    exact hAddressed.below old hOld
  distinct := by
    rw [h]
    exact hAddressed.distinct

theorem queueRange_sessions
    (env : Env)
    (s : Client)
    (range : RTSPRange) :
    (queueRange env s range).playback.rtpSessions =
        s.playback.rtpSessions ∧
      (queueRange env s range).nextAddress =
        s.nextAddress := by
  unfold queueRange
  simp only
  split
  · exact ⟨rfl, rfl⟩
  · exact ⟨rfl, rfl⟩

theorem RangeFixed.sessions_eq
    {env : Env}
    {req : RFC822Request}
    (h : RangeFixed env req s t) :
    t.playback.rtpSessions = s.playback.rtpSessions ∧
      t.nextAddress = s.nextAddress := by
  rcases h with
    ⟨_, address, range, _, _, rfl⟩ | ⟨_, range, _, rfl⟩
  · exact ⟨rfl, rfl⟩
  · exact queueRange_sessions env s range

theorem addressed_kept (env : Env) (req : RFC822Request) :
    Kept env req Addressed where
  untouched := by
    rintro s t ⟨rtsp, _, rfl⟩ hAddressed
    exact hAddressed.of_map rfl rfl
  opened := by
    rintro s t ⟨next, _, rfl⟩ hAddressed
    unfold openSession
    cases s.rtsp.session with
    | none =>
        refine ⟨?_, List.nodup_nil⟩
        intro session hMem
        cases hMem
    | some session => exact hAddressed.of_map rfl rfl
  allocated := by
    rintro s t ⟨free, channels, rfl⟩ hAddressed
    refine ⟨?_, hAddressed.distinct⟩
    intro session hMem
    exact Nat.lt_succ_of_lt (hAddressed.below session hMem)
  joined := by
    rintro s t next track session _ _ ⟨free, channels, rfl⟩
      hNew hAddressed
    constructor
    · intro other hMem
      rcases List.mem_append.mp hMem with hOld | hLast
      · exact Nat.lt_succ_of_lt (hAddressed.below other hOld)
      · cases List.mem_singleton.mp hLast
        rw [hNew.address]
        exact Nat.lt_succ_self s.nextAddress
    · change
        ((s.playback.rtpSessions ++ [session]).map
          RTPSession.address).Nodup
      rw [List.map_append, List.nodup_append]
      refine ⟨hAddressed.distinct, by simp, ?_⟩
      intro address hOld other hLast
      rcases List.mem_map.mp hOld with ⟨old, hMem, rfl⟩
      have hLast : other = session.address := by
        simpa using hLast
      rw [hLast, hNew.address]
      exact Nat.ne_of_lt (hAddressed.below old hMem)
  paused := by
    intro s t now _ hPause hAddressed
    rcases rtspDoPause_cases hPause with
      ⟨_, address, range, _, _, _, rfl⟩
    refine hAddressed.of_map ?_ rfl
    change
      (s.playback.rtpSessions.map rtpSessionPause).map
        RTPSession.address = _
    rw [List.map_map]
    rfl
  fixed := by
    intro s t _ hFixed hAddressed
    exact hAddressed.of_map (by rw [hFixed.sessions_eq.1])
      hFixed.sessions_eq.2
  plays := by
    intro s t _ _ hPlays hAddressed
    rcases hPlays with
      ⟨_, rfl⟩ | ⟨_, ⟨_, rfl⟩ | ⟨_, address, range, _, _, rfl⟩⟩
    · exact hAddressed
    · exact hAddressed.of_map rfl rfl
    · refine hAddressed.of_map ?_ rfl
      change
        (s.playback.rtpSessions.map _).map
          RTPSession.address = _
      rw [List.map_map]
      rfl
  armed := fun _ hAddressed => hAddressed.of_map rfl rfl

theorem updateSession_addresses
    (s : Client)
    (next : RTPSession) :
    (updateSession s next).playback.rtpSessions.map
        RTPSession.address =
      s.playback.rtpSessions.map RTPSession.address := by
  change (s.playback.rtpSessions.map _).map _ = _
  rw [List.map_map]
  apply List.map_congr_left
  intro other _
  simp only [Function.comp]
  split
  · rename_i hEq
    exact hEq.symm
  · rfl

theorem step_addressed
    {op : Op}
    (h : step s op = .ok t)
    (hAddressed : Addressed s) :
    Addressed t := by
  cases op with
  | request req env =>
      refine (addressed_kept env req).request ?_ h hAddressed
      intro v _ _ _
      refine ⟨?_, List.nodup_nil⟩
      intro session hMem
      cases hMem
  | write address env =>
      rcases writeStep_cases h with
        rfl | ⟨session, due, next, _, _, _, rfl⟩
      · exact hAddressed
      · exact hAddressed.of_map
          (updateSession_addresses s next) rfl
  | timeout time =>
      rcases step_timeout_cases h with ⟨_, connected, _, rfl⟩
      exact hAddressed.of_map rfl rfl

/- An address is that of one RTP session only. -/
theorem Addressed.eq_of_address
    (hAddressed : Addressed s)
    (hMem : session ∈ s.playback.rtpSessions)
    (hOther : other ∈ s.playback.rtpSessions)
    (hEq : other.address = session.address) :
    other = session :=
  List.inj_on_of_nodup_map hAddressed.distinct hOther hMem hEq

/- An update replaces the one session at its address. -/
theorem mem_updateSession_iff
    (hAddressed : Addressed s)
    (hMem : session ∈ s.playback.rtpSessions)
    (hEq : next.address = session.address) :
    other ∈ (updateSession s next).playback.rtpSessions ↔
      other = next ∨
        (other ∈ s.playback.rtpSessions ∧
          other ≠ session) := by
  change other ∈ s.playback.rtpSessions.map _ ↔ _
  rw [List.mem_map]
  constructor
  · rintro ⟨old, hOld, rfl⟩
    by_cases hSame : old.address = next.address
    · rw [if_pos hSame]
      exact .inl rfl
    · rw [if_neg hSame]
      refine .inr ⟨hOld, ?_⟩
      rintro rfl
      exact hSame hEq.symm
  · rintro (rfl | ⟨hOld, hNe⟩)
    · exact ⟨session, hMem, if_pos hEq.symm⟩
    · refine ⟨other, hOld, if_neg ?_⟩
      intro hSame
      exact hNe (hAddressed.eq_of_address hMem hOld
        (hSame.trans hEq))

end Play

end Feng

------------------------------------------------------------
-- Runs
------------------------------------------------------------

namespace Feng

namespace Play

theorem run_inv
    {trace : List (Client × Op)}
    {last : Client}
    (hRun : system.Run trace last) :
    Inv last := by
  apply hRun.invariant
  · rintro s rfl
    exact inv_clientNew
  · intro s op t hInv hStep
    exact step_inv hStep.2 hInv

theorem addressed_clientNew : Addressed clientNew := by
  refine ⟨?_, List.nodup_nil⟩
  intro session hMem
  cases hMem

theorem run_addressed
    {trace : List (Client × Op)}
    {last : Client}
    (hRun : system.Run trace last) :
    Addressed last := by
  apply hRun.invariant
  · rintro s rfl
    exact addressed_clientNew
  · intro s op t hAddressed hStep
    exact step_addressed hStep.2 hAddressed

/-
  The session invariant holds in every state reached, and what
  happens there uses no range that is missing or freed.
-/
theorem session_invariant
    {trace : List (Client × Op)}
    {last : Client}
    (hRun : system.Run trace last) :
    SessionInvariant last ∧
      ∀ op fault, enabled last op →
        step last op = .error fault → ¬ fault.IsMissing := by
  have hInv := run_inv hRun
  refine ⟨hInv.toSessionInvariant, ?_⟩
  intro op fault _ hFault
  exact hInv.step_fault hFault

/- A session that was set up, played, and paused. -/
def sampleOps : List Op :=
  [.request (sampleRequest RTSPMethod.setup 1)
      (sampleEnv 1000),
    .request (sampleRequest RTSPMethod.play 2)
      (sampleEnv 1000),
    .request (sampleRequest RTSPMethod.pause 3)
      (sampleEnv 1010)]

theorem session_invariant_sample :
    SessionInvariant
        (System.replayEnd step clientNew sampleOps) ∧
      ∀ op fault,
        enabled (System.replayEnd step clientNew sampleOps)
            op →
          step (System.replayEnd step clientNew sampleOps)
              op =
            .error fault →
          ¬ fault.IsMissing :=
  session_invariant
    (System.replay_run (by decide +kernel)
      (by decide +kernel))

end Play

end Feng
