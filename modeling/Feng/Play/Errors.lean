import Feng.Play.Head

/-
  What a SETUP or a PLAY that is answered with an error leaves
  behind.

  The handlers act before they are done with their checks, and
  what they did is not taken back when a later check fails.

  Key definitions include:
    * `Play.AnsweredWithin`
    * `Play.LeavesTraces`
    * `Play.ErrorKeeps`

  Key theorems include:
    * `Play.setup_atomic_iff`
    * `Play.setup_leaves_session`
    * `Play.play_atomic_iff`
    * `Play.play_stops_writers`
-/

------------------------------------------------------------
-- Answers
------------------------------------------------------------

namespace Feng

namespace Play

variable {req : RFC822Request} {s t u : Client}
variable {code : Nat} {codes : List Nat}

/- One response was sent, with one of these codes. -/
def AnsweredWithin
    (codes : List Nat)
    (s t : Client) : Prop :=
  ∃ response,
    t.rtsp.responses = s.rtsp.responses ++ [response] ∧
      response.status ∈ codes

theorem Answered.responses_eq
    (h : Answered req code s t) :
    ∃ response,
      t.rtsp.responses = s.rtsp.responses ++ [response] ∧
        response.status = code := by
  rcases h with ⟨response, rfl, _, hStatus⟩
  exact ⟨response, rfl, hStatus⟩

/- The code of the one response is among those listed. -/
theorem Answered.code_mem
    (h : Answered req code u t)
    (hSame : u.rtsp.responses = s.rtsp.responses)
    (hWithin : AnsweredWithin codes s t) :
    code ∈ codes := by
  rcases h.responses_eq with ⟨response, hSent, rfl⟩
  rcases hWithin with ⟨other, hOther, hMem⟩
  rw [hSent, hSame] at hOther
  have hEq : [response] = [other] :=
    List.append_cancel_left hOther
  cases hEq
  exact hMem

end Play

end Feng

------------------------------------------------------------
-- The Resource Of A First SETUP
------------------------------------------------------------

namespace Feng

namespace Play

variable {env : UrlEnv} {req : RFC822Request}
variable {rtsp rtsp' : RTSPClient} {session : RTSPSession}
variable {opened track : Option (List UInt8)}

/- The object leads to a resource, if it is not known yet. -/
def FindsResource
    (env : UrlEnv)
    (req : RFC822Request) : Prop :=
  ∃ object path,
    req.object = some object ∧ chSlash ∈ object ∧
      unescapedPath env req = .ok path ∧
      rOpen env
        (if chSlash ∈ path then beforeLastSlash path
        else path) ≠ none

theorem Denied.session_eq
    (h : Denied req rtsp rtsp') :
    rtsp'.session = rtsp.session := by
  rcases h with ⟨response, rfl, _⟩
  rfl

theorem findNamedTrack_session
    (rtsp : RTSPClient)
    (req : RFC822Request)
    (resource : Resource)
    (trackname : List UInt8) :
    (findNamedTrack rtsp req resource trackname).1.session =
      rtsp.session := by
  rcases findNamedTrack_cases rtsp req resource trackname with
    hFound | ⟨denied, hDenied, hFound⟩
  · rw [hFound]
  · rw [hFound]
    exact hDenied.session_eq

theorem openRequestedTrack_kept_iff
    {object : List UInt8}
    (hObject : req.object = some object)
    (hSession : rtsp.session = some session)
    (hResource : session.resource = none)
    (h :
      openRequestedTrack env rtsp req session object =
        .ok (rtsp', opened, track)) :
    rtsp'.session = some session ↔
      ¬ FindsResource env req := by
  unfold openRequestedTrack at h
  split at h
  · rename_i hSlash
    cases h
    refine ⟨?_, fun _ => hSession⟩
    rintro _ ⟨other, path, hOther, hMem, _⟩
    rw [hObject] at hOther
    cases hOther
    exact hSlash hMem
  · rename_i hSlash
    split at h
    · cases h
    · rename_i path hPath
      simp only at h
      split at h
      · rename_i hOpen
        cases h
        refine ⟨?_, fun _ => hSession⟩
        rintro _ ⟨other, otherPath, _, _, hOther, hFound⟩
        rw [hPath] at hOther
        cases hOther
        exact hFound hOpen
      · rename_i resource hOpen
        cases h
        rw [findNamedTrack_session]
        constructor
        · intro hSame
          have hNone :
              some (resource, beforeLastSlash object) =
                session.resource :=
            congrArg RTSPSession.resource
              (Option.some.inj hSame)
          rw [hResource] at hNone
          cases hNone
        · intro hNot
          refine absurd ⟨object, path, hObject,
            not_not.mp hSlash, hPath, ?_⟩ hNot
          rw [hOpen]
          exact Option.some_ne_none resource

/- The session is kept unless a resource is opened for it. -/
theorem selectRequestedTrack_kept_iff
    (hSession : rtsp.session = some session)
    (h :
      selectRequestedTrack env rtsp req session =
        .ok (rtsp', opened, track)) :
    rtsp'.session = some session ↔
      ¬ (session.resource = none ∧
        FindsResource env req) := by
  unfold selectRequestedTrack at h
  cases hObject : req.object with
  | none =>
      rw [hObject] at h
      cases h
  | some object =>
      rw [hObject] at h
      cases hResource : session.resource with
      | none =>
          simp only [hResource] at h
          rw [openRequestedTrack_kept_iff hObject hSession
            hResource h]
          simp
      | some entry =>
          simp only [hResource] at h
          have hKept : rtsp'.session = some session := by
            split at h
            · cases h
              exact hSession
            · cases h
              rw [findNamedTrack_session]
              exact hSession
          simp [hKept]

end Play

end Feng

------------------------------------------------------------
-- SETUP
------------------------------------------------------------

namespace Feng

namespace Play

variable {env : Env} {req : RFC822Request} {s t : Client}

/- The codes a SETUP fails with. -/
def setupErrors : List Nat :=
  [461, 404, 460, 400, 403]

/- The session is as it was, with all that it owns. -/
def SameSession (s t : Client) : Prop :=
  t.rtsp.session = s.rtsp.session ∧ t.playback = s.playback

/- The request gets as far as the choice of its track. -/
def TriesTrack (env : Env) (req : RFC822Request) : Prop :=
  PassesCheck req ∧ offeredTransports env req ≠ []

/- There is a session to create, or a resource to open. -/
def LeavesTraces
    (env : Env)
    (s : Client)
    (req : RFC822Request) : Prop :=
  TriesTrack env req ∧
    ∀ session, s.rtsp.session = some session →
      session.resource = none ∧
        FindsResource (env.urlEnv none) req

theorem Refused.sameSession
    (h : Refused req s t) :
    SameSession s t := by
  rcases h with ⟨code, _, response, rfl, _⟩
  exact ⟨rfl, rfl⟩

theorem setupTrack_failed
    {u : Client}
    {track : List UInt8}
    (hSession : u.rtsp.session ≠ none)
    (hSame : u.rtsp.responses = s.rtsp.responses)
    (h : setupTrack env u req track = .ok t)
    (hFailed : AnsweredWithin setupErrors s t) :
    SameSession u t := by
  rcases Option.ne_none_iff_exists'.mp hSession with
    ⟨next, hNext⟩
  rcases setupTrack_cases hNext h with
    ⟨v, ⟨free, channels, rfl⟩, ⟨hRefused, _⟩ |
      ⟨session, _, _, hAnswered⟩⟩
  · exact hRefused.sameSession
  · have hCode : 200 ∈ setupErrors :=
      hAnswered.code_mem hSame hFailed
    exact absurd hCode (by decide)

/- A SETUP fails by its first checks, or has chosen a track. -/
theorem rtspSetup_failed
    (h : rtspSetup env s req = .ok t)
    (hFailed : AnsweredWithin setupErrors s t) :
    (¬ TriesTrack env req ∧ SameSession s t) ∨
    (TriesTrack env req ∧ ∃ rtsp opened track,
      selectRequestedTrack (env.urlEnv none)
          (openSession env s).1.rtsp req
          (openSession env s).2 =
        .ok (rtsp, opened, track) ∧
      t.rtsp.session = rtsp.session ∧
      t.playback = (openSession env s).1.playback) := by
  unfold rtspSetup at h
  rcases rfc822RequestCheckUrl_cases req s.rtsp with
    ⟨hPasses, hCheck⟩ | ⟨hNot, denied, hDenied, hCheck⟩ |
    ⟨_, fault, hCheck⟩
  · rw [hCheck] at h
    simp only at h
    split at h
    · rename_i hNone
      cases h
      exact .inl ⟨fun hTries => hTries.2 hNone,
        (refused_quick req s 461 (by decide)).sameSession⟩
    · rename_i hOffered
      refine .inr ⟨⟨hPasses, hOffered⟩, ?_⟩
      have hSession := openSession_session env s
      split at h
      · cases h
      · rename_i hTrack
        cases h
        exact ⟨_, _, _, hTrack, rfl, rfl⟩
      · rename_i rtsp opened track hTrack
        refine ⟨_, _, _, hTrack, ?_⟩
        rcases selectRequestedTrack_cases hSession hTrack with
          ⟨next, _, ⟨hNone, _⟩ | ⟨_, _, rfl⟩⟩
        · cases hNone
        · refine setupTrack_failed ?_ ?_ h hFailed
          · exact Option.some_ne_none next
          · exact (openSession_answers env s).2
  · rw [hCheck] at h
    cases h
    exact .inl ⟨fun hTries => hNot hTries.1,
      hDenied.refused.sameSession⟩
  · rw [hCheck] at h
    cases h

/-
  A SETUP that fails leaves the session as it was exactly if it
  neither had a session to create nor a resource to open.
-/
theorem setup_atomic_iff
    (h : rtspSetup env s req = .ok t)
    (hFailed : AnsweredWithin setupErrors s t) :
    SameSession s t ↔ ¬ LeavesTraces env s req := by
  rcases rtspSetup_failed h hFailed with
    ⟨hNot, hSame⟩ |
    ⟨hTries, rtsp, opened, track, hTrack, hSession, hPlays⟩
  · exact ⟨fun _ hLeaves => hNot hLeaves.1, fun _ => hSame⟩
  · have hOpened := openSession_session env s
    unfold SameSession LeavesTraces
    cases hOld : s.rtsp.session with
    | none =>
        -- the session that is created stays
        rcases selectRequestedTrack_cases hOpened hTrack with
          ⟨next, _, ⟨_, hDenied⟩ | ⟨_, _, rfl⟩⟩
        · rw [hSession, hDenied.session_eq]
          simp [hTries]
        · rw [hSession]
          simp [hTries]
    | some session =>
        have hOpen : openSession env s = (s, session) := by
          simp only [openSession, hOld]
        rw [hOpen] at hTrack hPlays
        rw [hSession,
          selectRequestedTrack_kept_iff hOld hTrack]
        simp [hTries, hPlays]

/- A presentation without the track that is asked for. -/
def trackless : Env :=
  { sampleEnv 1000 with
    resourceAt := fun _ => some ⟨[ascii "a"]⟩ }

/- A first SETUP, answered with 404. -/
def setupRefused : Client :=
  { clientNew with
    rtsp :=
      { rtspClientNew with
        session :=
          some
            { rtspSessionNew (ascii "0123456789abcdef") with
              resource :=
                some (⟨[ascii "a"]⟩, ascii "rtsp://h/v") }
        responses :=
          [rtspQuickResponse
            (sampleRequest RTSPMethod.setup 1) 404] } }

theorem setup_atomic_iff_track :
    SameSession clientNew setupRefused ↔
      ¬ LeavesTraces trackless clientNew
        (sampleRequest RTSPMethod.setup 1) :=
  setup_atomic_iff (by decide +kernel)
    ⟨_, rfl, by decide +kernel⟩

/- A session appears, with the resource, though it is a 404. -/
theorem setup_leaves_session :
    rtspSetup trackless clientNew
        (sampleRequest RTSPMethod.setup 1) =
      .ok setupRefused ∧
    AnsweredWithin setupErrors clientNew setupRefused ∧
    clientNew.rtsp.session = none ∧
    setupRefused.rtsp.session ≠ none ∧
    ¬ SameSession clientNew setupRefused := by
  refine ⟨by decide +kernel, ⟨_, rfl, by decide +kernel⟩,
    rfl, by decide, ?_⟩
  rintro ⟨hSession, _⟩
  cases hSession

end Play

end Feng

------------------------------------------------------------
-- PLAY
------------------------------------------------------------

namespace Feng

namespace Play

variable {env : Env} {req : RFC822Request} {s t u v : Client}
variable {code : Nat}

/- The codes a PLAY fails with. -/
def playErrors : List Nat :=
  [455, 400, 403, 501, 456, 457]

/- The RTP sessions whose writer is armed. -/
def armedWriters (s : Client) : List Nat :=
  (s.playback.rtpSessions.filter
    (fun session => session.rtpWriter.isSome)).map
      RTPSession.address

/-
  The state, the ranges that are queued and the writers that
  are armed are as they were.
-/
structure SamePlay (s t : Client) : Prop where
  curState : t.curState = s.curState
  playRequests :
    t.playback.playRequests = s.playback.playRequests
  ranges :
    ∀ address, address ∈ s.playback.playRequests →
      t.rangeAt address = s.rangeAt address
  writers : armedWriters t = armedWriters s

/- The head range is resumed at the time it has already. -/
def ResumesNow
    (env : Env)
    (s : Client)
    (req : RFC822Request) : Prop :=
  Resumes req s ∧
    ∀ address range, s.headRange = some address →
      s.rangeAt address = some range →
      range.playbackTime = env.evNow

/- The workaround for the client that seeks by PLAY applies. -/
def WorksAround (s : Client) (req : RFC822Request) : Prop :=
  s.curState = .playing ∧ vlcUserAgent req = true

/-
  An error comes before anything is changed: by the checks of
  the state and the URL, or by the range if the workaround
  does not apply.
-/
def ErrorKeeps
    (env : Env)
    (s : Client)
    (req : RFC822Request) : Prop :=
  s.curState = .init ∨ ¬ PassesCheck req ∨
    ¬ WorksAround s req ∧
      (RangeRefused env req s ∨ ResumesNow env s req)

theorem Untouched.samePlay
    (h : Untouched s t) :
    SamePlay s t := by
  have hState := h.curState_eq
  rcases h with ⟨rtsp, _, rfl⟩
  exact ⟨hState, rfl, fun _ _ => rfl, rfl⟩

theorem Untouched.samePlay_iff
    (h : Untouched u t) :
    SamePlay s t ↔ SamePlay s u := by
  have hState := h.curState_eq
  rcases h with ⟨rtsp, _, rfl⟩
  constructor
  · rintro ⟨hCur, hQueue, hRanges, hWriters⟩
    exact ⟨hState.symm.trans hCur, hQueue, hRanges, hWriters⟩
  · rintro ⟨hCur, hQueue, hRanges, hWriters⟩
    exact ⟨hState.trans hCur, hQueue, hRanges, hWriters⟩

/- The workaround leaves a session that does not play. -/
theorem Worked.not_samePlay
    (hWorks : WorksAround s req)
    (hWorked : Worked env req s u)
    (hState : t.curState = u.curState) :
    ¬ SamePlay s t := by
  intro hSame
  rcases hWorked with ⟨hNot, _⟩ | ⟨_, _, hPause⟩
  · exact hNot hWorks
  · have hPlaying := hSame.curState
    rw [hState, rtspDoPause_curState hPause, hWorks.1]
      at hPlaying
    cases hPlaying

theorem freeRanges_length
    (ranges : List (Option RTSPRange))
    (addresses : List Nat) :
    (freeRanges ranges addresses).length = ranges.length := by
  unfold freeRanges
  induction addresses generalizing ranges with
  | nil => rfl
  | cons address addresses ih =>
      rw [List.foldl_cons, ih, List.length_set]

/- The edit list is another one, with a range of its own. -/
theorem queueRange_not_samePlay
    {range : RTSPRange}
    (hState : s.curState ≠ .playing) :
    ¬ SamePlay s (queueRange env s range) := by
  intro hSame
  have hQueue := hSame.playRequests
  simp only [queueRange, if_pos hState,
    rtspSessionEditlistAppend, rtspSessionEditlistFree,
    freeRanges_length, List.nil_append] at hQueue
  have hMem : s.ranges.length ∈ s.playback.playRequests := by
    rw [← hQueue]
    exact List.mem_singleton_self _
  have hRange := hSame.ranges _ hMem
  simp only [queueRange, if_pos hState,
    rtspSessionEditlistAppend, rtspSessionEditlistFree,
    Client.rangeAt] at hRange
  rw [List.getElem?_eq_none (Nat.le_refl s.ranges.length)]
    at hRange
  rw [← freeRanges_length s.ranges s.playback.playRequests,
    List.getElem?_concat_length] at hRange
  cases hRange

/- To resume writes nothing new if the time is the same. -/
theorem setRange_samePlay_iff
    {address : Nat}
    {range : RTSPRange}
    (hHead : s.headRange = some address)
    (hRange : s.rangeAt address = some range) :
    SamePlay s
        (s.setRange address
          { range with playbackTime := env.evNow }) ↔
      range.playbackTime = env.evNow := by
  constructor
  · intro hSame
    have hMem : address ∈ s.playback.playRequests :=
      List.mem_of_head? hHead
    have hAt := hSame.ranges address hMem
    rw [rangeAt_setRange_eq _ hRange, hRange] at hAt
    have hEq := Option.some.inj hAt
    exact (congrArg RTSPRange.playbackTime hEq).symm
  · intro hTime
    have hSame :
        ({ range with playbackTime := env.evNow } :
          RTSPRange) = range := by
      rw [← hTime]
    rw [hSame]
    refine ⟨rfl, rfl, ?_, rfl⟩
    intro other _
    by_cases hOther : other = address
    · subst hOther
      rw [rangeAt_setRange_eq range hRange, hRange]
    · unfold Client.rangeAt Client.setRange
      rw [List.getElem?_set_ne (Ne.symm hOther)]

/- What an accepted range changes, if the session is paused. -/
theorem RangeFixed.samePlay_iff
    (hState : s.curState ≠ .playing)
    (hFixed : RangeFixed env req s t) :
    SamePlay s t ↔ ResumesNow env s req := by
  rcases hFixed with
    ⟨hResumes, address, range, hHead, hRange, rfl⟩ |
    ⟨hNot, range, _, rfl⟩
  · rw [setRange_samePlay_iff hHead hRange]
    constructor
    · intro hTime
      refine ⟨hResumes, ?_⟩
      intro other otherRange hOther hAt
      rw [hHead] at hOther
      cases hOther
      rw [hRange] at hAt
      cases hAt
      exact hTime
    · intro hNow
      exact hNow.2 address range hHead hRange
  · exact ⟨fun hSame =>
      absurd hSame (queueRange_not_samePlay hState),
      fun hNow => absurd hNow.1 hNot⟩

theorem PlayReplied.not_failed
    (hReplied : PlayReplied req u t)
    (hSame : u.rtsp.responses = s.rtsp.responses) :
    ¬ AnsweredWithin playErrors s t := by
  rcases hReplied with ⟨range, _, rfl⟩
  rintro ⟨response, hSent, hMem⟩
  have hReply :
      u.rtsp.responses ++ [playReply u req range] =
        s.rtsp.responses ++ [response] := hSent
  rw [hSame] at hReply
  have hEq := List.append_cancel_left hReply
  cases hEq
  exact absurd hMem (by decide : 200 ∉ playErrors)

/- The checks before the workaround leave all as it was. -/
theorem rtspPlay_refused
    (hEarly : s.curState = .init ∨ ¬ PassesCheck req)
    (h : rtspPlay env s req = .ok t) :
    SamePlay s t := by
  rcases rtspPlay_cases h with
    hRefused | ⟨hPasses, hState, _⟩
  · exact hRefused.untouched.samePlay
  · rcases hEarly with hInit | hNot
    · exact absurd hInit hState
    · exact absurd hPasses hNot

theorem playChecked_failed
    (h : playChecked env s req = .ok t)
    (hFailed : AnsweredWithin playErrors s t) :
    SamePlay s t ↔
      ¬ WorksAround s req ∧
        (RangeRefused env req s ∨ ResumesNow env s req) := by
  rcases playChecked_cases h with
    ⟨u, hWorked, ⟨hRange, hRefused⟩ |
      ⟨v, hFixed, ⟨hAccepted, hState, hRefused⟩ |
        ⟨w, hPlays, _, hReplied⟩⟩⟩
  · by_cases hWorks : WorksAround s req
    · have hNot := hWorked.not_samePlay hWorks
        hRefused.untouched.curState_eq
      exact ⟨fun hSame => absurd hSame hNot,
        fun hKeeps => absurd hWorks hKeeps.1⟩
    · rcases hWorked with ⟨_, rfl⟩ | ⟨hPlaying, hVlc, _⟩
      · exact ⟨fun _ => ⟨hWorks, .inl hRange⟩,
          fun _ => hRefused.untouched.samePlay⟩
      · exact absurd ⟨hPlaying, hVlc⟩ hWorks
  · rw [hRefused.untouched.samePlay_iff]
    by_cases hWorks : WorksAround s req
    · have hNot :=
        hWorked.not_samePlay hWorks hFixed.curState_eq
      exact ⟨fun hSame => absurd hSame hNot,
        fun hKeeps => absurd hWorks hKeeps.1⟩
    · rcases hWorked with ⟨_, rfl⟩ | ⟨hPlaying, hVlc, _⟩
      · rw [hFixed.curState_eq] at hState
        rw [hFixed.samePlay_iff hState]
        exact ⟨fun hNow => ⟨hWorks, .inr hNow⟩,
          fun hKeeps => hKeeps.2.resolve_left hAccepted⟩
      · exact absurd ⟨hPlaying, hVlc⟩ hWorks
  · have hSame : SameAnswers s w :=
      (hWorked.answers.trans hFixed.answers).trans
        hPlays.answers
    exact absurd hFailed (hReplied.not_failed hSame.2)

/-
  A PLAY that fails leaves the state, the queue and the
  writers as they were exactly if its error comes before they
  are changed.
-/
theorem play_atomic_iff
    (h : rtspPlay env s req = .ok t)
    (hFailed : AnsweredWithin playErrors s t) :
    SamePlay s t ↔ ErrorKeeps env s req := by
  unfold ErrorKeeps
  by_cases hInit : s.curState = .init
  · exact ⟨fun _ => .inl hInit,
      fun _ => rtspPlay_refused (.inl hInit) h⟩
  by_cases hPasses : PassesCheck req
  · rw [rtspPlay_eq hPasses hInit] at h
    rw [playChecked_failed h hFailed]
    simp [hInit, hPasses]
  · exact ⟨fun _ => .inr (.inl hPasses),
      fun _ => rtspPlay_refused (.inr hPasses) h⟩

/- A PLAY of a VLC, with a range that cannot be read. -/
def vlcRequest : RFC822Request :=
  { sampleRequest RTSPMethod.play 3 with
    headers :=
      some [(.cSeq, printInt 3),
        (.userAgent, ascii "VLC media player 0.8.6"),
        (.range, ascii "npt=now")] }

def rangeless : Env :=
  { sampleEnv 1010 with parseRange := fun _ _ => none }

def vlcPlays : Client :=
  System.replayEnd step clientNew (sampleOps.take 2)

/- The client, paused, after the response with 501. -/
def vlcStopped : Client :=
  (pausedAt 1010 vlcPlays 0
    { beginTime := 0
      endTime := 60
      playbackTime := 1000 }).quickResponse vlcRequest 501

theorem vlcPlays_run :
    system.Run
      (System.replayTrace step clientNew (sampleOps.take 2))
      vlcPlays :=
  System.replay_run (by decide) (by decide)

theorem rtspPlay_vlc :
    rtspPlay rangeless vlcPlays vlcRequest =
      .ok vlcStopped := by
  decide +kernel

theorem answeredWithin_vlc :
    AnsweredWithin playErrors vlcPlays vlcStopped :=
  ⟨rtspQuickResponse vlcRequest 501, rfl, by decide⟩

theorem play_atomic_iff_vlc :
    SamePlay vlcPlays vlcStopped ↔
      ErrorKeeps rangeless vlcPlays vlcRequest :=
  play_atomic_iff rtspPlay_vlc answeredWithin_vlc

/- A session that plays is stopped, though it is a 501. -/
theorem play_stops_writers :
    ∃ trace, system.Run trace vlcPlays ∧
      rtspPlay rangeless vlcPlays vlcRequest =
        .ok vlcStopped ∧
      AnsweredWithin playErrors vlcPlays vlcStopped ∧
      vlcPlays.curState = .playing ∧
      vlcStopped.curState = .ready ∧
      armedWriters vlcPlays = [0] ∧
      armedWriters vlcStopped = [] ∧
      ¬ SamePlay vlcPlays vlcStopped := by
  refine ⟨_, vlcPlays_run, rtspPlay_vlc, answeredWithin_vlc,
    by decide +kernel, by decide +kernel, by decide +kernel,
    by decide +kernel, ?_⟩
  intro hSame
  exact absurd hSame.curState (by decide +kernel)

end Play

end Feng
