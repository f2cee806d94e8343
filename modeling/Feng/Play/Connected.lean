import Feng.Play.Serving

/-
  What a client plays does not depend on its connection: the
  methods, the writers and the timer do on a connection what
  they do without one, and put their responses behind those it
  was sent before.

  Key definitions include:
    * `RTSPClient.onto`
    * `Play.Client.onto`
    * `Play.Client.core`

  Key theorems include:
    * `Play.handleRequestBody_onto`
    * `Play.step_sameCore`
-/

------------------------------------------------------------
-- Clients On A Connection
------------------------------------------------------------

namespace Feng

/-
  What a client knows of its session, on the connection of
  another one.
-/
def RTSPClient.onto (rtsp link : RTSPClient) : RTSPClient :=
  { link with
    session := rtsp.session
    lastCseq := rtsp.lastCseq
    peerSa := rtsp.peerSa
    responses := link.responses ++ rtsp.responses }

/- A client off its connection, and before any response. -/
def RTSPClient.core (rtsp : RTSPClient) : RTSPClient :=
  { rtspClientNew with
    session := rtsp.session
    lastCseq := rtsp.lastCseq
    peerSa := rtsp.peerSa }

theorem RTSPClient.core_onto (rtsp : RTSPClient) :
    rtsp.core.onto rtsp = rtsp := by
  unfold RTSPClient.onto RTSPClient.core rtspClientNew
  rw [List.append_nil]

variable {link rtsp : RTSPClient} {req : RFC822Request}

@[simp] theorem RTSPClient.onto_session :
    (rtsp.onto link).session = rtsp.session :=
  rfl

@[simp] theorem RTSPClient.onto_lastCseq :
    (rtsp.onto link).lastCseq = rtsp.lastCseq :=
  rfl

@[simp] theorem RTSPClient.onto_peerSa :
    (rtsp.onto link).peerSa = rtsp.peerSa :=
  rfl

@[simp] theorem RTSPClient.onto_curState :
    (rtsp.onto link).curState = rtsp.curState :=
  rfl

/- What a check gives, on a connection. -/
def checkOnto
    (link : RTSPClient)
    (checked : RTSPClient × Bool) : RTSPClient × Bool :=
  (checked.1.onto link, checked.2)

@[simp] theorem rfc822ResponseSend_onto
    (response : RFC822Response) :
    rfc822ResponseSend (rtsp.onto link) response =
      (rfc822ResponseSend rtsp response).onto link := by
  unfold rfc822ResponseSend RTSPClient.onto
  rw [List.append_assoc]

@[simp] theorem rfc822RequestCheckUrl_onto :
    rfc822RequestCheckUrl (rtsp.onto link) req =
      (rfc822RequestCheckUrl rtsp req).map
        (checkOnto link) := by
  unfold rfc822RequestCheckUrl
  split
  · rw [rfc822ResponseSend_onto]
    rfl
  · split
    · rfl
    · rfl
    · rw [rfc822ResponseSend_onto]
      rfl

@[simp] theorem rtspCheckInvalidState_onto
    (invalidState : RTSPServerState) :
    rtspCheckInvalidState (rtsp.onto link) req
        invalidState =
      checkOnto link
        (rtspCheckInvalidState rtsp req invalidState) := by
  unfold rtspCheckInvalidState
  simp only [RTSPClient.onto_curState,
    rfc822ResponseSend_onto]
  split
  · rfl
  · rfl

@[simp] theorem rtspCheckSession_onto :
    rtspCheckSession (rtsp.onto link) req =
      checkOnto link (rtspCheckSession rtsp req) := by
  unfold rtspCheckSession
  split
  · rfl
  · simp only [RTSPClient.onto_session,
      rfc822ResponseSend_onto]
    split
    · rfl
    · rfl

@[simp] theorem rtspCheckRequiredOptions_onto :
    rtspCheckRequiredOptions (rtsp.onto link) req =
      checkOnto link (rtspCheckRequiredOptions rtsp req) := by
  unfold rtspCheckRequiredOptions
  simp only [rfc822ResponseSend_onto]
  split
  · rfl
  · rfl

@[simp] theorem rtspOptions_onto :
    rtspOptions (rtsp.onto link) req =
      (rtspOptions rtsp req).onto link := by
  unfold rtspOptions
  rw [rfc822ResponseSend_onto]

end Feng

------------------------------------------------------------
-- DESCRIBE And SETUP On A Connection
------------------------------------------------------------

namespace Feng

variable {link rtsp : RTSPClient} {req : RFC822Request}
variable {env : UrlEnv} {session : RTSPSession}

@[simp] theorem rtspDescribe_onto :
    rtspDescribe env (rtsp.onto link) req =
      (rtspDescribe env rtsp req).map
        (fun result => (result.1.onto link, result.2)) := by
  unfold rtspDescribe
  rw [rfc822RequestCheckUrl_onto]
  cases rfc822RequestCheckUrl rtsp req with
  | error fault => rfl
  | ok checked =>
      rcases checked with ⟨rtsp', _ | _⟩
      · rfl
      · have hSame :
            sdpSessionDescr env (rtsp'.onto link) req =
              sdpSessionDescr env rtsp' req :=
          rfl
        simp only [Except.map, checkOnto, hSame]
        rcases sdpSessionDescr env rtsp' req with
          _ | ⟨_ | _, _⟩
        · rfl
        · simp
        · simp

@[simp] theorem findNamedTrack_onto
    (resource : Resource)
    (trackname : List UInt8) :
    findNamedTrack (rtsp.onto link) req resource
        trackname =
      ((findNamedTrack rtsp req resource
          trackname).1.onto link,
        (findNamedTrack rtsp req resource trackname).2) := by
  unfold findNamedTrack
  simp only [rfc822ResponseSend_onto]
  split
  · rfl
  · split
    · rfl
    · rfl

@[simp] theorem RTSPClient.onto_setSession
    (session : Option RTSPSession) :
    { rtsp.onto link with session := session } =
      { rtsp with session := session }.onto link :=
  rfl

/- What the choice of a track gives, on a connection. -/
def trackOnto
    (link : RTSPClient)
    (chosen : RTSPClient × Option (List UInt8) ×
      Option (List UInt8)) :
    RTSPClient × Option (List UInt8) ×
      Option (List UInt8) :=
  (chosen.1.onto link, chosen.2)

@[simp] theorem openRequestedTrack_onto
    (object : List UInt8) :
    openRequestedTrack env (rtsp.onto link) req session
        object =
      (openRequestedTrack env rtsp req session object).map
        (trackOnto link) := by
  unfold openRequestedTrack
  simp only [rfc822ResponseSend_onto,
    RTSPClient.onto_setSession, findNamedTrack_onto]
  split
  · rfl
  · cases unescapedPath env req with
    | error fault => rfl
    | ok unescaped =>
        simp only
        cases rOpen env _ with
        | none => rfl
        | some resource => rfl

@[simp] theorem selectRequestedTrack_onto :
    selectRequestedTrack env (rtsp.onto link) req session =
      (selectRequestedTrack env rtsp req session).map
        (trackOnto link) := by
  unfold selectRequestedTrack
  cases req.object with
  | none => rfl
  | some object =>
      simp only
      cases session.resource with
      | none => exact openRequestedTrack_onto object
      | some opened =>
          rcases opened with ⟨resource, resourceUri⟩
          simp only [rfc822ResponseSend_onto,
            findNamedTrack_onto]
          split
          · rfl
          · rfl

@[simp] theorem setupTrack_onto
    (track : List UInt8) :
    setupTrack env (rtsp.onto link) req track =
      (setupTrack env rtsp req track).onto link := by
  unfold setupTrack
  rw [RTSPClient.onto_session]
  cases rtsp.session with
  | none => simp
  | some session =>
      cases env.transportString with
      | none => simp
      | some transportString =>
          simp only [rfc822ResponseSend_onto]
          rfl

end Feng

------------------------------------------------------------
-- Playback On A Connection
------------------------------------------------------------

namespace Feng

namespace Play

/- A client, on the connection of another one. -/
def Client.onto (s : Client) (link : RTSPClient) : Client :=
  { s with rtsp := s.rtsp.onto link }

/- A client off its connection, and before any response. -/
def Client.core (s : Client) : Client :=
  { s with rtsp := s.rtsp.core }

theorem Client.core_onto (s : Client) :
    s.core.onto s.rtsp = s := by
  unfold Client.onto Client.core
  rw [RTSPClient.core_onto]

variable {link : RTSPClient} {req : RFC822Request}
variable {env : Env} {s : Client}

@[simp] theorem Client.onto_rtsp :
    (s.onto link).rtsp = s.rtsp.onto link :=
  rfl

@[simp] theorem Client.onto_curState :
    (s.onto link).curState = s.curState :=
  rfl

@[simp] theorem Client.onto_headRange :
    (s.onto link).headRange = s.headRange :=
  rfl

@[simp] theorem Client.onto_rangeAt (address : Nat) :
    (s.onto link).rangeAt address = s.rangeAt address :=
  rfl

@[simp] theorem Client.onto_deref (pointer : Option Nat) :
    (s.onto link).deref pointer = s.deref pointer :=
  rfl

@[simp] theorem Client.onto_playback :
    (s.onto link).playback = s.playback :=
  rfl

@[simp] theorem Client.onto_setRtsp (rtsp : RTSPClient) :
    { s.onto link with rtsp := rtsp.onto link } =
      { s with rtsp := rtsp }.onto link :=
  rfl

@[simp] theorem Client.onto_setState
    (state : RTSPServerState) :
    (s.onto link).setState state =
      (s.setState state).onto link :=
  rfl

@[simp] theorem Client.onto_setSessions
    (rtpSessions : List RTPSession) :
    (s.onto link).setSessions rtpSessions =
      (s.setSessions rtpSessions).onto link :=
  rfl

@[simp] theorem Client.onto_setRange
    (address : Nat)
    (range : RTSPRange) :
    (s.onto link).setRange address range =
      (s.setRange address range).onto link :=
  rfl

@[simp] theorem Client.send_onto
    (response : RFC822Response) :
    (s.onto link).send response =
      (s.send response).onto link := by
  unfold Client.send Client.onto
  simp only [rfc822ResponseSend_onto]

@[simp] theorem Client.quickResponse_onto (code : Nat) :
    (s.onto link).quickResponse req code =
      (s.quickResponse req code).onto link := by
  unfold Client.quickResponse
  rw [Client.send_onto]

/- What comes with a client, on a connection. -/
def withOnto
    {α : Type}
    (link : RTSPClient)
    (result : Client × α) : Client × α :=
  (result.1.onto link, result.2)

@[simp] theorem rtspDoPause_onto (now : ℚ) :
    rtspDoPause now (s.onto link) =
      (rtspDoPause now s).map (·.onto link) := by
  unfold rtspDoPause
  simp only [Client.onto_headRange, Client.onto_rangeAt,
    Client.onto_rtsp, RTSPClient.onto_session]
  cases s.rtsp.session with
  | none => rfl
  | some session =>
      cases s.headRange with
      | none => rfl
      | some address =>
          simp only
          cases s.rangeAt address with
          | none => rfl
          | some range => rfl

@[simp] theorem workAround_onto :
    workAround env (s.onto link) req =
      (workAround env s req).map (·.onto link) := by
  unfold workAround
  simp only [Client.onto_curState, rtspDoPause_onto]
  split
  · rfl
  · rfl

@[simp] theorem queueRange_onto (range : RTSPRange) :
    queueRange env (s.onto link) range =
      (queueRange env s range).onto link := by
  unfold queueRange
  rw [Client.onto_curState]
  by_cases hState : s.curState ≠ .playing
  · simp only [if_pos hState]
    rfl
  · simp only [if_neg hState]
    rfl

@[simp] theorem parseRangeHeader_onto :
    parseRangeHeader env (s.onto link) req =
      (parseRangeHeader env s req).map (withOnto link) := by
  unfold parseRangeHeader
  simp only [Client.onto_headRange, Client.onto_rangeAt,
    Client.onto_setRange]
  split
  · split
    · rfl
    · rfl
  · split
    · rfl
    · rename_i range _
      rw [queueRange_onto]
      by_cases hResource : hasResource s = false
      · have hOnto : hasResource (s.onto link) = false :=
          hResource
        rw [if_pos hOnto, if_pos hResource]
        rfl
      · have hOnto : ¬ hasResource (s.onto link) = false :=
          hResource
        rw [if_neg hOnto, if_neg hResource]
        by_cases hLive : env.seekable = false ∧
            range.beginTime ≠ 0 ∧ range.endTime ≠ -1 / 10
        · rw [if_pos hLive, if_pos hLive]
          rfl
        · rw [if_neg hLive, if_neg hLive]
          rfl

@[simp] theorem startPlaying_onto :
    startPlaying env (s.onto link) =
      (startPlaying env s).map (withOnto link) := by
  unfold startPlaying
  rw [Client.onto_setState]
  generalize s.setState .playing = t
  simp only
  by_cases hMulticast :
      (t.playback.rtpSessions.head?).any
        (fun session => session.multicast) = true
  · have hOnto :
        ((t.onto link).playback.rtpSessions.head?).any
          (fun session => session.multicast) = true :=
      hMulticast
    rw [if_pos hOnto, if_pos hMulticast]
    rfl
  · have hOnto :
        ¬ ((t.onto link).playback.rtpSessions.head?).any
          (fun session => session.multicast) = true :=
      hMulticast
    rw [if_neg hOnto, if_neg hMulticast]
    simp only [Client.onto_playback, Client.onto_headRange,
      Client.onto_deref]
    cases t.headRange with
    | none =>
        cases t.deref none with
        | error fault => rfl
        | ok range => rfl
    | some address =>
        cases t.deref (some address) with
        | error fault => rfl
        | ok range => rfl

@[simp] theorem doPlay_onto :
    doPlay env (s.onto link) =
      (doPlay env s).map (withOnto link) := by
  unfold doPlay
  simp only [Client.onto_headRange, Client.onto_deref,
    startPlaying_onto]
  by_cases hResource : hasResource s = false
  · have hOnto : hasResource (s.onto link) = false :=
      hResource
    rw [if_pos hOnto, if_pos hResource]
    rfl
  · have hOnto : ¬ hasResource (s.onto link) = false :=
      hResource
    rw [if_neg hOnto, if_neg hResource]
    by_cases hSeekable : env.seekable = true
    · rw [if_pos hSeekable, if_pos hSeekable]
      cases s.deref s.headRange with
      | error fault => rfl
      | ok range =>
          simp only
          by_cases hFails : env.seekFails range.beginTime
          · rw [if_pos hFails, if_pos hFails]
            rfl
          · rw [if_neg hFails, if_neg hFails]
    · rw [if_neg hSeekable, if_neg hSeekable]

@[simp] theorem sendPlayReply_onto :
    sendPlayReply (s.onto link) req =
      (sendPlayReply s req).map (·.onto link) := by
  unfold sendPlayReply
  simp only [Client.onto_headRange, Client.onto_deref,
    Client.send_onto]
  split
  · rfl
  · rfl

@[simp] theorem playUnlessPlaying_onto :
    playUnlessPlaying env (s.onto link) =
      (playUnlessPlaying env s).map (withOnto link) := by
  unfold playUnlessPlaying
  simp only [Client.onto_curState, doPlay_onto]
  split
  · rfl
  · rfl

@[simp] theorem playChecked_onto :
    playChecked env (s.onto link) req =
      (playChecked env s req).map (·.onto link) := by
  unfold playChecked
  rw [workAround_onto]
  cases workAround env s req with
  | error fault => rfl
  | ok t =>
      simp only [Except.map, bind, Except.bind]
      rw [parseRangeHeader_onto]
      cases parseRangeHeader env t req with
      | error fault => rfl
      | ok parsed =>
          rcases parsed with ⟨u, code⟩
          simp only [Except.map, withOnto]
          split
          · rw [Client.quickResponse_onto]
          · rw [playUnlessPlaying_onto]
            cases playUnlessPlaying env u with
            | error fault => rfl
            | ok played =>
                rcases played with ⟨v, code⟩
                simp only [Except.map, withOnto]
                split
                · rw [Client.quickResponse_onto]
                · rw [sendPlayReply_onto]
                  cases sendPlayReply v req with
                  | error fault => rfl
                  | ok w => rfl

@[simp] theorem rtpInterleavedTransport_onto
    (address : Nat)
    (parsed : ParsedTransport) :
    rtpInterleavedTransport env (s.onto link) address
        parsed =
      withOnto link
        (rtpInterleavedTransport env s address parsed) := by
  have hFree :
      (s.onto link).firstFreeChannel = s.firstFreeChannel :=
    rfl
  unfold rtpInterleavedTransport
  simp only [hFree]
  split
  · rfl
  · rfl

@[simp] theorem rtpTransportInit_onto
    (address : Nat)
    (transports : List ParsedTransport) :
    rtpTransportInit env (s.onto link) address transports =
      (rtpTransportInit env s address transports).map
        (withOnto link) := by
  induction transports generalizing s with
  | nil => rfl
  | cons parsed transports ih =>
      unfold rtpTransportInit
      cases parsed.protocol with
      | sctp => rfl
      | udp =>
          simp only
          cases env.udpTransport with
          | some transportString => rfl
          | none => exact ih
      | tcp =>
          simp only [rtpInterleavedTransport_onto]
          rcases rtpInterleavedTransport env s address parsed
            with ⟨t, _ | chosen⟩
          · exact ih
          · rfl

@[simp] theorem rtpSessionNew_onto
    (uri track : List UInt8)
    (transports : List ParsedTransport) :
    rtpSessionNew env (s.onto link) uri track transports =
      (rtpSessionNew env s uri track transports).map
        (withOnto link) := by
  have hInit :
      rtpTransportInit env
          { s.onto link with nextAddress := s.nextAddress + 1 }
          s.nextAddress transports =
        (rtpTransportInit env
          { s with nextAddress := s.nextAddress + 1 }
          s.nextAddress transports).map (withOnto link) :=
    rtpTransportInit_onto
      (s := { s with nextAddress := s.nextAddress + 1 }) _ _
  have hAddress :
      (s.onto link).nextAddress = s.nextAddress :=
    rfl
  unfold rtpSessionNew
  simp only [hAddress, hInit]
  rcases rtpTransportInit env _ _ _ with _ | ⟨t, _ | chosen⟩
  · rfl
  · rfl
  · rfl

@[simp] theorem setupTrack_onto
    (track : List UInt8) :
    setupTrack env (s.onto link) req track =
      (setupTrack env s req track).map (·.onto link) := by
  unfold setupTrack
  rw [rtpSessionNew_onto]
  rcases rtpSessionNew env s _ track _ with
    _ | ⟨t, _ | ⟨session, transportString⟩⟩
  · rfl
  · simp [Except.map, withOnto]
  · simp [Except.map, withOnto]
    rfl

@[simp] theorem openSession_onto :
    openSession env (s.onto link) =
      withOnto link (openSession env s) := by
  unfold openSession
  rw [Client.onto_rtsp, RTSPClient.onto_session]
  cases s.rtsp.session with
  | none => rfl
  | some session => rfl

@[simp] theorem rtspSetup_onto :
    rtspSetup env (s.onto link) req =
      (rtspSetup env s req).map (·.onto link) := by
  unfold rtspSetup
  rw [Client.onto_rtsp, rfc822RequestCheckUrl_onto]
  rcases rfc822RequestCheckUrl s.rtsp req with
    _ | ⟨rtsp, _ | _⟩
  · rfl
  · rfl
  · simp only [Except.map, checkOnto]
    by_cases hNone : offeredTransports env req = []
    · rw [if_pos hNone, if_pos hNone,
        Client.quickResponse_onto]
    · rw [if_neg hNone, if_neg hNone, openSession_onto]
      rcases openSession env s with ⟨t, session⟩
      simp only [withOnto, Client.onto_rtsp,
        selectRequestedTrack_onto]
      rcases selectRequestedTrack (env.urlEnv none) t.rtsp
        req session with _ | ⟨rtsp, opened, _ | track⟩
      · rfl
      · rfl
      · exact setupTrack_onto
          (s := { t with rtsp := rtsp }) track

@[simp] theorem rtspTeardown_onto :
    rtspTeardown (s.onto link) req =
      (rtspTeardown s req).map (·.onto link) := by
  unfold rtspTeardown
  rw [Client.onto_rtsp, rfc822RequestCheckUrl_onto]
  rcases rfc822RequestCheckUrl s.rtsp req with
    _ | ⟨rtsp, _ | _⟩
  · rfl
  · rfl
  · have hFreed :
        { rtspSessionFree s with
            rtsp :=
              { (rtspSessionFree s).rtsp with
                session := none } }.onto link =
          { rtspSessionFree (s.onto link) with
            rtsp :=
              { (rtspSessionFree (s.onto link)).rtsp with
                session := none } } :=
      rfl
    simp only [Except.map, checkOnto]
    rw [← hFreed, Client.quickResponse_onto]

@[simp] theorem rtspPause_onto :
    rtspPause env (s.onto link) req =
      (rtspPause env s req).map (·.onto link) := by
  unfold rtspPause
  rw [Client.onto_rtsp, rtspCheckInvalidState_onto,
    rtspCheckInvalidState_onto, rfc822RequestCheckUrl_onto,
    rtspDoPause_onto]
  rcases rtspCheckInvalidState s.rtsp req .init with
    ⟨rtsp, _ | _⟩
  · rfl
  · rcases rtspCheckInvalidState s.rtsp req .ready with
      ⟨rtsp, _ | _⟩
    · rfl
    · rcases rfc822RequestCheckUrl s.rtsp req with
        _ | ⟨rtsp, _ | _⟩
      · rfl
      · rfl
      · cases rtspDoPause env.evNow s with
        | error fault => rfl
        | ok t =>
            simp only [Except.map, checkOnto]
            rw [Client.quickResponse_onto]

@[simp] theorem rtspPlay_onto :
    rtspPlay env (s.onto link) req =
      (rtspPlay env s req).map (·.onto link) := by
  unfold rtspPlay
  rw [Client.onto_rtsp, rtspCheckInvalidState_onto,
    rfc822RequestCheckUrl_onto]
  rcases rtspCheckInvalidState s.rtsp req .init with
    ⟨rtsp, _ | _⟩
  · rfl
  · rcases rfc822RequestCheckUrl s.rtsp req with
      _ | ⟨rtsp, _ | _⟩
    · rfl
    · rfl
    · exact playChecked_onto

@[simp] theorem rtspDescribe_onto :
    rtspDescribe env (s.onto link) req =
      (rtspDescribe env s req).map (·.onto link) := by
  unfold rtspDescribe
  rw [Client.onto_rtsp, Feng.rtspDescribe_onto]
  rcases Feng.rtspDescribe (env.urlEnv none) s.rtsp req with
    _ | ⟨rtsp, opened⟩
  · rfl
  · rfl

theorem callMethod_onto :
    callMethod env (s.onto link) req =
      (callMethod env s req).map (·.onto link) := by
  unfold callMethod
  by_cases hOptions : req.methodId = RTSPMethod.options
  · rw [if_pos hOptions, if_pos hOptions, Client.onto_rtsp,
      rtspOptions_onto]
    rfl
  · rw [if_neg hOptions, if_neg hOptions]
    cases urlMethodOf req.methodId with
    | none => rfl
    | some method =>
        cases method with
        | describe => exact rtspDescribe_onto
        | setup => exact rtspSetup_onto
        | play => exact rtspPlay_onto
        | pause => exact rtspPause_onto
        | teardown => exact rtspTeardown_onto

theorem handleNumberedRequest_onto (cseqVal : Nat) :
    handleNumberedRequest env (s.onto link) req cseqVal =
      (handleNumberedRequest env s req cseqVal).map
        (·.onto link) := by
  have hCheck :
      rtspCheckSession
          { (s.onto link).rtsp with lastCseq := cseqVal }
          req =
        checkOnto link
          (rtspCheckSession
            { s.rtsp with lastCseq := cseqVal } req) :=
    @rtspCheckSession_onto link
      { s.rtsp with lastCseq := cseqVal } req
  unfold handleNumberedRequest
  rw [hCheck]
  rcases rtspCheckSession
    { s.rtsp with lastCseq := cseqVal } req with
    ⟨rtsp, _ | _⟩
  · rfl
  · simp only [checkOnto, rtspCheckRequiredOptions_onto]
    rcases rtspCheckRequiredOptions rtsp req with
      ⟨rtsp', _ | _⟩
    · rfl
    · exact callMethod_onto (s := { s with rtsp := rtsp' })

theorem handleRequestBody_onto :
    handleRequestBody env (s.onto link) req =
      (handleRequestBody env s req).map (·.onto link) := by
  unfold handleRequestBody
  simp only [Client.quickResponse_onto,
    handleNumberedRequest_onto, Client.onto_rtsp,
    RTSPClient.onto_lastCseq]
  split
  · rfl
  · split
    · rfl
    · split
      · rfl
      · split
        · rfl
        · rfl

end Play

end Feng

------------------------------------------------------------
-- What A Client Does Off Its Connection
------------------------------------------------------------

namespace Feng

namespace Play

variable {link : RTSPClient} {s t q : Client} {op : Op}

theorem writeStep_onto
    (env : WriterEnv)
    (address : Nat) :
    writeStep env (s.onto link) address =
      (writeStep env s address).map (·.onto link) := by
  have hAt :
      sessionAt (s.onto link) address = sessionAt s address :=
    rfl
  have hWrite :
      ∀ session due,
        rtpWriteCb env (s.onto link) session due =
          rtpWriteCb env s session due := by
    intro session due
    rfl
  unfold writeStep
  rw [hAt]
  cases sessionAt s address with
  | none => rfl
  | some session =>
      simp only [hWrite]
      cases session.rtpWriter with
      | none => rfl
      | some due =>
          simp only
          cases rtpWriteCb env s session due with
          | error fault => rfl
          | ok next => rfl

/- Some stream has had no packet for too long. -/
abbrev TimedOut (time : Nat) (playback : Playback) : Prop :=
  playback.rtpSessions.any (fun session =>
    session.lastPacketSendTime + streamTimeout ≤ time) = true

/-
  What a step does on a connection is what it does without
  one, and its responses come behind those there were.
-/
theorem step_onto
    (link : RTSPClient)
    (s : Client)
    (op : Op) :
    (∃ fault, step (s.onto link) op = .error fault ∧
      step s op = .error fault) ∨
    ∃ t u, step (s.onto link) op = .ok t ∧
      step s op = .ok u ∧ t.core = u.core ∧
      t.rtsp.responses =
        link.responses ++ u.rtsp.responses := by
  cases op with
  | request req env =>
      simp only [step, rtspHandleRequest,
        handleRequestBody_onto]
      cases handleRequestBody env s req with
      | error fault => exact .inl ⟨fault, rfl, rfl⟩
      | ok u => exact .inr ⟨_, _, rfl, rfl, rfl, rfl⟩
  | write address env =>
      simp only [step, writeStep_onto]
      cases writeStep env s address with
      | error fault => exact .inl ⟨fault, rfl, rfl⟩
      | ok u => exact .inr ⟨_, u, rfl, rfl, rfl, rfl⟩
  | timeout time =>
      simp only [step, clientEvTimeout, Client.onto_rtsp,
        RTSPClient.onto_session]
      cases s.rtsp.session with
      | none => exact .inl ⟨_, rfl, rfl⟩
      | some session =>
          refine .inr ⟨_, _, rfl, rfl, ?_⟩
          by_cases hKicked : TimedOut time s.playback
          · have hOnto :
                TimedOut time (s.onto link).playback :=
              hKicked
            rw [if_pos hOnto, if_pos hKicked]
            exact ⟨rfl, rfl⟩
          · have hOnto :
                ¬ TimedOut time (s.onto link).playback :=
              hKicked
            rw [if_neg hOnto, if_neg hKicked]
            exact ⟨rfl, rfl⟩

/- Two clients with one core do the same. -/
theorem step_sameCore
    (hCore : s.core = q.core)
    (h : step s op = .ok t) :
    ∃ q' responses, step q op = .ok q' ∧
      t.core = q'.core ∧
      t.rtsp.responses = s.rtsp.responses ++ responses ∧
      q'.rtsp.responses = q.rtsp.responses ++ responses := by
  have hOwn := step_onto s.rtsp s.core op
  have hOther := step_onto q.rtsp s.core op
  rw [Client.core_onto, h] at hOwn
  rw [hCore, Client.core_onto, ← hCore] at hOther
  rcases hOwn with ⟨fault, hFault, _⟩ |
    ⟨t', u, hStep, hAlone, hSame, hResponses⟩
  · cases hFault
  cases hStep
  rcases hOther with ⟨fault, _, hFault⟩ |
    ⟨q', u', hStep', hAlone', hSame', hResponses'⟩
  · rw [hAlone] at hFault
    cases hFault
  rw [hAlone] at hAlone'
  cases hAlone'
  exact ⟨q', u.rtsp.responses, hStep', hSame.trans hSame'.symm,
    hResponses, hResponses'⟩

/- And what is armed for one is armed for the other. -/
theorem enabled_sameCore
    (hCore : s.core = q.core)
    (h : enabled s op) :
    enabled q op := by
  have hPlayback : s.playback = q.playback := by
    change s.core.playback = q.core.playback
    rw [hCore]
  have hTimer : s.evTimeout = q.evTimeout := by
    change s.core.evTimeout = q.core.evTimeout
    rw [hCore]
  cases op with
  | request req env => trivial
  | write address env =>
      simpa only [enabled, sessionAt, hPlayback] using h
  | timeout time =>
      simpa only [enabled, hTimer] using h

end Play

end Feng
