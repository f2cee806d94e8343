import Feng.Lib.Except
import Feng.Play.Methods

/-
  What the handlers of a client that plays can do: one lemma
  for each check and each method, from which everything else
  about them is proved.

  A request is denied by one response that carries its `CSeq`
  header, and is not otherwise acted upon.

  Key definitions include:
    * `Play.Carries`
    * `Play.Denied`
    * `Play.Reaches`

  Key theorems include:
    * `Play.rtspSetup_cases`
    * `Play.playChecked_cases`
    * `Play.rtspHandleRequest_cases`
-/

------------------------------------------------------------
-- Responses
------------------------------------------------------------

namespace Feng

namespace Play

variable {req : RFC822Request} {response : RFC822Response}
variable {rtsp rtsp' : RTSPClient}

/- The response has the `CSeq` of the request, if any. -/
def Carries
    (req : RFC822Request)
    (response : RFC822Response) : Prop :=
  rfc822HeadersLookup (some response.headers) .cSeq =
    rfc822HeadersLookup req.headers .cSeq

/- A client was sent one response, with an error. -/
def Denied
    (req : RFC822Request)
    (rtsp rtsp' : RTSPClient) : Prop :=
  ∃ response,
    rtsp' = rfc822ResponseSend rtsp response ∧
      Carries req response ∧ response.status ≠ 200

theorem lookup_copyHeader
    (headers : RFC822Headers)
    (header other : RFC822Header)
    (hNe : other ≠ header) :
    rfc822HeadersLookup (some (copyHeader req headers header))
        other =
      rfc822HeadersLookup (some headers) other := by
  unfold copyHeader
  cases rfc822HeadersLookup req.headers header with
  | none => rfl
  | some value =>
      rw [rfc822HeadersLookup_set, if_neg hNe]

theorem rfc822ResponseNew_carries
    (req : RFC822Request)
    (code : Nat) :
    Carries req (rfc822ResponseNew req code) := by
  unfold Carries rfc822ResponseNew
  rw [lookup_copyHeader _ _ _ (by decide),
    lookup_copyHeader _ _ _ (by decide)]
  unfold copyHeader
  cases hValue : rfc822HeadersLookup req.headers .cSeq with
  | none => rfl
  | some value =>
      rw [rfc822HeadersLookup_set, if_pos rfl]

/- Another header can be set. -/
theorem Carries.set
    (h : Carries req response)
    (header : RFC822Header)
    (value : List UInt8)
    (hNe : RFC822Header.cSeq ≠ header) :
    Carries req
      { response with
        headers :=
          rfc822HeadersSet response.headers header value } := by
  unfold Carries
  rw [rfc822HeadersLookup_set, if_neg hNe]
  exact h

theorem rtspQuickResponse_carries
    (req : RFC822Request)
    (code : Nat) :
    Carries req (rtspQuickResponse req code) :=
  (rfc822ResponseNew_carries req code).set .connection _
    (by decide)

theorem denied_quick
    (req : RFC822Request)
    (rtsp : RTSPClient)
    (code : Nat)
    (hCode : code ≠ 200) :
    Denied req rtsp
      (rfc822ResponseSend rtsp (rtspQuickResponse req code)) :=
  ⟨_, rfl, rtspQuickResponse_carries req code, hCode⟩

end Play

end Feng

------------------------------------------------------------
-- Checks
------------------------------------------------------------

namespace Feng

namespace Play

variable {req : RFC822Request} {rtsp : RTSPClient}

theorem rfc822RequestCheckUrl_cases
    (req : RFC822Request)
    (rtsp : RTSPClient) :
    (PassesCheck req ∧
      rfc822RequestCheckUrl rtsp req = .ok (rtsp, true)) ∨
    (¬ PassesCheck req ∧ ∃ denied,
      Denied req rtsp denied ∧
        rfc822RequestCheckUrl rtsp req =
          .ok (denied, false)) ∨
    (¬ PassesCheck req ∧ ∃ fault,
      rfc822RequestCheckUrl rtsp req = .error fault) := by
  unfold rfc822RequestCheckUrl PassesCheck
  cases hUri : req.uri with
  | none =>
      exact .inr (.inl
        ⟨by simp, _, denied_quick req rtsp 400 (by decide), rfl⟩)
  | some uri =>
      cases hCheck : checkForbiddenPath uri with
      | error fault =>
          refine .inr (.inr ⟨by simp [hCheck], fault, ?_⟩)
          simp only [hCheck]
      | ok passed =>
          cases passed with
          | true =>
              refine .inl ⟨⟨uri, rfl, hCheck⟩, ?_⟩
              simp only [hCheck]
          | false =>
              refine .inr (.inl
                ⟨by simp [hCheck], _,
                  denied_quick req rtsp 403 (by decide), ?_⟩)
              simp only [hCheck]

theorem rtspCheckInvalidState_cases
    (req : RFC822Request)
    (rtsp : RTSPClient)
    (state : RTSPServerState) :
    (rtsp.curState ≠ state ∧
      rtspCheckInvalidState rtsp req state = (rtsp, true)) ∨
    (rtsp.curState = state ∧ ∃ denied,
      Denied req rtsp denied ∧
        rtspCheckInvalidState rtsp req state =
          (denied, false)) := by
  unfold rtspCheckInvalidState
  by_cases hState : rtsp.curState = state
  · rw [if_neg (not_not.mpr hState)]
    refine .inr ⟨hState, _, ⟨_, rfl, ?_, ?_⟩, rfl⟩
    · exact (rfc822ResponseNew_carries req 455).set .allow _
        (by decide)
    · exact (by decide : (455 : Nat) ≠ 200)
  · rw [if_pos hState]
    exact .inl ⟨hState, rfl⟩

theorem rtspCheckSession_cases
    (req : RFC822Request)
    (rtsp : RTSPClient) :
    rtspCheckSession rtsp req = (rtsp, true) ∨
    ∃ denied, Denied req rtsp denied ∧
      rtspCheckSession rtsp req = (denied, false) := by
  unfold rtspCheckSession
  cases rfc822HeadersLookup req.headers .session with
  | none => exact .inl rfl
  | some sessionHdr =>
      simp only
      split
      · exact .inl rfl
      · exact .inr ⟨_, denied_quick req rtsp 454 (by decide), rfl⟩

theorem rtspCheckRequiredOptions_cases
    (req : RFC822Request)
    (rtsp : RTSPClient) :
    rtspCheckRequiredOptions rtsp req = (rtsp, true) ∨
    ∃ denied, Denied req rtsp denied ∧
      rtspCheckRequiredOptions rtsp req = (denied, false) := by
  unfold rtspCheckRequiredOptions
  simp only
  split
  · exact .inl rfl
  · refine .inr ⟨_, ⟨_, rfl, ?_, ?_⟩, rfl⟩
    · exact (rfc822ResponseNew_carries req 551).set
        .unsupported _ (by decide)
    · exact (by decide : (551 : Nat) ≠ 200)

end Play

end Feng

------------------------------------------------------------
-- The Track Of A SETUP
------------------------------------------------------------

namespace Feng

namespace Play

variable {env : UrlEnv} {req : RFC822Request}
variable {rtsp rtsp' : RTSPClient} {session : RTSPSession}
variable {opened track : Option (List UInt8)}

theorem findNamedTrack_cases
    (rtsp : RTSPClient)
    (req : RFC822Request)
    (resource : Resource)
    (trackname : List UInt8) :
    findNamedTrack rtsp req resource trackname =
        (rtsp, some trackname) ∨
    ∃ denied, Denied req rtsp denied ∧
      findNamedTrack rtsp req resource trackname =
        (denied, none) := by
  unfold findNamedTrack
  split
  · exact .inr ⟨_, denied_quick req rtsp 460 (by decide), rfl⟩
  · split
    · exact .inl rfl
    · exact .inr ⟨_, denied_quick req rtsp 404 (by decide), rfl⟩

/- A session, with its resource if that was just opened. -/
def ResourceOpened (session next : RTSPSession) : Prop :=
  next = session ∨
    session.resource = none ∧ ∃ resource,
      next = { session with resource := some resource }

/- What choosing a track makes of a client with a session. -/
def TrackChosen
    (req : RFC822Request)
    (rtsp : RTSPClient)
    (session : RTSPSession)
    (rtsp' : RTSPClient)
    (track : Option (List UInt8)) : Prop :=
  ∃ next, ResourceOpened session next ∧
    ((track = none ∧
      Denied req { rtsp with session := some next } rtsp') ∨
    (track.isSome = true ∧ next.resource.isSome = true ∧
      rtsp' = { rtsp with session := some next }))

theorem selectRequestedTrack_cases
    (hSession : rtsp.session = some session)
    (h :
      selectRequestedTrack env rtsp req session =
        .ok (rtsp', opened, track)) :
    TrackChosen req rtsp session rtsp' track := by
  have hSame : { rtsp with session := some session } = rtsp := by
    rw [← hSession]
  unfold selectRequestedTrack at h
  cases hObject : req.object with
  | none =>
      rw [hObject] at h
      cases h
  | some object =>
      rw [hObject] at h
      cases hResource : session.resource with
      | none =>
          simp only [hResource, openRequestedTrack] at h
          split at h
          · cases h
            refine ⟨session, .inl rfl, .inl ⟨rfl, ?_⟩⟩
            rw [hSame]
            exact denied_quick req rtsp 460 (by decide)
          · split at h
            · cases h
            · split at h
              · cases h
                refine ⟨session, .inl rfl, .inl ⟨rfl, ?_⟩⟩
                rw [hSame]
                exact denied_quick req rtsp 404 (by decide)
              · rename_i resource _
                refine ⟨_,
                  .inr ⟨hResource,
                    (resource, beforeLastSlash object), rfl⟩,
                  ?_⟩
                rcases findNamedTrack_cases
                  { rtsp with
                    session := some { session with
                      resource :=
                        some (resource,
                          beforeLastSlash object) } }
                  req resource (afterLastSlash object) with
                  hFound | ⟨denied, hDenied, hFound⟩
                · rw [hFound] at h
                  cases h
                  exact .inr ⟨rfl, rfl, rfl⟩
                · rw [hFound] at h
                  cases h
                  exact .inl ⟨rfl, hDenied⟩
      | some entry =>
          rcases entry with ⟨resource, resourceUri⟩
          simp only [hResource] at h
          refine ⟨session, .inl rfl, ?_⟩
          rw [hSame]
          split at h
          · cases h
            exact .inl
              ⟨rfl, denied_quick req rtsp 460 (by decide)⟩
          · rcases findNamedTrack_cases rtsp req resource
              (object.drop (resourceUri.length + 1)) with
              hFound | ⟨denied, hDenied, hFound⟩
            · rw [hFound] at h
              cases h
              exact .inr ⟨rfl, by simp [hResource], rfl⟩
            · rw [hFound] at h
              cases h
              exact .inl ⟨rfl, hDenied⟩

end Play

end Feng

------------------------------------------------------------
-- SETUP
------------------------------------------------------------

namespace Feng

namespace Play

variable {env : Env} {req : RFC822Request} {s t : Client}
variable {uri track : List UInt8}
variable {transports : List ParsedTransport}

/- A response was sent, and nothing else happened. -/
def Answered
    (req : RFC822Request)
    (code : Nat)
    (s t : Client) : Prop :=
  ∃ response, t = s.send response ∧ Carries req response ∧
    response.status = code

/- An error was sent, and nothing else happened. -/
def Refused
    (req : RFC822Request)
    (s t : Client) : Prop :=
  ∃ code, code ≠ 200 ∧ Answered req code s t

theorem answered_quick
    (req : RFC822Request)
    (s : Client)
    (code : Nat) :
    Answered req code s (s.quickResponse req code) :=
  ⟨_, rfl, rtspQuickResponse_carries req code, rfl⟩

theorem refused_quick
    (req : RFC822Request)
    (s : Client)
    (code : Nat)
    (hCode : code ≠ 200) :
    Refused req s (s.quickResponse req code) :=
  ⟨code, hCode, answered_quick req s code⟩

theorem Denied.refused
    {rtsp : RTSPClient}
    (h : Denied req s.rtsp rtsp) :
    Refused req s { s with rtsp := rtsp } := by
  rcases h with ⟨response, rfl, hCarries, hStatus⟩
  exact ⟨response.status, hStatus, response, rfl, hCarries,
    rfl⟩

/- The session is there, perhaps with a resource opened. -/
def Opened (env : Env) (s t : Client) : Prop :=
  ∃ next,
    ResourceOpened (openSession env s).2 next ∧
      t = { (openSession env s).1 with
        rtsp :=
          { (openSession env s).1.rtsp with
            session := some next } }

/- An address was used up, and perhaps some channels. -/
def Allocated (s t : Client) : Prop :=
  ∃ free channels,
    t = { s with
      nextAddress := s.nextAddress + 1
      firstFreeChannel := free
      channels := channels }

/- An RTP session that has not played. -/
structure NewSession
    (address : Nat)
    (session : RTPSession) : Prop where
  address : session.address = address
  multicast : session.multicast = false
  lastPacketSendTime : session.lastPacketSendTime = 0
  range : session.range = none
  rtpWriter : session.rtpWriter = none
  resumed : session.resumed = false
  packets : session.packets = []

/- The RTP session of a track joins the session. -/
def joinSession
    (s : Client)
    (next : RTSPSession)
    (track : List UInt8)
    (session : RTPSession) : Client :=
  { s.setSessions (s.playback.rtpSessions ++ [session]) with
    rtsp :=
      { s.rtsp with
        session := some { next with
          rtpSessions := next.rtpSessions ++ [track]
          curState :=
            match next.curState with
            | .init => .ready
            | other => other } } }

theorem openSession_session (env : Env) (s : Client) :
    (openSession env s).1.rtsp.session =
      some (openSession env s).2 := by
  unfold openSession
  cases hSession : s.rtsp.session with
  | none => rfl
  | some session => exact hSession

theorem rtpTransportInit_frame
    {address : Nat}
    {chosen : Option (RTPTransport × List UInt8)}
    (h :
      rtpTransportInit env s address transports =
        .ok (t, chosen)) :
    ∃ free channels,
      t = { s with
        firstFreeChannel := free
        channels := channels } := by
  induction transports generalizing s with
  | nil =>
      cases h
      exact ⟨_, _, rfl⟩
  | cons parsed transports ih =>
      unfold rtpTransportInit at h
      cases hProtocol : parsed.protocol with
      | sctp =>
          simp only [hProtocol] at h
          cases h
      | udp =>
          simp only [hProtocol] at h
          split at h
          · cases h
            exact ⟨_, _, rfl⟩
          · exact ih h
      | tcp =>
          simp only [hProtocol, rtpInterleavedTransport] at h
          split at h
          · rename_i hChosen
            split at hChosen
            · cases hChosen
            · cases hChosen
              cases h
              exact ⟨_, _, rfl⟩
          · rename_i hChosen
            split at hChosen
            · cases hChosen
              rcases ih h with ⟨free, channels, rfl⟩
              exact ⟨_, _, rfl⟩
            · cases hChosen

/-
  The channels that are settled on, if it is not on UDP: those
  that are asked for, and for the others the ones next to the
  counter.
-/
def settledChannels (udp : Bool) :
    Nat → List ParsedTransport → Option (Nat × Nat)
| _, [] => none
| free, parsed :: transports =>
    match parsed.protocol with
    | .sctp => none
    | .udp =>
        if udp then none
        else settledChannels udp free transports
    | .tcp =>
        let (rtp, free) := chooseChannel parsed.rtpChannel free
        let (rtcp, free) :=
          chooseChannel parsed.rtcpChannel free
        if 256 ≤ rtp ∨ 256 ≤ rtcp then
          settledChannels udp free transports
        else
          some (rtp, rtcp)

/- The channels are those of the transport, and in the table. -/
def Settled
    (address : Nat)
    (channels : Option (Nat × Nat))
    (s t : Client)
    (transport : RTPTransport) : Prop :=
  match channels with
  | none => transport = .udp ∧ t.channels = s.channels
  | some (rtp, rtcp) =>
      transport = .tcp rtp rtcp ∧ rtp < 256 ∧ rtcp < 256 ∧
        t.channels =
          some
            (insertChannel (s.channels.getD []) rtcp address)

theorem rtpTransportInit_settled
    {address : Nat}
    {chosen : Option (RTPTransport × List UInt8)}
    (h :
      rtpTransportInit env s address transports =
        .ok (t, chosen)) :
    (chosen = none → t.channels = s.channels) ∧
      ∀ transport transportString,
        chosen = some (transport, transportString) →
          Settled address
            (settledChannels env.udpTransport.isSome
              s.firstFreeChannel transports) s t
            transport := by
  induction transports generalizing s with
  | nil =>
      cases h
      exact ⟨fun _ => rfl, nofun⟩
  | cons parsed transports ih =>
      unfold rtpTransportInit at h
      unfold settledChannels
      cases hProtocol : parsed.protocol with
      | sctp =>
          simp only [hProtocol] at h
          cases h
      | udp =>
          simp only [hProtocol] at h ⊢
          cases hUdp : env.udpTransport with
          | none =>
              rw [hUdp] at h
              have hRest := ih h
              rw [hUdp] at hRest
              exact hRest
          | some string =>
              rw [hUdp] at h
              cases h
              refine ⟨nofun, ?_⟩
              intro transport transportString hChosen
              cases hChosen
              exact ⟨rfl, rfl⟩
      | tcp =>
          simp only [hProtocol, rtpInterleavedTransport] at h
          simp only
          split at h
          · rename_i hChosen
            split at hChosen
            · cases hChosen
            · rename_i hBound
              cases hChosen
              cases h
              rw [if_neg hBound]
              refine ⟨nofun, ?_⟩
              intro transport transportString hChosen
              cases hChosen
              rw [not_or, not_le, not_le] at hBound
              exact ⟨rfl, hBound.1, hBound.2, rfl⟩
          · rename_i hChosen
            split at hChosen
            · rename_i hBound
              cases hChosen
              rw [if_pos hBound]
              exact ih h
            · cases hChosen

theorem rtpSessionNew_cases
    {result : Option (RTPSession × List UInt8)}
    (h :
      rtpSessionNew env s uri track transports =
        .ok (t, result)) :
    Allocated s t ∧
      (result = none → t.channels = s.channels) ∧
      ∀ session transportString,
        result = some (session, transportString) →
          NewSession s.nextAddress session ∧
            Settled s.nextAddress
              (settledChannels env.udpTransport.isSome
                s.firstFreeChannel transports) s t
              session.transport := by
  unfold rtpSessionNew at h
  simp only at h
  split at h
  · cases h
  · rename_i hInit
    have hSettled := rtpTransportInit_settled hInit
    rcases rtpTransportInit_frame hInit with
      ⟨free, channels, rfl⟩
    cases h
    exact ⟨⟨free, channels, rfl⟩, fun _ => hSettled.1 rfl,
      by simp⟩
  · rename_i hInit
    have hSettled := rtpTransportInit_settled hInit
    rcases rtpTransportInit_frame hInit with
      ⟨free, channels, rfl⟩
    cases h
    refine ⟨⟨free, channels, rfl⟩,
      nofun, ?_⟩
    intro session transportString hResult
    cases hResult
    exact ⟨⟨rfl, rfl, rfl, rfl, rfl, rfl, rfl⟩,
      hSettled.2 _ _ rfl⟩

/- A SETUP whose track was found. -/
theorem setupTrack_cases
    {next : RTSPSession}
    (hNext : s.rtsp.session = some next)
    (h : setupTrack env s req track = .ok t) :
    ∃ u, Allocated s u ∧
      (Refused req u t ∧ u.channels = s.channels ∨
        ∃ session, NewSession s.nextAddress session ∧
          Settled s.nextAddress
            (settledChannels env.udpTransport.isSome
              s.firstFreeChannel (offeredTransports env req))
            s u session.transport ∧
          Answered req 200 (joinSession u next track session)
            t) := by
  unfold setupTrack at h
  split at h
  · cases h
  · rename_i u hNew
    cases h
    exact ⟨u, (rtpSessionNew_cases hNew).1,
      .inl ⟨refused_quick req u 461 (by decide),
        (rtpSessionNew_cases hNew).2.1 rfl⟩⟩
  · rename_i u session transportString hNew
    have hAllocated := (rtpSessionNew_cases hNew).1
    have hSession := (rtpSessionNew_cases hNew).2.2 _ _ rfl
    cases h
    refine ⟨u, hAllocated,
      .inr ⟨session, hSession.1, hSession.2, ?_⟩⟩
    rcases hAllocated with ⟨free, channels, rfl⟩
    simp only [Client.setSessions, Feng.setupTrack, hNext,
      Env.urlEnv]
    refine ⟨_, rfl, ?_, rfl⟩
    exact ((rfc822ResponseNew_carries req 200).set .transport
      _ (by decide)).set .session _ (by decide)

/- What a SETUP can do. -/
theorem rtspSetup_cases
    (h : rtspSetup env s req = .ok t) :
    Refused req s t ∨
    PassesCheck req ∧ ∃ u, Opened env s u ∧
      (Refused req u t ∨
      ∃ next v,
        u.rtsp.session = some next ∧
        next.resource.isSome = true ∧ Allocated u v ∧
        (Refused req v t ∧ v.channels = u.channels ∨
        ∃ session track, NewSession u.nextAddress session ∧
          Settled u.nextAddress
            (settledChannels env.udpTransport.isSome
              u.firstFreeChannel (offeredTransports env req))
            u v session.transport ∧
          Answered req 200 (joinSession v next track session)
            t)) := by
  unfold rtspSetup at h
  rcases rfc822RequestCheckUrl_cases req s.rtsp with
    ⟨hPasses, hCheck⟩ | ⟨_, denied, hDenied, hCheck⟩ |
    ⟨_, fault, hCheck⟩
  · rw [hCheck] at h
    simp only at h
    split at h
    · cases h
      exact .inl (refused_quick req s 461 (by decide))
    · refine .inr ⟨hPasses, ?_⟩
      have hSession := openSession_session env s
      split at h
      · cases h
      · rename_i hTrack
        rcases selectRequestedTrack_cases hSession hTrack with
          ⟨next, hNext, ⟨_, hDenied⟩ | ⟨hSome, _⟩⟩
        · cases h
          refine ⟨_, ⟨next, hNext, rfl⟩, .inl ?_⟩
          exact hDenied.refused
        · cases hSome
      · rename_i rtsp _ track hTrack
        rcases selectRequestedTrack_cases hSession hTrack with
          ⟨next, hNext, ⟨hNone, _⟩ | ⟨_, hResource, rfl⟩⟩
        · cases hNone
        · refine ⟨_, ⟨next, hNext, rfl⟩, .inr ?_⟩
          rcases setupTrack_cases rfl h with ⟨v, hv, hCases⟩
          refine ⟨next, v, rfl, hResource, hv, ?_⟩
          rcases hCases with hRefused | ⟨session, hNew⟩
          · exact .inl hRefused
          · exact .inr ⟨session, track, hNew⟩
  · rw [hCheck] at h
    cases h
    exact .inl hDenied.refused
  · rw [hCheck] at h
    cases h

end Play

end Feng

------------------------------------------------------------
-- TEARDOWN And PAUSE
------------------------------------------------------------

namespace Feng

namespace Play

variable {env : Env} {req : RFC822Request} {s t : Client}
variable {now : ℚ}

/- The client without its session. -/
def tornDown (s : Client) : Client :=
  { rtspSessionFree s with
    rtsp := { s.rtsp with session := none } }

theorem rtspTeardown_eq
    (hPasses : PassesCheck req) :
    rtspTeardown s req =
      .ok ((tornDown s).quickResponse req 200) := by
  unfold rtspTeardown
  rcases rfc822RequestCheckUrl_cases req s.rtsp with
    ⟨_, hCheck⟩ | ⟨hNot, _⟩ | ⟨hNot, _⟩
  · rw [hCheck]
    rfl
  · exact absurd hPasses hNot
  · exact absurd hPasses hNot

theorem rtspTeardown_cases
    (h : rtspTeardown s req = .ok t) :
    Refused req s t ∨
      PassesCheck req ∧ Answered req 200 (tornDown s) t := by
  unfold rtspTeardown at h
  rcases rfc822RequestCheckUrl_cases req s.rtsp with
    ⟨hPasses, hCheck⟩ | ⟨_, denied, hDenied, hCheck⟩ |
    ⟨_, fault, hCheck⟩
  · rw [hCheck] at h
    cases h
    exact .inr ⟨hPasses, answered_quick req (tornDown s) 200⟩
  · rw [hCheck] at h
    cases h
    exact .inl hDenied.refused
  · rw [hCheck] at h
    cases h

/- The client with its writers and its timer stopped. -/
def pausedAt
    (now : ℚ)
    (s : Client)
    (address : Nat)
    (range : RTSPRange) : Client :=
  { (s.setRange address
      (pausedRange now range)).setSessions
      (s.playback.rtpSessions.map rtpSessionPause) with
    evTimeout := false }.setState .ready

theorem rtspDoPause_cases
    (h : rtspDoPause now s = .ok t) :
    ∃ session address range,
      s.rtsp.session = some session ∧
      s.headRange = some address ∧
      s.rangeAt address = some range ∧
      t = pausedAt now s address range := by
  unfold rtspDoPause at h
  split at h
  · cases h
  · cases h
  · rename_i session address hSession hHead
    split at h
    · cases h
    · rename_i range hRange
      cases h
      exact ⟨session, address, range, hSession, hHead, hRange,
        rfl⟩

theorem curState_of_others
    (hInit : s.rtsp.curState ≠ .init)
    (hReady : s.rtsp.curState ≠ .ready) :
    s.curState = .playing := by
  unfold Client.curState
  cases hState : s.rtsp.curState with
  | init => exact absurd hState hInit
  | ready => exact absurd hState hReady
  | playing => rfl

theorem rtspPause_cases
    (h : rtspPause env s req = .ok t) :
    Refused req s t ∨
      PassesCheck req ∧ s.curState = .playing ∧
        ∃ u, rtspDoPause env.evNow s = .ok u ∧
          t = u.quickResponse req 200 := by
  unfold rtspPause at h
  rcases rtspCheckInvalidState_cases req s.rtsp .init with
    ⟨hInit, hCheck⟩ | ⟨_, denied, hDenied, hCheck⟩
  · rw [hCheck] at h
    rcases rtspCheckInvalidState_cases req s.rtsp .ready with
      ⟨hReady, hCheck⟩ | ⟨_, denied, hDenied, hCheck⟩
    · simp only [hCheck] at h
      rcases rfc822RequestCheckUrl_cases req s.rtsp with
        ⟨hPasses, hUrl⟩ | ⟨_, denied, hDenied, hUrl⟩ |
        ⟨_, fault, hUrl⟩
      · simp only [hUrl] at h
        refine .inr
          ⟨hPasses, curState_of_others hInit hReady, ?_⟩
        split at h
        · cases h
        · rename_i u hPause
          cases h
          exact ⟨u, hPause, rfl⟩
      · simp only [hUrl] at h
        cases h
        exact .inl hDenied.refused
      · simp only [hUrl] at h
        cases h
    · simp only [hCheck] at h
      cases h
      exact .inl hDenied.refused
  · rw [hCheck] at h
    cases h
    exact .inl hDenied.refused

end Play

end Feng

------------------------------------------------------------
-- PLAY
------------------------------------------------------------

namespace Feng

namespace Play

variable {env : Env} {req : RFC822Request} {s t : Client}
variable {code : Nat}

/- The request has no `Range`, and there is a range already. -/
def Resumes (req : RFC822Request) (s : Client) : Prop :=
  rfc822HeadersLookup req.headers .range = none ∧
    s.headRange ≠ none

/- `parse_range_header` turns the header down. -/
def RangeRefused
    (env : Env)
    (req : RFC822Request)
    (s : Client) : Prop :=
  ¬ Resumes req s ∧
    ∀ range,
      requestedRange env
          (rfc822HeadersLookup req.headers .range) =
        some range →
      env.seekable = false ∧ range.beginTime ≠ 0 ∧
        range.endTime ≠ -1 / 10

/- What `parse_range_header` does when it succeeds. -/
def RangeFixed
    (env : Env)
    (req : RFC822Request)
    (s t : Client) : Prop :=
  (Resumes req s ∧ ∃ address range,
    s.headRange = some address ∧
    s.rangeAt address = some range ∧
    t = s.setRange address
      { range with playbackTime := env.evNow }) ∨
  (¬ Resumes req s ∧ ∃ range,
    requestedRange env
      (rfc822HeadersLookup req.headers .range) = some range ∧
    t = queueRange env s range)

theorem parseRangeHeader_cases
    (h : parseRangeHeader env s req = .ok (t, code)) :
    (code ≠ 200 ∧ RangeRefused env req s ∧ t = s) ∨
      (code = 200 ∧ ¬ RangeRefused env req s ∧
        RangeFixed env req s t) := by
  unfold parseRangeHeader at h
  simp only at h
  split at h
  · rename_i address hHdr hHead
    split at h
    · cases h
    · rename_i range hRange
      cases h
      have hResumes : Resumes req s := by
        refine ⟨hHdr, ?_⟩
        rw [hHead]
        exact Option.some_ne_none address
      exact .inr ⟨rfl, fun hRefused => hRefused.1 hResumes,
        .inl ⟨hResumes, address, range, hHead, hRange, rfl⟩⟩
  · rename_i hOther
    have hNot : ¬ Resumes req s := by
      rintro ⟨hHdr, hHead⟩
      rcases Option.ne_none_iff_exists'.mp hHead with
        ⟨address, hAddress⟩
      exact hOther address hHdr hAddress
    split at h
    · rename_i hNone
      cases h
      refine .inl ⟨by decide, ⟨hNot, ?_⟩, rfl⟩
      intro range hRange
      rw [hNone] at hRange
      cases hRange
    · rename_i range hRange
      split at h
      · cases h
      · split at h
        · rename_i hInvalid
          cases h
          refine .inl ⟨by decide, ⟨hNot, ?_⟩, rfl⟩
          intro other hOther
          rw [hRange] at hOther
          cases hOther
          exact hInvalid
        · rename_i hValid
          cases h
          exact .inr ⟨rfl,
            fun hRefused => hValid (hRefused.2 range hRange),
            .inr ⟨hNot, range, hRange, rfl⟩⟩

theorem deref_eq_ok
    {pointer : Option Nat}
    {range : RTSPRange} :
    s.deref pointer = .ok range ↔
      ∃ address, pointer = some address ∧
        s.rangeAt address = some range := by
  unfold Client.deref
  cases pointer with
  | none => simp
  | some address =>
      cases hRange : s.rangeAt address with
      | none => simp [hRange]
      | some other => simp [hRange]

/- Every RTP session resumed with the range at an address. -/
def startedAt
    (env : Env)
    (s : Client)
    (address : Nat)
    (range : RTSPRange) : Client :=
  { s.setState .playing with
    playback :=
      { s.playback with
        started := true
        rtpSessions :=
          s.playback.rtpSessions.map
            (rtpSessionResume address range env.time) } }

/- The first RTP session is a multicast session. -/
def FirstMulticast (s : Client) : Prop :=
  (s.playback.rtpSessions.head?).any
    (fun session => session.multicast) = true

/- What `do_play` does when it succeeds. -/
def PlayStarted (env : Env) (s t : Client) : Prop :=
  (FirstMulticast s ∧ t = s.setState .playing) ∨
  (¬ FirstMulticast s ∧ ∃ address range,
    s.headRange = some address ∧
    s.rangeAt address = some range ∧
    t = startedAt env s address range)

theorem startPlaying_cases
    (h : startPlaying env s = .ok (t, code)) :
    code = 200 ∧ PlayStarted env s t := by
  unfold startPlaying at h
  simp only at h
  split at h
  · rename_i hMulticast
    cases h
    exact ⟨rfl, .inl ⟨hMulticast, rfl⟩⟩
  · rename_i hMulticast
    split at h
    · rename_i address range hHead hRange
      cases h
      rcases deref_eq_ok.mp hRange with
        ⟨other, hOther, hAt⟩
      have hSame : some address = some other :=
        hHead.symm.trans hOther
      cases hSame
      exact ⟨rfl, .inr
        ⟨hMulticast, address, range, hHead, hAt, rfl⟩⟩
    · cases h
    · cases h

/- The resource cannot be read from where its range begins. -/
def SeekFails (env : Env) (s : Client) : Prop :=
  env.seekable = true ∧
    ∃ range, s.deref s.headRange = .ok range ∧
      env.seekFails range.beginTime = true

theorem doPlay_cases
    (h : doPlay env s = .ok (t, code)) :
    (code ≠ 200 ∧ t = s) ∨
      (code = 200 ∧ ¬ SeekFails env s ∧
        PlayStarted env s t) := by
  unfold doPlay at h
  split at h
  · cases h
  · split at h
    · split at h
      · cases h
      · rename_i range hRange
        split at h
        · cases h
          exact .inl ⟨by decide, rfl⟩
        · rename_i hSeek
          rcases startPlaying_cases h with ⟨hCode, hStarted⟩
          refine .inr ⟨hCode, ?_, hStarted⟩
          rintro ⟨_, other, hOther, hFails⟩
          rw [hRange] at hOther
          cases hOther
          exact hSeek hFails
    · rename_i hSeekable
      rcases startPlaying_cases h with ⟨hCode, hStarted⟩
      refine .inr ⟨hCode, ?_, hStarted⟩
      rintro ⟨hSeeks, _⟩
      exact hSeekable hSeeks

/- The workaround for the client that seeks by PLAY. -/
def Worked
    (env : Env)
    (req : RFC822Request)
    (s t : Client) : Prop :=
  (¬ (s.curState = .playing ∧ vlcUserAgent req = true) ∧
    t = s) ∨
  (s.curState = .playing ∧ vlcUserAgent req = true ∧
    rtspDoPause env.evNow s = .ok t)

/- The session plays, or was made to. -/
def NowPlays (env : Env) (s t : Client) : Prop :=
  (s.curState = .playing ∧ t = s) ∨
  (s.curState ≠ .playing ∧ PlayStarted env s t)

theorem workAround_cases
    (h : workAround env s req = .ok t) :
    Worked env req s t := by
  unfold workAround at h
  split at h
  · rename_i hVlc
    exact .inr ⟨hVlc.1, hVlc.2, h⟩
  · rename_i hVlc
    cases h
    exact .inl ⟨hVlc, rfl⟩

theorem playUnlessPlaying_cases
    (h : playUnlessPlaying env s = .ok (t, code)) :
    (code ≠ 200 ∧ s.curState ≠ .playing ∧ t = s) ∨
      (code = 200 ∧ NowPlays env s t ∧
        (s.curState ≠ .playing → ¬ SeekFails env s)) := by
  unfold playUnlessPlaying at h
  split at h
  · rename_i hState
    rcases doPlay_cases h with
      ⟨hCode, rfl⟩ | ⟨hCode, hSeeks, hStarted⟩
    · exact .inl ⟨hCode, hState, rfl⟩
    · exact .inr ⟨hCode, .inr ⟨hState, hStarted⟩,
        fun _ => hSeeks⟩
  · rename_i hState
    cases h
    exact .inr ⟨rfl, .inl ⟨not_not.mp hState, rfl⟩,
      fun hNot => absurd hNot hState⟩

/- The reply to a PLAY was sent, and the timer started. -/
def PlayReplied
    (req : RFC822Request)
    (s t : Client) : Prop :=
  ∃ range, s.deref s.headRange = .ok range ∧
    t = { s.send (playReply s req range) with
      evTimeout := true }

/- The calls that a PLAY makes behind its checks. -/
theorem playChecked_calls
    (h : playChecked env s req = .ok t) :
    ∃ u v code, Worked env req s u ∧
      parseRangeHeader env u req = .ok (v, code) ∧
      (code ≠ 200 ∧ t = v.quickResponse req code ∨
      code = 200 ∧ ∃ w code,
        playUnlessPlaying env v = .ok (w, code) ∧
        (code ≠ 200 ∧ t = w.quickResponse req code ∨
          code = 200 ∧ PlayReplied req w t)) := by
  unfold playChecked at h
  rcases Except.bind_eq_ok.mp h with ⟨u, hWorked, hAfterWork⟩
  rcases Except.bind_eq_ok.mp hAfterWork with
    ⟨⟨v, code⟩, hRange, hAfterRange⟩
  clear hAfterWork
  refine ⟨u, v, code, workAround_cases hWorked, hRange, ?_⟩
  simp only at hAfterRange
  split at hAfterRange
  · rename_i hCode
    cases hAfterRange
    exact .inl ⟨hCode, rfl⟩
  · rename_i hCode
    rcases Except.bind_eq_ok.mp hAfterRange with
      ⟨⟨w, code⟩, hPlay, hAfterPlay⟩
    clear hAfterRange
    refine .inr ⟨not_not.mp hCode, w, code, hPlay, ?_⟩
    simp only at hAfterPlay
    split at hAfterPlay
    · rename_i hCode
      cases hAfterPlay
      exact .inl ⟨hCode, rfl⟩
    · rename_i hCode
      rcases Except.bind_eq_ok.mp hAfterPlay with
        ⟨x, hReply, hEnd⟩
      cases hEnd
      refine .inr ⟨not_not.mp hCode, ?_⟩
      unfold sendPlayReply at hReply
      split at hReply
      · cases hReply
      · rename_i range hDeref
        cases hReply
        exact ⟨range, hDeref, rfl⟩

/- What PLAY can do behind its checks. -/
theorem playChecked_cases
    (h : playChecked env s req = .ok t) :
    ∃ u, Worked env req s u ∧
      (RangeRefused env req u ∧ Refused req u t ∨
      ∃ v, RangeFixed env req u v ∧
        (¬ RangeRefused env req u ∧ v.curState ≠ .playing ∧
          Refused req v t ∨
        ∃ w, NowPlays env v w ∧
          (v.curState ≠ .playing → ¬ SeekFails env v) ∧
          PlayReplied req w t)) := by
  rcases playChecked_calls h with
    ⟨u, v, code, hWorked, hRange, hRest⟩
  refine ⟨u, hWorked, ?_⟩
  rcases parseRangeHeader_cases hRange with
    ⟨hCode, hNot, rfl⟩ | ⟨rfl, hAccepted, hFixed⟩
  · rcases hRest with ⟨_, rfl⟩ | ⟨hOk, _⟩
    · exact .inl ⟨hNot, refused_quick req v code hCode⟩
    · exact absurd hOk hCode
  · rcases hRest with ⟨hCode, _⟩ | ⟨_, w, code, hPlay, hEnd⟩
    · exact absurd rfl hCode
    refine .inr ⟨v, hFixed, ?_⟩
    rcases playUnlessPlaying_cases hPlay with
      ⟨hCode, hState, rfl⟩ | ⟨rfl, hNow, hSeeks⟩
    · rcases hEnd with ⟨_, rfl⟩ | ⟨hOk, _⟩
      · exact .inl ⟨hAccepted, hState,
          refused_quick req w code hCode⟩
      · exact absurd hOk hCode
    · rcases hEnd with ⟨hCode, _⟩ | ⟨_, hReplied⟩
      · exact absurd rfl hCode
      · exact .inr ⟨w, hNow, hSeeks, hReplied⟩

theorem rtspPlay_eq
    (hPasses : PassesCheck req)
    (hState : s.curState ≠ .init) :
    rtspPlay env s req = playChecked env s req := by
  unfold rtspPlay
  rcases rtspCheckInvalidState_cases req s.rtsp .init with
    ⟨_, hCheck⟩ | ⟨hInit, _⟩
  · rw [hCheck]
    rcases rfc822RequestCheckUrl_cases req s.rtsp with
      ⟨_, hUrl⟩ | ⟨hNot, _⟩ | ⟨hNot, _⟩
    · simp only [hUrl]
    · exact absurd hPasses hNot
    · exact absurd hPasses hNot
  · exact absurd hInit hState

theorem rtspPlay_cases
    (h : rtspPlay env s req = .ok t) :
    Refused req s t ∨
      PassesCheck req ∧ s.curState ≠ .init ∧
        playChecked env s req = .ok t := by
  unfold rtspPlay at h
  rcases rtspCheckInvalidState_cases req s.rtsp .init with
    ⟨hInit, hCheck⟩ | ⟨_, denied, hDenied, hCheck⟩
  · rw [hCheck] at h
    rcases rfc822RequestCheckUrl_cases req s.rtsp with
      ⟨hPasses, hUrl⟩ | ⟨_, denied, hDenied, hUrl⟩ |
      ⟨_, fault, hUrl⟩
    · simp only [hUrl] at h
      exact .inr ⟨hPasses, hInit, h⟩
    · simp only [hUrl] at h
      cases h
      exact .inl hDenied.refused
    · simp only [hUrl] at h
      cases h
  · rw [hCheck] at h
    cases h
    exact .inl hDenied.refused

end Play

end Feng

------------------------------------------------------------
-- Requests
------------------------------------------------------------

namespace Feng

namespace Play

variable {env : Env} {req : RFC822Request} {s t u : Client}
variable {v : Nat}

/- The number of a request, if its `CSeq` is one. -/
def cseqVal (req : RFC822Request) : Option Nat :=
  match rfc822HeadersLookup req.headers .cSeq with
  | none => none
  | some cseqHdr =>
      if (gAsciiStrtoull cseqHdr).1 = gMaxUint64 ∨
          (gAsciiStrtoull cseqHdr).2 < cseqHdr.length then
        none
      else
        some (gAsciiStrtoull cseqHdr).1

/- A request that gets to its method, and its number. -/
structure Reaches
    (s : Client)
    (req : RFC822Request)
    (v : Nat) : Prop where
  number : cseqVal req = some v
  order : s.rtsp.lastCseq < v
  session : (rtspCheckSession s.rtsp req).2 = true
  options : (rtspCheckRequiredOptions s.rtsp req).2 = true

/- The client has noted the number of its last request. -/
def numbered (s : Client) (v : Nat) : Client :=
  { s with rtsp := { s.rtsp with lastCseq := v } }

/- The client is done with its request. -/
def finished (s : Client) : Client :=
  { s with rtsp := { s.rtsp with pendingRequest := none } }

/- Nothing but the connection changed. -/
def Untouched (s t : Client) : Prop :=
  ∃ rtsp, rtsp.session = s.rtsp.session ∧
    t = { s with rtsp := rtsp }

theorem Untouched.refl (s : Client) : Untouched s s :=
  ⟨s.rtsp, rfl, rfl⟩

theorem Untouched.trans
    (hFirst : Untouched s t)
    (hSecond : Untouched t u) :
    Untouched s u := by
  rcases hFirst with ⟨rtsp, hSession, rfl⟩
  rcases hSecond with ⟨rtsp', hSession', rfl⟩
  exact ⟨rtsp', hSession'.trans hSession, rfl⟩

theorem Answered.untouched
    {code : Nat}
    (h : Answered req code s t) :
    Untouched s t := by
  rcases h with ⟨response, rfl, _⟩
  exact ⟨(s.send response).rtsp, rfl, rfl⟩

theorem Refused.untouched
    (h : Refused req s t) :
    Untouched s t := by
  rcases h with ⟨code, _, hAnswered⟩
  exact hAnswered.untouched

theorem numbered_untouched (s : Client) (v : Nat) :
    Untouched s (numbered s v) :=
  ⟨(numbered s v).rtsp, rfl, rfl⟩

theorem finished_untouched (s : Client) :
    Untouched s (finished s) :=
  ⟨(finished s).rtsp, rfl, rfl⟩

/- The checks only look at the session and the request. -/
theorem rtspCheckSession_snd
    {rtsp rtsp' : RTSPClient}
    (hSession : rtsp'.session = rtsp.session) :
    (rtspCheckSession rtsp' req).2 =
      (rtspCheckSession rtsp req).2 := by
  unfold rtspCheckSession
  cases rfc822HeadersLookup req.headers .session with
  | none => rfl
  | some sessionHdr =>
      simp only [hSession, apply_ite Prod.snd]

theorem rtspCheckRequiredOptions_snd
    (rtsp rtsp' : RTSPClient) :
    (rtspCheckRequiredOptions rtsp' req).2 =
      (rtspCheckRequiredOptions rtsp req).2 := by
  unfold rtspCheckRequiredOptions
  simp only [apply_ite Prod.snd]

theorem handleNumberedRequest_cases
    (hNumber : cseqVal req = some v)
    (hOrder : s.rtsp.lastCseq < v)
    (h : handleNumberedRequest env s req v = .ok t) :
    Refused req (numbered s v) t ∨
      Reaches s req v ∧
        callMethod env (numbered s v) req = .ok t := by
  have hSessionSame :
      (rtspCheckSession (numbered s v).rtsp req).2 =
        (rtspCheckSession s.rtsp req).2 :=
    rtspCheckSession_snd rfl
  have hOptionsSame :
      (rtspCheckRequiredOptions (numbered s v).rtsp req).2 =
        (rtspCheckRequiredOptions s.rtsp req).2 :=
    rtspCheckRequiredOptions_snd s.rtsp _
  have hRtsp :
      { s.rtsp with lastCseq := v } = (numbered s v).rtsp :=
    rfl
  rw [handleNumberedRequest, hRtsp] at h
  rcases rtspCheckSession_cases req (numbered s v).rtsp with
    hSession | ⟨denied, hDenied, hSession⟩
  · rw [hSession] at h hSessionSame
    rcases rtspCheckRequiredOptions_cases req
      (numbered s v).rtsp with
      hOptions | ⟨denied, hDenied, hOptions⟩
    · simp only [hOptions] at h
      rw [hOptions] at hOptionsSame
      exact .inr
        ⟨⟨hNumber, hOrder, hSessionSame.symm,
          hOptionsSame.symm⟩, h⟩
    · simp only [hOptions] at h
      cases h
      exact .inl (hDenied.refused (s := numbered s v))
  · rw [hSession] at h
    cases h
    exact .inl (hDenied.refused (s := numbered s v))

/- DESCRIBE sends its description, or an error. -/
theorem rtspDescribe_cases
    (h : rtspDescribe env s req = .ok t) :
    Refused req s t ∨ Answered req 200 s t := by
  unfold rtspDescribe Feng.rtspDescribe at h
  rcases rfc822RequestCheckUrl_cases req s.rtsp with
    ⟨_, hUrl⟩ | ⟨_, denied, hDenied, hUrl⟩ |
    ⟨_, fault, hUrl⟩
  · simp only [hUrl] at h
    cases hDescr :
        sdpSessionDescr (env.urlEnv none) s.rtsp req with
    | error fault =>
        simp only [hDescr] at h
        cases h
    | ok result =>
        rcases result with ⟨resource, opened⟩
        cases resource with
        | none =>
            simp only [hDescr] at h
            cases h
            exact .inl (refused_quick req s 404 (by decide))
        | some resource =>
            simp only [hDescr] at h
            cases h
            refine .inr ⟨_, rfl, ?_, rfl⟩
            exact ((rfc822ResponseNew_carries req 200).set
              .contentType _ (by decide)).set .contentBase _
                (by decide)
  · simp only [hUrl] at h
    cases h
    exact .inl hDenied.refused
  · simp only [hUrl] at h
    cases h

theorem urlMethodOf_eq_some
    {methodId : Nat}
    {method : UrlMethod}
    (h : urlMethodOf methodId = some method) :
    methodId =
      match method with
      | .describe => RTSPMethod.describe
      | .setup => RTSPMethod.setup
      | .play => RTSPMethod.play
      | .pause => RTSPMethod.pause
      | .teardown => RTSPMethod.teardown := by
  unfold urlMethodOf at h
  split_ifs at h with hDescribe hSetup hTeardown hPlay hPause
  · cases h
    exact hDescribe
  · cases h
    exact hSetup
  · cases h
    exact hTeardown
  · cases h
    exact hPlay
  · cases h
    exact hPause

/- The method a request is handled by. -/
theorem callMethod_cases
    (h : callMethod env s req = .ok t) :
    ((req.methodId = RTSPMethod.options ∨
        req.methodId = RTSPMethod.describe) ∧
      (Refused req s t ∨ Answered req 200 s t)) ∨
    (req.methodId = RTSPMethod.setup ∧
      rtspSetup env s req = .ok t) ∨
    (req.methodId = RTSPMethod.play ∧
      rtspPlay env s req = .ok t) ∨
    (req.methodId = RTSPMethod.pause ∧
      rtspPause env s req = .ok t) ∨
    (req.methodId = RTSPMethod.teardown ∧
      rtspTeardown s req = .ok t) := by
  unfold callMethod at h
  split at h
  · rename_i hMethod
    cases h
    refine .inl ⟨.inl hMethod, .inr ⟨_, rfl, ?_, rfl⟩⟩
    exact (rfc822ResponseNew_carries req 200).set .public_ _
      (by decide)
  · split at h
    · cases h
    · rename_i hMethod
      exact .inl ⟨.inr (urlMethodOf_eq_some hMethod),
        rtspDescribe_cases h⟩
    · rename_i hMethod
      exact .inr (.inl ⟨urlMethodOf_eq_some hMethod, h⟩)
    · rename_i hMethod
      exact .inr (.inr (.inl ⟨urlMethodOf_eq_some hMethod, h⟩))
    · rename_i hMethod
      exact .inr (.inr (.inr (.inl
        ⟨urlMethodOf_eq_some hMethod, h⟩)))
    · rename_i hMethod
      exact .inr (.inr (.inr (.inr
        ⟨urlMethodOf_eq_some hMethod, h⟩)))

/- What `rtsp_handle_request` can do. -/
theorem rtspHandleRequest_cases
    (h : rtspHandleRequest env s req = .ok t) :
    (cseqVal req = none ∧ ∃ u, Refused req s u ∧
      t = finished u) ∨
    (∃ v, cseqVal req = some v ∧ v ≤ s.rtsp.lastCseq ∧
      t = finished s) ∨
    (∃ v u, cseqVal req = some v ∧ s.rtsp.lastCseq < v ∧
      Refused req (numbered s v) u ∧ t = finished u) ∨
    ∃ v u, Reaches s req v ∧
      callMethod env (numbered s v) req = .ok u ∧
      t = finished u := by
  unfold rtspHandleRequest at h
  split at h
  · cases h
  · rename_i u hBody
    cases h
    unfold handleRequestBody at hBody
    cases hHdr : rfc822HeadersLookup req.headers .cSeq with
    | none =>
        simp only [hHdr] at hBody
        cases hBody
        refine .inl ⟨by simp [cseqVal, hHdr], _, ?_, rfl⟩
        exact refused_quick req s 400 (by decide)
    | some cseqHdr =>
        simp only [hHdr] at hBody
        split at hBody
        · rename_i hMax
          cases hBody
          refine .inl
            ⟨by simp [cseqVal, hHdr, hMax], _, ?_, rfl⟩
          exact refused_quick req s 400 (by decide)
        · rename_i hMax
          split at hBody
          · rename_i hRead
            cases hBody
            refine .inl
              ⟨by simp [cseqVal, hHdr, hRead], _, ?_, rfl⟩
            exact refused_quick req s 400 (by decide)
          · rename_i hRead
            have hNumber :
                cseqVal req =
                  some (gAsciiStrtoull cseqHdr).1 := by
              simp only [cseqVal, hHdr]
              rw [if_neg (not_or.mpr ⟨hMax, hRead⟩)]
            split at hBody
            · rename_i hOrder
              cases hBody
              exact .inr (.inl ⟨_, hNumber, hOrder, rfl⟩)
            · rename_i hOrder
              rcases handleNumberedRequest_cases hNumber
                (not_le.mp hOrder) hBody with
                hRefused | ⟨hReaches, hMethod⟩
              · exact .inr (.inr (.inl
                  ⟨_, _, hNumber, not_le.mp hOrder, hRefused,
                    rfl⟩))
              · exact .inr (.inr (.inr
                  ⟨_, _, hReaches, hMethod, rfl⟩))

/- A request that gets to its method is handled by it. -/
theorem rtspHandleRequest_eq
    (hReaches : Reaches s req v) :
    rtspHandleRequest env s req =
      match callMethod env (numbered s v) req with
      | .error fault => .error fault
      | .ok u => .ok (finished u) := by
  have hSession :
      rtspCheckSession (numbered s v).rtsp req =
        ((numbered s v).rtsp, true) := by
    rcases rtspCheckSession_cases req (numbered s v).rtsp with
      hSession | ⟨denied, _, hSession⟩
    · exact hSession
    · have hSame :
          (rtspCheckSession (numbered s v).rtsp req).2 =
            (rtspCheckSession s.rtsp req).2 :=
        rtspCheckSession_snd rfl
      rw [hSession, hReaches.session] at hSame
      cases hSame
  have hOptions :
      rtspCheckRequiredOptions (numbered s v).rtsp req =
        ((numbered s v).rtsp, true) := by
    rcases rtspCheckRequiredOptions_cases req
      (numbered s v).rtsp with
      hOptions | ⟨denied, _, hOptions⟩
    · exact hOptions
    · have hSame :
          (rtspCheckRequiredOptions (numbered s v).rtsp
              req).2 =
            (rtspCheckRequiredOptions s.rtsp req).2 :=
        rtspCheckRequiredOptions_snd s.rtsp _
      rw [hOptions, hReaches.options] at hSame
      cases hSame
  have hNumbered :
      handleNumberedRequest env s req v =
        callMethod env (numbered s v) req := by
    have hRtsp :
        { s.rtsp with lastCseq := v } =
          (numbered s v).rtsp :=
      rfl
    rw [handleNumberedRequest, hRtsp]
    rw [hSession]
    simp only [hOptions]
    rfl
  have hBody :
      handleRequestBody env s req =
        callMethod env (numbered s v) req := by
    have hNumber := hReaches.number
    unfold cseqVal at hNumber
    unfold handleRequestBody
    cases hHdr : rfc822HeadersLookup req.headers .cSeq with
    | none =>
        rw [hHdr] at hNumber
        cases hNumber
    | some cseqHdr =>
        simp only [hHdr] at hNumber ⊢
        split at hNumber
        · cases hNumber
        · rename_i hValid
          rcases not_or.mp hValid with ⟨hMax, hRead⟩
          have hVal :
              (gAsciiStrtoull cseqHdr).1 = v := by
            simpa using hNumber
          rw [if_neg hMax, if_neg hRead, hVal,
            if_neg (not_le.mpr hReaches.order)]
          exact hNumbered
  unfold rtspHandleRequest
  rw [hBody]
  rfl

theorem rtspHandleRequest_reaches
    (hReaches : Reaches s req v)
    (hMethod :
      callMethod env (numbered s v) req = .ok u) :
    rtspHandleRequest env s req = .ok (finished u) := by
  rw [rtspHandleRequest_eq hReaches, hMethod]

/- A TEARDOWN that passes its check ends the session. -/
theorem rtspHandleRequest_teardown
    (hReaches : Reaches s req v)
    (hMethod : req.methodId = RTSPMethod.teardown)
    (hPasses : PassesCheck req) :
    rtspHandleRequest env s req =
      .ok (finished ((tornDown (numbered s v)).quickResponse
        req 200)) := by
  apply rtspHandleRequest_reaches hReaches
  unfold callMethod
  rw [hMethod]
  exact rtspTeardown_eq hPasses

end Play

end Feng

------------------------------------------------------------
-- The Timer
------------------------------------------------------------

namespace Feng

namespace Play

/- The timer is started again, for the session there is. -/
theorem step_timeout_cases
    {s t : Client}
    {time : Nat}
    (h : step s (.timeout time) = .ok t) :
    ∃ session connected,
      s.rtsp.session = some session ∧
        t =
          { s with
            rtsp := { s.rtsp with connected := connected }
            evTimeout := true } := by
  change clientEvTimeout time s = .ok t at h
  unfold clientEvTimeout at h
  cases hSession : s.rtsp.session with
  | none =>
      rw [hSession] at h
      cases h
  | some session =>
      rw [hSession] at h
      cases h
      by_cases hKicked :
          s.playback.rtpSessions.any (fun session =>
            session.lastPacketSendTime + streamTimeout ≤
              time) = true
      · refine ⟨session, false, rfl, ?_⟩
        rw [if_pos hKicked]
      · refine ⟨session, s.rtsp.connected, rfl, ?_⟩
        rw [if_neg hKicked]

end Play

end Feng
