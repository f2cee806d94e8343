import Feng.Lib.Attempts
import Feng.Play.Sockets
import Feng.Transport.Parse

/-
  The transport of an RTP session: the first of those that are
  offered that can be set up. There is a function for each of
  them but SCTP.

  The results of the calls are given for every proposal, so
  that one over UDP may fail and the next one succeed.

  Key definitions include:
    * `Play.initTransport`
    * `Play.rtpSessionNewCalls`
    * `Play.rtspSetupCalls`
    * `Play.Selects`

  Key theorems include:
    * `Play.rtpSessionTransport_eq`
    * `Play.rtspSetupCalls_eq`
    * `Play.transport_selected_iff`
    * `Play.sctp_not_selected`
-/

------------------------------------------------------------
-- The Functions There Are
------------------------------------------------------------

namespace Feng

namespace Play

/- The client, and the sockets of the RTP session. -/
abbrev TransportState := Client × UdpSetup

/- A transport that was set up, and how it is reported. -/
abbrev ChosenTransport := RTPTransport × List UInt8

def initUdp
    (env : Env)
    (localHost : List UInt8)
    (x : TransportState)
    (proposal : Proposal) :
    TransportState × Option ChosenTransport :=
  match rtpUdpTransport env localHost proposal.parsed
    proposal.results x.2 with
  | (y, text) => ((x.1, y), text.map (fun text => (.udp, text)))

def initInterleaved
    (env : Env)
    (address : Nat)
    (x : TransportState)
    (proposal : Proposal) :
    TransportState × Option ChosenTransport :=
  match rtpInterleavedTransport env x.1 address
    proposal.parsed with
  | (s, chosen) => ((s, x.2), chosen)

/- The table `rtp_transport_init`, without SCTP. -/
def rtpTransportTable
    (env : Env)
    (localHost : List UInt8)
    (address : Nat) :
    RTPProtocol →
      Option (TransportState → Proposal →
        TransportState × Option ChosenTransport)
| .udp => some (initUdp env localHost)
| .tcp => some (initInterleaved env address)
| .sctp => none

/- A proposal is tried, if there is a function for it. -/
def initTransport
    (env : Env)
    (localHost : List UInt8)
    (address : Nat) :
    Attempt TransportState Proposal ChosenTransport :=
  fun x proposal =>
    (rtpTransportTable env localHost address
      proposal.parsed.protocol).map
        (fun init => init x proposal)

variable {env : Env} {localHost : List UInt8}
variable {address : Nat}

theorem initTransport_eq_none
    {x : TransportState}
    {proposal : Proposal} :
    initTransport env localHost address x proposal = none ↔
      proposal.parsed.protocol = .sctp := by
  unfold initTransport
  cases hProtocol : proposal.parsed.protocol with
  | udp => simp [rtpTransportTable]
  | tcp => simp [rtpTransportTable]
  | sctp => simp [rtpTransportTable]

/- What a null function does to the loop. -/
def transportResult :
    Option (TransportState × Option ChosenTransport) →
      Except Fault TransportResult
| none => .error .noTransport
| some (x, chosen) => .ok (x.1, chosen)

/- The loop tries the proposals in their order. -/
theorem rtpSessionTransport_eq
    (s : Client)
    (x : UdpSetup)
    (proposals : List Proposal) :
    (rtpSessionTransport env localHost address s x
        proposals).result =
      transportResult
        (tryInOrder (initTransport env localHost address)
          (s, x) proposals) := by
  induction proposals generalizing s x with
  | nil => rfl
  | cons proposal proposals ih =>
      rcases proposal with ⟨parsed, results⟩
      unfold rtpSessionTransport tryInOrder initTransport
      cases hProtocol : parsed.protocol with
      | sctp => rfl
      | tcp =>
          simp only [rtpTransportTable, Option.map_some,
            initInterleaved]
          rcases rtpInterleavedTransport env s address parsed
            with ⟨next, _ | chosen⟩
          · exact ih _ _
          · rfl
      | udp =>
          simp only [rtpTransportTable, Option.map_some,
            initUdp]
          rcases rtpUdpTransport env localHost parsed results x
            with ⟨next, _ | text⟩
          · exact ih _ _
          · rfl

end Play

end Feng

------------------------------------------------------------
-- SETUP With Its Calls
------------------------------------------------------------

namespace Feng

namespace Play

/- The proposals, with what the calls return for each. -/
def proposalsOf
    (offered : List OfferedTransport)
    (calls : Nat → UdpResults) : List Proposal :=
  offered.mapIdx
    (fun i offer => ⟨offer.toParsedTransport, calls i⟩)

/- The RTP session for a transport, before it is resumed. -/
def sessionOver
    (env : Env)
    (address : Nat)
    (uri track : List UInt8)
    (transport : RTPTransport) : RTPSession where
  address := address
  multicast := false
  startRtptime := env.startRtptime
  ssrc := env.ssrc
  lastPacketSendTime := 0
  range := none
  lastTimestamp := 0
  uri := uri
  track := track
  properties := env.properties
  octetCount := 0
  pktCount := 0
  transport := transport
  rtpWriter := none
  resumed := false
  packets := []

/- `rtp_session_new`, behind its loop. -/
def sessionFrom
    (env : Env)
    (address : Nat)
    (uri track : List UInt8) :
    Except Fault TransportResult →
      Except Fault (Client × Option (RTPSession × List UInt8))
| .error fault => .error fault
| .ok (s, none) => .ok (s, none)
| .ok (s, some (transport, text)) =>
    .ok (s, some
      (sessionOver env address uri track transport, text))

def rtpSessionNewCalls
    (env : Env)
    (localHost : List UInt8)
    (s : Client)
    (uri track : List UInt8)
    (proposals : List Proposal) :
    Except Fault (Client × Option (RTPSession × List UInt8)) :=
  sessionFrom env s.nextAddress uri track
    (rtpSessionTransport env localHost s.nextAddress
      { s with nextAddress := s.nextAddress + 1 }
      UdpSetup.zero proposals).result

/- The end of SETUP, for what `rtp_session_new` returns. -/
def setupFrom
    (env : Env)
    (req : RFC822Request)
    (track : List UInt8) :
    Except Fault (Client × Option (RTPSession × List UInt8)) →
      Except Fault Client
| .error fault => .error fault
| .ok (s, none) => .ok (s.quickResponse req 461)
| .ok (s, some (session, transportString)) =>
    let s := s.setSessions (s.playback.rtpSessions ++ [session])
    .ok { s with
      rtsp :=
        Feng.setupTrack (env.urlEnv (some transportString))
          s.rtsp req track }

def setupTrackCalls
    (env : Env)
    (localHost : List UInt8)
    (s : Client)
    (req : RFC822Request)
    (track : List UInt8)
    (proposals : List Proposal) : Except Fault Client :=
  setupFrom env req track
    (rtpSessionNewCalls env localHost s (req.object.getD [])
      track proposals)

/- What the `Transport` header of a request offers. -/
def offeredBy (req : RFC822Request) : List OfferedTransport :=
  match rfc822HeadersLookup req.headers .transport with
  | none => []
  | some header => ragelParseTransportHeader header

/- SETUP up to its track; without one it is over. -/
def setupStart
    (env : Env)
    (s : Client)
    (req : RFC822Request) :
    Except Fault (Client × Option (List UInt8)) :=
  match rfc822RequestCheckUrl s.rtsp req with
  | .error fault => .error (.url fault)
  | .ok (rtsp, false) => .ok ({ s with rtsp := rtsp }, none)
  | .ok (_, true) =>
      if offeredBy req = [] then
        .ok (s.quickResponse req 461, none)
      else
        let (s, session) := openSession env s
        match
          selectRequestedTrack (env.urlEnv none) s.rtsp req
            session
        with
        | .error fault => .error (.url fault)
        | .ok (rtsp, _, track) =>
            .ok ({ s with rtsp := rtsp }, track)

def rtspSetupCalls
    (env : Env)
    (localHost : List UInt8)
    (calls : Nat → UdpResults)
    (s : Client)
    (req : RFC822Request) : Except Fault Client :=
  match setupStart env s req with
  | .error fault => .error fault
  | .ok (s, none) => .ok s
  | .ok (s, some track) =>
      setupTrackCalls env localHost s req track
        (proposalsOf (offeredBy req) calls)

end Play

end Feng

------------------------------------------------------------
-- The Handler Without Its Calls
------------------------------------------------------------

namespace Feng

namespace Play

variable {env : Env} {localHost : List UInt8}
variable {calls : Nat → UdpResults} {s : Client}
variable {req : RFC822Request} {track : List UInt8}
variable {proposals : List Proposal}

theorem rtpSessionNew_eq
    (env : Env)
    (s : Client)
    (uri track : List UInt8)
    (transports : List ParsedTransport) :
    rtpSessionNew env s uri track transports =
      sessionFrom env s.nextAddress uri track
        (rtpTransportInit env
          { s with nextAddress := s.nextAddress + 1 }
          s.nextAddress transports) := by
  unfold rtpSessionNew
  simp only
  rcases rtpTransportInit env
    { s with nextAddress := s.nextAddress + 1 }
    s.nextAddress transports with
    fault | ⟨next, _ | ⟨transport, text⟩⟩
  · rfl
  · rfl
  · rfl

theorem setupTrack_eq
    (env : Env)
    (s : Client)
    (req : RFC822Request)
    (track : List UInt8) :
    setupTrack env s req track =
      setupFrom env req track
        (rtpSessionNew env s (req.object.getD []) track
          (offeredTransports env req)) := by
  unfold setupTrack
  rcases rtpSessionNew env s (req.object.getD []) track
    (offeredTransports env req) with
    fault | ⟨next, _ | ⟨session, text⟩⟩
  · rfl
  · rfl
  · rfl

/- The calls are those the handler takes as given. -/
structure CallsGive
    (env : Env)
    (localHost : List UInt8)
    (proposals : List Proposal) : Prop where
  udp : ∀ proposal x, proposal ∈ proposals →
    proposal.parsed.protocol = .udp →
    (rtpUdpTransport env localHost proposal.parsed
      proposal.results x).2 = env.udpTransport

theorem setupTrackCalls_eq
    (hCalls : CallsGive env localHost proposals)
    (hOffered :
      offeredTransports env req =
        proposals.map Proposal.parsed) :
    setupTrackCalls env localHost s req track proposals =
      setupTrack env s req track := by
  unfold setupTrackCalls rtpSessionNewCalls
  rw [rtpSessionTransport_result hCalls.udp, setupTrack_eq,
    rtpSessionNew_eq, hOffered]

theorem proposalsOf_parsed
    (offered : List OfferedTransport)
    (calls : Nat → UdpResults) :
    (proposalsOf offered calls).map Proposal.parsed =
      offered.map OfferedTransport.toParsedTransport := by
  unfold proposalsOf
  apply List.ext_getElem?
  intro i
  rw [List.getElem?_map, List.getElem?_mapIdx,
    List.getElem?_map, Option.map_map]
  rfl

/- With its calls left out, SETUP is that of the handlers. -/
theorem rtspSetupCalls_eq
    (hParse :
      env.parseTransport = fun header =>
        (ragelParseTransportHeader header).map
          OfferedTransport.toParsedTransport)
    (hCalls :
      CallsGive env localHost
        (proposalsOf (offeredBy req) calls)) :
    rtspSetupCalls env localHost calls s req =
      rtspSetup env s req := by
  have hOffered :
      offeredTransports env req =
        (offeredBy req).map
          OfferedTransport.toParsedTransport := by
    unfold offeredTransports offeredBy
    rw [hParse]
    cases rfc822HeadersLookup req.headers .transport with
    | none => rfl
    | some header => rfl
  have hProposed :
      offeredTransports env req =
        (proposalsOf (offeredBy req) calls).map
          Proposal.parsed := by
    rw [hOffered, proposalsOf_parsed]
  unfold rtspSetupCalls setupStart rtspSetup
  cases rfc822RequestCheckUrl s.rtsp req with
  | error fault => rfl
  | ok result =>
      rcases result with ⟨rtsp, _ | _⟩
      · rfl
      · simp only [hOffered, List.map_eq_nil_iff]
        by_cases hNone : offeredBy req = []
        · simp only [if_pos hNone]
        · simp only [if_neg hNone]
          rcases hOpen : openSession env s with
            ⟨opened, session⟩
          simp only
          cases selectRequestedTrack (env.urlEnv none)
            opened.rtsp req session with
          | error fault => rfl
          | ok result =>
              rcases result with ⟨rtsp', _, _ | track⟩
              · rfl
              · exact setupTrackCalls_eq hCalls hProposed

end Play

end Feng

------------------------------------------------------------
-- The First Success
------------------------------------------------------------

namespace Feng

namespace Play

variable {env : Env} {localHost : List UInt8} {s : Client}
variable {uri track : List UInt8} {proposals : List Proposal}
variable {outcome :
  Except Fault (Client × Option (RTPSession × List UInt8))}

/- Where the loop of `rtp_session_new` starts. -/
def selectionStart (s : Client) : TransportState :=
  ({ s with nextAddress := s.nextAddress + 1 },
    UdpSetup.zero)

/-
  Every proposal has a function, up to the first one that can
  be set up. That one is used, and without it there is no RTP
  session.
-/
inductive Selects
    (env : Env)
    (localHost : List UInt8)
    (s : Client)
    (uri track : List UInt8)
    (proposals : List Proposal) :
    Except Fault (Client × Option (RTPSession × List UInt8)) →
      Prop where
| first
    {before behind : List Proposal}
    {proposal : Proposal}
    {x y : TransportState}
    {transport : RTPTransport}
    {text : List UInt8} :
      proposals = before ++ proposal :: behind →
      AllFail (initTransport env localHost s.nextAddress)
        (selectionStart s) before x →
      initTransport env localHost s.nextAddress x proposal =
        some (y, some (transport, text)) →
      Selects env localHost s uri track proposals
        (.ok (y.1, some
          (sessionOver env s.nextAddress uri track transport,
            text)))
| none {x : TransportState} :
      AllFail (initTransport env localHost s.nextAddress)
        (selectionStart s) proposals x →
      Selects env localHost s uri track proposals
        (.ok (x.1, none))

theorem rtpSessionNewCalls_eq :
    rtpSessionNewCalls env localHost s uri track proposals =
      sessionFrom env s.nextAddress uri track
        (transportResult
          (tryInOrder
            (initTransport env localHost s.nextAddress)
            (selectionStart s) proposals)) := by
  unfold rtpSessionNewCalls
  rw [rtpSessionTransport_eq]
  rfl

theorem Selects.tryInOrder_ne_none
    (h :
      Selects env localHost s uri track proposals outcome) :
    tryInOrder (initTransport env localHost s.nextAddress)
      (selectionStart s) proposals ≠ .none := by
  cases h with
  | first hList hFail hFirst =>
      rw [tryInOrder_eq_success.mpr
        ⟨_, _, _, _, hList, hFail, hFirst⟩]
      exact nofun
  | none hFail =>
      rw [tryInOrder_eq_failure.mpr hFail]
      exact nofun

theorem selects_of_tryInOrder
    (hTry :
      tryInOrder (initTransport env localHost s.nextAddress)
        (selectionStart s) proposals ≠ none) :
    Selects env localHost s uri track proposals
      (rtpSessionNewCalls env localHost s uri track
        proposals) := by
  rw [rtpSessionNewCalls_eq]
  rcases Option.ne_none_iff_exists'.mp hTry with
    ⟨⟨x, _ | ⟨transport, text⟩⟩, hIs⟩
  · rw [hIs]
    exact .none (tryInOrder_eq_failure.mp hIs)
  · rw [hIs]
    rcases tryInOrder_eq_success.mp hIs with
      ⟨before, proposal, behind, y, hList, hFail, hFirst⟩
    exact .first hList hFail hFirst

/- No proposal over SCTP is come to. -/
def NoSctpTried
    (env : Env)
    (localHost : List UInt8)
    (s : Client)
    (proposals : List Proposal) : Prop :=
  ∀ before proposal behind x,
    proposals = before ++ proposal :: behind →
    AllFail (initTransport env localHost s.nextAddress)
      (selectionStart s) before x →
    proposal.parsed.protocol ≠ .sctp

theorem noSctpTried_iff :
    NoSctpTried env localHost s proposals ↔
      tryInOrder (initTransport env localHost s.nextAddress)
        (selectionStart s) proposals ≠ none := by
  constructor
  · intro hTried hNone
    rcases tryInOrder_eq_none.mp hNone with
      ⟨before, proposal, behind, x, hList, hFail, hInit⟩
    exact hTried before proposal behind x hList hFail
      (initTransport_eq_none.mp hInit)
  · intro hTry before proposal behind x hList hFail hSctp
    exact hTry (tryInOrder_eq_none.mpr
      ⟨before, proposal, behind, x, hList, hFail,
        initTransport_eq_none.mpr hSctp⟩)

theorem selects_iff :
    Selects env localHost s uri track proposals
        (rtpSessionNewCalls env localHost s uri track
          proposals) ↔
      NoSctpTried env localHost s proposals := by
  rw [noSctpTried_iff]
  exact ⟨Selects.tryInOrder_ne_none, selects_of_tryInOrder⟩

/-
  For the transports of a header, the first that can be set up
  is used, or SETUP answers 461, if and only if every one over
  SCTP stands behind one that can be set up.
-/
theorem transport_selected_iff
    (env : Env)
    (localHost : List UInt8)
    (calls : Nat → UdpResults)
    (s : Client)
    (req : RFC822Request)
    (track header : List UInt8)
    (hHeader :
      rfc822HeadersLookup req.headers .transport = some header)
    (_hOffered : ragelParseTransportHeader header ≠ []) :
    Selects env localHost s (req.object.getD []) track
          (proposalsOf (ragelParseTransportHeader header) calls)
          (rtpSessionNewCalls env localHost s
            (req.object.getD []) track
            (proposalsOf (ragelParseTransportHeader header)
              calls)) ∧
        (∀ t,
          rtpSessionNewCalls env localHost s
              (req.object.getD []) track
              (proposalsOf (ragelParseTransportHeader header)
                calls) =
            .ok (t, none) →
          setupTrackCalls env localHost s req track
              (proposalsOf (offeredBy req) calls) =
            .ok (t.quickResponse req 461)) ↔
      NoSctpTried env localHost s
        (proposalsOf (ragelParseTransportHeader header)
          calls) := by
  have hOffer :
      offeredBy req = ragelParseTransportHeader header := by
    unfold offeredBy
    rw [hHeader]
  rw [selects_iff, hOffer]
  apply and_iff_left
  intro t hNone
  unfold setupTrackCalls
  rw [hNone]
  rfl

/- A SETUP with the given Transport header. -/
def transportRequest (header : List UInt8) : RFC822Request :=
  { sampleRequest RTSPMethod.setup 2 with
    headers :=
      some [(.cSeq, printInt 2), (.transport, header)] }

/- Calls that all do what they are to do. -/
def workingCalls : UdpResults where
  firstSocket := 7
  firstBind := 0
  firstGetsockname := 0
  firstPort := 6000
  secondSocket := 8
  secondBind := 0
  thirdBind := 0
  secondGetsockname := 0
  secondPort := 0
  rtpConnect := 0
  rtcpConnect := 0

def sctpOffer : List UInt8 := ascii "RTP/AVP/SCTP;unicast"

def udpOffer : List UInt8 :=
  ascii "RTP/AVP;unicast;client_port=5000-5001"

theorem transport_selected_udp :
    Selects (sampleEnv 1000) (ascii "h") clientNew
          (ascii "rtsp://h/v/t") (ascii "t")
          (proposalsOf (ragelParseTransportHeader udpOffer)
            (fun _ => workingCalls))
          (rtpSessionNewCalls (sampleEnv 1000) (ascii "h")
            clientNew (ascii "rtsp://h/v/t") (ascii "t")
            (proposalsOf (ragelParseTransportHeader udpOffer)
              (fun _ => workingCalls))) ∧
        (∀ t,
          rtpSessionNewCalls (sampleEnv 1000) (ascii "h")
              clientNew (ascii "rtsp://h/v/t") (ascii "t")
              (proposalsOf
                (ragelParseTransportHeader udpOffer)
                (fun _ => workingCalls)) =
            .ok (t, none) →
          setupTrackCalls (sampleEnv 1000) (ascii "h")
              clientNew (transportRequest udpOffer) (ascii "t")
              (proposalsOf (offeredBy (transportRequest udpOffer))
                (fun _ => workingCalls)) =
            .ok (t.quickResponse (transportRequest udpOffer)
              461)) ↔
      NoSctpTried (sampleEnv 1000) (ascii "h") clientNew
        (proposalsOf (ragelParseTransportHeader udpOffer)
          (fun _ => workingCalls)) :=
  transport_selected_iff (sampleEnv 1000) (ascii "h")
    (fun _ => workingCalls) clientNew
    (transportRequest udpOffer) (ascii "t") udpOffer rfl
    (by decide +kernel)

/- There is no function for the only transport offered. -/
theorem sctp_not_selected :
    ragelParseTransportHeader sctpOffer =
        [{ protocol := .sctp
           rtpChannel := none
           rtcpChannel := none
           mode := .unicast }] ∧
      rtpSessionNewCalls (sampleEnv 1000) (ascii "h")
          clientNew (ascii "rtsp://h/v/t") (ascii "t")
          (proposalsOf (ragelParseTransportHeader sctpOffer)
            (fun _ => workingCalls)) =
        .error .noTransport ∧
      ¬ Selects (sampleEnv 1000) (ascii "h") clientNew
          (ascii "rtsp://h/v/t") (ascii "t")
          (proposalsOf (ragelParseTransportHeader sctpOffer)
            (fun _ => workingCalls))
          (rtpSessionNewCalls (sampleEnv 1000) (ascii "h")
            clientNew (ascii "rtsp://h/v/t") (ascii "t")
            (proposalsOf (ragelParseTransportHeader sctpOffer)
              (fun _ => workingCalls))) := by
  have hParsed :
      ragelParseTransportHeader sctpOffer =
        [{ protocol := .sctp
           rtpChannel := none
           rtcpChannel := none
           mode := .unicast }] := by
    decide +kernel
  rw [hParsed]
  refine ⟨rfl, rfl, ?_⟩
  intro hSelects
  exact hSelects.tryInOrder_ne_none rfl

end Play

end Feng
