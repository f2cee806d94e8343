import Feng.Lib.System
import Feng.Play.Session

/-
  The method handlers for a client that plays, the handling
  of a request, and the runs of a client: requests, writers
  that are due and expirations of the timer, in any order.

  The checks of the URL and the choice of a track are those
  of the handlers on a client alone.

  Key definitions include:
    * `Play.rtpInterleavedTransport`
    * `Play.rtspSetup`
    * `Play.parseRangeHeader`
    * `Play.doPlay`
    * `Play.rtspPlay`
    * `Play.rtspHandleRequest`
    * `Play.system`
-/

------------------------------------------------------------
-- What A Request Meets
------------------------------------------------------------

namespace Feng

namespace Play

/-
  What a request is handled with: the parsers of the headers,
  what is found under a file name, the loop's `ev_now` and
  `time(NULL)`, what there is to know of the resource and the
  track, and the random numbers drawn for a session.
-/
structure Env where
  unescape : List UInt8 → Option (List UInt8)
  documentRoot : List UInt8
  resourceAt : List UInt8 → Option Resource
  parseTransport : List UInt8 → List ParsedTransport
  parseRange : List UInt8 → RTSPRange → Option RTSPRange
  evNow : ℚ
  time : Nat
  seekable : Bool
  duration : ℚ
  seekFails : ℚ → Bool
  udpTransport : Option (List UInt8)
  sessionId : List UInt8
  ssrc : Nat
  startRtptime : Nat
  properties : MediaProperties

/- PLAY is not asked for its outcome here. -/
def Env.urlEnv
    (env : Env)
    (transportString : Option (List UInt8)) : UrlEnv where
  unescape := env.unescape
  documentRoot := env.documentRoot
  resourceAt := env.resourceAt
  parseTransportHeader :=
    fun header => !(env.parseTransport header).isEmpty
  transportString := transportString
  sessionId := env.sessionId
  play := fun rtsp req =>
    { session := rtsp.session
      response := rtspQuickResponse req 200 }

end Play

end Feng

------------------------------------------------------------
-- Numbers In Headers
------------------------------------------------------------

namespace Feng

namespace Play

/- `%d` -/
def printInt (n : Nat) : List UInt8 :=
  ascii (toString n)

/- `%08X` -/
def printHex (n : Nat) : List UInt8 :=
  let digits := (Nat.toDigits 16 n).map Char.toUpper
  ascii
    (String.ofList
      (List.replicate (8 - digits.length) '0' ++ digits))

/- The nearest integer, the even one of two. -/
def nearest (x : ℚ) : ℤ :=
  let below := ⌊x⌋
  if x - below < 1 / 2 then below
  else if 1 / 2 < x - below then below + 1
  else if below % 2 = 0 then below
  else below + 1

/- `%f` -/
def printDouble (x : ℚ) : List UInt8 :=
  let micros := (nearest (|x| * 10 ^ 6)).toNat
  let fraction := ascii (toString (micros % 10 ^ 6))
  (if x < 0 then ascii "-" else []) ++
    printInt (micros / 10 ^ 6) ++ [46] ++
    List.replicate (6 - fraction.length) 48 ++ fraction

end Play

end Feng

------------------------------------------------------------
-- Transports
------------------------------------------------------------

namespace Feng

namespace Play

/- `g_hash_table_insert`, which replaces. -/
def insertChannel
    (channels : List (Nat × Nat))
    (channel address : Nat) : List (Nat × Nat) :=
  channels.filter (fun entry => entry.1 ≠ channel) ++
    [(channel, address)]

def rtspInterleavedRegister
    (s : Client)
    (address rtcpChannel : Nat) : Client :=
  { s with
    channels :=
      some
        (insertChannel (s.channels.getD []) rtcpChannel
          address) }

/- The channel to use, and the counter after it is chosen. -/
def chooseChannel
    (chosen : Option Nat)
    (firstFreeChannel : Nat) : Nat × Nat :=
  match chosen with
  | some channel => (channel, firstFreeChannel)
  | none => (firstFreeChannel + 1, firstFreeChannel + 1)

/- The transport chosen, and how it is reported. -/
abbrev TransportResult :=
  Client × Option (RTPTransport × List UInt8)

def rtpInterleavedTransport
    (env : Env)
    (s : Client)
    (address : Nat)
    (parsed : ParsedTransport) : TransportResult :=
  let (rtp, free) :=
    chooseChannel parsed.rtpChannel s.firstFreeChannel
  let (rtcp, free) := chooseChannel parsed.rtcpChannel free
  let s := { s with firstFreeChannel := free }
  if 256 ≤ rtp ∨ 256 ≤ rtcp then
    (s, none)
  else
    (rtspInterleavedRegister s address rtcp,
      some (.tcp rtp rtcp,
        ascii "RTP/AVP/TCP;interleaved=" ++ printInt rtp ++
          ascii "-" ++ printInt rtcp ++ ascii ";ssrc=" ++
          printHex env.ssrc))

/-
  The transports in the order they are offered, up to one that
  can be set up. There is no function for SCTP.
-/
def rtpTransportInit
    (env : Env)
    (s : Client)
    (address : Nat) :
    List ParsedTransport → Except Fault TransportResult
| [] => .ok (s, none)
| parsed :: transports =>
    match parsed.protocol with
    | .sctp => .error .noTransport
    | .udp =>
        match env.udpTransport with
        | some transportString =>
            .ok (s, some (.udp, transportString))
        | none => rtpTransportInit env s address transports
    | .tcp =>
        match rtpInterleavedTransport env s address parsed with
        | (s, some chosen) => .ok (s, some chosen)
        | (s, none) =>
            rtpTransportInit env s address transports

/- `rtp_session_new`, with how the transport is reported. -/
def rtpSessionNew
    (env : Env)
    (s : Client)
    (uri track : List UInt8)
    (transports : List ParsedTransport) :
    Except Fault (Client × Option (RTPSession × List UInt8)) :=
  let address := s.nextAddress
  match
    rtpTransportInit env { s with nextAddress := address + 1 }
      address transports
  with
  | .error fault => .error fault
  | .ok (s, none) => .ok (s, none)
  | .ok (s, some (transport, transportString)) =>
      .ok (s, some
        ({ address := address
           multicast := false
           startRtptime := env.startRtptime
           ssrc := env.ssrc
           lastPacketSendTime := 0
           range := none
           lastTimestamp := 0
           uri := uri
           track := track
           properties := env.properties
           octetCount := 0
           pktCount := 0
           transport := transport
           rtpWriter := none
           resumed := false
           packets := [] }, transportString))

end Play

end Feng

------------------------------------------------------------
-- SETUP And TEARDOWN
------------------------------------------------------------

namespace Feng

namespace Play

/- The transports that are offered, or none. -/
def offeredTransports
    (env : Env)
    (req : RFC822Request) : List ParsedTransport :=
  match rfc822HeadersLookup req.headers .transport with
  | none => []
  | some header => env.parseTransport header

/- A SETUP, once its track is found. -/
def setupTrack
    (env : Env)
    (s : Client)
    (req : RFC822Request)
    (track : List UInt8) : Except Fault Client :=
  match
    rtpSessionNew env s (req.object.getD []) track
      (offeredTransports env req)
  with
  | .error fault => .error fault
  | .ok (s, none) => .ok (s.quickResponse req 461)
  | .ok (s, some (session, transportString)) =>
      let s :=
        s.setSessions (s.playback.rtpSessions ++ [session])
      .ok { s with
        rtsp :=
          Feng.setupTrack (env.urlEnv (some transportString))
            s.rtsp req track }

/- The client with its session, a new one if it has none. -/
def openSession (env : Env) (s : Client) : Client × RTSPSession :=
  match s.rtsp.session with
  | some session => (s, session)
  | none =>
      let session := rtspSessionNew env.sessionId
      ({ s with
        rtsp := { s.rtsp with session := some session }
        playback := Playback.empty }, session)

def rtspSetup
    (env : Env)
    (s : Client)
    (req : RFC822Request) : Except Fault Client :=
  match rfc822RequestCheckUrl s.rtsp req with
  | .error fault => .error (.url fault)
  | .ok (rtsp, false) => .ok { s with rtsp := rtsp }
  | .ok (_, true) =>
      if offeredTransports env req = [] then
        .ok (s.quickResponse req 461)
      else
        let (s, session) := openSession env s
        match
          selectRequestedTrack (env.urlEnv none) s.rtsp req
            session
        with
        | .error fault => .error (.url fault)
        | .ok (rtsp, _, none) => .ok { s with rtsp := rtsp }
        | .ok (rtsp, _, some track) =>
            setupTrack env { s with rtsp := rtsp } req track

def rtspTeardown
    (s : Client)
    (req : RFC822Request) : Except Fault Client :=
  match rfc822RequestCheckUrl s.rtsp req with
  | .error fault => .error (.url fault)
  | .ok (rtsp, false) => .ok { s with rtsp := rtsp }
  | .ok (_, true) =>
      let s := rtspSessionFree s
      let s := { s with rtsp := { s.rtsp with session := none } }
      .ok (s.quickResponse req 200)

end Play

end Feng

------------------------------------------------------------
-- PAUSE
------------------------------------------------------------

namespace Feng

namespace Play

/- The head range at the pause point. -/
def pausedRange (now : ℚ) (range : RTSPRange) : RTSPRange :=
  { range with
    beginTime := range.beginTime + (now - range.playbackTime)
    playbackTime := -1 / 10 }

def rtspDoPause
    (now : ℚ)
    (s : Client) : Except Fault Client :=
  match s.rtsp.session, s.headRange with
  | none, _ => .error .nullSession
  | some _, none => .error .nullRange
  | some _, some address =>
      match s.rangeAt address with
      | none => .error .freedRange
      | some range =>
          let s := s.setRange address (pausedRange now range)
          let s :=
            s.setSessions
              (s.playback.rtpSessions.map rtpSessionPause)
          .ok ({ s with evTimeout := false }.setState .ready)

def rtspPause
    (env : Env)
    (s : Client)
    (req : RFC822Request) : Except Fault Client :=
  match rtspCheckInvalidState s.rtsp req .init with
  | (rtsp, false) => .ok { s with rtsp := rtsp }
  | (_, true) =>
      match rtspCheckInvalidState s.rtsp req .ready with
      | (rtsp, false) => .ok { s with rtsp := rtsp }
      | (_, true) =>
          match rfc822RequestCheckUrl s.rtsp req with
          | .error fault => .error (.url fault)
          | .ok (rtsp, false) => .ok { s with rtsp := rtsp }
          | .ok (_, true) =>
              match rtspDoPause env.evNow s with
              | .error fault => .error fault
              | .ok s => .ok (s.quickResponse req 200)

end Play

end Feng

------------------------------------------------------------
-- PLAY
------------------------------------------------------------

namespace Feng

namespace Play

/- The range to start from, if there is no header. -/
def defaultrange : RTSPRange where
  beginTime := 0
  endTime := -1 / 10
  playbackTime := -1 / 10

def requestedRange
    (env : Env)
    (rangeHdr : Option (List UInt8)) : Option RTSPRange :=
  match rangeHdr with
  | none => some defaultrange
  | some header => env.parseRange header defaultrange

/- The end and the time of the playback, once they are known. -/
def completeRange
    (env : Env)
    (range : RTSPRange) : RTSPRange :=
  { range with
    endTime :=
      if range.endTime < 0 ∨ env.duration < range.endTime then
        env.duration
      else
        range.endTime
    playbackTime :=
      if range.playbackTime < 0 then
        env.evNow
      else
        range.playbackTime }

/- The end of `parse_range_header`: the edit list has a range. -/
def queueRange
    (env : Env)
    (s : Client)
    (range : RTSPRange) : Client :=
  let s :=
    if s.curState ≠ .playing then
      rtspSessionEditlistFree s
    else
      s
  rtspSessionEditlistAppend s (completeRange env range)

/- The client, and the code to respond with. -/
abbrev CodeResult := Except Fault (Client × Nat)

def hasResource (s : Client) : Bool :=
  s.rtsp.session.any (fun session => session.resource.isSome)

def parseRangeHeader
    (env : Env)
    (s : Client)
    (req : RFC822Request) : CodeResult :=
  let rangeHdr := rfc822HeadersLookup req.headers .range
  match rangeHdr, s.headRange with
  | none, some address =>
      match s.rangeAt address with
      | none => .error .freedRange
      | some range =>
          .ok (s.setRange address
            { range with playbackTime := env.evNow }, 200)
  | _, _ =>
      match requestedRange env rangeHdr with
      | none => .ok (s, 501)
      | some range =>
          if hasResource s = false then
            .error .nullResource
          else if env.seekable = false ∧
              range.beginTime ≠ 0 ∧
              range.endTime ≠ -1 / 10 then
            .ok (s, 456)
          else
            .ok (queueRange env s range, 200)

/- `rtp_session_gslist_resume` and the state before it. -/
def startPlaying
    (env : Env)
    (s : Client) : CodeResult :=
  let s := s.setState .playing
  if (s.playback.rtpSessions.head?).any
      (fun session => session.multicast) then
    .ok (s, 200)
  else
    match s.headRange, s.deref s.headRange with
    | some address, .ok range =>
        .ok ({ s with
          playback :=
            { s.playback with
              started := true
              rtpSessions :=
                s.playback.rtpSessions.map
                  (rtpSessionResume address range
                    env.time) } }, 200)
    | _, .error fault => .error fault
    | none, .ok _ => .error .nullRange

def doPlay
    (env : Env)
    (s : Client) : CodeResult :=
  if hasResource s = false then
    .error .nullResource
  else if env.seekable then
    match s.deref s.headRange with
    | .error fault => .error fault
    | .ok range =>
        if env.seekFails range.beginTime then
          .ok (s, 457)
        else
          startPlaying env s
  else
    startPlaying env s

/- `rtp_session_send_play_reply`. -/
def rtpInfo (session : RTPSession) : List UInt8 :=
  ascii "url=" ++ session.uri ++ ascii ";seq=1" ++
    (match session.properties.mediaSource with
    | .live => []
    | .stored =>
        ascii ";rtptime=" ++
          printInt (session.startRtptime % 2 ^ 32).toNat) ++
    ascii ","

/- The reply, for the range at the head of the edit list. -/
def playReply
    (s : Client)
    (req : RFC822Request)
    (range : RTSPRange) : RFC822Response :=
  let response := rfc822ResponseNew req 200
  let info := s.playback.rtpSessions.flatMap rtpInfo
  { response with
    headers :=
      rfc822HeadersSet
        (rfc822HeadersSet response.headers .range
          (ascii "npt=" ++
            (if 0 ≤ range.beginTime then
              printDouble range.beginTime else []) ++
            ascii "-" ++
            (if 0 < range.endTime then
              printDouble range.endTime else [])))
        .rtpInfo info.dropLast }

def sendPlayReply
    (s : Client)
    (req : RFC822Request) : Except Fault Client :=
  match s.deref s.headRange with
  | .error fault => .error fault
  | .ok range => .ok (s.send (playReply s req range))

def vlcUserAgent (req : RFC822Request) : Bool :=
  (rfc822HeadersLookup req.headers .userAgent).any
    (fun userAgent =>
      decide (ascii "VLC media player" <+: userAgent))

/- Clients that seek by PLAY alone are paused first. -/
def workAround
    (env : Env)
    (s : Client)
    (req : RFC822Request) : Except Fault Client :=
  if s.curState = .playing ∧ vlcUserAgent req then
    rtspDoPause env.evNow s
  else
    .ok s

def playUnlessPlaying
    (env : Env)
    (s : Client) : CodeResult :=
  if s.curState ≠ .playing then
    doPlay env s
  else
    .ok (s, 200)

/- PLAY behind its checks; the session has an identifier. -/
def playChecked
    (env : Env)
    (s : Client)
    (req : RFC822Request) : Except Fault Client := do
  let s ← workAround env s req
  let (s, error) ← parseRangeHeader env s req
  if error ≠ 200 then
    .ok (s.quickResponse req error)
  else
    let (s, error) ← playUnlessPlaying env s
    if error ≠ 200 then
      .ok (s.quickResponse req error)
    else
      let s ← sendPlayReply s req
      .ok { s with evTimeout := true }

def rtspPlay
    (env : Env)
    (s : Client)
    (req : RFC822Request) : Except Fault Client :=
  match rtspCheckInvalidState s.rtsp req .init with
  | (rtsp, false) => .ok { s with rtsp := rtsp }
  | (_, true) =>
      match rfc822RequestCheckUrl s.rtsp req with
      | .error fault => .error (.url fault)
      | .ok (rtsp, false) => .ok { s with rtsp := rtsp }
      | .ok (_, true) => playChecked env s req

end Play

end Feng

------------------------------------------------------------
-- Requests
------------------------------------------------------------

namespace Feng

namespace Play

def rtspDescribe
    (env : Env)
    (s : Client)
    (req : RFC822Request) : Except Fault Client :=
  match Feng.rtspDescribe (env.urlEnv none) s.rtsp req with
  | .error fault => .error (.url fault)
  | .ok (rtsp, _) => .ok { s with rtsp := rtsp }

/- The entry of the table `methods`, called. -/
def callMethod
    (env : Env)
    (s : Client)
    (req : RFC822Request) : Except Fault Client :=
  if req.methodId = RTSPMethod.options then
    .ok { s with rtsp := rtspOptions s.rtsp req }
  else
    match urlMethodOf req.methodId with
    | none => .error .noMethod
    | some .describe => rtspDescribe env s req
    | some .setup => rtspSetup env s req
    | some .play => rtspPlay env s req
    | some .pause => rtspPause env s req
    | some .teardown => rtspTeardown s req

/- A request whose number is in order. -/
def handleNumberedRequest
    (env : Env)
    (s : Client)
    (req : RFC822Request)
    (cseqVal : Nat) : Except Fault Client :=
  match
    rtspCheckSession { s.rtsp with lastCseq := cseqVal } req
  with
  | (rtsp, false) => .ok { s with rtsp := rtsp }
  | (rtsp, true) =>
      match rtspCheckRequiredOptions rtsp req with
      | (rtsp, false) => .ok { s with rtsp := rtsp }
      | (rtsp, true) =>
          callMethod env { s with rtsp := rtsp } req

/- `rtsp_handle_request`, but for the end of it. -/
def handleRequestBody
    (env : Env)
    (s : Client)
    (req : RFC822Request) : Except Fault Client :=
  match rfc822HeadersLookup req.headers .cSeq with
  | none => .ok (s.quickResponse req 400)
  | some cseqHdr =>
      let (cseqVal, cseqRead) := gAsciiStrtoull cseqHdr
      if cseqVal = gMaxUint64 then
        .ok (s.quickResponse req 400)
      else if cseqRead < cseqHdr.length then
        .ok (s.quickResponse req 400)
      else if cseqVal ≤ s.rtsp.lastCseq then
        .ok s
      else
        handleNumberedRequest env s req cseqVal

def rtspHandleRequest
    (env : Env)
    (s : Client)
    (req : RFC822Request) : Except Fault Client :=
  match handleRequestBody env s req with
  | .error fault => .error fault
  | .ok s =>
      .ok { s with
        rtsp := { s.rtsp with pendingRequest := none } }

end Play

end Feng

------------------------------------------------------------
-- Runs Of A Client
------------------------------------------------------------

namespace Feng

namespace Play

inductive Op where
/- A request is handled. -/
| request (req : RFC822Request) (env : Env)
/- The writer of an RTP session is due. -/
| write (address : Nat) (env : WriterEnv)
/- The timer expires. -/
| timeout (time : Nat)

/- The RTP session at an address. -/
def sessionAt
    (s : Client)
    (address : Nat) : Option RTPSession :=
  s.playback.rtpSessions.find?
    (fun session => session.address = address)

/- Writers and the timer only go off when they are armed. -/
def enabled (s : Client) : Op → Prop
| .request _ _ => True
| .write address _ =>
    (sessionAt s address).any
      (fun session => session.rtpWriter.isSome) = true
| .timeout _ => s.evTimeout = true

instance decidableEnabled
    (s : Client) :
    (op : Op) → Decidable (enabled s op)
| .request _ _ => isTrue trivial
| .write address _ =>
    inferInstanceAs
      (Decidable
        ((sessionAt s address).any
          (fun session => session.rtpWriter.isSome) = true))
| .timeout _ =>
    inferInstanceAs (Decidable (s.evTimeout = true))

/- An RTP session in the place of the one at its address. -/
def updateSession
    (s : Client)
    (session : RTPSession) : Client :=
  s.setSessions
    (s.playback.rtpSessions.map (fun other =>
      if other.address = session.address then
        session
      else
        other))

/- The writer of an RTP session goes off. -/
def writeStep
    (env : WriterEnv)
    (s : Client)
    (address : Nat) : Except Fault Client :=
  match sessionAt s address with
  | none => .ok s
  | some session =>
      match session.rtpWriter with
      | none => .ok s
      | some due =>
          match rtpWriteCb env s session due with
          | .error fault => .error fault
          | .ok session => .ok (updateSession s session)

def step (s : Client) : Op → Except Fault Client
| .request req env => rtspHandleRequest env s req
| .write address env => writeStep env s address
| .timeout time => clientEvTimeout time s

def system : System Client Op :=
  System.ofStep clientNew enabled step

end Play

end Feng

------------------------------------------------------------
-- A Client To Try
------------------------------------------------------------

namespace Feng

namespace Play

/- A seekable recording of a minute, over TCP. -/
def sampleEnv (time : Nat) : Env where
  unescape := some
  documentRoot := ascii "/srv"
  resourceAt := fun _ => some ⟨[ascii "t"]⟩
  parseTransport := fun _ => [⟨.tcp, none, none⟩]
  parseRange := fun _ range => some range
  evNow := time
  time := time
  seekable := true
  duration := 60
  seekFails := fun _ => false
  udpTransport := none
  sessionId := ascii "0123456789abcdef"
  ssrc := 1
  startRtptime := 0
  properties :=
    { payloadType := 96
      clockRate := 100
      mediaSource := .stored
      frameDuration := 0 }

def sampleRequest (methodId cseq : Nat) : RFC822Request where
  proto := .rtsp10
  methodId := methodId
  methodStr := none
  object := some (ascii "rtsp://h/v/t")
  uri :=
    some
      { scheme := some (ascii "rtsp")
        userinfo := none
        host := some (ascii "h")
        port := none
        path := some (ascii "v/t")
        query := none
        fragment := none }
  protocolStr := none
  headers :=
    some [(.cSeq, printInt cseq),
      (.transport, ascii "RTP/AVP/TCP")]

end Play

end Feng
