import Feng.Rtp.Session
import Feng.Rtsp.Connection

/-
  What a client plays: the ranges of its session's edit list,
  the RTP sessions that point to them, and the writers and
  the timer that are armed meanwhile.

  Ranges are kept by address, and a freed one is not there
  any more. Addresses are not used again. Times in `double`
  are exact rationals, and `start_rtptime` is not reduced
  modulo 2^32 before it is read.

  Key definitions include:
    * `Play.RTPSession`
    * `Play.Client`
    * `Play.rtpSessionResume`
    * `Play.rtpWriteCb`
    * `Play.clientEvTimeout`
-/

------------------------------------------------------------
-- Clients That Play
------------------------------------------------------------

namespace Feng

namespace Play

inductive RTPProtocol where
| udp
| tcp
| sctp
deriving DecidableEq, Repr

/- A channel that is not chosen is -1 in the source. -/
structure ParsedTransport where
  protocol : RTPProtocol
  rtpChannel : Option Nat
  rtcpChannel : Option Nat
deriving DecidableEq, Repr

inductive RTPTransport where
| udp
| tcp (rtp rtcp : Nat)
deriving DecidableEq, Repr

/-
  A packet that was sent: its timestamp before the reduction
  modulo 2^32, the buffer's, and the `begin_time` and time it
  was sent at.
-/
structure SentPacket where
  rtptime : ℤ
  timestamp : ℚ
  beginTime : ℚ
  time : Nat
deriving DecidableEq, Repr

/-
  An RTP session, by its address. The range is an address, or
  null; the writer is the time it is due when it is armed.

  It comes with the packets it sent, and with whether it was
  resumed since it was created or last paused.
-/
structure RTPSession where
  address : Nat
  multicast : Bool
  startRtptime : ℤ
  ssrc : Nat
  lastPacketSendTime : Nat
  range : Option Nat
  lastTimestamp : ℚ
  uri : List UInt8
  track : List UInt8
  properties : MediaProperties
  octetCount : Nat
  pktCount : Nat
  transport : RTPTransport
  rtpWriter : Option ℚ
  resumed : Bool
  packets : List SentPacket
deriving DecidableEq, Repr

/- What a session owns besides its resource. -/
structure Playback where
  started : Bool
  rtpSessions : List RTPSession
  playRequests : List Nat
deriving DecidableEq, Repr

/- What there is without a session, or with a new one. -/
def Playback.empty : Playback where
  started := false
  rtpSessions := []
  playRequests := []

/-
  A client with what its session plays. The table `channels`
  gives the address of an RTP session for an RTCP channel;
  `evTimeout` tells whether the timer is armed.
-/
structure Client where
  rtsp : RTSPClient
  playback : Playback
  ranges : List (Option RTSPRange)
  evTimeout : Bool
  firstFreeChannel : Nat
  channels : Option (List (Nat × Nat))
  nextAddress : Nat
deriving DecidableEq, Repr

/- A client as `rtsp_client_incoming_cb` sets it up. -/
def clientNew : Client where
  rtsp := rtspClientNew
  playback := Playback.empty
  ranges := []
  evTimeout := false
  firstFreeChannel := 0
  channels := none
  nextAddress := 0

/-
  What goes wrong: a null string is used, a null session,
  resource or range is dereferenced, a range that was freed
  is used, or there is no such method or transport.
-/
inductive Fault where
| url (fault : UrlFault)
| nullSession
| nullResource
| nullRange
| freedRange
| noMethod
| noTransport
deriving DecidableEq, Repr

namespace Client

def curState (s : Client) : RTSPServerState :=
  s.rtsp.curState

/- `rfc822_response_send`. -/
def send (s : Client) (response : RFC822Response) : Client :=
  { s with rtsp := rfc822ResponseSend s.rtsp response }

/- `rtsp_quick_response`. -/
def quickResponse
    (s : Client)
    (req : RFC822Request)
    (code : Nat) : Client :=
  s.send (rtspQuickResponse req code)

/- The range at an address, if it is not freed. -/
def rangeAt (s : Client) (address : Nat) : Option RTSPRange :=
  s.ranges[address]?.join

/- The range behind a pointer. -/
def deref
    (s : Client)
    (pointer : Option Nat) : Except Fault RTSPRange :=
  match pointer with
  | none => .error .nullRange
  | some address =>
      match s.rangeAt address with
      | none => .error .freedRange
      | some range => .ok range

def setRange
    (s : Client)
    (address : Nat)
    (range : RTSPRange) : Client :=
  { s with ranges := s.ranges.set address (some range) }

/- `g_queue_peek_head(session->play_requests)`. -/
def headRange (s : Client) : Option Nat :=
  s.playback.playRequests.head?

def setSessions
    (s : Client)
    (rtpSessions : List RTPSession) : Client :=
  { s with
    playback := { s.playback with rtpSessions := rtpSessions } }

/- A new `cur_state` for the session, if there is one. -/
def setState
    (s : Client)
    (state : RTSPServerState) : Client :=
  { s with
    rtsp :=
      { s.rtsp with
        session :=
          s.rtsp.session.map
            (fun session =>
              { session with curState := state }) } }

end Client

end Play

end Feng

------------------------------------------------------------
-- Edit Lists
------------------------------------------------------------

namespace Feng

namespace Play

/- `rtsp_session_editlist_append`, of a new range. -/
def rtspSessionEditlistAppend
    (s : Client)
    (range : RTSPRange) : Client :=
  { s with
    ranges := s.ranges ++ [some range]
    playback :=
      { s.playback with
        playRequests :=
          s.playback.playRequests ++ [s.ranges.length] } }

/- The ranges at these addresses, freed. -/
def freeRanges
    (ranges : List (Option RTSPRange))
    (addresses : List Nat) : List (Option RTSPRange) :=
  addresses.foldl (fun ranges address =>
    ranges.set address none) ranges

def rtspSessionEditlistFree (s : Client) : Client :=
  { s with
    ranges := freeRanges s.ranges s.playback.playRequests
    playback := { s.playback with playRequests := [] } }

/-
  `rtsp_session_free`. The RTP sessions are freed with their
  writers stopped; an interleaved transport is not closed.
-/
def rtspSessionFree (s : Client) : Client :=
  { rtspSessionEditlistFree s with playback := Playback.empty }

end Play

end Feng

------------------------------------------------------------
-- RTP Sessions
------------------------------------------------------------

namespace Feng

namespace Play

/- `time` is `time(NULL)`. -/
def rtpSessionResume
    (address : Nat)
    (range : RTSPRange)
    (time : Nat)
    (session : RTPSession) : RTPSession :=
  { session with
    range := some address
    startRtptime :=
      session.startRtptime +
        ((time : ℤ) - session.lastPacketSendTime) *
          session.properties.clockRate
    lastPacketSendTime := time
    rtpWriter := some (range.playbackTime - 1 / 20)
    resumed := true }

def rtpSessionPause (session : RTPSession) : RTPSession :=
  { session with
    rtpWriter := none
    resumed := false }

/- The integral part, as a conversion in C takes it. -/
def truncate (x : ℚ) : ℤ :=
  if 0 ≤ x then ⌊x⌋ else ⌈x⌉

/- Before the reduction modulo 2^32. -/
def rtptime
    (session : RTPSession)
    (range : RTSPRange)
    (timestamp : ℚ) : ℤ :=
  session.startRtptime +
    truncate
      ((timestamp - range.beginTime) *
        session.properties.clockRate)

/-
  What the writer learns from its surroundings: the answers of
  the queue, of the transport, and `time(NULL)`.
-/
structure WriterEnv where
  stopped : Bool
  eor : Bool
  buffer : Option MParserBuffer
  next : Option MParserBuffer
  sent : Bool
  time : Nat
deriving DecidableEq, Repr

def rtpPacketSend
    (env : WriterEnv)
    (session : RTPSession)
    (range : RTSPRange)
    (buffer : MParserBuffer) : RTPSession :=
  if env.sent then
    { session with
      lastTimestamp := buffer.timestamp
      pktCount := (session.pktCount + 1) % 2 ^ 32
      octetCount :=
        (session.octetCount + buffer.data.length) % 2 ^ 32
      lastPacketSendTime := env.time
      packets :=
        session.packets ++
          [{ rtptime := rtptime session range buffer.timestamp
             timestamp := buffer.timestamp
             beginTime := range.beginTime
             time := env.time }] }
  else
    session

/- When the writer is due again after a packet. -/
def nextTime
    (env : WriterEnv)
    (session : RTPSession)
    (range : RTSPRange)
    (due : ℚ)
    (buffer : MParserBuffer) : ℚ :=
  match env.next with
  | none =>
      due +
        if buffer.duration ≠ 0 then buffer.duration else 1 / 10
  | some next =>
      if buffer.delivery = next.delivery then
        due
      else
        match session.properties.mediaSource with
        | .live => due + next.delivery - buffer.delivery
        | .stored =>
            range.playbackTime - range.beginTime +
              next.delivery

/-
  `rtp_write_cb`. A report needs the range, for its timestamp;
  the writer is stopped unless it is started again.
-/
def rtpWriteCb
    (env : WriterEnv)
    (s : Client)
    (session : RTPSession)
    (due : ℚ) : Except Fault RTPSession :=
  if env.stopped then
    match s.deref session.range with
    | .error fault => .error fault
    | .ok _ => .ok { session with rtpWriter := none }
  else
    match env.buffer with
    | none =>
        if env.eor then
          match s.deref session.range with
          | .error fault => .error fault
          | .ok _ => .ok { session with rtpWriter := none }
        else
          let sleepFor :=
            if session.properties.frameDuration > 0 then
              session.properties.frameDuration
            else
              1 / 10
          .ok { session with rtpWriter := some (due + sleepFor) }
    | some buffer =>
        match s.deref session.range with
        | .error fault => .error fault
        | .ok range =>
            .ok { rtpPacketSend env session range buffer with
              rtpWriter :=
                some (nextTime env session range due buffer) }

def streamTimeout : Nat := 12

/-
  `client_ev_timeout`, with `time(NULL)`: the loop is left when
  a stream has timed out, and the timer is started again.
-/
def clientEvTimeout
    (time : Nat)
    (s : Client) : Except Fault Client :=
  match s.rtsp.session with
  | none => .error .nullSession
  | some _ =>
      let kicked :=
        s.playback.rtpSessions.any (fun session =>
          session.lastPacketSendTime + streamTimeout ≤ time)
      .ok { s with
        rtsp :=
          if kicked then
            { s.rtsp with connected := false }
          else
            s.rtsp
        evTimeout := true }

end Play

end Feng
