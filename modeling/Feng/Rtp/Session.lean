import Feng.BufferQueue.Model
import Mathlib.Data.Rat.Floor

/-
  The RTP session that sends the buffers of a track: the
  packets it builds, and the callback that writes them.

  `rtp_write_cb` takes the lock of the queue three times, and
  the thread that fills the queue may come in between. It is
  cut there into three steps, with its local variables kept
  in between. Times in `double` are exact rationals.

  Key definitions include:
    * `RTPSession`
    * `RTPPacket`
    * `rtptime`
    * `rtpPacketSend`
    * `rtpWriteCbGet`
    * `rtpWriteCbMove`
    * `rtpWriteCbNext`
    * `Rtp.system`
-/

------------------------------------------------------------
-- Sessions And Packets
------------------------------------------------------------

namespace Feng

inductive MediaSource where
| stored
| live
deriving DecidableEq, Repr

/- What a session reads of the properties of its track. -/
structure MediaProperties where
  payloadType : Nat
  clockRate : Nat
  mediaSource : MediaSource
  frameDuration : ℚ
deriving DecidableEq, Repr

structure RTSPRange where
  beginTime : ℚ
  endTime : ℚ
  playbackTime : ℚ
deriving DecidableEq, Repr

/-
  A session that has been resumed, so that its range is set.
  The consumer is named by its number in the queue, and the
  writer by the time it is due.
-/
structure RTPSession where
  startRtptime : Nat
  ssrc : Nat
  lastPacketSendTime : Nat
  range : RTSPRange
  lastTimestamp : ℚ
  properties : MediaProperties
  consumer : Nat
  octetCount : Nat
  pktCount : Nat
  writerOffset : ℚ
deriving DecidableEq, Repr

structure RTPPacket where
  version : Nat
  padding : Nat
  extension : Nat
  csrcLen : Nat
  marker : Bool
  payload : Nat
  seqNo : Nat
  timestamp : Nat
  ssrc : Nat
  data : List UInt8
deriving DecidableEq, Repr

/- The kinds of report a session sends. -/
inductive RtcpPktType where
| sdes
| bye
deriving DecidableEq, Repr

inductive RtpOutput where
| rtp (packet : RTPPacket)
| rtcp (type : RtcpPktType)
deriving DecidableEq, Repr

/-
  A `double` as a `uint32_t`: its integral part, which C only
  promises for values that fit.
-/
def doubleToUInt32 (x : ℚ) : Nat :=
  ((if 0 ≤ x then ⌊x⌋ else ⌈x⌉) % 2 ^ 32).toNat

def rtptime
    (session : RTPSession)
    (clockRate : Nat)
    (buffer : MParserBuffer) : Nat :=
  (session.startRtptime +
    doubleToUInt32
      ((buffer.timestamp - session.range.beginTime) *
        clockRate)) % 2 ^ 32

/- The packet `rtp_packet_send` hands to `send_rtp`. -/
def rtpPacket
    (session : RTPSession)
    (buffer : MParserBuffer) : RTPPacket where
  version := 2
  padding := 0
  extension := 0
  csrcLen := 0
  marker := buffer.marker
  payload := session.properties.payloadType % 2 ^ 7
  seqNo := buffer.seqNo % 2 ^ 16
  timestamp :=
    rtptime session session.properties.clockRate buffer
  ssrc := session.ssrc
  data := buffer.data

/- `sent` is what `send_rtp` returns, `now` is `time(NULL)`. -/
def rtpPacketSend
    (session : RTPSession)
    (buffer : MParserBuffer)
    (sent : Bool)
    (now : Nat) : RTPSession :=
  if sent then
    { session with
      lastTimestamp := buffer.timestamp
      pktCount := (session.pktCount + 1) % 2 ^ 32
      octetCount :=
        (session.octetCount + buffer.data.length) % 2 ^ 32
      lastPacketSendTime := now }
  else
    session

end Feng

------------------------------------------------------------
-- The Writer
------------------------------------------------------------

namespace Feng

/- Where `rtp_write_cb` is, with its local variables. -/
inductive RtpWriteCb where
/- Not running. -/
| idle
/- The buffer was sent; next comes `bq_consumer_move`. -/
| sent (nextTime : ℚ) (buffer : MParserBuffer)
/- The move succeeded; next comes `bq_consumer_get`. -/
| moved (nextTime : ℚ) (buffer : MParserBuffer)
deriving DecidableEq, Repr

/- A session, its queue, and what it has put on the network. -/
structure RtpState where
  queue : BufferQueue.State
  session : RTPSession
  writer : RtpWriteCb
  sent : List RtpOutput

inductive RtpFault where
| queue (fault : BQFault)
/- `next->delivery` is read through a null pointer. -/
| nullBuffer
deriving DecidableEq, Repr

/- An abort in a call on the queue. -/
def queueCall {α : Type} :
    Except BQFault α → Except RtpFault α
| .ok a => .ok a
| .error fault => .error (.queue fault)

/- What the callback learns from its surroundings. -/
structure RtpEnv where
  now : Nat
  sent : Bool
  eor : Bool
deriving DecidableEq, Repr

/- `ev_periodic_set` and `ev_periodic_again`. -/
def rtpWriterAgain
    (session : RTPSession)
    (nextTime : ℚ) : RTPSession :=
  { session with writerOffset := nextTime }

/- `rtp_write_cb` up to the call of `bq_consumer_move`. -/
def rtpWriteCbGet
    (s : RtpState)
    (env : RtpEnv) : Except RtpFault RtpState :=
  let session := s.session
  let k := session.consumer
  if bqConsumerStopped s.queue.producer then
    .ok { s with sent := s.sent ++ [.rtcp .bye] }
  else do
    let (producer, consumer, buffer) ← queueCall
      (bqConsumerGet s.queue.producer (s.queue.consumer k))
    let queue := s.queue.update k producer consumer
    let nextTime := session.writerOffset
    match buffer with
    | none =>
        if env.eor then
          .ok { s with
            queue := queue
            sent := s.sent ++ [.rtcp .bye] }
        else
          let sleepFor :=
            if session.properties.frameDuration > 0 then
              session.properties.frameDuration
            else
              1 / 10
          .ok { s with
            queue := queue
            session :=
              rtpWriterAgain session (nextTime + sleepFor) }
    | some elem =>
        let packet := rtpPacket session elem.data
        let session :=
          rtpPacketSend session elem.data env.sent env.now
        let report :=
          if session.pktCount % 29 = 1 then
            [.rtcp .sdes]
          else
            []
        .ok
          { queue := queue
            session := session
            writer := .sent nextTime elem.data
            sent :=
              if env.sent then
                s.sent ++ [.rtp packet] ++ report
              else
                s.sent ++ report }

/- The call of `bq_consumer_move`. -/
def rtpWriteCbMove
    (s : RtpState)
    (nextTime : ℚ)
    (buffer : MParserBuffer) : Except RtpFault RtpState := do
  let k := s.session.consumer
  let (producer, consumer, moved) ← queueCall
    (bqConsumerMove s.queue.producer (s.queue.consumer k))
  let queue := s.queue.update k producer consumer
  if moved then
    .ok { s with
      queue := queue
      writer := .moved nextTime buffer }
  else
    let sleepFor :=
      if buffer.duration ≠ 0 then buffer.duration else 1 / 10
    .ok { s with
      queue := queue
      session :=
        rtpWriterAgain s.session (nextTime + sleepFor)
      writer := .idle }

/- The second call of `bq_consumer_get`, and the rest. -/
def rtpWriteCbNext
    (s : RtpState)
    (nextTime : ℚ)
    (buffer : MParserBuffer) : Except RtpFault RtpState := do
  let session := s.session
  let k := session.consumer
  let (producer, consumer, next) ← queueCall
    (bqConsumerGet s.queue.producer (s.queue.consumer k))
  let queue := s.queue.update k producer consumer
  match next with
  | none => .error .nullBuffer
  | some next =>
      let nextTime :=
        if buffer.delivery = next.data.delivery then
          nextTime
        else
          match session.properties.mediaSource with
          | .live =>
              nextTime + next.data.delivery - buffer.delivery
          | .stored =>
              session.range.playbackTime -
                session.range.beginTime + next.data.delivery
      .ok { s with
        queue := queue
        session := rtpWriterAgain session nextTime
        writer := .idle }

end Feng

------------------------------------------------------------
-- A Track Played By One Session
------------------------------------------------------------

namespace Feng

namespace Rtp

/- A buffer is put, or the callback goes on. -/
inductive Op where
| put (elem : MParserBuffer)
| get (env : RtpEnv)
| move
| next
deriving DecidableEq

/- The queue of a new track, with one new consumer. -/
def initialQueue : BufferQueue.State :=
  System.replayEnd BufferQueue.step BufferQueue.initial
    [.consumerNew]

/- A session about to play a track nobody has read yet. -/
def initial (session : RTPSession) : RtpState where
  queue := initialQueue
  session := { session with consumer := 0 }
  writer := .idle
  sent := []

/-
  Buffers come from a stored source; the callback goes on
  from where it is, and every send succeeds.
-/
def enabled (s : RtpState) : Op → Prop
| .put elem => elem.seqNo = 0
| .get env => s.writer = .idle ∧ env.sent = true
| .move =>
    match s.writer with
    | .sent _ _ => True
    | _ => False
| .next =>
    match s.writer with
    | .moved _ _ => True
    | _ => False

instance decidableEnabled
    (s : RtpState) :
    (op : Op) → Decidable (enabled s op)
| .put elem => inferInstanceAs (Decidable (elem.seqNo = 0))
| .get env =>
    inferInstanceAs
      (Decidable (s.writer = .idle ∧ env.sent = true))
| .move =>
    match hWriter : s.writer with
    | .sent _ _ =>
        isTrue (by simp [enabled, hWriter])
    | .idle => isFalse (by simp [enabled, hWriter])
    | .moved _ _ => isFalse (by simp [enabled, hWriter])
| .next =>
    match hWriter : s.writer with
    | .moved _ _ =>
        isTrue (by simp [enabled, hWriter])
    | .idle => isFalse (by simp [enabled, hWriter])
    | .sent _ _ => isFalse (by simp [enabled, hWriter])

def step (s : RtpState) : Op → Except RtpFault RtpState
| .put elem => do
    let producer ←
      queueCall (bqProducerPut s.queue.producer elem)
    .ok { s with
      queue := { s.queue with producer := producer } }
| .get env => rtpWriteCbGet s env
| .move =>
    match s.writer with
    | .sent nextTime buffer => rtpWriteCbMove s nextTime buffer
    | _ => .ok s
| .next =>
    match s.writer with
    | .moved nextTime buffer => rtpWriteCbNext s nextTime buffer
    | _ => .ok s

def system (session : RTPSession) : System RtpState Op :=
  System.ofStep (initial session) enabled step

/- The packets among what was sent. -/
def packets (sent : List RtpOutput) : List RTPPacket :=
  sent.filterMap (fun
    | .rtp packet => some packet
    | .rtcp _ => none)

end Rtp

end Feng
