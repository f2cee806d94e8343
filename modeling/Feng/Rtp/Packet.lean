import Feng.Lib.Bytes
import Feng.Rtcp.Report
import Feng.Rtp.Delivery

/-
  The RTP packets as `rtp_packet_send` builds them in memory,
  and as a receiver reads them.

  The header is filled in field by field, over whatever the
  memory held. A receiver takes the fields apart again, and
  leaves out sources, an extension and padding.

  Key definitions include:
    * `setBits`
    * `rtpPacketBytes`
    * `Rtp.decodeRtp`

  Key theorems include:
    * `rtpPacketBytes_eq`
    * `Rtp.packets_decoded`
-/

------------------------------------------------------------
-- Fields In Memory
------------------------------------------------------------

namespace Feng

/- Assign a bit field of a byte. -/
def setBits
    (low width value : Nat)
    (byte : UInt8) : UInt8 :=
  UInt8.ofNat
    (byte.toNat / 2 ^ (low + width) * 2 ^ (low + width) +
      value % 2 ^ width * 2 ^ low + byte.toNat % 2 ^ low)

/- The bit fields of the first byte, and of the second one. -/
def setFirstByte (packet : RTPPacket) (byte : UInt8) : UInt8 :=
  let byte := setBits 6 2 packet.version byte
  let byte := setBits 5 1 packet.padding byte
  let byte := setBits 4 1 packet.extension byte
  setBits 0 4 packet.csrcLen byte

def setSecondByte
    (packet : RTPPacket)
    (byte : UInt8) : UInt8 :=
  let byte := setBits 7 1 packet.marker.toNat byte
  setBits 0 7 packet.payload byte

abbrev sizeofRTPPacket : Nat := 12

/- The packet in memory, over what was there. -/
def rtpPacketBytes
    (memory : List UInt8)
    (packet : RTPPacket) : List UInt8 :=
  let buffer :=
    store memory 0 [setFirstByte packet (memory.getD 0 0)]
  let buffer :=
    store buffer 1 [setSecondByte packet (memory.getD 1 0)]
  let buffer :=
    store buffer 2 (leBytes 2 (Rtcp.htons packet.seqNo))
  let buffer :=
    store buffer 4 (leBytes 4 (byteSwap 4 packet.timestamp))
  let buffer :=
    store buffer 8 (leBytes 4 (byteSwap 4 packet.ssrc))
  store buffer sizeofRTPPacket packet.data

theorem setBits_toNat
    (low width value : Nat)
    (byte : UInt8) :
    (setBits low width value byte).toNat =
      (byte.toNat / 2 ^ (low + width) * 2 ^ (low + width) +
        value % 2 ^ width * 2 ^ low + byte.toNat % 2 ^ low) %
          256 :=
  UInt8.toNat_ofNat'

/- Nothing is left of what the two bytes were. -/
theorem setFirstByte_toNat
    (packet : RTPPacket)
    (byte : UInt8) :
    (setFirstByte packet byte).toNat =
      packet.version % 4 * 64 + packet.padding % 2 * 32 +
        packet.extension % 2 * 16 + packet.csrcLen % 16 := by
  have hByte := UInt8.toNat_lt byte
  have hVersion :
      (setBits 6 2 packet.version byte).toNat =
        packet.version % 4 * 64 + byte.toNat % 64 := by
    rw [setBits_toNat]
    norm_num
    omega
  have hPadding :
      (setBits 5 1 packet.padding
          (setBits 6 2 packet.version byte)).toNat =
        packet.version % 4 * 64 + packet.padding % 2 * 32 +
          byte.toNat % 32 := by
    rw [setBits_toNat, hVersion]
    norm_num
    omega
  have hExtension :
      (setBits 4 1 packet.extension
          (setBits 5 1 packet.padding
            (setBits 6 2 packet.version byte))).toNat =
        packet.version % 4 * 64 + packet.padding % 2 * 32 +
          packet.extension % 2 * 16 + byte.toNat % 16 := by
    rw [setBits_toNat, hPadding]
    norm_num
    omega
  unfold setFirstByte
  rw [setBits_toNat, hExtension]
  norm_num
  omega

theorem setSecondByte_toNat
    (packet : RTPPacket)
    (byte : UInt8) :
    (setSecondByte packet byte).toNat =
      packet.marker.toNat * 128 + packet.payload % 128 := by
  have hByte := UInt8.toNat_lt byte
  have hMarker : packet.marker.toNat ≤ 1 :=
    Bool.toNat_le packet.marker
  simp only [setSecondByte, setBits_toNat]
  norm_num
  omega

/- Bytes are stored behind what was stored before. -/
theorem store_behind
    {written rest bytes : List UInt8}
    {place : Nat}
    (hPlace : place = written.length) :
    store (written ++ rest) place bytes =
      (written ++ bytes) ++ rest.drop bytes.length := by
  subst hPlace
  unfold store
  rw [List.take_left, ← List.drop_drop, List.drop_left]

/- The fields of a header, as they go over the network. -/
def headerBytes (packet : RTPPacket) : List UInt8 :=
  [setFirstByte packet 0] ++ [setSecondByte packet 0] ++
    beBytes 2 packet.seqNo ++ beBytes 4 packet.timestamp ++
    beBytes 4 packet.ssrc

/- All of the memory is written. -/
theorem rtpPacketBytes_eq
    {memory : List UInt8}
    {packet : RTPPacket}
    (hSize :
      memory.length = sizeofRTPPacket + packet.data.length) :
    rtpPacketBytes memory packet =
      headerBytes packet ++ packet.data := by
  have hFirst :
      setFirstByte packet (memory.getD 0 0) =
        setFirstByte packet 0 := by
    apply UInt8.toNat.inj
    rw [setFirstByte_toNat, setFirstByte_toNat]
  have hSecond :
      setSecondByte packet (memory.getD 1 0) =
        setSecondByte packet 0 := by
    apply UInt8.toNat.inj
    rw [setSecondByte_toNat, setSecondByte_toNat]
  have hStart :
      store memory 0 [setFirstByte packet 0] =
        [setFirstByte packet 0] ++ memory.drop 1 :=
    @store_behind [] memory [setFirstByte packet 0] 0 rfl
  unfold rtpPacketBytes
  rw [hFirst, hSecond, hStart]
  unfold Rtcp.htons
  simp only [leBytes_byteSwap]
  rw [store_behind, store_behind, store_behind, store_behind,
    store_behind]
  · rw [List.drop_eq_nil_of_le, List.append_nil]
    · rfl
    · simp only [List.length_drop, beBytes_length,
        List.length_singleton]
      unfold sizeofRTPPacket at hSize
      omega
  · simp [beBytes_length]
  · simp [beBytes_length]
  · simp [beBytes_length]
  · rfl
  · rfl

end Feng

------------------------------------------------------------
-- What A Receiver Reads
------------------------------------------------------------

namespace Feng

namespace Rtp

/- A packet as it is received. -/
structure RtpFields where
  marker : Bool
  payloadType : Nat
  sequence : Nat
  timestamp : Nat
  ssrc : Nat
  sources : List Nat
  payload : List UInt8
deriving DecidableEq, Repr

/- A field of 16 bits, and what is behind it. -/
def takeHalf : List UInt8 → Option (Nat × List UInt8)
| a :: b :: rest => some (beValue [a, b], rest)
| _ => none

/- An extension has its length, in words, in its header. -/
def skipExtension
    (body : List UInt8) : Option (List UInt8) := do
  let (_, body) ← takeHalf body
  let (words, body) ← takeHalf body
  if body.length < 4 * words then
    none
  else
    some (body.drop (4 * words))

/- The last octet of the padding counts its octets. -/
def dropPadding
    (body : List UInt8) : Option (List UInt8) := do
  let count ← body.getLast?
  if count = 0 ∨ body.length < count.toNat then
    none
  else
    some (body.take (body.length - count.toNat))

/- Take a packet apart, by the first two of its octets. -/
def decodeBody
    (first second : Nat)
    (body : List UInt8) : Option RtpFields := do
  let (sequence, body) ← takeHalf body
  let (timestamp, body) ← Rtcp.takeField body
  let (ssrc, body) ← Rtcp.takeField body
  let (sources, body) ← Rtcp.decodeSources (first % 16) body
  let body ←
    if first / 16 % 2 = 1 then skipExtension body
    else some body
  let payload ←
    if first / 32 % 2 = 1 then dropPadding body
    else some body
  some
    { marker := decide (128 ≤ second)
      payloadType := second % 128
      sequence := sequence
      timestamp := timestamp
      ssrc := ssrc
      sources := sources
      payload := payload }

def decodeRtp : List UInt8 → Option RtpFields
| first :: second :: body =>
    if first.toNat / 64 ≠ 2 then
      none
    else
      decodeBody first.toNat second.toNat body
| _ => none

/- The fields of a packet that is sent. -/
def fieldsOf (packet : RTPPacket) : RtpFields where
  marker := packet.marker
  payloadType := packet.payload
  sequence := packet.seqNo
  timestamp := packet.timestamp
  ssrc := packet.ssrc
  sources := []
  payload := packet.data

/- The fields are those of a plain header, and fit into it. -/
structure PlainPacket (packet : RTPPacket) : Prop where
  version : packet.version = 2
  padding : packet.padding = 0
  extension : packet.extension = 0
  csrcLen : packet.csrcLen = 0
  payload : packet.payload < 2 ^ 7
  seqNo : packet.seqNo < 2 ^ 16
  timestamp : packet.timestamp < 2 ^ 32
  ssrc : packet.ssrc < 2 ^ 32

theorem takeHalf_beBytes
    (n : Nat)
    (rest : List UInt8)
    (hFits : n < 2 ^ 16) :
    takeHalf (beBytes 2 n ++ rest) = some (n, rest) := by
  have hValue : beValue (beBytes 2 n) = n :=
    (beValue_beBytes 2 n).trans (Nat.mod_eq_of_lt hFits)
  exact congrArg some (congrArg (·, rest) hValue)

theorem takeField_beBytes
    (n : Nat)
    (rest : List UInt8)
    (hFits : n < 2 ^ 32) :
    Rtcp.takeField (beBytes 4 n ++ rest) =
      some (n, rest) := by
  have hValue : beValue (beBytes 4 n) = n :=
    (beValue_beBytes 4 n).trans (Nat.mod_eq_of_lt hFits)
  exact congrArg some (congrArg (·, rest) hValue)

theorem PlainPacket.decodeBody
    {packet : RTPPacket}
    (h : PlainPacket packet)
    (second : Nat) :
    decodeBody 128 second
        (beBytes 2 packet.seqNo ++
          (beBytes 4 packet.timestamp ++
            (beBytes 4 packet.ssrc ++ packet.data))) =
      some { fieldsOf packet with
        marker := decide (128 ≤ second)
        payloadType := second % 128 } := by
  unfold Rtp.decodeBody
  rw [takeHalf_beBytes _ _ h.seqNo]
  simp only [Option.bind_eq_bind, Option.bind_some,
    takeField_beBytes _ _ h.timestamp,
    takeField_beBytes _ _ h.ssrc]
  rfl

/- A plain packet is received as it was sent. -/
theorem PlainPacket.decode
    {packet : RTPPacket}
    (h : PlainPacket packet) :
    decodeRtp (headerBytes packet ++ packet.data) =
      some (fieldsOf packet) := by
  have hFirst : (setFirstByte packet 0).toNat = 128 := by
    rw [setFirstByte_toNat, h.version, h.padding,
      h.extension, h.csrcLen]
  have hPayload : packet.payload < 128 := h.payload
  have hSecond := setSecondByte_toNat packet 0
  rw [Nat.mod_eq_of_lt hPayload] at hSecond
  have hMarker :
      decide (128 ≤ (setSecondByte packet 0).toNat) =
        packet.marker := by
    rw [hSecond]
    cases packet.marker with
    | true => exact decide_eq_true (by simp)
    | false =>
        apply decide_eq_false
        simp only [Bool.toNat_false]
        omega
  have hType :
      (setSecondByte packet 0).toNat % 128 =
        packet.payload := by
    rw [hSecond]
    omega
  have hShape :
      headerBytes packet ++ packet.data =
        setFirstByte packet 0 :: setSecondByte packet 0 ::
          (beBytes 2 packet.seqNo ++
            (beBytes 4 packet.timestamp ++
              (beBytes 4 packet.ssrc ++ packet.data))) := by
    simp [headerBytes]
  rw [hShape]
  simp only [decodeRtp, hFirst, h.decodeBody, hMarker, hType]
  rfl

end Rtp

end Feng

------------------------------------------------------------
-- The Packets Of A Run
------------------------------------------------------------

namespace Feng

namespace Rtp

variable {session : RTPSession} {s t : RtpState} {op : Op}
variable {trace : List (RtpState × Op)} {packet : RTPPacket}

/- What is sent for a buffer has a plain header. -/
theorem rtpPacket_plain
    (buffer : MParserBuffer)
    (hSsrc : session.ssrc < 2 ^ 32) :
    PlainPacket (rtpPacket session buffer) where
  version := rfl
  padding := rfl
  extension := rfl
  csrcLen := rfl
  payload := Nat.mod_lt _ (Nat.two_pow_pos 7)
  seqNo := Nat.mod_lt _ (Nat.two_pow_pos 16)
  timestamp := Nat.mod_lt _ (Nat.two_pow_pos 32)
  ssrc := hSsrc

/- A packet that a step sends is that of some buffer. -/
structure SendsFor (s t : RtpState) : Prop where
  ssrc : t.session.ssrc = s.session.ssrc
  packets :
    ∀ packet ∈ packets t.sent,
      packet ∈ packets s.sent ∨
        ∃ buffer, packet = rtpPacket s.session buffer

/- A step that sends nothing but a report. -/
theorem SendsFor.report
    {more : List RtpOutput}
    (hSsrc : t.session.ssrc = s.session.ssrc)
    (hSent : t.sent = s.sent ++ more)
    (hNone : Rtp.packets more = []) :
    SendsFor s t where
  ssrc := hSsrc
  packets := by
    intro packet hMem
    rw [hSent, packets_append, hNone, List.append_nil] at hMem
    exact .inl hMem

theorem rtpPacketSend_ssrc
    (buffer : MParserBuffer)
    (sent : Bool)
    (now : Nat) :
    (rtpPacketSend session buffer sent now).ssrc =
      session.ssrc := by
  unfold rtpPacketSend
  split
  · rfl
  · rfl

theorem get_sendsFor
    {env : RtpEnv}
    (hStep : step s (.get env) = .ok t) :
    SendsFor s t := by
  simp only [step, rtpWriteCbGet] at hStep
  split at hStep
  · cases hStep
    exact .report rfl rfl rfl
  · rcases Except.bind_eq_ok.mp hStep with
      ⟨⟨producer, consumer, buffer⟩, _, hRest⟩
    cases buffer with
    | none =>
        simp only at hRest
        split at hRest
        · cases hRest
          exact .report rfl rfl rfl
        · cases hRest
          exact .report rfl (List.append_nil _).symm rfl
    | some elem =>
        cases hRest
        refine ⟨rtpPacketSend_ssrc _ _ _, ?_⟩
        intro packet hMem
        have hReport :
            ∀ session : RTPSession,
              packets
                (if session.pktCount % 29 = 1 then
                  [.rtcp .sdes]
                else
                  []) = [] := by
          intro session
          split
          · rfl
          · rfl
        simp only at hMem
        split at hMem
        · rw [packets_append, packets_append, hReport,
            List.append_nil] at hMem
          rcases List.mem_append.mp hMem with hOld | hNew
          · exact .inl hOld
          · exact .inr ⟨elem.data, List.mem_singleton.mp hNew⟩
        · rw [packets_append, hReport, List.append_nil]
            at hMem
          exact .inl hMem

theorem step_sendsFor
    (hStep : step s op = .ok t) :
    SendsFor s t := by
  cases op with
  | put elem =>
      rcases Except.bind_eq_ok.mp hStep with
        ⟨producer, _, hEq⟩
      cases hEq
      exact .report rfl (List.append_nil _).symm rfl
  | get env => exact get_sendsFor hStep
  | move =>
      simp only [step] at hStep
      split at hStep
      · rcases Except.bind_eq_ok.mp hStep with
          ⟨⟨producer, consumer, moved⟩, _, hRest⟩
        simp only at hRest
        split at hRest
        · cases hRest
          exact .report rfl (List.append_nil _).symm rfl
        · cases hRest
          exact .report rfl (List.append_nil _).symm rfl
      · cases hStep
        exact .report rfl (List.append_nil _).symm rfl
  | next =>
      simp only [step] at hStep
      split at hStep
      · rcases Except.bind_eq_ok.mp hStep with
          ⟨⟨producer, consumer, element⟩, _, hRest⟩
        cases element with
        | none => cases hRest
        | some elem =>
            cases hRest
            exact .report rfl (List.append_nil _).symm rfl
      · cases hStep
        exact .report rfl (List.append_nil _).symm rfl

/- All packets sent are plain, and from one source. -/
def SentPlain (ssrc : Nat) (s : RtpState) : Prop :=
  s.session.ssrc = ssrc ∧
    ∀ packet ∈ packets s.sent,
      PlainPacket packet ∧ packet.ssrc = ssrc

theorem run_sentPlain
    (hRun : (lossySystem session).Run trace s)
    (hSsrc : session.ssrc < 2 ^ 32) :
    SentPlain session.ssrc s := by
  apply hRun.invariant
  · rintro s rfl
    refine ⟨rfl, ?_⟩
    intro packet hMem
    cases hMem
  · rintro s op t ⟨hSame, hPlain⟩ hStep
    have hSends := step_sendsFor hStep.2
    refine ⟨hSends.ssrc.trans hSame, ?_⟩
    intro packet hMem
    rcases hSends.packets packet hMem with
      hOld | ⟨buffer, rfl⟩
    · exact hPlain packet hOld
    · rw [← hSame] at hSsrc
      exact ⟨rtpPacket_plain buffer hSsrc, hSame⟩

/-
  Every packet of a session, as it is built in any memory, is
  received with the fields it was sent with, its payload whole
  and the source that of the session.
-/
theorem packets_decoded
    {memory : List UInt8}
    (hRun : (lossySystem session).Run trace s)
    (hSsrc : session.ssrc < 2 ^ 32)
    (hMem : packet ∈ packets s.sent)
    (hSize :
      memory.length = sizeofRTPPacket + packet.data.length) :
    decodeRtp (rtpPacketBytes memory packet) =
        some (fieldsOf packet) ∧
      packet.ssrc = session.ssrc := by
  rcases (run_sentPlain hRun hSsrc).2 packet hMem with
    ⟨hPlain, hSource⟩
  rw [rtpPacketBytes_eq hSize]
  exact ⟨hPlain.decode, hSource⟩

/- The packet that is not lost, over memory that was not clear. -/
def sentPacket : RTPPacket :=
  (packets
    (System.replayEnd step (initial sampleSession)
      lostOps).sent).headD
    (rtpPacket sampleSession BufferQueue.sampleBuffer)

theorem packets_decoded_lost :
    decodeRtp
        (rtpPacketBytes
          (List.replicate
            (sizeofRTPPacket + sentPacket.data.length) 255)
          sentPacket) =
        some (fieldsOf sentPacket) ∧
      sentPacket.ssrc = sampleSession.ssrc := by
  have hRun :
      (lossySystem sampleSession).Run
        (System.replayTrace step (initial sampleSession)
          lostOps)
        (System.replayEnd step (initial sampleSession)
          lostOps) :=
    System.replay_run (by decide +kernel)
      (by decide +kernel)
  exact packets_decoded hRun (by decide +kernel)
    (by decide +kernel) List.length_replicate

end Rtp

end Feng
