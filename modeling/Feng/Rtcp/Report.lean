import Feng.Lib.Bytes
import Feng.Rtp.Session
import Feng.Rtsp.Request

/-
  The compound packets a session sends: a sender report, and
  behind it a source description or a goodbye. They are built
  in a buffer of zeros, and read back by the layout of
  RFC 3550.

  Key definitions include:
    * `Rtcp.rtcpPkt`
    * `Rtcp.decodeCompound`
    * `Rtcp.WellFormed`

  Key theorems include:
    * `Rtcp.rtcpPktSrSdes_eq`
    * `Rtcp.rtcpPktSrBye_eq`
    * `Rtcp.wellFormed_iff`
    * `Rtcp.reports_malformed`
-/

------------------------------------------------------------
-- The Buffer
------------------------------------------------------------

namespace Feng

namespace Rtcp

/- What a report reads of a session, and of its client. -/
structure ReportSession where
  ssrc : UInt32
  startRtptime : UInt32
  pktCount : UInt32
  octetCount : UInt32
  localHost : List UInt8
deriving DecidableEq, Repr

/-
  The clock, and the media time that has passed since the
  range was played, in units of the clock rate of the track.
-/
structure ReportClock where
  tvSec : Nat
  tvNsec : Nat
  elapsed : UInt32
deriving DecidableEq, Repr

abbrev sizeofHeader : Nat := 4
abbrev sizeofHeaderSR : Nat := 24
abbrev sizeofHeaderSDES : Nat := 6
abbrev sizeofHeaderBYE : Nat := 5

/- On a host that stores the lowest byte first. -/
def htons (n : Nat) : Nat := byteSwap 2 n

def htonl (n : UInt32) : Nat := byteSwap 4 n.toNat

/- The first byte of a header, from its bit fields. -/
def headerByte (version padding count : Nat) : UInt8 :=
  UInt8.ofNat (version * 64 + padding * 32 + count)

/- Store an `RTCP_header`. -/
def storeHeader
    (buffer : List UInt8)
    (place count pt length : Nat) : List UInt8 :=
  let buffer := store buffer place [headerByte 2 0 count]
  let buffer := store buffer (place + 1) [UInt8.ofNat pt]
  store buffer (place + 2) (leBytes 2 (htons length))

/- Store a field of 32 bits. -/
def storeField
    (buffer : List UInt8)
    (place : Nat)
    (n : UInt32) : List UInt8 :=
  store buffer place (leBytes 4 (htonl n))

/- `4 - size % 4`, if that is not 4. -/
def paddingOf (size : Nat) : Nat :=
  if size % 4 ≠ 0 then 4 - size % 4 else 0

def rtcpSetSr
    (session : ReportSession)
    (clock : ReportClock)
    (buffer : List UInt8) : List UInt8 :=
  let srSize := sizeofHeader + sizeofHeaderSR
  let buffer := storeHeader buffer 0 0 200 (srSize / 4 - 1)
  let buffer := storeField buffer 4 session.ssrc
  let buffer :=
    storeField buffer 8 (UInt32.ofNat clock.tvSec + 2208988800)
  let buffer :=
    storeField buffer 12
      (UInt32.ofNat (clock.tvNsec * 2 ^ 32 / 1000000000))
  let buffer :=
    storeField buffer 16 (clock.elapsed + session.startRtptime)
  let buffer := storeField buffer 20 session.pktCount
  storeField buffer 24 session.octetCount

def rtcpPktSrSdes
    (session : ReportSession)
    (clock : ReportClock) : List UInt8 :=
  let name := session.localHost
  let sdesSize := sizeofHeader + sizeofHeaderSDES + name.length
  let outpktSize := sizeofHeader + sizeofHeaderSR + sdesSize
  let padding := paddingOf outpktSize
  let sdesSize := sdesSize + padding
  let outpktSize := outpktSize + padding
  let buffer := rtcpSetSr session clock (zeros outpktSize)
  let buffer :=
    storeHeader buffer 28 1 202 (sdesSize / 4 - 1)
  let buffer := storeField buffer 32 session.ssrc
  let buffer := store buffer 36 [1]
  let buffer := store buffer 37 [UInt8.ofNat name.length]
  store buffer 38 name

/- A string with its final NUL. -/
def reason : List UInt8 := ascii "The medium is over." ++ [0]

def rtcpPktSrBye
    (session : ReportSession)
    (clock : ReportClock) : List UInt8 :=
  let byeSize := sizeofHeader + sizeofHeaderBYE + reason.length
  let outpktSize := sizeofHeader + sizeofHeaderSR + byeSize
  let padding := paddingOf outpktSize
  let byeSize := byeSize + padding
  let outpktSize := outpktSize + padding
  let buffer := rtcpSetSr session clock (zeros outpktSize)
  let buffer := storeHeader buffer 28 1 203 (byeSize / 4 - 1)
  let buffer := storeField buffer 32 session.ssrc
  -- `htonl` is of 32 bits, and `length` has eight of them.
  let buffer :=
    store buffer 36
      [UInt8.ofNat
        (htonl (UInt32.ofNat (reason.length - 1)))]
  store buffer 37 reason

/- `rtcp_send_sr`, up to the call of `send_rtcp`. -/
def rtcpPkt
    (session : ReportSession)
    (clock : ReportClock) : RtcpPktType → List UInt8
| .sdes => rtcpPktSrSdes session clock
| .bye => rtcpPktSrBye session clock

end Rtcp

end Feng

------------------------------------------------------------
-- The Layout Of RFC 3550
------------------------------------------------------------

namespace Feng

namespace Rtcp

structure SenderReport where
  ssrc : Nat
  ntpHigh : Nat
  ntpLow : Nat
  rtpTimestamp : Nat
  pktCount : Nat
  octetCount : Nat
deriving DecidableEq, Repr

structure SdesItem where
  kind : Nat
  text : List UInt8
deriving DecidableEq, Repr

structure SdesChunk where
  ssrc : Nat
  items : List SdesItem
deriving DecidableEq, Repr

inductive Packet where
| sr (report : SenderReport)
| sdes (chunks : List SdesChunk)
| bye (sources : List Nat) (reason : Option (List UInt8))
deriving DecidableEq, Repr

/- A field of 32 bits, and what is behind it. -/
def takeField : List UInt8 → Option (Nat × List UInt8)
| a :: b :: c :: d :: rest => some (beValue [a, b, c, d], rest)
| _ => none

/- Behind a report there are blocks, which are not read. -/
def decodeSr
    (count : Nat)
    (body : List UInt8) : Option Packet := do
  let (ssrc, body) ← takeField body
  let (ntpHigh, body) ← takeField body
  let (ntpLow, body) ← takeField body
  let (rtpTimestamp, body) ← takeField body
  let (pktCount, body) ← takeField body
  let (octetCount, body) ← takeField body
  if body.length = 24 * count then
    some (.sr
      { ssrc := ssrc
        ntpHigh := ntpHigh
        ntpLow := ntpLow
        rtpTimestamp := rtpTimestamp
        pktCount := pktCount
        octetCount := octetCount })
  else
    none

/- How far it is to the next 32-bit boundary. -/
def toBoundary (place : Nat) : Nat :=
  (4 - place % 4) % 4

/-
  The items of a chunk, up to the null octet that ends the
  list, and the null octets up to the next 32-bit boundary.
-/
def decodeItems :
    Nat → Nat → List UInt8 →
      Option (List SdesItem × List UInt8)
| 0, _, _ => none
| _ + 1, _, [] => none
| fuel + 1, place, kind :: rest =>
    if kind = 0 then
      let boundary := toBoundary (place + 1)
      if rest.take boundary = zeros boundary then
        some ([], rest.drop boundary)
      else
        none
    else
      match rest with
      | [] => none
      | length :: rest =>
          let length := length.toNat
          if rest.length < length then
            none
          else
            (decodeItems fuel (place + 2 + length)
              (rest.drop length)).map
                (fun (items, behind) =>
                  (⟨kind.toNat, rest.take length⟩ :: items,
                    behind))

/- The chunks, which fill their packet. -/
def decodeChunks :
    Nat → List UInt8 → Option (List SdesChunk)
| 0, body => if body = [] then some [] else none
| count + 1, body => do
    let (ssrc, body) ← takeField body
    let (items, body) ← decodeItems (body.length + 1) 0 body
    let chunks ← decodeChunks count body
    some (⟨ssrc, items⟩ :: chunks)

def decodeSources :
    Nat → List UInt8 → Option (List Nat × List UInt8)
| 0, body => some ([], body)
| count + 1, body => do
    let (ssrc, body) ← takeField body
    let (sources, body) ← decodeSources count body
    some (ssrc :: sources, body)

/- A reason for leaving has its length in front. -/
def decodeBye
    (count : Nat)
    (body : List UInt8) : Option Packet := do
  let (sources, body) ← decodeSources count body
  match body with
  | [] => some (.bye sources none)
  | length :: text =>
      if text.length < length.toNat then
        none
      else
        some (.bye sources (some (text.take length.toNat)))

/- One packet, of version 2 and without padding. -/
def decodePacket :
    List UInt8 → Option (Packet × List UInt8)
| first :: pt :: high :: low :: rest =>
    let size := 4 * beValue [high, low]
    let count := first.toNat % 32
    if first.toNat / 32 ≠ 4 ∨ rest.length < size then
      none
    else
      let body := rest.take size
      let packet :=
        if pt = 200 then decodeSr count body
        else if pt = 202 then
          (decodeChunks count body).map .sdes
        else if pt = 203 then decodeBye count body
        else none
      packet.map (fun packet => (packet, rest.drop size))
| _ => none

/- Packets, one behind the other, that fill the buffer. -/
def decodeCompound :
    Nat → List UInt8 → Option (List Packet)
| 0, buffer => if buffer = [] then some [] else none
| fuel + 1, buffer =>
    if buffer = [] then
      some []
    else do
      let (packet, rest) ← decodePacket buffer
      let packets ← decodeCompound fuel rest
      some (packet :: packets)

/- What is sent behind the sender report. -/
def payloadOf
    (session : ReportSession) : RtcpPktType → Packet
| .sdes =>
    .sdes
      [⟨session.ssrc.toNat, [⟨1, session.localHost⟩]⟩]
| .bye =>
    .bye [session.ssrc.toNat]
      (some (ascii "The medium is over."))

/- Exactly two packets, that say what they are to say. -/
structure WellFormed
    (session : ReportSession)
    (type : RtcpPktType)
    (buffer : List UInt8)
    (report : SenderReport) : Prop where
  packets :
    decodeCompound buffer.length buffer =
      some [.sr report, payloadOf session type]
  ssrc : report.ssrc = session.ssrc.toNat
  pktCount : report.pktCount = session.pktCount.toNat
  octetCount : report.octetCount = session.octetCount.toNat

end Rtcp

end Feng

------------------------------------------------------------
-- What Is In The Buffer
------------------------------------------------------------

namespace Feng

namespace Rtcp

variable {written : List UInt8} {place n : Nat}

def headerBytes (count pt length : Nat) : List UInt8 :=
  [headerByte 2 0 count, UInt8.ofNat pt] ++ beBytes 2 length

theorem headerBytes_length (count pt length : Nat) :
    (headerBytes count pt length).length = 4 := by
  rw [headerBytes, List.length_append, beBytes_length]
  rfl

theorem headerBytes_append_ne
    (count pt length : Nat)
    (body : List UInt8) :
    headerBytes count pt length ++ body ≠ [] :=
  List.cons_ne_nil _ _

theorem storeHeader_zeros
    (count pt length : Nat)
    (hPlace : place = written.length) :
    storeHeader (written ++ zeros n) place count pt length =
      (written ++ headerBytes count pt length) ++
        zeros (n - 4) := by
  subst hPlace
  unfold storeHeader
  simp only
  rw [store_zeros rfl, store_zeros (by simp),
    store_zeros (by simp), htons, leBytes_byteSwap]
  simp only [headerBytes, List.append_assoc,
    beBytes_length, List.length_singleton, Nat.sub_sub,
    List.cons_append, List.nil_append]

theorem storeField_zeros
    (value : UInt32)
    (hPlace : place = written.length) :
    storeField (written ++ zeros n) place value =
      (written ++ beBytes 4 value.toNat) ++ zeros (n - 4) := by
  unfold storeField
  rw [store_zeros hPlace, htonl, leBytes_byteSwap,
    beBytes_length]

/- The fields of the report, with its times. -/
def reportOf
    (session : ReportSession)
    (clock : ReportClock) : SenderReport where
  ssrc := session.ssrc.toNat
  ntpHigh := (UInt32.ofNat clock.tvSec + 2208988800).toNat
  ntpLow :=
    (UInt32.ofNat
      (clock.tvNsec * 2 ^ 32 / 1000000000)).toNat
  rtpTimestamp :=
    (clock.elapsed + session.startRtptime).toNat
  pktCount := session.pktCount.toNat
  octetCount := session.octetCount.toNat

def reportBytes (report : SenderReport) : List UInt8 :=
  headerBytes 0 200 6 ++ beBytes 4 report.ssrc ++
    beBytes 4 report.ntpHigh ++ beBytes 4 report.ntpLow ++
    beBytes 4 report.rtpTimestamp ++
    beBytes 4 report.pktCount ++ beBytes 4 report.octetCount

theorem reportBytes_length (report : SenderReport) :
    (reportBytes report).length = 28 := by
  simp only [reportBytes, List.length_append,
    headerBytes_length, beBytes_length]

theorem rtcpSetSr_zeros
    (session : ReportSession)
    (clock : ReportClock)
    (n : Nat) :
    rtcpSetSr session clock (zeros n) =
      reportBytes (reportOf session clock) ++
        zeros (n - 28) := by
  have hHeader :
      storeHeader (zeros n) 0 0 200
          ((sizeofHeader + sizeofHeaderSR) / 4 - 1) =
        headerBytes 0 200 6 ++ zeros (n - 4) :=
    storeHeader_zeros 0 200 6 List.length_nil.symm
  unfold rtcpSetSr
  simp only
  rw [hHeader,
    storeField_zeros _ (by simp [headerBytes_length]),
    storeField_zeros _
      (by simp [headerBytes_length, beBytes_length]),
    storeField_zeros _
      (by simp [headerBytes_length, beBytes_length]),
    storeField_zeros _
      (by simp [headerBytes_length, beBytes_length]),
    storeField_zeros _
      (by simp [headerBytes_length, beBytes_length]),
    storeField_zeros _
      (by simp [headerBytes_length, beBytes_length])]
  simp only [Nat.sub_sub]
  rfl

/- The payload of a source description, without padding. -/
def sdesBytes (session : ReportSession) : List UInt8 :=
  beBytes 4 session.ssrc.toNat ++
    [1, UInt8.ofNat session.localHost.length] ++
    session.localHost

/- The size of the payload in words. -/
def sdesWords (session : ReportSession) : Nat :=
  (session.localHost.length + 9) / 4

theorem rtcpPktSrSdes_eq
    (session : ReportSession)
    (clock : ReportClock) :
    rtcpPktSrSdes session clock =
      reportBytes (reportOf session clock) ++
        (headerBytes 1 202 (sdesWords session) ++
          (sdesBytes session ++
            zeros
              (toBoundary (session.localHost.length + 2)))) := by
  have hWords :
      (4 + 6 + session.localHost.length +
          paddingOf
            (4 + 24 + (4 + 6 + session.localHost.length))) /
            4 - 1 =
        sdesWords session := by
    unfold paddingOf sdesWords
    split
    · omega
    · omega
  have hZeros :
      4 + 24 + (4 + 6 + session.localHost.length) +
            paddingOf
              (4 + 24 + (4 + 6 + session.localHost.length)) -
          28 - 4 - 4 - 1 - 1 - session.localHost.length =
        toBoundary (session.localHost.length + 2) := by
    unfold paddingOf toBoundary
    split
    · omega
    · omega
  unfold rtcpPktSrSdes
  simp only [sizeofHeader, sizeofHeaderSDES, sizeofHeaderSR]
  rw [hWords, rtcpSetSr_zeros,
    storeHeader_zeros _ _ _ (by rw [reportBytes_length]),
    storeField_zeros _
      (by
        simp [reportBytes_length, headerBytes_length]),
    store_zeros
      (by
        simp [reportBytes_length, headerBytes_length,
          beBytes_length]),
    store_zeros
      (by
        simp [reportBytes_length, headerBytes_length,
          beBytes_length]),
    store_zeros
      (by
        simp [reportBytes_length, headerBytes_length,
          beBytes_length])]
  simp only [List.length_singleton, hZeros, sdesBytes,
    List.append_assoc, List.cons_append, List.nil_append]

/- The payload of a goodbye; its reason has the length 0. -/
def byeBytes (session : ReportSession) : List UInt8 :=
  beBytes 4 session.ssrc.toNat ++ 0 :: (reason ++ zeros 3)

theorem rtcpPktSrBye_eq
    (session : ReportSession)
    (clock : ReportClock) :
    rtcpPktSrBye session clock =
      reportBytes (reportOf session clock) ++
        (headerBytes 1 203 7 ++ byeBytes session) := by
  have hReason : reason.length = 20 := by
    decide
  have hLength :
      UInt8.ofNat (htonl (UInt32.ofNat (20 - 1))) = 0 := by
    decide
  unfold rtcpPktSrBye
  simp only [sizeofHeader, sizeofHeaderBYE, sizeofHeaderSR,
    hReason, hLength]
  rw [rtcpSetSr_zeros,
    storeHeader_zeros _ _ _ (by rw [reportBytes_length]),
    storeField_zeros _
      (by
        simp [reportBytes_length, headerBytes_length]),
    store_zeros
      (by
        simp [reportBytes_length, headerBytes_length,
          beBytes_length]),
    store_zeros
      (by
        simp [reportBytes_length, headerBytes_length,
          beBytes_length])]
  rw [hReason]
  simp only [byeBytes, paddingOf, List.append_assoc,
    List.cons_append, List.nil_append, List.length_singleton]
  rfl

end Rtcp

end Feng

------------------------------------------------------------
-- Reading It Back
------------------------------------------------------------

namespace Feng

namespace Rtcp

variable {session : ReportSession} {clock : ReportClock}
variable {type : RtcpPktType} {report : SenderReport}
variable {body rest : List UInt8} {count pt words : Nat}

theorem takeField_beBytes (n : Nat) (rest : List UInt8) :
    takeField (beBytes 4 n ++ rest) =
      some (n % 256 ^ 4, rest) := by
  rw [← beValue_beBytes]
  rfl

theorem takeField_toNat (n : UInt32) (rest : List UInt8) :
    takeField (beBytes 4 n.toNat ++ rest) =
      some (n.toNat, rest) := by
  have hBound : n.toNat < 256 ^ 4 := UInt32.toNat_lt n
  rw [takeField_beBytes, Nat.mod_eq_of_lt hBound]

/- A packet is decoded from the body its length covers. -/
theorem decodePacket_header
    (rest : List UInt8)
    (hCount : count < 32)
    (hWords : words < 65536)
    (hBody : body.length = 4 * words) :
    decodePacket
        (headerBytes count pt words ++ (body ++ rest)) =
      (if UInt8.ofNat pt = 200 then decodeSr count body
        else if UInt8.ofNat pt = 202 then
          (decodeChunks count body).map .sdes
        else if UInt8.ofNat pt = 203 then
          decodeBye count body
        else none).map (fun packet => (packet, rest)) := by
  have hFirst :
      (headerByte 2 0 count).toNat = 128 + count := by
    unfold headerByte
    rw [UInt8.toNat_ofNat']
    omega
  have hLength : beValue (beBytes 2 words) = words := by
    rw [beValue_beBytes]
    exact Nat.mod_eq_of_lt hWords
  have hSplit :
      headerBytes count pt words ++ (body ++ rest) =
        headerByte 2 0 count :: UInt8.ofNat pt ::
          UInt8.ofNat (words / 256) :: UInt8.ofNat words ::
            (body ++ rest) :=
    rfl
  have hValue :
      beValue
          [UInt8.ofNat (words / 256), UInt8.ofNat words] =
        words :=
    hLength
  rw [hSplit, decodePacket, hValue, hFirst, ← hBody,
    List.take_left, List.drop_left, if_neg]
  · have hMod : (128 + count) % 32 = count := by omega
    rw [hMod]
  · rw [List.length_append]
    omega

theorem decodePacket_report
    (session : ReportSession)
    (clock : ReportClock)
    (rest : List UInt8) :
    decodePacket
        (reportBytes (reportOf session clock) ++ rest) =
      some (.sr (reportOf session clock), rest) := by
  have hSplit :
      reportBytes (reportOf session clock) ++ rest =
        headerBytes 0 200 6 ++
          ((reportBytes (reportOf session clock)).drop 4 ++
            rest) := by
    have hHead :
        reportBytes (reportOf session clock) =
          headerBytes 0 200 6 ++
            (reportBytes (reportOf session clock)).drop 4 :=
      rfl
    rw [← List.append_assoc, ← hHead]
  have hBody :
      (reportBytes (reportOf session clock)).drop 4 =
        beBytes 4 session.ssrc.toNat ++
          (beBytes 4
            (UInt32.ofNat clock.tvSec + 2208988800).toNat ++
          (beBytes 4
            (UInt32.ofNat
              (clock.tvNsec * 2 ^ 32 / 1000000000)).toNat ++
          (beBytes 4
            (clock.elapsed + session.startRtptime).toNat ++
          (beBytes 4 session.pktCount.toNat ++
          (beBytes 4 session.octetCount.toNat ++ []))))) :=
    rfl
  rw [hSplit,
    decodePacket_header rest (by decide) (by decide)]
  · rw [if_pos (by decide), hBody, decodeSr]
    simp only [takeField_toNat, Option.bind_eq_bind,
      Option.bind_some, List.length_nil, Nat.mul_zero,
      if_true, Option.map_some]
    rfl
  · rw [List.length_drop, reportBytes_length]

/- A list of items ends if there is room for a null octet. -/
theorem decodeItems_zeros (fuel place : Nat) :
    decodeItems (fuel + 1) place (zeros (toBoundary place)) =
      if place % 4 = 0 then none else some ([], []) := by
  by_cases hAligned : place % 4 = 0
  · have hNone : toBoundary place = 0 := by
      unfold toBoundary
      omega
    rw [if_pos hAligned, hNone]
    rfl
  · have hSome :
        toBoundary place = toBoundary (place + 1) + 1 := by
      unfold toBoundary
      omega
    rw [if_neg hAligned, hSome, zeros, List.replicate_succ]
    unfold decodeItems
    simp only [if_true, zeros, List.take_replicate,
      List.drop_replicate, Nat.min_self, Nat.sub_self,
      List.replicate_zero, if_true]

theorem decodeChunks_sdes
    (hHost : session.localHost.length ≤ 255) :
    decodeChunks 1
        (sdesBytes session ++
          zeros
            (toBoundary (session.localHost.length + 2))) =
      if session.localHost.length % 4 = 2 then
        none
      else
        some
          [⟨session.ssrc.toNat, [⟨1, session.localHost⟩]⟩] := by
  have hLength :
      (UInt8.ofNat session.localHost.length).toNat =
        session.localHost.length := by
    rw [UInt8.toNat_ofNat']
    omega
  have hBody :
      sdesBytes session ++
          zeros
            (toBoundary (session.localHost.length + 2)) =
        beBytes 4 session.ssrc.toNat ++
          (1 :: UInt8.ofNat session.localHost.length ::
            (session.localHost ++
              zeros
                (toBoundary
                  (session.localHost.length + 2)))) := by
    simp only [sdesBytes, List.append_assoc, List.cons_append,
      List.nil_append]
  have hPlace :
      0 + 2 + session.localHost.length =
        session.localHost.length + 2 := by
    omega
  rw [hBody, decodeChunks]
  simp only [takeField_toNat, Option.bind_eq_bind,
    Option.bind_some]
  rw [decodeItems, if_neg (by decide)]
  simp only [hLength, List.take_left, List.drop_left]
  rw [if_neg (by rw [List.length_append]; omega), hPlace,
    List.length_cons, decodeItems_zeros]
  by_cases hAligned : session.localHost.length % 4 = 2
  · rw [if_pos hAligned, if_pos (by omega)]
    rfl
  · rw [if_neg hAligned, if_neg (by omega)]
    rfl

/- What the two packets of a report are decoded to. -/
theorem decodeCompound_pair
    (session : ReportSession)
    (clock : ReportClock)
    {payload : Option Packet}
    (hPayload : rest ≠ [])
    (hSecond :
      decodePacket rest = payload.map (fun p => (p, []))) :
    decodeCompound
        (reportBytes (reportOf session clock) ++ rest).length
        (reportBytes (reportOf session clock) ++ rest) =
      payload.map
        (fun p => [.sr (reportOf session clock), p]) := by
  have hFirst := decodePacket_report session clock rest
  have hReport :
      reportBytes (reportOf session clock) ++ rest ≠ [] :=
    List.append_ne_nil_of_right_ne_nil _ hPayload
  have hFuel :
      28 + rest.length = (rest.length + 26) + 1 + 1 := by
    omega
  rw [List.length_append, reportBytes_length, hFuel,
    decodeCompound, if_neg hReport, hFirst]
  simp only [Option.bind_eq_bind, Option.bind_some]
  rw [decodeCompound, if_neg hPayload, hSecond]
  cases payload with
  | none => rfl
  | some p =>
      simp only [Option.map_some, Option.bind_eq_bind,
        Option.bind_some]
      rw [decodeCompound, if_pos rfl]
      rfl

theorem decodePacket_sdes
    (hHost : session.localHost.length ≤ 255) :
    decodePacket
        (headerBytes 1 202 (sdesWords session) ++
          (sdesBytes session ++
            zeros
              (toBoundary (session.localHost.length + 2)))) =
      (if session.localHost.length % 4 = 2 then
        none
      else
        some (payloadOf session .sdes)).map
          (fun p => (p, [])) := by
  have hWhole := List.append_nil
    (sdesBytes session ++
      zeros (toBoundary (session.localHost.length + 2)))
  rw [← hWhole, decodePacket_header [] (by decide)]
  · rw [if_neg (by decide), if_pos (by decide),
      decodeChunks_sdes hHost]
    split
    · rfl
    · rfl
  · unfold sdesWords
    omega
  · simp only [sdesBytes, zeros, List.length_append,
      beBytes_length, List.length_cons, List.length_nil,
      List.length_replicate, sdesWords, toBoundary]
    omega

theorem decodePacket_bye (session : ReportSession) :
    decodePacket (headerBytes 1 203 7 ++ byeBytes session) =
      (some (.bye [session.ssrc.toNat] (some []))).map
        (fun p => (p, [])) := by
  rw [← List.append_nil (byeBytes session),
    decodePacket_header [] (by decide) (by decide)]
  · rw [if_neg (by decide), if_neg (by decide),
      if_pos (by decide), byeBytes, decodeBye, decodeSources]
    simp only [takeField_toNat, Option.bind_eq_bind,
      Option.bind_some, decodeSources]
    rfl
  · rw [byeBytes, List.length_append, beBytes_length]
    rfl

/- A report whose payload is what it is to be is well formed. -/
theorem wellFormed_of_payload
    {payload : Option Packet}
    {buffer : List UInt8}
    (hDecoded :
      decodeCompound buffer.length buffer =
        payload.map
          (fun p => [.sr (reportOf session clock), p])) :
    (∃ report, WellFormed session type buffer report) ↔
      payload = some (payloadOf session type) := by
  constructor
  · rintro ⟨report, hPackets, _, _, _⟩
    rw [hDecoded] at hPackets
    rcases Option.map_eq_some_iff.mp hPackets with
      ⟨p, hPayload, hList⟩
    rw [hPayload]
    simp only [List.cons.injEq, and_true] at hList
    rw [hList.2]
  · intro hPayload
    rw [hPayload] at hDecoded
    exact ⟨reportOf session clock, hDecoded, rfl, rfl, rfl⟩

/-
  A source description is well formed if and only if the name
  leaves room for a null octet behind it, and a goodbye never.
-/
theorem wellFormed_iff
    (session : ReportSession)
    (clock : ReportClock)
    (type : RtcpPktType)
    (hHost : session.localHost.length ≤ 255) :
    (∃ report,
      WellFormed session type (rtcpPkt session clock type)
        report) ↔
      type = .sdes ∧ session.localHost.length % 4 ≠ 2 := by
  cases type with
  | sdes =>
      have hDecoded := decodeCompound_pair session clock
        (headerBytes_append_ne _ _ _ _)
        (decodePacket_sdes hHost)
      rw [rtcpPkt, rtcpPktSrSdes_eq,
        wellFormed_of_payload hDecoded]
      by_cases hFull : session.localHost.length % 4 = 2
      · simp [hFull]
      · simp [hFull]
  | bye =>
      have hDecoded := decodeCompound_pair session clock
        (headerBytes_append_ne _ _ _ _)
        (decodePacket_bye session)
      rw [rtcpPkt, rtcpPktSrBye_eq,
        wellFormed_of_payload hDecoded]
      apply iff_of_false
      · intro hPayload
        cases hPayload
      · rintro ⟨hType, _⟩
        cases hType

/- A session at an address of ten characters. -/
def tenLetters : ReportSession where
  ssrc := 7
  startRtptime := 100
  pktCount := 30
  octetCount := 4000
  localHost := ascii "10.0.0.101"

def newYear : ReportClock where
  tvSec := 1704067200
  tvNsec := 500000000
  elapsed := 90000

theorem wellFormed_iff_tenLetters :
    (∃ report,
      WellFormed tenLetters .sdes
        (rtcpPkt tenLetters newYear .sdes) report) ↔
      RtcpPktType.sdes = .sdes ∧
        tenLetters.localHost.length % 4 ≠ 2 :=
  wellFormed_iff tenLetters newYear .sdes (by decide +kernel)

/- The one has no null octet, the other one no reason. -/
theorem reports_malformed :
    decodeCompound
          (rtcpPkt tenLetters newYear .sdes).length
          (rtcpPkt tenLetters newYear .sdes) =
        none ∧
      (¬ ∃ report,
        WellFormed tenLetters .sdes
          (rtcpPkt tenLetters newYear .sdes) report) ∧
      (¬ ∃ report,
        WellFormed tenLetters .bye
          (rtcpPkt tenLetters newYear .bye) report) := by
  have hSdes :
      decodeCompound
          (rtcpPkt tenLetters newYear .sdes).length
          (rtcpPkt tenLetters newYear .sdes) =
        none := by
    decide +kernel
  have hBye :
      decodeCompound
          (rtcpPkt tenLetters newYear .bye).length
          (rtcpPkt tenLetters newYear .bye) =
        some [.sr (reportOf tenLetters newYear),
          .bye [7] (some [])] := by
    decide +kernel
  refine ⟨hSdes, ?_, ?_⟩
  · rintro ⟨report, hPackets, _⟩
    rw [hSdes] at hPackets
    cases hPackets
  · rintro ⟨report, hPackets, _⟩
    rw [hBye] at hPackets
    exact absurd hPackets (by simp [payloadOf, ascii])

end Rtcp

end Feng
