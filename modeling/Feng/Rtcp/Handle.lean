import Feng.Lib.Bytes

/-
  What `rtcp_handle` reads of an incoming packet. It goes from
  one part to the next by the lengths in their headers, which
  are checked against the packet; the reports in a part are
  as many as its header says, which is not.

  A model of the reads gives the places they go to. What they
  return is used up to the end of the packet only.

  Key definitions include:
    * `Rtcp.parseReceiverReport`
    * `Rtcp.rtcpHandle`
    * `Rtcp.HandledFrom`

  Key theorems include:
    * `Rtcp.rtcpLoop_total`
    * `Rtcp.rtcpLoop_fuel`
    * `Rtcp.rtcpHandle_within_iff`
    * `Rtcp.report_read_beyond`
-/

------------------------------------------------------------
-- The Reads
------------------------------------------------------------

namespace Feng

namespace Rtcp

abbrev ptSR : Nat := 200
abbrev ptRR : Nat := 201
abbrev ptSDES : Nat := 202
abbrev ptBYE : Nat := 203

/- `RTCP_header`, with its length in the order of the host. -/
structure RTCPHeader where
  count : Nat
  pt : Nat
  length : Nat
deriving DecidableEq, Repr

def rtcpHeaderAt
    (packet : List UInt8)
    (place : Nat) : RTCPHeader where
  count := (packet.getD place 0).toNat % 32
  pt := (packet.getD (place + 1) 0).toNat
  length :=
    beValue
      [packet.getD (place + 2) 0, packet.getD (place + 3) 0]

/- `rtcp_size` -/
def RTCPHeader.size (rtcp : RTCPHeader) : Nat :=
  (rtcp.length + 1) * 4

/- So many bytes are read. -/
def bytesAt (place n : Nat) : List Nat :=
  (List.range n).map (place + ·)

/- A report that is logged; its `jitter` is not read. -/
def reportRead (place : Nat) : List Nat :=
  bytesAt place 4 ++ bytesAt (place + 4) 1 ++
    bytesAt (place + 5) 3 ++ bytesAt (place + 8) 4 ++
    bytesAt (place + 16) 4 ++ bytesAt (place + 20) 4

def reportsRead : Nat → Nat → List Nat
| 0, _ => []
| count + 1, place =>
    reportRead place ++ reportsRead count (place + 24)

def parseReceiverReport (place count : Nat) : List Nat :=
  bytesAt place 4 ++ reportsRead count (place + 4)

/- The part at a place is one with reports. -/
def HasReports (rtcp : RTCPHeader) : Prop :=
  rtcp.pt = ptSR ∨ rtcp.pt = ptRR

instance decidableHasReports (rtcp : RTCPHeader) :
    Decidable (HasReports rtcp) :=
  inferInstanceAs (Decidable (_ ∨ _))

/- What is read of a header before its length is checked. -/
def headerRead (place : Nat) : List Nat :=
  bytesAt (place + 2) 2 ++ bytesAt (place + 1) 1

/- What is read of a part that ends within the packet. -/
def partRead
    (packet : List UInt8)
    (place : Nat) : List Nat :=
  let rtcp := rtcpHeaderAt packet place
  if HasReports rtcp then
    bytesAt place 1 ++
      parseReceiverReport (place + 4) rtcp.count
  else
    []

/- The loop, if it comes to an end in so many rounds. -/
def rtcpLoop
    (packet : List UInt8) :
    Nat → Nat → Nat → Option (List Nat)
| 0, _, _ => none
| fuel + 1, place, len =>
    if len ≤ 4 then
      some []
    else
      let size := (rtcpHeaderAt packet place).size
      if len < size then
        some (headerRead place)
      else
        (rtcpLoop packet fuel (place + size)
          (len - size)).map
            (headerRead place ++ partRead packet place ++ ·)

def rtcpHandle (packet : List UInt8) : Option (List Nat) :=
  rtcpLoop packet (packet.length + 1) 0 packet.length

end Rtcp

end Feng

------------------------------------------------------------
-- The Loop Ends
------------------------------------------------------------

namespace Feng

namespace Rtcp

variable {packet : List UInt8} {fuel place len : Nat}
variable {reads : List Nat}

theorem RTCPHeader.size_pos (rtcp : RTCPHeader) :
    0 < rtcp.size :=
  Nat.mul_pos (Nat.succ_pos _) (by decide)

/- Every part makes the rest shorter. -/
theorem rtcpLoop_total
    (packet : List UInt8)
    (place : Nat)
    (hFuel : len < fuel) :
    ∃ reads, rtcpLoop packet fuel place len = some reads := by
  induction fuel generalizing place len with
  | zero => omega
  | succ fuel ih =>
      unfold rtcpLoop
      split
      · exact ⟨_, rfl⟩
      · rename_i hLong
        have hSize := (rtcpHeaderAt packet place).size_pos
        simp only
        split
        · exact ⟨_, rfl⟩
        · have hShorter :
              len - (rtcpHeaderAt packet place).size <
                fuel := by
            omega
          rcases ih
            (place + (rtcpHeaderAt packet place).size)
            hShorter with ⟨reads, hRest⟩
          rw [hRest]
          exact ⟨_, rfl⟩

/- More rounds change nothing. -/
theorem rtcpLoop_fuel
    (hLoop : rtcpLoop packet fuel place len = some reads)
    (more : Nat) :
    rtcpLoop packet (fuel + more) place len = some reads := by
  induction fuel generalizing place len reads with
  | zero => cases hLoop
  | succ fuel ih =>
      rw [Nat.succ_add]
      unfold rtcpLoop at hLoop ⊢
      split
      · rename_i hShort
        rwa [if_pos hShort] at hLoop
      · rename_i hLong
        rw [if_neg hLong] at hLoop
        simp only at hLoop ⊢
        split
        · rename_i hMalformed
          rwa [if_pos hMalformed] at hLoop
        · rename_i hFits
          rw [if_neg hFits] at hLoop
          rcases Option.map_eq_some_iff.mp hLoop with
            ⟨rest, hRest, rfl⟩
          rw [ih hRest]
          rfl

end Rtcp

end Feng

------------------------------------------------------------
-- Reads Within The Packet
------------------------------------------------------------

namespace Feng

namespace Rtcp

variable {packet : List UInt8} {n place : Nat}
variable {reads more : List Nat}

/- All reads go to the first `n` bytes. -/
def Within (n : Nat) (reads : List Nat) : Prop :=
  ∀ i ∈ reads, i < n

@[simp] theorem within_append :
    Within n (reads ++ more) ↔
      Within n reads ∧ Within n more :=
  List.forall_mem_append

theorem within_bytesAt (place count : Nat) :
    Within n (bytesAt place (count + 1)) ↔
      place + count < n := by
  unfold Within bytesAt
  constructor
  · intro hAll
    exact hAll _ (List.mem_map.mpr
      ⟨count, List.mem_range.mpr (Nat.lt_succ_self _), rfl⟩)
  · intro hLast i hMem
    rcases List.mem_map.mp hMem with ⟨j, hRange, rfl⟩
    have hBound := List.mem_range.mp hRange
    omega

theorem within_reportRead (place : Nat) :
    Within n (reportRead place) ↔ place + 24 ≤ n := by
  unfold reportRead
  simp only [within_append, within_bytesAt]
  omega

theorem within_reportsRead (count place : Nat) :
    Within n (reportsRead count place) ↔
      count = 0 ∨ place + 24 * count ≤ n := by
  induction count generalizing place with
  | zero => exact iff_of_true nofun (.inl rfl)
  | succ count ih =>
      rw [reportsRead, within_append, within_reportRead, ih]
      omega

theorem within_parseReceiverReport (place count : Nat) :
    Within n (parseReceiverReport place count) ↔
      place + 4 + 24 * count ≤ n := by
  unfold parseReceiverReport
  rw [within_append, within_bytesAt, within_reportsRead]
  omega

theorem within_headerRead
    (hLong : place + 4 ≤ n) :
    Within n (headerRead place) := by
  unfold headerRead
  simp only [within_append, within_bytesAt]
  omega

/- The reports of a part end within the packet. -/
def ReportsFit
    (packet : List UInt8)
    (place : Nat) : Prop :=
  HasReports (rtcpHeaderAt packet place) →
    place + 8 + 24 * (rtcpHeaderAt packet place).count ≤
      packet.length

theorem within_partRead
    (hLong : place + 4 < packet.length) :
    Within packet.length (partRead packet place) ↔
      ReportsFit packet place := by
  unfold partRead ReportsFit
  simp only
  split
  · rename_i hReports
    rw [within_append, within_bytesAt,
      within_parseReceiverReport]
    constructor
    · intro hWithin _
      omega
    · intro hFits
      have hEnd := hFits hReports
      omega
  · rename_i hNone
    exact iff_of_true nofun (fun hReports =>
      absurd hReports hNone)

end Rtcp

end Feng

------------------------------------------------------------
-- The Parts Of A Packet
------------------------------------------------------------

namespace Feng

namespace Rtcp

variable {packet : List UInt8} {fuel place len : Nat}

/-
  From a place on, the parts that are handled: with a header
  that is not the last of the packet, and with a length that
  does not go past its end.
-/
inductive HandledFrom
    (packet : List UInt8) : Nat → Nat → Prop where
| here {place : Nat} :
    place + 4 < packet.length →
      place + (rtcpHeaderAt packet place).size ≤
        packet.length →
      HandledFrom packet place place
| next {place other : Nat} :
    place + 4 < packet.length →
      place + (rtcpHeaderAt packet place).size ≤
        packet.length →
      HandledFrom packet
        (place + (rtcpHeaderAt packet place).size) other →
      HandledFrom packet place other

/- The loop from a place on, whose rest is `len` bytes long. -/
theorem rtcpLoop_within_iff
    (hRest : place + len = packet.length)
    (hFuel : len < fuel) :
    (∃ reads,
      rtcpLoop packet fuel place len = some reads ∧
        Within packet.length reads) ↔
      ∀ other, HandledFrom packet place other →
        ReportsFit packet other := by
  induction fuel generalizing place len with
  | zero => omega
  | succ fuel ih =>
      unfold rtcpLoop
      by_cases hShort : len ≤ 4
      · rw [if_pos hShort]
        apply iff_of_true ⟨[], rfl, nofun⟩
        intro other hHandled
        cases hHandled with
        | here hLong _ => omega
        | next hLong _ _ => omega
      · rw [if_neg hShort]
        have hSize := (rtcpHeaderAt packet place).size_pos
        have hHeader :
            Within packet.length (headerRead place) :=
          within_headerRead (by omega)
        simp only
        by_cases hMalformed :
          len < (rtcpHeaderAt packet place).size
        · rw [if_pos hMalformed]
          apply iff_of_true ⟨_, rfl, hHeader⟩
          intro other hHandled
          cases hHandled with
          | here _ hEnd => omega
          | next _ hEnd _ => omega
        · rw [if_neg hMalformed]
          have hPart :
              Within packet.length (partRead packet place) ↔
                ReportsFit packet place :=
            within_partRead (by omega)
          have hRestLater :
              place + (rtcpHeaderAt packet place).size +
                  (len - (rtcpHeaderAt packet place).size) =
                packet.length := by
            omega
          have hNext := ih hRestLater (by omega)
          constructor
          · rintro ⟨reads, hLoop, hWithin⟩ other hHandled
            rcases Option.map_eq_some_iff.mp hLoop with
              ⟨rest, hRest, rfl⟩
            rcases within_append.mp hWithin with
              ⟨hFirst, hLast⟩
            cases hHandled with
            | here _ _ =>
                exact hPart.mp (within_append.mp hFirst).2
            | next _ _ hLater =>
                exact hNext.mp ⟨rest, hRest, hLast⟩ other
                  hLater
          · intro hAll
            have hHere := hAll place
              (.here (by omega) (by omega))
            rcases hNext.mpr (fun other hLater =>
                hAll other
                  (.next (by omega) (by omega) hLater)) with
              ⟨rest, hRest, hLast⟩
            rw [hRest]
            exact ⟨_, rfl, within_append.mpr
              ⟨within_append.mpr ⟨hHeader, hPart.mpr hHere⟩,
                hLast⟩⟩

/-
  The packet is handled to its end, and every read is within
  it, if and only if the reports of each of its parts are.
-/
theorem rtcpHandle_within_iff (packet : List UInt8) :
    (∃ reads,
      rtcpHandle packet = some reads ∧
        ∀ i ∈ reads, i < packet.length) ↔
      ∀ place, HandledFrom packet 0 place →
        ReportsFit packet place :=
  rtcpLoop_within_iff (Nat.zero_add _) (Nat.lt_succ_self _)

/- A receiver report that has no report, but counts one. -/
def shortReport : List UInt8 :=
  [129, 201, 0, 1, 0, 0, 0, 7]

theorem report_read_beyond :
    ¬ ∃ reads,
      rtcpHandle shortReport = some reads ∧
        ∀ i ∈ reads, i < shortReport.length := by
  have hRead :
      rtcpHandle shortReport =
        some (headerRead 0 ++ partRead shortReport 0 ++ []) := by
    decide
  rintro ⟨reads, hReads, hWithin⟩
  rw [hRead] at hReads
  cases hReads
  exact absurd (hWithin 8 (by decide)) (by decide)

end Rtcp

end Feng
