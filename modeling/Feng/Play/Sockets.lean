import Feng.Play.Methods

/-
  The sockets of an RTP session over UDP: what is taken and
  given back while one proposal after the other is tried on a
  new RTP session, which is all zeros.

  The results of the calls are given for every proposal. The
  copies of the peer's address are numbered.

  Key definitions include:
    * `Play.UdpSetup`
    * `Play.rtpUdpTransport`
    * `Play.rtpSessionTransport`
    * `Play.ReleasesExactly`

  Key theorems include:
    * `Play.rtpSessionTransport_result`
    * `Play.rtpUdpTransport_fails`
    * `Play.releases_exactly_iff`
    * `Play.unopened_closed`
-/

------------------------------------------------------------
-- The Calls
------------------------------------------------------------

namespace Feng

namespace Play

/-
  What the calls of one attempt return, and the ports that
  `getsockname` tells. The second socket is bound next to the
  first one, and if that fails to any port.
-/
structure UdpResults where
  firstSocket : ℤ
  firstBind : ℤ
  firstGetsockname : ℤ
  firstPort : UInt16
  secondSocket : ℤ
  secondBind : ℤ
  thirdBind : ℤ
  secondGetsockname : ℤ
  secondPort : UInt16
  rtpConnect : ℤ
  rtcpConnect : ℤ
deriving DecidableEq, Repr

/-
  The fields of `transport.udp`, the local `firstsd`, and how
  many copies there were; and of the attempt under way, what
  was opened, closed, copied and freed.
-/
structure UdpSetup where
  rtpSd : ℤ
  rtcpSd : ℤ
  rtpSa : Option Nat
  rtcpSa : Option Nat
  firstSd : ℤ
  copies : Nat
  opened : List ℤ
  closed : List ℤ
  copied : List Nat
  freed : List Nat
deriving DecidableEq, Repr

/- `g_slice_new0`. -/
def UdpSetup.zero : UdpSetup where
  rtpSd := 0
  rtcpSd := 0
  rtpSa := none
  rtcpSa := none
  firstSd := 0
  copies := 0
  opened := []
  closed := []
  copied := []
  freed := []

namespace UdpSetup

/- An attempt starts, on what the last one left. -/
def start (x : UdpSetup) : UdpSetup :=
  { x with
    opened := []
    closed := []
    copied := []
    freed := [] }

/- `socket`, with its result. -/
def socket (x : UdpSetup) (result : ℤ) : UdpSetup :=
  { x with
    opened :=
      x.opened ++ [result].filter (fun sd => 0 ≤ sd) }

/- `rtp_sa` becomes a copy of the address of the peer. -/
def copyRtpSa (x : UdpSetup) : UdpSetup :=
  { x with
    rtpSa := some x.copies
    copies := x.copies + 1
    copied := x.copied ++ [x.copies] }

def copyRtcpSa (x : UdpSetup) : UdpSetup :=
  { x with
    rtcpSa := some x.copies
    copies := x.copies + 1
    copied := x.copied ++ [x.copies] }

/- The label `error`. -/
def error (x : UdpSetup) : UdpSetup :=
  { x with
    freed := x.freed ++ x.rtpSa.toList ++ x.rtcpSa.toList
    closed :=
      x.closed ++
        [x.firstSd, x.rtpSd, x.rtcpSd].filter
          (fun sd => 0 ≤ sd) }

end UdpSetup

/- The port of the second socket, once it is bound. -/
def bindSecond
    (results : UdpResults)
    (port : UInt16) : Option UInt16 :=
  if 0 ≤ results.secondBind then
    some port
  else if results.thirdBind < 0 then
    none
  else if results.secondGetsockname < 0 then
    none
  else
    some results.secondPort

/- The `switch`: both sockets, with the ports they are on. -/
def takePorts
    (results : UdpResults)
    (x : UdpSetup) : UdpSetup × Option (UInt16 × UInt16) :=
  let port := results.firstPort
  if port % 2 = 0 then
    let x := { x with rtpSd := x.firstSd, firstSd := -1 }
    let x :=
      { x.socket results.secondSocket with
        rtcpSd := results.secondSocket }
    if results.secondSocket < 0 then
      (x, none)
    else
      (x, (bindSecond results (port + 1)).map
        (fun rtcpPort => (port, rtcpPort)))
  else
    let x := { x with rtcpSd := x.firstSd, firstSd := -1 }
    let x :=
      { x.socket results.secondSocket with
        rtpSd := results.secondSocket }
    if results.secondSocket < 0 then
      (x, none)
    else
      (x, (bindSecond results (port - 1)).map
        (fun rtpPort => (rtpPort, port)))

/- `%d` of a channel or port, which is -1 if it is not chosen. -/
def printChannel : Option Nat → List UInt8
| none => ascii "-1"
| some channel => printInt channel

def udpTransportString
    (env : Env)
    (localHost : List UInt8)
    (parsed : ParsedTransport)
    (rtpPort rtcpPort : UInt16) : List UInt8 :=
  ascii "RTP/AVP;unicast;source=" ++ localHost ++
    ascii ";client_port=" ++ printChannel parsed.rtpChannel ++
    ascii "-" ++ printChannel parsed.rtcpChannel ++
    ascii ";server_port=" ++ printInt rtpPort.toNat ++
    ascii "-" ++ printInt rtcpPort.toNat ++
    ascii ";ssrc=" ++ printHex env.ssrc

/- An attempt, and how the transport is reported. -/
def rtpUdpTransport
    (env : Env)
    (localHost : List UInt8)
    (parsed : ParsedTransport)
    (results : UdpResults)
    (x : UdpSetup) : UdpSetup × Option (List UInt8) :=
  let x :=
    { x.start.socket results.firstSocket with
      firstSd := results.firstSocket }
  if results.firstSocket < 0 then
    (x.error, none)
  else if results.firstBind < 0 then
    (x.error, none)
  else if results.firstGetsockname < 0 then
    (x.error, none)
  else
    match takePorts results x with
    | (x, none) => (x.error, none)
    | (x, some (rtpPort, rtcpPort)) =>
        let x := x.copyRtpSa
        if results.rtpConnect < 0 then
          (x.error, none)
        else
          let x := x.copyRtcpSa
          if results.rtcpConnect < 0 then
            (x.error, none)
          else
            (x, some
              (udpTransportString env localHost parsed rtpPort
                rtcpPort))

end Play

end Feng

------------------------------------------------------------
-- Proposals
------------------------------------------------------------

namespace Feng

namespace Play

variable {env : Env} {localHost : List UInt8}
variable {address : Nat}

/- A transport, and what the calls return if it is tried. -/
structure Proposal where
  parsed : ParsedTransport
  results : UdpResults
deriving DecidableEq, Repr

/- An attempt on UDP, with what it leaves. -/
structure UdpAttempt where
  failed : Bool
  setup : UdpSetup
deriving DecidableEq, Repr

/- The attempts on UDP, and what comes of the proposals. -/
structure TransportOutcome where
  attempts : List UdpAttempt
  result : Except Fault TransportResult
deriving DecidableEq

/- The loop of `rtp_session_new`. -/
def rtpSessionTransport
    (env : Env)
    (localHost : List UInt8)
    (address : Nat) :
    Client → UdpSetup → List Proposal → TransportOutcome
| s, _, [] => ⟨[], .ok (s, none)⟩
| s, x, ⟨parsed, results⟩ :: proposals =>
    match parsed.protocol with
    | .sctp => ⟨[], .error .noTransport⟩
    | .udp =>
        match rtpUdpTransport env localHost parsed results x with
        | (y, some transportString) =>
            ⟨[⟨false, y⟩],
              .ok (s, some (.udp, transportString))⟩
        | (y, none) =>
            let rest :=
              rtpSessionTransport env localHost address s y
                proposals
            ⟨⟨true, y⟩ :: rest.attempts, rest.result⟩
    | .tcp =>
        match rtpInterleavedTransport env s address parsed with
        | (s, some chosen) => ⟨[], .ok (s, some chosen)⟩
        | (s, none) =>
            rtpSessionTransport env localHost address s x
              proposals

/- With the calls left out it is the loop of the handlers. -/
theorem rtpSessionTransport_result
    {proposals : List Proposal}
    (hUdp :
      ∀ proposal x, proposal ∈ proposals →
        proposal.parsed.protocol = .udp →
        (rtpUdpTransport env localHost proposal.parsed
          proposal.results x).2 = env.udpTransport)
    (s : Client)
    (x : UdpSetup) :
    (rtpSessionTransport env localHost address s x
        proposals).result =
      rtpTransportInit env s address
        (proposals.map Proposal.parsed) := by
  induction proposals generalizing s x with
  | nil => rfl
  | cons proposal proposals ih =>
      rcases proposal with ⟨parsed, results⟩
      have hRest := ih (fun proposal x hMem =>
        hUdp proposal x (List.mem_cons_of_mem _ hMem))
      unfold rtpSessionTransport
      simp only [List.map_cons, rtpTransportInit]
      cases hProtocol : parsed.protocol with
      | sctp => rfl
      | tcp =>
          simp only
          rcases rtpInterleavedTransport env s address parsed
            with ⟨next, _ | chosen⟩
          · exact hRest _ _
          · rfl
      | udp =>
          have hString :=
            hUdp ⟨parsed, results⟩ x List.mem_cons_self
              hProtocol
          simp only at hString ⊢
          rw [← hString]
          rcases rtpUdpTransport env localHost parsed results x
            with ⟨next, _ | transportString⟩
          · exact hRest _ _
          · rfl

end Play

end Feng

------------------------------------------------------------
-- Attempts That Fail
------------------------------------------------------------

namespace Feng

namespace Play

variable {env : Env} {localHost : List UInt8}
variable {parsed : ParsedTransport} {results : UdpResults}
variable {x y : UdpSetup}

/-
  Where an attempt fails: before the first socket has a port,
  while the second one is opened and bound, or while either is
  connected.
-/
inductive FailPoint where
| first
| second
| rtpConnect
| rtcpConnect
deriving DecidableEq, Repr

def FailPoint.depth : FailPoint → Nat
| .first => 0
| .second => 1
| .rtpConnect => 2
| .rtcpConnect => 3

/- The point at which these results make an attempt fail. -/
def failPoint (results : UdpResults) : Option FailPoint :=
  if results.firstSocket < 0 ∨ results.firstBind < 0 ∨
      results.firstGetsockname < 0 then
    some .first
  else if results.secondSocket < 0 ∨
      results.secondBind < 0 ∧
        (results.thirdBind < 0 ∨
          results.secondGetsockname < 0) then
    some .second
  else if results.rtpConnect < 0 then
    some .rtpConnect
  else if results.rtcpConnect < 0 then
    some .rtcpConnect
  else
    none

/- The copies of earlier attempts that are freed once more. -/
def staleCopies (x : UdpSetup) : FailPoint → List Nat
| .first => x.rtpSa.toList ++ x.rtcpSa.toList
| .second => x.rtpSa.toList ++ x.rtcpSa.toList
| .rtpConnect => x.rtcpSa.toList
| .rtcpConnect => []

/- What an attempt that fails at a point makes of a set-up. -/
structure Fails
    (point : FailPoint)
    (x y : UdpSetup) : Prop where
  early :
    point = .first → ¬ y.closed.Perm y.opened
  sockets :
    point ≠ .first → y.closed.Perm y.opened
  freed : y.freed.Perm (y.copied ++ staleCopies x point)
  valid : 0 ≤ y.rtpSd ∨ 0 ≤ y.rtcpSd
  rtpSa :
    y.rtpSa.isSome =
      (x.rtpSa.isSome || decide (2 ≤ point.depth))
  rtcpSa :
    y.rtcpSa.isSome =
      (x.rtcpSa.isSome || decide (3 ≤ point.depth))

theorem bindSecond_eq_none
    (results : UdpResults)
    (port : UInt16) :
    bindSecond results port = none ↔
      results.secondBind < 0 ∧
        (results.thirdBind < 0 ∨
          results.secondGetsockname < 0) := by
  unfold bindSecond
  split_ifs with hBind hThird hName
  · simp [hBind]
  · simp [not_le.mp hBind, hThird]
  · simp [not_le.mp hBind, hName]
  · simp [hThird, hName]

/- A socket is opened, and neither the ports nor `error` yet. -/
def opens (x : UdpSetup) (results : UdpResults) : UdpSetup :=
  { x.start.socket results.firstSocket with
    firstSd := results.firstSocket }

/- Both sockets are in the fields, in either order. -/
structure BothHeld
    (results : UdpResults)
    (y : UdpSetup) : Prop where
  firstSd : y.firstSd = -1
  pair :
    [y.rtpSd, y.rtcpSd].Perm
      [results.firstSocket, results.secondSocket]
  opened :
    y.opened =
      [results.firstSocket, results.secondSocket].filter
        (fun sd => 0 ≤ sd)
  closed : y.closed = []
  freed : y.freed = []

theorem BothHeld.copyRtpSa
    (h : BothHeld results y) :
    BothHeld results y.copyRtpSa :=
  ⟨h.firstSd, h.pair, h.opened, h.closed, h.freed⟩

theorem BothHeld.copyRtcpSa
    (h : BothHeld results y) :
    BothHeld results y.copyRtcpSa :=
  ⟨h.firstSd, h.pair, h.opened, h.closed, h.freed⟩

theorem takePorts_held
    (results : UdpResults)
    (x : UdpSetup) :
    BothHeld results
      (takePorts results (opens x results)).1 := by
  have hOpened :
      [results.firstSocket].filter (fun sd => 0 ≤ sd) ++
          [results.secondSocket].filter (fun sd => 0 ≤ sd) =
        [results.firstSocket, results.secondSocket].filter
          (fun sd => 0 ≤ sd) := by
    rw [← List.filter_append]
    rfl
  unfold takePorts opens
  simp only
  split
  · split
    · exact ⟨rfl, List.Perm.refl _, hOpened, rfl, rfl⟩
    · exact ⟨rfl, List.Perm.refl _, hOpened, rfl, rfl⟩
  · split
    · exact ⟨rfl, List.Perm.swap _ _ _, hOpened, rfl, rfl⟩
    · exact ⟨rfl, List.Perm.swap _ _ _, hOpened, rfl, rfl⟩

/- The switch leaves the copies alone. -/
theorem takePorts_copies
    (results : UdpResults)
    (x : UdpSetup) :
    (takePorts results x).1.rtpSa = x.rtpSa ∧
      (takePorts results x).1.rtcpSa = x.rtcpSa ∧
      (takePorts results x).1.copied = x.copied := by
  unfold takePorts
  simp only
  split
  · split
    · exact ⟨rfl, rfl, rfl⟩
    · exact ⟨rfl, rfl, rfl⟩
  · split
    · exact ⟨rfl, rfl, rfl⟩
    · exact ⟨rfl, rfl, rfl⟩

theorem takePorts_none_iff
    (results : UdpResults)
    (x : UdpSetup) :
    (takePorts results x).2 = none ↔
      results.secondSocket < 0 ∨
        results.secondBind < 0 ∧
          (results.thirdBind < 0 ∨
            results.secondGetsockname < 0) := by
  unfold takePorts
  simp only
  split
  · split
    · rename_i hSocket
      simp [hSocket]
    · rename_i hSocket
      simp [hSocket, bindSecond_eq_none]
  · split
    · rename_i hSocket
      simp [hSocket]
    · rename_i hSocket
      simp [hSocket, bindSecond_eq_none]

/- Too much is closed before the first socket has a port. -/
theorem fails_first
    (hValid : 0 ≤ x.rtpSd ∨ 0 ≤ x.rtcpSd) :
    Fails .first x (opens x results).error where
  early := by
    intro _ hPerm
    have hLength := hPerm.length_eq
    have hOld :
        0 < ([x.rtpSd, x.rtcpSd].filter
          (fun sd => decide (0 ≤ sd))).length := by
      rw [List.length_pos_iff_exists_mem]
      rcases hValid with hRtp | hRtcp
      · exact ⟨x.rtpSd, by simp [hRtp]⟩
      · exact ⟨x.rtcpSd, by simp [hRtcp]⟩
    have hClosed :
        (opens x results).error.closed =
          (opens x results).opened ++
            [x.rtpSd, x.rtcpSd].filter
              (fun sd => decide (0 ≤ sd)) := by
      change
        [results.firstSocket, x.rtpSd, x.rtcpSd].filter
            (fun sd => decide (0 ≤ sd)) =
          [results.firstSocket].filter
              (fun sd => decide (0 ≤ sd)) ++
            [x.rtpSd, x.rtcpSd].filter
              (fun sd => decide (0 ≤ sd))
      rw [← List.filter_append]
      rfl
    rw [hClosed, List.length_append] at hLength
    have hSame :
        (opens x results).error.opened =
          (opens x results).opened :=
      rfl
    rw [hSame] at hLength
    omega
  sockets := by
    intro hNot
    exact absurd rfl hNot
  freed := List.Perm.refl _
  valid := hValid
  rtpSa := by
    simp [opens, UdpSetup.error, UdpSetup.start,
      UdpSetup.socket, FailPoint.depth]
  rtcpSa := by
    simp [opens, UdpSetup.error, UdpSetup.start,
      UdpSetup.socket, FailPoint.depth]

theorem BothHeld.error_closed
    (h : BothHeld results y) :
    y.error.closed.Perm y.error.opened := by
  have hClosed :
      y.error.closed =
        [y.rtpSd, y.rtcpSd].filter
          (fun sd => decide (0 ≤ sd)) := by
    unfold UdpSetup.error
    rw [h.closed, h.firstSd, List.nil_append,
      List.filter_cons_of_neg (by decide)]
  have hOpened : y.error.opened = y.opened := rfl
  rw [hClosed, hOpened, h.opened]
  exact h.pair.filter _

/- With both sockets held it is only the copies that matter. -/
theorem BothHeld.fails
    {point : FailPoint}
    (h : BothHeld results y)
    (hFirst : 0 ≤ results.firstSocket)
    (hPoint : point ≠ .first)
    (hCopies :
      (y.rtpSa.toList ++ y.rtcpSa.toList).Perm
        (y.copied ++ staleCopies x point))
    (hRtpSa :
      y.rtpSa.isSome =
        (x.rtpSa.isSome || decide (2 ≤ point.depth)))
    (hRtcpSa :
      y.rtcpSa.isSome =
        (x.rtcpSa.isSome || decide (3 ≤ point.depth))) :
    Fails point x y.error where
  early := by
    intro hEq
    exact absurd hEq hPoint
  sockets := fun _ => h.error_closed
  freed := by
    unfold UdpSetup.error
    rw [h.freed, List.nil_append]
    exact hCopies
  valid := by
    have hMem : results.firstSocket ∈ [y.rtpSd, y.rtcpSd] :=
      h.pair.mem_iff.mpr List.mem_cons_self
    rcases List.mem_pair.mp hMem with hEq | hEq
    · exact .inl (hEq ▸ hFirst)
    · exact .inr (hEq ▸ hFirst)
  rtpSa := hRtpSa
  rtcpSa := hRtcpSa

/- An attempt comes to an end where its results say. -/
theorem rtpUdpTransport_fails
    (env : Env)
    (localHost : List UInt8)
    (parsed : ParsedTransport)
    {point : FailPoint}
    (hValid : 0 ≤ x.rtpSd ∨ 0 ≤ x.rtcpSd)
    (hPoint : failPoint results = some point) :
    ∃ y,
      rtpUdpTransport env localHost parsed results x =
          (y, none) ∧
        Fails point x y := by
  have hOpens :
      { x.start.socket results.firstSocket with
        firstSd := results.firstSocket } =
        opens x results :=
    rfl
  unfold failPoint at hPoint
  unfold rtpUdpTransport
  simp only [hOpens]
  split at hPoint
  · rename_i hEarly
    cases hPoint
    refine ⟨(opens x results).error, ?_, fails_first hValid⟩
    by_cases hSocket : results.firstSocket < 0
    · rw [if_pos hSocket]
    rw [if_neg hSocket]
    by_cases hBind : results.firstBind < 0
    · rw [if_pos hBind]
    rw [if_neg hBind, if_pos]
    exact (hEarly.resolve_left hSocket).resolve_left hBind
  · rename_i hPort
    simp only [not_or, not_lt] at hPort
    rcases hPort with ⟨hSocket, hBind, hName⟩
    rw [if_neg (not_lt.mpr hSocket),
      if_neg (not_lt.mpr hBind), if_neg (not_lt.mpr hName)]
    have hHeld := takePorts_held results x
    have hCopies := takePorts_copies results (opens x results)
    have hNone := takePorts_none_iff results (opens x results)
    cases hTaken : takePorts results (opens x results) with
    | mk u ports =>
        rw [hTaken] at hHeld hCopies hNone
        simp only at hHeld hCopies hNone
        rcases hCopies with ⟨hRtpSa, hRtcpSa, hCopied⟩
        have hStart : u.copied = [] := hCopied
        split at hPoint
        · rename_i hSecond
          cases hPoint
          rw [hNone.mpr hSecond]
          refine ⟨u.error, rfl, ?_⟩
          apply hHeld.fails hSocket (by decide)
          · rw [hRtpSa, hRtcpSa, hStart]
            exact List.Perm.refl _
          · simp [hRtpSa, FailPoint.depth, opens,
              UdpSetup.start, UdpSetup.socket]
          · simp [hRtcpSa, FailPoint.depth, opens,
              UdpSetup.start, UdpSetup.socket]
        rename_i hSecond
        have hPorts : ports ≠ none := fun hEq =>
          hSecond (hNone.mp hEq)
        rcases Option.ne_none_iff_exists'.mp hPorts with
          ⟨⟨rtpPort, rtcpPort⟩, rfl⟩
        simp only
        split at hPoint
        · rename_i hRtp
          cases hPoint
          rw [if_pos hRtp]
          refine ⟨u.copyRtpSa.error, rfl, ?_⟩
          apply hHeld.copyRtpSa.fails hSocket (by decide)
          · simp only [UdpSetup.copyRtpSa, hRtcpSa, hStart]
            exact List.Perm.refl _
          · simp [UdpSetup.copyRtpSa, FailPoint.depth]
          · simp [UdpSetup.copyRtpSa, hRtcpSa,
              FailPoint.depth, opens, UdpSetup.start,
              UdpSetup.socket]
        rename_i hRtp
        rw [if_neg hRtp]
        split at hPoint
        · rename_i hRtcp
          cases hPoint
          rw [if_pos hRtcp]
          refine ⟨u.copyRtpSa.copyRtcpSa.error, rfl, ?_⟩
          apply hHeld.copyRtpSa.copyRtcpSa.fails hSocket
            (by decide)
          · simp only [UdpSetup.copyRtpSa,
              UdpSetup.copyRtcpSa, hStart]
            exact List.Perm.refl _
          · simp [UdpSetup.copyRtpSa, UdpSetup.copyRtcpSa,
              FailPoint.depth]
          · simp [UdpSetup.copyRtcpSa, FailPoint.depth]
        · cases hPoint

end Play

end Feng

------------------------------------------------------------
-- What Is Released
------------------------------------------------------------

namespace Feng

namespace Play

variable {env : Env} {localHost : List UInt8}
variable {address : Nat} {parsed : ParsedTransport}
variable {results : UdpResults} {x y : UdpSetup}
variable {attempts : List UdpAttempt}

/- An attempt that does not fail frees nothing. -/
theorem rtpUdpTransport_succeeds
    (env : Env)
    (localHost : List UInt8)
    (parsed : ParsedTransport)
    (x : UdpSetup)
    (hPoint : failPoint results = none) :
    ∃ y transportString,
      rtpUdpTransport env localHost parsed results x =
          (y, some transportString) ∧
        y.freed = [] := by
  have hOpens :
      { x.start.socket results.firstSocket with
        firstSd := results.firstSocket } =
        opens x results :=
    rfl
  unfold failPoint at hPoint
  split at hPoint
  · cases hPoint
  rename_i hFirst
  split at hPoint
  · cases hPoint
  rename_i hSecond
  split at hPoint
  · cases hPoint
  rename_i hRtp
  split at hPoint
  · cases hPoint
  rename_i hRtcp
  have hHeld := takePorts_held results x
  have hPorts :
      (takePorts results (opens x results)).2 ≠ none :=
    fun hNone => hSecond ((takePorts_none_iff _ _).mp hNone)
  simp only [not_or] at hFirst
  unfold rtpUdpTransport
  simp only [hOpens]
  rw [if_neg hFirst.1, if_neg hFirst.2.1, if_neg hFirst.2.2]
  cases hTaken : takePorts results (opens x results) with
  | mk u ports =>
      rw [hTaken] at hHeld hPorts
      rcases Option.ne_none_iff_exists'.mp hPorts with
        ⟨⟨rtpPort, rtcpPort⟩, rfl⟩
      simp only
      rw [if_neg hRtp, if_neg hRtcp]
      exact ⟨_, _, rfl, hHeld.freed⟩

/- The addresses that are freed, in all attempts. -/
def allFreed (attempts : List UdpAttempt) : List Nat :=
  attempts.flatMap (fun attempt => attempt.setup.freed)

/- The copies that were made in attempts that failed. -/
def failedCopies (attempts : List UdpAttempt) : List Nat :=
  (attempts.filter UdpAttempt.failed).flatMap
    (fun attempt => attempt.setup.copied)

/-
  What a failed attempt closes is what it opened, each socket
  once. What is freed altogether are the copies of the failed
  attempts, each once.
-/
structure ReleasesExactly
    (attempts : List UdpAttempt) : Prop where
  sockets :
    ∀ attempt, attempt ∈ attempts →
      attempt.failed = true →
      attempt.setup.closed.Perm attempt.setup.opened
  addresses :
    (allFreed attempts).Perm (failedCopies attempts)

/- Where the attempts fail that these proposals lead to. -/
def failures
    (env : Env)
    (address : Nat) :
    Client → List Proposal → List FailPoint
| _, [] => []
| s, ⟨parsed, results⟩ :: proposals =>
    match parsed.protocol with
    | .sctp => []
    | .udp =>
        match failPoint results with
        | none => []
        | some point =>
            point :: failures env address s proposals
    | .tcp =>
        match rtpInterleavedTransport env s address parsed with
        | (_, some _) => []
        | (s, none) => failures env address s proposals

/- How far an attempt has to get not to free a copy again. -/
def leftover (x : UdpSetup) : Nat :=
  if x.rtcpSa.isSome then 3
  else if x.rtpSa.isSome then 2
  else 1

theorem leftover_le_iff
    (x : UdpSetup)
    (point : FailPoint) :
    leftover x ≤ point.depth ↔
      point ≠ .first ∧ staleCopies x point = [] := by
  unfold leftover staleCopies FailPoint.depth
  cases point with
  | first =>
      cases x.rtpSa <;> cases x.rtcpSa <;> simp
  | second =>
      cases x.rtpSa <;> cases x.rtcpSa <;> simp
  | rtpConnect =>
      cases x.rtpSa <;> cases x.rtcpSa <;> simp
  | rtcpConnect =>
      cases x.rtpSa <;> cases x.rtcpSa <;> simp

/- The next attempt has to get as far as this one did. -/
theorem Fails.leftover_eq
    {point : FailPoint}
    (h : Fails point x y)
    (hDepth : leftover x ≤ point.depth) :
    leftover y = point.depth := by
  have hStale := (leftover_le_iff x point).mp hDepth
  unfold leftover
  rw [h.rtpSa, h.rtcpSa]
  cases point with
  | first => exact absurd rfl hStale.1
  | second =>
      rcases List.append_eq_nil_iff.mp hStale.2 with
        ⟨hRtp, hRtcp⟩
      rw [Option.toList_eq_nil_iff] at hRtp hRtcp
      simp [hRtp, hRtcp, FailPoint.depth]
  | rtpConnect =>
      have hRtcp := Option.toList_eq_nil_iff.mp hStale.2
      simp [hRtcp, FailPoint.depth]
  | rtcpConnect => simp [FailPoint.depth]

/- Every copy of a failed attempt is freed at least once. -/
theorem failedCopies_length_le
    (proposals : List Proposal)
    (s : Client)
    (x : UdpSetup)
    (hValid : 0 ≤ x.rtpSd ∨ 0 ≤ x.rtcpSd) :
    (failedCopies
        (rtpSessionTransport env localHost address s x
          proposals).attempts).length ≤
      (allFreed
        (rtpSessionTransport env localHost address s x
          proposals).attempts).length := by
  induction proposals generalizing s x with
  | nil => exact Nat.le_refl 0
  | cons proposal proposals ih =>
      rcases proposal with ⟨parsed, results⟩
      unfold rtpSessionTransport
      cases hProtocol : parsed.protocol with
      | sctp => exact Nat.le_refl 0
      | tcp =>
          simp only
          split
          · exact Nat.le_refl 0
          · exact ih _ x hValid
      | udp =>
          simp only
          cases hPoint : failPoint results with
          | none =>
              rcases rtpUdpTransport_succeeds env localHost
                parsed x hPoint with
                ⟨y, transportString, hAttempt, _⟩
              rw [hAttempt]
              exact Nat.zero_le _
          | some point =>
              rcases rtpUdpTransport_fails env localHost
                parsed hValid hPoint with
                ⟨y, hAttempt, hFails⟩
              rw [hAttempt]
              have hRest := ih s y hFails.valid
              have hHead := hFails.freed.length_eq
              change (y.copied ++ failedCopies _).length ≤
                (y.freed ++ allFreed _).length
              rw [List.length_append] at hHead
              rw [List.length_append, List.length_append]
              omega

theorem ReleasesExactly.none_failed
    (hAll : ∀ attempt, attempt ∈ attempts →
      attempt.failed = false ∧ attempt.setup.freed = []) :
    ReleasesExactly attempts where
  sockets := by
    intro attempt hMem hFailed
    rw [(hAll attempt hMem).1] at hFailed
    cases hFailed
  addresses := by
    have hFreed : allFreed attempts = [] := by
      apply List.flatMap_eq_nil_iff.mpr
      intro attempt hMem
      exact (hAll attempt hMem).2
    have hNone : attempts.filter UdpAttempt.failed = [] := by
      apply List.filter_eq_nil_iff.mpr
      intro attempt hMem
      rw [(hAll attempt hMem).1]
      exact Bool.false_ne_true
    unfold failedCopies
    rw [hFreed, hNone]
    exact List.Perm.refl _

/- A failed attempt adds what it frees that is not its own. -/
theorem Fails.releasesExactly_iff
    {point : FailPoint}
    (hFails : Fails point x y)
    (hCopies :
      (failedCopies attempts).length ≤
        (allFreed attempts).length) :
    ReleasesExactly (⟨true, y⟩ :: attempts) ↔
      (point ≠ .first ∧ staleCopies x point = []) ∧
        ReleasesExactly attempts := by
  have hFreed :
      allFreed (⟨true, y⟩ :: attempts) =
        y.freed ++ allFreed attempts :=
    rfl
  have hCopied :
      failedCopies (⟨true, y⟩ :: attempts) =
        y.copied ++ failedCopies attempts :=
    rfl
  constructor
  · rintro ⟨hSockets, hAddresses⟩
    rw [hFreed, hCopied] at hAddresses
    have hHead := hFails.freed.length_eq
    have hLength := hAddresses.length_eq
    rw [List.length_append] at hHead
    rw [List.length_append, List.length_append] at hLength
    have hStale : staleCopies x point = [] := by
      apply List.eq_nil_of_length_eq_zero
      omega
    have hOwn := hFails.freed
    rw [hStale, List.append_nil] at hOwn
    refine ⟨⟨?_, hStale⟩, ?_, ?_⟩
    · intro hFirst
      exact hFails.early hFirst
        (hSockets _ List.mem_cons_self rfl)
    · intro attempt hMem
      exact hSockets attempt (List.mem_cons_of_mem _ hMem)
    · exact (List.perm_append_left_iff y.copied).mp
        ((hOwn.append_right _).symm.trans hAddresses)
  · rintro ⟨⟨hPoint, hStale⟩, hSockets, hAddresses⟩
    have hOwn := hFails.freed
    rw [hStale, List.append_nil] at hOwn
    refine ⟨?_, ?_⟩
    · intro attempt hMem hFailed
      rcases List.mem_cons.mp hMem with rfl | hRest
      · exact hFails.sockets hPoint
      · exact hSockets attempt hRest hFailed
    · rw [hFreed, hCopied]
      exact hOwn.append hAddresses

/- From any set-up: every failure has to be deep enough. -/
theorem releasesExactly_from
    (proposals : List Proposal)
    (s : Client)
    (x : UdpSetup)
    (hValid : 0 ≤ x.rtpSd ∨ 0 ≤ x.rtcpSd) :
    ReleasesExactly
        (rtpSessionTransport env localHost address s x
          proposals).attempts ↔
      List.IsChain (· ≤ ·)
        (leftover x ::
          (failures env address s proposals).map
            FailPoint.depth) := by
  induction proposals generalizing s x with
  | nil =>
      exact iff_of_true (.none_failed nofun)
        (List.IsChain.singleton _)
  | cons proposal proposals ih =>
      rcases proposal with ⟨parsed, results⟩
      unfold rtpSessionTransport failures
      cases hProtocol : parsed.protocol with
      | sctp =>
          exact iff_of_true (.none_failed nofun)
            (List.IsChain.singleton _)
      | tcp =>
          simp only
          cases hTransport :
              rtpInterleavedTransport env s address parsed with
          | mk u chosen =>
              cases chosen with
              | some _ =>
                  exact iff_of_true (.none_failed nofun)
                    (List.IsChain.singleton _)
              | none => exact ih u x hValid
      | udp =>
          simp only
          cases hPoint : failPoint results with
          | none =>
              rcases rtpUdpTransport_succeeds env localHost
                parsed x hPoint with
                ⟨y, transportString, hAttempt, hFreed⟩
              rw [hAttempt]
              refine iff_of_true (.none_failed ?_)
                (List.IsChain.singleton _)
              intro attempt hMem
              rw [List.mem_singleton.mp hMem]
              exact ⟨rfl, hFreed⟩
          | some point =>
              rcases rtpUdpTransport_fails env localHost
                parsed hValid hPoint with
                ⟨y, hAttempt, hFails⟩
              rw [hAttempt]
              simp only [List.map_cons, List.isChain_cons_cons]
              rw [hFails.releasesExactly_iff
                  (failedCopies_length_le proposals s y
                    hFails.valid),
                ← leftover_le_iff, ih s y hFails.valid]
              apply and_congr_right
              intro hDepth
              rw [hFails.leftover_eq hDepth]

/-
  On a new RTP session the attempts release exactly what they
  took if and only if every attempt that fails gets past its
  first `getsockname`, and at least as far as those before it.
-/
theorem releases_exactly_iff
    (env : Env)
    (localHost : List UInt8)
    (address : Nat)
    (s : Client)
    (proposals : List Proposal) :
    ReleasesExactly
        (rtpSessionTransport env localHost address s
          UdpSetup.zero proposals).attempts ↔
      List.IsChain (· ≤ ·)
        (FailPoint.second.depth ::
          (failures env address s proposals).map
            FailPoint.depth) :=
  releasesExactly_from proposals s UdpSetup.zero
    (.inl (Int.le_refl 0))

/- One proposal, whose first socket cannot be bound. -/
def unbound : List Proposal :=
  [{ parsed :=
      { protocol := .udp
        rtpChannel := some 5000
        rtcpChannel := some 5001 }
     results :=
      { firstSocket := 7
        firstBind := -1
        firstGetsockname := 0
        firstPort := 0
        secondSocket := 8
        secondBind := 0
        thirdBind := 0
        secondGetsockname := 0
        secondPort := 0
        rtpConnect := 0
        rtcpConnect := 0 } }]

/- Descriptor 0 is closed, twice, though it was not opened. -/
theorem unopened_closed :
    ∃ setup,
      (rtpSessionTransport (sampleEnv 1000)
          (ascii "127.0.0.1") 0 clientNew UdpSetup.zero
          unbound).attempts = [⟨true, setup⟩] ∧
        setup.opened = [7] ∧ setup.closed = [7, 0, 0] ∧
        ¬ ReleasesExactly [⟨true, setup⟩] := by
  refine ⟨_, rfl, rfl, rfl, ?_⟩
  intro hReleases
  have hPerm :=
    hReleases.sockets _ (List.mem_singleton_self _) rfl
  exact absurd hPerm.length_eq (by decide)

end Play

end Feng
