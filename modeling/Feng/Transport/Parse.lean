import Feng.Play.Session
import Feng.Transport.Tables

/-
  The parser of the Transport header: the transports that are
  offered, in their order.

  A transport that is not understood is skipped up to the next
  comma, from where the scanner starts again.

  Key definitions include:
    * `OfferedTransport`
    * `transportParser`
    * `ragelParseTransportHeader`

  Key theorems include:
    * `transportParser_sustains`
    * `transportsFrom_fuel`
-/

------------------------------------------------------------
-- The Scanner
------------------------------------------------------------

namespace Feng

abbrev chComma : UInt8 := 44

inductive TransportMode where
| unicast
| multicast
deriving DecidableEq, Repr

/- `ParsedTransport`, with its mode. -/
structure OfferedTransport extends Play.ParsedTransport where
  mode : TransportMode
deriving DecidableEq, Repr

/- All zeros, but for the channels. -/
def offeredTransportNew : OfferedTransport where
  protocol := .udp
  rtpChannel := none
  rtcpChannel := none
  mode := .unicast

/-
  The variables of the parser, and from where it looks for a
  comma once it has given up on a transport.
-/
structure TransportScan where
  transports : List OfferedTransport
  transport : Option OfferedTransport
  portval : UInt32
  chanval : UInt16
  skipFrom : Option Nat
deriving DecidableEq, Repr

def transportScanNew : TransportScan where
  transports := []
  transport := none
  portval := 0
  chanval := 0
  skipFrom := none

namespace TransportScan

/- Change the transport that is being read. -/
def update
    (scan : TransportScan)
    (f : OfferedTransport → OfferedTransport) :
    TransportScan :=
  { scan with transport := scan.transport.map f }

/- The transports read so far, with the last one. -/
def all (scan : TransportScan) : List OfferedTransport :=
  scan.transports ++ scan.transport.toList

end TransportScan

def gMaxUint16 : UInt32 := 65535
def gMaxUint8 : UInt16 := 255

/- The actions, on a string with its final NUL. -/
def transportAction
    (text : List UInt8)
    (a : Nat)
    (before : List UInt8)
    (scan : TransportScan) : RagelFlow TransportScan :=
  let digit := charValue (text.getD before.length 0) - 48
  match a with
  | 0 => .next { scan with portval := 0 }
  | 1 =>
      .next { scan with
        portval := scan.portval * 10 + UInt32.ofInt digit }
  | 2 =>
      .next { scan with
        portval :=
          if gMaxUint16 < scan.portval then
            gMaxUint16
          else
            scan.portval }
  | 3 => .next { scan with chanval := 0 }
  | 4 =>
      .next { scan with
        chanval := scan.chanval * 10 + UInt16.ofInt digit }
  | 5 =>
      .next { scan with
        chanval :=
          if gMaxUint8 < scan.chanval then
            gMaxUint8
          else
            scan.chanval }
  | 6 => .next (scan.update ({ · with mode := .unicast }))
  | 7 => .next (scan.update ({ · with mode := .multicast }))
  | 8 =>
      .next (scan.update
        ({ · with rtpChannel := some scan.portval.toNat }))
  | 9 =>
      .next (scan.update
        ({ · with rtcpChannel := some scan.portval.toNat }))
  | 10 =>
      .next (scan.update
        ({ · with rtpChannel := some scan.chanval.toNat }))
  | 11 =>
      .next (scan.update
        ({ · with rtcpChannel := some scan.chanval.toNat }))
  | 12 =>
      .next (scan.update
        ({ · with rtpChannel := some scan.chanval.toNat }))
  | 13 =>
      .next (scan.update
        ({ · with rtcpChannel := some scan.chanval.toNat }))
  | 14 => .next (scan.update ({ · with protocol := .udp }))
  | 15 => .next (scan.update ({ · with protocol := .tcp }))
  | 16 => .next (scan.update ({ · with protocol := .sctp }))
  | 17 =>
      .next { scan with
        transports := scan.all
        transport := some offeredTransportNew }
  -- The rest of the round and of the actions is not done.
  | 18 =>
      .leave { scan with
        transport := none
        skipFrom := some before.length }
  | _ => .next scan

def transportParser
    (text : List UInt8) : RagelMachine TransportScan where
  tables := transportHeaderTables
  action := transportAction text

def transportHeaderStart : Nat := 1

/- Behind the next comma, as `strchr` finds it. -/
def nextTransport
    (text : List UInt8)
    (p : Nat) : Option Nat :=
  ((text.drop p).findIdx? (fun c => c = chComma)).map
    (p + · + 1)

/-
  What is done at the end of the string. Behind its NUL there
  is no comma, and no state is left there but the last.
-/
def transportEof
    (cs : Nat)
    (scan : TransportScan) : TransportScan :=
  if transportHeaderEofActions.get cs = 0 then
    scan
  else
    { scan with transport := none }

/- Scan from the start of a transport, and on behind commas. -/
def transportsFrom
    (text : List UInt8) :
    Nat → Nat → TransportScan → TransportScan
| 0, _, scan => scan
| fuel + 1, p, scan =>
    match (transportParser text).exec transportHeaderStart
      (text.take p) scan (text.drop p) with
    | .eof cs _ after => transportEof cs after
    | .out _ _ after =>
        match after.skipFrom with
        | none => after
        | some p =>
            let scan := { after with skipFrom := none }
            match nextTransport text p with
            | none => scan
            | some next => transportsFrom text fuel next scan

/- The scanner reads the string and its final NUL. -/
def ragelParseTransportHeader
    (header : List UInt8) : List OfferedTransport :=
  let text := header ++ [0]
  (transportsFrom text text.length 0 transportScanNew).all

end Feng

------------------------------------------------------------
-- Starting Again
------------------------------------------------------------

namespace Feng

variable {text : List UInt8} {p q : Nat}

/- Where the scanner starts again is further on. -/
theorem nextTransport_bounds
    (hNext : nextTransport text p = some q) :
    p < q ∧ q ≤ text.length := by
  rcases Option.map_eq_some_iff.mp hNext with
    ⟨i, hFound, rfl⟩
  rcases List.findIdx?_eq_some_iff_getElem.mp hFound with
    ⟨hBound, _⟩
  rw [List.length_drop] at hBound
  omega

/- Where a transport is given up, if it is, not before `n`. -/
def TransportScan.SkipsFrom
    (n : Nat)
    (scan : TransportScan) : Prop :=
  ∀ p, scan.skipFrom = some p → n ≤ p

theorem transportParser_sustains
    (text : List UInt8)
    (n : Nat) :
    (transportParser text).ActionsSustain
      (fun before scan =>
        n ≤ before.length ∧ scan.skipFrom = none)
      (fun _ scan => scan.SkipsFrom n) where
  next := by
    rintro a before scan after ⟨hBefore, hSkip⟩ hNext
    refine ⟨hBefore, ?_⟩
    change transportAction text a before scan = _ at hNext
    unfold transportAction at hNext
    simp only at hNext
    split at hNext
    all_goals cases hNext
    all_goals exact hSkip
  leave := by
    rintro a before scan after ⟨hBefore, hSkip⟩ hLeave
    change transportAction text a before scan = _ at hLeave
    unfold transportAction at hLeave
    simp only at hLeave
    split at hLeave
    all_goals cases hLeave
    intro p hIs
    cases hIs
    exact hBefore
  read := by
    rintro before scan c ⟨hBefore, hSkip⟩
    refine ⟨?_, hSkip⟩
    rw [List.length_append]
    omega
  stop := by
    rintro before scan ⟨hBefore, hSkip⟩ p hIs
    rw [hSkip] at hIs
    cases hIs

/- There is nothing behind the final NUL to start again from. -/
theorem nextTransport_le
    {header : List UInt8}
    (hNext : nextTransport (header ++ [0]) p = some q) :
    q ≤ header.length := by
  rcases Option.map_eq_some_iff.mp hNext with
    ⟨i, hFound, rfl⟩
  rcases List.findIdx?_eq_some_iff_getElem.mp hFound with
    ⟨hBound, hComma, _⟩
  have hLength := hBound
  rw [List.length_drop, List.length_append,
    List.length_singleton] at hLength
  by_contra hBeyond
  have hLast : p + i = header.length := by omega
  rw [List.getElem_drop] at hComma
  simp only [hLast, List.getElem_concat_length] at hComma
  exact absurd hComma (by decide)

/-
  There are rounds enough: with more of them, the transports
  are the same.
-/
theorem transportsFrom_fuel
    (header : List UInt8)
    {fuel : Nat}
    {scan : TransportScan}
    (hSkip : scan.skipFrom = none)
    (hPlace : p ≤ header.length)
    (hFuel : header.length < p + fuel)
    (more : Nat) :
    transportsFrom (header ++ [0]) (fuel + more) p scan =
      transportsFrom (header ++ [0]) fuel p scan := by
  induction fuel generalizing p scan with
  | zero => omega
  | succ fuel ih =>
      rw [Nat.succ_add]
      unfold transportsFrom
      cases hExec :
        (transportParser (header ++ [0])).exec
          transportHeaderStart ((header ++ [0]).take p) scan
          ((header ++ [0]).drop p) with
      | eof cs q after => rfl
      | out cs q after =>
          have hRead : p ≤ ((header ++ [0]).take p).length := by
            rw [List.length_take, List.length_append]
            omega
          have hSustains :=
            (transportParser_sustains (header ++ [0])
              p).sustains
          rcases hSustains.exec ⟨hRead, hSkip⟩ hExec with
            ⟨first, _, hSkips⟩
          simp only
          cases hFrom : after.skipFrom with
          | none => rfl
          | some r =>
              simp only
              cases hNext :
                nextTransport (header ++ [0]) r with
              | none => rfl
              | some next =>
                  have hPast := nextTransport_bounds hNext
                  have hLast := nextTransport_le hNext
                  have hStart := hSkips r hFrom
                  exact ih rfl hLast (by omega)

end Feng
