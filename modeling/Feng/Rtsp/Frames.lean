import Feng.Lib.Framer
import Feng.Rtcp.Report
import Feng.Rtsp.Loop
import Mathlib.Data.List.GetD

/-
  The framing of packets that are interleaved in an RTSP
  connection, from the sender to the receiver.

  The receiver is a framer that is told by the length field
  where a frame ends. The loop of `RTSP_handler` does what
  this framer does as long as each frame starts with a dollar
  sign, however the stream is cut.

  Key definitions include:
    * `rtpInterleavedSendPkt`
    * `interleavedFramer`
    * `Framed`
    * `rtspFeed`

  Key theorems include:
    * `feed_frames`
    * `rtspHandler_frames`
    * `rtspFeed_frames`
    * `frames_round_trip`
-/

------------------------------------------------------------
-- The Sender
------------------------------------------------------------

namespace Feng

/- What is passed to `write_data`. -/
def rtpInterleavedSendPkt
    (buffer : List UInt8)
    (channel : Nat) : List UInt8 :=
  let neN := Rtcp.htons (buffer.length % 2 ^ 16)
  let interleavedPreamble :=
    [chDollar, UInt8.ofNat channel, 0, 0]
  store (interleavedPreamble ++ buffer) 2 (leBytes 2 neN)

/- A packet, and the channel it is sent over. -/
abbrev Frame := Nat × List UInt8

def Frame.Fits (frame : Frame) : Prop :=
  frame.1 < 256 ∧ frame.2.length ≤ 65535

instance Frame.decidableFits : DecidablePred Frame.Fits :=
  fun frame =>
    inferInstanceAs
      (Decidable (frame.1 < 256 ∧ frame.2.length ≤ 65535))

def Frame.sent (frame : Frame) : List UInt8 :=
  rtpInterleavedSendPkt frame.2 frame.1

def Frame.received (frame : Frame) : Dispatch :=
  .interleaved (UInt8.ofNat frame.1) frame.2

variable {frame : Frame}

theorem Frame.Fits.sent_eq
    (h : frame.Fits) :
    frame.sent =
      chDollar :: UInt8.ofNat frame.1 ::
        UInt8.ofNat (frame.2.length / 256) ::
          UInt8.ofNat frame.2.length :: frame.2 := by
  have hSmall : frame.2.length % 2 ^ 16 = frame.2.length :=
    Nat.mod_eq_of_lt (by have hLength := h.2; omega)
  unfold Frame.sent rtpInterleavedSendPkt Rtcp.htons
  simp only [hSmall, leBytes_byteSwap]
  rfl

theorem Frame.Fits.sent_length
    (h : frame.Fits) :
    frame.sent.length = frame.2.length + 4 := by
  rw [h.sent_eq]
  rfl

/- The length field holds the length. -/
theorem Frame.Fits.interleavedLength_sent
    (h : frame.Fits) :
    interleavedLength frame.sent = frame.2.length := by
  have hLength := h.2
  rw [h.sent_eq]
  change
    (UInt8.ofNat (frame.2.length / 256)).toNat * 256 +
      (UInt8.ofNat frame.2.length).toNat = _
  rw [UInt8.toNat_ofNat', UInt8.toNat_ofNat']
  omega

end Feng

------------------------------------------------------------
-- The Framer Of The Receiver
------------------------------------------------------------

namespace Feng

/- A frame ends where its length field says. -/
def interleavedFramer : Framer Unit UInt8 Dispatch where
  cut _ text :=
    if 4 ≤ text.length ∧
        text.length = interleavedLength text + 4 then
      some ((),
        [.interleaved (text.getD 1 0) (text.drop 4)])
    else
      none

variable {text first rest : List UInt8} {b : UInt8}
variable {mode mode' : Unit} {added : List Dispatch}

theorem interleavedLength_append
    (h : 4 ≤ first.length)
    (rest : List UInt8) :
    interleavedLength (first ++ rest) =
      interleavedLength first := by
  unfold interleavedLength
  rw [List.getD_append _ _ _ _ (by omega),
    List.getD_append _ _ _ _ (by omega)]

/- There is a cut where the frame is complete. -/
theorem interleavedFramer_cut
    (hCut :
      interleavedFramer.cut mode text =
        some (mode', added)) :
    4 ≤ text.length ∧
      text.length = interleavedLength text + 4 ∧
      added =
        [.interleaved (text.getD 1 0) (text.drop 4)] := by
  unfold interleavedFramer at hCut
  simp only at hCut
  split at hCut
  · rename_i hEnds
    cases hCut
    exact ⟨hEnds.1, hEnds.2, rfl⟩
  · cases hCut

/- The element at a place, and what is on either side. -/
theorem split_at
    {n : Nat}
    (h : n < text.length) :
    ∃ first c rest,
      text = first ++ c :: rest ∧ first.length = n := by
  refine ⟨text.take n, text[n], text.drop (n + 1), ?_, ?_⟩
  · rw [List.getElem_cons_drop h, List.take_append_drop]
  · rw [List.length_take, Nat.min_eq_left (Nat.le_of_lt h)]

/- There is none in a text that is too short, and conversely. -/
theorem interleavedFramer_quiet :
    interleavedFramer.Quiet mode text ↔
      text.length < 4 ∨
        text.length < interleavedLength text + 4 := by
  constructor
  · intro hQuiet
    by_contra hLong
    have hEnd : interleavedLength text + 3 < text.length := by
      omega
    rcases split_at hEnd with ⟨first, c, rest, hSplit, hPlace⟩
    have hLength :
        (first ++ [c]).length =
          interleavedLength text + 4 := by
      rw [List.length_append, hPlace, List.length_singleton]
    have hSame := interleavedLength_append
      (show 4 ≤ (first ++ [c]).length by omega) rest
    rw [List.append_assoc, List.singleton_append, ← hSplit]
      at hSame
    have hNone := hQuiet first c rest hSplit
    unfold interleavedFramer at hNone
    simp only at hNone
    rw [if_pos ⟨by omega, by omega⟩] at hNone
    cases hNone
  · intro hShort first c rest hSplit
    have hLength : (first ++ [c]).length ≤ text.length := by
      rw [hSplit, List.length_append, List.length_append]
      exact Nat.add_le_add_left (Nat.succ_le_succ
        (Nat.zero_le _)) _
    unfold interleavedFramer
    simp only
    rw [if_neg]
    rintro ⟨hField, hEnds⟩
    have hSame := interleavedLength_append hField rest
    rw [List.append_assoc, List.singleton_append, ← hSplit]
      at hSame
    omega

/- What is sent is cut behind its last byte. -/
theorem Frame.Fits.sent_cut
    {frame : Frame}
    (h : frame.Fits) :
    ∃ first b, frame.sent = first ++ [b] ∧
      interleavedFramer.Quiet () first ∧
      interleavedFramer.cut () (first ++ [b]) =
        some ((), [frame.received]) := by
  have hLength := h.sent_length
  have hField := h.interleavedLength_sent
  have hSome : frame.sent ≠ [] :=
    List.ne_nil_of_length_pos (by omega)
  have hSplit := List.dropLast_append_getLast hSome
  refine ⟨frame.sent.dropLast, frame.sent.getLast hSome,
    hSplit.symm, ?_, ?_⟩
  · rw [interleavedFramer_quiet]
    by_cases hShort : frame.sent.dropLast.length < 4
    · exact .inl hShort
    · right
      have hSame := interleavedLength_append
        (Nat.le_of_not_lt hShort) [frame.sent.getLast hSome]
      rw [hSplit, hField] at hSame
      rw [← hSame, List.length_dropLast, hLength]
      omega
  · rw [hSplit]
    unfold interleavedFramer
    simp only
    rw [if_pos ⟨by omega, by omega⟩, h.sent_eq]
    rfl

/- The framer reads what the sender sent. -/
theorem feed_frames
    (frames : List Frame)
    (hFits : ∀ frame ∈ frames, frame.Fits)
    (output : List Dispatch) :
    interleavedFramer.feed (Framer.fresh () output)
        (frames.flatMap Frame.sent) =
      Framer.fresh ()
        (output ++ frames.map Frame.received) := by
  induction frames generalizing output with
  | nil =>
      rw [List.map_nil, List.append_nil]
      rfl
  | cons frame frames ih =>
      rcases List.forall_mem_cons.mp hFits with
        ⟨hFrame, hRest⟩
      rcases hFrame.sent_cut with
        ⟨first, b, hSent, hQuiet, hCut⟩
      rw [List.flatMap_cons, hSent, List.append_assoc,
        List.singleton_append, Framer.feed_cut hQuiet hCut,
        ih hRest, List.map_cons, List.append_assoc]
      rfl

end Feng

------------------------------------------------------------
-- Streams Of Frames
------------------------------------------------------------

namespace Feng

/- What has come of a stream of frames. -/
def Framed (text : List UInt8) : Prop :=
  ∃ (frames : List Frame) (more : List UInt8),
    (∀ frame ∈ frames, frame.Fits) ∧
      text ++ more = frames.flatMap Frame.sent

variable {text first rest : List UInt8} {b : UInt8}
variable {mode mode' : Unit} {added : List Dispatch}

theorem Framed.of_append
    (h : Framed (first ++ rest)) :
    Framed first := by
  rcases h with ⟨frames, more, hFits, hText⟩
  refine ⟨frames, rest ++ more, hFits, ?_⟩
  rw [← List.append_assoc, hText]

/- Where anything has come, it starts with a dollar sign. -/
theorem Framed.head
    (h : Framed (b :: rest)) :
    b = chDollar := by
  rcases h with ⟨frames, more, hFits, hText⟩
  cases frames with
  | nil => cases hText
  | cons frame frames =>
      have hFrame := hFits frame List.mem_cons_self
      rw [List.flatMap_cons, hFrame.sent_eq] at hText
      exact (List.cons.inj hText).1

/- Behind a cut there is a stream of frames again. -/
theorem Framed.cut
    (h : Framed (first ++ b :: rest))
    (hQuiet : interleavedFramer.Quiet () first)
    (hCut :
      interleavedFramer.cut () (first ++ [b]) =
        some (mode', added)) :
    Framed rest := by
  rcases h with ⟨frames, more, hFits, hText⟩
  cases frames with
  | nil =>
      rw [List.append_assoc] at hText
      cases first with
      | nil => cases hText
      | cons c first => cases hText
  | cons frame frames =>
      rcases List.forall_mem_cons.mp hFits with
        ⟨hFrame, hOthers⟩
      rcases hFrame.sent_cut with
        ⟨first', b', hSent, hQuiet', hCut'⟩
      rw [List.flatMap_cons, hSent, List.append_assoc,
        List.append_assoc, List.cons_append,
        List.singleton_append] at hText
      have hSome :
          interleavedFramer.cut () (first ++ [b]) ≠ none := by
        rw [hCut]
        exact Option.some_ne_none _
      have hSome' :
          interleavedFramer.cut () (first' ++ [b']) ≠
            none := by
        rw [hCut']
        exact Option.some_ne_none _
      rcases hQuiet.cut_unique hQuiet' hSome hSome' hText with
        ⟨_, _, hRest⟩
      exact ⟨frames, more, hOthers, hRest⟩

/- And so there is behind all of the cuts in what has come. -/
theorem Framed.held
    (output : List Dispatch)
    (more : List UInt8)
    (h : Framed (text ++ more)) :
    Framed
      ((interleavedFramer.feed (Framer.fresh () output)
        text).held ++ more) := by
  induction hSize : text.length using Nat.strong_induction_on
    generalizing text output with
  | _ n ih =>
      rcases interleavedFramer.quiet_or_cut () text with
        hQuiet | ⟨first, b, rest, mode', added, hText, hQuiet,
          hCut⟩
      · rw [Framer.feed_quiet hQuiet]
        exact h
      · subst hText
        rw [Framer.feed_cut hQuiet hCut]
        rw [List.append_assoc, List.cons_append] at h
        refine ih rest.length ?_ _ (h.cut hQuiet hCut) rfl
        rw [← hSize, List.length_append, List.length_cons]
        omega

end Feng

------------------------------------------------------------
-- The Receiver
------------------------------------------------------------

namespace Feng

/- A client that has come so far with its frames. -/
def RTSPClient.holds
    (rtsp : RTSPClient)
    (state : FramerState Unit UInt8 Dispatch) : RTSPClient :=
  { rtsp with
    status := if state.held = [] then .begin_ else .interleaved
    input := state.held
    dispatched := state.output }

/- A client that reads frames, or waits for one. -/
def AtFrames (rtsp : RTSPClient) : Prop :=
  rtsp.status = .begin_ ∨
    rtsp.status = .interleaved ∧ rtsp.input ≠ []

variable {rtsp : RTSPClient} {given : RoundInput}
variable {server : ServerState} {i : Nat}
variable {text first rest : List UInt8} {b : UInt8}
variable {mode mode' : Unit} {added : List Dispatch}

theorem AtFrames.not_http
    (h : AtFrames rtsp) :
    ¬ OfHttp rtsp.status := by
  rcases h with hBegin | ⟨hInterleaved, _⟩
  · rw [hBegin]
    decide
  · rw [hInterleaved]
    decide

/- With a dollar sign in front, both states do the same. -/
theorem AtFrames.round
    (h : AtFrames rtsp)
    (hInput : rtsp.input = chDollar :: rest) :
    rtspRound given rtsp =
      rtspHandleInterleaved
        { rtsp with status := .interleaved } := by
  unfold rtspRound
  rcases h with hBegin | ⟨hInterleaved, _⟩
  · simp only [hBegin, rtspHandleNew]
    rw [if_neg (by rw [hInput]; simp),
      if_pos (by rw [hInput]; rfl)]
  · simp only [hInterleaved]
    congr 1
    cases rtsp
    cases hInterleaved
    rfl

/- A frame that is not over is waited for. -/
theorem rtspHandleInterleaved_quiet
    (hInput : rtsp.input = chDollar :: rest)
    (hQuiet : interleavedFramer.Quiet () rtsp.input) :
    rtspHandleInterleaved rtsp = .ok (rtsp, false) := by
  unfold rtspHandleInterleaved
  rcases interleavedFramer_quiet.mp hQuiet with
    hShort | hShort
  · rw [if_pos hShort]
  · split
    · rfl
    · simp only
      rw [if_neg (by rw [hInput]; simp), if_pos hShort]

/- One that is over is handed on, and taken off the input. -/
theorem rtspHandleInterleaved_cut
    (hInput : rtsp.input = chDollar :: text)
    (hSplit : rtsp.input = first ++ b :: rest)
    (hCut :
      interleavedFramer.cut () (first ++ [b]) =
        some (mode', added)) :
    rtspHandleInterleaved rtsp =
      .ok ({ rtsp with
        status := .begin_
        input := rest
        dispatched := rtsp.dispatched ++ added }, true) := by
  rcases interleavedFramer_cut hCut with
    ⟨hField, hEnds, rfl⟩
  have hWhole : rtsp.input = (first ++ [b]) ++ rest := by
    rw [hSplit, List.append_assoc, List.singleton_append]
  have hLength :
      rtsp.input.length =
        (first ++ [b]).length + rest.length := by
    rw [hWhole, List.length_append]
  have hSame :
      interleavedLength rtsp.input =
        interleavedLength (first ++ [b]) := by
    rw [hWhole]
    exact interleavedLength_append hField rest
  have hBound : interleavedLength (first ++ [b]) < 2 ^ 16 := by
    have hHigh := UInt8.toNat_lt ((first ++ [b]).getD 2 0)
    have hLow := UInt8.toNat_lt ((first ++ [b]).getD 3 0)
    unfold interleavedLength
    omega
  have hChannel :
      rtsp.input.getD 1 0 = (first ++ [b]).getD 1 0 := by
    rw [hWhole]
    exact List.getD_append _ _ _ _ (by omega)
  have hPayload :
      (rtsp.input.drop 4).take
          (interleavedLength (first ++ [b])) =
        (first ++ [b]).drop 4 := by
    rw [hWhole, List.drop_append_of_le_length hField]
    apply List.take_left'
    rw [List.length_drop]
    omega
  have hLeft :
      gByteArrayRemoveRange rtsp.input
          (interleavedLength (first ++ [b]) + 4) =
        rest := by
    unfold gByteArrayRemoveRange
    rw [Nat.mod_eq_of_lt (by omega), if_pos (by omega),
      ← hEnds, hWhole, List.drop_left]
  unfold rtspHandleInterleaved
  rw [if_neg (by omega)]
  simp only
  rw [if_neg (by rw [hInput]; simp), hSame,
    if_neg (by omega)]
  unfold rtspInterleavedReceive
  simp only [hChannel, hPayload, hLeft]

end Feng

------------------------------------------------------------
-- The Loop
------------------------------------------------------------

namespace Feng

variable {rtsp : RTSPClient} {server : ServerState}
variable {given : Nat → CallInput} {behind : List UInt8}
variable {i k calls : Nat}

theorem RTSPClient.holds_nothing
    (hBegin : rtsp.status = .begin_)
    (hInput : rtsp.input = []) :
    rtsp.holds (Framer.fresh () rtsp.dispatched) = rtsp := by
  cases rtsp
  cases hBegin
  cases hInput
  rfl

theorem ServerState.setClient_setClient
    (server : ServerState)
    (i : Nat)
    (first second : RTSPClient) :
    (server.setClient i first).setClient i second =
      server.setClient i second := by
  unfold ServerState.setClient
  simp only [List.set_set]

theorem ServerState.setClient_own
    (h : server.clients[i]? = some rtsp) :
    server.setClient i rtsp = server := by
  rcases List.getElem?_eq_some_iff.mp h with ⟨hPlace, rfl⟩
  unfold ServerState.setClient
  rw [List.set_getElem_self hPlace]

/- A stream of frames is read as the framer reads it. -/
theorem rtspHandler_frames
    (hClient : server.clients[i]? = some rtsp)
    (hAt : AtFrames rtsp)
    (hFramed : Framed rtsp.input)
    (hCalls : rtsp.input.length < calls) :
    rtspHandler given i calls k server behind =
      some (.ok
        (server.setClient i
          (rtsp.holds
            (interleavedFramer.feed
              (Framer.fresh () rtsp.dispatched)
              rtsp.input)), .done)) := by
  induction calls generalizing k server rtsp behind with
  | zero => exact absurd hCalls (Nat.not_lt_zero _)
  | succ calls ih =>
      have hPlace := (List.getElem?_eq_some_iff.mp hClient).1
      unfold rtspHandler
      simp only [hClient]
      rw [handlerRound_rtsp server i hAt.not_http]
      cases hInput : rtsp.input with
      | nil =>
          have hBegin : rtsp.status = .begin_ := by
            rcases hAt with hBegin | ⟨_, hSome⟩
            · exact hBegin
            · exact absurd hInput hSome
          have hRound :
              rtspRound ((given k).round behind) rtsp =
                .ok (rtsp, false) := by
            unfold rtspRound rtspHandleNew
            simp only [hBegin, hInput]
            rfl
          rw [hRound]
          have hHolds := RTSPClient.holds_nothing hBegin hInput
          unfold Framer.feed
          rw [List.foldl_nil, hHolds]
          rfl
      | cons c text =>
          have hDollar : c = chDollar := by
            rw [hInput] at hFramed
            exact hFramed.head
          rw [hDollar] at hInput
          rw [hAt.round hInput, hDollar, ← hInput]
          rcases interleavedFramer.quiet_or_cut ()
              rtsp.input with
            hQuiet | ⟨first, b, rest, mode', added, hText,
              hQuiet, hCut⟩
          · have hSome : rtsp.input ≠ [] := by
              rw [hInput]
              exact List.cons_ne_nil _ _
            have hRound :
                rtspHandleInterleaved
                    { rtsp with status := .interleaved } =
                  .ok ({ rtsp with status := .interleaved },
                    false) :=
              rtspHandleInterleaved_quiet hInput hQuiet
            rw [hRound, Framer.feed_quiet hQuiet]
            unfold RTSPClient.holds
            rw [if_neg hSome]
            rfl
          · have hRound :
                rtspHandleInterleaved
                    { rtsp with status := .interleaved } =
                  .ok ({ rtsp with
                    status := .begin_
                    input := rest
                    dispatched :=
                      rtsp.dispatched ++ added }, true) :=
              rtspHandleInterleaved_cut hInput hText hCut
            have hShorter : rest.length < calls := by
              rw [hText, List.length_append, List.length_cons]
                at hCalls
              omega
            have hNow :
                ((server.setClient i
                    { rtsp with
                      status := .begin_
                      input := rest
                      dispatched :=
                        rtsp.dispatched ++ added }).clients)[
                    i]? =
                  some
                    { rtsp with
                      status := .begin_
                      input := rest
                      dispatched :=
                        rtsp.dispatched ++ added } :=
              List.getElem?_set_self hPlace
            rw [hText] at hFramed
            rw [hRound]
            simp only [clientRound, if_pos, hNow]
            rw [ih hNow (.inl rfl) (hFramed.cut hQuiet hCut)
              hShorter, ServerState.setClient_setClient, hText,
              Framer.feed_cut hQuiet hCut]
            rfl

end Feng

------------------------------------------------------------
-- Streams In Pieces
------------------------------------------------------------

namespace Feng

/-
  A stream that comes in pieces: each is put behind the input
  of a client, and `RTSP_handler` is called.
-/
def rtspFeed
    (given : Nat → Nat → CallInput)
    (behind : Nat → List UInt8)
    (i : Nat) :
    Nat → ServerState → List (List UInt8) →
      Option ServerResult
| _, server, [] => some (.ok (server, .done))
| k, server, piece :: pieces =>
    match server.clients[i]? with
    | none => some (.error .noClient)
    | some rtsp =>
        let input := rtsp.input ++ piece
        match
          rtspHandler (given k) i (3 * input.length + 3) 0
            (server.setClient i { rtsp with input := input })
            (behind k)
        with
        | some (.ok (server', .done)) =>
            rtspFeed given behind i (k + 1) server' pieces
        | result => result

variable {rtsp : RTSPClient} {server : ServerState}
variable {i : Nat} {text : List UInt8}
variable {output : List Dispatch}
variable {pieces : List (List UInt8)}

theorem rtspFeed_cons
    {given : Nat → Nat → CallInput}
    {behind : Nat → List UInt8}
    {k : Nat}
    {piece : List UInt8}
    {server' : ServerState}
    (hClient : server.clients[i]? = some rtsp)
    (hRead :
      rtspHandler (given k) i
          (3 * (rtsp.input ++ piece).length + 3) 0
          (server.setClient i
            { rtsp with input := rtsp.input ++ piece })
          (behind k) =
        some (.ok (server', .done))) :
    rtspFeed given behind i k server (piece :: pieces) =
      rtspFeed given behind i (k + 1) server' pieces := by
  rw [rtspFeed]
  simp only [hClient, hRead]

/- The cuts between the pieces make no difference. -/
theorem rtspFeed_frames
    (hClient :
      server.clients[i]? =
        some
          (rtsp.holds
            (interleavedFramer.feed (Framer.fresh () output)
              text)))
    (hFramed : Framed (text ++ pieces.flatten))
    (given : Nat → Nat → CallInput)
    (behind : Nat → List UInt8)
    (k : Nat) :
    rtspFeed given behind i k server pieces =
      some (.ok
        (server.setClient i
          (rtsp.holds
            (interleavedFramer.feed (Framer.fresh () output)
              (text ++ pieces.flatten))), .done)) := by
  induction pieces generalizing k server text with
  | nil =>
      rw [List.flatten_nil, List.append_nil,
        ServerState.setClient_own hClient]
      rfl
  | cons piece pieces ih =>
      rw [List.flatten_cons] at hFramed ⊢
      have hPlace := (List.getElem?_eq_some_iff.mp hClient).1
      have hHeld := hFramed.held output
      let state :=
        interleavedFramer.feed (Framer.fresh () output) text
      let client : RTSPClient :=
        { rtsp.holds state with input := state.held ++ piece }
      have hNow :
          (server.setClient i client).clients[i]? =
            some client :=
        List.getElem?_set_self hPlace
      have hAt : AtFrames client := by
        by_cases hNone : state.held = []
        · exact .inl (if_pos hNone)
        · refine .inr ⟨if_neg hNone, ?_⟩
          exact List.append_ne_nil_of_left_ne_nil hNone piece
      have hPiece : Framed client.input := by
        rw [← List.append_assoc] at hHeld
        exact hHeld.of_append
      have hResume :
          interleavedFramer.feed (Framer.fresh () output)
              (text ++ piece) =
            interleavedFramer.feed
              (Framer.fresh () client.dispatched)
              client.input :=
        Framer.feed_resume () output text piece
      have hRead :
          rtspHandler (given k) i
              (3 * client.input.length + 3) 0
              (server.setClient i client) (behind k) =
            some (.ok
              (server.setClient i
                (rtsp.holds
                  (interleavedFramer.feed
                    (Framer.fresh () output)
                    (text ++ piece))), .done)) := by
        rw [rtspHandler_frames hNow hAt hPiece (by omega),
          ServerState.setClient_setClient, hResume]
        rfl
      have hNext :
          (server.setClient i
              (rtsp.holds
                (interleavedFramer.feed
                  (Framer.fresh () output)
                  (text ++ piece)))).clients[i]? =
            some
              (rtsp.holds
                (interleavedFramer.feed
                  (Framer.fresh () output)
                  (text ++ piece))) :=
        List.getElem?_set_self hPlace
      rw [← List.append_assoc] at hFramed
      rw [rtspFeed_cons hClient hRead, ih hNext hFramed,
        ServerState.setClient_setClient, List.append_assoc]

/-
  The packets that are sent are received, in order, and
  nothing is left, whatever the pieces.
-/
theorem frames_round_trip
    (frames : List Frame)
    (hClient : server.clients[i]? = some rtsp)
    (hBegin : rtsp.status = .begin_)
    (hInput : rtsp.input = [])
    (hFits : ∀ frame ∈ frames, frame.Fits)
    (hPieces : pieces.flatten = frames.flatMap Frame.sent)
    (given : Nat → Nat → CallInput)
    (behind : Nat → List UInt8) :
    rtspFeed given behind i 0 server pieces =
      some (.ok
        (server.setClient i
          { rtsp with
            status := .begin_
            input := []
            dispatched :=
              rtsp.dispatched ++ frames.map Frame.received },
          .done)) := by
  have hHolds := RTSPClient.holds_nothing hBegin hInput
  have hNow :
      server.clients[i]? =
        some
          (rtsp.holds
            (interleavedFramer.feed
              (Framer.fresh () rtsp.dispatched) [])) := by
    rw [hClient]
    exact congrArg some hHolds.symm
  have hFramed : Framed ([] ++ pieces.flatten) :=
    ⟨frames, [], hFits, by rw [List.append_nil]; exact hPieces⟩
  rw [rtspFeed_frames hNow hFramed, List.nil_append, hPieces,
    feed_frames frames hFits]
  rfl

/- Two frames, and the first has a dollar sign in it. -/
theorem frames_round_trip_two :
    rtspFeed
        (fun _ _ =>
          { parsedHeaders := 0
            env := sampleUrlEnv
            decoded := [] })
        (fun _ => []) 0 0
        { serverNew true with clients := [rtspClientNew] }
        [[36, 0, 0], [], [2, 36], [1, 36, 5, 0, 0]] =
      some (.ok
        ({ serverNew true with
            clients :=
              [{ rtspClientNew with
                dispatched :=
                  [.interleaved 0 [36, 1],
                    .interleaved 5 []] }] }, .done)) :=
  frames_round_trip [(0, [36, 1]), (5, [])]
    (show [rtspClientNew][0]? = some rtspClientNew from rfl)
    rfl rfl (by decide) (by decide) _ _

end Feng
