import Feng.Rtp.Sequence
import Mathlib.Data.List.Infix

/-
  A session sends the buffers of its track as a plain loop
  over them would: in the order they are put, each of them
  once, wherever the thread that fills the queue comes in
  between, and whichever packets are lost.

  Only the numbers of the packets and the reports at the end
  are left out here.

  Key definitions include:
    * `Rtp.transmitOne`
    * `Rtp.lossySystem`
    * `Rtp.putBuffers`
    * `Rtp.answers`
    * `Rtp.Streams`

  Key theorems include:
    * `Rtp.streams_in_order`
    * `Rtp.counts_what_was_sent`
-/

------------------------------------------------------------
-- A Plain Loop
------------------------------------------------------------

namespace Feng

/- A packet without its number. -/
def RTPPacket.bare (packet : RTPPacket) : RTPPacket :=
  { packet with seqNo := 0 }

/- A session, but for when its writer is due. -/
def RTPSession.settled (session : RTPSession) : RTPSession :=
  { session with writerOffset := 0 }

namespace Rtp

/- The report that comes with every twenty-ninth packet. -/
def reportAfter (session : RTPSession) : List RtpOutput :=
  if session.pktCount % 29 = 1 then
    [.rtcp .sdes]
  else
    []

/- What is sent for a buffer. -/
def transmitted
    (session : RTPSession)
    (buffer : MParserBuffer)
    (env : RtpEnv) : List RtpOutput :=
  (if env.sent then
    [.rtp (rtpPacket session buffer)]
  else
    []) ++
    reportAfter
      (rtpPacketSend session buffer env.sent env.now)

/- What is sent but for the end, without the numbers. -/
def streamed (sent : List RtpOutput) : List RtpOutput :=
  sent.filterMap (fun
    | .rtp packet => some (.rtp packet.bare)
    | .rtcp .sdes => some (.rtcp .sdes)
    | .rtcp .bye => none)

/- The next buffer, for a loop that sends one at a time. -/
def transmitOne
    (done : RTPSession × List RtpOutput)
    (next : MParserBuffer × RtpEnv) :
    RTPSession × List RtpOutput :=
  (rtpPacketSend done.1 next.1 next.2.sent next.2.now,
    done.2 ++ streamed (transmitted done.1 next.1 next.2))

/- All of them. -/
def transmitAll
    (session : RTPSession)
    (buffers : List (MParserBuffer × RtpEnv)) :
    RTPSession × List RtpOutput :=
  buffers.foldl transmitOne (session, [])

theorem transmitAll_concat
    (session : RTPSession)
    (buffers : List (MParserBuffer × RtpEnv))
    (next : MParserBuffer × RtpEnv) :
    transmitAll session (buffers ++ [next]) =
      transmitOne (transmitAll session buffers) next := by
  unfold transmitAll
  rw [List.foldl_concat]

@[simp] theorem streamed_append
    (sent more : List RtpOutput) :
    streamed (sent ++ more) =
      streamed sent ++ streamed more := by
  unfold streamed
  rw [List.filterMap_append]

variable {session : RTPSession} {buffer : MParserBuffer}

/- Neither the number of a buffer nor the timer matters. -/
theorem transmitted_bare (env : RtpEnv) :
    streamed (transmitted session.settled buffer.bare env) =
      streamed (transmitted session buffer env) := by
  cases hSent : env.sent with
  | true =>
      simp only [transmitted, hSent, if_true, streamed_append]
      rfl
  | false =>
      simp only [transmitted, hSent, streamed_append]
      rfl

theorem rtpPacketSend_settled
    (sent : Bool)
    (now : Nat) :
    rtpPacketSend session.settled buffer.bare sent now =
      (rtpPacketSend session buffer sent now).settled := by
  cases sent with
  | true => rfl
  | false => rfl

end Rtp

end Feng

------------------------------------------------------------
-- The Head Of The Queue
------------------------------------------------------------

namespace Feng

namespace Rtp

variable {s t : RtpState}

/- The session reads at the head of its queue. -/
theorem Plays.fetch
    (h : Plays s) :
    ∃ consumer,
      bqConsumerGet s.queue.producer
          (s.queue.consumer s.session.consumer) =
        .ok (s.queue.producer, consumer,
          s.queue.producer.queue.head?) ∧
        ∀ u : RtpState,
          u.queue =
              s.queue.update s.session.consumer
                s.queue.producer consumer →
            u.session.consumer = s.session.consumer →
            (u.writer ≠ .idle →
              s.queue.producer.queue ≠ []) →
            Plays u := by
  rcases consumerGet_eq h.queue.producer
      (h.queue.consumer _ h.mem) with
    ⟨consumer, element, hGet, hQueued, hResult, hWf,
      hReader⟩
  have hCursor :
      (bqReader s.queue.producer consumer).cursor =
        s.reader.cursor := by
    rw [hReader]
    rfl
  have hNotNil := h.queue.producer.queue_ne_nil_iff
  have hPointer :
      element.map BQElem.pointer =
        s.queue.producer.queue.head?.map BQElem.pointer := by
    rw [h.queue.producer.head?_pointer, ← h.cursor_eq]
    exact hResult
  have hHead : element = s.queue.producer.queue.head? := by
    cases hFirst : s.queue.producer.queue.head? with
    | none =>
        rw [hFirst, Option.map_none] at hPointer
        exact Option.map_eq_none_iff.mp hPointer
    | some first =>
        rw [hFirst, Option.map_some] at hPointer
        rcases Option.map_eq_some_iff.mp hPointer with
          ⟨elem, hElem, hSame⟩
        rw [hElem]
        exact congrArg some
          (h.queue.producer.eq_of_pointer
            (hQueued elem hElem)
            (List.mem_of_mem_head? hFirst) hSame)
  rw [hHead] at hGet
  refine ⟨consumer, hGet, ?_⟩
  intro u hQueue hSession hBusy
  refine ⟨?_, ?_, ?_⟩
  · rw [hQueue]
    exact h.queue.update_same h.mem hWf hCursor
  · rw [hQueue, hSession]
    exact h.only
  · intro hWriting
    have hMore := hNotNil.mp (hBusy hWriting)
    rw [← h.cursor_eq] at hMore
    unfold RtpState.reader
    rw [hQueue, hSession, BufferQueue.State.reader_update,
      if_pos rfl, hReader]
    exact decide_eq_true hMore

/- The part of the callback that sends, with any outcome. -/
theorem Plays.get_cases
    (h : Plays s)
    (hIdle : s.writer = .idle)
    {env : RtpEnv}
    (hStep : step s (.get env) = .ok t) :
    Plays t ∧ t.queue.producer = s.queue.producer ∧
      ((s.queue.producer.queue = [] ∧ t.writer = .idle ∧
          t.session.settled = s.session.settled ∧
          streamed t.sent = streamed s.sent) ∨
        ∃ elem rest,
          s.queue.producer.queue = elem :: rest ∧
            t.writer.pending = 1 ∧
            t.session =
              rtpPacketSend s.session elem.data env.sent
                env.now ∧
            t.sent =
              s.sent ++
                transmitted s.session elem.data env) := by
  have hRunning := h.queue.producer.running
  rcases h.fetch with ⟨consumer, hGet, hPlays⟩
  cases hQueue : s.queue.producer.queue with
  | nil =>
      rw [hQueue] at hGet
      simp only [step, rtpWriteCbGet, bqConsumerStopped,
        hRunning, hGet, queueCall, bind, Except.bind,
        Bool.false_eq_true, if_false, List.head?_nil]
        at hStep
      split at hStep
      · cases hStep
        refine ⟨hPlays _ rfl rfl ?_, rfl,
          .inl ⟨rfl, hIdle, rfl, ?_⟩⟩
        · exact fun hBusy => absurd hIdle hBusy
        · rw [streamed_append]
          exact List.append_nil _
      · cases hStep
        refine ⟨hPlays _ rfl rfl ?_, rfl,
          .inl ⟨rfl, hIdle, rfl, rfl⟩⟩
        exact fun hBusy => absurd hIdle hBusy
  | cons elem rest =>
      have hNotNil : s.queue.producer.queue ≠ [] := by
        rw [hQueue]
        exact List.cons_ne_nil elem rest
      rw [hQueue] at hGet
      simp only [step, rtpWriteCbGet, bqConsumerStopped,
        hRunning, hGet, queueCall, bind, Except.bind,
        Bool.false_eq_true, if_false, List.head?_cons]
        at hStep
      cases hStep
      have hSame :
          (rtpPacketSend s.session elem.data env.sent
            env.now).consumer = s.session.consumer := by
        unfold rtpPacketSend
        split
        · rfl
        · rfl
      refine ⟨hPlays _ rfl hSame (fun _ => hNotNil), rfl,
        .inr ⟨elem, rest, rfl, rfl, rfl, ?_⟩⟩
      unfold transmitted reportAfter
      simp only
      split
      · rw [List.append_assoc]
      · rfl

end Rtp

end Feng

------------------------------------------------------------
-- Runs In Which Packets Are Lost
------------------------------------------------------------

namespace Feng

namespace Rtp

/- The callback goes on from where it is; sends may fail. -/
def lossyEnabled (s : RtpState) : Op → Prop
| .get _ => s.writer = .idle
| op => enabled s op

instance decidableLossyEnabled
    (s : RtpState) :
    (op : Op) → Decidable (lossyEnabled s op)
| .put elem => inferInstanceAs (Decidable (elem.seqNo = 0))
| .get _ => inferInstanceAs (Decidable (s.writer = .idle))
| .move => decidableEnabled s .move
| .next => decidableEnabled s .next

def lossySystem (session : RTPSession) : System RtpState Op :=
  System.ofStep (initial session) lossyEnabled step

/- The buffers that were put, in order. -/
def putBuffers
    (trace : List (RtpState × Op)) : List MParserBuffer :=
  trace.filterMap (fun x =>
    match x.2 with
    | .put elem => some elem.bare
    | _ => none)

/- The outcomes of the sends, in order. -/
def answers (trace : List (RtpState × Op)) : List RtpEnv :=
  trace.filterMap (fun x =>
    match x.2 with
    | .get env =>
        if x.1.queue.producer.queue = [] then
          none
        else
          some env
    | _ => none)

/- The buffers in the queue that are still to be sent. -/
def waiting (s : RtpState) : List MParserBuffer :=
  (s.queue.producer.queue.map
    (fun elem => elem.data.bare)).drop s.writer.pending

variable {session : RTPSession} {s t : RtpState}
variable {trace : List (RtpState × Op)} {op : Op}

/-
  What was put is what was sent, or is waiting, and what was
  sent is what a plain loop sends.
-/
structure Streams
    (session : RTPSession)
    (trace : List (RtpState × Op))
    (s : RtpState) : Prop where
  plays : Plays s
  buffers :
    ∃ taken,
      putBuffers trace = taken ++ waiting s ∧
        taken.length = (answers trace).length ∧
        (s.session.settled, streamed s.sent) =
          transmitAll
            { session with consumer := 0 }.settled
            (taken.zip (answers trace))

theorem putBuffers_snoc :
    putBuffers (trace ++ [(s, op)]) =
      putBuffers trace ++ putBuffers [(s, op)] :=
  List.filterMap_append

theorem answers_snoc :
    answers (trace ++ [(s, op)]) =
      answers trace ++ answers [(s, op)] :=
  List.filterMap_append

theorem queueCall_eq_ok
    {α : Type}
    {call : Except BQFault α}
    {result : α} :
    queueCall call = .ok result ↔ call = .ok result := by
  cases call with
  | error fault =>
      constructor
      · intro h
        cases h
      · intro h
        cases h
  | ok value =>
      constructor
      · intro h
        cases h
        rfl
      · intro h
        cases h
        rfl

/- A step that neither puts nor sends a buffer. -/
theorem Streams.still
    (h : Streams session trace s)
    (hPut : putBuffers [(s, op)] = [])
    (hAnswer : answers [(s, op)] = [])
    (hPlays : Plays t)
    (hWaiting : waiting t = waiting s)
    (hSettled : t.session.settled = s.session.settled)
    (hSent : streamed t.sent = streamed s.sent) :
    Streams session (trace ++ [(s, op)]) t where
  plays := hPlays
  buffers := by
    rcases h.buffers with ⟨taken, hTaken, hLength, hLoop⟩
    refine ⟨taken, ?_, ?_, ?_⟩
    · rw [putBuffers_snoc, hPut, List.append_nil, hWaiting]
      exact hTaken
    · rw [answers_snoc, hAnswer, List.append_nil]
      exact hLength
    · rw [answers_snoc, hAnswer, List.append_nil, hSettled,
        hSent]
      exact hLoop

/- A buffer that was sent is in the queue. -/
theorem Plays.pending_le
    (h : Plays s) :
    s.writer.pending ≤ s.queue.producer.queue.length := by
  cases hWriter : s.writer with
  | idle => exact Nat.zero_le _
  | moved nextTime buffer => exact Nat.zero_le _
  | sent nextTime buffer =>
      have hHolding : s.reader.holding = true := by
        apply h.holds
        rw [hWriter]
        intro hIdle
        cases hIdle
      have hHeld := h.valid.held hHolding
      rw [h.cursor_eq] at hHeld
      exact List.length_pos_iff.mpr
        (h.queue.producer.queue_ne_nil_iff.mpr hHeld)

theorem Streams.put
    (h : Streams session trace s)
    {elem : MParserBuffer}
    (hSeqNo : elem.seqNo = 0)
    (hStep : step s (.put elem) = .ok t) :
    Streams session (trace ++ [(s, .put elem)]) t := by
  rcases h.plays.put hSeqNo hStep with
    ⟨hPlays, hSent, hWriter, hProducer, _⟩
  have hSession : t.session = s.session := by
    rcases Except.bind_eq_ok.mp hStep with
      ⟨producer, _, hEq⟩
    cases hEq
    rfl
  rcases h.buffers with ⟨taken, hTaken, hLength, hLoop⟩
  refine ⟨hPlays, taken, ?_, ?_, ?_⟩
  · have hRoom := h.plays.pending_le
    rw [putBuffers_snoc, hTaken, List.append_assoc]
    unfold waiting
    rw [hProducer, hWriter, BufferQueueProducer.enqueue,
      List.map_append, List.drop_append_of_le_length]
    · rfl
    · rw [List.length_map]
      exact hRoom
  · rw [answers_snoc]
    exact hLength.trans
      (congrArg List.length (List.append_nil _).symm)
  · rw [answers_snoc, hSent, hSession]
    exact hLoop.trans
      (congrArg
        (fun more => transmitAll _ (taken.zip more))
        (List.append_nil _).symm)

theorem Streams.get
    (h : Streams session trace s)
    (hIdle : s.writer = .idle)
    {env : RtpEnv}
    (hStep : step s (.get env) = .ok t) :
    Streams session (trace ++ [(s, .get env)]) t := by
  rcases h.plays.get_cases hIdle hStep with
    ⟨hPlays, hProducer, hCases⟩
  rcases hCases with
    ⟨hEmpty, hStill, hSettled, hSent⟩ |
    ⟨elem, rest, hQueue, hPending, hSession, hSent⟩
  · refine h.still rfl ?_ hPlays ?_ hSettled hSent
    · simp [answers, hEmpty]
    · unfold waiting
      rw [hProducer, hStill, hIdle]
  · rcases h.buffers with ⟨taken, hTaken, hLength, hLoop⟩
    have hAnswer : answers [(s, .get env)] = [env] := by
      simp [answers, hQueue]
    have hWaiting :
        waiting s = elem.data.bare :: waiting t := by
      unfold waiting
      rw [hProducer, hPending, hIdle, hQueue]
      rfl
    refine ⟨hPlays, taken ++ [elem.data.bare], ?_, ?_, ?_⟩
    · have hPut : putBuffers [(s, .get env)] = [] := rfl
      rw [putBuffers_snoc, hPut, List.append_nil, hTaken,
        hWaiting, List.append_assoc]
      rfl
    · rw [answers_snoc, hAnswer, List.length_append,
        List.length_append, hLength]
      rfl
    · rw [answers_snoc, hAnswer,
        List.zip_append hLength, List.zip_cons_cons,
        List.zip_nil_left, transmitAll_concat, ← hLoop]
      unfold transmitOne
      rw [hSession, hSent, streamed_append,
        transmitted_bare, rtpPacketSend_settled]

theorem Streams.move
    (h : Streams session trace s)
    (hEnabled : enabled s .move)
    (hSerial : s.queue.producer.queueSerial < gMaxULong)
    (hStep : step s .move = .ok t) :
    Streams session (trace ++ [(s, .move)]) t := by
  rcases h.plays.move hEnabled hSerial hStep with
    ⟨hPlays, hSent, hPending, hCursor, hNext, _, _⟩
  have hBefore := enabled_move_pending hEnabled
  have hMoved :
      KeepsQueue s.queue.producer t.queue.producer ∧
        t.session.settled = s.session.settled := by
    cases hWriter : s.writer with
    | idle => simp [enabled, hWriter] at hEnabled
    | moved nextTime buffer =>
        simp [enabled, hWriter] at hEnabled
    | sent nextTime buffer =>
        simp only [step, hWriter, rtpWriteCbMove] at hStep
        rcases Except.bind_eq_ok.mp hStep with
          ⟨⟨producer, consumer, moved⟩, hCall, hRest⟩
        have hKeeps := consumerMove_keepsQueue
          (queueCall_eq_ok.mp hCall)
        simp only at hRest
        split at hRest
        · cases hRest
          exact ⟨hKeeps, rfl⟩
        · cases hRest
          exact ⟨hKeeps, rfl⟩
  have hLength :
      t.queue.producer.queue.length + 1 =
        s.queue.producer.queue.length := by
    have hRoom := h.plays.queue.producer.pointerRoom
    have hRoom' := hPlays.queue.producer.pointerRoom
    have hLess := h.plays.pending_le
    have hFirst := h.plays.cursor_eq
    have hFirst' := hPlays.cursor_eq
    rw [hCursor] at hFirst'
    rw [hBefore] at hLess
    unfold BufferQueueProducer.firstPointer at hFirst hFirst'
    have hSame := hMoved.1.nextPointer
    omega
  have hWaiting : waiting t = waiting s := by
    have hSuffix :=
      List.suffix_iff_eq_drop.mp hMoved.1.buffers
    rw [List.length_map, List.length_map, ← hLength,
      Nat.add_sub_cancel_left] at hSuffix
    have hBuffers := congrArg (List.map BQElem.data) hSuffix
    rw [List.map_drop, List.map_map, List.map_map]
      at hBuffers
    unfold waiting
    rw [hPending, hBefore, List.drop_zero]
    exact hBuffers
  refine h.still rfl rfl hPlays hWaiting hMoved.2 ?_
  rw [hSent]

theorem Streams.next
    (h : Streams session trace s)
    (hEnabled : enabled s .next)
    (hStep : step s .next = .ok t) :
    Streams session (trace ++ [(s, .next)]) t := by
  rcases h.plays.next hEnabled hStep with
    ⟨hPlays, hProducer, hSent, hWriter, _⟩
  have hMoved :
      s.writer.pending = 0 ∧
        t.session.settled = s.session.settled := by
    cases hBusy : s.writer with
    | idle => simp [enabled, hBusy] at hEnabled
    | sent nextTime buffer =>
        simp [enabled, hBusy] at hEnabled
    | moved nextTime buffer =>
        simp only [step, hBusy, rtpWriteCbNext] at hStep
        rcases Except.bind_eq_ok.mp hStep with
          ⟨⟨producer, consumer, element⟩, _, hRest⟩
        cases element with
        | none => cases hRest
        | some elem =>
            cases hRest
            exact ⟨rfl, rfl⟩
  refine h.still rfl rfl hPlays ?_ hMoved.2 ?_
  · unfold waiting
    rw [hProducer, hWriter, hMoved.1]
    rfl
  · rw [hSent]

theorem initial_streams (session : RTPSession) :
    Streams session [] (initial session) where
  plays := (initial_steady session).plays
  buffers := by
    refine ⟨[], ?_, rfl, rfl⟩
    have hEmpty : initialQueue.producer.queue = [] := by
      decide
    have hWaiting : waiting (initial session) = [] := by
      unfold waiting
      change (initialQueue.producer.queue.map
        (fun elem => elem.data.bare)).drop 0 = []
      rw [hEmpty]
      rfl
    rw [hWaiting]
    rfl

/- The queue was not emptied too often for its counter. -/
def SerialLeft (s : RtpState) : Prop :=
  s.queue.producer.queueSerial < gMaxULong

instance decidableSerialLeft : DecidablePred SerialLeft :=
  fun s =>
    inferInstanceAs
      (Decidable (s.queue.producer.queueSerial < gMaxULong))

theorem run_streams
    (hRun : (lossySystem session).Run trace s)
    (hSerials : System.Always SerialLeft trace s) :
    Streams session trace s := by
  induction hRun with
  | start hStart =>
      cases hStart
      exact initial_streams session
  | step hRun hStep ih =>
      rename_i before s t op
      have hBefore := (System.always_snoc.mp hSerials).1
      have hStreams := ih hBefore
      rcases hStep with ⟨hEnabled, hStep⟩
      cases op with
      | put elem => exact hStreams.put hEnabled hStep
      | get env => exact hStreams.get hEnabled hStep
      | move => exact hStreams.move hEnabled hBefore.2 hStep
      | next => exact hStreams.next hEnabled hStep

/-
  However the filling of the queue and the sending take turns,
  the buffers sent are the first ones that were put, in order
  and once each, and all that is sent for them and counted is
  what a loop over these buffers sends and counts.
-/
theorem streams_in_order
    (hRun : (lossySystem session).Run trace s)
    (hSerials : System.Always SerialLeft trace s) :
    ∃ taken,
      putBuffers trace = taken ++ waiting s ∧
        taken.length = (answers trace).length ∧
        (s.session.settled, streamed s.sent) =
          transmitAll
            { session with consumer := 0 }.settled
            (taken.zip (answers trace)) :=
  (run_streams hRun hSerials).buffers

/- Two buffers are put, and the packet of the first is lost. -/
def lostOps : List Op :=
  [.put BufferQueue.sampleBuffer,
    .get { sampleEnv with sent := false },
    .put BufferQueue.sampleBuffer, .move, .next,
    .get sampleEnv]

theorem streams_in_order_lost :
    (packets
        (System.replayEnd step (initial sampleSession)
          lostOps).sent).length = 1 ∧
      ∃ taken,
        putBuffers
            (System.replayTrace step (initial sampleSession)
              lostOps) =
          taken ++
            waiting
              (System.replayEnd step (initial sampleSession)
                lostOps) ∧
          taken.length =
            (answers
              (System.replayTrace step
                (initial sampleSession) lostOps)).length ∧
          ((System.replayEnd step (initial sampleSession)
              lostOps).session.settled,
            streamed
              (System.replayEnd step (initial sampleSession)
                lostOps).sent) =
            transmitAll
              { sampleSession with consumer := 0 }.settled
              (taken.zip
                (answers
                  (System.replayTrace step
                    (initial sampleSession) lostOps))) :=
  ⟨by decide +kernel,
    streams_in_order
      (System.replay_run (by decide +kernel)
        (by decide +kernel)) (by decide +kernel)⟩

end Rtp

end Feng

------------------------------------------------------------
-- What Is Counted
------------------------------------------------------------

namespace Feng

namespace Rtp

variable {session : RTPSession} {s : RtpState}
variable {trace : List (RtpState × Op)}

/- The payload of the packets. -/
def octets (packets : List RTPPacket) : Nat :=
  (packets.map (fun packet => packet.data.length)).sum

@[simp] theorem packets_append
    (sent more : List RtpOutput) :
    packets (sent ++ more) = packets sent ++ packets more :=
  List.filterMap_append

theorem octets_append
    (sent more : List RTPPacket) :
    octets (sent ++ more) = octets sent + octets more := by
  unfold octets
  rw [List.map_append, List.sum_append]

theorem packets_streamed (sent : List RtpOutput) :
    packets (streamed sent) =
      (packets sent).map RTPPacket.bare := by
  induction sent with
  | nil => rfl
  | cons output sent ih =>
      cases output with
      | rtp packet => exact congrArg (packet.bare :: ·) ih
      | rtcp type =>
          cases type with
          | sdes => exact ih
          | bye => exact ih

theorem octets_bare (sent : List RTPPacket) :
    octets (sent.map RTPPacket.bare) = octets sent := by
  unfold octets
  rw [List.map_map]
  rfl

/- The packets that a loop sends for one more buffer. -/
theorem packets_transmitted
    (buffer : MParserBuffer)
    (env : RtpEnv) :
    packets (streamed (transmitted session buffer env)) =
      if env.sent then
        [(rtpPacket session buffer).bare]
      else
        [] := by
  have hReport :
      ∀ session, packets (streamed (reportAfter session)) =
        [] := by
    intro session
    unfold reportAfter
    split
    · rfl
    · rfl
  unfold transmitted
  rw [streamed_append, packets_append, hReport,
    List.append_nil]
  split
  · rfl
  · rfl

/- The counters of a loop, modulo 2^32. -/
theorem transmitAll_counts
    (session : RTPSession)
    (buffers : List (MParserBuffer × RtpEnv)) :
    (transmitAll session buffers).1.pktCount % 2 ^ 32 =
        (session.pktCount +
          (packets
            (transmitAll session buffers).2).length) %
            2 ^ 32 ∧
      (transmitAll session buffers).1.octetCount % 2 ^ 32 =
        (session.octetCount +
          octets
            (packets (transmitAll session buffers).2)) %
            2 ^ 32 := by
  induction buffers using List.reverseRecOn with
  | nil => exact ⟨rfl, rfl⟩
  | append_singleton buffers next ih =>
      rcases ih with ⟨hPkt, hOctet⟩
      rw [transmitAll_concat]
      unfold transmitOne
      simp only [packets_append, packets_transmitted,
        octets_append, List.length_append]
      cases hSent : next.2.sent with
      | true =>
          simp only [rtpPacketSend, if_true]
          constructor
          · simp only [List.length_singleton]
            omega
          · simp only [octets, List.map_cons, List.map_nil,
              List.sum_cons, List.sum_nil, RTPPacket.bare,
              rtpPacket]
            unfold octets at hOctet
            omega
      | false =>
          simp only [rtpPacketSend, Bool.false_eq_true,
            if_false]
          exact ⟨hPkt, hOctet⟩

/-
  The counts of a sender report are those of the packets that
  were sent, and of the octets of their payload, modulo 2^32.
-/
theorem counts_what_was_sent
    (hRun : (lossySystem session).Run trace s)
    (hSerials : System.Always SerialLeft trace s) :
    s.session.pktCount % 2 ^ 32 =
        (session.pktCount + (packets s.sent).length) %
          2 ^ 32 ∧
      s.session.octetCount % 2 ^ 32 =
        (session.octetCount + octets (packets s.sent)) %
          2 ^ 32 := by
  rcases (run_streams hRun hSerials).buffers with
    ⟨taken, _, _, hLoop⟩
  have hCounts :=
    transmitAll_counts { session with consumer := 0 }.settled
      (taken.zip (answers trace))
  rw [← hLoop] at hCounts
  simp only [packets_streamed, List.length_map, octets_bare]
    at hCounts
  exact hCounts

theorem counts_what_was_sent_lost :
    (System.replayEnd step (initial sampleSession)
        lostOps).session.pktCount % 2 ^ 32 =
        (0 + 1) % 2 ^ 32 := by
  have hOne :
      (packets
        (System.replayEnd step (initial sampleSession)
          lostOps).sent).length = 1 := by
    decide +kernel
  rw [← hOne]
  exact (counts_what_was_sent
    (System.replay_run (by decide +kernel)
      (by decide +kernel)) (by decide +kernel)).1

end Rtp

end Feng
