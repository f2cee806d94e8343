import Feng.BufferQueue.Serial
import Feng.Rtp.Session

/-
  The sequence numbers of the RTP packets one session sends:
  they run on until the session moves off the last buffer
  queued, and start again at one with the next packet.

  Key definitions include:
    * `SeqContinuous`
    * `Drains`
    * `SendsPacket`

  Key theorems include:
    * `sequence_continuous_iff`
    * `sequence_restarts`
-/

------------------------------------------------------------
-- Sequence Numbers
------------------------------------------------------------

namespace Feng

namespace Rtp

/- The sequence numbers of the packets sent, in order. -/
def seqNos (sent : List RtpOutput) : List Nat :=
  (packets sent).map RTPPacket.seqNo

/- Each number is the one before it plus one. -/
def SeqContinuous (sent : List RtpOutput) : Prop :=
  (seqNos sent).IsChain (fun a b => b = nextUInt16 a)

/- The session moves on with nothing queued behind. -/
def Drains (x : RtpState × Op) : Prop :=
  x.2 = .move ∧ x.1.queue.producer.queue.length ≤ 1

/- The session gets a buffer, and sends it. -/
def SendsPacket (x : RtpState × Op) : Prop :=
  (∃ env, x.2 = .get env) ∧
    x.1.queue.getResult x.1.session.consumer ≠ none

/- No packet is sent once the session drained the queue. -/
def NeverUnderrun (trace : List (RtpState × Op)) : Prop :=
  trace.Pairwise (fun x y => Drains x → ¬ SendsPacket y)

@[simp] theorem seqNos_append
    (sent more : List RtpOutput) :
    seqNos (sent ++ more) = seqNos sent ++ seqNos more := by
  simp [seqNos, packets]

@[simp] theorem seqNos_rtcp
    (type : RtcpPktType) :
    seqNos [.rtcp type] = [] :=
  rfl

@[simp] theorem seqNos_rtp
    (packet : RTPPacket) :
    seqNos [.rtp packet] = [packet.seqNo] :=
  rfl

theorem SeqContinuous.of_append
    {sent more : List RtpOutput}
    (h : SeqContinuous (sent ++ more)) :
    SeqContinuous sent := by
  unfold SeqContinuous at h ⊢
  rw [seqNos_append] at h
  exact h.left_of_append

/- Numbers counted up from one are continuous below 2^16. -/
theorem range'_isChain
    (n : Nat)
    (hBound : n < 2 ^ 16) :
    (List.range' 1 n).IsChain
      (fun a b => b = nextUInt16 a) := by
  induction n with
  | zero =>
      exact List.IsChain.nil
  | succ n ih =>
      rw [List.range'_1_concat]
      apply List.isChain_append.mpr
      refine ⟨ih (by omega), List.IsChain.singleton _, ?_⟩
      intro a ha b hb
      rw [List.getLast?_range'] at ha
      split at ha
      · cases ha
      · cases ha
        cases hb
        unfold nextUInt16
        omega

/- A one behind them is not, unless the last number wraps. -/
theorem not_isChain_restart
    {n : Nat}
    (hPos : 1 ≤ n)
    (hBound : n < 2 ^ 16) :
    ¬ (List.range' 1 n ++ [1]).IsChain
      (fun a b => b = nextUInt16 a) := by
  intro hChain
  have hLast : (List.range' 1 n).getLast? = some n := by
    rw [List.getLast?_range', if_neg (by omega)]
    congr 1
    omega
  have hNext := (List.isChain_append.mp hChain).2.2 n hLast
    1 rfl
  unfold nextUInt16 at hNext
  omega

end Rtp

end Feng

------------------------------------------------------------
-- What The Callback Does
------------------------------------------------------------

namespace Feng

/- The place of the session's consumer in the queue. -/
def RtpState.reader (s : RtpState) : Reader :=
  s.queue.reader s.session.consumer

/- A packet was sent for the buffer the consumer is still on. -/
def RtpWriteCb.pending : RtpWriteCb → Nat
| .sent _ _ => 1
| _ => 0

namespace Rtp

variable {s t : RtpState}

/-
  The session is the only consumer, and a buffer it sent or
  moved to is one it holds.
-/
structure Plays (s : RtpState) : Prop where
  queue : s.queue.Wf
  only : s.queue.registered = {s.session.consumer}
  holds : s.writer ≠ .idle → s.reader.holding = true

theorem Plays.mem
    (h : Plays s) :
    s.session.consumer ∈ s.queue.registered := by
  rw [h.only]
  exact Finset.mem_singleton_self _

theorem Plays.getResult_eq
    (h : Plays s) :
    s.queue.getResult s.session.consumer =
      s.reader.result :=
  h.queue.getResult_eq h.mem

theorem Plays.valid
    (h : Plays s) :
    s.reader.Valid :=
  h.queue.valid h.mem

/- Nobody else keeps a buffer: the cursor is at the head. -/
theorem Plays.cursor_eq
    (h : Plays s) :
    s.reader.cursor = s.queue.producer.firstPointer := by
  have hValid := h.valid
  have hLow := hValid.low
  have hHigh := hValid.high
  by_cases hQueue : s.queue.producer.queue = []
  · have hEmpty :
        s.queue.producer.firstPointer =
          s.queue.producer.nextPointer := by
      simp [BufferQueueProducer.firstPointer, hQueue]
    change s.queue.producer.firstPointer ≤ _ at hLow
    change _ ≤ s.queue.producer.nextPointer at hHigh
    omega
  · rcases h.queue.slowest hQueue ⟨_, h.mem⟩ with
      ⟨k, hk, hCursor⟩
    rw [h.only] at hk
    rw [Finset.mem_singleton.mp hk] at hCursor
    exact hCursor

/- The number a packet of the buffer at the cursor carries. -/
theorem Plays.seqNo_eq
    (h : Plays s)
    {elem : BQElem}
    (hMem : elem ∈ s.queue.producer.queue)
    (hPointer : elem.pointer = s.reader.cursor) :
    (rtpPacket s.session elem.data).seqNo =
      s.queue.producer.firstSerial := by
  have hSeqNo := h.queue.producer.seqNo_of_mem hMem
  have hSerialRoom := h.queue.producer.serialRoom
  have hPointerRoom := h.queue.producer.pointerRoom
  have hBound := h.queue.producer.serialBound
  have hCursor := h.cursor_eq
  have hBounds := h.queue.producer.pointer_bounds hMem
  simp only [rtpPacket]
  unfold BufferQueueProducer.firstSerial
  unfold BufferQueueProducer.firstPointer at hCursor hBounds
  rw [Nat.mod_eq_of_lt (by omega)]
  omega

/-
  The first part of the callback: nothing to send, or the
  buffer at the head of the queue is sent.
-/
theorem Plays.get
    (h : Plays s)
    (hIdle : s.writer = .idle)
    {env : RtpEnv}
    (hSent : env.sent = true)
    (hStep : step s (.get env) = .ok t) :
    Plays t ∧ t.queue.producer = s.queue.producer ∧
      t.reader.cursor = s.reader.cursor ∧
      if s.reader.cursor < s.reader.next then
        t.writer.pending = 1 ∧
          seqNos t.sent =
            seqNos s.sent ++
              [s.queue.producer.firstSerial]
      else
        t.writer = .idle ∧ seqNos t.sent = seqNos s.sent := by
  have hRunning := h.queue.producer.running
  rcases consumerGet_eq h.queue.producer
      (h.queue.consumer _ h.mem) with
    ⟨consumer, element, hGet, hQueued, hResult, hWf,
      hReader⟩
  have hCursor :
      (bqReader s.queue.producer consumer).cursor =
        s.reader.cursor := by
    rw [hReader]
    rfl
  have hQueue := h.queue.update_same h.mem hWf hCursor
  have hNewReader :
      (s.queue.update s.session.consumer s.queue.producer
        consumer).reader s.session.consumer =
          s.reader.hold := by
    rw [BufferQueue.State.reader_update, if_pos rfl]
    exact hReader
  have hResultEq :
      element.map BQElem.pointer = s.reader.result :=
    hResult
  by_cases hMore : s.reader.cursor < s.reader.next
  · rw [Reader.result, if_pos hMore] at hResultEq
    rcases Option.map_eq_some_iff.mp hResultEq with
      ⟨elem, hElement, hPointer⟩
    subst hElement
    have hSeqNo := h.seqNo_eq (hQueued elem rfl) hPointer
    simp only [step, rtpWriteCbGet, bqConsumerStopped,
      hRunning, hGet, queueCall, hSent, bind, Except.bind,
      Bool.false_eq_true, if_false, if_true] at hStep
    cases hStep
    have hHolding :
        ∀ session : RTPSession,
          session.consumer = s.session.consumer →
            ((s.queue.update s.session.consumer
              s.queue.producer consumer).reader
                session.consumer) = s.reader.hold := by
      intro session hSame
      rw [hSame, hNewReader]
    have hConsumer :
        (rtpPacketSend s.session elem.data true
          env.now).consumer = s.session.consumer := by
      simp [rtpPacketSend]
    refine ⟨⟨hQueue, ?_, ?_⟩, rfl, ?_, ?_⟩
    · rw [hConsumer]
      exact h.only
    · intro _
      unfold RtpState.reader
      rw [hHolding _ hConsumer]
      exact decide_eq_true hMore
    · unfold RtpState.reader
      rw [hHolding _ hConsumer]
      rfl
    · rw [if_pos hMore]
      constructor
      · rfl
      · rw [seqNos_append, seqNos_append, seqNos_rtp, hSeqNo]
        split
        · rw [seqNos_rtcp, List.append_nil]
        · simp [seqNos, packets]
  · rw [Reader.result, if_neg hMore] at hResultEq
    have hElement : element = none :=
      Option.map_eq_none_iff.mp hResultEq
    subst hElement
    have hSame :
        ((s.queue.update s.session.consumer s.queue.producer
          consumer).reader s.session.consumer).cursor =
            s.reader.cursor := by
      rw [hNewReader]
      rfl
    simp only [step, rtpWriteCbGet, bqConsumerStopped,
      hRunning, hGet, queueCall, bind, Except.bind,
      Bool.false_eq_true, if_false] at hStep
    rw [if_neg hMore]
    split at hStep
    · cases hStep
      refine ⟨⟨hQueue, h.only, ?_⟩, rfl, ?_, hIdle, ?_⟩
      · exact fun hBusy => absurd hIdle hBusy
      · exact hSame
      · simp
    · cases hStep
      refine ⟨⟨hQueue, h.only, ?_⟩, rfl, ?_, hIdle, rfl⟩
      · exact fun hBusy => absurd hIdle hBusy
      · exact hSame

/-
  The second part: the session moves to the next buffer, or
  leaves the queue empty.
-/
theorem Plays.move
    (h : Plays s)
    (hEnabled : enabled s .move)
    (hSerial : s.queue.producer.queueSerial < gMaxULong)
    (hStep : step s .move = .ok t) :
    Plays t ∧ t.sent = s.sent ∧ t.writer.pending = 0 ∧
      t.reader.cursor = s.reader.cursor + 1 ∧
      t.reader.next = s.reader.next ∧
      (2 ≤ s.queue.producer.queue.length →
        t.queue.producer.queueSerial =
            s.queue.producer.queueSerial ∧
          t.queue.producer.nextSerial =
            s.queue.producer.nextSerial) ∧
      (s.queue.producer.queue.length ≤ 1 →
        t.writer = .idle ∧ t.queue.producer.queue = [] ∧
          t.queue.producer.nextSerial = 1) := by
  have hRunning := h.queue.producer.running
  have hRoom := h.queue.producer.pointerRoom
  have hCursor := h.cursor_eq
  cases hWriter : s.writer with
  | idle =>
      simp [enabled, hWriter] at hEnabled
  | moved nextTime buffer =>
      simp [enabled, hWriter] at hEnabled
  | sent nextTime buffer =>
  have hHolding : s.reader.holding = true := by
    apply h.holds
    rw [hWriter]
    intro hNone
    cases hNone
  have hHeld := h.valid.held hHolding
  change _ < s.queue.producer.nextPointer at hHeld
  rcases h.queue.move h.mem with
    ⟨producer, consumer, more, hMove, hMore, hSame,
      hSerials, hAfter⟩
  have hGeneration : producer.queueSerial ≠ 0 := by
    rcases hSerials with hEq | hEq
    · rw [hEq]
      exact h.queue.generation
    · rw [hEq, gulongIncrement_of_lt hSerial]
      exact Nat.succ_ne_zero _
  rcases hAfter hGeneration with ⟨hWf, hFirst, hReaders⟩
  have hReader := hReaders _ h.mem
  rw [if_pos rfl] at hReader
  have hAdvance :
      (s.queue.reader s.session.consumer).advance.cursor =
        s.reader.cursor + 1 := by
    rw [Reader.advance_cursor]
    exact if_pos hHolding
  have hKeeps := moveInternal_keepsQueue hMove
  have hNext :
      producer.nextPointer = s.queue.producer.nextPointer := by
    have hEq := congrArg Reader.next hReader
    simp only [Reader.advance_next] at hEq
    exact hEq
  rw [Reader.advance_holding, hAdvance] at hMore
  have hPlays :
      ∀ u : RtpState,
        u.queue =
            s.queue.update s.session.consumer producer
              consumer →
          u.session.consumer = s.session.consumer →
          (u.writer ≠ .idle → more = true) →
            Plays u ∧
              u.reader.cursor = s.reader.cursor + 1 ∧
              u.reader.next = s.reader.next := by
    intro u hQueue hSession hBusy
    have hUReader :
        u.reader =
          (s.queue.update s.session.consumer producer
            consumer).reader s.session.consumer := by
      unfold RtpState.reader
      rw [hQueue, hSession]
    refine ⟨⟨?_, ?_, ?_⟩, ?_, ?_⟩
    · rw [hQueue]
      exact hWf
    · rw [hQueue, hSession]
      exact h.only
    · intro hWriting
      rw [hUReader, hReader]
      simp only [Reader.advance_holding, hAdvance]
      rw [← hMore]
      exact hBusy hWriting
    · rw [hUReader, hReader]
      exact hAdvance
    · rw [hUReader]
      exact hNext
  have hLength :
      s.queue.producer.queue.length +
          s.queue.producer.firstPointer =
        s.queue.producer.nextPointer := by
    unfold BufferQueueProducer.firstPointer
    omega
  -- whether another buffer is queued decides everything
  have hMoreIff :
      more = true ↔ 2 ≤ s.queue.producer.queue.length := by
    rw [hMore, decide_eq_true_iff]
    change _ < s.queue.producer.nextPointer ↔ _
    omega
  have hLeft :
      ∀ u, Plays u →
        u.queue.producer = producer →
        u.reader.cursor = s.reader.cursor + 1 →
          (producer.queue = [] ↔ ¬ more = true) := by
    intro u hU hQueue hUCursor
    have hFirstCursor := hU.cursor_eq
    have hNotNil := hU.queue.producer.queue_ne_nil_iff
    rw [hQueue] at hFirstCursor hNotNil
    rw [hMoreIff, ← not_iff_not, not_not]
    exact hNotNil.trans (by omega)
  cases hMoreValue : more with
  | true =>
      simp only [step, hWriter, rtpWriteCbMove,
        bqConsumerMove, hRunning, hMove, queueCall,
        hMoreValue, bind, Except.bind, Bool.false_eq_true,
        if_false, if_true] at hStep
      cases hStep
      have hU := hPlays
        { s with
          queue :=
            s.queue.update s.session.consumer producer
              consumer
          writer := .moved nextTime buffer }
        rfl rfl (fun _ => hMoreValue)
      have hTwo := hMoreIff.mp hMoreValue
      have hNotNil : producer.queue ≠ [] := by
        intro hNil
        exact (hLeft _ hU.1 rfl hU.2.1).mp hNil hMoreValue
      refine ⟨hU.1, rfl, rfl, hU.2.1, hU.2.2, ?_, ?_⟩
      · intro _
        exact ⟨hSame hMoreValue,
          (hKeeps.serial hNotNil).2⟩
      · intro hFew
        omega
  | false =>
      simp only [step, hWriter, rtpWriteCbMove,
        bqConsumerMove, hRunning, hMove, queueCall,
        hMoreValue, bind, Except.bind, Bool.false_eq_true,
        if_false] at hStep
      cases hStep
      have hNotMore : ¬ more = true := by
        rw [hMoreValue]
        exact Bool.false_ne_true
      have hU := hPlays
        { s with
          queue :=
            s.queue.update s.session.consumer producer
              consumer
          session :=
            rtpWriterAgain s.session
              (nextTime +
                if buffer.duration ≠ 0 then
                  buffer.duration
                else
                  1 / 10)
          writer := .idle }
        rfl rfl (fun hBusy => absurd rfl hBusy)
      refine ⟨hU.1, rfl, rfl, hU.2.1, hU.2.2, ?_, ?_⟩
      · intro hTwo
        exact absurd (hMoreIff.mpr hTwo) hNotMore
      · intro _
        have hNil :=
          (hLeft _ hU.1 rfl hU.2.1).mpr hNotMore
        have hQueued : s.queue.producer.queue ≠ [] := by
          apply h.queue.producer.queue_ne_nil_iff.mpr
          omega
        have hNumbered : Numbered producer :=
          hKeeps.numbered (fun hEmpty =>
            absurd hEmpty hQueued)
        exact ⟨rfl, hNil, hNumbered hNil⟩

/- The last part: only the time of the next call is set. -/
theorem Plays.next
    (h : Plays s)
    (hEnabled : enabled s .next)
    (hStep : step s .next = .ok t) :
    Plays t ∧ t.queue.producer = s.queue.producer ∧
      t.sent = s.sent ∧ t.writer = .idle ∧
      t.reader.cursor = s.reader.cursor := by
  rcases consumerGet_eq h.queue.producer
      (h.queue.consumer _ h.mem) with
    ⟨consumer, element, hGet, _, hResult, hWf, hReader⟩
  have hCursor :
      (bqReader s.queue.producer consumer).cursor =
        s.reader.cursor := by
    rw [hReader]
    rfl
  have hQueue := h.queue.update_same h.mem hWf hCursor
  cases hWriter : s.writer with
  | idle =>
      simp [enabled, hWriter] at hEnabled
  | sent nextTime buffer =>
      simp [enabled, hWriter] at hEnabled
  | moved nextTime buffer =>
      simp only [step, hWriter, rtpWriteCbNext, hGet,
        queueCall, bind, Except.bind] at hStep
      cases element with
      | none =>
          cases hStep
      | some elem =>
          cases hStep
          refine ⟨⟨hQueue, h.only, ?_⟩, rfl, rfl, rfl, ?_⟩
          · exact fun hBusy => absurd rfl hBusy
          · unfold RtpState.reader
            rw [BufferQueue.State.reader_update]
            exact (congrArg Reader.cursor
              (congrArg (bqReader _) (if_pos rfl))).trans
                hCursor

/- A put leaves the session where it is. -/
theorem Plays.put
    (h : Plays s)
    {elem : MParserBuffer}
    (hSeqNo : elem.seqNo = 0)
    (hStep : step s (.put elem) = .ok t) :
    Plays t ∧ t.sent = s.sent ∧ t.writer = s.writer ∧
      t.queue.producer =
        s.queue.producer.enqueue elem ∧
      t.reader.cursor = s.reader.cursor := by
  have hPutEq := producerPut_eq h.queue.producer.running
    h.queue.producer.serialBound hSeqNo
  by_cases hWrap :
      s.queue.producer.nextSerial = 2 ^ 16 - 1
  · rw [if_pos hWrap] at hPutEq
    simp only [step, hPutEq, queueCall, bind, Except.bind]
      at hStep
    cases hStep
  · rw [if_neg hWrap] at hPutEq
    simp only [step, hPutEq, queueCall, bind, Except.bind]
      at hStep
    cases hStep
    rcases h.queue.put hSeqNo hPutEq with ⟨hWf, hReaders⟩
    have hReader := hReaders _ h.mem
    refine ⟨⟨hWf, h.only, ?_⟩, rfl, rfl, rfl, ?_⟩
    · intro hBusy
      unfold RtpState.reader
      rw [hReader]
      exact h.holds hBusy
    · unfold RtpState.reader
      rw [hReader]

end Rtp

end Feng

------------------------------------------------------------
-- Runs
------------------------------------------------------------

namespace Feng

namespace Rtp

variable {trace : List (RtpState × Op)} {s t : RtpState}
variable {op : Op}

/- The queue was never drained: serials follow addresses. -/
structure Steady (s : RtpState) : Prop where
  plays : Plays s
  generation : s.queue.producer.queueSerial = 1
  serial :
    s.queue.producer.nextSerial =
      s.queue.producer.nextPointer + 1
  sent :
    seqNos s.sent =
      List.range' 1 (s.reader.cursor + s.writer.pending)

/- The queue was drained, and nothing has been sent since. -/
structure Dry (s : RtpState) : Prop where
  plays : Plays s
  idle : s.writer = .idle
  serial :
    s.queue.producer.nextSerial =
      s.queue.producer.queue.length + 1
  sent :
    ∃ n, 1 ≤ n ∧ n < 2 ^ 16 ∧
      seqNos s.sent = List.range' 1 n

/- How far a run has come. -/
inductive Supply
    (trace : List (RtpState × Op))
    (s : RtpState) : Prop where
| steady :
    (∀ x ∈ trace, ¬ Drains x) → Steady s → Supply trace s
| dry :
    (∃ x ∈ trace, Drains x) → NeverUnderrun trace →
      Dry s → Supply trace s
| underrun :
    ¬ NeverUnderrun trace → ¬ SeqContinuous s.sent →
      Supply trace s

theorem neverUnderrun_snoc
    {x : RtpState × Op} :
    NeverUnderrun (trace ++ [x]) ↔
      NeverUnderrun trace ∧
        ∀ y ∈ trace, Drains y → ¬ SendsPacket x := by
  simp [NeverUnderrun, List.pairwise_append]

/- A queue that is never drained never runs dry. -/
theorem neverUnderrun_of_not_drains
    (hNone : ∀ x ∈ trace, ¬ Drains x) :
    NeverUnderrun trace := by
  apply List.Pairwise.imp_of_mem _
    (List.pairwise_of_forall (fun _ _ => trivial))
  intro x y hx _ _ hDrained
  exact absurd hDrained (hNone x hx)

theorem Plays.cursor_le
    (h : Plays s) :
    s.reader.cursor ≤ s.queue.producer.nextPointer :=
  h.valid.high

/- The numbers sent stay below the 16 bit bound. -/
theorem Steady.cursor_lt
    (h : Steady s) :
    s.reader.cursor + 1 < 2 ^ 16 := by
  have hCursor := h.plays.cursor_le
  have hBound := h.plays.queue.producer.serialBound
  have hSerial := h.serial
  omega

theorem Steady.pending_le
    (h : Steady s) :
    s.reader.cursor + s.writer.pending < 2 ^ 16 := by
  have hCursor := h.cursor_lt
  cases s.writer with
  | idle => exact Nat.lt_of_succ_lt hCursor
  | moved nextTime buffer => exact Nat.lt_of_succ_lt hCursor
  | sent nextTime buffer => exact hCursor

theorem Steady.continuous
    (h : Steady s) :
    SeqContinuous s.sent := by
  unfold SeqContinuous
  rw [h.sent]
  exact range'_isChain _ h.pending_le

theorem Dry.continuous
    (h : Dry s) :
    SeqContinuous s.sent := by
  rcases h.sent with ⟨n, _, hBound, hSent⟩
  unfold SeqContinuous
  rw [hSent]
  exact range'_isChain n hBound

theorem initial_steady
    (session : RTPSession) :
    Steady (initial session) := by
  have hWf : (initial session).queue.Wf := by
    have hRun :
        BufferQueue.system.Run
          (System.replayTrace BufferQueue.step
            BufferQueue.initial [.consumerNew])
          initialQueue :=
      System.replay_run (by decide)
        (by decide)
    exact (BufferQueue.run_reader hRun
      (by decide)).1
  have hOnly : initialQueue.registered = {0} := by
    decide
  have hGeneration : initialQueue.producer.queueSerial = 1 := by
    decide
  have hSerial :
      initialQueue.producer.nextSerial =
        initialQueue.producer.nextPointer + 1 := by
    decide
  refine ⟨⟨hWf, hOnly, ?_⟩, hGeneration, hSerial, ?_⟩
  · intro hBusy
    exact absurd rfl hBusy
  · have hCursor : (initialQueue.reader 0).cursor = 0 := by
      decide
    change [] = List.range' 1
      ((initialQueue.reader 0).cursor + 0)
    rw [hCursor]
    rfl

theorem Steady.put
    (h : Steady s)
    {elem : MParserBuffer}
    (hSeqNo : elem.seqNo = 0)
    (hStep : step s (.put elem) = .ok t) :
    Steady t := by
  rcases h.plays.put hSeqNo hStep with
    ⟨hPlays, hSent, hWriter, hProducer, hCursor⟩
  constructor
  · exact hPlays
  · rw [hProducer]
    exact h.generation
  · rw [hProducer]
    simp only [BufferQueueProducer.enqueue, h.serial]
  · rw [hSent, hCursor, hWriter]
    exact h.sent

theorem Steady.get
    (h : Steady s)
    (hIdle : s.writer = .idle)
    {env : RtpEnv}
    (hSent : env.sent = true)
    (hStep : step s (.get env) = .ok t) :
    Steady t := by
  rcases h.plays.get hIdle hSent hStep with
    ⟨hPlays, hProducer, hCursor, hOutcome⟩
  have hSerials := h.sent
  rw [hIdle] at hSerials
  constructor
  · exact hPlays
  · rw [hProducer]
    exact h.generation
  · rw [hProducer]
    exact h.serial
  · rw [hCursor]
    split at hOutcome
    · rcases hOutcome with ⟨hPending, hSeqNos⟩
      have hFirst := h.plays.cursor_eq
      have hSerial := h.serial
      have hRoom := h.plays.queue.producer.pointerRoom
      have hNumber :
          s.queue.producer.firstSerial =
            1 + s.reader.cursor := by
        unfold BufferQueueProducer.firstSerial
        unfold BufferQueueProducer.firstPointer at hFirst
        omega
      rw [hSeqNos, hSerials, hPending, hNumber,
        List.range'_1_concat]
      rfl
    · rcases hOutcome with ⟨hWriter, hSeqNos⟩
      rw [hSeqNos, hSerials, hWriter]

theorem Steady.next
    (h : Steady s)
    (hEnabled : enabled s .next)
    (hStep : step s .next = .ok t) :
    Steady t := by
  rcases h.plays.next hEnabled hStep with
    ⟨hPlays, hProducer, hSent, hWriter, hCursor⟩
  constructor
  · exact hPlays
  · rw [hProducer]
    exact h.generation
  · rw [hProducer]
    exact h.serial
  · rw [hSent, hCursor, hWriter, h.sent]
    cases hBefore : s.writer with
    | idle => rfl
    | moved nextTime buffer => rfl
    | sent nextTime buffer =>
        simp [enabled, hBefore] at hEnabled

theorem enabled_move_pending
    (hEnabled : enabled s .move) :
    s.writer.pending = 1 := by
  cases hWriter : s.writer with
  | idle => simp [enabled, hWriter] at hEnabled
  | moved nextTime buffer =>
      simp [enabled, hWriter] at hEnabled
  | sent nextTime buffer => rfl

theorem Steady.move
    (h : Steady s)
    (hEnabled : enabled s .move)
    (hStep : step s .move = .ok t) :
    (¬ Drains (s, .move) → Steady t) ∧
      (Drains (s, .move) → Dry t) := by
  have hPending := enabled_move_pending hEnabled
  have hSerial :
      s.queue.producer.queueSerial < gMaxULong := by
    rw [h.generation]
    unfold gMaxULong
    omega
  rcases h.plays.move hEnabled hSerial hStep with
    ⟨hPlays, hSent, hWriter, hCursor, hNext, hMore, hLast⟩
  have hSeqNos := h.sent
  rw [hPending] at hSeqNos
  constructor
  · intro hNot
    have hTwo : 2 ≤ s.queue.producer.queue.length := by
      by_contra hFew
      exact hNot ⟨rfl, by simp only; omega⟩
    rcases hMore hTwo with ⟨hGeneration, hSame⟩
    have hPointer :
        t.queue.producer.nextPointer =
          s.queue.producer.nextPointer :=
      hNext
    constructor
    · exact hPlays
    · rw [hGeneration]
      exact h.generation
    · rw [hSame, hPointer]
      exact h.serial
    · rw [hSent, hCursor, hWriter]
      exact hSeqNos
  · intro hDrains
    rcases hLast hDrains.2 with ⟨hIdle, hEmpty, hOne⟩
    constructor
    · exact hPlays
    · exact hIdle
    · rw [hEmpty, hOne]
      rfl
    · refine ⟨s.reader.cursor + 1, by omega,
        h.cursor_lt, ?_⟩
      rw [hSent]
      exact hSeqNos

theorem Dry.put
    (h : Dry s)
    {elem : MParserBuffer}
    (hSeqNo : elem.seqNo = 0)
    (hStep : step s (.put elem) = .ok t) :
    Dry t := by
  rcases h.plays.put hSeqNo hStep with
    ⟨hPlays, hSent, hWriter, hProducer, hCursor⟩
  constructor
  · exact hPlays
  · rw [hWriter]
    exact h.idle
  · rw [hProducer]
    simp [BufferQueueProducer.enqueue, h.serial]
  · rw [hSent]
    exact h.sent

/- The first packet after the queue was drained is number 1. -/
theorem Dry.get
    (h : Dry s)
    {env : RtpEnv}
    (hSent : env.sent = true)
    (hStep : step s (.get env) = .ok t) :
    (¬ SendsPacket (s, .get env) → Dry t) ∧
      (SendsPacket (s, .get env) →
        ¬ SeqContinuous t.sent) := by
  rcases h.plays.get h.idle hSent hStep with
    ⟨hPlays, hProducer, hCursor, hOutcome⟩
  have hResult := h.plays.getResult_eq
  unfold Reader.result at hResult
  constructor
  · intro hNot
    have hNone : ¬ s.reader.cursor < s.reader.next := by
      intro hMore
      apply hNot
      refine ⟨⟨env, rfl⟩, ?_⟩
      simp only
      rw [hResult, if_pos hMore]
      intro hEq
      cases hEq
    rw [if_neg hNone] at hOutcome
    constructor
    · exact hPlays
    · exact hOutcome.1
    · rw [hProducer]
      exact h.serial
    · rw [hOutcome.2]
      exact h.sent
  · intro hSends
    have hMore : s.reader.cursor < s.reader.next := by
      by_contra hNone
      apply hSends.2
      simp only
      rw [hResult, if_neg hNone]
    rw [if_pos hMore] at hOutcome
    rcases h.sent with ⟨n, hPos, hBound, hSeqNos⟩
    have hNumber : s.queue.producer.firstSerial = 1 := by
      unfold BufferQueueProducer.firstSerial
      rw [h.serial]
      omega
    unfold SeqContinuous
    rw [hOutcome.2, hSeqNos, hNumber]
    exact not_isChain_restart hPos hBound

/- What was sent stays sent. -/
theorem step_sent
    (hStep : step s op = .ok t) :
    ∃ more, t.sent = s.sent ++ more := by
  cases op with
  | put elem =>
      rcases Except.bind_eq_ok.mp hStep with
        ⟨producer, _, hEq⟩
      cases hEq
      exact ⟨[], by simp⟩
  | get env =>
      simp only [step, rtpWriteCbGet] at hStep
      split at hStep
      · cases hStep
        exact ⟨_, rfl⟩
      · rcases Except.bind_eq_ok.mp hStep with
          ⟨⟨producer, consumer, buffer⟩, _, hEq⟩
        cases buffer with
        | none =>
            simp only at hEq
            split at hEq
            · cases hEq
              exact ⟨_, rfl⟩
            · cases hEq
              exact ⟨[], by simp⟩
        | some elem =>
            cases hEq
            simp only
            split
            · exact ⟨_, List.append_assoc _ _ _⟩
            · exact ⟨_, rfl⟩
  | move =>
      simp only [step] at hStep
      split at hStep
      · rcases Except.bind_eq_ok.mp hStep with
          ⟨⟨producer, consumer, moved⟩, _, hEq⟩
        simp only at hEq
        split at hEq
        · cases hEq
          exact ⟨[], by simp⟩
        · cases hEq
          exact ⟨[], by simp⟩
      · cases hStep
        exact ⟨[], by simp⟩
  | next =>
      simp only [step] at hStep
      split at hStep
      · rcases Except.bind_eq_ok.mp hStep with
          ⟨⟨producer, consumer, next⟩, _, hEq⟩
        cases next with
        | none => cases hEq
        | some elem =>
            cases hEq
            exact ⟨[], by simp⟩
      · cases hStep
        exact ⟨[], by simp⟩

theorem not_sendsPacket
    (hGet : ∀ env, op ≠ .get env) :
    ¬ SendsPacket (s, op) := by
  rintro ⟨⟨env, hEq⟩, _⟩
  exact hGet env hEq

theorem not_drains
    (hMove : op ≠ .move) :
    ¬ Drains (s, op) :=
  fun hDrains => hMove hDrains.1

theorem Supply.steady_snoc
    (hNone : ∀ x ∈ trace, ¬ Drains x)
    (hNot : ¬ Drains (s, op))
    (hSteady : Steady t) :
    Supply (trace ++ [(s, op)]) t := by
  apply Supply.steady _ hSteady
  intro x hx
  rcases List.mem_append.mp hx with hOld | hNew
  · exact hNone x hOld
  · rw [List.mem_singleton.mp hNew]
    exact hNot

theorem Supply.dry_snoc
    (hSome : ∃ x ∈ trace, Drains x)
    (hNever : NeverUnderrun trace)
    (hNot : ¬ SendsPacket (s, op))
    (hDry : Dry t) :
    Supply (trace ++ [(s, op)]) t := by
  rcases hSome with ⟨x, hx, hDrains⟩
  refine Supply.dry
    ⟨x, List.mem_append_left _ hx, hDrains⟩ ?_ hDry
  exact neverUnderrun_snoc.mpr ⟨hNever, fun _ _ _ => hNot⟩

/- One step further in a run. -/
theorem Supply.step
    (h : Supply trace s)
    (hEnabled : enabled s op)
    (hStep : Rtp.step s op = .ok t) :
    Supply (trace ++ [(s, op)]) t := by
  cases h with
  | steady hNone hSteady =>
      cases op with
      | put elem =>
          exact .steady_snoc hNone (not_drains (by simp))
            (hSteady.put hEnabled hStep)
      | get env =>
          exact .steady_snoc hNone (not_drains (by simp))
            (hSteady.get hEnabled.1 hEnabled.2 hStep)
      | next =>
          exact .steady_snoc hNone (not_drains (by simp))
            (hSteady.next hEnabled hStep)
      | move =>
          rcases hSteady.move hEnabled hStep with
            ⟨hStays, hRunsDry⟩
          by_cases hDrains : Drains (s, .move)
          · refine Supply.dry
              ⟨_, List.mem_append_right _
                (List.mem_singleton_self _), hDrains⟩
              ?_ (hRunsDry hDrains)
            apply neverUnderrun_snoc.mpr
            exact ⟨neverUnderrun_of_not_drains hNone,
              fun y hy hDrained =>
                absurd hDrained (hNone y hy)⟩
          · exact .steady_snoc hNone hDrains
              (hStays hDrains)
  | dry hSome hNever hDry =>
      cases op with
      | put elem =>
          exact .dry_snoc hSome hNever
            (not_sendsPacket (by simp))
            (hDry.put hEnabled hStep)
      | get env =>
          rcases hDry.get hEnabled.2 hStep with
            ⟨hStays, hRestarts⟩
          by_cases hSends : SendsPacket (s, .get env)
          · apply Supply.underrun _ (hRestarts hSends)
            intro hNeverMore
            rcases hSome with ⟨x, hx, hDrains⟩
            exact (neverUnderrun_snoc.mp hNeverMore).2 x hx
              hDrains hSends
          · exact .dry_snoc hSome hNever hSends
              (hStays hSends)
      | move =>
          simp [enabled, hDry.idle] at hEnabled
      | next =>
          simp [enabled, hDry.idle] at hEnabled
  | underrun hUnderrun hBroken =>
      rcases step_sent hStep with ⟨more, hMore⟩
      apply Supply.underrun
      · intro hNever
        exact hUnderrun (neverUnderrun_snoc.mp hNever).1
      · rw [hMore]
        exact fun hContinuous =>
          hBroken hContinuous.of_append

theorem run_supply
    {session : RTPSession}
    (hRun : (system session).Run trace s) :
    Supply trace s := by
  induction hRun with
  | start hStart =>
      subst hStart
      apply Supply.steady
      · intro x hx
        cases hx
      · exact initial_steady session
  | step _ hStep ih =>
      exact ih.step hStep.1 hStep.2

/-
  The sequence numbers of the packets of a session run on,
  modulo 2^16, exactly when no packet is sent once the
  session moved off the last buffer queued.
-/
theorem sequence_continuous_iff
    {session : RTPSession}
    (hRun : (system session).Run trace s) :
    SeqContinuous s.sent ↔ NeverUnderrun trace := by
  cases run_supply hRun with
  | steady hNone hSteady =>
      exact iff_of_true hSteady.continuous
        (neverUnderrun_of_not_drains hNone)
  | dry hSome hNever hDry =>
      exact iff_of_true hDry.continuous hNever
  | underrun hUnderrun hBroken =>
      exact iff_of_false hBroken hUnderrun

def sampleSession : RTPSession where
  startRtptime := 0
  ssrc := 0
  lastPacketSendTime := 0
  range := { beginTime := 0, endTime := 0, playbackTime := 0 }
  lastTimestamp := 0
  properties :=
    { payloadType := 96
      clockRate := 90000
      mediaSource := .stored
      frameDuration := 0 }
  consumer := 0
  octetCount := 0
  pktCount := 0
  writerOffset := 0

def sampleEnv : RtpEnv where
  now := 0
  sent := true
  eor := false

/- A buffer is put only when the one before it was sent. -/
def underrunOps : List Op :=
  [.put BufferQueue.sampleBuffer, .get sampleEnv, .move,
    .put BufferQueue.sampleBuffer, .get sampleEnv]

theorem sequence_continuous_iff_underrun :
    SeqContinuous
        (System.replayEnd step (initial sampleSession)
          underrunOps).sent ↔
      NeverUnderrun
        (System.replayTrace step (initial sampleSession)
          underrunOps) :=
  sequence_continuous_iff
    (System.replay_run (by decide +kernel)
      (by decide +kernel))

/- Two packets in a row carry the number one. -/
theorem sequence_restarts :
    ¬ ∀ trace s,
      (system sampleSession).Run trace s →
        SeqContinuous s.sent := by
  intro hAll
  have hRun :
      (system sampleSession).Run
        (System.replayTrace step (initial sampleSession)
          underrunOps)
        (System.replayEnd step (initial sampleSession)
          underrunOps) :=
    System.replay_run (by decide +kernel)
      (by decide +kernel)
  have hChain := hAll _ _ hRun
  unfold SeqContinuous at hChain
  exact absurd hChain (by decide +kernel)

end Rtp

end Feng
