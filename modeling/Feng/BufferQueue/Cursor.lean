import Feng.BufferQueue.Model
import Feng.Lib.Consecutive
import Feng.Lib.Reader

/-
  A consumer as a reader of the log of all buffers ever put:
  where its serial numbers and its pointer place its cursor,
  and what each operation does to that place.

  Key definitions include:
    * `BufferQueueProducer.Wf`
    * `ConsumerWf`
    * `bqCursor`
    * `bqReader`

  Key theorems include:
    * `confirmPointer_eq`
    * `moveInternal_idle`
    * `moveInternal_holding`
    * `consumerGet_eq`
-/

------------------------------------------------------------
-- The Queue As A Log
------------------------------------------------------------

namespace Feng

namespace BufferQueueProducer

/- The address of the head, or of the next node to come. -/
def firstPointer (producer : BufferQueueProducer) : Nat :=
  producer.nextPointer - producer.queue.length

/- The number of the head, or of the next buffer to come. -/
def firstSerial (producer : BufferQueueProducer) : Nat :=
  producer.nextSerial - producer.queue.length

/-
  Addresses and serial numbers run in step through the
  queue, up to the next ones to be given out.
-/
structure Wf (producer : BufferQueueProducer) : Prop where
  pointers :
    Consecutive BQElem.pointer producer.firstPointer
      producer.queue
  serials :
    Consecutive (fun elem => elem.data.seqNo)
      producer.firstSerial producer.queue
  pointerRoom : producer.queue.length ≤ producer.nextPointer
  serialRoom : producer.queue.length < producer.nextSerial
  serialBound : producer.nextSerial < 2 ^ 16
  running : producer.stopped = false

variable {producer : BufferQueueProducer}

theorem Wf.pointer_bounds
    (h : producer.Wf)
    {elem : BQElem}
    (hMem : elem ∈ producer.queue) :
    producer.firstPointer ≤ elem.pointer ∧
      elem.pointer < producer.nextPointer := by
  have hBounds := h.pointers.bounds hMem
  have hRoom := h.pointerRoom
  unfold firstPointer at hBounds ⊢
  omega

theorem Wf.exists_elem
    (h : producer.Wf)
    {pointer : Nat}
    (hLow : producer.firstPointer ≤ pointer)
    (hHigh : pointer < producer.nextPointer) :
    ∃ elem ∈ producer.queue, elem.pointer = pointer := by
  refine h.pointers.exists_of_bounds hLow ?_
  have hRoom := h.pointerRoom
  unfold firstPointer at hLow ⊢
  omega

theorem Wf.nodesFrom_eq
    (h : producer.Wf)
    {pointer : Nat}
    (hLow : producer.firstPointer ≤ pointer) :
    producer.nodesFrom pointer =
      producer.queue.drop (pointer - producer.firstPointer) :=
  h.pointers.dropWhile_ne hLow

/- What follows a queued node, and the numbers it carries. -/
theorem Wf.nodesFrom_of_mem
    (h : producer.Wf)
    {elem : BQElem}
    (hMem : elem ∈ producer.queue) :
    ∃ rest, producer.nodesFrom elem.pointer = elem :: rest ∧
      rest.head?.map BQElem.pointer =
        (if elem.pointer + 1 < producer.nextPointer then
          some (elem.pointer + 1)
        else
          none) ∧
      elem.data.seqNo + producer.nextPointer =
        elem.pointer + producer.nextSerial := by
  have hBounds := h.pointer_bounds hMem
  have hPointerRoom := h.pointerRoom
  have hSerialRoom := h.serialRoom
  rcases List.mem_iff_getElem.mp hMem with ⟨i, hi, hElem⟩
  have hDrop := List.drop_eq_getElem_cons hi
  rw [hElem] at hDrop
  have hPointers := h.pointers.drop i
  have hSerials := h.serials.drop i
  rw [hDrop] at hPointers hSerials
  have hPointer := hPointers.1
  have hSerial := hSerials.1
  have hIndex : elem.pointer - producer.firstPointer = i := by
    omega
  refine ⟨producer.queue.drop (i + 1), ?_, ?_, ?_⟩
  · rw [h.nodesFrom_eq hBounds.1, hIndex, hDrop]
  · rw [h.pointers.head?_drop (i + 1)]
    unfold firstPointer at hPointer ⊢
    by_cases hMore : i + 1 < producer.queue.length
    · have hNext : elem.pointer + 1 < producer.nextPointer := by
        omega
      simp only [hMore, hNext, if_true, Option.some.injEq]
      omega
    · have hNext :
          ¬ elem.pointer + 1 < producer.nextPointer := by
        omega
      simp only [hMore, hNext, if_false]
  · unfold firstPointer at hPointer
    unfold firstSerial at hSerial
    simp only at hSerial
    omega

theorem Wf.elemAt_of_mem
    (h : producer.Wf)
    {elem : BQElem}
    (hMem : elem ∈ producer.queue) :
    producer.elemAt elem.pointer = .ok elem.data := by
  rcases h.nodesFrom_of_mem hMem with ⟨rest, hNodes, _⟩
  simp [elemAt, hNodes]

theorem Wf.next_of_mem
    (h : producer.Wf)
    {elem : BQElem}
    (hMem : elem ∈ producer.queue) :
    producer.next elem.pointer =
      .ok (if elem.pointer + 1 < producer.nextPointer then
        some (elem.pointer + 1)
      else
        none) := by
  rcases h.nodesFrom_of_mem hMem with
    ⟨rest, hNodes, hHead, _⟩
  simp [next, hNodes, hHead]

theorem Wf.seqNo_of_mem
    (h : producer.Wf)
    {elem : BQElem}
    (hMem : elem ∈ producer.queue) :
    elem.data.seqNo + producer.nextPointer =
      elem.pointer + producer.nextSerial := by
  rcases h.nodesFrom_of_mem hMem with ⟨rest, _, _, hSeq⟩
  exact hSeq

theorem Wf.eq_of_pointer
    (h : producer.Wf)
    {elem other : BQElem}
    (hMem : elem ∈ producer.queue)
    (hOther : other ∈ producer.queue)
    (hPointer : elem.pointer = other.pointer) :
    elem = other := by
  rcases h.nodesFrom_of_mem hMem with ⟨rest, hNodes, _⟩
  rcases h.nodesFrom_of_mem hOther with ⟨more, hMore, _⟩
  rw [hPointer, hMore] at hNodes
  exact (List.cons.inj hNodes).1.symm

theorem Wf.head?_pointer
    (h : producer.Wf) :
    producer.queue.head?.map BQElem.pointer =
      if producer.firstPointer < producer.nextPointer then
        some producer.firstPointer
      else
        none := by
  have hRoom := h.pointerRoom
  have hHead := h.pointers.head?_drop 0
  rw [List.drop_zero] at hHead
  rw [hHead]
  unfold firstPointer
  by_cases hMore : 0 < producer.queue.length
  · have hLess :
        producer.nextPointer - producer.queue.length <
          producer.nextPointer := by
      omega
    simp [hMore, hLess]
  · have hNot :
        ¬ producer.nextPointer - producer.queue.length <
          producer.nextPointer := by
      omega
    simp only [hMore, hNot, if_false]

theorem Wf.queue_ne_nil_iff
    (h : producer.Wf) :
    producer.queue ≠ [] ↔
      producer.firstPointer < producer.nextPointer := by
  have hRoom := h.pointerRoom
  have hLength := List.length_pos_iff (l := producer.queue)
  unfold firstPointer
  rw [← hLength]
  omega

end BufferQueueProducer

end Feng

------------------------------------------------------------
-- Changes Of The Queue
------------------------------------------------------------

namespace Feng

theorem gulongIncrement_of_ne_zero
    {n : Nat}
    (hNe : gulongIncrement n ≠ 0) :
    gulongIncrement n = n + 1 := by
  unfold gulongIncrement at hNe ⊢
  split at hNe
  · exact absurd rfl hNe
  · rename_i hRoom
    rw [if_neg hRoom]

theorem gulongIncrement_of_lt
    {n : Nat}
    (hBound : n < gMaxULong) :
    gulongIncrement n = n + 1 :=
  if_neg (Nat.ne_of_lt hBound)

theorem gulongDecrement_of_pos
    {n : Nat}
    (hPos : 0 < n) :
    gulongDecrement n = n - 1 :=
  if_neg (Nat.ne_of_gt hPos)

namespace BufferQueueProducer

variable {producer : BufferQueueProducer}

/- `queue` with `seen` written at one address. -/
theorem setSeen_queue
    (producer : BufferQueueProducer)
    (pointer seen : Nat) :
    (producer.setSeen pointer seen).queue =
      producer.queue.map (fun elem =>
        if elem.pointer = pointer then
          { elem with data := { elem.data with seen := seen } }
        else
          elem) :=
  rfl

@[simp] theorem setSeen_length
    (pointer seen : Nat) :
    (producer.setSeen pointer seen).queue.length =
      producer.queue.length := by
  simp [setSeen]

@[simp] theorem setSeen_firstPointer
    (pointer seen : Nat) :
    (producer.setSeen pointer seen).firstPointer =
      producer.firstPointer := by
  simp only [firstPointer, setSeen_length]
  rfl

@[simp] theorem setSeen_firstSerial
    (pointer seen : Nat) :
    (producer.setSeen pointer seen).firstSerial =
      producer.firstSerial := by
  simp only [firstSerial, setSeen_length]
  rfl

theorem Wf.mapData
    (h : producer.Wf)
    {g : BQElem → BQElem}
    (hPointer : ∀ elem, (g elem).pointer = elem.pointer)
    (hSeqNo :
      ∀ elem, (g elem).data.seqNo = elem.data.seqNo) :
    Wf { producer with queue := producer.queue.map g } where
  pointers := by
    simpa [firstPointer] using h.pointers.map hPointer
  serials := by
    simpa [firstSerial] using h.serials.map hSeqNo
  pointerRoom := by simpa using h.pointerRoom
  serialRoom := by simpa using h.serialRoom
  serialBound := h.serialBound
  running := h.running

theorem Wf.setSeen
    (h : producer.Wf)
    (pointer seen : Nat) :
    (producer.setSeen pointer seen).Wf := by
  refine h.mapData ?_ ?_
  · intro elem
    split <;> rfl
  · intro elem
    split <;> rfl

variable {elem : BQElem} {rest : List BQElem}

theorem popHead_eq
    (hQueue : producer.queue = elem :: rest) :
    producer.popHead =
      if rest = [] then
        { producer with
          queue := []
          queueSerial := gulongIncrement producer.queueSerial
          nextSerial := 1 }
      else
        { producer with queue := rest } := by
  unfold popHead
  cases rest with
  | nil =>
      simp [hQueue]
  | cons next rest =>
      simp [hQueue]

theorem popHead_queue
    (hQueue : producer.queue = elem :: rest) :
    producer.popHead.queue = rest := by
  rw [popHead_eq hQueue]
  by_cases hRest : rest = []
  · simp [hRest]
  · simp [hRest]

@[simp] theorem popHead_nextPointer
    (producer : BufferQueueProducer) :
    producer.popHead.nextPointer = producer.nextPointer := by
  simp only [popHead]
  split <;> rfl

@[simp] theorem popHead_consumers
    (producer : BufferQueueProducer) :
    producer.popHead.consumers = producer.consumers := by
  simp only [popHead]
  split <;> rfl

theorem Wf.popHead_firstPointer
    (h : producer.Wf)
    (hQueue : producer.queue = elem :: rest) :
    producer.popHead.firstPointer =
      producer.firstPointer + 1 := by
  have hRoom := h.pointerRoom
  simp only [firstPointer, popHead_nextPointer,
    popHead_queue hQueue]
  rw [hQueue] at hRoom ⊢
  simp only [List.length_cons] at hRoom ⊢
  omega

theorem Wf.popHead
    (h : producer.Wf)
    (hQueue : producer.queue = elem :: rest) :
    producer.popHead.Wf := by
  have hFirst := h.popHead_firstPointer hQueue
  have hPointers := h.pointers
  have hSerials := h.serials
  have hSerialRoom := h.serialRoom
  have hPointerRoom := h.pointerRoom
  rw [hQueue] at hPointers hSerials hSerialRoom
  rw [hQueue] at hPointerRoom
  simp only [List.length_cons] at hSerialRoom hPointerRoom
  refine
    { pointers := ?_, serials := ?_, pointerRoom := ?_,
      serialRoom := ?_, serialBound := ?_, running := ?_ }
  · rw [popHead_queue hQueue, hFirst]
    exact hPointers.2
  · rw [popHead_queue hQueue]
    cases rest with
    | nil =>
        simp
    | cons next rest =>
        have hSerial :
            producer.popHead.firstSerial =
              producer.firstSerial + 1 := by
          simp only [firstSerial, popHead_eq hQueue, hQueue,
            List.length_cons]
          simp
          simp at hSerialRoom
          omega
        rw [hSerial]
        exact hSerials.2
  · rw [popHead_queue hQueue, popHead_nextPointer]
    omega
  · rw [popHead_eq hQueue]
    cases rest with
    | nil => simp
    | cons next rest =>
        simp at hSerialRoom ⊢
        omega
  · rw [popHead_eq hQueue]
    split
    · simp
    · exact h.serialBound
  · rw [popHead_eq hQueue]
    split
    · exact h.running
    · exact h.running

end BufferQueueProducer

end Feng

------------------------------------------------------------
-- Putting Buffers
------------------------------------------------------------

namespace Feng

/- A buffer, as `bq_producer_put` stores it. -/
def queuedElem
    (producer : BufferQueueProducer)
    (elem : MParserBuffer) : BQElem where
  pointer := producer.nextPointer
  data :=
    { elem with seen := 0, seqNo := producer.nextSerial }

/- The producer once a buffer was put that it numbered. -/
def BufferQueueProducer.enqueue
    (producer : BufferQueueProducer)
    (elem : MParserBuffer) : BufferQueueProducer :=
  { producer with
    nextSerial := producer.nextSerial + 1
    queue := producer.queue ++ [queuedElem producer elem]
    nextPointer := producer.nextPointer + 1 }

/- What a put does, and when it aborts. -/
theorem producerPut_eq
    {producer : BufferQueueProducer}
    (hRunning : producer.stopped = false)
    (hBound : producer.nextSerial < 2 ^ 16)
    {elem : MParserBuffer}
    (hSeqNo : elem.seqNo = 0) :
    bqProducerPut producer elem =
      if producer.nextSerial = 2 ^ 16 - 1 then
        .error .nextSerialZero
      else
        .ok (producer.enqueue elem) := by
  by_cases hWrap : producer.nextSerial = 2 ^ 16 - 1
  · have hZero : nextUInt16 producer.nextSerial = 0 := by
      simp [nextUInt16, hWrap]
    rw [if_pos hWrap]
    simp [bqProducerPut, hRunning, hSeqNo, hZero]
  · have hNext :
        nextUInt16 producer.nextSerial =
          producer.nextSerial + 1 := by
      unfold nextUInt16
      omega
    rw [if_neg hWrap]
    simp [bqProducerPut, hRunning, hSeqNo, hNext, queuedElem,
      BufferQueueProducer.enqueue]

end Feng

------------------------------------------------------------
-- Consumers As Readers
------------------------------------------------------------

namespace Feng

variable {producer : BufferQueueProducer}
variable {consumer : BufferQueueConsumer}

/- The consumer has its place in the queue as it is now. -/
def bqAttached
    (producer : BufferQueueProducer)
    (consumer : BufferQueueConsumer) : Bool :=
  consumer.queueSerial = producer.queueSerial

/- Its pointer survives `bqConsumerConfirmPointer`. -/
def bqHolding
    (producer : BufferQueueProducer)
    (consumer : BufferQueueConsumer) : Bool :=
  bqAttached producer consumer &&
    consumer.currentElementPointer.isSome

/- The address of the first buffer it has not moved past. -/
def bqCursor
    (producer : BufferQueueProducer)
    (consumer : BufferQueueConsumer) : Nat :=
  if bqAttached producer consumer then
    match consumer.currentElementPointer with
    | some pointer => pointer
    | none =>
        consumer.lastElementSerial + 1 +
          producer.nextPointer - producer.nextSerial
  else
    producer.firstPointer

def bqReader
    (producer : BufferQueueProducer)
    (consumer : BufferQueueConsumer) : Reader where
  first := producer.firstPointer
  next := producer.nextPointer
  cursor := bqCursor producer consumer
  holding := bqHolding producer consumer

/-
  Where a consumer can stand: left behind by a queue that is
  no longer the current one, behind the last buffer it moved
  past, or on a buffer.
-/
inductive ConsumerWf
    (producer : BufferQueueProducer)
    (consumer : BufferQueueConsumer) : Prop where
| detached :
    consumer.queueSerial < producer.queueSerial →
      ConsumerWf producer consumer
| behind :
    consumer.queueSerial = producer.queueSerial →
      consumer.currentElementPointer = none →
      producer.queue ≠ [] →
      producer.firstSerial ≤
        consumer.lastElementSerial + 1 →
      consumer.lastElementSerial < producer.nextSerial →
      ConsumerWf producer consumer
| on (pointer : Nat) :
    consumer.queueSerial = producer.queueSerial →
      consumer.currentElementPointer = some pointer →
      producer.firstPointer ≤ pointer →
      pointer < producer.nextPointer →
      consumer.lastElementSerial + producer.nextPointer =
        pointer + producer.nextSerial →
      ConsumerWf producer consumer

theorem bqReader_detached
    (hSerial :
      consumer.queueSerial ≠ producer.queueSerial) :
    bqReader producer consumer =
      { first := producer.firstPointer
        next := producer.nextPointer
        cursor := producer.firstPointer
        holding := false } := by
  simp [bqReader, bqCursor, bqHolding, bqAttached, hSerial]

theorem bqReader_behind
    (hSerial :
      consumer.queueSerial = producer.queueSerial)
    (hPointer : consumer.currentElementPointer = none) :
    bqReader producer consumer =
      { first := producer.firstPointer
        next := producer.nextPointer
        cursor :=
          consumer.lastElementSerial + 1 +
            producer.nextPointer - producer.nextSerial
        holding := false } := by
  simp [bqReader, bqCursor, bqHolding, bqAttached, hSerial,
    hPointer]

theorem bqReader_at
    {pointer : Nat}
    (hSerial :
      consumer.queueSerial = producer.queueSerial)
    (hPointer :
      consumer.currentElementPointer = some pointer) :
    bqReader producer consumer =
      { first := producer.firstPointer
        next := producer.nextPointer
        cursor := pointer
        holding := true } := by
  simp [bqReader, bqCursor, bqHolding, bqAttached, hSerial,
    hPointer]

theorem ConsumerWf.valid
    (hProducer : producer.Wf)
    (h : ConsumerWf producer consumer) :
    (bqReader producer consumer).Valid := by
  have hPointerRoom := hProducer.pointerRoom
  have hSerialRoom := hProducer.serialRoom
  cases h with
  | detached hSerial =>
      rw [bqReader_detached (Nat.ne_of_lt hSerial)]
      exact ⟨Nat.le_refl _, Nat.sub_le _ _, by simp⟩
  | behind hSerial hPointer hQueue hLow hHigh =>
      rw [bqReader_behind hSerial hPointer]
      unfold BufferQueueProducer.firstSerial at hLow
      unfold BufferQueueProducer.firstPointer
      exact ⟨by simp only; omega, by simp only; omega,
        by simp⟩
  | on pointer hSerial hPointer hLow hHigh hLast =>
      rw [bqReader_at hSerial hPointer]
      exact ⟨hLow, Nat.le_of_lt hHigh, fun _ => hHigh⟩

/- A pointer is dropped unless the consumer is holding. -/
theorem confirmPointer_eq
    (hProducer : producer.Wf)
    (h : ConsumerWf producer consumer) :
    bqConsumerConfirmPointer producer consumer =
      if bqHolding producer consumer then
        consumer
      else
        { consumer with currentElementPointer := none } := by
  cases h with
  | detached hSerial =>
      have hNe : consumer.queueSerial ≠ producer.queueSerial :=
        Nat.ne_of_lt hSerial
      cases hPointer : consumer.currentElementPointer with
      | none =>
          cases consumer
          simp_all [bqConsumerConfirmPointer, bqHolding]
      | some pointer =>
          simp [bqConsumerConfirmPointer, bqHolding,
            bqAttached, hPointer, hNe, hNe.symm]
  | behind hSerial hPointer hQueue hLow hHigh =>
      cases consumer
      simp_all [bqConsumerConfirmPointer, bqHolding]
  | on pointer hSerial hPointer hLow hHigh hLast =>
      have hHead : ∀ head rest,
          producer.queue = head :: rest →
            ¬ consumer.lastElementSerial <
              head.data.seqNo := by
        intro head rest hQueue
        have hSerials := hProducer.serials
        have hPointerRoom := hProducer.pointerRoom
        have hSerialRoom := hProducer.serialRoom
        rw [hQueue] at hSerials
        have hFirst := hSerials.1
        simp only [BufferQueueProducer.firstSerial] at hFirst
        unfold BufferQueueProducer.firstPointer at hLow
        omega
      cases hQueue : producer.queue with
      | nil =>
          simp [bqConsumerConfirmPointer, bqHolding,
            bqAttached, hPointer, hSerial, hQueue]
      | cons head rest =>
          have hNot := hHead head rest hQueue
          simp [bqConsumerConfirmPointer, bqHolding,
            bqAttached, hPointer, hSerial, hQueue, hNot]

end Feng

------------------------------------------------------------
-- Finding The Next Buffer
------------------------------------------------------------

namespace Feng

variable {producer : BufferQueueProducer}
variable {consumer : BufferQueueConsumer}

/- A consumer whose pointer is on a queued buffer is there. -/
theorem moveSerials_at
    (consumer : BufferQueueConsumer)
    (hProducer : producer.Wf)
    {pointer : Nat}
    (hPointer :
      consumer.currentElementPointer = some pointer)
    (hLow : producer.firstPointer ≤ pointer)
    (hHigh : pointer < producer.nextPointer) :
    ∃ settled,
      bqConsumerMoveSerials producer consumer =
          .ok (settled, true) ∧
        settled.currentElementPointer = some pointer ∧
        ConsumerWf producer settled ∧
        bqReader producer settled =
          { first := producer.firstPointer
            next := producer.nextPointer
            cursor := pointer
            holding := true } := by
  rcases hProducer.exists_elem hLow hHigh with
    ⟨elem, hMem, hElem⟩
  have hAt := hProducer.elemAt_of_mem hMem
  have hSeqNo := hProducer.seqNo_of_mem hMem
  rw [hElem] at hAt hSeqNo
  let settled : BufferQueueConsumer :=
    { consumer with
      lastElementSerial := elem.data.seqNo
      queueSerial := producer.queueSerial }
  refine ⟨settled, ?_, hPointer, ?_, ?_⟩
  · simp [bqConsumerMoveSerials, hPointer, hAt, bind,
      Except.bind, settled]
  · exact ConsumerWf.on pointer rfl hPointer hLow hHigh
      hSeqNo
  · exact bqReader_at rfl hPointer

theorem moveSerials_none
    (hPointer : consumer.currentElementPointer = none) :
    bqConsumerMoveSerials producer consumer =
      .ok (consumer, false) := by
  simp [bqConsumerMoveSerials, hPointer]

/-
  A consumer that holds no buffer goes to its cursor, and
  holds the buffer there if one is queued.
-/
theorem movePointer_idle
    (hProducer : producer.Wf)
    (h : ConsumerWf producer consumer)
    (hIdle : bqHolding producer consumer = false) :
    bqConsumerMovePointer producer
        (bqConsumerConfirmPointer producer consumer) =
      .ok (producer,
        { consumer with
          currentElementPointer :=
            (bqReader producer consumer).result }) := by
  have hPointerRoom := hProducer.pointerRoom
  have hSerialRoom := hProducer.serialRoom
  rw [confirmPointer_eq hProducer h, hIdle]
  cases h with
  | detached hSerial =>
      have hNe := Nat.ne_of_lt hSerial
      rw [bqReader_detached hNe]
      simp [bqConsumerMovePointer, hNe, Reader.result,
        hProducer.head?_pointer]
  | behind hSerial hPointer hQueue hLow hHigh =>
      have hSkip :=
        hProducer.serials.dropWhile_le hLow
      have hHead := hProducer.pointers.head?_drop
        (consumer.lastElementSerial + 1 -
          producer.firstSerial)
      rw [bqReader_behind hSerial hPointer]
      simp only [bqConsumerMovePointer, hSerial, ne_eq,
        not_true_eq_false, if_false, hSkip, hHead,
        Reader.result, Bool.false_eq_true]
      unfold BufferQueueProducer.firstSerial at hLow ⊢
      unfold BufferQueueProducer.firstPointer
      by_cases hMore :
          consumer.lastElementSerial + 1 -
              (producer.nextSerial - producer.queue.length) <
            producer.queue.length
      · have hNext :
            consumer.lastElementSerial + 1 +
                producer.nextPointer - producer.nextSerial <
              producer.nextPointer := by
          omega
        have hSame :
            producer.nextPointer - producer.queue.length +
                (consumer.lastElementSerial + 1 -
                  (producer.nextSerial -
                    producer.queue.length)) =
              consumer.lastElementSerial + 1 +
                producer.nextPointer -
                  producer.nextSerial := by
          omega
        simp [hMore, hNext, hSame]
      · have hNext :
            ¬ consumer.lastElementSerial + 1 +
                producer.nextPointer - producer.nextSerial <
              producer.nextPointer := by
          omega
        simp [hMore, hNext]
  | on pointer hSerial hPointer hLow hHigh hLast =>
      simp [bqHolding, bqAttached, hSerial, hPointer]
        at hIdle

theorem ConsumerWf.dropPointer
    (h : ConsumerWf producer consumer)
    (hIdle : bqHolding producer consumer = false) :
    ConsumerWf producer
        { consumer with currentElementPointer := none } ∧
      bqReader producer
          { consumer with currentElementPointer := none } =
        bqReader producer consumer := by
  cases h with
  | detached hSerial =>
      have hNe := Nat.ne_of_lt hSerial
      refine ⟨.detached hSerial, ?_⟩
      have hDropped : bqReader producer
          { consumer with currentElementPointer := none } =
            _ :=
        bqReader_detached hNe
      exact hDropped.trans (bqReader_detached hNe).symm
  | behind hSerial hPointer hQueue hLow hHigh =>
      refine ⟨.behind hSerial rfl hQueue hLow hHigh, ?_⟩
      have hDropped : bqReader producer
          { consumer with currentElementPointer := none } =
            _ :=
        bqReader_behind hSerial rfl
      exact hDropped.trans
        (bqReader_behind hSerial hPointer).symm
  | on pointer hSerial hPointer hLow hHigh hLast =>
      simp [bqHolding, bqAttached, hSerial, hPointer]
        at hIdle

theorem moveInternal_idle
    (hProducer : producer.Wf)
    (h : ConsumerWf producer consumer)
    (hIdle : bqHolding producer consumer = false) :
    ∃ moved,
      bqConsumerMoveInternal producer consumer =
          .ok (producer, moved,
            (bqReader producer consumer).hold.holding) ∧
        moved.currentElementPointer =
          (bqReader producer consumer).result ∧
        ConsumerWf producer moved ∧
        bqReader producer moved =
          (bqReader producer consumer).hold := by
  have hValid := h.valid hProducer
  have hPointer := movePointer_idle hProducer h hIdle
  by_cases hMore :
      (bqReader producer consumer).cursor <
        producer.nextPointer
  · have hResult :
        (bqReader producer consumer).result =
          some (bqReader producer consumer).cursor := by
      exact if_pos hMore
    rcases moveSerials_at
        { consumer with
          currentElementPointer :=
            (bqReader producer consumer).result }
        hProducer hResult hValid.low hMore with
      ⟨moved, hMoved, hKept, hWf, hReader⟩
    refine ⟨moved, ?_, hKept.trans hResult.symm, hWf, ?_⟩
    · have hHolding :
          (bqReader producer consumer).hold.holding = true :=
        decide_eq_true hMore
      rw [hHolding]
      simp [bqConsumerMoveInternal, hPointer, hMoved, bind,
        Except.bind]
    · rw [hReader]
      have hHolding :
          (bqReader producer consumer).hold.holding = true :=
        decide_eq_true hMore
      simp only [Reader.hold] at hHolding ⊢
      rw [hHolding]
      rfl
  · have hResult :
        (bqReader producer consumer).result = none :=
      if_neg hMore
    have hHolding :
        (bqReader producer consumer).hold.holding = false :=
      decide_eq_false hMore
    have hDrop := h.dropPointer hIdle
    refine ⟨_, ?_, hResult.symm, hDrop.1, ?_⟩
    · rw [hHolding]
      simp [bqConsumerMoveInternal, hPointer, hResult,
        moveSerials_none, bind, Except.bind]
    · rw [hDrop.2]
      have hSame :
          (bqReader producer consumer).holding = false :=
        hIdle
      simp only [Reader.hold] at hHolding ⊢
      rw [hHolding, ← hSame]

end Feng

------------------------------------------------------------
-- Leaving A Buffer Behind
------------------------------------------------------------

namespace Feng

variable {producer : BufferQueueProducer}
variable {consumer : BufferQueueConsumer}
variable {elem : BQElem} {rest : List BQElem}

/- The queue once one more consumer has seen a buffer. -/
def BufferQueueProducer.unref
    (producer : BufferQueueProducer)
    (elem : BQElem) : BufferQueueProducer :=
  let seen := elem.data.seen + 1
  if seen < producer.consumers then
    producer.setSeen elem.pointer seen
  else
    (producer.setSeen elem.pointer seen).popHead

/- The assertions met when a buffer is left behind. -/
structure Unrefable
    (producer : BufferQueueProducer)
    (elem : BQElem) : Prop where
  mem : elem ∈ producer.queue
  unseen : elem.data.seen < producer.consumers
  bound : producer.consumers ≤ gMaxULong
  head :
    elem.data.seen + 1 = producer.consumers →
      elem.pointer = producer.firstPointer

theorem setSeen_elemAt
    (hProducer : producer.Wf)
    (hMem : elem ∈ producer.queue)
    (seen : Nat) :
    (producer.setSeen elem.pointer seen).elemAt
        elem.pointer =
      .ok { elem.data with seen := seen } := by
  have hChanged :
      { elem with data := { elem.data with seen := seen } } ∈
        (producer.setSeen elem.pointer seen).queue := by
    refine List.mem_map.mpr ⟨elem, hMem, ?_⟩
    simp
  exact (hProducer.setSeen elem.pointer seen).elemAt_of_mem
    hChanged

theorem Unrefable.queue_eq
    (hProducer : producer.Wf)
    (h : Unrefable producer elem)
    (hLast : elem.data.seen + 1 = producer.consumers) :
    ∃ rest, producer.queue = elem :: rest := by
  have hHead := h.head hLast
  have hPointers := hProducer.pointers
  cases hQueue : producer.queue with
  | nil =>
      have hMem := h.mem
      rw [hQueue] at hMem
      cases hMem
  | cons first rest =>
      rw [hQueue] at hPointers
      have hFirst : first ∈ producer.queue := by
        simp [hQueue]
      have hSame := hProducer.eq_of_pointer hFirst h.mem
        (hPointers.1.trans hHead.symm)
      exact ⟨rest, by rw [hSame]⟩

/- Neither assertion on `seen` nor the one on the head fails. -/
theorem elemUnref_eq
    (hProducer : producer.Wf)
    (hConfirm :
      bqConsumerConfirmPointer producer consumer = consumer)
    (hPointer :
      consumer.currentElementPointer = some elem.pointer)
    (h : Unrefable producer elem) :
    bqConsumerElemUnref producer consumer =
      .ok (producer.unref elem,
        { consumer with currentElementPointer := none }) := by
  have hAt := hProducer.elemAt_of_mem h.mem
  have hUnseen := h.unseen
  have hBound := h.bound
  have hNe : elem.data.seen ≠ producer.consumers :=
    Nat.ne_of_lt hUnseen
  have hIncrement :
      gulongIncrement elem.data.seen =
        elem.data.seen + 1 := by
    exact gulongIncrement_of_lt
      (Nat.lt_of_lt_of_le hUnseen hBound)
  by_cases hMore :
      elem.data.seen + 1 < producer.consumers
  · have hUnref :
        producer.unref elem =
          producer.setSeen elem.pointer
            (elem.data.seen + 1) := by
      simp only [BufferQueueProducer.unref, if_pos hMore]
    have hKept :
        elem.data.seen + 1 <
          (producer.setSeen elem.pointer
            (elem.data.seen + 1)).consumers :=
      hMore
    simp [bqConsumerElemUnref, hConfirm, hPointer, hAt, hNe,
      hIncrement, hKept, hUnref, bind, Except.bind]
  · have hLast :
        elem.data.seen + 1 = producer.consumers := by
      omega
    have hUnref :
        producer.unref elem =
          (producer.setSeen elem.pointer
            (elem.data.seen + 1)).popHead := by
      simp only [BufferQueueProducer.unref, if_neg hMore]
    have hKept :
        ¬ elem.data.seen + 1 <
          (producer.setSeen elem.pointer
            (elem.data.seen + 1)).consumers :=
      hMore
    have hSeen :=
      setSeen_elemAt hProducer h.mem (elem.data.seen + 1)
    have hHead :
        (producer.setSeen elem.pointer
            (elem.data.seen + 1)).queue.head?.map
              BQElem.pointer =
          some elem.pointer := by
      rcases h.queue_eq hProducer hLast with ⟨rest, hQueue⟩
      simp [BufferQueueProducer.setSeen, hQueue]
    have hCount :
        elem.data.seen + 1 =
          (producer.setSeen elem.pointer
            (elem.data.seen + 1)).consumers :=
      hLast
    have hDestroy :
        bqProducerDestroyHead
            (producer.setSeen elem.pointer
              (elem.data.seen + 1)) elem.pointer =
          .ok (producer.setSeen elem.pointer
            (elem.data.seen + 1)).popHead := by
      simp [bqProducerDestroyHead, hSeen, hHead, ← hCount,
        bind, Except.bind]
    simp [bqConsumerElemUnref, hConfirm, hPointer, hAt, hNe,
      hIncrement, hKept, hDestroy, hUnref, bind, Except.bind]

/- What `unref` leaves of the queue, as a log. -/
theorem Unrefable.unref
    (hProducer : producer.Wf)
    (h : Unrefable producer elem) :
    (producer.unref elem).Wf ∧
      (producer.unref elem).nextPointer =
        producer.nextPointer ∧
      (producer.unref elem).firstPointer =
        if elem.data.seen + 1 = producer.consumers then
          producer.firstPointer + 1
        else
          producer.firstPointer := by
  have hUnseen := h.unseen
  have hSeen := hProducer.setSeen elem.pointer
    (elem.data.seen + 1)
  by_cases hLast : elem.data.seen + 1 = producer.consumers
  · have hNot :
        ¬ elem.data.seen + 1 < producer.consumers := by
      omega
    rcases h.queue_eq hProducer hLast with ⟨rest, hQueue⟩
    have hChanged :=
      BufferQueueProducer.setSeen_queue producer
        elem.pointer (elem.data.seen + 1)
    rw [hQueue, List.map_cons] at hChanged
    simp only [BufferQueueProducer.unref, if_neg hNot,
      if_pos hLast, BufferQueueProducer.popHead_nextPointer,
      hSeen.popHead_firstPointer hChanged,
      BufferQueueProducer.setSeen_firstPointer]
    exact ⟨hSeen.popHead hChanged, rfl, trivial⟩
  · have hMore :
        elem.data.seen + 1 < producer.consumers := by
      omega
    simp only [BufferQueueProducer.unref, if_pos hMore,
      if_neg hLast, BufferQueueProducer.setSeen_firstPointer]
    exact ⟨hSeen, rfl, trivial⟩

/- The buffers left, and how often they have been seen. -/
theorem BufferQueueProducer.mem_unref
    {other : BQElem}
    (hMem : other ∈ (producer.unref elem).queue) :
    ∃ old ∈ producer.queue,
      other.pointer = old.pointer ∧
        other.data.seen =
          if old.pointer = elem.pointer then
            elem.data.seen + 1
          else
            old.data.seen := by
  have hChanged :
      other ∈
        (producer.setSeen elem.pointer
          (elem.data.seen + 1)).queue := by
    unfold BufferQueueProducer.unref at hMem
    simp only at hMem
    split at hMem
    · exact hMem
    · unfold BufferQueueProducer.popHead at hMem
      simp only at hMem
      split at hMem
      · exact List.mem_of_mem_tail hMem
      · exact List.mem_of_mem_tail hMem
  rcases List.mem_map.mp hChanged with ⟨old, hOld, hEq⟩
  refine ⟨old, hOld, ?_⟩
  rw [← hEq]
  split
  · exact ⟨rfl, rfl⟩
  · exact ⟨rfl, rfl⟩

@[simp] theorem BufferQueueProducer.unref_consumers
    (producer : BufferQueueProducer)
    (elem : BQElem) :
    (producer.unref elem).consumers =
      producer.consumers := by
  simp only [BufferQueueProducer.unref]
  split
  · rfl
  · exact BufferQueueProducer.popHead_consumers _

theorem ConsumerWf.mapData
    {g : BQElem → BQElem}
    (h : ConsumerWf producer consumer) :
    ConsumerWf
      { producer with queue := producer.queue.map g }
      consumer := by
  have hSerial :
      BufferQueueProducer.firstSerial
          { producer with queue := producer.queue.map g } =
        producer.firstSerial := by
    simp [BufferQueueProducer.firstSerial]
  have hFirst :
      BufferQueueProducer.firstPointer
          { producer with queue := producer.queue.map g } =
        producer.firstPointer := by
    simp [BufferQueueProducer.firstPointer]
  cases h with
  | detached hGeneration =>
      exact .detached hGeneration
  | behind hGeneration hPointer hQueue hLow hHigh =>
      exact .behind hGeneration hPointer (by simpa using hQueue)
        (hSerial ▸ hLow) hHigh
  | on pointer hGeneration hPointer hLow hHigh hLast =>
      exact .on pointer hGeneration hPointer (hFirst ▸ hLow)
        hHigh hLast

theorem bqReader_mapData
    {g : BQElem → BQElem} :
    bqReader
        { producer with queue := producer.queue.map g }
        consumer =
      bqReader producer consumer := by
  have hFirst :
      BufferQueueProducer.firstPointer
          { producer with queue := producer.queue.map g } =
        producer.firstPointer := by
    simp [BufferQueueProducer.firstPointer]
  simp only [bqReader, bqCursor, hFirst]
  rfl

/- Destroying the head is nothing to those who are past it. -/
theorem ConsumerWf.popHead
    (hProducer : producer.Wf)
    (hQueue : producer.queue = elem :: rest)
    (hGeneration : producer.popHead.queueSerial ≠ 0)
    (h : ConsumerWf producer consumer)
    (hPast :
      producer.firstPointer <
        (bqReader producer consumer).cursor) :
    ConsumerWf producer.popHead consumer ∧
      bqReader producer.popHead consumer =
        { bqReader producer consumer with
          first := producer.popHead.firstPointer } := by
  have hFirst := hProducer.popHead_firstPointer hQueue
  have hPointerRoom := hProducer.pointerRoom
  have hSerialRoom := hProducer.serialRoom
  have hLength : producer.queue.length = rest.length + 1 := by
    simp [hQueue]
  have hEq := BufferQueueProducer.popHead_eq hQueue
  cases rest with
  | nil =>
      -- whoever is past the only buffer is at the end
      have hSerial :
          producer.popHead.queueSerial =
            producer.queueSerial + 1 := by
        rw [hEq] at hGeneration ⊢
        exact gulongIncrement_of_ne_zero hGeneration
      have hValid := h.valid hProducer
      have hOlder :
          consumer.queueSerial <
            producer.popHead.queueSerial := by
        rw [hSerial]
        cases h with
        | detached h => omega
        | behind h => omega
        | on pointer h => omega
      refine ⟨.detached hOlder, ?_⟩
      rw [bqReader_detached (Nat.ne_of_lt hOlder)]
      have hHigh := hValid.high
      have hHeld := hValid.held
      have hNext :
          (bqReader producer consumer).next =
            producer.firstPointer + 1 := by
        simp only [bqReader]
        unfold BufferQueueProducer.firstPointer
        simp at hLength
        omega
      have hCursor :
          (bqReader producer consumer).cursor =
            producer.firstPointer + 1 := by
        omega
      have hIdle :
          (bqReader producer consumer).holding = false := by
        cases hHolding :
            (bqReader producer consumer).holding with
        | false => rfl
        | true =>
            have hLess := hHeld hHolding
            omega
      simp only [hFirst, hIdle, hCursor,
        BufferQueueProducer.popHead_nextPointer]
      rfl
  | cons next rest =>
      have hPop :
          producer.popHead =
            { producer with queue := next :: rest } := by
        rw [hEq]
        simp
      have hSerials :
          producer.popHead.firstSerial =
            producer.firstSerial + 1 := by
        simp only [BufferQueueProducer.firstSerial, hPop]
        simp only [List.length_cons] at hLength ⊢
        omega
      cases h with
      | detached hOlder =>
          rw [bqReader_detached (Nat.ne_of_lt hOlder)]
            at hPast
          exact absurd hPast (Nat.lt_irrefl _)
      | behind hSerial hPointer hNonempty hLow hHigh =>
          rw [bqReader_behind hSerial hPointer] at hPast ⊢
          have hSame :
              consumer.queueSerial =
                producer.popHead.queueSerial := by
            simp [hPop, hSerial]
          have hNotNil : producer.popHead.queue ≠ [] := by
            simp [hPop]
          have hNewHigh :
              consumer.lastElementSerial <
                producer.popHead.nextSerial := by
            simpa [hPop] using hHigh
          have hNewLow :
              producer.popHead.firstSerial ≤
                consumer.lastElementSerial + 1 := by
            rw [hSerials]
            unfold BufferQueueProducer.firstSerial
            unfold BufferQueueProducer.firstPointer at hPast
            simp only at hPast
            omega
          refine ⟨.behind hSame hPointer hNotNil hNewLow
            hNewHigh, ?_⟩
          rw [bqReader_behind hSame hPointer]
          simp [hPop]
      | on pointer hSerial hPointer hLow hHigh hLast =>
          rw [bqReader_at hSerial hPointer] at hPast ⊢
          have hSame :
              consumer.queueSerial =
                producer.popHead.queueSerial := by
            simp [hPop, hSerial]
          have hNewLow :
              producer.popHead.firstPointer ≤ pointer := by
            rw [hFirst]
            exact hPast
          refine ⟨.on pointer hSame hPointer hNewLow
            (by simpa using hHigh)
            (by simpa [hPop] using hLast), ?_⟩
          rw [bqReader_at hSame hPointer]
          simp

/-
  Neither is a buffer left behind, to those who are past it
  when nobody else has to see it.
-/
theorem ConsumerWf.unref
    (hProducer : producer.Wf)
    (hUnref : Unrefable producer elem)
    (hGeneration : (producer.unref elem).queueSerial ≠ 0)
    (h : ConsumerWf producer consumer)
    (hPast :
      elem.data.seen + 1 = producer.consumers →
        producer.firstPointer <
          (bqReader producer consumer).cursor) :
    ConsumerWf (producer.unref elem) consumer ∧
      bqReader (producer.unref elem) consumer =
        { bqReader producer consumer with
          first := (producer.unref elem).firstPointer } := by
  have hUnseen := hUnref.unseen
  have hSeen := hProducer.setSeen elem.pointer
    (elem.data.seen + 1)
  have hConsumer :
      ConsumerWf
        (producer.setSeen elem.pointer (elem.data.seen + 1))
        consumer :=
    h.mapData
  have hReader :
      bqReader
          (producer.setSeen elem.pointer
            (elem.data.seen + 1)) consumer =
        bqReader producer consumer :=
    bqReader_mapData
  by_cases hLast : elem.data.seen + 1 = producer.consumers
  · have hNot :
        ¬ elem.data.seen + 1 < producer.consumers := by
      omega
    have hPop :
        producer.unref elem =
          (producer.setSeen elem.pointer
            (elem.data.seen + 1)).popHead := by
      simp only [BufferQueueProducer.unref, if_neg hNot]
    rcases hUnref.queue_eq hProducer hLast with
      ⟨rest, hQueue⟩
    have hChanged :=
      BufferQueueProducer.setSeen_queue producer
        elem.pointer (elem.data.seen + 1)
    rw [hQueue, List.map_cons] at hChanged
    rw [hPop] at hGeneration ⊢
    rw [← hReader]
    refine hConsumer.popHead hSeen hChanged hGeneration ?_
    rw [hReader, BufferQueueProducer.setSeen_firstPointer]
    exact hPast hLast
  · have hMore :
        elem.data.seen + 1 < producer.consumers := by
      omega
    have hKept :
        producer.unref elem =
          producer.setSeen elem.pointer
            (elem.data.seen + 1) := by
      simp only [BufferQueueProducer.unref, if_pos hMore]
    rw [hKept, hReader,
      BufferQueueProducer.setSeen_firstPointer]
    exact ⟨hConsumer, rfl⟩

/- Emptying the queue is the only way to a new serial number. -/
theorem Unrefable.queueSerial_eq
    (hProducer : producer.Wf)
    (h : Unrefable producer elem)
    (hMore : elem.pointer + 1 < producer.nextPointer) :
    (producer.unref elem).queueSerial =
      producer.queueSerial := by
  have hUnseen := h.unseen
  simp only [BufferQueueProducer.unref]
  split
  · rfl
  · rename_i hNot
    have hLast : elem.data.seen + 1 = producer.consumers := by
      omega
    have hHead := h.head hLast
    rcases h.queue_eq hProducer hLast with ⟨rest, hQueue⟩
    have hChanged :=
      BufferQueueProducer.setSeen_queue producer
        elem.pointer (elem.data.seen + 1)
    rw [hQueue, List.map_cons] at hChanged
    have hRest : rest ≠ [] := by
      intro hNil
      have hRoom := hProducer.pointerRoom
      unfold BufferQueueProducer.firstPointer at hHead
      rw [hQueue, hNil] at hHead hRoom
      simp at hHead hRoom
      omega
    rw [BufferQueueProducer.popHead_eq hChanged]
    simp [hRest, BufferQueueProducer.setSeen]

theorem BufferQueueProducer.unref_queueSerial
    (producer : BufferQueueProducer)
    (elem : BQElem) :
    (producer.unref elem).queueSerial =
        producer.queueSerial ∨
      (producer.unref elem).queueSerial =
        gulongIncrement producer.queueSerial := by
  simp only [BufferQueueProducer.unref,
    BufferQueueProducer.popHead]
  split
  · exact Or.inl rfl
  · split
    · exact Or.inr rfl
    · exact Or.inl rfl

theorem moveInternal_holding
    (hProducer : producer.Wf)
    (h : ConsumerWf producer consumer)
    (hHolding : bqHolding producer consumer = true)
    (hPointer :
      (bqReader producer consumer).cursor = elem.pointer)
    (hUnref : Unrefable producer elem) :
    ∃ moved more,
      bqConsumerMoveInternal producer consumer =
          .ok (producer.unref elem, moved, more) ∧
        more =
          (bqReader producer consumer).advance.holding ∧
        (more = true →
          (producer.unref elem).queueSerial =
            producer.queueSerial) ∧
        ((producer.unref elem).queueSerial ≠ 0 →
          ConsumerWf (producer.unref elem) moved ∧
            bqReader (producer.unref elem) moved =
              { (bqReader producer consumer).advance with
                first :=
                  (producer.unref elem).firstPointer }) := by
  have hConfirm := confirmPointer_eq hProducer h
  rw [hHolding, if_pos rfl] at hConfirm
  have hNext := hProducer.next_of_mem hUnref.mem
  have hBounds := hProducer.pointer_bounds hUnref.mem
  rcases hUnref.unref hProducer with
    ⟨hUnrefWf, hNextPointer, hFirstPointer⟩
  cases h with
  | detached hSerial =>
      simp [bqHolding, bqAttached, Nat.ne_of_lt hSerial]
        at hHolding
  | behind hSerial hNone hQueue hLow hHigh =>
      simp [bqHolding, hNone] at hHolding
  | on pointer hSerial hAt hLow hHigh hLast =>
      rw [bqReader_at hSerial hAt] at hPointer ⊢
      simp only at hPointer
      subst hPointer
      have hElemUnref :=
        elemUnref_eq hProducer hConfirm hAt hUnref
      have hMove :
          bqConsumerMovePointer producer
              (bqConsumerConfirmPointer producer consumer) =
            .ok (producer.unref elem,
              { consumer with
                currentElementPointer :=
                  if elem.pointer + 1 <
                      producer.nextPointer then
                    some (elem.pointer + 1)
                  else
                    none }) := by
        simp [hConfirm, bqConsumerMovePointer, hAt, hNext,
          hElemUnref, bind, Except.bind]
      by_cases hMore :
          elem.pointer + 1 < producer.nextPointer
      · rw [if_pos hMore] at hMove
        have hNewLow :
            (producer.unref elem).firstPointer ≤
              elem.pointer + 1 := by
          rw [hFirstPointer]
          split
          · omega
          · omega
        rcases moveSerials_at
            { consumer with
              currentElementPointer :=
                some (elem.pointer + 1) }
            hUnrefWf rfl hNewLow
            (by rw [hNextPointer]; exact hMore) with
          ⟨moved, hMoved, _, hWf, hReader⟩
        refine ⟨moved, true, ?_, ?_, ?_, ?_⟩
        · simp [bqConsumerMoveInternal, hMove, hMoved, bind,
            Except.bind]
        · simp [Reader.advance, Reader.hold, hMore]
        · exact fun _ =>
            hUnref.queueSerial_eq hProducer hMore
        · intro _
          refine ⟨hWf, ?_⟩
          rw [hReader, hNextPointer]
          simp [Reader.advance, Reader.hold, hMore]
      · rw [if_neg hMore] at hMove
        have hBehind :
            ConsumerWf producer
              { consumer with
                currentElementPointer := none } := by
          have hPointerRoom := hProducer.pointerRoom
          have hSerialRoom := hProducer.serialRoom
          refine .behind hSerial rfl ?_ ?_ ?_
          · exact List.ne_nil_of_mem hUnref.mem
          · unfold BufferQueueProducer.firstSerial
            unfold BufferQueueProducer.firstPointer at hLow
            simp only
            omega
          · simp only
            omega
        have hCursor :
            consumer.lastElementSerial + 1 +
                producer.nextPointer - producer.nextSerial =
              elem.pointer + 1 := by
          omega
        have hReader :
            bqReader producer
                { consumer with
                  currentElementPointer := none } =
              _ :=
          bqReader_behind hSerial rfl
        refine
          ⟨{ consumer with currentElementPointer := none },
            false, ?_, ?_, ?_, ?_⟩
        · simp [bqConsumerMoveInternal, hMove,
            moveSerials_none, bind, Except.bind]
        · simp [Reader.advance, Reader.hold, hMore]
        · intro hFalse
          cases hFalse
        · intro hGeneration
          have hPast :
              elem.data.seen + 1 = producer.consumers →
                producer.firstPointer <
                  (bqReader producer
                    { consumer with
                      currentElementPointer :=
                        none }).cursor := by
            intro _
            rw [hReader]
            simp only
            omega
          have hAfter := hBehind.unref hProducer hUnref
            hGeneration hPast
          refine ⟨hAfter.1, ?_⟩
          rw [hAfter.2, hReader]
          simp [Reader.advance, Reader.hold, hCursor, hMore]

/- A consumer that is on a buffer reads that buffer. -/
theorem consumerCurrent_eq
    (hProducer : producer.Wf)
    (h : ConsumerWf producer consumer)
    (hPointer :
      consumer.currentElementPointer =
        (bqReader producer consumer).result) :
    ∃ element,
      bqConsumerCurrent producer consumer = .ok element ∧
        (∀ elem ∈ element, elem ∈ producer.queue) ∧
        element.map BQElem.pointer =
          (bqReader producer consumer).result := by
  have hValid := h.valid hProducer
  rw [← hPointer]
  cases hCurrent : consumer.currentElementPointer with
  | none =>
      exact ⟨none, by simp [bqConsumerCurrent, hCurrent],
        by simp, rfl⟩
  | some pointer =>
      rw [hCurrent] at hPointer
      unfold Reader.result at hPointer
      split at hPointer
      · rename_i hMore
        cases hPointer
        rcases hProducer.exists_elem hValid.low hMore with
          ⟨elem, hMem, hElem⟩
        have hAt := hProducer.elemAt_of_mem hMem
        refine ⟨some elem, ?_, ?_, ?_⟩
        · rw [← hElem] at hCurrent
          simp [bqConsumerCurrent, hCurrent, hAt, bind,
            Except.bind]
        · intro other hOther
          cases hOther
          exact hMem
        · simp [hElem]
      · cases hPointer

/- Getting takes hold of the buffer at the cursor. -/
theorem consumerGet_eq
    (hProducer : producer.Wf)
    (h : ConsumerWf producer consumer) :
    ∃ consumer' element,
      bqConsumerGet producer consumer =
          .ok (producer, consumer', element) ∧
        (∀ elem ∈ element, elem ∈ producer.queue) ∧
        element.map BQElem.pointer =
          (bqReader producer consumer).result ∧
        ConsumerWf producer consumer' ∧
        bqReader producer consumer' =
          (bqReader producer consumer).hold := by
  have hRunning := hProducer.running
  have hValid := h.valid hProducer
  have hConfirm := confirmPointer_eq hProducer h
  cases hHolding : bqHolding producer consumer with
  | true =>
      rw [hHolding, if_pos rfl] at hConfirm
      have hMore := hValid.held hHolding
      have hPointer :
          consumer.currentElementPointer =
            (bqReader producer consumer).result := by
        simp only [Reader.result, if_pos hMore]
        cases h with
        | detached hSerial =>
            simp [bqHolding, bqAttached,
              Nat.ne_of_lt hSerial] at hHolding
        | behind hSerial hNone hQueue hLow hHigh =>
            simp [bqHolding, hNone] at hHolding
        | on pointer hSerial hAt hLow hHigh hLast =>
            rw [bqReader_at hSerial hAt, hAt]
      rcases consumerCurrent_eq hProducer h hPointer with
        ⟨element, hElement, hQueued, hResult⟩
      have hSome :
          consumer.currentElementPointer ≠ none := by
        rw [hPointer]
        simp [Reader.result, hMore]
      refine
        ⟨consumer, element, ?_, hQueued, hResult, h, ?_⟩
      · simp [bqConsumerGet, hRunning, hConfirm, hSome,
          hElement, bind, Except.bind]
      · have hSame :
            (bqReader producer consumer).holding = true :=
          hHolding
        unfold Reader.hold
        rw [decide_eq_true hMore, ← hSame]
  | false =>
      rw [hHolding] at hConfirm
      simp only [Bool.false_eq_true, if_false] at hConfirm
      have hDrop := h.dropPointer hHolding
      have hIdle :
          bqHolding producer
              { consumer with currentElementPointer := none } =
            false := by
        simp [bqHolding]
      rcases moveInternal_idle hProducer hDrop.1 hIdle with
        ⟨moved, hMoved, hPointer, hWf, hReader⟩
      rw [hDrop.2] at hMoved hPointer hReader
      by_cases hMore :
          (bqReader producer consumer).cursor <
            (bqReader producer consumer).next
      · have hMoves :
            (bqReader producer consumer).hold.holding =
              true :=
          decide_eq_true hMore
        have hResult :
            (bqReader producer moved).result =
              (bqReader producer consumer).result := by
          rw [hReader]
          rfl
        rcases consumerCurrent_eq hProducer hWf
            (hPointer.trans hResult.symm) with
          ⟨element, hElement, hQueued, hElementResult⟩
        rw [hMoves] at hMoved
        refine ⟨moved, element, ?_, hQueued,
          hElementResult.trans hResult, hWf, hReader⟩
        simp [bqConsumerGet, hRunning, hConfirm, hMoved,
          hElement, bind, Except.bind]
      · have hStays :
            (bqReader producer consumer).hold.holding =
              false :=
          decide_eq_false hMore
        rw [hStays] at hMoved
        refine ⟨moved, none, ?_, by simp, ?_, hWf, hReader⟩
        · simp [bqConsumerGet, hRunning, hConfirm, hMoved,
            bind, Except.bind]
        · simp [Reader.result, hMore]

end Feng
