import Feng.BufferQueue.Runs
import Feng.Lib.Except

/-
  The calls on the queue read the numbers of its buffers in
  two comparisons only: where these turn out alike, producers
  and consumers that differ in nothing but the numbers are
  left differing in nothing else.

  Key definitions include:
    * `BufferQueueProducer.unnumbered`
    * `BufferQueueConsumer.unnumbered`
    * `SameTurn`

  Key theorems include:
    * `SameTurn.move`
    * `SameTurn.get`
-/

------------------------------------------------------------
-- Queues Without Their Numbers
------------------------------------------------------------

namespace Feng

def MParserBuffer.unnumbered
    (buffer : MParserBuffer) : MParserBuffer :=
  { buffer with seqNo := 0 }

def BQElem.unnumbered (elem : BQElem) : BQElem :=
  { elem with data := elem.data.unnumbered }

def BufferQueueProducer.unnumbered
    (producer : BufferQueueProducer) : BufferQueueProducer :=
  { producer with
    queue := producer.queue.map BQElem.unnumbered
    nextSerial := 0 }

def BufferQueueConsumer.unnumbered
    (consumer : BufferQueueConsumer) : BufferQueueConsumer :=
  { consumer with lastElementSerial := 0 }

namespace BufferQueueProducer

theorem nodesFrom_unnumbered
    (producer : BufferQueueProducer)
    (pointer : Nat) :
    producer.unnumbered.nodesFrom pointer =
      (producer.nodesFrom pointer).map
        BQElem.unnumbered := by
  simp only [nodesFrom, unnumbered, List.dropWhile_map]
  rfl

theorem elemAt_unnumbered
    (producer : BufferQueueProducer)
    (pointer : Nat) :
    producer.unnumbered.elemAt pointer =
      (producer.elemAt pointer).map
        MParserBuffer.unnumbered := by
  unfold elemAt
  rw [nodesFrom_unnumbered]
  cases producer.nodesFrom pointer with
  | nil => rfl
  | cons elem rest => rfl

theorem next_unnumbered
    (producer : BufferQueueProducer)
    (pointer : Nat) :
    producer.unnumbered.next pointer =
      producer.next pointer := by
  unfold next
  rw [nodesFrom_unnumbered]
  cases producer.nodesFrom pointer with
  | nil => rfl
  | cons elem rest =>
      cases rest with
      | nil => rfl
      | cons other rest => rfl

theorem setSeen_unnumbered
    (producer : BufferQueueProducer)
    (pointer seen : Nat) :
    (producer.setSeen pointer seen).unnumbered =
      producer.unnumbered.setSeen pointer seen := by
  simp only [setSeen, unnumbered, List.map_map,
    mk.injEq, and_self, and_true]
  apply List.map_congr_left
  intro elem _
  by_cases hAt : elem.pointer = pointer
  · simp [BQElem.unnumbered, MParserBuffer.unnumbered, hAt]
  · simp [BQElem.unnumbered, hAt]

theorem popHead_unnumbered
    (producer : BufferQueueProducer) :
    producer.popHead.unnumbered =
      producer.unnumbered.popHead.unnumbered := by
  rcases producer with
    ⟨queue, nextSerial, serial, consumers, stopped, pointer⟩
  cases queue with
  | nil => rfl
  | cons head rest =>
      cases rest with
      | nil => rfl
      | cons next rest =>
          simp [popHead, unnumbered, BQElem.unnumbered,
            MParserBuffer.unnumbered]

theorem head?_unnumbered
    (producer : BufferQueueProducer) :
    producer.unnumbered.queue.head?.map BQElem.pointer =
      producer.queue.head?.map BQElem.pointer := by
  cases hQueue : producer.queue with
  | nil => simp [unnumbered, hQueue]
  | cons head rest =>
      simp [unnumbered, hQueue, BQElem.unnumbered]

end BufferQueueProducer

end Feng

------------------------------------------------------------
-- Producers That Differ In Numbers Only
------------------------------------------------------------

namespace Feng

namespace BufferQueueProducer

variable {p q : BufferQueueProducer}

theorem elemAt_congr
    (h : p.unnumbered = q.unnumbered)
    (pointer : Nat) :
    (p.elemAt pointer).map MParserBuffer.unnumbered =
      (q.elemAt pointer).map MParserBuffer.unnumbered := by
  rw [← elemAt_unnumbered, h, elemAt_unnumbered]

theorem next_congr
    (h : p.unnumbered = q.unnumbered)
    (pointer : Nat) :
    p.next pointer = q.next pointer := by
  rw [← next_unnumbered, h, next_unnumbered]

theorem head?_congr
    (h : p.unnumbered = q.unnumbered) :
    p.queue.head?.map BQElem.pointer =
      q.queue.head?.map BQElem.pointer := by
  rw [← head?_unnumbered, h, head?_unnumbered]

theorem setSeen_congr
    (h : p.unnumbered = q.unnumbered)
    (pointer seen : Nat) :
    (p.setSeen pointer seen).unnumbered =
      (q.setSeen pointer seen).unnumbered := by
  rw [setSeen_unnumbered, h, setSeen_unnumbered]

theorem popHead_congr
    (h : p.unnumbered = q.unnumbered) :
    p.popHead.unnumbered = q.popHead.unnumbered := by
  rw [popHead_unnumbered, h, ← popHead_unnumbered]

theorem consumers_congr
    (h : p.unnumbered = q.unnumbered) :
    p.consumers = q.consumers := by
  change p.unnumbered.consumers = q.unnumbered.consumers
  rw [h]

theorem queueSerial_congr
    (h : p.unnumbered = q.unnumbered) :
    p.queueSerial = q.queueSerial := by
  change p.unnumbered.queueSerial = q.unnumbered.queueSerial
  rw [h]

theorem stopped_congr
    (h : p.unnumbered = q.unnumbered) :
    p.stopped = q.stopped := by
  change p.unnumbered.stopped = q.unnumbered.stopped
  rw [h]

theorem nextPointer_congr
    (h : p.unnumbered = q.unnumbered) :
    p.nextPointer = q.nextPointer := by
  change p.unnumbered.nextPointer = q.unnumbered.nextPointer
  rw [h]

theorem queue_congr
    (h : p.unnumbered = q.unnumbered) :
    p.queue.map BQElem.unnumbered =
      q.queue.map BQElem.unnumbered := by
  change p.unnumbered.queue = q.unnumbered.queue
  rw [h]

theorem length_congr
    (h : p.unnumbered = q.unnumbered) :
    p.queue.length = q.queue.length := by
  simpa using congrArg List.length (queue_congr h)

end BufferQueueProducer

variable {p q : BufferQueueProducer}
variable {c d : BufferQueueConsumer}

theorem seen_congr
    {elem other : MParserBuffer}
    (h : elem.unnumbered = other.unnumbered) :
    elem.seen = other.seen := by
  change elem.unnumbered.seen = other.unnumbered.seen
  rw [h]

theorem destroyHead_congr
    (h : p.unnumbered = q.unnumbered)
    (pointer : Nat) :
    (bqProducerDestroyHead p pointer).map
        BufferQueueProducer.unnumbered =
      (bqProducerDestroyHead q pointer).map
        BufferQueueProducer.unnumbered := by
  have hElem := BufferQueueProducer.elemAt_congr h pointer
  apply Except.bind_map_congr hElem
  intro elem other hSame
  have hSeen := seen_congr hSame
  rw [hSeen, BufferQueueProducer.head?_congr h,
    BufferQueueProducer.consumers_congr h]
  by_cases hHead :
      q.queue.head?.map BQElem.pointer ≠ some pointer
  · rw [if_pos hHead, if_pos hHead]
  rw [if_neg hHead, if_neg hHead]
  by_cases hAll : other.seen ≠ q.consumers
  · rw [if_pos hAll, if_pos hAll]
  rw [if_neg hAll, if_neg hAll]
  exact congrArg Except.ok
    (BufferQueueProducer.popHead_congr h)

theorem pointer_congr
    (h : c.unnumbered = d.unnumbered) :
    c.currentElementPointer = d.currentElementPointer := by
  change
    c.unnumbered.currentElementPointer =
      d.unnumbered.currentElementPointer
  rw [h]

theorem serial_congr
    (h : c.unnumbered = d.unnumbered) :
    c.queueSerial = d.queueSerial := by
  change c.unnumbered.queueSerial = d.unnumbered.queueSerial
  rw [h]

end Feng

------------------------------------------------------------
-- Calls Of Consumers
------------------------------------------------------------

namespace Feng

variable {p q : BufferQueueProducer}
variable {c d : BufferQueueConsumer}

/- What a call hands back, without the numbers. -/
def unnumberedPair
    (x : BufferQueueProducer × BufferQueueConsumer) :
    BufferQueueProducer × BufferQueueConsumer :=
  (x.1.unnumbered, x.2.unnumbered)

def unnumberedMove
    (x : BufferQueueProducer × BufferQueueConsumer × Bool) :
    BufferQueueProducer × BufferQueueConsumer × Bool :=
  (x.1.unnumbered, x.2.1.unnumbered, x.2.2)

def unnumberedGet
    (x : BufferQueueProducer × BufferQueueConsumer ×
      Option BQElem) :
    BufferQueueProducer × BufferQueueConsumer ×
      Option BQElem :=
  (x.1.unnumbered, x.2.1.unnumbered,
    x.2.2.map BQElem.unnumbered)

theorem elemUnref_congr
    (hProducers : p.unnumbered = q.unnumbered)
    (hConsumers : c.unnumbered = d.unnumbered)
    (hKeeps : bqConsumerConfirmPointer p c = c)
    (hKeeps' : bqConsumerConfirmPointer q d = d) :
    (bqConsumerElemUnref p c).map unnumberedPair =
      (bqConsumerElemUnref q d).map unnumberedPair := by
  have hPointer := pointer_congr hConsumers
  unfold bqConsumerElemUnref
  simp only [hKeeps, hKeeps', hPointer]
  cases d.currentElementPointer with
  | none =>
      simp only [Except.map, unnumberedPair, hProducers,
        hConsumers]
  | some pointer =>
      have hElem :=
        BufferQueueProducer.elemAt_congr hProducers pointer
      apply Except.bind_map_congr hElem
      intro elem other hSame
      have hCount :=
        BufferQueueProducer.consumers_congr hProducers
      have hSeen :=
        BufferQueueProducer.setSeen_congr hProducers pointer
          (gulongIncrement other.seen)
      have hLeft :
          BufferQueueConsumer.unnumbered
              { c with currentElementPointer := none } =
            BufferQueueConsumer.unnumbered
              { d with currentElementPointer := none } := by
        simp only [BufferQueueConsumer.unnumbered,
          serial_congr hConsumers]
      have hLeftCount :=
        BufferQueueProducer.consumers_congr hSeen
      rw [seen_congr hSame, hCount]
      by_cases hAll : other.seen = q.consumers
      · rw [if_pos hAll, if_pos hAll]
      rw [if_neg hAll, if_neg hAll, hLeftCount]
      by_cases hMore :
          gulongIncrement other.seen <
            (q.setSeen pointer
              (gulongIncrement other.seen)).consumers
      · rw [if_pos hMore, if_pos hMore]
        simp only [Except.map, unnumberedPair, hSeen, hLeft]
      rw [if_neg hMore, if_neg hMore]
      apply Except.bind_map_congr
        (destroyHead_congr hSeen pointer)
      intro left left' hDestroyed
      simp only [Except.map, unnumberedPair, hDestroyed,
        hLeft]

theorem moveSerials_congr
    (hProducers : p.unnumbered = q.unnumbered)
    (hConsumers : c.unnumbered = d.unnumbered) :
    (bqConsumerMoveSerials p c).map
        (fun x => (x.1.unnumbered, x.2)) =
      (bqConsumerMoveSerials q d).map
        (fun x => (x.1.unnumbered, x.2)) := by
  have hPointer := pointer_congr hConsumers
  unfold bqConsumerMoveSerials
  rw [hPointer]
  cases hAt : d.currentElementPointer with
  | none =>
      simp only [Except.map, hConsumers]
  | some pointer =>
      apply Except.bind_map_congr
        (BufferQueueProducer.elemAt_congr hProducers pointer)
      intro elem other hSame
      have hSerial :=
        BufferQueueProducer.queueSerial_congr hProducers
      simp only [Except.map, BufferQueueConsumer.unnumbered,
        hSerial]

theorem consumerCurrent_congr
    (hProducers : p.unnumbered = q.unnumbered)
    (hConsumers : c.unnumbered = d.unnumbered) :
    (bqConsumerCurrent p c).map
        (Option.map BQElem.unnumbered) =
      (bqConsumerCurrent q d).map
        (Option.map BQElem.unnumbered) := by
  unfold bqConsumerCurrent
  rw [pointer_congr hConsumers]
  cases d.currentElementPointer with
  | none => rfl
  | some pointer =>
      apply Except.bind_map_congr
        (BufferQueueProducer.elemAt_congr hProducers pointer)
      intro elem other hSame
      simp only [Except.map, Option.map, BQElem.unnumbered,
        hSame]

end Feng

------------------------------------------------------------
-- Moves And Gets
------------------------------------------------------------

namespace Feng

variable {p q : BufferQueueProducer}
variable {c d : BufferQueueConsumer}

/- The consumer that only loses a pointer to another queue. -/
def bqConfirmed
    (producer : BufferQueueProducer)
    (consumer : BufferQueueConsumer) : BufferQueueConsumer :=
  if bqHolding producer consumer then
    consumer
  else
    { consumer with currentElementPointer := none }

/- The first buffer numbered above the last one seen. -/
def bqFirstAbove
    (producer : BufferQueueProducer)
    (consumer : BufferQueueConsumer) : Option Nat :=
  (producer.queue.dropWhile (fun elem =>
    elem.data.seqNo ≤
      consumer.lastElementSerial)).head?.map BQElem.pointer

/-
  The two comparisons turn out alike: neither consumer loses
  a pointer into its queue, and both scans find the same
  buffer.
-/
structure SameTurn
    (p : BufferQueueProducer)
    (c : BufferQueueConsumer)
    (q : BufferQueueProducer)
    (d : BufferQueueConsumer) : Prop where
  producers : p.unnumbered = q.unnumbered
  consumers : c.unnumbered = d.unnumbered
  confirmed : bqConsumerConfirmPointer p c = bqConfirmed p c
  confirmed' : bqConsumerConfirmPointer q d = bqConfirmed q d
  scan :
    d.queueSerial = q.queueSerial →
      d.currentElementPointer = none →
        bqFirstAbove p c = bqFirstAbove q d

theorem confirmPointer_of_none
    (producer : BufferQueueProducer)
    {consumer : BufferQueueConsumer}
    (hNone : consumer.currentElementPointer = none) :
    bqConsumerConfirmPointer producer consumer =
      consumer := by
  simp [bqConsumerConfirmPointer, hNone]

theorem confirmPointer_confirmed
    (h :
      bqConsumerConfirmPointer p c = bqConfirmed p c) :
    bqConsumerConfirmPointer p (bqConfirmed p c) =
      bqConfirmed p c := by
  cases hHolding : bqHolding p c with
  | false =>
      apply confirmPointer_of_none
      simp [bqConfirmed, hHolding]
  | true =>
      have hSame : bqConfirmed p c = c := by
        simp [bqConfirmed, hHolding]
      rw [hSame] at h ⊢
      exact h

namespace SameTurn

theorem confirmed_congr
    (h : SameTurn p c q d) :
    (bqConfirmed p c).unnumbered =
      (bqConfirmed q d).unnumbered := by
  have hHolding : bqHolding p c = bqHolding q d := by
    simp only [bqHolding, bqAttached,
      pointer_congr h.consumers, serial_congr h.consumers,
      BufferQueueProducer.queueSerial_congr h.producers]
  unfold bqConfirmed
  rw [hHolding]
  split
  · exact h.consumers
  · simp only [BufferQueueConsumer.unnumbered,
      serial_congr h.consumers]

/- Confirming the pointers first makes no difference. -/
theorem afterConfirm
    (h : SameTurn p c q d) :
    SameTurn p (bqConfirmed p c) q (bqConfirmed q d) := by
  have hAgain := confirmPointer_confirmed h.confirmed
  have hAgain' := confirmPointer_confirmed h.confirmed'
  have hTwice :
      ∀ (producer : BufferQueueProducer)
        (consumer : BufferQueueConsumer),
        bqConfirmed producer
            (bqConfirmed producer consumer) =
          bqConfirmed producer consumer := by
    intro producer consumer
    cases hHolding : bqHolding producer consumer with
    | false =>
        have hDropped :
            bqConfirmed producer consumer =
              { consumer with
                currentElementPointer := none } := by
          simp [bqConfirmed, hHolding]
        have hNot :
            bqHolding producer
                { consumer with
                  currentElementPointer := none } =
              false := by
          simp [bqHolding]
        rw [hDropped]
        simp [bqConfirmed, hNot]
    | true =>
        simp [bqConfirmed, hHolding]
  refine
    { producers := h.producers, consumers := h.confirmed_congr,
      confirmed := hAgain.trans (hTwice p c).symm,
      confirmed' := hAgain'.trans (hTwice q d).symm,
      scan := ?_ }
  have hSerial :
      (bqConfirmed q d).queueSerial = d.queueSerial := by
    unfold bqConfirmed
    split <;> rfl
  have hAbove :
      ∀ (producer : BufferQueueProducer)
        (consumer : BufferQueueConsumer),
        bqFirstAbove producer
            (bqConfirmed producer consumer) =
          bqFirstAbove producer consumer := by
    intro producer consumer
    unfold bqConfirmed
    split <;> rfl
  intro hAttached hNone
  rw [hSerial] at hAttached
  rw [hAbove, hAbove]
  apply h.scan hAttached
  by_contra hSome
  have hHolding : bqHolding q d = true := by
    cases hAt : d.currentElementPointer with
    | none => exact absurd hAt hSome
    | some pointer =>
        simp [bqHolding, bqAttached, hAttached, hAt]
  rw [bqConfirmed, if_pos hHolding] at hNone
  exact hSome hNone

theorem movePointer
    (h : SameTurn p c q d) :
    (bqConsumerMovePointer p (bqConfirmed p c)).map
        unnumberedPair =
      (bqConsumerMovePointer q (bqConfirmed q d)).map
        unnumberedPair := by
  have hAfter := h.afterConfirm
  have hConsumers := hAfter.consumers
  have hUnref := elemUnref_congr h.producers hConsumers
    (confirmPointer_confirmed h.confirmed)
    (confirmPointer_confirmed h.confirmed')
  have hPointer := pointer_congr hConsumers
  have hSerial := serial_congr hConsumers
  unfold bqConsumerMovePointer
  rw [hPointer]
  cases hAt : (bqConfirmed q d).currentElementPointer with
  | some pointer =>
      simp only
      rw [BufferQueueProducer.next_congr h.producers]
      apply Except.bind_map_congr (u := id) rfl
      intro next other hNext
      cases hNext
      apply Except.bind_map_congr hUnref
      intro x y hLeft
      rcases Prod.mk.inj hLeft with ⟨hProducer, hConsumer⟩
      have hSame := serial_congr hConsumer
      simp only [Except.map, unnumberedPair, hProducer,
        BufferQueueConsumer.unnumbered, hSame]
  | none =>
      simp only
      rw [hSerial, BufferQueueProducer.queueSerial_congr
        h.producers]
      by_cases hOther :
          (bqConfirmed q d).queueSerial ≠ q.queueSerial
      · rw [if_pos hOther, if_pos hOther,
          BufferQueueProducer.head?_congr h.producers]
        simp only [Except.map, unnumberedPair, h.producers]
        rfl
      · rw [if_neg hOther, if_neg hOther]
        have hScan := hAfter.scan (not_not.mp hOther) hAt
        unfold bqFirstAbove at hScan
        simp only [Except.map, unnumberedPair, h.producers,
          hScan]
        rfl

/- Moves leave both sides alike. -/
theorem moveInternal
    (h : SameTurn p c q d) :
    (bqConsumerMoveInternal p c).map unnumberedMove =
      (bqConsumerMoveInternal q d).map unnumberedMove := by
  unfold bqConsumerMoveInternal
  rw [h.confirmed, h.confirmed']
  apply Except.bind_map_congr h.movePointer
  intro x y hSame
  rcases Prod.mk.inj hSame with ⟨hProducers, hConsumers⟩
  apply Except.bind_map_congr
    (moveSerials_congr hProducers hConsumers)
  intro moved moved' hMoved
  rcases Prod.mk.inj hMoved with ⟨hConsumer, hMore⟩
  simp only [Except.map, unnumberedMove, hProducers,
    hConsumer, hMore]

theorem move
    (h : SameTurn p c q d) :
    (bqConsumerMove p c).map unnumberedMove =
      (bqConsumerMove q d).map unnumberedMove := by
  unfold bqConsumerMove
  rw [BufferQueueProducer.stopped_congr h.producers]
  split
  · simp only [Except.map, unnumberedMove, h.producers,
      h.consumers]
  · exact h.moveInternal

/- So do gets, which hand out the same buffer. -/
theorem get
    (h : SameTurn p c q d) :
    (bqConsumerGet p c).map unnumberedGet =
      (bqConsumerGet q d).map unnumberedGet := by
  have hAfter := h.afterConfirm
  have hPointer := pointer_congr hAfter.consumers
  unfold bqConsumerGet
  rw [BufferQueueProducer.stopped_congr h.producers]
  by_cases hStopped : q.stopped = true
  · rw [if_pos hStopped, if_pos hStopped]
    simp only [Except.map, unnumberedGet, h.producers,
      h.consumers, Option.map_none]
  rw [if_neg hStopped, if_neg hStopped]
  simp only [h.confirmed, h.confirmed', hPointer]
  by_cases hNone :
      (bqConfirmed q d).currentElementPointer = none
  · rw [if_pos hNone, if_pos hNone]
    apply Except.bind_map_congr hAfter.moveInternal
    intro x y hSame
    rcases Prod.mk.inj hSame with ⟨hProducers, hRest⟩
    rcases Prod.mk.inj hRest with ⟨hConsumers, hMore⟩
    simp only [hMore]
    split
    · apply Except.bind_map_congr
        (consumerCurrent_congr hProducers hConsumers)
      intro elem other hElem
      simp only [Except.map, unnumberedGet, hProducers,
        hConsumers, hElem]
    · simp only [Except.map, unnumberedGet, hProducers,
        hConsumers, Option.map_none]
  · rw [if_neg hNone, if_neg hNone]
    apply Except.bind_map_congr
      (consumerCurrent_congr h.producers hAfter.consumers)
    intro elem other hElem
    simp only [Except.map, unnumberedGet, h.producers,
      hAfter.consumers, hElem]

end SameTurn

end Feng
