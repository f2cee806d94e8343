import Feng.Lib.System
import Mathlib.Algebra.Group.Nat.Defs
import Mathlib.Data.Finset.Basic
import Mathlib.Data.Rat.Defs
import Mathlib.Logic.Function.Basic

/-
  The buffer queue that one producer shares with any number
  of consumers.

  Each function is the source function of the same name with
  the producer and the consumer passed in and handed back.
  The lock is held for the whole of every public function, so
  that each one is a single step of the system.

  A `GList` node is named by a number which is never given
  out twice; reading a node that is no longer queued is a use
  of freed memory.

  Key definitions include:
    * `BufferQueueProducer`
    * `BufferQueueConsumer`
    * `bqConsumerConfirmPointer`
    * `bqProducerPut`
    * `bqConsumerMoveInternal`
    * `bqConsumerGet`
    * `bqConsumerFree`
    * `BufferQueue.system`
-/

------------------------------------------------------------
-- Buffers
------------------------------------------------------------

namespace Feng

/- One buffer; `double` values are exact rationals here. -/
structure MParserBuffer where
  seen : Nat
  timestamp : ℚ
  rtpTimestamp : Nat
  delivery : ℚ
  duration : ℚ
  marker : Bool
  seqNo : Nat
  data : List UInt8
deriving DecidableEq, Repr

/- A node of the queue: its address and the buffer it holds. -/
structure BQElem where
  pointer : Nat
  data : MParserBuffer
deriving DecidableEq, Repr

/- The successor of a 16 bit serial number. -/
def nextUInt16 (n : Nat) : Nat :=
  (n + 1) % 2 ^ 16

/- `G_MAXULONG` -/
def gMaxULong : Nat :=
  2 ^ 64 - 1

/- `++` on a `gulong`, which wraps. -/
def gulongIncrement (n : Nat) : Nat :=
  if n = gMaxULong then 0 else n + 1

/- `--` on a `gulong`, which wraps. -/
def gulongDecrement (n : Nat) : Nat :=
  if n = 0 then gMaxULong else n - 1

end Feng

------------------------------------------------------------
-- Producers And Consumers
------------------------------------------------------------

namespace Feng

structure BufferQueueProducer where
  queue : List BQElem
  nextSerial : Nat
  queueSerial : Nat
  consumers : Nat
  stopped : Bool
  -- the address the next node of the queue will get
  nextPointer : Nat
deriving DecidableEq, Repr

structure BufferQueueConsumer where
  queueSerial : Nat
  currentElementPointer : Option Nat
  lastElementSerial : Nat
deriving DecidableEq, Repr

/- What makes the server abort, or leaves its memory. -/
inductive BQFault where
/- `g_assert(stopped == 0)` -/
| producerStopped
/- `g_assert_cmpint(producer->next_serial, !=, 0)` -/
| nextSerialZero
/- `g_assert_cmpuint(producer->consumers, <, G_MAXULONG)` -/
| tooManyConsumers
/- `g_assert_cmpuint(producer->consumers, >,  0)` -/
| noConsumers
/- `g_assert_cmpint(elem->seen, !=, producer->consumers)` -/
| alreadySeen
/- `g_assert(pointer == producer->queue->head)` -/
| notHead
/- `g_assert(elem->seen == producer->consumers)` -/
| notSeen
/- A node is read that is no longer in the queue. -/
| useAfterFree
/- The loop of `bq_consumer_free` does not end. -/
| endlessMove
deriving DecidableEq, Repr

/- `bq_producer_new`, with the queue it resets at once. -/
def bqProducerNew : BufferQueueProducer where
  queue := []
  nextSerial := 1
  queueSerial := 1
  consumers := 0
  stopped := false
  nextPointer := 0

namespace BufferQueueProducer

/- The node at an address and those linked behind it. -/
def nodesFrom
    (producer : BufferQueueProducer)
    (pointer : Nat) : List BQElem :=
  producer.queue.dropWhile
    (fun elem => elem.pointer ≠ pointer)

/- `GLIST_TO_BQELEM(pointer)` -/
def elemAt
    (producer : BufferQueueProducer)
    (pointer : Nat) : Except BQFault MParserBuffer :=
  match producer.nodesFrom pointer with
  | [] => .error .useAfterFree
  | elem :: _ => .ok elem.data

/- `pointer->next` -/
def next
    (producer : BufferQueueProducer)
    (pointer : Nat) : Except BQFault (Option Nat) :=
  match producer.nodesFrom pointer with
  | [] => .error .useAfterFree
  | _ :: rest => .ok (rest.head?.map BQElem.pointer)

/- Write `seen` through a pointer to a queued node. -/
def setSeen
    (producer : BufferQueueProducer)
    (pointer seen : Nat) : BufferQueueProducer :=
  { producer with
    queue := producer.queue.map (fun elem =>
      if elem.pointer = pointer then
        { elem with data := { elem.data with seen := seen } }
      else
        elem) }

end BufferQueueProducer

end Feng

------------------------------------------------------------
-- Producer Operations
------------------------------------------------------------

namespace Feng

def bqProducerResetQueueInternal
    (producer : BufferQueueProducer) : BufferQueueProducer :=
  { producer with
    queue := []
    queueSerial := gulongIncrement producer.queueSerial
    nextSerial := 1 }

def bqProducerResetQueue
    (producer : BufferQueueProducer) :
    Except BQFault BufferQueueProducer :=
  if producer.stopped then
    .error .producerStopped
  else
    .ok (bqProducerResetQueueInternal producer)

def bqProducerPut
    (producer : BufferQueueProducer)
    (elem : MParserBuffer) :
    Except BQFault BufferQueueProducer :=
  if producer.stopped then
    .error .producerStopped
  else
    let numbered := decide (elem.seqNo = 0)
    let nextSerial :=
      if numbered then
        nextUInt16 producer.nextSerial
      else
        producer.nextSerial
    let seqNo :=
      if numbered then producer.nextSerial else elem.seqNo
    if nextSerial = 0 then
      .error .nextSerialZero
    else
      .ok { producer with
        nextSerial := nextSerial
        queue := producer.queue ++
          [{ pointer := producer.nextPointer
             data := { elem with
               seen := 0
               seqNo := seqNo } }]
        nextPointer := producer.nextPointer + 1 }

/-
  `g_queue_pop_head`; a queue that reached its end is taken
  to be a new one.
-/
def BufferQueueProducer.popHead
    (producer : BufferQueueProducer) : BufferQueueProducer :=
  let queue := producer.queue.tail
  if queue.length = 0 then
    { producer with
      queue := queue
      queueSerial := gulongIncrement producer.queueSerial
      nextSerial := 1 }
  else
    { producer with queue := queue }

def bqProducerDestroyHead
    (producer : BufferQueueProducer)
    (pointer : Nat) :
    Except BQFault BufferQueueProducer := do
  let elem ← producer.elemAt pointer
  if producer.queue.head?.map BQElem.pointer ≠
      some pointer then
    .error .notHead
  else if elem.seen ≠ producer.consumers then
    .error .notSeen
  else
    .ok producer.popHead

end Feng

------------------------------------------------------------
-- Consumer Operations
------------------------------------------------------------

namespace Feng

/- `bq_consumer_new` on a producer that is not stopped. -/
def bqConsumerNew
    (producer : BufferQueueProducer) :
    Except BQFault
      (BufferQueueProducer × BufferQueueConsumer) :=
  if producer.consumers < gMaxULong then
    .ok
      ({ producer with
          consumers := gulongIncrement producer.consumers },
        { queueSerial := 0
          currentElementPointer := none
          lastElementSerial := 0 })
  else
    .error .tooManyConsumers

def bqConsumerConfirmPointer
    (producer : BufferQueueProducer)
    (consumer : BufferQueueConsumer) :
    BufferQueueConsumer :=
  if consumer.currentElementPointer = none then
    consumer
  else if producer.queueSerial ≠ consumer.queueSerial then
    { consumer with currentElementPointer := none }
  else
    match producer.queue with
    | [] => consumer
    | head :: _ =>
        if consumer.lastElementSerial <
            head.data.seqNo then
          { consumer with currentElementPointer := none }
        else
          consumer

def bqConsumerElemUnref
    (producer : BufferQueueProducer)
    (consumer : BufferQueueConsumer) :
    Except BQFault
      (BufferQueueProducer × BufferQueueConsumer) :=
  let consumer := bqConsumerConfirmPointer producer consumer
  -- `BQ_OBJECT` confirms the pointer once more
  let consumer := bqConsumerConfirmPointer producer consumer
  match consumer.currentElementPointer with
  | none => .ok (producer, consumer)
  | some pointer => do
      let elem ← producer.elemAt pointer
      if elem.seen = producer.consumers then
        .error .alreadySeen
      else
        let consumer :=
          { consumer with currentElementPointer := none }
        let seen := gulongIncrement elem.seen
        let producer := producer.setSeen pointer seen
        if seen < producer.consumers then
          .ok (producer, consumer)
        else
          let producer ←
            bqProducerDestroyHead producer pointer
          .ok (producer, consumer)

/-
  The part of `bq_consumer_move_internal` that finds the new
  current element.
-/
def bqConsumerMovePointer
    (producer : BufferQueueProducer)
    (consumer : BufferQueueConsumer) :
    Except BQFault
      (BufferQueueProducer × BufferQueueConsumer) :=
  match consumer.currentElementPointer with
  | some pointer => do
      let next ← producer.next pointer
      let (producer, consumer) ←
        bqConsumerElemUnref producer consumer
      .ok (producer,
        { consumer with currentElementPointer := next })
  | none =>
      if consumer.queueSerial ≠ producer.queueSerial then
        .ok (producer,
          { consumer with
            currentElementPointer :=
              producer.queue.head?.map BQElem.pointer })
      else
        let unseen := producer.queue.dropWhile (fun elem =>
          elem.data.seqNo ≤ consumer.lastElementSerial)
        .ok (producer,
          { consumer with
            currentElementPointer :=
              unseen.head?.map BQElem.pointer })

/-
  The part that takes over the serial numbers of the new
  current element, and tells whether there is one.
-/
def bqConsumerMoveSerials
    (producer : BufferQueueProducer)
    (consumer : BufferQueueConsumer) :
    Except BQFault (BufferQueueConsumer × Bool) :=
  match consumer.currentElementPointer with
  | none => .ok (consumer, false)
  | some pointer => do
      let elem ← producer.elemAt pointer
      .ok
        ({ consumer with
            lastElementSerial := elem.seqNo
            queueSerial := producer.queueSerial },
          true)

def bqConsumerMoveInternal
    (producer : BufferQueueProducer)
    (consumer : BufferQueueConsumer) :
    Except BQFault
      (BufferQueueProducer × BufferQueueConsumer × Bool) :=
  do
  let (producer, consumer) ←
    bqConsumerMovePointer producer
      (bqConsumerConfirmPointer producer consumer)
  let (consumer, moved) ←
    bqConsumerMoveSerials producer consumer
  .ok (producer, consumer, moved)

def bqConsumerMove
    (producer : BufferQueueProducer)
    (consumer : BufferQueueConsumer) :
    Except BQFault
      (BufferQueueProducer × BufferQueueConsumer × Bool) :=
  if producer.stopped then
    .ok (producer, consumer, false)
  else
    bqConsumerMoveInternal producer consumer

/- The element a consumer points to, as a queued node. -/
def bqConsumerCurrent
    (producer : BufferQueueProducer)
    (consumer : BufferQueueConsumer) :
    Except BQFault (Option BQElem) :=
  match consumer.currentElementPointer with
  | none => .ok none
  | some pointer => do
      let elem ← producer.elemAt pointer
      .ok (some { pointer := pointer, data := elem })

def bqConsumerGet
    (producer : BufferQueueProducer)
    (consumer : BufferQueueConsumer) :
    Except BQFault
      (BufferQueueProducer × BufferQueueConsumer ×
        Option BQElem) :=
  if producer.stopped then
    .ok (producer, consumer, none)
  else
    let consumer := bqConsumerConfirmPointer producer consumer
    if consumer.currentElementPointer = none then do
      let (producer, consumer, moved) ←
        bqConsumerMoveInternal producer consumer
      if moved then
        let element ← bqConsumerCurrent producer consumer
        .ok (producer, consumer, element)
      else
        .ok (producer, consumer, none)
    else do
      let element ← bqConsumerCurrent producer consumer
      .ok (producer, consumer, element)

/-
  The loop of `bq_consumer_free`, for at most the given
  number of moves.
-/
def bqConsumerMoveAll :
    Nat → BufferQueueProducer → BufferQueueConsumer →
      Except BQFault
        (BufferQueueProducer × BufferQueueConsumer)
| 0, _, _ => .error .endlessMove
| limit + 1, producer, consumer => do
    let (producer, consumer, moved) ←
      bqConsumerMoveInternal producer consumer
    if moved then
      bqConsumerMoveAll limit producer consumer
    else
      .ok (producer, consumer)

def bqDecrementSeenOnFree (elem : BQElem) : BQElem :=
  { elem with
    data := { elem.data with
      seen := gulongDecrement elem.data.seen } }

def bqConsumerFree
    (producer : BufferQueueProducer)
    (consumer : BufferQueueConsumer) :
    Except BQFault BufferQueueProducer :=
  if producer.consumers = 0 then
    .error .noConsumers
  else do
    let (producer, _) ←
      bqConsumerMoveAll (producer.queue.length + 2)
        producer consumer
    .ok { producer with
      queue := producer.queue.map bqDecrementSeenOnFree
      consumers := gulongDecrement producer.consumers }

def bqConsumerStopped
    (producer : BufferQueueProducer) : Bool :=
  producer.stopped

def bqConsumerUnseen
    (producer : BufferQueueProducer)
    (consumer : BufferQueueConsumer) : Nat :=
  if producer.stopped then
    0
  else if consumer.queueSerial ≠ producer.queueSerial then
    producer.nextSerial
  else if producer.queue = [] then
    0
  else
    -- the difference of two `uint16_t`, taken as a `gulong`
    (producer.nextSerial + 2 ^ 64 -
      consumer.lastElementSerial) % 2 ^ 64

end Feng

------------------------------------------------------------
-- The Queue And Its Consumers
------------------------------------------------------------

namespace Feng

namespace BufferQueue

/-
  One producer and the consumers registered with it, each
  named by a number that is never given out twice.
-/
structure State where
  producer : BufferQueueProducer
  registered : Finset Nat
  consumer : Nat → BufferQueueConsumer
  nextConsumer : Nat

/- The calls made on the queue. -/
inductive Op where
| put (elem : MParserBuffer)
| reset
| consumerNew
| get (k : Nat)
| move (k : Nat)
| free (k : Nat)
deriving DecidableEq

def initial : State where
  producer := bqProducerNew
  registered := ∅
  consumer := fun _ =>
    { queueSerial := 0
      currentElementPointer := none
      lastElementSerial := 0 }
  nextConsumer := 0

namespace State

/- Store what an operation of one consumer hands back. -/
def update
    (s : State)
    (k : Nat)
    (producer : BufferQueueProducer)
    (consumer : BufferQueueConsumer) : State :=
  { s with
    producer := producer
    consumer := Function.update s.consumer k consumer }

end State

/-
  Buffers come from a stored source, which leaves their
  number zero, and only registered consumers make calls.
-/
def enabled (s : State) : Op → Prop
| .put elem => elem.seqNo = 0
| .reset => True
| .consumerNew => True
| .get k => k ∈ s.registered
| .move k => k ∈ s.registered
| .free k => k ∈ s.registered

instance decidableEnabled
    (s : State) :
    (op : Op) → Decidable (enabled s op)
| .put elem => inferInstanceAs (Decidable (elem.seqNo = 0))
| .reset => isTrue trivial
| .consumerNew => isTrue trivial
| .get k => inferInstanceAs (Decidable (k ∈ s.registered))
| .move k => inferInstanceAs (Decidable (k ∈ s.registered))
| .free k => inferInstanceAs (Decidable (k ∈ s.registered))

def step (s : State) : Op → Except BQFault State
| .put elem => do
    let producer ← bqProducerPut s.producer elem
    .ok { s with producer := producer }
| .reset => do
    let producer ← bqProducerResetQueue s.producer
    .ok { s with producer := producer }
| .consumerNew => do
    let (producer, consumer) ← bqConsumerNew s.producer
    .ok
      { producer := producer
        registered := insert s.nextConsumer s.registered
        consumer :=
          Function.update s.consumer s.nextConsumer consumer
        nextConsumer := s.nextConsumer + 1 }
| .get k => do
    let (producer, consumer, _) ←
      bqConsumerGet s.producer (s.consumer k)
    .ok (s.update k producer consumer)
| .move k => do
    let (producer, consumer, _) ←
      bqConsumerMove s.producer (s.consumer k)
    .ok (s.update k producer consumer)
| .free k => do
    let producer ← bqConsumerFree s.producer (s.consumer k)
    .ok { s with
      producer := producer
      registered := s.registered.erase k }

/- The runs in which no call aborts the server. -/
def system : System State Op :=
  System.ofStep initial enabled step

end BufferQueue

end Feng
