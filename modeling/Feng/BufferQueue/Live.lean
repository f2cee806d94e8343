import Feng.BufferQueue.Numbering
import Feng.BufferQueue.Serial

/-
  Buffers of a live source keep the numbers of their RTP
  packets, which come round to zero. A run in which these
  numbers order the buffers, wherever a call compares them,
  is followed step by step by a queue that numbers the same
  buffers itself.

  Key definitions include:
    * `liveSystem`
    * `InOrder`
    * `Mirrors`
    * `LiveDelivers`

  Key theorems include:
    * `State.Wf.rebase`
    * `live_delivers`
    * `live_repeats`
-/

------------------------------------------------------------
-- Numbering A Queue From One
------------------------------------------------------------

namespace Feng

/- The buffer with its number counted from another base. -/
def BQElem.rebase (base : Nat) (elem : BQElem) : BQElem :=
  { elem with
    data := { elem.data with
      seqNo := elem.data.seqNo - base } }

namespace BufferQueue

namespace State

def rebase (s : State) (base : Nat) : State :=
  { s with
    producer :=
      { s.producer with
        queue := s.producer.queue.map (BQElem.rebase base)
        nextSerial := s.producer.nextSerial - base }
    consumer := fun k =>
      { s.consumer k with
        lastElementSerial :=
          (s.consumer k).lastElementSerial - base } }

variable {s : State} {k base : Nat}

@[simp] theorem rebase_firstPointer :
    (s.rebase base).producer.firstPointer =
      s.producer.firstPointer := by
  simp [rebase, BufferQueueProducer.firstPointer]

theorem rebase_firstSerial :
    (s.rebase base).producer.firstSerial =
      s.producer.firstSerial - base := by
  unfold BufferQueueProducer.firstSerial
  simp only [rebase, List.length_map]
  omega

theorem Wf.rebase_producer
    (h : s.Wf)
    (hBase : base < s.producer.firstSerial) :
    (s.rebase base).producer.Wf where
  pointers := by
    rw [rebase_firstPointer]
    exact h.producer.pointers.map (fun _ => rfl)
  serials := by
    rw [rebase_firstSerial]
    exact h.producer.serials.map_sub (fun _ => rfl)
      (Nat.le_of_lt hBase)
  pointerRoom := by
    simpa [rebase] using h.producer.pointerRoom
  serialRoom := by
    unfold BufferQueueProducer.firstSerial at hBase
    simp only [rebase, List.length_map]
    omega
  serialBound := by
    have hBound := h.producer.serialBound
    simp only [rebase]
    omega
  running := h.producer.running

theorem Wf.rebase_consumer
    (h : s.Wf)
    (hBase : base < s.producer.firstSerial)
    (hMem : k ∈ s.registered) :
    ConsumerWf (s.rebase base).producer
        ((s.rebase base).consumer k) ∧
      (s.rebase base).reader k = s.reader k := by
  have hPointerRoom := h.producer.pointerRoom
  unfold reader
  cases h.consumer k hMem with
  | detached hSerial =>
      have hNe := Nat.ne_of_lt hSerial
      refine ⟨.detached hSerial, ?_⟩
      have hNew :
          bqReader (s.rebase base).producer
            ((s.rebase base).consumer k) = _ :=
        bqReader_detached hNe
      rw [hNew, bqReader_detached hNe, rebase_firstPointer]
      rfl
  | behind hSerial hPointer hQueue hLow hHigh =>
      refine ⟨.behind hSerial hPointer ?_ ?_ ?_, ?_⟩
      · simpa [rebase] using hQueue
      · rw [rebase_firstSerial]
        simp only [rebase]
        omega
      · simp only [rebase]
        omega
      · have hNew :
            bqReader (s.rebase base).producer
              ((s.rebase base).consumer k) = _ :=
          bqReader_behind hSerial hPointer
        rw [hNew, bqReader_behind hSerial hPointer,
          rebase_firstPointer]
        simp only [rebase, Reader.mk.injEq, true_and,
          and_true]
        omega
  | on pointer hSerial hPointer hLow hHigh hLast =>
      refine ⟨.on pointer hSerial hPointer ?_ hHigh ?_, ?_⟩
      · rw [rebase_firstPointer]
        exact hLow
      · unfold BufferQueueProducer.firstSerial at hBase
        unfold BufferQueueProducer.firstPointer at hLow
        simp only [rebase]
        omega
      · have hNew :
            bqReader (s.rebase base).producer
              ((s.rebase base).consumer k) = _ :=
          bqReader_at hSerial hPointer
        rw [hNew, bqReader_at hSerial hPointer,
          rebase_firstPointer]
        rfl

/- Only the differences between the numbers matter. -/
theorem Wf.rebase
    (h : s.Wf)
    (hBase : base < s.producer.firstSerial) :
    (s.rebase base).Wf := by
  have hPast :
      ∀ pointer,
        (s.rebase base).past pointer = s.past pointer := by
    intro pointer
    apply Finset.filter_congr
    intro j hj
    rw [(h.rebase_consumer hBase hj).2]
  refine
    { producer := h.rebase_producer hBase,
      generation := h.generation,
      consumer := fun j hj => (h.rebase_consumer hBase hj).1,
      fresh := h.fresh, count := h.count,
      countBound := h.countBound, seen := ?_, slowest := ?_ }
  · intro elem hElem
    rcases List.mem_map.mp hElem with ⟨old, hOld, rfl⟩
    rw [hPast]
    exact h.seen old hOld
  · intro hQueue hNonempty
    have hOldQueue : s.producer.queue ≠ [] := by
      simpa [State.rebase] using hQueue
    rcases h.slowest hOldQueue hNonempty with
      ⟨j, hj, hFirst⟩
    refine ⟨j, hj, ?_⟩
    rw [(h.rebase_consumer hBase hj).2, rebase_firstPointer]
    exact hFirst

end State

end BufferQueue

end Feng

------------------------------------------------------------
-- Live Sources
------------------------------------------------------------

namespace Feng

namespace BufferQueue

/- A live source puts whatever number its packet carries. -/
def liveEnabled (s : State) : Op → Prop
| .put elem => elem.seqNo < 2 ^ 16
| op => enabled s op

instance decidableLiveEnabled
    (s : State) :
    (op : Op) → Decidable (liveEnabled s op)
| .put elem =>
    inferInstanceAs (Decidable (elem.seqNo < 2 ^ 16))
| .reset => isTrue trivial
| .consumerNew => isTrue trivial
| .get k => inferInstanceAs (Decidable (k ∈ s.registered))
| .move k => inferInstanceAs (Decidable (k ∈ s.registered))
| .free k => inferInstanceAs (Decidable (k ∈ s.registered))

def liveSystem : System State Op :=
  System.ofStep initial liveEnabled step

/- The head is not above the buffer the consumer is on. -/
def HeadBelow
    (producer : BufferQueueProducer)
    (consumer : BufferQueueConsumer) : Prop :=
  consumer.queueSerial = producer.queueSerial →
    consumer.currentElementPointer ≠ none →
      ∀ head ∈ producer.queue.head?,
        head.data.seqNo ≤ consumer.lastElementSerial

/-
  Of the buffers queued, those the consumer moved past are
  not above the last one it was on, and the next one is.
-/
def PassedBelow
    (passed : List Nat)
    (producer : BufferQueueProducer)
    (consumer : BufferQueueConsumer) : Prop :=
  consumer.queueSerial = producer.queueSerial →
    consumer.currentElementPointer = none →
      (∀ elem ∈ producer.queue,
        elem.pointer ∈ passed →
          elem.data.seqNo ≤ consumer.lastElementSerial) ∧
      ∀ elem ∈ (producer.queue.dropWhile (fun elem =>
          elem.pointer ∈ passed)).head?,
        consumer.lastElementSerial < elem.data.seqNo

/- The producer and the consumer on its next buffer. -/
def bqNextMove
    (producer : BufferQueueProducer)
    (consumer : BufferQueueConsumer) :
    Option (BufferQueueProducer × BufferQueueConsumer) :=
  match bqConsumerMoveInternal producer consumer with
  | .ok (producer, consumer, true) =>
      some (producer, consumer)
  | _ => none

/- So it stays for as many moves as a consumer makes. -/
def MovesBelow :
    Nat → BufferQueueProducer → BufferQueueConsumer → Prop
| 0, _, _ => True
| limit + 1, producer, consumer =>
    HeadBelow producer consumer ∧
      ∀ x ∈ bqNextMove producer consumer,
        MovesBelow limit x.1 x.2

/-
  The numbers order the buffers as they were put, as far as
  the consumer compares them.
-/
def CallInOrder
    (past : List (State × Op))
    (s : State)
    (k : Nat) : Prop :=
  HeadBelow s.producer (s.consumer k) ∧
    PassedBelow (Reader.account (history k past)).passed
      s.producer (s.consumer k)

def InOrder
    (past : List (State × Op))
    (s : State) : Op → Prop
| .put elem =>
    elem.seqNo = 0 → s.producer.nextSerial ≠ 2 ^ 16 - 1
| .reset => True
| .consumerNew => s.producer.consumers < gMaxULong
| .get k => CallInOrder past s k
| .move k => CallInOrder past s k
| .free k =>
    CallInOrder past s k ∧
      MovesBelow (s.producer.queue.length + 2) s.producer
        (s.consumer k)

instance decidableHeadBelow
    (producer : BufferQueueProducer)
    (consumer : BufferQueueConsumer) :
    Decidable (HeadBelow producer consumer) :=
  inferInstanceAs
    (Decidable
      (consumer.queueSerial = producer.queueSerial →
        consumer.currentElementPointer ≠ none →
          ∀ head ∈ producer.queue.head?,
            head.data.seqNo ≤ consumer.lastElementSerial))

instance decidablePassedBelow
    (passed : List Nat)
    (producer : BufferQueueProducer)
    (consumer : BufferQueueConsumer) :
    Decidable (PassedBelow passed producer consumer) :=
  inferInstanceAs
    (Decidable
      (consumer.queueSerial = producer.queueSerial →
        consumer.currentElementPointer = none →
          (∀ elem ∈ producer.queue,
            elem.pointer ∈ passed →
              elem.data.seqNo ≤
                consumer.lastElementSerial) ∧
          ∀ elem ∈ (producer.queue.dropWhile (fun elem =>
              elem.pointer ∈ passed)).head?,
            consumer.lastElementSerial < elem.data.seqNo))

instance decidableMovesBelow :
    (limit : Nat) → (producer : BufferQueueProducer) →
      (consumer : BufferQueueConsumer) →
        Decidable (MovesBelow limit producer consumer)
| 0, _, _ => isTrue trivial
| limit + 1, producer, consumer =>
    have := decidableMovesBelow limit
    inferInstanceAs
      (Decidable
        (HeadBelow producer consumer ∧
          ∀ x ∈ bqNextMove producer consumer,
            MovesBelow limit x.1 x.2))

instance decidableCallInOrder
    (past : List (State × Op))
    (s : State)
    (k : Nat) :
    Decidable (CallInOrder past s k) :=
  inferInstanceAs (Decidable (_ ∧ _))

instance decidableInOrder
    (past : List (State × Op))
    (s : State) :
    (op : Op) → Decidable (InOrder past s op)
| .put elem =>
    inferInstanceAs
      (Decidable
        (elem.seqNo = 0 →
          s.producer.nextSerial ≠ 2 ^ 16 - 1))
| .reset => isTrue trivial
| .consumerNew =>
    inferInstanceAs
      (Decidable (s.producer.consumers < gMaxULong))
| .get k =>
    inferInstanceAs (Decidable (CallInOrder past s k))
| .move k =>
    inferInstanceAs (Decidable (CallInOrder past s k))
| .free k =>
    inferInstanceAs
      (Decidable
        (CallInOrder past s k ∧
          MovesBelow (s.producer.queue.length + 2) s.producer
            (s.consumer k)))

theorem confirmPointer_of_headBelow
    {producer : BufferQueueProducer}
    {consumer : BufferQueueConsumer}
    (h : HeadBelow producer consumer) :
    bqConsumerConfirmPointer producer consumer =
      bqConfirmed producer consumer := by
  cases hPointer : consumer.currentElementPointer with
  | none =>
      rw [confirmPointer_of_none producer hPointer]
      cases consumer
      simp only at hPointer
      simp [bqConfirmed, hPointer]
  | some pointer =>
      by_cases hSerial :
          consumer.queueSerial = producer.queueSerial
      · have hBelow := h hSerial (by simp [hPointer])
        cases hQueue : producer.queue with
        | nil =>
            simp [bqConsumerConfirmPointer, bqConfirmed,
              bqHolding, bqAttached, hPointer, hSerial,
              hQueue]
        | cons head rest =>
            have hNot :
                ¬ consumer.lastElementSerial <
                  head.data.seqNo := by
              have hHead := hBelow head (by simp [hQueue])
              omega
            simp [bqConsumerConfirmPointer, bqConfirmed,
              bqHolding, bqAttached, hPointer, hSerial,
              hQueue, hNot]
      · simp [bqConsumerConfirmPointer, bqConfirmed,
          bqHolding, bqAttached, hPointer, hSerial,
          Ne.symm hSerial]

end BufferQueue

end Feng

------------------------------------------------------------
-- Following A Live Queue
------------------------------------------------------------

namespace Feng

/- Skipping what one test lets pass and the other as well. -/
theorem dropWhile_eq_dropWhile
    {α : Type}
    {f g : α → Bool}
    {l : List α}
    (hBefore : ∀ x ∈ l, f x = true → g x = true)
    (hNext : ∀ x ∈ (l.dropWhile f).head?, g x = false) :
    l.dropWhile g = l.dropWhile f := by
  induction l with
  | nil =>
      rfl
  | cons x l ih =>
      cases hf : f x with
      | false =>
          have hg := hNext x (by simp [hf])
          simp [hf, hg]
      | true =>
          have hg := hBefore x List.mem_cons_self hf
          simp only [List.dropWhile_cons, hf, hg, if_true]
            at hNext ⊢
          apply ih _ hNext
          intro y hy
          exact hBefore y (List.mem_cons_of_mem x hy)

theorem BufferQueueProducer.head?_dropWhile_congr
    {p q : BufferQueueProducer}
    (h : p.unnumbered = q.unnumbered)
    (f : Nat → Bool) :
    (p.queue.dropWhile (fun elem =>
        f elem.pointer)).head?.map BQElem.pointer =
      (q.queue.dropWhile (fun elem =>
        f elem.pointer)).head?.map BQElem.pointer := by
  have hSame :
      ∀ producer : BufferQueueProducer,
        ((producer.queue.map BQElem.unnumbered).dropWhile
            (fun elem => f elem.pointer)).head?.map
              BQElem.pointer =
          (producer.queue.dropWhile (fun elem =>
            f elem.pointer)).head?.map BQElem.pointer := by
    intro producer
    rw [List.dropWhile_map, List.head?_map, Option.map_map]
    rfl
  rw [← hSame p, ← hSame q, queue_congr h]

namespace BufferQueue

namespace State

def unnumbered (s : State) : State :=
  { s with
    producer := s.producer.unnumbered
    consumer := fun k => (s.consumer k).unnumbered }

theorem update_unnumbered
    (s : State)
    (k : Nat)
    (producer : BufferQueueProducer)
    (consumer : BufferQueueConsumer) :
    (s.update k producer consumer).unnumbered =
      s.unnumbered.update k producer.unnumbered
        consumer.unnumbered := by
  simp only [unnumbered, update, mk.injEq, true_and, and_true]
  funext j
  by_cases hj : j = k
  · subst hj
    simp
  · simp [hj]

end State

/-
  A queue that numbers its buffers itself, and differs from
  a live one in the numbers only.
-/
structure Mirrors
    (past : List (State × Op))
    (a s : State) : Prop where
  same : a.unnumbered = s.unnumbered
  wf : a.Wf
  readers :
    ∀ k ∈ s.registered,
      Reader.Run (history k past) (a.reader k)

namespace Mirrors

variable {past : List (State × Op)} {a s : State} {k : Nat}

theorem producer
    (h : Mirrors past a s) :
    a.producer.unnumbered = s.producer.unnumbered :=
  congrArg State.producer h.same

theorem consumer
    (h : Mirrors past a s)
    (k : Nat) :
    (a.consumer k).unnumbered = (s.consumer k).unnumbered :=
  congrFun (congrArg State.consumer h.same) k

theorem registered
    (h : Mirrors past a s) :
    a.registered = s.registered := by
  change a.unnumbered.registered = s.unnumbered.registered
  rw [h.same]

theorem nextConsumer
    (h : Mirrors past a s) :
    a.nextConsumer = s.nextConsumer := by
  change a.unnumbered.nextConsumer = s.unnumbered.nextConsumer
  rw [h.same]

theorem mem
    (h : Mirrors past a s)
    (hMem : k ∈ s.registered) :
    k ∈ a.registered := by
  rw [h.registered]
  exact hMem

/- What a consumer behind its last buffer moved past. -/
theorem firstAbove
    (h : Mirrors past a s)
    (hMem : k ∈ s.registered)
    (hSerial :
      (a.consumer k).queueSerial = a.producer.queueSerial)
    (hNone : (a.consumer k).currentElementPointer = none) :
    bqFirstAbove a.producer (a.consumer k) =
      (a.producer.queue.dropWhile (fun elem =>
        elem.pointer ∈
          (Reader.account
            (history k past)).passed)).head?.map
        BQElem.pointer := by
  have hRun := h.readers k hMem
  rw [← h.registered] at hMem
  have hPointerRoom := h.wf.producer.pointerRoom
  have hSerialRoom := h.wf.producer.serialRoom
  have hTest :
      ∀ elem ∈ a.producer.queue,
        elem.data.seqNo ≤ (a.consumer k).lastElementSerial ↔
          elem.pointer ∈
            (Reader.account (history k past)).passed := by
    intro elem hElem
    have hBounds := h.wf.producer.pointer_bounds hElem
    have hSeqNo := h.wf.producer.seqNo_of_mem hElem
    rw [hRun.mem_passed_iff hBounds.1]
    unfold State.reader
    rw [bqReader_behind hSerial hNone]
    simp only
    omega
  unfold bqFirstAbove
  rw [dropWhile_eq_dropWhile
    (f := fun elem : BQElem => decide (elem.pointer ∈
      (Reader.account (history k past)).passed))]
  · intro elem hElem hPassed
    simpa using (hTest elem hElem).mpr (by simpa using hPassed)
  · intro elem hElem
    have hHead := List.mem_of_mem_head? hElem
    have hNot := List.head?_dropWhile_not
      (fun elem : BQElem => decide (elem.pointer ∈
        (Reader.account (history k past)).passed))
      a.producer.queue
    rw [Option.mem_def.mp hElem] at hNot
    have hQueued :=
      (List.dropWhile_sublist _).subset hHead
    simpa [hTest elem hQueued] using hNot

/- Where the numbers are in order, both compare alike. -/
theorem sameTurn
    (h : Mirrors past a s)
    (hMem : k ∈ s.registered)
    (hOrder : CallInOrder past s k) :
    SameTurn a.producer (a.consumer k) s.producer
      (s.consumer k) where
  producers := h.producer
  consumers := h.consumer k
  confirmed :=
    confirmPointer_eq h.wf.producer
      (h.wf.consumer k (h.mem hMem))
  confirmed' := confirmPointer_of_headBelow hOrder.1
  scan := by
    intro hSerial hNone
    rcases hOrder.2 hSerial hNone with ⟨hBefore, hNext⟩
    have hSerial' :
        (a.consumer k).queueSerial =
          a.producer.queueSerial := by
      rw [serial_congr (h.consumer k), hSerial,
        BufferQueueProducer.queueSerial_congr h.producer]
    have hNone' :
        (a.consumer k).currentElementPointer = none := by
      rw [pointer_congr (h.consumer k), hNone]
    have hSkip :
        s.producer.queue.dropWhile (fun elem =>
            elem.data.seqNo ≤
              (s.consumer k).lastElementSerial) =
          s.producer.queue.dropWhile (fun elem =>
            elem.pointer ∈
              (Reader.account (history k past)).passed) := by
      apply dropWhile_eq_dropWhile
      · intro elem hElem hPassed
        simpa using
          hBefore elem hElem (by simpa using hPassed)
      · intro elem hElem
        simpa using hNext elem hElem
    rw [h.firstAbove hMem hSerial' hNone']
    unfold bqFirstAbove
    rw [hSkip]
    exact BufferQueueProducer.head?_dropWhile_congr
      h.producer (fun pointer => decide (pointer ∈
        (Reader.account (history k past)).passed))

end Mirrors

end BufferQueue

end Feng

------------------------------------------------------------
-- Calls On Both Queues
------------------------------------------------------------

namespace Feng

variable {p q : BufferQueueProducer}
variable {d : BufferQueueConsumer}

theorem resetQueue_congr
    (h : p.unnumbered = q.unnumbered) :
    (bqProducerResetQueue p).map
        BufferQueueProducer.unnumbered =
      (bqProducerResetQueue q).map
        BufferQueueProducer.unnumbered := by
  unfold bqProducerResetQueue
  rw [BufferQueueProducer.stopped_congr h]
  split
  · rfl
  · simp only [Except.map, bqProducerResetQueueInternal,
      BufferQueueProducer.unnumbered,
      BufferQueueProducer.queueSerial_congr h,
      BufferQueueProducer.consumers_congr h,
      BufferQueueProducer.stopped_congr h,
      BufferQueueProducer.nextPointer_congr h]

theorem consumerNew_congr
    (h : p.unnumbered = q.unnumbered) :
    (bqConsumerNew p).map unnumberedPair =
      (bqConsumerNew q).map unnumberedPair := by
  unfold bqConsumerNew
  rw [BufferQueueProducer.consumers_congr h]
  split
  · simp only [Except.map, unnumberedPair,
      BufferQueueProducer.unnumbered,
      BufferQueueProducer.queue_congr h,
      BufferQueueProducer.queueSerial_congr h,
      BufferQueueProducer.stopped_congr h,
      BufferQueueProducer.nextPointer_congr h]
  · rfl

theorem decrementSeen_congr
    (h : p.unnumbered = q.unnumbered) :
    (p.queue.map bqDecrementSeenOnFree).map
        BQElem.unnumbered =
      (q.queue.map bqDecrementSeenOnFree).map
        BQElem.unnumbered := by
  have hSwap :
      ∀ queue : List BQElem,
        (queue.map bqDecrementSeenOnFree).map
            BQElem.unnumbered =
          (queue.map BQElem.unnumbered).map
            bqDecrementSeenOnFree := by
    intro queue
    rw [List.map_map, List.map_map]
    rfl
  rw [hSwap, hSwap, BufferQueueProducer.queue_congr h]

namespace BufferQueue

variable {past : List (State × Op)} {a s t : State}
variable {k : Nat} {op : Op}

theorem moveAll_congr
    (limit : Nat)
    (hWf : a.Wf)
    (hMem : k ∈ a.registered)
    (hProducers : a.producer.unnumbered = q.unnumbered)
    (hConsumers :
      (a.consumer k).unnumbered = d.unnumbered)
    (hScan :
      d.queueSerial = q.queueSerial →
        d.currentElementPointer = none →
          bqFirstAbove a.producer (a.consumer k) =
            bqFirstAbove q d)
    (hBelow : MovesBelow limit q d) :
    (bqConsumerMoveAll limit a.producer (a.consumer k)).map
        unnumberedPair =
      (bqConsumerMoveAll limit q d).map unnumberedPair := by
  induction limit generalizing a q d with
  | zero =>
      rfl
  | succ limit ih =>
      rcases hBelow with ⟨hHead, hRest⟩
      have hTurn :
          SameTurn a.producer (a.consumer k) q d :=
        ⟨hProducers, hConsumers,
          confirmPointer_eq hWf.producer
            (hWf.consumer k hMem),
          confirmPointer_of_headBelow hHead, hScan⟩
      rcases hWf.move hMem with
        ⟨producer, consumer, more, hMove, hMore, hSerial, _,
          hAfter⟩
      rcases Except.ok_of_map_eq hTurn.moveInternal hMove with
        ⟨⟨producer', consumer', more'⟩, hMove', hSame⟩
      rcases Prod.mk.inj hSame with ⟨hProducer, hSame⟩
      rcases Prod.mk.inj hSame with ⟨hConsumer, hMoreSame⟩
      simp only at hProducer hConsumer hMoreSame
      cases more' with
      | false =>
          simp only [bqConsumerMoveAll, hMove, hMove',
            hMoreSame, bind, Except.bind, Except.map,
            unnumberedPair, hProducer, hConsumer,
            Bool.false_eq_true, if_false]
      | true =>
          have hGeneration : producer.queueSerial ≠ 0 := by
            rw [hSerial hMoreSame]
            exact hWf.generation
          rcases hAfter hGeneration with ⟨hWf', _, hReaders⟩
          have hReader := hReaders k hMem
          rw [if_pos rfl] at hReader
          have hHolding :
              bqHolding producer consumer = true := by
            have hSame := congrArg Reader.holding hReader
            rw [State.reader_update, if_pos rfl] at hSame
            exact hSame.trans (hMore.symm.trans hMoreSame)
          have hSome :
              consumer'.currentElementPointer ≠ none := by
            rw [← pointer_congr hConsumer]
            intro hNone
            simp [bqHolding, hNone] at hHolding
          have hMoves := ih (a := a.update k producer consumer)
            (q := producer') (d := consumer') hWf' hMem
            hProducer (by simpa using hConsumer)
            (fun _ hNone => absurd hNone hSome)
            (hRest (producer', consumer')
              (by simp [bqNextMove, hMove']))
          rw [State.update_producer,
            State.update_consumer_self] at hMoves
          simpa only [bqConsumerMoveAll, hMove, hMove',
            hMoreSame, bind, Except.bind, if_true]
            using hMoves

namespace State

theorem unnumbered_eq_iff :
    a.unnumbered = s.unnumbered ↔
      a.producer.unnumbered = s.producer.unnumbered ∧
        a.registered = s.registered ∧
        (fun k => (a.consumer k).unnumbered) =
          (fun k => (s.consumer k).unnumbered) ∧
        a.nextConsumer = s.nextConsumer := by
  simp only [unnumbered, mk.injEq]

theorem queued_congr
    (h : a.producer.unnumbered = s.producer.unnumbered) :
    a.queued = s.queued := by
  have hSame :
      ∀ u : State,
        (u.producer.queue.map BQElem.unnumbered).map
          BQElem.pointer = u.queued := by
    intro u
    rw [List.map_map]
    rfl
  rw [← hSame a, ← hSame s, BufferQueueProducer.queue_congr h]

theorem current_congr
    (h :
      SameTurn a.producer (a.consumer k) s.producer
        (s.consumer k)) :
    a.current k = s.current k := by
  unfold current
  rw [h.confirmed, h.confirmed']
  exact pointer_congr h.confirmed_congr

theorem getResult_congr
    (h :
      SameTurn a.producer (a.consumer k) s.producer
        (s.consumer k)) :
    a.getResult k = s.getResult k := by
  have hGet := h.get
  unfold getResult
  cases hOwn :
      bqConsumerGet a.producer (a.consumer k) with
  | error fault =>
      rw [hOwn] at hGet
      cases hLive :
          bqConsumerGet s.producer (s.consumer k) with
      | error fault => rfl
      | ok result =>
          rw [hLive] at hGet
          cases hGet
  | ok result =>
      rcases Except.ok_of_map_eq hGet hOwn with
        ⟨⟨producer, consumer, element⟩, hLive, hSame⟩
      rcases result with ⟨producer', consumer', element'⟩
      rcases Prod.mk.inj hSame with ⟨_, hSame⟩
      rcases Prod.mk.inj hSame with ⟨_, hElement⟩
      simp only at hElement
      rw [hLive]
      have hPointer :=
        congrArg (Option.map BQElem.pointer) hElement
      rw [Option.map_map, Option.map_map] at hPointer
      exact hPointer

end State

namespace Mirrors

theorem event
    (h : Mirrors past a s)
    (hEnabled : liveEnabled s op)
    (hOrder : InOrder past s op)
    (k : Nat) :
    eventOf k a op = eventOf k s op := by
  have hQueued := State.queued_congr h.producer
  cases op with
  | put elem =>
      simp only [eventOf,
        BufferQueueProducer.nextPointer_congr h.producer]
  | reset =>
      simp only [eventOf, hQueued]
  | consumerNew =>
      simp only [eventOf, hQueued, h.nextConsumer]
  | get j =>
      by_cases hj : j = k
      · subst hj
        have hTurn := h.sameTurn hEnabled hOrder
        simp only [eventOf, State.getResult_congr hTurn]
      · simp only [eventOf, if_neg hj]
  | move j =>
      by_cases hj : j = k
      · subst hj
        have hTurn := h.sameTurn hEnabled hOrder
        simp only [eventOf, State.current_congr hTurn]
      · simp only [eventOf, if_neg hj]
  | free j =>
      rfl

theorem update
    (h : Mirrors past a s)
    (k : Nat)
    {p q : BufferQueueProducer}
    {c d : BufferQueueConsumer}
    (hProducers : p.unnumbered = q.unnumbered)
    (hConsumers : c.unnumbered = d.unnumbered) :
    (a.update k p c).unnumbered =
      (s.update k q d).unnumbered := by
  rw [State.update_unnumbered, State.update_unnumbered,
    h.same, hProducers, hConsumers]

theorem free
    (h : Mirrors past a s)
    (hMem : k ∈ s.registered)
    (hOrder : InOrder past s (.free k)) :
    (bqConsumerFree a.producer (a.consumer k)).map
        BufferQueueProducer.unnumbered =
      (bqConsumerFree s.producer (s.consumer k)).map
        BufferQueueProducer.unnumbered := by
  rcases hOrder with ⟨hCall, hMoves⟩
  have hTurn := h.sameTurn hMem hCall
  unfold bqConsumerFree
  rw [BufferQueueProducer.consumers_congr h.producer,
    BufferQueueProducer.length_congr h.producer]
  by_cases hNone : s.producer.consumers = 0
  · rw [if_pos hNone, if_pos hNone]
  rw [if_neg hNone, if_neg hNone]
  apply Except.bind_map_congr
    (moveAll_congr _ h.wf (h.mem hMem) h.producer (h.consumer k)
      hTurn.scan hMoves)
  intro x y hSame
  rcases Prod.mk.inj hSame with ⟨hProducers, _⟩
  simp only [Except.map, BufferQueueProducer.unnumbered,
    decrementSeen_congr hProducers,
    BufferQueueProducer.queueSerial_congr hProducers,
    BufferQueueProducer.consumers_congr hProducers,
    BufferQueueProducer.stopped_congr hProducers,
    BufferQueueProducer.nextPointer_congr hProducers]

/- Every call but a put leaves the two queues alike. -/
theorem step_same
    (h : Mirrors past a s)
    (hPut : ∀ elem, op ≠ .put elem)
    (hEnabled : liveEnabled s op)
    (hOrder : InOrder past s op) :
    (step a op).map State.unnumbered =
      (step s op).map State.unnumbered := by
  rcases State.unnumbered_eq_iff.mp h.same with
    ⟨_, hRegistered, hConsumers, hNext⟩
  cases op with
  | put elem =>
      exact absurd rfl (hPut elem)
  | reset =>
      apply Except.bind_map_congr
        (resetQueue_congr h.producer)
      intro p q hSame
      exact congrArg Except.ok (State.unnumbered_eq_iff.mpr
        ⟨hSame, hRegistered, hConsumers, hNext⟩)
  | consumerNew =>
      apply Except.bind_map_congr
        (consumerNew_congr h.producer)
      intro x y hSame
      rcases Prod.mk.inj hSame with ⟨hProducer, hConsumer⟩
      apply congrArg Except.ok
      apply State.unnumbered_eq_iff.mpr
      refine ⟨hProducer, by simp only [hRegistered, hNext],
        ?_, by simp only [hNext]⟩
      funext j
      by_cases hj : j = s.nextConsumer
      · subst hj
        simpa [hNext] using hConsumer
      · simpa [hNext, hj] using h.consumer j
  | get k =>
      apply Except.bind_map_congr
        (h.sameTurn hEnabled hOrder).get
      intro x y hSame
      rcases Prod.mk.inj hSame with ⟨hProducer, hSame⟩
      rcases Prod.mk.inj hSame with ⟨hConsumer, _⟩
      exact congrArg Except.ok
        (h.update k hProducer hConsumer)
  | move k =>
      apply Except.bind_map_congr
        (h.sameTurn hEnabled hOrder).move
      intro x y hSame
      rcases Prod.mk.inj hSame with ⟨hProducer, hSame⟩
      rcases Prod.mk.inj hSame with ⟨hConsumer, _⟩
      exact congrArg Except.ok
        (h.update k hProducer hConsumer)
  | free k =>
      apply Except.bind_map_congr (h.free hEnabled hOrder)
      intro p q hSame
      apply congrArg Except.ok
      apply State.unnumbered_eq_iff.mpr
      exact ⟨hSame, by simp only [hRegistered], hConsumers,
        hNext⟩

end Mirrors

end BufferQueue

end Feng

------------------------------------------------------------
-- Steps Of A Live Queue
------------------------------------------------------------

namespace Feng

/- The producer once a buffer was put, numbered or not. -/
def BufferQueueProducer.enqueueLive
    (producer : BufferQueueProducer)
    (elem : MParserBuffer) : BufferQueueProducer :=
  { producer with
    nextSerial :=
      if elem.seqNo = 0 then
        producer.nextSerial + 1
      else
        producer.nextSerial
    queue := producer.queue ++
      [{ pointer := producer.nextPointer
         data := { elem with
           seen := 0
           seqNo :=
             if elem.seqNo = 0 then
               producer.nextSerial
             else
               elem.seqNo } }]
    nextPointer := producer.nextPointer + 1 }

namespace BufferQueue

variable {past trace : List (State × Op)} {a s t : State}
variable {k : Nat} {op : Op}

/- What a live queue keeps of the numbers it gives itself. -/
structure Counted (s : State) : Prop where
  numbered : Numbered s.producer
  positive : 0 < s.producer.nextSerial
  bound : s.producer.nextSerial < 2 ^ 16

theorem livePut_eq
    (hRunning : s.producer.stopped = false)
    (hCounted : Counted s)
    {elem : MParserBuffer}
    (hOrder : InOrder past s (.put elem)) :
    bqProducerPut s.producer elem =
      .ok (s.producer.enqueueLive elem) := by
  have hPositive := hCounted.positive
  have hBound := hCounted.bound
  by_cases hSeqNo : elem.seqNo = 0
  · have hRoom := hOrder hSeqNo
    have hNext :
        nextUInt16 s.producer.nextSerial =
          s.producer.nextSerial + 1 := by
      unfold nextUInt16
      omega
    simp [bqProducerPut, hRunning, hSeqNo, hNext,
      BufferQueueProducer.enqueueLive]
  · have hNext : s.producer.nextSerial ≠ 0 := by
      omega
    simp [bqProducerPut, hRunning, hSeqNo, hNext,
      BufferQueueProducer.enqueueLive]

theorem Counted.step
    (h : Counted s)
    (hRunning : s.producer.stopped = false)
    (hOrder : InOrder past s op)
    (hStep : step s op = .ok t) :
    Counted t := by
  have hPositive := h.positive
  have hBound := h.bound
  by_cases hPut : ∃ elem, op = .put elem
  · rcases hPut with ⟨elem, rfl⟩
    rw [BufferQueue.step, livePut_eq hRunning h hOrder]
      at hStep
    cases hStep
    refine ⟨?_, ?_, ?_⟩
    · intro hNil
      simp [BufferQueueProducer.enqueueLive] at hNil
    · simp only [BufferQueueProducer.enqueueLive]
      split
      · omega
      · exact hPositive
    · simp only [BufferQueueProducer.enqueueLive]
      split
      · rename_i hSeqNo
        have hRoom := hOrder hSeqNo
        omega
      · exact hBound
  by_cases hReset : op = .reset
  · subst hReset
    simp only [BufferQueue.step, bqProducerResetQueue,
      hRunning, Bool.false_eq_true, if_false] at hStep
    cases hStep
    exact ⟨fun _ => rfl, Nat.one_pos, by
      simp [bqProducerResetQueueInternal]⟩
  have hKeeps := step_keepsQueue
    (fun elem hEq => hPut ⟨elem, hEq⟩) hReset hStep
  have hNumbered := hKeeps.numbered h.numbered
  by_cases hQueue : t.producer.queue = []
  · have hOne := hNumbered hQueue
    exact ⟨hNumbered, by omega, by omega⟩
  · have hSame := (hKeeps.serial hQueue).2
    exact ⟨hNumbered, by omega, by omega⟩

namespace Mirrors

theorem running
    (h : Mirrors past a s) :
    s.producer.stopped = false := by
  rw [← BufferQueueProducer.stopped_congr h.producer]
  exact h.wf.producer.running

theorem rebase_unnumbered
    (a : State)
    (base : Nat) :
    (a.rebase base).unnumbered = a.unnumbered := by
  apply State.unnumbered_eq_iff.mpr
  refine ⟨?_, rfl, rfl, rfl⟩
  simp only [State.rebase, BufferQueueProducer.unnumbered,
    List.map_map]
  rfl

/- The other queue counts from one again before each put. -/
theorem put
    (h : Mirrors past a s)
    (hLength : s.producer.queue.length ≤ 2 ^ 15)
    (hCounted : Counted s)
    {elem : MParserBuffer}
    (hOrder : InOrder past s (.put elem))
    (hStep : step s (.put elem) = .ok t) :
    ∃ b, Mirrors (past ++ [(s, .put elem)]) b t := by
  rw [step, livePut_eq h.running hCounted hOrder] at hStep
  cases hStep
  have hRoom := h.wf.producer.serialRoom
  have hSameLength :=
    BufferQueueProducer.length_congr h.producer
  have hBase :
      a.producer.firstSerial - 1 < a.producer.firstSerial := by
    unfold BufferQueueProducer.firstSerial
    omega
  let b := a.rebase (a.producer.firstSerial - 1)
  have hWf : b.Wf := h.wf.rebase hBase
  have hSame : b.unnumbered = s.unnumbered :=
    (rebase_unnumbered a _).trans h.same
  have hProducer :
      b.producer.unnumbered = s.producer.unnumbered :=
    (State.unnumbered_eq_iff.mp hSame).1
  have hNext :
      b.producer.nextSerial ≠ 2 ^ 16 - 1 := by
    simp only [b, State.rebase]
    unfold BufferQueueProducer.firstSerial
    omega
  have hPut :
      bqProducerPut b.producer { elem with seqNo := 0 } = _ :=
    producerPut_eq hWf.producer.running
      hWf.producer.serialBound rfl
  rw [if_neg hNext] at hPut
  rcases hWf.put rfl hPut with ⟨hWf', hReaders⟩
  refine ⟨_, ?_, hWf', ?_⟩
  · rcases State.unnumbered_eq_iff.mp hSame with
      ⟨_, hRegistered, hConsumers, hNextConsumer⟩
    apply State.unnumbered_eq_iff.mpr
    refine ⟨?_, hRegistered, hConsumers, hNextConsumer⟩
    simp only [BufferQueueProducer.unnumbered,
      BufferQueueProducer.enqueue,
      BufferQueueProducer.enqueueLive, List.map_append,
      BufferQueueProducer.queue_congr hProducer,
      BufferQueueProducer.queueSerial_congr hProducer,
      BufferQueueProducer.consumers_congr hProducer,
      BufferQueueProducer.stopped_congr hProducer,
      BufferQueueProducer.nextPointer_congr hProducer]
    simp [queuedElem, BQElem.unnumbered,
      MParserBuffer.unnumbered,
      BufferQueueProducer.nextPointer_congr hProducer]
  · intro k hk
    have hMem := h.mem hk
    have hNextPointer :=
      BufferQueueProducer.nextPointer_congr h.producer
    rw [hReaders k hMem, (h.wf.rebase_consumer hBase hMem).2,
      history_snoc]
    have hEvent :
        eventOf k s (.put elem) =
          .put (a.reader k).next := by
      simp only [eventOf, ← hNextPointer]
      rfl
    rw [hEvent]
    exact Reader.Run.step (h.readers k hk) Reader.Step.put

theorem step
    (h : Mirrors past a s)
    (hLength : s.producer.queue.length ≤ 2 ^ 15)
    (hCounted : Counted s)
    (hEnabled : liveEnabled s op)
    (hOrder : InOrder past s op)
    (hStep : BufferQueue.step s op = .ok t)
    (hGeneration : t.producer.queueSerial ≠ 0) :
    ∃ b, Mirrors (past ++ [(s, op)]) b t := by
  by_cases hPut : ∃ elem, op = .put elem
  · rcases hPut with ⟨elem, rfl⟩
    exact h.put hLength hCounted hOrder hStep
  have hNotPut : ∀ elem, op ≠ .put elem :=
    fun elem hEq => hPut ⟨elem, hEq⟩
  have hSteps := h.step_same hNotPut hEnabled hOrder
  rcases Except.ok_of_map_eq hSteps.symm hStep with
    ⟨b, hOwn, hSame⟩
  have hProducer :=
    (State.unnumbered_eq_iff.mp hSame).1
  have hOwnEnabled : enabled a op := by
    cases op with
    | put elem => exact absurd rfl (hNotPut elem)
    | reset => trivial
    | consumerNew => trivial
    | get k => exact h.mem hEnabled
    | move k => exact h.mem hEnabled
    | free k => exact h.mem hEnabled
  have hOwnGeneration : b.producer.queueSerial ≠ 0 := by
    rw [← BufferQueueProducer.queueSerial_congr hProducer]
    exact hGeneration
  rcases h.wf.step_wf hOwnEnabled hOwn hOwnGeneration with
    ⟨hWf, hFollows, hJoins⟩
  refine ⟨b, hSame.symm, hWf, ?_⟩
  intro k hk
  have hMem : k ∈ b.registered := by
    rw [← (State.unnumbered_eq_iff.mp hSame).2.1]
    exact hk
  have hEvent := h.event hEnabled hOrder k
  rw [history_snoc]
  by_cases hOld : k ∈ s.registered
  · have hReader := hFollows k hMem (h.mem hOld)
    rw [hEvent] at hReader
    exact Reader.Run.step (h.readers k hOld) hReader
  · have hNew : k ∉ a.registered := by
      rw [h.registered]
      exact hOld
    rcases hJoins k hMem hNew with
      ⟨hKept, hCursor, hFirst, hHolding⟩
    rw [← hEvent, hKept]
    exact Reader.Run.registered hCursor hFirst hHolding

/- In order, no call aborts. -/
theorem step_ok
    (h : Mirrors past a s)
    (hCounted : Counted s)
    (hEnabled : liveEnabled s op)
    (hOrder : InOrder past s op) :
    ∃ t, BufferQueue.step s op = .ok t := by
  by_cases hPut : ∃ elem, op = .put elem
  · rcases hPut with ⟨elem, rfl⟩
    rw [BufferQueue.step,
      livePut_eq h.running hCounted hOrder]
    exact ⟨_, rfl⟩
  have hNotPut : ∀ elem, op ≠ .put elem :=
    fun elem hEq => hPut ⟨elem, hEq⟩
  have hOwn : ∃ b, BufferQueue.step a op = .ok b := by
    have hRunning := h.wf.producer.running
    cases op with
    | put elem =>
        exact absurd rfl (hNotPut elem)
    | reset =>
        simp [BufferQueue.step, bqProducerResetQueue,
          hRunning, bind, Except.bind]
    | consumerNew =>
        have hRoom : a.producer.consumers < gMaxULong := by
          rw [BufferQueueProducer.consumers_congr h.producer]
          exact hOrder
        simp [BufferQueue.step, bqConsumerNew, hRoom, bind,
          Except.bind]
    | get k =>
        have hMem := h.mem hEnabled
        rcases consumerGet_eq h.wf.producer
            (h.wf.consumer k hMem) with
          ⟨consumer, element, hGet, _⟩
        simp [BufferQueue.step, hGet, bind, Except.bind]
    | move k =>
        have hMem := h.mem hEnabled
        rcases h.wf.move hMem with
          ⟨producer, consumer, more, hMove, _⟩
        simp [BufferQueue.step, bqConsumerMove, hRunning,
          hMove, bind, Except.bind]
    | free k =>
        have hMem := h.mem hEnabled
        rcases h.wf.free hMem with ⟨producer, hFree, _⟩
        simp [BufferQueue.step, hFree, bind, Except.bind]
  rcases hOwn with ⟨b, hOwn⟩
  rcases Except.ok_of_map_eq
      (h.step_same hNotPut hEnabled hOrder) hOwn with
    ⟨t, hStep, _⟩
  exact ⟨t, hStep⟩

end Mirrors

end BufferQueue

end Feng

------------------------------------------------------------
-- Runs Of A Live Queue
------------------------------------------------------------

namespace Feng

namespace BufferQueue

variable {trace : List (State × Op)} {s : State}

/- The queue holds no more than half of the numbers. -/
def AtMostHalf (s : State) : Prop :=
  s.producer.queue.length ≤ 2 ^ 15

instance decidableAtMostHalf : DecidablePred AtMostHalf :=
  fun s =>
    inferInstanceAs
      (Decidable (s.producer.queue.length ≤ 2 ^ 15))

theorem live_run
    (hRun : liveSystem.Run trace s)
    (hQueue : System.Always AtMostHalf trace s)
    (hSerials : System.Always NotWrapped trace s)
    (hOrder : System.PastGuarded InOrder [] trace) :
    Counted s ∧ ∃ a, Mirrors trace a s := by
  induction hRun with
  | start hStart =>
      cases hStart
      refine ⟨⟨fun _ => rfl, Nat.one_pos, by decide⟩,
        initial, rfl, State.initial_wf, ?_⟩
      intro k hk
      cases hk
  | @step trace s t op _ hStep ih =>
      rcases System.always_snoc.mp hQueue with ⟨hHalf, _⟩
      rcases System.always_snoc.mp hSerials with
        ⟨hPrior, hLast⟩
      rcases System.pastGuarded_snoc.mp hOrder with
        ⟨hBefore, hNow⟩
      rcases ih hHalf hPrior hBefore with
        ⟨hCounted, a, hMirrors⟩
      exact ⟨hCounted.step hMirrors.running hNow hStep.2,
        hMirrors.step hHalf.2 hCounted hStep.1 hNow hStep.2
          hLast⟩

/-
  Exactly-once delivery to every consumer that asks before
  it moves, and no assertion that fails, whatever numbers
  the buffers carry.
-/
structure LiveDelivers
    (trace : List (State × Op))
    (s : State) : Prop where
  sorted :
    ∀ k ∈ s.registered,
      Reader.Alternating (history k trace) →
        (Reader.account
          (history k trace)).eligible.Pairwise (· < ·)
  exactly :
    ∀ k ∈ s.registered,
      Reader.Alternating (history k trace) →
        (Reader.account (history k trace)).eligible.filter
            (· ∉ (Reader.account (history k trace)).lost) =
          (Reader.account (history k trace)).obtained ++
            s.queued.filter
              (· ∉ (Reader.account
                (history k trace)).obtained)
  next :
    ∀ k ∈ s.registered,
      Reader.Alternating (history k trace) →
        CallInOrder trace s k →
          (Reader.account (history k trace)).held = none →
            s.getResult k =
              (s.queued.filter
                (· ∉ (Reader.account
                  (history k trace)).obtained)).head?
  assertions :
    ∀ op, liveEnabled s op → InOrder trace s op →
      ∀ fault, step s op ≠ .error fault

theorem live_delivers
    (hRun : liveSystem.Run trace s)
    (hQueue : System.Always AtMostHalf trace s)
    (hSerials : System.Always NotWrapped trace s)
    (hOrder : System.PastGuarded InOrder [] trace) :
    LiveDelivers trace s := by
  rcases live_run hRun hQueue hSerials hOrder with
    ⟨hCounted, a, hMirrors⟩
  have hQueued := State.queued_congr hMirrors.producer
  have hKept :
      ∀ k, s.queued = (a.reader k).kept := by
    intro k
    rw [← hQueued]
    exact hMirrors.wf.queued_eq
  refine ⟨?_, ?_, ?_, ?_⟩
  · intro k hk hCalls
    have hDelivered := (hMirrors.readers k hk).delivered hCalls
    rcases hDelivered.eligible with ⟨base, _, hEq⟩
    rw [hEq]
    exact List.pairwise_lt_range'
  · intro k hk hCalls
    have hReader := hMirrors.readers k hk
    have hDelivered := hReader.delivered hCalls
    rw [hKept k, hDelivered.kept_filter hReader.valid]
    exact hDelivered.pending
  · intro k hk hCalls hCall hHeld
    have hReader := hMirrors.readers k hk
    have hDelivered := hReader.delivered hCalls
    have hTurn := hMirrors.sameTurn hk hCall
    have hMem := hMirrors.mem hk
    rw [← State.getResult_congr hTurn,
      hMirrors.wf.getResult_eq hMem, hKept k]
    exact hDelivered.result_eq hReader.valid hHeld
  · intro op hEnabled hNow fault hStep
    rcases hMirrors.step_ok hCounted hEnabled hNow with
      ⟨t, hOk⟩
    rw [hOk] at hStep
    cases hStep

/- A packet's buffer, with the number it carries. -/
def liveBuffer (seqNo : Nat) : MParserBuffer :=
  { sampleBuffer with seqNo := seqNo }

/- One consumer follows the numbers round to zero. -/
def liveOps : List Op :=
  [.consumerNew, .put (liveBuffer 65535), .get 0,
    .put (liveBuffer 0), .move 0, .get 0, .consumerNew,
    .put (liveBuffer 1), .get 1]

theorem live_delivers_sample :
    LiveDelivers (System.replayTrace step initial liveOps)
      (System.replayEnd step initial liveOps) :=
  live_delivers
    (System.replay_run (by decide +kernel)
      (by decide +kernel))
    (by decide +kernel) (by decide +kernel)
    (by decide +kernel)

/- The numbers of the buffers put, oldest first. -/
def putNumbers (trace : List (State × Op)) : List Nat :=
  trace.filterMap (fun x =>
    match x.2 with
    | .put elem => some elem.seqNo
    | _ => none)

/- Two consumers, and buffers numbered 65535 and 0. -/
def wrapOps : List Op :=
  [.consumerNew, .consumerNew, .put (liveBuffer 65535),
    .put (liveBuffer 0), .get 0, .move 0, .get 0]

/- Behind the wrap a consumer is handed the head once more. -/
theorem live_repeats :
    ∃ trace s,
      liveSystem.Run trace s ∧
        (putNumbers trace).IsChain
          (fun m n => n = nextUInt16 m) ∧
        System.Always AtMostHalf trace s ∧
        System.Always NotWrapped trace s ∧
        0 ∈ s.registered ∧
        Reader.Alternating (history 0 trace) ∧
        (Reader.account (history 0 trace)).obtained =
          [0, 0] ∧
        ¬ LiveDelivers trace s := by
  have hRun :
      liveSystem.Run (System.replayTrace step initial wrapOps)
        (System.replayEnd step initial wrapOps) :=
    System.replay_run (by decide +kernel) (by decide +kernel)
  refine ⟨_, _, hRun, by decide +kernel, by decide +kernel,
    by decide +kernel, by decide +kernel, by decide +kernel,
    by decide +kernel, ?_⟩
  intro hDelivers
  have hExactly := hDelivers.exactly 0 (by decide +kernel)
    (by decide +kernel)
  exact absurd hExactly (by decide +kernel)

end BufferQueue

end Feng
