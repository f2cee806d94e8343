import Feng.BufferQueue.Cursor
import Mathlib.Data.Finset.Card

/-
  The `seen` counts of the queued buffers, the serial numbers
  and the pointers of all consumers, through every operation
  of the queue.

  Key definitions include:
    * `State.reader`
    * `State.Wf`

  Key theorems include:
    * `State.Wf.move`
    * `State.Wf.moveAll`
    * `State.Wf.put`
    * `State.Wf.free`
-/

------------------------------------------------------------
-- Counting The Readers Past An Entry
------------------------------------------------------------

namespace Feng

/-
  When one member advances by one, the count of those past an
  entry only changes for the entry it left.
-/
theorem card_filter_advance
    {ι : Type}
    [DecidableEq ι]
    {S : Finset ι}
    {f g : ι → Nat}
    {k : ι}
    (hMem : k ∈ S)
    (hOthers : ∀ j ∈ S, j ≠ k → g j = f j)
    (hAdvance : g k = f k + 1)
    (n : Nat) :
    (S.filter (fun j => n < g j)).card =
      (S.filter (fun j => n < f j)).card +
        if n = f k then 1 else 0 := by
  by_cases hEq : n = f k
  · have hNotMem : k ∉ S.filter (fun j => n < f j) := by
      simp [hEq]
    have hInsert :
        S.filter (fun j => n < g j) =
          insert k (S.filter (fun j => n < f j)) := by
      ext j
      simp only [Finset.mem_filter, Finset.mem_insert]
      by_cases hj : j = k
      · subst hj
        simp [hMem, hAdvance, hEq]
      · constructor
        · rintro ⟨hjMem, hLess⟩
          exact Or.inr ⟨hjMem, hOthers j hjMem hj ▸ hLess⟩
        · rintro (hSame | ⟨hjMem, hLess⟩)
          · exact absurd hSame hj
          · exact ⟨hjMem, (hOthers j hjMem hj).symm ▸ hLess⟩
    rw [hInsert, Finset.card_insert_of_notMem hNotMem,
      if_pos hEq]
  · have hSame :
        S.filter (fun j => n < g j) =
          S.filter (fun j => n < f j) := by
      refine Finset.filter_congr ?_
      intro j hjMem
      by_cases hj : j = k
      · subst hj
        rw [hAdvance]
        omega
      · rw [hOthers j hjMem hj]
    rw [hSame, if_neg hEq, Nat.add_zero]

end Feng

------------------------------------------------------------
-- Well-Formed States
------------------------------------------------------------

namespace Feng

namespace BufferQueue

namespace State

/- A consumer's place in the log of all buffers. -/
def reader (s : State) (k : Nat) : Reader :=
  bqReader s.producer (s.consumer k)

/- The registered consumers that moved past a buffer. -/
def past (s : State) (pointer : Nat) : Finset Nat :=
  s.registered.filter
    (fun k => pointer < (s.reader k).cursor)

/-
  All consumers have their place, every `seen` counts those
  that moved past, and the head waits for somebody.
-/
structure Wf (s : State) : Prop where
  producer : s.producer.Wf
  generation : s.producer.queueSerial ≠ 0
  consumer :
    ∀ k ∈ s.registered, ConsumerWf s.producer (s.consumer k)
  fresh : ∀ k ∈ s.registered, k < s.nextConsumer
  count : s.producer.consumers = s.registered.card
  countBound : s.producer.consumers ≤ gMaxULong
  seen :
    ∀ elem ∈ s.producer.queue,
      elem.data.seen = (s.past elem.pointer).card
  slowest :
    s.producer.queue ≠ [] → s.registered.Nonempty →
      ∃ k ∈ s.registered,
        (s.reader k).cursor = s.producer.firstPointer

variable {s : State} {k : Nat}

theorem Wf.valid
    (h : s.Wf)
    (hMem : k ∈ s.registered) :
    (s.reader k).Valid :=
  (h.consumer k hMem).valid h.producer

theorem Wf.seen_lt
    (h : s.Wf)
    {elem : BQElem}
    (hElem : elem ∈ s.producer.queue)
    (hConsumers : s.registered.Nonempty) :
    elem.data.seen < s.producer.consumers := by
  rcases h.slowest (List.ne_nil_of_mem hElem) hConsumers with
    ⟨j, hj, hCursor⟩
  have hBounds := h.producer.pointer_bounds hElem
  rw [h.seen elem hElem, h.count]
  refine Finset.card_lt_card ?_
  refine Finset.filter_ssubset.mpr ⟨j, hj, ?_⟩
  omega

/- All others have moved past a buffer that they have seen. -/
theorem Wf.past_of_last
    (h : s.Wf)
    (hMem : k ∈ s.registered)
    {elem : BQElem}
    (hElem : elem ∈ s.producer.queue)
    (hCursor : (s.reader k).cursor = elem.pointer)
    (hLast :
      elem.data.seen + 1 = s.producer.consumers) :
    ∀ j ∈ s.registered, j ≠ k →
      elem.pointer < (s.reader j).cursor := by
  have hSubset :
      s.past elem.pointer ⊆ s.registered.erase k := by
    intro j hj
    rcases Finset.mem_filter.mp hj with ⟨hjMem, hLess⟩
    refine Finset.mem_erase.mpr ⟨?_, hjMem⟩
    intro hSame
    rw [hSame, hCursor] at hLess
    exact Nat.lt_irrefl _ hLess
  have hCard :
      (s.registered.erase k).card ≤
        (s.past elem.pointer).card := by
    rw [Finset.card_erase_of_mem hMem, ← h.count,
      ← h.seen elem hElem]
    omega
  have hSame := Finset.eq_of_subset_of_card_le hSubset hCard
  intro j hj hne
  have hPast : j ∈ s.past elem.pointer := by
    rw [hSame]
    exact Finset.mem_erase.mpr ⟨hne, hj⟩
  exact (Finset.mem_filter.mp hPast).2

/- The assertions hold for the buffer a consumer leaves. -/
theorem Wf.unrefable
    (h : s.Wf)
    (hMem : k ∈ s.registered)
    {elem : BQElem}
    (hElem : elem ∈ s.producer.queue)
    (hCursor : (s.reader k).cursor = elem.pointer) :
    Unrefable s.producer elem where
  mem := hElem
  unseen := h.seen_lt hElem ⟨k, hMem⟩
  bound := h.countBound
  head := by
    intro hLast
    rcases h.slowest (List.ne_nil_of_mem hElem)
        ⟨k, hMem⟩ with
      ⟨j, hj, hFirst⟩
    have hBounds := h.producer.pointer_bounds hElem
    by_cases hSame : j = k
    · rw [← hCursor, ← hSame, hFirst]
    · have hPast := h.past_of_last hMem hElem hCursor hLast
        j hj hSame
      omega

theorem reader_update
    (producer : BufferQueueProducer)
    (consumer : BufferQueueConsumer)
    (j : Nat) :
    (s.update k producer consumer).reader j =
      bqReader producer
        (if j = k then consumer else s.consumer j) := by
  by_cases hj : j = k
  · subst hj
    simp [reader, update]
  · simp [reader, update, hj]

/- A consumer that only changes what it holds. -/
theorem Wf.update_same
    (h : s.Wf)
    (hMem : k ∈ s.registered)
    {consumer : BufferQueueConsumer}
    (hConsumer : ConsumerWf s.producer consumer)
    (hCursor :
      (bqReader s.producer consumer).cursor =
        (s.reader k).cursor) :
    (s.update k s.producer consumer).Wf := by
  have hCursors :
      ∀ j,
        ((s.update k s.producer consumer).reader j).cursor =
          (s.reader j).cursor := by
    intro j
    rw [reader_update]
    by_cases hj : j = k
    · rw [if_pos hj, hj, hCursor]
    · rw [if_neg hj]
      rfl
  have hPast :
      ∀ pointer,
        (s.update k s.producer consumer).past pointer =
          s.past pointer := by
    intro pointer
    simp only [past, hCursors]
    rfl
  refine
    { producer := h.producer, generation := h.generation,
      consumer := ?_, fresh := h.fresh, count := h.count,
      countBound := h.countBound, seen := ?_, slowest := ?_ }
  · intro j hj
    by_cases hjk : j = k
    · subst hjk
      simpa [update] using hConsumer
    · simpa [update, hjk] using h.consumer j hj
  · intro elem hElem
    rw [hPast]
    exact h.seen elem hElem
  · intro hQueue hNonempty
    rcases h.slowest hQueue hNonempty with ⟨j, hj, hFirst⟩
    exact ⟨j, hj, (hCursors j).trans hFirst⟩

end State

end BufferQueue

end Feng

------------------------------------------------------------
-- Moving On
------------------------------------------------------------

namespace Feng

namespace BufferQueue

namespace State

variable {s : State} {k : Nat}

/-
  Leaving a buffer behind: the places of all consumers in
  the queue that is left.
-/
theorem Wf.unref_readers
    (h : s.Wf)
    (hMem : k ∈ s.registered)
    {elem : BQElem}
    (hElem : elem ∈ s.producer.queue)
    (hCursor : (s.reader k).cursor = elem.pointer)
    (hGeneration :
      (s.producer.unref elem).queueSerial ≠ 0) :
    ∀ j ∈ s.registered, j ≠ k →
      ConsumerWf (s.producer.unref elem) (s.consumer j) ∧
        bqReader (s.producer.unref elem) (s.consumer j) =
          { s.reader j with
            first :=
              (s.producer.unref elem).firstPointer } := by
  intro j hj hne
  have hUnref := h.unrefable hMem hElem hCursor
  refine (h.consumer j hj).unref h.producer hUnref
    hGeneration ?_
  intro hLast
  have hBounds := h.producer.pointer_bounds hElem
  have hPast := h.past_of_last hMem hElem hCursor hLast
    j hj hne
  exact Nat.lt_of_le_of_lt hBounds.1 hPast

/- The state once a consumer left the buffer it was on. -/
theorem Wf.update_unref
    (h : s.Wf)
    (hMem : k ∈ s.registered)
    {elem : BQElem}
    (hElem : elem ∈ s.producer.queue)
    (hCursor : (s.reader k).cursor = elem.pointer)
    (hGeneration :
      (s.producer.unref elem).queueSerial ≠ 0)
    {consumer : BufferQueueConsumer}
    (hConsumer :
      ConsumerWf (s.producer.unref elem) consumer)
    (hNewCursor :
      (bqReader (s.producer.unref elem) consumer).cursor =
        elem.pointer + 1) :
    (s.update k (s.producer.unref elem) consumer).Wf := by
  have hUnref := h.unrefable hMem hElem hCursor
  have hOthers := h.unref_readers hMem hElem hCursor
    hGeneration
  rcases hUnref.unref h.producer with
    ⟨hUnrefWf, hNextPointer, hFirstPointer⟩
  let t := s.update k (s.producer.unref elem) consumer
  have hOther :
      ∀ j ∈ s.registered, j ≠ k →
        (t.reader j).cursor = (s.reader j).cursor := by
    intro j hj hne
    simp only [t, reader_update, if_neg hne,
      (hOthers j hj hne).2]
  have hMoved :
      (t.reader k).cursor = (s.reader k).cursor + 1 := by
    simp only [t, reader_update, if_true, hNewCursor, hCursor]
  have hCard :
      ∀ pointer,
        (t.past pointer).card =
          (s.past pointer).card +
            if pointer = (s.reader k).cursor then 1 else 0 :=
    card_filter_advance hMem hOther hMoved
  refine
    { producer := hUnrefWf, generation := hGeneration,
      consumer := ?_, fresh := h.fresh, count := ?_,
      countBound := ?_, seen := ?_, slowest := ?_ }
  · intro j hj
    by_cases hjk : j = k
    · subst hjk
      simpa [update] using hConsumer
    · simpa [update, hjk] using (hOthers j hj hjk).1
  · change (s.producer.unref elem).consumers = _
    rw [BufferQueueProducer.unref_consumers]
    exact h.count
  · change (s.producer.unref elem).consumers ≤ _
    rw [BufferQueueProducer.unref_consumers]
    exact h.countBound
  · intro other hOtherMem
    rcases BufferQueueProducer.mem_unref hOtherMem with
      ⟨old, hOld, hPointer, hSeen⟩
    rw [hSeen, hCard, hPointer, hCursor]
    by_cases hSame : old.pointer = elem.pointer
    · have hEq := h.producer.eq_of_pointer hOld hElem hSame
      rw [if_pos hSame, if_pos hSame, hEq,
        h.seen elem hElem]
    · rw [if_neg hSame, if_neg hSame, Nat.add_zero]
      exact h.seen old hOld
  · intro hQueue _
    change ∃ j ∈ s.registered,
      (t.reader j).cursor =
        (s.producer.unref elem).firstPointer
    by_cases hLast :
        elem.data.seen + 1 = s.producer.consumers
    · -- the head is gone, and the mover is next to it
      have hHead := hUnref.head hLast
      refine ⟨k, hMem, ?_⟩
      rw [hMoved, hCursor, hFirstPointer, if_pos hLast, hHead]
    · rw [hFirstPointer, if_neg hLast]
      rcases h.slowest (List.ne_nil_of_mem hElem)
          ⟨k, hMem⟩ with
        ⟨j, hj, hFirst⟩
      by_cases hjk : j = k
      · -- somebody else has not moved past the head either
        subst hjk
        have hUnseen := h.seen_lt hElem ⟨j, hMem⟩
        have hExists :
            ∃ i ∈ s.registered, i ≠ j ∧
              ¬ elem.pointer < (s.reader i).cursor := by
          by_contra hNone
          have hAll :
              s.registered.erase j ⊆
                s.past elem.pointer := by
            intro i hi
            rcases Finset.mem_erase.mp hi with ⟨hne, hiMem⟩
            refine Finset.mem_filter.mpr ⟨hiMem, ?_⟩
            by_contra hNot
            exact hNone ⟨i, hiMem, hne, hNot⟩
          have hLe := Finset.card_le_card hAll
          rw [Finset.card_erase_of_mem hMem,
            ← h.seen elem hElem, ← h.count] at hLe
          omega
        rcases hExists with ⟨i, hi, hne, hNot⟩
        refine ⟨i, hi, ?_⟩
        have hValid := h.valid hi
        have hLow := hValid.low
        rw [hOther i hi hne]
        change s.producer.firstPointer ≤ _ at hLow
        omega
      · exact ⟨j, hj, (hOther j hj hjk).trans hFirst⟩

/-
  Moving on never fails, and takes the consumer to the next
  buffer; the others only notice that the head may be gone.
-/
theorem Wf.move
    (h : s.Wf)
    (hMem : k ∈ s.registered) :
    ∃ producer consumer more,
      bqConsumerMoveInternal s.producer (s.consumer k) =
          .ok (producer, consumer, more) ∧
        more = (s.reader k).advance.holding ∧
        (more = true →
          producer.queueSerial = s.producer.queueSerial) ∧
        (producer.queueSerial = s.producer.queueSerial ∨
          producer.queueSerial =
            gulongIncrement s.producer.queueSerial) ∧
        (producer.queueSerial ≠ 0 →
          (s.update k producer consumer).Wf ∧
            s.producer.firstPointer ≤
              producer.firstPointer ∧
            ∀ j ∈ s.registered,
              (s.update k producer consumer).reader j =
                { (if j = k then (s.reader k).advance
                    else s.reader j) with
                  first := producer.firstPointer }) := by
  have hConsumer := h.consumer k hMem
  have hValid := h.valid hMem
  cases hHolding : bqHolding s.producer (s.consumer k) with
  | false =>
      have hReaderHolding :
          (s.reader k).holding = false :=
        hHolding
      have hAdvance :
          (s.reader k).advance = (s.reader k).hold := by
        simp [Reader.advance, hReaderHolding]
      rcases moveInternal_idle h.producer hConsumer
          hHolding with
        ⟨moved, hMoved, _, hWf, hReader⟩
      refine ⟨s.producer, moved, _, hMoved, ?_, ?_,
        Or.inl rfl, ?_⟩
      · rw [hAdvance]
        rfl
      · exact fun _ => rfl
      · intro _
        refine ⟨h.update_same hMem hWf ?_,
          Nat.le_refl _, ?_⟩
        · rw [hReader]
          rfl
        · intro j hj
          rw [reader_update]
          by_cases hjk : j = k
          · rw [if_pos hjk, if_pos hjk, hReader, hAdvance]
            rfl
          · rw [if_neg hjk, if_neg hjk]
            rfl
  | true =>
      have hMore := hValid.held hHolding
      rcases h.producer.exists_elem hValid.low hMore with
        ⟨elem, hElem, hPointer⟩
      have hUnref := h.unrefable hMem hElem hPointer.symm
      rcases hUnref.unref h.producer with
        ⟨hUnrefWf, hNextPointer, hFirstPointer⟩
      rcases moveInternal_holding h.producer hConsumer
          hHolding hPointer.symm hUnref with
        ⟨moved, more, hMoved, hMoreEq, hSerial, hAfter⟩
      refine ⟨_, moved, more, hMoved, hMoreEq, hSerial,
        s.producer.unref_queueSerial elem, ?_⟩
      intro hGeneration
      rcases hAfter hGeneration with ⟨hWf, hReader⟩
      have hReaderHolding : (s.reader k).holding = true :=
        hHolding
      refine ⟨?_, ?_, ?_⟩
      · refine h.update_unref hMem hElem hPointer.symm
          hGeneration hWf ?_
        rw [hReader, hPointer]
        change (s.reader k).advance.cursor = _
        rw [Reader.advance_cursor, if_pos hReaderHolding]
      · rw [hFirstPointer]
        split
        · exact Nat.le_succ _
        · exact Nat.le_refl _
      · intro j hj
        rw [reader_update]
        by_cases hjk : j = k
        · rw [if_pos hjk, if_pos hjk, hReader]
          rfl
        · rw [if_neg hjk, if_neg hjk]
          exact (h.unref_readers hMem hElem hPointer.symm
            hGeneration j hj hjk).2

@[simp] theorem update_producer
    (producer : BufferQueueProducer)
    (consumer : BufferQueueConsumer) :
    (s.update k producer consumer).producer = producer :=
  rfl

@[simp] theorem update_registered
    (producer : BufferQueueProducer)
    (consumer : BufferQueueConsumer) :
    (s.update k producer consumer).registered =
      s.registered :=
  rfl

@[simp] theorem update_consumer_self
    (producer : BufferQueueProducer)
    (consumer : BufferQueueConsumer) :
    (s.update k producer consumer).consumer k = consumer := by
  simp [update]

@[simp] theorem update_update
    (producer producer' : BufferQueueProducer)
    (consumer consumer' : BufferQueueConsumer) :
    (s.update k producer consumer).update k producer'
        consumer' =
      s.update k producer' consumer' := by
  simp [update]

/- The moves a consumer can make before it is at the end. -/
def movesLeft (r : Reader) : Nat :=
  r.next - r.cursor + if r.holding then 0 else 1

/- A successful move leaves fewer moves to make. -/
theorem movesLeft_advance
    {r : Reader}
    (hMore : r.advance.holding = true)
    (first : Nat) :
    0 < movesLeft { r.advance with first := first } ∧
      movesLeft { r.advance with first := first } <
        movesLeft r := by
  have hLess : r.advance.cursor < r.next := by
    simpa [Reader.advance_holding] using hMore
  simp only [movesLeft, hMore, if_true, Reader.advance_next]
  rw [Reader.advance_cursor] at hLess ⊢
  split at hLess
  · rename_i hHolding
    simp only [hHolding, if_true]
    omega
  · rename_i hHolding
    simp only [hHolding, Bool.false_eq_true, if_false]
    omega

/-
  The loop of `bq_consumer_free` ends, with the consumer past
  every buffer.
-/
theorem Wf.moveAll
    (limit : Nat)
    (h : s.Wf)
    (hMem : k ∈ s.registered)
    (hLimit : movesLeft (s.reader k) ≤ limit)
    (hPositive : 0 < limit) :
    ∃ producer consumer,
      bqConsumerMoveAll limit s.producer (s.consumer k) =
          .ok (producer, consumer) ∧
        (producer.queueSerial ≠ 0 →
          (s.update k producer consumer).Wf ∧
            s.producer.firstPointer ≤
              producer.firstPointer ∧
            ((s.update k producer consumer).reader
                k).cursor = producer.nextPointer ∧
            ∀ j ∈ s.registered, j ≠ k →
              (s.update k producer consumer).reader j =
                { s.reader j with
                  first := producer.firstPointer }) := by
  induction limit generalizing s with
  | zero =>
      cases hPositive
  | succ limit ih =>
      have hValid := h.valid hMem
      rcases h.move hMem with
        ⟨producer, consumer, more, hMove, hMore, hSerial, _,
          hAfter⟩
      cases hMoreValue : more with
      | false =>
          rw [hMoreValue] at hMove hMore
          refine ⟨producer, consumer, ?_, ?_⟩
          · simp [bqConsumerMoveAll, hMove, bind,
              Except.bind]
          · intro hGeneration
            rcases hAfter hGeneration with
              ⟨hWf, hFirst, hReaders⟩
            refine ⟨hWf, hFirst, ?_, ?_⟩
            · have hReader := hReaders k hMem
              rw [if_pos rfl] at hReader
              have hEnd := hValid.advance.2
              rw [Reader.advance_holding] at hMore
              have hNot := of_decide_eq_false hMore.symm
              have hNext :
                  producer.nextPointer =
                    (s.reader k).advance.next :=
                congrArg Reader.next hReader
              rw [Reader.advance_next] at hNext
              rw [hReader]
              simp only
              omega
            · intro j hj hne
              have hReader := hReaders j hj
              rwa [if_neg hne] at hReader
      | true =>
          rw [hMoreValue] at hMove hMore
          have hSame := hSerial hMoreValue
          have hGeneration : producer.queueSerial ≠ 0 := by
            rw [hSame]
            exact h.generation
          rcases hAfter hGeneration with
            ⟨hWf, hFirst, hReaders⟩
          have hReader := hReaders k hMem
          rw [if_pos rfl] at hReader
          have hLeft := movesLeft_advance hMore.symm
            producer.firstPointer
          rw [← hReader] at hLeft
          rcases ih hWf hMem (by omega) (by omega) with
            ⟨producer', consumer', hMoves, hEnd⟩
          rw [update_producer, update_consumer_self] at hMoves
          refine ⟨producer', consumer', ?_, ?_⟩
          · simp [bqConsumerMoveAll, hMove, hMoves, bind,
              Except.bind]
          · intro hGeneration'
            rcases hEnd hGeneration' with
              ⟨hWf', hFirst', hCursor, hOthers⟩
            rw [update_update] at hWf' hCursor hOthers
            refine ⟨hWf',
              Nat.le_trans hFirst hFirst', hCursor, ?_⟩
            intro j hj hne
            have hOther := hOthers j hj hne
            have hBefore := hReaders j hj
            rw [if_neg hne] at hBefore
            rw [hOther, hBefore]

end State

end BufferQueue

end Feng

------------------------------------------------------------
-- Putting, Resetting And Registering
------------------------------------------------------------

namespace Feng

namespace BufferQueue

namespace State

variable {s : State} {k : Nat}

theorem Wf.put
    (h : s.Wf)
    {elem : MParserBuffer}
    (hSeqNo : elem.seqNo = 0)
    {producer : BufferQueueProducer}
    (hPut : bqProducerPut s.producer elem = .ok producer) :
    Wf { s with producer := producer } ∧
      ∀ j ∈ s.registered,
        reader { s with producer := producer } j =
          { s.reader j with
            next := s.producer.nextPointer + 1 } := by
  rw [producerPut_eq h.producer.running
    h.producer.serialBound hSeqNo] at hPut
  split at hPut
  · cases hPut
  rename_i hNoWrap
  cases hPut
  have hPointerRoom := h.producer.pointerRoom
  have hSerialRoom := h.producer.serialRoom
  have hSerialBound := h.producer.serialBound
  let producer := s.producer.enqueue elem
  have hFirst :
      producer.firstPointer = s.producer.firstPointer := by
    simp only [producer, BufferQueueProducer.enqueue,
      BufferQueueProducer.firstPointer, List.length_append,
      List.length_singleton]
    omega
  have hFirstSerial :
      producer.firstSerial = s.producer.firstSerial := by
    simp only [producer, BufferQueueProducer.enqueue,
      BufferQueueProducer.firstSerial, List.length_append,
      List.length_singleton]
    omega
  have hPlace :
      ∀ j ∈ s.registered,
        ConsumerWf producer (s.consumer j) ∧
          bqReader producer (s.consumer j) =
            { s.reader j with
              next := s.producer.nextPointer + 1 } := by
    intro j hj
    unfold reader
    cases h.consumer j hj with
    | detached hSerial =>
        have hNe := Nat.ne_of_lt hSerial
        refine ⟨.detached hSerial, ?_⟩
        have hNew :
            bqReader producer (s.consumer j) = _ :=
          bqReader_detached hNe
        rw [bqReader_detached hNe, hNew, hFirst]
        rfl
    | behind hSerial hPointer hQueue hLow hHigh =>
        refine ⟨.behind hSerial hPointer ?_ ?_ ?_, ?_⟩
        · simp [producer, BufferQueueProducer.enqueue]
        · rw [hFirstSerial]
          exact hLow
        · exact Nat.lt_succ_of_lt hHigh
        · have hNew :
              bqReader producer (s.consumer j) = _ :=
            bqReader_behind hSerial hPointer
          rw [bqReader_behind hSerial hPointer, hNew, hFirst]
          simp only [producer, BufferQueueProducer.enqueue,
            Reader.mk.injEq, true_and, and_true]
          omega
    | on pointer hSerial hPointer hLow hHigh hLast =>
        refine ⟨.on pointer hSerial hPointer ?_ ?_ ?_, ?_⟩
        · rw [hFirst]
          exact hLow
        · exact Nat.lt_succ_of_lt hHigh
        · simp only [producer, BufferQueueProducer.enqueue]
          omega
        · have hNew :
              bqReader producer (s.consumer j) = _ :=
            bqReader_at hSerial hPointer
          rw [bqReader_at hSerial hPointer, hNew, hFirst]
          rfl
  have hCursor :
      ∀ j ∈ s.registered,
        (reader { s with producer := producer } j).cursor =
          (s.reader j).cursor := by
    intro j hj
    change (bqReader producer (s.consumer j)).cursor = _
    rw [(hPlace j hj).2]
  have hPast :
      ∀ pointer,
        past { s with producer := producer } pointer =
          s.past pointer := by
    intro pointer
    refine Finset.filter_congr ?_
    intro j hj
    rw [hCursor j hj]
  refine ⟨?_, fun j hj => (hPlace j hj).2⟩
  refine
    { producer := ?_, generation := h.generation,
      consumer := fun j hj => (hPlace j hj).1,
      fresh := h.fresh, count := h.count,
      countBound := h.countBound, seen := ?_, slowest := ?_ }
  · refine
      { pointers := ?_, serials := ?_, pointerRoom := ?_,
        serialRoom := ?_, serialBound := ?_,
        running := h.producer.running }
    · rw [hFirst]
      refine consecutive_append_singleton.mpr
        ⟨h.producer.pointers, ?_⟩
      simp only [queuedElem, BufferQueueProducer.firstPointer]
      omega
    · rw [hFirstSerial]
      refine consecutive_append_singleton.mpr
        ⟨h.producer.serials, ?_⟩
      simp only [queuedElem, BufferQueueProducer.firstSerial]
      omega
    · simp only [BufferQueueProducer.enqueue,
        List.length_append, List.length_singleton]
      omega
    · simp only [BufferQueueProducer.enqueue,
        List.length_append, List.length_singleton]
      omega
    · simp only [BufferQueueProducer.enqueue]
      omega
  · intro other hOther
    rw [hPast]
    rcases List.mem_append.mp hOther with hOld | hNew
    · exact h.seen other hOld
    · rw [List.mem_singleton.mp hNew]
      have hNone :
          s.past s.producer.nextPointer = ∅ := by
        refine Finset.filter_eq_empty_iff.mpr ?_
        intro j hj
        have hHigh := (h.valid hj).high
        exact Nat.not_lt.mpr hHigh
      simp [queuedElem, hNone]
  · intro _ hNonempty
    change ∃ j ∈ s.registered,
      (reader { s with producer := producer } j).cursor =
        producer.firstPointer
    rw [hFirst]
    by_cases hQueue : s.producer.queue = []
    · rcases hNonempty with ⟨j, hj⟩
      refine ⟨j, hj, ?_⟩
      rw [hCursor j hj]
      have hValid := h.valid hj
      have hLow := hValid.low
      have hHigh := hValid.high
      have hEmpty :
          s.producer.firstPointer =
            s.producer.nextPointer := by
        simp [BufferQueueProducer.firstPointer, hQueue]
      change s.producer.firstPointer ≤ _ at hLow
      change _ ≤ s.producer.nextPointer at hHigh
      omega
    · rcases h.slowest hQueue hNonempty with ⟨j, hj, hEq⟩
      exact ⟨j, hj, (hCursor j hj).trans hEq⟩

theorem Wf.reset
    (h : s.Wf)
    {producer : BufferQueueProducer}
    (hReset :
      bqProducerResetQueue s.producer = .ok producer)
    (hGeneration : producer.queueSerial ≠ 0) :
    Wf { s with producer := producer } ∧
      ∀ j ∈ s.registered,
        reader { s with producer := producer } j =
          { first := s.producer.nextPointer
            next := s.producer.nextPointer
            cursor := s.producer.nextPointer
            holding := false } := by
  have hRunning := h.producer.running
  simp only [bqProducerResetQueue, hRunning,
    Bool.false_eq_true, if_false, Except.ok.injEq] at hReset
  subst hReset
  have hSerial :=
    gulongIncrement_of_ne_zero hGeneration
  have hOlder :
      ∀ j ∈ s.registered,
        (s.consumer j).queueSerial <
          gulongIncrement s.producer.queueSerial := by
    intro j hj
    rw [hSerial]
    cases h.consumer j hj with
    | detached hSerial => omega
    | behind hSerial => omega
    | on pointer hSerial => omega
  refine ⟨?_, ?_⟩
  · refine
      { producer := ?_, generation := hGeneration,
        consumer := fun j hj => .detached (hOlder j hj),
        fresh := h.fresh, count := h.count,
        countBound := h.countBound, seen := ?_,
        slowest := ?_ }
    · exact
        { pointers := trivial, serials := trivial,
          pointerRoom := Nat.zero_le _,
          serialRoom := Nat.one_pos,
          serialBound := by
            simp [bqProducerResetQueueInternal],
          running := hRunning }
    · intro elem hElem
      cases hElem
    · intro hQueue
      exact absurd rfl hQueue
  · intro j hj
    exact bqReader_detached (Nat.ne_of_lt (hOlder j hj))

theorem consumerWf_consumers
    {producer : BufferQueueProducer}
    {consumer : BufferQueueConsumer}
    (h : ConsumerWf producer consumer)
    (count : Nat) :
    ConsumerWf { producer with consumers := count }
      consumer := by
  cases h with
  | detached hSerial =>
      exact .detached hSerial
  | behind hSerial hPointer hQueue hLow hHigh =>
      exact .behind hSerial hPointer hQueue hLow hHigh
  | on pointer hSerial hPointer hLow hHigh hLast =>
      exact .on pointer hSerial hPointer hLow hHigh hLast

theorem bqReader_consumers
    {producer : BufferQueueProducer}
    {consumer : BufferQueueConsumer}
    (count : Nat) :
    bqReader { producer with consumers := count } consumer =
      bqReader producer consumer :=
  rfl

theorem producerWf_consumers
    {producer : BufferQueueProducer}
    (h : producer.Wf)
    (count : Nat) :
    BufferQueueProducer.Wf
      { producer with consumers := count } where
  pointers := h.pointers
  serials := h.serials
  pointerRoom := h.pointerRoom
  serialRoom := h.serialRoom
  serialBound := h.serialBound
  running := h.running

theorem Wf.join
    (h : s.Wf)
    {producer : BufferQueueProducer}
    {consumer : BufferQueueConsumer}
    (hNew :
      bqConsumerNew s.producer = .ok (producer, consumer)) :
    let t : State :=
      { producer := producer
        registered := insert s.nextConsumer s.registered
        consumer :=
          Function.update s.consumer s.nextConsumer consumer
        nextConsumer := s.nextConsumer + 1 }
    t.Wf ∧
      (∀ j ∈ s.registered, t.reader j = s.reader j) ∧
      t.reader s.nextConsumer =
        { first := s.producer.firstPointer
          next := s.producer.nextPointer
          cursor := s.producer.firstPointer
          holding := false } := by
  intro t
  unfold bqConsumerNew at hNew
  split at hNew
  case isFalse => cases hNew
  rename_i hRoom
  cases hNew
  have hCount :
      gulongIncrement s.producer.consumers =
        s.producer.consumers + 1 :=
    gulongIncrement_of_lt hRoom
  have hFresh : s.nextConsumer ∉ s.registered := by
    intro hMem
    exact Nat.lt_irrefl _ (h.fresh _ hMem)
  have hSerial : 0 ≠ s.producer.queueSerial :=
    fun hZero => h.generation hZero.symm
  have hOld :
      ∀ j ∈ s.registered,
        t.consumer j = s.consumer j := by
    intro j hj
    have hne : j ≠ s.nextConsumer := by
      intro hEq
      exact hFresh (hEq ▸ hj)
    exact Function.update_of_ne hne _ _
  have hReaders :
      ∀ j ∈ s.registered, t.reader j = s.reader j := by
    intro j hj
    unfold reader
    rw [hOld j hj]
    rfl
  have hNewConsumer :
      t.consumer s.nextConsumer =
        { queueSerial := 0
          currentElementPointer := none
          lastElementSerial := 0 } :=
    Function.update_self _ _ _
  have hNewReader :
      t.reader s.nextConsumer =
        { first := s.producer.firstPointer
          next := s.producer.nextPointer
          cursor := s.producer.firstPointer
          holding := false } := by
    unfold reader
    rw [hNewConsumer]
    exact bqReader_detached hSerial
  have hPast :
      ∀ pointer, s.producer.firstPointer ≤ pointer →
        t.past pointer = s.past pointer := by
    intro pointer hLow
    simp only [past, t]
    rw [Finset.filter_insert]
    change
      (if pointer < (t.reader s.nextConsumer).cursor then
          insert s.nextConsumer
            (s.registered.filter
              (fun j => pointer < (t.reader j).cursor))
        else
          s.registered.filter
            (fun j => pointer < (t.reader j).cursor)) = _
    rw [hNewReader, if_neg (Nat.not_lt.mpr hLow)]
    refine Finset.filter_congr ?_
    intro j hj
    rw [hReaders j hj]
  refine ⟨?_, hReaders, hNewReader⟩
  refine
    { producer := producerWf_consumers h.producer _,
      generation := h.generation, consumer := ?_,
      fresh := ?_, count := ?_, countBound := ?_,
      seen := ?_, slowest := ?_ }
  · intro j hj
    rcases Finset.mem_insert.mp hj with hEq | hj
    · rw [hEq, hNewConsumer]
      exact .detached (Nat.pos_of_ne_zero h.generation)
    · rw [hOld j hj]
      exact consumerWf_consumers (h.consumer j hj) _
  · intro j hj
    rcases Finset.mem_insert.mp hj with hEq | hj
    · rw [hEq]
      exact Nat.lt_succ_self _
    · exact Nat.lt_succ_of_lt (h.fresh j hj)
  · simp only [t]
    rw [hCount, Finset.card_insert_of_notMem hFresh,
      h.count]
  · simp only [t]
    rw [hCount]
    exact hRoom
  · intro elem hElem
    have hBounds := h.producer.pointer_bounds hElem
    rw [hPast _ hBounds.1]
    exact h.seen elem hElem
  · intro _ _
    exact ⟨s.nextConsumer, Finset.mem_insert_self _ _,
      congrArg Reader.cursor hNewReader⟩

@[simp] theorem bqDecrementSeenOnFree_pointer
    (elem : BQElem) :
    (bqDecrementSeenOnFree elem).pointer = elem.pointer := by
  simp [bqDecrementSeenOnFree]

@[simp] theorem bqDecrementSeenOnFree_seqNo
    (elem : BQElem) :
    (bqDecrementSeenOnFree elem).data.seqNo =
      elem.data.seqNo := by
  simp [bqDecrementSeenOnFree]

@[simp] theorem bqDecrementSeenOnFree_seen
    (elem : BQElem) :
    (bqDecrementSeenOnFree elem).data.seen =
      gulongDecrement elem.data.seen := by
  simp only [bqDecrementSeenOnFree]

/- A consumer that leaves first moves past every buffer. -/
theorem Wf.freeMoves
    (h : s.Wf)
    (hMem : k ∈ s.registered) :
    ∃ moved consumer,
      bqConsumerFree s.producer (s.consumer k) =
          .ok { moved with
            queue := moved.queue.map bqDecrementSeenOnFree
            consumers := gulongDecrement moved.consumers } ∧
        (moved.queueSerial ≠ 0 →
          (s.update k moved consumer).Wf ∧
            s.producer.firstPointer ≤ moved.firstPointer ∧
            ((s.update k moved consumer).reader k).cursor =
              moved.nextPointer ∧
            ∀ j ∈ s.registered, j ≠ k →
              (s.update k moved consumer).reader j =
                { s.reader j with
                  first := moved.firstPointer }) := by
  have hPointerRoom := h.producer.pointerRoom
  have hValid := h.valid hMem
  have hLimit :
      movesLeft (s.reader k) ≤
        s.producer.queue.length + 2 := by
    have hLow := hValid.low
    change s.producer.firstPointer ≤ _ at hLow
    unfold BufferQueueProducer.firstPointer at hLow
    unfold movesLeft
    change s.producer.nextPointer - _ + _ ≤ _
    split
    · omega
    · omega
  rcases h.moveAll (s.producer.queue.length + 2) hMem hLimit
      (by omega) with
    ⟨moved, consumer, hMoves, hEnd⟩
  have hConsumers : s.producer.consumers ≠ 0 := by
    rw [h.count]
    exact Finset.card_ne_zero_of_mem hMem
  refine ⟨moved, consumer, ?_, hEnd⟩
  simp [bqConsumerFree, hConsumers, hMoves, bind, Except.bind]

/-
  A consumer that leaves takes its share of every `seen`
  count with it.
-/
theorem Wf.free
    (h : s.Wf)
    (hMem : k ∈ s.registered) :
    ∃ producer,
      bqConsumerFree s.producer (s.consumer k) =
          .ok producer ∧
        (producer.queueSerial ≠ 0 →
          let t : State :=
            { s with
              producer := producer
              registered := s.registered.erase k }
          t.Wf ∧
            s.producer.firstPointer ≤
              producer.firstPointer ∧
            ∀ j ∈ s.registered, j ≠ k →
              t.reader j =
                { s.reader j with
                  first := producer.firstPointer }) := by
  rcases h.freeMoves hMem with
    ⟨moved, consumer, hFree, hEnd⟩
  let queue := moved.queue.map bqDecrementSeenOnFree
  let producer : BufferQueueProducer :=
    { moved with
      queue := queue
      consumers := gulongDecrement moved.consumers }
  refine ⟨producer, hFree, ?_⟩
  intro hGeneration t
  rcases hEnd hGeneration with
    ⟨hWf, hFirst, hCursor, hOthers⟩
  let u := s.update k moved consumer
  have hFirstEq :
      producer.firstPointer = moved.firstPointer := by
    simp [producer, queue, BufferQueueProducer.firstPointer]
  have hOther :
      ∀ j ∈ s.registered, j ≠ k →
        ConsumerWf producer (s.consumer j) ∧
          t.reader j = u.reader j := by
    intro j hj hne
    have hSame : u.consumer j = s.consumer j := by
      simp [u, update, hne]
    have hPlace := hWf.consumer j hj
    change ConsumerWf moved (u.consumer j) at hPlace
    rw [hSame] at hPlace
    refine ⟨consumerWf_consumers
      (hPlace.mapData (g := bqDecrementSeenOnFree)) _, ?_⟩
    unfold reader
    rw [hSame]
    exact (bqReader_consumers _).trans
      (bqReader_mapData (g := bqDecrementSeenOnFree))
  have hCount : moved.consumers = s.registered.card :=
    hWf.count
  have hCountBound : moved.consumers ≤ gMaxULong :=
    hWf.countBound
  have hCountPos : 0 < moved.consumers := by
    rw [hCount]
    exact Finset.card_pos.mpr ⟨k, hMem⟩
  have hPast :
      ∀ elem ∈ moved.queue,
        k ∈ u.past elem.pointer ∧
          t.past elem.pointer =
            (u.past elem.pointer).erase k := by
    intro elem hElem
    have hBounds := hWf.producer.pointer_bounds hElem
    refine ⟨Finset.mem_filter.mpr ⟨hMem, ?_⟩, ?_⟩
    · change _ < ((s.update k moved consumer).reader
        k).cursor
      rw [hCursor]
      exact hBounds.2
    · ext j
      simp only [past, Finset.mem_filter, Finset.mem_erase,
        t, u, update_registered]
      constructor
      · rintro ⟨⟨hne, hj⟩, hLess⟩
        have hEq := (hOther j hj hne).2
        exact ⟨hne, hj, hEq ▸ hLess⟩
      · rintro ⟨hne, hj, hLess⟩
        have hEq := (hOther j hj hne).2
        exact ⟨⟨hne, hj⟩, hEq.symm ▸ hLess⟩
  refine ⟨?_, ?_, ?_⟩
  · refine
      { producer := ?_, generation := hGeneration,
        consumer := ?_, fresh := ?_, count := ?_,
        countBound := ?_, seen := ?_, slowest := ?_ }
    · exact producerWf_consumers
        (hWf.producer.mapData bqDecrementSeenOnFree_pointer
          bqDecrementSeenOnFree_seqNo) _
    · intro j hj
      rcases Finset.mem_erase.mp hj with ⟨hne, hj⟩
      exact (hOther j hj hne).1
    · intro j hj
      exact h.fresh j (Finset.mem_of_mem_erase hj)
    · simp only [t, producer]
      rw [gulongDecrement_of_pos hCountPos,
        Finset.card_erase_of_mem hMem, hCount]
    · simp only [t, producer]
      rw [gulongDecrement_of_pos hCountPos]
      exact Nat.le_trans (Nat.sub_le _ _) hCountBound
    · intro elem hElem
      rcases List.mem_map.mp hElem with ⟨old, hOld, hEq⟩
      rcases hPast old hOld with ⟨hSelf, hErase⟩
      have hSeen := hWf.seen old hOld
      have hPos := Finset.card_pos.mpr ⟨k, hSelf⟩
      rw [← hEq, bqDecrementSeenOnFree_seen,
        bqDecrementSeenOnFree_pointer, hErase,
        Finset.card_erase_of_mem hSelf, hSeen,
        gulongDecrement_of_pos hPos]
    · intro hQueue _
      have hOldQueue : moved.queue ≠ [] := by
        intro hNil
        exact hQueue (by
          simp [t, producer, queue, hNil])
      rcases hWf.slowest hOldQueue ⟨k, hMem⟩ with
        ⟨j, hj, hEq⟩
      have hne : j ≠ k := by
        intro hSame
        subst hSame
        rw [hCursor] at hEq
        have hLess :=
          hWf.producer.queue_ne_nil_iff.mp hOldQueue
        simp only [update_producer] at hEq hLess
        omega
      refine ⟨j, Finset.mem_erase.mpr ⟨hne, hj⟩, ?_⟩
      rw [(hOther j hj hne).2]
      change (u.reader j).cursor = producer.firstPointer
      rw [hFirstEq]
      exact hEq
  · rw [hFirstEq]
    exact hFirst
  · intro j hj hne
    rw [(hOther j hj hne).2, hFirstEq]
    exact hOthers j hj hne

end State

end BufferQueue

end Feng
