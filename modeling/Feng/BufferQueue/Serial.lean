import Feng.BufferQueue.Runs
import Feng.Lib.Except

/-
  The 16 bit serial number of the next buffer: it counts the
  buffers put since the queue was last empty, and a put
  aborts the server when it comes round.

  Key definitions include:
    * `KeepsQueue`
    * `putsSinceEmpty`

  Key theorems include:
    * `run_nextSerial`
    * `put_aborts_iff`
-/

------------------------------------------------------------
-- What The Consumers Do To The Queue
------------------------------------------------------------

namespace Feng

/- An empty queue starts to number its buffers anew. -/
def Numbered (producer : BufferQueueProducer) : Prop :=
  producer.queue = [] → producer.nextSerial = 1

/-
  Consumers leave the next serial number alone, unless they
  take the last buffer.
-/
structure KeepsSerial
    (producer producer' : BufferQueueProducer) : Prop where
  stopped : producer'.stopped = producer.stopped
  numbered : Numbered producer → Numbered producer'
  serial :
    producer'.queue ≠ [] →
      producer.queue ≠ [] ∧
        producer'.nextSerial = producer.nextSerial

/- A buffer without what the queue itself writes in it. -/
def MParserBuffer.bare
    (buffer : MParserBuffer) : MParserBuffer :=
  { buffer with
    seen := 0
    seqNo := 0 }

def BQElem.bare (elem : BQElem) : BQElem :=
  { elem with data := elem.data.bare }

/- Nor do they do anything to the queue but take from it. -/
structure KeepsQueue
    (producer producer' : BufferQueueProducer) : Prop
    extends KeepsSerial producer producer' where
  nextPointer : producer'.nextPointer = producer.nextPointer
  buffers :
    producer'.queue.map BQElem.bare <:+
      producer.queue.map BQElem.bare

variable {producer producer' : BufferQueueProducer}
variable {consumer consumer' : BufferQueueConsumer}

theorem KeepsQueue.refl
    (producer : BufferQueueProducer) :
    KeepsQueue producer producer where
  stopped := rfl
  numbered := id
  serial := fun h => ⟨h, rfl⟩
  nextPointer := rfl
  buffers := List.suffix_rfl

theorem KeepsQueue.trans
    {producer'' : BufferQueueProducer}
    (h : KeepsQueue producer producer')
    (h' : KeepsQueue producer' producer'') :
    KeepsQueue producer producer'' where
  stopped := h'.stopped.trans h.stopped
  numbered := fun hNumbered =>
    h'.numbered (h.numbered hNumbered)
  serial := by
    intro hQueue
    rcases h'.serial hQueue with ⟨hQueue', hSerial'⟩
    rcases h.serial hQueue' with ⟨hQueue'', hSerial⟩
    exact ⟨hQueue'', hSerial'.trans hSerial⟩
  nextPointer := h'.nextPointer.trans h.nextPointer
  buffers := h'.buffers.trans h.buffers

theorem KeepsQueue.mapData
    {g : BQElem → BQElem}
    (hBare : ∀ elem, (g elem).bare = elem.bare) :
    KeepsQueue producer
      { producer with queue := producer.queue.map g } where
  stopped := rfl
  numbered := by
    intro hNumbered hQueue
    exact hNumbered (List.map_eq_nil_iff.mp hQueue)
  serial := by
    intro hQueue
    refine ⟨?_, rfl⟩
    intro hNil
    exact hQueue (by simp [hNil])
  nextPointer := rfl
  buffers := by
    rw [List.map_map]
    have hSame : BQElem.bare ∘ g = BQElem.bare :=
      funext hBare
    rw [hSame]

theorem KeepsQueue.setSeen
    (pointer seen : Nat) :
    KeepsQueue producer (producer.setSeen pointer seen) := by
  apply KeepsQueue.mapData
  intro elem
  split
  · rfl
  · rfl

theorem KeepsQueue.popHead :
    KeepsQueue producer producer.popHead := by
  unfold BufferQueueProducer.popHead
  cases hQueue : producer.queue with
  | nil =>
      exact ⟨⟨rfl, fun _ _ => rfl, fun h => absurd rfl h⟩,
        rfl, List.nil_suffix⟩
  | cons elem rest =>
      cases rest with
      | nil =>
          exact ⟨⟨rfl, fun _ _ => rfl,
            fun h => absurd rfl h⟩, rfl, List.nil_suffix⟩
      | cons next rest =>
          have hSome : producer.queue ≠ [] := by
            simp [hQueue]
          refine ⟨⟨rfl, ?_, fun _ => ⟨hSome, rfl⟩⟩, rfl, ?_⟩
          · intro _ hNil
            cases hNil
          · rw [hQueue]
            exact List.suffix_cons _ _

theorem destroyHead_keepsQueue
    {pointer : Nat}
    (h :
      bqProducerDestroyHead producer pointer =
        .ok producer') :
    KeepsQueue producer producer' := by
  rcases Except.bind_eq_ok.mp h with ⟨elem, _, h⟩
  split at h
  · cases h
  · split at h
    · cases h
    · cases h
      exact KeepsQueue.popHead

theorem elemUnref_keepsQueue
    (h :
      bqConsumerElemUnref producer consumer =
        .ok (producer', consumer')) :
    KeepsQueue producer producer' := by
  unfold bqConsumerElemUnref at h
  simp only at h
  split at h
  · cases h
    exact KeepsQueue.refl _
  · rename_i pointer _
    rcases Except.bind_eq_ok.mp h with ⟨elem, _, h⟩
    split at h
    · cases h
    · split at h
      · cases h
        exact KeepsQueue.setSeen _ _
      · rcases Except.bind_eq_ok.mp h with
          ⟨popped, hDestroy, h⟩
        cases h
        exact (KeepsQueue.setSeen _ _).trans
          (destroyHead_keepsQueue hDestroy)

theorem movePointer_keepsQueue
    (h :
      bqConsumerMovePointer producer consumer =
        .ok (producer', consumer')) :
    KeepsQueue producer producer' := by
  unfold bqConsumerMovePointer at h
  split at h
  · rcases Except.bind_eq_ok.mp h with ⟨next, _, h⟩
    rcases Except.bind_eq_ok.mp h with
      ⟨⟨unref, behind⟩, hUnref, h⟩
    cases h
    exact elemUnref_keepsQueue hUnref
  · split at h
    · cases h
      exact KeepsQueue.refl _
    · cases h
      exact KeepsQueue.refl _

theorem moveInternal_keepsQueue
    {moved : Bool}
    (h :
      bqConsumerMoveInternal producer consumer =
        .ok (producer', consumer', moved)) :
    KeepsQueue producer producer' := by
  rcases Except.bind_eq_ok.mp h with
    ⟨⟨left, found⟩, hPointer, h⟩
  rcases Except.bind_eq_ok.mp h with ⟨settled, _, h⟩
  cases h
  exact movePointer_keepsQueue hPointer

theorem consumerMove_keepsQueue
    {moved : Bool}
    (h :
      bqConsumerMove producer consumer =
        .ok (producer', consumer', moved)) :
    KeepsQueue producer producer' := by
  unfold bqConsumerMove at h
  split at h
  · cases h
    exact KeepsQueue.refl _
  · exact moveInternal_keepsQueue h

theorem consumerGet_keepsQueue
    {element : Option BQElem}
    (h :
      bqConsumerGet producer consumer =
        .ok (producer', consumer', element)) :
    KeepsQueue producer producer' := by
  unfold bqConsumerGet at h
  split at h
  · cases h
    exact KeepsQueue.refl _
  · simp only at h
    split at h
    · rcases Except.bind_eq_ok.mp h with
        ⟨⟨left, settled, more⟩, hMove, h⟩
      have hKeeps := moveInternal_keepsQueue hMove
      simp only at h
      split at h
      · rcases Except.bind_eq_ok.mp h with ⟨current, _, h⟩
        cases h
        exact hKeeps
      · cases h
        exact hKeeps
    · rcases Except.bind_eq_ok.mp h with ⟨current, _, h⟩
      cases h
      exact KeepsQueue.refl _

theorem moveAll_keepsQueue
    {limit : Nat}
    (h :
      bqConsumerMoveAll limit producer consumer =
        .ok (producer', consumer')) :
    KeepsQueue producer producer' := by
  induction limit generalizing producer consumer with
  | zero =>
      cases h
  | succ limit ih =>
      rcases Except.bind_eq_ok.mp h with
        ⟨⟨left, settled, more⟩, hMove, h⟩
      have hFirst := moveInternal_keepsQueue hMove
      simp only at h
      split at h
      · exact hFirst.trans (ih h)
      · cases h
        exact hFirst

theorem consumerFree_keepsQueue
    (h :
      bqConsumerFree producer consumer = .ok producer') :
    KeepsQueue producer producer' := by
  unfold bqConsumerFree at h
  split at h
  · cases h
  · rcases Except.bind_eq_ok.mp h with
      ⟨⟨left, settled⟩, hMoves, h⟩
    cases h
    have hMap :
        KeepsQueue left
          { left with
            queue := left.queue.map bqDecrementSeenOnFree } :=
      KeepsQueue.mapData (fun _ => rfl)
    exact (moveAll_keepsQueue hMoves).trans
      ⟨⟨hMap.stopped, hMap.numbered, hMap.serial⟩, rfl,
        hMap.buffers⟩

end Feng

------------------------------------------------------------
-- Counting The Buffers Put
------------------------------------------------------------

namespace Feng

namespace BufferQueue

/- The count after a call, given the count before it. -/
def countPut (count : Nat) : State × Op → Nat
| (s, op) =>
    let count := if s.producer.queue = [] then 0 else count
    match op with
    | .put _ => count + 1
    | .reset => 0
    | _ => count

/-
  How many buffers have been put since the queue was last
  empty: since the producer was created or reset, or since
  its last buffer was destroyed.
-/
def putsSinceEmpty
    (trace : List (State × Op))
    (s : State) : Nat :=
  if s.producer.queue = [] then
    0
  else
    trace.foldl countPut 0

variable {trace : List (State × Op)} {s t : State} {op : Op}

theorem putsSinceEmpty_snoc
    (hQueue : t.producer.queue ≠ []) :
    putsSinceEmpty (trace ++ [(s, op)]) t =
      match op with
      | .put _ => putsSinceEmpty trace s + 1
      | .reset => 0
      | _ => putsSinceEmpty trace s := by
  unfold putsSinceEmpty
  rw [if_neg hQueue, List.foldl_append]
  cases op <;> rfl

/- All calls but put and reset. -/
theorem step_keepsQueue
    (hPut : ∀ elem, op ≠ .put elem)
    (hReset : op ≠ .reset)
    (hStep : step s op = .ok t) :
    KeepsQueue s.producer t.producer := by
  cases op with
  | put elem =>
      exact absurd rfl (hPut elem)
  | reset =>
      exact absurd rfl hReset
  | consumerNew =>
      rcases Except.bind_eq_ok.mp hStep with
        ⟨⟨producer, consumer⟩, hNew, hStep⟩
      cases hStep
      unfold bqConsumerNew at hNew
      split at hNew
      · cases hNew
        exact ⟨⟨rfl, id, fun h => ⟨h, rfl⟩⟩, rfl,
          List.suffix_rfl⟩
      · cases hNew
  | get k =>
      rcases Except.bind_eq_ok.mp hStep with
        ⟨⟨producer, consumer, element⟩, hGet, hStep⟩
      cases hStep
      exact consumerGet_keepsQueue hGet
  | move k =>
      rcases Except.bind_eq_ok.mp hStep with
        ⟨⟨producer, consumer, moved⟩, hMove, hStep⟩
      cases hStep
      exact consumerMove_keepsQueue hMove
  | free k =>
      rcases Except.bind_eq_ok.mp hStep with
        ⟨producer, hFree, hStep⟩
      cases hStep
      exact consumerFree_keepsQueue hFree

/- The serial number is one more than the number of puts. -/
structure CountsPuts
    (trace : List (State × Op))
    (s : State) : Prop where
  running : s.producer.stopped = false
  numbered : Numbered s.producer
  serial :
    s.producer.nextSerial = putsSinceEmpty trace s + 1
  bound : s.producer.nextSerial < 2 ^ 16

theorem CountsPuts.step
    (h : CountsPuts trace s)
    (hEnabled : enabled s op)
    (hStep : step s op = .ok t) :
    CountsPuts (trace ++ [(s, op)]) t := by
  have hSerial := h.serial
  by_cases hPut : ∃ elem, op = .put elem
  · rcases hPut with ⟨elem, hEq⟩
    subst hEq
    have hEq :=
      producerPut_eq h.running h.bound hEnabled
    simp only [BufferQueue.step, hEq] at hStep
    split at hStep
    · cases hStep
    · rename_i hRoom
      cases hStep
      have hBound := h.bound
      refine ⟨h.running, ?_, ?_, ?_⟩
      · intro hNil
        simp [BufferQueueProducer.enqueue] at hNil
      · rw [putsSinceEmpty_snoc
          (by simp [BufferQueueProducer.enqueue])]
        simp only [BufferQueueProducer.enqueue]
        omega
      · simp only [BufferQueueProducer.enqueue]
        omega
  by_cases hReset : op = .reset
  · subst hReset
    simp only [BufferQueue.step, bqProducerResetQueue,
      h.running, Bool.false_eq_true, if_false] at hStep
    cases hStep
    refine ⟨h.running, fun _ => rfl, ?_, ?_⟩
    · simp [putsSinceEmpty, bqProducerResetQueueInternal]
    · simp [bqProducerResetQueueInternal]
  have hNotPut : ∀ elem, op ≠ .put elem :=
    fun elem hEq => hPut ⟨elem, hEq⟩
  have hKeeps := step_keepsQueue hNotPut hReset hStep
  have hNumbered := hKeeps.numbered h.numbered
  by_cases hQueue : t.producer.queue = []
  · have hOne := hNumbered hQueue
    refine ⟨hKeeps.stopped.trans h.running, hNumbered,
      ?_, ?_⟩
    · simp [putsSinceEmpty, hQueue, hOne]
    · rw [hOne]
      decide
  · rcases hKeeps.serial hQueue with ⟨_, hSame⟩
    refine ⟨hKeeps.stopped.trans h.running, hNumbered,
      ?_, ?_⟩
    · rw [putsSinceEmpty_snoc hQueue, hSame, hSerial]
      cases op with
      | put elem => exact absurd rfl (hNotPut elem)
      | reset => exact absurd rfl hReset
      | consumerNew => rfl
      | get k => rfl
      | move k => rfl
      | free k => rfl
    · rw [hSame]
      exact h.bound

theorem run_nextSerial
    (hRun : system.Run trace s) :
    CountsPuts trace s := by
  induction hRun with
  | start hStart =>
      subst hStart
      exact ⟨rfl, fun _ => rfl, rfl, by decide⟩
  | step _ hStep ih =>
      exact ih.step hStep.1 hStep.2

/-
  In every run, a put aborts exactly when 65534 buffers or
  more have been put since the queue was last empty.
-/
theorem put_aborts_iff
    (hRun : system.Run trace s)
    {elem : MParserBuffer}
    (hSeqNo : elem.seqNo = 0) :
    step s (.put elem) = .error .nextSerialZero ↔
      65534 ≤ putsSinceEmpty trace s := by
  have hCounts := run_nextSerial hRun
  have hSerial := hCounts.serial
  have hBound := hCounts.bound
  simp only [step,
    producerPut_eq hCounts.running hBound hSeqNo]
  split
  · rename_i hLast
    refine ⟨fun _ => by omega, fun _ => rfl⟩
  · rename_i hRoom
    refine ⟨fun hError => ?_, fun hMany => by omega⟩
    cases hError

theorem put_aborts_iff_sample :
    step (System.replayEnd step initial sampleOps)
          (.put sampleBuffer) =
        .error .nextSerialZero ↔
      65534 ≤
        putsSinceEmpty
          (System.replayTrace step initial sampleOps)
          (System.replayEnd step initial sampleOps) :=
  put_aborts_iff
    (System.replay_run (by decide +kernel)
      (by decide +kernel))
    rfl

/- A run of puts on a producer that nobody reads. -/
theorem puts_run
    (n : Nat)
    (hRoom : n ≤ 65534) :
    ∃ trace s,
      system.Run trace s ∧
        trace.map Prod.snd =
          List.replicate n (.put sampleBuffer) ∧
        s.producer.nextSerial = n + 1 ∧
        s.registered = ∅ := by
  induction n with
  | zero =>
      exact ⟨[], initial, System.Run.start rfl, rfl, rfl,
        rfl⟩
  | succ n ih =>
      rcases ih (by omega) with
        ⟨trace, s, hRun, hOps, hSerial, hNone⟩
      have hCounts := run_nextSerial hRun
      have hPut :
          bqProducerPut s.producer sampleBuffer = _ :=
        producerPut_eq hCounts.running hCounts.bound rfl
      have hNext :
          s.producer.nextSerial ≠ 2 ^ 16 - 1 := by
        omega
      rw [if_neg hNext] at hPut
      let t : State :=
        { s with
          producer := s.producer.enqueue sampleBuffer }
      have hStep : step s (.put sampleBuffer) = .ok t := by
        simp only [step, hPut]
        rfl
      have hEnabled : enabled s (.put sampleBuffer) := rfl
      refine ⟨trace ++ [(s, .put sampleBuffer)], t,
        System.Run.step hRun ⟨hEnabled, hStep⟩, ?_, ?_,
        hNone⟩
      · rw [List.map_append, hOps, List.replicate_succ']
        rfl
      · simp only [t, BufferQueueProducer.enqueue]
        omega

/- The 65535th buffer that nobody reads aborts the server. -/
theorem put_aborts_unread :
    ∃ trace s,
      system.Run trace s ∧
        trace.map Prod.snd =
          List.replicate 65534 (.put sampleBuffer) ∧
        s.registered = ∅ ∧
        step s (.put sampleBuffer) =
          .error .nextSerialZero := by
  rcases puts_run 65534 (Nat.le_refl _) with
    ⟨trace, s, hRun, hOps, hSerial, hNone⟩
  have hCounts := run_nextSerial hRun
  have hPut :
      bqProducerPut s.producer sampleBuffer = _ :=
    producerPut_eq hCounts.running hCounts.bound rfl
  rw [if_pos (by omega)] at hPut
  refine ⟨trace, s, hRun, hOps, hNone, ?_⟩
  simp only [step, hPut]
  rfl

end BufferQueue

end Feng
