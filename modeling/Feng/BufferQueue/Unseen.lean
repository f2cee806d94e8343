import Feng.BufferQueue.Runs

/-
  How many buffers `bq_consumer_unseen` counts, against those
  a consumer has not moved past.

  Key definitions include:
    * `ahead`

  Key theorems include:
    * `State.Wf.unseen_on`
    * `State.Wf.unseen_between`
    * `unseen_exact_iff`
-/

------------------------------------------------------------
-- Counts From The Serial Numbers
------------------------------------------------------------

namespace Feng

namespace BufferQueue

namespace State

variable {s : State} {k : Nat}

/-
  On a buffer, the serial numbers are as far apart as the
  addresses: the buffer itself is counted.
-/
theorem Wf.unseen_on
    (h : s.Wf)
    (hMem : k ∈ s.registered)
    (hCurrent : s.current k ≠ none) :
    bqConsumerUnseen s.producer (s.consumer k) =
      (s.reader k).next - (s.reader k).cursor := by
  rw [h.current_eq hMem] at hCurrent
  unfold reader at hCurrent ⊢
  have hSerialBound := h.producer.serialBound
  cases h.consumer k hMem with
  | detached hSerial =>
      rw [bqReader_detached (Nat.ne_of_lt hSerial)] at hCurrent
      exact absurd rfl hCurrent
  | behind hSerial hPointer _ _ _ =>
      rw [bqReader_behind hSerial hPointer] at hCurrent
      exact absurd rfl hCurrent
  | on pointer hSerial hPointer hLow hHigh hLast =>
      have hQueue : s.producer.queue ≠ [] := by
        apply h.producer.queue_ne_nil_iff.mpr
        exact Nat.lt_of_le_of_lt hLow hHigh
      rw [bqReader_at hSerial hPointer]
      simp only [bqConsumerUnseen, h.producer.running,
        Bool.false_eq_true, if_false, hSerial, ne_eq,
        not_true_eq_false, hQueue]
      omega

/-
  Between two buffers, the one it moved past is still counted;
  in a new generation the number of the next buffer is taken,
  and numbers start at one.
-/
theorem Wf.unseen_between
    (h : s.Wf)
    (hMem : k ∈ s.registered)
    (hCurrent : s.current k = none) :
    (s.reader k).next - (s.reader k).cursor <
      bqConsumerUnseen s.producer (s.consumer k) := by
  rw [h.current_eq hMem] at hCurrent
  unfold reader at hCurrent ⊢
  have hSerialBound := h.producer.serialBound
  have hSerialRoom := h.producer.serialRoom
  have hPointerRoom := h.producer.pointerRoom
  cases h.consumer k hMem with
  | detached hSerial =>
      have hNe := Nat.ne_of_lt hSerial
      rw [bqReader_detached hNe]
      simp only [bqConsumerUnseen, h.producer.running,
        Bool.false_eq_true, if_false, ne_eq, hNe,
        not_false_eq_true, if_true,
        BufferQueueProducer.firstPointer]
      omega
  | behind hSerial hPointer hQueue hLow hHigh =>
      rw [bqReader_behind hSerial hPointer]
      simp only [bqConsumerUnseen, h.producer.running,
        Bool.false_eq_true, if_false, hSerial, ne_eq,
        not_true_eq_false, hQueue]
      omega
  | on pointer hSerial hPointer _ _ _ =>
      rw [bqReader_at hSerial hPointer] at hCurrent
      cases hCurrent

end State

end BufferQueue

end Feng

------------------------------------------------------------
-- Every Run
------------------------------------------------------------

namespace Feng

namespace BufferQueue

variable {trace : List (State × Op)} {s : State} {k : Nat}

/- The buffers queued that a consumer has not moved past. -/
def ahead
    (trace : List (State × Op))
    (s : State)
    (k : Nat) : List Nat :=
  s.queued.filter
    (· ∉ (Reader.account (history k trace)).passed)

theorem length_ahead
    (hRun : system.Run trace s)
    (hSerials : System.Always NotWrapped trace s)
    (hMem : k ∈ s.registered) :
    (ahead trace s k).length =
      (s.reader k).next - (s.reader k).cursor := by
  rcases run_reader hRun hSerials with ⟨hWf, hReaders⟩
  have hKept : s.queued = (s.reader k).kept := hWf.queued_eq
  unfold ahead
  rw [hKept, (hReaders k hMem).kept_filter,
    List.length_range']

/-
  In every state, the count is that of the buffers ahead of
  the consumer exactly when its pointer is on one of them.
-/
theorem unseen_exact_iff
    (hRun : system.Run trace s)
    (hSerials : System.Always NotWrapped trace s)
    (hMem : k ∈ s.registered) :
    bqConsumerUnseen s.producer (s.consumer k) =
        (ahead trace s k).length ↔
      s.current k ≠ none := by
  have hWf := (run_reader hRun hSerials).1
  rw [length_ahead hRun hSerials hMem]
  constructor
  · intro hExact hCurrent
    have hMore := hWf.unseen_between hMem hCurrent
    omega
  · exact hWf.unseen_on hMem

theorem unseen_exact_iff_sample :
    bqConsumerUnseen
          (System.replayEnd step initial sampleOps).producer
          ((System.replayEnd step initial sampleOps).consumer
            0) =
        (ahead (System.replayTrace step initial sampleOps)
          (System.replayEnd step initial sampleOps)
          0).length ↔
      (System.replayEnd step initial sampleOps).current 0 ≠
        none :=
  unseen_exact_iff
    (System.replay_run (by decide +kernel)
      (by decide +kernel))
    (by decide +kernel) (by decide +kernel)

/- A consumer that just came, on a queue with nothing in it. -/
theorem unseen_overcounts :
    ¬ ∀ trace s k,
      system.Run trace s → k ∈ s.registered →
        bqConsumerUnseen s.producer (s.consumer k) =
          (ahead trace s k).length := by
  intro hAll
  have hRun :
      system.Run
        (System.replayTrace step initial [.consumerNew])
        (System.replayEnd step initial [.consumerNew]) :=
    System.replay_run (by decide +kernel)
      (by decide +kernel)
  have hExact := hAll _ _ 0 hRun (by decide +kernel)
  exact absurd hExact (by decide +kernel)

end BufferQueue

end Feng
