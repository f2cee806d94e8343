import Feng.BufferQueue.Accounting

/-
  Runs of the buffer queue: what each consumer was handed and
  moved past, and what the queue still holds for it.

  Key definitions include:
    * `State.current`
    * `State.getResult`
    * `eventOf`
    * `history`
    * `Accounted`
    * `Delivers`

  Key theorems include:
    * `State.Wf.step_wf`
    * `run_reader`
    * `queue_accounted`
    * `queue_delivers`
-/

------------------------------------------------------------
-- What A Consumer Notices
------------------------------------------------------------

namespace Feng

namespace BufferQueue

namespace State

/- The pointer that survives `bq_consumer_confirm_pointer`. -/
def current (s : State) (k : Nat) : Option Nat :=
  (bqConsumerConfirmPointer s.producer
    (s.consumer k)).currentElementPointer

/- The buffer `bq_consumer_get` hands out. -/
def getResult (s : State) (k : Nat) : Option Nat :=
  match bqConsumerGet s.producer (s.consumer k) with
  | .ok (_, _, element) => element.map BQElem.pointer
  | .error _ => none

/- The buffers queued, oldest first. -/
def queued (s : State) : List Nat :=
  s.producer.queue.map BQElem.pointer

end State

/- What a call on the queue is to one consumer. -/
def eventOf (k : Nat) (s : State) : Op → Reader.Event
| .put _ => .put s.producer.nextPointer
| .reset => .discarded s.queued
| .consumerNew =>
    if s.nextConsumer = k then
      .registered s.queued
    else
      .other
| .get j => if j = k then .got (s.getResult k) else .other
| .move j => if j = k then .moved (s.current k) else .other
| .free _ => .other

def history
    (k : Nat)
    (trace : List (State × Op)) : List Reader.Event :=
  trace.map (fun x => eventOf k x.1 x.2)

namespace State

variable {s t : State} {k : Nat} {op : Op}

theorem Wf.queued_eq
    (h : s.Wf) :
    s.queued =
      List.range' s.producer.firstPointer
        (s.producer.nextPointer -
          s.producer.firstPointer) := by
  have hRoom := h.producer.pointerRoom
  have hLength :
      s.producer.nextPointer - s.producer.firstPointer =
        s.producer.queue.length := by
    unfold BufferQueueProducer.firstPointer
    omega
  rw [hLength]
  exact h.producer.pointers.map_eq_range'

theorem Wf.current_eq
    (h : s.Wf)
    (hMem : k ∈ s.registered) :
    s.current k = (s.reader k).current := by
  unfold current
  rw [confirmPointer_eq h.producer (h.consumer k hMem)]
  cases hHolding : bqHolding s.producer (s.consumer k) with
  | false =>
      have hReader : (s.reader k).holding = false := hHolding
      simp [Reader.current, hReader]
  | true =>
      have hReader : (s.reader k).holding = true := hHolding
      simp only [if_true, Reader.current, hReader]
      unfold reader
      cases h.consumer k hMem with
      | detached hSerial =>
          simp [bqHolding, bqAttached, Nat.ne_of_lt hSerial]
            at hHolding
      | behind hSerial hNone hQueue hLow hHigh =>
          simp [bqHolding, hNone] at hHolding
      | on pointer hSerial hAt hLow hHigh hLast =>
          rw [bqReader_at hSerial hAt, hAt]

theorem Wf.getResult_eq
    (h : s.Wf)
    (hMem : k ∈ s.registered) :
    s.getResult k = (s.reader k).result := by
  rcases consumerGet_eq h.producer (h.consumer k hMem) with
    ⟨consumer, element, hGet, _, hResult, _, _⟩
  simp only [getResult, hGet]
  exact hResult

/- A reader that is not touched. -/
theorem Wf.untouched
    (h : s.Wf)
    (hMem : k ∈ s.registered) :
    Reader.Step (s.reader k) .other (s.reader k) :=
  Reader.Step.other (Nat.le_refl _) (h.valid hMem).low

/- What the calls do to the consumers that were there before. -/
def Follows (s : State) (op : Op) (t : State) : Prop :=
  ∀ k ∈ t.registered, k ∈ s.registered →
    Reader.Step (s.reader k) (eventOf k s op) (t.reader k)

/- Where a consumer that was not there before begins. -/
def Joins (s : State) (op : Op) (t : State) : Prop :=
  ∀ k ∈ t.registered, k ∉ s.registered →
    eventOf k s op = .registered (t.reader k).kept ∧
      (t.reader k).cursor = (t.reader k).first ∧
      (t.reader k).first ≤ (t.reader k).next ∧
      (t.reader k).holding = false

theorem joins_of_registered
    (hSame : t.registered ⊆ s.registered) :
    Joins s op t := by
  intro k hMem hNot
  exact absurd (hSame hMem) hNot

theorem Wf.step_put
    (h : s.Wf)
    {elem : MParserBuffer}
    (hSeqNo : elem.seqNo = 0)
    (hStep : step s (.put elem) = .ok t) :
    t.Wf ∧ Follows s (.put elem) t ∧
      Joins s (.put elem) t := by
  cases hPut : bqProducerPut s.producer elem with
  | error fault =>
      simp [step, hPut, bind, Except.bind] at hStep
  | ok producer =>
      simp only [step, hPut, bind, Except.bind,
        Except.ok.injEq] at hStep
      subst hStep
      rcases h.put hSeqNo hPut with ⟨hWf, hReaders⟩
      refine ⟨hWf, ?_, joins_of_registered (fun _ h => h)⟩
      intro k hMem _
      rw [hReaders k hMem]
      exact Reader.Step.put (r := s.reader k)

theorem Wf.step_reset
    (h : s.Wf)
    (hStep : step s .reset = .ok t)
    (hGeneration : t.producer.queueSerial ≠ 0) :
    t.Wf ∧ Follows s .reset t ∧ Joins s .reset t := by
  cases hReset : bqProducerResetQueue s.producer with
  | error fault =>
      simp [step, hReset, bind, Except.bind] at hStep
  | ok producer =>
      simp only [step, hReset, bind, Except.bind,
        Except.ok.injEq] at hStep
      subst hStep
      rcases h.reset hReset hGeneration with
        ⟨hWf, hReaders⟩
      refine ⟨hWf, ?_, joins_of_registered (fun _ h => h)⟩
      intro k hMem _
      have hKept : s.queued = (s.reader k).kept := h.queued_eq
      rw [hReaders k hMem]
      simp only [eventOf, hKept]
      exact Reader.Step.discarded (r := s.reader k)

theorem Wf.step_consumerNew
    (h : s.Wf)
    (hStep : step s .consumerNew = .ok t) :
    t.Wf ∧ Follows s .consumerNew t ∧
      Joins s .consumerNew t := by
  cases hNew : bqConsumerNew s.producer with
  | error fault =>
      simp [step, hNew, bind, Except.bind] at hStep
  | ok pair =>
      rcases pair with ⟨producer, consumer⟩
      simp only [step, hNew, bind, Except.bind,
        Except.ok.injEq] at hStep
      subst hStep
      rcases h.join hNew with ⟨hWf, hOld, hReader⟩
      refine ⟨hWf, ?_, ?_⟩
      · intro k _ hMem
        have hne : s.nextConsumer ≠ k :=
          Nat.ne_of_gt (h.fresh k hMem)
        rw [hOld k hMem]
        simp only [eventOf, if_neg hne]
        exact h.untouched hMem
      · intro k hMem hNot
        have hEq : k = s.nextConsumer := by
          rcases Finset.mem_insert.mp hMem with hEq | hOldMem
          · exact hEq
          · exact absurd hOldMem hNot
        subst hEq
        rw [hReader]
        have hRoom := h.producer.pointerRoom
        refine ⟨?_, rfl, Nat.sub_le _ _, rfl⟩
        simp only [eventOf, if_true, Reader.kept]
        rw [h.queued_eq]

theorem Wf.step_get
    (h : s.Wf)
    {j : Nat}
    (hMem : j ∈ s.registered)
    (hStep : step s (.get j) = .ok t) :
    t.Wf ∧ Follows s (.get j) t ∧ Joins s (.get j) t := by
  have hConsumer := h.consumer j hMem
  rcases consumerGet_eq h.producer hConsumer with
    ⟨consumer, element, hGet, _, _, hWf, hReader⟩
  simp only [step, hGet, bind, Except.bind,
    Except.ok.injEq] at hStep
  subst hStep
  have hCursor :
      (bqReader s.producer consumer).cursor =
        (s.reader j).cursor := by
    rw [hReader]
    rfl
  refine ⟨h.update_same hMem hWf hCursor, ?_,
    joins_of_registered (fun _ h => h)⟩
  intro k hk _
  rw [reader_update]
  by_cases hEq : j = k
  · subst hEq
    rw [if_pos rfl, hReader]
    simp only [eventOf, if_true, h.getResult_eq hMem]
    exact Reader.Step.got
  · rw [if_neg (Ne.symm hEq)]
    simp only [eventOf, if_neg hEq]
    exact h.untouched hk

theorem Wf.step_move
    (h : s.Wf)
    {j : Nat}
    (hMem : j ∈ s.registered)
    (hStep : step s (.move j) = .ok t)
    (hGeneration : t.producer.queueSerial ≠ 0) :
    t.Wf ∧ Follows s (.move j) t ∧ Joins s (.move j) t := by
  have hRunning := h.producer.running
  rcases h.move hMem with
    ⟨producer, consumer, more, hMove, _, _, _, hAfter⟩
  simp only [step, bqConsumerMove, hRunning, hMove, bind,
    Except.bind, Bool.false_eq_true, if_false,
    Except.ok.injEq] at hStep
  subst hStep
  rcases hAfter hGeneration with ⟨hWf, hFirst, hReaders⟩
  refine ⟨hWf, ?_, joins_of_registered (fun _ h => h)⟩
  intro k hk _
  have hLow := (hWf.valid hk).low
  rw [hReaders k hk] at hLow ⊢
  by_cases hEq : j = k
  · subst hEq
    rw [if_pos rfl] at hLow ⊢
    simp only [eventOf, if_true, h.current_eq hMem]
    exact Reader.Step.moved hFirst hLow
  · rw [if_neg (Ne.symm hEq)] at hLow ⊢
    simp only [eventOf, if_neg hEq]
    exact Reader.Step.other hFirst hLow

theorem Wf.step_free
    (h : s.Wf)
    {j : Nat}
    (hMem : j ∈ s.registered)
    (hStep : step s (.free j) = .ok t)
    (hGeneration : t.producer.queueSerial ≠ 0) :
    t.Wf ∧ Follows s (.free j) t ∧ Joins s (.free j) t := by
  rcases h.free hMem with ⟨producer, hFree, hAfter⟩
  simp only [step, hFree, bind, Except.bind,
    Except.ok.injEq] at hStep
  subst hStep
  rcases hAfter hGeneration with ⟨hWf, hFirst, hReaders⟩
  refine ⟨hWf, ?_,
    joins_of_registered (Finset.erase_subset _ _)⟩
  intro k hk hOld
  have hne := Finset.ne_of_mem_erase hk
  have hLow := (hWf.valid hk).low
  rw [hReaders k hOld hne] at hLow ⊢
  exact Reader.Step.other hFirst hLow

/-
  Every call keeps the queue well formed, and is a step of
  every consumer's own view of it.
-/
theorem Wf.step_wf
    (h : s.Wf)
    (hEnabled : enabled s op)
    (hStep : step s op = .ok t)
    (hGeneration : t.producer.queueSerial ≠ 0) :
    t.Wf ∧ Follows s op t ∧ Joins s op t := by
  cases op with
  | put elem =>
      exact h.step_put hEnabled hStep
  | reset =>
      exact h.step_reset hStep hGeneration
  | consumerNew =>
      exact h.step_consumerNew hStep
  | get k =>
      exact h.step_get hEnabled hStep
  | move k =>
      exact h.step_move hEnabled hStep hGeneration
  | free k =>
      exact h.step_free hEnabled hStep hGeneration

/-
  The only calls that abort are a put that wraps the serial
  number, and one registration too many.
-/
theorem Wf.step_fault
    (h : s.Wf)
    (hEnabled : enabled s op)
    {fault : BQFault}
    (hStep : step s op = .error fault) :
    fault = .nextSerialZero ∨
      fault = .tooManyConsumers ∧
        op = .consumerNew ∧
        gMaxULong ≤ s.producer.consumers := by
  have hRunning := h.producer.running
  cases op with
  | put elem =>
      simp only [step,
        producerPut_eq hRunning
          h.producer.serialBound hEnabled] at hStep
      split at hStep
      · cases hStep
        exact Or.inl rfl
      · cases hStep
  | reset =>
      simp [step, bqProducerResetQueue, hRunning,
        bind, Except.bind] at hStep
  | consumerNew =>
      unfold step bqConsumerNew at hStep
      simp only at hStep
      split at hStep
      · cases hStep
      · rename_i hFull
        cases hStep
        exact Or.inr ⟨rfl, rfl, Nat.not_lt.mp hFull⟩
  | get k =>
      rcases consumerGet_eq h.producer
          (h.consumer k hEnabled) with
        ⟨consumer, element, hGet, _⟩
      simp [step, hGet, bind, Except.bind]
        at hStep
  | move k =>
      rcases h.move hEnabled with
        ⟨producer, consumer, more, hMove, _⟩
      simp [step, bqConsumerMove, hRunning,
        hMove, bind, Except.bind] at hStep
  | free k =>
      rcases h.free hEnabled with ⟨producer, hFree, _⟩
      simp [step, hFree, bind, Except.bind]
        at hStep

theorem initial_wf : initial.Wf where
  producer :=
    { pointers := trivial
      serials := trivial
      pointerRoom := Nat.le_refl _
      serialRoom := Nat.one_pos
      serialBound := by decide
      running := rfl }
  generation := Nat.one_ne_zero
  consumer := by
    intro k hk
    cases hk
  fresh := by
    intro k hk
    cases hk
  count := rfl
  countBound := Nat.zero_le _
  seen := by
    intro elem hElem
    cases hElem
  slowest := by
    intro hQueue
    exact absurd rfl hQueue

end State

end BufferQueue

end Feng

------------------------------------------------------------
-- Every Run
------------------------------------------------------------

namespace Feng

namespace BufferQueue

variable {trace : List (State × Op)} {s : State} {k : Nat}

/- The `queue_serial` has not come round to zero. -/
def NotWrapped (s : State) : Prop :=
  s.producer.queueSerial ≠ 0

instance decidableNotWrapped : DecidablePred NotWrapped :=
  fun s =>
    inferInstanceAs
      (Decidable (s.producer.queueSerial ≠ 0))

theorem history_snoc
    (k : Nat)
    (trace : List (State × Op))
    (s : State)
    (op : Op) :
    history k (trace ++ [(s, op)]) =
      history k trace ++ [eventOf k s op] := by
  simp [history]

/-
  As long as the serial number of the queue does not wrap,
  every registered consumer is a reader of the log.
-/
theorem run_reader
    (hRun : system.Run trace s)
    (hSerials : System.Always NotWrapped trace s) :
    s.Wf ∧
      ∀ k ∈ s.registered,
        Reader.Run (history k trace) (s.reader k) := by
  induction hRun with
  | @start s hStart =>
      subst hStart
      refine ⟨State.initial_wf, ?_⟩
      intro k hk
      cases hk
  | @step trace s t op _ hStep ih =>
      rcases System.always_snoc.mp hSerials with
        ⟨hPrior, hLast⟩
      rcases ih hPrior with ⟨hWf, hReaders⟩
      rcases hWf.step_wf hStep.1 hStep.2 hLast with
        ⟨hWf', hFollows, hJoins⟩
      refine ⟨hWf', ?_⟩
      intro k hk
      rw [history_snoc]
      by_cases hOld : k ∈ s.registered
      · exact Reader.Run.step (hReaders k hOld)
          (hFollows k hk hOld)
      · rcases hJoins k hk hOld with
          ⟨hEvent, hCursor, hFirst, hHolding⟩
        rw [hEvent]
        exact Reader.Run.registered hCursor hFirst hHolding

/-
  The accounting of the queue: every `seen` counts the
  registered consumers that moved past the buffer, a pointer
  that is not dropped is on a queued buffer, and the only
  assertions that may fail are those on the next serial
  number and on the number of consumers.
-/
structure Accounted
    (trace : List (State × Op))
    (s : State) : Prop where
  seen :
    ∀ elem ∈ s.producer.queue,
      elem.data.seen =
        (s.registered.filter (fun k =>
          elem.pointer ∈
            (Reader.account (history k trace)).passed)).card
  unseen :
    ∀ elem ∈ s.producer.queue,
      0 < s.producer.consumers →
        elem.data.seen < s.producer.consumers
  pointer :
    ∀ k ∈ s.registered, ∀ pointer,
      s.current k = some pointer →
        ∃ elem ∈ s.producer.queue, elem.pointer = pointer
  assertions :
    ∀ op, enabled s op → ∀ fault,
      step s op = .error fault →
        fault = .nextSerialZero ∨ fault = .tooManyConsumers

theorem queue_accounted
    (hRun : system.Run trace s)
    (hSerials : System.Always NotWrapped trace s) :
    Accounted trace s := by
  rcases run_reader hRun hSerials with ⟨hWf, hReaders⟩
  refine
    { seen := ?_, unseen := ?_, pointer := ?_,
      assertions := fun _ hEnabled _ hStep =>
        (hWf.step_fault hEnabled hStep).imp_right And.left }
  · intro elem hElem
    have hBounds := hWf.producer.pointer_bounds hElem
    rw [hWf.seen elem hElem]
    refine congrArg Finset.card (Finset.filter_congr ?_)
    intro k hk
    exact ((hReaders k hk).mem_passed_iff hBounds.1).symm
  · intro elem hElem hConsumers
    rw [hWf.count] at hConsumers
    exact hWf.seen_lt hElem (Finset.card_pos.mp hConsumers)
  · intro k hk pointer hCurrent
    have hValid := hWf.valid hk
    rw [hWf.current_eq hk] at hCurrent
    unfold Reader.current at hCurrent
    split at hCurrent
    · rename_i hHolding
      cases hCurrent
      exact hWf.producer.exists_elem hValid.low
        (hValid.held hHolding)
    · cases hCurrent

/- A buffer from a stored source. -/
def sampleBuffer : MParserBuffer where
  seen := 0
  timestamp := 0
  rtpTimestamp := 0
  delivery := 0
  duration := 0
  marker := false
  seqNo := 0
  data := []

def sampleOps : List Op :=
  [.put sampleBuffer, .consumerNew, .get 0, .consumerNew,
    .put sampleBuffer, .move 0, .get 0, .get 1]

theorem queue_accounted_sample :
    Accounted (System.replayTrace step initial sampleOps)
      (System.replayEnd step initial sampleOps) :=
  queue_accounted
    (System.replay_run (by decide +kernel)
      (by decide +kernel))
    (by decide +kernel)

/-
  Exactly-once delivery: what was queued when the consumer
  registered and put since, less what was discarded before
  it was handed out, is what the consumer was handed, in
  order, followed by what is queued for it; and the next
  buffer it is handed is the first of these.
-/
structure Delivers
    (trace : List (State × Op))
    (s : State)
    (k : Nat) : Prop where
  sorted :
    (Reader.account
      (history k trace)).eligible.Pairwise (· < ·)
  exactly :
    (Reader.account (history k trace)).eligible.filter
        (· ∉ (Reader.account (history k trace)).lost) =
      (Reader.account (history k trace)).obtained ++
        s.queued.filter
          (· ∉ (Reader.account (history k trace)).obtained)
  next :
    (Reader.account (history k trace)).held = none →
      s.getResult k =
        (s.queued.filter
          (· ∉ (Reader.account
            (history k trace)).obtained)).head?

theorem queue_delivers
    (hRun : system.Run trace s)
    (hSerials : System.Always NotWrapped trace s)
    (hMem : k ∈ s.registered)
    (hCalls : Reader.Alternating (history k trace)) :
    Delivers trace s k := by
  rcases run_reader hRun hSerials with ⟨hWf, hReaders⟩
  have hReader := hReaders k hMem
  have hDelivered := hReader.delivered hCalls
  have hKept : s.queued = (s.reader k).kept := hWf.queued_eq
  refine ⟨?_, ?_, ?_⟩
  · rcases hDelivered.eligible with ⟨base, _, hEq⟩
    rw [hEq]
    exact List.pairwise_lt_range'
  · rw [hKept, hDelivered.kept_filter hReader.valid]
    exact hDelivered.pending
  · intro hHeld
    rw [hKept, hWf.getResult_eq hMem]
    exact hDelivered.result_eq hReader.valid hHeld

theorem queue_delivers_sample :
    Delivers (System.replayTrace step initial sampleOps)
      (System.replayEnd step initial sampleOps) 0 :=
  queue_delivers
    (System.replay_run (by decide +kernel)
      (by decide +kernel))
    (by decide +kernel) (by decide +kernel)
    (by decide +kernel)

end BufferQueue

end Feng

------------------------------------------------------------
-- Runs That Wrap The Serial Number
------------------------------------------------------------

namespace Feng

namespace BufferQueue

variable {trace : List (State × Op)} {s : State} {k : Nat}

/- The state with another serial number of its empty queue. -/
def State.renumber (s : State) (serial : Nat) : State :=
  { s with
    producer := { s.producer with queueSerial := serial } }

/- Nothing is queued, and nothing was put since it was so. -/
structure State.Idle (s : State) : Prop where
  queue : s.producer.queue = []
  nextSerial : s.producer.nextSerial = 1
  running : s.producer.stopped = false

/- Resetting an empty queue only changes its serial number. -/
theorem State.Idle.reset
    (h : s.Idle) :
    step s .reset =
      .ok (s.renumber
        (gulongIncrement s.producer.queueSerial)) := by
  rcases s with ⟨producer, registered, consumer, next⟩
  rcases producer with
    ⟨queue, nextSerial, serial, consumers, stopped, pointer⟩
  rcases h with ⟨hQueue, hNext, hRunning⟩
  simp only at hQueue hNext hRunning
  subst hQueue hNext hRunning
  rfl

theorem State.Idle.event
    (h : s.Idle)
    (k : Nat) :
    eventOf k s .reset = .discarded [] := by
  simp [eventOf, State.queued, h.queue]

/- Resets until the serial number is at its maximum. -/
theorem resets_run
    (hRun : system.Run trace s)
    (hIdle : s.Idle)
    (n : Nat)
    (hRoom : s.producer.queueSerial + n ≤ gMaxULong) :
    ∃ more,
      system.Run (trace ++ more)
          (s.renumber (s.producer.queueSerial + n)) ∧
        ∀ k, history k more =
          List.replicate n (.discarded []) := by
  induction n with
  | zero =>
      exact ⟨[], by simpa [State.renumber] using hRun,
        fun k => rfl⟩
  | succ n ih =>
      rcases ih (by omega) with ⟨more, hMore, hHistory⟩
      have hStillIdle :
          (s.renumber
            (s.producer.queueSerial + n)).Idle :=
        ⟨hIdle.queue, hIdle.nextSerial, hIdle.running⟩
      have hNext :
          gulongIncrement (s.producer.queueSerial + n) =
            s.producer.queueSerial + (n + 1) :=
        gulongIncrement_of_lt (by omega)
      have hStep := hStillIdle.reset
      simp only [State.renumber] at hStep
      rw [hNext] at hStep
      refine ⟨more ++
        [(s.renumber (s.producer.queueSerial + n), .reset)],
        ?_, ?_⟩
      · rw [← List.append_assoc]
        exact System.Run.step hMore ⟨trivial, hStep⟩
      · intro k
        rw [history_snoc, hHistory, hStillIdle.event,
          List.replicate_succ']

/-
  As many resets as `gulong` has values, less one, put the
  serial number back by one.
-/
theorem resets_wrap
    (hRun : system.Run trace s)
    (hIdle : s.Idle)
    (hSerial : s.producer.queueSerial = 2) :
    ∃ more n,
      system.Run (trace ++ more) (s.renumber 1) ∧
        ∀ k, history k more =
          List.replicate n (.discarded []) := by
  have hLow : 2 ≤ gMaxULong := by
    unfold gMaxULong
    omega
  rcases Nat.le.dest hLow with ⟨n, hMax⟩
  rcases resets_run hRun hIdle n
      (by rw [hSerial, hMax]) with
    ⟨more, hMore, hHistory⟩
  rw [hSerial, hMax] at hMore
  have hIdleAt :
      ∀ serial, (s.renumber serial).Idle :=
    fun _ => ⟨hIdle.queue, hIdle.nextSerial, hIdle.running⟩
  have hToZero := (hIdleAt gMaxULong).reset
  have hToOne := (hIdleAt 0).reset
  have hWrap : gulongIncrement gMaxULong = 0 := if_pos rfl
  have hOne : gulongIncrement 0 = 1 :=
    gulongIncrement_of_lt (by omega)
  simp only [State.renumber] at hToZero hToOne
  rw [hWrap] at hToZero
  rw [hOne] at hToOne
  refine ⟨more ++ [(s.renumber gMaxULong, .reset)] ++
    [(s.renumber 0, .reset)], n + 1 + 1, ?_, ?_⟩
  · rw [← List.append_assoc, ← List.append_assoc]
    exact System.Run.step
      (System.Run.step hMore ⟨trivial, hToZero⟩)
      ⟨trivial, hToOne⟩
  · intro k
    rw [history_snoc, history_snoc, hHistory,
      (hIdleAt gMaxULong).event, (hIdleAt 0).event,
      List.replicate_succ', List.replicate_succ']

/- A consumer gets a buffer, and the queue is reset. -/
def staleOps : List Op :=
  [.put sampleBuffer, .consumerNew, .get 0, .reset]

/-
  Once the serial number has come round, a pointer to a
  buffer freed long ago is taken for a good one.
-/
theorem queue_accounted_wrapped :
    ¬ ∀ trace s, system.Run trace s → Accounted trace s := by
  intro hAll
  have hRun :
      system.Run (System.replayTrace step initial staleOps)
        (System.replayEnd step initial staleOps) :=
    System.replay_run (by decide +kernel)
      (by decide +kernel)
  rcases resets_wrap hRun
      ⟨by decide +kernel, by decide +kernel,
        by decide +kernel⟩
      (by decide +kernel) with
    ⟨more, n, hMore, _⟩
  have hPointer := (hAll _ _ hMore).pointer 0
    (by decide +kernel) 0 (by decide +kernel)
  rcases hPointer with ⟨elem, hElem, _⟩
  have hEmpty :
      ((System.replayEnd step initial staleOps).renumber
        1).producer.queue = [] := by
    decide +kernel
  rw [hEmpty] at hElem
  cases hElem

/- A consumer moves past the only buffer. -/
def drainOps : List Op :=
  [.put sampleBuffer, .consumerNew, .get 0, .move 0]

/- It asks again when two buffers have been put. -/
def refillOps : List Op :=
  [.put sampleBuffer, .put sampleBuffer, .get 0]

theorem history_append
    (k : Nat)
    (trace more : List (State × Op)) :
    history k (trace ++ more) =
      history k trace ++ history k more :=
  List.map_append

/-
  Once the serial number has come round, a consumer skips the
  buffers that carry the numbers it saw before.
-/
theorem queue_delivers_wrapped :
    ¬ ∀ trace s k,
      system.Run trace s → k ∈ s.registered →
        Reader.Alternating (history k trace) →
          Delivers trace s k := by
  intro hAll
  have hRun :
      system.Run (System.replayTrace step initial drainOps)
        (System.replayEnd step initial drainOps) :=
    System.replay_run (by decide +kernel)
      (by decide +kernel)
  rcases resets_wrap hRun
      ⟨by decide +kernel, by decide +kernel,
        by decide +kernel⟩
      (by decide +kernel) with
    ⟨more, n, hMore, hHistory⟩
  let refilled :=
    (System.replayEnd step initial drainOps).renumber 1
  have hRefill :
      system.Run
        (System.replayTrace step initial drainOps ++ more ++
          System.replayTrace step refilled refillOps)
        (System.replayEnd step refilled refillOps) :=
    System.replay_run_from hMore (by decide +kernel)
      (by decide +kernel)
  have hExactly := (hAll _ _ 0 hRefill (by decide +kernel)
    (by
      rw [history_append, history_append, hHistory,
        Reader.alternating_discarded_nil]
      decide +kernel)).exactly
  rw [history_append, history_append, hHistory,
    Reader.account_discarded_nil] at hExactly
  exact absurd hExactly (by decide +kernel)

end BufferQueue

end Feng
