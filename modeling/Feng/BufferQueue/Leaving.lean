import Feng.BufferQueue.Serial

/-
  What a consumer that leaves is to the others: nothing they
  are handed from then on depends on whether it left or stayed
  without being used.

  Key definitions include:
    * `handed`
    * `obtained`
    * `NoPart`
    * `Alike`
    * `Unnoticed`

  Key theorems include:
    * `State.Wf.free_last`
    * `Alike.step`
    * `Alike.obtained_eq`
    * `leaving_unnoticed`
-/

------------------------------------------------------------
-- What A Step Leaves Alone
------------------------------------------------------------

namespace Feng

namespace BufferQueue

variable {s t : State} {op : Op}

/- The consumers registered after a call. -/
def registeredAfter (s : State) : Op → Finset Nat
| .consumerNew => insert s.nextConsumer s.registered
| .free k => s.registered.erase k
| _ => s.registered

/- The number the next consumer gets after a call. -/
def nextConsumerAfter (s : State) : Op → Nat
| .consumerNew => s.nextConsumer + 1
| _ => s.nextConsumer

theorem step_registered
    (hStep : step s op = .ok t) :
    t.registered = registeredAfter s op ∧
      t.nextConsumer = nextConsumerAfter s op := by
  cases op with
  | put elem =>
      rcases Except.bind_eq_ok.mp hStep with ⟨_, _, hStep⟩
      cases hStep
      exact ⟨rfl, rfl⟩
  | reset =>
      rcases Except.bind_eq_ok.mp hStep with ⟨_, _, hStep⟩
      cases hStep
      exact ⟨rfl, rfl⟩
  | consumerNew =>
      rcases Except.bind_eq_ok.mp hStep with ⟨_, _, hStep⟩
      cases hStep
      exact ⟨rfl, rfl⟩
  | get k =>
      rcases Except.bind_eq_ok.mp hStep with ⟨_, _, hStep⟩
      cases hStep
      exact ⟨rfl, rfl⟩
  | move k =>
      rcases Except.bind_eq_ok.mp hStep with ⟨_, _, hStep⟩
      cases hStep
      exact ⟨rfl, rfl⟩
  | free k =>
      rcases Except.bind_eq_ok.mp hStep with ⟨_, _, hStep⟩
      cases hStep
      exact ⟨rfl, rfl⟩

/- A put appends its buffer at the next address. -/
theorem producerPut_bare
    {producer producer' : BufferQueueProducer}
    {buffer : MParserBuffer}
    (h : bqProducerPut producer buffer = .ok producer') :
    producer'.nextPointer = producer.nextPointer + 1 ∧
      producer'.queue.map BQElem.bare =
        producer.queue.map BQElem.bare ++
          [{ pointer := producer.nextPointer
             data := buffer.bare }] := by
  have hBuffer (serial : Nat) :
      List.map BQElem.bare
          (producer.queue ++
            [{ pointer := producer.nextPointer
               data := { buffer with
                 seen := 0
                 seqNo := serial } }]) =
        producer.queue.map BQElem.bare ++
          [{ pointer := producer.nextPointer
             data := buffer.bare }] := by
    rw [List.map_append]
    rfl
  unfold bqProducerPut at h
  split at h
  · cases h
  · by_cases hNumbered : buffer.seqNo = 0
    · simp only [hNumbered, decide_true, if_true] at h
      split at h
      · cases h
      · cases h
        exact ⟨rfl, hBuffer _⟩
    · simp only [hNumbered, decide_false, Bool.false_eq_true,
        if_false] at h
      split at h
      · cases h
      · cases h
        exact ⟨rfl, hBuffer _⟩

theorem resetQueue_bare
    {producer producer' : BufferQueueProducer}
    (h : bqProducerResetQueue producer = .ok producer') :
    producer'.nextPointer = producer.nextPointer ∧
      producer'.queue.map BQElem.bare = [] := by
  unfold bqProducerResetQueue at h
  split at h
  · cases h
  · cases h
    exact ⟨rfl, rfl⟩

/- The address the next buffer gets after a call. -/
def nextPointerAfter (s : State) : Op → Nat
| .put _ => s.producer.nextPointer + 1
| _ => s.producer.nextPointer

/- The buffer that a call puts, at its address. -/
def putBy (s : State) : Op → Option BQElem
| .put buffer =>
    some
      { pointer := s.producer.nextPointer
        data := buffer.bare }
| _ => none

/- What is queued after a call was so before, or is put by it. -/
theorem step_bare
    (hStep : step s op = .ok t) :
    t.producer.nextPointer = nextPointerAfter s op ∧
      t.producer.queue.map BQElem.bare ⊆
        s.producer.queue.map BQElem.bare ++
          (putBy s op).toList := by
  by_cases hPut : ∃ buffer, op = .put buffer
  · rcases hPut with ⟨buffer, rfl⟩
    rcases Except.bind_eq_ok.mp hStep with
      ⟨producer, hProducer, hStep⟩
    cases hStep
    rcases producerPut_bare hProducer with ⟨hNext, hQueue⟩
    refine ⟨hNext, ?_⟩
    rw [hQueue]
    exact List.Subset.refl _
  · by_cases hReset : op = .reset
    · subst hReset
      rcases Except.bind_eq_ok.mp hStep with
        ⟨producer, hProducer, hStep⟩
      cases hStep
      rcases resetQueue_bare hProducer with ⟨hNext, hQueue⟩
      refine ⟨hNext, ?_⟩
      rw [hQueue]
      exact List.nil_subset _
    · have hKeeps := step_keepsQueue
        (fun buffer hIs => hPut ⟨buffer, hIs⟩) hReset hStep
      have hSubset :
          t.producer.queue.map BQElem.bare ⊆
            s.producer.queue.map BQElem.bare ++
              (putBy s op).toList := by
        intro elem hElem
        exact List.mem_append_left _
          (hKeeps.buffers.subset hElem)
      refine ⟨?_, hSubset⟩
      rw [hKeeps.nextPointer]
      cases op with
      | put buffer => exact absurd ⟨buffer, rfl⟩ hPut
      | _ => rfl

end BufferQueue

end Feng

------------------------------------------------------------
-- Two States That Are Alike To The Others
------------------------------------------------------------

namespace Feng

namespace BufferQueue

/- The last consumer to leave takes all buffers with it. -/
theorem State.Wf.free_last
    {s t : State}
    {k : Nat}
    (h : s.Wf)
    (hOnly : s.registered = {k})
    (hStep : step s (.free k) = .ok t)
    (hGeneration : t.producer.queueSerial ≠ 0) :
    t.producer.queue = [] := by
  have hMem : k ∈ s.registered := by
    rw [hOnly]
    exact Finset.mem_singleton_self k
  rcases h.freeMoves hMem with
    ⟨moved, consumer, hFree, hEnd⟩
  simp only [step, hFree, bind, Except.bind,
    Except.ok.injEq] at hStep
  subst hStep
  rcases hEnd hGeneration with ⟨hWf, _, hCursor, _⟩
  by_contra hSome
  have hQueue : moved.queue ≠ [] := by
    intro hNil
    exact hSome (by simp [hNil])
  rcases hWf.slowest hQueue ⟨k, hMem⟩ with ⟨j, hj, hEq⟩
  have hSame : j = k := by
    change j ∈ s.registered at hj
    rw [hOnly] at hj
    exact Finset.mem_singleton.mp hj
  rw [hSame, hCursor] at hEq
  have hLess := hWf.producer.queue_ne_nil_iff.mp hQueue
  simp only [State.update_producer] at hEq hLess
  omega

/- The buffer `bq_consumer_get` hands out, as it was put. -/
def handed (s : State) (k : Nat) : Option BQElem :=
  match bqConsumerGet s.producer (s.consumer k) with
  | .ok (_, _, element) => element.map BQElem.bare
  | .error _ => none

/- What a consumer is handed in the course of some calls. -/
def obtained
    (k : Nat)
    (trace : List (State × Op)) : List (Option BQElem) :=
  trace.filterMap (fun x =>
    if x.2 = .get k then some (handed x.1 k) else none)

/- The consumer is not used, nor does it leave. -/
def NoPart (c : Nat) (op : Op) : Prop :=
  op ≠ .get c ∧ op ≠ .move c ∧ op ≠ .free c

instance decidableNoPart
    (c : Nat) :
    DecidablePred (NoPart c) :=
  fun op =>
    inferInstanceAs
      (Decidable
        (op ≠ .get c ∧ op ≠ .move c ∧ op ≠ .free c))

/-
  A state in which one consumer stays and one without it: the
  others that were there are at the same place, and nothing
  differs in a buffer that both have queued.
-/
structure Alike
    (others : Finset Nat)
    (c : Nat)
    (s t : State) : Prop where
  stay : s.Wf
  leave : t.Wf
  mem : c ∈ s.registered
  registered : t.registered = s.registered.erase c
  nextConsumer : t.nextConsumer = s.nextConsumer
  fresh : ∀ k ∈ others, k < s.nextConsumer
  nextPointer :
    t.producer.nextPointer = s.producer.nextPointer
  reader :
    ∀ k ∈ others, k ∈ t.registered →
      Reader.SamePlace (s.reader k) (t.reader k)
  buffers :
    ∀ elem ∈ s.producer.queue.map BQElem.bare,
      ∀ elem' ∈ t.producer.queue.map BQElem.bare,
        elem.pointer = elem'.pointer → elem = elem'

namespace Alike

variable {others : Finset Nat} {c k : Nat}
variable {s t s' t' : State} {op : Op}

/- The state after a consumer has left, and the one before. -/
theorem free
    (h : s.Wf)
    (hMem : c ∈ s.registered)
    (hStep : step s (.free c) = .ok t)
    (hGeneration : t.producer.queueSerial ≠ 0) :
    Alike (s.registered.erase c) c s t := by
  have hWf := (h.step_free hMem hStep hGeneration).1
  rcases step_registered hStep with
    ⟨hRegistered, hNextConsumer⟩
  rcases step_bare hStep with ⟨hNextPointer, hBuffers⟩
  have hReaders :
      ∀ k ∈ s.registered, k ≠ c →
        Reader.SamePlace (s.reader k) (t.reader k) := by
    intro k hk hNe
    rcases h.free hMem with ⟨producer, hFree, hAfter⟩
    simp only [step, hFree, bind, Except.bind,
      Except.ok.injEq] at hStep
    subst hStep
    rw [(hAfter hGeneration).2.2 k hk hNe]
    exact ⟨rfl, rfl, rfl⟩
  refine
    { stay := h, leave := hWf, mem := hMem,
      registered := hRegistered,
      nextConsumer := hNextConsumer,
      fresh := ?_, nextPointer := hNextPointer,
      reader := ?_, buffers := ?_ }
  · intro k hk
    exact h.fresh k (Finset.mem_of_mem_erase hk)
  · intro k hk _
    exact hReaders k (Finset.mem_of_mem_erase hk)
      (Finset.ne_of_mem_erase hk)
  · intro elem hElem elem' hElem' hPointer
    have hOld := hBuffers hElem'
    simp only [putBy, Option.toList_none,
      List.append_nil] at hOld
    rcases List.mem_map.mp hElem with ⟨old, hMem, rfl⟩
    rcases List.mem_map.mp hOld with ⟨old', hMem', rfl⟩
    rw [h.producer.eq_of_pointer hMem hMem' hPointer]

theorem enabled
    (h : Alike others c s t)
    (hNoPart : NoPart c op)
    (hEnabled : enabled s op) :
    BufferQueue.enabled t op := by
  have hOther {k : Nat} (hNe : k ≠ c) (hk : k ∈ s.registered) :
      k ∈ t.registered := by
    rw [h.registered]
    exact Finset.mem_erase.mpr ⟨hNe, hk⟩
  cases op with
  | put elem => exact hEnabled
  | reset => trivial
  | consumerNew => trivial
  | get k =>
      exact hOther (fun hIs => hNoPart.1 (by rw [hIs]))
        hEnabled
  | move k =>
      exact hOther (fun hIs => hNoPart.2.1 (by rw [hIs]))
        hEnabled
  | free k =>
      exact hOther (fun hIs => hNoPart.2.2 (by rw [hIs]))
        hEnabled

/- A call is the same kind of event to the others. -/
theorem event
    (h : Alike others c s t)
    (hk : k ∈ others) :
    Reader.Event.Like (eventOf k s op) (eventOf k t op) := by
  have hFresh := h.fresh k hk
  have hOld : s.nextConsumer ≠ k := Nat.ne_of_gt hFresh
  cases op with
  | put elem => exact .put _ _
  | reset => exact .discarded _ _
  | consumerNew =>
      simp only [eventOf, h.nextConsumer, if_neg hOld]
      exact .other
  | get j =>
      simp only [eventOf]
      by_cases hSame : j = k
      · rw [if_pos hSame, if_pos hSame]
        exact .got _ _
      · rw [if_neg hSame, if_neg hSame]
        exact .other
  | move j =>
      simp only [eventOf]
      by_cases hSame : j = k
      · rw [if_pos hSame, if_pos hSame]
        exact .moved _ _
      · rw [if_neg hSame, if_neg hSame]
        exact .other
  | free j => exact .other

theorem registered_step
    (h : Alike others c s t)
    (hNoPart : NoPart c op)
    (hStep : step s op = .ok s')
    (hStep' : step t op = .ok t') :
    c ∈ s'.registered ∧
      t'.registered = s'.registered.erase c ∧
      t'.nextConsumer = s'.nextConsumer ∧
      s.nextConsumer ≤ s'.nextConsumer := by
  have hOwn := h.stay.fresh c h.mem
  rw [(step_registered hStep).1, (step_registered hStep).2,
    (step_registered hStep').1, (step_registered hStep').2]
  cases op with
  | consumerNew =>
      simp only [registeredAfter, nextConsumerAfter,
        h.nextConsumer, h.registered]
      refine ⟨Finset.mem_insert_of_mem h.mem, ?_, trivial,
        Nat.le_succ _⟩
      rw [Finset.erase_insert_of_ne (Nat.ne_of_gt hOwn)]
  | free k =>
      simp only [registeredAfter, nextConsumerAfter,
        h.nextConsumer, h.registered]
      refine ⟨Finset.mem_erase.mpr ⟨?_, h.mem⟩, ?_, trivial,
        Nat.le_refl _⟩
      · intro hIs
        exact hNoPart.2.2 (by rw [hIs])
      · exact Finset.erase_right_comm
  | put _ =>
      exact ⟨h.mem, h.registered, h.nextConsumer, Nat.le_refl _⟩
  | reset =>
      exact ⟨h.mem, h.registered, h.nextConsumer, Nat.le_refl _⟩
  | get _ =>
      exact ⟨h.mem, h.registered, h.nextConsumer, Nat.le_refl _⟩
  | move _ =>
      exact ⟨h.mem, h.registered, h.nextConsumer, Nat.le_refl _⟩

/- A new buffer is not mistaken for one of the other run. -/
theorem buffers_step
    (h : Alike others c s t)
    (hStep : step s op = .ok s')
    (hStep' : step t op = .ok t') :
    ∀ elem ∈ s'.producer.queue.map BQElem.bare,
      ∀ elem' ∈ t'.producer.queue.map BQElem.bare,
        elem.pointer = elem'.pointer → elem = elem' := by
  have hPut : putBy t op = putBy s op := by
    cases op with
    | put buffer => simp only [putBy, h.nextPointer]
    | _ => rfl
  have hNew
      {state : State}
      {elem elem' : BQElem}
      (hWf : state.Wf)
      (hElem : elem ∈ state.producer.queue.map BQElem.bare)
      (hElem' : elem' ∈ (putBy state op).toList) :
      elem.pointer < elem'.pointer := by
    rcases List.mem_map.mp hElem with ⟨old, hOld, rfl⟩
    have hBounds := hWf.producer.pointer_bounds hOld
    cases op with
    | put buffer =>
        simp only [putBy, Option.toList_some,
          List.mem_singleton] at hElem'
        rw [hElem']
        exact hBounds.2
    | _ => cases hElem'
  intro elem hElem elem' hElem' hPointer
  have hFrom := (step_bare hStep).2 hElem
  have hFrom' := (step_bare hStep').2 hElem'
  rcases List.mem_append.mp hFrom with hOld | hPutBy
  · rcases List.mem_append.mp hFrom' with hOld' | hPutBy'
    · exact h.buffers elem hOld elem' hOld' hPointer
    · rw [hPut] at hPutBy'
      have hLess := hNew h.stay hOld hPutBy'
      omega
  · rcases List.mem_append.mp hFrom' with hOld' | hPutBy'
    · rw [← hPut] at hPutBy
      have hLess := hNew h.leave hOld' hPutBy
      omega
    · rw [hPut] at hPutBy'
      rw [Option.mem_toList] at hPutBy hPutBy'
      rw [hPutBy] at hPutBy'
      exact Option.some.inj hPutBy'

/- Calls in which the consumer takes no part keep it so. -/
theorem step
    (h : Alike others c s t)
    (hNoPart : NoPart c op)
    (hEnabled : BufferQueue.enabled s op)
    (hStep : step s op = .ok s')
    (hStep' : BufferQueue.step t op = .ok t')
    (hGeneration : s'.producer.queueSerial ≠ 0)
    (hGeneration' : t'.producer.queueSerial ≠ 0) :
    Alike others c s' t' := by
  rcases h.stay.step_wf hEnabled hStep hGeneration with
    ⟨hWf, hFollows, _⟩
  rcases h.leave.step_wf (h.enabled hNoPart hEnabled) hStep'
      hGeneration' with
    ⟨hWf', hFollows', hJoins'⟩
  rcases h.registered_step hNoPart hStep hStep' with
    ⟨hMem, hRegistered, hNextConsumer, hLater⟩
  have hFresh : ∀ k ∈ others, k < s'.nextConsumer := by
    intro k hk
    exact Nat.lt_of_lt_of_le (h.fresh k hk) hLater
  refine ⟨hWf, hWf', hMem, hRegistered, hNextConsumer, hFresh,
    ?_, ?_, h.buffers_step hStep hStep'⟩
  · rw [(step_bare hStep).1, (step_bare hStep').1]
    cases op with
    | put buffer =>
        simp only [nextPointerAfter, h.nextPointer]
    | _ => exact h.nextPointer
  · intro k hk hNow'
    have hLike :
        Reader.Event.Like (eventOf k s op)
          (eventOf k t op) :=
      h.event hk
    by_cases hBefore' : k ∈ t.registered
    · have hBefore : k ∈ s.registered := by
        rw [h.registered] at hBefore'
        exact Finset.mem_of_mem_erase hBefore'
      have hNow : k ∈ s'.registered := by
        rw [hRegistered] at hNow'
        exact Finset.mem_of_mem_erase hNow'
      exact (h.reader k hk hBefore').step hLike
        (hFollows k hNow hBefore)
        (hFollows' k hNow' hBefore')
    · have hNew := (hJoins' k hNow' hBefore').1
      rw [hNew] at hLike
      generalize eventOf k s op = event at hLike
      cases hLike

theorem handed_eq
    (h : Alike others c s t)
    (hk : k ∈ others)
    (hMem : k ∈ t.registered) :
    handed s k = handed t k := by
  have hOld : k ∈ s.registered := by
    rw [h.registered] at hMem
    exact Finset.mem_of_mem_erase hMem
  rcases consumerGet_eq h.stay.producer
      (h.stay.consumer k hOld) with
    ⟨_, element, hGet, hQueued, hPointer, _, _⟩
  rcases consumerGet_eq h.leave.producer
      (h.leave.consumer k hMem) with
    ⟨_, element', hGet', hQueued', hPointer', _, _⟩
  have hSame : (t.reader k).result = (s.reader k).result :=
    (h.reader k hk hMem).result
  change element'.map BQElem.pointer = (t.reader k).result
    at hPointer'
  rw [hSame] at hPointer'
  change element.map BQElem.pointer = (s.reader k).result
    at hPointer
  rw [← hPointer] at hPointer'
  simp only [handed, hGet, hGet']
  cases element with
  | none =>
      rw [Option.map_none, Option.map_eq_none_iff] at hPointer'
      rw [hPointer']
  | some elem =>
      rw [Option.map_some] at hPointer'
      rcases Option.map_eq_some_iff.mp hPointer' with
        ⟨elem', rfl, hEq⟩
      have hElem := hQueued elem rfl
      have hElem' := hQueued' elem' rfl
      have hBare := h.buffers elem.bare
        (List.mem_map_of_mem hElem) elem'.bare
        (List.mem_map_of_mem hElem') hEq.symm
      rw [Option.map_some, Option.map_some, hBare]

/- Where one run can go on, the other can unless it is a put. -/
theorem step_fault
    (h : Alike others c s t)
    (hNoPart : NoPart c op)
    (hEnabled : BufferQueue.enabled s op)
    (hStep : BufferQueue.step s op = .ok s')
    {fault : BQFault}
    (hFault : BufferQueue.step t op = .error fault) :
    fault = .nextSerialZero := by
  rcases h.leave.step_fault (h.enabled hNoPart hEnabled)
      hFault with hZero | ⟨_, rfl, hFull⟩
  · exact hZero
  · have hFewer :
        t.producer.consumers ≤ s.producer.consumers := by
      rw [h.leave.count, h.stay.count, h.registered]
      exact Finset.card_le_card (Finset.erase_subset _ _)
    rcases Except.bind_eq_ok.mp hStep with
      ⟨⟨producer, consumer⟩, hNew, _⟩
    unfold bqConsumerNew at hNew
    split at hNew
    · omega
    · cases hNew

/- Two runs of the same calls hand out the same buffers. -/
theorem obtained_eq
    {ops : List Op}
    {last : State}
    (h : Alike others c s t)
    (hk : k ∈ others)
    (hNe : k ≠ c)
    (hNoPart : ∀ op ∈ ops, NoPart c op)
    (hEnabled :
      System.Enabled BufferQueue.enabled BufferQueue.step s
        ops)
    (hStay :
      System.replay BufferQueue.step s ops = .ok last)
    (hLeave :
      System.replay BufferQueue.step t ops ≠
        .error .nextSerialZero)
    (hSerials :
      System.Throughout NotWrapped BufferQueue.step s ops)
    (hSerials' :
      System.Throughout NotWrapped BufferQueue.step t ops) :
    obtained k
        (System.replayTrace BufferQueue.step s ops) =
      obtained k
        (System.replayTrace BufferQueue.step t ops) := by
  induction ops generalizing s t with
  | nil => rfl
  | cons op ops ih =>
      have hFirst := hNoPart op List.mem_cons_self
      cases hStep : BufferQueue.step s op with
      | error fault =>
          simp only [System.replay, hStep] at hStay
          cases hStay
      | ok s' =>
          cases hStep' : BufferQueue.step t op with
          | error fault =>
              have hZero := h.step_fault hFirst hEnabled.1
                hStep hStep'
              simp only [System.replay, hStep', hZero,
                ne_eq, not_true_eq_false] at hLeave
          | ok t' =>
              simp only [System.replay, hStep] at hStay
              simp only [System.replay, hStep'] at hLeave
              simp only [System.Enabled, hStep] at hEnabled
              simp only [System.Throughout, hStep]
                at hSerials
              simp only [System.Throughout, hStep']
                at hSerials'
              have hNext := h.step hFirst hEnabled.1 hStep
                hStep' hSerials.2.start hSerials'.2.start
              have hRest := ih hNext
                (fun op hOp =>
                  hNoPart op (List.mem_cons_of_mem _ hOp))
                hEnabled.2 hStay hLeave hSerials.2
                hSerials'.2
              simp only [System.replayTrace, hStep, hStep',
                obtained, List.filterMap_cons]
              by_cases hGet : op = .get k
              · subst hGet
                have hMem : k ∈ t.registered := by
                  rw [h.registered]
                  exact Finset.mem_erase.mpr
                    ⟨hNe, hEnabled.1⟩
                simp only [if_true, h.handed_eq hk hMem]
                exact congrArg _ hRest
              · simp only [if_neg hGet]
                exact hRest

end Alike

/-
  A consumer leaves without being noticed: the call comes to
  its end; if it was the last one nothing is queued any more;
  and whatever is called afterwards without it, the others
  are handed what they would be if it had stayed.
-/
structure Unnoticed
    (P : State → Prop)
    (s : State)
    (c : Nat)
    (t : State) : Prop where
  freed : step s (.free c) = .ok t
  empty :
    P t → s.registered = {c} → t.producer.queue = []
  others :
    ∀ (ops : List Op) (last : State),
      (∀ op ∈ ops, NoPart c op) →
        System.Enabled enabled step s ops →
        System.replay step s ops = .ok last →
        System.replay step t ops ≠
          .error .nextSerialZero →
        System.Throughout P step s ops →
        System.Throughout P step t ops →
          ∀ k ∈ s.registered, k ≠ c →
            obtained k (System.replayTrace step s ops) =
              obtained k (System.replayTrace step t ops)

variable {trace : List (State × Op)} {s : State} {c : Nat}

/-
  As long as the serial number of the queue does not wrap, a
  consumer can leave at any time without being noticed.
-/
theorem leaving_unnoticed
    (hRun : system.Run trace s)
    (hSerials : System.Always NotWrapped trace s)
    (hMem : c ∈ s.registered) :
    ∃ t, Unnoticed NotWrapped s c t := by
  have hWf := (run_reader hRun hSerials).1
  cases hStep : step s (.free c) with
  | error fault =>
      rcases hWf.free hMem with ⟨producer, hFree, _⟩
      simp [step, hFree, bind, Except.bind] at hStep
  | ok t =>
      refine ⟨t, hStep, ?_, ?_⟩
      · intro hGeneration hOnly
        exact hWf.free_last hOnly hStep hGeneration
      · intro ops last hNoPart hEnabled hStay hLeave hWraps
          hWraps' k hk hNe
        have hAlike :=
          Alike.free hWf hMem hStep hWraps'.start
        exact hAlike.obtained_eq
          (Finset.mem_erase.mpr ⟨hNe, hk⟩) hNe hNoPart
          hEnabled hStay hLeave hWraps hWraps'

theorem leaving_unnoticed_sample :
    ∃ t,
      Unnoticed NotWrapped
        (System.replayEnd step initial sampleOps) 1 t :=
  leaving_unnoticed
    (System.replay_run (by decide +kernel)
      (by decide +kernel))
    (by decide +kernel) (by decide +kernel)

/-
  Once the serial number has come round, the last consumer
  leaves a buffer behind that carries a number it saw before.
-/
theorem leaving_noticed :
    ¬ ∀ trace s c,
      system.Run trace s → c ∈ s.registered →
        ∃ t, Unnoticed (fun _ => True) s c t := by
  intro hAll
  have hRun :
      system.Run (System.replayTrace step initial drainOps)
        (System.replayEnd step initial drainOps) :=
    System.replay_run (by decide +kernel)
      (by decide +kernel)
  rcases resets_wrap hRun
      ⟨by decide +kernel, by decide +kernel,
        by decide +kernel⟩
      (by decide +kernel) with
    ⟨more, n, hMore, _⟩
  let drained :=
    (System.replayEnd step initial drainOps).renumber 1
  have hRefill :
      system.Run
        (System.replayTrace step initial drainOps ++ more ++
          System.replayTrace step drained
            [.put sampleBuffer])
        (System.replayEnd step drained
          [.put sampleBuffer]) :=
    System.replay_run_from hMore (by decide +kernel)
      (by decide +kernel)
  rcases hAll _ _ 0 hRefill (by decide +kernel) with
    ⟨t, hFreed, hEmpty, _⟩
  have hNone := hEmpty trivial (by decide +kernel)
  have hLeft :
      (step
          (System.replayEnd step drained
            [.put sampleBuffer])
          (.free 0)).map
        (fun t => t.producer.queue.length) = .ok 1 := by
    decide +kernel
  rw [hFreed] at hLeft
  simp [Except.map, hNone] at hLeft

end BufferQueue

end Feng
