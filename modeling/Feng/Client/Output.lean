import Feng.Lib.System
import Mathlib.Algebra.Group.Nat.Defs
import Mathlib.Data.List.Basic

/-
  The output queue of a client and the callback that writes
  it to the socket.

  A buffer is taken off the queue before it is sent, and never
  put back: what `send` does not accept of it is lost.

  Key definitions include:
    * `OutputState`
    * `rtspWriteDataQueue`
    * `rtspTcpWriteCb`
    * `Output.system`
    * `Output.AcceptsWhole`

  Key theorems include:
    * `Output.accepted_in_order`
    * `Output.nothing_lost_iff`
-/

------------------------------------------------------------
-- The Output Queue
------------------------------------------------------------

namespace Feng

/- What `errno` was last set to by a failing `send`. -/
inductive Errno where
| none
| eagain
deriving DecidableEq, Repr

/- What `send` does with a buffer. -/
inductive SendOutcome where
| wrote (n : Nat)
| again
deriving DecidableEq, Repr

/-
  The output side of a client, with all that was ever queued
  and all that its socket accepted. The head of the queue is
  the head of the list.
-/
structure OutputState where
  outQueue : List (List UInt8)
  evIoWrite : Bool
  errno : Errno
  leaked : List (List UInt8)
  accepted : List UInt8
  queued : List UInt8
deriving DecidableEq, Repr

/- The largest `size_t`, which is `-1` converted to it. -/
def sizeMax : Nat :=
  2 ^ 64 - 1

/- The value of `written` after `send` returned. -/
def SendOutcome.written : SendOutcome → Nat
| .wrote n => n
| .again => sizeMax

/- How much of a buffer the socket accepted. -/
def SendOutcome.count : SendOutcome → Nat
| .wrote n => n
| .again => 0

def SendOutcome.errno
    (outcome : SendOutcome)
    (errno : Errno) : Errno :=
  match outcome with
  | .wrote _ => errno
  | .again => .eagain

def rtspWriteDataQueue
    (s : OutputState)
    (data : List UInt8) : OutputState :=
  { s with
    outQueue := data :: s.outQueue
    evIoWrite := true
    queued := s.queued ++ data }

def rtspTcpWriteCb
    (s : OutputState)
    (outcome : SendOutcome) : OutputState :=
  match s.outQueue.getLast? with
  | none => { s with evIoWrite := false }
  | some outpkt =>
      let popped := s.outQueue.dropLast
      let errno := outcome.errno s.errno
      let accepted :=
        s.accepted ++ outpkt.take outcome.count
      if outcome.written < outpkt.length then
        if errno = .eagain then
          -- The buffer is neither freed nor queued again.
          { s with
            outQueue := popped
            errno := errno
            leaked := s.leaked ++ [outpkt]
            accepted := accepted }
        else
          { s with
            outQueue := popped
            errno := errno
            accepted := accepted }
      else
        { s with
          outQueue := popped
          errno := errno
          accepted := accepted }

end Feng

------------------------------------------------------------
-- Runs Of The Output Queue
------------------------------------------------------------

namespace Feng

namespace Output

/- A buffer is queued, or the socket is writable. -/
inductive Op where
| queue (data : List UInt8)
| writable (outcome : SendOutcome)
deriving DecidableEq

def initial : OutputState where
  outQueue := []
  evIoWrite := false
  errno := .none
  leaked := []
  accepted := []
  queued := []

/- The buffer the next `send` is given. -/
def outpkt (s : OutputState) : List UInt8 :=
  s.outQueue.getLast?.getD []

/-
  The callback runs while its watcher is started, and `send`
  accepts no more than it is given.
-/
def enabled (s : OutputState) : Op → Prop
| .queue _ => True
| .writable outcome =>
    s.evIoWrite = true ∧
      (s.outQueue ≠ [] →
        outcome.count ≤ (outpkt s).length)

instance decidableEnabled
    (s : OutputState) :
    (op : Op) → Decidable (enabled s op)
| .queue _ => isTrue trivial
| .writable outcome =>
    inferInstanceAs
      (Decidable
        (s.evIoWrite = true ∧
          (s.outQueue ≠ [] →
            outcome.count ≤ (outpkt s).length)))

def step (s : OutputState) : Op → Except Empty OutputState
| .queue data => .ok (rtspWriteDataQueue s data)
| .writable outcome => .ok (rtspTcpWriteCb s outcome)

def system : System OutputState Op :=
  System.ofStep initial enabled step

/- The bytes still to be sent, in queueing order. -/
def unsent (s : OutputState) : List UInt8 :=
  s.outQueue.reverse.flatten

/- Accepted and unsent bytes are together those queued. -/
def NothingLost (s : OutputState) : Prop :=
  s.accepted ++ unsent s = s.queued

/- The socket accepted a prefix of what was queued. -/
def AcceptedInOrder (s : OutputState) : Prop :=
  s.accepted <+: s.queued

/- `send` accepts the whole of the buffer it is given. -/
def AcceptsWhole (s : OutputState) : Op → Prop
| .queue _ => True
| .writable outcome =>
    s.outQueue ≠ [] → (outpkt s).length ≤ outcome.count

instance decidableAcceptsWhole
    (s : OutputState) :
    (op : Op) → Decidable (AcceptsWhole s op)
| .queue _ => isTrue trivial
| .writable outcome =>
    inferInstanceAs
      (Decidable
        (s.outQueue ≠ [] →
          (outpkt s).length ≤ outcome.count))

end Output

end Feng

------------------------------------------------------------
-- Stream Integrity
------------------------------------------------------------

namespace Feng

namespace Output

variable {trace : List (OutputState × Op)}
variable {s t : OutputState}

/- The buffer sent next comes first among the bytes unsent. -/
theorem unsent_eq
    (hQueue : s.outQueue ≠ []) :
    unsent s =
      outpkt s ++ s.outQueue.dropLast.reverse.flatten := by
  have hSplit := List.dropLast_concat_getLast hQueue
  have hLast := List.getLast?_eq_some_getLast hQueue
  unfold unsent outpkt
  rw [hLast]
  conv_lhs => rw [← hSplit]
  simp

theorem unsent_queue
    (data : List UInt8) :
    unsent (rtspWriteDataQueue s data) =
      unsent s ++ data := by
  simp [unsent, rtspWriteDataQueue]

/- What a callback does to the bytes, whatever `send` returns. -/
theorem rtspTcpWriteCb_spec
    (hQueue : s.outQueue ≠ [])
    (outcome : SendOutcome) :
    (rtspTcpWriteCb s outcome).accepted =
        s.accepted ++ (outpkt s).take outcome.count ∧
      unsent (rtspTcpWriteCb s outcome) =
        s.outQueue.dropLast.reverse.flatten ∧
      (rtspTcpWriteCb s outcome).queued = s.queued := by
  have hLast := List.getLast?_eq_some_getLast hQueue
  unfold rtspTcpWriteCb outpkt
  rw [hLast]
  simp only [Option.getD_some]
  split
  · split
    · exact ⟨rfl, rfl, rfl⟩
    · exact ⟨rfl, rfl, rfl⟩
  · exact ⟨rfl, rfl, rfl⟩

theorem rtspTcpWriteCb_empty
    (hQueue : s.outQueue = [])
    (outcome : SendOutcome) :
    rtspTcpWriteCb s outcome =
      { s with evIoWrite := false } := by
  simp [rtspTcpWriteCb, hQueue]

theorem nothingLost_queue
    (hLost : NothingLost s)
    (data : List UInt8) :
    NothingLost (rtspWriteDataQueue s data) := by
  unfold NothingLost at hLost ⊢
  rw [unsent_queue]
  change s.accepted ++ (unsent s ++ data) = s.queued ++ data
  rw [← List.append_assoc, hLost]

/- The callback loses what `send` does not accept. -/
theorem nothingLost_writable_iff
    (hLost : NothingLost s)
    (outcome : SendOutcome) :
    NothingLost (rtspTcpWriteCb s outcome) ↔
      AcceptsWhole s (.writable outcome) := by
  by_cases hQueue : s.outQueue = []
  · rw [rtspTcpWriteCb_empty hQueue]
    apply iff_of_true
    · exact hLost
    · intro hSome
      exact absurd hQueue hSome
  · rcases rtspTcpWriteCb_spec hQueue outcome with
      ⟨hAccepted, hUnsent, hQueued⟩
    unfold NothingLost at hLost ⊢
    rw [hAccepted, hUnsent, hQueued, ← hLost,
      unsent_eq hQueue, List.append_assoc]
    constructor
    · intro hEq _
      have hTake :
          (outpkt s).take outcome.count = outpkt s :=
        List.append_cancel_right
          (List.append_cancel_left hEq)
      have hLength := congrArg List.length hTake
      rw [List.length_take] at hLength
      omega
    · intro hWhole
      rw [List.take_of_length_le (hWhole hQueue)]

theorem nothingLost_step
    (hLost : NothingLost s)
    {op : Op}
    (hStep : step s op = .ok t) :
    NothingLost t ↔ AcceptsWhole s op := by
  cases op with
  | queue data =>
      cases hStep
      exact iff_of_true (nothingLost_queue hLost data) trivial
  | writable outcome =>
      cases hStep
      exact nothingLost_writable_iff hLost outcome

theorem initial_nothingLost :
    NothingLost initial :=
  rfl

theorem NothingLost.inOrder
    (hLost : NothingLost s) :
    AcceptedInOrder s :=
  ⟨unsent s, hLost⟩

/-
  Nothing queued is lost exactly as long as every `send`
  accepts the whole of its buffer.
-/
theorem nothing_lost_iff
    (hRun : system.Run trace s) :
    System.Always NothingLost trace s ↔
      System.Guarded AcceptsWhole trace := by
  apply hRun.always_iff_guarded
  · intro s hStart
    subst hStart
    exact initial_nothingLost
  · intro s op t hLost hWhole hStep
    exact (nothingLost_step hLost hStep.2).mpr hWhole
  · intro s op t hLost hNot hStep hStill
    exact hNot ((nothingLost_step hLost hStep.2).mp hStill)

/-
  While every `send` accepts the whole of its buffer, the
  socket has at every moment accepted a prefix of the bytes
  queued.
-/
theorem accepted_in_order
    (hRun : system.Run trace s)
    (hWhole : System.Guarded AcceptsWhole trace) :
    System.Always AcceptedInOrder trace s := by
  have hLost : System.Always NothingLost trace s := by
    apply hRun.guarded_always _ _ hWhole
    · intro s hStart
      subst hStart
      exact initial_nothingLost
    · intro s op t hLost hWhole hStep
      exact (nothingLost_step hLost hStep.2).mpr hWhole
  constructor
  · intro x hx
    exact (hLost.1 x hx).inOrder
  · exact hLost.2.inOrder

/- Two buffers, both written whole. -/
def wholeOps : List Op :=
  [.queue [97, 98], .queue [99], .writable (.wrote 2),
    .writable (.wrote 1), .writable .again]

theorem accepted_in_order_whole :
    System.Always AcceptedInOrder
      (System.replayTrace step initial wholeOps)
      (System.replayEnd step initial wholeOps) :=
  accepted_in_order
    (System.replay_run (by decide +kernel)
      (by decide +kernel))
    (by
      unfold System.Guarded
      decide +kernel)

/- One byte of the first buffer is accepted, then the second. -/
def shortOps : List Op :=
  [.queue [97, 98], .writable (.wrote 1), .queue [99],
    .writable (.wrote 1)]

/- The rest of a buffer `send` cut short is never sent. -/
theorem accepted_out_of_order :
    ¬ ∀ trace s,
      system.Run trace s →
        System.Always AcceptedInOrder trace s := by
  intro hAll
  have hRun :
      system.Run
        (System.replayTrace step initial shortOps)
        (System.replayEnd step initial shortOps) :=
    System.replay_run (by decide +kernel)
      (by decide +kernel)
  have hPrefix := (hAll _ _ hRun).2
  unfold AcceptedInOrder at hPrefix
  exact absurd hPrefix (by decide +kernel)

end Output

end Feng
