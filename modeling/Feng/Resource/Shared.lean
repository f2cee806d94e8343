import Feng.Lib.System
import Mathlib.Algebra.Group.Int.Defs
import Mathlib.Algebra.Group.Nat.Defs
import Mathlib.Data.Int.Notation
import Mathlib.Data.List.Count
import Mathlib.Logic.Function.Basic

/-
  The resources of live streams, which all clients share: the
  steps of `r_open_hashed` and `r_close` under the lock of the
  table, and of `r_resume`, `r_fill` and `r_pause` outside it.

  A step is one access to what is shared. The pools that are
  created for a resource are numbered.

  Key definitions include:
    * `SharedState`
    * `Shared.resourceStep`
    * `Shared.step`
    * `Shared.LifeCycle`

  Key theorems include:
    * `Shared.resourceStep_accounts`
    * `Shared.step_inv`
    * `Shared.life_cycle`
    * `Shared.count_overflows`
-/

------------------------------------------------------------
-- States
------------------------------------------------------------

namespace Feng

namespace Shared

/- Who has `Resource::lock`: a client, or the fill thread. -/
inductive Holder where
| client (c : Nat)
| fill
deriving DecidableEq, Repr

/-
  A resource in the table. `fillPool` is the number of its
  pool, `pools` how many were created, and `pushed` the ones
  that were given a fill task, oldest first.

  It comes with the calls that opened and closed it, and with
  how often `count` went from 0 to 1.
-/
structure SharedResource where
  mrl : List UInt8
  lock : Option Holder
  count : ℤ
  fillPool : Option Nat
  pools : Nat
  pushed : List Nat
  opens : Nat
  closes : Nat
  starts : Nat
deriving DecidableEq, Repr

/- `r_open_direct`: a resource of zeros. -/
def rOpenDirect (mrl : List UInt8) : SharedResource where
  mrl := mrl
  lock := none
  count := 0
  fillPool := none
  pools := 0
  pushed := []
  opens := 0
  closes := 0
  starts := 0

/- Where a client is, and with which resource. -/
inductive Pc where
| idle
/- In `r_open_hashed`, about to take the lock of the table. -/
| opening (mrl : List UInt8)
/- With that lock, about to look up the `mrl`. -/
| lookingUp (mrl : List UInt8)
/- About to increment `count`. -/
| counting (r : Nat)
/- About to test `fill_pool`, and then to take the lock. -/
| testing (r : Nat)
| locking (r : Nat)
/- With `Resource::lock`, about to test `fill_pool` again. -/
| retesting (r : Nat)
/- In `r_resume`, about to test `fill_pool`, and to set it. -/
| resuming (r : Nat)
| creating (r : Nat)
/- About to push the task, and to release the lock. -/
| pushing (r : Nat)
| unlocking (r : Nat)
/- About to release the lock of the table. -/
| leaving (r : Option Nat)
/- In `r_close`, about to take the lock of the table. -/
| closing (r : Nat)
/- With that lock, about to decrement `count`. -/
| dropping (r : Nat)
/- In `r_stop_fill`, about to read `fill_pool`. -/
| stopping (r : Nat)
/- About to clear `fill_pool`, and to free the pool. -/
| clearing (r : Nat)
| freeing (r : Nat)
/- About to release the lock of the table. -/
| closed (r : Nat)
/- In `r_resume`, called by the client itself. -/
| resumeTest (r : Nat)
| resumeSet (r : Nat)
deriving DecidableEq, Repr

/-
  `shared_resources_lock` with the client that has it, the
  table, the references that are open, each with its client
  and its resource, and where the clients are.
-/
structure SharedState where
  lock : Option Nat
  resources : List SharedResource
  refs : List (Nat × Nat)
  pc : Nat → Pc

def initial : SharedState where
  lock := none
  resources := []
  refs := []
  pc := fun _ => .idle

end Shared

end Feng

------------------------------------------------------------
-- Steps
------------------------------------------------------------

namespace Feng

namespace Shared

/- A result that a `gint` holds. -/
def gint (n : ℤ) : ℤ :=
  n.bmod (2 ^ 32)

/- A step that is not taken, and a null pool that is used. -/
inductive NotTaken where
| busy
| elsewhere
| waits
| noReference
| noResource
| nullPool
deriving DecidableEq, Repr

/- `g_thread_pool_new`, and the pool is set. -/
def SharedResource.newPool
    (x : SharedResource) : SharedResource :=
  { x with
    fillPool := some x.pools
    pools := x.pools + 1 }

/- A step of a client that is at its resource. -/
def resourceStep
    (c : Nat)
    (x : SharedResource) :
    Pc → Except NotTaken (SharedResource × Pc)
| .counting r =>
    .ok ({ x with
      count := gint (x.count + 1)
      starts :=
        if x.count = 0 then x.starts + 1
        else x.starts }, .testing r)
| .testing r =>
    if x.fillPool = none then
      .ok (x, .locking r)
    else
      .ok (x, .leaving (some r))
| .locking r =>
    match x.lock with
    | none =>
        .ok ({ x with lock := some (.client c) },
          .retesting r)
    | some _ => .error .waits
| .retesting r =>
    if x.fillPool = none then
      .ok (x, .resuming r)
    else
      .ok (x, .unlocking r)
| .resuming r =>
    if x.fillPool = none then
      .ok (x, .creating r)
    else
      .ok (x, .pushing r)
| .creating r => .ok (x.newPool, .pushing r)
| .pushing r =>
    match x.fillPool with
    | none => .error .nullPool
    | some pool =>
        .ok ({ x with pushed := x.pushed ++ [pool] },
          .unlocking r)
| .unlocking r =>
    .ok ({ x with lock := none }, .leaving (some r))
| .leaving (some _) =>
    .ok ({ x with opens := x.opens + 1 }, .idle)
| .dropping r =>
    let count := gint (x.count - 1)
    .ok ({ x with count := count },
      if count = 0 then .stopping r else .closed r)
| .stopping r =>
    if x.fillPool = none then
      .ok (x, .closed r)
    else
      .ok (x, .clearing r)
| .clearing r =>
    .ok ({ x with fillPool := none }, .freeing r)
| .freeing r => .ok (x, .closed r)
| .closed _ =>
    .ok ({ x with closes := x.closes + 1 }, .idle)
| .resumeTest r =>
    if x.fillPool = none then
      .ok (x, .resumeSet r)
    else
      .ok (x, .idle)
| .resumeSet _ => .ok (x.newPool, .idle)
| _ => .error .elsewhere

/- The resource whose fields a client uses next. -/
def Pc.resource : Pc → Option Nat
| .idle => none
| .opening _ => none
| .lookingUp _ => none
| .counting r => some r
| .testing r => some r
| .locking r => some r
| .retesting r => some r
| .resuming r => some r
| .creating r => some r
| .pushing r => some r
| .unlocking r => some r
| .leaving r => r
| .closing _ => none
| .dropping r => some r
| .stopping r => some r
| .clearing r => some r
| .freeing r => some r
| .closed r => some r
| .resumeTest r => some r
| .resumeSet r => some r

/- The references, as the step from here leaves them. -/
def refsStep
    (c : Nat)
    (refs : List (Nat × Nat)) : Pc → List (Nat × Nat)
| .counting r => (c, r) :: refs
| .dropping r => refs.erase (c, r)
| _ => refs

/- The lock of the table, as the step from here leaves it. -/
def lockStep (lock : Option Nat) : Pc → Option Nat
| .leaving _ => none
| .closed _ => none
| _ => lock

namespace SharedState

def goto (s : SharedState) (c : Nat) (pc : Pc) : SharedState :=
  { s with pc := Function.update s.pc c pc }

/- A client is at its resource. -/
def atResource
    (s : SharedState)
    (c r : Nat) : Except NotTaken SharedState :=
  match s.resources[r]? with
  | none => .error .noResource
  | some x =>
      match resourceStep c x (s.pc c) with
      | .error notTaken => .error notTaken
      | .ok (x, pc) =>
          .ok
            ({ s with
              lock := lockStep s.lock (s.pc c)
              resources := s.resources.set r x
              refs := refsStep c s.refs (s.pc c) }.goto c pc)

/- `g_mutex_lock`, of the lock of the table. -/
def takeLock
    (s : SharedState)
    (c : Nat)
    (pc : Pc) : Except NotTaken SharedState :=
  match s.lock with
  | none => .ok ({ s with lock := some c }.goto c pc)
  | some _ => .error .waits

end SharedState

/-
  The next step of a client. What is not in the table is
  opened, if it can be.
-/
def nextStep
    (s : SharedState)
    (c : Nat)
    (opened : Bool) : Except NotTaken SharedState :=
  match s.pc c with
  | .opening mrl => s.takeLock c (.lookingUp mrl)
  | .lookingUp mrl =>
      match s.resources.findIdx? (fun x => x.mrl = mrl) with
      | some r => .ok (s.goto c (.counting r))
      | none =>
          if opened then
            .ok ({ s with
              resources := s.resources ++ [rOpenDirect mrl]
              }.goto c (.counting s.resources.length))
          else
            .ok (s.goto c (.leaving none))
  | .leaving none =>
      .ok ({ s with lock := none }.goto c .idle)
  | .closing r => s.takeLock c (.dropping r)
  | pc =>
      match pc.resource with
      | none => .error .elsewhere
      | some r => s.atResource c r

inductive Op where
| callOpen (c : Nat) (mrl : List UInt8)
| callClose (c r : Nat)
| callResume (c r : Nat)
| callFill (c r : Nat)
| callPause (c r : Nat)
| next (c : Nat) (opened : Bool)
/- The fill thread, around `read_packet`. -/
| fillLock (r : Nat)
| fillUnlock (r : Nat)
deriving DecidableEq, Repr

/- A client that is idle, and has the resource open, calls. -/
def call
    (s : SharedState)
    (c r : Nat)
    (pc : Pc) : Except NotTaken SharedState :=
  if s.pc c ≠ .idle then
    .error .busy
  else if (c, r) ∉ s.refs then
    .error .noReference
  else
    .ok (s.goto c pc)

/- `r_fill` and `r_pause` do nothing to a live resource. -/
def step (s : SharedState) : Op → Except NotTaken SharedState
| .callOpen c mrl =>
    if s.pc c ≠ .idle then
      .error .busy
    else
      .ok (s.goto c (.opening mrl))
| .callClose c r => call s c r (.closing r)
| .callResume c r => call s c r (.resumeTest r)
| .callFill c r => call s c r .idle
| .callPause c r => call s c r .idle
| .next c opened => nextStep s c opened
| .fillLock r =>
    match s.resources[r]? with
    | none => .error .noResource
    | some x =>
        match x.lock with
        | none =>
            .ok { s with
              resources :=
                s.resources.set r
                  { x with lock := some .fill } }
        | some _ => .error .waits
| .fillUnlock r =>
    match s.resources[r]? with
    | none => .error .noResource
    | some x =>
        if x.lock = some .fill then
          .ok { s with
            resources :=
              s.resources.set r { x with lock := none } }
        else
          .error .elsewhere

def enabled (_ : SharedState) (_ : Op) : Prop :=
  True

def system : System SharedState Op :=
  System.ofStep initial enabled step

end Shared

end Feng

------------------------------------------------------------
-- The Accounts Of A Resource
------------------------------------------------------------

namespace Feng

namespace Shared

variable {c r n : Nat} {pc pc' : Pc} {x x' : SharedResource}

/-
  What the client with the lock of the table is about to do to
  a resource: nothing that matters to its pool, or one of the
  stages of its start and its end.
-/
inductive Phase where
| settled
/- `count` is incremented, `fill_pool` not yet tested. -/
| counted
/- The first reference is there, and no pool yet. -/
| absent
/- There is a pool, and its task is to be pushed. -/
| created
/- The last reference is gone, and the pool still there. -/
| ending
deriving DecidableEq, Repr

def Pc.phase : Pc → Phase
| .testing _ => .counted
| .locking _ => .absent
| .retesting _ => .absent
| .resuming _ => .absent
| .creating _ => .absent
| .pushing _ => .created
| .stopping _ => .ending
| .clearing _ => .ending
| _ => .settled

/- A call has counted its reference, and not yet returned. -/
def Pc.opened : Pc → Nat
| .testing _ => 1
| .locking _ => 1
| .retesting _ => 1
| .resuming _ => 1
| .creating _ => 1
| .pushing _ => 1
| .unlocking _ => 1
| .leaving (some _) => 1
| _ => 0

def Pc.dropped : Pc → Nat
| .stopping _ => 1
| .clearing _ => 1
| .freeing _ => 1
| .closed _ => 1
| _ => 0

/- The pool in a phase, with this many references open. -/
def PoolFits (x : SharedResource) (n : Nat) : Phase → Prop
| .settled =>
    (x.fillPool ≠ none ↔ 0 < n) ∧ x.pools = x.starts ∧
      x.pushed = List.range x.pools
| .counted =>
    0 < n ∧ (x.fillPool ≠ none ↔ 1 < n) ∧
      x.starts = x.pools + (if n = 1 then 1 else 0) ∧
      x.pushed = List.range x.pools
| .absent =>
    n = 1 ∧ x.fillPool = none ∧ x.starts = x.pools + 1 ∧
      x.pushed = List.range x.pools
| .created =>
    n = 1 ∧ ∃ pool, x.fillPool = some pool ∧
      x.starts = pool + 1 ∧ x.pools = pool + 1 ∧
      x.pushed = List.range pool
| .ending =>
    n = 0 ∧ x.fillPool ≠ none ∧ x.pools = x.starts ∧
      x.pushed = List.range x.pools

/-
  The books of a resource with this many references open,
  while the client with the lock is here.
-/
structure Accounts
    (pc : Pc)
    (n : Nat)
    (x : SharedResource) : Prop where
  count : x.count = n
  calls : x.opens + pc.opened = x.closes + pc.dropped + n
  pool : PoolFits x n pc.phase

/- The references open after the step from here. -/
def refsAfter (n : Nat) : Pc → Nat
| .counting _ => n + 1
| .dropping _ => n - 1
| _ => n

theorem gint_eq
    {n : Nat}
    (hBound : n < 2 ^ 31) :
    gint n = n := by
  unfold gint
  rw [Int.bmod_eq_of_le] <;> omega

/- A step of the client with the lock keeps the books. -/
theorem resourceStep_accounts
    (hStep : resourceStep c x pc = .ok (x', pc'))
    (hResume :
      ∀ q, pc ≠ .resumeTest q ∧ pc ≠ .resumeSet q)
    (hDrop : ∀ q, pc = .dropping q → 0 < n)
    (hBound : refsAfter n pc < 2 ^ 31)
    (h : Accounts pc n x) :
    Accounts pc' (refsAfter n pc) x' := by
  rcases h with ⟨hCount, hCalls, hPool⟩
  cases pc with
  | idle => cases hStep
  | opening mrl => cases hStep
  | lookingUp mrl => cases hStep
  | closing q => cases hStep
  | resumeTest q => exact absurd rfl (hResume q).1
  | resumeSet q => exact absurd rfl (hResume q).2
  | counting q =>
      cases hStep
      rcases hPool with ⟨hFill, hStarts, hPushed⟩
      have hNext :
          gint (x.count + 1) = ((n + 1 : Nat) : ℤ) := by
        rw [hCount]
        exact gint_eq hBound
      refine ⟨hNext, ?_, Nat.succ_pos n, ?_, ?_, hPushed⟩
      · change x.opens + 1 = x.closes + 0 + (n + 1)
        change x.opens + 0 = x.closes + 0 + n at hCalls
        omega
      · change x.fillPool ≠ none ↔ 1 < n + 1
        rw [hFill]
        omega
      · change
          (if x.count = 0 then x.starts + 1 else x.starts) =
            x.pools + (if n + 1 = 1 then 1 else 0)
        rw [hCount, hStarts]
        by_cases hZero : n = 0
        · simp [hZero]
        · simp [hZero]
  | testing q =>
      rcases hPool with ⟨hPos, hFill, hStarts, hPushed⟩
      unfold resourceStep at hStep
      simp only at hStep
      split at hStep
      · rename_i hNone
        cases hStep
        have hOne : n = 1 := by
          have hNot : ¬ 1 < n := fun hLt => hFill.mpr hLt hNone
          omega
        refine ⟨hCount, hCalls, hOne, hNone, ?_, hPushed⟩
        rw [hStarts, if_pos hOne]
      · rename_i hSome
        cases hStep
        have hMore := hFill.mp hSome
        have hNotOne : n ≠ 1 := by omega
        refine ⟨hCount, hCalls,
          ⟨fun _ => hPos, fun _ => hSome⟩, ?_, hPushed⟩
        rw [hStarts, if_neg hNotOne]
        rfl
  | locking q =>
      unfold resourceStep at hStep
      simp only at hStep
      split at hStep
      · cases hStep
        exact ⟨hCount, hCalls, hPool⟩
      · cases hStep
  | retesting q =>
      unfold resourceStep at hStep
      simp only at hStep
      rw [if_pos hPool.2.1] at hStep
      cases hStep
      exact ⟨hCount, hCalls, hPool⟩
  | resuming q =>
      unfold resourceStep at hStep
      simp only at hStep
      rw [if_pos hPool.2.1] at hStep
      cases hStep
      exact ⟨hCount, hCalls, hPool⟩
  | creating q =>
      cases hStep
      rcases hPool with ⟨hOne, _, hStarts, hPushed⟩
      exact ⟨hCount, hCalls, hOne, x.pools, rfl, hStarts, rfl,
        hPushed⟩
  | pushing q =>
      rcases hPool with
        ⟨hOne, pool, hFill, hStarts, hPools, hPushed⟩
      unfold resourceStep at hStep
      simp only [hFill] at hStep
      cases hStep
      refine ⟨hCount, hCalls, ?_, ?_, ?_⟩
      · change some pool ≠ none ↔ 0 < n
        simp [hOne]
      · exact hPools.trans hStarts.symm
      · change x.pushed ++ [pool] = List.range x.pools
        rw [hPushed, hPools, List.range_succ]
  | unlocking q =>
      cases hStep
      exact ⟨hCount, hCalls, hPool⟩
  | leaving result =>
      cases result with
      | none => cases hStep
      | some q =>
          cases hStep
          refine ⟨hCount, ?_, hPool⟩
          change x.opens + 1 + 0 = x.closes + 0 + n
          change x.opens + 1 = x.closes + 0 + n at hCalls
          omega
  | dropping q =>
      cases hStep
      have hPos := hDrop q rfl
      rcases hPool with ⟨hFill, hStarts, hPushed⟩
      have hNext :
          gint (x.count - 1) = ((n - 1 : Nat) : ℤ) := by
        have hLess : x.count - 1 = ((n - 1 : Nat) : ℤ) := by
          rw [hCount]
          omega
        rw [hLess]
        exact gint_eq hBound
      have hDropped :
          x.opens = x.closes + 1 + (n - 1) := by
        change x.opens + 0 = x.closes + 0 + n at hCalls
        omega
      simp only [hNext]
      by_cases hLast : ((n - 1 : Nat) : ℤ) = 0
      · rw [if_pos hLast]
        have hZero : n - 1 = 0 := by omega
        exact ⟨rfl, hDropped, hZero, hFill.mpr hPos,
          hStarts, hPushed⟩
      · rw [if_neg hLast]
        refine ⟨rfl, hDropped, ?_, hStarts, hPushed⟩
        have hMore : 0 < n - 1 := by omega
        exact ⟨fun _ => hMore, fun _ => hFill.mpr hPos⟩
  | stopping q =>
      unfold resourceStep at hStep
      simp only at hStep
      rw [if_neg hPool.2.1] at hStep
      cases hStep
      exact ⟨hCount, hCalls, hPool⟩
  | clearing q =>
      cases hStep
      rcases hPool with ⟨hZero, _, hStarts, hPushed⟩
      refine ⟨hCount, hCalls, ?_, hStarts, hPushed⟩
      change (none : Option Nat) ≠ none ↔ 0 < n
      simp [hZero]
  | freeing q =>
      cases hStep
      exact ⟨hCount, hCalls, hPool⟩
  | closed q =>
      cases hStep
      refine ⟨hCount, ?_, hPool⟩
      change x.opens + 0 = x.closes + 1 + 0 + n
      change x.opens + 0 = x.closes + 1 + n at hCalls
      omega

end Shared

end Feng

------------------------------------------------------------
-- What A Step Does To The Calls
------------------------------------------------------------

namespace Feng

namespace Shared

variable {c d q r : Nat} {pc pc' : Pc}
variable {x x' : SharedResource} {refs : List (Nat × Nat)}

/- The points at which a client has the lock of the table. -/
def Pc.inside : Pc → Bool
| .idle => false
| .opening _ => false
| .closing _ => false
| .resumeTest _ => false
| .resumeSet _ => false
| _ => true

/- The resource a client has open where it is. -/
def Pc.reference : Pc → Option Nat
| .testing r => some r
| .locking r => some r
| .retesting r => some r
| .resuming r => some r
| .creating r => some r
| .pushing r => some r
| .unlocking r => some r
| .leaving r => r
| .closing r => some r
| .dropping r => some r
| .resumeTest r => some r
| _ => none

/- The number of references to a resource. -/
def outstanding (refs : List (Nat × Nat)) (r : Nat) : Nat :=
  refs.countP (fun ref => ref.2 = r)

/- Where a client at its resource can go. -/
inductive Follows (r : Nat) : Pc → Pc → Prop where
| counted : Follows r (.counting r) (.testing r)
| absent : Follows r (.testing r) (.locking r)
| present : Follows r (.testing r) (.leaving (some r))
| locked : Follows r (.locking r) (.retesting r)
| stillAbsent : Follows r (.retesting r) (.resuming r)
| nowPresent : Follows r (.retesting r) (.unlocking r)
| create : Follows r (.resuming r) (.creating r)
| running : Follows r (.resuming r) (.pushing r)
| created : Follows r (.creating r) (.pushing r)
| pushed : Follows r (.pushing r) (.unlocking r)
| unlocked : Follows r (.unlocking r) (.leaving (some r))
| left : Follows r (.leaving (some r)) .idle
| last : Follows r (.dropping r) (.stopping r)
| dropped : Follows r (.dropping r) (.closed r)
| stopped : Follows r (.stopping r) (.closed r)
| stop : Follows r (.stopping r) (.clearing r)
| cleared : Follows r (.clearing r) (.freeing r)
| freed : Follows r (.freeing r) (.closed r)
| done : Follows r (.closed r) .idle
| resume : Follows r (.resumeTest r) (.resumeSet r)
| resumed : Follows r (.resumeTest r) .idle
| set : Follows r (.resumeSet r) .idle

theorem resourceStep_follows
    (hStep : resourceStep c x pc = .ok (x', pc'))
    (hAt : pc.resource = some r) :
    Follows r pc pc' := by
  cases pc with
  | idle => cases hAt
  | opening mrl => cases hAt
  | lookingUp mrl => cases hAt
  | closing q => cases hAt
  | counting q =>
      cases hAt
      cases hStep
      exact .counted
  | testing q =>
      cases hAt
      simp only [resourceStep] at hStep
      split at hStep
      · cases hStep
        exact .absent
      · cases hStep
        exact .present
  | locking q =>
      cases hAt
      simp only [resourceStep] at hStep
      split at hStep
      · cases hStep
        exact .locked
      · cases hStep
  | retesting q =>
      cases hAt
      simp only [resourceStep] at hStep
      split at hStep
      · cases hStep
        exact .stillAbsent
      · cases hStep
        exact .nowPresent
  | resuming q =>
      cases hAt
      simp only [resourceStep] at hStep
      split at hStep
      · cases hStep
        exact .create
      · cases hStep
        exact .running
  | creating q =>
      cases hAt
      cases hStep
      exact .created
  | pushing q =>
      cases hAt
      simp only [resourceStep] at hStep
      split at hStep
      · cases hStep
      · cases hStep
        exact .pushed
  | unlocking q =>
      cases hAt
      cases hStep
      exact .unlocked
  | leaving result =>
      cases hAt
      cases hStep
      exact .left
  | dropping q =>
      cases hAt
      cases hStep
      split
      · exact .last
      · exact .dropped
  | stopping q =>
      cases hAt
      simp only [resourceStep] at hStep
      split at hStep
      · cases hStep
        exact .stopped
      · cases hStep
        exact .stop
  | clearing q =>
      cases hAt
      cases hStep
      exact .cleared
  | freeing q =>
      cases hAt
      cases hStep
      exact .freed
  | closed q =>
      cases hAt
      cases hStep
      exact .done
  | resumeTest q =>
      cases hAt
      simp only [resourceStep] at hStep
      split at hStep
      · cases hStep
        exact .resume
      · cases hStep
        exact .resumed
  | resumeSet q =>
      cases hAt
      cases hStep
      exact .set

/- A client with the lock stays at the resource, or is done. -/
theorem Follows.inside
    (h : Follows r pc pc')
    (hInside : pc.inside = true) :
    (pc'.inside = true ∧ pc'.resource = some r ∧
      ∀ lock, lockStep lock pc = lock) ∨
    (pc' = .idle ∧ ∀ lock, lockStep lock pc = none) := by
  cases h <;> first
    | exact .inl ⟨rfl, rfl, fun _ => rfl⟩
    | exact .inr ⟨rfl, fun _ => rfl⟩
    | cases hInside

/- The reference of a call is there as long as it needs it. -/
theorem Follows.reference
    (h : Follows r pc pc')
    (hRef : ∀ q, pc.reference = some q → (c, q) ∈ refs)
    (hNext : pc'.reference = some q) :
    (c, q) ∈ refsStep c refs pc := by
  cases h <;> cases hNext <;> first
    | exact hRef _ rfl
    | exact List.mem_cons_self

/- The references of the other clients stay. -/
theorem refsStep_others
    (hOther : d ≠ c)
    (hMem : (d, q) ∈ refs)
    (pc : Pc) :
    (d, q) ∈ refsStep c refs pc := by
  have hNe : ∀ r, (d, q) ≠ (c, r) := by
    intro r hEq
    cases hEq
    exact hOther rfl
  cases pc <;> first
    | exact hMem
    | exact List.mem_cons_of_mem _ hMem
    | exact (List.mem_erase_of_ne (hNe _)).mpr hMem

/- The only new reference is to the resource itself. -/
theorem Follows.mem_refsStep
    (h : Follows r pc pc')
    {ref : Nat × Nat}
    (hMem : ref ∈ refsStep c refs pc) :
    ref ∈ refs ∨ ref.2 = r := by
  cases h <;> first
    | exact .inl hMem
    | exact .inl (List.mem_of_mem_erase hMem)
    | skip
  rcases List.mem_cons.mp hMem with rfl | hOld
  · exact .inr rfl
  · exact .inl hOld

theorem outstanding_erase
    (hMem : (c, r) ∈ refs) :
    outstanding (refs.erase (c, r)) r =
        outstanding refs r - 1 ∧
      ∀ q, q ≠ r →
        outstanding (refs.erase (c, r)) q =
          outstanding refs q := by
  unfold outstanding
  refine ⟨by simp [List.countP_erase, hMem], ?_⟩
  intro q hOther
  simp [List.countP_erase, Ne.symm hOther]

/- The number of references goes with the calls. -/
theorem Follows.outstanding
    (h : Follows r pc pc')
    (hRef : ∀ q, pc.reference = some q → (c, q) ∈ refs) :
    outstanding (refsStep c refs pc) r =
        refsAfter (outstanding refs r) pc ∧
      ∀ q, q ≠ r →
        outstanding (refsStep c refs pc) q =
          outstanding refs q := by
  cases h <;> first
    | exact ⟨rfl, fun _ _ => rfl⟩
    | exact outstanding_erase (hRef r rfl)
    | skip
  unfold Shared.outstanding
  refine ⟨by simp [refsStep, refsAfter], ?_⟩
  intro q hOther
  simp [refsStep, Ne.symm hOther]

end Shared

end Feng

------------------------------------------------------------
-- The Invariant
------------------------------------------------------------

namespace Feng

namespace Shared

variable {c d r : Nat} {pc : Pc} {s t : SharedState}

/- Where the client with the lock is, if at this resource. -/
def SharedState.stage (s : SharedState) (r : Nat) : Pc :=
  match s.lock with
  | none => .idle
  | some c =>
      if (s.pc c).resource = some r then s.pc c else .idle

structure Inv (s : SharedState) : Prop where
  holder : ∀ c, (s.pc c).inside = true ↔ s.lock = some c
  references :
    ∀ c r, (s.pc c).reference = some r → (c, r) ∈ s.refs
  valid :
    ∀ ref, ref ∈ s.refs → ref.2 < s.resources.length
  noSet : ∀ c r, s.pc c ≠ .resumeSet r
  accounts :
    ∀ r x, s.resources[r]? = some x →
      Accounts (s.stage r) (outstanding s.refs r) x

theorem goto_pc_self (s : SharedState) (c : Nat) (pc : Pc) :
    (s.goto c pc).pc c = pc := by
  simp [SharedState.goto]

theorem goto_pc_other
    (s : SharedState)
    (pc : Pc)
    (hOther : d ≠ c) :
    (s.goto c pc).pc d = s.pc d := by
  simp [SharedState.goto, hOther]

theorem stage_holder
    (hLock : s.lock = some c)
    (hAt : (s.pc c).resource = some r) :
    s.stage r = s.pc c := by
  simp only [SharedState.stage, hLock, hAt, if_true]

theorem stage_unlocked
    (hLock : s.lock = none)
    (r : Nat) :
    s.stage r = .idle := by
  simp only [SharedState.stage, hLock]

theorem stage_elsewhere
    (hLock : s.lock = some c)
    (hAt : (s.pc c).resource ≠ some r) :
    s.stage r = .idle := by
  simp only [SharedState.stage, hLock, if_neg hAt]

/- The client with the lock is where it was. -/
theorem stage_congr
    (hLock : t.lock = s.lock)
    (hPc : ∀ d, s.lock = some d → t.pc d = s.pc d)
    (r : Nat) :
    t.stage r = s.stage r := by
  unfold SharedState.stage
  rw [hLock]
  cases hHolder : s.lock with
  | none => rfl
  | some d => simp only [hPc d hHolder]

/- A point that matters to the books of no resource. -/
def Pc.Quiet (pc : Pc) : Prop :=
  pc.phase = .settled ∧ pc.opened = 0 ∧ pc.dropped = 0

theorem stage_quiet
    (hQuiet : ∀ c, s.lock = some c → (s.pc c).Quiet)
    (r : Nat) :
    (s.stage r).Quiet := by
  cases hLock : s.lock with
  | none =>
      rw [stage_unlocked hLock]
      exact ⟨rfl, rfl, rfl⟩
  | some c =>
      by_cases hAt : (s.pc c).resource = some r
      · rw [stage_holder hLock hAt]
        exact hQuiet c hLock
      · rw [stage_elsewhere hLock hAt]
        exact ⟨rfl, rfl, rfl⟩

theorem Accounts.quiet
    {pc' : Pc}
    {n : Nat}
    {x : SharedResource}
    (h : Accounts pc n x)
    (hOld : pc.Quiet)
    (hNew : pc'.Quiet) :
    Accounts pc' n x where
  count := h.count
  calls := by
    have hCalls := h.calls
    rw [hOld.2.1, hOld.2.2] at hCalls
    rw [hNew.2.1, hNew.2.2]
    exact hCalls
  pool := by
    rw [hNew.1, ← hOld.1]
    exact h.pool

/- A client goes on without a look at a resource. -/
theorem Inv.move
    (hInv : Inv s)
    (lock : Option Nat)
    (hInside : pc.inside = true ↔ lock = some c)
    (hOthers :
      ∀ d, d ≠ c → (s.lock = some d ↔ lock = some d))
    (hRef : ∀ r, pc.reference = some r → (c, r) ∈ s.refs)
    (hSet : ∀ r, pc ≠ .resumeSet r)
    (hStage :
      ∀ r n x, Accounts (s.stage r) n x →
        Accounts
          (({ s with lock := lock }.goto c pc).stage r) n x) :
    Inv ({ s with lock := lock }.goto c pc) where
  holder := by
    intro d
    by_cases hSelf : d = c
    · subst hSelf
      rw [goto_pc_self]
      exact hInside
    · rw [goto_pc_other _ _ hSelf]
      exact (hInv.holder d).trans (hOthers d hSelf)
  references := by
    intro d r hReference
    by_cases hSelf : d = c
    · subst hSelf
      rw [goto_pc_self] at hReference
      exact hRef r hReference
    · rw [goto_pc_other _ _ hSelf] at hReference
      exact hInv.references d r hReference
  valid := hInv.valid
  noSet := by
    intro d r
    by_cases hSelf : d = c
    · subst hSelf
      rw [goto_pc_self]
      exact hSet r
    · rw [goto_pc_other _ _ hSelf]
      exact hInv.noSet d r
  accounts := by
    intro r x hx
    exact hStage r _ x (hInv.accounts r x hx)

/- A client goes on that does not have the lock. -/
theorem Inv.move_outside
    (hInv : Inv s)
    (hOutside : (s.pc c).inside = false)
    (hInside : pc.inside = false)
    (hRef : ∀ r, pc.reference = some r → (c, r) ∈ s.refs)
    (hSet : ∀ r, pc ≠ .resumeSet r) :
    Inv (s.goto c pc) := by
  have hNot : s.lock ≠ some c := by
    intro hLock
    have hIn := (hInv.holder c).mpr hLock
    rw [hOutside] at hIn
    cases hIn
  apply hInv.move s.lock ?_ (fun _ _ => Iff.rfl) hRef hSet
  · intro r n x hAccounts
    have hLock : (s.goto c pc).lock = s.lock := rfl
    have hSame : (s.goto c pc).stage r = s.stage r := by
      apply stage_congr hLock
      intro d hHolder
      apply goto_pc_other
      rintro rfl
      exact hNot hHolder
    change Accounts ((s.goto c pc).stage r) n x
    rw [hSame]
    exact hAccounts
  · simp [hInside, hNot]

/- A client goes on with the lock, or takes or releases it. -/
theorem Inv.move_quiet
    (hInv : Inv s)
    (lock : Option Nat)
    (hOld : ∀ d, s.lock = some d → d = c)
    (hNew : ∀ d, lock = some d → d = c)
    (hInside : pc.inside = true ↔ lock = some c)
    (hQuietOld : (s.pc c).Quiet)
    (hQuiet : pc.Quiet)
    (hRef : ∀ r, pc.reference = some r → (c, r) ∈ s.refs)
    (hSet : ∀ r, pc ≠ .resumeSet r) :
    Inv ({ s with lock := lock }.goto c pc) := by
  apply hInv.move lock hInside ?_ hRef hSet
  · intro r n x hAccounts
    apply hAccounts.quiet
    · apply stage_quiet
      intro d hLock
      rw [hOld d hLock]
      exact hQuietOld
    · apply stage_quiet
      intro d hLock
      cases hNew d hLock
      rw [goto_pc_self]
      exact hQuiet
  · intro d hOther
    constructor
    · intro hLock
      exact absurd (hOld d hLock) hOther
    · intro hLock
      exact absurd (hNew d hLock) hOther

/- Two clients that have a resource open are two references. -/
theorem two_le_outstanding
    {refs : List (Nat × Nat)}
    (hFirst : (c, r) ∈ refs)
    (hSecond : (d, r) ∈ refs)
    (hNe : d ≠ c) :
    2 ≤ outstanding refs r := by
  have hLeft : (d, r) ∈ refs.erase (c, r) := by
    apply (List.mem_erase_of_ne ?_).mpr hSecond
    intro hEq
    cases hEq
    exact hNe rfl
  have hOne : 0 < outstanding (refs.erase (c, r)) r :=
    List.countP_pos_iff.mpr ⟨_, hLeft, by simp⟩
  have hLess := (outstanding_erase hFirst).1
  omega

/- Before a pool is there, the caller has its reference. -/
theorem Inv.stage_reference
    (hInv : Inv s)
    (hPhase :
      (s.stage r).phase = .counted ∨
        (s.stage r).phase = .absent) :
    ∃ d, s.lock = some d ∧ (d, r) ∈ s.refs := by
  cases hLock : s.lock with
  | none =>
      rw [stage_unlocked hLock] at hPhase
      rcases hPhase with hEq | hEq <;> cases hEq
  | some d =>
      refine ⟨d, rfl, ?_⟩
      by_cases hAt : (s.pc d).resource = some r
      · rw [stage_holder hLock hAt] at hPhase
        apply hInv.references d r
        cases hPc : s.pc d <;> rw [hPc] at hPhase hAt <;>
          first
          | exact hAt
          | (rcases hPhase with hEq | hEq <;> cases hEq)
      · rw [stage_elsewhere hLock hAt] at hPhase
        rcases hPhase with hEq | hEq <;> cases hEq

/- Whoever has a resource open finds its pool there. -/
theorem Inv.pool_present
    {x : SharedResource}
    (hInv : Inv s)
    (hRef : (c, r) ∈ s.refs)
    (hLock : s.lock ≠ some c)
    (hx : s.resources[r]? = some x) :
    x.fillPool ≠ none := by
  have hPool := (hInv.accounts r x hx).pool
  have hPos : 0 < outstanding s.refs r :=
    List.countP_pos_iff.mpr ⟨_, hRef, by simp⟩
  have hMore :
      (s.stage r).phase = .counted ∨
        (s.stage r).phase = .absent →
      2 ≤ outstanding s.refs r := by
    intro hPhase
    rcases hInv.stage_reference hPhase with
      ⟨d, hHolder, hMem⟩
    apply two_le_outstanding hRef hMem
    rintro rfl
    exact hLock hHolder
  cases hPhase : (s.stage r).phase with
  | settled =>
      rw [hPhase] at hPool
      exact hPool.1.mpr hPos
  | counted =>
      have hTwo := hMore (.inl hPhase)
      rw [hPhase] at hPool
      exact hPool.2.1.mpr hTwo
  | absent =>
      have hTwo := hMore (.inr hPhase)
      rw [hPhase] at hPool
      have hOne := hPool.1
      omega
  | created =>
      rw [hPhase] at hPool
      rcases hPool.2 with ⟨pool, hSome, _⟩
      rw [hSome]
      exact Option.some_ne_none pool
  | ending =>
      rw [hPhase] at hPool
      exact hPool.2.1

end Shared

end Feng

------------------------------------------------------------
-- Steps Keep The Invariant
------------------------------------------------------------

namespace Feng

namespace Shared

variable {c d q r : Nat} {pc pc' : Pc} {s t : SharedState}
variable {x x' : SharedResource}

/- Fewer references are open than a `gint` can count. -/
def Bounded (s : SharedState) : Prop :=
  ∀ r, outstanding s.refs r < 2 ^ 31

/- The state after a step of a client at its resource. -/
def SharedState.after
    (s : SharedState)
    (c r : Nat)
    (x : SharedResource)
    (pc : Pc) : SharedState :=
  { s with
    lock := lockStep s.lock (s.pc c)
    resources := s.resources.set r x
    refs := refsStep c s.refs (s.pc c) }.goto c pc

theorem after_pc_self :
    (s.after c r x pc).pc c = pc :=
  goto_pc_self _ c pc

theorem after_pc_other (hOther : d ≠ c) :
    (s.after c r x pc).pc d = s.pc d :=
  goto_pc_other _ pc hOther

/- The lock is kept until the call is done. -/
theorem after_lock
    (hLock : s.lock = some c)
    (hInside : (s.pc c).inside = true)
    (hFollows : Follows r (s.pc c) pc) :
    (s.after c r x pc).lock =
      if pc.inside then some c else none := by
  change lockStep s.lock (s.pc c) = _
  rcases hFollows.inside hInside with
    ⟨hIn, _, hSame⟩ | ⟨rfl, hNone⟩
  · rw [hSame, hIn, hLock]
    rfl
  · rw [hNone]
    rfl

theorem after_stage_self
    (hLock : s.lock = some c)
    (hInside : (s.pc c).inside = true)
    (hFollows : Follows r (s.pc c) pc) :
    (s.after c r x pc).stage r = pc := by
  have hNew := after_lock (x := x) hLock hInside hFollows
  rcases hFollows.inside hInside with
    ⟨hIn, hAt, _⟩ | ⟨rfl, _⟩
  · rw [hIn, if_pos rfl] at hNew
    have hPc : (s.after c r x pc).pc c = pc := after_pc_self
    rw [← hPc] at hAt
    rw [stage_holder hNew hAt]
    exact hPc
  · exact stage_unlocked hNew r

theorem after_stage_other
    (hLock : s.lock = some c)
    (hInside : (s.pc c).inside = true)
    (hFollows : Follows r (s.pc c) pc)
    (hOther : q ≠ r) :
    (s.after c r x pc).stage q = .idle := by
  have hNew := after_lock (x := x) hLock hInside hFollows
  rcases hFollows.inside hInside with
    ⟨hIn, hAt, _⟩ | ⟨rfl, _⟩
  · rw [hIn, if_pos rfl] at hNew
    apply stage_elsewhere hNew
    rw [after_pc_self, hAt]
    intro hEq
    exact hOther (Option.some.inj hEq).symm
  · exact stage_unlocked hNew q

/- The books after a step with the lock of the table. -/
theorem Inv.after_accounts
    (hInv : Inv s)
    (hLock : s.lock = some c)
    (hAt : (s.pc c).resource = some r)
    (hx : s.resources[r]? = some x)
    (hStep : resourceStep c x (s.pc c) = .ok (x', pc))
    (hBound : Bounded (s.after c r x' pc)) :
    Accounts pc
      (outstanding (refsStep c s.refs (s.pc c)) r) x' := by
  have hInside := (hInv.holder c).mpr hLock
  have hFollows := resourceStep_follows hStep hAt
  have hRef := hInv.references c
  have hOutstanding := (hFollows.outstanding hRef).1
  have hOld := hInv.accounts r x hx
  rw [stage_holder hLock hAt] at hOld
  rw [hOutstanding]
  apply resourceStep_accounts hStep ?_ ?_ ?_ hOld
  · intro q
    constructor
    · intro hEq
      rw [hEq] at hInside
      cases hInside
    · exact hInv.noSet c q
  · intro q hEq
    have hMem : (c, q) ∈ s.refs := by
      apply hRef
      rw [hEq]
      rfl
    have hSame : q = r := by
      rw [hEq] at hAt
      exact Option.some.inj hAt
    rw [hSame] at hMem
    exact List.countP_pos_iff.mpr ⟨_, hMem, by simp⟩
  · rw [← hOutstanding]
    exact hBound r

/- A step with the lock of the table. -/
theorem Inv.after_inside
    (hInv : Inv s)
    (hLock : s.lock = some c)
    (hAt : (s.pc c).resource = some r)
    (hx : s.resources[r]? = some x)
    (hStep : resourceStep c x (s.pc c) = .ok (x', pc))
    (hBound : Bounded (s.after c r x' pc)) :
    Inv (s.after c r x' pc) := by
  have hInside := (hInv.holder c).mpr hLock
  have hFollows := resourceStep_follows hStep hAt
  have hRef := hInv.references c
  have hLength : r < s.resources.length :=
    (List.getElem?_eq_some_iff.mp hx).1
  refine ⟨?_, ?_, ?_, ?_, ?_⟩
  · intro d
    rw [after_lock hLock hInside hFollows]
    by_cases hSelf : d = c
    · subst hSelf
      rw [after_pc_self]
      cases pc.inside <;> simp
    · rw [after_pc_other hSelf, hInv.holder d, hLock]
      cases pc.inside <;> simp [Ne.symm hSelf]
  · intro d q hReference
    by_cases hSelf : d = c
    · subst hSelf
      rw [after_pc_self] at hReference
      exact hFollows.reference hRef hReference
    · rw [after_pc_other hSelf] at hReference
      exact refsStep_others hSelf
        (hInv.references d q hReference) (s.pc c)
  · intro ref hMem
    change ref.2 < (s.resources.set r x').length
    rw [List.length_set]
    rcases hFollows.mem_refsStep hMem with hOld | hEq
    · exact hInv.valid ref hOld
    · rw [hEq]
      exact hLength
  · intro d q
    by_cases hSelf : d = c
    · subst hSelf
      rw [after_pc_self]
      rcases hFollows.inside hInside with
        ⟨hIn, _⟩ | ⟨rfl, _⟩
      · rintro rfl
        cases hIn
      · exact nofun
    · rw [after_pc_other hSelf]
      exact hInv.noSet d q
  · intro q y hy
    change (s.resources.set r x')[q]? = some y at hy
    by_cases hSame : q = r
    · subst hSame
      rw [List.getElem?_set_self hLength] at hy
      cases hy
      rw [after_stage_self hLock hInside hFollows]
      exact hInv.after_accounts hLock hAt hx hStep hBound
    · rw [List.getElem?_set_ne (Ne.symm hSame)] at hy
      have hOld := hInv.accounts q y hy
      have hAway : (s.pc c).resource ≠ some q := by
        rw [hAt]
        intro hEq
        exact hSame (Option.some.inj hEq).symm
      rw [stage_elsewhere hLock hAway] at hOld
      rw [after_stage_other hLock hInside hFollows hSame]
      change Accounts .idle
        (outstanding (refsStep c s.refs (s.pc c)) q) y
      rw [(hFollows.outstanding hRef).2 q hSame]
      exact hOld

/- A step of `r_resume` outside, which finds the pool. -/
theorem Inv.after_outside
    (hInv : Inv s)
    (hOutside : (s.pc c).inside = false)
    (hAt : (s.pc c).resource = some r)
    (hx : s.resources[r]? = some x)
    (hStep : resourceStep c x (s.pc c) = .ok (x', pc)) :
    s.after c r x' pc = s.goto c .idle := by
  have hFollows := resourceStep_follows hStep hAt
  have hSame : s.resources.set r x = s.resources := by
    rcases List.getElem?_eq_some_iff.mp hx with ⟨hLt, hEq⟩
    rw [← hEq, List.set_getElem_self]
  cases hPc : s.pc c with
  | resumeTest q =>
      rw [hPc] at hAt hStep
      cases hAt
      have hRef : (c, r) ∈ s.refs := by
        apply hInv.references
        rw [hPc]
        rfl
      have hLock : s.lock ≠ some c := by
        intro hLock
        rw [(hInv.holder c).mpr hLock] at hOutside
        cases hOutside
      have hPool := hInv.pool_present hRef hLock hx
      simp only [resourceStep] at hStep
      rw [if_neg hPool] at hStep
      cases hStep
      unfold SharedState.after
      rw [hSame, hPc]
      rfl
  | resumeSet q => exact absurd hPc (hInv.noSet c q)
  | idle =>
      rw [hPc] at hAt
      cases hAt
  | opening mrl =>
      rw [hPc] at hAt
      cases hAt
  | closing q =>
      rw [hPc] at hAt
      cases hAt
  | _ =>
      rw [hPc] at hOutside
      cases hOutside

theorem Inv.atResource
    (hInv : Inv s)
    (hAt : (s.pc c).resource = some r)
    (h : s.atResource c r = .ok t)
    (hBound : Bounded t) :
    Inv t := by
  unfold SharedState.atResource at h
  cases hx : s.resources[r]? with
  | none =>
      rw [hx] at h
      cases h
  | some x =>
      simp only [hx] at h
      cases hStep : resourceStep c x (s.pc c) with
      | error notTaken =>
          rw [hStep] at h
          cases h
      | ok result =>
          rcases result with ⟨x', pc⟩
          simp only [hStep] at h
          have hEnd : s.after c r x' pc = t :=
            Except.ok.inj h
          subst hEnd
          by_cases hInside : (s.pc c).inside = true
          · exact hInv.after_inside
              ((hInv.holder c).mp hInside) hAt hx hStep hBound
          · have hOutside := Bool.not_eq_true _ ▸ hInside
            rw [hInv.after_outside hOutside hAt hx hStep]
            exact hInv.move_outside hOutside rfl nofun nofun

/- A resource is opened and put into the table. -/
theorem Inv.opened
    (hInv : Inv s)
    (hNone :
      ∀ c, s.lock = some c → (s.pc c).resource = none)
    (mrl : List UInt8) :
    Inv { s with
      resources := s.resources ++ [rOpenDirect mrl] } where
  holder := hInv.holder
  references := hInv.references
  valid := by
    intro ref hMem
    rw [List.length_append]
    exact Nat.lt_add_right _ (hInv.valid ref hMem)
  noSet := hInv.noSet
  accounts := by
    intro r x hx
    by_cases hOld : r < s.resources.length
    · rw [List.getElem?_append_left hOld] at hx
      exact hInv.accounts r x hx
    have hNew : r = s.resources.length := by
      have hLt := (List.getElem?_eq_some_iff.mp hx).1
      rw [List.length_append, List.length_singleton] at hLt
      omega
    subst hNew
    rw [List.getElem?_concat_length] at hx
    cases hx
    have hZero : outstanding s.refs s.resources.length = 0 := by
      apply List.countP_eq_zero.mpr
      intro ref hMem
      have hLt := hInv.valid ref hMem
      simp only [decide_eq_true_eq]
      omega
    have hStage : s.stage s.resources.length = .idle := by
      cases hLock : s.lock with
      | none => exact stage_unlocked hLock _
      | some c =>
          apply stage_elsewhere hLock
          rw [hNone c hLock]
          exact nofun
    change Accounts (s.stage s.resources.length)
      (outstanding s.refs s.resources.length) (rOpenDirect mrl)
    rw [hZero, hStage]
    refine ⟨rfl, rfl, ?_, rfl, rfl⟩
    simp [rOpenDirect]

/- A client takes the lock of the table. -/
theorem Inv.takeLock
    (hInv : Inv s)
    (h : s.takeLock c pc = .ok t)
    (hQuietOld : (s.pc c).Quiet)
    (hInside : pc.inside = true)
    (hQuiet : pc.Quiet)
    (hRef : ∀ r, pc.reference = some r → (c, r) ∈ s.refs)
    (hSet : ∀ r, pc ≠ .resumeSet r) :
    Inv t := by
  unfold SharedState.takeLock at h
  cases hLock : s.lock with
  | some d =>
      rw [hLock] at h
      cases h
  | none =>
      rw [hLock] at h
      cases h
      apply hInv.move_quiet (some c) ?_ ?_ ?_ hQuietOld hQuiet
        hRef hSet
      · rw [hLock]
        exact nofun
      · intro d hEq
        exact (Option.some.inj hEq).symm
      · simp [hInside]

/- The client with the lock goes on with it. -/
theorem Inv.move_inside
    (hInv : Inv s)
    (hLock : s.lock = some c)
    (hQuietOld : (s.pc c).Quiet)
    (hInside : pc.inside = true)
    (hQuiet : pc.Quiet)
    (hRef : ∀ r, pc.reference = some r → (c, r) ∈ s.refs)
    (hSet : ∀ r, pc ≠ .resumeSet r) :
    Inv (s.goto c pc) := by
  have hOnly : ∀ d, s.lock = some d → d = c := by
    intro d hEq
    rw [hLock] at hEq
    exact (Option.some.inj hEq).symm
  apply hInv.move_quiet s.lock hOnly hOnly ?_ hQuietOld hQuiet
    hRef hSet
  simp [hInside, hLock]

theorem Inv.nextStep
    {opened : Bool}
    (hInv : Inv s)
    (h : nextStep s c opened = .ok t)
    (hBound : Bounded t) :
    Inv t := by
  unfold Shared.nextStep at h
  split at h
  · rename_i mrl hPc
    refine hInv.takeLock h ?_ rfl ⟨rfl, rfl, rfl⟩ nofun nofun
    rw [hPc]
    exact ⟨rfl, rfl, rfl⟩
  · rename_i mrl hPc
    have hLock : s.lock = some c := by
      apply (hInv.holder c).mp
      rw [hPc]
      rfl
    have hQuiet : (s.pc c).Quiet := by
      rw [hPc]
      exact ⟨rfl, rfl, rfl⟩
    split at h
    · cases h
      exact hInv.move_inside hLock hQuiet rfl ⟨rfl, rfl, rfl⟩
        nofun nofun
    · split at h
      · cases h
        have hOpened := hInv.opened ?_ mrl
        · exact hOpened.move_inside hLock hQuiet rfl
            ⟨rfl, rfl, rfl⟩ nofun nofun
        · intro d hHolder
          rw [hLock] at hHolder
          cases hHolder
          rw [hPc]
          rfl
      · cases h
        exact hInv.move_inside hLock hQuiet rfl
          ⟨rfl, rfl, rfl⟩ nofun nofun
  · rename_i hPc
    cases h
    have hLock : s.lock = some c := by
      apply (hInv.holder c).mp
      rw [hPc]
      rfl
    refine hInv.move_quiet none ?_ nofun
      (by simp [Pc.inside]) ?_ ⟨rfl, rfl, rfl⟩ nofun nofun
    · intro d hEq
      rw [hLock] at hEq
      exact (Option.some.inj hEq).symm
    · rw [hPc]
      exact ⟨rfl, rfl, rfl⟩
  · rename_i q hPc
    refine hInv.takeLock h ?_ rfl ⟨rfl, rfl, rfl⟩ ?_ nofun
    · rw [hPc]
      exact ⟨rfl, rfl, rfl⟩
    · intro r hRef
      apply hInv.references
      rw [hPc]
      exact hRef
  · split at h
    · cases h
    · rename_i r hAt
      exact hInv.atResource hAt h hBound

/- The fill thread takes and leaves the lock, and no more. -/
theorem Inv.setLock
    {holder : Option Holder}
    (hInv : Inv s)
    (hx : s.resources[r]? = some x) :
    Inv { s with
      resources :=
        s.resources.set r { x with lock := holder } } where
  holder := hInv.holder
  references := hInv.references
  valid := by
    intro ref hMem
    rw [List.length_set]
    exact hInv.valid ref hMem
  noSet := hInv.noSet
  accounts := by
    intro q y hy
    have hLength : r < s.resources.length :=
      (List.getElem?_eq_some_iff.mp hx).1
    by_cases hSame : q = r
    · subst hSame
      rw [List.getElem?_set_self hLength] at hy
      cases hy
      have hOld := hInv.accounts q x hx
      exact ⟨hOld.count, hOld.calls, hOld.pool⟩
    · rw [List.getElem?_set_ne (Ne.symm hSame)] at hy
      exact hInv.accounts q y hy

/- A call of a client that is idle, and perhaps a reference. -/
theorem Inv.call
    (hInv : Inv s)
    (h : call s c r pc = .ok t)
    (hInside : pc.inside = false)
    (hRef : ∀ q, pc.reference = some q → q = r)
    (hSet : ∀ q, pc ≠ .resumeSet q) :
    Inv t := by
  unfold Shared.call at h
  split at h
  · cases h
  · rename_i hIdle
    split at h
    · cases h
    · rename_i hMem
      cases h
      apply hInv.move_outside ?_ hInside ?_ hSet
      · rw [not_not.mp hIdle]
        rfl
      · intro q hReference
        rw [hRef q hReference]
        exact not_not.mp hMem

theorem step_inv
    {op : Op}
    (hInv : Inv s)
    (h : step s op = .ok t)
    (hBound : Bounded t) :
    Inv t := by
  cases op with
  | callOpen c mrl =>
      unfold step at h
      simp only at h
      split at h
      · cases h
      · rename_i hIdle
        cases h
        refine hInv.move_outside ?_ rfl nofun nofun
        rw [not_not.mp hIdle]
        rfl
  | callClose c r =>
      refine hInv.call h rfl ?_ nofun
      intro q hRef
      exact (Option.some.inj hRef).symm
  | callResume c r =>
      refine hInv.call h rfl ?_ nofun
      intro q hRef
      exact (Option.some.inj hRef).symm
  | callFill c r => exact hInv.call h rfl nofun nofun
  | callPause c r => exact hInv.call h rfl nofun nofun
  | next c opened => exact hInv.nextStep h hBound
  | fillLock r =>
      unfold step at h
      simp only at h
      split at h
      · cases h
      · rename_i x hx
        split at h
        · cases h
          exact hInv.setLock hx
        · cases h
  | fillUnlock r =>
      unfold step at h
      simp only at h
      split at h
      · cases h
      · rename_i x hx
        split at h
        · cases h
          exact hInv.setLock hx
        · cases h

theorem initial_inv : Inv initial where
  holder := by
    intro c
    simp [initial, Pc.inside]
  references := nofun
  valid := nofun
  noSet := nofun
  accounts := by
    intro r x hx
    simp [initial] at hx

end Shared

end Feng

------------------------------------------------------------
-- The Life Cycle
------------------------------------------------------------

namespace Feng

namespace Shared

/-
  What is to hold of a resource between calls. The pools are
  numbered as they are created, so that the tasks that were
  pushed are one for each time `count` went from 0 to 1.
-/
structure LifeCycle (x : SharedResource) : Prop where
  count : x.count = (x.opens : ℤ) - x.closes
  fillPool : x.fillPool ≠ none ↔ 0 < x.count
  pushed : x.pushed = List.range x.starts

theorem Inv.lifeCycle
    {s : SharedState}
    {r : Nat}
    {x : SharedResource}
    (hInv : Inv s)
    (hIdle : ∀ c, s.pc c = .idle)
    (hx : s.resources[r]? = some x) :
    LifeCycle x := by
  have hLock : s.lock = none := by
    cases hLock : s.lock with
    | none => rfl
    | some c =>
        have hInside := (hInv.holder c).mpr hLock
        rw [hIdle c] at hInside
        cases hInside
  have hAccounts := hInv.accounts r x hx
  rw [stage_unlocked hLock] at hAccounts
  rcases hAccounts with
    ⟨hCount, hCalls, hFill, hStarts, hPushed⟩
  change x.opens + 0 = x.closes + 0 + _ at hCalls
  refine ⟨by omega, ?_, ?_⟩
  · rw [hFill, hCount]
    exact Int.natCast_pos.symm
  · rw [hPushed, hStarts]

/-
  In every run in which a `gint` can count the references, and
  in every state of it without a call in progress, `count` is
  the opens less the closes, there is a pool exactly if it is
  positive, and one task was pushed each time it became 1.
-/
theorem life_cycle
    {trace : List (SharedState × Op)}
    {last : SharedState}
    (hRun : system.Run trace last)
    (hBounded : System.Always Bounded trace last)
    (hIdle : ∀ c, last.pc c = .idle) :
    ∀ x, x ∈ last.resources → LifeCycle x := by
  have hInv : Inv last := by
    apply hRun.invariant_of_always ?_ ?_ hBounded
    · rintro s rfl
      exact initial_inv
    · intro s op t hInv hBound hStep
      exact step_inv hInv hStep.2 hBound
  intro x hMem
  rcases List.mem_iff_getElem?.mp hMem with ⟨r, hx⟩
  exact hInv.lifeCycle hIdle hx

/- The steps of a first open, and of another one. -/
def firstOpen : List Op :=
  .callOpen 0 [] :: List.replicate 11 (.next 0 true)

def nextOpen : List Op :=
  .callOpen 0 [] :: List.replicate 5 (.next 0 true)

/- A client that opened a resource so many times. -/
def openedTimes (n : Nat) : SharedState where
  lock := none
  resources :=
    [{ mrl := []
       lock := none
       count := gint n
       fillPool := some 0
       pools := 1
       pushed := [0]
       opens := n
       closes := 0
       starts := 1 }]
  refs := List.replicate n (0, 0)
  pc := fun _ => .idle

theorem replay_firstOpen :
    System.replay step initial firstOpen =
      .ok (openedTimes 1) := by
  simp [System.replay, firstOpen, step, nextStep, initial,
    SharedState.goto, SharedState.takeLock,
    SharedState.atResource, Pc.resource, resourceStep,
    rOpenDirect, lockStep, refsStep, SharedResource.newPool,
    openedTimes, gint]

theorem replay_nextOpen
    {n : Nat}
    (hCount : gint n ≠ 0) :
    System.replay step (openedTimes n) nextOpen =
      .ok (openedTimes (n + 1)) := by
  have hNext : gint (gint n + 1) = gint ((n : ℤ) + 1) :=
    Int.bmod_add_bmod
  simp [System.replay, nextOpen, step, nextStep,
    SharedState.goto, SharedState.takeLock,
    SharedState.atResource, Pc.resource, resourceStep,
    lockStep, refsStep, openedTimes, hCount, hNext,
    List.replicate_succ]

theorem enabled_all
    (s : SharedState)
    (ops : List Op) :
    System.Enabled enabled step s ops := by
  induction ops generalizing s with
  | nil => exact trivial
  | cons op ops ih =>
      refine ⟨trivial, ?_⟩
      split
      · exact ih _
      · exact trivial

/- A run is extended by steps that can all be taken. -/
theorem run_replay
    {trace : List (SharedState × Op)}
    {s t : SharedState}
    {ops : List Op}
    (hRun : system.Run trace s)
    (hReplay : System.replay step s ops = .ok t) :
    system.Run (trace ++ System.replayTrace step s ops) t := by
  have hOk : (System.replay step s ops).isOk = true := by
    rw [hReplay]
    rfl
  have hEnd : System.replayEnd step s ops = t := by
    simp only [System.replayEnd, hReplay]
  have hNext :=
    System.replay_run_from hRun (enabled_all s ops) hOk
  rw [hEnd] at hNext
  exact hNext

theorem bounded_of_length
    {s : SharedState}
    (hLength : s.refs.length ≤ 1) :
    Bounded s := by
  intro r
  have hCount : outstanding s.refs r ≤ s.refs.length :=
    List.countP_le_length
  omega

theorem life_cycle_first :
    LifeCycle
      { mrl := []
        lock := none
        count := 1
        fillPool := some 0
        pools := 1
        pushed := [0]
        opens := 1
        closes := 0
        starts := 1 } := by
  have hBounded :
      System.Always Bounded
        ([] ++ System.replayTrace step initial firstOpen)
        (openedTimes 1) := by
    have hShort :
        ∀ x ∈ System.replayTrace step initial firstOpen,
          x.1.refs.length ≤ 1 := by
      decide +kernel
    exact ⟨fun x hMem => bounded_of_length (hShort x hMem),
      bounded_of_length (by decide)⟩
  exact life_cycle
    (run_replay (.start rfl) replay_firstOpen) hBounded
    (fun _ => rfl) _ (List.mem_singleton_self _)

/- One client alone can open a resource that often. -/
theorem openedTimes_run
    {n : Nat}
    (hBound : n < 2 ^ 31) :
    ∃ trace, system.Run trace (openedTimes (n + 1)) := by
  induction n with
  | zero =>
      exact ⟨_, run_replay (.start rfl) replay_firstOpen⟩
  | succ n ih =>
      rcases ih (Nat.lt_of_succ_lt hBound) with ⟨trace, hRun⟩
      refine ⟨_, run_replay hRun (replay_nextOpen ?_)⟩
      rw [gint_eq hBound]
      omega

/- With 2^31 references open `count` is negative. -/
theorem count_overflows :
    ∃ trace last x,
      system.Run trace last ∧ (∀ c, last.pc c = .idle) ∧
        x ∈ last.resources ∧ x.opens = 2 ^ 31 ∧
        x.closes = 0 ∧ x.count = -2 ^ 31 ∧
        ¬ LifeCycle x := by
  rcases openedTimes_run (Nat.sub_one_lt (by decide)) with
    ⟨trace, hRun⟩
  have hCount :
      gint ((2 ^ 31 : Nat) : ℤ) = -2 ^ 31 := by
    decide
  refine ⟨trace, openedTimes (2 ^ 31 - 1 + 1), _, hRun,
    fun _ => rfl, List.mem_singleton_self _, rfl, rfl,
    hCount, ?_⟩
  intro hLifeCycle
  have hOpens :
      gint ((2 ^ 31 : Nat) : ℤ) = ((2 ^ 31 : Nat) : ℤ) - 0 :=
    hLifeCycle.count
  rw [hCount] at hOpens
  revert hOpens
  decide

end Shared

end Feng
