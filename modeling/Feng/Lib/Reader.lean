import Mathlib.Data.List.Chain
import Mathlib.Data.List.Range

/-
  One reader of a log that others may write, trim and throw
  away: what it has been handed so far, and what is left.

  Entries are numbered in the order they are written. The
  reader holds a cursor into the entries that are still kept;
  what others do to the log it only notices by the first
  entry kept moving up to, at most, its own cursor.

  Key definitions include:
    * `Reader`
    * `Reader.Event`
    * `Reader.Step`
    * `Reader.Run`
    * `Reader.SamePlace`
    * `Reader.Account`
    * `Reader.Alternating`

  Key theorems include:
    * `Reader.SamePlace.step`
    * `Reader.Run.mem_passed_iff`
    * `Reader.Run.kept_filter`
    * `Reader.Run.delivered`
-/

------------------------------------------------------------
-- Readers And What They Notice
------------------------------------------------------------

namespace Feng

/-
  The entries `first`, …, `next - 1` are kept. The reader has
  passed those before `cursor`, and holds the one at `cursor`
  when `holding` is set.
-/
structure Reader where
  first : Nat
  next : Nat
  cursor : Nat
  holding : Bool

namespace Reader

/- What a step of the system is to one reader. -/
inductive Event where
| registered (kept : List Nat)
| put (entry : Nat)
| discarded (kept : List Nat)
| got (result : Option Nat)
| moved (current : Option Nat)
| other
deriving DecidableEq

/- The entries that are kept. -/
def kept (r : Reader) : List Nat :=
  List.range' r.first (r.next - r.first)

/- The entry the reader holds. -/
def current (r : Reader) : Option Nat :=
  if r.holding then some r.cursor else none

/- The entry the reader is handed when it asks. -/
def result (r : Reader) : Option Nat :=
  if r.cursor < r.next then some r.cursor else none

/- Taking hold of the entry at the cursor, if there is one. -/
def hold (r : Reader) : Reader :=
  { r with holding := decide (r.cursor < r.next) }

/- Going on to the next entry. -/
def advance (r : Reader) : Reader :=
  if r.holding then
    hold { r with cursor := r.cursor + 1 }
  else
    hold r

/- The cursor stays among the entries kept. -/
structure Valid (r : Reader) : Prop where
  low : r.first ≤ r.cursor
  high : r.cursor ≤ r.next
  held : r.holding = true → r.cursor < r.next

/- The steps of the system as one reader sees them. -/
inductive Step : Reader → Event → Reader → Prop where
| other {r : Reader} {first : Nat} :
    r.first ≤ first → first ≤ r.cursor →
      Step r .other { r with first := first }
| put {r : Reader} :
    Step r (.put r.next) { r with next := r.next + 1 }
| discarded {r : Reader} :
    Step r (.discarded r.kept)
      { r with
        first := r.next
        cursor := r.next
        holding := false }
| got {r : Reader} :
    Step r (.got r.result) r.hold
| moved {r : Reader} {first : Nat} :
    r.first ≤ first → first ≤ r.advance.cursor →
      Step r (.moved r.current)
        { r.advance with first := first }

/- What happened, up to a state the reader is in. -/
inductive Run : List Event → Reader → Prop where
| registered {events : List Event} {r : Reader} :
    r.cursor = r.first → r.first ≤ r.next →
      r.holding = false →
      Run (events ++ [.registered r.kept]) r
| step {events : List Event} {r t : Reader} {e : Event} :
    Run events r → Step r e t → Run (events ++ [e]) t

@[simp] theorem hold_first (r : Reader) :
    r.hold.first = r.first :=
  rfl

@[simp] theorem hold_next (r : Reader) :
    r.hold.next = r.next :=
  rfl

@[simp] theorem hold_cursor (r : Reader) :
    r.hold.cursor = r.cursor :=
  rfl

@[simp] theorem hold_holding (r : Reader) :
    r.hold.holding = decide (r.cursor < r.next) :=
  rfl

@[simp] theorem advance_first (r : Reader) :
    r.advance.first = r.first := by
  unfold advance
  split <;> rfl

@[simp] theorem advance_next (r : Reader) :
    r.advance.next = r.next := by
  unfold advance
  split <;> rfl

theorem advance_cursor (r : Reader) :
    r.advance.cursor =
      if r.holding then r.cursor + 1 else r.cursor := by
  unfold advance
  split <;> rfl

theorem advance_holding (r : Reader) :
    r.advance.holding =
      decide (r.advance.cursor < r.next) := by
  unfold advance
  split <;> rfl

theorem Valid.advance
    {r : Reader}
    (hValid : r.Valid) :
    r.cursor ≤ r.advance.cursor ∧
      r.advance.cursor ≤ r.next := by
  have hLow := hValid.low
  have hHigh := hValid.high
  have hHeld := hValid.held
  rw [advance_cursor]
  split
  · exact ⟨by omega, by
      have := hHeld (by assumption)
      omega⟩
  · exact ⟨by omega, by omega⟩

theorem Step.valid
    {r t : Reader}
    {e : Event}
    (hStep : Step r e t)
    (hValid : r.Valid) :
    t.Valid := by
  have hLow := hValid.low
  have hHigh := hValid.high
  cases hStep with
  | other hFirst hCursor =>
      exact ⟨hCursor, hHigh, hValid.held⟩
  | put =>
      exact ⟨hLow, by simp; omega, fun hHeld => by
        have := hValid.held hHeld
        simp; omega⟩
  | discarded =>
      exact ⟨by simp, by simp, by simp⟩
  | got =>
      exact ⟨hLow, hHigh, by simp⟩
  | moved hFirst hCursor =>
      exact ⟨hCursor, by simpa using hValid.advance.2, by
        simp [advance_holding]⟩

theorem Run.valid
    {events : List Event}
    {r : Reader}
    (hRun : Run events r) :
    r.Valid := by
  induction hRun with
  | registered hCursor hFirst hHolding =>
      exact ⟨by omega, by omega, by simp [hHolding]⟩
  | step _ hStep ih =>
      exact hStep.valid ih

end Reader

end Feng

------------------------------------------------------------
-- Readers At The Same Place
------------------------------------------------------------

namespace Feng

namespace Reader

/- Readers of two logs that only differ in what is kept. -/
structure SamePlace (r r' : Reader) : Prop where
  next : r'.next = r.next
  cursor : r'.cursor = r.cursor
  holding : r'.holding = r.holding

/- Events of one kind, but for the entries in them. -/
inductive Event.Like : Event → Event → Prop where
| put (entry entry' : Nat) : Like (.put entry) (.put entry')
| discarded (kept kept' : List Nat) :
    Like (.discarded kept) (.discarded kept')
| got (result result' : Option Nat) :
    Like (.got result) (.got result')
| moved (current current' : Option Nat) :
    Like (.moved current) (.moved current')
| other : Like .other .other

variable {r r' t t' : Reader} {e e' : Event}

theorem SamePlace.result
    (h : SamePlace r r') :
    r'.result = r.result := by
  unfold Reader.result
  rw [h.cursor, h.next]

theorem SamePlace.advance
    (h : SamePlace r r') :
    SamePlace r.advance r'.advance := by
  have hCursor : r'.advance.cursor = r.advance.cursor := by
    rw [advance_cursor, advance_cursor, h.holding, h.cursor]
  refine ⟨?_, hCursor, ?_⟩
  · rw [advance_next, advance_next, h.next]
  · rw [advance_holding, advance_holding, hCursor, h.next]

/- Readers at the same place go on to the same place. -/
theorem SamePlace.step
    (h : SamePlace r r')
    (hLike : Event.Like e e')
    (hStep : Step r e t)
    (hStep' : Step r' e' t') :
    SamePlace t t' := by
  cases hLike with
  | put _ _ =>
      cases hStep
      cases hStep'
      exact ⟨by simp only [h.next], h.cursor, h.holding⟩
  | discarded _ _ =>
      cases hStep
      cases hStep'
      exact ⟨h.next, h.next, rfl⟩
  | got _ _ =>
      cases hStep
      cases hStep'
      refine ⟨h.next, h.cursor, ?_⟩
      rw [hold_holding, hold_holding, h.cursor, h.next]
  | moved _ _ =>
      cases hStep
      cases hStep'
      have hAdvance := h.advance
      exact ⟨hAdvance.next, hAdvance.cursor,
        hAdvance.holding⟩
  | other =>
      cases hStep
      cases hStep'
      exact ⟨h.next, h.cursor, h.holding⟩

end Reader

end Feng

------------------------------------------------------------
-- Accounts Of What A Reader Was Handed
------------------------------------------------------------

namespace Feng

namespace Reader

/-
  The entries kept when the reader registered and those put
  since, the ones it was handed, those discarded before it
  was handed them, those it moved past, and the one it was
  handed last with no move since.
-/
structure Account where
  eligible : List Nat
  obtained : List Nat
  lost : List Nat
  passed : List Nat
  held : Option Nat

namespace Account

def empty : Account where
  eligible := []
  obtained := []
  lost := []
  passed := []
  held := none

/- Being handed an entry again without a move is not counted. -/
def record (acc : Account) : Event → Account
| .registered kept => { empty with eligible := kept }
| .put entry =>
    { acc with eligible := acc.eligible ++ [entry] }
| .discarded kept =>
    { acc with
      lost :=
        acc.lost ++ kept.filter (· ∉ acc.obtained) }
| .got none => acc
| .got (some entry) =>
    if acc.held = some entry then
      acc
    else
      { acc with
        obtained := acc.obtained ++ [entry]
        held := some entry }
| .moved current =>
    { acc with
      passed := acc.passed ++ current.toList
      held := none }
| .other => acc

end Account

@[simp] theorem Account.record_got_passed
    (acc : Account)
    (result : Option Nat) :
    (acc.record (.got result)).passed = acc.passed := by
  cases result with
  | none => rfl
  | some entry =>
      simp only [Account.record]
      split <;> rfl

def account (events : List Event) : Account :=
  events.foldl Account.record Account.empty

@[simp] theorem account_append
    (events : List Event)
    (e : Event) :
    account (events ++ [e]) = (account events).record e := by
  simp [account]

/- Throwing away nothing leaves no mark. -/
theorem account_discarded_nil
    (events more : List Event)
    (n : Nat) :
    account
        (events ++ List.replicate n (.discarded []) ++
          more) =
      account (events ++ more) := by
  have hNone :
      ∀ acc : Account,
        (List.replicate n (Event.discarded [])).foldl
          Account.record acc = acc := by
    intro acc
    induction n with
    | zero => rfl
    | succ n ih =>
        simpa [List.replicate_succ, Account.record] using ih
  simp only [account, List.foldl_append, hNone]

/- The calls a reader makes. -/
inductive Call where
| get
| move
deriving DecidableEq

def Event.call? : Event → Option Call
| .got _ => some .get
| .moved _ => some .move
| _ => none

def calls (events : List Event) : List Call :=
  events.filterMap Event.call?

/- The reader never moves twice without asking in between. -/
def Alternating (events : List Event) : Prop :=
  (calls events).IsChain
    (fun c d => ¬ (c = .move ∧ d = .move))

instance decidableAlternating (events : List Event) :
    Decidable (Alternating events) :=
  inferInstanceAs (Decidable (List.IsChain _ _))

theorem calls_append
    (events : List Event)
    (e : Event) :
    calls (events ++ [e]) =
      calls events ++ e.call?.toList := by
  cases hCall : e.call? with
  | none =>
      simp [calls, hCall]
  | some c =>
      simp [calls, hCall]

theorem alternating_discarded_nil
    (events more : List Event)
    (n : Nat) :
    Alternating
        (events ++ List.replicate n (.discarded []) ++
          more) ↔
      Alternating (events ++ more) := by
  have hNone :
      (List.replicate n (Event.discarded [])).filterMap
        Event.call? = [] := by
    simp [List.filterMap_replicate, Event.call?]
  simp only [Alternating, calls, List.filterMap_append,
    hNone, List.append_nil]

theorem Alternating.init
    {events : List Event}
    {e : Event}
    (h : Alternating (events ++ [e])) :
    Alternating events := by
  unfold Alternating at h ⊢
  rw [calls_append] at h
  exact h.left_of_append

theorem Alternating.getLast?_ne_move
    {events : List Event}
    {current : Option Nat}
    (h : Alternating (events ++ [.moved current])) :
    (calls events).getLast? ≠ some .move := by
  intro hLast
  unfold Alternating at h
  rw [calls_append] at h
  have hPair := (List.isChain_append.mp h).2.2
    .move hLast .move (by simp [Event.call?])
  exact hPair ⟨rfl, rfl⟩

end Reader

end Feng

------------------------------------------------------------
-- Entries Passed
------------------------------------------------------------

namespace Feng

namespace Reader

variable {events : List Event} {r t : Reader} {e : Event}

theorem Step.cursor_le
    (hStep : Step r e t)
    (hValid : r.Valid) :
    r.cursor ≤ t.cursor := by
  cases hStep with
  | other hFirst hCursor => exact Nat.le_refl _
  | put => exact Nat.le_refl _
  | discarded => exact hValid.high
  | got => exact Nat.le_refl _
  | moved hFirst hCursor => exact hValid.advance.1

/- Whatever the reader moved past is before its cursor. -/
theorem Run.passed_lt
    (hRun : Run events r) :
    ∀ n ∈ (account events).passed, n < r.cursor := by
  induction hRun with
  | registered _ _ _ =>
      simp [Account.record, Account.empty]
  | step hRun hStep ih =>
      intro n hn
      have hValid := hRun.valid
      have hPassed := ih n
      cases hStep with
      | other hFirst hCursor =>
          exact hPassed (by simpa [Account.record] using hn)
      | put =>
          exact hPassed (by simpa [Account.record] using hn)
      | discarded =>
          have hOld := hPassed
            (by simpa [Account.record] using hn)
          exact Nat.lt_of_lt_of_le hOld hValid.high
      | got =>
          exact hPassed (by simpa using hn)
      | moved hFirst hCursor =>
          have hAdvance := hValid.advance.1
          simp only [account_append, Account.record,
            List.mem_append] at hn
          rcases hn with hn | hn
          · exact Nat.lt_of_lt_of_le (hPassed hn) hAdvance
          · simp only [current] at hn
            split at hn <;> rename_i hHolding
            · simp at hn
              simp [advance_cursor, hHolding, hn]
            · simp at hn

/- Of the entries kept, it moved past all before its cursor. -/
theorem Run.mem_passed
    (hRun : Run events r) :
    ∀ n, r.first ≤ n → n < r.cursor →
      n ∈ (account events).passed := by
  induction hRun with
  | registered hCursor _ _ =>
      intro n hLow hHigh
      omega
  | @step events r t e hRun hStep ih =>
      intro n hLow hHigh
      cases hStep with
      | other hFirst hCursor =>
          have hOld := ih n (Nat.le_trans hFirst hLow) hHigh
          simpa [Account.record] using hOld
      | put =>
          have hOld := ih n hLow hHigh
          simpa [Account.record] using hOld
      | discarded =>
          simp only at hLow hHigh
          omega
      | got =>
          have hOld := ih n hLow hHigh
          simpa using hOld
      | moved hFirst hCursor =>
          simp only [account_append, Account.record,
            List.mem_append]
          simp only [advance_cursor] at hHigh
          have hKept := ih n (Nat.le_trans hFirst hLow)
          split at hHigh <;> rename_i hHolding
          · by_cases hLast : n = r.cursor
            · right
              simp [current, hHolding, hLast]
            · exact Or.inl (hKept (by omega))
          · exact Or.inl (hKept hHigh)

/-
  Among the entries kept, those the reader moved past are
  the ones before its cursor.
-/
theorem Run.mem_passed_iff
    (hRun : Run events r)
    {n : Nat}
    (hLow : r.first ≤ n) :
    n ∈ (account events).passed ↔ n < r.cursor :=
  ⟨hRun.passed_lt n, hRun.mem_passed n hLow⟩

/- The entries kept, cut in two. -/
theorem kept_split
    {n : Nat}
    (hLow : r.first ≤ n)
    (hHigh : n ≤ r.next) :
    r.kept =
      List.range' r.first (n - r.first) ++
        List.range' n (r.next - n) := by
  have hMid : r.first + (n - r.first) = n := by
    omega
  have hLength :
      r.next - r.first = (n - r.first) + (r.next - n) := by
    omega
  rw [kept, hLength, ← List.range'_append_1, hMid]

/- Those it has not moved past are the ones from its cursor. -/
theorem Run.kept_filter
    (hRun : Run events r) :
    r.kept.filter (· ∉ (account events).passed) =
      List.range' r.cursor (r.next - r.cursor) := by
  have hValid := hRun.valid
  rw [kept_split hValid.low hValid.high, List.filter_append]
  have hPassed :
      (List.range' r.first (r.cursor - r.first)).filter
        (· ∉ (account events).passed) = [] := by
    refine List.filter_eq_nil_iff.mpr ?_
    intro n hn
    have hRange := List.mem_range'_1.mp hn
    have hMem := (hRun.mem_passed_iff hRange.1).mpr (by omega)
    simp [hMem]
  have hAhead :
      (List.range' r.cursor (r.next - r.cursor)).filter
          (· ∉ (account events).passed) =
        List.range' r.cursor (r.next - r.cursor) := by
    refine List.filter_eq_self.mpr ?_
    intro n hn
    have hRange := List.mem_range'_1.mp hn
    have hNot : n ∉ (account events).passed := by
      intro hMem
      have hLess := hRun.passed_lt n hMem
      omega
    simp [hNot]
  rw [hPassed, hAhead, List.nil_append]

end Reader

end Feng

------------------------------------------------------------
-- Delivery
------------------------------------------------------------

namespace Feng

namespace Reader

/- The first entry the reader has not been handed yet. -/
def unread (r : Reader) (acc : Account) : Nat :=
  if acc.held = some r.cursor then r.cursor + 1 else r.cursor

/-
  The account of a reader that asks before every move: what
  it may get and has not lost is what it was handed, followed
  by the entries it has yet to be handed.
-/
structure Delivered
    (r : Reader)
    (acc : Account)
    (last : Option Call) : Prop where
  eligible :
    ∃ base, base ≤ r.first ∧
      acc.eligible = List.range' base (r.next - base)
  pending :
    acc.eligible.filter (· ∉ acc.lost) =
      acc.obtained ++
        List.range' (r.unread acc) (r.next - r.unread acc)
  obtained : ∀ n ∈ acc.obtained, n < r.unread acc
  lost : ∀ n ∈ acc.lost, n < r.first
  held : ∀ n, acc.held = some n → n ≤ r.cursor
  current : acc.held = some r.cursor → r.holding = true
  moved :
    r.holding = true → acc.held ≠ some r.cursor →
      last = some .move

variable {acc : Account} {last : Option Call}

theorem Delivered.unread_bounds
    (h : Delivered r acc last)
    (hValid : r.Valid) :
    r.cursor ≤ r.unread acc ∧ r.unread acc ≤ r.next := by
  have hHigh := hValid.high
  unfold unread
  split
  · have hLess := hValid.held (h.current (by assumption))
    omega
  · omega

theorem Delivered.other
    {first : Nat}
    (h : Delivered r acc last)
    (hFirst : r.first ≤ first) :
    Delivered { r with first := first } acc last where
  eligible := by
    rcases h.eligible with ⟨base, hBase, hEq⟩
    exact ⟨base, Nat.le_trans hBase hFirst, hEq⟩
  pending := h.pending
  obtained := h.obtained
  lost := fun n hn =>
    Nat.lt_of_lt_of_le (h.lost n hn) hFirst
  held := h.held
  current := h.current
  moved := h.moved

theorem Delivered.put
    (h : Delivered r acc last)
    (hValid : r.Valid) :
    Delivered { r with next := r.next + 1 }
      (acc.record (.put r.next)) last where
  eligible := by
    rcases h.eligible with ⟨base, hBase, hEq⟩
    have hLow := hValid.low
    have hHigh := hValid.high
    have hLength : r.next + 1 - base = r.next - base + 1 := by
      omega
    have hNext : base + (r.next - base) = r.next := by
      omega
    exact ⟨base, hBase, by
      simp [Account.record, hEq, hLength,
        List.range'_1_concat, hNext]⟩
  pending := by
    have hBounds := h.unread_bounds hValid
    have hLow := hValid.low
    have hKept : r.next ∉ acc.lost := by
      intro hMem
      have hLess := h.lost _ hMem
      omega
    have hLength :
        r.next + 1 - r.unread acc =
          r.next - r.unread acc + 1 := by
      omega
    have hNext :
        r.unread acc + (r.next - r.unread acc) = r.next := by
      omega
    change
      (acc.eligible ++ [r.next]).filter (· ∉ acc.lost) =
        acc.obtained ++
          List.range' (r.unread acc)
            (r.next + 1 - r.unread acc)
    rw [List.filter_append, h.pending, hLength,
      List.range'_1_concat, hNext, List.append_assoc]
    simp [hKept]
  obtained := h.obtained
  lost := h.lost
  held := h.held
  current := h.current
  moved := h.moved

theorem Delivered.discarded
    (h : Delivered r acc last)
    (hValid : r.Valid) :
    Delivered
      { r with
        first := r.next
        cursor := r.next
        holding := false }
      (acc.record (.discarded r.kept)) last := by
  have hBounds := h.unread_bounds hValid
  have hLow := hValid.low
  have hHigh := hValid.high
  have hHeld : acc.held ≠ some r.next := by
    intro hEq
    have hLe := h.held _ hEq
    have hCursor : r.cursor = r.next := by
      omega
    have hLess := hValid.held (h.current (hCursor ▸ hEq))
    omega
  have hUnread :
      unread
        { r with
          first := r.next
          cursor := r.next
          holding := false }
        (acc.record (.discarded r.kept)) = r.next := by
    simp [unread, Account.record, hHeld]
  refine ⟨?_, ?_, ?_, ?_, ?_, ?_, ?_⟩
  · rcases h.eligible with ⟨base, hBase, hEq⟩
    exact ⟨base, by simp; omega, hEq⟩
  · rw [hUnread]
    have hSplit :
        acc.eligible.filter
            (· ∉ (acc.record (.discarded r.kept)).lost) =
          (acc.eligible.filter (· ∉ acc.lost)).filter
            (· ∉ r.kept.filter (· ∉ acc.obtained)) := by
      rw [List.filter_filter]
      refine List.filter_congr ?_
      intro n _
      simp [Account.record, Bool.and_comm]
    change
      acc.eligible.filter
          (· ∉ (acc.record (.discarded r.kept)).lost) =
        acc.obtained ++ List.range' r.next (r.next - r.next)
    rw [hSplit, h.pending, List.filter_append]
    have hObtained :
        acc.obtained.filter
            (· ∉ r.kept.filter (· ∉ acc.obtained)) =
          acc.obtained := by
      refine List.filter_eq_self.mpr ?_
      intro n hn
      simp [hn]
    have hGone :
        (List.range' (r.unread acc)
            (r.next - r.unread acc)).filter
            (· ∉ r.kept.filter (· ∉ acc.obtained)) =
          [] := by
      refine List.filter_eq_nil_iff.mpr ?_
      intro n hn
      have hRange := List.mem_range'_1.mp hn
      have hNew : n ∉ acc.obtained := by
        intro hMem
        have hLess := h.obtained n hMem
        omega
      have hKept : n ∈ r.kept :=
        List.mem_range'_1.mpr (by omega)
      simp [hNew, hKept]
    rw [hObtained, hGone, Nat.sub_self]
    rfl
  · intro n hn
    rw [hUnread]
    have hLess := h.obtained n hn
    omega
  · intro n hn
    simp only [Account.record, List.mem_append] at hn
    rcases hn with hn | hn
    · have hLess := h.lost n hn
      simp only
      omega
    · have hKept := (List.mem_filter.mp hn).1
      have hRange := List.mem_range'_1.mp hKept
      simp only
      omega
  · intro n hn
    have hLe := h.held n hn
    simp only
    omega
  · intro hEq
    exact absurd hEq hHeld
  · intro hHolding
    cases hHolding

theorem Delivered.got
    (h : Delivered r acc last)
    (hValid : r.Valid) :
    Delivered r.hold (acc.record (.got r.result))
      (some .get) := by
  by_cases hMore : r.cursor < r.next
  · have hResult : r.result = some r.cursor := by
      simp [result, hMore]
    rw [hResult]
    by_cases hHeld : acc.held = some r.cursor
    · have hSame :
          acc.record (.got (some r.cursor)) = acc := by
        simp [Account.record, hHeld]
      rw [hSame]
      exact ⟨h.eligible, h.pending, h.obtained, h.lost,
        h.held, by simp [hMore], by simp [hHeld]⟩
    · have hUnread : r.unread acc = r.cursor := by
        simp [unread, hHeld]
      have hNew :
          acc.record (.got (some r.cursor)) =
            { acc with
              obtained := acc.obtained ++ [r.cursor]
              held := some r.cursor } := by
        simp [Account.record, hHeld]
      have hLength :
          r.next - r.cursor = r.next - (r.cursor + 1) + 1 := by
        omega
      have hPending := h.pending
      have hObtained := h.obtained
      rw [hUnread] at hObtained
      rw [hUnread, hLength, List.range'_succ] at hPending
      rw [hNew]
      refine ⟨h.eligible, ?_, ?_, h.lost, ?_, ?_, ?_⟩
      · simpa [unread] using hPending
      · intro n hn
        rcases List.mem_append.mp hn with hn | hn
        · have hLess := hObtained n hn
          simp [unread]
          omega
        · simp [unread, List.mem_singleton.mp hn]
      · intro n hn
        cases hn
        exact Nat.le_refl _
      · intro _
        simp [hMore]
      · intro _ hNe
        exact absurd rfl hNe
  · have hResult : r.result = none := by
      simp [result, hMore]
    rw [hResult]
    refine ⟨h.eligible, h.pending, h.obtained, h.lost,
      h.held, ?_, ?_⟩
    · intro hEq
      exact absurd (hValid.held (h.current hEq)) hMore
    · simp [hMore]

theorem Delivered.advance
    (h : Delivered r acc last)
    (hLast : last ≠ some .move)
    {first : Nat}
    (hFirst : r.first ≤ first) :
    Delivered { r.advance with first := first }
      (acc.record (.moved r.current)) (some .move) := by
  -- the entry held, if any, is the one handed last
  have hUnread : r.unread acc = r.advance.cursor := by
    unfold unread
    rw [advance_cursor]
    cases hHolding : r.holding with
    | false =>
        have hNot : acc.held ≠ some r.cursor := by
          intro hEq
          rw [h.current hEq] at hHolding
          cases hHolding
        simp [hNot]
    | true =>
        have hHeld : acc.held = some r.cursor := by
          by_contra hNot
          exact hLast (h.moved hHolding hNot)
        simp [hHeld]
  have hPending := h.pending
  have hObtained := h.obtained
  rw [hUnread] at hPending hObtained
  refine ⟨?_, ?_, ?_, ?_, ?_, ?_, ?_⟩
  · rcases h.eligible with ⟨base, hBase, hEq⟩
    refine ⟨base, Nat.le_trans hBase hFirst, ?_⟩
    simpa [Account.record] using hEq
  · change
      acc.eligible.filter (· ∉ acc.lost) =
        acc.obtained ++
          List.range' r.advance.cursor
            (r.advance.next - r.advance.cursor)
    rw [advance_next]
    exact hPending
  · simpa [unread, Account.record] using hObtained
  · exact fun n hn =>
      Nat.lt_of_lt_of_le (h.lost n hn) hFirst
  · intro n hn
    cases hn
  · intro hEq
    cases hEq
  · intro _ _
    rfl

/- A reader that asks before every move loses nothing. -/
theorem Run.delivered
    (hRun : Run events r)
    (hCalls : Alternating events) :
    Delivered r (account events)
      (calls events).getLast? := by
  induction hRun with
  | @registered events r hCursor hFirst hHolding =>
      have hKept : r.unread { Account.empty with
          eligible := r.kept } = r.first := by
        simp [unread, Account.empty, hCursor]
      simp only [account_append, Account.record]
      refine ⟨⟨r.first, Nat.le_refl _, rfl⟩, ?_, ?_, ?_,
        ?_, ?_, ?_⟩
      · rw [hKept]
        simp [Account.empty, kept]
      · simp [Account.empty]
      · simp [Account.empty]
      · simp [Account.empty]
      · simp [Account.empty]
      · simp [hHolding]
  | @step events r t e hRun hStep ih =>
      have hPrior := ih hCalls.init
      have hValid := hRun.valid
      rw [account_append, calls_append]
      cases hStep with
      | other hFirst _ =>
          simpa [Event.call?, Account.record] using
            hPrior.other hFirst
      | put =>
          simpa [Event.call?] using hPrior.put hValid
      | discarded =>
          simpa [Event.call?] using hPrior.discarded hValid
      | got =>
          simpa [Event.call?] using hPrior.got hValid
      | moved hFirst _ =>
          simpa [Event.call?] using
            hPrior.advance hCalls.getLast?_ne_move hFirst

/- The entries kept that were not handed out are those left. -/
theorem Delivered.kept_filter
    (h : Delivered r acc last)
    (hValid : r.Valid) :
    r.kept.filter (· ∉ acc.obtained) =
      List.range' (r.unread acc)
        (r.next - r.unread acc) := by
  have hBounds := h.unread_bounds hValid
  have hLow := hValid.low
  rcases h.eligible with ⟨base, hBase, hEligible⟩
  have hKept :=
    kept_split (Nat.le_trans hLow hBounds.1) hBounds.2
  rw [hKept, List.filter_append]
  have hRead :
      (List.range' r.first (r.unread acc - r.first)).filter
          (· ∉ acc.obtained) = [] := by
    refine List.filter_eq_nil_iff.mpr ?_
    intro n hn
    have hRange := List.mem_range'_1.mp hn
    have hMem :
        n ∈ acc.eligible.filter (· ∉ acc.lost) := by
      refine List.mem_filter.mpr ⟨?_, ?_⟩
      · rw [hEligible]
        exact List.mem_range'_1.mpr (by omega)
      · have hNot : n ∉ acc.lost := by
          intro hLost
          have hLess := h.lost n hLost
          omega
        simp [hNot]
    rw [h.pending] at hMem
    rcases List.mem_append.mp hMem with hMem | hMem
    · simp [hMem]
    · have hAfter := List.mem_range'_1.mp hMem
      omega
  have hLeft :
      (List.range' (r.unread acc)
          (r.next - r.unread acc)).filter
          (· ∉ acc.obtained) =
        List.range' (r.unread acc)
          (r.next - r.unread acc) := by
    refine List.filter_eq_self.mpr ?_
    intro n hn
    have hRange := List.mem_range'_1.mp hn
    have hNot : n ∉ acc.obtained := by
      intro hMem
      have hLess := h.obtained n hMem
      omega
    simp [hNot]
  rw [hRead, hLeft, List.nil_append]

/- The next entry handed out is the first one left. -/
theorem Delivered.result_eq
    (h : Delivered r acc last)
    (hValid : r.Valid)
    (hHeld : acc.held = none) :
    r.result =
      (r.kept.filter (· ∉ acc.obtained)).head? := by
  have hUnread : r.unread acc = r.cursor := by
    simp [unread, hHeld]
  have hHigh := hValid.high
  rw [h.kept_filter hValid, hUnread, List.head?_range']
  unfold result
  by_cases hMore : r.cursor < r.next
  · have hSome : r.next - r.cursor ≠ 0 := by
      omega
    simp [hMore, hSome]
  · have hNone : r.next - r.cursor = 0 := by
      omega
    simp [hMore, hNone]

end Reader

end Feng
