import Mathlib.Data.List.Basic
import Mathlib.Data.List.Induction

/-
  Scanners in the table-driven form that Ragel generates for
  C: the tables, the two binary searches for a transition, and
  the loop that runs the actions.

  The tables are lists of lines of eight numbers. Characters
  are of type `char`, taken to be signed.

  Key definitions include:
    * `RagelTables`
    * `RagelTables.transition`
    * `RagelMachine`
    * `RagelMachine.exec`

  Key theorems include:
    * `RagelTables.transition_mem`
    * `RagelTables.transition_of_places`
    * `RagelMachine.exec_append`
    * `RagelMachine.exec_snoc_out`
    * `RagelMachine.Keeps.exec`
    * `RagelMachine.Sustains.exec`
    * `RagelMachine.ActionsSustain.sustains`
    * `RagelMachine.Shifts.exec`
    * `RagelMachine.Plain.exec_cons`
    * `RagelMachine.Waits.ends_behind`
    * `RagelMachine.FailsBehind.exec`
    * `RagelMachine.KeepsAlong.exec`
-/

------------------------------------------------------------
-- Tables
------------------------------------------------------------

namespace Feng

/- A table, in lines of eight. -/
abbrev RagelTable :=
  List (List Nat)

namespace RagelTable

def get (table : RagelTable) (i : Nat) : Nat :=
  (table.getD (i / 8) []).getD (i % 8) 0

/- There are zeros behind a table. -/
theorem get_of_le
    {table : RagelTable}
    {i : Nat}
    (hBeyond : 8 * table.length ≤ i) :
    table.get i = 0 := by
  have hLine : table.getD (i / 8) [] = [] := by
    rw [List.getD_eq_getElem?_getD,
      List.getElem?_eq_none (by omega)]
    rfl
  rw [get, hLine]
  rfl

end RagelTable

/- The tables of a machine; absent ones are empty. -/
structure RagelTables where
  actions : RagelTable
  keyOffsets : RagelTable
  transKeys : RagelTable
  singleLengths : RagelTable
  rangeLengths : RagelTable
  indexOffsets : RagelTable
  indicies : RagelTable
  transTargs : RagelTable
  transActions : RagelTable
  toStateActions : RagelTable
  fromStateActions : RagelTable

/- Of the characters, only those of the list are tried. -/
instance (priority := high) decidableCharsBAll
    (chars : List UInt8)
    (P : UInt8 → Prop)
    [DecidablePred P] :
    Decidable (∀ c ∈ chars, P c) :=
  List.decidableBAll P chars

/- The value of a `char`. -/
def charValue (c : UInt8) : Int :=
  if c.toNat < 128 then c.toNat else c.toNat - 256

namespace RagelTables

/- The actions listed at an offset, their number first. -/
def actionsAt
    (tables : RagelTables)
    (offset : Nat) : List Nat :=
  (List.range (tables.actions.get offset)).map
    (fun i => tables.actions.get (offset + 1 + i))

def toState (tables : RagelTables) (cs : Nat) : List Nat :=
  tables.actionsAt (tables.toStateActions.get cs)

def fromState (tables : RagelTables) (cs : Nat) : List Nat :=
  tables.actionsAt (tables.fromStateActions.get cs)

/-
  Search the keys from `keys` on, from number `lower` up to
  but not including number `upper`, for a character.
-/
def searchSingle
    (tables : RagelTables)
    (keys : Nat)
    (c : Int) :
    Nat → Nat → Nat → Option Nat
| 0, _, _ => none
| fuel + 1, lower, upper =>
    if upper ≤ lower then
      none
    else
      let mid := lower + (upper - 1 - lower) / 2
      let key : Int := tables.transKeys.get (keys + mid)
      if c < key then
        searchSingle tables keys c fuel lower mid
      else if c > key then
        searchSingle tables keys c fuel (mid + 1) upper
      else
        some mid

/- Likewise among pairs of a lowest and a highest character. -/
def searchRange
    (tables : RagelTables)
    (keys : Nat)
    (c : Int) :
    Nat → Nat → Nat → Option Nat
| 0, _, _ => none
| fuel + 1, lower, upper =>
    if upper ≤ lower then
      none
    else
      let mid := lower + (upper - 1 - lower) / 2
      let low : Int :=
        tables.transKeys.get (keys + 2 * mid)
      let high : Int :=
        tables.transKeys.get (keys + 2 * mid + 1)
      if c < low then
        searchRange tables keys c fuel lower mid
      else if c > high then
        searchRange tables keys c fuel (mid + 1) upper
      else
        some mid

/- The place of the transition from a state, before `indicies`. -/
def transIndex
    (tables : RagelTables)
    (cs : Nat)
    (c : Int) : Nat :=
  let keys := tables.keyOffsets.get cs
  let trans := tables.indexOffsets.get cs
  let singles := tables.singleLengths.get cs
  let ranges := tables.rangeLengths.get cs
  match searchSingle tables keys c singles 0 singles with
  | some i => trans + i
  | none =>
      match searchRange tables (keys + singles) c ranges 0
        ranges with
      | some i => trans + singles + i
      | none => trans + singles + ranges

/- The target and the actions found at a place. -/
def transAt
    (tables : RagelTables)
    (index : Nat) : Nat × List Nat :=
  let trans := tables.indicies.get index
  (tables.transTargs.get trans,
    tables.actionsAt (tables.transActions.get trans))

/-
  The target and the actions on reading a character. The
  offset 0 stands for no actions, and lists none.
-/
def transition
    (tables : RagelTables)
    (cs : Nat)
    (c : UInt8) : Nat × List Nat :=
  tables.transAt (tables.transIndex cs (charValue c))

end RagelTables

end Feng

------------------------------------------------------------
-- What A Search Finds
------------------------------------------------------------

namespace Feng

/-
  The characters of an entry of a state, and where it leads. A
  range does not hold for the characters searched before.
-/
structure RagelEntry where
  low : Nat
  high : Nat
  except : List Nat
  target : Nat
  actions : List Nat
deriving DecidableEq

namespace RagelEntry

def Matches (entry : RagelEntry) (c : UInt8) : Prop :=
  entry.low ≤ c.toNat ∧ c.toNat ≤ entry.high ∧
    c.toNat ∉ entry.except

end RagelEntry

namespace RagelTables

def entryAt
    (tables : RagelTables)
    (low high : Nat)
    (except : List Nat)
    (index : Nat) : RagelEntry where
  low := low
  high := high
  except := except
  target := (tables.transAt index).1
  actions := (tables.transAt index).2

/- The single characters a state has entries for. -/
def singleKeys (tables : RagelTables) (cs : Nat) : List Nat :=
  (List.range (tables.singleLengths.get cs)).map
    (fun i =>
      tables.transKeys.get (tables.keyOffsets.get cs + i))

/- The entries of a state, those of single characters first. -/
def row (tables : RagelTables) (cs : Nat) : List RagelEntry :=
  let keys := tables.keyOffsets.get cs
  let trans := tables.indexOffsets.get cs
  let singles := tables.singleLengths.get cs
  let ranges := tables.rangeLengths.get cs
  (List.range singles).map
      (fun i =>
        let key := tables.transKeys.get (keys + i)
        tables.entryAt key key [] (trans + i)) ++
    (List.range ranges).map
      (fun i =>
        tables.entryAt
          (tables.transKeys.get (keys + singles + 2 * i))
          (tables.transKeys.get (keys + singles + 2 * i + 1))
          (tables.singleKeys cs)
          (trans + singles + i))

/- The search among single characters finds what is there. -/
def SinglesSorted (tables : RagelTables) (cs : Nat) : Prop :=
  (tables.singleKeys cs).Pairwise (· < ·)

instance decidableSinglesSorted
    (tables : RagelTables)
    (cs : Nat) :
    Decidable (tables.SinglesSorted cs) :=
  inferInstanceAs
    (Decidable ((tables.singleKeys cs).Pairwise (· < ·)))

/- Where a state leads on all other characters. -/
def rowDefault
    (tables : RagelTables)
    (cs : Nat) : Nat × List Nat :=
  tables.transAt
    (tables.indexOffsets.get cs +
      tables.singleLengths.get cs +
      tables.rangeLengths.get cs)

variable {tables : RagelTables}
variable {keys fuel lower upper i : Nat} {c : Int}

theorem searchSingle_sound
    (hFound :
      searchSingle tables keys c fuel lower upper = some i) :
    i < upper ∧ c = tables.transKeys.get (keys + i) := by
  induction fuel generalizing lower upper with
  | zero =>
      cases hFound
  | succ fuel ih =>
      simp only [searchSingle] at hFound
      split at hFound
      · cases hFound
      · rename_i hOpen
        split at hFound
        · have hBelow := ih hFound
          exact ⟨by omega, hBelow.2⟩
        · split at hFound
          · exact ih hFound
          · cases hFound
            exact ⟨by omega, by omega⟩

theorem searchRange_sound
    (hFound :
      searchRange tables keys c fuel lower upper = some i) :
    i < upper ∧
      tables.transKeys.get (keys + 2 * i) ≤ c ∧
      c ≤ tables.transKeys.get (keys + 2 * i + 1) := by
  induction fuel generalizing lower upper with
  | zero =>
      cases hFound
  | succ fuel ih =>
      simp only [searchRange] at hFound
      split at hFound
      · cases hFound
      · rename_i hOpen
        split at hFound
        · have hBelow := ih hFound
          exact ⟨by omega, hBelow.2⟩
        · split at hFound
          · exact ih hFound
          · cases hFound
            exact ⟨by omega, by omega, by omega⟩

/- A search among ascending keys misses no key. -/
theorem searchSingle_complete
    (hSorted :
      ∀ j k, lower ≤ j → j < k → k < upper →
        tables.transKeys.get (keys + j) <
          tables.transKeys.get (keys + k))
    (hFuel : upper ≤ lower + fuel)
    (hNone :
      searchSingle tables keys c fuel lower upper = none) :
    ∀ j, lower ≤ j → j < upper →
      c ≠ tables.transKeys.get (keys + j) := by
  induction fuel generalizing lower upper with
  | zero =>
      intro j hLower hUpper
      omega
  | succ fuel ih =>
      simp only [searchSingle] at hNone
      split at hNone
      · intro j hLower hUpper
        omega
      · rename_i hOpen
        generalize hMid : lower + (upper - 1 - lower) / 2 = mid
          at hNone
        intro j hLower hUpper
        split at hNone
        · rename_i hLess
          by_cases hSide : j < mid
          · exact ih
              (fun j k hj hjk hk =>
                hSorted j k hj hjk (by omega))
              (by omega) hNone j hLower hSide
          · by_cases hEq : j = mid
            · subst hEq
              exact Int.ne_of_lt hLess
            · have hKeys :=
                hSorted mid j (by omega) (by omega) hUpper
              omega
        · split at hNone
          · rename_i hMore
            by_cases hSide : mid < j
            · exact ih
                (fun j k hj hjk hk =>
                  hSorted j k (by omega) hjk hk)
                (by omega) hNone j hSide hUpper
            · by_cases hEq : j = mid
              · subst hEq
                exact (Int.ne_of_lt hMore).symm
              · have hKeys :=
                  hSorted j mid hLower (by omega) (by omega)
                omega
          · cases hNone

/- Where no single character was found, none of them was read. -/
theorem not_mem_singleKeys
    {cs : Nat}
    {c : UInt8}
    (hSorted : tables.SinglesSorted cs)
    (hNone :
      searchSingle tables (tables.keyOffsets.get cs)
        (charValue c) (tables.singleLengths.get cs) 0
        (tables.singleLengths.get cs) = none)
    (hValue : charValue c = c.toNat) :
    c.toNat ∉ tables.singleKeys cs := by
  intro hMem
  rcases List.mem_map.mp hMem with ⟨i, hi, hKey⟩
  have hLess := List.mem_range.mp hi
  have hAll := List.pairwise_map.mp hSorted
  refine searchSingle_complete ?_ (by omega) hNone i
    (Nat.zero_le i) hLess (by rw [hValue, hKey])
  intro j k _ hjk hk
  have hPair := List.pairwise_iff_getElem.mp hAll j k
    (by simp; omega) (by simpa using hk) hjk
  simpa using hPair

/- Characters with a key at or below them are not negative. -/
theorem charValue_of_le
    {low : Nat}
    {c : UInt8}
    (hLow : (low : Int) ≤ charValue c) :
    charValue c = c.toNat := by
  have hRange := UInt8.toNat_lt c
  unfold charValue at hLow ⊢
  split
  · rfl
  · rename_i hHigh
    rw [if_neg hHigh] at hLow
    omega

/- A transition is that of a matching entry, or the default. -/
theorem transition_mem
    {cs : Nat}
    (hSorted : tables.SinglesSorted cs)
    (c : UInt8) :
    (∃ entry ∈ tables.row cs,
      entry.Matches c ∧
        tables.transition cs c =
          (entry.target, entry.actions)) ∨
      tables.transition cs c = tables.rowDefault cs := by
  unfold transition transIndex
  simp only
  split
  · rename_i i hFound
    rcases searchSingle_sound hFound with ⟨hLess, hKey⟩
    have hValue := charValue_of_le (Int.le_of_eq hKey.symm)
    refine .inl ⟨_, List.mem_append_left _
      (List.mem_map_of_mem (List.mem_range.mpr hLess)),
      ?_, rfl⟩
    refine ⟨?_, ?_, List.not_mem_nil⟩
    · simp only [entryAt]
      omega
    · simp only [entryAt]
      omega
  · rename_i hNone
    split
    · rename_i i hFound
      rcases searchRange_sound hFound with
        ⟨hLess, hLow, hHigh⟩
      have hValue := charValue_of_le hLow
      refine .inl ⟨_, List.mem_append_right _
        (List.mem_map_of_mem (List.mem_range.mpr hLess)),
        ?_, rfl⟩
      refine ⟨?_, ?_,
        not_mem_singleKeys hSorted hNone hValue⟩
      · simp only [entryAt]
        omega
      · simp only [entryAt]
        omega
    · exact .inr rfl

/- A transition is at one of the places of its state. -/
theorem transition_of_places
    {cs : Nat}
    {P : Nat × List Nat → Prop}
    (hAll : ∀ i,
      i < tables.singleLengths.get cs +
          tables.rangeLengths.get cs + 1 →
        P (tables.transAt (tables.indexOffsets.get cs + i)))
    (c : UInt8) :
    P (tables.transition cs c) := by
  unfold transition transIndex
  simp only
  split
  · rename_i i hFound
    have hLess := (searchSingle_sound hFound).1
    exact hAll i (by omega)
  · split
    · rename_i i hFound
      have hLess := (searchRange_sound hFound).1
      rw [Nat.add_assoc]
      exact hAll _ (by omega)
    · rw [Nat.add_assoc]
      exact hAll _ (by omega)

end RagelTables

end Feng

------------------------------------------------------------
-- Running A Machine
------------------------------------------------------------

namespace Feng

/- Where control goes from an action. -/
inductive RagelFlow (σ : Type) where
/- On to the next action. -/
| next (s : σ)
/- Out of the loop, with `p` moved on by one. -/
| leave (s : σ)
/- Into the error state, with `p` where it is said to be. -/
| fail (p : Nat)
deriving DecidableEq

/-
  A machine: what its actions do to the variables, given the
  characters before `p`.
-/
structure RagelMachine (σ : Type) where
  tables : RagelTables
  action : Nat → List UInt8 → σ → RagelFlow σ

/- How the loop of a machine ends. -/
inductive RagelResult (σ : Type) where
/- There is no further character to read. -/
| eof (cs p : Nat) (s : σ)
/- At `_out`. -/
| out (cs p : Nat) (s : σ)
deriving DecidableEq

/- What one round of the loop leads to. -/
inductive RagelStep (σ : Type) where
| stop (cs p : Nat) (s : σ)
| goto (cs : Nat) (s : σ)
deriving DecidableEq

namespace RagelMachine

variable {σ : Type}

/- Run actions, until one leaves the loop. -/
def run
    (machine : RagelMachine σ)
    (before : List UInt8) :
    List Nat → σ → RagelFlow σ
| [], s => .next s
| a :: as, s =>
    match machine.action a before s with
    | .next s => run machine before as s
    | .leave s => .leave s
    | .fail p => .fail p

/-
  One round of the loop, from the search on.
-/
def step
    (machine : RagelMachine σ)
    (cs : Nat)
    (before : List UInt8)
    (s : σ)
    (c : UInt8) : RagelStep σ :=
  let (target, actions) := machine.tables.transition cs c
  match machine.run before actions s with
  | .leave s => .stop target (before.length + 1) s
  | .fail p => .stop 0 p s
  | .next s =>
      match machine.run before (machine.tables.toState target)
        s with
      | .leave s => .stop target (before.length + 1) s
      | .fail p => .stop 0 p s
      | .next s =>
          if target = 0 then
            .stop 0 before.length s
          else
            .goto target s

/-
  The loop, from a state other than the error state. What is
  done on entering the last state is not done at the end of
  the characters, but where the machine is resumed.
-/
def exec
    (machine : RagelMachine σ) :
    Nat → List UInt8 → σ → List UInt8 → RagelResult σ
| cs, before, s, rest =>
    match machine.run before (machine.tables.fromState cs)
      s with
    | .leave s => .out cs (before.length + 1) s
    | .fail p => .out 0 p s
    | .next entered =>
        match rest with
        | [] => .eof cs before.length s
        | c :: rest =>
            match machine.step cs before entered c with
            | .stop cs p s => .out cs p s
            | .goto target s =>
                exec machine target (before ++ [c]) s rest

theorem exec_nil
    (machine : RagelMachine σ)
    {cs : Nat}
    {before : List UInt8}
    {s entered : σ}
    (hEnter :
      machine.run before (machine.tables.fromState cs) s =
        .next entered) :
    machine.exec cs before s [] =
      .eof cs before.length s := by
  rw [exec, hEnter]

theorem exec_cons
    (machine : RagelMachine σ)
    {cs : Nat}
    {before : List UInt8}
    {s entered : σ}
    {c : UInt8}
    {rest : List UInt8}
    (hEnter :
      machine.run before (machine.tables.fromState cs) s =
        .next entered) :
    machine.exec cs before s (c :: rest) =
      match machine.step cs before entered c with
      | .stop cs p s => .out cs p s
      | .goto target s =>
          machine.exec target (before ++ [c]) s rest := by
  rw [exec, hEnter]

/- A machine that was not stopped goes on where it was. -/
theorem exec_append
    (machine : RagelMachine σ)
    {cs : Nat}
    {before : List UInt8}
    {s : σ}
    {first : List UInt8}
    (rest : List UInt8) :
    machine.exec cs before s (first ++ rest) =
      match machine.exec cs before s first with
      | .eof cs _ s =>
          machine.exec cs (before ++ first) s rest
      | .out cs p s => .out cs p s := by
  induction first generalizing cs before s with
  | nil =>
      cases hEnter :
        machine.run before (machine.tables.fromState cs) s with
      | next entered =>
          rw [exec_nil machine hEnter]
          simp
      | leave s =>
          simp [exec, hEnter]
      | fail p =>
          simp [exec, hEnter]
  | cons c first ih =>
      cases hEnter :
        machine.run before (machine.tables.fromState cs) s with
      | next entered =>
          rw [List.cons_append, exec_cons machine hEnter,
            exec_cons machine hEnter]
          cases machine.step cs before entered c with
          | stop cs p s =>
              rfl
          | goto target s =>
              simp only
              rw [ih, List.append_assoc]
              rfl
      | leave s =>
          simp [exec, hEnter]
      | fail p =>
          simp [exec, hEnter]

end RagelMachine

end Feng

------------------------------------------------------------
-- Where A Machine Stops
------------------------------------------------------------

namespace Feng

namespace RagelMachine

variable {σ : Type} {machine : RagelMachine σ}
variable {cs cs' p p' : Nat} {before text : List UInt8}
variable {s s' : σ} {c : UInt8}

/- A machine that is not stopped reads all there is. -/
theorem exec_eof
    (hEof : machine.exec cs before s text = .eof cs' p s') :
    p = before.length + text.length := by
  induction text generalizing cs before s with
  | nil =>
      rw [exec] at hEof
      split at hEof
      · cases hEof
      · cases hEof
      · cases hEof
        rfl
  | cons c text ih =>
      rw [exec] at hEof
      split at hEof
      · cases hEof
      · cases hEof
      · simp only at hEof
        split at hEof
        · cases hEof
        · have hLength := ih hEof
          simp only [List.length_append, List.length_cons,
            List.length_nil] at hLength ⊢
          omega

/- States with the same transitions take the same rounds. -/
theorem step_congr
    (hSame :
      machine.tables.transition cs c =
        machine.tables.transition cs' c) :
    machine.step cs before s c =
      machine.step cs' before s c := by
  unfold step
  rw [hSame]

/- A round whose actions run through, with none on entering. -/
theorem step_of_run
    {t : σ}
    (hRun :
      machine.run before (machine.tables.transition cs c).2 s =
        .next t)
    (hTo :
      machine.tables.toState
        (machine.tables.transition cs c).1 = []) :
    machine.step cs before s c =
      if (machine.tables.transition cs c).1 = 0 then
        .stop 0 before.length t
      else
        .goto (machine.tables.transition cs c).1 t := by
  simp only [step, hRun, hTo, run]

/- A machine stops on a character, or in the error state. -/
theorem step_stop
    (hStop : machine.step cs before s c = .stop cs' p s') :
    cs' = 0 ∨ p = before.length + 1 := by
  unfold step at hStop
  simp only at hStop
  split at hStop
  · cases hStop
    exact .inr rfl
  · cases hStop
    exact .inl rfl
  · split at hStop
    · cases hStop
      exact .inr rfl
    · cases hStop
      exact .inl rfl
    · split at hStop
      · cases hStop
        exact .inl rfl
      · cases hStop

/- A round that goes on goes where the tables say. -/
theorem step_goto
    {target : Nat}
    (hGoto : machine.step cs before s c = .goto target s') :
    target = (machine.tables.transition cs c).1 ∧
      target ≠ 0 := by
  unfold step at hGoto
  simp only at hGoto
  split at hGoto
  · cases hGoto
  · cases hGoto
  · split at hGoto
    · cases hGoto
    · cases hGoto
    · split at hGoto
      · cases hGoto
      · rename_i hTarget
        cases hGoto
        exact ⟨rfl, hTarget⟩

/- The last character read is the one that stopped it. -/
theorem exec_snoc_out
    (hFirst : machine.exec cs before s text = .eof cs' p s')
    {out : Nat}
    {t : σ}
    (hOut :
      machine.exec cs before s (text ++ [c]) =
        .out out p' t) :
    ∃ entered,
      machine.run (before ++ text)
          (machine.tables.fromState cs') s' = .next entered ∧
      (machine.step cs' (before ++ text) entered c =
          .stop out p' t ∨
        ∃ target u,
          machine.step cs' (before ++ text) entered c =
              .goto target u ∧
            machine.exec target (before ++ text ++ [c]) u [] =
              .out out p' t) := by
  have hNil :
      machine.exec cs before s (text ++ []) =
        .eof cs' p s' := by
    rw [List.append_nil]
    exact hFirst
  rw [exec_append, hFirst] at hOut hNil
  simp only at hOut hNil
  cases hEnter :
    machine.run (before ++ text)
      (machine.tables.fromState cs') s' with
  | next entered =>
      refine ⟨entered, rfl, ?_⟩
      rw [exec_cons machine hEnter] at hOut
      cases hStep :
        machine.step cs' (before ++ text) entered c with
      | stop cs p s =>
          rw [hStep] at hOut
          cases hOut
          exact .inl rfl
      | goto target u =>
          rw [hStep] at hOut
          exact .inr ⟨target, u, rfl, hOut⟩
  | leave left =>
      -- It would not have come to the end of the first part.
      simp [exec, hEnter] at hNil
  | fail q =>
      simp [exec, hEnter] at hNil

/- The last character read was one to go on with. -/
theorem exec_snoc_eof
    (hEof :
      machine.exec cs before s (text ++ [c]) =
        .eof cs' p s') :
    ∃ last q u entered,
      machine.exec cs before s text = .eof last q u ∧
      machine.run (before ++ text)
          (machine.tables.fromState last) u = .next entered ∧
      machine.step last (before ++ text) entered c =
        .goto cs' s' := by
  rw [exec_append] at hEof
  cases hFirst : machine.exec cs before s text with
  | out last q u =>
      rw [hFirst] at hEof
      cases hEof
  | eof last q u =>
      simp only [hFirst] at hEof
      refine ⟨last, q, u, ?_⟩
      cases hEnter :
        machine.run (before ++ text)
          (machine.tables.fromState last) u with
      | leave left => simp [exec, hEnter] at hEof
      | fail r => simp [exec, hEnter] at hEof
      | next entered =>
          refine ⟨entered, rfl, rfl, ?_⟩
          rw [exec_cons machine hEnter] at hEof
          cases hStep :
            machine.step last (before ++ text) entered c with
          | stop target r v =>
              rw [hStep] at hEof
              cases hEof
          | goto target v =>
              simp only [hStep] at hEof
              unfold exec at hEof
              split at hEof
              · cases hEof
              · cases hEof
              · cases hEof
                rfl

/- A scan that is over is over with one of its characters. -/
theorem exec_first_out
    {t : σ}
    (hOpen : machine.exec cs before s [] = .eof cs p' s)
    (hOut : machine.exec cs before s text = .out cs' p t) :
    ∃ first c rest last q u,
      text = first ++ c :: rest ∧
      machine.exec cs before s first = .eof last q u ∧
      machine.exec cs before s (first ++ [c]) =
        .out cs' p t := by
  induction text using List.reverseRecOn with
  | nil =>
      rw [hOpen] at hOut
      cases hOut
  | append_singleton text c ih =>
      cases hFirst : machine.exec cs before s text with
      | eof last q u =>
          exact ⟨text, c, [], last, q, u, rfl, hFirst, hOut⟩
      | out last q u =>
          rw [exec_append, hFirst] at hOut
          simp only at hOut
          rw [hOut] at hFirst
          rcases ih hFirst with
            ⟨first, d, rest, last, q, u, rfl, hEof, hOver⟩
          refine ⟨first, d, rest ++ [c], last, q, u, ?_, hEof,
            hOver⟩
          rw [List.append_assoc, List.cons_append]

end RagelMachine

end Feng

------------------------------------------------------------
-- What The Actions Keep
------------------------------------------------------------

namespace Feng

variable {σ : Type}

/- The variables after actions, those before them if failed. -/
def RagelFlow.state (s : σ) : RagelFlow σ → σ
| .next t => t
| .leave t => t
| .fail _ => s

def RagelStep.state : RagelStep σ → σ
| .stop _ _ s => s
| .goto _ s => s

def RagelResult.state : RagelResult σ → σ
| .eof _ _ s => s
| .out _ _ s => s

namespace RagelMachine

variable {machine : RagelMachine σ} {P : σ → Prop}
variable {n : Nat} {before : List UInt8} {s : σ}

/- The actions keep a property, up to a place in the text. -/
def Keeps
    (machine : RagelMachine σ)
    (P : σ → Prop)
    (n : Nat) : Prop :=
  ∀ a before s, before.length ≤ n → P s →
    P ((machine.action a before s).state s)

theorem Keeps.run
    (h : machine.Keeps P n)
    (hBefore : before.length ≤ n)
    (hStart : P s)
    (actions : List Nat) :
    P ((machine.run before actions s).state s) := by
  induction actions generalizing s with
  | nil => exact hStart
  | cons a actions ih =>
      have hOne := h a before s hBefore hStart
      unfold RagelMachine.run
      cases hAction : machine.action a before s with
      | next t =>
          rw [hAction] at hOne
          have hRest := ih (s := t) hOne
          simp only
          cases hRun : machine.run before actions t with
          | fail p => exact hStart
          | next u =>
              rw [hRun] at hRest
              exact hRest
          | leave u =>
              rw [hRun] at hRest
              exact hRest
      | leave t =>
          rw [hAction] at hOne
          exact hOne
      | fail p => exact hStart

theorem Keeps.step
    (h : machine.Keeps P n)
    (hBefore : before.length ≤ n)
    (hStart : P s)
    (cs : Nat)
    (c : UInt8) :
    P (machine.step cs before s c).state := by
  unfold RagelMachine.step
  generalize machine.tables.transition cs c = entry
  rcases entry with ⟨target, actions⟩
  have hFirst := h.run hBefore hStart actions
  simp only
  cases hRun : machine.run before actions s with
  | fail p => exact hStart
  | leave t =>
      rw [hRun] at hFirst
      exact hFirst
  | next t =>
      rw [hRun] at hFirst
      have hSecond :=
        h.run (s := t) hBefore hFirst
          (machine.tables.toState target)
      simp only
      cases hTo :
        machine.run before (machine.tables.toState target)
          t with
      | fail p => exact hFirst
      | leave u =>
          rw [hTo] at hSecond
          exact hSecond
      | next u =>
          rw [hTo] at hSecond
          simp only
          split
          · exact hSecond
          · exact hSecond

/- What the actions keep holds where a machine ends. -/
theorem Keeps.exec
    (h : machine.Keeps P n)
    {text : List UInt8}
    (hText : before.length + text.length ≤ n)
    (hStart : P s)
    (cs : Nat) :
    P (machine.exec cs before s text).state := by
  induction text generalizing cs before s with
  | nil =>
      have hEnter := h.run (by simpa using hText) hStart
        (machine.tables.fromState cs)
      rw [RagelMachine.exec]
      cases hRun :
        machine.run before (machine.tables.fromState cs)
          s with
      | leave t =>
          rw [hRun] at hEnter
          exact hEnter
      | fail p => exact hStart
      | next t => exact hStart
  | cons c text ih =>
      simp only [List.length_cons] at hText
      have hBefore : before.length ≤ n := by omega
      have hEnter := h.run hBefore hStart
        (machine.tables.fromState cs)
      rw [RagelMachine.exec]
      cases hRun :
        machine.run before (machine.tables.fromState cs)
          s with
      | leave t =>
          rw [hRun] at hEnter
          exact hEnter
      | fail p => exact hStart
      | next entered =>
          rw [hRun] at hEnter
          have hOne := h.step hBefore hEnter cs c
          simp only
          cases hStep : machine.step cs before entered c with
          | stop cs' p t =>
              rw [RagelFlow.state, hStep] at hOne
              exact hOne
          | goto target t =>
              rw [RagelFlow.state, hStep] at hOne
              apply ih
              · simp only [List.length_append,
                  List.length_cons, List.length_nil]
                omega
              · exact hOne

end RagelMachine

end Feng

------------------------------------------------------------
-- What Holds Around The Rounds
------------------------------------------------------------

namespace Feng

namespace RagelMachine

variable {σ : Type}

/-
  What holds of the state, of the characters before `p` and of
  the variables: at the start of a round, behind the actions
  on entering it, and where the machine stops in it.
-/
structure Sustains
    (machine : RagelMachine σ)
    (Start Entered Stopped : Nat → List UInt8 → σ → Prop) :
    Prop where
  enter : ∀ cs before s, Start cs before s →
    match machine.run before (machine.tables.fromState cs)
      s with
    | .next t => Entered cs before t
    | .leave t => Stopped cs before t
    | .fail _ => Stopped 0 before s
  step : ∀ cs before s c, Entered cs before s →
    match machine.step cs before s c with
    | .goto target t => Start target (before ++ [c]) t
    | .stop target _ t => Stopped target before t

variable {machine : RagelMachine σ}
variable {Start Entered Stopped : Nat → List UInt8 → σ → Prop}
variable {cs cs' p : Nat} {before text : List UInt8}
variable {s t : σ}

/- It stops behind some of the characters. -/
theorem Sustains.exec
    (h : machine.Sustains Start Entered Stopped)
    (hStart : Start cs before s)
    (hOut : machine.exec cs before s text = .out cs' p t) :
    ∃ first, first <+: text ∧
      Stopped cs' (before ++ first) t := by
  induction text generalizing cs before s with
  | nil =>
      have hEnter := h.enter cs before s hStart
      unfold RagelMachine.exec at hOut
      refine ⟨[], List.nil_prefix, ?_⟩
      rw [List.append_nil]
      cases hRun :
        machine.run before (machine.tables.fromState cs)
          s with
      | next entered =>
          rw [hRun] at hOut
          cases hOut
      | leave left =>
          rw [hRun] at hOut hEnter
          cases hOut
          exact hEnter
      | fail q =>
          rw [hRun] at hOut hEnter
          cases hOut
          exact hEnter
  | cons c text ih =>
      have hEnter := h.enter cs before s hStart
      unfold RagelMachine.exec at hOut
      cases hRun :
        machine.run before (machine.tables.fromState cs)
          s with
      | next entered =>
          rw [hRun] at hOut hEnter
          have hStep := h.step cs before entered c hEnter
          cases hOne : machine.step cs before entered c with
          | stop target q left =>
              simp only [hOne] at hOut hStep
              cases hOut
              refine ⟨[], List.nil_prefix, ?_⟩
              rw [List.append_nil]
              exact hStep
          | goto target next =>
              simp only [hOne] at hOut hStep
              rcases ih hStep hOut with
                ⟨first, hPrefix, hStopped⟩
              refine ⟨c :: first,
                List.cons_prefix_cons.mpr ⟨rfl, hPrefix⟩, ?_⟩
              rw [List.append_assoc] at hStopped
              exact hStopped
      | leave left =>
          rw [hRun] at hOut hEnter
          cases hOut
          refine ⟨[], List.nil_prefix, ?_⟩
          rw [List.append_nil]
          exact hEnter
      | fail q =>
          rw [hRun] at hOut hEnter
          cases hOut
          refine ⟨[], List.nil_prefix, ?_⟩
          rw [List.append_nil]
          exact hEnter

/-
  What all actions keep, and characters that are read: of the
  variables up to the end of the loop, and what an action that
  leaves it makes of that.
-/
structure ActionsSustain
    (machine : RagelMachine σ)
    (Held Left : List UInt8 → σ → Prop) : Prop where
  next : ∀ {a before s t}, Held before s →
    machine.action a before s = .next t → Held before t
  leave : ∀ {a before s t}, Held before s →
    machine.action a before s = .leave t → Left before t
  read : ∀ {before s} (c : UInt8), Held before s →
    Held (before ++ [c]) s
  stop : ∀ {before s}, Held before s → Left before s

variable {Held Left : List UInt8 → σ → Prop}

theorem ActionsSustain.run_next
    (h : machine.ActionsSustain Held Left)
    {actions : List Nat}
    (hHeld : Held before s)
    (hRun : machine.run before actions s = .next t) :
    Held before t := by
  induction actions generalizing s with
  | nil =>
      cases hRun
      exact hHeld
  | cons a actions ih =>
      unfold RagelMachine.run at hRun
      cases hAction : machine.action a before s with
      | next u =>
          rw [hAction] at hRun
          exact ih (h.next hHeld hAction) hRun
      | leave u =>
          rw [hAction] at hRun
          cases hRun
      | fail q =>
          rw [hAction] at hRun
          cases hRun

theorem ActionsSustain.run_leave
    (h : machine.ActionsSustain Held Left)
    {actions : List Nat}
    (hHeld : Held before s)
    (hRun : machine.run before actions s = .leave t) :
    Left before t := by
  induction actions generalizing s with
  | nil => cases hRun
  | cons a actions ih =>
      unfold RagelMachine.run at hRun
      cases hAction : machine.action a before s with
      | next u =>
          rw [hAction] at hRun
          exact ih (h.next hHeld hAction) hRun
      | leave u =>
          rw [hAction] at hRun
          cases hRun
          exact h.leave hHeld hAction
      | fail q =>
          rw [hAction] at hRun
          cases hRun

theorem ActionsSustain.sustains
    (h : machine.ActionsSustain Held Left) :
    machine.Sustains (fun _ => Held) (fun _ => Held)
      (fun _ => Left) where
  enter := by
    intro cs before s hHeld
    cases hRun :
      machine.run before (machine.tables.fromState cs) s with
    | next t => exact h.run_next hHeld hRun
    | leave t => exact h.run_leave hHeld hRun
    | fail q => exact h.stop hHeld
  step := by
    intro cs before s c hHeld
    unfold RagelMachine.step
    rcases machine.tables.transition cs c with
      ⟨target, actions⟩
    simp only
    cases hRun : machine.run before actions s with
    | leave t => exact h.run_leave hHeld hRun
    | fail q => exact h.stop hHeld
    | next t =>
        have hNext := h.run_next hHeld hRun
        simp only
        cases hTo :
          machine.run before (machine.tables.toState target)
            t with
        | leave u => exact h.run_leave hNext hTo
        | fail q => exact h.stop hNext
        | next u =>
            have hLast := h.run_next hNext hTo
            by_cases hTarget : target = 0
            · simp only [if_pos hTarget]
              exact h.stop hLast
            · simp only [if_neg hTarget]
              exact h.read c hLast

end RagelMachine

end Feng

------------------------------------------------------------
-- A Machine Behind Other Characters
------------------------------------------------------------

namespace Feng

variable {σ : Type}

/- The same flow, so many characters further on. -/
inductive RagelFlow.Shifted
    (n : Nat)
    (R : σ → σ → Prop) :
    RagelFlow σ → RagelFlow σ → Prop where
| next {s t : σ} : R s t → Shifted n R (.next s) (.next t)
| leave {s t : σ} : R s t → Shifted n R (.leave s) (.leave t)
| fail {p : Nat} : Shifted n R (.fail (n + p)) (.fail p)

inductive RagelStep.Shifted
    (n : Nat)
    (R : σ → σ → Prop) :
    RagelStep σ → RagelStep σ → Prop where
| stop {cs p : Nat} {s t : σ} :
    R s t → Shifted n R (.stop cs (n + p) s) (.stop cs p t)
| goto {cs : Nat} {s t : σ} :
    R s t → Shifted n R (.goto cs s) (.goto cs t)

inductive RagelResult.Shifted
    (n : Nat)
    (R : σ → σ → Prop) :
    RagelResult σ → RagelResult σ → Prop where
| eof {cs p : Nat} {s t : σ} :
    R s t → Shifted n R (.eof cs (n + p) s) (.eof cs p t)
| out {cs p : Nat} {s t : σ} :
    R s t → Shifted n R (.out cs (n + p) s) (.out cs p t)

namespace RagelMachine

variable {machine : RagelMachine σ} {R : σ → σ → Prop}
variable {added : List UInt8}

/- The actions do not depend on characters before the text. -/
def Shifts
    (machine : RagelMachine σ)
    (added : List UInt8)
    (R : σ → σ → Prop) : Prop :=
  ∀ a before s t, R s t →
    RagelFlow.Shifted added.length R
      (machine.action a (added ++ before) s)
      (machine.action a before t)

theorem Shifts.run
    (h : machine.Shifts added R)
    (before : List UInt8)
    {s t : σ}
    (hRel : R s t)
    (actions : List Nat) :
    RagelFlow.Shifted added.length R
      (machine.run (added ++ before) actions s)
      (machine.run before actions t) := by
  induction actions generalizing s t with
  | nil => exact .next hRel
  | cons a actions ih =>
      have hAction := h a before s t hRel
      unfold RagelMachine.run
      generalize machine.action a (added ++ before) s = left
        at hAction ⊢
      generalize machine.action a before t = right
        at hAction ⊢
      cases hAction with
      | next hNext => exact ih hNext
      | leave hLeave => exact .leave hLeave
      | fail => exact .fail

theorem Shifts.step
    (h : machine.Shifts added R)
    (cs : Nat)
    (before : List UInt8)
    {s t : σ}
    (hRel : R s t)
    (c : UInt8) :
    RagelStep.Shifted added.length R
      (machine.step cs (added ++ before) s c)
      (machine.step cs before t c) := by
  have hLength :
      (added ++ before).length + 1 =
        added.length + (before.length + 1) := by
    rw [List.length_append, Nat.add_assoc]
  unfold RagelMachine.step
  generalize machine.tables.transition cs c = entry
  rcases entry with ⟨target, actions⟩
  simp only
  have hRun := h.run before hRel actions
  generalize machine.run (added ++ before) actions s = left
    at hRun ⊢
  generalize machine.run before actions t = right at hRun ⊢
  cases hRun with
  | leave hLeave =>
      rw [hLength]
      exact .stop hLeave
  | fail => exact .stop hRel
  | @next u v hNext =>
      have hTo :=
        h.run before hNext (machine.tables.toState target)
      simp only
      generalize machine.run (added ++ before)
        (machine.tables.toState target) u = left at hTo ⊢
      generalize machine.run before
        (machine.tables.toState target) v = right at hTo ⊢
      cases hTo with
      | leave hLeave =>
          rw [hLength]
          exact .stop hLeave
      | fail => exact .stop hNext
      | next hLast =>
          simp only
          split
          · rw [List.length_append]
            exact .stop hLast
          · exact .goto hLast

/- Behind other characters, a machine does the same. -/
theorem Shifts.exec
    (h : machine.Shifts added R)
    (cs : Nat)
    (before : List UInt8)
    {s t : σ}
    (hRel : R s t)
    (text : List UInt8) :
    RagelResult.Shifted added.length R
      (machine.exec cs (added ++ before) s text)
      (machine.exec cs before t text) := by
  induction text generalizing cs before s t with
  | nil =>
      have hEnter :=
        h.run before hRel (machine.tables.fromState cs)
      rw [RagelMachine.exec, RagelMachine.exec]
      generalize machine.run (added ++ before)
        (machine.tables.fromState cs) s = left at hEnter ⊢
      generalize machine.run before
        (machine.tables.fromState cs) t = right at hEnter ⊢
      cases hEnter with
      | leave hLeave =>
          rw [List.length_append, Nat.add_assoc]
          exact .out hLeave
      | fail => exact .out hRel
      | next hNext =>
          rw [List.length_append]
          exact .eof hRel
  | cons c text ih =>
      have hEnter :=
        h.run before hRel (machine.tables.fromState cs)
      rw [RagelMachine.exec, RagelMachine.exec]
      generalize machine.run (added ++ before)
        (machine.tables.fromState cs) s = left at hEnter ⊢
      generalize machine.run before
        (machine.tables.fromState cs) t = right at hEnter ⊢
      cases hEnter with
      | leave hLeave =>
          rw [List.length_append, Nat.add_assoc]
          exact .out hLeave
      | fail => exact .out hRel
      | @next u v hNext =>
          have hStep := h.step cs before hNext c
          simp only
          generalize machine.step cs (added ++ before) u c =
            left at hStep ⊢
          generalize machine.step cs before v c = right
            at hStep ⊢
          cases hStep with
          | stop hStop => exact .out hStop
          | goto hGoto =>
              rw [List.append_assoc]
              exact ih _ _ hGoto

end RagelMachine

end Feng

------------------------------------------------------------
-- Machines That Do Not Leave Their Loop
------------------------------------------------------------

namespace Feng

namespace RagelMachine

variable {σ : Type} {machine : RagelMachine σ}

/- No action leaves, and none is tied to a state. -/
structure Plain (machine : RagelMachine σ) : Prop where
  toState : machine.tables.toStateActions = []
  fromState : machine.tables.fromStateActions = []
  noActions : machine.tables.actions.get 0 = 0
  action : ∀ a before s,
    ∃ t, machine.action a before s = .next t

theorem run_cons
    {before : List UInt8}
    {a : Nat}
    {s t : σ}
    (hAction : machine.action a before s = .next t)
    (as : List Nat) :
    machine.run before (a :: as) s =
      machine.run before as t := by
  rw [run, hAction]

theorem Plain.run
    (h : machine.Plain)
    (before : List UInt8)
    (actions : List Nat)
    (s : σ) :
    ∃ t, machine.run before actions s = .next t := by
  induction actions generalizing s with
  | nil =>
      exact ⟨s, rfl⟩
  | cons a actions ih =>
      rcases h.action a before s with ⟨u, hAction⟩
      rw [run_cons hAction]
      exact ih u

theorem actionsAt_zero
    {tables : RagelTables}
    (hNone : tables.actions.get 0 = 0) :
    tables.actionsAt 0 = [] := by
  simp [RagelTables.actionsAt, hNone]

theorem get_nil
    (i : Nat) :
    RagelTable.get [] i = 0 :=
  rfl

/- Nothing is done on coming to a state. -/
theorem enter_of_nil
    (hFrom : machine.tables.fromStateActions = [])
    (hNone : machine.tables.actions.get 0 = 0)
    (cs : Nat)
    (before : List UInt8)
    (s : σ) :
    machine.run before (machine.tables.fromState cs) s =
      .next s := by
  rw [RagelTables.fromState, hFrom, get_nil,
    actionsAt_zero hNone]
  rfl

theorem Plain.enter
    (h : machine.Plain)
    (cs : Nat)
    (before : List UInt8)
    (s : σ) :
    machine.run before (machine.tables.fromState cs) s =
      .next s :=
  enter_of_nil h.fromState h.noActions cs before s

theorem Plain.exec_nil
    (h : machine.Plain)
    (cs : Nat)
    (before : List UInt8)
    (s : σ) :
    machine.exec cs before s [] =
      .eof cs before.length s := by
  exact RagelMachine.exec_nil machine (h.enter cs before s)

theorem Plain.exec_cons
    (h : machine.Plain)
    (cs : Nat)
    (before : List UInt8)
    (s : σ)
    (c : UInt8)
    (rest : List UInt8) :
    ∃ t,
      machine.run before (machine.tables.transition cs c).2
          s = .next t ∧
        machine.exec cs before s (c :: rest) =
          if (machine.tables.transition cs c).1 = 0 then
            .out 0 before.length t
          else
            machine.exec (machine.tables.transition cs c).1
              (before ++ [c]) t rest := by
  rcases h.run before (machine.tables.transition cs c).2 s
    with ⟨t, hRun⟩
  refine ⟨t, hRun, ?_⟩
  rw [RagelMachine.exec_cons machine (h.enter cs before s)]
  simp only [step, hRun, RagelTables.toState, h.toState,
    get_nil, actionsAt_zero h.noActions, RagelMachine.run]
  by_cases hTarget :
    (machine.tables.transition cs c).1 = 0
  · simp only [if_pos hTarget]
  · simp only [if_neg hTarget]

end RagelMachine

end Feng

------------------------------------------------------------
-- What Holds Of All Transitions
------------------------------------------------------------

namespace Feng

/- A transition is as all that are listed, or leads nowhere. -/
theorem transition_of_forall
    {tables : RagelTables}
    {P : Nat × List Nat → Prop}
    {n : Nat}
    (hTargets : tables.transTargs.length * 8 ≤ n)
    (hActions : tables.transActions.length * 8 ≤ n)
    (hNone : tables.actions.get 0 = 0)
    (hAll : ∀ trans < n,
      P (tables.transTargs.get trans,
        tables.actionsAt (tables.transActions.get trans)))
    (hNowhere : P (0, []))
    (cs : Nat)
    (c : UInt8) :
    P (tables.transition cs c) := by
  unfold RagelTables.transition RagelTables.transAt
  simp only
  generalize tables.indicies.get
    (tables.transIndex cs (charValue c)) = trans
  by_cases hBound : trans < n
  · exact hAll trans hBound
  · rw [RagelTable.get_of_le (by omega),
      RagelTable.get_of_le (by omega),
      RagelMachine.actionsAt_zero hNone]
    exact hNowhere

/- A property of what is behind a state, of all states. -/
theorem transition_of_states
    {tables : RagelTables}
    {n : Nat}
    {P : Nat → Nat × List Nat → Prop}
    (hSingles : tables.singleLengths.length * 8 ≤ n)
    (hRanges : tables.rangeLengths.length * 8 ≤ n)
    (hOffsets : tables.indexOffsets.length * 8 ≤ n)
    (hAll : ∀ cs < n, ∀ i,
      i < tables.singleLengths.get cs +
          tables.rangeLengths.get cs + 1 →
        P cs (tables.transAt
          (tables.indexOffsets.get cs + i)))
    (hBeyond : ∀ cs, n ≤ cs → P cs (tables.transAt 0))
    (cs : Nat)
    (c : UInt8) :
    P cs (tables.transition cs c) := by
  apply RagelTables.transition_of_places
  intro i hPlace
  by_cases hBound : cs < n
  · exact hAll cs hBound i hPlace
  · have hLe := Nat.le_of_not_lt hBound
    rw [RagelTable.get_of_le (by omega),
      RagelTable.get_of_le (by omega)] at hPlace
    rw [RagelTable.get_of_le (by omega),
      show 0 + i = 0 by omega]
    exact hBeyond cs hLe

theorem fromState_of_forall
    {tables : RagelTables}
    {P : Nat → List Nat → Prop}
    {n : Nat}
    (hTable : tables.fromStateActions.length * 8 ≤ n)
    (hNone : tables.actions.get 0 = 0)
    (hAll : ∀ cs < n, P cs (tables.fromState cs))
    (hNowhere : ∀ cs, n ≤ cs → P cs [])
    (cs : Nat) :
    P cs (tables.fromState cs) := by
  by_cases hBound : cs < n
  · exact hAll cs hBound
  · unfold RagelTables.fromState
    rw [RagelTable.get_of_le (by omega),
      RagelMachine.actionsAt_zero hNone]
    exact hNowhere cs (Nat.le_of_not_lt hBound)

theorem uint8_forall
    {P : UInt8 → Prop}
    (hAll : ∀ n < 256, P (UInt8.ofNat n))
    (c : UInt8) :
    P c := by
  have hChar := hAll c.toNat (UInt8.toNat_lt c)
  rwa [UInt8.ofNat_toNat] at hChar

end Feng

------------------------------------------------------------
-- States That Wait
------------------------------------------------------------

namespace Feng

namespace RagelMachine

variable {σ : Type} {machine : RagelMachine σ}
variable {Live Final : Nat → Prop} {stopper : UInt8}
variable {cs cs' p : Nat} {before text : List UInt8}
variable {s t : σ}

/-
  In a live state there is always one character that ends the
  scan with an error, and another that does not.
-/
structure Waits
    (machine : RagelMachine σ)
    (Live Final : Nat → Prop)
    (stopper : UInt8) : Prop where
  enter : ∀ cs before s, Live cs → ∃ t,
    machine.run before (machine.tables.fromState cs) s =
      .next t
  stay : ∀ cs before s c target t, Live cs →
    machine.step cs before s c = .goto target t →
    Live target ∨ Final target
  stops : ∀ cs before s, Live cs →
    machine.step cs before s stopper = .stop 0 before.length s
  goesOn : ∀ cs before s, Live cs → ∃ c target t,
    machine.step cs before s c = .goto target t
  final : ∀ cs before s text, Final cs → ∃ p t,
    machine.exec cs before s text = .out cs p t

/- A scan that is not over is in a live state. -/
theorem Waits.live
    (h : machine.Waits Live Final stopper)
    (hStart : Live cs)
    (hEof : machine.exec cs before s text = .eof cs' p t) :
    Live cs' := by
  induction text generalizing cs before s with
  | nil =>
      rcases h.enter cs before s hStart with ⟨u, hEnter⟩
      rw [exec_nil machine hEnter] at hEof
      cases hEof
      exact hStart
  | cons c text ih =>
      rcases h.enter cs before s hStart with ⟨u, hEnter⟩
      rw [exec_cons machine hEnter] at hEof
      cases hStep : machine.step cs before u c with
      | stop target q v =>
          rw [hStep] at hEof
          cases hEof
      | goto target v =>
          simp only [hStep] at hEof
          rcases h.stay cs before u c target v hStart hStep with
            hLive | hFinal
          · exact ih hLive hEof
          · rcases h.final target (before ++ [c]) v text
              hFinal with ⟨q, w, hOut⟩
            rw [hOut] at hEof
            cases hEof

/- Where it stops if it meets the character right away. -/
theorem Waits.exec_stopper
    (h : machine.Waits Live Final stopper)
    (before : List UInt8)
    (s : σ)
    (hLive : Live cs)
    (text : List UInt8) :
    ∃ t, machine.exec cs before s (stopper :: text) =
      .out 0 before.length t := by
  rcases h.enter cs before s hLive with ⟨u, hEnter⟩
  rw [exec_cons machine hEnter, h.stops cs before u hLive]
  exact ⟨u, rfl⟩

/- A scan that is not over can be ended at once. -/
theorem Waits.ends_at
    (h : machine.Waits Live Final stopper)
    (hStart : Live cs)
    (hEof : machine.exec cs before s text = .eof cs' p t) :
    ∃ u, machine.exec cs before s (text ++ [stopper]) =
      .out 0 (before ++ text).length u := by
  rw [exec_append, hEof]
  exact h.exec_stopper (before ++ text) t
    (h.live hStart hEof) []

/- It can also be ended further on. -/
theorem Waits.ends_behind
    (h : machine.Waits Live Final stopper)
    (hStart : Live cs)
    (hEof : machine.exec cs before s text = .eof cs' p t) :
    ∃ c target q u,
      machine.exec cs before s (text ++ [c, stopper]) =
          .out target q u ∧
        (Final target ∨
          target = 0 ∧ q = (before ++ text).length + 1) := by
  have hLive := h.live hStart hEof
  rcases h.enter cs' (before ++ text) t hLive with
    ⟨u, hEnter⟩
  rcases h.goesOn cs' (before ++ text) u hLive with
    ⟨c, target, v, hStep⟩
  refine ⟨c, ?_⟩
  rw [exec_append, hEof]
  simp only
  rw [exec_cons machine hEnter, hStep]
  rcases h.stay cs' (before ++ text) u c target v hLive hStep
    with hNext | hFinal
  · rcases h.exec_stopper (before ++ text ++ [c]) v hNext [] with
      ⟨w, hOut⟩
    refine ⟨0, _, w, hOut, .inr ⟨rfl, ?_⟩⟩
    rw [List.length_append, List.length_singleton]
  · rcases h.final target (before ++ text ++ [c]) v [stopper]
      hFinal with ⟨q, w, hOut⟩
    exact ⟨target, q, w, hOut, .inl hFinal⟩

end RagelMachine

end Feng

------------------------------------------------------------
-- Where A Machine Ends
------------------------------------------------------------

namespace Feng

namespace RagelMachine

variable {σ : Type} {machine : RagelMachine σ}
variable {cs cs' p : Nat} {before text : List UInt8}
variable {c : UInt8} {s t : σ}

/- The actions that fail do so on what was read before. -/
def FailsBehind (machine : RagelMachine σ) : Prop :=
  ∀ a before s p,
    machine.action a before s = .fail p → p ≤ before.length

theorem FailsBehind.run
    (h : machine.FailsBehind)
    {actions : List Nat}
    (hFail : machine.run before actions s = .fail p) :
    p ≤ before.length := by
  induction actions generalizing s with
  | nil => cases hFail
  | cons a actions ih =>
      unfold RagelMachine.run at hFail
      split at hFail
      · exact ih hFail
      · cases hFail
      · rename_i q hAction
        cases hFail
        exact h a before s p hAction

theorem FailsBehind.step
    (h : machine.FailsBehind)
    (hStop : machine.step cs before s c = .stop cs' p t) :
    p ≤ before.length + 1 := by
  unfold RagelMachine.step at hStop
  simp only at hStop
  split at hStop
  · cases hStop
    exact Nat.le_refl _
  · rename_i hRun
    cases hStop
    exact Nat.le_succ_of_le (h.run hRun)
  · split at hStop
    · cases hStop
      exact Nat.le_refl _
    · rename_i hRun
      cases hStop
      exact Nat.le_succ_of_le (h.run hRun)
    · split at hStop
      · cases hStop
        exact Nat.le_succ _
      · cases hStop

/- It is over behind no other characters than it has read. -/
theorem FailsBehind.exec
    (h : machine.FailsBehind)
    (hEnter : ∀ cs before s, ∃ entered,
      machine.run before (machine.tables.fromState cs) s =
        .next entered)
    (hOut : machine.exec cs before s text = .out cs' p t) :
    p ≤ before.length + text.length := by
  induction text generalizing cs before s with
  | nil =>
      rcases hEnter cs before s with ⟨entered, hEntered⟩
      rw [exec_nil machine hEntered] at hOut
      cases hOut
  | cons c text ih =>
      rcases hEnter cs before s with ⟨entered, hEntered⟩
      rw [exec_cons machine hEntered] at hOut
      rw [List.length_cons]
      cases hStep : machine.step cs before entered c with
      | stop target q u =>
          rw [hStep] at hOut
          cases hOut
          have hLe := h.step hStep
          omega
      | goto target u =>
          rw [hStep] at hOut
          have hLe := ih hOut
          rw [List.length_append, List.length_singleton] at hLe
          omega

end RagelMachine

end Feng

------------------------------------------------------------
-- What Is Kept Along A Text
------------------------------------------------------------

namespace Feng

namespace RagelMachine

variable {σ : Type} {machine : RagelMachine σ} {P : σ → Prop}
variable {text before rest : List UInt8} {s : σ}

/-
  The actions that are done on the characters of a text keep a
  property, and there are no others than these.
-/
structure KeepsAlong
    (machine : RagelMachine σ)
    (P : σ → Prop)
    (text : List UInt8) : Prop where
  toState : ∀ cs, machine.tables.toState cs = []
  fromState : ∀ cs, machine.tables.fromState cs = []
  action : ∀ {cs before c rest a s},
    text = before ++ c :: rest →
      a ∈ (machine.tables.transition cs c).2 → P s →
      P ((machine.action a before s).state s)

theorem KeepsAlong.run
    (h : machine.KeepsAlong P text)
    {cs : Nat}
    {c : UInt8}
    (hText : text = before ++ c :: rest)
    {actions : List Nat}
    (hActions :
      ∀ a ∈ actions, a ∈ (machine.tables.transition cs c).2)
    (hStart : P s) :
    P ((machine.run before actions s).state s) := by
  induction actions generalizing s with
  | nil => exact hStart
  | cons a actions ih =>
      simp only [List.mem_cons, forall_eq_or_imp] at hActions
      have hOne := h.action hText hActions.1 hStart
      unfold RagelMachine.run
      cases hAction : machine.action a before s with
      | next t =>
          rw [hAction] at hOne
          have hRest := ih (s := t) hActions.2 hOne
          simp only
          cases hRun : machine.run before actions t with
          | fail p => exact hStart
          | next u =>
              rw [hRun] at hRest
              exact hRest
          | leave u =>
              rw [hRun] at hRest
              exact hRest
      | leave t =>
          rw [hAction] at hOne
          exact hOne
      | fail p => exact hStart

theorem KeepsAlong.step
    (h : machine.KeepsAlong P text)
    {c : UInt8}
    (hText : text = before ++ c :: rest)
    (hStart : P s)
    (cs : Nat) :
    P (machine.step cs before s c).state := by
  have hActions : ∀ a ∈ (machine.tables.transition cs c).2,
      a ∈ (machine.tables.transition cs c).2 :=
    fun _ hMem => hMem
  have hRun := h.run hText hActions hStart
  unfold RagelMachine.step
  simp only
  cases hDone :
    machine.run before (machine.tables.transition cs c).2 s
    with
  | fail p => exact hStart
  | leave t =>
      rw [hDone] at hRun
      exact hRun
  | next t =>
      rw [hDone] at hRun
      rw [h.toState]
      simp only [RagelMachine.run]
      split
      · exact hRun
      · exact hRun

theorem KeepsAlong.exec
    (h : machine.KeepsAlong P text)
    (hText : text = before ++ rest)
    (hStart : P s)
    (cs : Nat) :
    P (machine.exec cs before s rest).state := by
  have hEnter (cs : Nat) (before : List UInt8) (s : σ) :
      machine.run before (machine.tables.fromState cs) s =
        .next s := by
    rw [h.fromState]
    rfl
  induction rest generalizing cs before s with
  | nil =>
      rw [exec_nil machine (hEnter cs before s)]
      exact hStart
  | cons c rest ih =>
      rw [exec_cons machine (hEnter cs before s)]
      have hNext := h.step hText hStart cs
      cases hStep : machine.step cs before s c with
      | stop target p t =>
          rw [hStep] at hNext
          exact hNext
      | goto target t =>
          rw [hStep] at hNext
          apply ih _ hNext
          rw [hText, List.append_assoc]
          rfl

end RagelMachine

end Feng
