import Feng.Range.Tables
import Feng.Rtp.Session
import Mathlib.Algebra.Order.Field.Rat
import Mathlib.Tactic.Positivity

/-
  The parser of the Range header, with times in `double` as
  exact rationals and `mktime` as a parameter.

  Key definitions include:
    * `UtcTime`
    * `RangeScan`
    * `rangeHeaderParser`
    * `ragelParseRangeHeader`

  Key theorems include:
    * `rangeHeader_digit`
    * `rangeHeaderParser_valid`
    * `ragelParseRangeHeader_valid`
-/

------------------------------------------------------------
-- The Scanner
------------------------------------------------------------

namespace Feng

/- What is set of a `struct tm`; the rest is zero. -/
structure UtcTime where
  tmYear : Int
  tmMon : Int
  tmMday : Int
  tmHour : Int
  tmMin : Int
  tmSec : Int
deriving DecidableEq, Repr

def utcTimeZero : UtcTime where
  tmYear := 0
  tmMon := 0
  tmMday := 0
  tmHour := 0
  tmMin := 0
  tmSec := 0

/-
  The variables of the parser, with the range it fills in. The
  broken-down time is not read before it was set to zero.
-/
structure RangeScan where
  rangeSupported : Bool
  seconds : ℚ
  integer : ℚ
  secondsSecfracNum : ℚ
  secondsSecfracDen : ℚ
  utctime : UtcTime
  range : RTSPRange
deriving DecidableEq, Repr

def rangeScanNew (range : RTSPRange) : RangeScan where
  rangeSupported := false
  seconds := 0
  integer := 0
  secondsSecfracNum := 0
  secondsSecfracDen := 0
  utctime := utcTimeZero
  range := range

/- One more digit. -/
def addDigit (value digit : Int) : Int :=
  value * 10 + digit

/- Change the broken-down time. -/
def RangeScan.setTime
    (scan : RangeScan)
    (f : UtcTime → UtcTime) : RangeScan :=
  { scan with utctime := f scan.utctime }

/- The actions, on a string with its final NUL. -/
def rangeHeaderAction
    (mktime : UtcTime → Int)
    (text : List UInt8)
    (a : Nat)
    (before : List UInt8)
    (scan : RangeScan) : RagelFlow RangeScan :=
  let digit := charValue (text.getD before.length 0) - 48
  match a with
  | 0 => .next { scan with integer := 0 }
  | 1 =>
      .next { scan with integer := scan.integer * 10 + digit }
  | 2 =>
      .next { scan with
        seconds := scan.seconds + scan.integer * 3600 }
  | 3 =>
      .next { scan with
        seconds := scan.seconds + scan.integer * 60 }
  | 4 =>
      .next { scan with
        seconds := scan.seconds + scan.integer * 1 }
  | 5 =>
      .next { scan with
        secondsSecfracNum := 0
        secondsSecfracDen := 1 }
  | 6 =>
      .next { scan with
        secondsSecfracNum := scan.secondsSecfracNum * 10 + digit
        secondsSecfracDen := scan.secondsSecfracDen * 10 }
  | 7 =>
      .next { scan with
        seconds :=
          scan.seconds +
            scan.secondsSecfracNum / scan.secondsSecfracDen }
  -- The function returns false.
  | 8 => .leave { scan with rangeSupported := false }
  | 9 =>
      .next { scan with
        range := { scan.range with beginTime := scan.seconds }
        seconds := 0 }
  | 10 =>
      .next { scan with
        range := { scan.range with endTime := scan.seconds }
        seconds := 0 }
  | 11 => .next { scan with rangeSupported := true }
  | 12 => .next { scan with utctime := utcTimeZero }
  | 13 =>
      .next (scan.setTime fun tm =>
        { tm with tmYear := addDigit tm.tmYear digit })
  | 14 =>
      .next (scan.setTime fun tm =>
        { tm with tmMon := addDigit tm.tmMon digit })
  | 15 =>
      .next (scan.setTime fun tm =>
        { tm with tmMday := addDigit tm.tmMday digit })
  | 16 =>
      .next (scan.setTime fun tm =>
        { tm with tmHour := addDigit tm.tmHour digit })
  | 17 =>
      .next (scan.setTime fun tm =>
        { tm with tmMin := addDigit tm.tmMin digit })
  | 18 =>
      .next (scan.setTime fun tm =>
        { tm with tmSec := addDigit tm.tmSec digit })
  | 19 =>
      .next { scan with
        range :=
          { scan.range with
            playbackTime := mktime scan.utctime } }
  | _ => .next scan

def rangeHeaderParser
    (mktime : UtcTime → Int)
    (text : List UInt8) : RagelMachine RangeScan where
  tables := rangeHeaderTables
  action := rangeHeaderAction mktime text

def rangeHeaderStart : Nat := 1

/- The variables when the string was read, with its NUL. -/
def rangeScanOf
    (mktime : UtcTime → Int)
    (header : List UInt8)
    (range : RTSPRange) : RangeScan :=
  let text := header ++ [0]
  ((rangeHeaderParser mktime text).exec rangeHeaderStart []
    (rangeScanNew range) text).state

/- The range, if it is supported. -/
def ragelParseRangeHeader
    (mktime : UtcTime → Int)
    (header : List UInt8)
    (range : RTSPRange) : Option RTSPRange :=
  let scan := rangeScanOf mktime header range
  if scan.rangeSupported then
    some scan.range
  else
    none

end Feng

------------------------------------------------------------
-- Digits
------------------------------------------------------------

namespace Feng

/- The actions that add a digit. -/
def digitActions : List Nat :=
  [1, 6, 13, 14, 15, 16, 17, 18]

/- They are only done on digits. -/
theorem rangeHeader_digit
    {cs a : Nat}
    {c : UInt8}
    (hMem : a ∈ (rangeHeaderTables.transition cs c).2)
    (hDigit : a ∈ digitActions) :
    48 ≤ c.toNat ∧ c.toNat ≤ 57 := by
  by_cases hBound : cs < 72
  · have hSorted : ∀ cs < 72,
        rangeHeaderTables.SinglesSorted cs := by
      decide
    have hRows : ∀ cs < 72,
        ∀ entry ∈ rangeHeaderTables.row cs,
          ∀ a ∈ entry.actions, a ∈ digitActions →
            48 ≤ entry.low ∧ entry.high ≤ 57 := by
      decide
    have hDefaults : ∀ cs < 72,
        ∀ a ∈ (rangeHeaderTables.rowDefault cs).2,
          a ∉ digitActions := by
      decide
    rcases RagelTables.transition_mem (hSorted cs hBound) c with
      ⟨entry, hEntry, hMatches, hIs⟩ | hIs
    · rw [hIs] at hMem
      have hRow := hRows cs hBound entry hEntry a hMem hDigit
      exact ⟨hRow.1.trans hMatches.1,
        hMatches.2.1.trans hRow.2⟩
    · rw [hIs] at hMem
      exact absurd hDigit (hDefaults cs hBound a hMem)
  · have hBeyond : ∀ cs, 72 ≤ cs →
        ∀ a ∈ (rangeHeaderTables.transAt 0).2,
          a ∉ digitActions := by
      intro _ _
      decide
    have hNone : 72 ≤ cs →
        ∀ a ∈ (rangeHeaderTables.transition cs c).2,
          a ∉ digitActions := by
      apply transition_of_states
        (P := fun cs entry =>
          72 ≤ cs → ∀ a ∈ entry.2, a ∉ digitActions)
        (n := 72) (by decide) (by decide)
        (by decide)
      · intro cs hLess i _ hLe
        omega
      · intro cs _
        exact hBeyond cs
    exact absurd hDigit
      (hNone (Nat.le_of_not_lt hBound) a hMem)

end Feng

------------------------------------------------------------
-- Times That Are Not Negative
------------------------------------------------------------

namespace Feng

variable {mktime : UtcTime → Int} {header : List UInt8}
variable {range : RTSPRange}

/- The begin is not negative, nor the end if there is one. -/
structure RTSPRange.Valid (range : RTSPRange) : Prop where
  beginTime : 0 ≤ range.beginTime
  endTime : range.endTime = -1 / 10 ∨ 0 ≤ range.endTime

structure RangeScan.Valid (scan : RangeScan) : Prop where
  seconds : 0 ≤ scan.seconds
  integer : 0 ≤ scan.integer
  num : 0 ≤ scan.secondsSecfracNum
  den : 0 ≤ scan.secondsSecfracDen
  range : scan.range.Valid

theorem charValue_digit
    {c : UInt8}
    (hDigit : 48 ≤ c.toNat ∧ c.toNat ≤ 57) :
    0 ≤ charValue c - 48 := by
  unfold charValue
  rw [if_pos (by omega)]
  omega

theorem rangeHeaderAction_valid
    {text before : List UInt8}
    {scan : RangeScan}
    {a : Nat}
    (hDigit : a ∈ digitActions →
      0 ≤ charValue (text.getD before.length 0) - 48)
    (hValid : scan.Valid) :
    RangeScan.Valid
      ((rangeHeaderAction mktime text a before scan).state
        scan) := by
  rcases hValid with ⟨hSeconds, hInteger, hNum, hDen, hRange⟩
  unfold rangeHeaderAction
  simp only
  split
  case h_1 =>
    exact ⟨hSeconds, le_refl _, hNum, hDen, hRange⟩
  case h_2 =>
    have hOne : (0 : ℚ) ≤
        ((charValue (text.getD before.length 0) - 48 : Int) :
          ℚ) := by
      exact_mod_cast hDigit (by decide)
    refine ⟨hSeconds, ?_, hNum, hDen, hRange⟩
    change 0 ≤ scan.integer * 10 + _
    positivity
  case h_3 =>
    refine ⟨?_, hInteger, hNum, hDen, hRange⟩
    change 0 ≤ scan.seconds + scan.integer * 3600
    positivity
  case h_4 =>
    refine ⟨?_, hInteger, hNum, hDen, hRange⟩
    change 0 ≤ scan.seconds + scan.integer * 60
    positivity
  case h_5 =>
    refine ⟨?_, hInteger, hNum, hDen, hRange⟩
    change 0 ≤ scan.seconds + scan.integer * 1
    positivity
  case h_6 =>
    exact ⟨hSeconds, hInteger, le_refl _, zero_le_one, hRange⟩
  case h_7 =>
    have hOne : (0 : ℚ) ≤
        ((charValue (text.getD before.length 0) - 48 : Int) :
          ℚ) := by
      exact_mod_cast hDigit (by decide)
    refine ⟨hSeconds, hInteger, ?_, ?_, hRange⟩
    · change 0 ≤ scan.secondsSecfracNum * 10 + _
      positivity
    · change 0 ≤ scan.secondsSecfracDen * 10
      positivity
  case h_8 =>
    refine ⟨?_, hInteger, hNum, hDen, hRange⟩
    change 0 ≤ scan.seconds +
      scan.secondsSecfracNum / scan.secondsSecfracDen
    positivity
  case h_10 =>
    exact ⟨le_refl _, hInteger, hNum, hDen, hSeconds,
      hRange.endTime⟩
  case h_11 =>
    exact ⟨le_refl _, hInteger, hNum, hDen, hRange.beginTime,
      .inr hSeconds⟩
  all_goals
    exact ⟨hSeconds, hInteger, hNum, hDen, hRange.beginTime,
      hRange.endTime⟩

theorem rangeHeader_noActions :
    rangeHeaderTables.actions.get 0 = 0 := by
  decide

theorem rangeHeaderParser_valid
    (mktime : UtcTime → Int)
    (text : List UInt8) :
    (rangeHeaderParser mktime text).KeepsAlong
      RangeScan.Valid text where
  toState := by
    intro cs
    exact RagelMachine.actionsAt_zero rangeHeader_noActions
  fromState := by
    intro cs
    exact RagelMachine.actionsAt_zero rangeHeader_noActions
  action := by
    intro cs before c rest a scan hText hMem hValid
    refine rangeHeaderAction_valid ?_ hValid
    intro hDigit
    have hHere : text.getD before.length 0 = c := by
      rw [hText, List.getD_eq_getElem?_getD,
        List.getElem?_append_right (Nat.le_refl _),
        Nat.sub_self]
      rfl
    rw [hHere]
    exact charValue_digit (rangeHeader_digit hMem hDigit)

/- A range that is supported has no negative times. -/
theorem ragelParseRangeHeader_valid
    {given : RTSPRange}
    (hGiven : given.Valid)
    (hParse :
      ragelParseRangeHeader mktime header given = some range) :
    range.Valid := by
  have hStart : (rangeScanNew given).Valid :=
    ⟨le_refl _, le_refl _, le_refl _, le_refl _, hGiven⟩
  have hEnd :=
    (rangeHeaderParser_valid mktime (header ++ [0])).exec
      (List.nil_append _).symm hStart rangeHeaderStart
  unfold ragelParseRangeHeader at hParse
  simp only at hParse
  split at hParse
  · cases hParse
    exact hEnd.range
  · cases hParse

end Feng
