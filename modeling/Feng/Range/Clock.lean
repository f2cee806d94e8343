import Feng.Lib.Calendar
import Feng.Range.Parse

/-
  The time that a Range header asks for to start at, and what
  the scanner makes of it.

  Of each number in the time only the last digit is counted,
  and the numbers are handed to `mktime` as they are, which
  counts years from 1900 and months from 0. Behind the year
  the month 10 is not known.

  Key definitions include:
    * `mktimeUtc`
    * `timedHeader`
    * `lastDigits`
    * `RangeReads`

  Key theorems include:
    * `mktimeUtc_brokenDown`
    * `RangeReads.timeField`
    * `timedHeader_playback`
    * `playback_not_requested`
-/

------------------------------------------------------------
-- Broken-Down Times
------------------------------------------------------------

namespace Feng

/-
  `mktime` on a host in UTC. Months count from 0, years from
  1900, and what is out of its range is carried over.
-/
def mktimeUtc (tm : UtcTime) : Int :=
  let year := 1900 + tm.tmYear + tm.tmMon / 12
  let month := (tm.tmMon % 12).toNat
  Calendar.secondsOf
    (Calendar.daysToYear year +
      Calendar.daysToMonth year month + (tm.tmMday - 1))
    tm.tmHour tm.tmMin tm.tmSec

/- What `mktime` is to be given for a moment. -/
def brokenDown (moment : Calendar.Moment) : UtcTime where
  tmYear := moment.year - 1900
  tmMon := moment.month - 1
  tmMday := moment.day
  tmHour := moment.hour
  tmMin := moment.minute
  tmSec := moment.second

theorem mktimeUtc_brokenDown
    (moment : Calendar.Moment) :
    mktimeUtc (brokenDown moment) = moment.unixTime := by
  have hPos := moment.month_pos
  have hLe := moment.month_le
  have hYear :
      1900 + ((moment.year : Int) - 1900) +
          ((moment.month : Int) - 1) / 12 =
        moment.year := by
    omega
  have hMonth :
      (((moment.month : Int) - 1) % 12).toNat =
        moment.month - 1 := by
    omega
  unfold mktimeUtc brokenDown Calendar.Moment.unixTime
  simp only [hYear, hMonth]

/- Ten years from 1900 on are before 1970. -/
theorem mktimeUtc_neg
    {tm : UtcTime}
    (hYear : tm.tmYear < 10)
    (hMonth : 0 ≤ tm.tmMon ∧ tm.tmMon < 12)
    (hDay : tm.tmMday < 10)
    (hHour : tm.tmHour < 10)
    (hMin : tm.tmMin < 10)
    (hSec : tm.tmSec < 10) :
    mktimeUtc tm < 0 := by
  have hCarry : tm.tmMon / 12 = 0 := by
    omega
  have hIn : (tm.tmMon % 12).toNat ≤ 12 := by
    omega
  have hDays :
      Calendar.daysToMonth (1900 + tm.tmYear)
          (tm.tmMon % 12).toNat ≤
        Calendar.yearLength (1900 + tm.tmYear) :=
    Calendar.daysToMonth_le hIn
  have hLength :
      Calendar.yearLength (1900 + tm.tmYear) ≤ 366 := by
    unfold Calendar.yearLength
    split_ifs
    · decide
    · decide
  have hYears :
      Calendar.daysToYear (1900 + tm.tmYear) ≤
        Calendar.daysToYear 1909 :=
    Calendar.daysToYear_mono (by omega)
  have hLast : Calendar.daysToYear 1909 = -22280 := rfl
  unfold mktimeUtc Calendar.secondsOf
  simp only [hCarry, Int.add_zero]
  omega

end Feng

------------------------------------------------------------
-- Headers With A Time
------------------------------------------------------------

namespace Feng

/- The character of the last digit of a number. -/
def lastDigit (n : Nat) : UInt8 :=
  UInt8.ofNat (48 + n % 10)

def twoDigits (n : Nat) : List UInt8 :=
  [lastDigit (n / 10), lastDigit n]

/- `YYYYMMDD`. -/
def dateText (moment : Calendar.Moment) : List UInt8 :=
  twoDigits (moment.year / 100) ++ twoDigits moment.year ++
    twoDigits moment.month ++ twoDigits moment.day

/- `HHMMSS`. -/
def timeText (moment : Calendar.Moment) : List UInt8 :=
  twoDigits moment.hour ++ twoDigits moment.minute ++
    twoDigits moment.second

def decimals : List UInt8 :=
  (List.range 10).map lastDigit

/- Nothing, or a dot and digits. -/
def IsFraction (text : List UInt8) : Prop :=
  text = [] ∨
    ∃ digits, text = 46 :: digits ∧ digits ≠ [] ∧
      ∀ c ∈ digits, c ∈ decimals

/- The characters of numbers, `.`, `:`, `-` and of `now`. -/
def nptChars : List UInt8 :=
  decimals ++ [46, 58, 45, 110, 111, 119]

/- `npt=`. -/
def nptPrefix : List UInt8 :=
  [110, 112, 116, 61]

/- All npt ranges, and more. -/
def IsNpt (text : List UInt8) : Prop :=
  ∃ range, text = nptPrefix ++ range ∧ range ≠ [] ∧
    ∀ c ∈ range, c ∈ nptChars

/- `;time=`. -/
def timePrefix : List UInt8 :=
  [59, 116, 105, 109, 101, 61]

def timedHeader
    (npt : List UInt8)
    (moment : Calendar.Moment)
    (fraction : List UInt8) : List UInt8 :=
  npt ++ (timePrefix ++ (dateText moment ++
    (84 :: (timeText moment ++ (fraction ++ [90])))))

/- What is left of a time in the scanner. -/
def lastDigits (moment : Calendar.Moment) : UtcTime where
  tmYear := (moment.year % 10 : Nat)
  tmMon := (moment.month % 10 : Nat)
  tmMday := (moment.day % 10 : Nat)
  tmHour := (moment.hour % 10 : Nat)
  tmMin := (moment.minute % 10 : Nat)
  tmSec := (moment.second % 10 : Nat)

theorem mktimeUtc_lastDigits
    (moment : Calendar.Moment) :
    mktimeUtc (lastDigits moment) < 0 := by
  apply mktimeUtc_neg
  all_goals
    simp only [lastDigits]
    omega

theorem charValue_lastDigit
    (n : Nat) :
    charValue (lastDigit n) - 48 = (n % 10 : Nat) := by
  have hNat : (lastDigit n).toNat = 48 + n % 10 := by
    unfold lastDigit
    rw [UInt8.toNat_ofNat']
    omega
  unfold charValue
  rw [hNat, if_pos (by omega)]
  omega

theorem lastDigit_mem
    (n : Nat) :
    lastDigit n ∈ decimals := by
  refine List.mem_map.mpr
    ⟨n % 10, List.mem_range.mpr (Nat.mod_lt n (by decide)), ?_⟩
  unfold lastDigit
  rw [Nat.mod_mod]

theorem twoDigits_mod
    (n : Nat) :
    twoDigits (n % 100) = twoDigits n := by
  have hTens : n % 100 / 10 % 10 = n / 10 % 10 := by
    omega
  have hOnes : n % 100 % 10 = n % 10 := by
    omega
  unfold twoDigits lastDigit
  rw [hTens, hOnes]

end Feng

------------------------------------------------------------
-- Leaving A Machine
------------------------------------------------------------

namespace Feng

namespace RagelMachine

variable {σ : Type} {machine : RagelMachine σ}
variable {before : List UInt8} {s t : σ}

theorem run_leave
    {a : Nat}
    (hAction : machine.action a before s = .leave t)
    (as : List Nat) :
    machine.run before (a :: as) s = .leave t := by
  rw [run, hAction]

theorem step_of_leave
    {cs : Nat}
    {c : UInt8}
    (hRun :
      machine.run before (machine.tables.transition cs c).2 s =
        .leave t) :
    machine.step cs before s c =
      .stop (machine.tables.transition cs c).1
        (before.length + 1) t := by
  simp only [step, hRun]

end RagelMachine

end Feng

------------------------------------------------------------
-- Runs That Support A Range
------------------------------------------------------------

namespace Feng

variable {mktime : UtcTime → Int} {cs target a n : Nat}
variable {text before rest chunk : List UInt8}
variable {s t : RangeScan} {range : RTSPRange} {c : UInt8}
variable {actions : List Nat}

def rangeResult
    (result : RagelResult RangeScan) : Option RTSPRange :=
  if result.state.rangeSupported then
    some result.state.range
  else
    none

/- The scanner is within the text, and this range is found. -/
structure RangeReads
    (mktime : UtcTime → Int)
    (text : List UInt8)
    (cs : Nat)
    (before : List UInt8)
    (s : RangeScan)
    (rest : List UInt8)
    (range : RTSPRange) : Prop where
  whole : text = before ++ rest
  result :
    rangeResult
        ((rangeHeaderParser mktime text).exec cs before s
          rest) =
      some range

/- Only an action that says so leaves, and nothing is found. -/
theorem run_range
    (mktime : UtcTime → Int)
    (text before : List UInt8)
    (actions : List Nat)
    (s : RangeScan) :
    (∃ t,
      (rangeHeaderParser mktime text).run before actions s =
        .next t) ∨
    ∃ t,
      (rangeHeaderParser mktime text).run before actions s =
          .leave t ∧
        t.rangeSupported = false := by
  induction actions generalizing s with
  | nil => exact .inl ⟨s, rfl⟩
  | cons a actions ih =>
      have hAction :
          (∃ t, rangeHeaderAction mktime text a before s =
            .next t) ∨
          ∃ t, rangeHeaderAction mktime text a before s =
              .leave t ∧
            t.rangeSupported = false := by
        unfold rangeHeaderAction
        simp only
        split
        case h_9 => exact .inr ⟨_, rfl, rfl⟩
        all_goals exact .inl ⟨_, rfl⟩
      rcases hAction with ⟨t, hNext⟩ | ⟨t, hLeave, hNot⟩
      · rw [RagelMachine.run_cons hNext]
        exact ih t
      · right
        exact ⟨t, RagelMachine.run_leave hLeave actions, hNot⟩

theorem rangeHeader_enter
    (cs : Nat)
    (before : List UInt8)
    (s : RangeScan) :
    (rangeHeaderParser mktime text).run before
        ((rangeHeaderParser mktime text).tables.fromState cs)
        s =
      .next s :=
  RagelMachine.enter_of_nil rfl rangeHeader_noActions cs before
    s

theorem RangeReads.step
    (h : RangeReads mktime text cs before s (c :: rest) range)
    (hTarget : (rangeHeaderTables.transition cs c).1 ≠ 0) :
    ∃ t,
      (rangeHeaderParser mktime text).run before
          (rangeHeaderTables.transition cs c).2 s =
        .next t ∧
      RangeReads mktime text
        (rangeHeaderTables.transition cs c).1 (before ++ [c]) t
        rest range := by
  have hWhole := h.whole
  have hResult := h.result
  rw [RagelMachine.exec_cons _ (rangeHeader_enter cs before s)]
    at hResult
  rcases run_range mktime text before
      (rangeHeaderTables.transition cs c).2 s with
    ⟨t, hRun⟩ | ⟨t, hLeave, hNot⟩
  · have hTo :
        (rangeHeaderParser mktime text).tables.toState
          (rangeHeaderTables.transition cs c).1 = [] :=
      RagelMachine.actionsAt_zero rangeHeader_noActions
    have hLive :
        ((rangeHeaderParser mktime text).tables.transition cs
          c).1 ≠ 0 :=
      hTarget
    rw [RagelMachine.step_of_run hRun hTo, if_neg hLive]
      at hResult
    refine ⟨t, hRun, ?_, hResult⟩
    rw [hWhole, List.append_assoc]
    rfl
  · rw [RagelMachine.step_of_leave hLeave] at hResult
    change (if t.rangeSupported then some t.range else none) =
      some range at hResult
    rw [hNot] at hResult
    cases hResult

theorem RangeReads.goes
    (h : RangeReads mktime text cs before s (c :: rest) range)
    (hWay :
      rangeHeaderTables.transition cs c = (target, actions))
    (hTarget : target ≠ 0) :
    ∃ t,
      (rangeHeaderParser mktime text).run before actions s =
        .next t ∧
      RangeReads mktime text target (before ++ [c]) t rest
        range := by
  have hNext := h.step (by rw [hWay]; exact hTarget)
  rw [hWay] at hNext
  exact hNext

/- Characters that only lead on. -/
theorem RangeReads.quiet
    (h : RangeReads mktime text cs before s (c :: rest) range)
    (hWay : rangeHeaderTables.transition cs c = (target, []))
    (hTarget : target ≠ 0) :
    RangeReads mktime text target (before ++ [c]) s rest
      range := by
  rcases h.goes hWay hTarget with ⟨t, hRun, hNext⟩
  cases hRun
  exact hNext

/- A state that is not left by some characters. -/
theorem RangeReads.stays
    (h : RangeReads mktime text cs before s (chunk ++ rest)
      range)
    (hLive : cs ≠ 0)
    (hStays : ∀ c ∈ chunk,
      rangeHeaderTables.transition cs c = (cs, [])) :
    RangeReads mktime text cs (before ++ chunk) s rest
      range := by
  induction chunk generalizing before with
  | nil =>
      rw [List.append_nil]
      exact h
  | cons c chunk ih =>
      rcases List.forall_mem_cons.mp hStays with
        ⟨hFirst, hRest⟩
      have hNext := ih (h.quiet hFirst hLive) hRest
      rw [List.append_assoc] at hNext
      exact hNext

end Feng

------------------------------------------------------------
-- The Range In Front
------------------------------------------------------------

namespace Feng

variable {mktime : UtcTime → Int} {cs : Nat}
variable {text before rest chunk npt : List UInt8}
variable {s t : RangeScan} {range given : RTSPRange}
variable {actions : List Nat}

/- The states behind the prefix, up to a semicolon. -/
def isNptState (cs : Nat) : Bool :=
  (4 ≤ cs && cs < 36 && cs ≠ 5) || cs = 66

def nptStates : List Nat :=
  (List.range 67).filter isNptState

theorem rangeHeader_prefix :
    rangeHeaderTables.transition 1 110 = (62, []) ∧
      rangeHeaderTables.transition 62 112 = (63, []) ∧
      rangeHeaderTables.transition 63 116 = (64, []) ∧
      rangeHeaderTables.transition 64 61 = (65, []) := by
  decide

/- No time is set there. -/
theorem rangeHeader_npt :
    ∀ cs ∈ 65 :: nptStates, ∀ c ∈ nptChars,
      (rangeHeaderTables.transition cs c).1 ∈ nptStates ∧
        19 ∉ (rangeHeaderTables.transition cs c).2 := by
  decide

theorem rangeHeader_semicolon :
    ∀ cs ∈ nptStates,
      (rangeHeaderTables.transition cs 59).1 = 5 ∧
        19 ∉ (rangeHeaderTables.transition cs 59).2 := by
  decide

theorem rangeHeader_timePrefix :
    rangeHeaderTables.transition 5 116 = (36, []) ∧
      rangeHeaderTables.transition 36 105 = (37, []) ∧
      rangeHeaderTables.transition 37 109 = (38, []) ∧
      rangeHeaderTables.transition 38 101 = (39, []) ∧
      rangeHeaderTables.transition 39 61 = (40, []) := by
  decide

/- Only one action sets the time. -/
theorem run_playbackTime
    (hActions : 19 ∉ actions)
    (hRun :
      (rangeHeaderParser mktime text).run before actions s =
        .next t) :
    t.range.playbackTime = s.range.playbackTime := by
  induction actions generalizing s with
  | nil =>
      cases hRun
      rfl
  | cons a actions ih =>
      rw [List.mem_cons, not_or] at hActions
      rw [RagelMachine.run] at hRun
      split at hRun
      · rename_i u hAction
        rw [ih hActions.2 hRun]
        change rangeHeaderAction mktime text a before s =
          .next u at hAction
        unfold rangeHeaderAction at hAction
        simp only at hAction
        split at hAction
        case h_9 => cases hAction
        case h_20 => exact absurd rfl hActions.1
        all_goals
          cases hAction
          rfl
      · cases hRun
      · cases hRun

/- All of a range is read, up to the semicolon. -/
theorem RangeReads.toSemicolon
    (h : RangeReads mktime text cs before s (chunk ++ rest)
      range)
    (hState : cs ∈ 65 :: nptStates)
    (hChunk : ∀ c ∈ chunk, c ∈ nptChars)
    (hSome : chunk ≠ []) :
    ∃ cs' ∈ nptStates, ∃ t,
      t.range.playbackTime = s.range.playbackTime ∧
        RangeReads mktime text cs' (before ++ chunk) t rest
          range := by
  induction chunk generalizing cs before s with
  | nil => exact absurd rfl hSome
  | cons c chunk ih =>
      rcases List.forall_mem_cons.mp hChunk with
        ⟨hFirst, hRest⟩
      rcases rangeHeader_npt cs hState c hFirst with
        ⟨hIn, hActions⟩
      have hLive : (rangeHeaderTables.transition cs c).1 ≠ 0 := by
        intro hZero
        rw [hZero] at hIn
        exact absurd hIn (by decide)
      rcases h.step hLive with ⟨t, hRun, hNext⟩
      have hTime := run_playbackTime hActions hRun
      by_cases hLast : chunk = []
      · subst hLast
        exact ⟨_, hIn, t, hTime, hNext⟩
      · rcases ih hNext (List.mem_cons_of_mem _ hIn) hRest
            hLast with ⟨cs', hMem, u, hSame, hEnd⟩
        rw [List.append_assoc] at hEnd
        exact ⟨cs', hMem, u, hSame.trans hTime, hEnd⟩

/- The scanner behind an npt range and `;time=`. -/
theorem RangeReads.toTime
    (hNpt : IsNpt npt)
    (hText : text = npt ++ (timePrefix ++ rest))
    (h : RangeReads mktime text 1 [] s text range) :
    ∃ before t,
      t.range.playbackTime = s.range.playbackTime ∧
        RangeReads mktime text 40 before t rest range := by
  rcases hNpt with ⟨chunk, hIs, hSome, hChunk⟩
  have hWhole :
      text =
        110 :: 112 :: 116 :: 61 ::
          (chunk ++ (59 :: 116 :: 105 :: 109 :: 101 :: 61 ::
            rest)) := by
    rw [hText, hIs, List.append_assoc]
    rfl
  rcases rangeHeader_prefix with ⟨hN, hP, hT, hEquals⟩
  rcases rangeHeader_timePrefix with ⟨hT', hI, hM, hE, hIs'⟩
  have hStart :
      RangeReads mktime text 1 [] s
        (110 :: 112 :: 116 :: 61 ::
          (chunk ++ (59 :: 116 :: 105 :: 109 :: 101 :: 61 ::
            rest))) range := by
    rw [← hWhole]
    exact h
  have hNptStart :=
    (((hStart.quiet hN (by decide)).quiet hP
      (by decide)).quiet hT (by decide)).quiet hEquals
        (by decide)
  rcases hNptStart.toSemicolon List.mem_cons_self hChunk hSome
    with ⟨cs, hState, t, hTime, hEnd⟩
  rcases rangeHeader_semicolon cs hState with
    ⟨hFive, hActions⟩
  rcases hEnd.step (by rw [hFive]; decide) with
    ⟨u, hRun, hNext⟩
  rw [hFive] at hNext
  have hSame := run_playbackTime hActions hRun
  have hThere :=
    ((((hNext.quiet hT' (by decide)).quiet hI
      (by decide)).quiet hM (by decide)).quiet hE
        (by decide)).quiet hIs' (by decide)
  exact ⟨_, u, hSame.trans hTime, hThere⟩

end Feng

------------------------------------------------------------
-- The Numbers Of A Time
------------------------------------------------------------

namespace Feng

variable {mktime : UtcTime → Int} {cs target a n : Nat}
variable {text before rest chunk : List UInt8}
variable {s : RangeScan} {range : RTSPRange}

/- Of two digits only the second one is counted. -/
def TimeField (cs target a n : Nat) : Prop :=
  (rangeHeaderTables.transition cs (lastDigit (n / 10))).1 ≠
      0 ∧
    (rangeHeaderTables.transition cs (lastDigit (n / 10))).2 =
      [] ∧
    rangeHeaderTables.transition
        (rangeHeaderTables.transition cs
          (lastDigit (n / 10))).1
        (lastDigit n) =
      (target, [a])

instance decidableTimeField
    (cs target a n : Nat) :
    Decidable (TimeField cs target a n) :=
  inferInstanceAs
    (Decidable
      ((rangeHeaderTables.transition cs
          (lastDigit (n / 10))).1 ≠ 0 ∧
        (rangeHeaderTables.transition cs
          (lastDigit (n / 10))).2 = [] ∧
        rangeHeaderTables.transition
            (rangeHeaderTables.transition cs
              (lastDigit (n / 10))).1
            (lastDigit n) =
          (target, [a])))

theorem rangeHeader_century :
    ∀ n < 100,
      rangeHeaderTables.transition 40 (lastDigit (n / 10)) =
          (41, [12]) ∧
        rangeHeaderTables.transition 41 (lastDigit n) =
          (42, []) := by
  decide

theorem timeField_date :
    (∀ n < 100, TimeField 42 44 13 n) ∧
      (∀ n < 13, n = 0 ∨ n = 10 ∨ TimeField 44 46 14 n) ∧
      ∀ n < 32, n = 0 ∨ TimeField 46 48 15 n := by
  decide

theorem timeField_time :
    (∀ n < 24, TimeField 49 51 16 n) ∧
      (∀ n < 60, TimeField 51 53 17 n) ∧
      ∀ n < 60, TimeField 53 55 18 n := by
  decide

/- The field that an action adds a digit to. -/
def addToField
    (a : Nat)
    (digit : Int)
    (tm : UtcTime) : UtcTime :=
  match a with
  | 13 => { tm with tmYear := addDigit tm.tmYear digit }
  | 14 => { tm with tmMon := addDigit tm.tmMon digit }
  | 15 => { tm with tmMday := addDigit tm.tmMday digit }
  | 16 => { tm with tmHour := addDigit tm.tmHour digit }
  | 17 => { tm with tmMin := addDigit tm.tmMin digit }
  | _ => { tm with tmSec := addDigit tm.tmSec digit }

theorem rangeHeaderAction_field
    (hField : a ∈ [13, 14, 15, 16, 17, 18])
    (mktime : UtcTime → Int)
    (text before : List UInt8)
    (s : RangeScan) :
    rangeHeaderAction mktime text a before s =
      .next (s.setTime (addToField a
        (charValue (text.getD before.length 0) - 48))) := by
  simp only [List.mem_cons, List.not_mem_nil, or_false]
    at hField
  rcases hField with rfl | rfl | rfl | rfl | rfl | rfl
  all_goals rfl

/- The character that the scanner is at. -/
theorem RangeReads.here
    {c : UInt8}
    (h : RangeReads mktime text cs before s (c :: rest)
      range) :
    text.getD before.length 0 = c := by
  rw [h.whole, List.getD_eq_getElem?_getD,
    List.getElem?_append_right (Nat.le_refl _), Nat.sub_self]
  rfl

theorem RangeReads.timeField
    (h : RangeReads mktime text cs before s
      (twoDigits n ++ rest) range)
    (hField : TimeField cs target a n)
    (hTarget : target ≠ 0)
    (hAction : a ∈ [13, 14, 15, 16, 17, 18]) :
    ∃ before,
      RangeReads mktime text target before
        (s.setTime (addToField a (n % 10 : Nat))) rest
        range := by
  rcases hField with ⟨hLive, hNone, hSecond⟩
  have hFirst :
      rangeHeaderTables.transition cs (lastDigit (n / 10)) =
        ((rangeHeaderTables.transition cs
          (lastDigit (n / 10))).1, []) := by
    rw [← hNone]
  have hNext := h.quiet hFirst hLive
  have hHere := hNext.here
  rcases hNext.goes hSecond hTarget with ⟨t, hRun, hEnd⟩
  have hDo := rangeHeaderAction_field hAction mktime text
    (before ++ [lastDigit (n / 10)]) s
  rw [hHere, charValue_lastDigit] at hDo
  rw [RagelMachine.run_cons hDo] at hRun
  cases hRun
  exact ⟨_, hEnd⟩

/- Two digits of the year, from the number of all four. -/
theorem RangeReads.year
    (h : RangeReads mktime text 40 before s
      (twoDigits (n / 100) ++ (twoDigits n ++ rest)) range) :
    ∃ before,
      RangeReads mktime text 44 before
        { s with
          utctime :=
            { utcTimeZero with
              tmYear := (n % 10 : Nat) } } rest range := by
  rw [← twoDigits_mod (n / 100), ← twoDigits_mod n] at h
  rcases rangeHeader_century (n / 100 % 100)
      (Nat.mod_lt _ (by decide)) with ⟨hFirst, hSecond⟩
  rcases h.goes hFirst (by decide) with ⟨t, hRun, hNext⟩
  cases hRun
  have hThere := hNext.quiet hSecond (by decide)
  rcases hThere.timeField
      (timeField_date.1 (n % 100) (Nat.mod_lt _ (by decide)))
      (by decide) (by decide) with ⟨before, hEnd⟩
  have hOnes : n % 100 % 10 = n % 10 := by
    omega
  rw [hOnes] at hEnd
  refine ⟨before, ?_⟩
  simpa [RangeScan.setTime, addToField, addDigit, utcTimeZero]
    using hEnd

end Feng

------------------------------------------------------------
-- Times In A Header
------------------------------------------------------------

namespace Feng

variable {mktime : UtcTime → Int} {cs : Nat}
variable {text before rest chunk npt fraction : List UInt8}
variable {moment : Calendar.Moment}
variable {s : RangeScan} {range given : RTSPRange}

theorem rangeHeader_fraction :
    rangeHeaderTables.transition 48 84 = (49, []) ∧
      rangeHeaderTables.transition 55 46 = (56, []) ∧
      (∀ cs ∈ [56, 57], ∀ c ∈ decimals,
        rangeHeaderTables.transition cs c = (57, [])) ∧
      (∀ cs ∈ [55, 57],
        rangeHeaderTables.transition cs 90 = (58, [])) ∧
      rangeHeaderTables.transition 58 0 = (67, [19]) := by
  decide

/- Where the month 10 leads, the rest is passed over. -/
theorem rangeHeader_october :
    rangeHeaderTables.transition 44 (lastDigit 1) = (61, []) ∧
      rangeHeaderTables.transition 61 (lastDigit 10) =
        (4, []) ∧
      (∀ c ∈ decimals ++ [46, 84, 90],
        rangeHeaderTables.transition 4 c = (4, [])) ∧
      rangeHeaderTables.transition 4 0 = (67, []) := by
  decide

/- What is found when the string was read. -/
theorem RangeReads.last
    (h : RangeReads mktime text cs before s [] range) :
    range = s.range := by
  have hResult := h.result
  rw [RagelMachine.exec_nil _ (rangeHeader_enter cs before s)]
    at hResult
  change (if s.rangeSupported then some s.range else none) =
    some range at hResult
  split at hResult
  · exact (Option.some.inj hResult).symm
  · cases hResult

/- A time and its end make `mktime` be called. -/
theorem RangeReads.toEnd
    (h : RangeReads mktime text 55 before s
      (fraction ++ [90, 0]) range)
    (hFraction : IsFraction fraction) :
    range.playbackTime = mktime s.utctime := by
  rcases rangeHeader_fraction with
    ⟨_, hDot, hDigits, hZulu, hNul⟩
  have hBehind :
      ∃ cs ∈ [55, 57], ∃ before,
        RangeReads mktime text cs before s [90, 0] range := by
    rcases hFraction with rfl | ⟨digits, rfl, hSome, hAll⟩
    · exact ⟨55, List.mem_cons_self, before, h⟩
    · cases digits with
      | nil => exact absurd rfl hSome
      | cons c digits =>
          rcases List.forall_mem_cons.mp hAll with
            ⟨hFirst, hRest⟩
          have hNext := h.quiet hDot (by decide)
          have hInside := hNext.quiet
            (hDigits 56 (by decide) c hFirst) (by decide)
          have hEnd := hInside.stays (by decide)
            (fun d hMem => hDigits 57 (by decide) d
              (hRest d hMem))
          exact ⟨57, by decide, _, hEnd⟩
  rcases hBehind with ⟨cs, hMem, before, hThere⟩
  have hClose := hThere.quiet (hZulu cs hMem) (by decide)
  rcases hClose.goes hNul (by decide) with ⟨t, hRun, hEnd⟩
  cases hRun
  rw [hEnd.last]

/- The time of a day, up to the end. -/
theorem RangeReads.toPlayback
    (h : RangeReads mktime text 46 before s
      (twoDigits moment.day ++
        (84 :: (timeText moment ++ (fraction ++ [90, 0]))))
      range)
    (hFraction : IsFraction fraction)
    (hDate :
      s.utctime =
        { utcTimeZero with
          tmYear := (moment.year % 10 : Nat)
          tmMon := (moment.month % 10 : Nat) }) :
    range.playbackTime = mktime (lastDigits moment) := by
  have hDayPos := moment.day_pos
  have hDayLe := moment.day_le_31
  rcases timeField_time with ⟨hHours, hMinutes, hSeconds⟩
  have hDay : TimeField 46 48 15 moment.day := by
    rcases timeField_date.2.2 moment.day (by omega) with
      hZero | hField
    · omega
    · exact hField
  rcases h.timeField hDay (by decide) (by decide) with
    ⟨_, hAtT⟩
  have hAtHour := hAtT.quiet rangeHeader_fraction.1 (by decide)
  rw [timeText, List.append_assoc, List.append_assoc]
    at hAtHour
  rcases hAtHour.timeField (hHours _ moment.hour_lt)
      (by decide) (by decide) with ⟨_, hAtMinute⟩
  rcases hAtMinute.timeField (hMinutes _ moment.minute_lt)
      (by decide) (by decide) with ⟨_, hAtSecond⟩
  rcases hAtSecond.timeField (hSeconds _ moment.second_lt)
      (by decide) (by decide) with ⟨_, hAtEnd⟩
  rw [hAtEnd.toEnd hFraction]
  simp [RangeScan.setTime, addToField, addDigit, hDate,
    lastDigits, utcTimeZero]

theorem twoDigits_subset
    (n : Nat) :
    twoDigits n ⊆ decimals := by
  intro c hMem
  rcases List.mem_pair.mp hMem with rfl | rfl
  · exact lastDigit_mem _
  · exact lastDigit_mem _

/- The characters behind a month. -/
theorem timeTail_chars
    (hFraction : IsFraction fraction) :
    ∀ c ∈ twoDigits moment.day ++
        (84 :: (timeText moment ++ (fraction ++ [90]))),
      c ∈ decimals ++ [46, 84, 90] := by
  have hDigits (n : Nat) :
      ∀ c ∈ twoDigits n, c ∈ decimals ++ [46, 84, 90] :=
    fun c hMem =>
      List.mem_append_left _ (twoDigits_subset n hMem)
  have hInFraction :
      ∀ c ∈ fraction, c ∈ decimals ++ [46, 84, 90] := by
    rcases hFraction with rfl | ⟨digits, rfl, _, hAll⟩
    · exact fun c hMem => absurd hMem List.not_mem_nil
    · exact List.forall_mem_cons.mpr
        ⟨by decide, fun c hMem =>
          List.mem_append_left _ (hAll c hMem)⟩
  unfold timeText
  simp only [List.forall_mem_append, List.forall_mem_cons]
  exact ⟨hDigits _, by decide,
    ⟨⟨hDigits _, hDigits _⟩, hDigits _⟩, hInFraction,
    by decide, fun c hMem => absurd hMem List.not_mem_nil⟩

/- Behind the month 10 no time is set. -/
theorem RangeReads.october
    (h : RangeReads mktime text 44 before s
      (twoDigits 10 ++ (chunk ++ [0])) range)
    (hChunk : ∀ c ∈ chunk, c ∈ decimals ++ [46, 84, 90]) :
    range.playbackTime = s.range.playbackTime := by
  rcases rangeHeader_october with
    ⟨hFirst, hSecond, hStays, hNul⟩
  have hNext :
      RangeReads mktime text 4
        (before ++ [lastDigit 1] ++ [lastDigit 10]) s
        (chunk ++ [0]) range :=
    (h.quiet hFirst (by decide)).quiet hSecond (by decide)
  have hThere := hNext.stays (by decide)
    (fun c hMem => hStays c (hChunk c hMem))
  rw [(hThere.quiet hNul (by decide)).last]

/-
  What a header with a time sets: the time of the last digits,
  or nothing at all in October.
-/
theorem timedHeader_playback
    (hNpt : IsNpt npt)
    (hFraction : IsFraction fraction)
    (hParse :
      ragelParseRangeHeader mktime
          (timedHeader npt moment fraction) given =
        some range) :
    range.playbackTime =
      if moment.month = 10 then
        given.playbackTime
      else
        mktime (lastDigits moment) := by
  have hReads :
      RangeReads mktime (timedHeader npt moment fraction ++ [0])
        1 [] (rangeScanNew given)
        (timedHeader npt moment fraction ++ [0]) range :=
    ⟨rfl, hParse⟩
  have hText :
      timedHeader npt moment fraction ++ [0] =
        npt ++ (timePrefix ++
          (twoDigits (moment.year / 100) ++
            (twoDigits moment.year ++
              (twoDigits moment.month ++
                (twoDigits moment.day ++
                  (84 :: (timeText moment ++
                    (fraction ++ [90, 0])))))))) := by
    simp [timedHeader, dateText]
  rcases RangeReads.toTime hNpt hText hReads with
    ⟨before, t, hTime, hDate⟩
  rcases hDate.year with ⟨_, hMonth⟩
  have hMonthPos := moment.month_pos
  have hMonthLe := moment.month_le
  split_ifs with hOctober
  · rw [hOctober] at hMonth
    have hWhole :
        twoDigits moment.day ++
            (84 :: (timeText moment ++ (fraction ++ [90, 0]))) =
          (twoDigits moment.day ++
            (84 :: (timeText moment ++ (fraction ++ [90])))) ++
              [0] := by
      simp
    rw [hWhole] at hMonth
    have hSame := hMonth.october (timeTail_chars hFraction)
    exact hSame.trans hTime
  · rcases timeField_date.2.1 moment.month (by omega) with
      hZero | hTen | hField
    · omega
    · exact absurd hTen hOctober
    · rcases hMonth.timeField hField (by decide) (by decide)
        with ⟨_, hDay⟩
      apply hDay.toPlayback hFraction
      simp [RangeScan.setTime, addToField, addDigit,
        utcTimeZero]

/- Playback never starts at the time that was asked for. -/
theorem playback_not_requested
    (hNpt : IsNpt npt)
    (hFraction : IsFraction fraction)
    (hYear : 1970 ≤ moment.year)
    (hGiven : given.playbackTime < 0) :
    ¬ ∃ range,
      ragelParseRangeHeader mktimeUtc
          (timedHeader npt moment fraction) given =
        some range ∧
      range.playbackTime = moment.unixTime := by
  rintro ⟨range, hParse, hTime⟩
  have hUnix := moment.unixTime_nonneg hYear
  have hIs := timedHeader_playback hNpt hFraction hParse
  have hNeg : range.playbackTime < 0 := by
    rw [hIs]
    split_ifs
    · exact hGiven
    · exact_mod_cast mktimeUtc_lastDigits moment
  rw [hTime] at hNeg
  have hLess : moment.unixTime < 0 := by
    exact_mod_cast hNeg
  omega

/- The second of January 2024, and some time of that day. -/
def januaryMoment : Calendar.Moment where
  year := 2024
  month := 1
  day := 2
  hour := 13
  minute := 24
  second := 35
  month_pos := by decide
  month_le := by decide
  day_pos := by decide
  day_le := by decide
  hour_lt := by decide
  minute_lt := by decide
  second_lt := by decide

/- `npt=0-`. -/
def nptZero : List UInt8 :=
  nptPrefix ++ [48, 45]

/- No time is set yet. -/
def untimedRange : RTSPRange where
  beginTime := 0
  endTime := -1 / 10
  playbackTime := -1 / 10

theorem playback_not_requested_january :
    ¬ ∃ range,
      ragelParseRangeHeader mktimeUtc
          (timedHeader nptZero januaryMoment []) untimedRange =
        some range ∧
      range.playbackTime = januaryMoment.unixTime :=
  playback_not_requested
    ⟨[48, 45], rfl, by decide, by decide +kernel⟩ (.inl rfl)
    (by decide) (by norm_num [untimedRange])

/- It is set to some time of the second of February 1904. -/
theorem january_playback :
    (ragelParseRangeHeader mktimeUtc
          (timedHeader nptZero januaryMoment [])
          untimedRange).map (·.playbackTime) =
        some (-2080068955) ∧
      januaryMoment.unixTime = 1704201875 ∧
      (ragelParseRangeHeader mktimeUtc
          (timedHeader nptZero januaryMoment [])
          untimedRange).map (·.playbackTime) ≠
        some (januaryMoment.unixTime : ℚ) := by
  decide +kernel

end Feng
