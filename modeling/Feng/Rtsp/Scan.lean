import Feng.Rtsp.Parser

/-
  What the scanners do, from their tables: the strings of a
  request line lie within it, and a header block can be read
  again from the end of any of its lines.

  Key definitions include:
    * `RequestLineScan.Within`
    * `HeaderTables`
    * `HeaderScan.Shifted`

  Key theorems include:
    * `requestOfScan_append`
    * `rtspHeaderTables`
    * `HeaderTables.restart`
-/

------------------------------------------------------------
-- Strings Of A Request Line
------------------------------------------------------------

namespace Feng

/- A string is empty, or ends at or before a place. -/
def SpanWithin
    (n : Nat)
    (start : Option Nat)
    (length : Nat) : Prop :=
  length = 0 ∨ start.getD 0 + length ≤ n

variable {n length : Nat} {start : Option Nat}
variable {first rest : List UInt8}
variable {scan : RequestLineScan}

theorem gStrndup_append
    (hWithin : SpanWithin first.length start length)
    (rest : List UInt8) :
    gStrndup (first ++ rest) start length =
      gStrndup first start length := by
  cases start with
  | none => rfl
  | some start =>
      simp only [gStrndup, Option.map_some]
      congr 2
      rcases hWithin with hEmpty | hEnd
      · subst hEmpty
        simp
      · simp only [Option.getD_some] at hEnd
        rw [List.drop_append_of_le_length (by omega),
          List.take_append_of_le_length (by
            rw [List.length_drop]
            omega)]

/- From a place that was passed up to where the scanner is. -/
theorem spanWithin_of_le
    {p : Nat}
    (hPlace : p ≤ n)
    (start : Option Nat) :
    SpanWithin n start (p - start.getD p) := by
  unfold SpanWithin
  cases start with
  | none =>
      left
      simp
  | some start =>
      simp only [Option.getD_some]
      omega

namespace RequestLineScan

/- The strings found so far lie before a place. -/
structure Within
    (n : Nat)
    (scan : RequestLineScan) : Prop where
  method : SpanWithin n scan.methodStr scan.methodLen
  protocol : SpanWithin n scan.protocolStr scan.protocolLen
  object : SpanWithin n scan.objectStr scan.objectLen

end RequestLineScan

theorem requestLineScanNew_within
    (n : Nat) :
    requestLineScanNew.Within n :=
  ⟨.inl rfl, .inl rfl, .inl rfl⟩

theorem requestLineMethods_keeps
    (n : Nat) :
    requestLineMethods.Keeps
      (RequestLineScan.Within n) n := by
  intro a before scan hBefore hWithin
  change RequestLineScan.Within n
    ((requestLineSlAction a before scan).state scan)
  unfold requestLineSlAction
  simp only
  split
  case h_17 =>
    exact ⟨spanWithin_of_le hBefore scan.s, hWithin.protocol,
      hWithin.object⟩
  case h_18 =>
    exact ⟨hWithin.method, spanWithin_of_le hBefore scan.s,
      hWithin.object⟩
  case h_19 =>
    exact ⟨hWithin.method, hWithin.protocol,
      spanWithin_of_le hBefore scan.s⟩
  all_goals
    exact ⟨hWithin.method, hWithin.protocol, hWithin.object⟩

theorem requestLineCall_keeps
    {before : List UInt8}
    (hBefore : before.length ≤ n)
    (hWithin : scan.Within n)
    (start : Nat) :
    RequestLineScan.Within n
      ((requestLineCall start before scan).state scan) := by
  have hLength :
      (before.take (scan.methodStr.getD 0)).length +
          (before.drop (scan.methodStr.getD 0)).length ≤ n := by
    rw [← List.length_append, List.take_append_drop]
    exact hBefore
  have hExec :=
    (requestLineMethods_keeps n).exec hLength hWithin start
  unfold requestLineCall
  simp only
  split
  · exact hWithin
  · rename_i cs p after hOut
    rw [hOut] at hExec
    exact hExec
  · exact hWithin

theorem requestLineParser_keeps
    (n : Nat) :
    requestLineParser.Keeps (RequestLineScan.Within n) n := by
  intro a before scan hBefore hWithin
  change RequestLineScan.Within n
    ((requestLineAction a before scan).state scan)
  unfold requestLineAction
  split
  · exact requestLineCall_keeps hBefore hWithin _
  · exact requestLineCall_keeps hBefore hWithin _
  · exact requestLineMethods_keeps n a before scan hBefore
      hWithin

/- What lies behind a request line does not matter to it. -/
theorem requestOfScan_append
    (hWithin : scan.Within first.length)
    (rest : List UInt8)
    (req : RFC822Request) :
    requestOfScan (first ++ rest) scan req =
      requestOfScan first scan req := by
  unfold requestOfScan
  rw [gStrndup_append hWithin.method,
    gStrndup_append hWithin.protocol,
    gStrndup_append hWithin.object]

end Feng

------------------------------------------------------------
-- Tables Of Header Scanners
------------------------------------------------------------

namespace Feng

/-
  What the header scanners have in common: the end of a line
  is state 6, which goes on as the start does, and no other
  action than those of state 6 and of the final state stores a
  header or ends the scan.
-/
structure HeaderTables
    (tables : RagelTables)
    (codes : List RFC822Header)
    (firstFinal : Nat) : Prop where
  line : tables.fromState 6 = [codes.length + 2]
  final : tables.fromState firstFinal = [codes.length + 3]
  other : ∀ cs, cs ≠ 6 → cs ≠ firstFinal →
    tables.fromState cs = []
  entered : ∀ cs, tables.toState cs = []
  actions : ∀ cs c,
    ∀ a ∈ (tables.transition cs c).2, a < codes.length + 2
  error : ∀ cs c,
    (tables.transition cs c).1 = 0 →
      (tables.transition cs c).2 = []
  again : ∀ c, tables.transition 6 c = tables.transition 1 c
  bounds : 6 < firstFinal

theorem rtspHeaderTables :
    HeaderTables rtspHeadersTables rtspHeaderCodes
      rtspHeadersFirstFinal where
  line := by decide
  final := by decide
  other := by
    apply fromState_of_forall
      (P := fun cs actions =>
        cs ≠ 6 → cs ≠ rtspHeadersFirstFinal → actions = [])
      (n := 168) (by decide) (by decide)
    · decide +kernel
    · intro cs _ _ _
      rfl
  entered := by
    intro cs
    unfold RagelTables.toState
    exact RagelMachine.actionsAt_zero (by decide)
  actions := by
    apply transition_of_forall
      (P := fun entry =>
        ∀ a ∈ entry.2, a < rtspHeaderCodes.length + 2)
      (n := 400) (by decide) (by decide)
      (by decide)
    · decide +kernel
    · simp
  error := by
    apply transition_of_forall
      (P := fun entry => entry.1 = 0 → entry.2 = [])
      (n := 400) (by decide) (by decide)
      (by decide)
    · decide +kernel
    · simp
  again := by
    apply uint8_forall
    decide +kernel
  bounds := by decide

end Feng

------------------------------------------------------------
-- Reading A Header Block
------------------------------------------------------------

namespace Feng

variable {tables : RagelTables} {codes : List RFC822Header}
variable {firstFinal cs cs' p p' : Nat}
variable {before text : List UInt8} {s t : HeaderScan}
variable {c : UInt8}

/- The end of a line stores its header. -/
theorem HeaderTables.enter_line
    (h : HeaderTables tables codes firstFinal)
    (before : List UInt8)
    (s : HeaderScan) :
    (headersParser tables codes).run before
        (tables.fromState 6) s = .next (s.store before) := by
  rw [h.line]
  simp [RagelMachine.run, headersParser, headersAction]

theorem HeaderTables.enter_final
    (h : HeaderTables tables codes firstFinal)
    (before : List UInt8)
    (s : HeaderScan) :
    (headersParser tables codes).run before
        (tables.fromState firstFinal) s =
      .leave { s with readSize := some before.length } := by
  rw [h.final]
  simp [RagelMachine.run, headersParser, headersAction]

theorem HeaderTables.enter_other
    (h : HeaderTables tables codes firstFinal)
    (hLine : cs ≠ 6)
    (hFinal : cs ≠ firstFinal)
    (before : List UInt8)
    (s : HeaderScan) :
    (headersParser tables codes).run before
        (tables.fromState cs) s = .next s := by
  rw [h.other cs hLine hFinal]
  rfl

/- A scan is over in its final state, and only there. -/
theorem HeaderTables.enter
    (h : HeaderTables tables codes firstFinal)
    (cs : Nat)
    (before : List UInt8)
    (s : HeaderScan) :
    cs = firstFinal ∨
      ∃ entered,
        (headersParser tables codes).run before
          (tables.fromState cs) s = .next entered := by
  by_cases hFinal : cs = firstFinal
  · exact .inl hFinal
  · right
    by_cases hLine : cs = 6
    · subst hLine
      exact ⟨_, h.enter_line before s⟩
    · exact ⟨_, h.enter_other hLine hFinal before s⟩

theorem HeaderTables.exec_final
    (h : HeaderTables tables codes firstFinal)
    (before : List UInt8)
    (s : HeaderScan)
    (text : List UInt8) :
    (headersParser tables codes).exec firstFinal before s
        text =
      .out firstFinal (before.length + 1)
        { s with readSize := some before.length } := by
  have hLeave := h.enter_final before s
  unfold RagelMachine.exec
  rw [show (headersParser tables codes).tables = tables
    from rfl, hLeave]

/- The actions within a line store nothing. -/
theorem headersParser_run
    (tables : RagelTables)
    {actions : List Nat}
    (hActions : ∀ a ∈ actions, a < codes.length + 2)
    (before : List UInt8)
    (s : HeaderScan) :
    ∃ t,
      (headersParser tables codes).run before actions s =
          .next t ∧
        t.headers = s.headers ∧ t.readSize = s.readSize := by
  induction actions generalizing s with
  | nil => exact ⟨s, rfl, rfl, rfl⟩
  | cons a actions ih =>
      simp only [List.mem_cons, forall_eq_or_imp] at hActions
      have hOne :
          ∃ u,
            headersAction codes a before s = .next u ∧
              u.headers = s.headers ∧
              u.readSize = s.readSize := by
        unfold headersAction
        simp only
        split
        · exact ⟨_, rfl, rfl, rfl⟩
        · rename_i hBeyond
          have hLe := List.getElem?_eq_none_iff.mp hBeyond
          have hPlace :
              a - codes.length = 0 ∨ a - codes.length = 1 := by
            omega
          rcases hPlace with hZero | hOne
          · rw [hZero]
            exact ⟨_, rfl, rfl, rfl⟩
          · rw [hOne]
            exact ⟨_, rfl, rfl, rfl⟩
      rcases hOne with ⟨u, hAction, hHeaders, hSize⟩
      rcases ih hActions.2 u with
        ⟨t, hRun, hHeadersT, hSizeT⟩
      refine ⟨t, ?_, hHeadersT.trans hHeaders,
        hSizeT.trans hSize⟩
      rw [RagelMachine.run_cons hAction]
      exact hRun

/- A character leads on, or to the error state. -/
theorem HeaderTables.step
    (h : HeaderTables tables codes firstFinal)
    (cs : Nat)
    (before : List UInt8)
    (s : HeaderScan)
    (c : UInt8) :
    ((tables.transition cs c).1 = 0 ∧
      (headersParser tables codes).step cs before s c =
        .stop 0 before.length s) ∨
    ((tables.transition cs c).1 ≠ 0 ∧
      ∃ t,
        (headersParser tables codes).step cs before s c =
            .goto (tables.transition cs c).1 t ∧
          t.headers = s.headers ∧
          t.readSize = s.readSize) := by
  by_cases hTarget : (tables.transition cs c).1 = 0
  · left
    refine ⟨hTarget, ?_⟩
    have hRun :
        (headersParser tables codes).run before
          (tables.transition cs c).2 s = .next s := by
      rw [h.error cs c hTarget]
      rfl
    rw [RagelMachine.step_of_run hRun (h.entered _)]
    exact if_pos hTarget
  · right
    rcases headersParser_run tables (h.actions cs c)
        before s with
      ⟨t, hRun, hHeaders, hSize⟩
    refine ⟨hTarget, t, ?_, hHeaders, hSize⟩
    rw [RagelMachine.step_of_run hRun (h.entered _)]
    exact if_neg hTarget

end Feng

------------------------------------------------------------
-- Reading On From A Line
------------------------------------------------------------

namespace Feng

variable {tables : RagelTables} {codes : List RFC822Header}
variable {firstFinal cs cs' p p' : Nat}
variable {before text : List UInt8} {s t : HeaderScan}
variable {c : UInt8}

/-
  The variables of a scan with so many more characters before
  it, which had come to the end of a line.
-/
structure HeaderScan.Shifted
    (n : Nat)
    (s t : HeaderScan) : Prop where
  headers : s.headers = t.headers
  headerCode : s.headerCode = t.headerCode
  headerStr : s.headerStr = t.headerStr.map (n + ·)
  headerLen : s.headerLen = t.headerLen
  readSize : s.readSize = some (n + t.readSize.getD 0)

theorem gStrndup_shifted
    (added before : List UInt8)
    (start : Option Nat)
    (length : Nat) :
    gStrndup (added ++ before)
        (start.map (added.length + ·)) length =
      gStrndup before start length := by
  cases start with
  | none => rfl
  | some start => simp [gStrndup, ← List.drop_drop]

theorem HeaderScan.Shifted.store
    {added : List UInt8}
    (hShifted : HeaderScan.Shifted added.length s t)
    (before : List UInt8) :
    HeaderScan.Shifted added.length
      (s.store (added ++ before)) (t.store before) := by
  refine ⟨?_, rfl, rfl, rfl, ?_⟩
  · simp only [HeaderScan.store]
    rw [hShifted.headers, hShifted.headerCode,
      hShifted.headerStr, hShifted.headerLen,
      gStrndup_shifted]
  · simp [HeaderScan.store]

theorem headersParser_shifts
    (tables : RagelTables)
    (codes : List RFC822Header)
    (added : List UInt8) :
    (headersParser tables codes).Shifts added
      (HeaderScan.Shifted added.length) := by
  intro a before s t hShifted
  change RagelFlow.Shifted added.length _
    (headersAction codes a (added ++ before) s)
    (headersAction codes a before t)
  unfold headersAction
  simp only
  split
  · exact .next ⟨hShifted.headers, rfl, hShifted.headerStr,
      hShifted.headerLen, hShifted.readSize⟩
  · split
    · refine .next ⟨hShifted.headers, hShifted.headerCode, ?_,
        hShifted.headerLen, hShifted.readSize⟩
      simp
    · refine .next ⟨hShifted.headers, hShifted.headerCode,
        hShifted.headerStr, ?_, hShifted.readSize⟩
      rw [hShifted.headerStr]
      cases t.headerStr with
      | none => simp
      | some start =>
          simp only [Option.map_some, Option.getD_some,
            List.length_append]
          omega
    · exact .next (hShifted.store before)
    · refine .leave ⟨hShifted.headers, hShifted.headerCode,
        hShifted.headerStr, hShifted.headerLen, ?_⟩
      simp

/-
  Behind the end of a line, a block is read as from its start,
  with the headers found so far.
-/
theorem HeaderTables.restart
    (h : HeaderTables tables codes firstFinal)
    (before : List UInt8)
    (s : HeaderScan)
    (c : UInt8)
    (text : List UInt8) :
    RagelResult.Shifted before.length
      (HeaderScan.Shifted before.length)
      ((headersParser tables codes).exec 6 before s
        (c :: text))
      ((headersParser tables codes).exec headersStart []
        (headerScanNew (s.store before).headers)
        (c :: text)) := by
  have hFresh :
      HeaderScan.Shifted before.length (s.store before)
        (headerScanNew (s.store before).headers) :=
    ⟨rfl, rfl, rfl, rfl, rfl⟩
  have hStart : headersStart ≠ firstFinal := by
    have hBounds := h.bounds
    unfold headersStart
    omega
  have hShifts := headersParser_shifts tables codes before
  rw [RagelMachine.exec_cons _ (h.enter_line before s),
    RagelMachine.exec_cons _
      (h.enter_other (by decide) hStart [] _)]
  have hSame :
      (headersParser tables codes).step 6 before
          (s.store before) c =
        (headersParser tables codes).step headersStart
          (before ++ []) (s.store before) c := by
    rw [List.append_nil]
    exact RagelMachine.step_congr (h.again c)
  rw [hSame]
  have hStep :=
    RagelMachine.Shifts.step hShifts headersStart [] hFresh c
  generalize (headersParser tables codes).step headersStart
    (before ++ []) (s.store before) c = left at hStep ⊢
  generalize (headersParser tables codes).step headersStart []
    (headerScanNew (s.store before).headers) c = right
    at hStep ⊢
  cases hStep with
  | stop hStop => exact .out hStop
  | goto hGoto =>
      exact RagelMachine.Shifts.exec hShifts _ [c] hGoto text

/- Where a scan of a header block ends, if it does. -/
theorem HeaderTables.exec_out
    (h : HeaderTables tables codes firstFinal)
    (hOut :
      (headersParser tables codes).exec cs before s text =
        .out cs' p t) :
    (cs' = 0 ∧ before.length ≤ p ∧
      p < before.length + text.length) ∨
    (cs' = firstFinal ∧ t.readSize = some (p - 1) ∧
      before.length + 1 ≤ p ∧
      p ≤ before.length + text.length + 1) := by
  induction text generalizing cs before s with
  | nil =>
      rcases h.enter cs before s with
        hFinal | ⟨entered, hEnter⟩
      · subst hFinal
        rw [h.exec_final] at hOut
        cases hOut
        right
        exact ⟨rfl, rfl, Nat.le_refl _, Nat.le_refl _⟩
      · rw [RagelMachine.exec_nil _ hEnter] at hOut
        cases hOut
  | cons c text ih =>
      simp only [List.length_cons]
      rcases h.enter cs before s with
        hFinal | ⟨entered, hEnter⟩
      · subst hFinal
        rw [h.exec_final] at hOut
        cases hOut
        right
        exact ⟨rfl, rfl, Nat.le_refl _, by omega⟩
      · rw [RagelMachine.exec_cons _ hEnter] at hOut
        rcases h.step cs before entered c with
          ⟨_, hStep⟩ | ⟨_, u, hStep, _, _⟩
        · rw [hStep] at hOut
          cases hOut
          left
          exact ⟨rfl, Nat.le_refl _, by omega⟩
        · rw [hStep] at hOut
          have hRest := ih hOut
          simp only [List.length_append, List.length_cons,
            List.length_nil] at hRest
          rcases hRest with ⟨hZero, hLow, hHigh⟩ |
            ⟨hLast, hSize, hLow, hHigh⟩
          · exact .inl ⟨hZero, by omega, by omega⟩
          · exact .inr ⟨hLast, hSize, by omega, by omega⟩

end Feng
