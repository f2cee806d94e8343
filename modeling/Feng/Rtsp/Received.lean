import Feng.Rtsp.Connection
import Feng.Rtsp.Values

/-
  What the scanners of request lines and of header blocks make
  of the bytes that were received. They stop where they do,
  and compare only then with the number of these bytes: until
  then they read on, in what lies behind.

  A NUL ends every scan that is not over, and some other
  character does not. So what lies behind has no influence
  just where the scan is over within the received bytes.

  Key definitions include:
    * `Independent`
    * `EndsWithin`
    * `OpenTables`

  Key theorems include:
    * `requestLineParser_waits`
    * `OpenTables.waits`
    * `parsing_independent_iff`
    * `parsing_depends`
-/

------------------------------------------------------------
-- Request Lines That Are Not Over
------------------------------------------------------------

namespace Feng

variable {cs : Nat} {before : List UInt8}
variable {s : RequestLineScan}

/- The states of a request line before its end. -/
def InLine (cs : Nat) : Prop :=
  0 < cs ∧ cs < 35

instance decidableInLine : DecidablePred InLine :=
  fun cs => inferInstanceAs (Decidable (0 < cs ∧ cs < 35))

theorem requestLine_inLine :
    ∀ cs c, InLine cs →
      (requestLineTables.transition cs c).1 = 0 ∨
        InLine (requestLineTables.transition cs c).1 ∨
        (requestLineTables.transition cs c).1 = 82 := by
  apply transition_of_states
    (P := fun cs entry => InLine cs →
      entry.1 = 0 ∨ InLine entry.1 ∨ entry.1 = 82)
    (n := 88) (by decide) (by decide)
    (by decide)
  · decide
  · intro cs hBeyond hIn
    have hBound := hIn.2
    omega

theorem requestLine_nul :
    ∀ cs < 35, 0 < cs →
      requestLineTables.transition cs 0 = (0, []) := by
  decide

/- The letter x, or behind a CR another one, is read on. -/
theorem requestLine_goesOn :
    ∀ cs < 35, 0 < cs → ∃ c ∈ [120, chCr],
      InLine (requestLineTables.transition cs c).1 ∧
        ∀ a ∈ (requestLineTables.transition cs c).2,
          a < 19 := by
  decide

theorem requestLine_toState :
    ∀ cs < 35, requestLineTables.toState cs = [] := by
  decide

/- Actions that call no other machine run through. -/
theorem requestLineParser_run
    {actions : List Nat}
    (hActions : ∀ a ∈ actions, a < 19)
    (before : List UInt8)
    (s : RequestLineScan) :
    ∃ t, requestLineParser.run before actions s = .next t := by
  induction actions generalizing s with
  | nil => exact ⟨s, rfl⟩
  | cons a actions ih =>
      simp only [List.mem_cons, forall_eq_or_imp] at hActions
      have hOne :
          ∃ u, requestLineAction a before s = .next u := by
        have hBound := hActions.1
        unfold requestLineAction requestLineSlAction
        split
        · omega
        · omega
        · simp only
          split
          case h_20 => omega
          case h_21 => omega
          case h_24 => omega
          all_goals exact ⟨_, rfl⟩
      rcases hOne with ⟨u, hAction⟩
      rw [RagelMachine.run_cons hAction]
      exact ih hActions.2 u

/- The end of the line ends the scan. -/
theorem requestLineParser_last
    {target : Nat}
    {t : RequestLineScan}
    {c : UInt8}
    (hStep :
      requestLineParser.step cs before s c =
        .goto target t) :
    target ≠ 82 := by
  rintro rfl
  have hTarget := (RagelMachine.step_goto hStep).1
  have hTo : requestLineTables.toState 82 = [25] := by
    decide
  unfold RagelMachine.step at hStep
  simp only [← hTarget] at hStep
  split at hStep
  · cases hStep
  · cases hStep
  · rw [show requestLineParser.tables = requestLineTables
      from rfl, hTo] at hStep
    cases hStep

theorem requestLineParser_waits :
    requestLineParser.Waits InLine (fun _ => False) 0 where
  enter := by
    intro cs before s _
    exact ⟨s, requestLineParser_enter cs before s⟩
  stay := by
    intro cs before s c target t hIn hStep
    rcases RagelMachine.step_goto hStep with
      ⟨hTarget, hNotError⟩
    have hNotLast := requestLineParser_last hStep
    rcases requestLine_inLine cs c hIn with
      hZero | hNext | hLast
    · exact absurd (hTarget.trans hZero) hNotError
    · left
      rw [hTarget]
      exact hNext
    · exact absurd (hTarget.trans hLast) hNotLast
  stops := by
    intro cs before s hIn
    have hNul := requestLine_nul cs hIn.2 hIn.1
    have hRun :
        requestLineParser.run before
          (requestLineParser.tables.transition cs 0).2 s =
            .next s := by
      rw [show requestLineParser.tables = requestLineTables
        from rfl, hNul]
      rfl
    rw [RagelMachine.step_of_run hRun]
    · rw [show requestLineParser.tables = requestLineTables
        from rfl, hNul]
      rfl
    · rw [show requestLineParser.tables = requestLineTables
        from rfl, hNul]
      exact requestLine_toState 0 (by decide)
  goesOn := by
    intro cs before s hIn
    rcases requestLine_goesOn cs hIn.2 hIn.1 with
      ⟨c, _, hNext, hActions⟩
    rcases requestLineParser_run hActions before s with
      ⟨t, hRun⟩
    refine ⟨c, (requestLineTables.transition cs c).1, t, ?_⟩
    rw [RagelMachine.step_of_run hRun
      (requestLine_toState _ hNext.2)]
    exact if_neg (Nat.ne_of_gt hNext.1)
  final := by
    intro _ _ _ _ hFinal
    exact hFinal.elim

end Feng

------------------------------------------------------------
-- Header Blocks That Are Not Over
------------------------------------------------------------

namespace Feng

variable {tables : RagelTables} {codes : List RFC822Header}
variable {firstFinal : Nat}

/-
  No state is behind the final one, and in those before it a
  NUL is an error, while some other character is not.
-/
structure OpenTables
    (tables : RagelTables)
    (codes : List RFC822Header)
    (firstFinal : Nat) : Prop
    extends HeaderTables tables codes firstFinal where
  bound : ∀ cs c,
    (tables.transition cs c).1 ≤ firstFinal
  nul : ∀ cs < firstFinal, 0 < cs →
    (tables.transition cs 0).1 = 0
  goesOn : ∀ cs < firstFinal, 0 < cs → ∃ c,
    (tables.transition cs c).1 ≠ 0

/- Characters of which one is read on in every state. -/
def readOn : List UInt8 :=
  [120, 58, 13, 10, 32]

theorem rtspOpenTables :
    OpenTables rtspHeadersTables rtspHeaderCodes
      rtspHeadersFirstFinal where
  toHeaderTables := rtspHeaderTables
  bound := by
    apply transition_of_forall
      (P := fun entry => entry.1 ≤ rtspHeadersFirstFinal)
      (n := 400) (by decide) (by decide)
      (by decide)
    · decide +kernel
    · decide
  nul := by decide +kernel
  goesOn := by
    have hAll : ∀ cs < rtspHeadersFirstFinal, 0 < cs →
        ∃ c ∈ readOn,
          (rtspHeadersTables.transition cs c).1 ≠ 0 := by
      decide +kernel
    intro cs hBound hPos
    rcases hAll cs hBound hPos with ⟨c, _, hOn⟩
    exact ⟨c, hOn⟩

theorem httpOpenTables :
    OpenTables httpHeadersTables httpHeaderCodes
      httpHeadersFirstFinal where
  toHeaderTables := httpHeaderTables
  bound := by
    apply transition_of_forall
      (P := fun entry => entry.1 ≤ httpHeadersFirstFinal)
      (n := 400) (by decide) (by decide)
      (by decide)
    · decide +kernel
    · decide
  nul := by decide
  goesOn := by
    have hAll : ∀ cs < httpHeadersFirstFinal, 0 < cs →
        ∃ c ∈ readOn,
          (httpHeadersTables.transition cs c).1 ≠ 0 := by
      decide
    intro cs hBound hPos
    rcases hAll cs hBound hPos with ⟨c, _, hOn⟩
    exact ⟨c, hOn⟩

theorem OpenTables.waits
    (h : OpenTables tables codes firstFinal) :
    (headersParser tables codes).Waits
      (fun cs => 0 < cs ∧ cs < firstFinal)
      (fun cs => cs = firstFinal) 0 where
  enter := by
    rintro cs before s ⟨_, hBefore⟩
    rcases h.enter cs before s with hFinal | hEntered
    · omega
    · exact hEntered
  stay := by
    intro cs before s c target t _ hStep
    rcases RagelMachine.step_goto hStep with
      ⟨hTarget, hNotError⟩
    have hBound := h.bound cs c
    change target = (tables.transition cs c).1 at hTarget
    omega
  stops := by
    rintro cs before s ⟨hPos, hBefore⟩
    rcases h.step cs before s 0 with
      ⟨_, hStep⟩ | ⟨hNot, _⟩
    · exact hStep
    · exact absurd (h.nul cs hBefore hPos) hNot
  goesOn := by
    rintro cs before s ⟨hPos, hBefore⟩
    rcases h.goesOn cs hBefore hPos with ⟨c, hOn⟩
    rcases h.step cs before s c with
      ⟨hZero, _⟩ | ⟨_, t, hStep, _⟩
    · exact absurd hZero hOn
    · exact ⟨c, _, t, hStep⟩
  final := by
    rintro cs before s text rfl
    exact ⟨_, _, h.exec_final before s text⟩

end Feng

------------------------------------------------------------
-- What Lies Behind
------------------------------------------------------------

namespace Feng

variable {msg behind : List UInt8} {req : RFC822Request}
variable {headers : RFC822Headers} {readSize : Nat}

/- All that can lie behind gives the same result. -/
def Independent
    {ρ : Type}
    (parse : List UInt8 → Option ρ) : Prop :=
  ∀ behind other result result',
    parse behind = some result →
      parse other = some result' → result = result'

/- The scan is over before it has read all bytes. -/
def EndsWithin
    {σ : Type}
    (machine : RagelMachine σ)
    (start : Nat)
    (s : σ)
    (msg : List UInt8) : Prop :=
  ∃ cs p t, machine.exec start [] s msg = .out cs p t

theorem exec_eof_of_not
    {σ : Type}
    {machine : RagelMachine σ}
    {start : Nat}
    {s : σ}
    (hNot : ¬ EndsWithin machine start s msg) :
    ∃ cs p t, machine.exec start [] s msg = .eof cs p t := by
  cases hExec : machine.exec start [] s msg with
  | eof cs p t => exact ⟨cs, p, t, rfl⟩
  | out cs p t => exact absurd ⟨cs, p, t, hExec⟩ hNot

/- A line that is over is the same whatever lies behind. -/
theorem ragelParseRequestLine_within
    (req : RFC822Request)
    (behind : List UInt8)
    (hEnds :
      EndsWithin requestLineParser requestLineStart
        requestLineScanNew msg) :
    ragelParseRequestLine msg behind req =
      ragelParseRequestLine msg [] req := by
  rcases hEnds with ⟨cs, p, scan, hOut⟩
  have hLength :
      ([] : List UInt8).length + msg.length ≤ msg.length :=
    Nat.le_of_eq (Nat.zero_add _)
  have hWithin :
      scan.Within msg.length := by
    have hKept :=
      (requestLineParser_keeps msg.length).exec hLength
        (requestLineScanNew_within msg.length)
        requestLineStart
    rw [hOut] at hKept
    exact hKept
  unfold ragelParseRequestLine
  rw [RagelMachine.exec_append, List.append_nil, hOut]
  simp only
  rw [requestOfScan_append hWithin]

theorem ragelParseRequestLine_depends
    (req : RFC822Request)
    (hNot :
      ¬ EndsWithin requestLineParser requestLineStart
        requestLineScanNew msg) :
    ∃ behind,
      ragelParseRequestLine msg [0] req = some (0, req) ∧
        ragelParseRequestLine msg behind req =
          some (-1, req) := by
  rcases exec_eof_of_not hNot with ⟨cs, p, t, hEof⟩
  have hStart : InLine requestLineStart := by
    decide
  rcases requestLineParser_waits.ends_at hStart hEof with
    ⟨u, hFirst⟩
  rcases requestLineParser_waits.ends_behind hStart hEof with
    ⟨c, target, q, v, hSecond, hLast⟩
  rcases hLast with hFinal | ⟨rfl, rfl⟩
  · exact hFinal.elim
  refine ⟨[c, 0], ?_, ?_⟩
  · unfold ragelParseRequestLine
    rw [hFirst, List.nil_append]
    simp [requestLineFirstFinal]
  · unfold ragelParseRequestLine
    rw [hSecond, List.nil_append]
    simp [requestLineFirstFinal]

theorem ragelReadHeaders_within
    {parser : RagelMachine HeaderScan}
    (firstFinal readSize : Nat)
    (behind : List UInt8)
    (hEnds :
      EndsWithin parser headersStart (headerScanNew headers)
        msg) :
    ragelReadHeaders parser firstFinal headers msg behind
        readSize =
      ragelReadHeaders parser firstFinal headers msg []
        readSize := by
  rcases hEnds with ⟨cs, p, scan, hOut⟩
  unfold ragelReadHeaders
  rw [RagelMachine.exec_append, List.append_nil, hOut]

theorem OpenTables.depends
    {tables : RagelTables}
    {codes : List RFC822Header}
    {firstFinal : Nat}
    (h : OpenTables tables codes firstFinal)
    (readSize : Nat)
    (hNot :
      ¬ EndsWithin (headersParser tables codes) headersStart
        (headerScanNew headers) msg) :
    ∃ behind first second,
      ragelReadHeaders (headersParser tables codes) firstFinal
          headers msg [0] readSize =
        some (0, first) ∧
      ∃ result,
        ragelReadHeaders (headersParser tables codes)
            firstFinal headers msg behind readSize =
          some (result, second) ∧ result ≠ 0 := by
  rcases exec_eof_of_not hNot with ⟨cs, p, t, hEof⟩
  have hBounds := h.bounds
  have hStart : 0 < headersStart ∧ headersStart < firstFinal := by
    unfold headersStart
    omega
  rcases h.waits.ends_at hStart hEof with ⟨u, hFirst⟩
  rcases h.waits.ends_behind hStart hEof with
    ⟨c, target, q, v, hSecond, hLast⟩
  refine ⟨[c, 0], (u.headers, u.readSize.getD readSize),
    (v.headers, v.readSize.getD readSize), ?_, ?_⟩
  · unfold ragelReadHeaders
    rw [hFirst, List.nil_append]
    simp only
    rw [if_pos (by omega), if_true]
  · unfold ragelReadHeaders
    rw [hSecond]
    rcases hLast with rfl | ⟨rfl, rfl⟩
    · refine ⟨1, ?_, by decide⟩
      simp only
      rw [if_neg (Nat.lt_irrefl _)]
    · refine ⟨-1, ?_, by decide⟩
      rw [List.nil_append]
      simp only
      rw [if_pos (by omega), if_neg (by omega)]

/-
  What lies behind the received bytes has no influence if and
  only if the scan is over within them: at an error, or at the
  end of the line or of the block.
-/
theorem parsing_independent_iff
    (msg : List UInt8)
    (req : RFC822Request)
    (headers : RFC822Headers)
    (readSize : Nat) :
    (Independent
        (fun behind => ragelParseRequestLine msg behind req) ↔
      EndsWithin requestLineParser requestLineStart
        requestLineScanNew msg) ∧
    (Independent
        (fun behind =>
          ragelReadRtspHeaders headers msg behind readSize) ↔
      EndsWithin rtspHeadersParser headersStart
        (headerScanNew headers) msg) := by
  constructor
  · constructor
    · intro hSame
      by_contra hNot
      rcases ragelParseRequestLine_depends req hNot with
        ⟨behind, hFirst, hSecond⟩
      exact absurd (hSame [0] behind _ _ hFirst hSecond)
        (by simp)
    · intro hEnds behind other result result' hOne hTwo
      simp only at hOne hTwo
      rw [ragelParseRequestLine_within req _ hEnds] at hOne hTwo
      rw [hOne] at hTwo
      exact Option.some.inj hTwo
  · constructor
    · intro hSame
      by_contra hNot
      rcases rtspOpenTables.depends readSize hNot with
        ⟨behind, first, second, hFirst, result, hSecond, hNe⟩
      have hEq := hSame [0] behind _ _ hFirst hSecond
      exact hNe (congrArg Prod.fst hEq).symm
    · intro hEnds behind other result result' hOne hTwo
      simp only [ragelReadRtspHeaders] at hOne hTwo
      rw [ragelReadHeaders_within _ _ _ hEnds] at hOne hTwo
      rw [hOne] at hTwo
      exact Option.some.inj hTwo

/- A request line of which the last byte has not come yet. -/
def unendedLine : List UInt8 :=
  ascii "OPTIONS * RTSP/1.0" ++ [chCr]

/- It is a request, or not, by the byte that lies behind. -/
theorem parsing_depends :
    (∃ req,
      ragelParseRequestLine unendedLine [chLf] tmpreq =
        some (20, req)) ∧
      ragelParseRequestLine unendedLine [0] tmpreq =
        some (0, tmpreq) ∧
      ¬ Independent
        (fun behind =>
          ragelParseRequestLine unendedLine behind tmpreq) := by
  have hFirst :
      ragelParseRequestLine unendedLine [chLf] tmpreq =
        some (20, { tmpreq with
          proto := .rtsp10
          methodId := RTSPMethod.options
          methodStr := some (ascii "OPTIONS")
          protocolStr := some (ascii "RTSP/1.0")
          object := some (ascii "*") }) := by
    decide +kernel
  have hSecond :
      ragelParseRequestLine unendedLine [0] tmpreq =
        some (0, tmpreq) := by
    decide +kernel
  refine ⟨⟨_, hFirst⟩, hSecond, ?_⟩
  intro hSame
  have hEq := hSame [chLf] [0] _ _ hFirst hSecond
  exact absurd (congrArg Prod.fst hEq) (by decide)

end Feng
