import Feng.Rtsp.Received

/-
  What is consumed of the input once a header block was read:
  its complete lines, and the empty line that ends it. The
  size of these is set at the end of every line, so that it is
  not set before the first one, and where the end of the block
  is found behind the received bytes it counts those as well.

  Key definitions include:
    * `HeaderLines`
    * `LineTables`
    * `Consumes`
    * `Countable`

  Key theorems include:
    * `LineTables.scanned`
    * `LineTables.ends`
    * `headers_consumed_iff`
    * `headers_overconsumed`
-/

------------------------------------------------------------
-- Lines Of A Header Block
------------------------------------------------------------

namespace Feng

/- A line that ends a header block. -/
def EmptyLine (line : List UInt8) : Prop :=
  ∃ n, line = List.replicate n chCr ++ [chLf]

/- Another line, with its end. -/
structure HeaderLine (line : List UInt8) : Prop where
  ends : ∃ body, line = body ++ [chLf] ∧ chLf ∉ body
  notEmpty : ¬ EmptyLine line

inductive HeaderLines : List UInt8 → Prop where
| nil : HeaderLines []
| snoc {lines line : List UInt8} :
    HeaderLines lines → HeaderLine line →
      HeaderLines (lines ++ line)

theorem HeaderLines.mem_lf
    {lines : List UInt8}
    (h : HeaderLines lines)
    (hSome : lines ≠ []) :
    chLf ∈ lines := by
  cases h with
  | nil => exact absurd rfl hSome
  | snoc _ hLine =>
      rcases hLine.ends with ⟨body, rfl, _⟩
      simp

/- Something else than a CR makes a line that is not empty. -/
theorem headerLine_of_mem
    {body : List UInt8}
    {c : UInt8}
    (hBody : chLf ∉ body)
    (hMem : c ∈ body)
    (hNe : c ≠ chCr) :
    HeaderLine (body ++ [chLf]) where
  ends := ⟨body, rfl, hBody⟩
  notEmpty := by
    rintro ⟨n, hEmpty⟩
    rw [List.append_cancel_right hEmpty] at hMem
    exact hNe (List.eq_of_mem_replicate hMem)

end Feng

------------------------------------------------------------
-- Where Lines End
------------------------------------------------------------

namespace Feng

variable {tables : RagelTables} {codes : List RFC822Header}
variable {firstFinal cs : Nat} {c : UInt8}

/- The states at the start of a line, or behind a CR there. -/
def AtStart (cs : Nat) : Prop :=
  cs = 1 ∨ cs = 2 ∨ cs = 6

instance decidableAtStart : DecidablePred AtStart :=
  fun cs =>
    inferInstanceAs (Decidable (cs = 1 ∨ cs = 2 ∨ cs = 6))

/- What a character is that leads to the start of a line. -/
structure LineStep
    (tables : RagelTables)
    (firstFinal cs : Nat)
    (c : UInt8) : Prop where
  line : (tables.transition cs c).1 = 6 →
    c = chLf ∧ ¬ AtStart cs
  final : (tables.transition cs c).1 = firstFinal →
    c = chLf ∧ AtStart cs
  cr : (tables.transition cs c).1 = 2 →
    c = chCr ∧ AtStart cs
  start : (tables.transition cs c).1 ≠ 1

/- What the entries of a state are that lead there. -/
def EntryStep
    (firstFinal cs low high target : Nat) : Prop :=
  (target = 6 → low = 10 ∧ high = 10 ∧ ¬ AtStart cs) ∧
    (target = firstFinal →
      low = 10 ∧ high = 10 ∧ AtStart cs) ∧
    (target = 2 → low = 13 ∧ high = 13 ∧ AtStart cs) ∧
    target ≠ 1

instance decidableEntryStep
    (firstFinal cs low high target : Nat) :
    Decidable (EntryStep firstFinal cs low high target) :=
  inferInstanceAs
    (Decidable
      ((target = 6 → low = 10 ∧ high = 10 ∧ ¬ AtStart cs) ∧
        (target = firstFinal →
          low = 10 ∧ high = 10 ∧ AtStart cs) ∧
        (target = 2 → low = 13 ∧ high = 13 ∧ AtStart cs) ∧
        target ≠ 1))

structure LineTables
    (tables : RagelTables)
    (codes : List RFC822Header)
    (firstFinal : Nat) : Prop
    extends OpenTables tables codes firstFinal where
  steps : ∀ cs c, 0 < cs → cs < firstFinal →
    LineStep tables firstFinal cs c
  lf : ∀ cs < firstFinal, 0 < cs →
    (tables.transition cs chLf).1 = 0 ∨
      (tables.transition cs chLf).1 = 6 ∨
      (tables.transition cs chLf).1 = firstFinal
  cr : ∀ cs < firstFinal, AtStart cs →
    (tables.transition cs chCr).1 = 2
  empty : ∀ cs < firstFinal, AtStart cs →
    (tables.transition cs chLf).1 = firstFinal

theorem lineStep_of_row
    (hSorted : tables.SinglesSorted cs)
    (hRow : ∀ entry ∈ tables.row cs,
      EntryStep firstFinal cs entry.low entry.high
        entry.target)
    (hDefault :
      (tables.rowDefault cs).1 ∉ [1, 2, 6, firstFinal])
    (c : UInt8) :
    LineStep tables firstFinal cs c := by
  rcases RagelTables.transition_mem hSorted c with
    ⟨entry, hEntry, hMatches, hIs⟩ | hIs
  · rcases hRow entry hEntry with
      ⟨hLine, hFinal, hCr, hStart⟩
    rcases hMatches with ⟨hLow, hHigh, _⟩
    have hChar : ∀ n : Nat,
        entry.low = n ∧ entry.high = n →
          c = UInt8.ofNat n := by
      rintro n ⟨hFrom, hTo⟩
      have hEq : c.toNat = n := by omega
      rw [← hEq, UInt8.ofNat_toNat]
    constructor
    · rw [hIs]
      intro hTarget
      have hOnly := hLine hTarget
      exact ⟨hChar 10 ⟨hOnly.1, hOnly.2.1⟩,
        hOnly.2.2⟩
    · rw [hIs]
      intro hTarget
      have hOnly := hFinal hTarget
      exact ⟨hChar 10 ⟨hOnly.1, hOnly.2.1⟩,
        hOnly.2.2⟩
    · rw [hIs]
      intro hTarget
      have hOnly := hCr hTarget
      exact ⟨hChar 13 ⟨hOnly.1, hOnly.2.1⟩,
        hOnly.2.2⟩
    · rw [hIs]
      exact hStart
  · simp only [List.mem_cons, List.not_mem_nil, or_false,
      not_or] at hDefault
    rw [← hIs] at hDefault
    exact ⟨fun hTo => absurd hTo hDefault.2.2.1,
      fun hTo => absurd hTo hDefault.2.2.2,
      fun hTo => absurd hTo hDefault.2.1, hDefault.1⟩

/- Only some states lead to the start of a line. -/
theorem lineStep_of_forall
    (states : List Nat)
    (hStates : ∀ cs ∈ states,
      tables.SinglesSorted cs ∧
        (∀ entry ∈ tables.row cs,
          EntryStep firstFinal cs entry.low entry.high
            entry.target) ∧
        (tables.rowDefault cs).1 ∉ [1, 2, 6, firstFinal])
    (hOthers : ∀ cs < firstFinal, cs ∉ 0 :: states → ∀ i,
      i < tables.singleLengths.get cs +
          tables.rangeLengths.get cs + 1 →
        (tables.transAt
          (tables.indexOffsets.get cs + i)).1 ∉
            [1, 2, 6, firstFinal])
    (cs : Nat)
    (c : UInt8)
    (hPos : 0 < cs)
    (hBound : cs < firstFinal) :
    LineStep tables firstFinal cs c := by
  by_cases hCs : cs ∈ states
  · rcases hStates cs hCs with ⟨hSorted, hRow, hDefault⟩
    exact lineStep_of_row hSorted hRow hDefault c
  · have hOther : cs ∉ 0 :: states := by
      rw [List.mem_cons]
      rintro (rfl | hMem)
      · exact absurd hPos (Nat.lt_irrefl 0)
      · exact hCs hMem
    have hNot :
        (tables.transition cs c).1 ∉
          [1, 2, 6, firstFinal] :=
      RagelTables.transition_of_places
        (P := fun entry => entry.1 ∉ [1, 2, 6, firstFinal])
        (hOthers cs hBound hOther) c
    simp only [List.mem_cons, List.not_mem_nil, or_false,
      not_or] at hNot
    exact ⟨fun hIs => absurd hIs hNot.2.2.1,
      fun hIs => absurd hIs hNot.2.2.2,
      fun hIs => absurd hIs hNot.2.1, hNot.1⟩

theorem rtspLineTables :
    LineTables rtspHeadersTables rtspHeaderCodes
      rtspHeadersFirstFinal where
  toOpenTables := rtspOpenTables
  steps :=
    lineStep_of_forall [1, 2, 5, 6, 163, 164]
      (by decide +kernel) (by decide +kernel)
  lf := by decide +kernel
  cr := by decide +kernel
  empty := by decide +kernel

theorem httpLineTables :
    LineTables httpHeadersTables httpHeaderCodes
      httpHeadersFirstFinal where
  toOpenTables := httpOpenTables
  steps :=
    lineStep_of_forall [1, 2, 5, 6, 92, 93]
      (by decide) (by decide)
  lf := by decide
  cr := by decide
  empty := by decide

end Feng

------------------------------------------------------------
-- What A Scan Has Consumed
------------------------------------------------------------

namespace Feng

variable {tables : RagelTables} {codes : List RFC822Header}
variable {firstFinal cs p : Nat} {c : UInt8}
variable {headers headers' : RFC822Headers}
variable {msg text lines rest : List UInt8}
variable {s t entered : HeaderScan}

/- The header table after a block of just these lines. -/
def StoredBy
    (parser : RagelMachine HeaderScan)
    (firstFinal : Nat)
    (headers : RFC822Headers)
    (lines : List UInt8)
    (headers' : RFC822Headers) : Prop :=
  ragelReadHeaders parser firstFinal headers
      (lines ++ [chLf]) [] 0 =
    some (1, headers', (lines ++ [chLf]).length)

/- How an empty line ends a scan. -/
theorem LineTables.exec_empty
    (h : LineTables tables codes firstFinal)
    (hBound : cs < firstFinal)
    (hStart : AtStart cs)
    (hEof :
      (headersParser tables codes).exec headersStart []
        (headerScanNew headers) text = .eof cs p s)
    (hEnter :
      (headersParser tables codes).run text
        (tables.fromState cs) s = .next entered) :
    ∃ u : HeaderScan,
      (headersParser tables codes).exec headersStart []
          (headerScanNew headers) (text ++ [chLf]) =
        .out firstFinal ((text ++ [chLf]).length + 1)
          { u with
            readSize := some (text ++ [chLf]).length } ∧
      u.headers = entered.headers := by
  have hTarget := h.empty cs hBound hStart
  have hBounds := h.bounds
  rcases h.step cs text entered chLf with
    ⟨hZero, _⟩ | ⟨_, u, hStep, hHeaders, _⟩
  · omega
  · refine ⟨u, ?_, hHeaders⟩
    rw [hTarget] at hStep
    rw [RagelMachine.exec_append, hEof]
    simp only [List.nil_append]
    rw [RagelMachine.exec_cons _ hEnter, hStep]
    exact h.exec_final (text ++ [chLf]) u []

theorem LineTables.stored
    (h : LineTables tables codes firstFinal)
    (hBound : cs < firstFinal)
    (hStart : AtStart cs)
    (hEof :
      (headersParser tables codes).exec headersStart []
        (headerScanNew headers) lines = .eof cs p s)
    (hEnter :
      (headersParser tables codes).run lines
        (tables.fromState cs) s = .next entered) :
    StoredBy (headersParser tables codes) firstFinal headers
      lines entered.headers := by
  rcases h.exec_empty hBound hStart hEof hEnter with
    ⟨u, hOut, hHeaders⟩
  unfold StoredBy ragelReadHeaders
  rw [List.append_nil, hOut]
  simp only [Nat.lt_irrefl, if_false, Option.getD_some,
    hHeaders]

/-
  Where a scan has come to, with its variables once it goes on
  there: behind so many lines, which are stored, and within
  another one.
-/
structure Scanned
    (parser : RagelMachine HeaderScan)
    (firstFinal : Nat)
    (headers : RFC822Headers)
    (text lines rest : List UInt8)
    (cs : Nat)
    (entered : HeaderScan) : Prop where
  splits : text = lines ++ rest
  complete : HeaderLines lines
  unended : chLf ∉ rest
  start : AtStart cs → ∃ n, rest = List.replicate n chCr
  behind : ¬ AtStart cs → ∃ c ∈ rest, c ≠ chCr
  size : ∀ readSize, entered.readSize.getD readSize =
    if lines = [] then readSize else lines.length
  stored :
    StoredBy parser firstFinal headers lines entered.headers

/- A line has ended. -/
theorem Scanned.line
    {parser : RagelMachine HeaderScan}
    (hScanned :
      Scanned parser firstFinal headers text lines rest cs s)
    (hBehind : ¬ AtStart cs)
    (hStored :
      StoredBy parser firstFinal headers (text ++ [chLf])
        (t.store (text ++ [chLf])).headers) :
    Scanned parser firstFinal headers (text ++ [chLf])
      (text ++ [chLf]) [] 6 (t.store (text ++ [chLf])) where
  splits := (List.append_nil _).symm
  complete := by
    rcases hScanned.behind hBehind with ⟨c, hMem, hNe⟩
    rw [hScanned.splits, List.append_assoc]
    exact .snoc hScanned.complete
      (headerLine_of_mem hScanned.unended hMem hNe)
  unended := List.not_mem_nil
  start := by
    intro _
    exact ⟨0, rfl⟩
  behind := by
    intro hNot
    exact absurd (by decide) hNot
  size := by
    intro readSize
    rw [if_neg (by simp)]
    rfl
  stored := hStored

/- Another character of the line was read. -/
theorem Scanned.read
    {parser : RagelMachine HeaderScan}
    {target : Nat}
    (hScanned :
      Scanned parser firstFinal headers text lines rest cs s)
    (hNotLf : c ≠ chLf)
    (hCr : AtStart cs → c = chCr → AtStart target)
    (hStart : AtStart target → AtStart cs ∧ c = chCr)
    (hHeaders : t.headers = s.headers)
    (hSize : t.readSize = s.readSize) :
    Scanned parser firstFinal headers (text ++ [c]) lines
      (rest ++ [c]) target t where
  splits := by
    rw [hScanned.splits, List.append_assoc]
  complete := hScanned.complete
  unended := by
    simp only [List.mem_append, List.mem_singleton, not_or]
    exact ⟨hScanned.unended, Ne.symm hNotLf⟩
  start := by
    intro hTarget
    rcases hStart hTarget with ⟨hCs, rfl⟩
    rcases hScanned.start hCs with ⟨n, rfl⟩
    exact ⟨n + 1, List.replicate_succ'.symm⟩
  behind := by
    intro hTarget
    by_cases hCs : AtStart cs
    · refine ⟨c, by simp, ?_⟩
      intro hIs
      exact hTarget (hCr hCs hIs)
    · rcases hScanned.behind hCs with ⟨d, hMem, hNe⟩
      exact ⟨d, List.mem_append_left _ hMem, hNe⟩
  size := by
    rw [hSize]
    exact hScanned.size
  stored := by
    rw [hHeaders]
    exact hScanned.stored

end Feng

------------------------------------------------------------
-- Scans Of Header Blocks
------------------------------------------------------------

namespace Feng

variable {tables : RagelTables} {codes : List RFC822Header}
variable {firstFinal cs p : Nat} {c : UInt8}
variable {headers : RFC822Headers}
variable {msg text behind : List UInt8}
variable {s t entered : HeaderScan}

theorem LineTables.live
    (h : LineTables tables codes firstFinal)
    (hEof :
      (headersParser tables codes).exec headersStart []
        (headerScanNew headers) text = .eof cs p s) :
    0 < cs ∧ cs < firstFinal := by
  have hBounds := h.bounds
  apply h.waits.live _ hEof
  unfold headersStart
  omega

theorem LineTables.enter_live
    (h : LineTables tables codes firstFinal)
    (hBound : cs < firstFinal)
    (text : List UInt8)
    (s : HeaderScan) :
    ∃ entered,
      (headersParser tables codes).run text
        (tables.fromState cs) s = .next entered := by
  rcases h.enter cs text s with hFinal | hEntered
  · omega
  · exact hEntered

/- Where a scan comes to that is not over. -/
theorem LineTables.scanned
    (h : LineTables tables codes firstFinal)
    (hEof :
      (headersParser tables codes).exec headersStart []
        (headerScanNew headers) text = .eof cs p s)
    (hEnter :
      (headersParser tables codes).run text
        (tables.fromState cs) s = .next entered) :
    ∃ lines rest,
      Scanned (headersParser tables codes) firstFinal headers
        text lines rest cs entered := by
  have hLive := h.live hEof
  induction text using List.reverseRecOn
      generalizing cs p s entered with
  | nil =>
      have hBounds := h.bounds
      have hOpen :
          (headersParser tables codes).run []
            (tables.fromState headersStart)
            (headerScanNew headers) =
              .next (headerScanNew headers) :=
        h.enter_other (by decide)
          (by unfold headersStart; omega) [] _
      have hNil :=
        RagelMachine.exec_nil (headersParser tables codes) hOpen
      rw [hNil] at hEof
      cases hEof
      rw [hOpen] at hEnter
      cases hEnter
      refine ⟨[], [], rfl, .nil, List.not_mem_nil, ?_, ?_, ?_,
        ?_⟩
      · intro _
        exact ⟨0, rfl⟩
      · intro hNot
        exact absurd (by decide) hNot
      · intro readSize
        rfl
      · exact h.stored hLive.2 (by decide) hNil hOpen
  | append_singleton text c ih =>
      rcases RagelMachine.exec_snoc_eof hEof with
        ⟨last, q, u, before, hLast, hBefore, hStep⟩
      have hLastLive := h.live hLast
      rcases ih hLast hBefore hLastLive with
        ⟨lines, rest, hScanned⟩
      rw [List.nil_append] at hStep
      have hTarget := (RagelMachine.step_goto hStep).1
      change cs = (tables.transition last c).1 at hTarget
      have hHow := h.steps last c hLastLive.1 hLastLive.2
      by_cases hLf : c = chLf
      · subst hLf
        have hLine : cs = 6 := by
          have hTargets := h.lf last hLastLive.2 hLastLive.1
          rw [← hTarget] at hTargets
          omega
        subst hLine
        have hStored :=
          h.stored hLive.2 (by decide) hEof hEnter
        rw [h.enter_line] at hEnter
        cases hEnter
        exact ⟨_, _,
          hScanned.line (hHow.line hTarget.symm).2 hStored⟩
      · have hNotLine : cs ≠ 6 := by
          intro hIs
          exact hLf (hHow.line (hTarget.symm.trans hIs)).1
        rw [h.enter_other hNotLine (Nat.ne_of_lt hLive.2)]
          at hEnter
        cases hEnter
        have hKept :
            s.headers = before.headers ∧
              s.readSize = before.readSize := by
          rcases h.step last text before c with
            ⟨_, hStop⟩ | ⟨_, v, hGoto, hHeaders, hSize⟩
          · rw [hStop] at hStep
            cases hStep
          · rw [hGoto] at hStep
            cases hStep
            exact ⟨hHeaders, hSize⟩
        refine ⟨lines, rest ++ [c],
          hScanned.read hLf ?_ ?_ hKept.1 hKept.2⟩
        · rintro hStart rfl
          rw [hTarget, h.cr last hLastLive.2 hStart]
          decide
        · rintro (hOne | hTwo | hSix)
          · exact absurd (hTarget.symm.trans hOne) hHow.start
          · exact (hHow.cr (hTarget.symm.trans hTwo)).symm
          · exact absurd hSix hNotLine

end Feng

------------------------------------------------------------
-- How A Scan Of A Header Block Ends
------------------------------------------------------------

namespace Feng

variable {tables : RagelTables} {codes : List RFC822Header}
variable {firstFinal cs p : Nat} {c : UInt8}
variable {headers : RFC822Headers}
variable {first text : List UInt8}
variable {s t entered : HeaderScan}

/- The scan was over on a character behind the first ones. -/
inductive EndsScan
    (firstFinal : Nat)
    (first : List UInt8)
    (c : UInt8)
    (last : Nat)
    (entered : HeaderScan) :
    Nat → Nat → HeaderScan → Prop where
| error :
    EndsScan firstFinal first c last entered
      0 first.length entered
| block {p : Nat} {t : HeaderScan} :
    c = chLf →
      AtStart last →
      t.headers = entered.headers →
      t.readSize = some (first.length + 1) →
      EndsScan firstFinal first c last entered firstFinal p t

theorem LineTables.endsScan
    (h : LineTables tables codes firstFinal)
    {last : Nat}
    (hLive : 0 < last ∧ last < firstFinal)
    (hEnter :
      (headersParser tables codes).run first
        (tables.fromState last) s = .next entered)
    (hOut :
      (headersParser tables codes).exec last first s [c] =
        .out cs p t) :
    EndsScan firstFinal first c last entered cs p t := by
  rw [RagelMachine.exec_cons _ hEnter] at hOut
  rcases h.step last first entered c with
    ⟨_, hStop⟩ | ⟨_, u, hGoto, hHeaders, _⟩
  · rw [hStop] at hOut
    cases hOut
    exact .error
  · rw [hGoto] at hOut
    simp only at hOut
    have hHow := h.steps last c hLive.1 hLive.2
    rcases h.enter (tables.transition last c).1 (first ++ [c])
        u with hFinal | ⟨v, hNext⟩
    · rw [hFinal, h.exec_final] at hOut
      cases hOut
      have hWhere := hHow.final hFinal
      exact .block hWhere.1 hWhere.2 hHeaders
        (congrArg some List.length_append)
    · rw [RagelMachine.exec_nil _ hNext] at hOut
      cases hOut

/- A scan that is over has come to the last character. -/
theorem LineTables.ends
    (h : LineTables tables codes firstFinal)
    (hOut :
      (headersParser tables codes).exec headersStart []
        (headerScanNew headers) text = .out cs p t) :
    ∃ first c rest lines line last entered,
      text = first ++ c :: rest ∧
      (headersParser tables codes).exec headersStart []
        (headerScanNew headers) (first ++ [c]) =
          .out cs p t ∧
      Scanned (headersParser tables codes) firstFinal headers
        first lines line last entered ∧
      EndsScan firstFinal first c last entered cs p t := by
  have hStart : headersStart < firstFinal := by
    have hBounds := h.bounds
    unfold headersStart
    omega
  rcases h.enter_live hStart [] (headerScanNew headers) with
    ⟨opened, hOpened⟩
  rcases RagelMachine.exec_first_out
      (RagelMachine.exec_nil _ hOpened) hOut with
    ⟨first, c, rest, last, q, u, hText, hEof, hOver⟩
  have hLive := h.live hEof
  rcases h.enter_live hLive.2 first u with ⟨entered, hEnter⟩
  rcases h.scanned hEof hEnter with ⟨lines, line, hScanned⟩
  refine ⟨first, c, rest, lines, line, last, entered, hText,
    hOver, hScanned, ?_⟩
  rw [RagelMachine.exec_append, hEof] at hOver
  exact h.endsScan hLive hEnter hOver

end Feng

------------------------------------------------------------
-- Exact Consumption
------------------------------------------------------------

namespace Feng

variable {tables : RagelTables} {codes : List RFC822Header}
variable {firstFinal readSize size : Nat}
variable {headers headers' : RFC822Headers}
variable {msg behind : List UInt8} {result : Int}

/-
  The lines that were stored, the empty line behind them if
  the block is over, and what is left when the bytes of both
  are removed, as those that read a block do.
-/
structure Consumed
    (parser : RagelMachine HeaderScan)
    (firstFinal : Nat)
    (headers : RFC822Headers)
    (msg : List UInt8)
    (result : Int)
    (headers' : RFC822Headers)
    (size : Nat)
    (lines empty rest : List UInt8) : Prop where
  splits : msg = lines ++ empty ++ rest
  complete : HeaderLines lines
  unended : result = 0 → empty = [] ∧ chLf ∉ rest
  ended : result = 1 → EmptyLine empty
  stored : StoredBy parser firstFinal headers lines headers'
  counted : size = (lines ++ empty).length
  left : gByteArrayRemoveRange msg size = rest

def Consumes
    (parser : RagelMachine HeaderScan)
    (firstFinal : Nat)
    (headers : RFC822Headers)
    (msg : List UInt8)
    (result : Int)
    (headers' : RFC822Headers)
    (size : Nat) : Prop :=
  ∃ lines empty rest,
    Consumed parser firstFinal headers msg result headers'
      size lines empty rest

/- A text begins with a whole header block. -/
def HasBlock
    (parser : RagelMachine HeaderScan)
    (firstFinal : Nat)
    (headers : RFC822Headers)
    (text : List UInt8) : Prop :=
  ∃ p t,
    parser.exec headersStart [] (headerScanNew headers) text =
      .out firstFinal p t

/-
  The received bytes have the whole block, or what lies behind
  does not end it, and some line is complete or the read size
  was zero before.
-/
def Countable
    (parser : RagelMachine HeaderScan)
    (firstFinal : Nat)
    (headers : RFC822Headers)
    (msg behind : List UInt8)
    (readSize : Nat) : Prop :=
  HasBlock parser firstFinal headers msg ∨
    ¬ HasBlock parser firstFinal headers (msg ++ behind) ∧
      (chLf ∈ msg ∨ readSize = 0)

theorem removeRange_append
    {taken rest : List UInt8}
    (hLength : (taken ++ rest).length < 2 ^ 32) :
    gByteArrayRemoveRange (taken ++ rest) taken.length =
      rest := by
  rw [List.length_append] at hLength
  unfold gByteArrayRemoveRange
  rw [Nat.mod_eq_of_lt (by omega), if_pos (by simp),
    List.drop_left]

/- Where a block has not ended, and no error was met. -/
theorem LineTables.read_zero
    (h : LineTables tables codes firstFinal)
    (hRead :
      ragelReadHeaders (headersParser tables codes) firstFinal
        headers msg behind readSize =
          some (0, headers', size)) :
    ¬ HasBlock (headersParser tables codes) firstFinal headers
        (msg ++ behind) ∧
      ∃ lines rest last entered,
        Scanned (headersParser tables codes) firstFinal headers
          msg lines rest last entered ∧
        headers' = entered.headers ∧
        size = entered.readSize.getD readSize := by
  unfold ragelReadHeaders at hRead
  split at hRead
  · cases hRead
  · rename_i cs p t hOut
    simp only [Option.some.injEq, Prod.mk.injEq] at hRead
    rcases hRead with ⟨hResult, rfl, rfl⟩
    split at hResult
    · rename_i hBefore
      split at hResult
      · rename_i hPlace
        constructor
        · rintro ⟨q, u, hBlock⟩
          rw [hBlock] at hOut
          cases hOut
          exact Nat.lt_irrefl _ hBefore
        · rcases h.ends hOut with
            ⟨first, c, rest, lines, line, last, entered, hText,
              _, hScanned, hEnds⟩
          cases hEnds with
          | block _ _ _ _ =>
              exact absurd hBefore (Nat.lt_irrefl _)
          | error =>
              have hFirst :=
                (List.append_inj hText hPlace.symm).1
              subst hFirst
              exact ⟨lines, line, last, t, hScanned, rfl, rfl⟩
      · cases hResult
    · cases hResult

/- Where a block has ended, maybe behind the received bytes. -/
theorem LineTables.read_one
    (h : LineTables tables codes firstFinal)
    (hRead :
      ragelReadHeaders (headersParser tables codes) firstFinal
        headers msg behind readSize =
          some (1, headers', size)) :
    ∃ first rest lines line last entered,
      msg ++ behind = first ++ chLf :: rest ∧
      HasBlock (headersParser tables codes) firstFinal headers
        (first ++ [chLf]) ∧
      Scanned (headersParser tables codes) firstFinal headers
        first lines line last entered ∧
      AtStart last ∧
      headers' = entered.headers ∧
      size = first.length + 1 := by
  unfold ragelReadHeaders at hRead
  split at hRead
  · cases hRead
  · rename_i cs p t hOut
    simp only [Option.some.injEq, Prod.mk.injEq] at hRead
    rcases hRead with ⟨hResult, rfl, rfl⟩
    have hBounds := h.bounds
    rcases h.ends hOut with
      ⟨first, c, rest, lines, line, last, entered, hText,
        hOver, hScanned, hEnds⟩
    cases hEnds with
    | error =>
        rw [if_pos (by omega)] at hResult
        split at hResult
        · cases hResult
        · cases hResult
    | block hLf hStart hHeaders hSize =>
        subst hLf
        refine ⟨first, rest, lines, line, last, entered, hText,
          ⟨p, t, hOver⟩, hScanned, hStart, hHeaders, ?_⟩
        rw [hSize]
        rfl

end Feng

------------------------------------------------------------
-- When It Is Exact
------------------------------------------------------------

namespace Feng

variable {tables : RagelTables} {codes : List RFC822Header}
variable {firstFinal readSize size : Nat}
variable {headers headers' : RFC822Headers}
variable {msg behind : List UInt8} {result : Int}

theorem LineTables.consumes_zero_iff
    (h : LineTables tables codes firstFinal)
    (hLength : msg.length < 2 ^ 32)
    (hRead :
      ragelReadHeaders (headersParser tables codes) firstFinal
        headers msg behind readSize =
          some (0, headers', size)) :
    Consumes (headersParser tables codes) firstFinal headers
        msg 0 headers' size ↔
      Countable (headersParser tables codes) firstFinal headers
        msg behind readSize := by
  rcases h.read_zero hRead with
    ⟨hNotBlock, lines, rest, last, entered, hScanned, hHeaders,
      hSize⟩
  have hNotWithin :
      ¬ HasBlock (headersParser tables codes) firstFinal
        headers msg := by
    rintro ⟨p, t, hBlock⟩
    apply hNotBlock
    refine ⟨p, t, ?_⟩
    rw [RagelMachine.exec_append, hBlock]
  rw [hScanned.size] at hSize
  constructor
  · rintro ⟨lines', empty, rest', hConsumed⟩
    refine .inr ⟨hNotBlock, ?_⟩
    rcases hConsumed.unended rfl with ⟨rfl, hOpen⟩
    have hCounted := hConsumed.counted
    have hSplits := hConsumed.splits
    rw [List.append_nil] at hCounted hSplits
    by_cases hSome : lines' = []
    · subst hSome
      by_cases hLines : lines = []
      · right
        rw [if_pos hLines] at hSize
        exact hSize.symm.trans hCounted
      · left
        rw [hScanned.splits]
        exact List.mem_append_left _
          (hScanned.complete.mem_lf hLines)
    · left
      rw [hSplits]
      exact List.mem_append_left _
        (hConsumed.complete.mem_lf hSome)
  · rintro (hWithin | ⟨_, hCount⟩)
    · exact absurd hWithin hNotWithin
    · have hExact : size = lines.length := by
        by_cases hLines : lines = []
        · rw [if_pos hLines] at hSize
          subst hLines
          rcases hCount with hMem | hZero
          · rw [hScanned.splits, List.nil_append] at hMem
            exact absurd hMem hScanned.unended
          · exact hSize.trans hZero
        · rwa [if_neg hLines] at hSize
      refine ⟨lines, [], rest, ?_, hScanned.complete, ?_, ?_,
        ?_, ?_, ?_⟩
      · rw [List.append_nil]
        exact hScanned.splits
      · intro _
        exact ⟨rfl, hScanned.unended⟩
      · intro hOne
        cases hOne
      · rw [hHeaders]
        exact hScanned.stored
      · rw [List.append_nil]
        exact hExact
      · have hSplits := hScanned.splits
        subst hSplits
        rw [hExact]
        exact removeRange_append hLength

theorem HasBlock.append
    {parser : RagelMachine HeaderScan}
    (hBlock : HasBlock parser firstFinal headers msg)
    (behind : List UInt8) :
    HasBlock parser firstFinal headers (msg ++ behind) := by
  rcases hBlock with ⟨p, t, hOut⟩
  refine ⟨p, t, ?_⟩
  rw [RagelMachine.exec_append, hOut]

/- A block that was received is not longer than that. -/
theorem LineTables.size_le
    (h : LineTables tables codes firstFinal)
    (hRead :
      ragelReadHeaders (headersParser tables codes) firstFinal
        headers msg behind readSize =
          some (result, headers', size))
    (hBlock :
      HasBlock (headersParser tables codes) firstFinal headers
        msg) :
    size ≤ msg.length := by
  rcases hBlock with ⟨p, t, hOut⟩
  have hBounds := h.bounds
  unfold ragelReadHeaders at hRead
  rw [RagelMachine.exec_append, hOut] at hRead
  simp only [Option.some.injEq, Prod.mk.injEq] at hRead
  rcases h.ends hOut with
    ⟨first, c, rest, _, _, _, _, rfl, _, _, hEnds⟩
  cases hEnds with
  | error => omega
  | block _ _ _ hSize =>
      have hIs := hRead.2.2
      rw [hSize, Option.getD_some] at hIs
      rw [List.length_append, List.length_cons]
      omega

theorem LineTables.consumes_one_iff
    (h : LineTables tables codes firstFinal)
    (hLength : msg.length < 2 ^ 32)
    (hRead :
      ragelReadHeaders (headersParser tables codes) firstFinal
        headers msg behind readSize =
          some (1, headers', size)) :
    Consumes (headersParser tables codes) firstFinal headers
        msg 1 headers' size ↔
      Countable (headersParser tables codes) firstFinal headers
        msg behind readSize := by
  rcases h.read_one hRead with
    ⟨first, rest, lines, line, last, entered, hText, hBlock,
      hScanned, hStart, hHeaders, hSize⟩
  have hWhole :
      msg ++ behind = first ++ [chLf] ++ rest := by
    rw [hText, List.append_assoc]
    rfl
  have hReceived (hLe : size ≤ msg.length) :
      ∃ more, msg = first ++ [chLf] ++ more := by
    have hPrefix : first ++ [chLf] <+: msg := by
      apply List.prefix_of_prefix_length_le ⟨rest, hWhole.symm⟩
        (List.prefix_append msg behind)
      rw [List.length_append, List.length_singleton]
      omega
    rcases hPrefix with ⟨more, hMore⟩
    exact ⟨more, hMore.symm⟩
  constructor
  · rintro ⟨lines', empty, rest', hConsumed⟩
    have hLe : size ≤ msg.length := by
      rw [hConsumed.counted, hConsumed.splits]
      simp
    rcases hReceived hLe with ⟨more, rfl⟩
    exact .inl (hBlock.append more)
  · rintro (hWithin | ⟨hNot, _⟩)
    · rcases hReceived (h.size_le hRead hWithin) with
        ⟨more, rfl⟩
      have hSplits :
          first ++ [chLf] ++ more =
            lines ++ (line ++ [chLf]) ++ more := by
        rw [hScanned.splits]
        simp only [List.append_assoc]
      have hCounted :
          size = (lines ++ (line ++ [chLf])).length := by
        rw [hSize, hScanned.splits]
        simp only [List.length_append, List.length_singleton,
          Nat.add_assoc]
      refine ⟨lines, line ++ [chLf], more, hSplits,
        hScanned.complete, nofun, ?_, ?_, hCounted, ?_⟩
      · intro _
        rcases hScanned.start hStart with ⟨n, rfl⟩
        exact ⟨n, rfl⟩
      · rw [hHeaders]
        exact hScanned.stored
      · rw [hSplits, hCounted]
        rw [hSplits] at hLength
        exact removeRange_append hLength
    · rw [hWhole] at hNot
      exact absurd (hBlock.append rest) hNot

end Feng

------------------------------------------------------------
-- Both Kinds Of Header Blocks
------------------------------------------------------------

namespace Feng

/-
  What the reading of a header block consumes, where it is not
  refused, is exact if and only if the received bytes have the
  whole block, or what lies behind does not end it and there
  is a complete line, or else the read size was zero before.
-/
theorem headers_consumed_iff
    (headers : RFC822Headers)
    (msg behind : List UInt8)
    (readSize : Nat)
    (hLength : msg.length < 2 ^ 32) :
    (∀ result headers' size,
      ragelReadRtspHeaders headers msg behind readSize =
          some (result, headers', size) →
        result = 0 ∨ result = 1 →
        (Consumes rtspHeadersParser rtspHeadersFirstFinal
            headers msg result headers' size ↔
          Countable rtspHeadersParser rtspHeadersFirstFinal
            headers msg behind readSize)) ∧
    (∀ result headers' size,
      ragelReadHttpHeaders headers msg behind readSize =
          some (result, headers', size) →
        result = 0 ∨ result = 1 →
        (Consumes httpHeadersParser httpHeadersFirstFinal
            headers msg result headers' size ↔
          Countable httpHeadersParser httpHeadersFirstFinal
            headers msg behind readSize)) := by
  constructor
  · rintro result headers' size hRead (rfl | rfl)
    · exact rtspLineTables.consumes_zero_iff hLength hRead
    · exact rtspLineTables.consumes_one_iff hLength hRead
  · rintro result headers' size hRead (rfl | rfl)
    · exact httpLineTables.consumes_zero_iff hLength hRead
    · exact httpLineTables.consumes_one_iff hLength hRead

/- A whole block, which is consumed. -/
def cseqBlock : List UInt8 :=
  ascii "CSeq: 1" ++ [chCr, chLf, chCr, chLf]

theorem headers_consumed_cseq :
    Consumes rtspHeadersParser rtspHeadersFirstFinal
      rfc822HeadersNew cseqBlock 1 [(.cSeq, ascii "1")] 11 := by
  have hRead :
      ragelReadRtspHeaders rfc822HeadersNew cseqBlock [] 7 =
        some (1, [(.cSeq, ascii "1")], 11) := by
    decide +kernel
  have hBlock :
      rtspHeadersParser.exec headersStart []
          (headerScanNew rfc822HeadersNew) cseqBlock =
        .out rtspHeadersFirstFinal 12
          { headerScanNew [(.cSeq, ascii "1")] with
            readSize := some 11 } := by
    decide +kernel
  exact ((headers_consumed_iff rfc822HeadersNew cseqBlock [] 7
    (by decide)).1 1 _ 11 hRead (.inr rfl)).mpr
      (.inl ⟨_, _, hBlock⟩)

/- Four bytes of a line, as many as the variable says. -/
theorem headers_overconsumed :
    ragelReadRtspHeaders rfc822HeadersNew (ascii "CSeq") [0]
        4 =
      some (0, rfc822HeadersNew, 4) ∧
    gByteArrayRemoveRange (ascii "CSeq") 4 = [] ∧
    ¬ Consumes rtspHeadersParser rtspHeadersFirstFinal
      rfc822HeadersNew (ascii "CSeq") 0 rfc822HeadersNew 4 := by
  have hRead :
      ragelReadRtspHeaders rfc822HeadersNew (ascii "CSeq") [0]
          4 =
        some (0, rfc822HeadersNew, 4) := by
    decide +kernel
  have hEof :
      ∃ cs p t,
        rtspHeadersParser.exec headersStart []
          (headerScanNew rfc822HeadersNew) (ascii "CSeq") =
            .eof cs p t := by
    exact ⟨_, _, _, rfl⟩
  refine ⟨hRead, by decide, ?_⟩
  intro hConsumes
  have hCount :=
    (rtspLineTables.consumes_zero_iff (by decide) hRead).mp
      hConsumes
  rcases hCount with ⟨p, t, hBlock⟩ | ⟨_, hMem | hZero⟩
  · rcases hEof with ⟨cs, q, u, hEof⟩
    have hBoth := hBlock.symm.trans hEof
    cases hBoth
  · exact absurd hMem (by decide)
  · cases hZero

end Feng
