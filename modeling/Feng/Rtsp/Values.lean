import Feng.Lib.Lines
import Feng.Rtsp.Scan

/-
  What a client can put in a header value or in the object of
  a request: nothing that ends a line.

  Key definitions include:
    * `CleanText`
    * `CleanRequest`
    * `ValueTables`
    * `HeaderScan.Clean`
    * `RequestLineScan.Clean`

  Key theorems include:
    * `ragelReadRtspHeaders_clean`
    * `ragelReadHttpHeaders_clean`
    * `ragelParseRequestLine_clean`
-/

------------------------------------------------------------
-- Clean Text
------------------------------------------------------------

namespace Feng

def chCr : UInt8 := 13
def chLf : UInt8 := 10

/- Text with no line end in it, nor a part of one. -/
abbrev CleanText (text : List UInt8) : Prop :=
  Unbroken chCr chLf text

def CleanHeaders (headers : RFC822Headers) : Prop :=
  ∀ entry ∈ headers, CleanText entry.2

/- What a request has of its client, as far as it is repeated. -/
structure CleanRequest (req : RFC822Request) : Prop where
  object : ∀ object, req.object = some object →
    CleanText object
  headers : ∀ headers, req.headers = some headers →
    CleanHeaders headers

variable {text before : List UInt8}
variable {headers : RFC822Headers} {req : RFC822Request}
variable {header : RFC822Header} {value : List UInt8}

theorem cleanHeaders_new :
    CleanHeaders rfc822HeadersNew :=
  nofun

theorem CleanHeaders.set
    (h : CleanHeaders headers)
    (header : RFC822Header)
    (hValue : CleanText value) :
    CleanHeaders (rfc822HeadersSet headers header value) := by
  intro entry hMem
  rcases List.mem_append.mp hMem with hOld | hNew
  · exact h entry (List.mem_filter.mp hOld).1
  · rw [List.mem_singleton.mp hNew]
    exact hValue

theorem CleanHeaders.insert
    (h : CleanHeaders headers)
    (header : RFC822Header)
    {value : Option (List UInt8)}
    (hValue : ∀ v, value = some v → CleanText v) :
    CleanHeaders
      (rfc822HeadersInsert headers header value) := by
  cases value with
  | none =>
      intro entry hMem
      exact h entry (List.mem_filter.mp hMem).1
  | some value =>
      exact h.set header (hValue value rfl)

theorem CleanHeaders.lookup
    (h : CleanHeaders headers)
    (hFound :
      rfc822HeadersLookup (some headers) header =
        some value) :
    CleanText value := by
  unfold rfc822HeadersLookup at hFound
  rcases Option.map_eq_some_iff.mp hFound with
    ⟨entry, hFind, rfl⟩
  exact h entry (List.mem_of_find?_eq_some hFind)

theorem CleanRequest.lookup
    (h : CleanRequest req)
    (hFound :
      rfc822HeadersLookup req.headers header = some value) :
    CleanText value := by
  cases hHeaders : req.headers with
  | none =>
      rw [hHeaders] at hFound
      cases hFound
  | some headers =>
      rw [hHeaders] at hFound
      exact (h.headers headers hHeaders).lookup hFound

theorem CleanRequest.headersD
    (h : CleanRequest req) :
    CleanHeaders (req.headers.getD rfc822HeadersNew) := by
  cases hHeaders : req.headers with
  | none => exact cleanHeaders_new
  | some headers => exact h.headers headers hHeaders

theorem CleanRequest.setHeaders
    (h : CleanRequest req)
    (hHeaders : CleanHeaders headers) :
    CleanRequest { req with headers := some headers } where
  object := h.object
  headers := by
    intro other hSome
    cases hSome
    exact hHeaders

/- A copy of a part of clean text is clean. -/
theorem gStrndup_clean
    {start : Nat}
    (hText : CleanText (text.drop start))
    (n : Nat)
    (hCopy : gStrndup text (some start) n = some value) :
    CleanText value := by
  cases hCopy
  apply hText.of_subset
  intro c hMem
  exact List.mem_of_mem_take
    ((List.takeWhile_sublist _).subset hMem)

theorem SpanWithin.mono
    {m n length : Nat}
    {start : Option Nat}
    (h : SpanWithin m start length)
    (hLe : m ≤ n) :
    SpanWithin n start length := by
  rcases h with hEmpty | hEnd
  · exact .inl hEmpty
  · exact .inr (Nat.le_trans hEnd hLe)

end Feng

------------------------------------------------------------
-- Tables Of Header Values
------------------------------------------------------------

namespace Feng

/- The states within a value: its blanks, and its text. -/
def InValue (value cs : Nat) : Prop :=
  cs = 5 ∨ cs = value

/- The states behind a value, up to the end of the line. -/
def BehindValue (ended cs : Nat) : Prop :=
  cs = ended ∨ cs = 6

instance decidableInValue (value cs : Nat) :
    Decidable (InValue value cs) :=
  inferInstanceAs (Decidable (cs = 5 ∨ cs = value))

instance decidableBehindValue (ended cs : Nat) :
    Decidable (BehindValue ended cs) :=
  inferInstanceAs (Decidable (cs = ended ∨ cs = 6))

/-
  A character that belongs to a value ends no line, and is the
  first one unless the value goes on; what is behind a value
  comes with its length, or follows what was.
-/
structure ValueStep
    (tables : RagelTables)
    (codes : List RFC822Header)
    (value ended cs : Nat)
    (c : UInt8) : Prop where
  inside : InValue value (tables.transition cs c).1 →
    CleanText [c] ∧
      ((tables.transition cs c).2 = [codes.length] ∨
      (tables.transition cs c).2 =
        [codes.length, codes.length + 1] ∨
      InValue value cs ∧
        ((tables.transition cs c).2 = [] ∨
        (tables.transition cs c).2 = [codes.length + 1]))
  behind : BehindValue ended (tables.transition cs c).1 →
    (InValue value cs ∧
      (tables.transition cs c).2 = [codes.length + 1]) ∨
    (cs = ended ∧ (tables.transition cs c).2 = [])

/- How the header scanners take up values. -/
structure ValueTables
    (tables : RagelTables)
    (codes : List RFC822Header)
    (firstFinal value ended : Nat) : Prop
    extends HeaderTables tables codes firstFinal where
  values : ∀ cs c, ValueStep tables codes value ended cs c

variable {tables : RagelTables} {codes : List RFC822Header}
variable {firstFinal value ended n : Nat}

instance decidableValueStep
    (tables : RagelTables)
    (codes : List RFC822Header)
    (value ended cs : Nat)
    (c : UInt8) :
    Decidable (ValueStep tables codes value ended cs c) :=
  decidable_of_iff
    ((InValue value (tables.transition cs c).1 →
      CleanText [c] ∧
        ((tables.transition cs c).2 = [codes.length] ∨
        (tables.transition cs c).2 =
          [codes.length, codes.length + 1] ∨
        InValue value cs ∧
          ((tables.transition cs c).2 = [] ∨
          (tables.transition cs c).2 =
            [codes.length + 1]))) ∧
    (BehindValue ended (tables.transition cs c).1 →
      (InValue value cs ∧
        (tables.transition cs c).2 = [codes.length + 1]) ∨
      (cs = ended ∧ (tables.transition cs c).2 = [])))
    ⟨fun h => ⟨h.1, h.2⟩, fun h => ⟨h.inside, h.behind⟩⟩

/- Values are only reached from the states around them. -/
theorem valueStep_of_forall
    (hSingles : tables.singleLengths.length * 8 ≤ n)
    (hRanges : tables.rangeLengths.length * 8 ≤ n)
    (hOffsets : tables.indexOffsets.length * 8 ≤ n)
    (hAround : ∀ cs ∈ [4, 5, value, ended], ∀ k < 256,
      ValueStep tables codes value ended cs (UInt8.ofNat k))
    (hOthers : ∀ cs < n, cs ∉ [4, 5, value, ended] → ∀ i,
      i < tables.singleLengths.get cs +
          tables.rangeLengths.get cs + 1 →
        (tables.transAt
          (tables.indexOffsets.get cs + i)).1 ∉
            [5, value, ended, 6])
    (hBeyond : (tables.transAt 0).1 ∉ [5, value, ended, 6])
    (cs : Nat)
    (c : UInt8) :
    ValueStep tables codes value ended cs c := by
  by_cases hCs : cs ∈ [4, 5, value, ended]
  · exact uint8_forall (hAround cs hCs) c
  · have hTarget :
        cs ∉ [4, 5, value, ended] →
          (tables.transition cs c).1 ∉
            [5, value, ended, 6] := by
      apply transition_of_states
        (P := fun cs entry =>
          cs ∉ [4, 5, value, ended] →
            entry.1 ∉ [5, value, ended, 6])
        hSingles hRanges hOffsets
      · intro cs hBound i hPlace hNot
        exact hOthers cs hBound hNot i hPlace
      · intro _ _ _
        exact hBeyond
    have hNot := hTarget hCs
    simp only [List.mem_cons, List.not_mem_nil, or_false,
      not_or] at hNot
    constructor
    · rintro (hIn | hIn)
      · exact absurd hIn hNot.1
      · exact absurd hIn hNot.2.1
    · rintro (hIn | hIn)
      · exact absurd hIn hNot.2.2.1
      · exact absurd hIn hNot.2.2.2

theorem rtspValueTables :
    ValueTables rtspHeadersTables rtspHeaderCodes
      rtspHeadersFirstFinal 164 163 where
  toHeaderTables := rtspHeaderTables
  values := by
    apply valueStep_of_forall
      (n := 168) (by decide) (by decide)
      (by decide)
    · decide +kernel
    · decide +kernel
    · decide

theorem httpHeaderTables :
    HeaderTables httpHeadersTables httpHeaderCodes
      httpHeadersFirstFinal where
  line := by decide
  final := by decide
  other := by
    apply fromState_of_forall
      (P := fun cs actions =>
        cs ≠ 6 → cs ≠ httpHeadersFirstFinal → actions = [])
      (n := 96) (by decide) (by decide)
    · decide
    · intro cs _ _ _
      rfl
  entered := by
    intro cs
    unfold RagelTables.toState
    exact RagelMachine.actionsAt_zero (by decide)
  actions := by
    apply transition_of_forall
      (P := fun entry =>
        ∀ a ∈ entry.2, a < httpHeaderCodes.length + 2)
      (n := 400) (by decide) (by decide)
      (by decide)
    · decide +kernel
    · simp
  error := by
    apply transition_of_forall
      (P := fun entry => entry.1 = 0 → entry.2 = [])
      (n := 400) (by decide) (by decide)
      (by decide)
    · decide +kernel
    · simp
  again := by
    apply uint8_forall
    decide +kernel
  bounds := by decide

theorem httpValueTables :
    ValueTables httpHeadersTables httpHeaderCodes
      httpHeadersFirstFinal 93 92 where
  toHeaderTables := httpHeaderTables
  values := by
    apply valueStep_of_forall
      (n := 96) (by decide) (by decide)
      (by decide)
    · decide +kernel
    · decide
    · decide

end Feng

------------------------------------------------------------
-- Reading Header Values
------------------------------------------------------------

namespace Feng

variable {tables : RagelTables} {codes : List RFC822Header}
variable {firstFinal value ended cs target : Nat}
variable {before msg behind : List UInt8}
variable {s t u : HeaderScan} {c : UInt8}

namespace HeaderScan

/-
  The headers so far are clean. Within a value so is what was
  read of it, and behind it what will be stored.
-/
structure Clean
    (value ended cs : Nat)
    (before : List UInt8)
    (s : HeaderScan) : Prop where
  headers : CleanHeaders s.headers
  inside : InValue value cs →
    ∀ start, s.headerStr = some start →
      CleanText (before.drop start)
  behind : BehindValue ended cs →
    SpanWithin before.length s.headerStr s.headerLen ∧
      ∀ text,
        gStrndup before s.headerStr s.headerLen = some text →
          CleanText text

end HeaderScan

/- The variables a round that goes on leaves. -/
theorem HeaderTables.goto
    (h : HeaderTables tables codes firstFinal)
    (hRun :
      (headersParser tables codes).run before
        (tables.transition cs c).2 s = .next u)
    (hStep :
      (headersParser tables codes).step cs before s c =
        .goto target t) :
    t = u := by
  rw [RagelMachine.step_of_run hRun (h.entered _)] at hStep
  split at hStep
  · cases hStep
  · cases hStep
    rfl

theorem headersParser_str
    (tables : RagelTables)
    (codes : List RFC822Header)
    (before : List UInt8)
    (s : HeaderScan) :
    (headersParser tables codes).run before [codes.length]
        s =
      .next { s with headerStr := some before.length } := by
  simp [RagelMachine.run, headersParser, headersAction]

theorem headersParser_len
    (tables : RagelTables)
    (codes : List RFC822Header)
    (before : List UInt8)
    (s : HeaderScan) :
    (headersParser tables codes).run before
        [codes.length + 1] s =
      .next { s with
        headerLen :=
          before.length - s.headerStr.getD before.length } := by
  simp [RagelMachine.run, headersParser, headersAction]

theorem headersParser_str_len
    (tables : RagelTables)
    (codes : List RFC822Header)
    (before : List UInt8)
    (s : HeaderScan) :
    (headersParser tables codes).run before
        [codes.length, codes.length + 1] s =
      .next { s with
        headerStr := some before.length
        headerLen := 0 } := by
  simp [RagelMachine.run, headersParser, headersAction]

/- What is read on is clean if the character is. -/
theorem drop_clean
    {start : Nat}
    (hBefore : CleanText (before.drop start))
    (hChar : CleanText [c]) :
    CleanText ((before ++ [c]).drop start) := by
  rw [List.drop_append]
  exact hBefore.append
    (hChar.of_subset (List.drop_subset _ _))

/- A value that begins here has one character so far. -/
theorem begin_clean
    (hChar : CleanText [c])
    (hStr : t.headerStr = some before.length) :
    ∀ start, t.headerStr = some start →
      CleanText ((before ++ [c]).drop start) := by
  intro start hStart
  rw [hStr] at hStart
  cases hStart
  rw [List.drop_left]
  exact hChar

/- A value goes on, or begins. -/
theorem HeaderScan.Clean.reads
    (h : HeaderScan.Clean value ended cs before s)
    (hTables :
      ValueTables tables codes firstFinal value ended)
    (hIn : InValue value (tables.transition cs c).1)
    (hStep :
      (headersParser tables codes).step cs before s c =
        .goto target t) :
    ∀ start, t.headerStr = some start →
      CleanText ((before ++ [c]).drop start) := by
  rcases (hTables.values cs c).inside hIn with
    ⟨hChar, hActions | hActions | ⟨hWas, hActions⟩⟩
  · have hRun := headersParser_str tables codes before s
    rw [← hActions] at hRun
    apply begin_clean hChar
    rw [hTables.goto hRun hStep]
  · have hRun := headersParser_str_len tables codes before s
    rw [← hActions] at hRun
    apply begin_clean hChar
    rw [hTables.goto hRun hStep]
  · intro start hStart
    have hSame : t.headerStr = s.headerStr := by
      rcases hActions with hNone | hLen
      · have hRun :
            (headersParser tables codes).run before
              (tables.transition cs c).2 s = .next s := by
          rw [hNone]
          rfl
        rw [hTables.goto hRun hStep]
      · have hRun := headersParser_len tables codes before s
        rw [← hLen] at hRun
        rw [hTables.goto hRun hStep]
    rw [hSame] at hStart
    exact drop_clean (h.inside hWas start hStart) hChar

/- A value ends, or ended before. -/
theorem HeaderScan.Clean.ends
    (h : HeaderScan.Clean value ended cs before s)
    (hTables :
      ValueTables tables codes firstFinal value ended)
    (hBehind : BehindValue ended (tables.transition cs c).1)
    (hStep :
      (headersParser tables codes).step cs before s c =
        .goto target t) :
    SpanWithin (before ++ [c]).length t.headerStr
        t.headerLen ∧
      ∀ text,
        gStrndup (before ++ [c]) t.headerStr t.headerLen =
            some text →
          CleanText text := by
  have hSpan :
      SpanWithin before.length t.headerStr t.headerLen ∧
        ∀ text,
          gStrndup before t.headerStr t.headerLen =
              some text →
            CleanText text := by
    rcases (hTables.values cs c).behind hBehind with
      ⟨hWas, hActions⟩ | ⟨hWas, hActions⟩
    · have hRun := headersParser_len tables codes before s
      rw [← hActions] at hRun
      rw [hTables.goto hRun hStep]
      refine ⟨spanWithin_of_le (Nat.le_refl _) _, ?_⟩
      intro text hCopy
      cases hStart : s.headerStr with
      | none =>
          rw [hStart] at hCopy
          cases hCopy
      | some start =>
          rw [hStart] at hCopy
          exact gStrndup_clean (h.inside hWas start hStart) _
            hCopy
    · have hRun :
          (headersParser tables codes).run before
            (tables.transition cs c).2 s = .next s := by
        rw [hActions]
        rfl
      rw [hTables.goto hRun hStep]
      exact h.behind (.inl hWas)
  refine ⟨hSpan.1.mono (by simp), ?_⟩
  rw [gStrndup_append hSpan.1]
  exact hSpan.2

/- The header of a line is stored clean. -/
theorem HeaderScan.Clean.store
    (h : HeaderScan.Clean value ended 6 before s) :
    HeaderScan.Clean value ended 6 before
      (s.store before) where
  headers := by
    unfold HeaderScan.store
    simp only
    split
    · exact h.headers.insert _ (h.behind (.inr rfl)).2
    · exact h.headers
  inside := by
    intro _ start hStart
    cases hStart
  behind := by
    intro _
    refine ⟨.inl rfl, ?_⟩
    intro text hCopy
    cases hCopy

theorem ValueTables.sustains
    (h : ValueTables tables codes firstFinal value ended) :
    (headersParser tables codes).Sustains
      (HeaderScan.Clean value ended)
      (HeaderScan.Clean value ended)
      (fun _ _ s => CleanHeaders s.headers) where
  enter := by
    intro cs before s hClean
    rw [show (headersParser tables codes).tables = tables
      from rfl]
    by_cases hFinal : cs = firstFinal
    · rw [hFinal, h.enter_final]
      exact hClean.headers
    · by_cases hLine : cs = 6
      · subst hLine
        rw [h.enter_line]
        exact hClean.store
      · rw [h.enter_other hLine hFinal]
        exact hClean
  step := by
    intro cs before s c hClean
    rcases h.step cs before s c with
      ⟨_, hStep⟩ | ⟨_, t, hStep, hHeaders, _⟩
    · rw [hStep]
      exact hClean.headers
    · rw [hStep]
      refine ⟨?_, ?_, ?_⟩
      · rw [hHeaders]
        exact hClean.headers
      · intro hIn
        exact hClean.reads h hIn hStep
      · intro hBehind
        exact hClean.ends h hBehind hStep

/- A block of headers adds clean ones to clean ones. -/
theorem ValueTables.read
    {headers headers' : RFC822Headers}
    {readSize readSize' : Nat}
    {result : Int}
    (h : ValueTables tables codes firstFinal value ended)
    (hStart : ¬ InValue value headersStart)
    (hNotBehind : ¬ BehindValue ended headersStart)
    (hHeaders : CleanHeaders headers)
    (hRead :
      ragelReadHeaders (headersParser tables codes)
          firstFinal headers msg behind readSize =
        some (result, headers', readSize')) :
    CleanHeaders headers' := by
  unfold ragelReadHeaders at hRead
  split at hRead
  · cases hRead
  · rename_i cs p scan hOut
    have hFresh :
        HeaderScan.Clean value ended headersStart []
          (headerScanNew headers) :=
      ⟨hHeaders, fun hIn => absurd hIn hStart,
        fun hBehind => absurd hBehind hNotBehind⟩
    rcases h.sustains.exec hFresh hOut with
      ⟨_, _, hClean⟩
    cases hRead
    exact hClean

theorem ragelReadRtspHeaders_clean
    {headers headers' : RFC822Headers}
    {readSize readSize' : Nat}
    {result : Int}
    (hHeaders : CleanHeaders headers)
    (hRead :
      ragelReadRtspHeaders headers msg behind readSize =
        some (result, headers', readSize')) :
    CleanHeaders headers' :=
  rtspValueTables.read (by decide) (by decide) hHeaders hRead

theorem ragelReadHttpHeaders_clean
    {headers headers' : RFC822Headers}
    {readSize readSize' : Nat}
    {result : Int}
    (hHeaders : CleanHeaders headers)
    (hRead :
      ragelReadHttpHeaders headers msg behind readSize =
        some (result, headers', readSize')) :
    CleanHeaders headers' :=
  httpValueTables.read (by decide) (by decide) hHeaders hRead

end Feng

------------------------------------------------------------
-- The Object Of A Request
------------------------------------------------------------

namespace Feng

variable {before msg behind : List UInt8}
variable {cs target : Nat} {c : UInt8}
variable {s t : RequestLineScan} {req req' : RFC822Request}

/- The states behind the protocol of a request line. -/
def BehindLine (cs : Nat) : Prop :=
  cs = 11 ∨ cs = 82

instance decidableBehindLine : DecidablePred BehindLine :=
  fun cs => inferInstanceAs (Decidable (cs = 11 ∨ cs = 82))

/-
  A line end leads behind the line, or nowhere, and behind
  the line there are no actions.
-/
theorem requestLine_ends :
    ∀ cs < 85, cs ≠ 0 → ∀ c, c = chCr ∨ c = chLf →
      (requestLineTables.transition cs c).1 ≠ 0 →
      BehindLine (requestLineTables.transition cs c).1 := by
  have hAll : ∀ cs < 85, cs ≠ 0 → ∀ c ∈ [chCr, chLf],
      (requestLineTables.transition cs c).1 ≠ 0 →
      BehindLine (requestLineTables.transition cs c).1 := by
    decide
  intro cs hBound hNe c hChar
  exact hAll cs hBound hNe c (by simpa using hChar)

theorem requestLine_behind :
    ∀ cs, BehindLine cs → ∀ c,
      (requestLineTables.transition cs c).2 = [] ∧
        ((requestLineTables.transition cs c).1 ≠ 0 →
          BehindLine (requestLineTables.transition cs c).1) := by
  rintro cs (rfl | rfl)
  · apply uint8_forall
    decide +kernel
  · apply uint8_forall
    decide +kernel

theorem requestLine_bound
    (cs : Nat)
    (c : UInt8) :
    (requestLineTables.transition cs c).1 < 85 := by
  apply transition_of_forall (P := fun entry => entry.1 < 85)
    (n := 400) (by decide) (by decide)
    (by decide)
  · decide +kernel
  · decide

/- Nothing is done before a character is searched for. -/
theorem requestLineParser_enter
    (cs : Nat)
    (before : List UInt8)
    (s : RequestLineScan) :
    requestLineParser.run before
        (requestLineTables.fromState cs) s = .next s := by
  have hNone : requestLineTables.fromState cs = [] := by
    unfold RagelTables.fromState
    exact RagelMachine.actionsAt_zero (by decide)
  rw [hNone]
  rfl

/- On entering a state the scan is over, or goes on. -/
theorem requestLine_entered
    (cs : Nat)
    (before : List UInt8)
    (s : RequestLineScan) :
    (requestLineParser.run before
      (requestLineTables.toState cs) s) = .next s ∨
    (requestLineParser.run before
      (requestLineTables.toState cs) s) = .leave s := by
  have hTable :
      requestLineTables.toState cs = [] ∨
        requestLineTables.toState cs = [25] := by
    by_cases hBound : cs < 88
    · have hAll : ∀ cs < 88,
          requestLineTables.toState cs = [] ∨
            requestLineTables.toState cs = [25] := by
        decide
      exact hAll cs hBound
    · left
      unfold RagelTables.toState
      rw [RagelTable.get_of_le]
      · exact RagelMachine.actionsAt_zero (by decide)
      · exact Nat.le_of_not_lt hBound
  rcases hTable with hNone | hLeave
  · rw [hNone]
    exact .inl rfl
  · rw [hLeave]
    exact .inr rfl

namespace RequestLineScan

/- The object is clean as it stands now. -/
structure Clean
    (before : List UInt8)
    (s : RequestLineScan) : Prop where
  within : s.Within before.length
  object : ∀ object,
    gStrndup before s.objectStr s.objectLen = some object →
      CleanText object

/-
  At the start of a round: what was read is clean, up to the
  end of the line.
-/
structure CleanAt
    (cs : Nat)
    (before : List UInt8)
    (s : RequestLineScan) : Prop extends Clean before s where
  bound : cs < 85
  notError : cs ≠ 0
  line : ¬ BehindLine cs → CleanText before

theorem Within.mono
    {m n : Nat}
    (h : s.Within m)
    (hLe : m ≤ n) :
    s.Within n :=
  ⟨h.method.mono hLe, h.protocol.mono hLe,
    h.object.mono hLe⟩

/- In clean text every object is clean. -/
theorem clean_of_within
    (hBefore : CleanText before)
    (hWithin : s.Within before.length) :
    s.Clean before where
  within := hWithin
  object := by
    intro object hCopy
    cases hStart : s.objectStr with
    | none =>
        rw [hStart] at hCopy
        cases hCopy
    | some start =>
        rw [hStart] at hCopy
        exact gStrndup_clean
          (hBefore.of_subset (List.drop_subset _ _)) _ hCopy

/- What is read on changes no object. -/
theorem Clean.reads
    (h : s.Clean before)
    (c : UInt8) :
    s.Clean (before ++ [c]) where
  within := h.within.mono (by simp)
  object := by
    rw [gStrndup_append h.within.object]
    exact h.object

end RequestLineScan

/- Behind the line the variables stay as they are. -/
theorem requestLineParser_behind
    (hBehind : BehindLine cs)
    (before : List UInt8)
    (s : RequestLineScan)
    (c : UInt8) :
    (requestLineParser.step cs before s c).state = s := by
  have hActions := (requestLine_behind cs hBehind c).1
  have hRun :
      requestLineParser.run before
        (requestLineParser.tables.transition cs c).2 s =
          .next s := by
    rw [show requestLineParser.tables = requestLineTables
      from rfl, hActions]
    rfl
  unfold RagelMachine.step
  simp only [hRun]
  rcases requestLine_entered
    (requestLineTables.transition cs c).1 before s with
    hNext | hLeave
  · rw [show requestLineParser.tables = requestLineTables
      from rfl, hNext]
    simp only
    split
    · rfl
    · rfl
  · rw [show requestLineParser.tables = requestLineTables
      from rfl, hLeave]
    rfl

/- The variables a round leaves have a clean object. -/
theorem RequestLineScan.CleanAt.step
    (h : s.CleanAt cs before)
    (c : UInt8) :
    (requestLineParser.step cs before s c).state.Clean
      before := by
  by_cases hBehind : BehindLine cs
  · rw [requestLineParser_behind hBehind]
    exact h.toClean
  · exact RequestLineScan.clean_of_within (h.line hBehind)
      ((requestLineParser_keeps before.length).step
        (Nat.le_refl _) h.within cs c)

theorem requestLineParser_sustains :
    requestLineParser.Sustains
      (fun cs before s => s.CleanAt cs before)
      (fun cs before s => s.CleanAt cs before)
      (fun _ before s => s.Clean before) where
  enter := by
    intro cs before s h
    rw [show requestLineParser.tables = requestLineTables
      from rfl, requestLineParser_enter]
    exact h
  step := by
    intro cs before s c h
    have hClean := h.step c
    cases hStep : requestLineParser.step cs before s c with
    | stop target p t =>
        rw [hStep] at hClean
        exact hClean
    | goto target t =>
        rw [hStep] at hClean
        rcases RagelMachine.step_goto hStep with
          ⟨hTarget, hNotError⟩
        refine ⟨hClean.reads c, ?_, hNotError, ?_⟩
        · rw [hTarget]
          exact requestLine_bound cs c
        · intro hNotBehind
          rw [hTarget] at hNotBehind hNotError
          have hCs : ¬ BehindLine cs := fun hBehind =>
            hNotBehind
              ((requestLine_behind cs hBehind c).2 hNotError)
          apply (h.line hCs).append
          have hChar : ¬ (c = chCr ∨ c = chLf) := fun hEnd =>
            hNotBehind
              (requestLine_ends cs h.bound h.notError c hEnd
                hNotError)
          rcases not_or.mp hChar with ⟨hCr, hLf⟩
          exact ⟨by simpa using Ne.symm hCr,
            by simpa using Ne.symm hLf⟩

/- The object of a request line ends no line. -/
theorem ragelParseRequestLine_clean
    {result : Int}
    (hReq : CleanRequest req)
    (hParse :
      ragelParseRequestLine msg behind req =
        some (result, req')) :
    CleanRequest req' := by
  unfold ragelParseRequestLine at hParse
  split at hParse
  · cases hParse
  · rename_i cs p scan hOut
    split at hParse
    · cases hParse
      exact hReq
    · cases hParse
      have hStart :
          requestLineScanNew.CleanAt requestLineStart [] := by
        refine ⟨⟨requestLineScanNew_within 0, nofun⟩,
          by decide, by decide, ?_⟩
        intro _
        exact unbroken_nil
      rcases requestLineParser_sustains.exec hStart hOut with
        ⟨first, ⟨rest, hText⟩, hClean⟩
      rw [List.nil_append] at hClean
      refine ⟨?_, hReq.headers⟩
      intro object hObject
      apply hClean.object object
      rw [← gStrndup_append hClean.within.object rest, hText]
      exact hObject

end Feng
