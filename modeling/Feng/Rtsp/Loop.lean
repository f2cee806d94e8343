import Feng.Rtsp.Received
import Feng.Rtsp.Handlers

/-
  The loop of `RTSP_handler` comes to its end in the states of
  an RTSP connection.

  A call goes on only if it takes something off the input, or
  leads to the next state of a request, or if it reads a line
  that ends behind the input. In the last case the same bytes
  are then read as headers, and a request line has a blank
  where the name of a header goes on.

  Key definitions include:
    * `NameTables`
    * `rtspHandler`
    * `NoHttpLine`
    * `loopRank`
    * `Doomed`

  Key theorems include:
    * `HeaderTables.blank_stops`
    * `requestLine_splits`
    * `rtspRound_again`
    * `loop_ends`
-/

------------------------------------------------------------
-- Blanks In Header Names
------------------------------------------------------------

namespace Feng

variable {tables : RagelTables} {codes : List RFC822Header}
variable {last firstFinal cs : Nat} {name : List UInt8}

/- The states of a header line up to its colon. -/
def InName (last cs : Nat) : Prop :=
  cs = 1 ∨ cs = 3 ∨ (7 ≤ cs ∧ cs ≤ last)

instance decidableInName (last cs : Nat) :
    Decidable (InName last cs) :=
  inferInstanceAs
    (Decidable (cs = 1 ∨ cs = 3 ∨ (7 ≤ cs ∧ cs ≤ last)))

def nameStates (last : Nat) : List Nat :=
  1 :: 3 :: (List.range (last - 6)).map (· + 7)

theorem mem_nameStates
    (h : InName last cs) :
    cs ∈ nameStates last := by
  unfold nameStates
  rcases h with rfl | rfl | ⟨hLow, hHigh⟩
  · exact List.mem_cons_self
  · exact List.mem_cons_of_mem _ List.mem_cons_self
  · apply List.mem_cons_of_mem
    apply List.mem_cons_of_mem
    refine List.mem_map.mpr ⟨cs - 7, ?_, ?_⟩
    · exact List.mem_range.mpr (by omega)
    · omega

/- A character that ends neither a name nor a line. -/
def NameChar (c : UInt8) : Prop :=
  c ≠ chLf ∧ c ≠ chCr ∧ c ≠ 58

theorem nameChar_blank : NameChar 32 :=
  ⟨by decide, by decide, by decide⟩

/- Where the entries of such a state lead. -/
def NameEntry (last : Nat) (entry : RagelEntry) : Prop :=
  (entry.low = 58 ∧ entry.high = 58) ∨
  (entry.low = 10 ∧ entry.high = 10) ∨
  (entry.low = 13 ∧ entry.high = 13) ∨
  (32 < entry.low ∧ InName last entry.target)

instance decidableNameEntry (last : Nat) :
    DecidablePred (NameEntry last) :=
  fun entry =>
    inferInstanceAs
      (Decidable
        ((entry.low = 58 ∧ entry.high = 58) ∨
        (entry.low = 10 ∧ entry.high = 10) ∨
        (entry.low = 13 ∧ entry.high = 13) ∨
        (32 < entry.low ∧ InName last entry.target)))

/- In a name there is no blank, and it goes on to a colon. -/
structure NameTables
    (tables : RagelTables)
    (firstFinal last : Nat) : Prop where
  bounds : 3 < firstFinal ∧ last < firstFinal
  step : ∀ cs c, InName last cs → NameChar c →
    (tables.transition cs c).1 = 0 ∨
      (InName last (tables.transition cs c).1 ∧ c ≠ 32)

theorem uint8_of_toNat
    {c : UInt8}
    {n : Nat}
    (h : c.toNat = n) :
    c = UInt8.ofNat n := by
  rw [← h, UInt8.ofNat_toNat]

theorem nameTables_of_rows
    (hBounds : 3 < firstFinal ∧ last < firstFinal)
    (hRows : ∀ cs ∈ nameStates last,
      (∀ entry ∈ tables.row cs, NameEntry last entry) ∧
        (tables.rowDefault cs).1 = 0) :
    NameTables tables firstFinal last where
  bounds := hBounds
  step := by
    rintro cs c hIn ⟨hLf, hCr, hColon⟩
    rcases hRows cs (mem_nameStates hIn) with
      ⟨hRow, hDefault⟩
    rcases tables.transition_row cs c with
      ⟨entry, hMem, hLow, hHigh, hIs⟩ | hIs
    · rw [hIs]
      rcases hRow entry hMem with
        ⟨hFrom, hTo⟩ | ⟨hFrom, hTo⟩ | ⟨hFrom, hTo⟩ |
        ⟨hAbove, hTarget⟩
      · exact absurd (uint8_of_toNat (n := 58) (by omega))
          hColon
      · exact absurd (uint8_of_toNat (n := 10) (by omega))
          hLf
      · exact absurd (uint8_of_toNat (n := 13) (by omega))
          hCr
      · refine .inr ⟨hTarget, ?_⟩
        rintro rfl
        have hBlank : (32 : UInt8).toNat = 32 := rfl
        omega
    · left
      rw [hIs]
      exact hDefault

theorem NameTables.ordinary
    (h : NameTables tables firstFinal last)
    (hIn : InName last cs) :
    cs ≠ 6 ∧ cs ≠ firstFinal := by
  have hBounds := h.bounds
  rcases hIn with rfl | rfl | ⟨hLow, hHigh⟩
  · exact ⟨by decide, by omega⟩
  · exact ⟨by decide, by omega⟩
  · exact ⟨by omega, by omega⟩

theorem rtspNameTables :
    NameTables rtspHeadersTables rtspHeadersFirstFinal 162 :=
  nameTables_of_rows (by decide)
    (RagelTables.rows_of_pack
      (P := fun _ row default =>
        (∀ entry ∈ row, NameEntry 162 entry) ∧ default.1 = 0)
      rtspHeadersFits (by decide +kernel))

theorem httpNameTables :
    NameTables httpHeadersTables httpHeadersFirstFinal 91 :=
  nameTables_of_rows (by decide)
    (RagelTables.rows_of_pack
      (P := fun _ row default =>
        (∀ entry ∈ row, NameEntry 91 entry) ∧ default.1 = 0)
      httpHeadersFits (by decide +kernel))

/- A blank in the first name of a block is an error. -/
theorem HeaderTables.blank_stops
    (h : HeaderTables tables codes firstFinal)
    (hNames : NameTables tables firstFinal last)
    (hIn : InName last cs)
    (hName : ∀ c ∈ name, NameChar c)
    (before : List UInt8)
    (s : HeaderScan)
    (rest : List UInt8) :
    ∃ p t,
      (headersParser tables codes).exec cs before s
          (name ++ 32 :: rest) =
        .out 0 p t := by
  induction name generalizing cs before s with
  | nil =>
      rcases hNames.ordinary hIn with ⟨hLine, hFinal⟩
      have hEnter := h.enter_other hLine hFinal before s
      rw [List.nil_append, RagelMachine.exec_cons _ hEnter]
      rcases h.step cs before s 32 with
        ⟨_, hStop⟩ | ⟨hTarget, _⟩
      · rw [hStop]
        exact ⟨_, _, rfl⟩
      · rcases hNames.step cs 32 hIn nameChar_blank with
          hZero | ⟨_, hNot⟩
        · exact absurd hZero hTarget
        · exact absurd rfl hNot
  | cons c name ih =>
      rcases List.forall_mem_cons.mp hName with
        ⟨hFirst, hRest⟩
      rcases hNames.ordinary hIn with ⟨hLine, hFinal⟩
      have hEnter := h.enter_other hLine hFinal before s
      rw [List.cons_append, RagelMachine.exec_cons _ hEnter]
      rcases h.step cs before s c with
        ⟨_, hStop⟩ | ⟨hTarget, t, hGoto, _, _⟩
      · rw [hStop]
        exact ⟨_, _, rfl⟩
      · rw [hGoto]
        rcases hNames.step cs c hIn hFirst with
          hZero | ⟨hNext, _⟩
        · exact absurd hZero hTarget
        · exact ih hNext hRest (before ++ [c]) t

/- So such a block is refused, or not over. -/
theorem HeaderTables.blank_refused
    (h : HeaderTables tables codes firstFinal)
    (hNames : NameTables tables firstFinal last)
    (hName : ∀ c ∈ name, NameChar c)
    {msg behind rest : List UInt8}
    (hText : msg ++ behind = name ++ 32 :: rest)
    (headers : RFC822Headers)
    (readSize : Nat) :
    ∃ result headers' size,
      ragelReadHeaders (headersParser tables codes) firstFinal
          headers msg behind readSize =
        some (result, headers', size) ∧
      (result = 0 ∨ result = -1) := by
  rcases h.blank_stops hNames (.inl rfl) hName []
    (headerScanNew headers) rest with ⟨p, t, hOut⟩
  unfold ragelReadHeaders
  rw [hText, show headersStart = 1 from rfl, hOut]
  refine ⟨_, _, _, rfl, ?_⟩
  have hBounds := hNames.bounds
  rw [if_pos (by omega)]
  split
  · exact .inl rfl
  · exact .inr rfl

end Feng

------------------------------------------------------------
-- Blanks In Request Lines
------------------------------------------------------------

namespace Feng

variable {cs cs' p : Nat} {before text msg behind : List UInt8}
variable {s t : RequestLineScan} {req : RFC822Request}
variable {length : Int}

/- A round that stops is in error, or where the tables lead. -/
theorem RagelMachine.step_stop_target
    {σ : Type}
    {machine : RagelMachine σ}
    {c : UInt8}
    {u v : σ}
    (hStop : machine.step cs before u c = .stop cs' p v) :
    cs' = 0 ∨
      (cs' = (machine.tables.transition cs c).1 ∧
        p = before.length + 1) := by
  unfold RagelMachine.step at hStop
  simp only at hStop
  split at hStop
  · cases hStop
    exact .inr ⟨rfl, rfl⟩
  · cases hStop
    exact .inl rfl
  · split at hStop
    · cases hStop
      exact .inr ⟨rfl, rfl⟩
    · cases hStop
      exact .inl rfl
    · split at hStop
      · cases hStop
        exact .inl rfl
      · cases hStop

/- Where the entries of the states of the method lead. -/
def MethodEntry (entry : RagelEntry) : Prop :=
  (entry.low = 32 ∧ entry.high = 32 ∧ entry.target = 3) ∨
  (13 < entry.low ∧ (entry.high < 58 ∨ 58 < entry.low) ∧
    entry.target = 2)

instance decidableMethodEntry : DecidablePred MethodEntry :=
  fun entry =>
    inferInstanceAs
      (Decidable
        ((entry.low = 32 ∧ entry.high = 32 ∧
            entry.target = 3) ∨
        (13 < entry.low ∧
          (entry.high < 58 ∨ 58 < entry.low) ∧
          entry.target = 2)))

theorem requestLine_method
    (hIn : cs ∈ [1, 2])
    (c : UInt8) :
    (requestLineTables.transition cs c).1 = 0 ∨
      ((requestLineTables.transition cs c).1 = 2 ∧
        NameChar c) ∨
      ((requestLineTables.transition cs c).1 = 3 ∧
        c = 32) := by
  have hRows : ∀ cs ∈ [1, 2],
      (∀ entry ∈ requestLineTables.row cs,
        MethodEntry entry) ∧
      (requestLineTables.rowDefault cs).1 = 0 := by
    decide
  rcases hRows cs hIn with ⟨hRow, hDefault⟩
  rcases requestLineTables.transition_row cs c with
    ⟨entry, hMem, hLow, hHigh, hIs⟩ | hIs
  · rw [hIs]
    right
    rcases hRow entry hMem with
      ⟨hFrom, hTo, hTarget⟩ | ⟨hAbove, hBeside, hTarget⟩
    · exact .inr
        ⟨hTarget, uint8_of_toNat (n := 32) (by omega)⟩
    · refine .inl ⟨hTarget, ?_, ?_, ?_⟩
      · rintro rfl
        have hLf : chLf.toNat = 10 := rfl
        omega
      · rintro rfl
        have hCr : chCr.toNat = 13 := rfl
        omega
      · rintro rfl
        have hColon : (58 : UInt8).toNat = 58 := rfl
        omega
  · left
    rw [hIs]
    exact hDefault

/- A line that is read starts with a method and a blank. -/
theorem requestLine_splits
    (hIn : cs ∈ [1, 2])
    (hFinal : requestLineFirstFinal ≤ cs')
    (hOut :
      requestLineParser.exec cs before s text =
        .out cs' p t) :
    ∃ name rest, text = name ++ 32 :: rest ∧
      ∀ c ∈ name, NameChar c := by
  unfold requestLineFirstFinal at hFinal
  induction text generalizing cs before s with
  | nil =>
      have hEnter := requestLineParser_enter cs before s
      rw [RagelMachine.exec_nil _ hEnter] at hOut
      cases hOut
  | cons c text ih =>
      have hEnter := requestLineParser_enter cs before s
      rw [RagelMachine.exec_cons _ hEnter] at hOut
      have hMethod := requestLine_method hIn c
      cases hStep : requestLineParser.step cs before s c with
      | stop out q u =>
          rw [hStep] at hOut
          cases hOut
          rcases RagelMachine.step_stop_target hStep with
            hZero | ⟨hTarget, _⟩
          · omega
          · have hTarget :
                cs' = (requestLineTables.transition cs c).1 :=
              hTarget
            omega
      | goto target u =>
          rw [hStep] at hOut
          have hGoto := RagelMachine.step_goto hStep
          have hTarget :
              target =
                (requestLineTables.transition cs c).1 :=
            hGoto.1
          rcases hMethod with
            hZero | ⟨hNext, hChar⟩ | ⟨_, hBlank⟩
          · exact absurd (hTarget.trans hZero) hGoto.2
          · have hTwo : target ∈ [1, 2] := by
              rw [hTarget, hNext]
              decide
            rcases ih hTwo hOut with ⟨name, rest, rfl, hName⟩
            exact ⟨c :: name, rest, rfl,
              List.forall_mem_cons.mpr ⟨hChar, hName⟩⟩
          · rw [hBlank]
            exact ⟨[], text, rfl,
              fun _ hMem => absurd hMem List.not_mem_nil⟩

/- It ends within the memory that is read. -/
theorem requestLine_out_le
    (hError : cs' ≠ 0)
    (hOut :
      requestLineParser.exec cs before s text =
        .out cs' p t) :
    before.length < p ∧
      p ≤ before.length + text.length := by
  induction text generalizing cs before s with
  | nil =>
      have hEnter := requestLineParser_enter cs before s
      rw [RagelMachine.exec_nil _ hEnter] at hOut
      cases hOut
  | cons c text ih =>
      have hEnter := requestLineParser_enter cs before s
      rw [RagelMachine.exec_cons _ hEnter] at hOut
      cases hStep : requestLineParser.step cs before s c with
      | stop out q u =>
          rw [hStep] at hOut
          cases hOut
          rcases RagelMachine.step_stop_target hStep with
            hZero | ⟨_, hPlace⟩
          · exact absurd hZero hError
          · rw [List.length_cons]
            omega
      | goto target u =>
          rw [hStep] at hOut
          have hRest := ih hOut
          simp only [List.length_append, List.length_cons,
            List.length_nil] at hRest ⊢
          omega

/- A line in some version is one that the scanner accepts. -/
theorem ragelParseRequestLine_read
    (hProto : headersStatus req.proto ≠ none)
    (hLine :
      ragelParseRequestLine msg behind tmpreq =
        some (length, req)) :
    ∃ (cs p : Nat) (t : RequestLineScan),
      requestLineFirstFinal ≤ cs ∧ length = p ∧
      requestLineParser.exec 1 [] requestLineScanNew
          (msg ++ behind) =
        .out cs p t := by
  unfold ragelParseRequestLine at hLine
  split at hLine
  · cases hLine
  · rename_i cs p t hOut
    split at hLine
    · cases hLine
      exact absurd rfl hProto
    · rename_i hFinal
      cases hLine
      exact ⟨cs, p, t, not_lt.mp hFinal, rfl, hOut⟩

end Feng

------------------------------------------------------------
-- The Loop
------------------------------------------------------------

namespace Feng

/- What a call is given beside the bytes behind the input. -/
structure CallInput where
  parsedHeaders : Nat
  env : UrlEnv
  decoded : List UInt8

def CallInput.round
    (given : CallInput)
    (behind : List UInt8) : RoundInput where
  mem := ⟨behind, given.parsedHeaders⟩
  env := given.env
  decoded := given.decoded

/-
  The bytes behind what is left of the input, which is moved
  to the front. Nothing is erased.
-/
def leftBehind (input left behind : List UInt8) : List UInt8 :=
  input.drop left.length ++ behind

/-
  The loop of `RTSP_handler`, with what each call is given, up
  to so many calls: there is nothing if more are to follow.
-/
def rtspHandler
    (given : Nat → CallInput)
    (i : Nat) :
    Nat → Nat → ServerState → List UInt8 → Option ServerResult
| 0, _, _, _ => none
| calls + 1, k, server, behind =>
    match server.clients[i]? with
    | none => some (.error .noClient)
    | some rtsp =>
        match
          handlerRound ((given k).round behind) server i rtsp
        with
        | .error fault => some (.error fault)
        | .ok (server', .again) =>
            let left :=
              (server'.clients[i]?).elim [] RTSPClient.input
            rtspHandler given i calls (k + 1) server'
              (leftBehind rtsp.input left behind)
        | .ok (server', next) => some (.ok (server', next))

/- The loop is over: it returned, or something went wrong. -/
def Returns (result : Option ServerResult) : Prop :=
  ∃ ended, result = some ended ∧
    ∀ server next, ended = .ok (server, next) → next = .done

/-
  No HTTP request line is within the input, whichever byte it
  may start with, and whatever is behind.
-/
def NoHttpLine (input : List UInt8) : Prop :=
  ∀ rest behind length req, rest <:+ input →
    ragelParseRequestLine rest behind tmpreq =
      some (length, req) →
    length ≤ rest.length →
      headersStatus req.proto ≠ some .httpHeaders

variable {rtsp rtsp' : RTSPClient} {mem : Memory}
variable {input left behind : List UInt8}

theorem NoHttpLine.suffix
    (h : NoHttpLine input)
    (hLeft : left <:+ input) :
    NoHttpLine left := by
  intro rest behind length req hRest
  exact h rest behind length req (hRest.trans hLeft)

theorem leftBehind_length
    (hLeft : left.length ≤ input.length) :
    left.length + (leftBehind input left behind).length =
      input.length + behind.length := by
  unfold leftBehind
  rw [List.length_append, List.length_drop]
  omega

theorem leftBehind_same :
    leftBehind input input behind = behind := by
  unfold leftBehind
  rw [List.drop_length, List.nil_append]

/- Something is taken off the input, or it is as before. -/
theorem removeRange_cases
    (array : List UInt8)
    (length : Nat) :
    gByteArrayRemoveRange array length = array ∨
      (gByteArrayRemoveRange array length =
          array.drop (length % 2 ^ 32) ∧
        0 < length % 2 ^ 32 ∧
        length % 2 ^ 32 ≤ array.length) := by
  unfold gByteArrayRemoveRange
  split
  · rename_i hWithin
    by_cases hNone : length % 2 ^ 32 = 0
    · left
      rw [hNone, List.drop_zero]
    · exact .inr ⟨rfl, by omega, hWithin⟩
  · exact .inl rfl

theorem removeRange_suffix
    (array : List UInt8)
    (length : Nat) :
    gByteArrayRemoveRange array length <:+ array := by
  unfold gByteArrayRemoveRange
  split
  · exact List.drop_suffix _ _
  · exact List.suffix_rfl

end Feng

------------------------------------------------------------
-- Calls That Go On
------------------------------------------------------------

namespace Feng

variable {rtsp rtsp' : RTSPClient} {mem : Memory}
variable {given : RoundInput} {behind : List UInt8}

/- What may still be done with the input, state by state. -/
def loopRank (rtsp : RTSPClient) : Nat :=
  3 * rtsp.input.length +
    match rtsp.status with
    | .rtspHeaders => 3
    | .rtspContent => 2
    | _ => 1

/- The bytes to be read as headers have a blank in a name. -/
def Doomed (rtsp : RTSPClient) (behind : List UInt8) : Prop :=
  (rtsp.status = .rtspHeaders ∨
    rtsp.status = .httpHeaders) ∧
  ∃ name rest, rtsp.input ++ behind = name ++ 32 :: rest ∧
    ∀ c ∈ name, NameChar c

theorem rtspHandleInterleaved_again
    (h : rtspHandleInterleaved rtsp = .ok (rtsp', true)) :
    rtsp'.status = .begin_ ∧
      rtsp'.input <:+ rtsp.input ∧
      rtsp'.input.length < rtsp.input.length := by
  unfold rtspHandleInterleaved at h
  split at h
  · cases h
  · simp only at h
    split at h
    · cases h
    · split at h
      · cases h
      · rename_i hLong
        have hBound : interleavedLength rtsp.input < 2 ^ 16 := by
          have hHigh := UInt8.toNat_lt (rtsp.input.getD 2 0)
          have hLow := UInt8.toNat_lt (rtsp.input.getD 3 0)
          unfold interleavedLength
          omega
        have hTaken :
            gByteArrayRemoveRange rtsp.input
                (interleavedLength rtsp.input + 4) =
              rtsp.input.drop
                (interleavedLength rtsp.input + 4) := by
          unfold gByteArrayRemoveRange
          rw [Nat.mod_eq_of_lt (by omega), if_pos (by omega)]
        cases h
        refine ⟨rfl, removeRange_suffix _ _, ?_⟩
        change
          (gByteArrayRemoveRange rtsp.input
            (interleavedLength rtsp.input + 4)).length < _
        rw [hTaken, List.length_drop]
        omega

/- A request line is read, in a version there is. -/
def ReadsLine
    (mem : Memory)
    (rtsp rtsp' : RTSPClient) : Prop :=
  ∃ length req,
    ragelParseRequestLine rtsp.input mem.behind tmpreq =
        some (length, req) ∧
      headersStatus req.proto = some rtsp'.status ∧
      rtsp'.input =
        gByteArrayRemoveRange rtsp.input length.toNat

theorem rtspHandleNew_again
    (h : rtspHandleNew mem rtsp = .ok (rtsp', true)) :
    (rtsp'.status = .begin_ ∧
      rtsp'.input <:+ rtsp.input ∧
      rtsp'.input.length < rtsp.input.length) ∨
    (0 < rtsp.input.length ∧ ReadsLine mem rtsp rtsp') := by
  unfold rtspHandleNew at h
  split at h
  · cases h
  · rename_i hSome
    split at h
    · have hAgain := rtspHandleInterleaved_again h
      exact .inl hAgain
    · split at h
      · cases h
      · rename_i length req hLine
        refine .inr ⟨by omega, length, req, hLine, ?_⟩
        simp only [handleLineResult, Except.ok.injEq] at h
        split at h
        · cases h
        · split at h
          · cases h
          · split at h
            · cases h
            · rename_i status hStatus
              unfold handleRequestLine at h
              simp only at h
              split at h
              · cases h
              · cases h
                exact ⟨hStatus, rfl⟩

theorem rtspHandleHeaders_again
    (h : rtspHandleHeaders mem rtsp = .ok (rtsp', true)) :
    rtsp'.status = .rtspContent ∧
      rtsp'.input <:+ rtsp.input := by
  unfold rtspHandleHeaders at h
  split at h
  · cases h
  · split at h
    · cases h
    · simp only at h
      split at h
      · cases h
      · split at h
        · cases h
        · cases h
          exact ⟨rfl, removeRange_suffix _ _⟩

theorem rtspHandleContent_again
    {env : UrlEnv}
    (h : rtspHandleContent env rtsp = .ok (rtsp', true)) :
    rtsp'.status = .begin_ ∧ rtsp'.input = rtsp.input := by
  unfold rtspHandleContent at h
  split at h
  · cases h
  · split at h
    · cases h
    · split at h
      · cases h
      · rename_i hRequest
        cases h
        exact ⟨rfl, (rtspHandleRequest_holds hRequest).input⟩

end Feng

------------------------------------------------------------
-- What A Call Leads To
------------------------------------------------------------

namespace Feng

variable {rtsp rtsp' : RTSPClient} {mem : Memory}
variable {given : RoundInput} {behind : List UInt8}

/- A line that ends behind the input is read as headers next. -/
theorem ReadsLine.doomed
    (h : ReadsLine mem rtsp rtsp')
    (hSame : rtsp'.input = rtsp.input) :
    Doomed rtsp' mem.behind := by
  rcases h with ⟨length, req, hLine, hStatus, _⟩
  have hProto : headersStatus req.proto ≠ none := by
    rw [hStatus]
    exact Option.some_ne_none _
  rcases ragelParseRequestLine_read hProto hLine with
    ⟨cs, p, t, hFinal, _, hOut⟩
  rcases requestLine_splits List.mem_cons_self hFinal hOut with
    ⟨name, rest, hText, hName⟩
  refine ⟨?_, name, rest, ?_, hName⟩
  · revert hStatus
    cases req.proto with
    | rtsp10 =>
        intro hStatus
        exact .inl (Option.some.inj hStatus).symm
    | http10 =>
        intro hStatus
        exact .inr (Option.some.inj hStatus).symm
    | http11 =>
        intro hStatus
        exact .inr (Option.some.inj hStatus).symm
    | _ =>
        intro hStatus
        cases hStatus
  · rw [hSame]
    exact hText

/- A line that ends within the input is not of HTTP. -/
theorem ReadsLine.not_http
    (h : ReadsLine mem rtsp rtsp')
    (hNoHttp : NoHttpLine rtsp.input)
    (hSizes :
      rtsp.input.length + mem.behind.length < 2 ^ 32)
    (hTaken : rtsp'.input ≠ rtsp.input) :
    rtsp'.status = .rtspHeaders := by
  rcases h with ⟨length, req, hLine, hStatus, hInput⟩
  have hProto : headersStatus req.proto ≠ none := by
    rw [hStatus]
    exact Option.some_ne_none _
  rcases ragelParseRequestLine_read hProto hLine with
    ⟨cs, p, t, hFinal, rfl, hOut⟩
  have hNotError : cs ≠ 0 := by
    unfold requestLineFirstFinal at hFinal
    omega
  have hWithin := (requestLine_out_le hNotError hOut).2
  rw [List.length_append, List.length_nil] at hWithin
  rw [Int.toNat_natCast] at hInput
  rcases removeRange_cases rtsp.input p with
    hSame | ⟨_, _, hLe⟩
  · exact absurd (hInput.trans hSame) hTaken
  · rw [Nat.mod_eq_of_lt (by omega)] at hLe
    have hNot := hNoHttp rtsp.input mem.behind p req
      List.suffix_rfl hLine (by omega)
    revert hStatus hNot
    cases req.proto with
    | rtsp10 =>
        intro hStatus _
        exact (Option.some.inj hStatus).symm
    | http10 =>
        intro _ hNot
        exact absurd rfl hNot
    | http11 =>
        intro _ hNot
        exact absurd rfl hNot
    | _ =>
        intro hStatus
        cases hStatus

/-
  A call that goes on has made progress, or the next one will
  be the last.
-/
theorem rtspRound_again
    (hStatus : ¬ OfHttp rtsp.status)
    (hNoHttp : NoHttpLine rtsp.input)
    (hSizes :
      rtsp.input.length + given.mem.behind.length < 2 ^ 32)
    (h : rtspRound given rtsp = .ok (rtsp', true)) :
    (rtsp'.input = rtsp.input ∧ 0 < rtsp.input.length ∧
      Doomed rtsp' given.mem.behind) ∨
    (¬ OfHttp rtsp'.status ∧ rtsp'.input <:+ rtsp.input ∧
      loopRank rtsp' < loopRank rtsp) := by
  unfold rtspRound at h
  cases hIs : rtsp.status with
  | begin_ =>
      simp only [hIs] at h
      rcases rtspHandleNew_again h with
        ⟨hBegin, hSuffix, hLess⟩ | ⟨hSome, hLine⟩
      · refine .inr ⟨?_, hSuffix, ?_⟩
        · rw [hBegin]
          decide
        · unfold loopRank
          rw [hBegin, hIs]
          simp only
          omega
      · by_cases hSame : rtsp'.input = rtsp.input
        · exact .inl ⟨hSame, hSome, hLine.doomed hSame⟩
        · have hHeaders :=
            hLine.not_http hNoHttp hSizes hSame
          have hSuffix : rtsp'.input <:+ rtsp.input := by
            rcases hLine with ⟨length, req, _, _, hInput⟩
            rw [hInput]
            exact removeRange_suffix _ _
          have hLess :
              rtsp'.input.length < rtsp.input.length := by
            rcases Nat.lt_or_ge rtsp'.input.length
              rtsp.input.length with hLess | hMore
            · exact hLess
            · exact absurd (hSuffix.eq_of_length_le hMore) hSame
          refine .inr ⟨?_, hSuffix, ?_⟩
          · rw [hHeaders]
            decide
          · unfold loopRank
            rw [hHeaders, hIs]
            simp only
            omega
  | rtspHeaders =>
      simp only [hIs] at h
      rcases rtspHandleHeaders_again h with
        ⟨hContent, hSuffix⟩
      have hLe := hSuffix.length_le
      refine .inr ⟨?_, hSuffix, ?_⟩
      · rw [hContent]
        decide
      · unfold loopRank
        rw [hContent, hIs]
        simp only
        omega
  | rtspContent =>
      simp only [hIs] at h
      rcases rtspHandleContent_again h with ⟨hBegin, hInput⟩
      refine .inr ⟨?_, ?_, ?_⟩
      · rw [hBegin]
        decide
      · rw [hInput]
      · unfold loopRank
        rw [hBegin, hIs, hInput]
        exact Nat.lt_succ_self _
  | interleaved =>
      simp only [hIs] at h
      rcases rtspHandleInterleaved_again h with
        ⟨hBegin, hSuffix, hLess⟩
      refine .inr ⟨?_, hSuffix, ?_⟩
      · rw [hBegin]
        decide
      · unfold loopRank
        rw [hBegin, hIs]
        simp only
        omega
  | httpHeaders => exact absurd (.inl hIs) hStatus
  | httpContent => exact absurd (.inr (.inl hIs)) hStatus
  | httpIdle => exact absurd (.inr (.inr hIs)) hStatus

/- After such a line the headers are refused, or not over. -/
theorem Doomed.last
    (h : Doomed rtsp given.mem.behind)
    (server : ServerState)
    (i : Nat) :
    (∃ fault, handlerRound given server i rtsp =
      .error fault) ∨
    ∃ server', handlerRound given server i rtsp =
      .ok (server', .done) := by
  rcases h with ⟨hStatus, name, rest, hText, hName⟩
  unfold handlerRound
  rcases hStatus with hIs | hIs
  · simp only [hIs, rtspHandleHeaders]
    cases rtsp.pendingRequest with
    | none => exact .inl ⟨_, rfl⟩
    | some req =>
        rcases rtspHeaderTables.blank_refused rtspNameTables
          hName hText (req.headers.getD rfc822HeadersNew)
          given.mem.parsedHeaders with
          ⟨result, headers, size, hRead, hResult⟩
        have hRead :
            ragelReadRtspHeaders
                (req.headers.getD rfc822HeadersNew)
                rtsp.input given.mem.behind
                given.mem.parsedHeaders =
              some (result, headers, size) :=
          hRead
        simp only [hRead]
        right
        rcases hResult with rfl | rfl
        · exact ⟨_, rfl⟩
        · exact ⟨_, rfl⟩
  · simp only [hIs, httpHandleHeaders]
    cases rtsp.pendingRequest with
    | none => exact .inl ⟨_, rfl⟩
    | some req =>
        rcases httpHeaderTables.blank_refused httpNameTables
          hName hText (req.headers.getD rfc822HeadersNew)
          given.mem.parsedHeaders with
          ⟨result, headers, size, hRead, hResult⟩
        have hRead :
            ragelReadHttpHeaders
                (req.headers.getD rfc822HeadersNew)
                rtsp.input given.mem.behind
                given.mem.parsedHeaders =
              some (result, headers, size) :=
          hRead
        simp only [hRead]
        right
        rcases hResult with rfl | rfl
        · exact ⟨_, rfl⟩
        · exact ⟨_, rfl⟩

end Feng

------------------------------------------------------------
-- The Loop Ends
------------------------------------------------------------

namespace Feng

variable {rtsp : RTSPClient} {server : ServerState}
variable {given : Nat → CallInput} {behind : List UInt8}
variable {i k calls : Nat}

theorem Returns.of_fault
    (fault : HandlerFault) :
    Returns (some (.error fault)) :=
  ⟨_, rfl, fun _ _ hOk => by cases hOk⟩

theorem Returns.of_done
    (server : ServerState) :
    Returns (some (.ok (server, .done))) := by
  refine ⟨_, rfl, ?_⟩
  intro server' next hOk
  cases hOk
  rfl

/- One more call is enough where the next one is the last. -/
theorem Doomed.returns
    (h : Doomed rtsp behind)
    (hClient : server.clients[i]? = some rtsp)
    (hCalls : 0 < calls) :
    Returns (rtspHandler given i calls k server behind) := by
  cases calls with
  | zero => exact absurd hCalls (Nat.lt_irrefl 0)
  | succ calls =>
      have hDoomed :
          Doomed rtsp ((given k).round behind).mem.behind :=
        h
      have hLast := hDoomed.last server i
      unfold rtspHandler
      simp only [hClient]
      rcases hLast with ⟨fault, hRound⟩ | ⟨server', hRound⟩
      · rw [hRound]
        exact Returns.of_fault fault
      · rw [hRound]
        exact Returns.of_done server'

/- As many calls are enough as the rank says. -/
theorem rtspHandler_returns
    (hClient : server.clients[i]? = some rtsp)
    (hStatus : ¬ OfHttp rtsp.status)
    (hNoHttp : NoHttpLine rtsp.input)
    (hSizes : rtsp.input.length + behind.length < 2 ^ 32)
    (hCalls : loopRank rtsp ≤ calls) :
    Returns (rtspHandler given i calls k server behind) := by
  induction calls generalizing k server rtsp behind with
  | zero =>
      unfold loopRank at hCalls
      split at hCalls
      · omega
      · omega
      · omega
  | succ calls ih =>
      unfold rtspHandler
      simp only [hClient]
      rw [handlerRound_rtsp server i hStatus]
      cases hRound :
          rtspRound ((given k).round behind) rtsp with
      | error fault => exact Returns.of_fault fault
      | ok result =>
          rcases result with ⟨rtsp', ret⟩
          cases ret with
          | false => exact Returns.of_done _
          | true =>
              have hNow :
                  (server.setClient i rtsp').clients[i]? =
                    some rtsp' := by
                exact List.getElem?_set_self
                  (List.getElem?_eq_some_iff.mp hClient).1
              simp only [clientRound, if_pos, hNow,
                Option.elim]
              rcases rtspRound_again hStatus hNoHttp hSizes
                hRound with
                ⟨hSame, hSome, hDoomed⟩ |
                ⟨hRtsp, hSuffix, hLess⟩
              · rw [hSame, leftBehind_same]
                refine hDoomed.returns hNow ?_
                unfold loopRank at hCalls
                split at hCalls
                · omega
                · omega
                · omega
              · refine ih hNow hRtsp (hNoHttp.suffix hSuffix)
                  ?_ (by omega)
                rw [leftBehind_length hSuffix.length_le]
                exact hSizes

/-
  The loop ends within three calls for each byte of the input,
  and three more. Sizes are taken to fit in a `guint`, so that
  a size that is beyond the input is seen to be.
-/
theorem loop_ends
    (hClient : server.clients[i]? = some rtsp)
    (hStatus : ¬ OfHttp rtsp.status)
    (hNoHttp : NoHttpLine rtsp.input)
    (hSizes : rtsp.input.length + behind.length < 2 ^ 32)
    (given : Nat → CallInput) :
    Returns
      (rtspHandler given i (3 * rtsp.input.length + 3) 0
        server behind) := by
  apply rtspHandler_returns hClient hStatus hNoHttp hSizes
  unfold loopRank
  split
  · omega
  · omega
  · omega

/- No request line starts with any of these bytes. -/
theorem noHttpLine_of_bytes
    {input : List UInt8}
    (hBytes : ∀ c ∈ input,
      requestLineTables.transition 1 c = (0, [])) :
    NoHttpLine input := by
  intro rest behind length req hRest hLine hWithin hHttp
  have hProto : headersStatus req.proto ≠ none := by
    rw [hHttp]
    exact Option.some_ne_none _
  rcases ragelParseRequestLine_read hProto hLine with
    ⟨cs, p, t, hFinal, rfl, hOut⟩
  have hNotError : cs ≠ 0 := by
    unfold requestLineFirstFinal at hFinal
    omega
  have hPlace := (requestLine_out_le hNotError hOut).1
  cases rest with
  | nil =>
      simp only [List.length_nil] at hWithin hPlace
      omega
  | cons c rest =>
      have hStop := hBytes c (hRest.subset List.mem_cons_self)
      have hEnter :=
        requestLineParser_enter 1 [] requestLineScanNew
      rw [List.cons_append, RagelMachine.exec_cons _ hEnter]
        at hOut
      have hRun :
          requestLineParser.run []
            (requestLineParser.tables.transition 1 c).2
            requestLineScanNew =
              .next requestLineScanNew := by
        rw [show requestLineParser.tables = requestLineTables
          from rfl, hStop]
        rfl
      rw [RagelMachine.step_of_run hRun] at hOut
      · rw [show requestLineParser.tables = requestLineTables
          from rfl, hStop] at hOut
        cases hOut
        exact hNotError rfl
      · rw [show requestLineParser.tables = requestLineTables
          from rfl, hStop]
        exact requestLine_toState 0 (by decide)

/- A frame with one byte in it. -/
def frameClient : RTSPClient :=
  { rtspClientNew with input := [36, 0, 0, 1, 0] }

def frameServer : ServerState :=
  { serverNew true with clients := [frameClient] }

theorem loop_ends_frame :
    Returns
      (rtspHandler
        (fun _ =>
          { parsedHeaders := 0
            env := sampleUrlEnv
            decoded := [] })
        0 18 0 frameServer [65, 10]) := by
  have hClient : frameServer.clients[0]? = some frameClient :=
    rfl
  have hNoHttp : NoHttpLine frameClient.input :=
    noHttpLine_of_bytes (by decide +kernel)
  exact loop_ends hClient (by decide) hNoHttp (by decide) _

end Feng
