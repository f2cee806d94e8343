import Feng.Rtsp.Faults
import Feng.Rtsp.Updates

/-
  The two assertions of the state machine: the first byte of
  an interleaved frame, and a request with content.

  Key definitions include:
    * `AsksForContent`
    * `Asserted`
    * `Server.AssertionsHold`
    * `Server.TakesNoContent`

  Key theorems include:
    * `rtspRound_asserted`
    * `Server.assertions_hold_iff`
-/

------------------------------------------------------------
-- Rounds
------------------------------------------------------------

namespace Feng

/- There is a field for the length of the content. -/
def HasContentLength (headers : Option RFC822Headers) : Prop :=
  rfc822HeadersLookup headers .contentLength ≠ none

instance decidableHasContentLength :
    DecidablePred HasContentLength :=
  fun headers =>
    inferInstanceAs
      (Decidable
        (rfc822HeadersLookup headers .contentLength ≠ none))

/-
  The headers of the pending request end in the input, and
  there is a length of its content among them.
-/
def AsksForContent (mem : Memory) (rtsp : RTSPClient) : Prop :=
  rtsp.status = .rtspHeaders ∧
    ∃ req ∈ rtsp.pendingRequest,
      ∃ result ∈
          ragelReadRtspHeaders
            (req.headers.getD rfc822HeadersNew) rtsp.input
            mem.behind mem.parsedHeaders,
        result.1 ≠ -1 ∧ result.1 ≠ 0 ∧
          HasContentLength (some result.2.1)

instance decidableAsksForContent
    (mem : Memory)
    (rtsp : RTSPClient) :
    Decidable (AsksForContent mem rtsp) :=
  inferInstanceAs
    (Decidable
      (rtsp.status = .rtspHeaders ∧
        ∃ req ∈ rtsp.pendingRequest,
          ∃ result ∈
              ragelReadRtspHeaders
                (req.headers.getD rfc822HeadersNew)
                rtsp.input mem.behind mem.parsedHeaders,
            result.1 ≠ -1 ∧ result.1 ≠ 0 ∧
              HasContentLength (some result.2.1)))

/-
  What the assertions rest on: an interleaved frame starts
  with its dollar sign, however much of it is there, and the
  request that is to be handled has no content.
-/
structure Asserted (rtsp : RTSPClient) : Prop where
  frame :
    rtsp.status = .interleaved →
      rtsp.input.head? = some chDollar
  content :
    rtsp.status = .rtspContent →
      ∀ req ∈ rtsp.pendingRequest,
        ¬ HasContentLength req.headers

variable {rtsp rtsp' : RTSPClient} {mem : Memory}
variable {given : RoundInput} {fault : HandlerFault}
variable {ret : Bool}

/- The other states rest on nothing. -/
theorem Asserted.of_status
    (hFrame : rtsp.status ≠ .interleaved)
    (hContent : rtsp.status ≠ .rtspContent) :
    Asserted rtsp :=
  ⟨fun h => absurd h hFrame, fun h => absurd h hContent⟩

theorem Asserted.of_begin
    (hStatus : rtsp.status = .begin_) :
    Asserted rtsp := by
  apply Asserted.of_status
  · rw [hStatus]
    exact RFC822ParserState.noConfusion
  · rw [hStatus]
    exact RFC822ParserState.noConfusion

theorem Asserted.of_http
    (hStatus : OfHttp rtsp.status) :
    Asserted rtsp := by
  apply Asserted.of_status
  · intro hIs
    simp [OfHttp, hIs] at hStatus
  · intro hIs
    simp [OfHttp, hIs] at hStatus

theorem Asserted.append
    (h : Asserted rtsp)
    (bytes : List UInt8) :
    Asserted { rtsp with input := rtsp.input ++ bytes } := by
  refine ⟨?_, h.content⟩
  intro hStatus
  have hFirst := h.frame hStatus
  cases hInput : rtsp.input with
  | nil =>
      rw [hInput] at hFirst
      cases hFirst
  | cons byte rest =>
      rw [hInput] at hFirst
      exact hFirst

/- The bytes of a client whose frame is not there are kept. -/
theorem rtspHandleInterleaved_asserted
    (h : Asserted rtsp)
    (hRound : rtspHandleInterleaved rtsp = .ok (rtsp', ret)) :
    Asserted rtsp' := by
  unfold rtspHandleInterleaved at hRound
  split at hRound
  · cases hRound
    exact h
  · simp only at hRound
    split at hRound
    · cases hRound
    · split at hRound
      · cases hRound
        exact h
      · cases hRound
        exact .of_begin rfl

theorem headersStatus_asserted
    {proto : RFC822Protocol}
    {status : RFC822ParserState}
    (h : headersStatus proto = some status) :
    status ≠ .interleaved ∧ status ≠ .rtspContent := by
  cases proto with
  | rtsp10 => cases h; decide
  | http10 => cases h; decide
  | http11 => cases h; decide
  | _ => cases h

/- A request line leads to headers, or nowhere. -/
theorem handleLineResult_asserted
    {length : Int}
    {req : RFC822Request}
    (h : Asserted rtsp)
    (hResult :
      handleLineResult rtsp length req = (rtsp', ret)) :
    Asserted rtsp' := by
  unfold handleLineResult at hResult
  split at hResult
  · cases hResult
    exact ⟨h.frame, h.content⟩
  · split at hResult
    · cases hResult
      exact h
    · split at hResult
      · cases hResult
        exact ⟨h.frame, h.content⟩
      · rename_i status hStatus
        have hOther := headersStatus_asserted hStatus
        unfold handleRequestLine at hResult
        simp only at hResult
        split at hResult
        · cases hResult
          exact .of_status hOther.1 hOther.2
        · cases hResult
          exact .of_status hOther.1 hOther.2

theorem rtspHandleNew_asserted
    (h : Asserted rtsp)
    (hRound : rtspHandleNew mem rtsp = .ok (rtsp', ret)) :
    Asserted rtsp' := by
  unfold rtspHandleNew at hRound
  split at hRound
  · cases hRound
    exact h
  · rename_i hSome
    split at hRound
    · rename_i hFirst
      refine rtspHandleInterleaved_asserted ?_ hRound
      refine ⟨?_, fun hIs => by cases hIs⟩
      intro _
      cases hInput : rtsp.input with
      | nil =>
          rw [hInput] at hSome
          exact absurd Nat.zero_lt_one hSome
      | cons byte rest =>
          rw [hInput] at hFirst
          simpa using hFirst
    · split at hRound
      · cases hRound
      · rename_i length req hLine
        simp only [Except.ok.injEq] at hRound
        exact handleLineResult_asserted h hRound

theorem rtspHandleHeaders_asserted
    (hStatus : rtsp.status = .rtspHeaders)
    (hNot : ¬ AsksForContent mem rtsp)
    (hRound : rtspHandleHeaders mem rtsp = .ok (rtsp', ret)) :
    Asserted rtsp' := by
  have hOther
      {client : RTSPClient}
      (hKeeps : client.status = rtsp.status) :
      Asserted client := by
    apply Asserted.of_status
    · rw [hKeeps, hStatus]
      exact RFC822ParserState.noConfusion
    · rw [hKeeps, hStatus]
      exact RFC822ParserState.noConfusion
  unfold rtspHandleHeaders at hRound
  split at hRound
  · cases hRound
  · rename_i req hPending
    split at hRound
    · cases hRound
    · rename_i headersRes headers parsedHeaders hScan
      simp only at hRound
      split at hRound
      · cases hRound
        exact hOther rfl
      · rename_i hGood
        split at hRound
        · cases hRound
          exact hOther rfl
        · rename_i hMore
          cases hRound
          refine ⟨fun hIs => (by cases hIs), ?_⟩
          intro _ req' hReq' hLength
          cases hReq'
          exact hNot ⟨hStatus, req, hPending, _, hScan,
            hGood, hMore, hLength⟩

theorem rtspHandleContent_asserted
    {env : UrlEnv}
    (hRound : rtspHandleContent env rtsp = .ok (rtsp', ret)) :
    Asserted rtsp' := by
  unfold rtspHandleContent at hRound
  split at hRound
  · cases hRound
  · split at hRound
    · cases hRound
    · split at hRound
      · cases hRound
      · cases hRound
        exact .of_begin rfl

theorem rtspRound_asserted
    (h : Asserted rtsp)
    (hNot : ¬ AsksForContent given.mem rtsp)
    (hRound : rtspRound given rtsp = .ok (rtsp', ret)) :
    Asserted rtsp' := by
  unfold rtspRound at hRound
  split at hRound
  · exact rtspHandleNew_asserted h hRound
  · rename_i hStatus
    exact rtspHandleHeaders_asserted hStatus hNot hRound
  · exact rtspHandleContent_asserted hRound
  · exact rtspHandleInterleaved_asserted h hRound

/- Where the conditions hold no assertion fails. -/
theorem Asserted.round
    (h : Asserted rtsp) :
    ¬ RoundFault rtsp .assertion := by
  intro hFault
  cases hFault with
  | frame hStatus hFirst =>
      have hHead := h.frame hStatus
      cases hInput : rtsp.input with
      | nil =>
          rw [hInput] at hHead
          cases hHead
      | cons byte rest =>
          rw [hInput] at hHead hFirst
          exact hFirst (by simpa using hHead)
  | content hStatus hPending hLength =>
      exact h.content hStatus _ hPending hLength

end Feng

------------------------------------------------------------
-- Runs Of The Server
------------------------------------------------------------

namespace Feng

namespace Server

/- Whatever a client does next, no assertion fails. -/
def AssertionsHold (server : ServerState) : Prop :=
  ∀ op, enabled server op →
    step server op ≠ .error .assertion

/- No headers are read that announce content. -/
def TakesNoContent (server : ServerState) : Op → Prop
| .round _ i given =>
    ∀ rtsp ∈ server.clients[i]?,
      ¬ AsksForContent given.mem rtsp
| _ => True

instance decidableTakesNoContent
    (server : ServerState) :
    (op : Op) → Decidable (TakesNoContent server op)
| .round _ i given =>
    inferInstanceAs
      (Decidable
        (∀ rtsp ∈ server.clients[i]?,
          ¬ AsksForContent given.mem rtsp))
| .accept => isTrue trivial
| .read _ _ => isTrue trivial
| .drained _ _ => isTrue trivial
| .disconnect _ => isTrue trivial

/- The assertions are prepared for in every client. -/
def AllAsserted (server : ServerState) : Prop :=
  ∀ (j : Nat) (rtsp : RTSPClient),
    server.clients[j]? = some rtsp → Asserted rtsp

variable {server server' : ServerState} {op : Op}
variable {trace : List (ServerState × Op)}
variable {initialised : Bool}

theorem AllAsserted.step
    (h : AllAsserted server)
    (hGuard : TakesNoContent server op)
    (hStep : step server op = .ok server') :
    AllAsserted server' := by
  intro j rtsp' hClient'
  rcases step_clientMoves hStep j rtsp' hClient' with
    ⟨rtsp, hClient, hMoves⟩ | rfl
  · have hOld := h j rtsp hClient
    cases hMoves with
    | same => exact hOld
    | ended connected freed =>
        exact ⟨hOld.frame, hOld.content⟩
    | read _ => exact hOld.append _
    | own _ hRound =>
        exact rtspRound_asserted hOld (hGuard rtsp hClient)
          hRound
    | headers _ hStatus _ =>
        rcases hStatus with hHttp | hBegin
        · exact .of_http hHttp
        · exact .of_begin hBegin
    | handed _ _ _ => exact .of_http (.inr (.inl rfl))
    | decoded _ _ _ _ _ _ => exact hOld.append _
    | emptied hStatus =>
        exact .of_http (.inr (.inl hStatus))
  · exact .of_begin rfl

theorem AllAsserted.assertionsHold
    (h : AllAsserted server) :
    AssertionsHold server := by
  intro op _ hFails
  cases step_fault hFails with
  | round hClient _ hFault =>
      exact (h _ _ hClient).round hFault

/-
  Where headers that announce content have been read, the
  thread goes on to the assertion.
-/
theorem step_fails
    (hGuard : ¬ TakesNoContent server op)
    (hEnabled : enabled server op)
    (hStep : step server op = .ok server') :
    ¬ AssertionsHold server' := by
  cases op with
  | round thread i given =>
      simp only [TakesNoContent, not_forall, not_not] at hGuard
      rcases hGuard with
        ⟨rtsp, hClient, hStatus, req, hPending, result, hScan,
          hGood, hMore, hLength⟩
      simp only [Option.mem_def] at hClient hPending hScan
      rcases result with ⟨headersRes, headers, parsedHeaders⟩
      simp only [step, hClient, handlerRound, hStatus,
        rtspHandleHeaders, hPending, hScan, hGood, hMore,
        if_false, clientRound, if_true, runNext,
        Except.ok.injEq] at hStep
      subst hStep
      intro hHold
      apply hHold
        (.round thread i
          { given with decoded := [] })
      · exact ⟨hEnabled.1, Nat.zero_le _⟩
      · have hNow :=
          setClient_get server i i
            { rtsp with
              pendingRequest :=
                some { req with
                  headers := some headers
                  uri := req.object.bind uriParse }
              input :=
                gByteArrayRemoveRange rtsp.input parsedHeaders
              status := .rtspContent }
        rw [if_pos rfl, hClient, Option.map_some] at hNow
        have hField :
            rfc822HeadersLookup (some headers)
              .contentLength ≠ none := hLength
        simp only [step, hNow, handlerRound,
          rtspHandleContent, clientRound]
        rw [if_pos hField]
  | accept => exact absurd trivial hGuard
  | read _ _ => exact absurd trivial hGuard
  | drained _ _ => exact absurd trivial hGuard
  | disconnect _ => exact absurd trivial hGuard

/-
  In a run, no assertion can ever be made to fail, exactly
  when no headers that announce content have been read.
-/
theorem assertions_hold_iff
    (hRun : (system initialised).Run trace server) :
    System.Always AssertionsHold trace server ↔
      System.Guarded TakesNoContent trace := by
  apply hRun.safe_iff_guarded (I := AllAsserted)
  · intro s hStart j rtsp hClient
    rw [hStart] at hClient
    cases hClient
  · intro s op t h hGuard hStep
    exact h.step hGuard hStep.2
  · intro s h
    exact h.assertionsHold
  · intro s op t _ hGuard hStep
    exact step_fails hGuard hStep.1 hStep.2

/- A request with content, in two reads. -/
def contentOps : List Op :=
  [.accept,
    .read 0 (ascii "OPTIONS * RTSP/1.0\r\nCSeq: 1\r\n"),
    .round 0 0 sampleRound, .round 0 0 sampleRound,
    .read 0 (ascii "Content-Length: 1\r\n\r\nx"),
    .round 0 0 sampleRound]

theorem contentOps_run :
    (system true).Run
      (System.replayTrace step (serverNew true) contentOps)
      (System.replayEnd step (serverNew true) contentOps) :=
  System.replay_run (by decide) (by decide)

theorem assertions_hold_iff_content :
    System.Always AssertionsHold
        (System.replayTrace step (serverNew true) contentOps)
        (System.replayEnd step (serverNew true) contentOps) ↔
      System.Guarded TakesNoContent
        (System.replayTrace step (serverNew true)
          contentOps) :=
  assertions_hold_iff contentOps_run

/- The server is aborted by a request that has content. -/
theorem content_aborts :
    ¬ ∀ trace server,
      (system true).Run trace server →
        System.Always AssertionsHold trace server := by
  intro hAll
  have hHold := (hAll _ _ contentOps_run).2
  apply hHold (.round 0 0 sampleRound)
  · decide +kernel
  · decide +kernel

end Server

end Feng
