import Feng.Rtsp.Faults

/-
  Where the state of a client says that a request is pending,
  there is one, unless a request line was refused for its
  method while there was none.

  Key definitions include:
    * `NeedsRequest`
    * `RejectsMethod`
    * `Server.RequestPending`
    * `Server.KeepsRequest`

  Key theorems include:
    * `rtspHandleNew_kept_iff`
    * `Server.request_pending_iff`
-/

------------------------------------------------------------
-- Clients
------------------------------------------------------------

namespace Feng

/- The states whose handlers look at the pending request. -/
def NeedsRequest (status : RFC822ParserState) : Prop :=
  status = .rtspHeaders ∨ status = .rtspContent ∨
    status = .httpHeaders

instance decidableNeedsRequest :
    DecidablePred NeedsRequest :=
  fun status =>
    inferInstanceAs
      (Decidable
        (status = .rtspHeaders ∨ status = .rtspContent ∨
          status = .httpHeaders))

def RequestKept (rtsp : RTSPClient) : Prop :=
  NeedsRequest rtsp.status → rtsp.pendingRequest ≠ none

instance decidableRequestKept :
    DecidablePred RequestKept :=
  fun rtsp =>
    inferInstanceAs
      (Decidable
        (NeedsRequest rtsp.status →
          rtsp.pendingRequest ≠ none))

/-
  The scanner found a request line whose protocol version is
  supported and whose method is not.
-/
def MethodRefused
    (length : Int)
    (req : RFC822Request) : Prop :=
  length ≠ -1 ∧ length ≠ 0 ∧
    headersStatus req.proto ≠ none ∧
    (req.methodId = RTSPMethod.invalid ∨
      req.methodId = RTSPMethod.unsupported)

/- The client is about to read such a line. -/
def RejectsMethod
    (mem : Memory)
    (rtsp : RTSPClient) : Prop :=
  rtsp.status = .begin_ ∧ 1 ≤ rtsp.input.length ∧
    rtsp.input.getD 0 0 ≠ chDollar ∧
    ∃ length req,
      ragelParseRequestLine rtsp.input mem.behind tmpreq =
        some (length, req) ∧
      MethodRefused length req

variable {rtsp rtsp' : RTSPClient} {mem : Memory}
variable {env : UrlEnv} {ret : Bool}
variable {req : RFC822Request}

theorem requestKept_of_pending
    (hPending : rtsp.pendingRequest ≠ none) :
    RequestKept rtsp :=
  fun _ => hPending

theorem requestKept_of_status
    (hStatus : ¬ NeedsRequest rtsp.status) :
    RequestKept rtsp :=
  fun hNeeds => absurd hNeeds hStatus

theorem rtspHandleInterleaved_kept
    (hStatus : ¬ NeedsRequest rtsp.status)
    (hRound :
      rtspHandleInterleaved rtsp = .ok (rtsp', ret)) :
    RequestKept rtsp' := by
  unfold rtspHandleInterleaved at hRound
  apply requestKept_of_status
  split at hRound
  · cases hRound
    exact hStatus
  · simp only at hRound
    split at hRound
    · cases hRound
    · split at hRound
      · cases hRound
        exact hStatus
      · cases hRound
        exact of_decide_eq_false rfl

theorem headersStatus_needs
    {proto : RFC822Protocol}
    {status : RFC822ParserState}
    (hStatus : headersStatus proto = some status) :
    NeedsRequest status := by
  cases proto with
  | rtsp10 =>
      cases hStatus
      decide
  | http10 =>
      cases hStatus
      decide
  | http11 =>
      cases hStatus
      decide
  | _ => cases hStatus

/- An accepted line leaves a request, unless it is refused. -/
theorem handleRequestLine_kept_iff
    {status : RFC822ParserState}
    (rtsp : RTSPClient)
    (req : RFC822Request)
    (hNeeds : NeedsRequest status)
    (length : Nat) :
    RequestKept
        (handleRequestLine rtsp req status length).1 ↔
      (req.methodId = RTSPMethod.invalid ∨
          req.methodId = RTSPMethod.unsupported →
        rtsp.pendingRequest ≠ none) := by
  unfold handleRequestLine
  simp only
  split
  · rename_i hRefused
    simp only [hRefused, true_implies]
    constructor
    · intro hKept
      exact hKept hNeeds
    · intro hPending
      exact requestKept_of_pending hPending
  · rename_i hKnown
    apply iff_of_true
    · exact requestKept_of_pending (by simp)
    · intro hRefused
      exact absurd hRefused hKnown

theorem handleLineResult_kept_iff
    (hStatus : ¬ NeedsRequest rtsp.status)
    (length : Int)
    (req : RFC822Request) :
    RequestKept (handleLineResult rtsp length req).1 ↔
      (MethodRefused length req →
        rtsp.pendingRequest ≠ none) := by
  unfold handleLineResult MethodRefused
  by_cases hBad : length = -1
  · rw [if_pos hBad]
    apply iff_of_true (requestKept_of_status hStatus)
    intro hRefused
    exact absurd hBad hRefused.1
  · rw [if_neg hBad]
    by_cases hZero : length = 0
    · rw [if_pos hZero]
      apply iff_of_true (requestKept_of_status hStatus)
      intro hRefused
      exact absurd hZero hRefused.2.1
    · rw [if_neg hZero]
      cases hProto : headersStatus req.proto with
      | none =>
          apply iff_of_true (requestKept_of_status hStatus)
          intro hRefused
          exact absurd rfl hRefused.2.2.1
      | some status =>
          have hKept :=
            handleRequestLine_kept_iff rtsp req
              (headersStatus_needs hProto) length.toNat
          simpa [hBad, hZero] using hKept

theorem rtspHandleNew_kept_iff
    (hStatus : rtsp.status = .begin_)
    (hRound : rtspHandleNew mem rtsp = .ok (rtsp', ret)) :
    RequestKept rtsp' ↔
      (RejectsMethod mem rtsp →
        rtsp.pendingRequest ≠ none) := by
  have hIdle : ¬ NeedsRequest rtsp.status := by
    rw [hStatus]
    decide
  unfold rtspHandleNew at hRound
  split at hRound
  · rename_i hShort
    cases hRound
    apply iff_of_true (requestKept_of_status hIdle)
    rintro ⟨_, hLong, _⟩
    omega
  · rename_i hLong
    split at hRound
    · rename_i hDollar
      apply iff_of_true
      · apply rtspHandleInterleaved_kept _ hRound
        change ¬ NeedsRequest .interleaved
        decide
      · rintro ⟨_, _, hNot, _⟩
        exact absurd hDollar hNot
    · rename_i hDollar
      cases hParse :
        ragelParseRequestLine rtsp.input mem.behind tmpreq with
      | none =>
          rw [hParse] at hRound
          cases hRound
      | some result =>
          rcases result with ⟨length, req⟩
          rw [hParse] at hRound
          have hKept :=
            handleLineResult_kept_iff hIdle length req
          simp only [Except.ok.injEq] at hRound
          rw [hRound] at hKept
          rw [hKept]
          have hRejects :
              RejectsMethod mem rtsp ↔
                MethodRefused length req := by
            constructor
            · rintro ⟨_, _, _, length, req, hEq, hRefused⟩
              rw [hParse] at hEq
              cases hEq
              exact hRefused
            · intro hRefused
              exact ⟨hStatus, Nat.le_of_not_lt hLong,
                hDollar, length, req, hParse, hRefused⟩
          rw [hRejects]

theorem rtspHandleHeaders_kept
    (hRound :
      rtspHandleHeaders mem rtsp = .ok (rtsp', ret)) :
    rtsp'.pendingRequest ≠ none := by
  unfold rtspHandleHeaders at hRound
  split at hRound
  · cases hRound
  · split at hRound
    · cases hRound
    · simp only at hRound
      split at hRound
      · cases hRound
        simp [rfc822ResponseSend]
      · split at hRound
        · cases hRound
          simp
        · cases hRound
          simp

theorem rtspHandleContent_kept
    (hRound :
      rtspHandleContent env rtsp = .ok (rtsp', ret)) :
    rtsp'.status = .begin_ := by
  unfold rtspHandleContent at hRound
  split at hRound
  · cases hRound
  · split at hRound
    · cases hRound
    · split at hRound
      · cases hRound
      · cases hRound
        rfl

end Feng

------------------------------------------------------------
-- Servers
------------------------------------------------------------

namespace Feng

variable {server server' : ServerState}
variable {rtsp : RTSPClient} {mem : Memory}
variable {req : RFC822Request} {i : Nat} {next : Next}

/- Every client keeps its request. -/
def AllKept (server : ServerState) : Prop :=
  ∀ client ∈ server.clients, RequestKept client

instance decidableAllKept :
    DecidablePred AllKept :=
  fun server =>
    inferInstanceAs
      (Decidable
        (∀ client ∈ server.clients, RequestKept client))

theorem AllKept.client
    (hKept : AllKept server)
    (hClient : server.clients[i]? = some rtsp) :
    RequestKept rtsp :=
  hKept rtsp (List.mem_of_getElem? hClient)

theorem AllKept.setClient
    (hKept : AllKept server)
    (hClient : RequestKept rtsp)
    (i : Nat) :
    AllKept (server.setClient i rtsp) := by
  intro other hMem
  rcases List.mem_or_eq_of_mem_set hMem with hOld | hNew
  · exact hKept other hOld
  · rw [hNew]
    exact hClient

theorem AllKept.free
    (hKept : AllKept server)
    (i : Nat) :
    AllKept (server.free i) := by
  unfold ServerState.free
  cases hClient : server.clients[i]? with
  | none => exact hKept
  | some client =>
      have hOld : RequestKept client := hKept.client hClient
      refine hKept.setClient ?_ i
      exact hOld

theorem AllKept.clientLoopEnd
    (hKept : AllKept server)
    (i : Nat) :
    AllKept (server.clientLoopEnd i) := by
  unfold ServerState.clientLoopEnd
  cases hClient : server.clients[i]? with
  | none => exact hKept
  | some client =>
      have hOld : RequestKept client := hKept.client hClient
      have hSet :
          AllKept (server.setClient i
            { client with connected := false }) := by
        refine hKept.setClient ?_ i
        exact hOld
      simp only
      split
      · exact hSet.free i
      · split
        · exact hSet
        · split
          · exact (hSet.free _).free i
          · exact hSet

theorem httpTunnelCreatePair_kept
    {ret : Bool}
    (hKept : AllKept server)
    (hPending : rtsp.pendingRequest ≠ none)
    (hCreate :
      httpTunnelCreatePair server i rtsp req =
        (server', ret)) :
    AllKept server' := by
  unfold httpTunnelCreatePair at hCreate
  split at hCreate
  · cases hCreate
    refine hKept.setClient ?_ i
    exact requestKept_of_pending hPending
  · split at hCreate
    · cases hCreate
      refine hKept.setClient ?_ i
      exact requestKept_of_pending hPending
    · cases hCreate
      intro other hMem
      refine hKept.setClient ?_ i other hMem
      exact requestKept_of_pending hPending

theorem httpHandlePost_kept
    (hKept : AllKept server)
    (hPending : rtsp.pendingRequest ≠ none)
    (hRound :
      httpHandlePost server i rtsp req =
        .ok (server', next)) :
    AllKept server' := by
  have hRefused (pair : Option Nat) :
      AllKept (server.setClient i
        (httpBadRequest { rtsp with pair := pair } req)) := by
    refine hKept.setClient ?_ i
    exact requestKept_of_pending hPending
  unfold httpHandlePost at hRound
  split at hRound
  · cases hRound
    refine hKept.setClient ?_ i
    exact requestKept_of_pending hPending
  · simp only at hRound
    split at hRound
    · cases hRound
      exact hRefused _
    · split at hRound
      · cases hRound
      · split at hRound
        · cases hRound
        · split at hRound
          · cases hRound
            exact hRefused _
          · split at hRound
            · cases hRound
              exact hRefused _
            · cases hRound
              intro other hMem
              refine AllKept.setClient ?_ ?_ _ other hMem
              · refine hKept.setClient ?_ i
                exact requestKept_of_pending hPending
              · exact requestKept_of_status
                  (of_decide_eq_false rfl)

theorem httpHandleHeaders_kept
    (hKept : AllKept server)
    (hRound :
      httpHandleHeaders mem server i rtsp =
        .ok (server', next)) :
    AllKept server' := by
  unfold httpHandleHeaders at hRound
  split at hRound
  · cases hRound
  · split at hRound
    · cases hRound
    · simp only at hRound
      split at hRound
      · cases hRound
        refine hKept.setClient ?_ i
        exact requestKept_of_pending (Option.some_ne_none _)
      · split at hRound
        · cases hRound
          refine hKept.setClient ?_ i
          exact requestKept_of_pending (Option.some_ne_none _)
        · split at hRound
          · exact httpHandlePost_kept hKept (by simp) hRound
          · split at hRound
            · rename_i hPair
              cases hRound
              exact httpTunnelCreatePair_kept hKept
                (Option.some_ne_none _) hPair
            · rename_i created hPair
              have hCreated :=
                httpTunnelCreatePair_kept hKept
                  (Option.some_ne_none _) hPair
              split at hRound
              · cases hRound
              · cases hRound
                refine hCreated.setClient ?_ i
                exact requestKept_of_status
                  (of_decide_eq_false rfl)

theorem httpHandleContent_kept
    {decoded : List UInt8}
    (hKept : AllKept server)
    (hRound :
      httpHandleContent decoded server i rtsp =
        .ok (server', next)) :
    AllKept server' := by
  unfold httpHandleContent at hRound
  split at hRound
  · cases hRound
  · split at hRound
    · cases hRound
    · split at hRound
      · cases hRound
      · rename_i rtspClient hClient
        have hOld : RequestKept rtspClient :=
          hKept.client hClient
        have hDecoded (j : Nat) :
            AllKept (server.setClient j
              { rtspClient with
                input := rtspClient.input ++ decoded }) := by
          refine hKept.setClient ?_ j
          exact hOld
        simp only at hRound
        split at hRound
        · cases hRound
        · rename_i own hOwn
          have hOwnKept : RequestKept own :=
            (hDecoded _).client hOwn
          cases hRound
          refine (hDecoded _).setClient ?_ i
          exact hOwnKept

/- A round of a client leaves every request where it was. -/
theorem handlerRound_kept
    {given : RoundInput}
    (hKept : AllKept server)
    (hGuard : RejectsMethod given.mem rtsp →
      rtsp.pendingRequest ≠ none)
    (hRound :
      handlerRound given server i rtsp =
        .ok (server', next)) :
    AllKept server' := by
  have hOwn
      {result : RoundResult}
      (hResult : clientRound server i result =
        .ok (server', next))
      (hClient : ∀ rtsp' ret,
        result = .ok (rtsp', ret) → RequestKept rtsp') :
      AllKept server' := by
    cases result with
    | error fault => cases hResult
    | ok result =>
        rcases result with ⟨rtsp', ret⟩
        cases hResult
        exact hKept.setClient (hClient rtsp' ret rfl) i
  cases hStatus : rtsp.status with
  | begin_ =>
      simp only [handlerRound, hStatus] at hRound
      apply hOwn hRound
      intro rtsp' ret hResult
      exact (rtspHandleNew_kept_iff hStatus hResult).mpr
        hGuard
  | interleaved =>
      simp only [handlerRound, hStatus] at hRound
      apply hOwn hRound
      intro rtsp' ret hResult
      apply rtspHandleInterleaved_kept _ hResult
      rw [hStatus]
      decide
  | rtspHeaders =>
      simp only [handlerRound, hStatus] at hRound
      apply hOwn hRound
      intro rtsp' ret hResult
      exact requestKept_of_pending
        (rtspHandleHeaders_kept hResult)
  | rtspContent =>
      simp only [handlerRound, hStatus] at hRound
      apply hOwn hRound
      intro rtsp' ret hResult
      apply requestKept_of_status
      rw [rtspHandleContent_kept hResult]
      decide
  | httpHeaders =>
      simp only [handlerRound, hStatus] at hRound
      exact httpHandleHeaders_kept hKept hRound
  | httpContent =>
      simp only [handlerRound, hStatus] at hRound
      exact httpHandleContent_kept hKept hRound
  | httpIdle =>
      simp only [handlerRound, hStatus] at hRound
      cases hRound
      exact hKept

end Feng

------------------------------------------------------------
-- Runs Of The Server
------------------------------------------------------------

namespace Feng

namespace Server

variable {server server' : ServerState} {op : Op}
variable {trace : List (ServerState × Op)}
variable {initialised : Bool}

/-
  Every state that needs a request has one, and no handler
  that is entered dereferences a null request.
-/
def RequestPending (server : ServerState) : Prop :=
  AllKept server ∧
    ∀ op, step server op ≠ .error .nullRequest

/- No method is refused while there is no pending request. -/
def KeepsRequest (server : ServerState) : Op → Prop
| .round _ i given =>
    ∀ rtsp, server.clients[i]? = some rtsp →
      RejectsMethod given.mem rtsp →
        rtsp.pendingRequest ≠ none
| _ => True

theorem rtspTcpReadCb_kept
    {thread : Nat}
    {buffer : List UInt8}
    (hKept : AllKept server)
    (hRead :
      rtspTcpReadCb server thread buffer = .ok server') :
    AllKept server' := by
  unfold rtspTcpReadCb at hRead
  split at hRead
  · cases hRead
  · split at hRead
    · cases hRead
    · split at hRead
      · cases hRead
      · rename_i rtsp hClient
        have hOld : RequestKept rtsp := hKept.client hClient
        split at hRead
        · cases hRead
          exact hKept.clientLoopEnd thread
        · split at hRead
          · cases hRead
            exact hKept.clientLoopEnd thread
          · cases hRead
            intro other hMem
            refine hKept.setClient ?_ _ other hMem
            exact hOld

theorem runNext_clients
    (thread i : Nat)
    (next : Next) :
    (runNext server thread i next).clients =
      server.clients := by
  cases next with
  | again => rfl
  | done => rfl
  | wait => rfl
  | call j => rfl

theorem AllKept.requestPending
    (hKept : AllKept server) :
    RequestPending server := by
  refine ⟨hKept, ?_⟩
  intro op hNull
  cases step_fault hNull with
  | round hClient _ hFault =>
      cases hFault with
      | nullRequest hStatus hNone =>
          exact hKept.client hClient hStatus hNone

theorem step_kept
    (hKept : AllKept server)
    (hGuard : KeepsRequest server op)
    (hStep : step server op = .ok server') :
    AllKept server' := by
  cases op with
  | accept =>
      cases hStep
      intro client hMem
      rcases List.mem_append.mp hMem with hOld | hNew
      · exact hKept client hOld
      · rw [List.mem_singleton.mp hNew]
        exact of_decide_eq_true rfl
  | read thread buffer =>
      exact rtspTcpReadCb_kept hKept hStep
  | round thread i given =>
      simp only [step] at hStep
      split at hStep
      · cases hStep
      · rename_i rtsp hClient
        split at hStep
        · cases hStep
        · rename_i after next hRound
          cases hStep
          have hAfter :=
            handlerRound_kept hKept (hGuard rtsp hClient)
              hRound
          unfold AllKept
          rw [runNext_clients]
          exact hAfter
  | drained thread i =>
      cases hStep
      refine AllKept.clientLoopEnd ?_ i
      exact hKept
  | disconnect thread =>
      cases hStep
      exact hKept.clientLoopEnd thread

/- A method refused without a request leaves a bad state. -/
theorem step_breaks
    (hGuard : ¬ KeepsRequest server op)
    (hStep : step server op = .ok server') :
    ¬ AllKept server' := by
  cases op with
  | round thread i given =>
      simp only [KeepsRequest, not_forall, not_not] at hGuard
      rcases hGuard with
        ⟨rtsp, hClient, hRejects, hNone⟩
      simp only [step, hClient, handlerRound,
        hRejects.1] at hStep
      cases hRound : rtspHandleNew given.mem rtsp with
      | error fault =>
          rw [hRound] at hStep
          cases hStep
      | ok result =>
          rcases result with ⟨rtsp', ret⟩
          rw [hRound] at hStep
          cases hStep
          intro hAll
          unfold AllKept at hAll
          rw [runNext_clients] at hAll
          have hKept : RequestKept rtsp' := by
            apply hAll
            apply List.mem_set
            exact (List.getElem?_eq_some_iff.mp hClient).1
          exact (rtspHandleNew_kept_iff hRejects.1
            hRound).mp hKept hRejects hNone
  | _ => exact absurd trivial hGuard

theorem serverNew_kept :
    AllKept (serverNew initialised) := by
  intro client hMem
  cases hMem

/-
  In a run, a request is pending wherever one is needed,
  exactly when no method is refused while there is none.
-/
theorem request_pending_iff
    (hRun : (system initialised).Run trace server) :
    System.Always RequestPending trace server ↔
      System.Guarded KeepsRequest trace := by
  apply hRun.always_iff_guarded
  · intro s hStart
    subst hStart
    exact AllKept.requestPending serverNew_kept
  · intro s op t hPending hGuard hStep
    exact AllKept.requestPending
      (step_kept hPending.1 hGuard hStep.2)
  · intro s op t _ hGuard hStep hPending
    exact step_breaks hGuard hStep.2 hPending.1

/- A round, with a zero byte behind the input. -/
def sampleRound : RoundInput where
  mem :=
    { behind := [0]
      parsedHeaders := 0 }
  env := sampleUrlEnv
  decoded := []

/- A client that sends one line, in two reads. -/
def oneLineOps (line rest : List UInt8) : List Op :=
  [.accept, .read 0 line, .round 0 0 sampleRound,
    .read 0 rest, .round 0 0 sampleRound]

theorem request_pending_iff_line :
    System.Always RequestPending
        (System.replayTrace step (serverNew true)
          (oneLineOps (ascii "OPTIONS * RT")
            (ascii "SP/1.0\r\n")))
        (System.replayEnd step (serverNew true)
          (oneLineOps (ascii "OPTIONS * RT")
            (ascii "SP/1.0\r\n"))) ↔
      System.Guarded KeepsRequest
        (System.replayTrace step (serverNew true)
          (oneLineOps (ascii "OPTIONS * RT")
            (ascii "SP/1.0\r\n"))) :=
  request_pending_iff
    (System.replay_run (by decide +kernel)
      (by decide +kernel))

/- A method that is not known leaves no request to go on with. -/
theorem request_missing :
    ¬ ∀ trace server,
      (system true).Run trace server →
        System.Always RequestPending trace server := by
  intro hAll
  have hRun :
      (system true).Run
        (System.replayTrace step (serverNew true)
          (oneLineOps (ascii "FOO * RT")
            (ascii "SP/1.0\r\n")))
        (System.replayEnd step (serverNew true)
          (oneLineOps (ascii "FOO * RT")
            (ascii "SP/1.0\r\n"))) :=
    System.replay_run (by decide +kernel)
      (by decide +kernel)
  have hKept := (hAll _ _ hRun).2.1
  exact absurd hKept (by decide +kernel)

end Server

end Feng
