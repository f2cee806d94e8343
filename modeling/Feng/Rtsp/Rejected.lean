import Feng.Rtsp.Consumed
import Feng.Rtsp.Updates

/-
  How often a message that is rejected is answered. Nothing is
  done with its bytes and with the state of the client, so
  that each further round for the client finds it again.

  Key definitions include:
    * `rejects`
    * `messageNumber`
    * `rejections`
    * `Server.AnsweredOnce`
    * `Server.HandledOnce`

  Key theorems include:
    * `RejectedAlone.rejects`
    * `RejectedAlone.answered`
    * `rejects_round`
    * `Server.rejected_once`
    * `Server.rejected_twice`
-/

------------------------------------------------------------
-- Rejected Messages
------------------------------------------------------------

namespace Feng

/- An error, or a protocol version that is not supported. -/
def lineRejected : Int × RFC822Request → Bool
| (requestLineLen, req) =>
    requestLineLen = -1 ||
      (requestLineLen ≠ 0 && headersStatus req.proto = none)

def blockRejected : Int × RFC822Headers × Nat → Bool
| (headersRes, _, _) => headersRes = -1

/- A round finds a message it answers with an error. -/
def rejects (mem : Memory) (rtsp : RTSPClient) : Bool :=
  match rtsp.status with
  | .begin_ =>
      1 ≤ rtsp.input.length &&
        rtsp.input.getD 0 0 ≠ chDollar &&
        (ragelParseRequestLine rtsp.input mem.behind
          tmpreq).any lineRejected
  | .rtspHeaders =>
      rtsp.pendingRequest.any
        (fun req =>
          (ragelReadRtspHeaders
            (req.headers.getD rfc822HeadersNew) rtsp.input
            mem.behind mem.parsedHeaders).any blockRejected)
  | .httpHeaders =>
      rtsp.pendingRequest.any
        (fun req =>
          (ragelReadHttpHeaders
            (req.headers.getD rfc822HeadersNew) rtsp.input
            mem.behind mem.parsedHeaders).any blockRejected)
  | _ => false

/- Nothing lies behind the received bytes. -/
def memoryNone : Memory where
  behind := []
  parsedHeaders := 0

/- The message is rejected for the received bytes alone. -/
def RejectedAlone (rtsp : RTSPClient) : Prop :=
  rejects memoryNone rtsp = true

instance decidableRejectedAlone :
    DecidablePred RejectedAlone :=
  fun rtsp =>
    inferInstanceAs (Decidable (rejects memoryNone rtsp = true))

end Feng

------------------------------------------------------------
-- Request Lines
------------------------------------------------------------

namespace Feng

variable {msg : List UInt8} {req : RFC822Request}
variable {result : Int × RFC822Request}

theorem requestLineMethods_failsBehind :
    requestLineMethods.FailsBehind := by
  intro a before s p hFail
  change requestLineSlAction a before s = .fail p at hFail
  unfold requestLineSlAction at hFail
  split at hFail
  all_goals cases hFail

theorem requestLineParser_failsBehind :
    requestLineParser.FailsBehind := by
  have hCall (start p : Nat) (before : List UInt8)
      (s : RequestLineScan)
      (hFail : requestLineCall start before s = .fail p) :
      p ≤ before.length := by
    have hLength :
        (before.take (s.methodStr.getD 0)).length +
            (before.drop (s.methodStr.getD 0)).length =
          before.length := by
      rw [← List.length_append, List.take_append_drop]
    unfold requestLineCall at hFail
    simp only at hFail
    split at hFail
    · rename_i hOut
      cases hFail
      rw [← hLength]
      apply requestLineMethods_failsBehind.exec _ hOut
      intro cs before s
      exact ⟨s, RagelMachine.enter_of_nil rfl
        (by decide) cs before s⟩
    · cases hFail
    · rename_i hEof
      cases hFail
      rw [RagelMachine.exec_eof hEof, hLength]
  intro a before s p hFail
  change requestLineAction a before s = .fail p at hFail
  unfold requestLineAction at hFail
  split at hFail
  · exact hCall _ p before s hFail
  · exact hCall _ p before s hFail
  · exact requestLineMethods_failsBehind _ before s p hFail

/- More bytes do not change that a line is rejected. -/
theorem requestLine_rejected
    (hParse :
      ragelParseRequestLine msg [] req = some result)
    (hRejected : lineRejected result = true)
    (more behind : List UInt8) :
    ∃ result',
      ragelParseRequestLine (msg ++ more) behind req =
          some result' ∧
        lineRejected result' = true := by
  unfold ragelParseRequestLine at hParse ⊢
  rw [List.append_nil] at hParse
  rw [List.append_assoc, RagelMachine.exec_append]
  split at hParse
  · cases hParse
  · rename_i cs p scan hOut
    have hLe :=
      requestLineParser_failsBehind.exec
        (fun cs before s =>
          ⟨s, requestLineParser_enter cs before s⟩) hOut
    rw [hOut]
    simp only at hParse ⊢
    split at hParse
    · rename_i hError
      cases hParse
      rw [if_pos hError]
      refine ⟨_, rfl, ?_⟩
      by_cases hPlace : p = msg.length
      · rw [if_pos hPlace] at hRejected
        cases hRejected
      · rw [if_neg hPlace] at hRejected
        rw [List.length_nil, Nat.zero_add] at hLe
        rw [if_neg (by rw [List.length_append]; omega)]
        rfl
    · rename_i hFinal
      cases hParse
      rw [if_neg hFinal]
      exact ⟨_, rfl, hRejected⟩

end Feng

------------------------------------------------------------
-- Header Blocks
------------------------------------------------------------

namespace Feng

variable {tables : RagelTables} {codes : List RFC822Header}
variable {firstFinal readSize : Nat}
variable {headers : RFC822Headers} {msg : List UInt8}
variable {result : Int × RFC822Headers × Nat}

/- The way of a scanner does not depend on its variables. -/
theorem headersParser_anyHeaders
    (tables : RagelTables)
    (codes : List RFC822Header) :
    (headersParser tables codes).Shifts []
      (fun _ _ => True) := by
  intro a before s t _
  change RagelFlow.Shifted 0 _
    (headersAction codes a before s)
    (headersAction codes a before t)
  unfold headersAction
  simp only
  split
  · exact .next trivial
  · split
    · exact .next trivial
    · exact .next trivial
    · exact .next trivial
    · exact .leave trivial

/- Neither do more bytes, with other headers to begin with. -/
theorem LineTables.block_rejected
    (h : LineTables tables codes firstFinal)
    (hRead :
      ragelReadHeaders (headersParser tables codes) firstFinal
        headers msg [] readSize = some result)
    (hRejected : blockRejected result = true)
    (headers' : RFC822Headers)
    (more behind : List UInt8)
    (readSize' : Nat) :
    ∃ result',
      ragelReadHeaders (headersParser tables codes) firstFinal
          headers' (msg ++ more) behind readSize' =
          some result' ∧
        blockRejected result' = true := by
  unfold ragelReadHeaders at hRead ⊢
  rw [List.append_nil] at hRead
  rw [List.append_assoc, RagelMachine.exec_append]
  split at hRead
  · cases hRead
  · rename_i cs p scan hOut
    have hSame :
        RagelResult.Shifted 0 (fun _ _ => True)
          ((headersParser tables codes).exec headersStart []
            (headerScanNew headers') msg)
          ((headersParser tables codes).exec headersStart []
            (headerScanNew headers) msg) :=
      (headersParser_anyHeaders tables codes).exec
        headersStart [] trivial msg
    rw [hOut] at hSame
    generalize (headersParser tables codes).exec headersStart []
      (headerScanNew headers') msg = other at hSame ⊢
    cases hSame with
    | @out _ _ scan' _ _ =>
        rcases h.ends hOut with
          ⟨first, c, rest, _, _, _, _, rfl, _, _, hEnds⟩
        simp only [Option.some.injEq] at hRead
        subst hRead
        cases hEnds with
        | block _ _ _ _ =>
            simp [blockRejected] at hRejected
        | error =>
            refine ⟨_, rfl, ?_⟩
            have hBounds := h.bounds
            simp only [blockRejected]
            rw [if_pos (by omega), if_neg (by simp)]
            rfl

end Feng

------------------------------------------------------------
-- Rounds For Rejected Messages
------------------------------------------------------------

namespace Feng

variable {rtsp rtsp' : RTSPClient} {req : RFC822Request}

theorem RejectedAlone.status
    (hAlone : RejectedAlone rtsp) :
    rtsp.status = .begin_ ∨ rtsp.status = .rtspHeaders ∨
      rtsp.status = .httpHeaders := by
  unfold RejectedAlone rejects at hAlone
  split at hAlone
  · rename_i hStatus
    exact .inl hStatus
  · rename_i hStatus
    exact .inr (.inl hStatus)
  · rename_i hStatus
    exact .inr (.inr hStatus)
  · cases hAlone

/-
  A message that is rejected for the received bytes alone is
  rejected with any that come behind them, by a client in the
  same state.
-/
theorem RejectedAlone.rejects_append
    (hAlone : RejectedAlone rtsp)
    {more : List UInt8}
    (hStatus : rtsp'.status = rtsp.status)
    (hInput : rtsp'.input = rtsp.input ++ more)
    (hPending :
      rtsp.pendingRequest.isSome →
        rtsp'.pendingRequest.isSome)
    (mem : Memory) :
    rejects mem rtsp' = true := by
  have hBlock (req : RFC822Request)
      (hSome : rtsp.pendingRequest = some req) :
      ∃ req', rtsp'.pendingRequest = some req' := by
    rw [hSome] at hPending
    exact Option.isSome_iff_exists.mp (hPending rfl)
  unfold RejectedAlone at hAlone
  unfold rejects at hAlone ⊢
  rw [hStatus, hInput]
  cases hIs : rtsp.status with
  | begin_ =>
      simp only [hIs, Bool.and_eq_true, decide_eq_true_eq,
        Option.any_eq_true] at hAlone ⊢
      rcases hAlone with
        ⟨⟨hLong, hDollar⟩, result, hParse, hRejected⟩
      refine ⟨⟨?_, ?_⟩, ?_⟩
      · rw [List.length_append]
        omega
      · rw [List.getD_eq_getElem?_getD,
          List.getElem?_append_left (by omega),
          ← List.getD_eq_getElem?_getD]
        exact hDollar
      · exact requestLine_rejected hParse hRejected more _
  | rtspHeaders =>
      simp only [hIs, Option.any_eq_true] at hAlone ⊢
      rcases hAlone with
        ⟨req, hSome, result, hRead, hRejected⟩
      rcases hBlock req hSome with ⟨req', hSome'⟩
      exact ⟨req', hSome', rtspLineTables.block_rejected hRead
        hRejected _ more _ _⟩
  | httpHeaders =>
      simp only [hIs, Option.any_eq_true] at hAlone ⊢
      rcases hAlone with
        ⟨req, hSome, result, hRead, hRejected⟩
      rcases hBlock req hSome with ⟨req', hSome'⟩
      exact ⟨req', hSome', httpLineTables.block_rejected hRead
        hRejected _ more _ _⟩
  | interleaved => simp only [hIs, reduceCtorEq] at hAlone
  | rtspContent => simp only [hIs, reduceCtorEq] at hAlone
  | httpContent => simp only [hIs, reduceCtorEq] at hAlone
  | httpIdle => simp only [hIs, reduceCtorEq] at hAlone

theorem RejectedAlone.rejects
    (hAlone : RejectedAlone rtsp)
    (mem : Memory) :
    rejects mem rtsp = true :=
  hAlone.rejects_append rfl (List.append_nil _).symm id mem

/-
  What answering a rejected message does: one error response
  is queued, and the client has its state and its bytes.
-/
structure Answered (rtsp rtsp' : RTSPClient) : Prop where
  status : rtsp'.status = rtsp.status
  input : rtsp'.input = rtsp.input
  pending :
    rtsp.pendingRequest.isSome → rtsp'.pendingRequest.isSome
  responses : ∃ response : RFC822Response,
    rtsp'.responses = rtsp.responses ++ [response] ∧
      (response.status = 400 ∨ response.status = 505)

theorem versionNotSupported_status
    (req : RFC822Request) :
    (versionNotSupported req).status = 505 := by
  unfold versionNotSupported
  split
  · rfl
  · rfl

theorem handleLineResult_answered
    {requestLineLen : Int}
    (rtsp : RTSPClient)
    (hRejected :
      lineRejected (requestLineLen, req) = true) :
    ∃ rtsp',
      handleLineResult rtsp requestLineLen req =
          (rtsp', false) ∧
        Answered rtsp rtsp' := by
  unfold handleLineResult
  simp only [lineRejected, Bool.or_eq_true, Bool.and_eq_true,
    decide_eq_true_eq] at hRejected
  by_cases hError : requestLineLen = -1
  · rw [if_pos hError]
    exact ⟨_, rfl, rfl, rfl, id, _, rfl, .inl rfl⟩
  · rcases hRejected with hIs | ⟨hNotZero, hVersion⟩
    · exact absurd hIs hError
    · rw [if_neg hError, if_neg hNotZero, hVersion]
      exact ⟨_, rfl, rfl, rfl, id, _, rfl,
        .inr (versionNotSupported_status req)⟩

/- Refuse the headers of an RTSP request. -/
def rtspBadRequest
    (rtsp : RTSPClient)
    (req : RFC822Request) : RTSPClient :=
  rfc822ResponseSend { rtsp with pendingRequest := some req }
    (rtspQuickResponse req 400)

theorem rtspBadRequest_answered
    (rtsp : RTSPClient)
    (req : RFC822Request) :
    Answered rtsp (rtspBadRequest rtsp req) :=
  ⟨rfl, rfl, fun _ => rfl, _, rfl, .inl rfl⟩

/- A round for a message that is rejected. -/
theorem rejects_round
    {given : RoundInput}
    (hRejects : rejects given.mem rtsp = true)
    (server : ServerState)
    (i : Nat) :
    ∃ rtsp',
      handlerRound given server i rtsp =
          .ok (server.setClient i rtsp', .done) ∧
        Answered rtsp rtsp' := by
  unfold rejects at hRejects
  unfold handlerRound
  cases hStatus : rtsp.status with
  | begin_ =>
      simp only [hStatus, Bool.and_eq_true, decide_eq_true_eq,
        Option.any_eq_true] at hRejects
      rcases hRejects with
        ⟨⟨hLong, hDollar⟩, ⟨requestLineLen, req⟩, hParse,
          hRejected⟩
      rcases handleLineResult_answered rtsp hRejected with
        ⟨rtsp', hResult, hAnswered⟩
      refine ⟨rtsp', ?_, hAnswered⟩
      simp only [rtspHandleNew]
      rw [if_neg (by omega), if_neg hDollar, hParse]
      simp only [hResult, clientRound]
      rfl
  | rtspHeaders =>
      simp only [hStatus, Option.any_eq_true] at hRejects
      rcases hRejects with
        ⟨req, hSome, ⟨headersRes, headers, size⟩, hRead,
          hRejected⟩
      have hRes : headersRes = -1 := of_decide_eq_true hRejected
      have hRound :
          rtspHandleHeaders given.mem rtsp =
            .ok (rtspBadRequest rtsp
              { req with headers := some headers }, false) := by
        simp only [rtspHandleHeaders, hSome, hRead]
        rw [if_pos hRes]
        rfl
      refine ⟨_, ?_, rtspBadRequest_answered rtsp
        { req with headers := some headers }⟩
      simp only [hRound, clientRound]
      rfl
  | httpHeaders =>
      simp only [hStatus, Option.any_eq_true] at hRejects
      rcases hRejects with
        ⟨req, hSome, ⟨headersRes, headers, size⟩, hRead,
          hRejected⟩
      have hRes : headersRes = -1 := of_decide_eq_true hRejected
      have hRound :
          httpHandleHeaders given.mem server i rtsp =
            .ok (server.setClient i
              (httpBadRequest
                { rtsp with
                  pendingRequest :=
                    some { req with headers := some headers } }
                { req with headers := some headers }),
              .done) := by
        simp only [httpHandleHeaders, hSome, hRead]
        rw [if_pos hRes]
      exact ⟨_, hRound, rfl, rfl, fun _ => rfl, _, rfl, .inl rfl⟩
  | interleaved => simp only [hStatus, reduceCtorEq] at hRejects
  | rtspContent => simp only [hStatus, reduceCtorEq] at hRejects
  | httpContent => simp only [hStatus, reduceCtorEq] at hRejects
  | httpIdle => simp only [hStatus, reduceCtorEq] at hRejects

theorem RejectedAlone.answered
    (hAlone : RejectedAlone rtsp)
    (hAnswered : Answered rtsp rtsp') :
    RejectedAlone rtsp' :=
  hAlone.rejects_append hAnswered.status
    (hAnswered.input.trans (List.append_nil _).symm)
    hAnswered.pending memoryNone

end Feng

------------------------------------------------------------
-- Rejections In A Run
------------------------------------------------------------

namespace Feng

namespace Server

variable {server server' : ServerState} {op : Op}
variable {past trace : List (ServerState × Op)}
variable {refused : Memory → RTSPClient → Bool}

def statusAt
    (server : ServerState)
    (i : Nat) : Option RFC822ParserState :=
  (server.clients[i]?).map RTSPClient.status

/- A round after which the client is in another state. -/
def getsOn (i : Nat) (server : ServerState) : Op → Bool
| .round thread j given =>
    j = i &&
      match step server (.round thread j given) with
      | .ok server' => statusAt server' i ≠ statusAt server i
      | .error _ => false
| _ => false

/-
  The number of the message a client has come to: how often
  it got on so far.
-/
def messageNumber
    (past : List (ServerState × Op))
    (i : Nat) : Nat :=
  past.countP (fun x => getsOn i x.1 x.2)

/- The client and the number of a message that is rejected. -/
def rejection
    (refused : Memory → RTSPClient → Bool)
    (past : List (ServerState × Op))
    (server : ServerState) : Op → Option (Nat × Nat)
| .round _ i given =>
    if (server.clients[i]?).any (refused given.mem) then
      some (i, messageNumber past i)
    else
      none
| _ => none

def rejections
    (refused : Memory → RTSPClient → Bool)
    (trace : List (ServerState × Op)) : List (Nat × Nat) :=
  System.collect (rejection refused) [] trace

/- The round is for a message that was not rejected before. -/
def HandlesNew
    (refused : Memory → RTSPClient → Bool)
    (past : List (ServerState × Op))
    (_ : ServerState) : Op → Prop
| .round _ i _ =>
    (i, messageNumber past i) ∉ rejections refused past
| _ => True

instance decidableHandlesNew
    (refused : Memory → RTSPClient → Bool)
    (past : List (ServerState × Op))
    (server : ServerState) :
    (op : Op) → Decidable (HandlesNew refused past server op)
| .round _ i _ =>
    inferInstanceAs
      (Decidable
        ((i, messageNumber past i) ∉ rejections refused past))
| .accept => isTrue trivial
| .read _ _ => isTrue trivial
| .drained _ _ => isTrue trivial
| .disconnect _ => isTrue trivial

/-
  Once a message of a client was rejected in such a way, there
  is no further round for the client.
-/
def HandledOnce
    (refused : Memory → RTSPClient → Bool)
    (trace : List (ServerState × Op)) : Prop :=
  System.PastGuarded (HandlesNew refused) [] trace

/- A round that rejects a message queues one error response. -/
def QueuesOne (server : ServerState) : Op → Prop
| .round thread i given =>
    ∀ rtsp server',
      server.clients[i]? = some rtsp →
        rejects given.mem rtsp = true →
        step server (.round thread i given) = .ok server' →
        ∃ rtsp',
          server'.clients[i]? = some rtsp' ∧
            Answered rtsp rtsp'
| _ => True

/- Every rejected message is answered with one response. -/
structure AnsweredOnce
    (trace : List (ServerState × Op)) : Prop where
  queued : System.Guarded QueuesOne trace
  once : (rejections rejects trace).Nodup

/- Those that are rejected for the received bytes alone. -/
def rejectsAlone (_ : Memory) (rtsp : RTSPClient) : Bool :=
  rejects memoryNone rtsp

theorem rejections_snoc
    (server : ServerState)
    (op : Op) :
    rejections refused (past ++ [(server, op)]) =
      rejections refused past ++
        (rejection refused past server op).toList :=
  System.collect_snoc _ [] past (server, op)

theorem messageNumber_snoc
    (i : Nat)
    (server : ServerState)
    (op : Op) :
    messageNumber (past ++ [(server, op)]) i =
      messageNumber past i +
        if getsOn i server op then 1 else 0 := by
  simp [messageNumber, List.countP_append,
    List.countP_singleton]

theorem mem_rejection
    {i n : Nat} :
    (i, n) ∈ (rejection refused past server op).toList ↔
      n = messageNumber past i ∧
        ∃ thread given rtsp,
          op = .round thread i given ∧
            server.clients[i]? = some rtsp ∧
            refused given.mem rtsp = true := by
  cases op with
  | round thread j given =>
      simp only [rejection, Option.mem_toList]
      constructor
      · intro hMem
        split at hMem
        · rename_i hAny
          cases hMem
          rcases (Option.any_eq_true _ _).mp hAny with
            ⟨rtsp, hClient, hRefused⟩
          exact ⟨rfl, thread, given, rtsp, rfl, hClient,
            hRefused⟩
        · cases hMem
      · rintro ⟨rfl, _, _, rtsp, hOp, hClient, hRefused⟩
        cases hOp
        rw [hClient, Option.any_some, if_pos hRefused]
  | accept => simp [rejection]
  | read _ _ => simp [rejection]
  | drained _ _ => simp [rejection]
  | disconnect _ => simp [rejection]

/- The numbers grow, so that none is ahead of its client. -/
theorem number_le
    {i n : Nat}
    (hMem : (i, n) ∈ rejections refused trace) :
    n ≤ messageNumber trace i := by
  induction trace using List.reverseRecOn with
  | nil => cases hMem
  | append_singleton trace x ih =>
      rw [rejections_snoc] at hMem
      rw [messageNumber_snoc]
      rcases List.mem_append.mp hMem with hOld | hNew
      · exact Nat.le_add_right_of_le (ih hOld)
      · rw [(mem_rejection.mp hNew).1]
        exact Nat.le_add_right _ _

end Server

end Feng

------------------------------------------------------------
-- What Is Rejected Stays
------------------------------------------------------------

namespace Feng

variable {server server' : ServerState} {i j : Nat}
variable {rtsp client : RTSPClient} {given : RoundInput}

/- The client is there, with a message that is rejected. -/
def HoldsRejected (server : ServerState) (i : Nat) : Prop :=
  ∃ rtsp,
    server.clients[i]? = some rtsp ∧ RejectedAlone rtsp

theorem HoldsRejected.of_same
    (hHolds : HoldsRejected server i)
    (hSame : server'.clients[i]? = server.clients[i]?) :
    HoldsRejected server' i := by
  rcases hHolds with ⟨rtsp, hClient, hAlone⟩
  exact ⟨rtsp, hSame.trans hClient, hAlone⟩

theorem HoldsRejected.setClient
    (hHolds : HoldsRejected server i)
    (hNe : j ≠ i)
    (client : RTSPClient) :
    HoldsRejected (server.setClient j client) i := by
  apply hHolds.of_same
  rw [setClient_get, if_neg hNe]

/- Bytes come for a client. -/
theorem HoldsRejected.append
    (hHolds : HoldsRejected server i)
    (hClient : server.clients[j]? = some client)
    (more : List UInt8) :
    HoldsRejected
      (server.setClient j
        { client with input := client.input ++ more }) i := by
  by_cases hSame : j = i
  · subst hSame
    rcases hHolds with ⟨rtsp, hOwn, hAlone⟩
    rw [hOwn] at hClient
    cases hClient
    have hLonger :
        RejectedAlone
          { client with input := client.input ++ more } := by
      apply hAlone.rejects_append
      · rfl
      · rfl
      · exact id
    refine ⟨_, ?_, hLonger⟩
    rw [setClient_get, if_pos rfl, hOwn]
    rfl
  · exact hHolds.setClient hSame _

theorem HoldsRejected.clientLoopEnd
    (hHolds : HoldsRejected server i)
    (ended : Nat) :
    HoldsRejected (server.clientLoopEnd ended) i := by
  rcases hHolds with ⟨rtsp, hClient, hAlone⟩
  refine ⟨{ rtsp with
    connected := rtsp.connected && decide (i ≠ ended)
    freed :=
      rtsp.freed || decide (i ∈ server.loopFrees ended) },
    ?_, hAlone.rejects_append rfl (List.append_nil _).symm id
      memoryNone⟩
  rw [ServerState.clientLoopEnd_clients, hClient]
  rfl

/- A round of another client. -/
theorem HoldsRejected.round
    (hHolds : HoldsRejected server i)
    (hNe : j ≠ i)
    (hRound : RoundMoves given server j rtsp server') :
    HoldsRejected server' i := by
  cases hRound with
  | own _ _ => exact hHolds.setClient hNe _
  | headers _ _ _ _ _ _ _ => exact hHolds.setClient hNe _
  | refused _ _ _ _ _ _ _ _ => exact hHolds.setClient hNe _
  | created _ _ _ _ _ _ _ _ =>
      exact (hHolds.setClient hNe _).of_same rfl
  | @accepted _ http _ _ pair _ _ _ _ _ hHttp hIdle =>
      have hFar : pair.httpClient ≠ i := by
        rintro rfl
        rcases hHolds with ⟨own, hClient, hAlone⟩
        rw [hHttp] at hClient
        cases hClient
        have hStatus := hAlone.status
        rw [hIdle] at hStatus
        simp at hStatus
      exact ((hHolds.setClient hNe _).setClient hFar _).of_same
        rfl
  | content _ _ _ _ hOther _ =>
      exact (hHolds.append hOther _).setClient hNe _
  | idle _ => exact hHolds

/- A round of the client itself. -/
theorem rejects_step
    {thread : Nat}
    (hClient : server.clients[i]? = some rtsp)
    (hRejects : rejects given.mem rtsp = true)
    (hStep :
      Server.step server (.round thread i given) =
        .ok server') :
    ∃ rtsp',
      server'.clients[i]? = some rtsp' ∧
        Answered rtsp rtsp' := by
  rcases rejects_round hRejects server i with
    ⟨rtsp', hRound, hAnswered⟩
  simp only [Server.step, hClient, hRound, Except.ok.injEq]
    at hStep
  subst hStep
  refine ⟨rtsp', ?_, hAnswered⟩
  change (server.setClient i rtsp').clients[i]? = some rtsp'
  rw [setClient_get, if_pos rfl, hClient]
  rfl

theorem HoldsRejected.own_step
    {thread : Nat}
    (hHolds : HoldsRejected server i)
    (hStep :
      Server.step server (.round thread i given) =
        .ok server') :
    HoldsRejected server' i := by
  rcases hHolds with ⟨rtsp, hClient, hAlone⟩
  rcases rejects_step hClient (hAlone.rejects given.mem) hStep
    with ⟨rtsp', hNow, hAnswered⟩
  exact ⟨rtsp', hNow, hAlone.answered hAnswered⟩

theorem HoldsRejected.step
    {op : Server.Op}
    (hHolds : HoldsRejected server i)
    (hStep : Server.step server op = .ok server') :
    HoldsRejected server' i := by
  have hMoves := Server.step_moves hStep
  cases hMoves with
  | accept =>
      rcases hHolds with ⟨rtsp, hClient, hAlone⟩
      refine ⟨rtsp, ?_, hAlone⟩
      have hBound := List.getElem?_eq_some_iff.mp hClient
      rw [List.getElem?_append_left hBound.1]
      exact hClient
  | @taken _ _ buffer _ _ _ _ hClient hSame =>
      apply (hHolds.append hClient buffer).of_same
      rw [hSame.clients]
  | @ended _ j _ _ hSame =>
      apply (hHolds.clientLoopEnd j).of_same
      rw [hSame.clients]
  | @round _ j _ _ _ _ hOwn hRound hSame =>
      by_cases hIs : j = i
      · subst hIs
        exact hHolds.own_step hStep
      · apply (hHolds.round hIs hRound).of_same
        rw [hSame.clients]

end Feng

------------------------------------------------------------
-- Answered Once
------------------------------------------------------------

namespace Feng

namespace Server

variable {initialised : Bool} {server : ServerState}
variable {trace : List (ServerState × Op)}

theorem queuesOne
    (server : ServerState)
    (op : Op) :
    QueuesOne server op := by
  cases op with
  | round thread i given =>
      intro rtsp server' hClient hRejects hStep
      exact rejects_step hClient hRejects hStep
  | accept => trivial
  | read _ _ => trivial
  | drained _ _ => trivial
  | disconnect _ => trivial

/-
  A message that was rejected for its own bytes is there as
  long as its client has not come to another one.
-/
theorem holdsRejected
    {i n : Nat}
    (hRun : (system initialised).Run trace server)
    (hMem : (i, n) ∈ rejections rejectsAlone trace)
    (hNow : n = messageNumber trace i) :
    HoldsRejected server i := by
  induction hRun with
  | start _ => cases hMem
  | @step trace s t op hRun hStep ih =>
      rw [rejections_snoc] at hMem
      rw [messageNumber_snoc] at hNow
      rcases List.mem_append.mp hMem with hOld | hNew
      · have hLe := number_le hOld
        exact (ih hOld (by omega)).step hStep.2
      · rcases (mem_rejection.mp hNew).2 with
          ⟨thread, given, rtsp, rfl, hClient, hAlone⟩
        exact HoldsRejected.own_step ⟨rtsp, hClient, hAlone⟩
          hStep.2

/- They are among those that are rejected. -/
theorem rejections_alone
    {x : Nat × Nat}
    (hMem : x ∈ rejections rejectsAlone trace) :
    x ∈ rejections rejects trace := by
  induction trace using List.reverseRecOn with
  | nil => cases hMem
  | append_singleton trace y ih =>
      rw [rejections_snoc] at hMem ⊢
      rcases List.mem_append.mp hMem with hOld | hNew
      · exact List.mem_append_left _ (ih hOld)
      · apply List.mem_append_right
        rcases mem_rejection.mp hNew with
          ⟨hNumber, thread, given, rtsp, hOp, hClient, hAlone⟩
        exact mem_rejection.mpr
          ⟨hNumber, thread, given, rtsp, hOp, hClient,
            RejectedAlone.rejects hAlone given.mem⟩

theorem nodup_of_handledOnce
    (hOnce : HandledOnce rejects trace) :
    (rejections rejects trace).Nodup := by
  induction trace using List.reverseRecOn with
  | nil => exact List.nodup_nil
  | append_singleton trace x ih =>
      rcases x with ⟨s, op⟩
      rcases System.pastGuarded_snoc.mp hOnce with
        ⟨hTrace, hNew⟩
      rw [rejections_snoc]
      rw [List.nodup_append]
      refine ⟨ih hTrace, ?_, ?_⟩
      · cases rejection rejects trace s op with
        | none => exact List.nodup_nil
        | some y => simp
      · rintro y hOld ⟨i, n⟩ hMem rfl
        rcases mem_rejection.mp hMem with
          ⟨rfl, thread, given, rtsp, rfl, _, _⟩
        exact hNew hOld

theorem handledOnce_of_nodup
    (hRun : (system initialised).Run trace server)
    (hNodup : (rejections rejects trace).Nodup) :
    HandledOnce rejectsAlone trace := by
  induction hRun with
  | start _ => trivial
  | @step trace s t op hRun hStep ih =>
      rw [rejections_snoc, List.nodup_append] at hNodup
      rcases hNodup with ⟨hTrace, _, hApart⟩
      refine System.pastGuarded_snoc.mpr ⟨ih hTrace, ?_⟩
      cases op with
      | round thread i given =>
          intro hMem
          rw [List.nil_append] at hMem
          rcases holdsRejected hRun hMem rfl with
            ⟨rtsp, hClient, hAlone⟩
          exact hApart _ (rejections_alone hMem) _
            (mem_rejection.mpr
              ⟨rfl, thread, given, rtsp, rfl, hClient,
                hAlone.rejects given.mem⟩) rfl
      | accept => trivial
      | read _ _ => trivial
      | drained _ _ => trivial
      | disconnect _ => trivial

/-
  If there is no further round for a client once a message of
  it was rejected, every rejected message is answered with one
  response. If this is so, there is none once a message was
  rejected for the received bytes alone.
-/
theorem rejected_once
    (hRun : (system initialised).Run trace server) :
    (HandledOnce rejects trace → AnsweredOnce trace) ∧
      (AnsweredOnce trace → HandledOnce rejectsAlone trace) := by
  constructor
  · intro hOnce
    refine ⟨?_, nodup_of_handledOnce hOnce⟩
    intro x _
    exact queuesOne x.1 x.2
  · intro hAnswered
    exact handledOnce_of_nodup hRun hAnswered.once

/- A client sends a request line in another version. -/
def newerOps : List Op :=
  [.accept,
    .read 0 (ascii "OPTIONS * RTSP/2.0" ++ [chCr, chLf]),
    .round 0 0 sampleRound]

theorem newerOps_run :
    (system true).Run
      (System.replayTrace step (serverNew true) newerOps)
      (System.replayEnd step (serverNew true) newerOps) :=
  System.replay_run (by decide) (by decide)

theorem rejected_once_newer :
    AnsweredOnce
      (System.replayTrace step (serverNew true) newerOps) :=
  (rejected_once newerOps_run).1 (by
    unfold HandledOnce
    decide +kernel)

/- One more byte comes. -/
def newerAgainOps : List Op :=
  newerOps ++ [.read 0 (ascii "x"), .round 0 0 sampleRound]

theorem rejected_twice :
    (system true).Run
        (System.replayTrace step (serverNew true)
          newerAgainOps)
        (System.replayEnd step (serverNew true)
          newerAgainOps) ∧
      ((System.replayEnd step (serverNew true)
        newerAgainOps).clients.map
          (fun client =>
            client.responses.map RFC822Response.status)) =
        [[505, 505]] ∧
      ¬ AnsweredOnce
        (System.replayTrace step (serverNew true)
          newerAgainOps) := by
  refine ⟨System.replay_run (by decide +kernel)
    (by decide +kernel), by decide +kernel, ?_⟩
  intro hAnswered
  exact absurd hAnswered.once (by decide +kernel)

end Server

end Feng
