import Feng.Rtsp.Response
import Feng.Rtsp.Updates

/-
  The responses to a client, and the text they take from its
  requests.

  Key definitions include:
    * `CleanClient`
    * `AllClean`

  Key theorems include:
    * `selectRequestedTrack_clean`
    * `setupTrack_clean`
    * `rtspHandleHeaders_clean`
    * `AllClean.round`
-/

------------------------------------------------------------
-- Responses
------------------------------------------------------------

namespace Feng

variable {req : RFC822Request} {rtsp rtsp' : RTSPClient}
variable {response : RFC822Response} {value : List UInt8}

/-
  What was sent to a client, what it has asked for and how its
  session is called ends no line.
-/
structure CleanClient (rtsp : RTSPClient) : Prop where
  responses : ∀ response ∈ rtsp.responses,
    CleanHeaders response.headers
  pending : ∀ req, rtsp.pendingRequest = some req →
    CleanRequest req
  session : ∀ session, rtsp.session = some session →
    CleanText session.sessionId

theorem cleanClient_new :
    CleanClient rtspClientNew where
  responses := by
    intro response hMem
    cases hMem
  pending := by
    intro req hPending
    cases hPending
  session := by
    intro session hSession
    cases hSession

theorem CleanClient.send
    (h : CleanClient rtsp)
    (hResponse : CleanHeaders response.headers) :
    CleanClient (rfc822ResponseSend rtsp response) where
  responses := by
    intro sent hMem
    rcases List.mem_append.mp hMem with hOld | hNew
    · exact h.responses sent hOld
    · rw [List.mem_singleton.mp hNew]
      exact hResponse
  pending := h.pending
  session := h.session

/- Another session, with a clean identifier. -/
theorem CleanClient.setSession
    (h : CleanClient rtsp)
    {session : Option RTSPSession}
    (hSession : ∀ next, session = some next →
      CleanText next.sessionId) :
    CleanClient { rtsp with session := session } :=
  ⟨h.responses, h.pending, hSession⟩

/- Another request, with clean values. -/
theorem CleanClient.setRequest
    (h : CleanClient rtsp)
    {pendingRequest : Option RFC822Request}
    (hRequest : ∀ req, pendingRequest = some req →
      CleanRequest req) :
    CleanClient
      { rtsp with pendingRequest := pendingRequest } :=
  ⟨h.responses, hRequest, h.session⟩

theorem copyHeader_clean
    {headers : RFC822Headers}
    (hReq : CleanRequest req)
    (hHeaders : CleanHeaders headers)
    (header : RFC822Header) :
    CleanHeaders (copyHeader req headers header) := by
  unfold copyHeader
  cases hFound : rfc822HeadersLookup req.headers header with
  | none => exact hHeaders
  | some value =>
      exact hHeaders.set header (hReq.lookup hFound)

/- The headers that are copied from a request are clean. -/
theorem rfc822ResponseNew_clean
    (hReq : CleanRequest req)
    (statusCode : Nat) :
    CleanHeaders (rfc822ResponseNew req statusCode).headers := by
  have hFirst :=
    copyHeader_clean hReq cleanHeaders_new .cSeq
  have hSecond := copyHeader_clean hReq hFirst .session
  exact copyHeader_clean hReq hSecond .timestamp

theorem rfc822QuickResponse_clean
    (hReq : CleanRequest req)
    (proto : RFC822Protocol)
    (code : Nat) :
    CleanHeaders
      (rfc822QuickResponse req proto code).headers :=
  (rfc822ResponseNew_clean hReq code).set .connection
    (by decide)

theorem CleanClient.quick
    (h : CleanClient rtsp)
    (hReq : CleanRequest req)
    (code : Nat) :
    CleanClient
      (rfc822ResponseSend rtsp (rtspQuickResponse req code)) :=
  h.send (rfc822QuickResponse_clean hReq _ code)

end Feng

------------------------------------------------------------
-- Checks
------------------------------------------------------------

namespace Feng

variable {req : RFC822Request} {rtsp rtsp' : RTSPClient}
variable {passed : Bool}

theorem rfc822RequestCheckUrl_clean
    (h : CleanClient rtsp)
    (hReq : CleanRequest req)
    (hCheck :
      rfc822RequestCheckUrl rtsp req =
        .ok (rtsp', passed)) :
    CleanClient rtsp' := by
  unfold rfc822RequestCheckUrl at hCheck
  split at hCheck
  · cases hCheck
    exact h.quick hReq 400
  · split at hCheck
    · cases hCheck
    · cases hCheck
      exact h
    · cases hCheck
      exact h.quick hReq 403

theorem rtspCheckInvalidState_clean
    {state : RTSPServerState}
    (h : CleanClient rtsp)
    (hReq : CleanRequest req)
    (hCheck :
      rtspCheckInvalidState rtsp req state =
        (rtsp', passed)) :
    CleanClient rtsp' := by
  unfold rtspCheckInvalidState at hCheck
  split at hCheck
  · cases hCheck
    exact h
  · cases hCheck
    apply h.send
    apply (rfc822ResponseNew_clean hReq 455).set
    cases state <;> decide

theorem rtspCheckSession_clean
    (h : CleanClient rtsp)
    (hReq : CleanRequest req)
    (hCheck : rtspCheckSession rtsp req = (rtsp', passed)) :
    CleanClient rtsp' := by
  unfold rtspCheckSession at hCheck
  split at hCheck
  · cases hCheck
    exact h
  · split at hCheck
    · cases hCheck
      exact h
    · cases hCheck
      exact h.quick hReq 454

/- The options required are repeated, one blank between them. -/
theorem rtspCheckRequiredOptions_clean
    (h : CleanClient rtsp)
    (hReq : CleanRequest req)
    (hCheck :
      rtspCheckRequiredOptions rtsp req = (rtsp', passed)) :
    CleanClient rtsp' := by
  have hFound (header : RFC822Header) :
      CleanText
        ((rfc822HeadersLookup req.headers header).getD []) := by
    cases hValue : rfc822HeadersLookup req.headers header with
    | none => exact unbroken_nil
    | some value => exact hReq.lookup hValue
  unfold rtspCheckRequiredOptions at hCheck
  simp only at hCheck
  split at hCheck
  · cases hCheck
    exact h
  · cases hCheck
    apply h.send
    apply (rfc822ResponseNew_clean hReq 551).set
    have hBlank : CleanText [32] := by
      decide
    exact (hFound .require).append
      (hBlank.append (hFound .proxyRequire))

theorem rtspOptions_clean
    (h : CleanClient rtsp)
    (hReq : CleanRequest req) :
    CleanClient (rtspOptions rtsp req) := by
  apply h.send
  apply (rfc822ResponseNew_clean hReq 200).set
  decide

end Feng

------------------------------------------------------------
-- DESCRIBE And SETUP
------------------------------------------------------------

namespace Feng

variable {env : UrlEnv} {req : RFC822Request}
variable {rtsp rtsp' : RTSPClient} {session : RTSPSession}
variable {opened track : Option (List UInt8)}

theorem CleanRequest.objectD
    (h : CleanRequest req) :
    CleanText (req.object.getD []) := by
  cases hObject : req.object with
  | none => exact unbroken_nil
  | some object => exact h.object object hObject

/- The object is repeated, with a slash behind it. -/
theorem rtspDescribe_clean
    (h : CleanClient rtsp)
    (hReq : CleanRequest req)
    (hDescribe :
      rtspDescribe env rtsp req = .ok (rtsp', opened)) :
    CleanClient rtsp' := by
  unfold rtspDescribe at hDescribe
  split at hDescribe
  · cases hDescribe
  · rename_i hCheck
    cases hDescribe
    exact rfc822RequestCheckUrl_clean h hReq hCheck
  · rename_i hCheck
    have hPassed := rfc822RequestCheckUrl_clean h hReq hCheck
    split at hDescribe
    · cases hDescribe
    · cases hDescribe
      exact hPassed.quick hReq 404
    · cases hDescribe
      apply hPassed.send
      have hType := (rfc822ResponseNew_clean hReq 200).set
        .contentType
        (show CleanText (ascii "application/sdp") by
          decide)
      apply hType.set
      exact hReq.objectD.append (by decide)

theorem findNamedTrack_clean
    {resource : Resource}
    {trackname : List UInt8}
    (h : CleanClient rtsp)
    (hReq : CleanRequest req)
    (hFind :
      findNamedTrack rtsp req resource trackname =
        (rtsp', track)) :
    CleanClient rtsp' := by
  unfold findNamedTrack at hFind
  split at hFind
  · cases hFind
    exact h.quick hReq 460
  · split at hFind
    · cases hFind
      exact h
    · cases hFind
      exact h.quick hReq 404

theorem selectRequestedTrack_clean
    (h : CleanClient rtsp)
    (hReq : CleanRequest req)
    (hSession : CleanText session.sessionId)
    (hSelect :
      selectRequestedTrack env rtsp req session =
        .ok (rtsp', opened, track)) :
    CleanClient rtsp' := by
  unfold selectRequestedTrack at hSelect
  split at hSelect
  · cases hSelect
  · split at hSelect
    · unfold openRequestedTrack at hSelect
      split at hSelect
      · cases hSelect
        exact h.quick hReq 460
      · split at hSelect
        · cases hSelect
        · simp only at hSelect
          split at hSelect
          · cases hSelect
            exact h.quick hReq 404
          · cases hSelect
            refine findNamedTrack_clean ?_ hReq rfl
            apply h.setSession
            intro next hNext
            cases hNext
            exact hSession
    · split at hSelect
      · cases hSelect
        exact h.quick hReq 460
      · cases hSelect
        exact findNamedTrack_clean h hReq rfl

theorem setupTrack_clean
    {name : List UInt8}
    (h : CleanClient rtsp)
    (hReq : CleanRequest req)
    (hTransport : ∀ text, env.transportString = some text →
      CleanText text) :
    CleanClient (setupTrack env rtsp req name) := by
  unfold setupTrack
  split
  · rename_i session transportString hSession hString
    have hName := h.session session hSession
    have hSent :
        CleanHeaders
          (rfc822HeadersSet
            (rfc822HeadersSet
              (rfc822ResponseNew req 200).headers .transport
              transportString)
            .session session.sessionId) :=
      ((rfc822ResponseNew_clean hReq 200).set _
        (hTransport _ hString)).set _ hName
    apply CleanClient.setSession
    · exact h.send hSent
    · intro next hNext
      cases hNext
      exact hName
  · exact h.quick hReq 461

end Feng

------------------------------------------------------------
-- Rounds Of A Client
------------------------------------------------------------

namespace Feng

variable {mem : Memory} {rtsp rtsp' : RTSPClient}
variable {req : RFC822Request} {ret : Bool}

theorem cleanRequest_tmpreq :
    CleanRequest tmpreq where
  object := by
    intro object hNone
    cases hNone
  headers := by
    intro headers hNone
    cases hNone

theorem rtspHandleInterleaved_clean
    (h : CleanClient rtsp)
    (hRound :
      rtspHandleInterleaved rtsp = .ok (rtsp', ret)) :
    CleanClient rtsp' := by
  unfold rtspHandleInterleaved at hRound
  split at hRound
  · cases hRound
    exact h
  · simp only at hRound
    split at hRound
    · cases hRound
    · split at hRound
      · cases hRound
        exact h
      · cases hRound
        exact ⟨h.responses, h.pending, h.session⟩

theorem handleLineResult_clean
    {requestLineLen : Int}
    (h : CleanClient rtsp)
    (hReq : CleanRequest req)
    (hRound :
      handleLineResult rtsp requestLineLen req =
        (rtsp', ret)) :
    CleanClient rtsp' := by
  unfold handleLineResult at hRound
  split at hRound
  · cases hRound
    exact h.quick hReq 400
  · split at hRound
    · cases hRound
      exact h
    · split at hRound
      · cases hRound
        apply h.send
        unfold versionNotSupported
        split
        · exact rfc822QuickResponse_clean hReq _ 505
        · exact rfc822QuickResponse_clean hReq _ 505
      · rename_i status _
        have hStatus :
            CleanClient { rtsp with status := status } :=
          ⟨h.responses, h.pending, h.session⟩
        unfold handleRequestLine at hRound
        simp only at hRound
        split at hRound
        · cases hRound
          exact hStatus.send
            (rfc822QuickResponse_clean hReq _ 501)
        · cases hRound
          refine ⟨h.responses, ?_, h.session⟩
          intro pending hPending
          cases hPending
          exact hReq

/- A request line makes a request with a clean object. -/
theorem rtspHandleNew_clean
    (h : CleanClient rtsp)
    (hRound : rtspHandleNew mem rtsp = .ok (rtsp', ret)) :
    CleanClient rtsp' := by
  unfold rtspHandleNew at hRound
  split at hRound
  · cases hRound
    exact h
  · split at hRound
    · refine rtspHandleInterleaved_clean ?_ hRound
      exact ⟨h.responses, h.pending, h.session⟩
    · split at hRound
      · cases hRound
      · rename_i requestLineLen req hParse
        exact handleLineResult_clean h
          (ragelParseRequestLine_clean cleanRequest_tmpreq
            hParse) (Except.ok.inj hRound)

/- A header block adds clean headers to the request. -/
theorem rtspHandleHeaders_clean
    (h : CleanClient rtsp)
    (hRound : rtspHandleHeaders mem rtsp = .ok (rtsp', ret)) :
    CleanClient rtsp' := by
  unfold rtspHandleHeaders at hRound
  split at hRound
  · cases hRound
  · rename_i req hPending
    have hReq := h.pending req hPending
    split at hRound
    · cases hRound
    · rename_i headersRes headers parsedHeaders hRead
      have hHeaders :=
        ragelReadRtspHeaders_clean hReq.headersD hRead
      have hNext := hReq.setHeaders hHeaders
      have hSet :
          CleanClient
            { rtsp with
              pendingRequest :=
                some { req with headers := some headers } } := by
        apply h.setRequest
        intro next hSome
        cases hSome
        exact hNext
      simp only at hRound
      split at hRound
      · cases hRound
        exact hSet.quick hNext 400
      · split at hRound
        · cases hRound
          exact ⟨hSet.responses, hSet.pending, hSet.session⟩
        · cases hRound
          refine ⟨h.responses, ?_, h.session⟩
          intro next hSome
          cases hSome
          exact ⟨hNext.object, hNext.headers⟩

end Feng

------------------------------------------------------------
-- Rounds Of The Server
------------------------------------------------------------

namespace Feng

variable {mem : Memory} {server server' : ServerState}
variable {rtsp rtsp' : RTSPClient} {req : RFC822Request}
variable {i : Nat} {next : Next} {ret : Bool}

def AllClean (server : ServerState) : Prop :=
  ∀ (i : Nat) client, server.clients[i]? = some client →
    CleanClient client

theorem AllClean.congr
    (hAll : AllClean server)
    (hSame : server'.clients = server.clients) :
    AllClean server' := by
  intro i client hAt
  rw [hSame] at hAt
  exact hAll i client hAt

theorem AllClean.setClient
    (hAll : AllClean server)
    (hClient : CleanClient rtsp)
    (i : Nat) :
    AllClean (server.setClient i rtsp) := by
  intro j client hAt
  rcases getElem?_set_cases hAt with ⟨_, rfl⟩ | ⟨_, hOld⟩
  · exact hClient
  · exact hAll j client hOld

theorem AllClean.clientLoopEnd
    (hAll : AllClean server)
    (i : Nat) :
    AllClean (server.clientLoopEnd i) := by
  intro j client hAt
  rw [ServerState.clientLoopEnd_clients] at hAt
  rcases Option.map_eq_some_iff.mp hAt with
    ⟨old, hOld, rfl⟩
  have hClean := hAll j old hOld
  exact ⟨hClean.responses, hClean.pending, hClean.session⟩

theorem AllClean.accept
    (hAll : AllClean server)
    (hSame :
      server'.clients = server.clients ++ [rtspClientNew]) :
    AllClean server' := by
  intro j client hAt
  rw [hSame] at hAt
  rcases getElem?_concat_cases hAt with hOld | ⟨_, rfl⟩
  · exact hAll j client hOld
  · exact cleanClient_new

theorem httpBadRequest_clean
    (h : CleanClient rtsp)
    (hReq : CleanRequest req) :
    CleanClient (httpBadRequest rtsp req) :=
  h.send (rfc822QuickResponse_clean hReq _ 400)

theorem httpTunnelResponse_clean
    (hReq : CleanRequest req) :
    CleanHeaders (httpTunnelResponse req).headers := by
  have hWords : ∀ word ∈
      ["close", "no-store", "no-cache",
        "application/x-rtsp-tunnelled"],
      CleanText (ascii word) := by
    decide
  have hNew := rfc822ResponseNew_clean hReq 200
  exact (((hNew.set _ (hWords "close" (by simp))).set _
    (hWords "no-store" (by simp))).set _
    (hWords "no-cache" (by simp))).set _
    (hWords "application/x-rtsp-tunnelled" (by simp))

theorem httpTunnelCreatePair_clean
    (hAll : AllClean server)
    (h : CleanClient rtsp)
    (hReq : CleanRequest req)
    (hCreate :
      httpTunnelCreatePair server i rtsp req =
        (server', ret)) :
    AllClean server' := by
  unfold httpTunnelCreatePair at hCreate
  split at hCreate
  · cases hCreate
    exact hAll.setClient (httpBadRequest_clean h hReq) i
  · split at hCreate
    · cases hCreate
      exact hAll.setClient (httpBadRequest_clean h hReq) i
    · rename_i hNone
      cases hCreate
      have hPaired :
          CleanClient
            { rtsp with pair := some server.pairs.length } :=
        ⟨h.responses, h.pending, h.session⟩
      exact (hAll.setClient
        (hPaired.send (httpTunnelResponse_clean hReq))
        i).congr rfl

theorem httpHandlePost_clean
    (hAll : AllClean server)
    (h : CleanClient rtsp)
    (hReq : CleanRequest req)
    (hRound :
      httpHandlePost server i rtsp req =
        .ok (server', next)) :
    AllClean server' := by
  have hPaired (pair : Option Nat) :
      CleanClient { rtsp with pair := pair } :=
    ⟨h.responses, h.pending, h.session⟩
  have hRefused (pair : Option Nat) :
      AllClean (server.setClient i
        (httpBadRequest { rtsp with pair := pair } req)) :=
    hAll.setClient
      (httpBadRequest_clean (hPaired pair) hReq) i
  unfold httpHandlePost at hRound
  split at hRound
  · cases hRound
    exact hAll.setClient (httpBadRequest_clean h hReq) i
  · simp only at hRound
    split at hRound
    · cases hRound
      exact hRefused _
    · split at hRound
      · cases hRound
      · split at hRound
        · cases hRound
        · rename_i http hHttp
          split at hRound
          · cases hRound
            exact hRefused _
          · split at hRound
            · cases hRound
              exact hRefused _
            · cases hRound
              have hOther : CleanClient http :=
                hAll.setClient (hPaired _) i _ http hHttp
              refine (AllClean.setClient
                (hAll.setClient ?_ i) ?_ _).congr rfl
              · exact ⟨h.responses, h.pending, h.session⟩
              · exact ⟨hOther.responses, hOther.pending,
                  hOther.session⟩

theorem httpHandleHeaders_clean
    (hAll : AllClean server)
    (h : CleanClient rtsp)
    (hRound :
      httpHandleHeaders mem server i rtsp =
        .ok (server', next)) :
    AllClean server' := by
  unfold httpHandleHeaders at hRound
  split at hRound
  · cases hRound
  · rename_i req hPending
    have hReq := h.pending req hPending
    split at hRound
    · cases hRound
    · rename_i headersRes headers parsedHeaders hRead
      have hNext :=
        hReq.setHeaders
          (ragelReadHttpHeaders_clean hReq.headersD hRead)
      have hSet :
          CleanClient
            { rtsp with
              pendingRequest :=
                some { req with headers := some headers } } := by
        apply h.setRequest
        intro next hSome
        cases hSome
        exact hNext
      have hRest :
          CleanClient
            { rtsp with
              pendingRequest :=
                some { req with headers := some headers }
              input :=
                gByteArrayRemoveRange rtsp.input
                  parsedHeaders } :=
        ⟨hSet.responses, hSet.pending, hSet.session⟩
      simp only at hRound
      split at hRound
      · cases hRound
        exact hAll.setClient (httpBadRequest_clean hSet hNext) i
      · split at hRound
        · cases hRound
          exact hAll.setClient hRest i
        · split at hRound
          · exact httpHandlePost_clean hAll hRest hNext hRound
          · split at hRound
            · rename_i hCreate
              cases hRound
              exact httpTunnelCreatePair_clean hAll hRest
                hNext hCreate
            · rename_i hCreate
              have hCreated :=
                httpTunnelCreatePair_clean hAll hRest hNext
                  hCreate
              split at hRound
              · cases hRound
              · rename_i own hOwn
                cases hRound
                have hOld := hCreated _ own hOwn
                refine hCreated.setClient ?_ i
                exact ⟨hOld.responses, hOld.pending,
                  hOld.session⟩

theorem httpHandleContent_clean
    {decoded : List UInt8}
    (hAll : AllClean server)
    (hRound :
      httpHandleContent decoded server i rtsp =
        .ok (server', next)) :
    AllClean server' := by
  unfold httpHandleContent at hRound
  split at hRound
  · cases hRound
  · split at hRound
    · cases hRound
    · rename_i j _
      split at hRound
      · cases hRound
      · rename_i rtspClient hClient
        have hOther := hAll j rtspClient hClient
        have hDecoded :
            AllClean (server.setClient j
              { rtspClient with
                input := rtspClient.input ++ decoded }) := by
          refine hAll.setClient ?_ j
          exact ⟨hOther.responses, hOther.pending,
            hOther.session⟩
        simp only at hRound
        split at hRound
        · cases hRound
        · rename_i own hOwn
          cases hRound
          have hOld := hDecoded _ own hOwn
          refine hDecoded.setClient ?_ i
          exact ⟨hOld.responses, hOld.pending, hOld.session⟩

theorem clientRound_clean
    {result : RoundResult}
    (hAll : AllClean server)
    (hResult : ∀ rtsp' ret, result = .ok (rtsp', ret) →
      CleanClient rtsp')
    (hRound :
      clientRound server i result = .ok (server', next)) :
    AllClean server' := by
  cases result with
  | error fault => cases hRound
  | ok result =>
      rcases result with ⟨rtsp', ret⟩
      cases hRound
      exact hAll.setClient (hResult rtsp' ret rfl) i

/- Every round but that of a request keeps clients clean. -/
theorem AllClean.round
    {given : RoundInput}
    (hAll : AllClean server)
    (hOwn : server.clients[i]? = some rtsp)
    (hStatus : rtsp.status ≠ .rtspContent)
    (hRound :
      handlerRound given server i rtsp =
        .ok (server', next)) :
    AllClean server' := by
  have h := hAll i rtsp hOwn
  cases hIs : rtsp.status with
  | begin_ =>
      simp only [handlerRound, hIs] at hRound
      exact clientRound_clean hAll
        (fun _ _ hNew => rtspHandleNew_clean h hNew) hRound
  | interleaved =>
      simp only [handlerRound, hIs] at hRound
      exact clientRound_clean hAll
        (fun _ _ hPacket =>
          rtspHandleInterleaved_clean h hPacket) hRound
  | rtspHeaders =>
      simp only [handlerRound, hIs] at hRound
      exact clientRound_clean hAll
        (fun _ _ hHeaders =>
          rtspHandleHeaders_clean h hHeaders) hRound
  | rtspContent => exact absurd hIs hStatus
  | httpHeaders =>
      simp only [handlerRound, hIs] at hRound
      exact httpHandleHeaders_clean hAll h hRound
  | httpContent =>
      simp only [handlerRound, hIs] at hRound
      exact httpHandleContent_clean hAll hRound
  | httpIdle =>
      simp only [handlerRound, hIs] at hRound
      cases hRound
      exact hAll

end Feng
