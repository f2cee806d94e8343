import Feng.Rtsp.Server

/-
  What a round, and a step of the server, can fail with, and
  what the client is like then.

  Key definitions include:
    * `RoundFault`
    * `Server.StepFault`

  Key theorems include:
    * `handlerRound_fault`
    * `Server.step_fault`
-/

------------------------------------------------------------
-- Faults Of A Round
------------------------------------------------------------

namespace Feng

/-
  The faults a round of a client can have, and the condition
  of the client that leads to the ones that are its own.
-/
inductive RoundFault (rtsp : RTSPClient) :
    HandlerFault → Prop where
| nullRequest :
    rtsp.status = .rtspHeaders ∨
        rtsp.status = .rtspContent ∨
        rtsp.status = .httpHeaders →
      rtsp.pendingRequest = none →
      RoundFault rtsp .nullRequest
| frame :
    rtsp.status = .interleaved →
      rtsp.input.getD 0 0 ≠ chDollar →
      RoundFault rtsp .assertion
| content {req : RFC822Request} :
    rtsp.status = .rtspContent →
      rtsp.pendingRequest = some req →
      rfc822HeadersLookup req.headers .contentLength ≠ none →
      RoundFault rtsp .assertion
| outOfMemory : RoundFault rtsp .outOfMemory
| url (fault : UrlFault) : RoundFault rtsp (.url fault)
| noMethod : RoundFault rtsp .noMethod
| noClient : RoundFault rtsp .noClient
| noPair : RoundFault rtsp .noPair

variable {rtsp client : RTSPClient} {mem : Memory}
variable {server : ServerState} {req : RFC822Request}
variable {given : RoundInput} {env : UrlEnv} {i : Nat}
variable {fault : HandlerFault}

theorem rtspHandleInterleaved_fault
    (h : rtspHandleInterleaved rtsp = .error fault) :
    fault = .assertion ∧
      rtsp.input.getD 0 0 ≠ chDollar := by
  unfold rtspHandleInterleaved at h
  split at h
  · cases h
  · simp only at h
    split at h
    · rename_i hFirst
      cases h
      exact ⟨rfl, hFirst⟩
    · split at h
      · cases h
      · cases h

/- The byte was looked at already. -/
theorem rtspHandleNew_fault
    (h : rtspHandleNew mem rtsp = .error fault) :
    fault = .outOfMemory := by
  unfold rtspHandleNew at h
  split at h
  · cases h
  · split at h
    · rename_i hFirst
      exact absurd hFirst (rtspHandleInterleaved_fault h).2
    · split at h
      · cases h
        rfl
      · cases h

theorem rtspHandleHeaders_fault
    (hStatus : rtsp.status = .rtspHeaders)
    (h : rtspHandleHeaders mem rtsp = .error fault) :
    RoundFault rtsp fault := by
  unfold rtspHandleHeaders at h
  split at h
  · rename_i hNone
    cases h
    exact .nullRequest (.inl hStatus) hNone
  · split at h
    · cases h
      exact .outOfMemory
    · simp only at h
      split at h
      · cases h
      · split at h
        · cases h
        · cases h

theorem callMethod_fault
    (h : callMethod env client req = .error fault) :
    RoundFault rtsp fault := by
  unfold callMethod at h
  split at h
  · cases h
  · split at h
    · cases h
      exact .noMethod
    · split at h
      · cases h
        exact .url _
      · cases h

theorem rtspHandleRequest_fault
    (h : rtspHandleRequest env client req = .error fault) :
    RoundFault rtsp fault := by
  unfold rtspHandleRequest at h
  split at h
  · rename_i hBody
    cases h
    unfold handleRequestBody handleNumberedRequest at hBody
    split at hBody
    · cases hBody
    · simp only at hBody
      split at hBody
      · cases hBody
      · split at hBody
        · cases hBody
        · split at hBody
          · cases hBody
          · split at hBody
            · cases hBody
            · split at hBody
              · cases hBody
              · exact callMethod_fault hBody
  · cases h

theorem rtspHandleContent_fault
    (hStatus : rtsp.status = .rtspContent)
    (h : rtspHandleContent env rtsp = .error fault) :
    RoundFault rtsp fault := by
  unfold rtspHandleContent at h
  split at h
  · rename_i hNone
    cases h
    exact .nullRequest (.inr (.inl hStatus)) hNone
  · rename_i req hPending
    split at h
    · rename_i hLength
      cases h
      exact .content hStatus hPending hLength
    · split at h
      · rename_i hRequest
        cases h
        exact rtspHandleRequest_fault hRequest
      · cases h

theorem httpHandlePost_fault
    (h : httpHandlePost server i client req = .error fault) :
    RoundFault rtsp fault := by
  unfold httpHandlePost at h
  split at h
  · cases h
  · simp only at h
    split at h
    · cases h
    · split at h
      · cases h
        exact .noPair
      · split at h
        · cases h
          exact .noClient
        · split at h
          · cases h
          · split at h
            · cases h
            · cases h

theorem httpHandleHeaders_fault
    (hStatus : rtsp.status = .httpHeaders)
    (h :
      httpHandleHeaders mem server i rtsp = .error fault) :
    RoundFault rtsp fault := by
  unfold httpHandleHeaders at h
  split at h
  · rename_i hNone
    cases h
    exact .nullRequest (.inr (.inr hStatus)) hNone
  · split at h
    · cases h
      exact .outOfMemory
    · simp only at h
      split at h
      · cases h
      · split at h
        · cases h
        · split at h
          · exact httpHandlePost_fault h
          · split at h
            · cases h
            · split at h
              · cases h
                exact .noClient
              · cases h

theorem httpHandleContent_fault
    {decoded : List UInt8}
    (h :
      httpHandleContent decoded server i client =
        .error fault) :
    RoundFault rtsp fault := by
  unfold httpHandleContent at h
  split at h
  · cases h
    exact .noPair
  · split at h
    · cases h
      exact .noClient
    · split at h
      · cases h
        exact .noClient
      · simp only at h
        split at h
        · cases h
          exact .noClient
        · cases h

theorem clientRound_fault
    {result : RoundResult}
    (h : clientRound server i result = .error fault) :
    result = .error fault := by
  cases result with
  | error other =>
      cases h
      rfl
  | ok result => cases h

/- Every fault of a round is one of these. -/
theorem handlerRound_fault
    (h : handlerRound given server i rtsp = .error fault) :
    RoundFault rtsp fault := by
  unfold handlerRound at h
  split at h
  · cases rtspHandleNew_fault (clientRound_fault h)
    exact .outOfMemory
  · rename_i hStatus
    exact rtspHandleHeaders_fault hStatus
      (clientRound_fault h)
  · rename_i hStatus
    exact rtspHandleContent_fault hStatus
      (clientRound_fault h)
  · rename_i hStatus
    rcases rtspHandleInterleaved_fault
      (clientRound_fault h) with ⟨rfl, hFirst⟩
    exact .frame hStatus hFirst
  · rename_i hStatus
    exact httpHandleHeaders_fault hStatus h
  · exact httpHandleContent_fault h
  · cases h

end Feng

------------------------------------------------------------
-- Faults Of A Step
------------------------------------------------------------

namespace Feng

namespace Server

/- The faults of a step: those of its round, or no client. -/
inductive StepFault (server : ServerState) :
    Op → HandlerFault → Prop where
| round {thread i : Nat} {given : RoundInput}
    {rtsp : RTSPClient} {fault : HandlerFault} :
    server.clients[i]? = some rtsp →
      handlerRound given server i rtsp = .error fault →
      RoundFault rtsp fault →
      StepFault server (.round thread i given) fault
| noClient {op : Op} : StepFault server op .noClient
| noPair {op : Op} : StepFault server op .noPair

theorem step_fault
    {server : ServerState}
    {op : Op}
    {fault : HandlerFault}
    (h : step server op = .error fault) :
    StepFault server op fault := by
  cases op with
  | accept => cases h
  | read thread buffer =>
      simp only [step, rtspTcpReadCb] at h
      split at h
      · cases h
        exact .noClient
      · split at h
        · cases h
          exact .noPair
        · split at h
          · cases h
            exact .noClient
          · split at h
            · cases h
            · split at h
              · cases h
              · cases h
  | round thread i given =>
      simp only [step] at h
      split at h
      · cases h
        exact .noClient
      · rename_i rtsp hClient
        split at h
        · rename_i hRound
          cases h
          exact .round hClient hRound
            (handlerRound_fault hRound)
        · cases h
  | drained thread i => cases h
  | disconnect thread => cases h

end Server

end Feng
