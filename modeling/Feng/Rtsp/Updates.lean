import Feng.Rtsp.Tunnel

/-
  What a step of the server does to each of its clients, with
  the bytes each of them holds.

  Key definitions include:
    * `rtspRound`
    * `Server.ClientMoves`

  Key theorems include:
    * `handlerRound_rtsp`
    * `rtspRound_link`
    * `Server.step_clientMoves`
-/

------------------------------------------------------------
-- Rounds Of RTSP Connections
------------------------------------------------------------

namespace Feng

/- A round in one of the states of an RTSP connection. -/
def rtspRound
    (given : RoundInput)
    (rtsp : RTSPClient) : RoundResult :=
  match rtsp.status with
  | .begin_ => rtspHandleNew given.mem rtsp
  | .rtspHeaders => rtspHandleHeaders given.mem rtsp
  | .rtspContent => rtspHandleContent given.env rtsp
  | _ => rtspHandleInterleaved rtsp

instance decidableOfHttp : DecidablePred OfHttp :=
  fun status =>
    inferInstanceAs
      (Decidable
        (status = .httpHeaders ∨ status = .httpContent ∨
          status = .httpIdle))

theorem handlerRound_rtsp
    {given : RoundInput}
    {rtsp : RTSPClient}
    (server : ServerState)
    (i : Nat)
    (hStatus : ¬ OfHttp rtsp.status) :
    handlerRound given server i rtsp =
      clientRound server i (rtspRound given rtsp) := by
  unfold handlerRound rtspRound
  cases hIs : rtsp.status with
  | httpHeaders => exact absurd (.inl hIs) hStatus
  | httpContent => exact absurd (.inr (.inl hIs)) hStatus
  | httpIdle => exact absurd (.inr (.inr hIs)) hStatus
  | begin_ => rfl
  | interleaved => rfl
  | rtspHeaders => rfl
  | rtspContent => rfl

/- No round of these changes what the client is tied to. -/
theorem rtspRound_link
    {given : RoundInput}
    {rtsp rtsp' : RTSPClient}
    {ret : Bool}
    (h : rtspRound given rtsp = .ok (rtsp', ret)) :
    SameLink rtsp rtsp' := by
  unfold rtspRound at h
  split at h
  · exact rtspHandleNew_link h
  · exact rtspHandleHeaders_link h
  · exact rtspHandleContent_link h
  · exact rtspHandleInterleaved_link h

theorem gByteArrayRemoveRange_length
    (array : List UInt8)
    (length : Nat) :
    (gByteArrayRemoveRange array length).length ≤
      array.length := by
  unfold gByteArrayRemoveRange
  split
  · rw [List.length_drop]
    exact Nat.sub_le _ _
  · exact Nat.le_refl _

end Feng

------------------------------------------------------------
-- What A Step Does To A Client
------------------------------------------------------------

namespace Feng

namespace Server

/-
  What a step does to one client: nothing, the end of a loop,
  bytes read for it, a round of its own, or a round of the
  other connection of its tunnel.
-/
inductive ClientMoves
    (server : ServerState)
    (j : Nat)
    (client : RTSPClient) : Op → RTSPClient → Prop where
| same {op : Op} :
    ClientMoves server j client op client
| ended {op : Op} (connected freed : Bool) :
    ClientMoves server j client op
      { client with
        connected := connected
        freed := freed }
| read {thread : Nat} {buffer : List UInt8} :
    client.input.length + buffer.length ≤ rtspBuffersize →
      ClientMoves server j client (.read thread buffer)
        { client with input := client.input ++ buffer }
| own {thread : Nat} {given : RoundInput}
    {client' : RTSPClient} {ret : Bool} :
    ¬ OfHttp client.status →
      rtspRound given client = .ok (client', ret) →
      ClientMoves server j client (.round thread j given)
        client'
| headers {thread : Nat} {given : RoundInput}
    {client' : RTSPClient} :
    client.status = .httpHeaders →
      OfHttp client'.status ∨ client'.status = .begin_ →
      client'.input.length ≤ client.input.length →
      ClientMoves server j client (.round thread j given)
        client'
| handed {thread i : Nat} {given : RoundInput}
    {other : RTSPClient} {input : List UInt8} :
    server.clients[i]? = some other →
      client.status = .httpIdle →
      input.length ≤ other.input.length →
      ClientMoves server j client (.round thread i given)
        { client with
          input := input
          status := .httpContent }
| decoded {thread i k : Nat} {given : RoundInput}
    {http : RTSPClient} {pair : HTTPTunnelPair} :
    server.clients[i]? = some http →
      http.status = .httpContent → http.pair = some k →
      server.pairs[k]? = some pair →
      pair.rtspClient = some j → j ≠ i →
      ClientMoves server j client (.round thread i given)
        { client with
          input := client.input ++ given.decoded }
| emptied {thread : Nat} {given : RoundInput} :
    client.status = .httpContent →
      ClientMoves server j client (.round thread j given)
        { client with input := [] }

/- Each client of the state after a step, and where it is from. -/
def ClientsMove
    (server : ServerState)
    (op : Op)
    (server' : ServerState) : Prop :=
  ∀ j client', server'.clients[j]? = some client' →
    (∃ client, server.clients[j]? = some client ∧
      ClientMoves server j client op client') ∨
    client' = rtspClientNew

variable {server server' : ServerState} {op : Op}
variable {given : RoundInput} {thread i : Nat}
variable {rtsp rtsp' : RTSPClient} {req : RFC822Request}
variable {next : Next}

theorem ClientsMove.refl
    (server : ServerState)
    (op : Op) :
    ClientsMove server op server := by
  intro j client' hClient
  exact .inl ⟨client', hClient, .same⟩

theorem ClientsMove.setClient
    (hOwn : server.clients[i]? = some rtsp)
    (hMoves : ClientMoves server i rtsp op rtsp') :
    ClientsMove server op (server.setClient i rtsp') := by
  intro j client' hClient
  rcases getElem?_set_cases hClient with
    ⟨rfl, rfl⟩ | ⟨_, hOld⟩
  · exact .inl ⟨rtsp, hOwn, hMoves⟩
  · exact .inl ⟨client', hOld, .same⟩

theorem ClientsMove.clientLoopEnd
    (server : ServerState)
    (op : Op)
    (i : Nat) :
    ClientsMove server op (server.clientLoopEnd i) := by
  intro j client' hClient
  rw [ServerState.clientLoopEnd_clients] at hClient
  rcases Option.map_eq_some_iff.mp hClient with
    ⟨client, hOld, rfl⟩
  exact .inl ⟨client, hOld, .ended _ _⟩

theorem httpBadRequest_move
    (hOwn : server.clients[i]? = some rtsp)
    (hStatus : rtsp.status = .httpHeaders)
    (hKeeps : rtsp'.status = rtsp.status)
    (hInput : rtsp'.input.length ≤ rtsp.input.length) :
    ClientsMove server (.round thread i given)
      (server.setClient i (httpBadRequest rtsp' req)) := by
  apply ClientsMove.setClient hOwn
  apply ClientMoves.headers hStatus
  · exact .inl (.inl (hKeeps.trans hStatus))
  · exact hInput

theorem httpHandlePost_move
    (hOwn : server.clients[i]? = some rtsp)
    (hStatus : rtsp.status = .httpHeaders)
    (hKeeps : rtsp'.status = rtsp.status)
    (hInput : rtsp'.input.length ≤ rtsp.input.length)
    (h :
      httpHandlePost server i rtsp' req =
        .ok (server', next)) :
    ClientsMove server (.round thread i given) server' := by
  unfold httpHandlePost at h
  split at h
  · cases h
    exact httpBadRequest_move hOwn hStatus hKeeps hInput
  · rename_i cookie _
    have hRefused :
        ClientsMove server (.round thread i given)
          (server.setClient i
            (httpBadRequest
              { rtsp' with
                pair := server.lookupPair cookie } req)) :=
      httpBadRequest_move hOwn hStatus hKeeps hInput
    simp only at h
    split at h
    · cases h
      exact hRefused
    · rename_i k hFound
      split at h
      · cases h
      · rename_i pair hPair
        split at h
        · cases h
        · rename_i http hHttp
          split at h
          · cases h
            exact hRefused
          · rename_i hIdle
            split at h
            · cases h
              exact hRefused
            · rename_i hEmpty
              cases h
              have hStatusIdle := not_not.mp hIdle
              have hNone := not_not.mp hEmpty
              intro j client' hClient
              rcases getElem?_set_cases hClient with
                ⟨rfl, rfl⟩ | ⟨_, hClient⟩
              · rw [setClient_get] at hHttp
                split at hHttp
                · rename_i hSame
                  rw [← hSame, hOwn] at hHttp
                  cases hHttp
                  rw [hKeeps, hStatus] at hStatusIdle
                  cases hStatusIdle
                · exact .inl ⟨http, hHttp,
                    .handed hOwn hStatusIdle hInput⟩
              · rcases getElem?_set_cases hClient with
                  ⟨rfl, rfl⟩ | ⟨_, hOld⟩
                · refine .inl ⟨rtsp, hOwn, ?_⟩
                  apply ClientMoves.headers hStatus
                  · exact .inr rfl
                  · rw [hNone]
                    exact Nat.zero_le _
                · exact .inl ⟨client', hOld, .same⟩

theorem httpHandleHeaders_move
    (hOwn : server.clients[i]? = some rtsp)
    (hStatus : rtsp.status = .httpHeaders)
    (h :
      httpHandleHeaders given.mem server i rtsp =
        .ok (server', next)) :
    ClientsMove server (.round thread i given) server' := by
  unfold httpHandleHeaders at h
  split at h
  · cases h
  · rename_i req hPending
    split at h
    · cases h
    · rename_i headersRes headers parsedHeaders hScan
      have hShorter :=
        gByteArrayRemoveRange_length rtsp.input parsedHeaders
      simp only at h
      split at h
      · cases h
        refine httpBadRequest_move hOwn hStatus ?_ ?_
        · rfl
        · exact Nat.le_refl _
      · split at h
        · cases h
          apply ClientsMove.setClient hOwn
          apply ClientMoves.headers hStatus
          · exact .inl (.inl hStatus)
          · exact hShorter
        · split at h
          · refine httpHandlePost_move hOwn hStatus ?_ ?_ h
            · rfl
            · exact hShorter
          · split at h
            · rename_i hCreate
              rcases httpTunnelCreatePair_cases hCreate with
                ⟨_, _, rfl⟩ | ⟨hFalse, _⟩
              · cases h
                refine httpBadRequest_move hOwn hStatus ?_ ?_
                · rfl
                · exact hShorter
              · cases hFalse
            · rename_i hCreate
              unfold httpTunnelCreatePair at hCreate
              split at hCreate
              · cases hCreate
              · split at hCreate
                · cases hCreate
                · cases hCreate
                  simp only [setClient_get, if_true, hOwn,
                    Option.map_some] at h
                  cases h
                  intro j client' hClient
                  rcases getElem?_set_cases hClient with
                    ⟨rfl, rfl⟩ | ⟨hNe, hClient⟩
                  · refine .inl ⟨rtsp, hOwn, ?_⟩
                    apply ClientMoves.headers hStatus
                    · exact .inl (.inr (.inr rfl))
                    · exact hShorter
                  · rcases getElem?_set_cases hClient with
                      ⟨hEq, _⟩ | ⟨_, hOld⟩
                    · exact absurd hEq hNe
                    · exact .inl ⟨client', hOld, .same⟩

theorem httpHandleContent_move
    (hOwn : server.clients[i]? = some rtsp)
    (hStatus : rtsp.status = .httpContent)
    (h :
      httpHandleContent given.decoded server i rtsp =
        .ok (server', next)) :
    ClientsMove server (.round thread i given) server' := by
  have hMoves : RoundMoves given server i rtsp server' :=
    httpHandleContent_moves hStatus h
  cases hMoves with
  | @content other own j k pair _ hPair hAt hRtsp hOther
      hOwnNow =>
      intro l client' hClient
      rcases getElem?_set_cases hClient with
        ⟨rfl, rfl⟩ | ⟨hNe, hClient⟩
      · rcases getElem?_set_cases hOwnNow with
          ⟨rfl, rfl⟩ | ⟨_, hOld⟩
        · rw [hOwn] at hOther
          cases hOther
          exact .inl ⟨rtsp, hOwn, .emptied hStatus⟩
        · rw [hOwn] at hOld
          cases hOld
          exact .inl ⟨rtsp, hOwn, .emptied hStatus⟩
      · rcases getElem?_set_cases hClient with
          ⟨rfl, rfl⟩ | ⟨_, hOld⟩
        · exact .inl ⟨other, hOther,
            .decoded hOwn hStatus hPair hAt hRtsp hNe⟩
        · exact .inl ⟨client', hOld, .same⟩
  | own hNot _ => exact absurd (.inr (.inl hStatus)) hNot
  | headers _ hIs _ _ _ _ _ => simp [hStatus] at hIs
  | refused _ hIs _ _ _ _ _ _ => simp [hStatus] at hIs
  | created _ hIs _ _ _ _ _ _ => simp [hStatus] at hIs
  | accepted _ hIs _ _ _ _ _ _ _ _ _ _ _ _ _ =>
      simp [hStatus] at hIs
  | idle hIs => simp [hStatus] at hIs

theorem handlerRound_move
    (hOwn : server.clients[i]? = some rtsp)
    (h :
      handlerRound given server i rtsp =
        .ok (server', next)) :
    ClientsMove server (.round thread i given) server' := by
  by_cases hHttp : OfHttp rtsp.status
  · rcases hHttp with hStatus | hStatus | hStatus
    · simp only [handlerRound, hStatus] at h
      exact httpHandleHeaders_move hOwn hStatus h
    · simp only [handlerRound, hStatus] at h
      exact httpHandleContent_move hOwn hStatus h
    · simp only [handlerRound, hStatus] at h
      cases h
      exact .refl _ _
  · rw [handlerRound_rtsp server i hHttp] at h
    cases hRound : rtspRound given rtsp with
    | error fault =>
        rw [hRound] at h
        cases h
    | ok result =>
        rcases result with ⟨client, ret⟩
        rw [hRound] at h
        cases h
        exact .setClient hOwn (.own hHttp hRound)

theorem ClientsMove.congr
    {server'' : ServerState}
    (h : ClientsMove server op server')
    (hSame : server''.clients = server'.clients) :
    ClientsMove server op server'' := by
  intro j client' hClient
  rw [hSame] at hClient
  exact h j client' hClient

theorem step_clientMoves
    (h : step server op = .ok server') :
    ClientsMove server op server' := by
  cases op with
  | accept =>
      cases h
      intro j client' hClient
      rcases getElem?_concat_cases hClient with
        hOld | ⟨_, hNew⟩
      · exact .inl ⟨client', hOld, .same⟩
      · exact .inr hNew
  | read thread buffer =>
      rcases rtspTcpReadCb_cases h with
        ⟨_, rfl⟩ | ⟨hGoesOn, i, rtsp, hReads, hRtsp, rfl⟩
      · exact .clientLoopEnd _ _ _
      · simp only [endsLoop, hReads, hRtsp,
          Option.bind_some, ite_eq_right_iff, reduceCtorEq,
          imp_false, not_or, Nat.not_lt] at hGoesOn
        exact (ClientsMove.setClient hRtsp
          (.read hGoesOn.2)).congr rfl
  | round thread i given =>
      simp only [step] at h
      split at h
      · cases h
      · rename_i rtsp hOwn
        split at h
        · cases h
        · rename_i after next hRound
          cases h
          exact (handlerRound_move hOwn hRound).congr
            (runNext_tunnels after thread i next).clients
  | drained thread i =>
      cases h
      exact (ClientsMove.clientLoopEnd server _ i).congr
        (clientLoopEnd_tunnels server _ i).clients
  | disconnect thread =>
      cases h
      exact .clientLoopEnd _ _ _

end Server

end Feng
