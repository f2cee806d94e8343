import Feng.Lib.Simulation
import Feng.Play.Connected
import Feng.Play.Invariant

/-
  Each client of the server plays as if it were the only one:
  what the requests, the writers and the timer of one client
  do is a run of that client alone, whatever the threads of
  the other clients do in between.

  Key definitions include:
    * `SameSession`
    * `KeepsSessions`
    * `Serving.seenBy`
    * `Serving.PlaysAlone`

  Key theorems include:
    * `Serving.alone_simulation`
    * `Serving.each_client_alone`
    * `Serving.sessions_invariant`
-/

------------------------------------------------------------
-- Rounds That Handle No Request
------------------------------------------------------------

namespace Feng

/-
  A client with the same session, which may have been sent
  more responses.
-/
structure SameSession (rtsp rtsp' : RTSPClient) : Prop where
  core : rtsp'.core = rtsp.core
  responses : rtsp.responses <+: rtsp'.responses

theorem SameSession.refl (rtsp : RTSPClient) :
    SameSession rtsp rtsp :=
  ⟨rfl, List.prefix_refl _⟩

theorem SameSession.trans
    {rtsp rtsp' rtsp'' : RTSPClient}
    (h : SameSession rtsp rtsp')
    (hNext : SameSession rtsp' rtsp'') :
    SameSession rtsp rtsp'' :=
  ⟨hNext.core.trans h.core,
    h.responses.trans hNext.responses⟩

theorem SameSession.send
    {rtsp rtsp' : RTSPClient}
    (h : SameSession rtsp rtsp')
    (response : RFC822Response) :
    SameSession rtsp (rfc822ResponseSend rtsp' response) :=
  h.trans ⟨rfl, List.prefix_append _ _⟩

variable {rtsp rtsp' : RTSPClient} {req : RFC822Request}
variable {mem : Memory} {ret : Bool}

theorem rtspHandleInterleaved_session
    (h : rtspHandleInterleaved rtsp = .ok (rtsp', ret)) :
    SameSession rtsp rtsp' := by
  unfold rtspHandleInterleaved at h
  split at h
  · cases h
    exact .refl rtsp
  · simp only at h
    split at h
    · cases h
    · split at h
      · cases h
        exact .refl rtsp
      · cases h
        exact ⟨rfl, List.prefix_refl _⟩

theorem handleLineResult_session
    {requestLineLen : Int}
    (h :
      handleLineResult rtsp requestLineLen req =
        (rtsp', ret)) :
    SameSession rtsp rtsp' := by
  unfold handleLineResult at h
  split at h
  · cases h
    exact (SameSession.refl rtsp).send _
  · split at h
    · cases h
      exact .refl rtsp
    · split at h
      · cases h
        exact (SameSession.refl rtsp).send _
      · unfold handleRequestLine at h
        simp only at h
        split at h
        · cases h
          exact ⟨rfl, List.prefix_append _ _⟩
        · cases h
          exact ⟨rfl, List.prefix_refl _⟩

theorem rtspHandleNew_session
    (h : rtspHandleNew mem rtsp = .ok (rtsp', ret)) :
    SameSession rtsp rtsp' := by
  unfold rtspHandleNew at h
  split at h
  · cases h
    exact .refl rtsp
  · split at h
    · have hSame := rtspHandleInterleaved_session h
      exact ⟨hSame.core, hSame.responses⟩
    · split at h
      · cases h
      · cases hLine : handleLineResult rtsp _ _ with
        | mk client again =>
            rw [hLine] at h
            cases h
            exact handleLineResult_session hLine

theorem rtspHandleHeaders_session
    (h : rtspHandleHeaders mem rtsp = .ok (rtsp', ret)) :
    SameSession rtsp rtsp' := by
  unfold rtspHandleHeaders at h
  split at h
  · cases h
  · split at h
    · cases h
    · simp only at h
      split at h
      · cases h
        exact ⟨rfl, List.prefix_append _ _⟩
      · split at h
        · cases h
          exact ⟨rfl, List.prefix_refl _⟩
        · cases h
          exact ⟨rfl, List.prefix_refl _⟩

/- Only the round for the content touches the session. -/
theorem rtspRound_session
    {given : RoundInput}
    (hStatus : rtsp.status ≠ .rtspContent)
    (h : rtspRound given rtsp = .ok (rtsp', ret)) :
    SameSession rtsp rtsp' := by
  unfold rtspRound at h
  split at h
  · exact rtspHandleNew_session h
  · exact rtspHandleHeaders_session h
  · rename_i hContent
    exact absurd hContent hStatus
  · exact rtspHandleInterleaved_session h

end Feng

------------------------------------------------------------
-- Steps Of The Connections
------------------------------------------------------------

namespace Feng

/- The sessions of the clients there were are as they were. -/
structure KeepsSessions (server server' : ServerState) :
    Prop where
  length : server'.clients.length = server.clients.length
  sessions :
    ∀ (j : Nat) (client' : RTSPClient),
      server'.clients[j]? = some client' →
        ∃ client, server.clients[j]? = some client ∧
          SameSession client client'

variable {server server' server'' : ServerState}
variable {rtsp rtsp' : RTSPClient} {req : RFC822Request}
variable {given : RoundInput} {next : Next} {i : Nat}

namespace KeepsSessions

theorem congr
    (h : KeepsSessions server server')
    (hSame : server''.clients = server'.clients) :
    KeepsSessions server server'' where
  length := by
    rw [hSame]
    exact h.length
  sessions := by
    rw [hSame]
    exact h.sessions

theorem refl (server : ServerState) :
    KeepsSessions server server where
  length := rfl
  sessions := by
    intro j client' hClient
    exact ⟨client', hClient, .refl client'⟩

/- A client with the session it had is put in its place. -/
theorem setClient
    (h : KeepsSessions server server')
    (hOwn : server'.clients[i]? = some rtsp)
    (hSame : SameSession rtsp rtsp') :
    KeepsSessions server (server'.setClient i rtsp') where
  length := by
    rw [ServerState.setClient, List.length_set]
    exact h.length
  sessions := by
    intro j client' hClient
    rcases getElem?_set_cases hClient with
      ⟨rfl, rfl⟩ | ⟨_, hOld⟩
    · rcases h.sessions j rtsp hOwn with
        ⟨client, hThere, hBefore⟩
      exact ⟨client, hThere, hBefore.trans hSame⟩
    · exact h.sessions j client' hOld

theorem clientLoopEnd
    (h : KeepsSessions server server')
    (i : Nat) :
    KeepsSessions server (server'.clientLoopEnd i) where
  length := by
    have hGet := ServerState.clientLoopEnd_clients server' i
    have hNone :
        ∀ j : Nat,
          (server'.clientLoopEnd i).clients[j]? = none ↔
            server'.clients[j]? = none := by
      intro j
      rw [hGet, Option.map_eq_none_iff]
    rw [← h.length]
    apply Nat.le_antisymm
    · exact List.getElem?_eq_none_iff.mp
        ((hNone _).mpr
          (List.getElem?_eq_none_iff.mpr (Nat.le_refl _)))
    · exact List.getElem?_eq_none_iff.mp
        ((hNone _).mp
          (List.getElem?_eq_none_iff.mpr (Nat.le_refl _)))
  sessions := by
    intro j client' hClient
    rw [ServerState.clientLoopEnd_clients] at hClient
    rcases Option.map_eq_some_iff.mp hClient with
      ⟨old, hOld, rfl⟩
    rcases h.sessions j old hOld with
      ⟨client, hThere, hBefore⟩
    exact ⟨client, hThere,
      hBefore.trans ⟨rfl, List.prefix_refl _⟩⟩

end KeepsSessions

theorem httpBadRequest_session
    (h : SameSession rtsp rtsp') :
    SameSession rtsp (httpBadRequest rtsp' req) :=
  h.send _

theorem httpTunnelCreatePair_keeps
    {ret : Bool}
    (hOwn : server.clients[i]? = some rtsp)
    (h :
      httpTunnelCreatePair server i rtsp' req =
        (server', ret))
    (hSame : SameSession rtsp rtsp') :
    KeepsSessions server server' := by
  have hBase := KeepsSessions.refl server
  unfold httpTunnelCreatePair at h
  split at h
  · cases h
    exact hBase.setClient hOwn (httpBadRequest_session hSame)
  · split at h
    · cases h
      exact hBase.setClient hOwn
        (httpBadRequest_session hSame)
    · cases h
      have hTied :
          SameSession rtsp
            { rtsp' with pair := some server.pairs.length } :=
        ⟨hSame.core, hSame.responses⟩
      exact KeepsSessions.congr
        (hBase.setClient hOwn
          (hTied.send (httpTunnelResponse req))) rfl

/- The two connections of a tunnel, when it is there. -/
theorem httpHandlePost_set
    {j : Nat}
    {httpClient : RTSPClient}
    {found : Option Nat}
    (hOwn : server.clients[i]? = some rtsp)
    (hSame : SameSession rtsp rtsp')
    (hHttp :
      (server.setClient i
          { rtsp' with pair := found }).clients[j]? =
        some httpClient) :
    KeepsSessions server
      ((server.setClient i
        { rtsp' with
          pair := found
          writeData := .http
          status := .begin_
          input := httpClient.input }).setClient j
        { httpClient with
          input := rtsp'.input
          status := .httpContent }) := by
  have hOwnSet :
      KeepsSessions server
        (server.setClient i
          { rtsp' with
            pair := found
            writeData := .http
            status := .begin_
            input := httpClient.input }) :=
    (KeepsSessions.refl server).setClient hOwn
      ⟨hSame.core, hSame.responses⟩
  rw [setClient_get] at hHttp
  by_cases hEq : i = j
  · rw [if_pos hEq, ← hEq, hOwn] at hHttp
    cases hHttp
    apply hOwnSet.setClient
    · rw [setClient_get, if_pos hEq, ← hEq, hOwn]
      rfl
    · exact ⟨rfl, List.prefix_refl _⟩
  · rw [if_neg hEq] at hHttp
    apply hOwnSet.setClient
    · rw [setClient_get, if_neg hEq]
      exact hHttp
    · exact ⟨rfl, List.prefix_refl _⟩

theorem httpHandlePost_keeps
    (hOwn : server.clients[i]? = some rtsp)
    (h :
      httpHandlePost server i rtsp' req =
        .ok (server', next))
    (hSame : SameSession rtsp rtsp') :
    KeepsSessions server server' := by
  have hBase := KeepsSessions.refl server
  have hTied :
      ∀ pair, SameSession rtsp { rtsp' with pair := pair } :=
    fun _ => hSame.trans ⟨rfl, List.prefix_refl _⟩
  have hRefused :
      ∀ pair,
        KeepsSessions server
          (server.setClient i
            (httpBadRequest
              { rtsp' with pair := pair } req)) :=
    fun pair => hBase.setClient hOwn ((hTied pair).send _)
  unfold httpHandlePost at h
  split at h
  · cases h
    exact hBase.setClient hOwn (httpBadRequest_session hSame)
  · simp only at h
    split at h
    · cases h
      exact hRefused _
    · split at h
      · cases h
      · split at h
        · cases h
        · rename_i pair _ httpClient hHttp
          split at h
          · cases h
            exact hRefused _
          · split at h
            · cases h
              exact hRefused _
            · cases h
              exact (httpHandlePost_set hOwn hSame
                hHttp).congr rfl

theorem httpHandleHeaders_keeps
    (hOwn : server.clients[i]? = some rtsp)
    (h :
      httpHandleHeaders given.mem server i rtsp =
        .ok (server', next)) :
    KeepsSessions server server' := by
  have hBase := KeepsSessions.refl server
  unfold httpHandleHeaders at h
  split at h
  · cases h
  · split at h
    · cases h
    · simp only at h
      split at h
      · cases h
        exact hBase.setClient hOwn
          ⟨rfl, List.prefix_append _ _⟩
      · split at h
        · cases h
          exact hBase.setClient hOwn
            ⟨rfl, List.prefix_refl _⟩
        · split at h
          · exact httpHandlePost_keeps hOwn h
              ⟨rfl, List.prefix_refl _⟩
          · split at h
            · rename_i hCreate
              cases h
              exact httpTunnelCreatePair_keeps hOwn hCreate
                ⟨rfl, List.prefix_refl _⟩
            · rename_i created hCreate
              have hKeeps :=
                httpTunnelCreatePair_keeps hOwn hCreate
                  ⟨rfl, List.prefix_refl _⟩
              split at h
              · cases h
              · rename_i opened hOpened
                cases h
                exact hKeeps.setClient hOpened
                  ⟨rfl, List.prefix_refl _⟩

theorem httpHandleContent_keeps
    (h :
      httpHandleContent given.decoded server i rtsp =
        .ok (server', next)) :
    KeepsSessions server server' := by
  unfold httpHandleContent at h
  split at h
  · cases h
  · split at h
    · cases h
    · split at h
      · cases h
      · rename_i j _ _ other hOther
        simp only at h
        split at h
        · cases h
        · rename_i own hOwn
          cases h
          have hGiven :
              KeepsSessions server
                (server.setClient j
                  { other with
                    input := other.input ++ given.decoded }) :=
            (KeepsSessions.refl server).setClient hOther
              ⟨rfl, List.prefix_refl _⟩
          exact hGiven.setClient hOwn
            ⟨rfl, List.prefix_refl _⟩

theorem handlerRound_keeps
    (hOwn : server.clients[i]? = some rtsp)
    (hStatus : rtsp.status ≠ .rtspContent)
    (h :
      handlerRound given server i rtsp =
        .ok (server', next)) :
    KeepsSessions server server' := by
  by_cases hHttp : OfHttp rtsp.status
  · rcases hHttp with hIs | hIs | hIs
    · simp only [handlerRound, hIs] at h
      exact httpHandleHeaders_keeps hOwn h
    · simp only [handlerRound, hIs] at h
      exact httpHandleContent_keeps h
    · simp only [handlerRound, hIs] at h
      cases h
      exact .refl server
  · rw [handlerRound_rtsp server i hHttp] at h
    cases hRound : rtspRound given rtsp with
    | error fault =>
        rw [hRound] at h
        cases h
    | ok result =>
        rcases result with ⟨client, ret⟩
        rw [hRound] at h
        cases h
        exact (KeepsSessions.refl server).setClient hOwn
          (rtspRound_session hStatus hRound)

/- A step that handles no request keeps every session. -/
theorem server_keeps
    {op : Server.Op}
    (hAccept : op ≠ .accept)
    (hNone : ¬ Serving.HandlesRequest server op)
    (h : Server.step server op = .ok server') :
    KeepsSessions server server' := by
  have hBase := KeepsSessions.refl server
  cases op with
  | accept => exact absurd rfl hAccept
  | read thread buffer =>
      rcases Server.rtspTcpReadCb_cases h with
        ⟨_, rfl⟩ | ⟨_, j, own, _, hOwn, rfl⟩
      · exact hBase.clientLoopEnd _
      · have hRead :
            KeepsSessions server
              (server.setClient j
                { own with input := own.input ++ buffer }) :=
          hBase.setClient hOwn ⟨rfl, List.prefix_refl _⟩
        exact hRead.congr rfl
  | round thread j given =>
      simp only [Server.step] at h
      split at h
      · cases h
      · rename_i own hOwn
        have hStatus : own.status ≠ .rtspContent := by
          intro hContent
          apply hNone
          change (server.clients[j]?).any
            (fun client => client.status = .rtspContent) =
              true
          rw [hOwn]
          exact decide_eq_true hContent
        split at h
        · cases h
        · rename_i after next hRound
          cases h
          exact (handlerRound_keeps hOwn hStatus
            hRound).congr
              (Server.runNext_tunnels after thread j
                next).clients
  | drained thread j =>
      cases h
      exact (hBase.clientLoopEnd j).congr
        (Server.clientLoopEnd_tunnels server _ j).clients
  | disconnect thread =>
      cases h
      exact hBase.clientLoopEnd _

end Feng

------------------------------------------------------------
-- A Client Among Others
------------------------------------------------------------

namespace Feng

namespace Serving

/- What a step is for one of the clients. -/
def seenBy
    (i : Nat)
    (s : ServingState) : Op → Option Play.Op
| .server _ => none
| .request _ j env =>
    if j = i then
      ((s.clientAt j).bind (·.rtsp.pendingRequest)).map
        (fun req => .request req env)
    else
      none
| .write j address env =>
    if j = i then some (.write address env) else none
| .timeout j time =>
    if j = i then some (.timeout time) else none

/-
  A client that plays the same, and was sent all the responses
  of the one that is alone, in order.
-/
structure SamePlay (client q : Play.Client) : Prop where
  core : client.core = q.core
  responses :
    q.rtsp.responses.Sublist client.rtsp.responses

/- A client of the server, and the one that is alone. -/
structure PlaysAlone
    (i : Nat)
    (s : ServingState)
    (q : Play.Client) : Prop where
  there :
    ∀ client, s.clientAt i = some client → SamePlay client q
  ahead : s.clientAt i = none → q = Play.clientNew

/- Every connection has its player. -/
def Paired (s : ServingState) : Prop :=
  s.players.length = s.server.clients.length

variable {s s' : ServingState} {client client' : Play.Client}
variable {q : Play.Client} {i j : Nat} {op : Op}

theorem clientAt_eq_some :
    s.clientAt i = some client ↔
      ∃ rtsp player, s.server.clients[i]? = some rtsp ∧
        s.players[i]? = some player ∧
        player.client rtsp = client := by
  unfold ServingState.clientAt
  split
  · rename_i rtsp player hRtsp hPlayer
    simp [hRtsp, hPlayer]
  · rename_i hNone
    constructor
    · intro h
      cases h
    · rintro ⟨rtsp, player, hRtsp, hPlayer, _⟩
      exact absurd hPlayer (hNone rtsp player hRtsp)

theorem Paired.clientAt_eq_none
    (h : Paired s) :
    s.clientAt i = none ↔ s.server.clients.length ≤ i := by
  unfold ServingState.clientAt
  split
  · rename_i rtsp player hRtsp _
    have hLess := (List.getElem?_eq_some_iff.mp hRtsp).1
    simp only [reduceCtorEq, false_iff]
    omega
  · rename_i hNone
    simp only [true_iff]
    by_contra hLess
    rw [Nat.not_le] at hLess
    have hPlayers : i < s.players.length := by
      rw [h]
      exact hLess
    exact hNone _ _ (List.getElem?_eq_getElem hLess)
      (List.getElem?_eq_getElem hPlayers)

theorem setClientAt_clientAt_ne
    (hNe : j ≠ i) :
    (s.setClientAt j client).clientAt i = s.clientAt i := by
  unfold ServingState.clientAt ServingState.setClientAt
    ServerState.setClient
  simp only [List.getElem?_set_ne hNe]

theorem setClientAt_clientAt
    (hAt : s.clientAt i = some client) :
    (s.setClientAt i client').clientAt i = some client' := by
  rcases clientAt_eq_some.mp hAt with
    ⟨rtsp, player, hRtsp, hPlayer, _⟩
  have hClients := (List.getElem?_eq_some_iff.mp hRtsp).1
  have hPlayers := (List.getElem?_eq_some_iff.mp hPlayer).1
  exact clientAt_eq_some.mpr
    ⟨client'.rtsp, playerOf client',
      List.getElem?_set_self hClients,
      List.getElem?_set_self hPlayers, rfl⟩

theorem Paired.setClientAt
    (h : Paired s)
    (i : Nat)
    (client : Play.Client) :
    Paired (s.setClientAt i client) := by
  unfold Paired ServingState.setClientAt
    ServerState.setClient
  simp only [List.length_set]
  exact h

/- What a client was before its connection moved. -/
theorem clientAt_of_keeps
    {server : ServerState}
    (hKeeps : KeepsSessions s.server server)
    (hAt :
      ({ s with server := server } : ServingState).clientAt
        i = some client) :
    ∃ before, s.clientAt i = some before ∧
      client.core = before.core ∧
      before.rtsp.responses <+: client.rtsp.responses := by
  rcases clientAt_eq_some.mp hAt with
    ⟨rtsp, player, hRtsp, hPlayer, rfl⟩
  rcases hKeeps.sessions i rtsp hRtsp with
    ⟨old, hOld, hSame⟩
  refine ⟨player.client old,
    clientAt_eq_some.mpr ⟨old, player, hOld, hPlayer, rfl⟩,
    ?_, hSame.responses⟩
  unfold Play.Client.core Player.client
  rw [hSame.core]

theorem Paired.keeps
    {server : ServerState}
    (h : Paired s)
    (hKeeps : KeepsSessions s.server server) :
    Paired { s with server := server } := by
  unfold Paired
  rw [hKeeps.length]
  exact h

theorem PlaysAlone.keeps
    {server : ServerState}
    (hPaired : Paired s)
    (hKeeps : KeepsSessions s.server server)
    (h : PlaysAlone i s q) :
    PlaysAlone i { s with server := server } q where
  there := by
    intro client hAt
    rcases clientAt_of_keeps hKeeps hAt with
      ⟨before, hBefore, hCore, hResponses⟩
    have hSame := h.there before hBefore
    exact ⟨hCore.trans hSame.core,
      hSame.responses.trans hResponses.sublist⟩
  ahead := by
    intro hNone
    apply h.ahead
    rw [hPaired.clientAt_eq_none]
    have hBound :=
      (hPaired.keeps hKeeps).clientAt_eq_none.mp hNone
    rw [hKeeps.length] at hBound
    exact hBound

/- A connection that is let in comes with a new player. -/
theorem PlaysAlone.accepted
    {server : ServerState}
    (hPaired : Paired s)
    (hClients :
      server.clients = s.server.clients ++ [rtspClientNew])
    (h : PlaysAlone i s q) :
    PlaysAlone i
      { server := server
        players := s.players ++ [playerOf Play.clientNew] }
      q where
  there := by
    intro client hAt
    rcases clientAt_eq_some.mp hAt with
      ⟨rtsp, player, hRtsp, hPlayer, rfl⟩
    simp only [hClients] at hRtsp
    rcases getElem?_concat_cases hRtsp with
      hOld | ⟨hIndex, rfl⟩
    · have hLess := (List.getElem?_eq_some_iff.mp hOld).1
      rw [← hPaired] at hLess
      rw [List.getElem?_append_left hLess] at hPlayer
      exact h.there _
        (clientAt_eq_some.mpr
          ⟨rtsp, player, hOld, hPlayer, rfl⟩)
    · have hNone : s.clientAt i = none :=
        hPaired.clientAt_eq_none.mpr (Nat.le_of_eq hIndex.symm)
      rcases getElem?_concat_cases hPlayer with
        hOld | ⟨_, rfl⟩
      · have hLess := (List.getElem?_eq_some_iff.mp hOld).1
        rw [hPaired, hIndex] at hLess
        exact absurd hLess (Nat.lt_irrefl _)
      · rw [h.ahead hNone]
        exact ⟨rfl, List.Sublist.refl _⟩
  ahead := by
    intro hNone
    have hPaired' :
        Paired
          { server := server
            players :=
              s.players ++ [playerOf Play.clientNew] } := by
      unfold Paired
      simp only [hClients, List.length_append,
        List.length_singleton]
      rw [hPaired]
    have hBound := hPaired'.clientAt_eq_none.mp hNone
    simp only [hClients, List.length_append,
      List.length_singleton] at hBound
    exact h.ahead
      (hPaired.clientAt_eq_none.mpr (Nat.le_of_succ_le hBound))

/- The other clients are not touched by what a client does. -/
theorem PlaysAlone.other
    (hNe : j ≠ i)
    (h : PlaysAlone i s q) :
    PlaysAlone i (s.setClientAt j client) q where
  there := by
    rw [setClientAt_clientAt_ne hNe]
    exact h.there
  ahead := by
    rw [setClientAt_clientAt_ne hNe]
    exact h.ahead

theorem PlaysAlone.own
    (hAt : s.clientAt i = some client)
    (hSame : SamePlay client' q) :
    PlaysAlone i (s.setClientAt i client') q where
  there := by
    intro other hOther
    rw [setClientAt_clientAt hAt] at hOther
    cases hOther
    exact hSame
  ahead := by
    rw [setClientAt_clientAt hAt]
    intro hNone
    cases hNone

/- What a client does, its double does alone. -/
theorem SamePlay.step
    (h : SamePlay client q)
    (op : Play.Op)
    (hStep : Play.step client op = .ok client') :
    ∃ q', Play.step q op = .ok q' ∧ SamePlay client' q' := by
  rcases Play.step_sameCore h.core hStep with
    ⟨q', responses, hAlone, hCore, hClient, hOther⟩
  refine ⟨q', hAlone, hCore, ?_⟩
  rw [hClient, hOther]
  exact h.responses.append (List.Sublist.refl _)

theorem handleContent_step
    {env : Play.Env}
    (h : SamePlay client q)
    (hContent : handleContent env client = .ok client') :
    ∃ req q', client.rtsp.pendingRequest = some req ∧
      Play.step q (.request req env) = .ok q' ∧
      SamePlay client' q' := by
  unfold handleContent at hContent
  split at hContent
  · cases hContent
  · rename_i req hPending
    split at hContent
    · cases hContent
    · split at hContent
      · cases hContent
      · rename_i t hHandled
        cases hContent
        have hDispatched :
            SamePlay
              { client with
                rtsp :=
                  { client.rtsp with
                    dispatched :=
                      client.rtsp.dispatched ++
                        [.request req] } } q :=
          ⟨h.core, h.responses⟩
        rcases hDispatched.step (.request req env) hHandled
          with ⟨q', hStep, hSame⟩
        exact ⟨req, q', hPending, hStep,
          hSame.core, hSame.responses⟩

theorem clientStep_cases
    {f : Play.Client → Except Fault Play.Client}
    (h : clientStep s i f = .ok (s', client')) :
    ∃ client, s.clientAt i = some client ∧
      f client = .ok client' ∧
      s' = s.setClientAt i client' := by
  unfold clientStep at h
  split at h
  · cases h
  · rename_i client hAt
    split at h
    · cases h
    · rename_i after hAfter
      cases h
      exact ⟨client, hAt, hAfter, rfl⟩

end Serving

end Feng

------------------------------------------------------------
-- Every Client Plays Alone
------------------------------------------------------------

namespace Feng

namespace Serving

variable {s s' : ServingState} {client client' : Play.Client}
variable {q : Play.Client} {i j : Nat} {op : Op}

/-
  A step is none of the client that is alone, or one that it
  takes as well.
-/
def Follows
    (i : Nat)
    (s : ServingState)
    (op : Op)
    (s' : ServingState) : Prop :=
  ∀ q, PlaysAlone i s q →
    (seenBy i s op = none → PlaysAlone i s' q) ∧
      ∀ own, seenBy i s op = some own →
        ∃ q', Play.system.step q own q' ∧
          PlaysAlone i s' q'

/- What a client does is followed, whichever client it is. -/
theorem follows_of_moved
    (own : Play.Op)
    (hAt : s.clientAt j = some client)
    (hOwn : j = i → seenBy i s op = some own)
    (hOther : j ≠ i → seenBy i s op = none)
    (hEnabled : Play.enabled client own)
    (hMoves :
      ∀ q, SamePlay client q →
        ∃ q', Play.step q own = .ok q' ∧
          SamePlay client' q') :
    Follows i s op (s.setClientAt j client') := by
  intro q hAlone
  by_cases hEq : j = i
  · subst hEq
    refine ⟨?_, ?_⟩
    · intro hNone
      rw [hOwn rfl] at hNone
      cases hNone
    · intro other hSee
      rw [hOwn rfl] at hSee
      cases hSee
      have hSame := hAlone.there client hAt
      rcases hMoves q hSame with ⟨q', hStep, hSame'⟩
      exact ⟨q',
        ⟨Play.enabled_sameCore hSame.core hEnabled, hStep⟩,
        .own hAt hSame'⟩
  · refine ⟨fun _ => hAlone.other hEq, ?_⟩
    intro other hSee
    rw [hOther hEq] at hSee
    cases hSee

theorem playersAfter_of_ne
    {op : Server.Op}
    {players : List Player}
    (h : op ≠ .accept) :
    playersAfter players op = players := by
  cases op with
  | accept => exact absurd rfl h
  | read thread buffer => rfl
  | round thread j given => rfl
  | drained thread j => rfl
  | disconnect thread => rfl

theorem server_follows
    {op : Server.Op}
    (hPaired : Paired s)
    (hEnabled : enabled s (.server op))
    (h : step s (.server op) = .ok s') :
    Paired s' ∧ Follows i s (.server op) s' := by
  simp only [step] at h
  split at h
  · cases h
  · rename_i server hServer
    cases h
    by_cases hAccept : op = .accept
    · subst hAccept
      cases hServer
      refine ⟨?_, fun q hAlone => ⟨?_, ?_⟩⟩
      · unfold Paired playersAfter
        simp only [List.length_append, List.length_singleton]
        rw [hPaired]
      · intro _
        exact hAlone.accepted hPaired rfl
      · intro own hSee
        cases hSee
    · have hKeeps := server_keeps hAccept hEnabled.2 hServer
      rw [playersAfter_of_ne hAccept]
      refine ⟨hPaired.keeps hKeeps, fun q hAlone => ⟨?_, ?_⟩⟩
      · intro _
        exact hAlone.keeps hPaired hKeeps
      · intro own hSee
        cases hSee

theorem request_follows
    {thread : Nat}
    {env : Play.Env}
    (hPaired : Paired s)
    (h : step s (.request thread j env) = .ok s') :
    Paired s' ∧ Follows i s (.request thread j env) s' := by
  simp only [step] at h
  split at h
  · cases h
  · rename_i after client' hStep
    cases h
    rcases clientStep_cases hStep with
      ⟨client, hAt, hContent, rfl⟩
    refine ⟨hPaired.setClientAt j client', ?_⟩
    rcases handleContent_step ⟨rfl, List.Sublist.refl _⟩
        hContent with ⟨req, _, hPending, _⟩
    apply follows_of_moved (.request req env) hAt
    · intro hEq
      simp only [seenBy, if_pos hEq, hAt, Option.bind_some,
        hPending, Option.map_some]
    · intro hNe
      simp only [seenBy, if_neg hNe]
    · trivial
    · intro q hSame
      rcases handleContent_step hSame hContent with
        ⟨req', q', hPending', hStep', hSame'⟩
      rw [hPending] at hPending'
      cases hPending'
      exact ⟨q', hStep', hSame'⟩

theorem playFault_step
    {result : Except Play.Fault Play.Client}
    (h : playFault result = .ok client') :
    result = .ok client' := by
  unfold playFault at h
  split at h
  · cases h
  · cases h
    rfl

theorem write_follows
    {address : Nat}
    {env : Play.WriterEnv}
    (hPaired : Paired s)
    (hEnabled : enabled s (.write j address env))
    (h : step s (.write j address env) = .ok s') :
    Paired s' ∧ Follows i s (.write j address env) s' := by
  simp only [step] at h
  split at h
  · cases h
  · rename_i after client' hStep
    cases h
    rcases clientStep_cases hStep with
      ⟨client, hAt, hWrite, rfl⟩
    refine ⟨hPaired.setClientAt j client', ?_⟩
    apply follows_of_moved (.write address env) hAt
    · intro hEq
      simp only [seenBy, if_pos hEq]
    · intro hNe
      simp only [seenBy, if_neg hNe]
    · exact hEnabled.2.2 client hAt
    · intro q hSame
      exact hSame.step (.write address env)
        (playFault_step hWrite)

theorem timeout_follows
    {time : Nat}
    (hPaired : Paired s)
    (hEnabled : enabled s (.timeout j time))
    (h : step s (.timeout j time) = .ok s') :
    Paired s' ∧ Follows i s (.timeout j time) s' := by
  simp only [step] at h
  split at h
  · cases h
  · rename_i after client' hStep
    rcases clientStep_cases hStep with
      ⟨client, hAt, hTimeout, rfl⟩
    have hPaired' := hPaired.setClientAt j client'
    have hFollows :
        Follows i s (.timeout j time)
          (s.setClientAt j client') := by
      apply follows_of_moved (.timeout time) hAt
      · intro hEq
        simp only [seenBy, if_pos hEq]
      · intro hNe
        simp only [seenBy, if_neg hNe]
      · exact hEnabled.2.2 client hAt
      · intro q hSame
        exact hSame.step (.timeout time)
          (playFault_step hTimeout)
    split at h
    · cases h
      exact ⟨hPaired', hFollows⟩
    · cases h
      have hKeeps :=
        (KeepsSessions.refl
          (s.setClientAt j client').server).clientLoopEnd j
      refine ⟨hPaired'.keeps hKeeps, ?_⟩
      intro q hAlone
      refine ⟨?_, ?_⟩
      · intro hNone
        exact ((hFollows q hAlone).1 hNone).keeps hPaired'
          hKeeps
      · intro own hSee
        rcases (hFollows q hAlone).2 own hSee with
          ⟨q', hStep', hAlone'⟩
        exact ⟨q', hStep', hAlone'.keeps hPaired' hKeeps⟩

theorem step_follows
    (hPaired : Paired s)
    (hStep : (system initialised).step s op s') :
    Paired s' ∧ Follows i s op s' := by
  rcases hStep with ⟨hEnabled, h⟩
  cases op with
  | server op => exact server_follows hPaired hEnabled h
  | request thread j env => exact request_follows hPaired h
  | write j address env =>
      exact write_follows hPaired hEnabled h
  | timeout j time =>
      exact timeout_follows hPaired hEnabled h

/- The server does for a client what is done for it alone. -/
theorem alone_simulation
    (initialised : Bool)
    (i : Nat) :
    System.Simulation (system initialised) Play.system
      (seenBy i) Paired (PlaysAlone i) where
  init := by
    rintro s rfl
    refine ⟨Play.clientNew, rfl, ?_, fun _ => rfl⟩
    intro client hAt
    cases hAt
  silent := by
    intro s op s' q hPaired hStep hSee hAlone
    exact ((step_follows hPaired hStep).2 q hAlone).1 hSee
  seen := by
    intro s op s' q own hPaired hStep hSee hAlone
    exact ((step_follows hPaired hStep).2 q hAlone).2 own
      hSee

theorem always_paired
    {initialised : Bool}
    {trace : List (ServingState × Op)}
    (hRun : (system initialised).Run trace s) :
    System.Always Paired trace s := by
  apply hRun.guarded_always (C := fun _ _ => True)
  · rintro s rfl
    rfl
  · intro s op s' hPaired _ hStep
    exact (step_follows (i := 0) hPaired hStep).1
  · exact fun _ _ => trivial

/- The run of a client alone that a run of the server holds. -/
theorem exists_alone
    {initialised : Bool}
    {trace : List (ServingState × Op)}
    (hRun : (system initialised).Run trace s)
    (i : Nat) :
    ∃ trace' q,
      Play.system.Run trace' q ∧ PlaysAlone i s q ∧
        trace'.map Prod.snd =
          System.observed (seenBy i) trace :=
  (alone_simulation initialised i).run (always_paired hRun)
    hRun

/-
  What a client does in a run of the server is a run of this
  client alone, with the same requests, packets and timeouts,
  that ends with the same session and the same playback, and
  all of whose responses the client was sent, in order.
-/
theorem each_client_alone
    {initialised : Bool}
    {trace : List (ServingState × Op)}
    (hRun : (system initialised).Run trace s)
    (i : Nat) :
    ∃ trace' q,
      Play.system.Run trace' q ∧
        trace'.map Prod.snd =
          System.observed (seenBy i) trace ∧
        ∀ client, s.clientAt i = some client →
          client.core = q.core ∧
            q.rtsp.responses.Sublist
              client.rtsp.responses := by
  rcases exists_alone hRun i with
    ⟨trace', q, hAlone, hPlays, hLabels⟩
  refine ⟨trace', q, hAlone, hLabels, ?_⟩
  intro client hAt
  have hSame := hPlays.there client hAt
  exact ⟨hSame.core, hSame.responses⟩

/- A DESCRIBE, while another client comes and goes. -/
def aloneOps : List Op :=
  [.server .accept, .server .accept,
    .server (.read 0
      (ascii
        "DESCRIBE rtsp://h/v RTSP/1.0\r\nCSeq: 7\r\n\r\n")),
    .server (.round 0 0 Server.sampleRound),
    .server (.disconnect 1),
    .server (.round 0 0 Server.sampleRound),
    .request 0 0 (Play.sampleEnv 0)]

theorem each_client_alone_sample :
    (System.observed (seenBy 0)
        (System.replayTrace step (servingNew true)
          aloneOps)).length = 1 ∧
      ∃ trace' q,
        Play.system.Run trace' q ∧
          trace'.map Prod.snd =
            System.observed (seenBy 0)
              (System.replayTrace step (servingNew true)
                aloneOps) ∧
          ∀ client,
            (System.replayEnd step (servingNew true)
                aloneOps).clientAt 0 = some client →
              client.core = q.core ∧
                q.rtsp.responses.Sublist
                  client.rtsp.responses :=
  ⟨by decide +kernel,
    each_client_alone
      (System.replay_run (by decide +kernel)
        (by decide +kernel)) 0⟩

end Serving

end Feng

------------------------------------------------------------
-- The Sessions Of The Server
------------------------------------------------------------

namespace Feng

namespace Serving

variable {s : ServingState} {client : Play.Client}
variable {q : Play.Client} {i : Nat}

/- The invariant is not about the connection. -/
theorem inv_of_core
    (hCore : client.core = q.core)
    (h : Play.Inv q) :
    Play.Inv client := by
  have hInv : Play.Inv q.core :=
    ⟨⟨h.opened, h.ranged, h.armed, h.head⟩, h.live,
      h.absent⟩
  rw [← hCore] at hInv
  exact ⟨⟨hInv.opened, hInv.ranged, hInv.armed, hInv.head⟩,
    hInv.live, hInv.absent⟩

theorem serving_inv
    {initialised : Bool}
    {trace : List (ServingState × Op)}
    (hRun : (system initialised).Run trace s)
    (hAt : s.clientAt i = some client) :
    Play.Inv client := by
  rcases exists_alone hRun i with
    ⟨trace', q, hAlone, hPlays, _⟩
  exact inv_of_core (hPlays.there client hAt).core
    (Play.run_inv hAlone)

theorem clientStep_fault
    {f : Play.Client → Except Fault Play.Client}
    {fault : Fault}
    (h : clientStep s i f = .error fault) :
    fault = .handler .noClient ∨
      ∃ client, s.clientAt i = some client ∧
        f client = .error fault := by
  unfold clientStep at h
  split at h
  · cases h
    exact .inl rfl
  · rename_i client hAt
    split at h
    · rename_i fault' hFault
      cases h
      exact .inr ⟨client, hAt, hFault⟩
    · cases h

theorem handleContent_fault
    {env : Play.Env}
    {fault : Play.Fault}
    (hInv : Play.Inv client)
    (h : handleContent env client = .error (.play fault)) :
    ¬ fault.IsMissing := by
  unfold handleContent at h
  split at h
  · cases h
  · rename_i req _
    split at h
    · cases h
    · split at h
      · rename_i hFault
        cases h
        have hDispatched :
            Play.Inv
              { client with
                rtsp :=
                  { client.rtsp with
                    dispatched :=
                      client.rtsp.dispatched ++
                        [.request req] } } :=
          inv_of_core (q := client) rfl hInv
        have hStep :
            Play.step _ (.request req env) = .error fault :=
          hFault
        exact hDispatched.step_fault hStep
      · cases h

theorem playFault_fault
    {result : Except Play.Fault Play.Client}
    {fault : Play.Fault}
    (h : playFault result = .error (.play fault)) :
    result = .error fault := by
  unfold playFault at h
  split at h
  · cases h
    rfl
  · cases h

/-
  In every state the server reaches, each session has what a
  session has that is alone, and no step uses a resource or a
  range that is missing or freed.
-/
theorem sessions_invariant
    {initialised : Bool}
    {trace : List (ServingState × Op)}
    (hRun : (system initialised).Run trace s) :
    (∀ i client, s.clientAt i = some client →
      Play.SessionInvariant client) ∧
    ∀ op fault, enabled s op →
      step s op = .error (.play fault) →
        ¬ fault.IsMissing := by
  refine ⟨?_, ?_⟩
  · intro i client hAt
    exact (serving_inv hRun hAt).toSessionInvariant
  · intro op fault _ hFault
    cases op with
    | server op =>
        simp only [step] at hFault
        split at hFault
        · cases hFault
        · cases hFault
    | request thread i env =>
        simp only [step] at hFault
        split at hFault
        · rename_i hStep
          cases hFault
          rcases clientStep_fault hStep with
            hNone | ⟨client, hAt, hContent⟩
          · cases hNone
          · exact handleContent_fault (serving_inv hRun hAt)
              hContent
        · cases hFault
    | write i address env =>
        simp only [step] at hFault
        split at hFault
        · rename_i hStep
          cases hFault
          rcases clientStep_fault hStep with
            hNone | ⟨client, hAt, hWrite⟩
          · cases hNone
          · have hOwn :
                Play.step client (.write address env) =
                  .error fault :=
              playFault_fault hWrite
            exact (serving_inv hRun hAt).step_fault hOwn
        · cases hFault
    | timeout i time =>
        simp only [step] at hFault
        split at hFault
        · rename_i hStep
          cases hFault
          rcases clientStep_fault hStep with
            hNone | ⟨client, hAt, hTimeout⟩
          · cases hNone
          · have hOwn :
                Play.step client (.timeout time) =
                  .error fault :=
              playFault_fault hTimeout
            exact (serving_inv hRun hAt).step_fault hOwn
        · split at hFault
          · cases hFault
          · cases hFault

theorem sessions_invariant_sample :
    ∃ client,
      (System.replayEnd step (servingNew true)
          aloneOps).clientAt 0 = some client ∧
        Play.SessionInvariant client := by
  have hSome :
      ((System.replayEnd step (servingNew true)
        aloneOps).clientAt 0).isSome = true := by
    decide +kernel
  rcases Option.isSome_iff_exists.mp hSome with
    ⟨client, hAt⟩
  exact ⟨client, hAt,
    (sessions_invariant
      (System.replay_run (by decide +kernel)
        (by decide +kernel))).1 0 client hAt⟩

end Serving

end Feng
