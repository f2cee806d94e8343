import Feng.Rtsp.Links
import Feng.Rtsp.Pending

/-
  How the two connections of a tunnel are tied together: what
  each step of the server does to the pairs, to the clients
  that belong to them and to the table of cookies.

  Key definitions include:
    * `httpTurn`
    * `RoundMoves`
    * `ServerState.loopFrees`
    * `Server.endsLoop`
    * `Server.StepMoves`
    * `Wired`

  Key theorems include:
    * `handlerRound_moves`
    * `ServerState.clientLoopEnd_clients`
    * `Server.step_moves`
    * `Wired.always`
-/

------------------------------------------------------------
-- What A Round Does To The Tunnels
------------------------------------------------------------

namespace Feng

/- What the headers of an HTTP request come to. -/
inductive HttpTurn where
| bad
| more
| post (cookie : Option (List UInt8))
| get (cookie : Option (List UInt8))
deriving DecidableEq, Repr

/-
  What a round makes of the headers of an HTTP request, before
  it looks for a tunnel. Any method but POST is taken for GET.
-/
def httpTurn
    (mem : Memory)
    (rtsp : RTSPClient) : Option HttpTurn :=
  match rtsp.pendingRequest with
  | none => none
  | some req =>
      (ragelReadHttpHeaders
          (req.headers.getD rfc822HeadersNew) rtsp.input
          mem.behind mem.parsedHeaders).map
        (fun result =>
          let cookie :=
            rfc822HeadersLookup (some result.2.1)
              .xSessioncookie
          if result.1 = -1 then .bad
          else if result.1 = 0 then .more
          else if req.methodId = HTTPMethod.post then
            .post cookie
          else .get cookie)

/- The GET connection of a tunnel waits for its POST. -/
def ServerState.Ready
    (server : ServerState)
    (k : Nat) : Prop :=
  (server.pairs[k]?).any (fun pair =>
    (server.clients[pair.httpClient]?).any (fun client =>
      client.status = .httpIdle && client.input = []))

instance decidableReady
    (server : ServerState)
    (k : Nat) :
    Decidable (server.Ready k) :=
  inferInstanceAs
    (Decidable ((server.pairs[k]?).any (fun pair =>
      (server.clients[pair.httpClient]?).any (fun client =>
        client.status = .httpIdle && client.input = [])) =
          true))

/- No tunnel is looked up for a POST, or opened for a GET. -/
def ServerState.TurnsAway (server : ServerState) :
    HttpTurn → Prop
| .bad => True
| .more => True
| .post cookie => cookie = none
| .get cookie => ∀ c ∈ cookie, server.lookupPair c ≠ none

/- The states of an HTTP connection. -/
def OfHttp (status : RFC822ParserState) : Prop :=
  status = .httpHeaders ∨ status = .httpContent ∨
    status = .httpIdle

/- A client is answered that its request is a bad one. -/
def Refused (rtsp rtsp' : RTSPClient) : Prop :=
  ∃ response : RFC822Response,
    response.status = 400 ∧
      rtsp'.responses = rtsp.responses ++ [response]

/-
  What a round of a client does to the server: it is about
  the client itself, refuses or accepts a POST, opens a
  tunnel for a GET, or hands on what came through a tunnel.
-/
inductive RoundMoves
    (given : RoundInput)
    (server : ServerState)
    (i : Nat)
    (rtsp : RTSPClient) : ServerState → Prop where
| own {client : RTSPClient} :
    ¬ OfHttp rtsp.status → SameLink rtsp client →
      RoundMoves given server i rtsp
        (server.setClient i client)
| headers {client : RTSPClient} (turn : HttpTurn) :
    rtsp.status = .httpHeaders →
      httpTurn given.mem rtsp = some turn →
      server.TurnsAway turn → SameLink rtsp client →
      (turn = .more → client.responses = rtsp.responses) →
      (turn ≠ .more → Refused rtsp client) →
      RoundMoves given server i rtsp
        (server.setClient i client)
| refused {client : RTSPClient} (cookie : List UInt8) :
    rtsp.status = .httpHeaders →
      httpTurn given.mem rtsp = some (.post (some cookie)) →
      (∀ k ∈ server.lookupPair cookie, ¬ server.Ready k) →
      client.pair = server.lookupPair cookie →
      client.connected = rtsp.connected →
      client.freed = rtsp.freed → Refused rtsp client →
      RoundMoves given server i rtsp
        (server.setClient i client)
| created {client : RTSPClient} (cookie : List UInt8) :
    rtsp.status = .httpHeaders →
      httpTurn given.mem rtsp = some (.get (some cookie)) →
      server.lookupPair cookie = none →
      client.pair = some server.pairs.length →
      client.status = .httpIdle →
      client.connected = rtsp.connected →
      client.freed = rtsp.freed →
      RoundMoves given server i rtsp
        { server.setClient i client with
          pairs :=
            server.pairs ++
              [{ rtspClient := none
                 httpClient := i }]
          httpTunnelPairs :=
            server.httpTunnelPairs.map
              (· ++ [(cookie, server.pairs.length)]) }
| accepted {client http http' : RTSPClient} {k : Nat}
    {pair : HTTPTunnelPair} (cookie : List UInt8) :
    rtsp.status = .httpHeaders →
      httpTurn given.mem rtsp = some (.post (some cookie)) →
      server.lookupPair cookie = some k →
      server.pairs[k]? = some pair →
      server.clients[pair.httpClient]? = some http →
      http.status = .httpIdle → http.input = [] →
      i ≠ pair.httpClient → client.pair = some k →
      client.connected = rtsp.connected →
      client.freed = rtsp.freed →
      client.responses = rtsp.responses →
      SameLink http http' → http'.status = .httpContent →
      RoundMoves given server i rtsp
        { (server.setClient i client).setClient
            pair.httpClient http' with
          pairs :=
            server.pairs.set k
              { pair with rtspClient := some i } }
| content {other own : RTSPClient} {j k : Nat}
    {pair : HTTPTunnelPair} :
    rtsp.status = .httpContent → rtsp.pair = some k →
      server.pairs[k]? = some pair →
      pair.rtspClient = some j →
      server.clients[j]? = some other →
      (server.setClient j
        { other with
          input := other.input ++ given.decoded }).clients[i]? =
        some own →
      RoundMoves given server i rtsp
        ((server.setClient j
          { other with
            input := other.input ++ given.decoded }).setClient i
              { own with input := [] })
| idle :
    rtsp.status = .httpIdle →
      RoundMoves given server i rtsp server

variable {given : RoundInput}
variable {server server' : ServerState} {i : Nat}
variable {rtsp rtsp' : RTSPClient} {req : RFC822Request}
variable {next : Next}

theorem setClient_get
    (server : ServerState)
    (i j : Nat)
    (client : RTSPClient) :
    (server.setClient i client).clients[j]? =
      if i = j then
        (server.clients[j]?).map (fun _ => client)
      else
        server.clients[j]? := by
  simp only [ServerState.setClient, List.getElem?_set]
  by_cases hEq : i = j
  · subst hEq
    by_cases hLess : i < server.clients.length
    · simp [hLess]
    · simp [hLess]
  · simp [hEq]

/-
  A GET with a cookie that is not in the table opens a tunnel;
  any other one is refused.
-/
theorem httpTunnelCreatePair_cases
    {ret : Bool}
    (h :
      httpTunnelCreatePair server i rtsp req =
        (server', ret)) :
    (ret = false ∧
        server.TurnsAway
          (.get
            (rfc822HeadersLookup req.headers
              .xSessioncookie)) ∧
        server' =
          server.setClient i (httpBadRequest rtsp req)) ∨
      (ret = true ∧
        ∃ cookie client,
          rfc822HeadersLookup req.headers .xSessioncookie =
            some cookie ∧
          server.lookupPair cookie = none ∧
          client.pair = some server.pairs.length ∧
          client.connected = rtsp.connected ∧
          client.freed = rtsp.freed ∧
          server' =
            { server.setClient i client with
              pairs :=
                server.pairs ++
                  [{ rtspClient := none
                     httpClient := i }]
              httpTunnelPairs :=
                server.httpTunnelPairs.map
                  (· ++ [(cookie, server.pairs.length)]) }) := by
  unfold httpTunnelCreatePair at h
  split at h
  · rename_i hNone
    cases h
    refine .inl ⟨rfl, ?_, rfl⟩
    rw [hNone]
    intro cookie hCookie
    cases hCookie
  · rename_i cookie hCookie
    split at h
    · rename_i hFound
      cases h
      refine .inl ⟨rfl, ?_, rfl⟩
      rw [hCookie]
      intro other hOther
      cases hOther
      rw [hFound]
      exact Option.some_ne_none _
    · rename_i hNone
      cases h
      exact .inr ⟨rfl, cookie,
        rfc822ResponseSend
          { rtsp with pair := some server.pairs.length }
          (httpTunnelResponse req),
        hCookie, hNone, rfl, rfl, rfl, rfl⟩

theorem httpHandlePost_moves
    (hOwn : server.clients[i]? = some rtsp)
    (hStatus : rtsp.status = .httpHeaders)
    (hRead : SameLink rtsp rtsp')
    (hTurn :
      httpTurn given.mem rtsp =
        some (.post
          (rfc822HeadersLookup req.headers
            .xSessioncookie)))
    (hReadStatus : rtsp'.status = .httpHeaders)
    (hResponses : rtsp'.responses = rtsp.responses)
    (h :
      httpHandlePost server i rtsp' req =
        .ok (server', next)) :
    RoundMoves given server i rtsp server' := by
  unfold httpHandlePost at h
  split at h
  · rename_i hHeader
    rw [hHeader] at hTurn
    cases h
    apply RoundMoves.headers (.post none) hStatus hTurn rfl
    · exact hRead.send _
    · intro hMore
      cases hMore
    · intro _
      exact ⟨_, rfl, by rw [← hResponses]; rfl⟩
  · rename_i cookie hHeader
    rw [hHeader] at hTurn
    have hRefused
        (hNot :
          ∀ k ∈ server.lookupPair cookie,
            ¬ server.Ready k) :
        RoundMoves given server i rtsp
          (server.setClient i
            (httpBadRequest
              { rtsp' with
                pair := server.lookupPair cookie } req)) :=
      .refused cookie hStatus hTurn hNot rfl
        hRead.connected hRead.freed
        ⟨_, rfl, by rw [← hResponses]; rfl⟩
    simp only at h
    split at h
    · rename_i hFound
      cases h
      apply hRefused
      intro k hk
      rw [hFound] at hk
      cases hk
    · rename_i k hFound
      split at h
      · cases h
      · rename_i pair hPair
        split at h
        · cases h
        · rename_i http hHttp
          rw [setClient_get] at hHttp
          have hOther (hReady : http.status = .httpIdle) :
              i ≠ pair.httpClient := by
            intro hSame
            rw [if_pos hSame] at hHttp
            rw [← hSame, hOwn] at hHttp
            cases hHttp
            simp [hReadStatus] at hReady
          have hReady (hReady : server.Ready k) :
              http.status = .httpIdle ∧ http.input = [] := by
            unfold ServerState.Ready at hReady
            by_cases hSame : i = pair.httpClient
            · rw [hPair] at hReady
              simp [← hSame, hOwn, hStatus] at hReady
            · rw [if_neg hSame] at hHttp
              simpa [hPair, hHttp] using hReady
          split at h
          · rename_i hBusy
            cases h
            apply hRefused
            intro k' hk' hIs
            rw [hFound] at hk'
            cases hk'
            exact hBusy (hReady hIs).1
          · rename_i hIdle
            split at h
            · rename_i hInput
              cases h
              apply hRefused
              intro k' hk' hIs
              rw [hFound] at hk'
              cases hk'
              exact hInput (hReady hIs).2
            · rename_i hInput
              have hStatusIdle := not_not.mp hIdle
              have hDistinct := hOther hStatusIdle
              rw [if_neg hDistinct] at hHttp
              cases h
              exact .accepted cookie hStatus hTurn hFound
                hPair hHttp hStatusIdle (not_not.mp hInput)
                hDistinct hFound hRead.connected hRead.freed
                hResponses ⟨rfl, rfl, rfl⟩ rfl

theorem httpHandleHeaders_moves
    (hOwn : server.clients[i]? = some rtsp)
    (hStatus : rtsp.status = .httpHeaders)
    (h :
      httpHandleHeaders given.mem server i rtsp =
        .ok (server', next)) :
    RoundMoves given server i rtsp server' := by
  unfold httpHandleHeaders at h
  split at h
  · cases h
  · rename_i req hPending
    split at h
    · cases h
    · rename_i headersRes headers parsedHeaders hScan
      simp only at h
      split at h
      · rename_i hBad
        have hTurn : httpTurn given.mem rtsp = some .bad := by
          simp [httpTurn, hPending, hScan, hBad]
        cases h
        apply RoundMoves.headers .bad hStatus hTurn trivial
        · exact ⟨rfl, rfl, rfl⟩
        · intro hMore
          cases hMore
        · intro _
          exact ⟨_, rfl, rfl⟩
      · rename_i hGood
        split at h
        · rename_i hZero
          have hTurn : httpTurn given.mem rtsp = some .more := by
            simp [httpTurn, hPending, hScan, hZero]
          cases h
          apply RoundMoves.headers .more hStatus hTurn trivial
          · exact ⟨rfl, rfl, rfl⟩
          · intro _
            rfl
          · intro hNot
            exact absurd rfl hNot
        · rename_i hMore
          split at h
          · rename_i hPost
            have hTurn :
                httpTurn given.mem rtsp =
                  some (.post
                    (rfc822HeadersLookup (some headers)
                      .xSessioncookie)) := by
              simp [httpTurn, hPending, hScan, hGood, hMore,
                hPost]
            have hLink :
                SameLink rtsp
                  { rtsp with
                    pendingRequest :=
                      some { req with headers := some headers }
                    input :=
                      gByteArrayRemoveRange rtsp.input
                        parsedHeaders } :=
              ⟨rfl, rfl, rfl⟩
            exact httpHandlePost_moves hOwn hStatus hLink
              hTurn hStatus rfl h
          · rename_i hGet
            have hTurn :
                httpTurn given.mem rtsp =
                  some (.get
                    (rfc822HeadersLookup (some headers)
                      .xSessioncookie)) := by
              simp [httpTurn, hPending, hScan, hGood, hMore,
                hGet]
            split at h
            · rename_i hCreate
              rcases httpTunnelCreatePair_cases hCreate with
                ⟨_, hAway, rfl⟩ | ⟨hFalse, _⟩
              · cases h
                apply RoundMoves.headers _ hStatus hTurn hAway
                · exact ⟨rfl, rfl, rfl⟩
                · intro hIs
                  cases hIs
                · intro _
                  exact ⟨_, rfl, rfl⟩
              · cases hFalse
            · rename_i hCreate
              rcases httpTunnelCreatePair_cases hCreate with
                ⟨hTrue, _⟩ |
                ⟨_, cookie, client, hCookie, hNone, hPair,
                  hConnected, hFreed, rfl⟩
              · cases hTrue
              · simp only [setClient_get, if_true, hOwn,
                  Option.map_some] at h
                cases h
                simp only at hCookie
                rw [hCookie] at hTurn
                have hCreated :
                    RoundMoves given server i rtsp
                      { server.setClient i
                          { client with
                            status := .httpIdle } with
                        pairs :=
                          server.pairs ++
                            [{ rtspClient := none
                               httpClient := i }]
                        httpTunnelPairs :=
                          server.httpTunnelPairs.map
                            (· ++ [(cookie,
                              server.pairs.length)]) } :=
                  .created cookie hStatus hTurn hNone hPair
                    rfl hConnected hFreed
                simpa [ServerState.setClient] using hCreated

theorem httpHandleContent_moves
    (hStatus : rtsp.status = .httpContent)
    (h :
      httpHandleContent given.decoded server i rtsp =
        .ok (server', next)) :
    RoundMoves given server i rtsp server' := by
  unfold httpHandleContent at h
  split at h
  · cases h
  · rename_i pair hBind
    rcases Option.bind_eq_some_iff.mp hBind with
      ⟨k, hPair, hAt⟩
    split at h
    · cases h
    · rename_i j hRtsp
      split at h
      · cases h
      · rename_i other hOther
        simp only at h
        split at h
        · cases h
        · rename_i own hOwn
          cases h
          exact .content hStatus hPair hAt hRtsp hOther hOwn

/- Every round is one of these. -/
theorem handlerRound_moves
    (hOwn : server.clients[i]? = some rtsp)
    (h :
      handlerRound given server i rtsp =
        .ok (server', next)) :
    RoundMoves given server i rtsp server' := by
  have hClient
      {result : RoundResult}
      (hStatus : ¬ OfHttp rtsp.status)
      (hResult :
        clientRound server i result = .ok (server', next))
      (hLink : ∀ rtsp' ret,
        result = .ok (rtsp', ret) → SameLink rtsp rtsp') :
      RoundMoves given server i rtsp server' := by
    cases result with
    | error fault => cases hResult
    | ok result =>
        rcases result with ⟨rtsp', ret⟩
        cases hResult
        exact .own hStatus (hLink rtsp' ret rfl)
  cases hStatus : rtsp.status with
  | begin_ =>
      simp only [handlerRound, hStatus] at h
      exact hClient (by simp [hStatus, OfHttp]) h
        (fun _ _ => rtspHandleNew_link)
  | interleaved =>
      simp only [handlerRound, hStatus] at h
      exact hClient (by simp [hStatus, OfHttp]) h
        (fun _ _ => rtspHandleInterleaved_link)
  | rtspHeaders =>
      simp only [handlerRound, hStatus] at h
      exact hClient (by simp [hStatus, OfHttp]) h
        (fun _ _ => rtspHandleHeaders_link)
  | rtspContent =>
      simp only [handlerRound, hStatus] at h
      exact hClient (by simp [hStatus, OfHttp]) h
        (fun _ _ => rtspHandleContent_link)
  | httpHeaders =>
      simp only [handlerRound, hStatus] at h
      exact httpHandleHeaders_moves hOwn hStatus h
  | httpContent =>
      simp only [handlerRound, hStatus] at h
      exact httpHandleContent_moves hStatus h
  | httpIdle =>
      simp only [handlerRound, hStatus] at h
      cases h
      exact .idle hStatus

end Feng

------------------------------------------------------------
-- The End Of A Loop, And Reads
------------------------------------------------------------

namespace Feng

namespace ServerState

/- The clients that are freed at the end of a loop. -/
def loopFrees
    (server : ServerState)
    (i : Nat) : List Nat :=
  match server.clients[i]? with
  | none => []
  | some client =>
      match client.pair with
      | none => [i]
      | some k =>
          match server.pairs[k]? with
          | none => []
          | some pair =>
              if pair.rtspClient = some i then
                [pair.httpClient, i]
              else
                []

theorem mem_loopFrees
    {server : ServerState}
    {i j : Nat} :
    j ∈ server.loopFrees i ↔
      ∃ client, server.clients[i]? = some client ∧
        (client.pair = none ∧ j = i ∨
          ∃ k pair, client.pair = some k ∧
            server.pairs[k]? = some pair ∧
            pair.rtspClient = some i ∧
            (j = pair.httpClient ∨ j = i)) := by
  unfold loopFrees
  cases server.clients[i]? with
  | none => simp
  | some client =>
      cases hPair : client.pair with
      | none => simp [hPair]
      | some k =>
          cases hAt : server.pairs[k]? with
          | none => simp [hPair, hAt]
          | some pair =>
              by_cases hRtsp : pair.rtspClient = some i
              · simp [hPair, hAt, hRtsp]
              · simp [hPair, hAt, hRtsp]

theorem free_clients
    (server : ServerState)
    (i j : Nat) :
    (server.free i).clients[j]? =
      (server.clients[j]?).map (fun client =>
        { client with
          freed := client.freed || decide (j = i) }) := by
  unfold free
  cases hClient : server.clients[i]? with
  | none =>
      by_cases hEq : j = i
      · rw [hEq, hClient]
        rfl
      · simp [hEq]
  | some client =>
      rw [setClient_get]
      by_cases hEq : i = j
      · rw [if_pos hEq, ← hEq, hClient]
        simp
      · simp [hEq, Ne.symm hEq]

theorem free_pairs
    (server : ServerState)
    (i : Nat) :
    (server.free i).pairs = server.pairs ∧
      (server.free i).httpTunnelPairs =
        server.httpTunnelPairs := by
  unfold free
  split
  · exact ⟨rfl, rfl⟩
  · exact ⟨rfl, rfl⟩

theorem freeAll_clients
    (server : ServerState)
    (frees : List Nat)
    (j : Nat) :
    (frees.foldl free server).clients[j]? =
      (server.clients[j]?).map (fun client =>
        { client with
          freed := client.freed || decide (j ∈ frees) }) := by
  induction frees generalizing server with
  | nil =>
      simp
  | cons i frees ih =>
      rw [List.foldl_cons, ih, free_clients, Option.map_map]
      cases server.clients[j]? with
      | none => rfl
      | some client => simp [Bool.or_assoc]

theorem freeAll_pairs
    (server : ServerState)
    (frees : List Nat) :
    (frees.foldl free server).pairs = server.pairs ∧
      (frees.foldl free server).httpTunnelPairs =
        server.httpTunnelPairs := by
  induction frees generalizing server with
  | nil =>
      exact ⟨rfl, rfl⟩
  | cons i frees ih =>
      have hFree := free_pairs server i
      have hRest := ih (server.free i)
      exact ⟨hRest.1.trans hFree.1, hRest.2.trans hFree.2⟩

/- A loop ends by freeing what it frees. -/
theorem clientLoopEnd_eq
    {server : ServerState}
    {i : Nat}
    {client : RTSPClient}
    (hClient : server.clients[i]? = some client) :
    server.clientLoopEnd i =
      (server.loopFrees i).foldl free
        (server.setClient i
          { client with connected := false }) := by
  rcases client with
    ⟨status, input, request, session, cseq, write, pair, sa,
      connected, freed, responses, dispatched⟩
  simp only [clientLoopEnd, loopFrees, hClient]
  cases pair with
  | none => rfl
  | some k =>
      have hPairs (client : RTSPClient) :
          (server.setClient i client).pairs = server.pairs :=
        rfl
      simp only [hPairs]
      cases server.pairs[k]? with
      | none => rfl
      | some pair =>
          simp only
          by_cases hRtsp : pair.rtspClient = some i
          · rw [if_pos hRtsp, if_pos hRtsp]
            rfl
          · rw [if_neg hRtsp, if_neg hRtsp]
            rfl

theorem clientLoopEnd_clients
    (server : ServerState)
    (i j : Nat) :
    (server.clientLoopEnd i).clients[j]? =
      (server.clients[j]?).map (fun client =>
        { client with
          connected := client.connected && decide (j ≠ i)
          freed :=
            client.freed ||
              decide (j ∈ server.loopFrees i) }) := by
  cases hClient : server.clients[i]? with
  | none =>
      simp only [clientLoopEnd, loopFrees, hClient]
      by_cases hEq : j = i
      · rw [hEq, hClient]
        rfl
      · simp [hEq]
  | some client =>
      rw [clientLoopEnd_eq hClient, freeAll_clients,
        setClient_get]
      by_cases hEq : i = j
      · rw [if_pos hEq, ← hEq, hClient]
        simp
      · rw [if_neg hEq]
        simp [Ne.symm hEq]

/- The pairs and the table are left as they are. -/
theorem clientLoopEnd_pairs
    (server : ServerState)
    (i : Nat) :
    (server.clientLoopEnd i).pairs = server.pairs ∧
      (server.clientLoopEnd i).httpTunnelPairs =
        server.httpTunnelPairs := by
  cases hClient : server.clients[i]? with
  | none =>
      simp [clientLoopEnd, hClient]
  | some client =>
      rw [clientLoopEnd_eq hClient]
      have hFrees := freeAll_pairs
        (server.setClient i { client with connected := false })
        (server.loopFrees i)
      exact ⟨hFrees.1, hFrees.2⟩

end ServerState

namespace Server

/- The client whose input a thread reads for. -/
def readTarget
    (server : ServerState)
    (thread : Nat) : Option Nat :=
  match server.clients[thread]? with
  | none => none
  | some own =>
      match own.pair with
      | none => some thread
      | some k =>
          (server.pairs[k]?).map HTTPTunnelPair.httpClient

/- The client whose event loop a step leaves. -/
def endsLoop (server : ServerState) : Op → Option Nat
| .read thread buffer =>
    match
      (readTarget server thread).bind (server.clients[·]?)
    with
    | none => none
    | some rtsp =>
        if buffer = [] ∨
            rtspBuffersize <
              rtsp.input.length + buffer.length then
          some thread
        else
          none
| .drained _ i => some i
| .disconnect thread => some thread
| .accept => none
| .round _ _ _ => none

theorem rtspTcpReadCb_cases
    {server server' : ServerState}
    {thread : Nat}
    {buffer : List UInt8}
    (h : rtspTcpReadCb server thread buffer = .ok server') :
    (endsLoop server (.read thread buffer) = some thread ∧
        server' = server.clientLoopEnd thread) ∨
      (endsLoop server (.read thread buffer) = none ∧
        ∃ i rtsp,
          readTarget server thread = some i ∧
          server.clients[i]? = some rtsp ∧
          server' =
            { server.setClient i
                { rtsp with
                  input := rtsp.input ++ buffer } with
              running := server.running ++ [(thread, i)] }) :=
  by
  unfold rtspTcpReadCb at h
  split at h
  · cases h
  · rename_i own hOwn
    split at h
    · cases h
    · rename_i i hTarget
      have hReads : readTarget server thread = some i := by
        rw [readTarget, hOwn]
        exact hTarget
      split at h
      · cases h
      · rename_i rtsp hRtsp
        split at h
        · rename_i hEmpty
          cases h
          refine .inl ⟨?_, rfl⟩
          simp [endsLoop, hReads, hRtsp, hEmpty]
        · rename_i hSome
          split at h
          · rename_i hLong
            cases h
            refine .inl ⟨?_, rfl⟩
            simp [endsLoop, hReads, hRtsp, hLong]
          · rename_i hFits
            cases h
            refine .inr ⟨?_, i, rtsp, hReads, hRtsp, rfl⟩
            simp [endsLoop, hReads, hRtsp, hSome, hFits]

end Server

end Feng

------------------------------------------------------------
-- What A Step Does To The Tunnels
------------------------------------------------------------

namespace Feng

namespace Server

/- The states differ in what the threads are at only. -/
structure SameTunnels (server server' : ServerState) :
    Prop where
  clients : server'.clients = server.clients
  pairs : server'.pairs = server.pairs
  table : server'.httpTunnelPairs = server.httpTunnelPairs

theorem runNext_tunnels
    (server : ServerState)
    (thread i : Nat)
    (next : Next) :
    SameTunnels server (runNext server thread i next) := by
  cases next with
  | again => exact ⟨rfl, rfl, rfl⟩
  | done => exact ⟨rfl, rfl, rfl⟩
  | wait => exact ⟨rfl, rfl, rfl⟩
  | call j => exact ⟨rfl, rfl, rfl⟩

theorem clientLoopEnd_tunnels
    (server : ServerState)
    (waiting : List (Nat × Nat))
    (i : Nat) :
    SameTunnels (server.clientLoopEnd i)
      (ServerState.clientLoopEnd
        { server with waiting := waiting } i) := by
  refine ⟨?_, ?_, ?_⟩
  · apply List.ext_getElem?
    intro j
    rw [ServerState.clientLoopEnd_clients,
      ServerState.clientLoopEnd_clients]
    rfl
  · rw [(ServerState.clientLoopEnd_pairs _ i).1,
      (ServerState.clientLoopEnd_pairs _ i).1]
  · rw [(ServerState.clientLoopEnd_pairs _ i).2,
      (ServerState.clientLoopEnd_pairs _ i).2]

/-
  What a step does: a client comes, bytes that were read are
  appended, a loop ends, or a client gets its round.
-/
inductive StepMoves (server : ServerState) :
    Op → ServerState → Prop where
| accept :
    StepMoves server .accept
      { server with
        clients := server.clients ++ [rtspClientNew] }
| taken {thread i : Nat} {buffer : List UInt8}
    {rtsp : RTSPClient} {server' : ServerState} :
    endsLoop server (.read thread buffer) = none →
      readTarget server thread = some i →
      server.clients[i]? = some rtsp →
      SameTunnels
        (server.setClient i
          { rtsp with input := rtsp.input ++ buffer })
        server' →
      StepMoves server (.read thread buffer) server'
| ended {op : Op} {i : Nat} {server' : ServerState} :
    endsLoop server op = some i →
      SameTunnels (server.clientLoopEnd i) server' →
      StepMoves server op server'
| round {thread i : Nat} {given : RoundInput}
    {rtsp : RTSPClient} {after server' : ServerState} :
    server.clients[i]? = some rtsp →
      RoundMoves given server i rtsp after →
      SameTunnels after server' →
      StepMoves server (.round thread i given) server'

theorem step_moves
    {server server' : ServerState}
    {op : Op}
    (h : step server op = .ok server') :
    StepMoves server op server' := by
  cases op with
  | accept =>
      cases h
      exact .accept
  | read thread buffer =>
      rcases rtspTcpReadCb_cases h with
        ⟨hEnds, rfl⟩ | ⟨hGoesOn, i, rtsp, hReads, hRtsp, rfl⟩
      · exact .ended hEnds ⟨rfl, rfl, rfl⟩
      · exact .taken hGoesOn hReads hRtsp ⟨rfl, rfl, rfl⟩
  | round thread i given =>
      simp only [step] at h
      split at h
      · cases h
      · rename_i rtsp hOwn
        split at h
        · cases h
        · rename_i after next hRound
          cases h
          exact .round hOwn (handlerRound_moves hOwn hRound)
            (runNext_tunnels after thread i next)
  | drained thread i =>
      cases h
      exact .ended rfl (clientLoopEnd_tunnels server _ i)
  | disconnect thread =>
      cases h
      exact .ended rfl ⟨rfl, rfl, rfl⟩

end Server

end Feng

------------------------------------------------------------
-- Tunnels And Their Clients
------------------------------------------------------------

namespace Feng

/-
  Every pair is in the table, and is that of its HTTP client,
  which waits as long as there is no RTSP client and decodes
  once there is one.
-/
structure Wired (server : ServerState) : Prop where
  http :
    ∀ (k : Nat) (pair : HTTPTunnelPair),
      server.pairs[k]? = some pair →
      ∃ client,
        server.clients[pair.httpClient]? = some client ∧
        client.pair = some k ∧
        (client.status = .httpContent ∨
          client.status = .httpIdle ∧ pair.rtspClient = none)
  rtsp :
    ∀ (k : Nat) (pair : HTTPTunnelPair) (j : Nat),
      server.pairs[k]? = some pair →
      pair.rtspClient = some j →
        j ≠ pair.httpClient ∧ j < server.clients.length
  table :
    ∀ (k : Nat) (pair : HTTPTunnelPair),
      server.pairs[k]? = some pair →
      ∃ cookie,
        (cookie, k) ∈ server.httpTunnelPairs.getD []
  entries :
    ∀ entry ∈ server.httpTunnelPairs.getD [],
      entry.2 < server.pairs.length
  initialised : server.httpTunnelPairs ≠ none

theorem getElem?_concat_cases
    {α : Type}
    {xs : List α}
    {x y : α}
    {k : Nat}
    (h : (xs ++ [x])[k]? = some y) :
    xs[k]? = some y ∨ k = xs.length ∧ y = x := by
  rw [List.getElem?_append] at h
  split at h
  · exact .inl h
  · rename_i hLong
    rw [List.getElem?_singleton] at h
    split at h
    · rename_i hZero
      cases h
      exact .inr ⟨by omega, rfl⟩
    · cases h

theorem getElem?_set_cases
    {α : Type}
    {xs : List α}
    {x y : α}
    {k k' : Nat}
    (h : (xs.set k x)[k']? = some y) :
    k' = k ∧ y = x ∨ k' ≠ k ∧ xs[k']? = some y := by
  rw [List.getElem?_set] at h
  by_cases hSame : k = k'
  · rw [if_pos hSame] at h
    split at h
    · cases h
      exact .inl ⟨hSame.symm, rfl⟩
    · cases h
  · rw [if_neg hSame] at h
    exact .inr ⟨Ne.symm hSame, h⟩

namespace Wired

variable {given : RoundInput}
variable {server server' : ServerState}
variable {rtsp : RTSPClient} {i k : Nat}
variable {pair : HTTPTunnelPair}

theorem not_served
    (hStatus : rtsp.status = .httpHeaders) :
    rtsp.status ≠ .httpIdle ∧ rtsp.status ≠ .httpContent := by
  rw [hStatus]
  exact ⟨by decide, by decide⟩

/- A client in no HTTP tunnel state is in no tunnel's place. -/
theorem ne_httpClient
    (h : Wired server)
    (hOwn : server.clients[i]? = some rtsp)
    (hIdle : rtsp.status ≠ .httpIdle)
    (hContent : rtsp.status ≠ .httpContent)
    (hPair : server.pairs[k]? = some pair) :
    pair.httpClient ≠ i := by
  intro hSame
  rcases h.http k pair hPair with
    ⟨client, hClient, _, hStatus⟩
  rw [hSame, hOwn] at hClient
  cases hClient
  rcases hStatus with hStatus | ⟨hStatus, _⟩
  · exact hContent hStatus
  · exact hIdle hStatus

theorem http_lt
    (h : Wired server)
    (hPair : server.pairs[k]? = some pair) :
    pair.httpClient < server.clients.length := by
  rcases h.http k pair hPair with ⟨client, hClient, _⟩
  exact (List.getElem?_eq_some_iff.mp hClient).1

/- Two tunnels do not share their HTTP client. -/
theorem unique
    (h : Wired server)
    {k' : Nat}
    {pair' : HTTPTunnelPair}
    (hPair : server.pairs[k]? = some pair)
    (hPair' : server.pairs[k']? = some pair')
    (hSame : pair.httpClient = pair'.httpClient) :
    k = k' := by
  rcases h.http k pair hPair with ⟨client, hClient, hAt, _⟩
  rcases h.http k' pair' hPair' with
    ⟨client', hClient', hAt', _⟩
  rw [hSame, hClient'] at hClient
  cases hClient
  rw [hAt] at hAt'
  exact Option.some.inj hAt'

/- The HTTP clients stay what they are. -/
theorem frame
    (h : Wired server)
    (hPairs : server'.pairs = server.pairs)
    (hTable :
      server'.httpTunnelPairs = server.httpTunnelPairs)
    (hLength :
      server.clients.length ≤ server'.clients.length)
    (hClients :
      ∀ (k : Nat) (pair : HTTPTunnelPair)
        (client : RTSPClient),
        server.pairs[k]? = some pair →
        server.clients[pair.httpClient]? = some client →
          ∃ client' : RTSPClient,
            server'.clients[pair.httpClient]? =
                some client' ∧
              client'.pair = client.pair ∧
              client'.status = client.status) :
    Wired server' := by
  refine ⟨?_, ?_, ?_, ?_, ?_⟩
  · intro k pair hPair
    rw [hPairs] at hPair
    rcases h.http k pair hPair with
      ⟨client, hClient, hAt, hStatus⟩
    rcases hClients k pair client hPair hClient with
      ⟨client', hClient', hPair', hStatus'⟩
    refine ⟨client', hClient', hPair'.trans hAt, ?_⟩
    rw [hStatus']
    exact hStatus
  · intro k pair j hPair hRtsp
    rw [hPairs] at hPair
    rcases h.rtsp k pair j hPair hRtsp with ⟨hNe, hLess⟩
    exact ⟨hNe, Nat.lt_of_lt_of_le hLess hLength⟩
  · intro k pair hPair
    rw [hPairs] at hPair
    rw [hTable]
    exact h.table k pair hPair
  · rw [hTable, hPairs]
    exact h.entries
  · rw [hTable]
    exact h.initialised

/- Another client, or the same one but for what it holds. -/
theorem setClient
    (h : Wired server)
    {client : RTSPClient}
    (hOwn : server.clients[i]? = some rtsp)
    (hClient :
      (rtsp.status ≠ .httpIdle ∧
          rtsp.status ≠ .httpContent) ∨
        (client.pair = rtsp.pair ∧
          client.status = rtsp.status)) :
    Wired (server.setClient i client) := by
  refine h.frame rfl rfl
    (by simp [ServerState.setClient]) ?_
  intro k pair other hPair hOther
  rw [setClient_get]
  by_cases hSame : i = pair.httpClient
  · rw [if_pos hSame]
    rw [← hSame, hOwn] at hOther
    cases hOther
    rw [← hSame, hOwn]
    rcases hClient with ⟨hIdle, hContent⟩ | hKeeps
    · exact absurd hSame.symm
        (h.ne_httpClient hOwn hIdle hContent hPair)
    · exact ⟨client, rfl, hKeeps⟩
  · rw [if_neg hSame]
    exact ⟨other, hOther, rfl, rfl⟩

theorem clientLoopEnd
    (h : Wired server)
    (i : Nat) :
    Wired (server.clientLoopEnd i) := by
  rcases ServerState.clientLoopEnd_pairs server i with
    ⟨hPairs, hTable⟩
  have hClients := ServerState.clientLoopEnd_clients server i
  refine h.frame hPairs hTable ?_ ?_
  · by_contra hShort
    have hLast :
        (server.clientLoopEnd i).clients[
          (server.clientLoopEnd i).clients.length]? = none :=
      List.getElem?_eq_none (Nat.le_refl _)
    rw [hClients, Option.map_eq_none_iff,
      List.getElem?_eq_none_iff] at hLast
    exact hShort hLast
  · intro k pair client _ hClient
    rw [hClients, hClient, Option.map_some]
    exact ⟨_, rfl, rfl, rfl⟩

theorem created
    (h : Wired server)
    {client : RTSPClient}
    {cookie : List UInt8}
    (hOwn : server.clients[i]? = some rtsp)
    (hStatus : rtsp.status = .httpHeaders)
    (hPair : client.pair = some server.pairs.length)
    (hIdle : client.status = .httpIdle) :
    Wired
      { server.setClient i client with
        pairs :=
          server.pairs ++
            [{ rtspClient := none
               httpClient := i }]
        httpTunnelPairs :=
          server.httpTunnelPairs.map
            (· ++ [(cookie, server.pairs.length)]) } := by
  have hSet : Wired (server.setClient i client) := by
    exact h.setClient hOwn (.inl (not_served hStatus))
  have hOwnNow :
      (server.setClient i client).clients[i]? =
        some client := by
    rw [setClient_get, if_pos rfl, hOwn]
    rfl
  rcases Option.ne_none_iff_exists'.mp h.initialised with
    ⟨entries, hEntries⟩
  refine ⟨?_, ?_, ?_, ?_, ?_⟩
  · intro k pair hAt
    rcases getElem?_concat_cases hAt with hOld | ⟨rfl, rfl⟩
    · exact hSet.http k pair hOld
    · exact ⟨client, hOwnNow, hPair, .inr ⟨hIdle, rfl⟩⟩
  · intro k pair j hAt hRtsp
    rcases getElem?_concat_cases hAt with hOld | ⟨rfl, rfl⟩
    · exact hSet.rtsp k pair j hOld hRtsp
    · cases hRtsp
  · intro k pair hAt
    simp only [hEntries, Option.map_some, Option.getD_some]
    rcases getElem?_concat_cases hAt with hOld | ⟨rfl, rfl⟩
    · rcases h.table k pair hOld with ⟨cookie', hMem⟩
      rw [hEntries] at hMem
      exact ⟨cookie', List.mem_append_left _ hMem⟩
    · exact ⟨cookie, List.mem_append_right _
        (List.mem_singleton_self _)⟩
  · have hOld := h.entries
    rw [hEntries, Option.getD_some] at hOld
    simp only [hEntries, Option.map_some, Option.getD_some,
      List.length_append, List.length_singleton]
    intro entry hEntry
    rcases List.mem_append.mp hEntry with hBefore | hNew
    · have hLess := hOld entry hBefore
      omega
    · rw [List.mem_singleton.mp hNew]
      exact Nat.lt_succ_self _
  · simp [hEntries]

theorem accepted
    (h : Wired server)
    {client http http' : RTSPClient}
    (hOwn : server.clients[i]? = some rtsp)
    (hStatus : rtsp.status = .httpHeaders)
    (hPair : server.pairs[k]? = some pair)
    (hHttp : server.clients[pair.httpClient]? = some http)
    (hDistinct : i ≠ pair.httpClient)
    (hLink : SameLink http http')
    (hContent : http'.status = .httpContent) :
    Wired
      { (server.setClient i client).setClient
          pair.httpClient http' with
        pairs :=
          server.pairs.set k
            { pair with rtspClient := some i } } := by
  have hSet : Wired (server.setClient i client) := by
    exact h.setClient hOwn (.inl (not_served hStatus))
  have hHttpNow :
      ((server.setClient i client).setClient
          pair.httpClient http').clients[
            pair.httpClient]? = some http' := by
    rw [setClient_get, if_pos rfl, setClient_get,
      if_neg hDistinct, hHttp]
    rfl
  refine ⟨?_, ?_, ?_, ?_, h.initialised⟩
  · intro k' pair' hAt
    rcases getElem?_set_cases hAt with
      ⟨rfl, rfl⟩ | ⟨hOther, hOld⟩
    · rcases h.http k' pair hPair with
        ⟨client', hClient', hAt', _⟩
      rw [hHttp] at hClient'
      cases hClient'
      exact ⟨http', hHttpNow, hLink.pair.trans hAt',
        .inl hContent⟩
    · rcases hSet.http k' pair' hOld with
        ⟨client', hClient', hRest⟩
      have hNe : pair.httpClient ≠ pair'.httpClient := by
        intro hSame
        exact hOther (h.unique hPair hOld hSame).symm
      refine ⟨client', ?_, hRest⟩
      change
        ((server.setClient i client).setClient
          pair.httpClient http').clients[
            pair'.httpClient]? = some client'
      rw [setClient_get, if_neg hNe]
      exact hClient'
  · intro k' pair' j hAt hRtsp
    have hLength :
        ((server.setClient i client).setClient
            pair.httpClient http').clients.length =
          server.clients.length := by
      simp [ServerState.setClient]
    simp only [hLength]
    rcases getElem?_set_cases hAt with
      ⟨rfl, rfl⟩ | ⟨_, hOld⟩
    · cases hRtsp
      exact ⟨hDistinct,
        (List.getElem?_eq_some_iff.mp hOwn).1⟩
    · exact h.rtsp k' pair' j hOld hRtsp
  · intro k' pair' hAt
    rcases getElem?_set_cases hAt with
      ⟨rfl, rfl⟩ | ⟨_, hOld⟩
    · exact h.table k' pair hPair
    · exact h.table k' pair' hOld
  · rw [List.length_set]
    exact h.entries

theorem round
    (h : Wired server)
    (hOwn : server.clients[i]? = some rtsp)
    (hRound : RoundMoves given server i rtsp server') :
    Wired server' := by
  cases hRound with
  | own hStatus _ =>
      apply h.setClient hOwn
      refine .inl ⟨?_, ?_⟩
      · intro hIdle
        exact hStatus (.inr (.inr hIdle))
      · intro hContent
        exact hStatus (.inr (.inl hContent))
  | headers turn hStatus _ _ _ _ _ =>
      exact h.setClient hOwn (.inl (not_served hStatus))
  | refused cookie hStatus _ _ _ _ _ _ =>
      exact h.setClient hOwn (.inl (not_served hStatus))
  | created cookie hStatus _ _ hPair hIdle _ _ =>
      exact h.created hOwn hStatus hPair hIdle
  | accepted cookie hStatus _ _ hPair hHttp _ _ hDistinct _ _
      _ _ hLink hContent =>
      exact h.accepted hOwn hStatus hPair hHttp hDistinct
        hLink hContent
  | @content other own j k pair _ _ _ _ hOther hOwnNow =>
      have hDecoded :
          Wired (server.setClient j
            { other with
              input := other.input ++ given.decoded }) :=
        h.setClient hOther (.inr ⟨rfl, rfl⟩)
      exact hDecoded.setClient hOwnNow (.inr ⟨rfl, rfl⟩)
  | idle _ => exact h

theorem congr
    (h : Wired server)
    (hSame : Server.SameTunnels server server') :
    Wired server' := by
  refine ⟨?_, ?_, ?_, ?_, ?_⟩
  · rw [hSame.pairs, hSame.clients]
    exact h.http
  · rw [hSame.pairs, hSame.clients]
    exact h.rtsp
  · rw [hSame.pairs, hSame.table]
    exact h.table
  · rw [hSame.pairs, hSame.table]
    exact h.entries
  · rw [hSame.table]
    exact h.initialised

theorem start : Wired (serverNew true) := by
  refine ⟨?_, ?_, ?_, ?_, ?_⟩
  · intro k pair hPair
    cases hPair
  · intro k pair j hPair
    cases hPair
  · intro k pair hPair
    cases hPair
  · intro entry hEntry
    cases hEntry
  · exact Option.some_ne_none _

theorem step
    {op : Server.Op}
    (h : Wired server)
    (hStep : Server.step server op = .ok server') :
    Wired server' := by
  cases Server.step_moves hStep with
  | accept =>
      refine h.frame rfl rfl ?_ ?_
      · rw [List.length_append]
        exact Nat.le_add_right _ _
      · intro k pair client _ hClient
        refine ⟨client, ?_, rfl, rfl⟩
        rw [List.getElem?_append_left
          (List.getElem?_eq_some_iff.mp hClient).1]
        exact hClient
  | taken _ _ hRtsp hSame =>
      refine congr ?_ hSame
      exact h.setClient hRtsp (.inr ⟨rfl, rfl⟩)
  | @ended _ i _ _ hSame =>
      exact (h.clientLoopEnd i).congr hSame
  | round hOwn hRound hSame =>
      exact (h.round hOwn hRound).congr hSame

/- The tunnels are wired throughout every run. -/
theorem always
    {trace : List (ServerState × Server.Op)}
    (hRun : (Server.system true).Run trace server) :
    System.Always Wired trace server := by
  apply hRun.guarded_always (C := fun _ _ => True)
  · intro s hStart
    rw [hStart]
    exact start
  · intro s op t h _ hStep
    exact h.step hStep.2
  · intro x _
    trivial

end Wired

end Feng

------------------------------------------------------------
-- A Tunnel That Is Opened
------------------------------------------------------------

namespace Feng

namespace Server

/- The requests that open a tunnel and join it. -/
def getLines (cookie : List UInt8) : List UInt8 :=
  ascii "GET / HTTP/1.0\r\nx-sessioncookie: " ++ cookie ++
    ascii "\r\n\r\n"

def postLines (cookie : List UInt8) : List UInt8 :=
  ascii "POST / HTTP/1.0\r\nx-sessioncookie: " ++ cookie ++
    ascii "\r\n\r\n"

/- A GET and a POST with one cookie, from two clients. -/
def openOps : List Op :=
  [.accept, .read 0 (getLines (ascii "c")),
    .round 0 0 sampleRound, .round 0 0 sampleRound,
    .round 0 0 sampleRound, .drained 0 0,
    .accept, .read 1 (postLines (ascii "c")),
    .round 1 1 sampleRound, .round 1 1 sampleRound,
    .round 1 0 sampleRound, .round 1 1 sampleRound]

end Server

end Feng
