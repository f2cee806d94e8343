import Feng.Rtsp.Tunnel
import Mathlib.Data.List.Infix

/-
  What reaches the HTTP client of a tunnel comes from the
  socket of its RTSP client, unless a POST that was refused
  has left its connection in the tunnel.

  Key definitions include:
    * `Isolated`
    * `KeepsIsolation`
    * `Owned`

  Key theorems include:
    * `Server.tunnels_isolated_iff`
    * `Server.tunnel_shared`
-/

------------------------------------------------------------
-- Isolated Tunnels
------------------------------------------------------------

namespace Feng

/- The request that is pending is a POST. -/
def Posts (rtsp : RTSPClient) : Prop :=
  ∃ req, rtsp.pendingRequest = some req ∧
    req.methodId = HTTPMethod.post

/-
  A step adds nothing to what the HTTP client of a tunnel has
  received but what it reads from the socket of the RTSP
  client; where it refuses a POST it leaves the connection in
  no tunnel.
-/
structure Isolated
    (server : ServerState)
    (op : Server.Op)
    (server' : ServerState) : Prop where
  input :
    ∀ (k : Nat) (pair : HTTPTunnelPair) (j : Nat)
      (http http' : RTSPClient),
      server.pairs[k]? = some pair →
      pair.rtspClient = some j →
      server.clients[pair.httpClient]? = some http →
      server'.clients[pair.httpClient]? = some http' →
        http'.input <:+ http.input ∨
          ∃ buffer, op = .read j buffer ∧
            http'.input = http.input ++ buffer
  refused :
    ∀ (thread i : Nat) (given : RoundInput)
      (rtsp rtsp' : RTSPClient),
      op = .round thread i given →
      server.clients[i]? = some rtsp →
      server'.clients[i]? = some rtsp' →
      rtsp.status = .httpHeaders → Posts rtsp →
      Refused rtsp rtsp' → rtsp'.pair = none

/-
  A POST whose cookie is in the table finds its tunnel ready;
  one that is refused without its cookie being looked up came
  through no tunnel.
-/
structure KeepsPair
    (mem : Memory)
    (server : ServerState)
    (rtsp : RTSPClient) : Prop where
  bad :
    httpTurn mem rtsp = some .bad → Posts rtsp →
      rtsp.pair = none
  noCookie :
    httpTurn mem rtsp = some (.post none) → rtsp.pair = none
  found :
    ∀ cookie,
      httpTurn mem rtsp = some (.post (some cookie)) →
        ∀ k ∈ server.lookupPair cookie, server.Ready k

/- Another client hands on something to this one. -/
def Server.Decodes
    (server : ServerState)
    (op : Server.Op)
    (j : Nat) : Prop :=
  ∃ thread i given rtsp k pair, op = .round thread i given ∧
    server.clients[i]? = some rtsp ∧
    rtsp.status = .httpContent ∧ rtsp.pair = some k ∧
    server.pairs[k]? = some pair ∧
    pair.rtspClient = some j ∧ i ≠ j ∧ given.decoded ≠ []

/-
  A step keeps the tunnels apart: the HTTP client of a tunnel
  gets nothing from its own socket or through another tunnel
  once there is an RTSP client, and a round keeps its pair.
-/
structure KeepsIsolation
    (server : ServerState)
    (op : Server.Op) : Prop where
  reads :
    ∀ (k : Nat) (pair : HTTPTunnelPair)
      (buffer : List UInt8),
      server.pairs[k]? = some pair →
      op = .read pair.httpClient buffer →
      Server.endsLoop server op = none →
        pair.rtspClient = none
  decodes :
    ∀ (k : Nat) (pair : HTTPTunnelPair),
      server.pairs[k]? = some pair →
      Server.Decodes server op pair.httpClient →
        pair.rtspClient = none
  posts :
    ∀ (thread i : Nat) (given : RoundInput)
      (rtsp : RTSPClient),
      op = .round thread i given →
      server.clients[i]? = some rtsp →
      rtsp.status = .httpHeaders →
        KeepsPair given.mem server rtsp

/- A client is in no tunnel but one of its own. -/
def Owned (server : ServerState) : Prop :=
  ∀ (i : Nat) (client : RTSPClient) (k : Nat),
    server.clients[i]? = some client →
    client.pair = some k →
      ∃ pair, server.pairs[k]? = some pair ∧
        (pair.httpClient = i ∨ pair.rtspClient = some i)

end Feng

------------------------------------------------------------
-- What Keeps A Tunnel Isolated
------------------------------------------------------------

namespace Feng

variable {mem : Memory} {given : RoundInput}
variable {server server' : ServerState}
variable {rtsp rtsp' : RTSPClient} {i k : Nat}
variable {pair : HTTPTunnelPair} {op : Server.Op}

theorem refused_responses_ne
    (h : Refused rtsp rtsp') :
    rtsp'.responses ≠ rtsp.responses := by
  rcases h with ⟨response, _, hResponses⟩
  rw [hResponses]
  intro hEq
  have hLength := congrArg List.length hEq
  simp at hLength

theorem httpTurn_posts
    {turn : HttpTurn}
    (hTurn : httpTurn mem rtsp = some turn) :
    (∀ cookie, turn = .post cookie → Posts rtsp) ∧
      ∀ cookie, turn = .get cookie → ¬ Posts rtsp := by
  unfold httpTurn at hTurn
  split at hTurn
  · cases hTurn
  · rename_i req hPending
    rcases Option.map_eq_some_iff.mp hTurn with
      ⟨result, _, hIs⟩
    simp only at hIs
    split at hIs
    · subst hIs
      exact ⟨nofun, nofun⟩
    · split at hIs
      · subst hIs
        exact ⟨nofun, nofun⟩
      · split at hIs
        · rename_i hPost
          subst hIs
          exact ⟨fun _ _ => ⟨req, hPending, hPost⟩, nofun⟩
        · rename_i hGet
          subst hIs
          refine ⟨nofun, ?_⟩
          rintro cookie _ ⟨req', hPending', hPost⟩
          rw [hPending] at hPending'
          cases hPending'
          exact hGet hPost

theorem readTarget_cases
    {thread : Nat}
    (h : Server.readTarget server thread = some i) :
    ∃ own, server.clients[thread]? = some own ∧
      (own.pair = none ∧ i = thread ∨
        ∃ k pair, own.pair = some k ∧
          server.pairs[k]? = some pair ∧
          i = pair.httpClient) := by
  unfold Server.readTarget at h
  split at h
  · cases h
  · rename_i own hOwn
    refine ⟨own, hOwn, ?_⟩
    split at h
    · rename_i hNone
      cases h
      exact .inl ⟨hNone, rfl⟩
    · rename_i k hPair
      rcases Option.map_eq_some_iff.mp h with
        ⟨pair, hAt, rfl⟩
      exact .inr ⟨k, pair, hPair, hAt, rfl⟩

theorem Wired.ne_of_headers
    (h : Wired server)
    (hOwn : server.clients[i]? = some rtsp)
    (hStatus : rtsp.status = .httpHeaders)
    (hPair : server.pairs[k]? = some pair) :
    i ≠ pair.httpClient := by
  rcases Wired.not_served hStatus with ⟨hIdle, hContent⟩
  exact (h.ne_httpClient hOwn hIdle hContent hPair).symm

/- A tunnel whose HTTP client is idle has no RTSP client. -/
theorem Wired.rtspClient_none
    (h : Wired server)
    (hPair : server.pairs[k]? = some pair)
    (hHttp : server.clients[pair.httpClient]? = some rtsp)
    (hIdle : rtsp.status = .httpIdle) :
    pair.rtspClient = none := by
  rcases h.http k pair hPair with
    ⟨client, hClient, _, hContent | ⟨_, hNone⟩⟩
  · rw [hHttp] at hClient
    cases hClient
    rw [hIdle] at hContent
    cases hContent
  · exact hNone

/- A round leaves what the HTTP client of a tunnel received. -/
theorem round_input
    {thread j : Nat}
    {http http' : RTSPClient}
    (hWired : Wired server)
    (hKeeps :
      KeepsIsolation server (.round thread i given))
    (hOwn : server.clients[i]? = some rtsp)
    (hRound : RoundMoves given server i rtsp server')
    (hPair : server.pairs[k]? = some pair)
    (hRtsp : pair.rtspClient = some j)
    (hHttp : server.clients[pair.httpClient]? = some http)
    (hHttp' :
      server'.clients[pair.httpClient]? = some http') :
    http'.input <:+ http.input := by
  have hSet
      {client : RTSPClient}
      (hNot : i ≠ pair.httpClient)
      (hAt :
        (server.setClient i client).clients[
          pair.httpClient]? = some http') :
      http'.input <:+ http.input := by
    rw [setClient_get, if_neg hNot, hHttp] at hAt
    cases hAt
    exact List.suffix_rfl
  cases hRound with
  | own hNot _ =>
      apply hSet _ hHttp'
      apply Ne.symm
      apply hWired.ne_httpClient hOwn _ _ hPair
      · intro hIdle
        exact hNot (.inr (.inr hIdle))
      · intro hContent
        exact hNot (.inr (.inl hContent))
  | headers turn hStatus =>
      exact hSet (hWired.ne_of_headers hOwn hStatus hPair)
        hHttp'
  | refused cookie hStatus =>
      exact hSet (hWired.ne_of_headers hOwn hStatus hPair)
        hHttp'
  | created cookie hStatus =>
      exact hSet (hWired.ne_of_headers hOwn hStatus hPair)
        hHttp'
  | @accepted client other other' k' pair' cookie hStatus _ _
      hPair' hOther hIdle =>
      have hNot : pair'.httpClient ≠ pair.httpClient := by
        intro hSame
        have hEq := hWired.unique hPair' hPair hSame
        subst hEq
        rw [hPair'] at hPair
        cases hPair
        have hNone :=
          hWired.rtspClient_none hPair' hOther hIdle
        rw [hRtsp] at hNone
        cases hNone
      have hAt :
          ((server.setClient i client).setClient
            pair'.httpClient other').clients[
              pair.httpClient]? = some http' := hHttp'
      rw [setClient_get, if_neg hNot] at hAt
      exact hSet (hWired.ne_of_headers hOwn hStatus hPair) hAt
  | @content other own j' k' pair' hStatus hAt hPair' hRtsp'
      hOther hOwnNow =>
      rw [setClient_get] at hHttp'
      by_cases hOwnHttp : i = pair.httpClient
      · rw [if_pos hOwnHttp, ← hOwnHttp, hOwnNow] at hHttp'
        cases hHttp'
        exact List.nil_suffix
      · rw [if_neg hOwnHttp, setClient_get] at hHttp'
        by_cases hFar : j' = pair.httpClient
        · rw [if_pos hFar, hHttp] at hHttp'
          cases hHttp'
          rw [hFar, hHttp] at hOther
          cases hOther
          by_cases hNil : given.decoded = []
          · simp [hNil]
          · have hDecodes :
                Server.Decodes server (.round thread i given)
                  pair.httpClient :=
              ⟨thread, i, given, rtsp, k', pair', rfl, hOwn,
                hStatus, hAt, hPair', hFar ▸ hRtsp', hOwnHttp,
                hNil⟩
            have hNone := hKeeps.decodes k pair hPair hDecodes
            rw [hRtsp] at hNone
            cases hNone
        · rw [if_neg hFar, hHttp] at hHttp'
          cases hHttp'
          exact List.suffix_rfl
  | idle _ =>
      rw [hHttp] at hHttp'
      cases hHttp'
      exact List.suffix_rfl

/- A POST that a round refuses is left without a pair. -/
theorem round_refused
    (hServe :
      rtsp.status = .httpHeaders →
        KeepsPair given.mem server rtsp)
    (hOwn : server.clients[i]? = some rtsp)
    (hRound : RoundMoves given server i rtsp server')
    (hNow : server'.clients[i]? = some rtsp')
    (hStatus : rtsp.status = .httpHeaders)
    (hPosts : Posts rtsp)
    (hRefused : Refused rtsp rtsp') :
    rtsp'.pair = none := by
  have hKeeps := hServe hStatus
  have hSet
      {client : RTSPClient}
      (hAt :
        (server.setClient i client).clients[i]? =
          some rtsp') :
      rtsp' = client := by
    rw [setClient_get, if_pos rfl, hOwn] at hAt
    exact (Option.some.inj hAt).symm
  cases hRound with
  | own hNot _ =>
      exact absurd (.inl hStatus) hNot
  | headers turn _ hTurn hAway hLink hMore _ =>
      rw [hSet hNow, hLink.pair]
      cases turn with
      | bad => exact hKeeps.bad hTurn hPosts
      | more =>
          rw [hSet hNow] at hRefused
          exact absurd (hMore rfl)
            (refused_responses_ne hRefused)
      | post cookie =>
          rw [hAway] at hTurn
          exact hKeeps.noCookie hTurn
      | get cookie =>
          exact absurd hPosts
            ((httpTurn_posts hTurn).2 cookie rfl)
  | refused cookie _ hTurn hNot hPair _ _ _ =>
      rw [hSet hNow, hPair]
      cases hFound : server.lookupPair cookie with
      | none => rfl
      | some k =>
          exact absurd (hKeeps.found cookie hTurn k hFound)
            (hNot k hFound)
  | created cookie _ hTurn =>
      exact absurd hPosts
        ((httpTurn_posts hTurn).2 _ rfl)
  | @accepted client http http' k pair cookie _ _ _ _ _ _ _
      hDistinct _ _ _ hResponses =>
      have hAt :
          ((server.setClient i client).setClient
            pair.httpClient http').clients[i]? =
              some rtsp' := hNow
      rw [setClient_get, if_neg hDistinct.symm] at hAt
      rw [hSet hAt] at hRefused
      exact absurd hResponses
        (refused_responses_ne hRefused)
  | content hContent =>
      rw [hStatus] at hContent
      cases hContent
  | idle hIdle =>
      rw [hStatus] at hIdle
      cases hIdle

/- What a thread appends to a tunnel is from its own socket. -/
theorem taken_from
    {thread j : Nat}
    {buffer : List UInt8}
    (hWired : Wired server)
    (hOwned : Owned server)
    (hKeeps : KeepsIsolation server (.read thread buffer))
    (hGoesOn :
      Server.endsLoop server (.read thread buffer) = none)
    (hReads :
      Server.readTarget server thread = some pair.httpClient)
    (hPair : server.pairs[k]? = some pair)
    (hRtsp : pair.rtspClient = some j) :
    thread = j := by
  rcases readTarget_cases hReads with
    ⟨own, hOwn, ⟨hNone, hSame⟩ |
      ⟨k', pair', hAt, hPair', hSame⟩⟩
  · rcases hWired.http k pair hPair with
      ⟨client, hClient, hSome, _⟩
    rw [hSame, hOwn] at hClient
    cases hClient
    rw [hNone] at hSome
    cases hSome
  · have hEq := hWired.unique hPair hPair' hSame
    subst hEq
    rw [hPair] at hPair'
    cases hPair'
    rcases hOwned thread own k hOwn hAt with
      ⟨pair', hPair', hHttp | hIs⟩
    · rw [hPair] at hPair'
      cases hPair'
      have hFree :=
        hKeeps.reads k pair buffer hPair (by rw [hHttp])
          hGoesOn
      rw [hRtsp] at hFree
      cases hFree
    · rw [hPair] at hPair'
      cases hPair'
      rw [hRtsp] at hIs
      exact (Option.some.inj hIs).symm

theorem isolated_of_keeps
    (hWired : Wired server)
    (hOwned : Owned server)
    (hKeeps : KeepsIsolation server op)
    (hStep : Server.step server op = .ok server') :
    Isolated server op server' := by
  refine ⟨?_, ?_⟩
  · intro k pair j http http' hPair hRtsp hHttp hHttp'
    cases Server.step_moves hStep with
    | accept =>
        rw [List.getElem?_append_left
          (hWired.http_lt hPair), hHttp] at hHttp'
        cases hHttp'
        exact .inl List.suffix_rfl
    | @taken thread i buffer rtsp _ hGoesOn hReads hOwn
        hSame =>
        rw [hSame.clients, setClient_get] at hHttp'
        by_cases hTo : i = pair.httpClient
        · rw [if_pos hTo, hHttp] at hHttp'
          cases hHttp'
          rw [hTo, hHttp] at hOwn
          cases hOwn
          have hThread :=
            taken_from hWired hOwned hKeeps hGoesOn
              (hTo ▸ hReads) hPair hRtsp
          exact .inr ⟨buffer, by rw [hThread], rfl⟩
        · rw [if_neg hTo, hHttp] at hHttp'
          cases hHttp'
          exact .inl List.suffix_rfl
    | @ended _ i _ _ hSame =>
        rw [hSame.clients,
          ServerState.clientLoopEnd_clients, hHttp] at hHttp'
        cases hHttp'
        exact .inl List.suffix_rfl
    | round hOwn hRound hSame =>
        rw [hSame.clients] at hHttp'
        exact .inl (round_input hWired hKeeps hOwn hRound
          hPair hRtsp hHttp hHttp')
  · intro thread i given rtsp rtsp' hOp hOwn hNow hStatus
      hPosts hRefused
    subst hOp
    cases Server.step_moves hStep with
    | ended hEnds => cases hEnds
    | round hOwn' hRound hSame =>
        rw [hOwn] at hOwn'
        cases hOwn'
        rw [hSame.clients] at hNow
        exact round_refused
          (hKeeps.posts thread i given rtsp rfl hOwn) hOwn
          hRound hNow hStatus hPosts hRefused

end Feng

------------------------------------------------------------
-- What An Isolated Tunnel Keeps To
------------------------------------------------------------

namespace Feng

variable {given : RoundInput} {thread : Nat}
variable {server server' : ServerState}
variable {rtsp rtsp' : RTSPClient} {i k : Nat}
variable {pair : HTTPTunnelPair} {op : Server.Op}

theorem not_append_suffix
    {xs ys : List UInt8}
    (hSome : ys ≠ []) :
    ¬ (xs ++ ys) <:+ xs := by
  intro hSuffix
  have hLength := hSuffix.length_le
  rw [List.length_append] at hLength
  have hPos := List.length_pos_of_ne_nil hSome
  omega

/- The HTTP client of a tunnel reads for the tunnel. -/
theorem Wired.readTarget
    (h : Wired server)
    (hPair : server.pairs[k]? = some pair) :
    Server.readTarget server pair.httpClient =
      some pair.httpClient := by
  rcases h.http k pair hPair with ⟨http, hHttp, hAt, _⟩
  simp [Server.readTarget, hHttp, hAt, hPair]

theorem Isolated.reads
    (h : Isolated server op server')
    (hWired : Wired server)
    (hMoves : Server.StepMoves server op server')
    {buffer : List UInt8}
    (hPair : server.pairs[k]? = some pair)
    (hOp : op = .read pair.httpClient buffer)
    (hGoesOn : Server.endsLoop server op = none) :
    pair.rtspClient = none := by
  by_contra hSome
  rcases Option.ne_none_iff_exists'.mp hSome with ⟨j, hRtsp⟩
  subst hOp
  cases hMoves with
  | ended hEnds =>
      rw [hGoesOn] at hEnds
      cases hEnds
  | @taken _ i _ http _ _ hReads hHttp hSame =>
      have hTarget := hWired.readTarget hPair
      rw [hReads] at hTarget
      cases hTarget
      have hNow :
          server'.clients[pair.httpClient]? =
            some { http with input := http.input ++ buffer } := by
        rw [hSame.clients, setClient_get, if_pos rfl, hHttp]
        rfl
      rcases h.input k pair j http _ hPair hRtsp hHttp hNow with
        hSuffix | ⟨buffer', hRead, _⟩
      · apply not_append_suffix _ hSuffix
        intro hNil
        simp [Server.endsLoop, hReads, hHttp, hNil] at hGoesOn
      · cases hRead
        exact (hWired.rtsp k pair _ hPair hRtsp).1 rfl

theorem Isolated.decodes
    (h : Isolated server op server')
    (hMoves : Server.StepMoves server op server')
    (hPair : server.pairs[k]? = some pair)
    (hDecodes :
      Server.Decodes server op pair.httpClient) :
    pair.rtspClient = none := by
  by_contra hSome
  rcases Option.ne_none_iff_exists'.mp hSome with ⟨j, hRtsp⟩
  rcases hDecodes with
    ⟨thread, i, given, rtsp, k', pair', rfl, hOwn, hStatus,
      hAt, hPair', hRtsp', hOther, hNil⟩
  cases hMoves with
  | ended hEnds => cases hEnds
  | round hOwn' hRound hSame =>
      rw [hOwn] at hOwn'
      cases hOwn'
      have hNot {status : RFC822ParserState}
          (hIs : rtsp.status = status)
          (hNe : status ≠ .httpContent) : False := by
        rw [hStatus] at hIs
        exact hNe hIs.symm
      cases hRound with
      | own hNot' => exact hNot' (.inr (.inl hStatus))
      | headers _ hIs => exact hNot hIs (by decide)
      | refused _ hIs => exact hNot hIs (by decide)
      | created _ hIs => exact hNot hIs (by decide)
      | accepted _ hIs => exact hNot hIs (by decide)
      | idle hIs => exact hNot hIs (by decide)
      | @content http own j' k'' pair'' _ hAt' hPair'' hRtsp''
          hHttp hOwnNow =>
          rw [hAt] at hAt'
          cases hAt'
          rw [hPair'] at hPair''
          cases hPair''
          rw [hRtsp'] at hRtsp''
          cases hRtsp''
          have hNow :
              server'.clients[pair.httpClient]? =
                some
                  { http with
                    input := http.input ++ given.decoded } := by
            rw [hSame.clients, setClient_get, if_neg hOther,
              setClient_get, if_pos rfl, hHttp]
            rfl
          rcases h.input k pair j http _ hPair hRtsp hHttp
            hNow with hSuffix | ⟨buffer, hRead, _⟩
          · exact not_append_suffix hNil hSuffix
          · cases hRead

/- A round that refuses a POST whose pair stays. -/
theorem Isolated.pair_none
    {client : RTSPClient}
    (h : Isolated server (.round thread i given) server')
    (hOwn : server.clients[i]? = some rtsp)
    (hSame :
      Server.SameTunnels (server.setClient i client) server')
    (hStatus : rtsp.status = .httpHeaders)
    (hPosts : Posts rtsp)
    (hRefused : Refused rtsp client) :
    client.pair = none := by
  apply h.refused thread i given rtsp client rfl hOwn _
    hStatus hPosts hRefused
  rw [hSame.clients, setClient_get, if_pos rfl, hOwn]
  rfl

theorem keepsPair_of_turn
    {turn : HttpTurn}
    (hTurn : httpTurn given.mem rtsp = some turn)
    (hBad : turn = .bad → Posts rtsp → rtsp.pair = none)
    (hNoCookie : turn = .post none → rtsp.pair = none)
    (hFound :
      ∀ cookie, turn = .post (some cookie) →
        ∀ k ∈ server.lookupPair cookie, server.Ready k) :
    KeepsPair given.mem server rtsp := by
  refine ⟨?_, ?_, ?_⟩
  · intro hIs
    exact hBad (Option.some.inj (hTurn.symm.trans hIs))
  · intro hIs
    exact hNoCookie (Option.some.inj (hTurn.symm.trans hIs))
  · intro cookie hIs
    exact hFound cookie
      (Option.some.inj (hTurn.symm.trans hIs))

theorem Isolated.posts
    (h : Isolated server (.round thread i given) server')
    (hMoves :
      Server.StepMoves server (.round thread i given) server')
    (hOwn : server.clients[i]? = some rtsp)
    (hStatus : rtsp.status = .httpHeaders) :
    KeepsPair given.mem server rtsp := by
  have hNot {status : RFC822ParserState}
      (hIs : rtsp.status = status)
      (hNe : status ≠ .httpHeaders) : False := by
    rw [hStatus] at hIs
    exact hNe hIs.symm
  cases hMoves with
  | ended hEnds => cases hEnds
  | round hOwn' hRound hSame =>
      rw [hOwn] at hOwn'
      cases hOwn'
      cases hRound with
      | own hNot' => exact absurd (.inl hStatus) hNot'
      | content hIs => exact (hNot hIs (by decide)).elim
      | idle hIs => exact (hNot hIs (by decide)).elim
      | headers turn _ hTurn hAway hLink _ hRefused =>
          apply keepsPair_of_turn hTurn
          · intro hBad hPosts
            have hNone :=
              h.pair_none hOwn hSame hStatus hPosts
                (hRefused (hBad ▸ nofun))
            exact hLink.pair.symm.trans hNone
          · intro hPost
            have hNone :=
              h.pair_none hOwn hSame hStatus
                ((httpTurn_posts hTurn).1 _ hPost)
                (hRefused (hPost ▸ nofun))
            exact hLink.pair.symm.trans hNone
          · intro cookie hPost
            rw [hPost] at hAway
            cases hAway
      | refused cookie _ hTurn _ hPair _ _ hRefused =>
          have hNone :=
            h.pair_none hOwn hSame hStatus
              ((httpTurn_posts hTurn).1 _ rfl) hRefused
          apply keepsPair_of_turn hTurn
          · exact nofun
          · exact nofun
          · intro cookie' hPost k hFound
            cases hPost
            rw [← hPair, hNone] at hFound
            cases hFound
      | created cookie _ hTurn =>
          apply keepsPair_of_turn hTurn
          · exact nofun
          · exact nofun
          · exact nofun
      | accepted cookie _ hTurn hFound hPair hHttp hIdle
          hInput =>
          apply keepsPair_of_turn hTurn
          · exact nofun
          · exact nofun
          · intro cookie' hPost k' hFound'
            cases hPost
            rw [hFound] at hFound'
            cases hFound'
            simp [ServerState.Ready, hPair, hHttp, hIdle,
              hInput]

theorem isolated_iff_keeps
    (hWired : Wired server)
    (hOwned : Owned server)
    (hStep : Server.step server op = .ok server') :
    Isolated server op server' ↔ KeepsIsolation server op := by
  have hMoves := Server.step_moves hStep
  constructor
  · intro h
    refine ⟨?_, ?_, ?_⟩
    · intro k pair buffer hPair hOp hGoesOn
      exact h.reads hWired hMoves hPair hOp hGoesOn
    · intro k pair hPair hDecodes
      exact h.decodes hMoves hPair hDecodes
    · intro thread i given rtsp hOp hOwn hStatus
      subst hOp
      exact h.posts hMoves hOwn hStatus
  · intro hKeeps
    exact isolated_of_keeps hWired hOwned hKeeps hStep

end Feng

------------------------------------------------------------
-- Runs With Isolated Tunnels
------------------------------------------------------------

namespace Feng

namespace Owned

variable {given : RoundInput}
variable {server server' : ServerState}
variable {rtsp client : RTSPClient} {i k : Nat}
variable {pair : HTTPTunnelPair} {op : Server.Op}

theorem congr
    (h : Owned server)
    (hSame : Server.SameTunnels server server') :
    Owned server' := by
  unfold Owned
  rw [hSame.clients, hSame.pairs]
  exact h

/- A client is put in no tunnel but one that is its own. -/
theorem setClient
    (h : Owned server)
    (hClient :
      ∀ k, client.pair = some k →
        ∃ pair, server.pairs[k]? = some pair ∧
          (pair.httpClient = i ∨ pair.rtspClient = some i)) :
    Owned (server.setClient i client) := by
  intro j other k hOther hPair
  rw [setClient_get] at hOther
  by_cases hSame : i = j
  · rw [if_pos hSame] at hOther
    rcases Option.map_eq_some_iff.mp hOther with ⟨_, _, rfl⟩
    exact hSame ▸ hClient k hPair
  · rw [if_neg hSame] at hOther
    exact h j other k hOther hPair

theorem setClient_same
    (h : Owned server)
    (hOwn : server.clients[i]? = some rtsp)
    (hPair : client.pair = rtsp.pair) :
    Owned (server.setClient i client) := by
  apply h.setClient
  intro k hAt
  rw [hPair] at hAt
  exact h i rtsp k hOwn hAt

theorem round
    (h : Owned server)
    (hWired : Wired server)
    (hOwn : server.clients[i]? = some rtsp)
    (hServe :
      rtsp.status = .httpHeaders →
        KeepsPair given.mem server rtsp)
    (hRound : RoundMoves given server i rtsp server') :
    Owned server' := by
  cases hRound with
  | own _ hLink => exact h.setClient_same hOwn hLink.pair
  | headers _ _ _ _ hLink =>
      exact h.setClient_same hOwn hLink.pair
  | refused cookie hStatus hTurn hNot hPair =>
      apply h.setClient
      intro k hAt
      rw [hPair] at hAt
      exact absurd
        ((hServe hStatus).found cookie hTurn k hAt)
        (hNot k hAt)
  | @created client cookie _ _ _ hPair =>
      intro j other k hOther hAt
      have hOther' :
          (server.setClient i client).clients[j]? =
            some other := hOther
      rw [setClient_get] at hOther'
      by_cases hSame : i = j
      · rw [if_pos hSame] at hOther'
        rcases Option.map_eq_some_iff.mp hOther' with
          ⟨_, _, rfl⟩
        rw [hPair] at hAt
        cases hAt
        exact ⟨_, List.getElem?_concat_length, .inl hSame⟩
      · rw [if_neg hSame] at hOther'
        rcases h j other k hOther' hAt with
          ⟨pair, hOld, hIs⟩
        refine ⟨pair, ?_, hIs⟩
        exact List.getElem?_append_left
          (List.getElem?_eq_some_iff.mp hOld).1 ▸ hOld
  | @accepted client http http' k pair cookie _ _ _ hPair
      hHttp hIdle _ hDistinct hAt _ _ _ hLink _ =>
      have hNone := hWired.rtspClient_none hPair hHttp hIdle
      have hLess := (List.getElem?_eq_some_iff.mp hPair).1
      have hKept {j k' : Nat} {pair' : HTTPTunnelPair}
          (hOld : server.pairs[k']? = some pair')
          (hIs :
            pair'.httpClient = j ∨
              pair'.rtspClient = some j) :
          ∃ pair',
            (server.pairs.set k
              { pair with rtspClient := some i })[k']? =
                some pair' ∧
            (pair'.httpClient = j ∨
              pair'.rtspClient = some j) := by
        by_cases hSame : k = k'
        · subst hSame
          rw [hPair] at hOld
          cases hOld
          refine ⟨_, List.getElem?_set_self hLess, .inl ?_⟩
          rcases hIs with hIs | hIs
          · exact hIs
          · rw [hNone] at hIs
            cases hIs
        · rw [List.getElem?_set_ne hSame]
          exact ⟨pair', hOld, hIs⟩
      intro j other k' hOther hAt'
      have hOther' :
          ((server.setClient i client).setClient
            pair.httpClient http').clients[j]? =
              some other := hOther
      rw [setClient_get] at hOther'
      by_cases hFar : pair.httpClient = j
      · rw [if_pos hFar] at hOther'
        rcases Option.map_eq_some_iff.mp hOther' with
          ⟨_, _, rfl⟩
        rw [hLink.pair] at hAt'
        rcases h pair.httpClient http k' hHttp hAt' with
          ⟨pair', hOld, hIs⟩
        exact hKept hOld (hFar ▸ hIs)
      · rw [if_neg hFar, setClient_get] at hOther'
        by_cases hSame : i = j
        · rw [if_pos hSame] at hOther'
          rcases Option.map_eq_some_iff.mp hOther' with
            ⟨_, _, rfl⟩
          rw [hAt] at hAt'
          cases hAt'
          exact ⟨_, List.getElem?_set_self hLess,
            .inr (hSame ▸ rfl)⟩
        · rw [if_neg hSame] at hOther'
          rcases h j other k' hOther' hAt' with
            ⟨pair', hOld, hIs⟩
          exact hKept hOld hIs
  | content _ _ _ _ hOther hOwnNow =>
      refine setClient_same ?_ hOwnNow rfl
      exact h.setClient_same hOther rfl
  | idle _ => exact h

theorem step
    (h : Owned server)
    (hWired : Wired server)
    (hKeeps : KeepsIsolation server op)
    (hStep : Server.step server op = .ok server') :
    Owned server' := by
  cases Server.step_moves hStep with
  | accept =>
      intro i client k hClient hAt
      rcases getElem?_concat_cases hClient with
        hOld | ⟨_, rfl⟩
      · exact h i client k hOld hAt
      · cases hAt
  | taken _ _ hOwn hSame =>
      refine congr ?_ hSame
      exact h.setClient_same hOwn rfl
  | @ended _ i _ _ hSame =>
      refine congr ?_ hSame
      intro j client k hClient hAt
      rw [ServerState.clientLoopEnd_clients] at hClient
      rcases Option.map_eq_some_iff.mp hClient with
        ⟨before, hBefore, rfl⟩
      rw [(ServerState.clientLoopEnd_pairs server i).1]
      exact h j before k hBefore hAt
  | @round thread i given rtsp _ _ hOwn hRound hSame =>
      have hServe :=
        hKeeps.posts thread i given rtsp rfl hOwn
      exact (h.round hWired hOwn hServe hRound).congr hSame

end Owned

end Feng

namespace Feng

namespace Server

variable {trace : List (ServerState × Op)}
variable {server : ServerState}

/- Wherever the step leads, the tunnels stay isolated. -/
def StaysIsolated (server : ServerState) (op : Op) : Prop :=
  ∀ server', step server op = .ok server' →
    Isolated server op server'

/-
  The steps of a run leave every tunnel isolated exactly when
  all of them keep the tunnels apart.
-/
theorem tunnels_isolated_iff
    (hRun : (system true).Run trace server) :
    System.Guarded StaysIsolated trace ↔
      System.Guarded KeepsIsolation trace := by
  apply hRun.guarded_congr
    (I := fun s => Wired s ∧ Owned s)
  · intro s hStart
    rw [hStart]
    refine ⟨Wired.start, ?_⟩
    intro i client k hClient
    cases hClient
  · intro s op t h hKeeps hStep
    exact ⟨h.1.step hStep.2,
      h.2.step h.1 hKeeps hStep.2⟩
  · intro s op t h hStep
    rw [← isolated_iff_keeps h.1 h.2 hStep.2]
    constructor
    · intro hStays
      exact hStays t hStep.2
    · intro hIsolated t' hStep'
      rw [hStep.2] at hStep'
      cases hStep'
      exact hIsolated

/- A third client sends a POST with the cookie of a tunnel. -/
def intrudeOps : List Op :=
  openOps ++
    [.accept, .read 2 (postLines (ascii "c")),
      .round 2 2 sampleRound, .round 2 2 sampleRound]

theorem intrudeOps_run :
    (system true).Run
      (System.replayTrace step (serverNew true) intrudeOps)
      (System.replayEnd step (serverNew true) intrudeOps) :=
  System.replay_run (by decide) (by decide)

theorem tunnels_isolated_iff_intrude :
    System.Guarded StaysIsolated
        (System.replayTrace step (serverNew true)
          intrudeOps) ↔
      System.Guarded KeepsIsolation
        (System.replayTrace step (serverNew true)
          intrudeOps) :=
  tunnels_isolated_iff intrudeOps_run

/- What that client sends next goes through the tunnel. -/
theorem tunnel_shared :
    ¬ ∀ trace server,
      (system true).Run trace server →
        System.Guarded StaysIsolated trace := by
  intro hAll
  have hBefore :
      enabled
          (System.replayEnd step (serverNew true) intrudeOps)
          (.read 2 (ascii "AAAA")) ∧
        (System.replayEnd step (serverNew true)
          intrudeOps).pairs[0]? =
            some
              { rtspClient := some 1
                httpClient := 0 } ∧
        ((System.replayEnd step (serverNew true)
          intrudeOps).clients[0]?).map RTSPClient.input =
            some [] := by
    decide +kernel
  have hAfter :
      (step
          (System.replayEnd step (serverNew true) intrudeOps)
          (.read 2 (ascii "AAAA"))).toOption.bind
        (fun server =>
          (server.clients[0]?).map RTSPClient.input) =
        some (ascii "AAAA") := by
    decide +kernel
  rcases hBefore with ⟨hEnabled, hPair, hInput⟩
  rcases Option.map_eq_some_iff.mp hInput with
    ⟨http, hHttp, hEmpty⟩
  cases hStep :
    step (System.replayEnd step (serverNew true) intrudeOps)
      (.read 2 (ascii "AAAA")) with
  | error fault =>
      rw [hStep] at hAfter
      cases hAfter
  | ok server =>
      rw [hStep] at hAfter
      rcases Option.map_eq_some_iff.mp hAfter with
        ⟨http', hHttp', hTaken⟩
      have hRun :=
        System.Run.step intrudeOps_run ⟨hEnabled, hStep⟩
      have hIsolated :=
        hAll _ _ hRun _
          (List.mem_append_right _
            (List.mem_singleton_self _)) server hStep
      rcases hIsolated.input 0 _ 1 http http' hPair rfl hHttp
        hHttp' with hSuffix | ⟨buffer, hRead, _⟩
      · rw [hEmpty, hTaken] at hSuffix
        exact absurd hSuffix (by decide)
      · cases hRead

end Server

end Feng
