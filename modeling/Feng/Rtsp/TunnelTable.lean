import Feng.Rtsp.Tunnel

/-
  The tunnels in the table of cookies are live, as long as no
  connection goes away that takes one with it: nothing takes a
  tunnel out of the table again.

  Key definitions include:
    * `ServerState.Over`
    * `TunnelsLive`
    * `KeepsTunnels`

  Key theorems include:
    * `Server.tunnels_live_iff`
    * `Server.tunnel_dead`
-/

------------------------------------------------------------
-- Clients That Are Gone
------------------------------------------------------------

namespace Feng

namespace ServerState

def Freed (server : ServerState) (i : Nat) : Prop :=
  (server.clients[i]?).any RTSPClient.freed = true

/- The event loop of a client has been left. -/
def Gone (server : ServerState) (i : Nat) : Prop :=
  (server.clients[i]?).any RTSPClient.connected = false

/- Both connections of a tunnel are gone. -/
def Over (server : ServerState) (pair : HTTPTunnelPair) :
    Prop :=
  server.Gone pair.httpClient ∧
    ∃ j, pair.rtspClient = some j ∧ server.Gone j

instance decidableFreed
    (server : ServerState)
    (i : Nat) :
    Decidable (server.Freed i) :=
  inferInstanceAs
    (Decidable
      ((server.clients[i]?).any RTSPClient.freed = true))

/- The same clients of a server are gone afterwards. -/
structure SameGone (server server' : ServerState) :
    Prop where
  freed :
    ∀ i < server.clients.length,
      (server'.Freed i ↔ server.Freed i)
  gone :
    ∀ i < server.clients.length,
      (server'.Gone i ↔ server.Gone i)
  length : server.clients.length ≤ server'.clients.length

variable {server server' : ServerState} {i : Nat}
variable {rtsp client : RTSPClient}

theorem SameGone.trans
    {server'' : ServerState}
    (h : SameGone server server')
    (h' : SameGone server' server'') :
    SameGone server server'' := by
  refine ⟨?_, ?_, h.length.trans h'.length⟩
  · intro i hi
    exact (h'.freed i (Nat.lt_of_lt_of_le hi h.length)).trans
      (h.freed i hi)
  · intro i hi
    exact (h'.gone i (Nat.lt_of_lt_of_le hi h.length)).trans
      (h.gone i hi)

theorem SameGone.of_clients
    (h : server'.clients = server.clients) :
    SameGone server server' := by
  refine ⟨?_, ?_, h ▸ Nat.le_refl _⟩
  · intro i _
    rw [Freed, Freed, h]
  · intro i _
    rw [Gone, Gone, h]

theorem sameGone_setClient
    (hOwn : server.clients[i]? = some rtsp)
    (hConnected : client.connected = rtsp.connected)
    (hFreed : client.freed = rtsp.freed) :
    SameGone server (server.setClient i client) := by
  refine ⟨?_, ?_, ?_⟩
  · intro j _
    rw [Freed, Freed, setClient_get]
    by_cases hSame : i = j
    · rw [if_pos hSame, ← hSame, hOwn]
      simp [hFreed]
    · rw [if_neg hSame]
  · intro j _
    rw [Gone, Gone, setClient_get]
    by_cases hSame : i = j
    · rw [if_pos hSame, ← hSame, hOwn]
      simp [hConnected]
    · rw [if_neg hSame]
  · simp [setClient]

theorem sameGone_accept
    (server : ServerState)
    (client : RTSPClient) :
    SameGone server
      { server with
        clients := server.clients ++ [client] } := by
  refine ⟨?_, ?_, ?_⟩
  · intro i hi
    rw [Freed, Freed, List.getElem?_append_left hi]
  · intro i hi
    rw [Gone, Gone, List.getElem?_append_left hi]
  · simp

theorem Over.of_same
    {k : Nat}
    {pair : HTTPTunnelPair}
    (hOver : server'.Over pair)
    (hWired : Wired server)
    (hPair : server.pairs[k]? = some pair)
    (hSame : SameGone server server') :
    server.Over pair := by
  rcases hOver with ⟨hHttp, j, hRtsp, hGone⟩
  have hLess := (hWired.rtsp k pair j hPair hRtsp).2
  exact ⟨(hSame.gone _ (hWired.http_lt hPair)).mp hHttp,
    j, hRtsp, (hSame.gone j hLess).mp hGone⟩

/- A loop that ends frees some clients. -/
theorem freed_clientLoopEnd
    (hi : i < server.clients.length)
    (ended : Nat) :
    (server.clientLoopEnd ended).Freed i ↔
      server.Freed i ∨ i ∈ server.loopFrees ended := by
  rw [Freed, Freed, clientLoopEnd_clients,
    List.getElem?_eq_getElem hi]
  simp

theorem gone_clientLoopEnd
    (hi : i < server.clients.length)
    (ended : Nat) :
    (server.clientLoopEnd ended).Gone i ↔
      server.Gone i ∨ i = ended := by
  rw [Gone, Gone, clientLoopEnd_clients,
    List.getElem?_eq_getElem hi]
  by_cases hEq : i = ended
  · simp [hEq]
  · simp [hEq]

end ServerState

end Feng

------------------------------------------------------------
-- Live Tunnels
------------------------------------------------------------

namespace Feng

/-
  No tunnel in the table has lost its HTTP client, or both its
  connections; a cookie whose tunnels are all over opens a new
  one.
-/
structure TunnelsLive (server : ServerState) : Prop where
  unfreed :
    ∀ entry ∈ server.httpTunnelPairs.getD [],
      ∀ pair, server.pairs[entry.2]? = some pair →
        ¬ server.Freed pair.httpClient
  removed :
    ∀ entry ∈ server.httpTunnelPairs.getD [],
      ∀ pair, server.pairs[entry.2]? = some pair →
        ¬ server.Over pair
  accepts :
    ∀ cookie,
      (∀ entry ∈ server.httpTunnelPairs.getD [],
        entry.1 = cookie →
          ∃ pair, server.pairs[entry.2]? = some pair ∧
            server.Over pair) →
      ∀ i client (req : RFC822Request),
        rfc822HeadersLookup req.headers .xSessioncookie =
            some cookie →
          (httpTunnelCreatePair server i client req).2 = true

/-
  The loop of a client may end: the client is not the RTSP
  client of its tunnel, and not the last connection of any.
-/
structure MayLeave (server : ServerState) (i : Nat) :
    Prop where
  own :
    ∀ client k pair, server.clients[i]? = some client →
      client.pair = some k → server.pairs[k]? = some pair →
        pair.rtspClient ≠ some i
  last :
    ∀ (k : Nat) (pair : HTTPTunnelPair) (j : Nat),
      server.pairs[k]? = some pair →
        pair.rtspClient = some j →
        server.Gone pair.httpClient ∨ pair.httpClient = i →
          ¬ (server.Gone j ∨ j = i)

/-
  A client may get its round: no tunnel is opened for a client
  that is freed, nor accepted with both its ends gone.
-/
structure MayServe
    (mem : Memory)
    (server : ServerState)
    (i : Nat)
    (rtsp : RTSPClient) : Prop where
  opens :
    ∀ cookie, rtsp.status = .httpHeaders →
      httpTurn mem rtsp = some (.get (some cookie)) →
      server.lookupPair cookie = none → ¬ server.Freed i
  joins :
    ∀ cookie k pair, rtsp.status = .httpHeaders →
      httpTurn mem rtsp = some (.post (some cookie)) →
      server.lookupPair cookie = some k →
      server.pairs[k]? = some pair → server.Ready k →
        ¬ (server.Gone pair.httpClient ∧ server.Gone i)

/- A step takes no tunnel away. -/
structure KeepsTunnels
    (server : ServerState)
    (op : Server.Op) : Prop where
  leaves :
    ∀ i, Server.endsLoop server op = some i →
      MayLeave server i
  serves :
    ∀ thread i given rtsp, op = .round thread i given →
      server.clients[i]? = some rtsp →
        MayServe given.mem server i rtsp

namespace TunnelsLive

variable {server server' : ServerState} {i k : Nat}
variable {pair : HTTPTunnelPair}

theorem lookupPair_none
    {cookie : List UInt8}
    (h :
      ∀ entry ∈ server.httpTunnelPairs.getD [],
        entry.1 ≠ cookie) :
    server.lookupPair cookie = none := by
  unfold ServerState.lookupPair
  rw [List.findSome?_eq_none_iff]
  intro entry hEntry
  rw [if_neg (h entry hEntry)]

/- It is enough that no tunnel at all is dead. -/
theorem of_pairs
    (hUnfreed :
      ∀ (k : Nat) (pair : HTTPTunnelPair),
        server.pairs[k]? = some pair →
          ¬ server.Freed pair.httpClient)
    (hRemoved :
      ∀ (k : Nat) (pair : HTTPTunnelPair),
        server.pairs[k]? = some pair →
          ¬ server.Over pair) :
    TunnelsLive server := by
  refine ⟨?_, ?_, ?_⟩
  · intro entry _ pair hPair
    exact hUnfreed entry.2 pair hPair
  · intro entry _ pair hPair
    exact hRemoved entry.2 pair hPair
  · intro cookie hOver i client req hHeader
    have hNone : server.lookupPair cookie = none := by
      apply lookupPair_none
      intro entry hEntry hCookie
      rcases hOver entry hEntry hCookie with
        ⟨pair, hPair, hIs⟩
      exact hRemoved entry.2 pair hPair hIs
    simp [httpTunnelCreatePair, hHeader, hNone]

theorem pair_unfreed
    (h : TunnelsLive server)
    (hWired : Wired server)
    (hPair : server.pairs[k]? = some pair) :
    ¬ server.Freed pair.httpClient := by
  rcases hWired.table k pair hPair with ⟨cookie, hEntry⟩
  exact h.unfreed (cookie, k) hEntry pair hPair

theorem pair_not_over
    (h : TunnelsLive server)
    (hWired : Wired server)
    (hPair : server.pairs[k]? = some pair) :
    ¬ server.Over pair := by
  rcases hWired.table k pair hPair with ⟨cookie, hEntry⟩
  exact h.removed (cookie, k) hEntry pair hPair

/- Nothing changes about the pairs, or who is gone. -/
theorem frame
    (h : TunnelsLive server)
    (hWired : Wired server)
    (hPairs : server'.pairs = server.pairs)
    (hSame : ServerState.SameGone server server') :
    TunnelsLive server' := by
  apply of_pairs
  · intro k pair hPair
    rw [hPairs] at hPair
    rw [hSame.freed _ (hWired.http_lt hPair)]
    exact h.pair_unfreed hWired hPair
  · intro k pair hPair hOver
    rw [hPairs] at hPair
    exact h.pair_not_over hWired hPair
      (hOver.of_same hWired hPair hSame)

end TunnelsLive

end Feng

------------------------------------------------------------
-- Steps And The Tunnels
------------------------------------------------------------

namespace Feng

namespace TunnelsLive

variable {given : RoundInput}
variable {server server' : ServerState}
variable {rtsp : RTSPClient} {i k : Nat}
variable {pair : HTTPTunnelPair} {op : Server.Op}

/- A loop that may end frees no HTTP client of a tunnel. -/
theorem clientLoopEnd
    (h : TunnelsLive server)
    (hWired : Wired server)
    (hLeave : MayLeave server i) :
    TunnelsLive (server.clientLoopEnd i) := by
  have hPairs :=
    (ServerState.clientLoopEnd_pairs server i).1
  apply of_pairs
  · intro k pair hPair hFreed
    rw [hPairs] at hPair
    rw [ServerState.freed_clientLoopEnd
      (hWired.http_lt hPair)] at hFreed
    rcases hFreed with hFreed | hFrees
    · exact h.pair_unfreed hWired hPair hFreed
    · rcases ServerState.mem_loopFrees.mp hFrees with
        ⟨client, hClient, ⟨hNone, hSame⟩ |
          ⟨k', pair', hAt, hPair', hRtsp, _⟩⟩
      · rcases hWired.http k pair hPair with
          ⟨other, hOther, hSome, _⟩
        rw [hSame, hClient] at hOther
        cases hOther
        rw [hNone] at hSome
        cases hSome
      · exact hLeave.own client k' pair' hClient hAt hPair'
          hRtsp
  · intro k pair hPair hOver
    rw [hPairs] at hPair
    rcases hOver with ⟨hHttp, j, hRtsp, hGone⟩
    rw [ServerState.gone_clientLoopEnd
      (hWired.http_lt hPair)] at hHttp
    rw [ServerState.gone_clientLoopEnd
      (hWired.rtsp k pair j hPair hRtsp).2] at hGone
    exact hLeave.last k pair j hPair hRtsp hHttp hGone

theorem round
    (h : TunnelsLive server)
    (hWired : Wired server)
    (hOwn : server.clients[i]? = some rtsp)
    (hServe : MayServe given.mem server i rtsp)
    (hRound : RoundMoves given server i rtsp server') :
    TunnelsLive server' := by
  cases hRound with
  | own _ hLink =>
      exact h.frame hWired rfl
        (ServerState.sameGone_setClient hOwn hLink.connected
          hLink.freed)
  | headers turn _ _ _ hLink _ _ =>
      exact h.frame hWired rfl
        (ServerState.sameGone_setClient hOwn hLink.connected
          hLink.freed)
  | refused cookie _ _ _ _ hConnected hFreed _ =>
      exact h.frame hWired rfl
        (ServerState.sameGone_setClient hOwn hConnected
          hFreed)
  | @created client cookie hStatus hTurn hNone hPair _
      hConnected hFreed =>
      have hSame :=
        ServerState.sameGone_setClient hOwn hConnected hFreed
      apply of_pairs
      · intro k pair hAt
        rcases getElem?_concat_cases hAt with
          hOld | ⟨_, rfl⟩
        · exact fun hGone =>
            h.pair_unfreed hWired hOld
              ((hSame.freed _ (hWired.http_lt hOld)).mp hGone)
        · exact fun hGone =>
            hServe.opens cookie hStatus hTurn hNone
              ((hSame.freed i
                (List.getElem?_eq_some_iff.mp hOwn).1).mp
                  hGone)
      · intro k pair hAt hOver
        rcases getElem?_concat_cases hAt with
          hOld | ⟨_, rfl⟩
        · have hOver' :
              (server.setClient i client).Over pair := hOver
          exact h.pair_not_over hWired hOld
            (hOver'.of_same hWired hOld hSame)
        · rcases hOver with ⟨_, j, hRtsp, _⟩
          cases hRtsp
  | @accepted client http http' k pair cookie hStatus hTurn
      hFound hPair hHttp hIdle hInput hDistinct _ hConnected
      hFreed _ hLink _ =>
      have hSame :
          ServerState.SameGone server
            ((server.setClient i client).setClient
              pair.httpClient http') := by
        refine ServerState.SameGone.trans
          (ServerState.sameGone_setClient hOwn hConnected
            hFreed)
          (ServerState.sameGone_setClient ?_
            hLink.connected hLink.freed)
        rw [setClient_get, if_neg hDistinct]
        exact hHttp
      have hReady : server.Ready k := by
        simp [ServerState.Ready, hPair, hHttp, hIdle, hInput]
      have hLess := (List.getElem?_eq_some_iff.mp hOwn).1
      apply of_pairs
      · intro k' pair' hAt hGone
        rcases getElem?_set_cases hAt with
          ⟨_, rfl⟩ | ⟨_, hOld⟩
        · exact h.pair_unfreed hWired hPair
            ((hSame.freed _ (hWired.http_lt hPair)).mp hGone)
        · exact h.pair_unfreed hWired hOld
            ((hSame.freed _ (hWired.http_lt hOld)).mp hGone)
      · intro k' pair' hAt hOver
        rcases getElem?_set_cases hAt with
          ⟨_, rfl⟩ | ⟨_, hOld⟩
        · rcases hOver with ⟨hHttpGone, j, hRtsp, hGone⟩
          cases hRtsp
          apply hServe.joins cookie k pair hStatus hTurn
            hFound hPair hReady
          exact ⟨
            (hSame.gone _ (hWired.http_lt hPair)).mp
              hHttpGone,
            (hSame.gone i hLess).mp hGone⟩
        · have hOver' :
              ((server.setClient i client).setClient
                pair.httpClient http').Over pair' := hOver
          exact h.pair_not_over hWired hOld
            (hOver'.of_same hWired hOld hSame)
  | @content other own j k pair _ _ _ _ hOther hOwnNow =>
      have hDecoded :
          ServerState.SameGone server
            (server.setClient j
              { other with
                input := other.input ++ given.decoded }) :=
        ServerState.sameGone_setClient hOther rfl rfl
      exact h.frame hWired rfl (hDecoded.trans
        (ServerState.sameGone_setClient hOwnNow rfl rfl))
  | idle _ => exact h

theorem step
    (h : TunnelsLive server)
    (hWired : Wired server)
    (hKeeps : KeepsTunnels server op)
    (hStep : Server.step server op = .ok server') :
    TunnelsLive server' := by
  cases Server.step_moves hStep with
  | accept =>
      exact h.frame hWired rfl
        (ServerState.sameGone_accept server rtspClientNew)
  | taken _ _ hRtsp hSame =>
      apply h.frame hWired hSame.pairs
      refine ServerState.SameGone.trans ?_
        (ServerState.SameGone.of_clients hSame.clients)
      exact ServerState.sameGone_setClient hRtsp rfl rfl
  | @ended _ i _ hEnds hSame =>
      have hEnded :=
        h.clientLoopEnd hWired (hKeeps.leaves i hEnds)
      exact hEnded.frame (hWired.clientLoopEnd i) hSame.pairs
        (ServerState.SameGone.of_clients hSame.clients)
  | @round thread i given rtsp after _ hOwn hRound hSame =>
      have hAfter :=
        h.round hWired hOwn
          (hKeeps.serves thread i given rtsp rfl hOwn) hRound
      exact hAfter.frame (hWired.round hOwn hRound)
        hSame.pairs
        (ServerState.SameGone.of_clients hSame.clients)

/- A loop that may not end takes a tunnel with it. -/
theorem not_clientLoopEnd
    (hWired : Wired server)
    (hLeave : ¬ MayLeave server i) :
    ¬ TunnelsLive (server.clientLoopEnd i) := by
  intro h
  have hPairs :=
    (ServerState.clientLoopEnd_pairs server i).1
  have hEnded := hWired.clientLoopEnd i
  apply hLeave
  refine ⟨?_, ?_⟩
  · intro client k pair hClient hAt hPair hRtsp
    apply h.pair_unfreed hEnded (hPairs ▸ hPair)
    rw [ServerState.freed_clientLoopEnd
      (hWired.http_lt hPair)]
    right
    exact ServerState.mem_loopFrees.mpr
      ⟨client, hClient,
        .inr ⟨k, pair, hAt, hPair, hRtsp, .inl rfl⟩⟩
  · intro k pair j hPair hRtsp hHttp hGone
    apply h.pair_not_over hEnded (hPairs ▸ hPair)
    refine ⟨?_, j, hRtsp, ?_⟩
    · rw [ServerState.gone_clientLoopEnd
        (hWired.http_lt hPair)]
      exact hHttp
    · rw [ServerState.gone_clientLoopEnd
        (hWired.rtsp k pair j hPair hRtsp).2]
      exact hGone

/- A round that may not be leaves a dead tunnel. -/
theorem not_round
    (hWired : Wired server)
    (hOwn : server.clients[i]? = some rtsp)
    (hServe : ¬ MayServe given.mem server i rtsp)
    (hRound : RoundMoves given server i rtsp server') :
    ¬ TunnelsLive server' := by
  intro h
  have hAfter := hWired.round hOwn hRound
  have hLess := (List.getElem?_eq_some_iff.mp hOwn).1
  apply hServe
  refine ⟨?_, ?_⟩
  · intro cookie hStatus hTurn hNone hFreed
    cases hRound with
    | own hNot _ => exact hNot (.inl hStatus)
    | headers turn _ hTurn' hAway _ _ _ =>
        rw [hTurn] at hTurn'
        cases hTurn'
        exact hAway cookie rfl hNone
    | refused cookie' _ hTurn' _ _ _ _ _ =>
        rw [hTurn] at hTurn'
        cases hTurn'
    | @created client cookie' _ _ _ _ _ hConnected hFreed' =>
        have hSame :=
          ServerState.sameGone_setClient hOwn hConnected
            hFreed'
        have hNew :
            (server.pairs ++
                [{ rtspClient := none
                   httpClient := i }])[
                server.pairs.length]? =
              some
                { rtspClient := none
                  httpClient := i } :=
          List.getElem?_concat_length
        exact h.pair_unfreed hAfter hNew
          ((hSame.freed i hLess).mpr hFreed)
    | accepted cookie' _ hTurn' =>
        rw [hTurn] at hTurn'
        cases hTurn'
    | content hStatus' =>
        rw [hStatus] at hStatus'
        cases hStatus'
    | idle hStatus' =>
        rw [hStatus] at hStatus'
        cases hStatus'
  · rintro cookie k pair hStatus hTurn hFound hPair hReady
      ⟨hHttpGone, hGone⟩
    cases hRound with
    | own hNot _ => exact hNot (.inl hStatus)
    | headers turn _ hTurn' hAway _ _ _ =>
        rw [hTurn] at hTurn'
        cases hTurn'
        cases hAway
    | refused cookie' _ hTurn' hNot _ _ _ _ =>
        rw [hTurn] at hTurn'
        cases hTurn'
        exact hNot k hFound hReady
    | created cookie' _ hTurn' =>
        rw [hTurn] at hTurn'
        cases hTurn'
    | @accepted client http http' k' pair' cookie' _ hTurn'
        hFound' hPair' hHttp _ _ hDistinct _ hConnected
        hFreed _ hLink _ =>
        rw [hTurn] at hTurn'
        cases hTurn'
        rw [hFound] at hFound'
        cases hFound'
        rw [hPair] at hPair'
        cases hPair'
        have hSame :
            ServerState.SameGone server
              ((server.setClient i client).setClient
                pair.httpClient http') := by
          refine ServerState.SameGone.trans
            (ServerState.sameGone_setClient hOwn hConnected
              hFreed)
            (ServerState.sameGone_setClient ?_
              hLink.connected hLink.freed)
          rw [setClient_get, if_neg hDistinct]
          exact hHttp
        have hNew :
            (server.pairs.set k
                { pair with rtspClient := some i })[k]? =
              some { pair with rtspClient := some i } := by
          rw [List.getElem?_set_self
            (List.getElem?_eq_some_iff.mp hPair).1]
        exact h.pair_not_over hAfter hNew
          ⟨(hSame.gone _ (hWired.http_lt hPair)).mpr
              hHttpGone,
            i, rfl, (hSame.gone i hLess).mpr hGone⟩
    | content hStatus' =>
        rw [hStatus] at hStatus'
        cases hStatus'
    | idle hStatus' =>
        rw [hStatus] at hStatus'
        cases hStatus'

/- The tunnels depend on the clients, pairs and cookies. -/
theorem congr
    (h : TunnelsLive server')
    (hWired : Wired server')
    (hSame : Server.SameTunnels server server') :
    TunnelsLive server :=
  h.frame hWired hSame.pairs.symm
    (ServerState.SameGone.of_clients hSame.clients.symm)

theorem not_step
    (hWired : Wired server)
    (hKeeps : ¬ KeepsTunnels server op)
    (hStep : Server.step server op = .ok server') :
    ¬ TunnelsLive server' := by
  intro h
  have hAfter := hWired.step hStep
  apply hKeeps
  refine ⟨?_, ?_⟩
  · intro i hEnds
    by_contra hLeave
    cases Server.step_moves hStep with
    | accept => cases hEnds
    | taken hGoesOn =>
        rw [hEnds] at hGoesOn
        cases hGoesOn
    | @ended _ j _ hEnds' hSame =>
        rw [hEnds] at hEnds'
        cases hEnds'
        exact not_clientLoopEnd hWired hLeave
          (h.congr hAfter hSame)
    | round => cases hEnds
  · intro thread i given rtsp hOp hOwn
    by_contra hServe
    cases Server.step_moves hStep with
    | accept => cases hOp
    | taken => cases hOp
    | ended hEnds =>
        rw [hOp] at hEnds
        cases hEnds
    | round hOwn' hRound hSame =>
        cases hOp
        rw [hOwn] at hOwn'
        cases hOwn'
        exact not_round hWired hOwn hServe hRound
          (h.congr hAfter hSame)

end TunnelsLive

end Feng

------------------------------------------------------------
-- Runs And The Tunnels
------------------------------------------------------------

namespace Feng

namespace Server

variable {trace : List (ServerState × Op)}
variable {server : ServerState}

/-
  The tunnels in the table are live throughout a run exactly
  when no step of it takes one away.
-/
theorem tunnels_live_iff
    (hRun : (system true).Run trace server) :
    System.Always TunnelsLive trace server ↔
      System.Guarded KeepsTunnels trace := by
  have hWired := Wired.always hRun
  have hBoth :
      System.Always (fun s => Wired s ∧ TunnelsLive s) trace
          server ↔
        System.Guarded KeepsTunnels trace := by
    apply hRun.always_iff_guarded
    · intro s hStart
      rw [hStart]
      refine ⟨Wired.start, TunnelsLive.of_pairs ?_ ?_⟩
      · intro k pair hPair
        cases hPair
      · intro k pair hPair
        cases hPair
    · intro s op t h hKeeps hStep
      exact ⟨h.1.step hStep.2,
        h.2.step h.1 hKeeps hStep.2⟩
    · intro s op t h hKeeps hStep hAfter
      exact TunnelsLive.not_step h.1 hKeeps hStep.2 hAfter.2
  rw [← hBoth, System.always_and]
  exact ⟨fun h => ⟨hWired, h⟩, And.right⟩

/- The client that sent the POST of a tunnel disconnects. -/
def closeOps : List Op :=
  openOps ++ [.disconnect 1]

theorem closeOps_run :
    (system true).Run
      (System.replayTrace step (serverNew true) closeOps)
      (System.replayEnd step (serverNew true) closeOps) :=
  System.replay_run (by decide) (by decide)

theorem tunnels_live_iff_close :
    System.Always TunnelsLive
        (System.replayTrace step (serverNew true) closeOps)
        (System.replayEnd step (serverNew true) closeOps) ↔
      System.Guarded KeepsTunnels
        (System.replayTrace step (serverNew true) closeOps) :=
  tunnels_live_iff closeOps_run

/- The HTTP client of a tunnel in the table has been freed. -/
theorem tunnel_dead :
    ¬ ∀ trace server,
      (system true).Run trace server →
        System.Always TunnelsLive trace server := by
  intro hAll
  have hLive := (hAll _ _ closeOps_run).2
  have hEnd :
      (System.replayEnd step (serverNew true)
          closeOps).Freed 0 ∧
        (ascii "c", 0) ∈
          (System.replayEnd step (serverNew true)
            closeOps).httpTunnelPairs.getD [] ∧
        (System.replayEnd step (serverNew true)
          closeOps).pairs[0]? =
            some
              { rtspClient := some 1
                httpClient := 0 } := by
    decide +kernel
  rcases hEnd with ⟨hFreed, hEntry, hPair⟩
  exact hLive.unfreed (ascii "c", 0) hEntry _ hPair hFreed

end Server

end Feng
