import Feng.Rtsp.Updates

/-
  The limit on what waits in the input of a client. A read is
  held against it for the client the bytes are appended to;
  what is decoded from these is not.

  Key definitions include:
    * `Server.BufferBounded`
    * `Server.DecodesBeyond`
    * `Server.exceeds`
    * `Server.Disconnects`
    * `Server.Flooded`

  Key theorems include:
    * `Server.BufferBounded.step`
    * `Server.buffer_bounded_iff`
    * `Server.Flooded.grow`
-/

------------------------------------------------------------
-- Rounds
------------------------------------------------------------

namespace Feng

variable {rtsp rtsp' : RTSPClient} {mem : Memory}
variable {given : RoundInput} {ret : Bool}

theorem rtspHandleInterleaved_length
    (h : rtspHandleInterleaved rtsp = .ok (rtsp', ret)) :
    rtsp'.input.length ≤ rtsp.input.length := by
  unfold rtspHandleInterleaved at h
  split at h
  · cases h
    exact Nat.le_refl _
  · simp only at h
    split at h
    · cases h
    · split at h
      · cases h
        exact Nat.le_refl _
      · cases h
        exact gByteArrayRemoveRange_length _ _

theorem handleLineResult_length
    {length : Int}
    {req : RFC822Request}
    (h : handleLineResult rtsp length req = (rtsp', ret)) :
    rtsp'.input.length ≤ rtsp.input.length := by
  unfold handleLineResult at h
  split at h
  · cases h
    exact Nat.le_refl _
  · split at h
    · cases h
      exact Nat.le_refl _
    · split at h
      · cases h
        exact Nat.le_refl _
      · unfold handleRequestLine at h
        simp only at h
        split at h
        · cases h
          exact Nat.le_refl _
        · cases h
          exact gByteArrayRemoveRange_length _ _

theorem rtspHandleNew_length
    (h : rtspHandleNew mem rtsp = .ok (rtsp', ret)) :
    rtsp'.input.length ≤ rtsp.input.length := by
  unfold rtspHandleNew at h
  split at h
  · cases h
    exact Nat.le_refl _
  · split at h
    · have hLength := rtspHandleInterleaved_length h
      exact hLength
    · split at h
      · cases h
      · simp only [Except.ok.injEq] at h
        exact handleLineResult_length h

theorem rtspHandleHeaders_length
    (h : rtspHandleHeaders mem rtsp = .ok (rtsp', ret)) :
    rtsp'.input.length ≤ rtsp.input.length := by
  unfold rtspHandleHeaders at h
  split at h
  · cases h
  · split at h
    · cases h
    · simp only at h
      split at h
      · cases h
        exact Nat.le_refl _
      · split at h
        · cases h
          exact gByteArrayRemoveRange_length _ _
        · cases h
          exact gByteArrayRemoveRange_length _ _

theorem rtspHandleContent_length
    {env : UrlEnv}
    (h : rtspHandleContent env rtsp = .ok (rtsp', ret)) :
    rtsp'.input.length ≤ rtsp.input.length := by
  unfold rtspHandleContent at h
  split at h
  · cases h
  · split at h
    · cases h
    · split at h
      · cases h
      · rename_i hRequest
        cases h
        exact Nat.le_of_eq
          (congrArg List.length
            (rtspHandleRequest_holds hRequest).input)

/- A round of an RTSP connection only takes from the input. -/
theorem rtspRound_length
    (h : rtspRound given rtsp = .ok (rtsp', ret)) :
    rtsp'.input.length ≤ rtsp.input.length := by
  unfold rtspRound at h
  split at h
  · exact rtspHandleNew_length h
  · exact rtspHandleHeaders_length h
  · exact rtspHandleContent_length h
  · exact rtspHandleInterleaved_length h

end Feng

------------------------------------------------------------
-- Runs Of The Server
------------------------------------------------------------

namespace Feng

namespace Server

/- No client has more waiting than the limit. -/
def BufferBounded (server : ServerState) : Prop :=
  ∀ (j : Nat) (rtsp : RTSPClient),
    server.clients[j]? = some rtsp →
      rtsp.input.length ≤ rtspBuffersize

/-
  What a client receives for a tunnel decodes to more than
  there is room for in the input of the RTSP client.
-/
def DecodesBeyond
    (server : ServerState)
    (i : Nat)
    (decoded : List UInt8) : Prop :=
  ∃ http ∈ server.clients[i]?, http.status = .httpContent ∧
    ∃ k ∈ http.pair, ∃ pair ∈ server.pairs[k]?,
      ∃ j ∈ pair.rtspClient, j ≠ i ∧
        ∃ rtsp ∈ server.clients[j]?,
          rtspBuffersize < rtsp.input.length + decoded.length

instance decidableDecodesBeyond
    (server : ServerState)
    (i : Nat)
    (decoded : List UInt8) :
    Decidable (DecodesBeyond server i decoded) :=
  inferInstanceAs
    (Decidable
      (∃ http ∈ server.clients[i]?,
        http.status = .httpContent ∧
          ∃ k ∈ http.pair, ∃ pair ∈ server.pairs[k]?,
            ∃ j ∈ pair.rtspClient, j ≠ i ∧
              ∃ rtsp ∈ server.clients[j]?,
                rtspBuffersize <
                  rtsp.input.length + decoded.length))

/- The peer, by its thread, that goes beyond the limit. -/
def exceeds (server : ServerState) : Op → Option Nat
| .read thread buffer =>
    match
      (readTarget server thread).bind (server.clients[·]?)
    with
    | none => none
    | some rtsp =>
        if rtspBuffersize <
            rtsp.input.length + buffer.length then
          some thread
        else
          none
| .round thread i given =>
    if DecodesBeyond server i given.decoded then
      some thread
    else
      none
| _ => none

/- The peer that goes beyond the limit is disconnected. -/
def Disconnects (server : ServerState) (op : Op) : Prop :=
  ∀ thread ∈ exceeds server op, ∀ server',
    step server op = .ok server' → ¬ Connected server' thread

/- What is decoded stays within the limit. -/
def DecodesWithin (server : ServerState) : Op → Prop
| .round _ i given => ¬ DecodesBeyond server i given.decoded
| _ => True

instance decidableDecodesWithin
    (server : ServerState) :
    (op : Op) → Decidable (DecodesWithin server op)
| .round _ i given =>
    inferInstanceAs
      (Decidable (¬ DecodesBeyond server i given.decoded))
| .accept => isTrue trivial
| .read _ _ => isTrue trivial
| .drained _ _ => isTrue trivial
| .disconnect _ => isTrue trivial

variable {server server' : ServerState} {op : Op}
variable {trace : List (ServerState × Op)}
variable {initialised : Bool}

theorem BufferBounded.step
    (h : BufferBounded server)
    (hGuard : DecodesWithin server op)
    (hStep : step server op = .ok server') :
    BufferBounded server' := by
  intro j rtsp' hClient'
  rcases step_clientMoves hStep j rtsp' hClient' with
    ⟨rtsp, hClient, hMoves⟩ | rfl
  · have hOld := h j rtsp hClient
    cases hMoves with
    | same => exact hOld
    | ended connected freed => exact hOld
    | read hFits =>
        rw [List.length_append]
        exact hFits
    | own _ hRound =>
        exact Nat.le_trans (rtspRound_length hRound) hOld
    | headers _ _ hShorter =>
        exact Nat.le_trans hShorter hOld
    | handed hOther _ hShorter =>
        exact Nat.le_trans hShorter (h _ _ hOther)
    | decoded hHttp hStatus hPair hAt hRtsp hNe =>
        rw [List.length_append]
        by_contra hLong
        exact hGuard ⟨_, hHttp, hStatus, _, hPair, _, hAt, _,
          hRtsp, hNe, rtsp, hClient, Nat.not_le.mp hLong⟩
    | emptied _ => exact Nat.zero_le _
  · exact Nat.zero_le _

/- What is decoded beyond the limit waits in the input. -/
theorem step_unbounded
    (hGuard : ¬ DecodesWithin server op)
    (hStep : step server op = .ok server') :
    ¬ BufferBounded server' := by
  cases op with
  | round thread i given =>
      simp only [DecodesWithin, not_not] at hGuard
      rcases hGuard with
        ⟨http, hHttp, hStatus, k, hPair, pair, hAt, j, hRtsp,
          hNe, rtsp, hClient, hLong⟩
      simp only [Option.mem_def] at hHttp hPair hAt hRtsp
      simp only [Option.mem_def] at hClient
      have hAfter :
          (server.setClient j
            { rtsp with
              input := rtsp.input ++ given.decoded }).clients[
                i]? = some http := by
        rw [setClient_get, if_neg hNe, hHttp]
      simp only [Server.step, hHttp, handlerRound, hStatus,
        httpHandleContent, hPair, Option.bind_some, hAt,
        hRtsp, hClient, hAfter, runNext,
        Except.ok.injEq] at hStep
      subst hStep
      intro hBounded
      have hLength := hBounded j
        { rtsp with input := rtsp.input ++ given.decoded }
        (by
          simp only [setClient_get, if_neg (Ne.symm hNe)]
          simp [hClient])
      rw [List.length_append] at hLength
      exact absurd hLong (Nat.not_lt.mpr hLength)
  | accept => exact absurd trivial hGuard
  | read _ _ => exact absurd trivial hGuard
  | drained _ _ => exact absurd trivial hGuard
  | disconnect _ => exact absurd trivial hGuard

theorem clientLoopEnd_not_connected
    (server : ServerState)
    (thread : Nat) :
    ¬ Connected (server.clientLoopEnd thread) thread := by
  unfold Connected
  rw [ServerState.clientLoopEnd_clients]
  cases server.clients[thread]? with
  | none => simp
  | some client => simp

theorem disconnects_of_within
    (hGuard : DecodesWithin server op) :
    Disconnects server op := by
  intro thread hExceeds server' hStep
  cases op with
  | read reader buffer =>
      rcases rtspTcpReadCb_cases hStep with
        ⟨_, rfl⟩ | ⟨hGoesOn, i, rtsp, hReads, hClient, _⟩
      · simp only [exceeds, Option.mem_def] at hExceeds
        split at hExceeds
        · cases hExceeds
        · split at hExceeds
          · cases hExceeds
            exact clientLoopEnd_not_connected server thread
          · cases hExceeds
      · simp only [exceeds, hReads, hClient, Option.bind_some,
          Option.mem_def] at hExceeds
        split at hExceeds
        · rename_i hLong
          simp [endsLoop, hReads, hClient, hLong] at hGoesOn
        · cases hExceeds
  | round reader i given =>
      simp only [exceeds, Option.mem_def] at hExceeds
      rw [if_neg hGuard] at hExceeds
      cases hExceeds
  | accept => cases hExceeds
  | drained _ _ => cases hExceeds
  | disconnect _ => cases hExceeds

/-
  In a run, the limit is kept in the input of every client, by
  disconnecting who would go beyond it, exactly when nothing
  that is decoded goes beyond it.
-/
theorem buffer_bounded_iff
    (hRun : (system initialised).Run trace server) :
    (System.Always BufferBounded trace server ∧
        System.Guarded Disconnects trace) ↔
      System.Guarded DecodesWithin trace := by
  have hIff :
      System.Always BufferBounded trace server ↔
        System.Guarded DecodesWithin trace := by
    apply hRun.always_iff_guarded
    · intro s hStart j rtsp hClient
      rw [hStart] at hClient
      cases hClient
    · intro s op t h hGuard hStep
      exact h.step hGuard hStep.2
    · intro s op t _ hGuard hStep
      exact step_unbounded hGuard hStep.2
  constructor
  · rintro ⟨hAlways, _⟩
    exact hIff.mp hAlways
  · intro hGuard
    refine ⟨hIff.mpr hGuard, ?_⟩
    intro x hx
    exact disconnects_of_within (hGuard x hx)

theorem openOps_run :
    (system true).Run
      (System.replayTrace step (serverNew true) openOps)
      (System.replayEnd step (serverNew true) openOps) :=
  System.replay_run (by decide) (by decide)

theorem buffer_bounded_iff_open :
    (System.Always BufferBounded
          (System.replayTrace step (serverNew true) openOps)
          (System.replayEnd step (serverNew true) openOps) ∧
        System.Guarded Disconnects
          (System.replayTrace step (serverNew true)
            openOps)) ↔
      System.Guarded DecodesWithin
        (System.replayTrace step (serverNew true) openOps) :=
  buffer_bounded_iff openOps_run

/- A round in which so many zeros are decoded. -/
def zeroRound (k : Nat) : RoundInput :=
  { sampleRound with decoded := List.replicate k 0 }

/-
  A tunnel whose handlers are done, and in whose RTSP client
  there are so many bytes that are no request.
-/
def Flooded (n : Nat) (server : ServerState) : Prop :=
  ∃ http rtsp : RTSPClient,
    server.clients = [http, rtsp] ∧
      server.pairs =
        [{ rtspClient := some 1
           httpClient := 0 }] ∧
      server.running = [] ∧
      http.status = .httpContent ∧ http.input = [] ∧
      http.pair = some 0 ∧
      rtsp.status = .begin_ ∧
      rtsp.input = List.replicate n 0 ∧
      rtsp.pair = some 0 ∧ rtsp.connected = true

theorem zeros_refused
    (n : Nat) :
    ∃ req,
      ragelParseRequestLine (List.replicate (n + 1) 0) [0]
        tmpreq = some (-1, req) := by
  rw [List.replicate_succ]
  exact ⟨_, rfl⟩

theorem zeros_round
    {n : Nat}
    {rtsp : RTSPClient}
    (hBegin : rtsp.status = .begin_)
    (hZeros : rtsp.input = List.replicate (n + 1) 0) :
    ∃ response, ∀ server i,
      handlerRound sampleRound server i rtsp =
        .ok (server.setClient i
          (rfc822ResponseSend rtsp response), .done) := by
  rcases zeros_refused n with ⟨req, hLine⟩
  have hFirst : rtsp.input.getD 0 0 ≠ chDollar := by
    rw [hZeros, List.replicate_succ]
    exact (by decide : (0 : UInt8) ≠ chDollar)
  refine ⟨rtspQuickResponse req 400, ?_⟩
  intro server i
  have hSome : ¬ rtsp.input.length < 1 := by
    simp [hZeros]
  simp only [handlerRound, hBegin, rtspHandleNew,
    if_neg hSome, if_neg hFirst]
  rw [hZeros]
  simp only [sampleRound, hLine]
  rfl

/- A read from the peer is decoded, refused and kept. -/
theorem Flooded.grow
    {n k : Nat}
    {text : List UInt8}
    (h : Flooded n server)
    (hText : text.length = rtspBuffersize)
    (hDecoded : k + 1 ≤ decodedBound rtspBuffersize)
    (hRun : (system initialised).Run trace server) :
    ∃ trace' server',
      (system initialised).Run trace' server' ∧
        Flooded (n + k + 1) server' := by
  rcases h with
    ⟨http, rtsp, hClients, hPairs, hRunning, hContent, hInput,
      hHttp, hBegin, hZeros, hPair, hConnected⟩
  let held : RTSPClient := { http with input := text }
  let spent : RTSPClient := { http with input := [] }
  let flooded : RTSPClient :=
    { rtsp with input := List.replicate (n + k + 1) 0 }
  have hSome : text ≠ [] := by
    intro hNil
    rw [hNil] at hText
    cases hText
  have hRead :
      (system initialised).step server (.read 1 text)
        { server with
          clients := [held, rtsp]
          running := [(1, 0)] } := by
    refine ⟨⟨?_, ?_, ?_⟩, ?_⟩
    · simp [Connected, hClients, hConnected]
    · simp [InLoop, hRunning]
    · rw [hText]
      exact Nat.le_succ _
    · simp [step, rtspTcpReadCb, hClients, hPair, hPairs,
        hInput, hRunning, hText, hSome,
        ServerState.setClient, held]
  have hDecode :
      (system initialised).step
        { server with
          clients := [held, rtsp]
          running := [(1, 0)] }
        (.round 1 0 (zeroRound (k + 1)))
        { server with
          clients := [spent, flooded]
          running := [(1, 1)] } := by
    refine ⟨⟨?_, ?_⟩, ?_⟩
    · exact List.mem_singleton_self _
    · simpa [held, hText, zeroRound] using hDecoded
    · simp [step, handlerRound, httpHandleContent, held,
        hContent, hHttp, hPairs, hZeros, zeroRound,
        ServerState.setClient, runNext, spent, flooded,
        Nat.add_assoc]
  have hStill : flooded.status = .begin_ := hBegin
  have hMore : flooded.input = List.replicate (n + k + 1) 0 :=
    rfl
  rcases zeros_round hStill hMore with ⟨response, hRound⟩
  have hRefuse :
      (system initialised).step
        { server with
          clients := [spent, flooded]
          running := [(1, 1)] }
        (.round 1 1 sampleRound)
        { server with
          clients :=
            [spent, rfc822ResponseSend flooded response]
          running := [] } := by
    refine ⟨⟨?_, ?_⟩, ?_⟩
    · exact List.mem_singleton_self _
    · exact Nat.zero_le _
    · simp [step, hRound, ServerState.setClient, runNext]
  exact ⟨_, _,
    .step (.step (.step hRun hRead) hDecode) hRefuse,
    spent, _, rfl, hPairs, rfl, hContent, rfl, hHttp, hBegin,
    rfl, hPair, hConnected⟩

theorem flooded_open :
    Flooded 0
      (System.replayEnd step (serverNew true) openOps) := by
  refine ⟨_, _, rfl, ?_⟩
  decide

/-
  A peer sends text for its tunnel that decodes to no request,
  without being disconnected.
-/
theorem buffer_floods :
    ¬ ∀ trace server,
      (system true).Run trace server →
        System.Always BufferBounded trace server ∧
          System.Guarded Disconnects trace := by
  intro hAll
  have hText :
      (List.replicate 5000 (65 : UInt8)).length =
        rtspBuffersize :=
    List.length_replicate
  have hDecoded : 3749 + 1 ≤ decodedBound rtspBuffersize := by
    decide
  rcases flooded_open.grow hText hDecoded openOps_run with
    ⟨trace, server, hRun, hOnce⟩
  rcases hOnce.grow hText hDecoded hRun with
    ⟨trace', server', hRun, hTwice⟩
  have hBounded := (hAll _ _ hRun).1.2
  rcases hTwice with
    ⟨http, rtsp, hClients, _, _, _, _, _, _, hZeros, _⟩
  have hLength := hBounded 1 rtsp (by rw [hClients]; rfl)
  rw [hZeros, List.length_replicate] at hLength
  exact absurd hLength (by decide)

end Server

end Feng
