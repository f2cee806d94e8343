import Feng.Rtsp.Updates

/-
  The two forms of `RTSP_handler`: the one with a switch that
  `handlerRound` is a round of, and the one with a table.

  Key definitions include:
    * `handlers`
    * `Server.tableStep`
    * `Server.FormsAgree`
    * `Server.RunsRtspOnly`
    * `Server.RtspRunning`

  Key theorems include:
    * `handlers_eq`
    * `Server.formsAgree_iff`
    * `Server.forms_agree_iff`
-/

------------------------------------------------------------
-- The Table
------------------------------------------------------------

namespace Feng

/- The place of a state in its enumeration. -/
def RFC822ParserState.value : RFC822ParserState → Nat
| .begin_ => 0
| .interleaved => 1
| .rtspHeaders => 2
| .rtspContent => 3
| .httpHeaders => 4
| .httpContent => 5
| .httpIdle => 6

abbrev StateMachineHandler :=
  RoundInput → ServerState → Nat → RTSPClient → ServerResult

/- The entries for HTTP are commented out. -/
def handlers : List StateMachineHandler :=
  [fun given server i rtsp =>
      clientRound server i (rtspHandleNew given.mem rtsp),
    fun _ server i rtsp =>
      clientRound server i (rtspHandleInterleaved rtsp),
    fun given server i rtsp =>
      clientRound server i
        (rtspHandleHeaders given.mem rtsp),
    fun given server i rtsp =>
      clientRound server i
        (rtspHandleContent given.env rtsp)]

/- The entry for a state is what the switch calls. -/
theorem handlers_eq
    (rtsp : RTSPClient) :
    handlers[rtsp.status.value]? = none ∧
        OfHttp rtsp.status ∨
      ¬ OfHttp rtsp.status ∧
        ∃ handler, handlers[rtsp.status.value]? = some handler ∧
          ∀ given server i,
            handler given server i rtsp =
              handlerRound given server i rtsp := by
  unfold handlerRound OfHttp
  cases rtsp.status with
  | begin_ => exact .inr ⟨by decide, _, rfl, fun _ _ _ => rfl⟩
  | interleaved =>
      exact .inr ⟨by decide, _, rfl, fun _ _ _ => rfl⟩
  | rtspHeaders =>
      exact .inr ⟨by decide, _, rfl, fun _ _ _ => rfl⟩
  | rtspContent =>
      exact .inr ⟨by decide, _, rfl, fun _ _ _ => rfl⟩
  | httpHeaders => exact .inl ⟨rfl, by decide⟩
  | httpContent => exact .inl ⟨rfl, by decide⟩
  | httpIdle => exact .inl ⟨rfl, by decide⟩

end Feng

------------------------------------------------------------
-- The Server With The Table
------------------------------------------------------------

namespace Feng

namespace Server

/- A function is called from beyond the table. -/
inductive TableFault where
| beyondTable
| handler (fault : HandlerFault)
deriving DecidableEq, Repr

/- A step where the rounds are those of the table. -/
def tableStep (server : ServerState) :
    Op → Except TableFault ServerState
| .round thread i given =>
    match server.clients[i]? with
    | none => .error (.handler .noClient)
    | some rtsp =>
        match handlers[rtsp.status.value]? with
        | none => .error .beyondTable
        | some handler =>
            match handler given server i rtsp with
            | .error fault => .error (.handler fault)
            | .ok (server, next) =>
                .ok (runNext server thread i next)
| op => (step server op).mapError TableFault.handler

def tableSystem (initialised : Bool) : System ServerState Op :=
  System.ofStep (serverNew initialised) enabled tableStep

/- Whatever comes next, the two forms do the same with it. -/
def FormsAgree (server : ServerState) : Prop :=
  ∀ op, enabled server op →
    tableStep server op =
      (step server op).mapError TableFault.handler

/- A client that is handled is in a state of HTTP. -/
def RunsHttp (server : ServerState) : Prop :=
  ∃ run ∈ server.running,
    ∃ rtsp ∈ server.clients[run.2]?, OfHttp rtsp.status

theorem tableStep_round
    {server : ServerState}
    {thread i : Nat}
    {given : RoundInput}
    {rtsp : RTSPClient}
    (hClient : server.clients[i]? = some rtsp)
    (hStatus : ¬ OfHttp rtsp.status) :
    tableStep server (.round thread i given) =
      (step server (.round thread i given)).mapError
        TableFault.handler := by
  rcases handlers_eq rtsp with
    ⟨_, hHttp⟩ | ⟨_, handler, hEntry, hHandler⟩
  · exact absurd hHttp hStatus
  · simp only [tableStep, step, hClient, hEntry, hHandler]
    cases handlerRound given server i rtsp with
    | error fault => rfl
    | ok result => rfl

/- There is no entry in any of the states of HTTP. -/
theorem tableStep_beyond
    {server : ServerState}
    {thread i : Nat}
    {given : RoundInput}
    {rtsp : RTSPClient}
    (hClient : server.clients[i]? = some rtsp)
    (hStatus : OfHttp rtsp.status) :
    tableStep server (.round thread i given) =
      .error .beyondTable := by
  rcases handlers_eq rtsp with
    ⟨hNone, _⟩ | ⟨hNot, _⟩
  · simp only [tableStep, hClient, hNone]
  · exact absurd hStatus hNot

/-
  The forms agree on a server as long as no client is handled
  that is in a state of HTTP.
-/
theorem formsAgree_iff
    (server : ServerState) :
    FormsAgree server ↔ ¬ RunsHttp server := by
  constructor
  · rintro hAgree ⟨⟨thread, i⟩, hRun, rtsp, hClient, hStatus⟩
    simp only [Option.mem_def] at hClient
    let given : RoundInput :=
      { sampleRound with decoded := [] }
    have hSame :=
      hAgree (.round thread i given) ⟨hRun, Nat.zero_le _⟩
    rw [tableStep_beyond hClient hStatus] at hSame
    cases hStep : step server (.round thread i given) with
    | error fault =>
        rw [hStep] at hSame
        cases hSame
    | ok server' =>
        rw [hStep] at hSame
        cases hSame
  · intro hRuns op hEnabled
    cases op with
    | round thread i given =>
        cases hClient : server.clients[i]? with
        | none =>
            simp only [tableStep, step, hClient]
            rfl
        | some rtsp =>
            apply tableStep_round hClient
            intro hHttp
            exact hRuns
              ⟨(thread, i), hEnabled.1, rtsp, hClient, hHttp⟩
    | accept => rfl
    | read _ _ => rfl
    | drained _ _ => rfl
    | disconnect _ => rfl

end Server

end Feng

------------------------------------------------------------
-- Servers Without HTTP
------------------------------------------------------------

namespace Feng

/-
  The request line of the client is there, asks for a version
  of HTTP that is supported, and for a method that is.
-/
def OpensHttp (mem : Memory) (rtsp : RTSPClient) : Prop :=
  rtsp.status = .begin_ ∧ rtsp.input ≠ [] ∧
    rtsp.input.getD 0 0 ≠ chDollar ∧
    ∃ result ∈
        ragelParseRequestLine rtsp.input mem.behind tmpreq,
      result.1 ≠ -1 ∧ result.1 ≠ 0 ∧
        headersStatus result.2.proto = some .httpHeaders ∧
        result.2.methodId ≠ RTSPMethod.invalid ∧
        result.2.methodId ≠ RTSPMethod.unsupported

instance decidableOpensHttp
    (mem : Memory)
    (rtsp : RTSPClient) :
    Decidable (OpensHttp mem rtsp) :=
  inferInstanceAs
    (Decidable
      (rtsp.status = .begin_ ∧ rtsp.input ≠ [] ∧
        rtsp.input.getD 0 0 ≠ chDollar ∧
        ∃ result ∈
            ragelParseRequestLine rtsp.input mem.behind tmpreq,
          result.1 ≠ -1 ∧ result.1 ≠ 0 ∧
            headersStatus result.2.proto =
              some .httpHeaders ∧
            result.2.methodId ≠ RTSPMethod.invalid ∧
            result.2.methodId ≠ RTSPMethod.unsupported))

variable {rtsp rtsp' : RTSPClient} {mem : Memory}
variable {given : RoundInput} {ret : Bool}

theorem handleLineResult_http
    {length : Int}
    {req : RFC822Request}
    (hResult :
      handleLineResult rtsp length req = (rtsp', true))
    (hHttp : OfHttp rtsp'.status) :
    length ≠ -1 ∧ length ≠ 0 ∧
      headersStatus req.proto = some .httpHeaders ∧
      req.methodId ≠ RTSPMethod.invalid ∧
      req.methodId ≠ RTSPMethod.unsupported := by
  unfold handleLineResult at hResult
  split at hResult
  · cases hResult
  · rename_i hGood
    split at hResult
    · cases hResult
    · rename_i hMore
      split at hResult
      · cases hResult
      · rename_i status hHeaders
        unfold handleRequestLine at hResult
        simp only at hResult
        split at hResult
        · cases hResult
        · rename_i hMethod
          cases hResult
          refine ⟨hGood, hMore, ?_,
            fun h => hMethod (.inl h),
            fun h => hMethod (.inr h)⟩
          rw [hHeaders]
          cases hProto : req.proto with
          | http10 => rw [hProto] at hHeaders; exact hHeaders.symm
          | http11 => rw [hProto] at hHeaders; exact hHeaders.symm
          | rtsp10 =>
              rw [hProto] at hHeaders
              cases hHeaders
              simp [OfHttp] at hHttp
          | _ =>
              rw [hProto] at hHeaders
              cases hHeaders

theorem rtspHandleInterleaved_http
    (hRound : rtspHandleInterleaved rtsp = .ok (rtsp', true)) :
    ¬ OfHttp rtsp'.status := by
  unfold rtspHandleInterleaved at hRound
  split at hRound
  · cases hRound
  · simp only at hRound
    split at hRound
    · cases hRound
    · split at hRound
      · cases hRound
      · cases hRound
        simp [OfHttp]

theorem rtspHandleNew_http
    (hStatus : rtsp.status = .begin_)
    (hRound : rtspHandleNew mem rtsp = .ok (rtsp', true))
    (hHttp : OfHttp rtsp'.status) :
    OpensHttp mem rtsp := by
  unfold rtspHandleNew at hRound
  split at hRound
  · cases hRound
  · rename_i hSome
    split at hRound
    · exact absurd hHttp (rtspHandleInterleaved_http hRound)
    · rename_i hFirst
      split at hRound
      · cases hRound
      · rename_i length req hLine
        simp only [Except.ok.injEq] at hRound
        refine ⟨hStatus, ?_, hFirst, _, hLine,
          handleLineResult_http hRound hHttp⟩
        intro hNil
        rw [hNil] at hSome
        exact hSome Nat.zero_lt_one

/-
  The only way from the states of RTSP to those of HTTP is by
  a request line, if another round is to follow.
-/
theorem rtspRound_http
    (hRound : rtspRound given rtsp = .ok (rtsp', true))
    (hHttp : OfHttp rtsp'.status) :
    OpensHttp given.mem rtsp := by
  unfold rtspRound at hRound
  split at hRound
  · rename_i hStatus
    exact rtspHandleNew_http hStatus hRound hHttp
  · unfold rtspHandleHeaders at hRound
    split at hRound
    · cases hRound
    · split at hRound
      · cases hRound
      · simp only at hRound
        split at hRound
        · cases hRound
        · split at hRound
          · cases hRound
          · cases hRound
            simp [OfHttp] at hHttp
  · unfold rtspHandleContent at hRound
    split at hRound
    · cases hRound
    · split at hRound
      · cases hRound
      · split at hRound
        · cases hRound
        · cases hRound
          simp [OfHttp] at hHttp
  · exact absurd hHttp (rtspHandleInterleaved_http hRound)

/- The line is read, and the thread goes on to the headers. -/
theorem OpensHttp.round
    (h : OpensHttp mem rtsp) :
    ∃ rtsp', rtspHandleNew mem rtsp = .ok (rtsp', true) ∧
      OfHttp rtsp'.status := by
  rcases h with
    ⟨_, hSome, hFirst, ⟨length, req⟩, hLine, hGood, hMore,
      hProto, hInvalid, hUnsupported⟩
  simp only [Option.mem_def] at hLine
  have hLength : ¬ rtsp.input.length < 1 := by
    have hPositive := List.length_pos_iff.mpr hSome
    omega
  simp only [rtspHandleNew, if_neg hLength, if_neg hFirst,
    hLine, handleLineResult, if_neg hGood, if_neg hMore,
    hProto, handleRequestLine]
  rw [if_neg (not_or.mpr ⟨hInvalid, hUnsupported⟩)]
  exact ⟨_, rfl, .inl rfl⟩

end Feng

------------------------------------------------------------
-- Runs Of The Two Forms
------------------------------------------------------------

namespace Feng

theorem ServerState.free_running
    (server : ServerState)
    (i : Nat) :
    (server.free i).running = server.running := by
  unfold free
  split
  · rfl
  · rfl

theorem ServerState.clientLoopEnd_running
    (server : ServerState)
    (i : Nat) :
    (server.clientLoopEnd i).running = server.running := by
  unfold clientLoopEnd
  split
  · rfl
  · simp only
    split
    · exact free_running _ _
    · split
      · rfl
      · split
        · rw [free_running, free_running]
          rfl
        · rfl

namespace Server

/-
  No request line opens an HTTP connection, and nothing is
  read from a client for which one was refused.
-/
def RunsRtspOnly (server : ServerState) : Op → Prop
| .round _ i given =>
    ∀ rtsp ∈ server.clients[i]?, ¬ OpensHttp given.mem rtsp
| .read thread buffer =>
    endsLoop server (.read thread buffer) = none →
      ∀ i ∈ readTarget server thread,
        ∀ rtsp ∈ server.clients[i]?, ¬ OfHttp rtsp.status
| _ => True

instance decidableRunsRtspOnly
    (server : ServerState) :
    (op : Op) → Decidable (RunsRtspOnly server op)
| .round _ i given =>
    inferInstanceAs
      (Decidable
        (∀ rtsp ∈ server.clients[i]?,
          ¬ OpensHttp given.mem rtsp))
| .read thread buffer =>
    inferInstanceAs
      (Decidable
        (endsLoop server (.read thread buffer) = none →
          ∀ i ∈ readTarget server thread,
            ∀ rtsp ∈ server.clients[i]?,
              ¬ OfHttp rtsp.status))
| .accept => isTrue trivial
| .drained _ _ => isTrue trivial
| .disconnect _ => isTrue trivial

/-
  There are no tunnels, so that each thread handles its own
  client, and none of them is in a state of HTTP by then.
-/
structure RtspRunning (server : ServerState) : Prop where
  pair :
    ∀ (j : Nat) (rtsp : RTSPClient),
      server.clients[j]? = some rtsp → rtsp.pair = none
  own : ∀ run ∈ server.running, run.1 = run.2
  nodup : server.running.Nodup
  rtsp : ¬ RunsHttp server

variable {server server' : ServerState} {op : Op}
variable {trace : List (ServerState × Op)}
variable {initialised : Bool} {thread i : Nat}
variable {rtsp rtsp' : RTSPClient}

theorem readTarget_own
    (h : RtspRunning server)
    (hTarget : readTarget server thread = some i) :
    i = thread := by
  unfold readTarget at hTarget
  split at hTarget
  · cases hTarget
  · rename_i own hOwn
    rw [h.pair thread own hOwn] at hTarget
    cases hTarget
    rfl

/- What is left where nobody new is handled. -/
theorem RtspRunning.frame
    (h : RtspRunning server)
    (hRunning : server'.running.Sublist server.running)
    (hClients :
      ∀ (j : Nat) (rtsp' : RTSPClient),
        server'.clients[j]? = some rtsp' →
        rtsp'.pair = none ∧
          (∀ run ∈ server'.running, run.2 = j →
            OfHttp rtsp'.status →
              ∃ rtsp ∈ server.clients[j]?,
                OfHttp rtsp.status)) :
    RtspRunning server' := by
  refine ⟨?_, ?_, h.nodup.sublist hRunning, ?_⟩
  · intro j rtsp' hClient
    exact (hClients j rtsp' hClient).1
  · intro run hRun
    exact h.own run (hRunning.subset hRun)
  · rintro ⟨run, hRun, rtsp', hClient, hHttp⟩
    apply h.rtsp
    refine ⟨run, hRunning.subset hRun, ?_⟩
    exact (hClients run.2 rtsp' hClient).2 run hRun rfl hHttp

theorem RtspRunning.clientLoopEnd
    (h : RtspRunning server)
    {waiting : List (Nat × Nat)}
    (i : Nat) :
    RtspRunning
      (ServerState.clientLoopEnd
        { server with waiting := waiting } i) := by
  refine h.frame ?_ ?_
  · rw [ServerState.clientLoopEnd_running]
  · intro j rtsp' hClient
    rw [ServerState.clientLoopEnd_clients] at hClient
    rcases Option.map_eq_some_iff.mp hClient with
      ⟨rtsp, hOld, rfl⟩
    refine ⟨h.pair j rtsp hOld, ?_⟩
    intro _ _ _ hHttp
    exact ⟨rtsp, hOld, hHttp⟩

theorem RtspRunning.round
    {given : RoundInput}
    {ret : Bool}
    (h : RtspRunning server)
    (hEnabled : (thread, i) ∈ server.running)
    (hClient : server.clients[i]? = some rtsp)
    (hRound : rtspRound given rtsp = .ok (rtsp', ret))
    (hNot : ¬ OpensHttp given.mem rtsp) :
    RtspRunning
      (runNext (server.setClient i rtsp') thread i
        (if ret then .again else .done)) := by
  have hPair : rtsp'.pair = none := by
    rw [(rtspRound_link hRound).pair]
    exact h.pair i rtsp hClient
  cases ret with
  | true =>
      refine h.frame (List.Sublist.refl _) ?_
      intro j client hNow
      rcases getElem?_set_cases hNow with
        ⟨rfl, rfl⟩ | ⟨_, hOld⟩
      · refine ⟨hPair, ?_⟩
        intro _ _ _ hHttp
        exact absurd (rtspRound_http hRound hHttp) hNot
      · refine ⟨h.pair j client hOld, ?_⟩
        intro _ _ _ hHttp
        exact ⟨client, hOld, hHttp⟩
  | false =>
      refine h.frame List.erase_sublist ?_
      intro j client hNow
      rcases getElem?_set_cases hNow with
        ⟨rfl, rfl⟩ | ⟨_, hOld⟩
      · refine ⟨hPair, ?_⟩
        -- Nobody handles the client any more.
        rintro ⟨thread', _⟩ hRun rfl _
        rcases (h.nodup.mem_erase_iff).mp hRun with
          ⟨hNe, hMem⟩
        have hThread := h.own _ hEnabled
        have hThread' := h.own _ hMem
        simp only at hThread hThread'
        exact absurd (by rw [hThread, hThread']) hNe
      · refine ⟨h.pair j client hOld, ?_⟩
        intro _ _ _ hHttp
        exact ⟨client, hOld, hHttp⟩

theorem RtspRunning.read
    {buffer : List UInt8}
    (h : RtspRunning server)
    (hLoop : InLoop server thread)
    (hClient : server.clients[thread]? = some rtsp)
    (hRtsp : ¬ OfHttp rtsp.status) :
    RtspRunning
      { server.setClient thread
          { rtsp with input := rtsp.input ++ buffer } with
        running := server.running ++ [(thread, thread)] } := by
  refine ⟨?_, ?_, ?_, ?_⟩
  · intro j client hNow
    rcases getElem?_set_cases hNow with ⟨rfl, rfl⟩ | ⟨_, hOld⟩
    · exact h.pair j rtsp hClient
    · exact h.pair j client hOld
  · intro run hRun
    rcases List.mem_append.mp hRun with hOld | hNew
    · exact h.own run hOld
    · rw [List.mem_singleton.mp hNew]
  · refine List.nodup_append.mpr
      ⟨h.nodup, by simp, ?_⟩
    intro run hOld new hNew hSame
    rw [hSame, List.mem_singleton.mp hNew] at hOld
    exact hLoop _ hOld rfl
  · rintro ⟨run, hRun, client, hNow, hHttp⟩
    simp only [Option.mem_def] at hNow
    rcases getElem?_set_cases hNow with
      ⟨hSame, rfl⟩ | ⟨hNe, hOld⟩
    · exact hRtsp hHttp
    · rcases List.mem_append.mp hRun with hBefore | hNew
      · exact h.rtsp ⟨run, hBefore, client, hOld, hHttp⟩
      · rw [List.mem_singleton.mp hNew] at hNe
        exact hNe rfl

theorem RtspRunning.step
    (h : RtspRunning server)
    (hGuard : RunsRtspOnly server op)
    (hEnabled : enabled server op)
    (hStep : step server op = .ok server') :
    RtspRunning server' := by
  cases op with
  | accept =>
      cases hStep
      refine h.frame (List.Sublist.refl _) ?_
      intro j client hNow
      rcases getElem?_concat_cases hNow with hOld | ⟨_, rfl⟩
      · refine ⟨h.pair j client hOld, ?_⟩
        intro _ _ _ hHttp
        exact ⟨client, hOld, hHttp⟩
      · refine ⟨rfl, ?_⟩
        intro _ _ _ hHttp
        simp [OfHttp, rtspClientNew] at hHttp
  | read thread buffer =>
      rcases rtspTcpReadCb_cases hStep with
        ⟨_, rfl⟩ | ⟨hGoesOn, i, rtsp, hReads, hClient, rfl⟩
      · exact h.clientLoopEnd thread
      · have hRtsp := hGuard hGoesOn i hReads rtsp hClient
        have hOwn := readTarget_own h hReads
        subst hOwn
        exact h.read hEnabled.2.1 hClient hRtsp
  | round thread i given =>
      simp only [Server.step] at hStep
      split at hStep
      · cases hStep
      · rename_i rtsp hClient
        have hRtsp : ¬ OfHttp rtsp.status := by
          intro hHttp
          exact h.rtsp
            ⟨(thread, i), hEnabled.1, rtsp, hClient, hHttp⟩
        rw [handlerRound_rtsp server i hRtsp] at hStep
        cases hRound : rtspRound given rtsp with
        | error fault =>
            rw [hRound] at hStep
            cases hStep
        | ok result =>
            rcases result with ⟨rtsp', ret⟩
            rw [hRound] at hStep
            cases hStep
            exact h.round hEnabled.1 hClient hRound
              (hGuard rtsp hClient)
  | drained thread i =>
      cases hStep
      exact h.clientLoopEnd i
  | disconnect thread =>
      cases hStep
      exact h.clientLoopEnd thread

/- Otherwise a client is handled in a state of HTTP. -/
theorem step_runsHttp
    (hGuard : ¬ RunsRtspOnly server op)
    (hEnabled : enabled server op)
    (hStep : step server op = .ok server') :
    RunsHttp server' := by
  cases op with
  | read thread buffer =>
      simp only [RunsRtspOnly, not_forall, not_not] at hGuard
      rcases hGuard with
        ⟨hGoesOn, i, hReads, rtsp, hClient, hHttp⟩
      simp only [Option.mem_def] at hReads hClient
      rcases rtspTcpReadCb_cases hStep with
        ⟨hEnds, _⟩ | ⟨_, i', rtsp', hReads', hClient', rfl⟩
      · rw [hEnds] at hGoesOn
        cases hGoesOn
      · rw [hReads] at hReads'
        cases hReads'
        rw [hClient] at hClient'
        cases hClient'
        have hNow :=
          setClient_get server i i
            { rtsp with input := rtsp.input ++ buffer }
        rw [if_pos rfl, hClient, Option.map_some] at hNow
        exact ⟨(thread, i), List.mem_append_right _
          (List.mem_singleton_self _), _, hNow, hHttp⟩
  | round thread i given =>
      simp only [RunsRtspOnly, not_forall, not_not] at hGuard
      rcases hGuard with ⟨rtsp, hClient, hOpens⟩
      simp only [Option.mem_def] at hClient
      rcases hOpens.round with ⟨rtsp', hRound, hHttp⟩
      simp only [Server.step, hClient, handlerRound, hOpens.1,
        hRound, clientRound, if_true, runNext,
        Except.ok.injEq] at hStep
      subst hStep
      refine ⟨(thread, i), hEnabled.1, rtsp', ?_, hHttp⟩
      rw [setClient_get, if_pos rfl, hClient]
      rfl
  | accept => exact absurd trivial hGuard
  | drained _ _ => exact absurd trivial hGuard
  | disconnect _ => exact absurd trivial hGuard

theorem serverNew_rtspRunning :
    RtspRunning (serverNew initialised) := by
  refine ⟨?_, ?_, List.nodup_nil, ?_⟩
  · intro j rtsp hClient
    cases hClient
  · intro run hRun
    cases hRun
  · rintro ⟨run, hRun, _⟩
    cases hRun

/-
  The form with the table takes the same run, and agrees in
  whatever can come next, exactly when the run has nothing to
  do with HTTP.
-/
theorem forms_agree_iff
    (hRun : (system initialised).Run trace server) :
    ((tableSystem initialised).Run trace server ∧
        System.Always FormsAgree trace server) ↔
      System.Guarded RunsRtspOnly trace := by
  have hIff :
      System.Always FormsAgree trace server ↔
        System.Guarded RunsRtspOnly trace := by
    apply hRun.safe_iff_guarded (I := RtspRunning)
    · intro s hStart
      rw [hStart]
      exact serverNew_rtspRunning
    · intro s op t h hGuard hStep
      exact h.step hGuard hStep.1 hStep.2
    · intro s h
      exact (formsAgree_iff s).mpr h.rtsp
    · intro s op t _ hGuard hStep hAgree
      exact (formsAgree_iff t).mp hAgree
        (step_runsHttp hGuard hStep.1 hStep.2)
  constructor
  · rintro ⟨_, hAlways⟩
    exact hIff.mp hAlways
  · intro hGuard
    have hAlways := hIff.mpr hGuard
    refine ⟨?_, hAlways⟩
    apply hRun.transfer (I := FormsAgree) _ _ hAlways
    · intro s hStart
      exact hStart
    · intro s op t hAgree hStep
      refine ⟨hStep.1, ?_⟩
      rw [hAgree op hStep.1, hStep.2]
      rfl

theorem forms_agree_iff_line :
    ((tableSystem true).Run
          (System.replayTrace step (serverNew true)
            (oneLineOps (ascii "OPTIONS * RT")
              (ascii "SP/1.0\r\n")))
          (System.replayEnd step (serverNew true)
            (oneLineOps (ascii "OPTIONS * RT")
              (ascii "SP/1.0\r\n"))) ∧
        System.Always FormsAgree
          (System.replayTrace step (serverNew true)
            (oneLineOps (ascii "OPTIONS * RT")
              (ascii "SP/1.0\r\n")))
          (System.replayEnd step (serverNew true)
            (oneLineOps (ascii "OPTIONS * RT")
              (ascii "SP/1.0\r\n")))) ↔
      System.Guarded RunsRtspOnly
        (System.replayTrace step (serverNew true)
          (oneLineOps (ascii "OPTIONS * RT")
            (ascii "SP/1.0\r\n"))) :=
  forms_agree_iff
    (System.replay_run (by decide +kernel)
      (by decide +kernel))

/- A request line of HTTP leads beyond the table. -/
theorem forms_differ :
    ¬ ∀ trace server,
      (system true).Run trace server →
        (tableSystem true).Run trace server ∧
          System.Always FormsAgree trace server := by
  intro hAll
  have hRun :
      (system true).Run
        (System.replayTrace step (serverNew true)
          (oneLineOps (ascii "GET / HT")
            (ascii "TP/1.0\r\n")))
        (System.replayEnd step (serverNew true)
          (oneLineOps (ascii "GET / HT")
            (ascii "TP/1.0\r\n"))) :=
    System.replay_run (by decide +kernel)
      (by decide +kernel)
  have hAgree := (hAll _ _ hRun).2.2
  have hSame :=
    hAgree (.round 0 0 sampleRound) (by decide +kernel)
  have hBeyond :
      tableStep
          (System.replayEnd step (serverNew true)
            (oneLineOps (ascii "GET / HT")
              (ascii "TP/1.0\r\n")))
          (.round 0 0 sampleRound) =
        .error .beyondTable := by
    decide +kernel
  have hSwitch :
      (step
          (System.replayEnd step (serverNew true)
            (oneLineOps (ascii "GET / HT")
              (ascii "TP/1.0\r\n")))
          (.round 0 0 sampleRound)).isOk = true := by
    decide +kernel
  rw [hBeyond] at hSame
  revert hSame hSwitch
  cases step
    (System.replayEnd step (serverNew true)
      (oneLineOps (ascii "GET / HT") (ascii "TP/1.0\r\n")))
    (.round 0 0 sampleRound) with
  | error fault =>
      intro _ hSwitch
      cases hSwitch
  | ok server =>
      intro hSame
      cases hSame

end Server

end Feng
