import Feng.Play.Replies

/-
  The whole server: its connections, and what each client
  plays. The round that handles a request is that of a client
  that plays; all other rounds are those of the connections.

  Key definitions include:
    * `Serving.ServingState`
    * `Serving.handleContent`
    * `Serving.step`
    * `Serving.system`
    * `Serving.Printed`

  Key theorems include:
    * `Serving.no_response_splitting`
-/

------------------------------------------------------------
-- The State
------------------------------------------------------------

namespace Feng

namespace Serving

/- What a client plays, without its connection. -/
structure Player where
  playback : Play.Playback
  ranges : List (Option RTSPRange)
  evTimeout : Bool
  firstFreeChannel : Nat
  channels : Option (List (Nat × Nat))
  nextAddress : Nat
deriving DecidableEq, Repr

/- The player of a client that plays, and the other way. -/
def playerOf (s : Play.Client) : Player where
  playback := s.playback
  ranges := s.ranges
  evTimeout := s.evTimeout
  firstFreeChannel := s.firstFreeChannel
  channels := s.channels
  nextAddress := s.nextAddress

def Player.client
    (player : Player)
    (rtsp : RTSPClient) : Play.Client where
  rtsp := rtsp
  playback := player.playback
  ranges := player.ranges
  evTimeout := player.evTimeout
  firstFreeChannel := player.firstFreeChannel
  channels := player.channels
  nextAddress := player.nextAddress

/- The connections, and the player of each of them. -/
structure ServingState where
  server : ServerState
  players : List Player
deriving DecidableEq

def servingNew (initialised : Bool) : ServingState where
  server := serverNew initialised
  players := []

namespace ServingState

def clientAt
    (s : ServingState)
    (i : Nat) : Option Play.Client :=
  match s.server.clients[i]?, s.players[i]? with
  | some rtsp, some player => some (player.client rtsp)
  | _, _ => none

def setClientAt
    (s : ServingState)
    (i : Nat)
    (client : Play.Client) : ServingState where
  server := s.server.setClient i client.rtsp
  players := s.players.set i (playerOf client)

end ServingState

inductive Fault where
| handler (fault : HandlerFault)
| play (fault : Play.Fault)
deriving DecidableEq, Repr

end Serving

end Feng

------------------------------------------------------------
-- Runs Of The Whole Server
------------------------------------------------------------

namespace Feng

namespace Serving

/- `rtsp_handle_content`, for a client that plays. -/
def handleContent
    (env : Play.Env)
    (s : Play.Client) : Except Fault Play.Client :=
  match s.rtsp.pendingRequest with
  | none => .error (.handler .nullRequest)
  | some req =>
      if rfc822HeadersLookup req.headers .contentLength ≠
          none then
        .error (.handler .assertion)
      else
        match Play.rtspHandleRequest env
            { s with
              rtsp :=
                { s.rtsp with
                  dispatched :=
                    s.rtsp.dispatched ++ [.request req] } }
            req with
        | .error fault => .error (.play fault)
        | .ok s =>
            .ok { s with
              rtsp := { s.rtsp with status := .begin_ } }

inductive Op where
/- A step of the connections that handles no request. -/
| server (op : Server.Op)
/- A thread handles the request of a client. -/
| request (thread i : Nat) (env : Play.Env)
/- The writer of an RTP session of a client is due. -/
| write (i address : Nat) (env : Play.WriterEnv)
/- The timer of a client expires. -/
| timeout (i time : Nat)

/- The next round of a client handles its request. -/
def TakesRequest (server : ServerState) (i : Nat) : Prop :=
  (server.clients[i]?).any
    (fun client => client.status = .rtspContent) = true

instance decidableTakesRequest
    (server : ServerState)
    (i : Nat) :
    Decidable (TakesRequest server i) :=
  inferInstanceAs
    (Decidable
      ((server.clients[i]?).any
        (fun client => client.status = .rtspContent) = true))

def HandlesRequest (server : ServerState) : Server.Op → Prop
| .round _ i _ => TakesRequest server i
| _ => False

instance decidableHandlesRequest
    (server : ServerState) :
    (op : Server.Op) → Decidable (HandlesRequest server op)
| .accept => isFalse id
| .read _ _ => isFalse id
| .round _ i _ =>
    inferInstanceAs (Decidable (TakesRequest server i))
| .drained _ _ => isFalse id
| .disconnect _ => isFalse id

/- A writer or the timer goes off in the loop of its client. -/
def GoesOff
    (s : ServingState)
    (i : Nat)
    (op : Play.Op) : Prop :=
  Server.Connected s.server i ∧ Server.InLoop s.server i ∧
    ∀ client, s.clientAt i = some client →
      Play.enabled client op

instance decidableGoesOff
    (s : ServingState)
    (i : Nat)
    (op : Play.Op) :
    Decidable (GoesOff s i op) :=
  inferInstanceAs
    (Decidable
      ((s.server.clients[i]?).any RTSPClient.connected =
          true ∧
        Server.InLoop s.server i ∧
        ∀ client, s.clientAt i = some client →
          Play.enabled client op))

def enabled (s : ServingState) : Op → Prop
| .server op =>
    Server.enabled s.server op ∧ ¬ HandlesRequest s.server op
| .request thread i _ =>
    (thread, i) ∈ s.server.running ∧ TakesRequest s.server i
| .write i address env => GoesOff s i (.write address env)
| .timeout i time => GoesOff s i (.timeout time)

instance decidableEnabled
    (s : ServingState) :
    (op : Op) → Decidable (enabled s op)
| .server op =>
    inferInstanceAs
      (Decidable
        (Server.enabled s.server op ∧
          ¬ HandlesRequest s.server op))
| .request thread i _ =>
    inferInstanceAs
      (Decidable
        ((thread, i) ∈ s.server.running ∧
          TakesRequest s.server i))
| .write i address env =>
    inferInstanceAs
      (Decidable (GoesOff s i (.write address env)))
| .timeout i time =>
    inferInstanceAs
      (Decidable (GoesOff s i (.timeout time)))

/- The players there are after a step of the connections. -/
def playersAfter
    (players : List Player) : Server.Op → List Player
| .accept => players ++ [playerOf Play.clientNew]
| _ => players

/- What a client does, with the players of the others. -/
def clientStep
    (s : ServingState)
    (i : Nat)
    (f : Play.Client → Except Fault Play.Client) :
    Except Fault (ServingState × Play.Client) :=
  match s.clientAt i with
  | none => .error (.handler .noClient)
  | some client =>
      match f client with
      | .error fault => .error fault
      | .ok client => .ok (s.setClientAt i client, client)

/- A fault of a client that plays. -/
def playFault
    (result : Except Play.Fault Play.Client) :
    Except Fault Play.Client :=
  match result with
  | .error fault => .error (.play fault)
  | .ok client => .ok client

def step (s : ServingState) :
    Op → Except Fault ServingState
| .server op =>
    match Server.step s.server op with
    | .error fault => .error (.handler fault)
    | .ok server =>
        .ok
          { server := server
            players := playersAfter s.players op }
| .request _ i env =>
    match clientStep s i (handleContent env) with
    | .error fault => .error fault
    | .ok (s, _) => .ok s
| .write i address env =>
    match clientStep s i (fun client =>
        playFault (Play.writeStep env client address)) with
    | .error fault => .error fault
    | .ok (s, _) => .ok s
| .timeout i time =>
    match clientStep s i (fun client =>
        playFault (Play.clientEvTimeout time client)) with
    | .error fault => .error fault
    | .ok (s, client) =>
        -- The loop is left when a stream has timed out.
        if client.rtsp.connected then
          .ok s
        else
          .ok { s with server := s.server.clientLoopEnd i }

def system (initialised : Bool) : System ServingState Op :=
  System.ofStep (servingNew initialised) enabled step

end Serving

end Feng

------------------------------------------------------------
-- What Is Sent Is Clean
------------------------------------------------------------

namespace Feng

namespace Serving

variable {s s' : ServingState} {client client' : Play.Client}
variable {i : Nat} {op : Op}

/- No connection and no player has text that ends a line. -/
structure Clean (s : ServingState) : Prop where
  clients : AllClean s.server
  players : ∀ player ∈ s.players,
    ∀ session ∈ player.playback.rtpSessions,
      CleanText session.uri

/- What is printed for a request is as it is documented. -/
def Printed : Op → Prop
| .request _ _ env => env.Printed
| _ => True

theorem clean_servingNew (initialised : Bool) :
    Clean (servingNew initialised) where
  clients := by
    intro i client hAt
    cases hAt
  players := by
    intro player hMem
    cases hMem

theorem Clean.clientAt
    (h : Clean s)
    (hAt : s.clientAt i = some client) :
    Play.CleanPlay client := by
  unfold ServingState.clientAt at hAt
  split at hAt
  · rename_i rtsp player hRtsp hPlayer
    cases hAt
    exact ⟨h.clients i rtsp hRtsp,
      h.players player (List.mem_of_getElem? hPlayer)⟩
  · cases hAt

theorem Clean.setClientAt
    (h : Clean s)
    (hClient : Play.CleanPlay client)
    (i : Nat) :
    Clean (s.setClientAt i client) where
  clients := h.clients.setClient hClient.client i
  players := by
    intro player hMem
    rcases List.mem_or_eq_of_mem_set hMem with hOld | rfl
    · exact h.players player hOld
    · exact hClient.uris

/- A client does something that keeps it clean. -/
theorem Clean.clientStep
    {f : Play.Client → Except Fault Play.Client}
    (h : Clean s)
    (hKeeps : ∀ client client', Play.CleanPlay client →
      f client = .ok client' → Play.CleanPlay client')
    (hStep : clientStep s i f = .ok (s', client')) :
    Clean s' := by
  unfold Serving.clientStep at hStep
  split at hStep
  · cases hStep
  · rename_i old hAt
    split at hStep
    · cases hStep
    · rename_i next hNext
      cases hStep
      exact h.setClientAt
        (hKeeps old _ (h.clientAt hAt) hNext) i

theorem handleContent_clean
    {env : Play.Env}
    (h : Play.CleanPlay client)
    (hEnv : env.Printed)
    (hContent : handleContent env client = .ok client') :
    Play.CleanPlay client' := by
  unfold handleContent at hContent
  split at hContent
  · cases hContent
  · rename_i req hPending
    split at hContent
    · cases hContent
    · split at hContent
      · cases hContent
      · rename_i next hRequest
        cases hContent
        have hDispatched :
            CleanClient
              { client.rtsp with
                dispatched :=
                  client.rtsp.dispatched ++
                    [.request req] } :=
          ⟨h.client.responses, h.client.pending,
            h.client.session⟩
        have hNext :=
          Play.rtspHandleRequest_clean (h.setRtsp hDispatched)
            hEnv (h.client.pending req hPending) hRequest
        apply hNext.setRtsp
        exact ⟨hNext.client.responses, hNext.client.pending,
          hNext.client.session⟩

theorem playFault_eq_ok
    {result : Except Play.Fault Play.Client} :
    playFault result = .ok client ↔ result = .ok client := by
  cases result with
  | error fault => simp [playFault]
  | ok other => simp [playFault]

/- The connections take a step in which no request is handled. -/
theorem server_clean
    {server server' : ServerState}
    {op : Server.Op}
    (hAll : AllClean server)
    (hNone : ¬ HandlesRequest server op)
    (hStep : Server.step server op = .ok server') :
    AllClean server' := by
  cases op with
  | accept =>
      cases hStep
      exact hAll.accept rfl
  | read thread buffer =>
      rcases Server.rtspTcpReadCb_cases hStep with
        ⟨_, rfl⟩ | ⟨_, i, rtsp, _, hRtsp, rfl⟩
      · exact hAll.clientLoopEnd thread
      · have hOld := hAll i rtsp hRtsp
        refine (hAll.setClient (i := i) ?_).congr rfl
        exact ⟨hOld.responses, hOld.pending, hOld.session⟩
  | round thread i given =>
      simp only [Server.step] at hStep
      split at hStep
      · cases hStep
      · rename_i rtsp hOwn
        split at hStep
        · cases hStep
        · rename_i after next hRound
          cases hStep
          have hStatus : rtsp.status ≠ .rtspContent := by
            intro hIs
            apply hNone
            simp [HandlesRequest, TakesRequest, hOwn, hIs]
          exact (hAll.round hOwn hStatus hRound).congr
            (Server.runNext_tunnels after thread i next).clients
  | drained thread i =>
      cases hStep
      exact (hAll.clientLoopEnd i).congr
        (Server.clientLoopEnd_tunnels server _ i).clients
  | disconnect thread =>
      cases hStep
      exact hAll.clientLoopEnd thread

theorem playersAfter_clean
    {players : List Player}
    (hPlayers : ∀ player ∈ players,
      ∀ session ∈ player.playback.rtpSessions,
        CleanText session.uri)
    (op : Server.Op) :
    ∀ player ∈ playersAfter players op,
      ∀ session ∈ player.playback.rtpSessions,
        CleanText session.uri := by
  cases op with
  | accept =>
      intro player hMem
      rcases List.mem_append.mp hMem with hOld | hNew
      · exact hPlayers player hOld
      · rw [List.mem_singleton.mp hNew]
        intro session hSession
        cases hSession
  | read thread buffer => exact hPlayers
  | round thread i given => exact hPlayers
  | drained thread i => exact hPlayers
  | disconnect thread => exact hPlayers

theorem Clean.step
    (h : Clean s)
    (hPrinted : Printed op)
    (hEnabled : enabled s op)
    (hStep : step s op = .ok s') :
    Clean s' := by
  cases op with
  | server op =>
      simp only [Serving.step] at hStep
      split at hStep
      · cases hStep
      · rename_i server hServer
        cases hStep
        exact ⟨server_clean h.clients hEnabled.2 hServer,
          playersAfter_clean h.players op⟩
  | request thread i env =>
      simp only [Serving.step] at hStep
      split at hStep
      · cases hStep
      · rename_i hContent
        cases hStep
        exact h.clientStep
          (fun _ _ hClient hNext =>
            handleContent_clean hClient hPrinted hNext)
          hContent
  | write i address env =>
      simp only [Serving.step] at hStep
      split at hStep
      · cases hStep
      · rename_i hWrite
        cases hStep
        exact h.clientStep
          (fun _ _ hClient hNext =>
            Play.writeStep_clean hClient
              (playFault_eq_ok.mp hNext))
          hWrite
  | timeout i time =>
      simp only [Serving.step] at hStep
      split at hStep
      · cases hStep
      · rename_i hTimeout
        have hNext :=
          h.clientStep
            (fun _ _ hClient hNext =>
              Play.clientEvTimeout_clean hClient
                (playFault_eq_ok.mp hNext))
            hTimeout
        split at hStep
        · cases hStep
          exact hNext
        · cases hStep
          exact ⟨hNext.clients.clientLoopEnd i,
            hNext.players⟩

theorem run_clean
    {initialised : Bool}
    {trace : List (ServingState × Op)}
    {last : ServingState}
    (hRun : (system initialised).Run trace last)
    (hPrinted : System.Guarded (fun _ => Printed) trace) :
    Clean last := by
  have hAlways : System.Always Clean trace last := by
    apply hRun.guarded_always (C := fun _ => Printed)
    · intro s hStart
      rw [hStart]
      exact clean_servingNew initialised
    · intro s op s' h hOp hStep
      exact h.step hOp hStep.1 hStep.2
    · exact hPrinted
  exact hAlways.2

/-
  Whatever clients send, CR and LF are in the head of every
  response only as the ends of its lines, and there are no
  more lines than headers, with one for the status.
-/
theorem no_response_splitting
    {initialised avoidTables : Bool}
    {trace : List (ServingState × Op)}
    {last : ServingState}
    {client : RTSPClient}
    {response : RFC822Response}
    {date : ResponseDate}
    {headers : RFC822Headers}
    {body : Option (List UInt8)}
    {text : List UInt8}
    (hRun : (system initialised).Run trace last)
    (hPrinted : System.Guarded (fun _ => Printed) trace)
    (hClient : client ∈ last.server.clients)
    (hResponse : response ∈ client.responses)
    (hOrder : headers.Perm (completeHeaders date response))
    (hText :
      rfc822ResponseString avoidTables headers body response =
        some text) :
    HeadIntact
      (1 + headers.length +
        (contentLengthHeader body).length)
      text (bodyText body) := by
  have hClean := run_clean hRun hPrinted
  rcases List.getElem?_of_mem hClient with ⟨i, hAt⟩
  exact rfc822ResponseString_intact
    ((hClean.clients i client hAt).responses response
      hResponse)
    hOrder hText

/- A DESCRIBE, from the connection to its response. -/
def describeOps : List Op :=
  [.server .accept,
    .server (.read 0
      (ascii
        "DESCRIBE rtsp://h/v RTSP/1.0\r\nCSeq: 7\r\n\r\n")),
    .server (.round 0 0 Server.sampleRound),
    .server (.round 0 0 Server.sampleRound),
    .request 0 0 (Play.sampleEnv 0)]

theorem sampleEnv_printed (time : Nat) :
    (Play.sampleEnv time).Printed where
  sessionId := ⟨0x01234567, 0x89abcdef, by
    change ascii "0123456789abcdef" = _
    decide⟩
  transport := by
    intro text hNone
    cases hNone

theorem describeOps_printed :
    System.Guarded (fun _ => Printed)
      (System.replayTrace step (servingNew true)
        describeOps) := by
  apply System.guarded_replayTrace
  intro op hMem
  simp only [describeOps, List.mem_cons, List.not_mem_nil,
    or_false] at hMem
  rcases hMem with rfl | rfl | rfl | rfl | rfl
  · trivial
  · trivial
  · trivial
  · trivial
  · exact sampleEnv_printed 0

/- The connection after it, and its response. -/
def describeClient : RTSPClient :=
  (System.replayEnd step (servingNew true)
    describeOps).server.clients.getD 0 rtspClientNew

def describeResponse : RFC822Response where
  proto := .rtsp10
  status := 200
  headers :=
    [(.cSeq, ascii "7"),
      (.contentType, ascii "application/sdp"),
      (.contentBase, ascii "rtsp://h/v/")]

def describeHeaders : RFC822Headers :=
  completeHeaders (.now ⟨9, 5, 23, 1, 0, 2009, 4⟩)
    describeResponse

def describeText : List UInt8 :=
  (rfc822ResponseString false describeHeaders
    (some (ascii "v=0\r\n")) describeResponse).getD []

theorem no_response_splitting_describe :
    describeResponse ∈ describeClient.responses ∧
      HeadIntact 7 describeText
        (ascii "v=0\r\n" ++ endline) := by
  have hRun :
      (system true).Run
        (System.replayTrace step (servingNew true)
          describeOps)
        (System.replayEnd step (servingNew true)
          describeOps) :=
    System.replay_run (by decide +kernel) (by decide +kernel)
  have hClient :
      describeClient ∈
        (System.replayEnd step (servingNew true)
          describeOps).server.clients := by
    decide +kernel
  have hResponse :
      describeResponse ∈ describeClient.responses := by
    decide +kernel
  have hOrder :
      describeHeaders.Perm
        (completeHeaders (.now ⟨9, 5, 23, 1, 0, 2009, 4⟩)
          describeResponse) :=
    List.Perm.refl _
  have hText :
      rfc822ResponseString false describeHeaders
          (some (ascii "v=0\r\n")) describeResponse =
        some describeText := by
    decide +kernel
  exact ⟨hResponse,
    no_response_splitting hRun describeOps_printed hClient
      hResponse hOrder hText⟩

end Serving

end Feng
