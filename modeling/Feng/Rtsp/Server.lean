import Feng.Lib.System
import Feng.Rtsp.Connection

/-
  The clients of a server, and the RTSP connections that are
  tunnelled over two HTTP connections each.

  Each client has a thread of its own that runs its event
  loop; what is running is kept as pairs of a thread and the
  client it handles. The calls of `RTSP_handler` from a round
  are all the last thing the round does.

  Key definitions include:
    * `ServerState`
    * `httpHandleHeaders`
    * `httpHandleContent`
    * `rtspTcpReadCb`
    * `handlerRound`
    * `Server.system`
-/

------------------------------------------------------------
-- The Server
------------------------------------------------------------

namespace Feng

structure HTTPTunnelPair where
  rtspClient : Option Nat
  httpClient : Nat
deriving DecidableEq, Repr

/-
  The clients and the tunnels, by number, the table of cookies
  once it is there, the handlers that are running, and those
  that wait for a queue to be sent.
-/
structure ServerState where
  clients : List RTSPClient
  pairs : List HTTPTunnelPair
  httpTunnelPairs : Option (List (List UInt8 × Nat))
  running : List (Nat × Nat)
  waiting : List (Nat × Nat)
deriving DecidableEq, Repr

/- A server, with `http_tunnel_initialise` called or not. -/
def serverNew (initialised : Bool) : ServerState where
  clients := []
  pairs := []
  httpTunnelPairs := if initialised then some [] else none
  running := []
  waiting := []

namespace ServerState

def setClient
    (server : ServerState)
    (i : Nat)
    (client : RTSPClient) : ServerState :=
  { server with clients := server.clients.set i client }

def free (server : ServerState) (i : Nat) : ServerState :=
  match server.clients[i]? with
  | none => server
  | some client =>
      server.setClient i { client with freed := true }

def lookupPair
    (server : ServerState)
    (cookie : List UInt8) : Option Nat :=
  (server.httpTunnelPairs.getD []).findSome?
    (fun entry =>
      if entry.1 = cookie then some entry.2 else none)

/- The end of `client_loop`. -/
def clientLoopEnd
    (server : ServerState)
    (i : Nat) : ServerState :=
  match server.clients[i]? with
  | none => server
  | some client =>
      let server :=
        server.setClient i { client with connected := false }
      match client.pair with
      | none => server.free i
      | some k =>
          match server.pairs[k]? with
          | none => server
          | some pair =>
              if pair.rtspClient = some i then
                (server.free pair.httpClient).free i
              else
                server

end ServerState

end Feng

------------------------------------------------------------
-- Rounds Of HTTP Connections
------------------------------------------------------------

namespace Feng

/- What comes after a round. -/
inductive Next where
| again
| done
/- The event loop runs on until the queue is sent. -/
| wait
/- `RTSP_handler` is called for a client. -/
| call (i : Nat)
deriving DecidableEq, Repr

abbrev ServerResult :=
  Except HandlerFault (ServerState × Next)

/- Refuse an HTTP request. -/
def httpBadRequest
    (rtsp : RTSPClient)
    (req : RFC822Request) : RTSPClient :=
  rfc822ResponseSend rtsp (rfc822QuickResponse req .http10 400)

/- The response to a GET, up to its date. -/
def httpTunnelResponse
    (req : RFC822Request) : RFC822Response :=
  let response := rfc822ResponseNew req 200
  { response with
    headers :=
      rfc822HeadersSet
        (rfc822HeadersSet
          (rfc822HeadersSet
            (rfc822HeadersSet response.headers .connection
              (ascii "close"))
            .cacheControl (ascii "no-store"))
          .pragma (ascii "no-cache"))
        .contentType (ascii "application/x-rtsp-tunnelled") }

def httpTunnelCreatePair
    (server : ServerState)
    (i : Nat)
    (client : RTSPClient)
    (req : RFC822Request) : ServerState × Bool :=
  match rfc822HeadersLookup req.headers .xSessioncookie with
  | none =>
      (server.setClient i (httpBadRequest client req), false)
  | some httpSession =>
      match server.lookupPair httpSession with
      | some _ =>
          (server.setClient i (httpBadRequest client req),
            false)
      | none =>
          let k := server.pairs.length
          let client :=
            rfc822ResponseSend { client with pair := some k }
              (httpTunnelResponse req)
          ({ server.setClient i client with
            pairs :=
              server.pairs ++
                [{ rtspClient := none
                   httpClient := i }]
            httpTunnelPairs :=
              server.httpTunnelPairs.map
                (· ++ [(httpSession, k)]) }, true)

/- A POST, once its headers have been read. -/
def httpHandlePost
    (server : ServerState)
    (i : Nat)
    (rtsp : RTSPClient)
    (req : RFC822Request) : ServerResult :=
  match rfc822HeadersLookup req.headers .xSessioncookie with
  | none =>
      .ok (server.setClient i (httpBadRequest rtsp req), .done)
  | some httpSession =>
      let found := server.lookupPair httpSession
      let rtsp := { rtsp with pair := found }
      let refused :=
        server.setClient i (httpBadRequest rtsp req)
      match found with
      | none => .ok (refused, .done)
      | some k =>
          match server.pairs[k]? with
          | none => .error .noPair
          | some pair =>
              match
                (server.setClient i rtsp).clients[
                  pair.httpClient]?
              with
              | none => .error .noClient
              | some httpClient =>
                  if httpClient.status ≠ .httpIdle then
                    .ok (refused, .done)
                  else if httpClient.input ≠ [] then
                    .ok (refused, .done)
                  else
                    let server :=
                      (server.setClient i
                        { rtsp with
                          writeData := .http
                          status := .begin_
                          input := httpClient.input }).setClient
                        pair.httpClient
                        { httpClient with
                          input := rtsp.input
                          status := .httpContent }
                    .ok ({ server with
                      pairs :=
                        server.pairs.set k
                          { pair with rtspClient := some i } },
                      .call pair.httpClient)

def httpHandleHeaders
    (mem : Memory)
    (server : ServerState)
    (i : Nat)
    (rtsp : RTSPClient) : ServerResult :=
  match rtsp.pendingRequest with
  | none => .error .nullRequest
  | some req =>
      match ragelReadHttpHeaders
          (req.headers.getD rfc822HeadersNew) rtsp.input
          mem.behind mem.parsedHeaders with
      | none => .error .outOfMemory
      | some (headersRes, headers, parsedHeaders) =>
          let req := { req with headers := some headers }
          let rtsp := { rtsp with pendingRequest := some req }
          if headersRes = -1 then
            .ok (server.setClient i (httpBadRequest rtsp req),
              .done)
          else
            let rtsp :=
              { rtsp with
                input :=
                  gByteArrayRemoveRange rtsp.input
                    parsedHeaders }
            if headersRes = 0 then
              .ok (server.setClient i rtsp, .done)
            else if req.methodId = HTTPMethod.post then
              httpHandlePost server i rtsp req
            else
              match httpTunnelCreatePair server i rtsp req with
              | (server, false) => .ok (server, .again)
              | (server, true) =>
                  match server.clients[i]? with
                  | none => .error .noClient
                  | some rtsp =>
                      .ok (server.setClient i
                        { rtsp with status := .httpIdle },
                        .again)

/- The bytes are what `g_base64_decode_step` decoded. -/
def httpHandleContent
    (decoded : List UInt8)
    (server : ServerState)
    (i : Nat)
    (rtsp : RTSPClient) : ServerResult :=
  match rtsp.pair.bind (server.pairs[·]?) with
  | none => .error .noPair
  | some pair =>
      match pair.rtspClient with
      | none => .error .noClient
      | some j =>
          match server.clients[j]? with
          | none => .error .noClient
          | some rtspClient =>
              let server :=
                server.setClient j
                  { rtspClient with
                    input := rtspClient.input ++ decoded }
              match server.clients[i]? with
              | none => .error .noClient
              | some rtsp =>
                  .ok (server.setClient i
                    { rtsp with input := [] }, .call j)

/- The first part, up to the queue being sent. -/
def httpHandleIdle (server : ServerState) : ServerResult :=
  .ok (server, .wait)

end Feng

------------------------------------------------------------
-- The Handler And The Read Callback
------------------------------------------------------------

namespace Feng

/- A round that is about its client only. -/
def clientRound
    (server : ServerState)
    (i : Nat)
    (result : RoundResult) : ServerResult :=
  match result with
  | .error fault => .error fault
  | .ok (rtsp, ret) =>
      .ok (server.setClient i rtsp,
        if ret then .again else .done)

/- What a round is given from outside. -/
structure RoundInput where
  mem : Memory
  env : UrlEnv
  decoded : List UInt8

/- One round of the loop of `RTSP_handler`, with a switch. -/
def handlerRound
    (given : RoundInput)
    (server : ServerState)
    (i : Nat)
    (rtsp : RTSPClient) : ServerResult :=
  match rtsp.status with
  | .begin_ =>
      clientRound server i (rtspHandleNew given.mem rtsp)
  | .rtspHeaders =>
      clientRound server i (rtspHandleHeaders given.mem rtsp)
  | .rtspContent =>
      clientRound server i (rtspHandleContent given.env rtsp)
  | .interleaved =>
      clientRound server i (rtspHandleInterleaved rtsp)
  | .httpHeaders =>
      httpHandleHeaders given.mem server i rtsp
  | .httpContent =>
      httpHandleContent given.decoded server i rtsp
  | .httpIdle => httpHandleIdle server

def rtspBuffersize : Nat := 5000

/-
  The callback of a thread, given what `recv` returns: the
  bytes go to the HTTP client if there is a tunnel.
-/
def rtspTcpReadCb
    (server : ServerState)
    (thread : Nat)
    (buffer : List UInt8) :
    Except HandlerFault ServerState :=
  match server.clients[thread]? with
  | none => .error .noClient
  | some own =>
      match
        match own.pair with
        | none => some thread
        | some k =>
            (server.pairs[k]?).map HTTPTunnelPair.httpClient
      with
      | none => .error .noPair
      | some i =>
          match server.clients[i]? with
          | none => .error .noClient
          | some rtsp =>
              if buffer = [] then
                .ok (server.clientLoopEnd thread)
              else if rtspBuffersize <
                  rtsp.input.length + buffer.length then
                .ok (server.clientLoopEnd thread)
              else
                let server :=
                  server.setClient i
                    { rtsp with input := rtsp.input ++ buffer }
                .ok { server with
                  running := server.running ++ [(thread, i)] }

/- What a thread handles after a round. -/
def runNext
    (server : ServerState)
    (thread i : Nat) : Next → ServerState
| .again => server
| .done =>
    { server with
      running := server.running.erase (thread, i) }
| .wait =>
    { server with
      running := server.running.erase (thread, i)
      waiting := server.waiting ++ [(thread, i)] }
| .call j =>
    { server with
      running :=
        server.running.erase (thread, i) ++ [(thread, j)] }

end Feng

------------------------------------------------------------
-- Runs Of The Server
------------------------------------------------------------

namespace Feng

namespace Server

inductive Op where
/- A client connects. -/
| accept
/- A thread reads from the socket of its client. -/
| read (thread : Nat) (buffer : List UInt8)
/- A thread takes a round for a client. -/
| round (thread i : Nat) (given : RoundInput)
/- The queue of an idle client has been sent. -/
| drained (thread i : Nat)
/- The event loop of a client is left, as for a timeout. -/
| disconnect (thread : Nat)

/- The thread is in no handler, unless it waits there. -/
def InLoop (server : ServerState) (thread : Nat) : Prop :=
  ∀ run ∈ server.running, run.1 ≠ thread

instance decidableInLoop
    (server : ServerState)
    (thread : Nat) :
    Decidable (InLoop server thread) :=
  inferInstanceAs
    (Decidable (∀ run ∈ server.running, run.1 ≠ thread))

/- The event loop of a client still runs. -/
def Connected (server : ServerState) (thread : Nat) : Prop :=
  (server.clients[thread]?).any RTSPClient.connected = true

/- At most this much is decoded from so many characters. -/
def decodedBound (length : Nat) : Nat :=
  length / 4 * 3 + 3

def enabled (server : ServerState) : Op → Prop
| .accept => True
| .read thread buffer =>
    Connected server thread ∧ InLoop server thread ∧
      buffer.length ≤ rtspBuffersize + 1
| .round thread i given =>
    (thread, i) ∈ server.running ∧
      given.decoded.length ≤
        decodedBound
          ((server.clients[i]?).elim 0
            (fun client => client.input.length))
| .drained thread i =>
    (thread, i) ∈ server.waiting ∧ InLoop server thread
| .disconnect thread =>
    Connected server thread ∧ InLoop server thread ∧
      ∀ run ∈ server.waiting, run.1 ≠ thread

instance decidableEnabled
    (server : ServerState) :
    (op : Op) → Decidable (enabled server op)
| .accept => isTrue trivial
| .read thread buffer =>
    inferInstanceAs
      (Decidable
        ((server.clients[thread]?).any RTSPClient.connected =
            true ∧
          InLoop server thread ∧
          buffer.length ≤ rtspBuffersize + 1))
| .round thread i given =>
    inferInstanceAs
      (Decidable
        ((thread, i) ∈ server.running ∧
          given.decoded.length ≤
            decodedBound
              ((server.clients[i]?).elim 0
                (fun client => client.input.length))))
| .drained thread i =>
    inferInstanceAs
      (Decidable
        ((thread, i) ∈ server.waiting ∧
          InLoop server thread))
| .disconnect thread =>
    inferInstanceAs
      (Decidable
        ((server.clients[thread]?).any RTSPClient.connected =
            true ∧
          InLoop server thread ∧
          ∀ run ∈ server.waiting, run.1 ≠ thread))

def step (server : ServerState) :
    Op → Except HandlerFault ServerState
| .accept =>
    .ok { server with
      clients := server.clients ++ [rtspClientNew] }
| .read thread buffer =>
    rtspTcpReadCb server thread buffer
| .round thread i given =>
    match server.clients[i]? with
    | none => .error .noClient
    | some rtsp =>
        match handlerRound given server i rtsp with
        | .error fault => .error fault
        | .ok (server, next) =>
            .ok (runNext server thread i next)
| .drained thread i =>
    .ok ({ server with
      waiting :=
        server.waiting.erase (thread, i) }.clientLoopEnd i)
| .disconnect thread => .ok (server.clientLoopEnd thread)

def system (initialised : Bool) : System ServerState Op :=
  System.ofStep (serverNew initialised) enabled step

end Server

end Feng
