import Feng.Rtsp.Request

/-
  Clients and their sessions.

  A client comes with the responses it was sent, and with what
  was dispatched for it: the requests and the interleaved
  packets, in order.

  Key definitions include:
    * `RTSPSession`
    * `RTSPClient`
    * `rtspClientNew`
-/

------------------------------------------------------------
-- Sessions
------------------------------------------------------------

namespace Feng

inductive RTSPServerState where
| init
| ready
| playing
deriving DecidableEq, Repr

/- A resource, by the names of its tracks. -/
structure Resource where
  tracks : List (List UInt8)
deriving DecidableEq, Repr

/-
  A session. The resource and the URI it was opened for are
  set together; the RTP sessions are those of the tracks.
-/
structure RTSPSession where
  sessionId : List UInt8
  curState : RTSPServerState
  resource : Option (Resource × List UInt8)
  rtpSessions : List (List UInt8)
deriving DecidableEq, Repr

/- `rtsp_session_new`, with the identifier it draws. -/
def rtspSessionNew (sessionId : List UInt8) : RTSPSession where
  sessionId := sessionId
  curState := .init
  resource := none
  rtpSessions := []

end Feng

------------------------------------------------------------
-- Clients
------------------------------------------------------------

namespace Feng

inductive RFC822ParserState where
| begin_
| interleaved
| rtspHeaders
| rtspContent
| httpHeaders
| httpContent
| httpIdle
deriving DecidableEq, Repr

/- What a connection hands on. -/
inductive Dispatch where
| request (req : RFC822Request)
| interleaved (channel : UInt8) (payload : List UInt8)
deriving DecidableEq, Repr

/-
  The function that writes for a client: to its own queue, or
  to that of the HTTP client it is paired with.
-/
inductive RtspWriteData where
| queue
| http
deriving DecidableEq, Repr

/-
  A client. The pair is the number of its tunnel; `peerSa`
  tells whether the address of the peer is known, `connected`
  whether its event loop runs, and `freed` whether it is gone.
-/
structure RTSPClient where
  status : RFC822ParserState
  input : List UInt8
  pendingRequest : Option RFC822Request
  session : Option RTSPSession
  lastCseq : Nat
  writeData : RtspWriteData
  pair : Option Nat
  peerSa : Bool
  connected : Bool
  freed : Bool
  responses : List RFC822Response
  dispatched : List Dispatch
deriving DecidableEq, Repr

/- A client as `rtsp_client_incoming_cb` sets it up. -/
def rtspClientNew : RTSPClient where
  status := .begin_
  input := []
  pendingRequest := none
  session := none
  lastCseq := 0
  writeData := .queue
  pair := none
  peerSa := true
  connected := true
  freed := false
  responses := []
  dispatched := []

/- `rfc822_response_send`. -/
def rfc822ResponseSend
    (rtsp : RTSPClient)
    (response : RFC822Response) : RTSPClient :=
  { rtsp with responses := rtsp.responses ++ [response] }

/- The session state a request meets. -/
def RTSPClient.curState (rtsp : RTSPClient) : RTSPServerState :=
  match rtsp.session with
  | some session => session.curState
  | none => .init

end Feng
