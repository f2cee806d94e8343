import Feng.Rtsp.Parser
import Feng.Rtsp.Url
import Mathlib.Algebra.Group.Nat.Defs

/-
  What the rounds of `RTSP_handler` do to a client in each of
  the states of an RTSP connection.

  A round is given what is not specified about it: the bytes
  behind the input array, and what is found in the variable
  `parsed_headers` before it is set.

  Key definitions include:
    * `rtspHandleRequest`
    * `rtspHandleInterleaved`
    * `rtspHandleNew`
    * `rtspHandleHeaders`
    * `rtspHandleContent`
-/

------------------------------------------------------------
-- Numbers
------------------------------------------------------------

namespace Feng

/- The blanks of the C locale. -/
def gAsciiIsspace (c : UInt8) : Bool :=
  c = 32 || (9 ≤ c && c ≤ 13)

def gAsciiIsdigit (c : UInt8) : Bool :=
  48 ≤ c && c ≤ 57

/- The value of a string of digits. -/
def decimalValue (digits : List UInt8) : Nat :=
  digits.foldl (fun value c => 10 * value + (c.toNat - 48)) 0

def gMaxUint64 : Nat := 2 ^ 64 - 1

/-
  `g_ascii_strtoull` to base ten, as C has it: the number, and
  how many characters were read. The number saturates, and is
  negated modulo 2^64 behind a minus sign.
-/
def gAsciiStrtoull (text : List UInt8) : Nat × Nat :=
  let signed := text.dropWhile gAsciiIsspace
  let (negative, unsigned) :=
    match signed with
    | 45 :: rest => (true, rest)
    | 43 :: rest => (false, rest)
    | rest => (false, rest)
  let digits := unsigned.takeWhile gAsciiIsdigit
  if digits = [] then
    (0, 0)
  else
    let value := decimalValue digits
    let read :=
      text.length - unsigned.length + digits.length
    if gMaxUint64 < value then
      (gMaxUint64, read)
    else if negative then
      ((2 ^ 64 - value) % 2 ^ 64, read)
    else
      (value, read)

end Feng

------------------------------------------------------------
-- Requests
------------------------------------------------------------

namespace Feng

/-
  What goes wrong in a round: a null request is dereferenced,
  a scanner reads beyond the memory there is, an assertion
  fails, a method handler is given a null string, or there is
  no such handler, client or tunnel.
-/
inductive HandlerFault where
| nullRequest
| outOfMemory
| assertion
| url (fault : UrlFault)
| noMethod
| noClient
| noPair
deriving DecidableEq, Repr

def rtspCheckRequiredOptions
    (client : RTSPClient)
    (req : RFC822Request) : RTSPClient × Bool :=
  let requireHdr := rfc822HeadersLookup req.headers .require
  let proxyRequireHdr :=
    rfc822HeadersLookup req.headers .proxyRequire
  if requireHdr = none ∧ proxyRequireHdr = none then
    (client, true)
  else
    let response := rfc822ResponseNew req 551
    (rfc822ResponseSend client
      { response with
        headers :=
          rfc822HeadersSet response.headers .unsupported
            (requireHdr.getD [] ++ 32 ::
              proxyRequireHdr.getD []) }, false)

def rtspCheckSession
    (client : RTSPClient)
    (req : RFC822Request) : RTSPClient × Bool :=
  match rfc822HeadersLookup req.headers .session with
  | none => (client, true)
  | some sessionHdr =>
      if client.session.any
          (fun session => session.sessionId = sessionHdr) then
        (client, true)
      else
        (rfc822ResponseSend client
          (rtspQuickResponse req 454), false)

def rtspOptions
    (rtsp : RTSPClient)
    (req : RFC822Request) : RTSPClient :=
  let response := rfc822ResponseNew req 200
  rfc822ResponseSend rtsp
    { response with
      headers :=
        rfc822HeadersSet response.headers .public_
          (ascii
            "OPTIONS,DESCRIBE,SETUP,PLAY,PAUSE,TEARDOWN") }

/- The method handlers that look at the URL, by number. -/
def urlMethodOf (methodId : Nat) : Option UrlMethod :=
  if methodId = RTSPMethod.describe then some .describe
  else if methodId = RTSPMethod.setup then some .setup
  else if methodId = RTSPMethod.teardown then some .teardown
  else if methodId = RTSPMethod.play then some .play
  else if methodId = RTSPMethod.pause then some .pause
  else none

/- The entry of the table `methods`, called. -/
def callMethod
    (env : UrlEnv)
    (client : RTSPClient)
    (req : RFC822Request) :
    Except HandlerFault RTSPClient :=
  if req.methodId = RTSPMethod.options then
    .ok (rtspOptions client req)
  else
    match urlMethodOf req.methodId with
    | none => .error .noMethod
    | some method =>
        match rtspMethod method env client req with
        | .error fault => .error (.url fault)
        | .ok (client, _) => .ok client

/- A request whose number is in order, up to its method. -/
def handleNumberedRequest
    (env : UrlEnv)
    (client : RTSPClient)
    (req : RFC822Request)
    (cseqVal : Nat) : Except HandlerFault RTSPClient :=
  match
    rtspCheckSession { client with lastCseq := cseqVal } req
  with
  | (client, false) => .ok client
  | (client, true) =>
      match rtspCheckRequiredOptions client req with
      | (client, false) => .ok client
      | (client, true) => callMethod env client req

/- `rtsp_handle_request`, but for the end of it. -/
def handleRequestBody
    (env : UrlEnv)
    (client : RTSPClient)
    (req : RFC822Request) :
    Except HandlerFault RTSPClient :=
  match rfc822HeadersLookup req.headers .cSeq with
  | none =>
      .ok (rfc822ResponseSend client
        (rtspQuickResponse req 400))
  | some cseqHdr =>
      let (cseqVal, cseqRead) := gAsciiStrtoull cseqHdr
      if cseqVal = gMaxUint64 then
        .ok (rfc822ResponseSend client
          (rtspQuickResponse req 400))
      else if cseqRead < cseqHdr.length then
        .ok (rfc822ResponseSend client
          (rtspQuickResponse req 400))
      else if cseqVal ≤ client.lastCseq then
        -- A duplicate is dropped without a response.
        .ok client
      else
        handleNumberedRequest env client req cseqVal

def rtspHandleRequest
    (env : UrlEnv)
    (client : RTSPClient)
    (req : RFC822Request) :
    Except HandlerFault RTSPClient :=
  match handleRequestBody env client req with
  | .error fault => .error fault
  | .ok client => .ok { client with pendingRequest := none }

end Feng

------------------------------------------------------------
-- Rounds Of The Handler
------------------------------------------------------------

namespace Feng

/- What is not specified about a round. -/
structure Memory where
  behind : List UInt8
  parsedHeaders : Nat
deriving DecidableEq, Repr

/- The client, and whether there is to be another round. -/
abbrev RoundResult :=
  Except HandlerFault (RTSPClient × Bool)

/-
  `g_byte_array_remove_range` from the start, the length being
  converted to `guint`. A range outside the array is refused.
-/
def gByteArrayRemoveRange
    (array : List UInt8)
    (length : Nat) : List UInt8 :=
  if length % 2 ^ 32 ≤ array.length then
    array.drop (length % 2 ^ 32)
  else
    array

def chDollar : UInt8 := 36

def rtspInterleavedReceive
    (rtsp : RTSPClient)
    (channel : UInt8)
    (data : List UInt8) : RTSPClient :=
  { rtsp with
    dispatched :=
      rtsp.dispatched ++ [.interleaved channel data] }

/- The length field of a frame. -/
def interleavedLength (input : List UInt8) : Nat :=
  (input.getD 2 0).toNat * 256 + (input.getD 3 0).toNat

def rtspHandleInterleaved (rtsp : RTSPClient) : RoundResult :=
  if rtsp.input.length < 4 then
    .ok (rtsp, false)
  else
    let length := interleavedLength rtsp.input
    if rtsp.input.getD 0 0 ≠ chDollar then
      .error .assertion
    else if rtsp.input.length < length + 4 then
      .ok (rtsp, false)
    else
      let rtsp :=
        rtspInterleavedReceive rtsp (rtsp.input.getD 1 0)
          ((rtsp.input.drop 4).take length)
      .ok ({ rtsp with
        input := gByteArrayRemoveRange rtsp.input (length + 4)
        status := .begin_ }, true)

/- The request a scanner fills in. -/
def tmpreq : RFC822Request where
  proto := .invalid
  methodId := RTSPMethod.invalid
  methodStr := none
  object := none
  uri := none
  protocolStr := none
  headers := none

/- The state for the headers, in a supported protocol version. -/
def headersStatus :
    RFC822Protocol → Option RFC822ParserState
| .rtsp10 => some .rtspHeaders
| .http10 => some .httpHeaders
| .http11 => some .httpHeaders
| _ => none

/- The response to a protocol version that is not supported. -/
def versionNotSupported
    (req : RFC822Request) : RFC822Response :=
  match req.proto with
  | .httpUnsupportedVersion =>
      rfc822QuickResponse req .http10 505
  | _ => rfc822QuickResponse req .rtsp10 505

/-
  A request line in a supported protocol version. The state is
  set before the method is looked at.
-/
def handleRequestLine
    (rtsp : RTSPClient)
    (req : RFC822Request)
    (status : RFC822ParserState)
    (requestLineLen : Nat) : RTSPClient × Bool :=
  let rtsp := { rtsp with status := status }
  if req.methodId = RTSPMethod.invalid ∨
      req.methodId = RTSPMethod.unsupported then
    (rfc822ResponseSend rtsp
      (rfc822QuickResponse req req.proto 501), false)
  else
    ({ rtsp with
      pendingRequest := some req
      input :=
        gByteArrayRemoveRange rtsp.input requestLineLen },
      true)

/- What is done about the result of the scanner. -/
def handleLineResult
    (rtsp : RTSPClient)
    (requestLineLen : Int)
    (req : RFC822Request) : RTSPClient × Bool :=
  if requestLineLen = -1 then
    (rfc822ResponseSend rtsp (rtspQuickResponse req 400),
      false)
  else if requestLineLen = 0 then
    (rtsp, false)
  else
    match headersStatus req.proto with
    | none =>
        (rfc822ResponseSend rtsp (versionNotSupported req),
          false)
    | some status =>
        handleRequestLine rtsp req status
          requestLineLen.toNat

def rtspHandleNew
    (mem : Memory)
    (rtsp : RTSPClient) : RoundResult :=
  if rtsp.input.length < 1 then
    .ok (rtsp, false)
  else if rtsp.input.getD 0 0 = chDollar then
    rtspHandleInterleaved { rtsp with status := .interleaved }
  else
    match
      ragelParseRequestLine rtsp.input mem.behind tmpreq
    with
    | none => .error .outOfMemory
    | some (requestLineLen, req) =>
        .ok (handleLineResult rtsp requestLineLen req)

def rtspHandleHeaders
    (mem : Memory)
    (rtsp : RTSPClient) : RoundResult :=
  match rtsp.pendingRequest with
  | none => .error .nullRequest
  | some req =>
      match ragelReadRtspHeaders
          (req.headers.getD rfc822HeadersNew) rtsp.input
          mem.behind mem.parsedHeaders with
      | none => .error .outOfMemory
      | some (headersRes, headers, parsedHeaders) =>
          let req := { req with headers := some headers }
          let rtsp := { rtsp with pendingRequest := some req }
          if headersRes = -1 then
            .ok (rfc822ResponseSend rtsp
              (rtspQuickResponse req 400), false)
          else
            let rtsp :=
              { rtsp with
                input :=
                  gByteArrayRemoveRange rtsp.input
                    parsedHeaders }
            if headersRes = 0 then
              .ok (rtsp, false)
            else
              .ok ({ rtsp with
                pendingRequest :=
                  some { req with
                    uri := req.object.bind uriParse }
                status := .rtspContent }, true)

def rtspHandleContent
    (env : UrlEnv)
    (rtsp : RTSPClient) : RoundResult :=
  match rtsp.pendingRequest with
  | none => .error .nullRequest
  | some req =>
      if rfc822HeadersLookup req.headers .contentLength ≠
          none then
        .error .assertion
      else
        match rtspHandleRequest env
            { rtsp with
              dispatched :=
                rtsp.dispatched ++ [.request req] } req with
        | .error fault => .error fault
        | .ok rtsp =>
            .ok ({ rtsp with status := .begin_ }, true)

end Feng
