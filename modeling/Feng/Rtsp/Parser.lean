import Feng.Rtsp.Request
import Feng.Rtsp.Tables

/-
  The scanners of request lines and of header blocks.

  A scanner is given the characters received and those that
  lie behind them in memory. It does not look where the former
  end: the number of characters received is only compared with
  where it stopped. There is no result where it would read
  beyond that memory.

  Key definitions include:
    * `requestLineParser`
    * `ragelParseRequestLine`
    * `headersParser`
    * `ragelReadRtspHeaders`
    * `ragelReadHttpHeaders`
-/

------------------------------------------------------------
-- Request Lines
------------------------------------------------------------

namespace Feng

/- `g_strndup`: up to so many characters, or up to a NUL. -/
def gStrndup
    (text : List UInt8)
    (start : Option Nat)
    (n : Nat) : Option (List UInt8) :=
  start.map
    (fun start =>
      ((text.drop start).take n).takeWhile (fun c => c ≠ 0))

/- The variables of the scanner; pointers are offsets. -/
structure RequestLineScan where
  s : Option Nat
  methodCode : Nat
  protocolCode : RFC822Protocol
  methodStr : Option Nat
  methodLen : Nat
  protocolStr : Option Nat
  protocolLen : Nat
  objectStr : Option Nat
  objectLen : Nat
deriving DecidableEq, Repr

def requestLineScanNew : RequestLineScan where
  s := none
  methodCode := RTSPMethod.invalid
  protocolCode := .invalid
  methodStr := none
  methodLen := 0
  protocolStr := none
  protocolLen := 0
  objectStr := none
  objectLen := 0

def requestLineStart : Nat := 1
def requestLineFirstFinal : Nat := 82
def requestLineEnRtspSlMethod : Nat := 35
def requestLineEnHttpSlMethod : Nat := 73

/- All actions but the two that call another machine. -/
def requestLineSlAction
    (a : Nat)
    (before : List UInt8)
    (scan : RequestLineScan) : RagelFlow RequestLineScan :=
  let p := before.length
  match a with
  | 0 => .next { scan with protocolCode := .rtsp10 }
  | 1 =>
      .next { scan with
        protocolCode := .rtspUnsupportedVersion }
  | 2 => .next { scan with protocolCode := .http10 }
  | 3 => .next { scan with protocolCode := .http11 }
  | 4 =>
      .next { scan with
        protocolCode := .httpUnsupportedVersion }
  | 5 =>
      .next { scan with methodCode := RTSPMethod.unsupported }
  | 6 => .next { scan with methodCode := RTSPMethod.describe }
  | 7 => .next { scan with methodCode := RTSPMethod.options }
  | 8 => .next { scan with methodCode := RTSPMethod.pause }
  | 9 => .next { scan with methodCode := RTSPMethod.play }
  | 10 => .next { scan with methodCode := RTSPMethod.setup }
  | 11 =>
      .next { scan with methodCode := RTSPMethod.teardown }
  | 12 =>
      .next { scan with methodCode := HTTPMethod.unsupported }
  | 13 => .next { scan with methodCode := HTTPMethod.get }
  | 14 => .next { scan with methodCode := HTTPMethod.post }
  | 15 => .next { scan with s := some p }
  | 16 =>
      .next { scan with
        methodStr := scan.s
        methodLen := p - scan.s.getD p }
  | 17 =>
      .next { scan with
        protocolStr := scan.s
        protocolLen := p - scan.s.getD p }
  | 18 =>
      .next { scan with
        objectStr := scan.s
        objectLen := p - scan.s.getD p }
  -- Back to the machine that called, where it was.
  | 19 => .leave scan
  | 20 => .leave scan
  | 21 => .next { scan with methodCode := 1 }
  | 22 => .next { scan with protocolCode := .unsupported }
  | 25 => .leave scan
  | _ => .next scan

def requestLineMethods : RagelMachine RequestLineScan where
  tables := requestLineTables
  action := requestLineSlAction

/-
  Call a machine on the characters from the method on. The
  blank behind the method ends it, if not an error.
-/
def requestLineCall
    (start : Nat)
    (before : List UInt8)
    (scan : RequestLineScan) : RagelFlow RequestLineScan :=
  let method := scan.methodStr.getD 0
  match requestLineMethods.exec start (before.take method)
      scan (before.drop method) with
  | .out 0 p _ => .fail p
  | .out _ _ scan => .next scan
  | .eof _ p _ => .fail p

def requestLineAction
    (a : Nat)
    (before : List UInt8)
    (scan : RequestLineScan) : RagelFlow RequestLineScan :=
  match a with
  | 23 =>
      requestLineCall requestLineEnRtspSlMethod before scan
  | 24 =>
      requestLineCall requestLineEnHttpSlMethod before scan
  | a => requestLineSlAction a before scan

def requestLineParser : RagelMachine RequestLineScan where
  tables := requestLineTables
  action := requestLineAction

/- The request of a scan that came to its end. -/
def requestOfScan
    (msg : List UInt8)
    (scan : RequestLineScan)
    (req : RFC822Request) : RFC822Request :=
  { req with
    proto := scan.protocolCode
    methodId := scan.methodCode
    methodStr := gStrndup msg scan.methodStr scan.methodLen
    protocolStr :=
      gStrndup msg scan.protocolStr scan.protocolLen
    object := gStrndup msg scan.objectStr scan.objectLen }

/- What is returned, -1 standing for its `size_t`. -/
def ragelParseRequestLine
    (msg behind : List UInt8)
    (req : RFC822Request) : Option (Int × RFC822Request) :=
  match requestLineParser.exec requestLineStart []
      requestLineScanNew (msg ++ behind) with
  | .eof _ _ _ => none
  | .out cs p scan =>
      if cs < requestLineFirstFinal then
        some (if p = msg.length then 0 else -1, req)
      else
        some (p, requestOfScan (msg ++ behind) scan req)

end Feng

------------------------------------------------------------
-- Header Blocks
------------------------------------------------------------

namespace Feng

/-
  The variables of the scanner, with the header table. There
  is no read size until it is set.
-/
structure HeaderScan where
  headers : RFC822Headers
  headerCode : RFC822Header
  headerStr : Option Nat
  headerLen : Nat
  readSize : Option Nat
deriving DecidableEq, Repr

def headerScanNew (headers : RFC822Headers) : HeaderScan where
  headers := headers
  headerCode := .invalidHeader
  headerStr := none
  headerLen := 0
  readSize := none

/- A header set to no value is found as if it were not there. -/
def rfc822HeadersInsert
    (headers : RFC822Headers)
    (header : RFC822Header) :
    Option (List UInt8) → RFC822Headers
| some value => rfc822HeadersSet headers header value
| none => headers.filter (fun entry => entry.1 ≠ header)

/- The end of a header line. -/
def HeaderScan.store
    (scan : HeaderScan)
    (before : List UInt8) : HeaderScan where
  headers :=
    if scan.headerCode ≠ .invalidHeader ∧
        scan.headerCode ≠ .unsupportedHeader then
      rfc822HeadersInsert scan.headers scan.headerCode
        (gStrndup before scan.headerStr scan.headerLen)
    else
      scan.headers
  headerCode := .invalidHeader
  headerStr := none
  headerLen := 0
  readSize := some before.length

/-
  The actions of both header scanners: first those that each
  set a header code, in the order of the codes.
-/
def headersAction
    (codes : List RFC822Header)
    (a : Nat)
    (before : List UInt8)
    (scan : HeaderScan) : RagelFlow HeaderScan :=
  let p := before.length
  match codes[a]? with
  | some code => .next { scan with headerCode := code }
  | none =>
      match a - codes.length with
      | 0 => .next { scan with headerStr := some p }
      | 1 =>
          .next { scan with
            headerLen := p - scan.headerStr.getD p }
      | 2 => .next (scan.store before)
      | _ => .leave { scan with readSize := some p }

def headersParser
    (tables : RagelTables)
    (codes : List RFC822Header) : RagelMachine HeaderScan where
  tables := tables
  action := headersAction codes

def headersStart : Nat := 1

/-
  What is returned, with the header table and the read size,
  which is what it was where it was not set.
-/
def ragelReadHeaders
    (parser : RagelMachine HeaderScan)
    (firstFinal : Nat)
    (headers : RFC822Headers)
    (msg behind : List UInt8)
    (readSize : Nat) : Option (Int × RFC822Headers × Nat) :=
  match parser.exec headersStart [] (headerScanNew headers)
      (msg ++ behind) with
  | .eof _ _ _ => none
  | .out cs p scan =>
      let result : Int :=
        if cs < firstFinal then
          if p = msg.length then 0 else -1
        else
          1
      some (result, scan.headers,
        scan.readSize.getD readSize)

def rtspHeaderCodes : List RFC822Header :=
  [.unsupportedHeader, .allow, .authorization, .bandwidth,
    .cSeq, .contentBase, .contentLength, .contentType, .date,
    .location, .proxyRequire, .public_, .rtpInfo, .range,
    .referer, .require, .server, .session, .speed,
    .timestamp, .transport, .unsupported, .userAgent]

def rtspHeadersParser : RagelMachine HeaderScan :=
  headersParser rtspHeadersTables rtspHeaderCodes

def rtspHeadersFirstFinal : Nat := 165

def ragelReadRtspHeaders
    (headers : RFC822Headers)
    (msg behind : List UInt8)
    (readSize : Nat) : Option (Int × RFC822Headers × Nat) :=
  ragelReadHeaders rtspHeadersParser rtspHeadersFirstFinal
    headers msg behind readSize

def httpHeaderCodes : List RFC822Header :=
  [.unsupportedHeader, .cacheControl, .connection,
    .contentLength, .contentType, .date, .expires, .pragma,
    .server, .userAgent, .xSessioncookie]

def httpHeadersParser : RagelMachine HeaderScan :=
  headersParser httpHeadersTables httpHeaderCodes

def httpHeadersFirstFinal : Nat := 94

def ragelReadHttpHeaders
    (headers : RFC822Headers)
    (msg behind : List UInt8)
    (readSize : Nat) : Option (Int × RFC822Headers × Nat) :=
  ragelReadHeaders httpHeadersParser httpHeadersFirstFinal
    headers msg behind readSize

end Feng
