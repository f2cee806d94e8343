import Feng.Uri.Parse

/-
  Requests and responses of the RFC 822 family of protocols,
  and their header tables.

  Key definitions include:
    * `RFC822Request`
    * `RFC822Response`
    * `rfc822HeadersSet`
    * `rfc822HeadersLookup`
    * `rfc822QuickResponse`
-/

------------------------------------------------------------
-- Headers
------------------------------------------------------------

namespace Feng

/- A string constant. -/
def ascii (text : String) : List UInt8 :=
  text.toList.map (fun c => c.toNat.toUInt8)

inductive RFC822Protocol where
| invalid
| unsupported
| rtsp10
| rtspUnsupportedVersion
| http10
| http11
| httpUnsupportedVersion
deriving DecidableEq, Repr

/- The first two are `__Invalid` and `__Unsupported`. -/
inductive RFC822Header where
| invalidHeader
| unsupportedHeader
| allow
| authorization
| bandwidth
| cSeq
| contentBase
| contentLength
| contentType
| date
| location
| proxyRequire
| public_
| rtpInfo
| range
| referer
| require
| server
| session
| speed
| timestamp
| transport
| unsupported
| userAgent
| cacheControl
| connection
| expires
| pragma
| xSessioncookie
deriving DecidableEq, Repr

/- A header table, with one value for a header at most. -/
abbrev RFC822Headers :=
  List (RFC822Header × List UInt8)

def rfc822HeadersNew : RFC822Headers :=
  []

def rfc822HeadersSet
    (headers : RFC822Headers)
    (header : RFC822Header)
    (value : List UInt8) : RFC822Headers :=
  headers.filter (fun entry => entry.1 ≠ header) ++
    [(header, value)]

/- There may be no table. -/
def rfc822HeadersLookup
    (headers : Option RFC822Headers)
    (header : RFC822Header) : Option (List UInt8) :=
  match headers with
  | none => none
  | some headers =>
      (headers.find? (fun entry => entry.1 = header)).map
        Prod.snd

theorem rfc822HeadersLookup_set
    (headers : RFC822Headers)
    (header other : RFC822Header)
    (value : List UInt8) :
    rfc822HeadersLookup
        (some (rfc822HeadersSet headers header value)) other =
      if other = header then
        some value
      else
        rfc822HeadersLookup (some headers) other := by
  simp only [rfc822HeadersLookup, rfc822HeadersSet,
    List.find?_append]
  by_cases hEq : other = header
  · subst hEq
    have hNone :
        (headers.filter (fun entry => entry.1 ≠ other)).find?
          (fun entry => entry.1 = other) = none := by
      apply List.find?_eq_none.mpr
      intro entry hMem
      simpa using (List.mem_filter.mp hMem).2
    rw [hNone, if_pos rfl]
    simp
  · have hSame :
        (headers.filter (fun entry => entry.1 ≠ header)).find?
            (fun entry => entry.1 = other) =
          headers.find? (fun entry => entry.1 = other) := by
      rw [List.find?_filter]
      congr 1
      funext entry
      by_cases hOther : entry.1 = other
      · simp [hOther, hEq]
      · simp [hOther]
    rw [hSame, if_neg hEq]
    simp [Ne.symm hEq]

end Feng

------------------------------------------------------------
-- Requests And Responses
------------------------------------------------------------

namespace Feng

/-
  Method numbers. They are those of a protocol; the first two
  are the same in each.
-/
namespace RTSPMethod

def invalid : Nat := 0
def unsupported : Nat := 1
def describe : Nat := 2
def options : Nat := 3
def pause : Nat := 4
def play : Nat := 5
def setup : Nat := 6
def teardown : Nat := 7

end RTSPMethod

namespace HTTPMethod

def unsupported : Nat := 1
def get : Nat := 2
def post : Nat := 3

end HTTPMethod

structure RFC822Request where
  proto : RFC822Protocol
  methodId : Nat
  methodStr : Option (List UInt8)
  object : Option (List UInt8)
  uri : Option URI
  protocolStr : Option (List UInt8)
  headers : Option RFC822Headers
deriving DecidableEq, Repr

/-
  A response, without the `Server` and `Date` headers that
  every response has.
-/
structure RFC822Response where
  proto : RFC822Protocol
  status : Nat
  headers : RFC822Headers
deriving DecidableEq, Repr

/- Copy a header of a request, if it is there. -/
def copyHeader
    (req : RFC822Request)
    (headers : RFC822Headers)
    (header : RFC822Header) : RFC822Headers :=
  match rfc822HeadersLookup req.headers header with
  | none => headers
  | some value => rfc822HeadersSet headers header value

def rfc822ResponseNew
    (req : RFC822Request)
    (statusCode : Nat) : RFC822Response where
  proto := req.proto
  status := statusCode
  headers :=
    copyHeader req
      (copyHeader req
        (copyHeader req rfc822HeadersNew .cSeq) .session)
      .timestamp

def rfc822QuickResponse
    (req : RFC822Request)
    (proto : RFC822Protocol)
    (code : Nat) : RFC822Response :=
  let response := rfc822ResponseNew req code
  { response with
    proto := proto
    headers :=
      rfc822HeadersSet response.headers .connection
        (ascii "close") }

/- The response is always in an RTSP protocol. -/
def rtspQuickResponse
    (req : RFC822Request)
    (code : Nat) : RFC822Response :=
  let proto :=
    match req.proto with
    | .rtsp10 => req.proto
    | _ => .rtsp10
  rfc822QuickResponse req proto code

end Feng
