import Feng.Rtsp.Values

/-
  The text of a response, as `rfc822_response_send` makes it.

  The order of the headers is that of a hash table, and is not
  specified. A missing constant is printed as `(null)` by the
  functions that have tables, and fails an assertion in the
  others, which are those of position-independent code.

  Key definitions include:
    * `rfc822ResponseReason`
    * `completeHeaders`
    * `rfc822ResponseString`
    * `HeadIntact`

  Key theorems include:
    * `rfc822ResponseString_intact`
-/

------------------------------------------------------------
-- Constants
------------------------------------------------------------

namespace Feng

def rfc822ProtoToString :
    RFC822Protocol → Option (List UInt8)
| .rtsp10 => some (ascii "RTSP/1.0")
| .rtspUnsupportedVersion => some (ascii "RTSP/1.0")
| .http10 => some (ascii "HTTP/1.0")
| .http11 => some (ascii "HTTP/1.1")
| .httpUnsupportedVersion => some (ascii "HTTP/1.1")
| .invalid => none
| .unsupported => none

def rfc822HeaderToString : RFC822Header → Option (List UInt8)
| .invalidHeader => none
| .unsupportedHeader => none
| .allow => some (ascii "Allow")
| .authorization => some (ascii "Authorization")
| .bandwidth => some (ascii "Bandwidth")
| .cSeq => some (ascii "CSeq")
| .contentBase => some (ascii "Content-Base")
| .contentLength => some (ascii "Content-Length")
| .contentType => some (ascii "Content-Type")
| .date => some (ascii "Date")
| .location => some (ascii "Location")
| .proxyRequire => some (ascii "Proxy-Require")
| .public_ => some (ascii "Public")
| .rtpInfo => some (ascii "RTP-Info")
| .range => some (ascii "Range")
| .referer => some (ascii "Referer")
| .require => some (ascii "Require")
| .server => some (ascii "Server")
| .session => some (ascii "Session")
| .speed => some (ascii "Speed")
| .timestamp => some (ascii "Timestamp")
| .transport => some (ascii "Transport")
| .unsupported => some (ascii "Unsupported")
| .userAgent => some (ascii "User-Agent")
| .cacheControl => some (ascii "Cache-Control")
| .connection => some (ascii "Connection")
| .expires => some (ascii "Expires")
| .pragma => some (ascii "Pragma")
| .xSessioncookie => some (ascii "x-sessioncookie")

/- The reasons that all protocols have. -/
def commonReason : Nat → Option (List UInt8)
| 100 => some (ascii "Continue")
| 200 => some (ascii "Ok")
| 201 => some (ascii "Created")
| 202 => some (ascii "Accepted")
| 302 => some (ascii "Found")
| 400 => some (ascii "Bad Request")
| 403 => some (ascii "Forbidden")
| 404 => some (ascii "Not Found")
| 406 => some (ascii "Not Acceptable")
| 415 => some (ascii "Unsupported Media Type")
| 500 => some (ascii "Internal Server Error")
| 501 => some (ascii "Not Implemented")
| 503 => some (ascii "Service Unavailable")
| 505 => some (ascii "Protocol Version Not Supported")
| _ => none

def rtspResponseReason : Nat → Option (List UInt8)
| 451 => some (ascii "Parameter Not Understood")
| 453 => some (ascii "Not Enough Bandwidth")
| 454 => some (ascii "Session Not Found")
| 455 => some (ascii "Method Not Valid In This State")
| 456 => some (ascii "Header Field Not Valid for Resource")
| 457 => some (ascii "Invalid Range")
| 459 => some (ascii "Aggregate Operation Not Allowed")
| 460 => some (ascii "Only Aggregate Operation Allowed")
| 461 => some (ascii "Unsupported Transport")
| 551 => some (ascii "Option Not Supported")
| _ => none

/- HTTP has no reasons of its own. -/
def rfc822ResponseReason
    (proto : RFC822Protocol)
    (code : Nat) : Option (List UInt8) :=
  match commonReason code with
  | some reason => some reason
  | none =>
      match proto with
      | .rtsp10 => rtspResponseReason code
      | .rtspUnsupportedVersion => rtspResponseReason code
      | _ => none

/- `%s`, of a constant that may be missing from its table. -/
def constant
    (avoidTables : Bool)
    (text : Option (List UInt8)) : Option (List UInt8) :=
  match text with
  | some text => some text
  | none => if avoidTables then none else some (ascii "(null)")

end Feng

------------------------------------------------------------
-- The Date
------------------------------------------------------------

namespace Feng

/- A broken-down time, up to the year 9999. -/
structure Tm where
  sec : Fin 61
  min : Fin 60
  hour : Fin 24
  mday : Fin 32
  mon : Fin 12
  year : Fin 10000
  wday : Fin 7
deriving DecidableEq, Repr

/- The names of the C locale. -/
def dayNames : List (List UInt8) :=
  [ascii "Sun", ascii "Mon", ascii "Tue", ascii "Wed",
    ascii "Thu", ascii "Fri", ascii "Sat"]

def monthNames : List (List UInt8) :=
  [ascii "Jan", ascii "Feb", ascii "Mar", ascii "Apr",
    ascii "May", ascii "Jun", ascii "Jul", ascii "Aug",
    ascii "Sep", ascii "Oct", ascii "Nov", ascii "Dec"]

/- A decimal number, with zeros before it. -/
def paddedNumber (width n : Nat) : List UInt8 :=
  let digits := ascii (toString n)
  List.replicate (width - digits.length) 48 ++ digits

/- `%a, %d %b %Y %H:%M:%S GMT` -/
def httpTimestamp (t : Tm) : List UInt8 :=
  dayNames.getD t.wday [] ++ ascii ", " ++
    paddedNumber 2 t.mday ++ ascii " " ++
    monthNames.getD t.mon [] ++ ascii " " ++
    ascii (toString t.year.val) ++ ascii " " ++
    paddedNumber 2 t.hour ++ ascii ":" ++
    paddedNumber 2 t.min ++ ascii ":" ++
    paddedNumber 2 t.sec ++ ascii " GMT"

/- The date of a response; that of a tunnel is a constant. -/
inductive ResponseDate where
| now (t : Tm)
| tunnel
deriving DecidableEq, Repr

def ResponseDate.text : ResponseDate → List UInt8
| .now t => httpTimestamp t
| .tunnel => ascii "Tue, 8 Jun 2004 15:04:35 GMT"

end Feng

------------------------------------------------------------
-- The Text
------------------------------------------------------------

namespace Feng

/- The headers of a response, with those every response has. -/
def completeHeaders
    (date : ResponseDate)
    (response : RFC822Response) : RFC822Headers :=
  (.server, ascii "v1.0.2") :: (.date, date.text) ::
    response.headers

def endline : List UInt8 :=
  [chCr, chLf]

/- The headers, in the order they are found in. -/
def rfc822ResponseAppendHeaders
    (avoidTables : Bool) :
    RFC822Headers → Option (List UInt8)
| [] => some []
| (header, value) :: headers => do
    let name ←
      constant avoidTables (rfc822HeaderToString header)
    let rest ←
      rfc822ResponseAppendHeaders avoidTables headers
    some (name ++ ascii ": " ++ value ++ endline ++ rest)

/- The header for the length of a body, if there is one. -/
def contentLengthHeader :
    Option (List UInt8) → RFC822Headers
| none => []
| some body =>
    [(.contentLength, ascii (toString (body.length + 2)))]

/- A body, as a string, with a line end added. -/
def bodyText : Option (List UInt8) → List UInt8
| none => []
| some body => body.takeWhile (fun c => c ≠ 0) ++ endline

/-
  What `rfc822_response_send` writes, with the headers in some
  order; there is no text where an assertion fails.
-/
def rfc822ResponseString
    (avoidTables : Bool)
    (headers : RFC822Headers)
    (body : Option (List UInt8))
    (response : RFC822Response) : Option (List UInt8) := do
  let proto ← rfc822ProtoToString response.proto
  let reason ←
    constant avoidTables
      (rfc822ResponseReason response.proto response.status)
  let lines ←
    rfc822ResponseAppendHeaders avoidTables headers
  let lengthLine ←
    rfc822ResponseAppendHeaders avoidTables
      (contentLengthHeader body)
  some (proto ++ ascii " " ++
    ascii (toString response.status) ++ ascii " " ++ reason ++
    endline ++ lines ++ lengthLine ++ endline ++ bodyText body)

end Feng

------------------------------------------------------------
-- Text That Ends No Line
------------------------------------------------------------

namespace Feng

variable {avoidTables : Bool} {text : List UInt8}

/- Characters that are printed ones of ASCII. -/
theorem ascii_clean
    {word : String}
    (hWord : ∀ c ∈ word.toList,
      32 ≤ c.toNat ∧ c.toNat < 128) :
    CleanText (ascii word) := by
  have hNot (code : UInt8) (hCode : code.toNat < 32) :
      code ∉ ascii word := by
    intro hMem
    rcases List.mem_map.mp hMem with ⟨c, hChar, hEq⟩
    have hRange := hWord c hChar
    have hValue : code.toNat = c.toNat % 256 := by
      rw [← hEq]
      rfl
    omega
  exact ⟨hNot chCr (by decide), hNot chLf (by decide)⟩

theorem toString_clean (n : Nat) :
    CleanText (ascii (toString n)) := by
  apply ascii_clean
  intro c hMem
  have hDigits : c ∈ Nat.toDigits 10 n := by
    rw [← Nat.toList_repr]
    exact hMem
  have hDigit :=
    Nat.isDigit_of_mem_toDigits (by decide) (by decide)
      hDigits
  have hBounds : 48 ≤ c.toNat ∧ c.toNat ≤ 57 :=
    Char.isDigit_iff_toNat.mp hDigit
  omega

theorem replicate_clean
    {c : UInt8}
    (hChar : CleanText [c])
    (n : Nat) :
    CleanText (List.replicate n c) := by
  apply hChar.of_subset
  intro d hMem
  rw [List.eq_of_mem_replicate hMem]
  exact List.mem_singleton_self c

theorem paddedNumber_clean (width n : Nat) :
    CleanText (paddedNumber width n) :=
  (replicate_clean (by decide) _).append (toString_clean n)

theorem httpTimestamp_clean (t : Tm) :
    CleanText (httpTimestamp t) := by
  have hDays : ∀ i, i < 7 → CleanText (dayNames.getD i []) := by
    decide
  have hMonths :
      ∀ i, i < 12 → CleanText (monthNames.getD i []) := by
    decide
  have hWords : ∀ word ∈ [", ", " ", ":", " GMT"],
      CleanText (ascii word) := by
    decide
  have hComma := hWords ", " (by simp)
  have hBlank := hWords " " (by simp)
  have hColon := hWords ":" (by simp)
  have hZone := hWords " GMT" (by simp)
  simp only [httpTimestamp, unbroken_append_iff,
    paddedNumber_clean, toString_clean, hComma, hBlank,
    hColon, hZone, hDays _ t.wday.isLt, hMonths _ t.mon.isLt,
    and_self]

theorem ResponseDate.text_clean (date : ResponseDate) :
    CleanText date.text := by
  cases date with
  | now t => exact httpTimestamp_clean t
  | tunnel =>
      change CleanText (ascii "Tue, 8 Jun 2004 15:04:35 GMT")
      decide

/- The constants are not empty, and end no line. -/
def Printable (text : Option (List UInt8)) : Prop :=
  ∀ word, text = some word → word ≠ [] ∧ CleanText word

instance decidablePrintable (text : Option (List UInt8)) :
    Decidable (Printable text) :=
  inferInstanceAs
    (Decidable
      (∀ word, text = some word →
        word ≠ [] ∧ CleanText word))

theorem Printable.constant
    {name : Option (List UInt8)}
    (h : Printable name) :
    Printable (constant avoidTables name) := by
  intro word hWord
  cases name with
  | some text => exact h word hWord
  | none =>
      unfold Feng.constant at hWord
      simp only at hWord
      split at hWord
      · cases hWord
      · cases hWord
        decide

theorem rfc822ProtoToString_printable
    (proto : RFC822Protocol) :
    Printable (rfc822ProtoToString proto) := by
  cases proto <;> decide

theorem rfc822HeaderToString_printable
    (header : RFC822Header) :
    Printable (rfc822HeaderToString header) := by
  cases header <;> decide

theorem commonReason_printable (code : Nat) :
    Printable (commonReason code) := by
  unfold commonReason
  split <;> decide

theorem rtspResponseReason_printable (code : Nat) :
    Printable (rtspResponseReason code) := by
  unfold rtspResponseReason
  split <;> decide

theorem rfc822ResponseReason_printable
    (proto : RFC822Protocol)
    (code : Nat) :
    Printable (rfc822ResponseReason proto code) := by
  have hCommon := commonReason_printable code
  unfold rfc822ResponseReason
  split
  · rename_i reason hReason
    rw [hReason] at hCommon
    exact hCommon
  · split
    · exact rtspResponseReason_printable code
    · exact rtspResponseReason_printable code
    · exact nofun

end Feng

------------------------------------------------------------
-- The Head Of A Response
------------------------------------------------------------

namespace Feng

variable {avoidTables : Bool} {headers : RFC822Headers}
variable {text : List UInt8}
variable {body : Option (List UInt8)}
variable {response : RFC822Response} {date : ResponseDate}

/-
  The text has so many lines before the first empty one. CR
  and LF do nothing but end these, and who reads up to the
  empty line finds them, with the body behind.
-/
def HeadIntact
    (n : Nat)
    (text body : List UInt8) : Prop :=
  ∃ lines : List (List UInt8),
    lines.length = n ∧
      (∀ line ∈ lines, CleanText line) ∧
      text =
        endLines chCr chLf lines ++ endline ++ body ∧
      readHead chCr chLf [] text = some (lines, body)

/- Clean headers are written as a clean line each. -/
theorem appendHeaders_lines
    (hHeaders : CleanHeaders headers)
    (hText :
      rfc822ResponseAppendHeaders avoidTables headers =
        some text) :
    ∃ lines : List (List UInt8),
      lines.length = headers.length ∧
        (∀ line ∈ lines, line ≠ [] ∧ CleanText line) ∧
        text = endLines chCr chLf lines := by
  induction headers generalizing text with
  | nil =>
      cases hText
      exact ⟨[], rfl, nofun, rfl⟩
  | cons entry headers ih =>
      rcases entry with ⟨header, value⟩
      rw [rfc822ResponseAppendHeaders] at hText
      rcases Option.bind_eq_some_iff.mp hText with
        ⟨name, hName, hAfterName⟩
      rcases Option.bind_eq_some_iff.mp hAfterName with
        ⟨rest, hRest, hEnd⟩
      cases hEnd
      rcases (rfc822HeaderToString_printable header).constant
        name hName with ⟨hSome, hClean⟩
      have hValue : CleanText value :=
        hHeaders (header, value) List.mem_cons_self
      rcases ih
        (fun other hMem =>
          hHeaders other (List.mem_cons_of_mem _ hMem))
        hRest with ⟨lines, hLength, hLines, rfl⟩
      refine ⟨(name ++ ascii ": " ++ value) :: lines, ?_, ?_,
        ?_⟩
      · simp [hLength]
      · intro line hMem
        rcases List.mem_cons.mp hMem with rfl | hOld
        · refine ⟨by simp [hSome], ?_⟩
          exact (hClean.append (by decide)).append
            hValue
        · exact hLines line hOld
      · simp [endLines, endline]

theorem contentLengthHeader_clean
    (body : Option (List UInt8)) :
    CleanHeaders (contentLengthHeader body) := by
  cases body with
  | none => exact nofun
  | some body =>
      intro entry hMem
      rw [List.mem_singleton.mp hMem]
      exact toString_clean _

theorem completeHeaders_clean
    (date : ResponseDate)
    (hHeaders : CleanHeaders response.headers) :
    CleanHeaders (completeHeaders date response) := by
  intro entry hMem
  rcases List.mem_cons.mp hMem with rfl | hMore
  · decide
  · rcases List.mem_cons.mp hMore with rfl | hOwn
    · exact date.text_clean
    · exact hHeaders entry hOwn

/- A response with clean headers has one line for each. -/
theorem rfc822ResponseString_intact
    (hHeaders : CleanHeaders response.headers)
    (hOrder : headers.Perm (completeHeaders date response))
    (hText :
      rfc822ResponseString avoidTables headers body response =
        some text) :
    HeadIntact
      (1 + headers.length +
        (contentLengthHeader body).length)
      text (bodyText body) := by
  rcases Option.bind_eq_some_iff.mp hText with
    ⟨proto, hProto, hAfterProto⟩
  rcases Option.bind_eq_some_iff.mp hAfterProto with
    ⟨reason, hReason, hAfterReason⟩
  rcases Option.bind_eq_some_iff.mp hAfterReason with
    ⟨first, hFirst, hAfterFirst⟩
  rcases Option.bind_eq_some_iff.mp hAfterFirst with
    ⟨second, hSecond, hEnd⟩
  cases hEnd
  rcases rfc822ProtoToString_printable _ proto hProto with
    ⟨hSome, hProtoClean⟩
  have hReasonClean :=
    ((rfc822ResponseReason_printable _ _).constant reason
      hReason).2
  have hAll : CleanHeaders headers := fun entry hMem =>
    completeHeaders_clean date hHeaders entry
      (hOrder.subset hMem)
  rcases appendHeaders_lines hAll hFirst with
    ⟨lines, hLength, hLines, rfl⟩
  rcases appendHeaders_lines (contentLengthHeader_clean body)
    hSecond with ⟨more, hMoreLength, hMore, rfl⟩
  have hBlank : CleanText (ascii " ") := by
    decide
  have hStatus :
      CleanText (proto ++ ascii " " ++
        ascii (toString response.status) ++ ascii " " ++
          reason) := by
    simp only [unbroken_append_iff, hProtoClean, hBlank,
      toString_clean, hReasonClean, and_self]
  have hLinesAll :
      ∀ line ∈ (proto ++ ascii " " ++
          ascii (toString response.status) ++ ascii " " ++
            reason) :: (lines ++ more),
        line ≠ [] ∧ CleanText line := by
    intro line hMem
    rcases List.mem_cons.mp hMem with rfl | hMem
    · exact ⟨by simp [hSome], hStatus⟩
    · rcases List.mem_append.mp hMem with hOld | hNew
      · exact hLines line hOld
      · exact hMore line hNew
  have hEnds :
      proto ++ ascii " " ++ ascii (toString response.status) ++
          ascii " " ++ reason ++ endline ++
          endLines chCr chLf lines ++
          endLines chCr chLf more ++ endline ++
          bodyText body =
        endLines chCr chLf
            ((proto ++ ascii " " ++
              ascii (toString response.status) ++ ascii " " ++
                reason) :: (lines ++ more)) ++
          endline ++ bodyText body := by
    simp [endLines, endline]
  refine ⟨_, ?_, fun line hMem => (hLinesAll line hMem).2,
    hEnds, ?_⟩
  · simp only [List.length_cons, List.length_append, hLength,
      hMoreLength]
    omega
  · rw [hEnds]
    exact readHead_endLines hLinesAll _

end Feng
