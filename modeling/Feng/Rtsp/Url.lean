import Feng.Rtsp.Client
import Feng.Uri.Unescape
import Mathlib.Data.List.Infix

/-
  What the method handlers do with the URL of a request: the
  check they share, and the paths that DESCRIBE and SETUP open.

  What a handler gets from its surroundings is a record. What
  PLAY does after the check is one of its fields, as it does
  not look at the URL.

  Key definitions include:
    * `checkForbiddenPath`
    * `rfc822RequestCheckUrl`
    * `selectRequestedTrack`
    * `rtspMethod`
    * `ReachesUnescape`

  Key theorems include:
    * `root_confined_iff`
    * `no_null_path_iff`
-/

------------------------------------------------------------
-- The Check
------------------------------------------------------------

namespace Feng

/- A string function that is given a null pointer. -/
inductive UrlFault where
| nullUri
| nullObject
| nullPath
| nullUnescaped
deriving DecidableEq, Repr

/- The session PLAY leaves, and the response it sends. -/
structure PlayOutcome where
  session : Option RTSPSession
  response : RFC822Response

/-
  What a handler meets: the unescaping function, the document
  root and what is found under a file name, the parser of the
  `Transport` header, and the outcome of `rtp_session_new`.
-/
structure UrlEnv where
  unescape : List UInt8 → Option (List UInt8)
  documentRoot : List UInt8
  resourceAt : List UInt8 → Option Resource
  parseTransportHeader : List UInt8 → Bool
  transportString : Option (List UInt8)
  sessionId : List UInt8
  play : RTSPClient → RFC822Request → PlayOutcome

/- Whether `strstr` finds a string. -/
def strstr (text needle : List UInt8) : Bool :=
  decide (needle <:+: text)

def checkForbiddenPath (uri : URI) : Except UrlFault Bool :=
  match uri.path with
  | none => .error .nullPath
  | some path =>
      .ok (!(strstr path [chDot, chDot, chSlash] ||
        strstr path [chDot, chSlash]))

/- The client, with a response if the check failed. -/
def rfc822RequestCheckUrl
    (rtsp : RTSPClient)
    (req : RFC822Request) :
    Except UrlFault (RTSPClient × Bool) :=
  match req.uri with
  | none =>
      .ok (rfc822ResponseSend rtsp
        (rtspQuickResponse req 400), false)
  | some uri =>
      match checkForbiddenPath uri with
      | .error fault => .error fault
      | .ok true => .ok (rtsp, true)
      | .ok false =>
          .ok (rfc822ResponseSend rtsp
            (rtspQuickResponse req 403), false)

def validStates : RTSPServerState → List UInt8
| .init => ascii "OPTIONS, DESCRIBE, SETUP, TEARDOWN"
| .ready =>
    ascii "OPTIONS, DESCRIBE, SETUP, TEARDOWN, PLAY"
| .playing =>
    ascii
      "OPTIONS, DESCRIBE, SETUP, TEARDOWN, PLAY, PAUSE"

/- The client, with a response in the invalid state. -/
def rtspCheckInvalidState
    (rtsp : RTSPClient)
    (req : RFC822Request)
    (invalidState : RTSPServerState) : RTSPClient × Bool :=
  if rtsp.curState ≠ invalidState then
    (rtsp, true)
  else
    let response := rfc822ResponseNew req 455
    (rfc822ResponseSend rtsp
      { response with
        headers :=
          rfc822HeadersSet response.headers .allow
            (validStates invalidState) }, false)

/- The resource found under the document root. -/
def rOpen
    (env : UrlEnv)
    (innerPath : List UInt8) : Option Resource :=
  env.resourceAt (env.documentRoot ++ chSlash :: innerPath)

def fengStrIsUnreserved (text : List UInt8) : Bool :=
  text.all (fun c =>
    (48 ≤ c && c ≤ 57) || (97 ≤ c && c ≤ 122) ||
      (65 ≤ c && c ≤ 90) || c = 45 || c = 46 || c = 95 ||
      c = 126)

end Feng

------------------------------------------------------------
-- DESCRIBE And SETUP
------------------------------------------------------------

namespace Feng

/- A client, and the path that was opened for it, if one was. -/
abbrev UrlResult :=
  Except UrlFault (RTSPClient × Option (List UInt8))

/- The path of a request, unescaped. -/
def unescapedPath
    (env : UrlEnv)
    (req : RFC822Request) : Except UrlFault (List UInt8) :=
  match req.uri with
  | none => .error .nullUri
  | some uri =>
      match uri.path with
      | none => .error .nullPath
      | some path =>
          match env.unescape path with
          | none => .error .nullUnescaped
          | some path => .ok path

/- The resource to describe, and the path it was opened by. -/
def sdpSessionDescr
    (env : UrlEnv)
    (rtsp : RTSPClient)
    (req : RFC822Request) :
    Except UrlFault (Option Resource × Option (List UInt8)) :=
  if rtsp.peerSa = false then
    .ok (none, none)
  else
    match unescapedPath env req with
    | .error fault => .error fault
    | .ok path => .ok (rOpen env path, some path)

def rtspDescribe
    (env : UrlEnv)
    (rtsp : RTSPClient)
    (req : RFC822Request) : UrlResult :=
  match rfc822RequestCheckUrl rtsp req with
  | .error fault => .error fault
  | .ok (rtsp, false) => .ok (rtsp, none)
  | .ok (rtsp, true) =>
      match sdpSessionDescr env rtsp req with
      | .error fault => .error fault
      | .ok (none, opened) =>
          .ok (rfc822ResponseSend rtsp
            (rtspQuickResponse req 404), opened)
      | .ok (some _, opened) =>
          let response := rfc822ResponseNew req 200
          .ok (rfc822ResponseSend rtsp
            { response with
              headers :=
                rfc822HeadersSet
                  (rfc822HeadersSet response.headers
                    .contentType (ascii "application/sdp"))
                  .contentBase
                  (req.object.getD [] ++ [chSlash]) },
            opened)

/- `r_find_track`, and the checks of the name before it. -/
def findNamedTrack
    (rtsp : RTSPClient)
    (req : RFC822Request)
    (resource : Resource)
    (trackname : List UInt8) :
    RTSPClient × Option (List UInt8) :=
  if !fengStrIsUnreserved trackname then
    (rfc822ResponseSend rtsp (rtspQuickResponse req 460),
      none)
  else if trackname ∈ resource.tracks then
    (rtsp, some trackname)
  else
    (rfc822ResponseSend rtsp (rtspQuickResponse req 404),
      none)

/- The client, the path opened and the track, if any. -/
abbrev TrackResult :=
  Except UrlFault
    (RTSPClient × Option (List UInt8) × Option (List UInt8))

/- The first SETUP of a session has to open its resource. -/
def openRequestedTrack
    (env : UrlEnv)
    (rtsp : RTSPClient)
    (req : RFC822Request)
    (session : RTSPSession)
    (object : List UInt8) : TrackResult :=
  if chSlash ∉ object then
    .ok (rfc822ResponseSend rtsp (rtspQuickResponse req 460),
      none, none)
  else
    match unescapedPath env req with
    | .error fault => .error fault
    | .ok unescaped =>
        let path :=
          if chSlash ∈ unescaped then
            beforeLastSlash unescaped
          else
            unescaped
        match rOpen env path with
        | none =>
            .ok (rfc822ResponseSend rtsp
              (rtspQuickResponse req 404), some path, none)
        | some resource =>
            let session :=
              { session with
                resource :=
                  some (resource, beforeLastSlash object) }
            let (rtsp, track) :=
              findNamedTrack
                { rtsp with session := some session } req
                resource (afterLastSlash object)
            .ok (rtsp, some path, track)

def selectRequestedTrack
    (env : UrlEnv)
    (rtsp : RTSPClient)
    (req : RFC822Request)
    (session : RTSPSession) : TrackResult :=
  match req.object with
  | none => .error .nullObject
  | some object =>
      match session.resource with
      | none =>
          openRequestedTrack env rtsp req session object
      | some (resource, resourceUri) =>
          if object.length < resourceUri.length + 2 ∨
              ¬ resourceUri <+: object ∨
              object.getD resourceUri.length 0 ≠ chSlash then
            .ok (rfc822ResponseSend rtsp
              (rtspQuickResponse req 460), none, none)
          else
            let (rtsp, track) :=
              findNamedTrack rtsp req resource
                (object.drop (resourceUri.length + 1))
            .ok (rtsp, none, track)

/- The new state of a session, and the reply to its SETUP. -/
def setupTrack
    (env : UrlEnv)
    (rtsp : RTSPClient)
    (req : RFC822Request)
    (track : List UInt8) : RTSPClient :=
  match rtsp.session, env.transportString with
  | some session, some transportString =>
      let response := rfc822ResponseNew req 200
      let rtsp :=
        rfc822ResponseSend rtsp
          { response with
            headers :=
              rfc822HeadersSet
                (rfc822HeadersSet response.headers .transport
                  transportString)
                .session session.sessionId }
      { rtsp with
        session := some { session with
          rtpSessions := session.rtpSessions ++ [track]
          curState :=
            match session.curState with
            | .init => .ready
            | other => other } }
  | _, _ =>
      rfc822ResponseSend rtsp (rtspQuickResponse req 461)

/- The `Transport` header has something to choose from. -/
def transportOffered
    (env : UrlEnv)
    (req : RFC822Request) : Bool :=
  match rfc822HeadersLookup req.headers .transport with
  | none => false
  | some header => env.parseTransportHeader header

def rtspSetup
    (env : UrlEnv)
    (rtsp : RTSPClient)
    (req : RFC822Request) : UrlResult :=
  match rfc822RequestCheckUrl rtsp req with
  | .error fault => .error fault
  | .ok (rtsp, false) => .ok (rtsp, none)
  | .ok (rtsp, true) =>
      if transportOffered env req = false then
        .ok (rfc822ResponseSend rtsp
          (rtspQuickResponse req 461), none)
      else
        let session :=
          rtsp.session.getD (rtspSessionNew env.sessionId)
        match selectRequestedTrack env
          { rtsp with session := some session } req
          session with
        | .error fault => .error fault
        | .ok (rtsp, opened, none) => .ok (rtsp, opened)
        | .ok (rtsp, opened, some track) =>
            .ok (setupTrack env rtsp req track, opened)

end Feng

------------------------------------------------------------
-- The Other Methods
------------------------------------------------------------

namespace Feng

def rtspPlay
    (env : UrlEnv)
    (rtsp : RTSPClient)
    (req : RFC822Request) : UrlResult :=
  match rtspCheckInvalidState rtsp req .init with
  | (rtsp, false) => .ok (rtsp, none)
  | (rtsp, true) =>
      match rfc822RequestCheckUrl rtsp req with
      | .error fault => .error fault
      | .ok (rtsp, false) => .ok (rtsp, none)
      | .ok (rtsp, true) =>
          let outcome := env.play rtsp req
          .ok (rfc822ResponseSend
            { rtsp with session := outcome.session }
            outcome.response, none)

/- `rtsp_do_pause`, but for the ranges and the timer. -/
def rtspDoPause (rtsp : RTSPClient) : RTSPClient :=
  { rtsp with
    session :=
      rtsp.session.map
        (fun session => { session with curState := .ready }) }

def rtspPause
    (rtsp : RTSPClient)
    (req : RFC822Request) : UrlResult :=
  match rtspCheckInvalidState rtsp req .init with
  | (rtsp, false) => .ok (rtsp, none)
  | (rtsp, true) =>
      match rtspCheckInvalidState rtsp req .ready with
      | (rtsp, false) => .ok (rtsp, none)
      | (rtsp, true) =>
          match rfc822RequestCheckUrl rtsp req with
          | .error fault => .error fault
          | .ok (rtsp, false) => .ok (rtsp, none)
          | .ok (rtsp, true) =>
              .ok (rfc822ResponseSend (rtspDoPause rtsp)
                (rtspQuickResponse req 200), none)

def rtspTeardown
    (rtsp : RTSPClient)
    (req : RFC822Request) : UrlResult :=
  match rfc822RequestCheckUrl rtsp req with
  | .error fault => .error fault
  | .ok (rtsp, false) => .ok (rtsp, none)
  | .ok (rtsp, true) =>
      .ok (rfc822ResponseSend { rtsp with session := none }
        (rtspQuickResponse req 200), none)

/- The methods that look at the URL. -/
inductive UrlMethod where
| describe
| setup
| play
| pause
| teardown
deriving DecidableEq, Repr

def rtspMethod
    (method : UrlMethod)
    (env : UrlEnv)
    (rtsp : RTSPClient)
    (req : RFC822Request) : UrlResult :=
  match method with
  | .describe => rtspDescribe env rtsp req
  | .setup => rtspSetup env rtsp req
  | .play => rtspPlay env rtsp req
  | .pause => rtspPause rtsp req
  | .teardown => rtspTeardown rtsp req

end Feng

------------------------------------------------------------
-- The Path Of A Request
------------------------------------------------------------

namespace Feng

/- The URL of a request is what its object was parsed into. -/
structure ParsedObject
    (req : RFC822Request)
    (object : List UInt8) : Prop where
  given : req.object = some object
  parsed : req.uri = uriParse object

/- The URL passes the check. -/
def PassesCheck (req : RFC822Request) : Prop :=
  ∃ uri, req.uri = some uri ∧ checkForbiddenPath uri = .ok true

variable {env : UrlEnv} {rtsp rtsp' : RTSPClient}
variable {req : RFC822Request} {object : List UInt8}
variable {uri : URI} {method : UrlMethod}

theorem ParsedObject.path_eq
    (h : ParsedObject req object)
    (hUri : req.uri = some uri) :
    uri.path =
      if pathSegments object = [] then
        none
      else
        some (joinPath (pathSegments object)) :=
  (uriParse_path (h.parsed.symm.trans hUri)).1

theorem ParsedObject.escaped
    (h : ParsedObject req object)
    (hUri : req.uri = some uri) :
    ∀ segment ∈ pathSegments object, Escaped segment :=
  (uriParse_path (h.parsed.symm.trans hUri)).2

theorem checkForbiddenPath_ok_iff :
    (∃ passed, checkForbiddenPath uri = .ok passed) ↔
      uri.path ≠ none := by
  unfold checkForbiddenPath
  cases uri.path with
  | none => simp
  | some path => simp

/- What the check comes to. -/
theorem rfc822RequestCheckUrl_spec
    (rtsp : RTSPClient)
    (req : RFC822Request) :
    (PassesCheck req ∧
      rfc822RequestCheckUrl rtsp req = .ok (rtsp, true)) ∨
    (¬ PassesCheck req ∧
      ∃ answered,
        rfc822RequestCheckUrl rtsp req =
          .ok (answered, false)) ∨
    ((∃ uri, req.uri = some uri ∧ uri.path = none) ∧
      ∃ fault,
        rfc822RequestCheckUrl rtsp req = .error fault) := by
  unfold rfc822RequestCheckUrl PassesCheck
  cases hUri : req.uri with
  | none =>
      exact .inr (.inl ⟨by simp, _, rfl⟩)
  | some uri =>
      cases hCheck : checkForbiddenPath uri with
      | error fault =>
          refine .inr (.inr ⟨⟨uri, rfl, ?_⟩, fault, ?_⟩)
          · by_contra hSome
            rcases checkForbiddenPath_ok_iff.mpr hSome with
              ⟨passed, hPassed⟩
            rw [hCheck] at hPassed
            cases hPassed
          · simp only [hCheck]
      | ok passed =>
          cases passed with
          | true =>
              refine .inl ⟨⟨uri, rfl, hCheck⟩, ?_⟩
              simp only [hCheck]
          | false =>
              refine .inr (.inl ⟨?_, ?_⟩)
              · rintro ⟨other, hOther, hPassed⟩
                cases hOther
                rw [hCheck] at hPassed
                cases hPassed
              · simp only [hCheck]
                exact ⟨_, rfl⟩

theorem PassesCheck.path_ne
    (hCheck : PassesCheck req)
    (hUri : req.uri = some uri) :
    uri.path ≠ none := by
  rcases hCheck with ⟨other, hOther, hPassed⟩
  rw [hUri] at hOther
  cases hOther
  exact checkForbiddenPath_ok_iff.mp ⟨true, hPassed⟩

/- The check is safe for an object with a path. -/
theorem ParsedObject.check_ok_iff
    (h : ParsedObject req object)
    (rtsp : RTSPClient) :
    (∃ result, rfc822RequestCheckUrl rtsp req = .ok result) ↔
      (uriParse object ≠ none →
        pathSegments object ≠ []) := by
  rcases rfc822RequestCheckUrl_spec rtsp req with
    ⟨hPasses, hOk⟩ | ⟨_, answered, hOk⟩ |
    ⟨⟨uri, hUri, hNone⟩, fault, hError⟩
  · apply iff_of_true ⟨_, hOk⟩
    intro _ hEmpty
    rcases hPasses with ⟨uri, hUri, hPassed⟩
    have hPath := h.path_eq hUri
    rw [if_pos hEmpty] at hPath
    exact PassesCheck.path_ne ⟨uri, hUri, hPassed⟩ hUri hPath
  · apply iff_of_true ⟨_, hOk⟩
    intro hSome hEmpty
    cases hUri : req.uri with
    | none =>
        exact hSome (h.parsed.symm.trans hUri)
    | some uri =>
        have hPath := h.path_eq hUri
        rw [if_pos hEmpty] at hPath
        unfold rfc822RequestCheckUrl checkForbiddenPath at hOk
        rw [hUri] at hOk
        simp only [hPath] at hOk
        cases hOk
  · apply iff_of_false
    · rintro ⟨result, hOk⟩
      rw [hError] at hOk
      cases hOk
    · intro hSafe
      have hPath := h.path_eq hUri
      have hSome : uriParse object ≠ none := by
        rw [← h.parsed, hUri]
        simp
      rw [if_neg (hSafe hSome), hNone] at hPath
      cases hPath

/- Behind the check, the path is unescaped unless it cannot be. -/
theorem ParsedObject.unescapedPath_spec
    (h : ParsedObject req object)
    (hUnescape : Unescapes env.unescape)
    (hCheck : PassesCheck req) :
    pathSegments object ≠ [] ∧
    ((∃ results,
      UnescapesTo env.unescape (pathSegments object) results ∧
        unescapedPath env req = .ok (joinPath results)) ∨
    ((∃ segment ∈ pathSegments object,
        ForbidsUnescape segment) ∧
      unescapedPath env req = .error .nullUnescaped)) := by
  rcases hCheck with ⟨uri, hUri, hPassed⟩
  have hSome := PassesCheck.path_ne ⟨uri, hUri, hPassed⟩ hUri
  have hPath := h.path_eq hUri
  have hEscaped := h.escaped hUri
  have hNonempty : pathSegments object ≠ [] := by
    intro hEmpty
    rw [if_pos hEmpty] at hPath
    exact hSome hPath
  rw [if_neg hNonempty] at hPath
  refine ⟨hNonempty, ?_⟩
  unfold unescapedPath
  rw [hUri]
  simp only [hPath]
  rcases hUnescape.joined hEscaped with
    ⟨results, hResults, hEq⟩ | ⟨⟨segment, hMem, hNone⟩, hEq⟩
  · refine .inl ⟨results, hResults, ?_⟩
    rw [hEq]
  · refine .inr ⟨⟨segment, hMem, ?_⟩, ?_⟩
    · exact (hUnescape.eq_none_iff
        (hEscaped segment hMem)).mp hNone
    · rw [hEq]

/- There is a path to open exactly without such escapes. -/
theorem ParsedObject.unescapedPath_ok_iff
    (h : ParsedObject req object)
    (hUnescape : Unescapes env.unescape)
    (hCheck : PassesCheck req) :
    (∃ path, unescapedPath env req = .ok path) ↔
      ∀ segment ∈ pathSegments object,
        ¬ ForbidsUnescape segment := by
  rcases hCheck with ⟨uri, hUri, hPassed⟩
  have hEscaped := h.escaped hUri
  rcases (h.unescapedPath_spec hUnescape
      ⟨uri, hUri, hPassed⟩).2 with
    ⟨results, hResults, hOk⟩ |
    ⟨⟨segment, hMem, hForbids⟩, hError⟩
  · apply iff_of_true ⟨_, hOk⟩
    intro segment hMem hForbids
    have hNone := (hUnescape.eq_none_iff
      (hEscaped segment hMem)).mpr hForbids
    rcases List.mem_iff_get.mp hMem with ⟨i, hi⟩
    have hBound : i.1 < results.length := by
      rw [← hResults.length_eq]
      exact i.2
    have hOne :=
      (List.forall₂_iff_get.mp hResults).2 i.1 i.2 hBound
    rw [hi, hNone] at hOne
    cases hOne
  · apply iff_of_false
    · rintro ⟨path, hOk⟩
      rw [hError] at hOk
      cases hOk
    · intro hAll
      exact hAll segment hMem hForbids

end Feng

------------------------------------------------------------
-- No Missing Path
------------------------------------------------------------

namespace Feng

variable {env : UrlEnv} {rtsp rtsp' : RTSPClient}
variable {req : RFC822Request} {object : List UInt8}
variable {method : UrlMethod}

/- The session, if there is one, has no resource yet. -/
def OpensResource (rtsp : RTSPClient) : Prop :=
  ∀ session, rtsp.session = some session →
    session.resource = none

/- The method is not refused before the check. -/
def ReachesCheck
    (method : UrlMethod)
    (rtsp : RTSPClient) : Prop :=
  match method with
  | .play => rtsp.curState ≠ .init
  | .pause =>
      rtsp.curState ≠ .init ∧ rtsp.curState ≠ .ready
  | _ => True

/- The method gets as far as unescaping the path. -/
def ReachesUnescape
    (method : UrlMethod)
    (env : UrlEnv)
    (rtsp : RTSPClient)
    (req : RFC822Request)
    (object : List UInt8) : Prop :=
  match method with
  | .describe => PassesCheck req ∧ rtsp.peerSa = true
  | .setup =>
      PassesCheck req ∧ transportOffered env req = true ∧
        OpensResource rtsp ∧ chSlash ∈ object
  | _ => False

/-
  The object has a path, where the method checks it, and no
  escaped slash or NUL in it, where the method unescapes it.
-/
def PathPresent
    (method : UrlMethod)
    (env : UrlEnv)
    (rtsp : RTSPClient)
    (req : RFC822Request)
    (object : List UInt8) : Prop :=
  (ReachesCheck method rtsp → uriParse object ≠ none →
    pathSegments object ≠ []) ∧
  (ReachesUnescape method env rtsp req object →
    ∀ segment ∈ pathSegments object,
      ¬ ForbidsUnescape segment)

theorem sdpSessionDescr_ok_iff :
    (∃ result, sdpSessionDescr env rtsp req = .ok result) ↔
      (rtsp.peerSa = true →
        ∃ path, unescapedPath env req = .ok path) := by
  unfold sdpSessionDescr
  cases hPeer : rtsp.peerSa with
  | false => simp
  | true =>
      rw [if_neg (by simp)]
      cases unescapedPath env req with
      | error fault => simp
      | ok path => simp

theorem rtspDescribe_ok_iff
    (h : ParsedObject req object) :
    (∃ result, rtspDescribe env rtsp req = .ok result) ↔
      (uriParse object ≠ none → pathSegments object ≠ []) ∧
        (PassesCheck req → rtsp.peerSa = true →
          ∃ path, unescapedPath env req = .ok path) := by
  rw [← h.check_ok_iff rtsp]
  rcases rfc822RequestCheckUrl_spec rtsp req with
    ⟨hPasses, hOk⟩ | ⟨hFails, answered, hOk⟩ |
    ⟨hNone, fault, hError⟩
  · have hSafe :
        ∃ result, rfc822RequestCheckUrl rtsp req =
          .ok result :=
      ⟨_, hOk⟩
    simp only [hSafe, hPasses, true_and, true_implies]
    rw [← sdpSessionDescr_ok_iff]
    simp only [rtspDescribe, hOk]
    cases sdpSessionDescr env rtsp req with
    | error fault =>
        simp
    | ok result =>
        rcases result with ⟨resource, opened⟩
        cases resource with
        | none => simp
        | some resource => simp
  · simp [rtspDescribe, hOk, hFails]
  · simp [rtspDescribe, hError]

theorem openRequestedTrack_ok_iff
    {session : RTSPSession} :
    (∃ result,
      openRequestedTrack env rtsp req session object =
        .ok result) ↔
      (chSlash ∈ object →
        ∃ path, unescapedPath env req = .ok path) := by
  unfold openRequestedTrack
  by_cases hSlash : chSlash ∈ object
  · rw [if_neg (not_not.mpr hSlash)]
    cases unescapedPath env req with
    | error fault =>
        simp [hSlash]
    | ok path =>
        simp only [hSlash, true_implies]
        apply iff_of_true _ ⟨path, rfl⟩
        split
        · exact ⟨_, rfl⟩
        · exact ⟨_, rfl⟩
  · rw [if_pos hSlash]
    simp [hSlash]

theorem selectRequestedTrack_ok_iff
    (h : ParsedObject req object)
    (rtsp : RTSPClient)
    (session : RTSPSession) :
    (∃ result,
      selectRequestedTrack env rtsp req session =
        .ok result) ↔
      (session.resource = none → chSlash ∈ object →
        ∃ path, unescapedPath env req = .ok path) := by
  unfold selectRequestedTrack
  rw [h.given]
  cases hResource : session.resource with
  | none =>
      simp only [true_implies]
      exact openRequestedTrack_ok_iff
  | some open_ =>
      rcases open_ with ⟨resource, resourceUri⟩
      simp only [reduceCtorEq, false_implies, iff_true]
      split
      · exact ⟨_, rfl⟩
      · exact ⟨_, rfl⟩

/- A new session has no resource. -/
theorem opensResource_iff
    (sessionId : List UInt8) :
    OpensResource rtsp ↔
      (rtsp.session.getD
        (rtspSessionNew sessionId)).resource = none := by
  unfold OpensResource
  cases rtsp.session with
  | none => simp [rtspSessionNew]
  | some session => simp

theorem rtspSetup_ok_iff
    (h : ParsedObject req object) :
    (∃ result, rtspSetup env rtsp req = .ok result) ↔
      (uriParse object ≠ none → pathSegments object ≠ []) ∧
        (PassesCheck req → transportOffered env req = true →
          OpensResource rtsp → chSlash ∈ object →
          ∃ path, unescapedPath env req = .ok path) := by
  rw [← h.check_ok_iff rtsp,
    opensResource_iff env.sessionId]
  rcases rfc822RequestCheckUrl_spec rtsp req with
    ⟨hPasses, hOk⟩ | ⟨hFails, answered, hOk⟩ |
    ⟨hNone, fault, hError⟩
  · have hSafe :
        ∃ result, rfc822RequestCheckUrl rtsp req =
          .ok result :=
      ⟨_, hOk⟩
    simp only [hSafe, hPasses, true_and, true_implies]
    simp only [rtspSetup, hOk]
    cases hOffered : transportOffered env req with
    | false =>
        simp
    | true =>
        simp only [true_implies]
        generalize rtsp.session.getD
          (rtspSessionNew env.sessionId) = session
        rw [← selectRequestedTrack_ok_iff h
          { rtsp with session := some session } session]
        rw [if_neg (by simp)]
        cases selectRequestedTrack env
            { rtsp with session := some session } req
            session with
        | error fault =>
            simp
        | ok result =>
            rcases result with ⟨after, opened, track⟩
            cases track with
            | none => simp
            | some track => simp
  · simp [rtspSetup, hOk, hFails]
  · simp [rtspSetup, hError]

theorem rtspCheckInvalidState_eq
    (rtsp : RTSPClient)
    (req : RFC822Request)
    (invalidState : RTSPServerState) :
    (rtsp.curState ≠ invalidState ∧
      rtspCheckInvalidState rtsp req invalidState =
        (rtsp, true)) ∨
    (rtsp.curState = invalidState ∧
      ∃ answered,
        rtspCheckInvalidState rtsp req invalidState =
          (answered, false)) := by
  unfold rtspCheckInvalidState
  by_cases hState : rtsp.curState = invalidState
  · rw [if_neg (not_not.mpr hState)]
    exact .inr ⟨hState, _, rfl⟩
  · rw [if_pos hState]
    exact .inl ⟨hState, rfl⟩

theorem rtspPlay_ok_iff
    (h : ParsedObject req object) :
    (∃ result, rtspPlay env rtsp req = .ok result) ↔
      (rtsp.curState ≠ .init → uriParse object ≠ none →
        pathSegments object ≠ []) := by
  rw [← h.check_ok_iff rtsp]
  unfold rtspPlay
  rcases rtspCheckInvalidState_eq rtsp req .init with
    ⟨hState, hEq⟩ | ⟨hState, answered, hEq⟩
  · rw [hEq]
    simp only [ne_eq, hState, not_false_eq_true, true_implies]
    cases rfc822RequestCheckUrl rtsp req with
    | error fault => simp
    | ok result =>
        rcases result with ⟨after, passed⟩
        cases passed with
        | false => simp
        | true => simp
  · rw [hEq]
    simp [hState]

theorem rtspPause_ok_iff
    (h : ParsedObject req object) :
    (∃ result, rtspPause rtsp req = .ok result) ↔
      (rtsp.curState ≠ .init ∧ rtsp.curState ≠ .ready →
        uriParse object ≠ none →
        pathSegments object ≠ []) := by
  rw [← h.check_ok_iff rtsp]
  unfold rtspPause
  rcases rtspCheckInvalidState_eq rtsp req .init with
    ⟨hInit, hEq⟩ | ⟨hInit, answered, hEq⟩
  · rw [hEq]
    rcases rtspCheckInvalidState_eq rtsp req .ready with
      ⟨hReady, hEqReady⟩ | ⟨hReady, answered, hEqReady⟩
    · simp only [hEqReady, ne_eq, hInit, hReady,
        not_false_eq_true, and_self, true_implies]
      cases rfc822RequestCheckUrl rtsp req with
      | error fault => simp
      | ok result =>
          rcases result with ⟨after, passed⟩
          cases passed with
          | false => simp
          | true => simp
    · simp [hEqReady, hReady]
  · rw [hEq]
    simp [hInit]

theorem rtspTeardown_ok_iff
    (h : ParsedObject req object) :
    (∃ result, rtspTeardown rtsp req = .ok result) ↔
      (uriParse object ≠ none →
        pathSegments object ≠ []) := by
  rw [← h.check_ok_iff rtsp]
  unfold rtspTeardown
  cases rfc822RequestCheckUrl rtsp req with
  | error fault => simp
  | ok result =>
      rcases result with ⟨after, passed⟩
      cases passed with
      | false => simp
      | true => simp

/-
  A handler uses no null pointer exactly when the object has
  the path it looks for.
-/
theorem no_null_path_iff
    (h : ParsedObject req object)
    (hUnescape : Unescapes env.unescape) :
    (∃ result, rtspMethod method env rtsp req = .ok result) ↔
      PathPresent method env rtsp req object := by
  unfold PathPresent
  cases method with
  | describe =>
      change (∃ result, rtspDescribe env rtsp req =
        .ok result) ↔ _
      rw [rtspDescribe_ok_iff h]
      simp only [ReachesCheck, ReachesUnescape, true_implies,
        and_imp]
      apply and_congr_right
      intro _
      apply forall_congr'
      intro hPasses
      apply forall_congr'
      intro _
      exact h.unescapedPath_ok_iff hUnescape hPasses
  | setup =>
      change (∃ result, rtspSetup env rtsp req =
        .ok result) ↔ _
      rw [rtspSetup_ok_iff h]
      simp only [ReachesCheck, ReachesUnescape, true_implies,
        and_imp]
      apply and_congr_right
      intro _
      apply forall_congr'
      intro hPasses
      iterate 3
        apply forall_congr'
        intro _
      exact h.unescapedPath_ok_iff hUnescape hPasses
  | play =>
      change (∃ result, rtspPlay env rtsp req = .ok result) ↔ _
      rw [rtspPlay_ok_iff h]
      simp [ReachesCheck, ReachesUnescape]
  | pause =>
      change (∃ result, rtspPause rtsp req = .ok result) ↔ _
      rw [rtspPause_ok_iff h]
      simp [ReachesCheck, ReachesUnescape]
  | teardown =>
      change (∃ result, rtspTeardown rtsp req =
        .ok result) ↔ _
      rw [rtspTeardown_ok_iff h]
      simp [ReachesCheck, ReachesUnescape]

/- A server with one resource, whatever the file name. -/
def sampleUrlEnv : UrlEnv where
  unescape := gUriUnescapeString
  documentRoot := ascii "/srv"
  resourceAt := fun _ => some ⟨[ascii "t"]⟩
  parseTransportHeader := fun _ => true
  transportString := some (ascii "RTP/AVP;unicast")
  sessionId := ascii "0123456789abcdef"
  play := fun rtsp req =>
    { session := rtsp.session
      response := rfc822ResponseNew req 200 }

def sampleUrlRequest
    (methodId : Nat)
    (object : List UInt8) : RFC822Request where
  proto := .rtsp10
  methodId := methodId
  methodStr := none
  object := some object
  uri := uriParse object
  protocolStr := none
  headers :=
    some [(.cSeq, ascii "1"),
      (.transport, ascii "RTP/AVP;unicast")]

theorem sampleUrlRequest_parsed
    (methodId : Nat)
    (object : List UInt8) :
    ParsedObject (sampleUrlRequest methodId object) object :=
  ⟨rfl, rfl⟩

theorem no_null_path_iff_setup :
    (∃ result,
      rtspMethod .setup sampleUrlEnv rtspClientNew
        (sampleUrlRequest RTSPMethod.setup
          (ascii "rtsp://h/a%20b/t")) = .ok result) ↔
      PathPresent .setup sampleUrlEnv rtspClientNew
        (sampleUrlRequest RTSPMethod.setup
          (ascii "rtsp://h/a%20b/t"))
        (ascii "rtsp://h/a%20b/t") :=
  no_null_path_iff (sampleUrlRequest_parsed _ _)
    gUriUnescapeString_unescapes

/- A URI without a path is accepted, and so is a `%2F` in one. -/
theorem null_path_used :
    (uriParse (ascii "rtsp://h")).isSome = true ∧
    rtspMethod .describe sampleUrlEnv rtspClientNew
        (sampleUrlRequest RTSPMethod.describe
          (ascii "rtsp://h")) = .error .nullPath ∧
    (uriParse (ascii "rtsp://h/a%2Fb")).isSome = true ∧
    rtspMethod .describe sampleUrlEnv rtspClientNew
        (sampleUrlRequest RTSPMethod.describe
          (ascii "rtsp://h/a%2Fb")) =
      .error .nullUnescaped := by
  decide +kernel

end Feng

------------------------------------------------------------
-- Confinement
------------------------------------------------------------

namespace Feng

variable {env : UrlEnv} {rtsp rtsp' : RTSPClient}
variable {req : RFC822Request} {object path : List UInt8}
variable {method : UrlMethod}

/- The segments a method opens: SETUP cuts off the track. -/
def openedSegments
    (method : UrlMethod)
    (object : List UInt8) : List (List UInt8) :=
  match method with
  | .setup => (pathSegments object).dropLast
  | _ => pathSegments object

theorem rtspDescribe_opened
    (hOpen : rtspDescribe env rtsp req =
      .ok (rtsp', some path)) :
    PassesCheck req ∧ unescapedPath env req = .ok path := by
  unfold rtspDescribe at hOpen
  rcases rfc822RequestCheckUrl_spec rtsp req with
    ⟨hPasses, hOk⟩ | ⟨_, answered, hOk⟩ |
    ⟨_, fault, hError⟩
  · rw [hOk] at hOpen
    refine ⟨hPasses, ?_⟩
    unfold sdpSessionDescr at hOpen
    cases hPeer : rtsp.peerSa with
    | false =>
        simp [hPeer] at hOpen
    | true =>
        simp only [hPeer, Bool.true_eq_false, if_false]
          at hOpen
        cases hUnescaped : unescapedPath env req with
        | error fault =>
            simp [hUnescaped] at hOpen
        | ok unescaped =>
            simp only [hUnescaped] at hOpen
            cases hResource : rOpen env unescaped with
            | none =>
                simp only [hResource, Except.ok.injEq,
                  Prod.mk.injEq, Option.some.injEq] at hOpen
                rw [hOpen.2]
            | some resource =>
                simp only [hResource, Except.ok.injEq,
                  Prod.mk.injEq, Option.some.injEq] at hOpen
                rw [hOpen.2]
  · rw [hOk] at hOpen
    simp at hOpen
  · rw [hError] at hOpen
    simp at hOpen

theorem openRequestedTrack_opened
    {session : RTSPSession}
    {track : Option (List UInt8)}
    (hOpen : openRequestedTrack env rtsp req session object =
      .ok (rtsp', some path, track)) :
    ∃ unescaped,
      unescapedPath env req = .ok unescaped ∧
        path =
          if chSlash ∈ unescaped then
            beforeLastSlash unescaped
          else
            unescaped := by
  unfold openRequestedTrack at hOpen
  by_cases hSlash : chSlash ∈ object
  · rw [if_neg (not_not.mpr hSlash)] at hOpen
    cases hUnescaped : unescapedPath env req with
    | error fault =>
        simp [hUnescaped] at hOpen
    | ok unescaped =>
        refine ⟨unescaped, rfl, ?_⟩
        simp only [hUnescaped] at hOpen
        split at hOpen
        · simp only [Except.ok.injEq, Prod.mk.injEq,
            Option.some.injEq] at hOpen
          exact hOpen.2.1.symm
        · simp only [Except.ok.injEq, Prod.mk.injEq,
            Option.some.injEq] at hOpen
          exact hOpen.2.1.symm
  · rw [if_pos hSlash] at hOpen
    simp at hOpen

theorem selectRequestedTrack_opened
    {session : RTSPSession}
    {track : Option (List UInt8)}
    (hOpen : selectRequestedTrack env rtsp req session =
      .ok (rtsp', some path, track)) :
    ∃ unescaped,
      unescapedPath env req = .ok unescaped ∧
        path =
          if chSlash ∈ unescaped then
            beforeLastSlash unescaped
          else
            unescaped := by
  unfold selectRequestedTrack at hOpen
  cases hObject : req.object with
  | none =>
      simp [hObject] at hOpen
  | some object =>
      cases hResource : session.resource with
      | none =>
          simp only [hObject, hResource] at hOpen
          exact openRequestedTrack_opened hOpen
      | some open_ =>
          rcases open_ with ⟨resource, resourceUri⟩
          simp only [hObject, hResource] at hOpen
          split at hOpen
          · simp at hOpen
          · simp at hOpen

theorem rtspSetup_opened
    (hOpen : rtspSetup env rtsp req = .ok (rtsp', some path)) :
    PassesCheck req ∧
      ∃ unescaped,
        unescapedPath env req = .ok unescaped ∧
          path =
            if chSlash ∈ unescaped then
              beforeLastSlash unescaped
            else
              unescaped := by
  unfold rtspSetup at hOpen
  rcases rfc822RequestCheckUrl_spec rtsp req with
    ⟨hPasses, hOk⟩ | ⟨_, answered, hOk⟩ |
    ⟨_, fault, hError⟩
  · rw [hOk] at hOpen
    refine ⟨hPasses, ?_⟩
    cases hOffered : transportOffered env req with
    | false =>
        simp [hOffered] at hOpen
    | true =>
        simp only [hOffered, Bool.true_eq_false, if_false]
          at hOpen
        split at hOpen
        · cases hOpen
        · rename_i after opened hSelect
          simp only [Except.ok.injEq, Prod.mk.injEq] at hOpen
          rw [hOpen.2] at hSelect
          exact selectRequestedTrack_opened hSelect
        · rename_i after opened track hSelect
          simp only [Except.ok.injEq, Prod.mk.injEq] at hOpen
          rw [hOpen.2] at hSelect
          exact selectRequestedTrack_opened hSelect
  · rw [hOk] at hOpen
    simp at hOpen
  · rw [hError] at hOpen
    simp at hOpen

/- Only DESCRIBE and SETUP open a path. -/
theorem rtspMethod_opened
    (hOpen : rtspMethod method env rtsp req =
      .ok (rtsp', some path)) :
    method = .describe ∨ method = .setup := by
  cases method with
  | describe => exact .inl rfl
  | setup => exact .inr rfl
  | play =>
      exfalso
      simp only [rtspMethod, rtspPlay] at hOpen
      repeat' split at hOpen
      all_goals simp at hOpen
  | pause =>
      exfalso
      simp only [rtspMethod, rtspPause] at hOpen
      repeat' split at hOpen
      all_goals simp at hOpen
  | teardown =>
      exfalso
      simp only [rtspMethod, rtspTeardown] at hOpen
      repeat' split at hOpen
      all_goals simp at hOpen

/- The path that is opened is made of the opened segments. -/
theorem ParsedObject.opened_path
    (h : ParsedObject req object)
    (hUnescape : Unescapes env.unescape)
    (hOpen : rtspMethod method env rtsp req =
      .ok (rtsp', some path)) :
    (∀ segment ∈ pathSegments object, Escaped segment) ∧
    ∃ results,
      UnescapesTo env.unescape (openedSegments method object)
        results ∧
      path = joinPath results := by
  have hJoined
      (hCheck : PassesCheck req)
      {unescaped : List UInt8}
      (hPath : unescapedPath env req = .ok unescaped) :
      (∀ segment ∈ pathSegments object, Escaped segment) ∧
      pathSegments object ≠ [] ∧
      ∃ results,
        UnescapesTo env.unescape (pathSegments object)
          results ∧
        unescaped = joinPath results := by
    rcases hCheck with ⟨uri, hUri, hPassed⟩
    refine ⟨h.escaped hUri, ?_⟩
    rcases h.unescapedPath_spec hUnescape
        ⟨uri, hUri, hPassed⟩ with
      ⟨hSome, ⟨results, hResults, hOk⟩ | ⟨_, hError⟩⟩
    · rw [hOk] at hPath
      cases hPath
      exact ⟨hSome, results, hResults, rfl⟩
    · rw [hError] at hPath
      cases hPath
  rcases rtspMethod_opened hOpen with hMethod | hMethod
  · subst hMethod
    rcases rtspDescribe_opened hOpen with ⟨hCheck, hPath⟩
    rcases hJoined hCheck hPath with
      ⟨hEscaped, _, results, hResults, hEq⟩
    exact ⟨hEscaped, results, hResults, hEq⟩
  · subst hMethod
    rcases rtspSetup_opened hOpen with
      ⟨hCheck, unescaped, hPath, hCut⟩
    rcases hJoined hCheck hPath with
      ⟨hEscaped, hSome, results, hResults, hEq⟩
    refine ⟨hEscaped, results.dropLast,
      hResults.dropLast, ?_⟩
    have hResultsSome : results ≠ [] := by
      intro hNil
      apply hSome
      rw [← List.length_eq_zero_iff, hResults.length_eq, hNil]
      rfl
    have hNoSlash := hResults.no_slash hUnescape hEscaped
      (fun _ hMem => not_mem_pathSegments hMem)
    have hSlash : chSlash ∈ joinPath results := by
      cases results with
      | nil => exact absurd rfl hResultsSome
      | cons result results => exact List.mem_cons_self
    rw [hCut, hEq, if_pos hSlash]
    exact beforeLastSlash_joinPath hNoSlash hResultsSome

theorem openedSegments_subset
    (method : UrlMethod)
    (object : List UInt8) :
    openedSegments method object ⊆ pathSegments object := by
  unfold openedSegments
  split
  · exact List.dropLast_subset _
  · exact List.Subset.refl _

/-
  The path that is opened stays below the document root
  exactly when no opened segment of the object spells `..`.
-/
theorem root_confined_iff
    (h : ParsedObject req object)
    (hUnescape : Unescapes env.unescape)
    (hOpen : rtspMethod method env rtsp req =
      .ok (rtsp', some path)) :
    NoDotDot path ↔
      ∀ segment ∈ openedSegments method object,
        ¬ SpellsDotDot segment := by
  rcases h.opened_path hUnescape hOpen with
    ⟨hEscaped, results, hResults, hEq⟩
  have hSubset := openedSegments_subset method object
  rw [hEq]
  exact hResults.noDotDot_iff hUnescape
    (fun _ hMem => hEscaped _ (hSubset hMem))
    (fun _ hMem => not_mem_pathSegments (hSubset hMem))

/- A path that was opened, with the client left to prove. -/
theorem exists_opened
    {result : UrlResult}
    (hOpen : result.map Prod.snd = .ok (some path)) :
    ∃ rtsp, result = .ok (rtsp, some path) := by
  cases result with
  | error fault => cases hOpen
  | ok result =>
      rcases result with ⟨rtsp, opened⟩
      cases hOpen
      exact ⟨rtsp, rfl⟩

theorem root_confined_iff_setup :
    NoDotDot (ascii "/a b") ↔
      ∀ segment ∈
          openedSegments .setup (ascii "rtsp://h/a%20b/t"),
        ¬ SpellsDotDot segment := by
  have hOpen :
      (rtspMethod .setup sampleUrlEnv rtspClientNew
        (sampleUrlRequest RTSPMethod.setup
          (ascii "rtsp://h/a%20b/t"))).map Prod.snd =
        .ok (some (ascii "/a b")) := by
    decide +kernel
  rcases exists_opened hOpen with ⟨rtsp, hResult⟩
  exact root_confined_iff (sampleUrlRequest_parsed _ _)
    gUriUnescapeString_unescapes hResult

/- The last segment has no slash behind it. -/
theorem root_escaped :
    (∃ rtsp,
      rtspMethod .describe sampleUrlEnv rtspClientNew
          (sampleUrlRequest RTSPMethod.describe
            (ascii "rtsp://h/..")) =
        .ok (rtsp, some (ascii "/.."))) ∧
      ¬ NoDotDot (ascii "/..") := by
  have hOpen :
      (rtspMethod .describe sampleUrlEnv rtspClientNew
        (sampleUrlRequest RTSPMethod.describe
          (ascii "rtsp://h/.."))).map Prod.snd =
        .ok (some (ascii "/..")) := by
    decide +kernel
  refine ⟨exists_opened hOpen, ?_⟩
  decide +kernel

end Feng
