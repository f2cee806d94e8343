import Feng.Lib.System
import Feng.Rtsp.Url
import Feng.Uri.Prefixes
import Mathlib.Data.List.GetD

/-
  The tracks that SETUP requests select: the resource of the
  session against the URL it was opened for.

  The first SETUP cuts the track off the object, and off the
  path that was parsed. The two agree where the object has its
  last slash in the path, with something behind it. Otherwise
  a later SETUP may name a track of another presentation.

  Key definitions include:
    * `setupSystem`
    * `Designates`
    * `Opens`
    * `OpensTrackUrl`

  Key theorems include:
    * `TrackUrl.urlPath_eq`
    * `setups_designate`
    * `setup_elsewhere`
-/

------------------------------------------------------------
-- Sequences Of SETUP Requests
------------------------------------------------------------

namespace Feng

/- What a SETUP is given beside the presentations there are. -/
structure SetupInput where
  parseTransportHeader : List UInt8 → Bool
  transportString : Option (List UInt8)
  sessionId : List UInt8
  req : RFC822Request

def SetupInput.env
    (setup : SetupInput)
    (env : UrlEnv) : UrlEnv :=
  { env with
    parseTransportHeader := setup.parseTransportHeader
    transportString := setup.transportString
    sessionId := setup.sessionId }

def setupStep
    (env : UrlEnv)
    (rtsp : RTSPClient)
    (setup : SetupInput) : Except UrlFault RTSPClient :=
  (rtspSetup (setup.env env) rtsp setup.req).map Prod.fst

/- The requests of one client, one behind the other. -/
def setupSystem
    (env : UrlEnv)
    (rtsp : RTSPClient) : System RTSPClient SetupInput :=
  System.ofStep rtsp
    (fun _ setup =>
      ∃ object, ParsedObject setup.req object)
    (setupStep env)

/- The session a SETUP is about. -/
def setupSession
    (rtsp : RTSPClient)
    (setup : SetupInput) : RTSPSession :=
  rtsp.session.getD (rtspSessionNew setup.sessionId)

/- A SETUP is not refused before a track is selected. -/
def ReachesSelection
    (env : UrlEnv)
    (setup : SetupInput) : Prop :=
  PassesCheck setup.req ∧
    transportOffered (setup.env env) setup.req = true

/- `select_requested_track`, as a SETUP calls it. -/
def setupSelection
    (env : UrlEnv)
    (rtsp : RTSPClient)
    (setup : SetupInput) : TrackResult :=
  selectRequestedTrack (setup.env env)
    { rtsp with session := some (setupSession rtsp setup) }
    setup.req (setupSession rtsp setup)

end Feng

------------------------------------------------------------
-- Presentations
------------------------------------------------------------

namespace Feng

/- The path of a URL, unescaped; it is empty without a path. -/
def urlPath
    (env : UrlEnv)
    (url : List UInt8) : Option (List UInt8) :=
  match uriParse url with
  | none => none
  | some uri =>
      match uri.path with
      | none => some []
      | some path => env.unescape path

/- The resource is the one that is opened for the URL. -/
def Designates
    (env : UrlEnv)
    (url : List UInt8)
    (resource : Resource) : Prop :=
  ∃ path, urlPath env url = some path ∧
    rOpen env path = some resource

/- What a client holds is what its URI designates. -/
def Consistent
    (env : UrlEnv)
    (rtsp : RTSPClient) : Prop :=
  ∀ session resource uri,
    rtsp.session = some session →
      session.resource = some (resource, uri) →
        Designates env uri resource

/- A track that is returned is the one that the URL names. -/
def TrackNamed
    (env : UrlEnv)
    (rtsp : RTSPClient)
    (setup : SetupInput) : Prop :=
  ∀ after opened track,
    ReachesSelection env setup →
    setupSelection env rtsp setup =
      .ok (after, opened, some track) →
    ∃ url session resource uri,
      setup.req.object = some (url ++ chSlash :: track) ∧
      chSlash ∉ track ∧
      after.session = some session ∧
      session.resource = some (resource, uri) ∧
      Designates env url resource ∧
      track ∈ resource.tracks

/- The path that SETUP opens. -/
def setupPath (unescaped : List UInt8) : List UInt8 :=
  if chSlash ∈ unescaped then
    beforeLastSlash unescaped
  else
    unescaped

/- A SETUP opens the resource of the session. -/
def Opens
    (env : UrlEnv)
    (rtsp : RTSPClient)
    (setup : SetupInput) : Prop :=
  OpensResource rtsp ∧ ReachesSelection env setup ∧
    ∃ unescaped resource,
      unescapedPath env setup.req = .ok unescaped ∧
        rOpen env (setupPath unescaped) = some resource

/- It does so for the URL of a track. -/
def OpensTrackUrl
    (env : UrlEnv)
    (rtsp : RTSPClient)
    (setup : SetupInput) : Prop :=
  Opens env rtsp setup →
    ∀ object, setup.req.object = some object →
      TrackUrl object

end Feng

------------------------------------------------------------
-- The Path That Is Opened
------------------------------------------------------------

namespace Feng

variable {env : UrlEnv} {req : RFC822Request}
variable {object unescaped url : List UInt8}
variable {segments results others : List (List UInt8)}

theorem UnescapesTo.unique
    {unescape : List UInt8 → Option (List UInt8)}
    (h : UnescapesTo unescape segments results)
    (hOther : UnescapesTo unescape segments others) :
    results = others := by
  induction h generalizing others with
  | nil =>
      cases hOther
      rfl
  | cons hFirst _ ih =>
      cases hOther with
      | cons hSame hOthers =>
          rw [hFirst] at hSame
          cases hSame
          rw [ih hOthers]

/- Segments that unescape make up a path that does. -/
theorem Unescapes.joined_eq
    {unescape : List UInt8 → Option (List UInt8)}
    (h : Unescapes unescape)
    (hEscaped : ∀ segment ∈ segments, Escaped segment)
    (hResults : UnescapesTo unescape segments results) :
    unescape (joinPath segments) = some (joinPath results) := by
  rcases h.joined hEscaped with
    ⟨others, hOthers, hJoined⟩ | ⟨⟨segment, hMem, hBad⟩, _⟩
  · rw [hResults.unique hOthers]
    exact hJoined
  · rcases List.mem_iff_get.mp hMem with ⟨i, hAt⟩
    have hBound : i.1 < results.length := by
      rw [← hResults.length_eq]
      exact i.2
    have hOne :=
      (List.forall₂_iff_get.mp hResults).2 i.1 i.2 hBound
    rw [hAt, hBad] at hOne
    cases hOne

/- A URL with such segments has the path they make up. -/
theorem urlPath_eq
    (hUnescape : Unescapes env.unescape)
    (hParse : uriParse url ≠ none)
    (hResults :
      UnescapesTo env.unescape (pathSegments url) results) :
    urlPath env url = some (joinPath results) := by
  unfold urlPath
  cases hUri : uriParse url with
  | none => exact absurd hUri hParse
  | some uri =>
      rcases uriParse_path hUri with ⟨hPath, hEscaped⟩
      simp only
      rw [hPath]
      unfold joinSegments
      by_cases hNone : pathSegments url = []
      · rw [if_pos hNone]
        rw [hNone] at hResults
        cases hResults
        rfl
      · rw [if_neg hNone]
        exact hUnescape.joined_eq hEscaped hResults

/- The path of a request that passes the check. -/
theorem PassesCheck.opens_segments
    (hCheck : PassesCheck req)
    (hParsed : ParsedObject req object)
    (hUnescape : Unescapes env.unescape)
    (hPath : unescapedPath env req = .ok unescaped) :
    pathSegments object ≠ [] ∧
      (∀ segment ∈ pathSegments object, Escaped segment) ∧
      ∃ results,
        UnescapesTo env.unescape (pathSegments object)
            results ∧
          unescaped = joinPath results := by
  have hEscaped :
      ∀ segment ∈ pathSegments object, Escaped segment := by
    rcases hCheck with ⟨uri, hUri, _⟩
    exact hParsed.escaped hUri
  rcases hParsed.unescapedPath_spec hUnescape hCheck with
    ⟨hSome, ⟨results, hResults, hOk⟩ | ⟨_, hError⟩⟩
  · rw [hOk] at hPath
    cases hPath
    exact ⟨hSome, hEscaped, results, hResults, rfl⟩
  · rw [hError] at hPath
    cases hPath

/- SETUP opens such a path without its last segment. -/
theorem setupPath_joinPath
    (hUnescape : Unescapes env.unescape)
    (hEscaped : ∀ segment ∈ segments, Escaped segment)
    (hSlash : ∀ segment ∈ segments, chSlash ∉ segment)
    (hResults : UnescapesTo env.unescape segments results)
    (hSome : segments ≠ []) :
    setupPath (joinPath results) =
      joinPath results.dropLast := by
  have hResultsSome : results ≠ [] := by
    intro hNil
    apply hSome
    rw [← List.length_eq_zero_iff, hResults.length_eq, hNil]
    rfl
  have hNoSlash := hResults.no_slash hUnescape hEscaped hSlash
  have hIn : chSlash ∈ joinPath results := by
    cases results with
    | nil => exact absurd rfl hResultsSome
    | cons result results => exact List.mem_cons_self
  unfold setupPath
  rw [if_pos hIn,
    beforeLastSlash_joinPath hNoSlash hResultsSome]

/- The object is cut where its path is. -/
theorem TrackUrl.urlPath_eq
    (h : TrackUrl object)
    (hSlash : chSlash ∈ object)
    (hParsed : ParsedObject req object)
    (hUnescape : Unescapes env.unescape)
    (hCheck : PassesCheck req)
    (hPath : unescapedPath env req = .ok unescaped) :
    urlPath env (beforeLastSlash object) =
      some (setupPath unescaped) := by
  rcases hCheck.opens_segments hParsed hUnescape hPath with
    ⟨hSome, hEscaped, results, hResults, rfl⟩
  have hDrop :
      (pathSegments object).dropLast =
        pathSegments (beforeLastSlash object) := by
    rw [h.segments hSlash hSome, List.dropLast_concat]
  have hParse : uriParse (beforeLastSlash object) ≠ none := by
    apply uriParse_before_slash
      (afterLastSlash_not_mem object)
    · rw [lastSlash_split hSlash, ← hParsed.parsed]
      rcases hCheck with ⟨uri, hUri, _⟩
      rw [hUri]
      exact Option.some_ne_none _
    · rw [lastSlash_split hSlash]
      exact hSome
  have hCut := hResults.dropLast
  rw [hDrop] at hCut
  rw [Feng.urlPath_eq hUnescape hParse hCut,
    setupPath_joinPath hUnescape hEscaped
      (fun _ hMem => not_mem_pathSegments hMem) hResults
      hSome]

end Feng

------------------------------------------------------------
-- What A Selection Leads To
------------------------------------------------------------

namespace Feng

variable {env : UrlEnv} {rtsp rtsp' after : RTSPClient}
variable {req : RFC822Request} {session : RTSPSession}
variable {object name trackname : List UInt8}
variable {opened track : Option (List UInt8)}
variable {resource : Resource}

theorem unreserved_not_slash
    (h : fengStrIsUnreserved name = true) :
    chSlash ∉ name := by
  intro hMem
  have hChar := List.all_eq_true.mp h chSlash hMem
  exact absurd hChar (by decide)

theorem findNamedTrack_session
    (rtsp : RTSPClient)
    (req : RFC822Request)
    (resource : Resource)
    (trackname : List UInt8) :
    (findNamedTrack rtsp req resource trackname).1.session =
      rtsp.session := by
  unfold findNamedTrack
  split
  · rfl
  · split
    · rfl
    · rfl

theorem findNamedTrack_some
    (h :
      (findNamedTrack rtsp req resource trackname).2 =
        some name) :
    name = trackname ∧ chSlash ∉ name ∧
      name ∈ resource.tracks := by
  unfold findNamedTrack at h
  split at h
  · cases h
  · rename_i hUnreserved
    simp only [Bool.not_eq_true', Bool.not_eq_false]
      at hUnreserved
    split at h
    · rename_i hMem
      cases h
      exact ⟨rfl, unreserved_not_slash hUnreserved, hMem⟩
    · cases h

/- Nothing is opened, or the resource and its URI are set. -/
theorem openRequestedTrack_session
    (hSession : rtsp.session = some session)
    (h : openRequestedTrack env rtsp req session object =
      .ok (after, opened, track)) :
    (after.session = some session ∧ track = none) ∨
    ∃ unescaped resource,
      chSlash ∈ object ∧
      unescapedPath env req = .ok unescaped ∧
      rOpen env (setupPath unescaped) = some resource ∧
      after.session =
        some { session with
          resource :=
            some (resource, beforeLastSlash object) } ∧
      ∀ name, track = some name →
        name = afterLastSlash object ∧ chSlash ∉ name ∧
          name ∈ resource.tracks := by
  unfold openRequestedTrack at h
  by_cases hSlash : chSlash ∈ object
  · rw [if_neg (not_not.mpr hSlash)] at h
    cases hPath : unescapedPath env req with
    | error fault =>
        rw [hPath] at h
        cases h
    | ok unescaped =>
        rw [hPath] at h
        cases hOpen : rOpen env (setupPath unescaped) with
        | none =>
            unfold setupPath at hOpen
            simp only [hOpen, Except.ok.injEq,
              Prod.mk.injEq] at h
            rcases h with ⟨rfl, _, rfl⟩
            exact .inl ⟨hSession, rfl⟩
        | some resource =>
            unfold setupPath at hOpen
            simp only [hOpen, Except.ok.injEq,
              Prod.mk.injEq] at h
            rcases h with ⟨rfl, _, rfl⟩
            refine .inr ⟨unescaped, resource, hSlash, rfl,
              hOpen, ?_, ?_⟩
            · rw [findNamedTrack_session]
            · intro name hName
              exact findNamedTrack_some hName
  · rw [if_pos hSlash] at h
    cases h
    exact .inl ⟨hSession, rfl⟩

/- With a resource, the object has to start with its URI. -/
theorem selectRequestedTrack_known
    {uri : List UInt8}
    (hObject : req.object = some object)
    (hResource : session.resource = some (resource, uri))
    (h : selectRequestedTrack env rtsp req session =
      .ok (after, opened, track)) :
    after.session = rtsp.session ∧
      ∀ name, track = some name →
        object = uri ++ chSlash :: name ∧ chSlash ∉ name ∧
          name ∈ resource.tracks := by
  unfold selectRequestedTrack at h
  simp only [hObject, hResource] at h
  split at h
  · cases h
    exact ⟨rfl, fun _ hName => by cases hName⟩
  · rename_i hFits
    rw [not_or, not_or, not_not, not_not] at hFits
    rcases hFits with ⟨hLong, ⟨rest, hPrefix⟩, hChar⟩
    simp only [Except.ok.injEq, Prod.mk.injEq] at h
    rcases h with ⟨rfl, _, rfl⟩
    refine ⟨findNamedTrack_session _ _ _ _, ?_⟩
    intro name hName
    rcases findNamedTrack_some hName with
      ⟨hIs, hNoSlash, hMem⟩
    refine ⟨?_, hNoSlash, hMem⟩
    subst hPrefix
    cases rest with
    | nil =>
        rw [List.append_nil] at hLong
        omega
    | cons c rest =>
        have hFirst : c = chSlash := by
          rw [List.getD_append_right _ _ _ _ (Nat.le_refl _),
            Nat.sub_self] at hChar
          exact hChar
        rw [hIs, hFirst, ← List.drop_drop, List.drop_left]
        rfl

/- What is replied to a SETUP leaves its resource alone. -/
theorem setupTrack_resource
    (env : UrlEnv)
    (rtsp : RTSPClient)
    (req : RFC822Request)
    (track : List UInt8) :
    (setupTrack env rtsp req track).session.bind
        RTSPSession.resource =
      rtsp.session.bind RTSPSession.resource := by
  unfold setupTrack
  split
  · rename_i session _ hSession _
    rw [hSession]
    rfl
  · rfl

end Feng

------------------------------------------------------------
-- Runs Of SETUP Requests
------------------------------------------------------------

namespace Feng

variable {env : UrlEnv} {rtsp rtsp' after last : RTSPClient}
variable {setup : SetupInput} {object : List UInt8}
variable {opened track : Option (List UInt8)}
variable {trace : List (RTSPClient × SetupInput)}

theorem setupSession_none
    (h : (setupSession rtsp setup).resource = none) :
    OpensResource rtsp := by
  intro session hSession
  unfold setupSession at h
  rw [hSession] at h
  exact h

theorem setupSession_some
    {open_ : Resource × List UInt8}
    (h : (setupSession rtsp setup).resource = some open_) :
    rtsp.session = some (setupSession rtsp setup) := by
  unfold setupSession at h ⊢
  cases hSession : rtsp.session with
  | none =>
      rw [hSession] at h
      cases h
  | some session => rfl

/- What is held is of some session with a resource. -/
theorem Consistent.of_session
    {session : RTSPSession}
    (hSession : rtsp.session = some session)
    (h : ∀ resource uri,
      session.resource = some (resource, uri) →
        Designates env uri resource) :
    Consistent env rtsp := by
  intro other resource uri hOther hResource
  rw [hSession] at hOther
  cases hOther
  exact h resource uri hResource

theorem Consistent.of_resource
    (h : Consistent env rtsp)
    (hSame :
      rtsp'.session.bind RTSPSession.resource =
        rtsp.session.bind RTSPSession.resource) :
    Consistent env rtsp' := by
  intro session resource uri hSession hResource
  rw [hSession] at hSame
  change session.resource = _ at hSame
  rw [hResource] at hSame
  rcases Option.bind_eq_some_iff.mp hSame.symm with
    ⟨other, hOther, hIs⟩
  exact h other resource uri hOther hIs

/- The first SETUP sets a resource and a URI that agree. -/
theorem first_selection
    (hUnescape : Unescapes env.unescape)
    (hGuard : OpensTrackUrl env rtsp setup)
    (hParsed : ParsedObject setup.req object)
    (hReach : ReachesSelection env setup)
    (hNone : (setupSession rtsp setup).resource = none)
    (h : setupSelection env rtsp setup =
      .ok (after, opened, track)) :
    Consistent env after ∧
    ∀ name, track = some name →
      ∃ url session resource uri,
        setup.req.object = some (url ++ chSlash :: name) ∧
        chSlash ∉ name ∧
        after.session = some session ∧
        session.resource = some (resource, uri) ∧
        Designates env url resource ∧
        name ∈ resource.tracks := by
  unfold setupSelection selectRequestedTrack at h
  simp only [hParsed.given, hNone] at h
  rcases openRequestedTrack_session rfl h with
    ⟨hSession, rfl⟩ |
    ⟨unescaped, resource, hSlash, hPath, hOpen, hSession,
      hTrack⟩
  · constructor
    · apply Consistent.of_session hSession
      intro resource uri hResource
      rw [hNone] at hResource
      cases hResource
    · intro name hName
      cases hName
  · have hOpens : Opens env rtsp setup :=
      ⟨setupSession_none hNone, hReach, unescaped, resource,
        hPath, hOpen⟩
    have hUrl := hGuard hOpens object hParsed.given
    have hIs :
        Designates env (beforeLastSlash object) resource :=
      ⟨setupPath unescaped,
        hUrl.urlPath_eq hSlash hParsed hUnescape hReach.1
          hPath, hOpen⟩
    constructor
    · apply Consistent.of_session hSession
      intro other uri hResource
      cases hResource
      exact hIs
    · intro name hName
      rcases hTrack name hName with ⟨hEq, hNoSlash, hMem⟩
      refine ⟨beforeLastSlash object, _, resource, _, ?_,
        hNoSlash, hSession, rfl, hIs, hMem⟩
      rw [hParsed.given, hEq, lastSlash_split hSlash]

/- Later ones keep them. -/
theorem later_selection
    {resource : Resource}
    {uri : List UInt8}
    (hInv : Consistent env rtsp)
    (hParsed : ParsedObject setup.req object)
    (hSome :
      (setupSession rtsp setup).resource =
        some (resource, uri))
    (h : setupSelection env rtsp setup =
      .ok (after, opened, track)) :
    Consistent env after ∧
    ∀ name, track = some name →
      ∃ url session resource uri,
        setup.req.object = some (url ++ chSlash :: name) ∧
        chSlash ∉ name ∧
        after.session = some session ∧
        session.resource = some (resource, uri) ∧
        Designates env url resource ∧
        name ∈ resource.tracks := by
  have hIs :=
    hInv _ _ _ (setupSession_some hSome) hSome
  rcases selectRequestedTrack_known hParsed.given hSome h with
    ⟨hSession, hTrack⟩
  constructor
  · apply Consistent.of_session hSession
    intro other otherUri hResource
    rw [hSome] at hResource
    cases hResource
    exact hIs
  · intro name hName
    rcases hTrack name hName with ⟨hEq, hNoSlash, hMem⟩
    refine ⟨uri, _, resource, uri, ?_, hNoSlash, hSession,
      hSome, hIs, hMem⟩
    rw [hParsed.given, hEq]

theorem setup_selection
    (hUnescape : Unescapes env.unescape)
    (hInv : Consistent env rtsp)
    (hGuard : OpensTrackUrl env rtsp setup)
    (hParsed : ParsedObject setup.req object)
    (hReach : ReachesSelection env setup)
    (h : setupSelection env rtsp setup =
      .ok (after, opened, track)) :
    Consistent env after ∧
    ∀ name, track = some name →
      ∃ url session resource uri,
        setup.req.object = some (url ++ chSlash :: name) ∧
        chSlash ∉ name ∧
        after.session = some session ∧
        session.resource = some (resource, uri) ∧
        Designates env url resource ∧
        name ∈ resource.tracks := by
  cases hResource : (setupSession rtsp setup).resource with
  | none =>
      exact first_selection hUnescape hGuard hParsed hReach
        hResource h
  | some held =>
      rcases held with ⟨resource, uri⟩
      exact later_selection hInv hParsed hResource h

theorem rfc822RequestCheckUrl_session
    {req : RFC822Request}
    {passed : Bool}
    (h : rfc822RequestCheckUrl rtsp req = .ok (after, passed)) :
    after.session = rtsp.session := by
  unfold rfc822RequestCheckUrl at h
  split at h
  · cases h
    rfl
  · split at h
    · cases h
    · cases h
      rfl
    · cases h
      rfl

/- A SETUP is answered before a track is selected, or not. -/
theorem setupStep_cases
    (h : setupStep env rtsp setup = .ok rtsp') :
    rtsp'.session = rtsp.session ∨
    ∃ after opened track,
      ReachesSelection env setup ∧
      setupSelection env rtsp setup =
        .ok (after, opened, track) ∧
      rtsp'.session.bind RTSPSession.resource =
        after.session.bind RTSPSession.resource := by
  unfold setupStep rtspSetup at h
  rcases rfc822RequestCheckUrl_spec rtsp setup.req with
    ⟨hPasses, hOk⟩ | ⟨_, answered, hOk⟩ | ⟨_, fault, hError⟩
  · rw [hOk] at h
    simp only at h
    cases hOffered :
        transportOffered (setup.env env) setup.req with
    | false =>
        rw [if_pos hOffered] at h
        cases h
        exact .inl rfl
    | true =>
        have hId :
            (setup.env env).sessionId = setup.sessionId :=
          rfl
        rw [if_neg (by rw [hOffered]; decide), hId] at h
        cases hSelect : setupSelection env rtsp setup with
        | error fault =>
            unfold setupSelection setupSession at hSelect
            rw [hSelect] at h
            cases h
        | ok result =>
            rcases result with ⟨after, opened, track⟩
            refine .inr ⟨after, opened, track,
              ⟨hPasses, hOffered⟩, rfl, ?_⟩
            unfold setupSelection setupSession at hSelect
            rw [hSelect] at h
            cases track with
            | none =>
                cases h
                rfl
            | some track =>
                cases h
                exact setupTrack_resource _ _ _ _
  · rw [hOk] at h
    cases h
    exact .inl (rfc822RequestCheckUrl_session hOk)
  · rw [hError] at h
    cases h

/- One SETUP keeps the two in agreement. -/
theorem setupStep_consistent
    (hUnescape : Unescapes env.unescape)
    (hInv : Consistent env rtsp)
    (hGuard : OpensTrackUrl env rtsp setup)
    (hParsed : ParsedObject setup.req object)
    (hStep : setupStep env rtsp setup = .ok rtsp') :
    Consistent env rtsp' := by
  rcases setupStep_cases hStep with
    hSame | ⟨after, opened, track, hReach, hSelect, hSame⟩
  · apply hInv.of_resource
    rw [hSame]
  · have hAfter := setup_selection hUnescape hInv hGuard
      hParsed hReach hSelect
    exact hAfter.1.of_resource hSame

/-
  In every sequence of SETUP requests, what each of them opens
  by the URL of a track is what the URI of the session stands
  for, and the tracks are those that the URLs name.
-/
theorem setups_designate
    (hUnescape : Unescapes env.unescape)
    (hFresh : OpensResource rtsp)
    (hRun : (setupSystem env rtsp).Run trace last)
    (hGuard : System.Guarded (OpensTrackUrl env) trace) :
    System.Always (Consistent env) trace last ∧
      System.Guarded (TrackNamed env) trace := by
  have hInit (s : RTSPClient)
      (hStart : s = rtsp) : Consistent env s := by
    intro session resource uri hSession hResource
    rw [hStart] at hSession
    rw [hFresh session hSession] at hResource
    cases hResource
  have hStep (s : RTSPClient) (a : SetupInput)
      (t : RTSPClient)
      (hInv : Consistent env s)
      (hC : OpensTrackUrl env s a)
      (hStep : (setupSystem env rtsp).step s a t) :
      Consistent env t := by
    rcases hStep with ⟨⟨object, hParsed⟩, hOk⟩
    exact setupStep_consistent hUnescape hInv hC hParsed hOk
  refine ⟨hRun.guarded_always hInit hStep hGuard, ?_⟩
  induction hRun with
  | start _ =>
      intro x hMem
      cases hMem
  | step hRun hLast ih =>
      rcases System.guarded_snoc.mp hGuard with ⟨hTrace, hC⟩
      have hPrior := hRun.guarded_always hInit hStep hTrace
      refine System.guarded_snoc.mpr ⟨ih hTrace, ?_⟩
      rcases hLast with ⟨⟨object, hParsed⟩, _⟩
      intro after opened track hReach hSelect
      exact (setup_selection hUnescape hPrior.2 hC hParsed
        hReach hSelect).2 track rfl

end Feng

------------------------------------------------------------
-- A Trailing Slash
------------------------------------------------------------

namespace Feng

/- A server with one presentation, and a track in it. -/
def shelfEnv : UrlEnv :=
  { sampleUrlEnv with
    resourceAt := fun name =>
      if name = ascii "/srv//v" then
        some ⟨[ascii "x"]⟩
      else
        none }

def shelfSetup (object : List UInt8) : SetupInput where
  parseTransportHeader := fun _ => true
  transportString := some (ascii "RTP/AVP;unicast")
  sessionId := ascii "0123456789abcdef"
  req := sampleUrlRequest RTSPMethod.setup object

theorem shelfSetup_parsed
    (object : List UInt8) :
    ∃ object', ParsedObject (shelfSetup object).req object' :=
  ⟨object, sampleUrlRequest_parsed _ object⟩

theorem rtspClientNew_opens : OpensResource rtspClientNew :=
  fun _ hSession => by cases hSession

/- The same track twice. -/
theorem setups_designate_twice :
    let labels :=
      [shelfSetup (ascii "rtsp://h/v/x"),
        shelfSetup (ascii "rtsp://h/v/x")]
    let trace :=
      System.replayTrace (setupStep shelfEnv) rtspClientNew
        labels
    System.Always (Consistent shelfEnv) trace
        (System.replayEnd (setupStep shelfEnv) rtspClientNew
          labels) ∧
      System.Guarded (TrackNamed shelfEnv) trace := by
  apply setups_designate gUriUnescapeString_unescapes
    rtspClientNew_opens
  · apply System.replay_run
    · apply System.enabled_of_labels
      intro setup hMem s
      rcases List.mem_pair.mp hMem with rfl | rfl
      · exact shelfSetup_parsed _
      · exact shelfSetup_parsed _
    · decide +kernel
  · have hLabels :
        ∀ setup ∈
          [shelfSetup (ascii "rtsp://h/v/x"),
            shelfSetup (ascii "rtsp://h/v/x")],
          ∀ object, setup.req.object = some object →
            TrackUrl object := by
      intro setup hMem object hObject
      rcases List.mem_pair.mp hMem with rfl | rfl
      · cases hObject
        decide +kernel
      · cases hObject
        decide +kernel
    intro step hMem _
    exact System.guarded_replayTrace hLabels rtspClientNew
      step hMem

/-
  A SETUP of `/v/t/` is not found, but opens `/v` for the URL
  of `/v/t`; the next one gets a track of `/v` by that URL.
-/
theorem setup_elsewhere :
    ∃ rtsp after,
      (setupSystem shelfEnv rtspClientNew).Run
          [(rtspClientNew,
              shelfSetup (ascii "rtsp://h/v/t/")),
            (rtsp, shelfSetup (ascii "rtsp://h/v/t/x"))]
          after ∧
        ¬ Consistent shelfEnv rtsp ∧
        ¬ TrackNamed shelfEnv rtsp
          (shelfSetup (ascii "rtsp://h/v/t/x")) := by
  let first := shelfSetup (ascii "rtsp://h/v/t/")
  let second := shelfSetup (ascii "rtsp://h/v/t/x")
  let rtsp :=
    System.replayEnd (setupStep shelfEnv) rtspClientNew [first]
  have hFirst :
      setupStep shelfEnv rtspClientNew first = .ok rtsp :=
    System.replayEnd_step (by decide +kernel)
  have hSecond :
      setupStep shelfEnv rtsp second =
        .ok (System.replayEnd (setupStep shelfEnv) rtsp
          [second]) :=
    System.replayEnd_step (by decide +kernel)
  have hElsewhere (resource : Resource) :
      ¬ Designates shelfEnv (ascii "rtsp://h/v/t")
        resource := by
    rintro ⟨path, hPath, hOpen⟩
    have hIs :
        urlPath shelfEnv (ascii "rtsp://h/v/t") =
          some (ascii "/v/t") := by
      decide +kernel
    rw [hIs] at hPath
    cases hPath
    have hNone : rOpen shelfEnv (ascii "/v/t") = none := by
      decide +kernel
    rw [hNone] at hOpen
    cases hOpen
  have hStart :
      (setupSystem shelfEnv rtspClientNew).Run
        ([] ++ [(rtspClientNew, first)]) rtsp :=
    .step (.start rfl) ⟨shelfSetup_parsed _, hFirst⟩
  refine ⟨rtsp, _,
    .step hStart ⟨shelfSetup_parsed _, hSecond⟩, ?_, ?_⟩
  · intro hConsistent
    have hHeld :
        (rtsp.session.bind RTSPSession.resource).map
            Prod.snd =
          some (ascii "rtsp://h/v/t") := by
      decide +kernel
    rcases Option.map_eq_some_iff.mp hHeld with
      ⟨⟨resource, uri⟩, hResource, rfl⟩
    rcases Option.bind_eq_some_iff.mp hResource with
      ⟨session, hSession, hIs⟩
    exact hElsewhere resource
      (hConsistent session resource _ hSession hIs)
  · intro hNamed
    have hTrack :
        (setupSelection shelfEnv rtsp second).map
            (fun result => result.2.2) =
          .ok (some (ascii "x")) := by
      decide +kernel
    cases hSelect : setupSelection shelfEnv rtsp second with
    | error fault =>
        rw [hSelect] at hTrack
        cases hTrack
    | ok result =>
        rcases result with ⟨after, opened, track⟩
        rw [hSelect] at hTrack
        cases hTrack
        have hReach : ReachesSelection shelfEnv second :=
          ⟨⟨_, rfl, by decide +kernel⟩, by decide +kernel⟩
        rcases hNamed after opened _ hReach hSelect with
          ⟨url, session, resource, uri, hObject, _, _, _,
            hIs, _⟩
        have hUrl : url = ascii "rtsp://h/v/t" := by
          apply List.append_cancel_right
          exact (Option.some.inj hObject).symm
        rw [hUrl] at hIs
        exact hElsewhere resource hIs

end Feng
