import Feng.Rtsp.Tracks

/-
  DESCRIBE against the SETUP of a track it announces, by the
  base that the description is sent with and the name of the
  track.

  DESCRIBE opens the whole path of its object. SETUP opens the
  path of the longer one but for its last segment. These are
  the same where the name is put behind the path, and not
  behind a query, and where the check lets the slash pass that
  comes between.

  Key definitions include:
    * `Announces`
    * `SelectsAt`
    * `Announceable`

  Key theorems include:
    * `selectsAt_of_announceable`
    * `describe_setup_iff`
    * `described_not_set_up`
-/

------------------------------------------------------------
-- The Two Requests
------------------------------------------------------------

namespace Feng

/- A DESCRIBE is answered with a description, and a base. -/
structure Announces
    (env : UrlEnv)
    (rtsp : RTSPClient)
    (req : RFC822Request)
    (base path : List UInt8)
    (resource : Resource) : Prop where
  answered : ∃ after response,
    rtspDescribe env rtsp req = .ok (after, some path) ∧
      after.responses = rtsp.responses ++ [response] ∧
      response.status = 200 ∧
      rfc822HeadersLookup (some response.headers)
          .contentBase =
        some base
  opened : rOpen env path = some resource

/- A SETUP opens a path, and selects a track there. -/
def SelectsAt
    (env : UrlEnv)
    (rtsp : RTSPClient)
    (setup : SetupInput)
    (path track : List UInt8) : Prop :=
  ReachesSelection env setup ∧
    ∃ after, setupSelection env rtsp setup =
      .ok (after, some path, some track)

/-
  There is neither a query nor a fragment, and the path does
  not end with a dot.
-/
def Announceable (object : List UInt8) : Prop :=
  chQuestion ∉ object ∧ chHash ∉ object ∧
    (joinPath (pathSegments object)).getLast? ≠ some chDot

instance decidableAnnounceable : DecidablePred Announceable :=
  fun object =>
    inferInstanceAs
      (Decidable
        (chQuestion ∉ object ∧ chHash ∉ object ∧
          (joinPath (pathSegments object)).getLast? ≠
            some chDot))

variable {env : UrlEnv} {rtsp client : RTSPClient}
variable {req : RFC822Request} {setup : SetupInput}
variable {object base path track : List UInt8}
variable {resource : Resource}

/- The base is the object, and a slash. -/
theorem Announces.base_eq
    (h : Announces env rtsp req base path resource)
    (hObject : req.object = some object) :
    base = object ++ [chSlash] := by
  rcases h.answered with
    ⟨after, response, hOk, hResponses, hStatus, hBase⟩
  have hPasses := (rtspDescribe_opened hOk).1
  have hCheck :
      rfc822RequestCheckUrl rtsp req = .ok (rtsp, true) := by
    rcases rfc822RequestCheckUrl_spec rtsp req with
      ⟨_, hCheck⟩ | ⟨hNot, _⟩ | ⟨⟨uri, hUri, hNone⟩, _⟩
    · exact hCheck
    · exact absurd hPasses hNot
    · exact absurd hNone (hPasses.path_ne hUri)
  unfold rtspDescribe at hOk
  simp only [hCheck] at hOk
  split at hOk
  · cases hOk
  · cases hOk
    rw [rfc822ResponseSend, List.append_cancel_left_eq,
      List.singleton_inj] at hResponses
    rw [← hResponses] at hStatus
    change (404 : Nat) = 200 at hStatus
    cases hStatus
  · cases hOk
    rw [rfc822ResponseSend, List.append_cancel_left_eq,
      List.singleton_inj] at hResponses
    rw [← hResponses] at hBase
    simp only [rfc822HeadersLookup_set, if_pos,
      Option.some.injEq] at hBase
    rw [← hBase, hObject]
    rfl

end Feng

------------------------------------------------------------
-- The Check Of The Longer URL
------------------------------------------------------------

namespace Feng

variable {path track : List UInt8}

/- A dot and a slash, across the border or before it. -/
theorem dotSlash_infix_iff
    (hSlash : chSlash ∉ track) :
    [chDot, chSlash] <:+: path ++ chSlash :: track ↔
      [chDot, chSlash] <:+: path ∨
        path.getLast? = some chDot := by
  constructor
  · rintro ⟨first, rest, hSplit⟩
    have hSame :
        (first ++ [chDot]) ++ chSlash :: rest =
          path ++ chSlash :: track := by
      rw [← hSplit]
      simp
    rcases List.append_eq_append_iff.mp hSame with
      ⟨between, hPath, hRest⟩ | ⟨between, hFirst, hRest⟩
    · cases between with
      | nil =>
          right
          rw [hPath, List.append_nil]
          exact List.getLast?_concat
      | cons c between =>
          cases hRest
          left
          exact ⟨first, between, by rw [hPath]; simp⟩
    · cases between with
      | nil =>
          rw [List.append_nil] at hFirst
          right
          rw [← hFirst]
          exact List.getLast?_concat
      | cons c between =>
          cases hRest
          exact absurd
            (List.mem_append_right between List.mem_cons_self)
            hSlash
  · rintro (hIn | hLast)
    · exact hIn.trans (List.prefix_append _ _).isInfix
    · rcases List.getLast?_eq_some_iff.mp hLast with
        ⟨first, hPath⟩
      exact ⟨first, track, by rw [hPath]; simp⟩

/- The check is about dots and slashes only. -/
theorem checkForbiddenPath_passes
    {uri : URI} :
    checkForbiddenPath uri = .ok true ↔
      ∃ path, uri.path = some path ∧
        ¬ [chDot, chSlash] <:+: path := by
  unfold checkForbiddenPath
  cases uri.path with
  | none => simp
  | some path =>
      have hDots :
          [chDot, chDot, chSlash] <:+: path →
            [chDot, chSlash] <:+: path :=
        (List.suffix_cons chDot [chDot, chSlash]).isInfix.trans
      simp only [strstr, Except.ok.injEq, Bool.not_eq_true',
        Bool.or_eq_false_iff, decide_eq_false_iff_not,
        Option.some.injEq, exists_eq_left']
      exact ⟨fun h => h.2,
        fun h => ⟨fun hIn => h (hDots hIn), h⟩⟩

end Feng

------------------------------------------------------------
-- Agreement
------------------------------------------------------------

namespace Feng

variable {env : UrlEnv} {rtsp client : RTSPClient}
variable {req : RFC822Request} {setup : SetupInput}
variable {object base path track unescaped : List UInt8}
variable {segments results others : List (List UInt8)}
variable {resource : Resource}

theorem joinPath_append
    (segments others : List (List UInt8)) :
    joinPath (segments ++ others) =
      joinPath segments ++ joinPath others :=
  List.flatMap_append

theorem joinPath_single
    (segment : List UInt8) :
    joinPath [segment] = chSlash :: segment := by
  unfold joinPath
  rw [List.flatMap_singleton]

theorem joinPath_ne_nil
    (h : segments ≠ []) :
    joinPath segments ≠ [] := by
  cases segments with
  | nil => exact absurd rfl h
  | cons segment segments => exact List.cons_ne_nil _ _

/- A path with a segment less is another one. -/
theorem joinPath_dropLast_ne
    (h : segments ≠ []) :
    joinPath segments.dropLast ≠ joinPath segments := by
  intro hSame
  have hSplit := List.dropLast_append_getLast h
  rw [← hSplit, List.dropLast_concat, joinPath_append,
    joinPath_single] at hSame
  have hLength := congrArg List.length hSame
  rw [List.length_append, List.length_cons] at hLength
  omega

/- What DESCRIBE opened, segment by segment. -/
theorem Announces.opened_path
    (h : Announces env rtsp req base path resource)
    (hParsed : ParsedObject req object)
    (hUnescape : Unescapes env.unescape) :
    PassesCheck req ∧ pathSegments object ≠ [] ∧
      (∀ segment ∈ pathSegments object, Escaped segment) ∧
      ∃ results,
        UnescapesTo env.unescape (pathSegments object)
            results ∧
          path = joinPath results := by
  rcases h.answered with ⟨after, response, hOk, _⟩
  rcases rtspDescribe_opened hOk with ⟨hCheck, hPath⟩
  exact ⟨hCheck,
    hCheck.opens_segments hParsed hUnescape hPath⟩

/- What the SETUP opened is what is left of its own path. -/
theorem SelectsAt.opened_path
    (h : SelectsAt env client setup path track)
    (hParsed : ParsedObject setup.req object)
    (hUnescape : Unescapes env.unescape) :
    pathSegments object ≠ [] ∧
      ∃ results,
        UnescapesTo env.unescape (pathSegments object)
            results ∧
          path = joinPath results.dropLast := by
  rcases h with ⟨hReach, after, hSelect⟩
  rcases selectRequestedTrack_opened hSelect with
    ⟨unescaped, hPath, hIs⟩
  have hPath : unescapedPath env setup.req = .ok unescaped :=
    hPath
  rcases hReach.1.opens_segments hParsed hUnescape hPath with
    ⟨hSome, hEscaped, results, hResults, rfl⟩
  refine ⟨hSome, results, hResults, ?_⟩
  rw [hIs]
  exact setupPath_joinPath hUnescape hEscaped
    (fun _ hMem => not_mem_pathSegments hMem) hResults hSome

/- A name is its own unescaping. -/
theorem Unescapes.name
    {unescape : List UInt8 → Option (List UInt8)}
    (h : Unescapes unescape)
    (hName : ∀ c ∈ track, isUnreserved c = true) :
    Escaped track ∧ unescape track = some track := by
  induction track with
  | nil => exact ⟨.nil, h.nil⟩
  | cons c track ih =>
      rcases List.forall_mem_cons.mp hName with
        ⟨hFirst, hRest⟩
      rcases ih hRest with ⟨hEscaped, hSame⟩
      have hPlain : c ≠ chPercent := by
        rintro rfl
        exact absurd hFirst (by decide)
      refine ⟨.plain hPlain hEscaped, ?_⟩
      rw [h.plain c track hPlain, hSame]
      rfl

theorem afterLastSlash_append
    (object : List UInt8)
    (hSlash : chSlash ∉ track) :
    afterLastSlash (object ++ chSlash :: track) = track := by
  have hIn : chSlash ∈ object ++ chSlash :: track :=
    List.mem_append_right _ List.mem_cons_self
  have hSplit := lastSlash_split hIn
  rw [beforeLastSlash_append object hSlash] at hSplit
  exact (List.cons.inj (List.append_cancel_left hSplit)).2

/- The path of a request whose segments unescape. -/
theorem ParsedObject.unescapedPath_eq
    (h : ParsedObject req object)
    (hUnescape : Unescapes env.unescape)
    (hCheck : PassesCheck req)
    (hResults :
      UnescapesTo env.unescape (pathSegments object)
        results) :
    unescapedPath env req = .ok (joinPath results) := by
  have hSome := (h.unescapedPath_spec hUnescape hCheck).1
  rcases hCheck with ⟨uri, hUri, _⟩
  have hPath := h.path_eq hUri
  rw [if_neg hSome] at hPath
  unfold unescapedPath
  rw [hUri]
  simp only [hPath]
  rw [hUnescape.joined_eq (h.escaped hUri) hResults]

/- A first SETUP finds its track where its path is found. -/
theorem setupSelection_found
    {unescaped : List UInt8}
    (hFresh : OpensResource client)
    (hObject :
      setup.req.object = some (object ++ chSlash :: track))
    (hPath : unescapedPath env setup.req = .ok unescaped)
    (hOpen : rOpen env (setupPath unescaped) = some resource)
    (hName : fengStrIsUnreserved track = true)
    (hTrack : track ∈ resource.tracks) :
    ∃ after, setupSelection env client setup =
      .ok (after, some (setupPath unescaped), some track) := by
  have hNone : (setupSession client setup).resource = none := by
    unfold setupSession
    cases hSession : client.session with
    | none => rfl
    | some session => exact hFresh session hSession
  have hIn : chSlash ∈ object ++ chSlash :: track :=
    List.mem_append_right _ List.mem_cons_self
  have hPath :
      unescapedPath (setup.env env) setup.req =
        .ok unescaped :=
    hPath
  have hOpen :
      rOpen (setup.env env)
          (if chSlash ∈ unescaped then
            beforeLastSlash unescaped
          else
            unescaped) =
        some resource :=
    hOpen
  unfold setupSelection selectRequestedTrack
  simp only [hObject, hNone]
  unfold openRequestedTrack
  rw [if_neg (not_not.mpr hIn), hPath]
  simp only [hOpen]
  unfold findNamedTrack
  rw [afterLastSlash_append object
    (unreserved_not_slash hName), hName, if_neg (by decide),
    if_pos hTrack]
  exact ⟨_, rfl⟩

/- The longer URL passes the check as the shorter one does. -/
theorem Announceable.passes
    (h : Announceable object)
    (hParsed : ParsedObject req object)
    (hCheck : PassesCheck req)
    (hSome : pathSegments object ≠ [])
    (hSetup :
      ParsedObject setup.req (object ++ chSlash :: track))
    (hName : ∀ c ∈ track, isUnreserved c = true)
    (hTrack : track ≠ []) :
    PassesCheck setup.req := by
  rcases h with ⟨hQuestion, hHash, hDot⟩
  rcases hCheck with ⟨uri, hUri, hPassed⟩
  have hParse : uriParse object ≠ none := by
    rw [← hParsed.parsed, hUri]
    exact Option.some_ne_none _
  have hLonger := uriParse_behind_slash hParse hQuestion hHash
    hName
  have hSegments := pathSegments_behind_slash hQuestion hHash
    hName hTrack hSome
  rw [← hSetup.parsed] at hLonger
  cases hThere : setup.req.uri with
  | none => exact absurd hThere hLonger
  | some longer =>
      have hPath := hParsed.path_eq hUri
      have hNext := hSetup.path_eq hThere
      rw [if_neg hSome] at hPath
      rw [hSegments, if_neg (List.append_ne_nil_of_left_ne_nil
        hSome _), joinPath_append, joinPath_single] at hNext
      refine ⟨longer, hThere, ?_⟩
      apply checkForbiddenPath_passes.mpr
      refine ⟨_, hNext, ?_⟩
      rw [dotSlash_infix_iff (isUnreserved_not hName).1,
        not_or]
      refine ⟨?_, hDot⟩
      rcases checkForbiddenPath_passes.mp hPassed with
        ⟨path, hIs, hFree⟩
      rw [hPath] at hIs
      cases hIs
      exact hFree

/- A name behind the path is set up where it was described. -/
theorem selectsAt_of_announceable
    (hUnescape : Unescapes env.unescape)
    (hParsed : ParsedObject req object)
    (hAnnounces : Announces env rtsp req base path resource)
    (hTrack : track ∈ resource.tracks)
    (hName : fengStrIsUnreserved track = true)
    (hSome : track ≠ [])
    (hSetup :
      ParsedObject setup.req (object ++ chSlash :: track))
    (hFresh : OpensResource client)
    (hOffered :
      transportOffered (setup.env env) setup.req = true)
    (h : Announceable object) :
    SelectsAt env client setup path track := by
  have hChars : ∀ c ∈ track, isUnreserved c = true :=
    List.all_eq_true.mp hName
  rcases hAnnounces.opened_path hParsed hUnescape with
    ⟨hCheck, hPathSome, hEscaped, results, hResults, rfl⟩
  have hPasses := h.passes hParsed hCheck hPathSome hSetup
    hChars hSome
  have hSegments := pathSegments_behind_slash h.1 h.2.1 hChars
    hSome hPathSome
  rcases hUnescape.name hChars with ⟨hTrackEscaped, hSame⟩
  have hNext :
      UnescapesTo env.unescape
        (pathSegments (object ++ chSlash :: track))
        (results ++ [track]) := by
    rw [hSegments]
    exact List.rel_append hResults (.cons hSame .nil)
  have hUnescaped :=
    hSetup.unescapedPath_eq hUnescape hPasses hNext
  have hCut :
      setupPath (joinPath (results ++ [track])) =
        joinPath results := by
    have hIn : chSlash ∈ joinPath (results ++ [track]) := by
      rw [joinPath_append, joinPath_single]
      exact List.mem_append_right _ List.mem_cons_self
    unfold setupPath
    rw [if_pos hIn, joinPath_append, joinPath_single,
      beforeLastSlash_append _ (isUnreserved_not hChars).1]
  rcases setupSelection_found hFresh hSetup.given hUnescaped
      (by rw [hCut]; exact hAnnounces.opened) hName hTrack with
    ⟨after, hSelect⟩
  rw [hCut] at hSelect
  exact ⟨⟨hPasses, hOffered⟩, after, hSelect⟩

/-
  A SETUP by the base and the name of a track opens what was
  described, and selects the track, exactly where the object
  is one to which a name can be put.
-/
theorem describe_setup_iff
    (hUnescape : Unescapes env.unescape)
    (hParsed : ParsedObject req object)
    (hAnnounces : Announces env rtsp req base path resource)
    (hTrack : track ∈ resource.tracks)
    (hName : fengStrIsUnreserved track = true)
    (hSome : track ≠ [])
    (hSetup : ParsedObject setup.req (base ++ track))
    (hFresh : OpensResource client)
    (hOffered :
      transportOffered (setup.env env) setup.req = true) :
    SelectsAt env client setup path track ↔
      Announceable object := by
  have hBase := hAnnounces.base_eq hParsed.given
  rw [hBase, List.append_assoc, List.singleton_append]
    at hSetup
  constructor
  · intro hSelects
    rcases hAnnounces.opened_path hParsed hUnescape with
      ⟨hCheck, hPathSome, hEscaped, results, hResults, hPath⟩
    rcases hSelects.opened_path hSetup hUnescape with
      ⟨hNextSome, others, hOthers, hNext⟩
    have hParse : uriParse object ≠ none := by
      rcases hCheck with ⟨uri, hUri, _⟩
      rw [← hParsed.parsed, hUri]
      exact Option.some_ne_none _
    have hResultsSome : results ≠ [] := by
      intro hNil
      rw [hNil] at hResults
      cases hLead : pathSegments object with
      | nil => exact hPathSome hLead
      | cons segment segments =>
          rw [hLead] at hResults
          cases hResults
    have hPlain :
        ¬ (chQuestion ∈ object ∨ chHash ∈ object) := by
      intro hQuery
      rw [pathSegments_stops hParse hQuery] at hOthers
      rw [← hResults.unique hOthers, hPath] at hNext
      exact joinPath_dropLast_ne hResultsSome hNext.symm
    rw [not_or] at hPlain
    refine ⟨hPlain.1, hPlain.2, ?_⟩
    intro hDot
    rcases hSelects.1.1 with ⟨longer, hThere, hPassed⟩
    rcases checkForbiddenPath_passes.mp hPassed with
      ⟨longerPath, hIs, hFree⟩
    have hChars : ∀ c ∈ track, isUnreserved c = true :=
      List.all_eq_true.mp hName
    have hLonger := hSetup.path_eq hThere
    rw [pathSegments_behind_slash hPlain.1 hPlain.2 hChars
        hSome hPathSome,
      if_neg (List.append_ne_nil_of_left_ne_nil hPathSome _),
      hIs, joinPath_append, joinPath_single] at hLonger
    cases hLonger
    apply hFree
    rw [dotSlash_infix_iff (isUnreserved_not hChars).1]
    exact .inr hDot
  · exact selectsAt_of_announceable hUnescape hParsed
      hAnnounces hTrack hName hSome hSetup hFresh hOffered

end Feng

------------------------------------------------------------
-- A Dot At The End
------------------------------------------------------------

namespace Feng

/- A DESCRIBE of an object, answered by the sample server. -/
theorem sample_announces
    {object path : List UInt8}
    (hOk :
      (rtspDescribe sampleUrlEnv rtspClientNew
        (sampleUrlRequest RTSPMethod.describe object)).map
          (fun result =>
            (result.1.responses.map (fun response =>
              (response.status,
                rfc822HeadersLookup (some response.headers)
                  .contentBase)), result.2)) =
        .ok ([(200, some (object ++ [chSlash]))],
          some path)) :
    Announces sampleUrlEnv rtspClientNew
      (sampleUrlRequest RTSPMethod.describe object)
      (object ++ [chSlash]) path ⟨[ascii "t"]⟩ := by
  refine ⟨?_, rfl⟩
  cases hDescribe :
      rtspDescribe sampleUrlEnv rtspClientNew
        (sampleUrlRequest RTSPMethod.describe object) with
  | error fault =>
      rw [hDescribe] at hOk
      cases hOk
  | ok result =>
      rcases result with ⟨after, opened⟩
      rw [hDescribe] at hOk
      simp only [Except.map, Except.ok.injEq,
        Prod.mk.injEq] at hOk
      rcases hOk with ⟨hResponses, rfl⟩
      rcases List.map_eq_singleton_iff.mp hResponses with
        ⟨response, hOne, hIs⟩
      rw [Prod.mk.injEq] at hIs
      exact ⟨after, response, rfl, hOne, hIs.1, hIs.2⟩

theorem describe_setup_iff_plain :
    SelectsAt sampleUrlEnv rtspClientNew
        (shelfSetup (ascii "rtsp://h/a%20b/t")) (ascii "/a b")
        (ascii "t") ↔
      Announceable (ascii "rtsp://h/a%20b") := by
  have hSetup :
      ParsedObject (shelfSetup (ascii "rtsp://h/a%20b/t")).req
        (ascii "rtsp://h/a%20b/" ++ ascii "t") :=
    ⟨rfl, rfl⟩
  exact describe_setup_iff gUriUnescapeString_unescapes
    (sampleUrlRequest_parsed RTSPMethod.describe _)
    (sample_announces (by decide +kernel)) (by decide)
    (by decide) (by decide) hSetup rtspClientNew_opens
    (by decide +kernel)

/-
  `/v.` is described, but the URL that is announced for its
  track is forbidden; behind a query the track is not found.
-/
theorem described_not_set_up :
    (Announces sampleUrlEnv rtspClientNew
        (sampleUrlRequest RTSPMethod.describe
          (ascii "rtsp://h/v."))
        (ascii "rtsp://h/v./") (ascii "/v.") ⟨[ascii "t"]⟩ ∧
      ¬ SelectsAt sampleUrlEnv rtspClientNew
        (shelfSetup (ascii "rtsp://h/v./t")) (ascii "/v.")
        (ascii "t")) ∧
    (Announces sampleUrlEnv rtspClientNew
        (sampleUrlRequest RTSPMethod.describe
          (ascii "rtsp://h/v?a"))
        (ascii "rtsp://h/v?a/") (ascii "/v") ⟨[ascii "t"]⟩ ∧
      ¬ SelectsAt sampleUrlEnv rtspClientNew
        (shelfSetup (ascii "rtsp://h/v?a/t")) (ascii "/v")
        (ascii "t")) := by
  refine ⟨⟨sample_announces (by decide +kernel), ?_⟩,
    ⟨sample_announces (by decide +kernel), ?_⟩⟩
  · rintro ⟨⟨⟨uri, hUri, hPassed⟩, _⟩, _⟩
    have hFails :
        ((uriParse (ascii "rtsp://h/v./t")).map
            (fun uri => checkForbiddenPath uri)) =
          some (.ok false) := by
      decide +kernel
    have hUri : uriParse (ascii "rtsp://h/v./t") = some uri :=
      hUri
    rw [hUri, Option.map_some, hPassed] at hFails
    cases hFails
  · rintro ⟨_, after, hSelect⟩
    have hOpens :
        (setupSelection sampleUrlEnv rtspClientNew
            (shelfSetup (ascii "rtsp://h/v?a/t"))).map
            (fun result => result.2.1) =
          .ok (some []) := by
      decide +kernel
    rw [hSelect] at hOpens
    cases hOpens

end Feng
