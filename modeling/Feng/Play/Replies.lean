import Feng.Play.Invariant
import Feng.Play.Sockets
import Feng.Rtsp.Replies

/-
  The responses of the method handlers to a client that plays:
  what they print, and what they repeat of a request.

  Key definitions include:
    * `Play.printSessionId`
    * `Play.Env.Printed`
    * `Play.CleanPlay`

  Key theorems include:
    * `Play.playReply_clean`
    * `Play.rtpSessionNew_clean`
    * `Play.rtspHandleRequest_clean`
-/

------------------------------------------------------------
-- What Is Printed
------------------------------------------------------------

namespace Feng

namespace Play

/- `%08x` -/
def printLowerHex (n : Nat) : List UInt8 :=
  let digits := Nat.toDigits 16 n
  ascii
    (String.ofList
      (List.replicate (8 - digits.length) '0' ++ digits))

/- The identifier of a session, of two random numbers. -/
def printSessionId (first second : UInt32) : List UInt8 :=
  printLowerHex first.toNat ++ printLowerHex second.toNat

/-
  What is printed for a request: the identifier of a session
  that is new, and the transport that is set up over UDP, with
  the numeric form of the address of the server.
-/
structure Env.Printed (env : Env) : Prop where
  sessionId : ∃ first second,
    env.sessionId = printSessionId first second
  transport : ∀ text, env.udpTransport = some text →
    ∃ localHost parsed rtpPort rtcpPort,
      (∀ c ∈ localHost, 32 < c.toNat ∧ c.toNat < 127) ∧
      text =
        udpTransportString env localHost parsed rtpPort
          rtcpPort

theorem printInt_clean (n : Nat) :
    CleanText (printInt n) :=
  toString_clean n

/- A hexadecimal digit is one of sixteen. -/
theorem mem_toDigits
    {c : Char}
    {n : Nat}
    (hMem : c ∈ Nat.toDigits 16 n) :
    ∃ d, d < 16 ∧ c = Nat.digitChar d := by
  induction n using Nat.strongRecOn with
  | ind n ih =>
      rw [Nat.toDigits_eq_if (by decide)] at hMem
      split at hMem
      · rename_i hSmall
        exact ⟨n, hSmall, List.mem_singleton.mp hMem⟩
      · rename_i hLarge
        rcases List.mem_append.mp hMem with hHigh | hLow
        · exact ih (n / 16) (by omega) hHigh
        · exact ⟨n % 16, Nat.mod_lt _ (by decide),
            List.mem_singleton.mp hLow⟩

/- Padded digits are printed characters. -/
theorem padded_clean
    {digits : List Char}
    (hDigits : ∀ c ∈ digits, 32 ≤ c.toNat ∧ c.toNat < 128)
    (n : Nat) :
    CleanText
      (ascii
        (String.ofList (List.replicate n '0' ++ digits))) := by
  apply ascii_clean
  intro c hMem
  rw [String.toList_ofList] at hMem
  rcases List.mem_append.mp hMem with hZero | hDigit
  · rw [List.eq_of_mem_replicate hZero]
    decide
  · exact hDigits c hDigit

theorem printLowerHex_clean (n : Nat) :
    CleanText (printLowerHex n) := by
  apply padded_clean
  intro c hMem
  rcases mem_toDigits hMem with ⟨d, hBound, rfl⟩
  have hAll : ∀ d < 16,
      32 ≤ (Nat.digitChar d).toNat ∧
        (Nat.digitChar d).toNat < 128 := by
    decide
  exact hAll d hBound

theorem printHex_clean (n : Nat) :
    CleanText (printHex n) := by
  apply padded_clean
  intro c hMem
  rcases List.mem_map.mp hMem with ⟨digit, hDigit, rfl⟩
  rcases mem_toDigits hDigit with ⟨d, hBound, rfl⟩
  have hAll : ∀ d < 16,
      32 ≤ (Nat.digitChar d).toUpper.toNat ∧
        (Nat.digitChar d).toUpper.toNat < 128 := by
    decide
  exact hAll d hBound

theorem printDouble_clean (x : ℚ) :
    CleanText (printDouble x) := by
  have hSign :
      CleanText (if x < 0 then ascii "-" else []) := by
    split
    · decide
    · exact unbroken_nil
  have hPoint : CleanText [46] := by
    decide
  have hZeros (n : Nat) : CleanText (List.replicate n 48) :=
    replicate_clean (by decide) n
  unfold printDouble
  simp only [unbroken_append_iff, hSign, hPoint, hZeros,
    printInt_clean, toString_clean, and_self]

theorem printChannel_clean (channel : Option Nat) :
    CleanText (printChannel channel) := by
  cases channel with
  | none =>
      change CleanText (ascii "-1")
      decide
  | some channel => exact printInt_clean channel

variable {env : Env}

theorem Env.Printed.sessionId_clean
    (h : env.Printed) :
    CleanText env.sessionId := by
  rcases h.sessionId with ⟨first, second, hEq⟩
  rw [hEq]
  exact (printLowerHex_clean _).append (printLowerHex_clean _)

theorem udpTransportString_clean
    {localHost : List UInt8}
    (hHost : ∀ c ∈ localHost, 32 < c.toNat ∧ c.toNat < 127)
    (parsed : ParsedTransport)
    (rtpPort rtcpPort : UInt16) :
    CleanText
      (udpTransportString env localHost parsed rtpPort
        rtcpPort) := by
  have hWords : ∀ word ∈
      ["RTP/AVP;unicast;source=", ";client_port=", "-",
        ";server_port=", ";ssrc="],
      CleanText (ascii word) := by
    decide
  have hSource := hWords "RTP/AVP;unicast;source=" (by simp)
  have hClient := hWords ";client_port=" (by simp)
  have hDash := hWords "-" (by simp)
  have hServer := hWords ";server_port=" (by simp)
  have hSsrc := hWords ";ssrc=" (by simp)
  have hAddress : CleanText localHost := by
    constructor
    · intro hMem
      exact absurd (hHost _ hMem).1 (by decide)
    · intro hMem
      exact absurd (hHost _ hMem).1 (by decide)
  simp only [udpTransportString, unbroken_append_iff,
    printInt_clean, printHex_clean, printChannel_clean,
    hSource, hClient, hDash, hServer, hSsrc, hAddress,
    and_self]

theorem Env.Printed.transport_clean
    (h : env.Printed)
    {text : List UInt8}
    (hText : env.udpTransport = some text) :
    CleanText text := by
  rcases h.transport text hText with
    ⟨localHost, parsed, rtpPort, rtcpPort, hHost, rfl⟩
  exact udpTransportString_clean hHost parsed rtpPort rtcpPort

end Play

end Feng

------------------------------------------------------------
-- Clients That Play
------------------------------------------------------------

namespace Feng

namespace Play

variable {env : Env} {req : RFC822Request} {s t : Client}
variable {rtsp : RTSPClient}

/- The client is clean, and so is what its tracks are called. -/
structure CleanPlay (s : Client) : Prop where
  client : CleanClient s.rtsp
  uris : ∀ session ∈ s.playback.rtpSessions,
    CleanText session.uri

theorem CleanPlay.setRtsp
    (h : CleanPlay s)
    (hClient : CleanClient rtsp) :
    CleanPlay { s with rtsp := rtsp } :=
  ⟨hClient, h.uris⟩

theorem CleanPlay.send
    {response : RFC822Response}
    (h : CleanPlay s)
    (hResponse : CleanHeaders response.headers) :
    CleanPlay (s.send response) :=
  h.setRtsp (h.client.send hResponse)

theorem CleanPlay.quick
    (h : CleanPlay s)
    (hReq : CleanRequest req)
    (code : Nat) :
    CleanPlay (s.quickResponse req code) :=
  h.setRtsp (h.client.quick hReq code)

/- The state of the session does not matter. -/
theorem CleanPlay.setState
    (h : CleanPlay s)
    (state : RTSPServerState) :
    CleanPlay (s.setState state) := by
  apply h.setRtsp
  apply h.client.setSession
  intro next hNext
  rcases Option.map_eq_some_iff.mp hNext with
    ⟨session, hSession, rfl⟩
  exact h.client.session session hSession

/- RTP sessions that are called what they were. -/
theorem CleanPlay.of_map
    {f : RTPSession → RTPSession}
    (h : CleanPlay s)
    (hClient : CleanClient t.rtsp)
    (hSessions :
      t.playback.rtpSessions = s.playback.rtpSessions.map f)
    (hUri : ∀ session, (f session).uri = session.uri) :
    CleanPlay t := by
  refine ⟨hClient, ?_⟩
  intro session hMem
  rw [hSessions] at hMem
  rcases List.mem_map.mp hMem with ⟨old, hOld, rfl⟩
  rw [hUri]
  exact h.uris old hOld

theorem CleanPlay.of_same
    (h : CleanPlay s)
    (hClient : CleanClient t.rtsp)
    (hSessions :
      t.playback.rtpSessions = s.playback.rtpSessions) :
    CleanPlay t := by
  refine ⟨hClient, ?_⟩
  rw [hSessions]
  exact h.uris

end Play

end Feng

------------------------------------------------------------
-- SETUP And TEARDOWN
------------------------------------------------------------

namespace Feng

namespace Play

variable {env : Env} {req : RFC822Request} {s t : Client}
variable {uri track text : List UInt8}
variable {transports : List ParsedTransport}
variable {transport : RTPTransport}

/- The transport chosen is reported in clean text. -/
theorem rtpTransportInit_clean
    {address : Nat}
    (hEnv : env.Printed)
    (h :
      rtpTransportInit env s address transports =
        .ok (t, some (transport, text))) :
    CleanText text := by
  have hWords : ∀ word ∈
      ["RTP/AVP/TCP;interleaved=", "-", ";ssrc="],
      CleanText (ascii word) := by
    decide
  have hTcp := hWords "RTP/AVP/TCP;interleaved=" (by simp)
  have hDash := hWords "-" (by simp)
  have hSsrc := hWords ";ssrc=" (by simp)
  induction transports generalizing s with
  | nil => cases h
  | cons parsed transports ih =>
      unfold rtpTransportInit at h
      split at h
      · cases h
      · split at h
        · rename_i hString
          cases h
          exact hEnv.transport_clean hString
        · exact ih h
      · split at h
        · rename_i hChosen
          cases h
          unfold rtpInterleavedTransport at hChosen
          simp only at hChosen
          split at hChosen
          · cases hChosen
          · cases hChosen
            simp only [unbroken_append_iff, printInt_clean,
              printHex_clean, hTcp, hDash, hSsrc, and_self]
        · exact ih h

/- A new RTP session is called as it was asked for. -/
theorem rtpSessionNew_clean
    {session : RTPSession}
    (hEnv : env.Printed)
    (h :
      rtpSessionNew env s uri track transports =
        .ok (t, some (session, text))) :
    session.uri = uri ∧ CleanText text := by
  unfold rtpSessionNew at h
  simp only at h
  split at h
  · cases h
  · cases h
  · rename_i hInit
    cases h
    exact ⟨rfl, rtpTransportInit_clean hEnv hInit⟩

theorem Allocated.clean
    (hAllocated : Allocated s t)
    (h : CleanPlay s) :
    CleanPlay t := by
  rcases hAllocated with ⟨free, channels, rfl⟩
  exact ⟨h.client, h.uris⟩

theorem setupTrack_clean
    (h : CleanPlay s)
    (hEnv : env.Printed)
    (hReq : CleanRequest req)
    (hSetup : setupTrack env s req track = .ok t) :
    CleanPlay t := by
  unfold setupTrack at hSetup
  split at hSetup
  · cases hSetup
  · rename_i u hNew
    cases hSetup
    exact ((rtpSessionNew_cases hNew).1.clean h).quick hReq 461
  · rename_i u session transportString hNew
    cases hSetup
    have hClean := (rtpSessionNew_cases hNew).1.clean h
    rcases rtpSessionNew_clean hEnv hNew with
      ⟨hUri, hString⟩
    constructor
    · apply Feng.setupTrack_clean hClean.client hReq
      intro text hText
      cases hText
      exact hString
    · intro other hMem
      rcases List.mem_append.mp hMem with hOld | hNewOne
      · exact hClean.uris other hOld
      · rw [List.mem_singleton.mp hNewOne, hUri]
        exact hReq.objectD

theorem openSession_clean
    (h : CleanPlay s)
    (hEnv : env.Printed) :
    CleanPlay (openSession env s).1 ∧
      CleanText (openSession env s).2.sessionId := by
  unfold openSession
  split
  · rename_i session hSession
    exact ⟨h, h.client.session session hSession⟩
  · refine ⟨⟨?_, ?_⟩, hEnv.sessionId_clean⟩
    · apply h.client.setSession
      intro next hNext
      cases hNext
      exact hEnv.sessionId_clean
    · intro session hMem
      cases hMem

theorem rtspSetup_clean
    (h : CleanPlay s)
    (hEnv : env.Printed)
    (hReq : CleanRequest req)
    (hSetup : rtspSetup env s req = .ok t) :
    CleanPlay t := by
  unfold rtspSetup at hSetup
  split at hSetup
  · cases hSetup
  · rename_i hCheck
    cases hSetup
    exact h.setRtsp
      (rfc822RequestCheckUrl_clean h.client hReq hCheck)
  · split at hSetup
    · cases hSetup
      exact h.quick hReq 461
    · rcases openSession_clean h hEnv with ⟨hOpen, hName⟩
      simp only at hSetup
      split at hSetup
      · cases hSetup
      · rename_i hSelect
        cases hSetup
        exact hOpen.setRtsp
          (selectRequestedTrack_clean hOpen.client hReq hName
            hSelect)
      · rename_i hSelect
        exact setupTrack_clean
          (hOpen.setRtsp
            (selectRequestedTrack_clean hOpen.client hReq
              hName hSelect))
          hEnv hReq hSetup

theorem rtspTeardown_clean
    (h : CleanPlay s)
    (hReq : CleanRequest req)
    (hTeardown : rtspTeardown s req = .ok t) :
    CleanPlay t := by
  unfold rtspTeardown at hTeardown
  split at hTeardown
  · cases hTeardown
  · rename_i hCheck
    cases hTeardown
    exact h.setRtsp
      (rfc822RequestCheckUrl_clean h.client hReq hCheck)
  · cases hTeardown
    have hFreed : CleanPlay (tornDown s) := by
      constructor
      · apply h.client.setSession
        intro next hNone
        cases hNone
      · intro session hMem
        cases hMem
    exact hFreed.quick hReq 200

end Play

end Feng

------------------------------------------------------------
-- PAUSE And PLAY
------------------------------------------------------------

namespace Feng

namespace Play

variable {env : Env} {req : RFC822Request} {s t : Client}

theorem rtspDoPause_clean
    {now : ℚ}
    (h : CleanPlay s)
    (hPause : rtspDoPause now s = .ok t) :
    CleanPlay t := by
  rcases rtspDoPause_cases hPause with
    ⟨_, address, range, _, _, _, rfl⟩
  apply CleanPlay.setState
  apply h.of_map (f := rtpSessionPause)
  · exact h.client
  · rfl
  · intro session
    rfl

theorem rtspPause_clean
    (h : CleanPlay s)
    (hReq : CleanRequest req)
    (hPause : rtspPause env s req = .ok t) :
    CleanPlay t := by
  unfold rtspPause at hPause
  split at hPause
  · rename_i hState
    cases hPause
    exact h.setRtsp
      (rtspCheckInvalidState_clean h.client hReq hState)
  · split at hPause
    · rename_i hState
      cases hPause
      exact h.setRtsp
        (rtspCheckInvalidState_clean h.client hReq hState)
    · split at hPause
      · cases hPause
      · rename_i hCheck
        cases hPause
        exact h.setRtsp
          (rfc822RequestCheckUrl_clean h.client hReq hCheck)
      · split at hPause
        · cases hPause
        · rename_i hPaused
          cases hPause
          exact (rtspDoPause_clean h hPaused).quick hReq 200

/- Each track of the reply is named by its URI. -/
theorem rtpInfo_clean
    {session : RTPSession}
    (hUri : CleanText session.uri) :
    CleanText (rtpInfo session) := by
  have hWords : ∀ word ∈ ["url=", ";seq=1", ";rtptime=", ","],
      CleanText (ascii word) := by
    decide
  have hUrl := hWords "url=" (by simp)
  have hSeq := hWords ";seq=1" (by simp)
  have hTime := hWords ";rtptime=" (by simp)
  have hComma := hWords "," (by simp)
  unfold rtpInfo
  split
  · simp only [unbroken_append_iff, hUrl, hUri, hSeq, hComma,
      unbroken_nil, and_self]
  · simp only [unbroken_append_iff, hUrl, hUri, hSeq, hComma,
      hTime, printInt_clean, and_self]

theorem playReply_clean
    (h : CleanPlay s)
    (hReq : CleanRequest req)
    (range : RTSPRange) :
    CleanHeaders (playReply s req range).headers := by
  have hNumber (known : Prop) [Decidable known] (x : ℚ) :
      CleanText (if known then printDouble x else []) := by
    split
    · exact printDouble_clean x
    · exact unbroken_nil
  have hNpt : CleanText (ascii "npt=") := by
    decide
  have hDash : CleanText (ascii "-") := by
    decide
  have hInfo :
      CleanText (s.playback.rtpSessions.flatMap rtpInfo) :=
    unbroken_flatMap (fun session hMem =>
      rtpInfo_clean (h.uris session hMem))
  apply CleanHeaders.set
  · apply (rfc822ResponseNew_clean hReq 200).set
    simp only [unbroken_append_iff, hNpt, hDash, hNumber,
      and_self]
  · exact hInfo.of_subset (List.dropLast_subset _)

theorem NowPlays.clean
    (hPlays : NowPlays env s t)
    (h : CleanPlay s) :
    CleanPlay t := by
  rcases hPlays with
    ⟨_, rfl⟩ | ⟨_, ⟨_, rfl⟩ | ⟨_, address, range, _, _, rfl⟩⟩
  · exact h
  · exact h.setState .playing
  · apply h.of_map
      (f := rtpSessionResume address range env.time)
    · exact (h.setState .playing).client
    · rfl
    · intro session
      rfl

theorem playChecked_clean
    (h : CleanPlay s)
    (hReq : CleanRequest req)
    (hPlay : playChecked env s req = .ok t) :
    CleanPlay t := by
  unfold playChecked at hPlay
  rcases Except.bind_eq_ok.mp hPlay with
    ⟨u, hWorked, hAfterWork⟩
  have hClean : CleanPlay u := by
    rcases workAround_cases hWorked with
      ⟨_, rfl⟩ | ⟨_, _, hPause⟩
    · exact h
    · exact rtspDoPause_clean h hPause
  rcases Except.bind_eq_ok.mp hAfterWork with
    ⟨⟨v, code⟩, hRange, hAfterRange⟩
  simp only at hAfterRange
  rcases parseRangeHeader_cases hRange with
    ⟨hCode, _, rfl⟩ | ⟨rfl, _, hFixed⟩
  · rw [if_pos hCode] at hAfterRange
    cases hAfterRange
    exact hClean.quick hReq code
  · rw [if_neg (not_not.mpr rfl)] at hAfterRange
    have hFixedClean : CleanPlay v := by
      apply hClean.of_same
      · rw [hFixed.rtsp_eq]
        exact hClean.client
      · exact hFixed.sessions_eq.1
    rcases Except.bind_eq_ok.mp hAfterRange with
      ⟨⟨w, code⟩, hStart, hAfterStart⟩
    simp only at hAfterStart
    rcases playUnlessPlaying_cases hStart with
      ⟨hCode, _, rfl⟩ | ⟨rfl, hNow, _⟩
    · rw [if_pos hCode] at hAfterStart
      cases hAfterStart
      exact hFixedClean.quick hReq code
    · rw [if_neg (not_not.mpr rfl)] at hAfterStart
      have hNowClean := hNow.clean hFixedClean
      rcases Except.bind_eq_ok.mp hAfterStart with
        ⟨x, hReply, hEnd⟩
      cases hEnd
      unfold sendPlayReply at hReply
      split at hReply
      · cases hReply
      · rename_i range _
        cases hReply
        have hSent :=
          hNowClean.send (playReply_clean hNowClean hReq range)
        exact ⟨hSent.client, hSent.uris⟩

theorem rtspPlay_clean
    (h : CleanPlay s)
    (hReq : CleanRequest req)
    (hPlay : rtspPlay env s req = .ok t) :
    CleanPlay t := by
  unfold rtspPlay at hPlay
  split at hPlay
  · rename_i hState
    cases hPlay
    exact h.setRtsp
      (rtspCheckInvalidState_clean h.client hReq hState)
  · split at hPlay
    · cases hPlay
    · rename_i hCheck
      cases hPlay
      exact h.setRtsp
        (rfc822RequestCheckUrl_clean h.client hReq hCheck)
    · exact playChecked_clean h hReq hPlay

end Play

end Feng

------------------------------------------------------------
-- Requests
------------------------------------------------------------

namespace Feng

namespace Play

variable {env : Env} {req : RFC822Request} {s t : Client}

theorem rtspDescribe_clean
    (h : CleanPlay s)
    (hReq : CleanRequest req)
    (hDescribe : rtspDescribe env s req = .ok t) :
    CleanPlay t := by
  unfold rtspDescribe at hDescribe
  split at hDescribe
  · cases hDescribe
  · rename_i hRtsp
    cases hDescribe
    exact h.setRtsp
      (Feng.rtspDescribe_clean h.client hReq hRtsp)

theorem callMethod_clean
    (h : CleanPlay s)
    (hEnv : env.Printed)
    (hReq : CleanRequest req)
    (hMethod : callMethod env s req = .ok t) :
    CleanPlay t := by
  unfold callMethod at hMethod
  split at hMethod
  · cases hMethod
    exact h.setRtsp (rtspOptions_clean h.client hReq)
  · split at hMethod
    · cases hMethod
    · exact rtspDescribe_clean h hReq hMethod
    · exact rtspSetup_clean h hEnv hReq hMethod
    · exact rtspPlay_clean h hReq hMethod
    · exact rtspPause_clean h hReq hMethod
    · exact rtspTeardown_clean h hReq hMethod

theorem handleNumberedRequest_clean
    {cseqVal : Nat}
    (h : CleanPlay s)
    (hEnv : env.Printed)
    (hReq : CleanRequest req)
    (hRequest :
      handleNumberedRequest env s req cseqVal = .ok t) :
    CleanPlay t := by
  have hNumbered :
      CleanClient { s.rtsp with lastCseq := cseqVal } :=
    ⟨h.client.responses, h.client.pending, h.client.session⟩
  unfold handleNumberedRequest at hRequest
  split at hRequest
  · rename_i hCheck
    cases hRequest
    exact h.setRtsp
      (rtspCheckSession_clean hNumbered hReq hCheck)
  · rename_i hCheck
    have hSession :=
      rtspCheckSession_clean hNumbered hReq hCheck
    split at hRequest
    · rename_i hOptions
      cases hRequest
      exact h.setRtsp
        (rtspCheckRequiredOptions_clean hSession hReq
          hOptions)
    · rename_i hOptions
      exact callMethod_clean
        (h.setRtsp
          (rtspCheckRequiredOptions_clean hSession hReq
            hOptions))
        hEnv hReq hRequest

/- A clean request is answered clean, whatever it asks for. -/
theorem rtspHandleRequest_clean
    (h : CleanPlay s)
    (hEnv : env.Printed)
    (hReq : CleanRequest req)
    (hRequest : rtspHandleRequest env s req = .ok t) :
    CleanPlay t := by
  unfold rtspHandleRequest at hRequest
  split at hRequest
  · cases hRequest
  · rename_i u hBody
    cases hRequest
    have hClean : CleanPlay u := by
      unfold handleRequestBody at hBody
      split at hBody
      · cases hBody
        exact h.quick hReq 400
      · simp only at hBody
        split at hBody
        · cases hBody
          exact h.quick hReq 400
        · split at hBody
          · cases hBody
            exact h.quick hReq 400
          · split at hBody
            · cases hBody
              exact h
            · exact handleNumberedRequest_clean h hEnv hReq
                hBody
    apply hClean.setRtsp
    apply hClean.client.setRequest
    intro other hNone
    cases hNone

theorem rtpWriteCb_uri
    {writerEnv : WriterEnv}
    {session next : RTPSession}
    {due : ℚ}
    (h : rtpWriteCb writerEnv s session due = .ok next) :
    next.uri = session.uri := by
  unfold rtpWriteCb at h
  split at h
  · split at h
    · cases h
    · cases h
      rfl
  · split at h
    · split at h
      · split at h
        · cases h
        · cases h
          rfl
      · cases h
        rfl
    · split at h
      · cases h
      · cases h
        unfold rtpPacketSend
        split
        · rfl
        · rfl

/- A writer sends packets, and no responses. -/
theorem writeStep_clean
    {writerEnv : WriterEnv}
    {address : Nat}
    (h : CleanPlay s)
    (hWrite : writeStep writerEnv s address = .ok t) :
    CleanPlay t := by
  rcases writeStep_cases hWrite with
    rfl | ⟨session, due, next, hAt, _, hNext, rfl⟩
  · exact h
  · refine ⟨h.client, ?_⟩
    intro other hMem
    rcases mem_updateSession hMem with rfl | hOld
    · rw [rtpWriteCb_uri hNext]
      exact h.uris session (sessionAt_mem hAt).1
    · exact h.uris other hOld

theorem clientEvTimeout_clean
    {time : Nat}
    (h : CleanPlay s)
    (hTimeout : clientEvTimeout time s = .ok t) :
    CleanPlay t := by
  unfold clientEvTimeout at hTimeout
  split at hTimeout
  · cases hTimeout
  · cases hTimeout
    refine ⟨?_, h.uris⟩
    simp only
    split
    · exact ⟨h.client.responses, h.client.pending,
        h.client.session⟩
    · exact h.client

end Play

end Feng
