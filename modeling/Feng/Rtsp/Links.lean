import Feng.Rtsp.Server

/-
  What ties a client to a tunnel and to its thread, and that
  no round of an RTSP connection changes it. A method leaves
  the input alone as well.

  Key definitions include:
    * `SameLink`
    * `SameHold`

  Key theorems include:
    * `rtspHandleRequest_holds`
    * `rtspHandleNew_link`
    * `rtspHandleInterleaved_link`
    * `rtspHandleHeaders_link`
    * `rtspHandleContent_link`
-/

------------------------------------------------------------
-- Clients That Keep Their Place
------------------------------------------------------------

namespace Feng

/- What ties a client to a tunnel and to its thread. -/
structure SameLink (rtsp rtsp' : RTSPClient) : Prop where
  pair : rtsp'.pair = rtsp.pair
  connected : rtsp'.connected = rtsp.connected
  freed : rtsp'.freed = rtsp.freed

/- A client that keeps its place and what it received. -/
structure SameHold (rtsp rtsp' : RTSPClient) : Prop
    extends SameLink rtsp rtsp' where
  input : rtsp'.input = rtsp.input

variable {rtsp rtsp' : RTSPClient} {mem : Memory}
variable {req : RFC822Request} {env : UrlEnv}
variable {ret : Bool} {opened : Option (List UInt8)}

theorem SameLink.refl (rtsp : RTSPClient) :
    SameLink rtsp rtsp :=
  ⟨rfl, rfl, rfl⟩

theorem SameLink.send
    (h : SameLink rtsp rtsp')
    (response : RFC822Response) :
    SameLink rtsp (rfc822ResponseSend rtsp' response) :=
  ⟨h.pair, h.connected, h.freed⟩

theorem SameHold.refl (rtsp : RTSPClient) :
    SameHold rtsp rtsp :=
  ⟨⟨rfl, rfl, rfl⟩, rfl⟩

theorem SameHold.trans
    {rtsp'' : RTSPClient}
    (h : SameHold rtsp rtsp')
    (h' : SameHold rtsp' rtsp'') :
    SameHold rtsp rtsp'' :=
  ⟨⟨h'.pair.trans h.pair, h'.connected.trans h.connected,
    h'.freed.trans h.freed⟩, h'.input.trans h.input⟩

theorem SameHold.send
    (h : SameHold rtsp rtsp')
    (response : RFC822Response) :
    SameHold rtsp (rfc822ResponseSend rtsp' response) :=
  ⟨h.toSameLink.send response, h.input⟩

theorem rfc822RequestCheckUrl_holds
    (h :
      rfc822RequestCheckUrl rtsp req = .ok (rtsp', ret)) :
    SameHold rtsp rtsp' := by
  unfold rfc822RequestCheckUrl at h
  split at h
  · cases h
    exact (SameHold.refl rtsp).send _
  · split at h
    · cases h
    · cases h
      exact SameHold.refl rtsp
    · cases h
      exact (SameHold.refl rtsp).send _

theorem rtspCheckInvalidState_holds
    {state : RTSPServerState}
    (h :
      rtspCheckInvalidState rtsp req state = (rtsp', ret)) :
    SameHold rtsp rtsp' := by
  unfold rtspCheckInvalidState at h
  split at h
  · cases h
    exact SameHold.refl rtsp
  · cases h
    exact (SameHold.refl rtsp).send _

theorem SameHold.findNamedTrack
    (h : SameHold rtsp rtsp')
    (req : RFC822Request)
    (resource : Resource)
    (trackname : List UInt8) :
    SameHold rtsp
      (findNamedTrack rtsp' req resource trackname).1 := by
  unfold Feng.findNamedTrack
  split
  · exact h.send _
  · split
    · exact h
    · exact h.send _

theorem selectRequestedTrack_holds
    {session : RTSPSession}
    {track : Option (List UInt8)}
    (h :
      selectRequestedTrack env rtsp req session =
        .ok (rtsp', opened, track)) :
    SameHold rtsp rtsp' := by
  unfold selectRequestedTrack at h
  split at h
  · cases h
  · split at h
    · unfold openRequestedTrack at h
      split at h
      · cases h
        exact (SameHold.refl rtsp).send _
      · split at h
        · cases h
        · simp only at h
          split at h
          · cases h
            exact (SameHold.refl rtsp).send _
          · cases h
            apply SameHold.findNamedTrack
            exact ⟨⟨rfl, rfl, rfl⟩, rfl⟩
    · split at h
      · cases h
        exact (SameHold.refl rtsp).send _
      · cases h
        exact (SameHold.refl rtsp).findNamedTrack req _ _

theorem setupTrack_holds
    (env : UrlEnv)
    (rtsp : RTSPClient)
    (req : RFC822Request)
    (track : List UInt8) :
    SameHold rtsp (setupTrack env rtsp req track) := by
  unfold setupTrack
  split
  · exact ⟨⟨rfl, rfl, rfl⟩, rfl⟩
  · exact (SameHold.refl rtsp).send _

theorem rtspDescribe_holds
    (h : rtspDescribe env rtsp req = .ok (rtsp', opened)) :
    SameHold rtsp rtsp' := by
  unfold rtspDescribe at h
  split at h
  · cases h
  · rename_i hCheck
    cases h
    exact rfc822RequestCheckUrl_holds hCheck
  · rename_i hCheck
    have hHold := rfc822RequestCheckUrl_holds hCheck
    split at h
    · cases h
    · cases h
      exact hHold.send _
    · cases h
      exact hHold.send _

theorem rtspSetup_holds
    (h : rtspSetup env rtsp req = .ok (rtsp', opened)) :
    SameHold rtsp rtsp' := by
  unfold rtspSetup at h
  split at h
  · cases h
  · rename_i hCheck
    cases h
    exact rfc822RequestCheckUrl_holds hCheck
  · rename_i checked hCheck
    have hHold := rfc822RequestCheckUrl_holds hCheck
    split at h
    · cases h
      exact hHold.send _
    · have hOpened (session : Option RTSPSession) :
          SameHold rtsp { checked with session := session } :=
        ⟨⟨hHold.pair, hHold.connected, hHold.freed⟩,
          hHold.input⟩
      simp only at h
      split at h
      · cases h
      · rename_i hSelect
        cases h
        exact (hOpened _).trans
          (selectRequestedTrack_holds hSelect)
      · rename_i hSelect
        cases h
        exact ((hOpened _).trans
          (selectRequestedTrack_holds hSelect)).trans
            (setupTrack_holds env _ req _)

theorem rtspPlay_holds
    (h : rtspPlay env rtsp req = .ok (rtsp', opened)) :
    SameHold rtsp rtsp' := by
  unfold rtspPlay at h
  split at h
  · rename_i hState
    cases h
    exact rtspCheckInvalidState_holds hState
  · rename_i hState
    have hHold := rtspCheckInvalidState_holds hState
    split at h
    · cases h
    · rename_i hCheck
      cases h
      exact hHold.trans (rfc822RequestCheckUrl_holds hCheck)
    · rename_i hCheck
      have hChecked :=
        hHold.trans (rfc822RequestCheckUrl_holds hCheck)
      cases h
      exact ⟨⟨hChecked.pair, hChecked.connected,
        hChecked.freed⟩, hChecked.input⟩

theorem rtspPause_holds
    (h : rtspPause rtsp req = .ok (rtsp', opened)) :
    SameHold rtsp rtsp' := by
  unfold rtspPause at h
  split at h
  · rename_i hState
    cases h
    exact rtspCheckInvalidState_holds hState
  · rename_i hState
    have hHold := rtspCheckInvalidState_holds hState
    split at h
    · rename_i hReady
      cases h
      exact hHold.trans (rtspCheckInvalidState_holds hReady)
    · rename_i hReady
      have hHold' :=
        hHold.trans (rtspCheckInvalidState_holds hReady)
      split at h
      · cases h
      · rename_i hCheck
        cases h
        exact hHold'.trans (rfc822RequestCheckUrl_holds hCheck)
      · rename_i hCheck
        have hChecked :=
          hHold'.trans (rfc822RequestCheckUrl_holds hCheck)
        cases h
        exact ⟨⟨hChecked.pair, hChecked.connected,
        hChecked.freed⟩, hChecked.input⟩

theorem rtspTeardown_holds
    (h : rtspTeardown rtsp req = .ok (rtsp', opened)) :
    SameHold rtsp rtsp' := by
  unfold rtspTeardown at h
  split at h
  · cases h
  · rename_i hCheck
    cases h
    exact rfc822RequestCheckUrl_holds hCheck
  · rename_i hCheck
    have hHold := rfc822RequestCheckUrl_holds hCheck
    cases h
    exact ⟨⟨hHold.pair, hHold.connected, hHold.freed⟩,
      hHold.input⟩

theorem callMethod_holds
    (h : callMethod env rtsp req = .ok rtsp') :
    SameHold rtsp rtsp' := by
  unfold callMethod at h
  split at h
  · cases h
    exact (SameHold.refl rtsp).send _
  · split at h
    · cases h
    · rename_i method _
      split at h
      · cases h
      · rename_i hMethod
        cases h
        cases method with
        | describe => exact rtspDescribe_holds hMethod
        | setup => exact rtspSetup_holds hMethod
        | play => exact rtspPlay_holds hMethod
        | pause => exact rtspPause_holds hMethod
        | teardown => exact rtspTeardown_holds hMethod

theorem rtspCheckSession_holds
    (rtsp : RTSPClient)
    (req : RFC822Request) :
    SameHold rtsp (rtspCheckSession rtsp req).1 := by
  unfold rtspCheckSession
  split
  · exact SameHold.refl rtsp
  · split
    · exact SameHold.refl rtsp
    · exact (SameHold.refl rtsp).send _

theorem rtspCheckRequiredOptions_holds
    (rtsp : RTSPClient)
    (req : RFC822Request) :
    SameHold rtsp (rtspCheckRequiredOptions rtsp req).1 := by
  unfold rtspCheckRequiredOptions
  simp only
  split
  · exact SameHold.refl rtsp
  · exact (SameHold.refl rtsp).send _

theorem handleNumberedRequest_holds
    {cseqVal : Nat}
    (h :
      handleNumberedRequest env rtsp req cseqVal =
        .ok rtsp') :
    SameHold rtsp rtsp' := by
  have hNumbered :
      SameHold rtsp { rtsp with lastCseq := cseqVal } :=
    ⟨⟨rfl, rfl, rfl⟩, rfl⟩
  have hSession := hNumbered.trans
    (rtspCheckSession_holds { rtsp with lastCseq := cseqVal }
      req)
  unfold handleNumberedRequest at h
  split at h
  · rename_i hCheck
    cases h
    rw [hCheck] at hSession
    exact hSession
  · rename_i checked hCheck
    rw [hCheck] at hSession
    have hOptions := hSession.trans
      (rtspCheckRequiredOptions_holds checked req)
    split at h
    · rename_i hRequired
      cases h
      rw [hRequired] at hOptions
      exact hOptions
    · rename_i hRequired
      rw [hRequired] at hOptions
      exact hOptions.trans (callMethod_holds h)

theorem rtspHandleRequest_holds
    (h : rtspHandleRequest env rtsp req = .ok rtsp') :
    SameHold rtsp rtsp' := by
  have hBody {after : RTSPClient}
      (hAfter : handleRequestBody env rtsp req = .ok after) :
      SameHold rtsp after := by
    unfold handleRequestBody at hAfter
    split at hAfter
    · cases hAfter
      exact (SameHold.refl rtsp).send _
    · simp only at hAfter
      split at hAfter
      · cases hAfter
        exact (SameHold.refl rtsp).send _
      · split at hAfter
        · cases hAfter
          exact (SameHold.refl rtsp).send _
        · split at hAfter
          · cases hAfter
            exact SameHold.refl rtsp
          · exact handleNumberedRequest_holds hAfter
  unfold rtspHandleRequest at h
  split at h
  · cases h
  · rename_i hAfter
    have hHold := hBody hAfter
    cases h
    exact ⟨⟨hHold.pair, hHold.connected, hHold.freed⟩,
      hHold.input⟩

theorem rtspHandleInterleaved_link
    (h : rtspHandleInterleaved rtsp = .ok (rtsp', ret)) :
    SameLink rtsp rtsp' := by
  unfold rtspHandleInterleaved at h
  split at h
  · cases h
    exact SameLink.refl rtsp
  · simp only at h
    split at h
    · cases h
    · split at h
      · cases h
        exact SameLink.refl rtsp
      · cases h
        exact ⟨rfl, rfl, rfl⟩

theorem handleLineResult_link
    (rtsp : RTSPClient)
    (length : Int)
    (req : RFC822Request) :
    SameLink rtsp (handleLineResult rtsp length req).1 := by
  unfold handleLineResult
  split
  · exact (SameLink.refl rtsp).send _
  · split
    · exact SameLink.refl rtsp
    · split
      · exact (SameLink.refl rtsp).send _
      · unfold handleRequestLine
        simp only
        split
        · exact ⟨rfl, rfl, rfl⟩
        · exact ⟨rfl, rfl, rfl⟩

theorem rtspHandleNew_link
    (h : rtspHandleNew mem rtsp = .ok (rtsp', ret)) :
    SameLink rtsp rtsp' := by
  unfold rtspHandleNew at h
  split at h
  · cases h
    exact SameLink.refl rtsp
  · split at h
    · have hLink := rtspHandleInterleaved_link h
      exact ⟨hLink.pair, hLink.connected, hLink.freed⟩
    · split at h
      · cases h
      · rename_i length line _
        have hLink := handleLineResult_link rtsp length line
        simp only [Except.ok.injEq] at h
        rw [h] at hLink
        exact hLink

theorem rtspHandleHeaders_link
    (h : rtspHandleHeaders mem rtsp = .ok (rtsp', ret)) :
    SameLink rtsp rtsp' := by
  unfold rtspHandleHeaders at h
  split at h
  · cases h
  · split at h
    · cases h
    · simp only at h
      split at h
      · cases h
        exact ⟨rfl, rfl, rfl⟩
      · split at h
        · cases h
          exact ⟨rfl, rfl, rfl⟩
        · cases h
          exact ⟨rfl, rfl, rfl⟩

theorem rtspHandleContent_link
    (h : rtspHandleContent env rtsp = .ok (rtsp', ret)) :
    SameLink rtsp rtsp' := by
  unfold rtspHandleContent at h
  split at h
  · cases h
  · split at h
    · cases h
    · split at h
      · cases h
      · rename_i hRequest
        have hLink := rtspHandleRequest_holds hRequest
        cases h
        exact ⟨hLink.pair, hLink.connected, hLink.freed⟩

end Feng
