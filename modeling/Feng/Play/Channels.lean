import Feng.Play.Resume

/-
  The interleaved channels that the RTP sessions of a client
  use, and the table that finds a session by its RTCP channel.

  Nothing keeps two sessions from the same channel: neither
  the channels that are asked for nor the counter look at
  those in use, and an entry of the table stays when its
  session is freed.

  Key definitions include:
    * `Play.channelsInUse`
    * `Play.liveEntries`
    * `Play.ChannelsKept`
    * `Play.ChannelsSpared`

  Key theorems include:
    * `Play.request_relinked`
    * `Play.channels_kept_iff`
-/

------------------------------------------------------------
-- Channels In Use
------------------------------------------------------------

namespace Feng

namespace Play

variable {s t u : Client}

/- The addresses and the transports of the RTP sessions. -/
def links (s : Client) : List (Nat × RTPTransport) :=
  s.playback.rtpSessions.map
    (fun session => (session.address, session.transport))

def RTPTransport.channels : RTPTransport → List Nat
| .udp => []
| .tcp rtp rtcp => [rtp, rtcp]

/- The entry of the table that a session should have. -/
def linkEntry : Nat × RTPTransport → Option (Nat × Nat)
| (_, .udp) => none
| (address, .tcp _ rtcp) => some (rtcp, address)

/- The RTP and RTCP channels of the live RTP sessions. -/
def channelsInUse (s : Client) : List Nat :=
  (links s).flatMap (fun link => link.2.channels)

/- The RTCP channels of the live sessions, and the sessions. -/
def liveEntries (s : Client) : List (Nat × Nat) :=
  (links s).filterMap linkEntry

/-
  The channels in use are distinct and fit in a byte, and the
  table has the RTCP channels of the live sessions only.
-/
structure ChannelsKept (s : Client) : Prop where
  distinct : (channelsInUse s).Nodup
  bounded : ∀ channel ∈ channelsInUse s, channel < 256
  exact :
    ∀ entry,
      entry ∈ s.channels.getD [] ↔ entry ∈ liveEntries s

theorem mem_insertChannel
    {channels : List (Nat × Nat)}
    {channel address : Nat}
    {entry : Nat × Nat} :
    entry ∈ insertChannel channels channel address ↔
      (entry ∈ channels ∧ entry.1 ≠ channel) ∨
        entry = (channel, address) := by
  simp [insertChannel]

/- The channels of a client, with all that they depend on. -/
structure SameChannels (s t : Client) : Prop where
  table : t.channels = s.channels
  links : links t = links s
  free : t.firstFreeChannel = s.firstFreeChannel
  next : t.nextAddress = s.nextAddress

theorem SameChannels.refl (s : Client) : SameChannels s s :=
  ⟨rfl, rfl, rfl, rfl⟩

theorem SameChannels.trans
    (hFirst : SameChannels s t)
    (hSecond : SameChannels t u) :
    SameChannels s u where
  table := hSecond.table.trans hFirst.table
  links := hSecond.links.trans hFirst.links
  free := hSecond.free.trans hFirst.free
  next := hSecond.next.trans hFirst.next

theorem links_map
    {f : RTPSession → RTPSession}
    (hLink :
      ∀ session,
        (f session).address = session.address ∧
          (f session).transport = session.transport)
    (h :
      t.playback.rtpSessions = s.playback.rtpSessions.map f) :
    links t = links s := by
  unfold links
  rw [h, List.map_map]
  apply List.map_congr_left
  intro session _
  simp only [Function.comp, hLink session]

end Play

end Feng

------------------------------------------------------------
-- Pieces Of Requests
------------------------------------------------------------

namespace Feng

namespace Play

variable {env : Env} {req : RFC822Request} {s t u : Client}

theorem Untouched.sameChannels
    (h : Untouched s t) :
    SameChannels s t := by
  rcases h with ⟨rtsp, _, rfl⟩
  exact ⟨rfl, rfl, rfl, rfl⟩

theorem Opened.sameChannels
    (hInv : Inv s)
    (h : Opened env s t) :
    SameChannels s t := by
  rcases h with ⟨next, _, rfl⟩
  unfold openSession
  cases hSession : s.rtsp.session with
  | none =>
      refine ⟨rfl, ?_, rfl, rfl⟩
      unfold links
      rw [hInv.absent hSession]
  | some session => exact ⟨rfl, rfl, rfl, rfl⟩

theorem sameChannels_pausedAt
    {now : ℚ}
    (s : Client)
    (address : Nat)
    (range : RTSPRange) :
    SameChannels s (pausedAt now s address range) where
  table := rfl
  links :=
    links_map (f := rtpSessionPause)
      (fun _ => ⟨rfl, rfl⟩) rfl
  free := rfl
  next := rfl

theorem rtspDoPause_sameChannels
    {now : ℚ}
    (h : rtspDoPause now s = .ok t) :
    SameChannels s t := by
  rcases rtspDoPause_cases h with
    ⟨_, address, range, _, _, _, rfl⟩
  exact sameChannels_pausedAt s address range

theorem Worked.sameChannels
    (h : Worked env req s t) :
    SameChannels s t := by
  rcases h with ⟨_, rfl⟩ | ⟨_, _, hPause⟩
  · exact SameChannels.refl _
  · exact rtspDoPause_sameChannels hPause

theorem RangeFixed.sameChannels
    (h : RangeFixed env req s t) :
    SameChannels s t := by
  have hLinks : links t = links s := by
    unfold links
    rw [h.sessions_eq.1]
  rcases h with
    ⟨_, address, range, _, _, rfl⟩ | ⟨_, range, _, rfl⟩
  · exact ⟨rfl, hLinks, rfl, rfl⟩
  · unfold queueRange at hLinks ⊢
    split
    · exact ⟨rfl, rfl, rfl, rfl⟩
    · exact ⟨rfl, rfl, rfl, rfl⟩

theorem NowPlays.sameChannels
    (h : NowPlays env s t) :
    SameChannels s t := by
  rcases h with
    ⟨_, rfl⟩ | ⟨_, ⟨_, rfl⟩ | ⟨_, address, range, _, _, rfl⟩⟩
  · exact SameChannels.refl _
  · exact ⟨rfl, rfl, rfl, rfl⟩
  · refine ⟨rfl, ?_, rfl, rfl⟩
    exact links_map
      (f := rtpSessionResume address range env.time)
      (fun _ => ⟨rfl, rfl⟩) rfl

theorem playChecked_sameChannels
    (h : playChecked env s req = .ok t) :
    SameChannels s t := by
  rcases playChecked_cases h with ⟨u, hWorked, hRest⟩
  apply hWorked.sameChannels.trans
  rcases hRest with ⟨_, hRefused⟩ | ⟨v, hFixed, hRest⟩
  · exact hRefused.untouched.sameChannels
  apply hFixed.sameChannels.trans
  rcases hRest with
    ⟨_, _, hRefused⟩ | ⟨w, hPlays, _, hReplied⟩
  · exact hRefused.untouched.sameChannels
  · apply hPlays.sameChannels.trans
    rcases hReplied with ⟨range, _, rfl⟩
    exact ⟨rfl, rfl, rfl, rfl⟩

end Play

end Feng

------------------------------------------------------------
-- What A Request Does To The Channels
------------------------------------------------------------

namespace Feng

namespace Play

variable {env : Env} {req : RFC822Request} {s t u : Client}

/- A TEARDOWN that ends the session. -/
def TearsDown (s : Client) (req : RFC822Request) : Prop :=
  (∃ v, Reaches s req v) ∧ EndsSession req

/- The channels that a SETUP settles on, if it is accepted. -/
def requestedChannels
    (env : Env)
    (s : Client)
    (req : RFC822Request) : Option (Nat × Nat) :=
  settledChannels env.udpTransport.isSome s.firstFreeChannel
    (offeredTransports env req)

inductive Relinked
    (env : Env)
    (req : RFC822Request)
    (s t : Client) : Prop where
| same :
    t.channels = s.channels → links t = links s →
    ¬ SetsUp s (.request req env) → ¬ TearsDown s req →
      Relinked env req s t
| joined (transport : RTPTransport) :
    SetsUp s (.request req env) → ¬ TearsDown s req →
    links t = links s ++ [(s.nextAddress, transport)] →
    Settled s.nextAddress (requestedChannels env s req) s t
        transport →
      Relinked env req s t
| ended :
    ¬ SetsUp s (.request req env) → TearsDown s req →
    t.channels = s.channels → links t = [] →
      Relinked env req s t

theorem Relinked.of_same
    (hSame : SameChannels s t)
    (hSetup : ¬ SetsUp s (.request req env))
    (hEnd : ¬ TearsDown s req) :
    Relinked env req s t :=
  .same hSame.table hSame.links hSetup hEnd

theorem setsUp_iff
    (h : rtspHandleRequest env s req = .ok t) :
    SetsUp s (.request req env) ↔
      req.methodId = RTSPMethod.setup ∧ Succeeds s t := by
  simp only [SetsUp, h]
  constructor
  · rintro ⟨hMethod, u, hSame, hOk⟩
    cases hSame
    exact ⟨hMethod, hOk⟩
  · rintro ⟨hMethod, hOk⟩
    exact ⟨hMethod, t, rfl, hOk⟩

/- What is done with an accepted SETUP. -/
def Joined
    (env : Env)
    (req : RFC822Request)
    (s t : Client) : Prop :=
  Succeeds s t ∧ ∃ transport,
    links t = links s ++ [(s.nextAddress, transport)] ∧
      Settled s.nextAddress (requestedChannels env s req) s t
        transport

theorem rtspSetup_joined
    (hInv : Inv s)
    (h : rtspSetup env s req = .ok t) :
    (¬ Succeeds s t ∧ SameChannels s t) ∨
      (¬ Succeeds s t ∧ t.channels = s.channels ∧
        links t = links s) ∨
      Joined env req s t := by
  rcases rtspSetup_cases h with
    hRefused | ⟨_, u, hOpened, hRest⟩
  · exact .inl ⟨hRefused.not_succeeds (SameAnswers.refl s),
      hRefused.untouched.sameChannels⟩
  have hSame := hOpened.sameChannels hInv
  rcases hRest with
    hRefused | ⟨next, v, hNext, _, hAllocated, hRest⟩
  · exact .inl ⟨hRefused.not_succeeds hOpened.answers,
      hSame.trans hRefused.untouched.sameChannels⟩
  have hAnswers := hOpened.answers.trans hAllocated.answers
  have hLinks : links v = links u := by
    rcases hAllocated with ⟨free, channels, rfl⟩
    rfl
  rcases hRest with
    ⟨hRefused, hTable⟩ |
      ⟨session, track, hNew, hSettled, hAnswered⟩
  · have hSent := hRefused.untouched.sameChannels
    refine .inr (.inl
      ⟨hRefused.not_succeeds hAnswers, ?_, ?_⟩)
    · rw [hSent.table, hTable, hSame.table]
    · rw [hSent.links, hLinks, hSame.links]
  · have hSent := hAnswered.untouched.sameChannels
    refine .inr (.inr ⟨?_, session.transport, ?_, ?_⟩)
    · have hJoined :
          SameAnswers s (joinSession v next track session) :=
        hAnswers
      exact (hAnswered.succeeds_iff hJoined).mpr rfl
    · rw [hSent.links]
      have hJoinLinks :
          links (joinSession v next track session) =
            links v ++
              [(session.address, session.transport)] := by
        change (v.playback.rtpSessions ++ [session]).map _ = _
        rw [List.map_append]
        rfl
      rw [hJoinLinks, hLinks, hSame.links, hNew.address,
        hSame.next]
    · have hTable :
          t.channels = v.channels := hSent.table
      unfold requestedChannels
      rw [hSame.free, hSame.next] at hSettled
      unfold Settled at hSettled ⊢
      rw [hTable, ← hSame.table]
      exact hSettled

theorem Joined.of_numbered
    {v : Nat}
    (h : Joined env req (numbered s v) t) :
    Joined env req s (finished t) := by
  rcases h with ⟨hOk, transport, hLinks, hSettled⟩
  exact ⟨hOk, transport, hLinks, hSettled⟩

theorem callMethod_relinked
    {v : Nat}
    (hInv : Inv s)
    (hReaches : Reaches s req v)
    (hEnd : ¬ TearsDown s req)
    (h : callMethod env (numbered s v) req = .ok u) :
    (¬ (req.methodId = RTSPMethod.setup ∧
          Succeeds s (finished u)) ∧
        u.channels = s.channels ∧ links u = links s) ∨
      (req.methodId = RTSPMethod.setup ∧
        Joined env req s (finished u)) := by
  have hRefl := SameAnswers.refl (numbered s v)
  rcases callMethod_cases h with
    ⟨hOther, hRefused | hAnswered⟩ | ⟨hMethod, hSetup⟩ |
    ⟨hMethod, hPlay⟩ | ⟨hMethod, hPause⟩ |
    ⟨hMethod, hTeardown⟩
  · have hSame := hRefused.untouched.sameChannels
    refine .inl ⟨?_, hSame.table, hSame.links⟩
    rintro ⟨_, hOk⟩
    exact hRefused.not_succeeds hRefl hOk
  · have hSame := hAnswered.untouched.sameChannels
    refine .inl ⟨?_, hSame.table, hSame.links⟩
    rintro ⟨hSetup, _⟩
    rcases hOther with hOptions | hDescribe
    · rw [hOptions] at hSetup
      cases hSetup
    · rw [hDescribe] at hSetup
      cases hSetup
  · have hInvNumbered : Inv (numbered s v) :=
      hInv.untouched (numbered_untouched s v)
    rcases rtspSetup_joined hInvNumbered hSetup with
      ⟨hNot, hSame⟩ | ⟨hNot, hTable, hLinks⟩ | hJoined
    · exact .inl ⟨fun hBoth => hNot hBoth.2, hSame.table,
        hSame.links⟩
    · exact .inl ⟨fun hBoth => hNot hBoth.2, hTable, hLinks⟩
    · exact .inr ⟨hMethod, hJoined.of_numbered⟩
  · have hNotSetup : req.methodId ≠ RTSPMethod.setup := by
      rw [hMethod]
      decide
    have hSame : SameChannels (numbered s v) u := by
      rcases rtspPlay_cases hPlay with
        hRefused | ⟨_, _, hChecked⟩
      · exact hRefused.untouched.sameChannels
      · exact playChecked_sameChannels hChecked
    exact .inl ⟨fun hBoth => hNotSetup hBoth.1, hSame.table,
      hSame.links⟩
  · have hNotSetup : req.methodId ≠ RTSPMethod.setup := by
      rw [hMethod]
      decide
    have hSame : SameChannels (numbered s v) u := by
      rcases rtspPause_cases hPause with
        hRefused | ⟨_, _, w, hPaused, rfl⟩
      · exact hRefused.untouched.sameChannels
      · exact (rtspDoPause_sameChannels hPaused).trans
          (answered_quick req w 200).untouched.sameChannels
    exact .inl ⟨fun hBoth => hNotSetup hBoth.1, hSame.table,
      hSame.links⟩
  · rcases rtspTeardown_cases hTeardown with
      hRefused | ⟨hPasses, _⟩
    · have hSame := hRefused.untouched.sameChannels
      refine .inl ⟨?_, hSame.table, hSame.links⟩
      rintro ⟨_, hOk⟩
      exact hRefused.not_succeeds hRefl hOk
    · exact absurd ⟨⟨v, hReaches⟩, hMethod, hPasses⟩ hEnd

theorem rtspHandleRequest_tearsDown
    (hEnd : TearsDown s req)
    (h : rtspHandleRequest env s req = .ok t) :
    t.channels = s.channels ∧ links t = [] := by
  rcases hEnd with ⟨⟨v, hReaches⟩, hMethod, hPasses⟩
  rw [rtspHandleRequest_teardown hReaches hMethod hPasses] at h
  cases h
  exact ⟨rfl, rfl⟩

/- What handling a request does to the channels. -/
theorem request_relinked
    (hInv : Inv s)
    (h : rtspHandleRequest env s req = .ok t) :
    Relinked env req s t := by
  by_cases hEnd : TearsDown s req
  · rcases rtspHandleRequest_tearsDown hEnd h with
      ⟨hTable, hLinks⟩
    refine .ended ?_ hEnd hTable hLinks
    rintro ⟨hMethod, _⟩
    rw [hEnd.2.1] at hMethod
    cases hMethod
  have hRefl := SameAnswers.refl s
  rcases rtspHandleRequest_cases h with
    ⟨_, u, hRefused, rfl⟩ | ⟨v, _, _, rfl⟩ |
    ⟨v, u, _, _, hRefused, rfl⟩ |
    ⟨v, u, hReaches, hMethod, rfl⟩
  · refine Relinked.of_same
      (hRefused.untouched.trans
        (finished_untouched u)).sameChannels ?_ hEnd
    rw [setsUp_iff h]
    rintro ⟨_, hOk⟩
    exact hRefused.not_succeeds hRefl hOk
  · refine Relinked.of_same
      (finished_untouched s).sameChannels ?_ hEnd
    rw [setsUp_iff h]
    rintro ⟨_, response, hQueued, _⟩
    simp [Play.finished] at hQueued
  · refine Relinked.of_same
      (((numbered_untouched s v).trans
        hRefused.untouched).trans
        (finished_untouched u)).sameChannels ?_ hEnd
    rw [setsUp_iff h]
    rintro ⟨_, hOk⟩
    exact hRefused.not_succeeds
      (SameAnswers.refl (numbered s v)) hOk
  · rcases callMethod_relinked hInv hReaches hEnd hMethod with
      ⟨hNot, hTable, hLinks⟩ |
        ⟨hSetup, hOk, transport, hLinks, hSettled⟩
    · refine .same hTable hLinks ?_ hEnd
      rw [setsUp_iff h]
      exact hNot
    · exact .joined transport
        ((setsUp_iff h).mpr ⟨hSetup, hOk⟩) hEnd hLinks
        hSettled

end Play

end Feng

------------------------------------------------------------
-- Steps
------------------------------------------------------------

namespace Feng

namespace Play

variable {env : Env} {req : RFC822Request} {s t : Client}
variable {op : Op}

/-
  A SETUP over TCP settles on two channels that are not in
  use, and a TEARDOWN ends no session over TCP.
-/
def ChannelsSpared (s : Client) : Op → Prop
| .request req env =>
    (SetsUp s (.request req env) →
      ∀ rtp rtcp,
        requestedChannels env s req = some (rtp, rtcp) →
          rtp ≠ rtcp ∧ rtp ∉ channelsInUse s ∧
            rtcp ∉ channelsInUse s) ∧
      (TearsDown s req → channelsInUse s = [])
| _ => True

theorem ChannelsKept.of_same
    (h : ChannelsKept s)
    (hTable : t.channels = s.channels)
    (hLinks : links t = links s) :
    ChannelsKept t := by
  have hUse : channelsInUse t = channelsInUse s := by
    unfold channelsInUse
    rw [hLinks]
  have hLive : liveEntries t = liveEntries s := by
    unfold liveEntries
    rw [hLinks]
  refine ⟨?_, ?_, ?_⟩
  · rw [hUse]
    exact h.distinct
  · rw [hUse]
    exact h.bounded
  · rw [hTable, hLive]
    exact h.exact

/- An entry of the table is for a channel that is in use. -/
theorem mem_channelsInUse
    {entry : Nat × Nat}
    (h : entry ∈ liveEntries s) :
    entry.1 ∈ channelsInUse s := by
  rcases List.mem_filterMap.mp h with ⟨link, hLink, hEntry⟩
  apply List.mem_flatMap.mpr
  refine ⟨link, hLink, ?_⟩
  rcases link with ⟨address, transport⟩
  cases transport with
  | udp => cases hEntry
  | tcp rtp rtcp =>
      cases hEntry
      simp [RTPTransport.channels]

theorem channelsInUse_eq_nil
    (hEntries : liveEntries s = []) :
    channelsInUse s = [] := by
  unfold channelsInUse
  rw [List.flatMap_eq_nil_iff]
  intro link hLink
  rcases link with ⟨address, transport⟩
  cases transport with
  | udp => rfl
  | tcp rtp rtcp =>
      have hMem : (rtcp, address) ∈ liveEntries s :=
        List.mem_filterMap.mpr ⟨_, hLink, rfl⟩
      rw [hEntries] at hMem
      cases hMem

/- After a SETUP the channels are kept if they were free. -/
theorem ChannelsKept.joined_iff
    {transport : RTPTransport}
    (hLinks :
      links t = links s ++ [(s.nextAddress, transport)])
    (hSettled :
      Settled s.nextAddress (requestedChannels env s req) s t
        transport)
    (h : ChannelsKept s) :
    ChannelsKept t ↔
      ∀ rtp rtcp,
        requestedChannels env s req = some (rtp, rtcp) →
          rtp ≠ rtcp ∧ rtp ∉ channelsInUse s ∧
            rtcp ∉ channelsInUse s := by
  have hUse :
      channelsInUse t =
        channelsInUse s ++ transport.channels := by
    unfold channelsInUse
    rw [hLinks, List.flatMap_append]
    simp
  have hLive :
      liveEntries t =
        liveEntries s ++
          (linkEntry (s.nextAddress, transport)).toList := by
    unfold liveEntries
    rw [hLinks, List.filterMap_append]
    cases transport with
    | udp => rfl
    | tcp rtp rtcp => rfl
  unfold Settled at hSettled
  cases hChannels : requestedChannels env s req with
  | none =>
      rw [hChannels] at hSettled
      rcases hSettled with ⟨rfl, hTable⟩
      apply iff_of_true
      · refine ⟨?_, ?_, ?_⟩
        · rw [hUse]
          simpa [RTPTransport.channels] using h.distinct
        · rw [hUse]
          simpa [RTPTransport.channels] using h.bounded
        · rw [hTable, hLive]
          simpa [linkEntry] using h.exact
      · intro rtp rtcp hSome
        cases hSome
  | some channels =>
      rcases channels with ⟨rtp, rtcp⟩
      rw [hChannels] at hSettled
      rcases hSettled with ⟨rfl, hRtp, hRtcp, hTable⟩
      have hDistinct :
          (channelsInUse t).Nodup ↔
            rtp ≠ rtcp ∧ rtp ∉ channelsInUse s ∧
              rtcp ∉ channelsInUse s := by
        rw [hUse, List.nodup_append]
        simp only [RTPTransport.channels, h.distinct,
          true_and, List.nodup_cons, List.not_mem_nil,
          not_false_eq_true, List.nodup_nil, and_true,
          List.mem_cons, or_false]
        constructor
        · rintro ⟨hNe, hApart⟩
          refine ⟨hNe, ?_, ?_⟩
          · intro hMem
            exact hApart rtp hMem rtp (.inl rfl) rfl
          · intro hMem
            exact hApart rtcp hMem rtcp (.inr rfl) rfl
        · rintro ⟨hNe, hNotRtp, hNotRtcp⟩
          refine ⟨hNe, ?_⟩
          rintro channel hMem other (rfl | rfl) rfl
          · exact hNotRtp hMem
          · exact hNotRtcp hMem
      constructor
      · intro hKept other other' hSame
        cases hSame
        exact hDistinct.mp hKept.distinct
      · intro hFree
        have hNow := hFree rtp rtcp rfl
        refine ⟨hDistinct.mpr hNow, ?_, ?_⟩
        · intro channel hMem
          rw [hUse] at hMem
          rcases List.mem_append.mp hMem with hOld | hNew
          · exact h.bounded channel hOld
          · simp only [RTPTransport.channels, List.mem_cons,
              List.not_mem_nil, or_false] at hNew
            rcases hNew with rfl | rfl
            · exact hRtp
            · exact hRtcp
        · intro entry
          rw [hTable, hLive]
          simp only [Option.getD_some, mem_insertChannel,
            h.exact, linkEntry, Option.toList_some,
            List.mem_append, List.mem_singleton]
          constructor
          · rintro (⟨hOld, _⟩ | hNew)
            · exact .inl hOld
            · exact .inr hNew
          · rintro (hOld | hNew)
            · refine .inl ⟨hOld, ?_⟩
              intro hClash
              apply hNow.2.2
              rw [← hClash]
              exact mem_channelsInUse hOld
            · exact .inr hNew

/- A TEARDOWN keeps the table, which should be empty then. -/
theorem ChannelsKept.ended_iff
    (hTable : t.channels = s.channels)
    (hLinks : links t = [])
    (h : ChannelsKept s) :
    ChannelsKept t ↔ channelsInUse s = [] := by
  have hUse : channelsInUse t = [] := by
    unfold channelsInUse
    rw [hLinks]
    rfl
  have hLive : liveEntries t = [] := by
    unfold liveEntries
    rw [hLinks]
    rfl
  constructor
  · intro hKept
    apply channelsInUse_eq_nil
    apply List.eq_nil_iff_forall_not_mem.mpr
    intro entry hMem
    have hStale := (hKept.exact entry).mp (by
      rw [hTable]
      exact (h.exact entry).mpr hMem)
    rw [hLive] at hStale
    cases hStale
  · intro hNone
    refine ⟨?_, ?_, ?_⟩
    · rw [hUse]
      exact List.nodup_nil
    · rw [hUse]
      intro channel hMem
      cases hMem
    · intro entry
      rw [hTable, hLive, h.exact entry]
      constructor
      · intro hMem
        have hUsed := mem_channelsInUse hMem
        rw [hNone] at hUsed
        cases hUsed
      · intro hMem
        cases hMem

/- A writer keeps the transport of its session. -/
theorem links_updateSession
    {session next : RTPSession}
    {env : WriterEnv}
    {address : Nat}
    {due : ℚ}
    (hAddressed : Addressed s)
    (hAt : sessionAt s address = some session)
    (hWrite : rtpWriteCb env s session due = .ok next) :
    links (updateSession s next) = links s := by
  have hMem := (sessionAt_mem hAt).1
  have hAddress := (rtpWriteCb_cases hWrite).1
  have hTransport := (rtpWriteCb_keeps hWrite).2.2
  unfold links
  change (s.playback.rtpSessions.map _).map _ = _
  rw [List.map_map]
  apply List.map_congr_left
  intro other hOther
  simp only [Function.comp]
  by_cases hSame : other.address = next.address
  · have hEq : other = session := by
      apply hAddressed.eq_of_address hMem hOther
      exact hSame.trans hAddress
    rw [if_pos hSame, hEq, hAddress, hTransport]
  · rw [if_neg hSame]

/- One step keeps the channels exactly if it spares them. -/
theorem step_channels_iff
    (hInv : Inv s)
    (hAddressed : Addressed s)
    (h : step s op = .ok t)
    (hKept : ChannelsKept s) :
    ChannelsKept t ↔ ChannelsSpared s op := by
  cases op with
  | request req env =>
      cases request_relinked hInv h with
      | same hTable hLinks hSetup hEnd =>
          apply iff_of_true
          · exact hKept.of_same hTable hLinks
          · exact ⟨fun hSets => absurd hSets hSetup,
              fun hTears => absurd hTears hEnd⟩
      | joined transport hSetup hEnd hLinks hSettled =>
          rw [hKept.joined_iff hLinks hSettled]
          constructor
          · intro hFree
            exact ⟨fun _ => hFree,
              fun hTears => absurd hTears hEnd⟩
          · intro hSpared
            exact hSpared.1 hSetup
      | ended hSetup hEnd hTable hLinks =>
          rw [hKept.ended_iff hTable hLinks]
          constructor
          · intro hNone
            exact ⟨fun hSets => absurd hSets hSetup,
              fun _ => hNone⟩
          · intro hSpared
            exact hSpared.2 hEnd
  | write address env =>
      apply iff_of_true _ trivial
      rcases writeStep_cases h with
        rfl | ⟨session, due, next, hAt, _, hWrite, rfl⟩
      · exact hKept
      · exact hKept.of_same rfl
          (links_updateSession hAddressed hAt hWrite)
  | timeout time =>
      apply iff_of_true _ trivial
      rcases step_timeout_cases h with ⟨_, connected, _, rfl⟩
      exact hKept.of_same rfl rfl

end Play

end Feng

------------------------------------------------------------
-- Runs
------------------------------------------------------------

namespace Feng

namespace Play

theorem channelsKept_clientNew : ChannelsKept clientNew where
  distinct := List.nodup_nil
  bounded := by
    intro channel hMem
    cases hMem
  exact := fun _ => Iff.rfl

/-
  In a run the channels are kept throughout exactly if every
  SETUP over TCP settles on channels that are not in use, and
  no TEARDOWN ends a session over TCP.
-/
theorem channels_kept_iff
    {trace : List (Client × Op)}
    {last : Client}
    (hRun : system.Run trace last) :
    System.Always ChannelsKept trace last ↔
      System.Guarded ChannelsSpared trace := by
  have hAlways :
      System.Always (fun s => Inv s ∧ Addressed s) trace
        last := by
    apply (hRun.guarded_always (C := fun _ _ => True) _ _
      (fun _ _ => trivial))
    · rintro s rfl
      exact ⟨inv_clientNew, addressed_clientNew⟩
    · intro s op t hBoth _ hStep
      exact ⟨step_inv hStep.2 hBoth.1,
        step_addressed hStep.2 hBoth.2⟩
  have hIff :
      System.Always
          (fun s => (Inv s ∧ Addressed s) ∧ ChannelsKept s)
          trace last ↔
        System.Guarded ChannelsSpared trace := by
    apply hRun.always_iff_guarded
    · rintro s rfl
      exact ⟨⟨inv_clientNew, addressed_clientNew⟩,
        channelsKept_clientNew⟩
    · intro s op t hAll hSpared hStep
      refine ⟨⟨step_inv hStep.2 hAll.1.1,
        step_addressed hStep.2 hAll.1.2⟩, ?_⟩
      exact (step_channels_iff hAll.1.1 hAll.1.2 hStep.2
        hAll.2).mpr hSpared
    · intro s op t hAll hNot hStep hAfter
      exact hNot ((step_channels_iff hAll.1.1 hAll.1.2
        hStep.2 hAll.2).mp hAfter.2)
  rw [← hIff, System.always_and]
  exact ⟨fun hKept => ⟨hAlways, hKept⟩, fun hBoth => hBoth.2⟩

theorem channels_kept_iff_sample :
    System.Always ChannelsKept
        (System.replayTrace step clientNew setupOps)
        (System.replayEnd step clientNew setupOps) ↔
      System.Guarded ChannelsSpared
        (System.replayTrace step clientNew setupOps) :=
  channels_kept_iff
    (System.replay_run (by decide +kernel)
      (by decide +kernel))

/- A client that asks for these channels. -/
def channelsEnv (rtp rtcp : Nat) : Env :=
  { sampleEnv 1000 with
    parseTransport := fun _ => [⟨.tcp, some rtp, some rtcp⟩] }

/- Channels 1 and 2 are asked for, and then chosen again. -/
theorem channels_clash :
    ∃ trace last, system.Run trace last ∧
      channelsInUse last = [1, 2, 1, 2] ∧
      last.channels = some [(2, 1)] ∧
      liveEntries last = [(2, 0), (2, 1)] ∧
      ¬ ChannelsKept last := by
  have hRun :
      system.Run
        (System.replayTrace step clientNew
          [.request (sampleRequest RTSPMethod.setup 1)
              (channelsEnv 1 2),
            .request (sampleRequest RTSPMethod.setup 2)
              (sampleEnv 1001)])
        (System.replayEnd step clientNew
          [.request (sampleRequest RTSPMethod.setup 1)
              (channelsEnv 1 2),
            .request (sampleRequest RTSPMethod.setup 2)
              (sampleEnv 1001)]) :=
    System.replay_run (by decide +kernel) (by decide +kernel)
  refine ⟨_, _, hRun, by decide +kernel, by decide +kernel,
    by decide +kernel, ?_⟩
  intro hKept
  exact absurd hKept.distinct (by decide +kernel)

end Play

end Feng
