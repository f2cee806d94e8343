import Mathlib.Data.List.Chain
import Mathlib.Tactic.Linarith
import Feng.Play.Head

/-
  The RTP timestamps of the packets that a session sends.

  PAUSE moves the begin of the head range, and a PLAY that
  resumes adds the seconds since the last packet to
  `start_rtptime`. Timestamps go on where they were as long
  as the second makes up for the first.

  Key definitions include:
    * `Play.Op.time`
    * `Play.CoversGap`
    * `Play.Steady`

  Key theorems include:
    * `Play.rtptime_mod`
    * `Play.truncate_le`
    * `Play.rtptimes_ascend`
-/

------------------------------------------------------------
-- Arithmetic Of Timestamps
------------------------------------------------------------

namespace Feng

namespace Play

/- Truncation keeps the order, also behind whole numbers. -/
theorem truncate_le
    {x y : ℚ}
    {n : ℤ}
    (hNonneg : 0 ≤ n)
    (h : x ≤ y + n) :
    truncate x ≤ truncate y + n := by
  unfold truncate
  by_cases hY : 0 ≤ y
  · rw [if_pos hY, ← Int.floor_add_intCast]
    by_cases hX : 0 ≤ x
    · rw [if_pos hX]
      exact Int.floor_le_floor h
    · rw [if_neg hX]
      have hUp : ⌈x⌉ ≤ 0 :=
        Int.ceil_le.mpr (by simpa using (not_le.mp hX).le)
      have hDown : 0 ≤ ⌊y + n⌋ := by
        apply Int.floor_nonneg.mpr
        exact add_nonneg hY (by exact_mod_cast hNonneg)
      exact hUp.trans hDown
  · rw [if_neg hY, ← Int.ceil_add_intCast]
    by_cases hX : 0 ≤ x
    · rw [if_pos hX]
      exact (Int.floor_le_ceil x).trans (Int.ceil_le_ceil h)
    · rw [if_neg hX]
      exact Int.ceil_le_ceil h

/- The timestamp that is sent is this one modulo 2^32. -/
theorem rtptime_mod
    {sender : Feng.RTPSession}
    {session : RTPSession}
    (hStart :
      (sender.startRtptime : ℤ) =
        session.startRtptime % 2 ^ 32)
    (buffer : MParserBuffer) :
    (Feng.rtptime sender session.properties.clockRate
        buffer : ℤ) =
      rtptime session sender.range buffer.timestamp %
        2 ^ 32 := by
  have hTruncated :
      (doubleToUInt32
          ((buffer.timestamp - sender.range.beginTime) *
            session.properties.clockRate) : ℤ) =
        truncate
            ((buffer.timestamp - sender.range.beginTime) *
              session.properties.clockRate) %
          2 ^ 32 := by
    unfold doubleToUInt32 truncate
    exact Int.toNat_of_nonneg (by omega)
  unfold Feng.rtptime rtptime
  push_cast
  rw [hStart, hTruncated]
  omega

end Play

end Feng

------------------------------------------------------------
-- What A Writer Sends
------------------------------------------------------------

namespace Feng

namespace Play

variable {s t : Client} {session next : RTPSession}
variable {env : WriterEnv} {due : ℚ}

/- The writer is left or stopped, and nothing is sent. -/
structure WriterLeft (session next : RTPSession) : Prop where
  packets : next.packets = session.packets
  startRtptime : next.startRtptime = session.startRtptime
  lastPacketSendTime :
    next.lastPacketSendTime = session.lastPacketSendTime
  properties : next.properties = session.properties

/- A packet is sent with what the buffer holds. -/
structure PacketSent
    (env : WriterEnv)
    (session next : RTPSession)
    (range : RTSPRange)
    (buffer : MParserBuffer) : Prop where
  packets :
    next.packets =
      session.packets ++
        [{ rtptime := rtptime session range buffer.timestamp
           timestamp := buffer.timestamp
           beginTime := range.beginTime
           time := env.time }]
  startRtptime : next.startRtptime = session.startRtptime
  lastPacketSendTime : next.lastPacketSendTime = env.time
  properties : next.properties = session.properties

/- The packet is taken from the buffer, and gets sent. -/
def Sends (env : WriterEnv) (buffer : MParserBuffer) : Prop :=
  env.stopped = false ∧ env.buffer = some buffer ∧
    env.sent = true

theorem rtpWriteCb_sends
    (h : rtpWriteCb env s session due = .ok next) :
    WriterLeft session next ∨
      ∃ buffer range, Sends env buffer ∧
        s.deref session.range = .ok range ∧
        PacketSent env session next range buffer := by
  unfold rtpWriteCb at h
  split at h
  · split at h
    · cases h
    · cases h
      exact .inl ⟨rfl, rfl, rfl, rfl⟩
  · rename_i hStopped
    split at h
    · split at h
      · split at h
        · cases h
        · cases h
          exact .inl ⟨rfl, rfl, rfl, rfl⟩
      · cases h
        exact .inl ⟨rfl, rfl, rfl, rfl⟩
    · rename_i buffer hBuffer
      split at h
      · cases h
      · rename_i range hRange
        cases h
        unfold rtpPacketSend
        by_cases hSent : env.sent = true
        · rw [if_pos hSent]
          refine .inr ⟨buffer, range,
            ⟨by simpa using hStopped, hBuffer, hSent⟩, hRange,
            ?_⟩
          exact ⟨rfl, rfl, rfl, rfl⟩
        · rw [if_neg hSent]
          exact .inl ⟨rfl, rfl, rfl, rfl⟩

end Play

end Feng

------------------------------------------------------------
-- Steady Sessions
------------------------------------------------------------

namespace Feng

namespace Play

variable {s t : Client} {session next : RTPSession}
variable {p : SentPacket} {time later : Nat}

/-
  What there is to know of the last packet of a session: how
  far `start_rtptime` has come since it was sent, and that it
  came at least as far as the begin of the range that the
  writer uses.
-/
structure LastSent
    (s : Client)
    (time : Nat)
    (session : RTPSession)
    (p : SentPacket) : Prop where
  resumed : p.time ≤ session.lastPacketSendTime
  past : p.time ≤ time
  rtptime :
    p.rtptime +
        ((session.lastPacketSendTime : ℤ) - p.time) *
          session.properties.clockRate =
      session.startRtptime +
        truncate
          ((p.timestamp - p.beginTime) *
            session.properties.clockRate)
  covered :
    session.rtpWriter ≠ none →
      ∀ range, head s = some range →
        range.beginTime - p.beginTime ≤
          (session.lastPacketSendTime : ℚ) - p.time

/- Timestamps did not run backwards, and will not. -/
structure Steady
    (s : Client)
    (time : Nat)
    (session : RTPSession) : Prop where
  ascends :
    session.packets.IsChain
      (fun p q => p.rtptime ≤ q.rtptime)
  last :
    ∀ p ∈ session.packets.getLast?,
      LastSent s time session p

theorem Steady.of_nil
    (h : session.packets = []) :
    Steady s time session := by
  constructor
  · rw [h]
    exact List.IsChain.nil
  · rw [h]
    intro p hMem
    cases hMem

/- What matters of a session is kept, and its writer stops. -/
theorem Steady.of_left
    (hTime : time ≤ later)
    (hLeft : WriterLeft session next)
    (hCovered :
      next.rtpWriter ≠ none →
        session.rtpWriter ≠ none ∧
          (head t).map RTSPRange.beginTime =
            (head s).map RTSPRange.beginTime)
    (h : Steady s time session) :
    Steady t later next := by
  constructor
  · rw [hLeft.packets]
    exact h.ascends
  · intro p hMem
    rw [hLeft.packets] at hMem
    have hLast := h.last p hMem
    refine ⟨?_, hLast.past.trans hTime, ?_, ?_⟩
    · rw [hLeft.lastPacketSendTime]
      exact hLast.resumed
    · rw [hLeft.lastPacketSendTime, hLeft.startRtptime,
        hLeft.properties]
      exact hLast.rtptime
    · intro hArmed range hHead
      rcases hCovered hArmed with ⟨hWas, hSame⟩
      rw [hHead] at hSame
      rcases Option.map_eq_some_iff.mp hSame.symm with
        ⟨old, hOld, hBegin⟩
      rw [← hBegin, hLeft.lastPacketSendTime]
      exact hLast.covered hWas old hOld

/- A packet whose media time is not behind that of the last. -/
theorem Steady.sent
    {env : WriterEnv}
    {range : RTSPRange}
    {buffer : MParserBuffer}
    (hArmed : session.rtpWriter ≠ none)
    (hHead : head s = some range)
    (hMedia :
      ∀ p ∈ session.packets.getLast?,
        p.timestamp ≤ buffer.timestamp)
    (hSent : PacketSent env session next range buffer)
    (h : Steady s time session)
    (hSame : head t = head s) :
    Steady t env.time next := by
  constructor
  · rw [hSent.packets, List.isChain_append]
    refine ⟨h.ascends, List.IsChain.singleton _, ?_⟩
    intro p hMem q hNew
    have hNew : q = _ := (Option.some.inj hNew).symm
    subst hNew
    have hLast := h.last p hMem
    have hCovered := hLast.covered hArmed range hHead
    have hOrder := hMedia p hMem
    have hResumed :
        (0 : ℤ) ≤
          (session.lastPacketSendTime : ℤ) - p.time := by
      have hLe := hLast.resumed
      omega
    have hBound :
        (p.timestamp - p.beginTime) *
            session.properties.clockRate ≤
          (buffer.timestamp - range.beginTime) *
              session.properties.clockRate +
            ((((session.lastPacketSendTime : ℤ) - p.time) *
              session.properties.clockRate : ℤ) : ℚ) := by
      push_cast
      rw [← add_mul]
      apply mul_le_mul_of_nonneg_right _ (Nat.cast_nonneg _)
      linarith
    have hTruncated :=
      truncate_le
        (mul_nonneg hResumed (Int.natCast_nonneg _)) hBound
    have hWas := hLast.rtptime
    change p.rtptime ≤ rtptime session range buffer.timestamp
    unfold rtptime
    linarith
  · rw [hSent.packets]
    intro p hMem
    rw [List.getLast?_concat, Option.mem_some_iff] at hMem
    subst hMem
    refine ⟨?_, le_refl _, ?_, ?_⟩
    · rw [hSent.lastPacketSendTime]
    · rw [hSent.lastPacketSendTime, hSent.startRtptime,
        hSent.properties]
      simp [rtptime]
    · intro _ other hOther
      rw [hSame, hHead] at hOther
      cases hOther
      rw [hSent.lastPacketSendTime]
      simp

/-
  A session that is resumed: the seconds since its last packet
  make up for what its range begins later.
-/
theorem Steady.resumed
    {range : RTSPRange}
    (address : Nat)
    (hTime : time ≤ later)
    (hHead : head t = some range)
    (hCovers :
      ∀ p ∈ session.packets.getLast?,
        range.beginTime - p.beginTime ≤ (later : ℚ) - p.time)
    (h : Steady s time session) :
    Steady t later
      (rtpSessionResume address range later session) := by
  constructor
  · exact h.ascends
  · intro p hMem
    have hLast := h.last p hMem
    have hPast := hLast.past.trans hTime
    refine ⟨hPast, hPast, ?_, ?_⟩
    · have hWas := hLast.rtptime
      unfold rtpSessionResume
      simp only
      linarith
    · intro _ other hOther
      rw [hHead] at hOther
      cases hOther
      exact hCovers p hMem

end Play

end Feng

------------------------------------------------------------
-- Requests
------------------------------------------------------------

namespace Feng

namespace Play

variable {env : Env} {req : RFC822Request} {s t u : Client}
variable {time later : Nat} {range : RTSPRange}

/- Packets were sent by sessions that were there before. -/
def Inherits (s t : Client) : Prop :=
  ∀ session ∈ t.playback.rtpSessions,
    session.packets = [] ∨
      ∃ old ∈ s.playback.rtpSessions,
        old.packets = session.packets

theorem Inherits.trans
    (hFirst : Inherits s t)
    (hSecond : Inherits t u) :
    Inherits s u := by
  intro session hMem
  rcases hSecond session hMem with hNil | ⟨old, hOld, hSame⟩
  · exact .inl hNil
  rcases hFirst old hOld with hNil | ⟨older, hOlder, hEq⟩
  · exact .inl (hSame.symm.trans hNil)
  · exact .inr ⟨older, hOlder, hEq.trans hSame⟩

theorem Inherits.of_map
    {f : RTPSession → RTPSession}
    (hPackets : ∀ session, (f session).packets = session.packets)
    (h :
      t.playback.rtpSessions = s.playback.rtpSessions.map f) :
    Inherits s t := by
  intro session hMem
  rw [h] at hMem
  rcases List.mem_map.mp hMem with ⟨old, hOld, rfl⟩
  exact .inr ⟨old, hOld, (hPackets old).symm⟩

theorem Inherits.of_eq
    (h : t.playback.rtpSessions = s.playback.rtpSessions) :
    Inherits s t := by
  intro session hMem
  rw [h] at hMem
  exact .inr ⟨session, hMem, rfl⟩

theorem Around.inherits
    (h : Around s t) :
    Inherits s t := by
  intro session hMem
  rcases h.sessions session hMem with hOld | ⟨_, hNew⟩
  · exact .inr ⟨session, hOld, rfl⟩
  · exact .inl hNew.packets

theorem Worked.inherits
    (h : Worked env req s t) :
    Inherits s t := by
  rcases h with ⟨_, rfl⟩ | ⟨_, _, hPause⟩
  · exact Inherits.of_eq rfl
  · rcases rtspDoPause_cases hPause with
      ⟨_, address, range, _, _, _, rfl⟩
    exact Inherits.of_map (f := rtpSessionPause)
      (fun _ => rfl) rfl

theorem NowPlays.inherits
    (h : NowPlays env s t) :
    Inherits s t := by
  rcases h with
    ⟨_, rfl⟩ | ⟨_, ⟨_, rfl⟩ | ⟨_, address, range, _, _, rfl⟩⟩
  · exact Inherits.of_eq rfl
  · exact Inherits.of_eq rfl
  · exact Inherits.of_map
      (f := rtpSessionResume address range env.time)
      (fun _ => rfl) rfl

theorem Played.inherits
    (h : Played env req s t) :
    Inherits s t := by
  rcases h with ⟨u, hWorked, hRest⟩
  apply hWorked.inherits.trans
  rcases hRest with ⟨_, hAround⟩ | ⟨v, hFixed, hRest⟩
  · exact hAround.inherits
  apply (Inherits.of_eq hFixed.sessions_eq.1).trans
  rcases hRest with hAround | ⟨w, hPlays, _, hAround⟩
  · exact hAround.inherits
  · exact hPlays.inherits.trans hAround.inherits

/- All sessions are steady, and have their range if they sent. -/
structure Sound (time : Nat) (s : Client) : Prop where
  steady :
    ∀ session ∈ s.playback.rtpSessions, Steady s time session
  headed :
    ∀ session ∈ s.playback.rtpSessions,
      session.packets ≠ [] → head s ≠ none

/- No session has sent a packet. -/
def Silent (s : Client) : Prop :=
  ∀ session ∈ s.playback.rtpSessions, session.packets = []

theorem Silent.inherited
    (h : Inherits s t)
    (hSilent : Silent s) :
    Silent t := by
  intro session hMem
  rcases h session hMem with hNil | ⟨old, hOld, hSame⟩
  · exact hNil
  · rw [← hSame]
    exact hSilent old hOld

theorem Silent.sound
    (h : Silent s) :
    Sound time s where
  steady := fun session hMem => Steady.of_nil (h session hMem)
  headed := fun session hMem hSent =>
    absurd (h session hMem) hSent

/- The range may change, but for where it begins. -/
theorem Sound.of_eq
    (hTime : time ≤ later)
    (hSessions :
      t.playback.rtpSessions = s.playback.rtpSessions)
    (hHead :
      (head t).map RTSPRange.beginTime =
        (head s).map RTSPRange.beginTime)
    (h : Sound time s) :
    Sound later t where
  steady := by
    intro session hMem
    rw [hSessions] at hMem
    exact (h.steady session hMem).of_left hTime
      ⟨rfl, rfl, rfl, rfl⟩ (fun hArmed => ⟨hArmed, hHead⟩)
  headed := by
    intro session hMem hSent hNone
    rw [hSessions] at hMem
    apply h.headed session hMem hSent
    rw [hNone] at hHead
    exact Option.map_eq_none_iff.mp hHead.symm

theorem Sound.around
    (hTime : time ≤ later)
    (hAround : Around s t)
    (h : Sound time s) :
    Sound later t where
  steady := by
    intro session hMem
    rcases hAround.sessions session hMem with
      hOld | ⟨_, hNew⟩
    · apply (h.steady session hOld).of_left hTime
        ⟨rfl, rfl, rfl, rfl⟩
      intro hArmed
      exact ⟨hArmed, by rw [hAround.head_eq]⟩
    · exact Steady.of_nil hNew.packets
  headed := by
    intro session hMem hSent
    rw [hAround.head_eq]
    rcases hAround.sessions session hMem with
      hOld | ⟨_, hNew⟩
    · exact h.headed session hOld hSent
    · exact absurd hNew.packets hSent

theorem Sound.pausedAt
    {now : ℚ}
    {address : Nat}
    (hTime : time ≤ later)
    (hHead : s.headRange = some address)
    (hRange : s.rangeAt address = some range)
    (h : Sound time s) :
    Sound later (pausedAt now s address range) where
  steady := by
    intro session hMem
    rcases List.mem_map.mp hMem with ⟨old, hOld, rfl⟩
    have hLeft : WriterLeft old (rtpSessionPause old) :=
      ⟨rfl, rfl, rfl, rfl⟩
    apply (h.steady old hOld).of_left hTime hLeft
    intro hArmed
    exact absurd rfl hArmed
  headed := by
    intro session _ _
    rw [head_pausedAt hHead hRange]
    exact Option.some_ne_none _

theorem Sound.worked
    (hTime : time ≤ later)
    (hWorked : Worked env req s t)
    (h : Sound time s) :
    Sound later t := by
  rcases hWorked with ⟨_, rfl⟩ | ⟨_, _, hPause⟩
  · exact h.of_eq hTime rfl rfl
  · rcases rtspDoPause_cases hPause with
      ⟨_, address, range, _, hHead, hRange, rfl⟩
    exact h.pausedAt hTime hHead hRange

theorem Sound.plays
    (hHead : head s = some range)
    (hCovers :
      s.curState ≠ .playing →
        ∀ session ∈ s.playback.rtpSessions,
          ∀ p ∈ session.packets.getLast?,
            range.beginTime - p.beginTime ≤
              (env.time : ℚ) - p.time)
    (hPlays : NowPlays env s t)
    (h : Sound env.time s) :
    Sound env.time t := by
  have hHeadT : head t = some range := by
    rw [hPlays.head_eq]
    exact hHead
  refine ⟨?_, ?_⟩
  · rcases hPlays with
      ⟨_, rfl⟩ | ⟨hState, ⟨_, rfl⟩ |
        ⟨_, address, other, hAt, hOther, rfl⟩⟩
    · exact h.steady
    · intro session hMem
      have hSame :
          (head (s.setState .playing)).map
              RTSPRange.beginTime =
            (head s).map RTSPRange.beginTime := rfl
      exact (h.steady session hMem).of_left (le_refl _)
        ⟨rfl, rfl, rfl, rfl⟩ (fun hArmed => ⟨hArmed, hSame⟩)
    · intro session hMem
      have hFound : head s = some other :=
        head_eq_some.mpr ⟨address, hAt, hOther⟩
      rw [hHead] at hFound
      cases hFound
      rcases List.mem_map.mp hMem with ⟨old, hOld, rfl⟩
      exact (h.steady old hOld).resumed address (le_refl _)
        hHeadT (hCovers hState old hOld)
  · intro session _ _
    rw [hHeadT]
    exact Option.some_ne_none range

end Play

end Feng

------------------------------------------------------------
-- Guards On The Steps
------------------------------------------------------------

namespace Feng

namespace Play

/- `time(NULL)` at a step. -/
def Op.time : Op → Nat
| .request _ env => env.time
| .write _ env => env.time
| .timeout time => time

/- The clock does not go back. -/
def Clocked (trace : List (Client × Op)) : Prop :=
  (trace.map (fun x => x.2.time)).Pairwise (· ≤ ·)

instance decidableClocked (trace : List (Client × Op)) :
    Decidable (Clocked trace) :=
  inferInstanceAs
    (Decidable
      ((trace.map (fun x => x.2.time)).Pairwise (· ≤ ·)))

/- The media time of a packet is not behind the last one's. -/
def MediaAscends (s : Client) : Op → Prop
| .write address env =>
    ∀ session ∈ sessionAt s address,
      ∀ buffer ∈ env.buffer, Sends env buffer →
        ∀ p ∈ session.packets.getLast?,
          p.timestamp ≤ buffer.timestamp
| _ => True

/- No PLAY asks for a range once packets were sent. -/
def KeepsRange (s : Client) : Op → Prop
| .request req _ =>
    req.methodId = RTSPMethod.play → ¬ Silent s →
      rfc822HeadersLookup req.headers .range = none
| _ => True

/- A PLAY resumes a session that is at a point of its range. -/
structure ResumesFrom
    (env : Env)
    (req : RFC822Request)
    (s : Client)
    (point : ℚ) : Prop where
  passes : PlayPasses s req
  paused : s.curState = .playing → vlcUserAgent req = true
  seeks : ¬ (env.seekable = true ∧ env.seekFails point = true)

/-
  When a session is resumed, at least as many seconds have
  passed since the last packet of an RTP session as the range
  now begins later than it did for that packet.
-/
def CoversGap (s : Client) : Op → Prop
| .request req env =>
    ∀ point ∈ (head s).map (pausePoint env.evNow s),
      ResumesFrom env req s point →
        ∀ session ∈ s.playback.rtpSessions,
          ∀ p ∈ session.packets.getLast?,
            point - p.beginTime ≤ (env.time : ℚ) - p.time
| _ => True

instance decidableMediaAscends
    (s : Client) :
    (op : Op) → Decidable (MediaAscends s op)
| .request _ _ => isTrue trivial
| .write address env =>
    inferInstanceAs
      (Decidable
        (∀ session ∈ sessionAt s address,
          ∀ buffer ∈ env.buffer,
            (env.stopped = false ∧ env.buffer = some buffer ∧
              env.sent = true) →
            ∀ p ∈ session.packets.getLast?,
              p.timestamp ≤ buffer.timestamp))
| .timeout _ => isTrue trivial

instance decidableKeepsRange
    (s : Client) :
    (op : Op) → Decidable (KeepsRange s op)
| .request req _ =>
    inferInstanceAs
      (Decidable
        (req.methodId = RTSPMethod.play →
          ¬ (∀ session ∈ s.playback.rtpSessions,
            session.packets = []) →
          rfc822HeadersLookup req.headers .range = none))
| .write _ _ => isTrue trivial
| .timeout _ => isTrue trivial

instance decidableResumesFrom
    (env : Env)
    (req : RFC822Request)
    (s : Client)
    (point : ℚ) :
    Decidable (ResumesFrom env req s point) :=
  decidable_of_iff
    (PlayPasses s req ∧
      (s.curState = .playing → vlcUserAgent req = true) ∧
      ¬ (env.seekable = true ∧ env.seekFails point = true))
    ⟨fun ⟨hPasses, hPaused, hSeeks⟩ =>
        ⟨hPasses, hPaused, hSeeks⟩,
      fun h => ⟨h.passes, h.paused, h.seeks⟩⟩

instance decidableCoversGap
    (s : Client) :
    (op : Op) → Decidable (CoversGap s op)
| .request req env =>
    inferInstanceAs
      (Decidable
        (∀ point ∈ (head s).map (pausePoint env.evNow s),
          ResumesFrom env req s point →
            ∀ session ∈ s.playback.rtpSessions,
              ∀ p ∈ session.packets.getLast?,
                point - p.beginTime ≤
                  (env.time : ℚ) - p.time))
| .write _ _ => isTrue trivial
| .timeout _ => isTrue trivial

end Play

end Feng

------------------------------------------------------------
-- Guarded Steps
------------------------------------------------------------

namespace Feng

namespace Play

variable {env : Env} {req : RFC822Request} {s t u : Client}
variable {time : Nat} {range : RTSPRange}

/- Behind the checks of a PLAY that covers the gap. -/
theorem Sound.played
    (hTime : time ≤ env.time)
    (hPasses : PlayPasses s req)
    (hHeader :
      rfc822HeadersLookup req.headers .range = none)
    (hHead : head s = some range)
    (hCovers : CoversGap s (.request req env))
    (hSame : Untouched s u)
    (hPlayed : Played env req u t)
    (h : Sound time s) :
    Sound env.time t := by
  have hSoundU : Sound env.time u :=
    h.around hTime hSame.around
  have hHeadU : head u = some range := by
    rw [hSame.around.head_eq]
    exact hHead
  rcases hPlayed with ⟨v, hWorked, hRest⟩
  have hSoundV := hSoundU.worked (le_refl _) hWorked
  rcases hWorked.pausePoint_eq hHeadU with
    ⟨worked, hHeadV, hPoint, hStill⟩
  rw [hSame.around.pausePoint_eq] at hPoint
  rcases hRest with ⟨_, hAround⟩ | ⟨w, hFixed, hRest⟩
  · exact hSoundV.around (le_refl _) hAround
  have hHeadW := hFixed.head_eq hHeadV hHeader
  have hBegin :
      (head w).map RTSPRange.beginTime =
        (head v).map RTSPRange.beginTime := by
    rw [hHeadW, hHeadV]
    rfl
  have hSoundW :=
    hSoundV.of_eq (le_refl _) hFixed.sessions_eq.1 hBegin
  rcases hRest with hAround | ⟨x, hPlays, hSeeks, hAround⟩
  · exact hSoundW.around (le_refl _) hAround
  refine Sound.around (le_refl _) hAround
    (hSoundW.plays hHeadW ?_ hPlays)
  -- The range begins at the point where the session was.
  intro hState session hMem p hLast
  have hStateV : v.curState ≠ .playing := by
    rw [← hFixed.curState_eq]
    exact hState
  have hWorkedBegin :
      worked.beginTime = pausePoint env.evNow s range := by
    rw [← hPoint, pausePoint_paused _ _ hStateV]
  have hResumes :
      ResumesFrom env req s
        (pausePoint env.evNow s range) := by
    refine ⟨hPasses, ?_, ?_⟩
    · intro hPlaying
      rcases hWorked with ⟨hNot, rfl⟩ | ⟨_, hVlc, _⟩
      · rw [hSame.curState_eq] at hStateV
        exact absurd hPlaying hStateV
      · exact hVlc
    · rintro ⟨hSeekable, hFails⟩
      apply hSeeks hState
      rcases head_eq_some.mp hHeadW with
        ⟨address, hAddress, hRange⟩
      refine ⟨hSeekable, _,
        deref_eq_ok.mpr ⟨address, hAddress, hRange⟩, ?_⟩
      rw [← hWorkedBegin] at hFails
      exact hFails
  rw [hFixed.sessions_eq.1] at hMem
  rcases (hSame.around.inherits.trans hWorked.inherits)
    session hMem with hNil | ⟨old, hOld, hPackets⟩
  · rw [hNil] at hLast
    cases hLast
  · rw [← hPackets] at hLast
    change worked.beginTime - p.beginTime ≤ _
    rw [hWorkedBegin]
    have hPointS :
        pausePoint env.evNow s range ∈
          (head s).map (pausePoint env.evNow s) := by
      rw [hHead]
      exact rfl
    exact hCovers _ hPointS hResumes old hOld p hLast

theorem request_sound
    (hTime : time ≤ env.time)
    (hInv : Inv s)
    (hKeeps : KeepsRange s (.request req env))
    (hCovers : CoversGap s (.request req env))
    (h : rtspHandleRequest env s req = .ok t)
    (hSound : Sound time s) :
    Sound env.time t := by
  cases request_moves hInv h with
  | around hAround _ => exact hSound.around hTime hAround
  | paused address range _ _ hHead hRange hAround =>
      exact Sound.around (le_refl _) hAround
        (hSound.pausedAt hTime hHead hRange)
  | ended _ hPlayback _ =>
      apply Silent.sound
      intro session hMem
      rw [hPlayback] at hMem
      cases hMem
  | played u hPasses hSame hPlayed =>
      by_cases hSilent : Silent s
      · apply Silent.sound
        exact hSilent.inherited
          (hSame.around.inherits.trans hPlayed.inherits)
      · have hHeader := hKeeps hPasses.method hSilent
        have hHead : head s ≠ none := by
          intro hNone
          apply hSilent
          intro session hMem
          by_contra hSent
          exact hSound.headed session hMem hSent hNone
        rcases Option.ne_none_iff_exists'.mp hHead with
          ⟨range, hRange⟩
        exact hSound.played hTime hPasses hHeader hRange
          hCovers hSame hPlayed

end Play

end Feng

------------------------------------------------------------
-- Runs
------------------------------------------------------------

namespace Feng

namespace Play

variable {s t : Client} {trace : List (Client × Op)}
variable {op : Op} {time bound : Nat}

theorem Sound.later
    (hTime : time ≤ bound)
    (h : Sound time s) :
    Sound bound s :=
  h.of_eq hTime rfl rfl

theorem Clocked.of_snoc
    (h : Clocked (trace ++ [(s, op)])) :
    Clocked trace := by
  unfold Clocked at h ⊢
  rw [List.map_append] at h
  exact (List.pairwise_append.mp h).1

theorem Clocked.le_last
    (h : Clocked (trace ++ [(s, op)])) :
    ∀ x ∈ trace ++ [(s, op)], x.2.time ≤ op.time := by
  intro x hMem
  unfold Clocked at h
  rw [List.map_append] at h
  rcases List.mem_append.mp hMem with hOld | hLast
  · apply (List.pairwise_append.mp h).2.2 _
      (List.mem_map_of_mem hOld)
    exact List.mem_singleton_self _
  · cases List.mem_singleton.mp hLast
    exact le_refl _

/- A writer sends a packet behind the last one, or none. -/
theorem write_sound
    {env : WriterEnv}
    {address : Nat}
    (hTime : time ≤ env.time)
    (hInv : Inv s)
    (hMedia : MediaAscends s (.write address env))
    (h : writeStep env s address = .ok t)
    (hSound : Sound time s) :
    Sound env.time t := by
  rcases writeStep_cases h with
    rfl | ⟨session, due, next, hAt, hDue, hWrite, rfl⟩
  · exact hSound.later hTime
  have hMem := (sessionAt_mem hAt).1
  have hSteady := hSound.steady session hMem
  have hArmed : session.rtpWriter ≠ none := by
    rw [hDue]
    exact Option.some_ne_none due
  have hRange := (hInv.armed session hMem hArmed).2
  have hNext :
      Steady (updateSession s next) env.time next ∧
        (next.packets ≠ [] → head s ≠ none) := by
    rcases rtpWriteCb_sends hWrite with
      hLeft | ⟨buffer, range, hSends, hDeref, hSent⟩
    · constructor
      · apply hSteady.of_left hTime hLeft
        intro _
        exact ⟨hArmed, rfl⟩
      · intro hPackets
        rw [hLeft.packets] at hPackets
        exact hSound.headed session hMem hPackets
    · have hHead : head s = some range := by
        rw [hRange] at hDeref
        exact head_eq_some.mpr (deref_eq_ok.mp hDeref)
      constructor
      · have hBehind :=
          hMedia session hAt buffer hSends.2.1 hSends
        have hSame : head (updateSession s next) = head s := rfl
        exact hSteady.sent hArmed hHead hBehind hSent
          hSame
      · intro _
        rw [hHead]
        exact Option.some_ne_none range
  constructor
  · intro other hOther
    rcases mem_updateSession hOther with rfl | hOld
    · exact hNext.1
    · apply (hSound.steady other hOld).of_left hTime
        ⟨rfl, rfl, rfl, rfl⟩
      intro hWas
      exact ⟨hWas, rfl⟩
  · intro other hOther hPackets
    rcases mem_updateSession hOther with rfl | hOld
    · exact hNext.2 hPackets
    · exact hSound.headed other hOld hPackets

theorem step_sound
    (hTime : time ≤ op.time)
    (hInv : Inv s)
    (hMedia : MediaAscends s op)
    (hKeeps : KeepsRange s op)
    (hCovers : CoversGap s op)
    (h : step s op = .ok t)
    (hSound : Sound time s) :
    Sound op.time t := by
  cases op with
  | request req env =>
      exact request_sound hTime hInv hKeeps hCovers h hSound
  | write address env =>
      exact write_sound hTime hInv hMedia h hSound
  | timeout time =>
      rcases step_timeout_cases h with ⟨_, connected, _, rfl⟩
      refine ⟨?_, hSound.headed⟩
      intro session hMem
      have hSteady := hSound.steady session hMem
      exact hSteady.of_left (s := s) hTime
        ⟨rfl, rfl, rfl, rfl⟩ (fun hArmed => ⟨hArmed, rfl⟩)

theorem run_sound
    (hRun : system.Run trace s)
    (hClocked : Clocked trace)
    (hMedia : System.Guarded MediaAscends trace)
    (hKeeps : System.Guarded KeepsRange trace)
    (hCovers : System.Guarded CoversGap trace)
    (hBound : ∀ x ∈ trace, x.2.time ≤ bound) :
    Sound bound s := by
  induction hRun generalizing bound with
  | start hInit =>
      cases hInit
      apply Silent.sound
      intro session hMem
      cases hMem
  | step hRun hStep ih =>
      rename_i before u t op
      rcases System.guarded_snoc.mp hMedia with
        ⟨hMedia, hMediaNow⟩
      rcases System.guarded_snoc.mp hKeeps with
        ⟨hKeeps, hKeepsNow⟩
      rcases System.guarded_snoc.mp hCovers with
        ⟨hCovers, hCoversNow⟩
      have hSound :=
        ih hClocked.of_snoc hMedia hKeeps hCovers
          (fun x hMem => hClocked.le_last x
            (List.mem_append_left _ hMem))
      have hStepped :=
        step_sound (le_refl _) (run_inv hRun) hMediaNow
          hKeepsNow hCoversNow hStep.2 hSound
      apply hStepped.later
      exact hBound (u, op)
        (List.mem_append_right _ (List.mem_singleton_self _))

/-
  The timestamps of the packets of each RTP session, oldest
  first, do not decrease.
-/
def RtptimesAscend (s : Client) : Prop :=
  ∀ session ∈ s.playback.rtpSessions,
    session.packets.IsChain
      (fun p q => p.rtptime ≤ q.rtptime)

/-
  As long as every PLAY that resumes a session covers the gap,
  the RTP timestamps of its packets do not decrease.
-/
theorem rtptimes_ascend
    (hRun : system.Run trace s)
    (hClocked : Clocked trace)
    (hMedia : System.Guarded MediaAscends trace)
    (hKeeps : System.Guarded KeepsRange trace)
    (hCovers : System.Guarded CoversGap trace) :
    RtptimesAscend s := by
  intro session hMem
  cases hRun with
  | start hInit =>
      cases hInit
      cases hMem
  | step hRun hStep =>
      have hSound :=
        run_sound (hRun.step hStep) hClocked hMedia hKeeps
          hCovers hClocked.le_last
      exact (hSound.steady session hMem).ascends

/- A packet at the tenth second of the recording. -/
def sampleWriter (time : Nat) : WriterEnv where
  stopped := false
  eor := false
  buffer :=
    some
      { seen := 0
        timestamp := 10
        rtpTimestamp := 0
        delivery := 10
        duration := 0
        marker := false
        seqNo := 1
        data := [] }
  next := none
  sent := true
  time := time

/- Packets before and after a pause that is long enough. -/
def coveredOps : List Op :=
  setupOps ++
    [.request (sampleRequest RTSPMethod.play 2)
        (sampleEnv 1000),
      .write 0 (sampleWriter 1010),
      .request (sampleRequest RTSPMethod.pause 3)
        (sampleEnv 1010),
      .request (sampleRequest RTSPMethod.play 4)
        (sampleEnv 1020),
      .write 0 (sampleWriter 1020)]

/- The same, but resumed at once. -/
def uncoveredOps : List Op :=
  setupOps ++
    [.request (sampleRequest RTSPMethod.play 2)
        (sampleEnv 1000),
      .write 0 (sampleWriter 1010),
      .request (sampleRequest RTSPMethod.pause 3)
        (sampleEnv 1010),
      .request (sampleRequest RTSPMethod.play 4)
        (sampleEnv 1010),
      .write 0 (sampleWriter 1010)]

theorem rtptimes_ascend_sample :
    RtptimesAscend
      (System.replayEnd step clientNew coveredOps) :=
  rtptimes_ascend
    (System.replay_run (by decide +kernel)
      (by decide +kernel))
    (by decide +kernel) (by decide +kernel)
    (by decide +kernel) (by decide +kernel)

/- The second packet is a thousand ticks behind the first. -/
theorem rtptimes_run_back :
    ∃ trace s, system.Run trace s ∧ Clocked trace ∧
      System.Guarded MediaAscends trace ∧
      System.Guarded KeepsRange trace ∧
      ∃ session ∈ s.playback.rtpSessions,
        session.properties.mediaSource = .stored ∧
          session.packets.map SentPacket.rtptime =
            [101000, 100000] ∧
          ¬ session.packets.IsChain
            (fun p q => p.rtptime ≤ q.rtptime) := by
  have hRun :
      system.Run
        (System.replayTrace step clientNew uncoveredOps)
        (System.replayEnd step clientNew uncoveredOps) :=
    System.replay_run (by decide +kernel) (by decide +kernel)
  exact ⟨_, _, hRun, by decide +kernel, by decide +kernel,
    by decide +kernel, by decide +kernel⟩

end Play

end Feng
