import Feng.Play.Timestamps

/-
  The two conversions of a `double` to an unsigned integer
  that a writer makes: the media time of a packet, and the
  time of a report. C leaves them undefined for a value that
  does not fit.

  A step comes with the time that `gettimeinseconds` gives.
  The head range is never ahead of that clock while a writer
  is armed, if no PLAY asks for a time to come.

  Key definitions include:
    * `Play.conversions`
    * `Play.Converts`
    * `Play.timedSystem`
    * `Play.StartsAtOnce`
    * `Play.Fits`
    * `Play.Underway`

  Key theorems include:
    * `Play.conversions_in_range`
    * `Play.conversion_out_of_range`
-/

------------------------------------------------------------
-- What A Writer Converts
------------------------------------------------------------

namespace Feng

namespace Play

/- The time of a report, in ticks since the playback began. -/
def reportTicks
    (session : RTPSession)
    (range : RTSPRange)
    (now : ℚ) : ℚ :=
  (now - range.playbackTime) * session.properties.clockRate

/- The media time of a buffer, in ticks of the range. -/
def mediaTicks
    (session : RTPSession)
    (range : RTSPRange)
    (timestamp : ℚ) : ℚ :=
  (timestamp - range.beginTime) *
    session.properties.clockRate

/-
  What `rtp_write_cb` converts: a report is sent at the end,
  and with every twenty-ninth packet.
-/
def writerConversions
    (env : WriterEnv)
    (session : RTPSession)
    (range : RTSPRange)
    (now : ℚ) : List ℚ :=
  if env.stopped then
    [reportTicks session range now]
  else
    match env.buffer with
    | none =>
        if env.eor then
          [reportTicks session range now]
        else
          []
    | some buffer =>
        mediaTicks session range buffer.timestamp ::
          if (rtpPacketSend env session range
              buffer).pktCount % 29 = 1 then
            [reportTicks session range now]
          else
            []

/- The conversions of a step, with the clock it is taken at. -/
def conversions (s : Client) : Op × ℚ → List ℚ
| (.write address env, now) =>
    match sessionAt s address with
    | none => []
    | some session =>
        match s.deref session.range with
        | .error _ => []
        | .ok range => writerConversions env session range now
| _ => []

/- The values that fit into 32 bits. -/
def InUInt32 (x : ℚ) : Prop :=
  0 ≤ x ∧ x < 2 ^ 32

instance decidableInUInt32 (x : ℚ) : Decidable (InUInt32 x) :=
  inferInstanceAs (Decidable (0 ≤ x ∧ x < 2 ^ 32))

/- Everything a step converts fits. -/
def Converts (s : Client) (x : Op × ℚ) : Prop :=
  ∀ value ∈ conversions s x, InUInt32 value

instance decidableConverts
    (s : Client)
    (x : Op × ℚ) :
    Decidable (Converts s x) :=
  inferInstanceAs
    (Decidable (∀ value ∈ conversions s x, InUInt32 value))

/- The runs of a client, every step with its clock. -/
def timedSystem : System Client (Op × ℚ) :=
  System.ofStep clientNew
    (fun s x => enabled s x.1) (fun s x => step s x.1)

end Play

end Feng

------------------------------------------------------------
-- Conditions On The Steps
------------------------------------------------------------

namespace Feng

namespace Play

/-
  The clock does not go back, and what the loop takes for the
  time is not ahead of it.
-/
def Punctual : Op × ℚ → Prop
| (.request _ env, now) => env.evNow ≤ now
| _ => True

instance decidablePunctual :
    (x : Op × ℚ) → Decidable (Punctual x)
| (.request _ env, now) =>
    inferInstanceAs (Decidable (env.evNow ≤ now))
| (.write _ _, _) => isTrue trivial
| (.timeout _, _) => isTrue trivial

/- No PLAY asks to start at a time to come. -/
def StartsAtOnce (s : Client) : Op × ℚ → Prop
| (.request req env, _) =>
    PlayPasses s req →
      ∀ range ∈ requestedRange env
          (rfc822HeadersLookup req.headers .range),
        range.playbackTime ≤ env.evNow
| _ => True

/-
  A buffer that is sent is not from before the begin of the
  head range, and neither it nor the clock is 2^32 ticks or
  more behind.
-/
def Fits (s : Client) : Op × ℚ → Prop
| (.write address env, now) =>
    ∀ session ∈ sessionAt s address, ∀ range ∈ head s,
      reportTicks session range now < 2 ^ 32 ∧
        ∀ buffer ∈ env.buffer,
          range.beginTime ≤ buffer.timestamp ∧
            mediaTicks session range buffer.timestamp <
              2 ^ 32
| _ => True

instance decidableStartsAtOnce
    (s : Client) :
    (x : Op × ℚ) → Decidable (StartsAtOnce s x)
| (.request req env, _) =>
    inferInstanceAs
      (Decidable
        (PlayPasses s req →
          ∀ range ∈ requestedRange env
              (rfc822HeadersLookup req.headers .range),
            range.playbackTime ≤ env.evNow))
| (.write _ _, _) => isTrue trivial
| (.timeout _, _) => isTrue trivial

instance decidableFits
    (s : Client) :
    (x : Op × ℚ) → Decidable (Fits s x)
| (.write address env, now) =>
    inferInstanceAs
      (Decidable
        (∀ session ∈ sessionAt s address, ∀ range ∈ head s,
          reportTicks session range now < 2 ^ 32 ∧
            ∀ buffer ∈ env.buffer,
              range.beginTime ≤ buffer.timestamp ∧
                mediaTicks session range buffer.timestamp <
                  2 ^ 32))
| (.request _ _, _) => isTrue trivial
| (.timeout _, _) => isTrue trivial

/- The clocks of a run, in order. -/
def ClockAscends (trace : List (Client × (Op × ℚ))) : Prop :=
  (trace.map (fun x => x.2.2)).Pairwise (· ≤ ·)

instance decidableClockAscends
    (trace : List (Client × (Op × ℚ))) :
    Decidable (ClockAscends trace) :=
  inferInstanceAs
    (Decidable
      ((trace.map (fun x => x.2.2)).Pairwise (· ≤ ·)))

end Play

end Feng

------------------------------------------------------------
-- The Head Range Is Not Ahead Of The Clock
------------------------------------------------------------

namespace Feng

namespace Play

variable {s t u : Client} {env : Env} {req : RFC822Request}
variable {now moment : ℚ} {op : Op}

/- The writer of some RTP session is armed. -/
def Armed (s : Client) : Prop :=
  ∃ session ∈ s.playback.rtpSessions,
    session.rtpWriter ≠ none

/- What plays began to play before now. -/
def Underway (now : ℚ) (s : Client) : Prop :=
  Armed s → ∀ range ∈ head s, range.playbackTime ≤ now

theorem Underway.mono
    (hLater : now ≤ moment)
    (h : Underway now s) :
    Underway moment s :=
  fun hArmed range hRange =>
    (h hArmed range hRange).trans hLater

/- A new RTP session is not armed. -/
theorem Around.armed
    (h : Around s t)
    (hArmed : Armed t) :
    Armed s := by
  rcases hArmed with ⟨session, hMem, hWriter⟩
  rcases h.sessions session hMem with hOld | ⟨_, hNew⟩
  · exact ⟨session, hOld, hWriter⟩
  · exact absurd hNew.rtpWriter hWriter

theorem Around.underway
    (h : Around s t)
    (hUnderway : Underway now s) :
    Underway now t := by
  intro hArmed range hRange
  rw [h.head_eq] at hRange
  exact hUnderway (h.armed hArmed) range hRange

/- PAUSE stops every writer. -/
theorem pausedAt_not_armed
    {address : Nat}
    {range : RTSPRange} :
    ¬ Armed (pausedAt now s address range) := by
  rintro ⟨session, hMem, hWriter⟩
  rcases List.mem_map.mp hMem with ⟨old, _, rfl⟩
  exact hWriter rfl

theorem Worked.underway
    (h : Worked env req s t)
    (hUnderway : Underway now s) :
    Underway now t := by
  rcases h with ⟨_, rfl⟩ | ⟨_, _, hPause⟩
  · exact hUnderway
  · rcases rtspDoPause_cases hPause with
      ⟨_, address, range, _, _, _, rfl⟩
    intro hArmed
    exact absurd hArmed pausedAt_not_armed

/- The range that is queued begins to play now at the latest. -/
theorem completeRange_playbackTime
    {range : RTSPRange}
    (h : range.playbackTime ≤ env.evNow) :
    (completeRange env range).playbackTime ≤ env.evNow := by
  unfold completeRange
  simp only
  split
  · exact le_refl _
  · exact h

end Play

end Feng

------------------------------------------------------------
-- Requests And The Clock
------------------------------------------------------------

namespace Feng

namespace Play

variable {s t u : Client} {env : Env} {req : RFC822Request}
variable {now : ℚ} {range : RTSPRange}

/- While nothing plays, the range queued is the only one. -/
theorem head_queueRange
    (hStopped : s.curState ≠ .playing) :
    head (queueRange env s range) =
      some (completeRange env range) := by
  have hEq :
      queueRange env s range =
        rtspSessionEditlistAppend (rtspSessionEditlistFree s)
          (completeRange env range) := by
    unfold queueRange
    rw [if_pos hStopped]
  rw [hEq]
  exact head_eq_some.mpr ⟨_, rfl, rangeAt_append_new _ _⟩

/- While the session plays, it goes to the end of the list. -/
theorem head_queueRange_playing
    (hInv : Inv s)
    (hPlaying : s.curState = .playing) :
    head (queueRange env s range) = head s := by
  have hEq :
      queueRange env s range =
        rtspSessionEditlistAppend s
          (completeRange env range) := by
    unfold queueRange
    rw [if_neg (not_not.mpr hPlaying)]
  have hHead :
      (rtspSessionEditlistAppend s
        (completeRange env range)).headRange =
          s.headRange := by
    unfold Client.headRange rtspSessionEditlistAppend
    exact List.head?_append_of_ne_nil _
      (hInv.ranged hPlaying)
  rw [hEq]
  unfold head
  rw [hHead]
  cases hAddress : s.headRange with
  | none => rfl
  | some address =>
      rcases Option.ne_none_iff_exists'.mp
          (hInv.head address hAddress) with ⟨old, hOld⟩
      have hLt := rangeAt_lt hOld
      simp only [Option.bind_some]
      unfold Client.rangeAt rtspSessionEditlistAppend
      rw [List.getElem?_append_left hLt]

/- A range is fixed: it is not ahead, or it was not before. -/
theorem RangeFixed.underway
    (hInv : Inv s)
    (hEvNow : env.evNow ≤ now)
    (hAtOnce :
      ∀ range ∈ requestedRange env
          (rfc822HeadersLookup req.headers .range),
        range.playbackTime ≤ env.evNow)
    (h : RangeFixed env req s t)
    (hUnderway : Underway now s) :
    Underway now t ∧
      (s.curState ≠ .playing →
        ∀ range ∈ head t, range.playbackTime ≤ now) := by
  have hSessions := h.sessions_eq.1
  rcases h with
    ⟨_, address, range, hAddress, hRange, rfl⟩ |
    ⟨_, range, hRequested, rfl⟩
  · have hHead :
        ∀ other ∈ head (s.setRange address
            { range with playbackTime := env.evNow }),
          other.playbackTime ≤ now := by
      intro other hOther
      rw [head_setRange _ hAddress hRange] at hOther
      cases hOther
      exact hEvNow
    exact ⟨fun _ => hHead, fun _ => hHead⟩
  · have hRequestedNow := hAtOnce range hRequested
    by_cases hPlaying : s.curState = .playing
    · refine ⟨?_, fun hNot => absurd hPlaying hNot⟩
      intro hArmed
      rw [head_queueRange_playing hInv hPlaying]
      apply hUnderway
      unfold Armed at hArmed
      rw [hSessions] at hArmed
      exact hArmed
    · have hHead :
          ∀ other ∈ head (queueRange env s range),
            other.playbackTime ≤ now := by
        intro other hOther
        rw [head_queueRange hPlaying] at hOther
        cases hOther
        exact (completeRange_playbackTime
          hRequestedNow).trans hEvNow
      exact ⟨fun _ => hHead, fun _ => hHead⟩

theorem NowPlays.underway
    (h : NowPlays env s t)
    (hHead :
      s.curState ≠ .playing →
        ∀ range ∈ head s, range.playbackTime ≤ now)
    (hUnderway : Underway now s) :
    Underway now t := by
  have hSame := h.head_eq
  rcases h with ⟨_, rfl⟩ | ⟨hStopped, _⟩
  · exact hUnderway
  · intro _ range hRange
    rw [hSame] at hRange
    exact hHead hStopped range hRange

theorem Played.underway
    (hInv : Inv s)
    (hState : s.curState ≠ .init)
    (hEvNow : env.evNow ≤ now)
    (hAtOnce :
      ∀ range ∈ requestedRange env
          (rfc822HeadersLookup req.headers .range),
        range.playbackTime ≤ env.evNow)
    (h : Played env req s t)
    (hUnderway : Underway now s) :
    Underway now t := by
  rcases h with ⟨u, hWorked, hRest⟩
  have hInvWorked : Inv u := by
    rcases hWorked with ⟨_, rfl⟩ | ⟨hPlaying, _, hPause⟩
    · exact hInv
    · exact hInv.paused hPlaying hPause
  have hWorkedNow := hWorked.underway hUnderway
  rcases hRest with ⟨_, hAround⟩ | ⟨v, hFixed, hRest⟩
  · exact hAround.underway hWorkedNow
  rcases hFixed.underway hInvWorked hEvNow hAtOnce
      hWorkedNow with ⟨hFixedNow, hHead⟩
  rcases hRest with hAround | ⟨w, hPlays, _, hAround⟩
  · exact hAround.underway hFixedNow
  · apply hAround.underway
    apply hPlays.underway _ hFixedNow
    intro hStopped
    rw [hFixed.curState_eq] at hStopped
    exact hHead hStopped

theorem request_underway
    (hInv : Inv s)
    (hEvNow : env.evNow ≤ now)
    (hAtOnce : StartsAtOnce s (.request req env, now))
    (h : rtspHandleRequest env s req = .ok t)
    (hUnderway : Underway now s) :
    Underway now t := by
  cases request_moves hInv h with
  | around hAround _ =>
      exact hAround.underway hUnderway
  | paused address range _ _ _ _ hAround =>
      intro hArmed
      exact absurd (hAround.armed hArmed) pausedAt_not_armed
  | ended _ hPlayback _ =>
      rintro ⟨session, hMem, _⟩
      rw [hPlayback] at hMem
      cases hMem
  | played u hPasses hUntouched hPlayed =>
      have hState : u.curState ≠ .init := by
        rw [hUntouched.curState_eq]
        exact hPasses.state
      exact hPlayed.underway (hInv.untouched hUntouched)
        hState hEvNow (hAtOnce hPasses)
        (hUntouched.around.underway hUnderway)

end Play

end Feng

------------------------------------------------------------
-- Every Conversion Of A Run
------------------------------------------------------------

namespace Feng

namespace Play

variable {s t : Client} {x : Op × ℚ} {now bound : ℚ}
variable {trace : List (Client × (Op × ℚ))}
variable {session : RTPSession} {range : RTSPRange}

theorem step_underway
    (hInv : Inv s)
    (hPunctual : Punctual x)
    (hAtOnce : StartsAtOnce s x)
    (hClock : now ≤ x.2)
    (h : step s x.1 = .ok t)
    (hUnderway : Underway now s) :
    Underway x.2 t := by
  have hNow := hUnderway.mono hClock
  rcases x with ⟨op, clock⟩
  cases op with
  | request req env =>
      exact request_underway hInv hPunctual hAtOnce h hNow
  | write address env =>
      rcases writeStep_cases h with
        rfl | ⟨session, due, next, hAt, hDue, _, rfl⟩
      · exact hNow
      · rintro ⟨other, hOther, hWriter⟩
        have hArmed : Armed s := by
          rcases mem_updateSession hOther with rfl | hOld
          · refine ⟨session, (sessionAt_mem hAt).1, ?_⟩
            rw [hDue]
            exact Option.some_ne_none due
          · exact ⟨other, hOld, hWriter⟩
        exact hNow hArmed
  | timeout time =>
      rcases step_timeout_cases h with ⟨_, connected, _, rfl⟩
      exact hNow

/- A report is not from before the playback. -/
theorem reportTicks_nonneg
    (h : range.playbackTime ≤ now) :
    0 ≤ reportTicks session range now := by
  unfold reportTicks
  exact mul_nonneg (sub_nonneg.mpr h) (Nat.cast_nonneg _)

theorem mediaTicks_nonneg
    {timestamp : ℚ}
    (h : range.beginTime ≤ timestamp) :
    0 ≤ mediaTicks session range timestamp := by
  unfold mediaTicks
  exact mul_nonneg (sub_nonneg.mpr h) (Nat.cast_nonneg _)

theorem writerConversions_in_range
    {env : WriterEnv}
    (hPlays : range.playbackTime ≤ now)
    (hReport : reportTicks session range now < 2 ^ 32)
    (hMedia :
      ∀ buffer ∈ env.buffer,
        range.beginTime ≤ buffer.timestamp ∧
          mediaTicks session range buffer.timestamp <
            2 ^ 32) :
    ∀ value ∈ writerConversions env session range now,
      InUInt32 value := by
  have hTicks : InUInt32 (reportTicks session range now) :=
    ⟨reportTicks_nonneg hPlays, hReport⟩
  intro value hMem
  unfold writerConversions at hMem
  split at hMem
  · rw [List.mem_singleton.mp hMem]
    exact hTicks
  · split at hMem
    · split at hMem
      · rw [List.mem_singleton.mp hMem]
        exact hTicks
      · cases hMem
    · rename_i buffer hBuffer
      rcases hMedia buffer hBuffer with ⟨hLanded, hLess⟩
      rcases List.mem_cons.mp hMem with rfl | hRest
      · exact ⟨mediaTicks_nonneg hLanded, hLess⟩
      · split at hRest
        · rw [List.mem_singleton.mp hRest]
          exact hTicks
        · cases hRest

/- The writer that goes off plays the head range. -/
theorem step_converts
    (hInv : Inv s)
    (hEnabled : enabled s x.1)
    (hFits : Fits s x)
    (hUnderway : Underway x.2 s) :
    Converts s x := by
  rcases x with ⟨op, clock⟩
  intro value hMem
  cases op with
  | request req env => cases hMem
  | timeout time => cases hMem
  | write address env =>
      simp only [conversions] at hMem
      cases hAt : sessionAt s address with
      | none =>
          rw [hAt] at hMem
          cases hMem
      | some session =>
          have hSession := (sessionAt_mem hAt).1
          have hWriter : session.rtpWriter ≠ none := by
            have hDue : (sessionAt s address).any
                (fun session => session.rtpWriter.isSome) =
                  true := hEnabled
            rw [hAt] at hDue
            exact Option.isSome_iff_ne_none.mp hDue
          have hRange := (hInv.armed session hSession
            hWriter).2
          simp only [hAt] at hMem
          split at hMem
          · cases hMem
          · rename_i range hDeref
            rw [hRange] at hDeref
            have hHead : head s = some range :=
              head_eq_some.mpr (deref_eq_ok.mp hDeref)
            have hPlays :=
              hUnderway ⟨session, hSession, hWriter⟩ range
                hHead
            rcases hFits session hAt range hHead with
              ⟨hReport, hMedia⟩
            exact writerConversions_in_range hPlays hReport
              hMedia value hMem

theorem ClockAscends.of_snoc
    (h : ClockAscends (trace ++ [(s, x)])) :
    ClockAscends trace := by
  unfold ClockAscends at h ⊢
  rw [List.map_append] at h
  exact (List.pairwise_append.mp h).1

theorem ClockAscends.le_last
    (h : ClockAscends (trace ++ [(s, x)])) :
    ∀ y ∈ trace, y.2.2 ≤ x.2 := by
  intro y hMem
  unfold ClockAscends at h
  rw [List.map_append] at h
  exact (List.pairwise_append.mp h).2.2 _
    (List.mem_map_of_mem hMem) _ (List.mem_singleton_self _)

theorem timed_inv
    (hRun : timedSystem.Run trace s) :
    Inv s := by
  apply hRun.invariant
  · rintro s rfl
    exact inv_clientNew
  · intro s x t hInv hStep
    exact step_inv hStep.2 hInv

theorem run_underway
    (hRun : timedSystem.Run trace s)
    (hClock : ClockAscends trace)
    (hPunctual : System.Guarded (fun _ => Punctual) trace)
    (hAtOnce : System.Guarded StartsAtOnce trace)
    (hBound : ∀ y ∈ trace, y.2.2 ≤ bound) :
    Underway bound s := by
  induction hRun generalizing bound with
  | start hInit =>
      cases hInit
      rintro ⟨session, hMem, _⟩
      cases hMem
  | step hRun hStep ih =>
      rename_i before u t y
      rcases System.guarded_snoc.mp hPunctual with
        ⟨hPunctual, hPunctualNow⟩
      rcases System.guarded_snoc.mp hAtOnce with
        ⟨hAtOnce, hAtOnceNow⟩
      have hBefore :=
        ih hClock.of_snoc hPunctual hAtOnce hClock.le_last
      have hStepped :=
        step_underway (timed_inv hRun) hPunctualNow
          hAtOnceNow (le_refl _) hStep.2 hBefore
      apply hStepped.mono
      exact hBound (u, y)
        (List.mem_append_right _ (List.mem_singleton_self _))

/-
  If no PLAY asks for a time to come, the packets are from
  the range that is played, and neither they nor the clock
  are 2^32 ticks behind its begin, every conversion fits.
-/
theorem conversions_in_range
    (hRun : timedSystem.Run trace s)
    (hClock : ClockAscends trace)
    (hPunctual : System.Guarded (fun _ => Punctual) trace)
    (hAtOnce : System.Guarded StartsAtOnce trace)
    (hFits : System.Guarded Fits trace) :
    System.Guarded Converts trace := by
  induction hRun with
  | start _ =>
      intro y hMem
      cases hMem
  | step hRun hStep ih =>
      rcases System.guarded_snoc.mp hPunctual with
        ⟨hPunctual, _⟩
      rcases System.guarded_snoc.mp hAtOnce with
        ⟨hAtOnce, _⟩
      rcases System.guarded_snoc.mp hFits with
        ⟨hFits, hFitsNow⟩
      refine System.guarded_snoc.mpr
        ⟨ih hClock.of_snoc hPunctual hAtOnce hFits, ?_⟩
      exact step_converts (timed_inv hRun) hStep.1 hFitsNow
        (run_underway hRun hClock.of_snoc hPunctual hAtOnce
          hClock.le_last)

/- A session set up, played at once, and a packet of it. -/
def playedOps : List (Op × ℚ) :=
  setupOps.map (fun op => (op, 1000)) ++
    [(.request (sampleRequest RTSPMethod.play 2)
        (sampleEnv 1000), 1000),
      (.write 0 (sampleWriter 1010), 1010)]

theorem conversions_in_range_sample :
    System.Guarded Converts
      (System.replayTrace (fun s x => step s x.1) clientNew
        playedOps) :=
  conversions_in_range
    (System.replay_run (by decide +kernel)
      (by decide +kernel))
    (by decide +kernel) (by decide +kernel)
    (by decide +kernel) (by decide +kernel)

/- A PLAY from the twentieth second on. -/
def seekRequest : RFC822Request :=
  { sampleRequest RTSPMethod.play 2 with
    headers :=
      some [(.cSeq, printInt 2), (.range, ascii "npt=20-")] }

def seekEnv : Env :=
  { sampleEnv 1000 with
    parseRange := fun _ range =>
      some { range with beginTime := 20 } }

/- The seek lands ten seconds before, and a packet is sent. -/
def landedBeforeOps : List (Op × ℚ) :=
  setupOps.map (fun op => (op, 1000)) ++
    [(.request seekRequest seekEnv, 1000),
      (.write 0 (sampleWriter 1000), 1000)]

theorem conversion_out_of_range :
    ∃ trace s,
      timedSystem.Run trace s ∧ ClockAscends trace ∧
        System.Guarded (fun _ => Punctual) trace ∧
        (∀ session ∈ s.playback.rtpSessions,
          session.properties.mediaSource = .stored ∧
            0 < session.properties.clockRate) ∧
        ∃ y ∈ trace, conversions y.1 y.2 = [-1000, 0] ∧
          ¬ Converts y.1 y.2 := by
  have hRun :
      timedSystem.Run
        (System.replayTrace (fun s x => step s x.1) clientNew
          landedBeforeOps)
        (System.replayEnd (fun s x => step s x.1) clientNew
          landedBeforeOps) :=
    System.replay_run (by decide +kernel) (by decide +kernel)
  exact ⟨_, _, hRun, by decide +kernel, by decide +kernel,
    by decide +kernel, by decide +kernel⟩

end Play

end Feng
