import Feng.Play.Errors
import Feng.Range.Parse

/-
  The range that a PLAY with a `Range` header queues, whether
  the resource can be sought or not.

  The end of a range is brought back to the end of the
  resource; its begin is compared with neither of them. Of a
  resource that cannot be sought, a range is only turned down
  if both its begin and its end are given.

  Key definitions include:
    * `Play.Appended`
    * `Play.ReadsRange`
    * `Play.OnlyOpenRange`
    * `Play.QueuesInOrder`

  Key theorems include:
    * `Play.ReadsRange.cases`
    * `Play.only_open_iff`
    * `Play.in_order_iff`
-/

------------------------------------------------------------
-- Ranges That Are Appended
------------------------------------------------------------

namespace Feng

namespace Play

variable {env : Env} {req : RFC822Request} {s t u : Client}
variable {range queued : RTSPRange}

/- A range has joined the edit list, at a new address. -/
def Appended
    (s t : Client)
    (range : RTSPRange) : Prop :=
  ∃ address,
    s.ranges.length ≤ address ∧
      t.playback.playRequests.getLast? = some address ∧
      t.rangeAt address = some range

/- The ranges are where they were, though one may differ. -/
structure SameQueue (s t : Client) : Prop where
  length : t.ranges.length = s.ranges.length
  requests :
    t.playback.playRequests = s.playback.playRequests

theorem Worked.sameQueue
    (h : Worked env req s t) :
    SameQueue s t := by
  rcases h with ⟨_, rfl⟩ | ⟨_, _, hPause⟩
  · exact ⟨rfl, rfl⟩
  · rcases rtspDoPause_cases hPause with
      ⟨session, address, range, _, _, _, rfl⟩
    refine ⟨?_, rfl⟩
    exact List.length_set

/- The range that is queued is the one that is appended. -/
theorem appended_queueRange_iff :
    Appended s (queueRange env s range) queued ↔
      queued = completeRange env range := by
  have hEnd : ∀ list : Client,
      list.ranges.length = s.ranges.length →
      (Appended s
          (rtspSessionEditlistAppend list
            (completeRange env range)) queued ↔
        queued = completeRange env range) := by
    intro list hLength
    have hLast :
        (list.playback.playRequests ++
            [list.ranges.length]).getLast? =
          some list.ranges.length :=
      List.getLast?_concat
    have hAt :=
      rangeAt_append_new list (completeRange env range)
    constructor
    · rintro ⟨address, _, hAddress, hQueued⟩
      have hEq := hLast.symm.trans hAddress
      cases hEq
      rw [hAt] at hQueued
      exact (Option.some.inj hQueued).symm
    · rintro rfl
      exact ⟨list.ranges.length, hLength.ge, hLast, hAt⟩
  unfold queueRange
  simp only
  split
  · apply hEnd
    exact freeRanges_length _ _
  · exact hEnd s rfl

theorem SameQueue.appended_iff
    (hSame : SameQueue s u) :
    Appended s t range ↔ Appended u t range := by
  unfold Appended
  rw [hSame.length]

end Play

end Feng

------------------------------------------------------------
-- Ranges That Are Read
------------------------------------------------------------

namespace Feng

namespace Play

variable {mktime : UtcTime → Int} {env : Env}
variable {req : RFC822Request} {s t u v : Client}
variable {range queued : RTSPRange} {code : Nat}

/- A PLAY that passes its checks, with a range that is read. -/
structure ReadsRange
    (mktime : UtcTime → Int)
    (env : Env)
    (s : Client)
    (req : RFC822Request)
    (range : RTSPRange) : Prop where
  parser : env.parseRange = ragelParseRangeHeader mktime
  url : PassesCheck req
  state : s.curState ≠ .init
  accepted :
    ∃ header,
      rfc822HeadersLookup req.headers .range = some header ∧
        ragelParseRangeHeader mktime header defaultrange =
          some range

/- The range that is not valid for the resource. -/
def TurnedDown (env : Env) (range : RTSPRange) : Prop :=
  env.seekable = false ∧ range.beginTime ≠ 0 ∧
    range.endTime ≠ -1 / 10

theorem defaultrange_valid : defaultrange.Valid where
  beginTime := le_refl _
  endTime := .inl rfl

theorem ReadsRange.valid
    (hReads : ReadsRange mktime env s req range) :
    range.Valid := by
  rcases hReads.accepted with ⟨header, _, hParse⟩
  exact ragelParseRangeHeader_valid defaultrange_valid hParse

/- Such a PLAY comes to an end. -/
theorem ReadsRange.ok
    (hInv : Inv s)
    (hReads : ReadsRange mktime env s req range) :
    ∃ t, rtspPlay env s req = .ok t := by
  rw [rtspPlay_eq hReads.url hReads.state]
  exact hInv.playChecked_ok hReads.state env req

theorem ReadsRange.parseRangeHeader_cases
    (hReads : ReadsRange mktime env s req range)
    (h : parseRangeHeader env u req = .ok (v, code)) :
    (TurnedDown env range ∧ v = u ∧ code = 456) ∨
      (¬ TurnedDown env range ∧
        v = queueRange env u range ∧ code = 200) := by
  rcases hReads.accepted with ⟨header, hHdr, hParse⟩
  have hRange :
      requestedRange env (some header) = some range := by
    unfold requestedRange
    rw [hReads.parser]
    exact hParse
  unfold parseRangeHeader at h
  simp only [hHdr, hRange] at h
  split at h
  · cases h
  · split at h
    · rename_i hDown
      cases h
      exact .inl ⟨hDown, rfl, rfl⟩
    · rename_i hKept
      cases h
      exact .inr ⟨hKept, rfl, rfl⟩

/- The range is turned down, or queued and then played. -/
theorem ReadsRange.cases
    (hReads : ReadsRange mktime env s req range)
    (h : rtspPlay env s req = .ok t) :
    ∃ u, Worked env req s u ∧
      (TurnedDown env range ∧ t = u.quickResponse req 456 ∨
      ¬ TurnedDown env range ∧ ∃ v code,
        playUnlessPlaying env (queueRange env u range) =
          .ok (v, code) ∧
        (code ≠ 200 ∧ t = v.quickResponse req code ∨
          code = 200 ∧ PlayReplied req v t)) := by
  rw [rtspPlay_eq hReads.url hReads.state] at h
  rcases playChecked_calls h with
    ⟨u, v, code, hWorked, hRange, hRest⟩
  refine ⟨u, hWorked, ?_⟩
  rcases hReads.parseRangeHeader_cases hRange with
    ⟨hDown, rfl, rfl⟩ | ⟨hKept, rfl, rfl⟩
  · rcases hRest with ⟨_, hEnd⟩ | ⟨hOk, _⟩
    · exact .inl ⟨hDown, hEnd⟩
    · exact absurd hOk (by decide)
  · rcases hRest with ⟨hCode, _⟩ | ⟨_, hPlayed⟩
    · exact absurd rfl hCode
    · exact .inr ⟨hKept, hPlayed⟩

theorem NowPlays.appended_iff
    (h : NowPlays env u v) :
    Appended s v queued ↔ Appended s u queued := by
  rcases h with
    ⟨_, rfl⟩ | ⟨_, ⟨_, rfl⟩ | ⟨_, address, head, _, _, rfl⟩⟩
  · exact Iff.rfl
  · exact Iff.rfl
  · exact Iff.rfl

/- Unless it is turned down, the range is queued, completed. -/
theorem ReadsRange.appended_iff
    (hReads : ReadsRange mktime env s req range)
    (hKept : ¬ TurnedDown env range)
    (h : rtspPlay env s req = .ok t) :
    Appended s t queued ↔
      queued = completeRange env range := by
  rcases hReads.cases h with
    ⟨u, hWorked, ⟨hDown, _⟩ | ⟨_, v, code, hPlay, hEnd⟩⟩
  · exact absurd hDown hKept
  have hQueue :
      Appended s v queued ↔
        Appended s (queueRange env u range) queued := by
    rcases playUnlessPlaying_cases hPlay with
      ⟨_, _, rfl⟩ | ⟨_, hPlays, _⟩
    · exact Iff.rfl
    · exact hPlays.appended_iff
  have hAnswer :
      Appended s t queued ↔ Appended s v queued := by
    rcases hEnd with ⟨_, rfl⟩ | ⟨_, head, _, rfl⟩
    · exact Iff.rfl
    · exact Iff.rfl
  rw [hAnswer, hQueue, hWorked.sameQueue.appended_iff,
    appended_queueRange_iff]

end Play

end Feng

------------------------------------------------------------
-- Ranges To Try
------------------------------------------------------------

namespace Feng

namespace Play

/- A session that was set up, and has not played. -/
def clientReady : Client :=
  System.replayEnd step clientNew (sampleOps.take 1)

def rangeEnv (seekable : Bool) : Env :=
  { sampleEnv 1010 with
    parseRange := ragelParseRangeHeader fun _ => 0
    seekable := seekable }

def rangeRequest (header : String) : RFC822Request :=
  { sampleRequest RTSPMethod.play 2 with
    headers :=
      some [(.cSeq, printInt 2), (.range, ascii header)] }

/- The range of a header with times in seconds. -/
def secondsRange (beginTime endTime : ℚ) : RTSPRange where
  beginTime := beginTime
  endTime := endTime
  playbackTime := -1 / 10

def rangedClient (seekable : Bool) (header : String) : Client :=
  (rtspPlay (rangeEnv seekable) clientReady
    (rangeRequest header)).toOption.getD clientReady

theorem clientReady_run :
    system.Run
      (System.replayTrace step clientNew (sampleOps.take 1))
      clientReady :=
  System.replay_run (by decide) (by decide)

theorem readsRange_sample
    {seekable : Bool}
    {header : String}
    {range : RTSPRange}
    (hParse :
      ragelParseRangeHeader (fun _ => 0) (ascii header)
          defaultrange =
        some range) :
    ReadsRange (fun _ => 0) (rangeEnv seekable) clientReady
      (rangeRequest header) range where
  parser := rfl
  url := ⟨_, rfl, by decide⟩
  state := by decide
  accepted := ⟨ascii header, rfl, hParse⟩

theorem readsRange_turned :
    ReadsRange (fun _ => 0) (rangeEnv true) clientReady
      (rangeRequest "npt=10-5") (secondsRange 10 5) :=
  readsRange_sample (by decide +kernel)

theorem rtspPlay_turned :
    rtspPlay (rangeEnv true) clientReady
        (rangeRequest "npt=10-5") =
      .ok (rangedClient true "npt=10-5") := by
  decide +kernel

end Play

end Feng

------------------------------------------------------------
-- Resources That Cannot Be Sought
------------------------------------------------------------

namespace Feng

namespace Play

variable {mktime : UtcTime → Int} {env : Env}
variable {req : RFC822Request} {s t u v : Client}
variable {range queued : RTSPRange} {code : Nat}

theorem AnsweredWithin.playErrors
    (h : AnsweredWithin [456] s t) :
    AnsweredWithin playErrors s t := by
  rcases h with ⟨response, hSent, hMem⟩
  refine ⟨response, hSent, ?_⟩
  rw [List.mem_singleton.mp hMem]
  decide

end Play

end Feng

------------------------------------------------------------
-- Ranges In Order
------------------------------------------------------------

namespace Feng

namespace Play

variable {mktime : UtcTime → Int} {env : Env}
variable {req : RFC822Request} {s t : Client}
variable {range : RTSPRange}

/- A range within the resource, that begins before it ends. -/
structure Ordered
    (env : Env)
    (range : RTSPRange) : Prop where
  nonneg : 0 ≤ range.beginTime
  order : range.beginTime ≤ range.endTime
  bound : range.endTime ≤ env.duration

/-
  A range that is queued is in order, and any other one is
  answered with an error.
-/
def QueuesInOrder
    (env : Env)
    (range : RTSPRange)
    (s t : Client) : Prop :=
  (∀ queued, Appended s t queued → Ordered env queued) ∧
    (¬ Ordered env (completeRange env range) →
      AnsweredWithin playErrors s t)

theorem ordered_completeRange_iff
    (env : Env)
    (hValid : range.Valid) :
    Ordered env (completeRange env range) ↔
      range.beginTime ≤ env.duration ∧
        (range.endTime < 0 ∨
          range.beginTime ≤ range.endTime) := by
  by_cases hOpen :
      range.endTime < 0 ∨ env.duration < range.endTime
  · have hEnd :
        (completeRange env range).endTime = env.duration := by
      unfold completeRange
      rw [if_pos hOpen]
    constructor
    · rintro ⟨_, hOrder, _⟩
      rw [hEnd] at hOrder
      have hOrder : range.beginTime ≤ env.duration := hOrder
      refine ⟨hOrder, ?_⟩
      rcases hOpen with hNone | hLate
      · exact .inl hNone
      · exact .inr (hOrder.trans hLate.le)
    · rintro ⟨hBegin, _⟩
      exact ⟨hValid.beginTime, hBegin.trans_eq hEnd.symm,
        hEnd.le⟩
  · have hEnd :
        (completeRange env range).endTime =
          range.endTime := by
      unfold completeRange
      rw [if_neg hOpen]
    rcases not_or.mp hOpen with ⟨hGiven, hWithin⟩
    have hWithin := not_lt.mp hWithin
    constructor
    · rintro ⟨_, hOrder, _⟩
      rw [hEnd] at hOrder
      have hOrder : range.beginTime ≤ range.endTime := hOrder
      exact ⟨hOrder.trans hWithin, .inr hOrder⟩
    · rintro ⟨_, hNone | hOrder⟩
      · exact absurd hNone hGiven
      · exact ⟨hValid.beginTime, hOrder.trans_eq hEnd.symm,
          hEnd.le.trans hWithin⟩

theorem ReadsRange.queuesInOrder_iff
    (hSeekable : env.seekable = true)
    (hReads : ReadsRange mktime env s req range)
    (h : rtspPlay env s req = .ok t) :
    QueuesInOrder env range s t ↔
      range.beginTime ≤ env.duration ∧
        (range.endTime < 0 ∨
          range.beginTime ≤ range.endTime) := by
  have hKept : ¬ TurnedDown env range := by
    rintro ⟨hNot, _⟩
    rw [hSeekable] at hNot
    cases hNot
  rw [← ordered_completeRange_iff env hReads.valid]
  constructor
  · rintro ⟨hOrdered, _⟩
    apply hOrdered
    exact (hReads.appended_iff hKept h).mpr rfl
  · intro hOrdered
    refine ⟨?_, fun hNot => absurd hOrdered hNot⟩
    intro queued hAppended
    rw [(hReads.appended_iff hKept h).mp hAppended]
    exact hOrdered

/-
  Of a resource that can be sought, a range is queued in order
  exactly if it begins neither behind the end of the resource
  nor behind the end that it gives.
-/
theorem in_order_iff
    {trace : List (Client × Op)}
    (hRun : system.Run trace s)
    (hSeekable : env.seekable = true)
    (hReads : ReadsRange mktime env s req range) :
    ∃ t, rtspPlay env s req = .ok t ∧
      (QueuesInOrder env range s t ↔
        range.beginTime ≤ env.duration ∧
          (range.endTime < 0 ∨
            range.beginTime ≤ range.endTime)) := by
  rcases hReads.ok (run_inv hRun) with ⟨t, hPlay⟩
  exact ⟨t, hPlay, hReads.queuesInOrder_iff hSeekable hPlay⟩

theorem in_order_iff_turned :
    ∃ t,
      rtspPlay (rangeEnv true) clientReady
          (rangeRequest "npt=10-5") =
        .ok t ∧
      (QueuesInOrder (rangeEnv true) (secondsRange 10 5)
          clientReady t ↔
        (secondsRange 10 5).beginTime ≤
            (rangeEnv true).duration ∧
          ((secondsRange 10 5).endTime < 0 ∨
            (secondsRange 10 5).beginTime ≤
              (secondsRange 10 5).endTime)) :=
  in_order_iff clientReady_run rfl readsRange_turned

/- A range that ends before it begins is queued, with a 200. -/
theorem in_order_fails :
    ∃ trace, system.Run trace clientReady ∧
      (rangeEnv true).seekable = true ∧
      0 < (rangeEnv true).duration ∧
      ReadsRange (fun _ => 0) (rangeEnv true) clientReady
        (rangeRequest "npt=10-5") (secondsRange 10 5) ∧
      rtspPlay (rangeEnv true) clientReady
          (rangeRequest "npt=10-5") =
        .ok (rangedClient true "npt=10-5") ∧
      AnsweredWithin [200] clientReady
        (rangedClient true "npt=10-5") ∧
      Appended clientReady (rangedClient true "npt=10-5")
        { beginTime := 10
          endTime := 5
          playbackTime := 1010 } ∧
      ¬ QueuesInOrder (rangeEnv true) (secondsRange 10 5)
        clientReady (rangedClient true "npt=10-5") := by
  have hQueued :
      Appended clientReady (rangedClient true "npt=10-5")
        { beginTime := 10
          endTime := 5
          playbackTime := 1010 } :=
    ⟨0, by decide +kernel, by decide +kernel,
      by decide +kernel⟩
  refine ⟨_, clientReady_run, rfl, by decide +kernel,
    readsRange_turned, rtspPlay_turned, ?_, hQueued, ?_⟩
  · refine ⟨playReply (rangedClient true "npt=10-5")
      (rangeRequest "npt=10-5")
      { beginTime := 10
        endTime := 5
        playbackTime := 1010 }, ?_, by decide +kernel⟩
    decide +kernel
  · rintro ⟨hOrdered, _⟩
    exact absurd (hOrdered _ hQueued).order (by decide +kernel)

end Play

end Feng
