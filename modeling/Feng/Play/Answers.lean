import Feng.Play.Cases

/-
  Every request in order gets one response, with its number.

  Key definitions include:
    * `Play.AnsweredOnce`
    * `Play.handleRequests`

  Key theorems include:
    * `Play.rtspHandleRequest_answered`
    * `Play.requests_answered`
-/

------------------------------------------------------------
-- One Response
------------------------------------------------------------

namespace Feng

namespace Play

variable {env : Env} {req : RFC822Request} {s t u w : Client}
variable {code v : Nat}

/-
  One response was queued, with the `CSeq` of the request; the
  number of the last request is still the same.
-/
def AnsweredOnce
    (req : RFC822Request)
    (s t : Client) : Prop :=
  t.rtsp.lastCseq = s.rtsp.lastCseq ∧
    ∃ response,
      t.rtsp.responses = s.rtsp.responses ++ [response] ∧
        Carries req response

/- The responses and the last number are the same. -/
def SameAnswers (s t : Client) : Prop :=
  t.rtsp.lastCseq = s.rtsp.lastCseq ∧
    t.rtsp.responses = s.rtsp.responses

theorem AnsweredOnce.from
    (hSame : SameAnswers s t)
    (h : AnsweredOnce req t u) :
    AnsweredOnce req s u := by
  rcases h with ⟨hLast, response, hResponses, hCarries⟩
  refine ⟨hLast.trans hSame.1, response, ?_, hCarries⟩
  rw [hResponses, hSame.2]

theorem Answered.once
    (h : Answered req code s t) :
    AnsweredOnce req s t := by
  rcases h with ⟨response, rfl, hCarries, _⟩
  exact ⟨rfl, response, rfl, hCarries⟩

theorem Refused.once
    (h : Refused req s t) :
    AnsweredOnce req s t := by
  rcases h with ⟨code, _, hAnswered⟩
  exact hAnswered.once

theorem openSession_answers (env : Env) (s : Client) :
    SameAnswers s (openSession env s).1 := by
  unfold openSession
  cases s.rtsp.session with
  | none => exact ⟨rfl, rfl⟩
  | some session => exact ⟨rfl, rfl⟩

theorem Opened.answers
    (h : Opened env s t) :
    SameAnswers s t := by
  rcases h with ⟨next, _, rfl⟩
  exact openSession_answers env s

theorem Allocated.answers
    (h : Allocated s t) :
    SameAnswers s t := by
  rcases h with ⟨free, channels, rfl⟩
  exact ⟨rfl, rfl⟩

theorem SameAnswers.trans
    (hFirst : SameAnswers s t)
    (hSecond : SameAnswers t u) :
    SameAnswers s u :=
  ⟨hSecond.1.trans hFirst.1, hSecond.2.trans hFirst.2⟩

theorem rtspSetup_answered
    (h : rtspSetup env s req = .ok t) :
    AnsweredOnce req s t := by
  rcases rtspSetup_cases h with
    hRefused | ⟨_, u, hOpened, hRefused |
      ⟨next, v, _, _, hAllocated, ⟨hRefused, _⟩ |
        ⟨session, track, _, _, hAnswered⟩⟩⟩
  · exact hRefused.once
  · exact hRefused.once.from hOpened.answers
  · exact hRefused.once.from
      (hOpened.answers.trans hAllocated.answers)
  · have hJoin :
        SameAnswers v (joinSession v next track session) :=
      ⟨rfl, rfl⟩
    exact hAnswered.once.from
      ((hOpened.answers.trans hAllocated.answers).trans hJoin)

theorem rtspTeardown_answered
    (h : rtspTeardown s req = .ok t) :
    AnsweredOnce req s t := by
  rcases rtspTeardown_cases h with
    hRefused | ⟨_, hAnswered⟩
  · exact hRefused.once
  · have hSame : SameAnswers s (tornDown s) := ⟨rfl, rfl⟩
    exact hAnswered.once.from hSame

theorem rtspDoPause_answers
    {now : ℚ}
    (h : rtspDoPause now s = .ok t) :
    SameAnswers s t := by
  rcases rtspDoPause_cases h with
    ⟨session, address, range, _, _, _, rfl⟩
  exact ⟨rfl, rfl⟩

theorem rtspPause_answered
    (h : rtspPause env s req = .ok t) :
    AnsweredOnce req s t := by
  rcases rtspPause_cases h with
    hRefused | ⟨_, _, u, hPause, rfl⟩
  · exact hRefused.once
  · exact (answered_quick req u 200).once.from
      (rtspDoPause_answers hPause)

end Play

end Feng

------------------------------------------------------------
-- PLAY
------------------------------------------------------------

namespace Feng

namespace Play

variable {env : Env} {req : RFC822Request} {s t u : Client}

theorem Worked.answers
    (h : Worked env req s t) :
    SameAnswers s t := by
  rcases h with ⟨_, rfl⟩ | ⟨_, _, hPause⟩
  · exact ⟨rfl, rfl⟩
  · exact rtspDoPause_answers hPause

theorem queueRange_answers
    (env : Env)
    (s : Client)
    (range : RTSPRange) :
    SameAnswers s (queueRange env s range) := by
  unfold queueRange
  simp only
  split
  · exact ⟨rfl, rfl⟩
  · exact ⟨rfl, rfl⟩

theorem RangeFixed.answers
    (h : RangeFixed env req s t) :
    SameAnswers s t := by
  rcases h with
    ⟨_, address, range, _, _, rfl⟩ | ⟨_, range, _, rfl⟩
  · exact ⟨rfl, rfl⟩
  · exact queueRange_answers env s range

theorem NowPlays.answers
    (h : NowPlays env s t) :
    SameAnswers s t := by
  rcases h with
    ⟨_, rfl⟩ | ⟨_, ⟨_, rfl⟩ | ⟨_, address, range, _, _, rfl⟩⟩
  · exact ⟨rfl, rfl⟩
  · exact ⟨rfl, rfl⟩
  · exact ⟨rfl, rfl⟩

theorem PlayReplied.once
    (h : PlayReplied req s t) :
    AnsweredOnce req s t := by
  rcases h with ⟨range, _, rfl⟩
  refine ⟨rfl, playReply s req range, rfl, ?_⟩
  exact ((rfc822ResponseNew_carries req 200).set .range _
    (by decide)).set .rtpInfo _ (by decide)

theorem rtspPlay_answered
    (h : rtspPlay env s req = .ok t) :
    AnsweredOnce req s t := by
  rcases rtspPlay_cases h with hRefused | ⟨_, _, hChecked⟩
  · exact hRefused.once
  · rcases playChecked_cases hChecked with
      ⟨u, hWorked, ⟨_, hRefused⟩ |
        ⟨v, hFixed, ⟨_, _, hRefused⟩ |
          ⟨w, hPlays, _, hReplied⟩⟩⟩
    · exact hRefused.once.from hWorked.answers
    · exact hRefused.once.from
        (hWorked.answers.trans hFixed.answers)
    · exact hReplied.once.from
        ((hWorked.answers.trans hFixed.answers).trans
          hPlays.answers)

end Play

end Feng

------------------------------------------------------------
-- Requests In Order
------------------------------------------------------------

namespace Feng

namespace Play

variable {env : Env} {req : RFC822Request} {s t u : Client}
variable {v last : Nat}

theorem callMethod_answered
    (h : callMethod env s req = .ok t) :
    AnsweredOnce req s t := by
  rcases callMethod_cases h with
    ⟨_, hRefused | hAnswered⟩ | ⟨_, hSetup⟩ | ⟨_, hPlay⟩ |
    ⟨_, hPause⟩ | ⟨_, hTeardown⟩
  · exact hRefused.once
  · exact hAnswered.once
  · exact rtspSetup_answered hSetup
  · exact rtspPlay_answered hPlay
  · exact rtspPause_answered hPause
  · exact rtspTeardown_answered hTeardown

/- A request in order, whatever becomes of it. -/
theorem rtspHandleRequest_answered
    (hNumber : cseqVal req = some v)
    (hOrder : s.rtsp.lastCseq < v)
    (h : rtspHandleRequest env s req = .ok t) :
    AnsweredOnce req (numbered s v) t := by
  rcases rtspHandleRequest_cases h with
    ⟨hNone, _⟩ | ⟨w, hSome, hLe, _⟩ |
    ⟨w, u, hSome, _, hRefused, rfl⟩ |
    ⟨w, u, hReaches, hMethod, rfl⟩
  · rw [hNone] at hNumber
    cases hNumber
  · rw [hSome] at hNumber
    cases hNumber
    exact absurd hOrder (not_lt.mpr hLe)
  · rw [hSome] at hNumber
    cases hNumber
    exact hRefused.once
  · rw [hReaches.number] at hNumber
    cases hNumber
    have hOnce := callMethod_answered hMethod
    exact hOnce

/- Requests whose numbers rise, from one above the last. -/
def Ascending : Nat → List RFC822Request → Prop
| _, [] => True
| last, req :: reqs =>
    ∃ v, cseqVal req = some v ∧ last < v ∧ Ascending v reqs

/- The number of the last of some requests. -/
def lastNumber (last : Nat) (reqs : List RFC822Request) : Nat :=
  (reqs.filterMap cseqVal).getLastD last

/- Requests, one after the other. -/
def handleRequests :
    Client → List (RFC822Request × Env) → Except Fault Client
| s, [] => .ok s
| s, (req, env) :: requests =>
    match rtspHandleRequest env s req with
    | .error fault => .error fault
    | .ok s => handleRequests s requests

/- The response has the number the request has. -/
def Answers
    (req : RFC822Request)
    (response : RFC822Response) : Prop :=
  ∃ cseq,
    rfc822HeadersLookup req.headers .cSeq = some cseq ∧
      rfc822HeadersLookup (some response.headers) .cSeq =
        some cseq

theorem Carries.answers
    {response : RFC822Response}
    (hNumber : cseqVal req = some v)
    (h : Carries req response) :
    Answers req response := by
  cases hHdr : rfc822HeadersLookup req.headers .cSeq with
  | none => simp [cseqVal, hHdr] at hNumber
  | some cseq => exact ⟨cseq, hHdr, h.trans hHdr⟩

theorem lastNumber_cons
    (hNumber : cseqVal req = some v)
    (last : Nat)
    (reqs : List RFC822Request) :
    lastNumber last (req :: reqs) = lastNumber v reqs := by
  unfold lastNumber
  rw [List.filterMap_cons_some hNumber]
  cases reqs.filterMap cseqVal with
  | nil => rfl
  | cons w rest => rfl

/-
  Requests in order get one response each, in the order of the
  requests, and the last number is noted.
-/
theorem requests_answered
    {requests : List (RFC822Request × Env)}
    (hAscending :
      Ascending s.rtsp.lastCseq (requests.map Prod.fst))
    (hHandled : handleRequests s requests = .ok t) :
    ∃ responses,
      t.rtsp.responses = s.rtsp.responses ++ responses ∧
      List.Forall₂ Answers (requests.map Prod.fst)
        responses ∧
      t.rtsp.lastCseq =
        lastNumber s.rtsp.lastCseq
          (requests.map Prod.fst) := by
  induction requests generalizing s with
  | nil =>
      cases hHandled
      exact ⟨[], by simp, .nil, rfl⟩
  | cons request requests ih =>
      rcases request with ⟨req, env⟩
      rcases hAscending with ⟨v, hNumber, hOrder, hRest⟩
      unfold handleRequests at hHandled
      split at hHandled
      · cases hHandled
      · rename_i u hOne
        rcases rtspHandleRequest_answered hNumber hOrder hOne
          with ⟨hLast, response, hResponses, hCarries⟩
        have hLast : u.rtsp.lastCseq = v := hLast
        rw [← hLast] at hRest
        rcases ih hRest hHandled with
          ⟨responses, hQueued, hAnswers, hEnd⟩
        refine ⟨response :: responses, ?_, ?_, ?_⟩
        · rw [hQueued, hResponses]
          simp [numbered]
        · exact .cons (hCarries.answers hNumber) hAnswers
        · rw [hEnd, hLast]
          exact (lastNumber_cons hNumber _ _).symm

theorem requests_answered_sample :
    ∃ t,
      handleRequests clientNew
        [(sampleRequest RTSPMethod.setup 1, sampleEnv 1000),
          (sampleRequest RTSPMethod.play 2, sampleEnv 1000),
          (sampleRequest RTSPMethod.pause 7, sampleEnv 1010)] =
        .ok t ∧
      ∃ responses,
        t.rtsp.responses = [] ++ responses ∧
        List.Forall₂ Answers
          [sampleRequest RTSPMethod.setup 1,
            sampleRequest RTSPMethod.play 2,
            sampleRequest RTSPMethod.pause 7] responses ∧
        t.rtsp.lastCseq =
          lastNumber 0
            [sampleRequest RTSPMethod.setup 1,
              sampleRequest RTSPMethod.play 2,
              sampleRequest RTSPMethod.pause 7] := by
  cases hHandled :
      handleRequests clientNew
        [(sampleRequest RTSPMethod.setup 1, sampleEnv 1000),
          (sampleRequest RTSPMethod.play 2, sampleEnv 1000),
          (sampleRequest RTSPMethod.pause 7,
            sampleEnv 1010)] with
  | error fault =>
      have hOk :
          (handleRequests clientNew
            [(sampleRequest RTSPMethod.setup 1,
                sampleEnv 1000),
              (sampleRequest RTSPMethod.play 2,
                sampleEnv 1000),
              (sampleRequest RTSPMethod.pause 7,
                sampleEnv 1010)]).isOk = true := by
        decide +kernel
      rw [hHandled] at hOk
      cases hOk
  | ok t =>
      refine ⟨t, rfl, requests_answered ?_ hHandled⟩
      exact ⟨1, by decide +kernel, by decide, 2,
        by decide +kernel, by decide, 7, by decide +kernel,
        by decide, trivial⟩

end Play

end Feng
