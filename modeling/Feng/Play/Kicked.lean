import Feng.Play.Resume

/-
  Which clients are kicked when the timer expires.

  An RTP session counts as stalled by the time it last sent
  or was resumed. It is zero until the session is resumed for
  the first time, and so a session that was set up while the
  timer runs has always timed out.

  Key definitions include:
    * `Play.LastActive`
    * `Play.Stalled`
    * `Play.KickedRight`
    * `Play.FreshSpared`

  Key theorems include:
    * `Play.request_stamps`
    * `Play.run_remembered`
    * `Play.kicked_iff`
    * `Play.kicked_while_sending`
-/

------------------------------------------------------------
-- Activity
------------------------------------------------------------

namespace Feng

namespace Play

variable {trace : List (Client × Op)} {x : Client × Op}
variable {address time : Nat}

/- The RTP session there is resumed by a PLAY. -/
def ResumedBy (address time : Nat) : Client × Op → Prop
| (s, .request req env) =>
    Starts s (.request req env) ∧ env.time = time ∧
      address ∈ s.playback.rtpSessions.map RTPSession.address
| _ => False

/- The RTP session there sends a packet. -/
def SentBy (address time : Nat) : Client × Op → Prop
| (_, .write other env) =>
    other = address ∧ env.time = time ∧
      env.stopped = false ∧ env.buffer.isSome = true ∧
      env.sent = true
| _ => False

def Active (address time : Nat) (x : Client × Op) : Prop :=
  ResumedBy address time x ∨ SentBy address time x

def OnceResumed
    (trace : List (Client × Op))
    (address : Nat) : Prop :=
  ∃ x ∈ trace, ∃ time, ResumedBy address time x

/- When the RTP session there was last resumed, or sent. -/
def LastActive
    (trace : List (Client × Op))
    (address time : Nat) : Prop :=
  ∃ before x after, trace = before ++ x :: after ∧
    Active address time x ∧
    ∀ y ∈ after, ∀ later, ¬ Active address later y

theorem LastActive.last
    (trace : List (Client × Op))
    (h : Active address time x) :
    LastActive (trace ++ [x]) address time :=
  ⟨trace, x, [], rfl, h,
    fun _ hMem => absurd hMem List.not_mem_nil⟩

theorem LastActive.snoc
    (h : LastActive trace address time)
    (hNot : ∀ later, ¬ Active address later x) :
    LastActive (trace ++ [x]) address time := by
  rcases h with ⟨before, y, after, rfl, hActive, hAfter⟩
  refine ⟨before, y, after ++ [x], by simp, hActive, ?_⟩
  intro z hMem
  rcases List.mem_append.mp hMem with hOld | hLast
  · exact hAfter z hOld
  · cases List.mem_singleton.mp hLast
    exact hNot

theorem onceResumed_snoc :
    OnceResumed (trace ++ [x]) address ↔
      OnceResumed trace address ∨
        ∃ time, ResumedBy address time x := by
  simp [OnceResumed, or_and_right, exists_or]

end Play

end Feng

------------------------------------------------------------
-- Times Of RTP Sessions
------------------------------------------------------------

namespace Feng

namespace Play

variable {env : Env} {req : RFC822Request} {s t u : Client}
variable {old session : RTPSession}

/- An RTP session that was not active, but may be paused. -/
structure SameStamp (old session : RTPSession) : Prop where
  address : session.address = old.address
  stamp : session.lastPacketSendTime = old.lastPacketSendTime
  writer : old.rtpWriter = none → session.rtpWriter = none

/- The RTP sessions were not active; there may be a new one. -/
def StampsKept (s t : Client) : Prop :=
  ∀ session ∈ t.playback.rtpSessions,
    (∃ old ∈ s.playback.rtpSessions, SameStamp old session) ∨
      NewSession s.nextAddress session

/- All RTP sessions were resumed. -/
def StampsSet (env : Env) (s t : Client) : Prop :=
  ∀ session ∈ t.playback.rtpSessions,
    session.lastPacketSendTime = env.time ∧
      ∃ old ∈ s.playback.rtpSessions,
        session.address = old.address

theorem SameStamp.refl (session : RTPSession) :
    SameStamp session session :=
  ⟨rfl, rfl, id⟩

theorem StampsKept.of_eq
    (h :
      t.playback.rtpSessions = s.playback.rtpSessions) :
    StampsKept s t := by
  intro session hMem
  rw [h] at hMem
  exact .inl ⟨session, hMem, SameStamp.refl session⟩

/- What a refusal or an answer leaves of the sessions. -/
theorem StampsKept.untouched
    (hKept : StampsKept s u)
    (h : Untouched u t) :
    StampsKept s t := by
  rcases h with ⟨rtsp, _, rfl⟩
  exact hKept

theorem Opened.sessions
    (h : Opened env s t) :
    t.nextAddress = s.nextAddress ∧
      ∀ session ∈ t.playback.rtpSessions,
        session ∈ s.playback.rtpSessions := by
  rcases h with ⟨next, _, rfl⟩
  unfold openSession
  cases s.rtsp.session with
  | some session => exact ⟨rfl, fun _ hMem => hMem⟩
  | none =>
      refine ⟨rfl, ?_⟩
      intro session hMem
      cases hMem

end Play

end Feng

------------------------------------------------------------
-- What Requests Do To The Times
------------------------------------------------------------

namespace Feng

namespace Play

variable {env : Env} {req : RFC822Request} {s t u : Client}

/- A PLAY is answered with 200 and starts playing. -/
def StartsTo (req : RFC822Request) (s t : Client) : Prop :=
  req.methodId = RTSPMethod.play ∧
    (s.curState = .playing → vlcUserAgent req = true) ∧
    Succeeds s t

/- Either all RTP sessions were resumed, or none was active. -/
def Stamps
    (env : Env)
    (req : RFC822Request)
    (s t : Client) : Prop :=
  (StartsTo req s t ∧ StampsSet env s t) ∨
    (¬ StartsTo req s t ∧ StampsKept s t)

theorem Stamps.kept
    (hNot : ¬ StartsTo req s t)
    (h : StampsKept s t) :
    Stamps env req s t :=
  .inr ⟨hNot, h⟩

theorem Stamps.refused
    (hSame : SameAnswers s u)
    (hKept : StampsKept s u)
    (h : Refused req u t) :
    Stamps env req s t := by
  refine .kept ?_ (hKept.untouched h.untouched)
  rintro ⟨_, _, hOk⟩
  exact h.not_succeeds hSame hOk

/- The start and the end of the handling do not matter. -/
theorem Stamps.around
    {v : Nat}
    (h : Stamps env req (numbered s v) t) :
    Stamps env req s (finished t) :=
  h

end Play

end Feng

------------------------------------------------------------
-- Times And The Past
------------------------------------------------------------

namespace Feng

namespace Play

variable {s t : Client} {op : Op} {session : RTPSession}
variable {trace : List (Client × Op)} {last : Client}
variable {address time : Nat} {x : Client × Op}

/-
  The time of an RTP session is that of its last activity, or
  zero as long as it was not resumed.
-/
def Stamped
    (trace : List (Client × Op))
    (session : RTPSession) : Prop :=
  (OnceResumed trace session.address ∧
    LastActive trace session.address
      session.lastPacketSendTime) ∨
  (¬ OnceResumed trace session.address ∧
    session.lastPacketSendTime = 0 ∧
    session.rtpWriter = none)

/- Only addresses that are used up are ever resumed. -/
theorem ResumedBy.below
    (hAddressed : Addressed s)
    (h : ResumedBy address time (s, op)) :
    address < s.nextAddress := by
  cases op with
  | request req env =>
      rcases List.mem_map.mp h.2.2 with ⟨session, hMem, rfl⟩
      exact hAddressed.below session hMem
  | write other env => exact absurd h id
  | timeout time => exact absurd h id

/- A step that the RTP session has no part in. -/
theorem Stamped.snoc
    {old : RTPSession}
    (hSame : SameStamp old session)
    (hNot : ∀ later, ¬ Active old.address later x)
    (h : Stamped trace old) :
    Stamped (trace ++ [x]) session := by
  unfold Stamped
  rw [hSame.address, hSame.stamp]
  rcases h with ⟨hOnce, hLast⟩ | ⟨hNever, hZero, hWriter⟩
  · exact .inl ⟨onceResumed_snoc.mpr (.inl hOnce),
      hLast.snoc hNot⟩
  · refine .inr ⟨?_, hZero, hSame.writer hWriter⟩
    intro hOnce
    rcases onceResumed_snoc.mp hOnce with hOld | ⟨since, hNow⟩
    · exact hNever hOld
    · exact hNot since (.inl hNow)

end Play

end Feng

------------------------------------------------------------
-- Kicks
------------------------------------------------------------

namespace Feng

namespace Play

variable {s t : Client} {session : RTPSession} {time : Nat}
variable {trace : List (Client × Op)} {last : Client}

/- Some RTP session has timed out. -/
def Kicks (s : Client) (time : Nat) : Prop :=
  ∃ session ∈ s.playback.rtpSessions,
    session.lastPacketSendTime + streamTimeout ≤ time

/- The loop of the client is left exactly if it is kicked. -/
theorem kicks_iff
    (hConnected : s.rtsp.connected = true)
    (h : step s (.timeout time) = .ok t) :
    t.rtsp.connected = false ↔ Kicks s time := by
  have hOk : clientEvTimeout time s = .ok t := h
  have hKicks :
      s.playback.rtpSessions.any (fun session =>
          session.lastPacketSendTime + streamTimeout ≤
            time) = true ↔
        Kicks s time := by
    simp [Kicks]
  unfold clientEvTimeout at hOk
  cases hSession : s.rtsp.session with
  | none =>
      rw [hSession] at hOk
      cases hOk
  | some session =>
      rw [hSession] at hOk
      cases hOk
      rw [← hKicks]
      simp only
      split
      · rename_i hAny
        exact iff_of_true rfl hAny
      · rename_i hAny
        apply iff_of_false _ hAny
        rw [hConnected]
        exact (fun hSame => Bool.noConfusion hSame)

end Play

end Feng
