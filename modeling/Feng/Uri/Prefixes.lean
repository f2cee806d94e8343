import Feng.Uri.Unescape
import Mathlib.Data.List.TakeWhile

/-
  URIs that another one starts with: what is before the last
  slash of a URI is a URI again, and has the same path but for
  the last segment, unless the slash is in a query or nothing
  of the path is behind it.

  Conversely, a URI without a query goes on with a slash and a
  name, and its path is longer by that name.

  Key definitions include:
    * `TrackUrl`
    * `isUnreserved`

  Key theorems include:
    * `uriParse_before_slash`
    * `pathSegments_append`
    * `TrackUrl.segments`
    * `uriParse_behind_slash`
    * `pathSegments_behind_slash`
-/

------------------------------------------------------------
-- Steps That Lead On
------------------------------------------------------------

namespace Feng

variable {cs : Nat} {before url rest : List UInt8}
variable {s t : UriScan} {c : UInt8}

/- A transition that leads on is one of the moves. -/
theorem uriParser_move
    (hState : cs < uriStates)
    (hLive : cs ≠ 0)
    (hTarget : (uriParserTables.transition cs c).1 ≠ 0) :
    ∃ entry,
      entry.Matches c ∧
        (entry.target, entry.actions) =
          uriParserTables.transition cs c ∧
        entry.target < uriStates ∧
        UriMove entry (uriPhase cs) (uriPhase entry.target) =
          true := by
  rcases RagelTables.transition_mem
      (uriParser_sorted cs hState) c with
    ⟨entry, hMem, hMatches, hEq⟩ | hEq
  · rw [hEq] at hTarget
    rcases uriParser_rows cs hState hLive entry hMem hTarget
      with ⟨hBound, hMove⟩
    exact ⟨entry, hMatches, hEq.symm, hBound, hMove⟩
  · rw [hEq] at hTarget
    exact absurd (uriParser_rowDefault cs hState hLive)
      hTarget

/- A scanner that accepts goes on with the first character. -/
theorem uriParser_goes
    (hAccept :
      uriResult (uriParser.exec cs before s (c :: rest)) ≠
        none) :
    (uriParserTables.transition cs c).1 ≠ 0 ∧
    ∃ t,
      ∀ text,
        uriParser.exec cs before s (c :: text) =
          uriParser.exec (uriParserTables.transition cs c).1
            (before ++ [c]) t text := by
  rcases uriParser_plain.run before
      (uriParserTables.transition cs c).2 s with ⟨t, hRun⟩
  have hExec (text : List UInt8) :
      uriParser.exec cs before s (c :: text) =
        if (uriParserTables.transition cs c).1 = 0 then
          .out 0 before.length t
        else
          uriParser.exec (uriParserTables.transition cs c).1
            (before ++ [c]) t text := by
    rcases uriParser_plain.exec_cons cs before s c text with
      ⟨u, hSame, hExec⟩
    have hSame :
        uriParser.run before
            (uriParserTables.transition cs c).2 s =
          .next u :=
      hSame
    rw [hRun] at hSame
    cases hSame
    exact hExec
  have hTarget :
      (uriParserTables.transition cs c).1 ≠ 0 := by
    intro hZero
    rw [hExec, if_pos hZero] at hAccept
    exact hAccept (uriResult_out _ t)
  refine ⟨hTarget, t, ?_⟩
  intro text
  rw [hExec, if_neg hTarget]

/- Where a slash may follow, so may the end of the string. -/
theorem uriParser_slash_end :
    ∀ cs < uriStates, cs ≠ 0 →
      (uriParserTables.transition cs chSlash).1 ≠ 0 →
        cs = 3 ∨ (uriParserTables.transition cs 0).1 = 191 := by
  decide +kernel

/- A scanner accepts what leads to the end of the string. -/
theorem uriResult_end
    (h : (uriParserTables.transition cs 0).1 = 191)
    (before : List UInt8)
    (s : UriScan) :
    uriResult (uriParser.exec cs before s [0]) ≠ none := by
  rcases uriParser_plain.exec_cons cs before s 0 [] with
    ⟨t, _, hExec⟩
  have hExec :
      uriParser.exec cs before s [0] =
        if (uriParserTables.transition cs 0).1 = 0 then
          .out 0 before.length t
        else
          uriParser.exec (uriParserTables.transition cs 0).1
            (before ++ [0]) t [] :=
    hExec
  rw [hExec, h, if_neg (by decide), uriParser_plain.exec_nil]
  simp [uriResult, uriParserFirstFinal]

end Feng

------------------------------------------------------------
-- What Is Before A Slash
------------------------------------------------------------

namespace Feng

variable {cs : Nat} {before url rest track : List UInt8}
variable {s : UriScan}

def notColon (c : UInt8) : Bool :=
  c ≠ chColon

/-
  What is before a slash is accepted too, but for a scheme
  with nothing behind its colon.
-/
theorem exec_before_slash
    (hState : cs < uriStates)
    (hLive : cs ≠ 0)
    (hAccept :
      uriResult
          (uriParser.exec cs before s
            (url ++ chSlash :: rest)) ≠
        none) :
    uriResult (uriParser.exec cs before s (url ++ [0])) ≠
        none ∨
      (uriPhase cs = .colon ∧ url = []) ∨
      (uriPhase cs = .scheme ∧
        url.dropWhile notColon = [chColon]) := by
  induction url generalizing cs before s with
  | nil =>
      have hTarget := (uriParser_goes hAccept).1
      rcases uriParser_slash_end cs hState hLive hTarget with
        rfl | hEnd
      · exact .inr (.inl ⟨rfl, rfl⟩)
      · exact .inl (uriResult_end hEnd before s)
  | cons c url ih =>
      rcases uriParser_goes hAccept with ⟨hTarget, t, hExec⟩
      rcases uriParser_move hState hLive hTarget with
        ⟨entry, hMatches, hEq, hBound, hMove⟩
      have hNext :
          (uriParserTables.transition cs c).1 =
            entry.target :=
        (congrArg Prod.fst hEq).symm
      rw [hNext] at hTarget hExec
      rw [List.cons_append, hExec] at hAccept
      rw [List.cons_append, hExec]
      rcases ih hBound hTarget hAccept with
        hPrefix | ⟨hColon, rfl⟩ | ⟨hScheme, hUrl⟩
      · exact .inl hPrefix
      · rw [hColon] at hMove
        cases hPhase : uriPhase cs
        case scheme =>
          rw [hPhase] at hMove
          simp only [UriMove, Bool.and_eq_true] at hMove
          have hChar :=
            RagelEntry.eq_of_isFor hMove.1 hMatches
          subst hChar
          exact .inr (.inr ⟨rfl, rfl⟩)
        all_goals
          rw [hPhase] at hMove
          cases hMove
      · rw [hScheme] at hMove
        cases hPhase : uriPhase cs
        case scheme =>
          rw [hPhase] at hMove
          simp only [UriMove, Bool.and_eq_true] at hMove
          have hNot := RagelEntry.not_mem_of_avoids hMove.1
            hMatches
          have hChar : notColon c = true := by
            simp only [List.mem_cons, List.not_mem_nil,
              or_false, not_or] at hNot
            simp [notColon, hNot.2]
          refine .inr (.inr ⟨rfl, ?_⟩)
          rw [List.dropWhile_cons, if_pos hChar]
          exact hUrl
        all_goals
          rw [hPhase] at hMove
          cases hMove

end Feng

------------------------------------------------------------
-- The Segments Of A Prefix
------------------------------------------------------------

namespace Feng

variable {url rest track path : List UInt8}

theorem segmentsOf_append
    (path rest : List UInt8) :
    segmentsOf (path ++ chSlash :: rest) =
      segmentsOf path ++ segmentsOf rest := by
  unfold segmentsOf
  rw [List.splitOn_append_cons_self, List.filter_append]

theorem mem_fromSlash :
    fromSlash path = [] ↔ chSlash ∉ path := by
  unfold fromSlash
  rw [List.dropWhile_eq_nil_iff]
  simp only [decide_eq_true_eq]
  exact ⟨fun h hMem => h chSlash hMem rfl,
    fun h c hMem hEq => h (hEq ▸ hMem)⟩

/- What is behind the first slash that is found goes on. -/
theorem segmentsOf_fromSlash_append
    (path rest : List UInt8) :
    segmentsOf (fromSlash (path ++ chSlash :: rest)) =
      segmentsOf (fromSlash path) ++ segmentsOf rest := by
  induction path with
  | nil =>
      rw [List.nil_append, fromSlash_slash, segmentsOf_slash]
      rfl
  | cons c path ih =>
      by_cases hSlash : c = chSlash
      · rw [List.cons_append, hSlash, fromSlash_slash,
          fromSlash_slash, segmentsOf_slash, segmentsOf_slash,
          segmentsOf_append]
      · rw [List.cons_append, fromSlash_cons _ hSlash,
          fromSlash_cons _ hSlash, ih]

theorem segmentsOf_fromSlash_none
    (hSlash : chSlash ∉ path) :
    segmentsOf (fromSlash path) = [] := by
  rw [mem_fromSlash.mpr hSlash]
  rfl

/- Behind a lead, what follows a slash is in the path. -/
theorem behindLead_append
    (hNone : path ≠ [])
    (hSlash : path ≠ [chSlash])
    (rest : List UInt8) :
    segmentsOf (behindLead (path ++ chSlash :: rest)) =
      segmentsOf (behindLead path) ++ segmentsOf rest := by
  cases path with
  | nil => exact absurd rfl hNone
  | cons c path =>
      by_cases hFirst : c = chSlash
      · subst hFirst
        cases path with
        | nil => exact absurd rfl hSlash
        | cons d path =>
            rw [List.cons_append, List.cons_append,
              behindLead_slash_cons, behindLead_slash_cons,
              segmentsOf_fromSlash_append]
      · rw [List.cons_append, behindLead_cons _ hFirst,
          behindLead_cons _ hFirst, segmentsOf_fromSlash_append]

/- In front of the lead there is no path. -/
theorem behindLead_none
    (hSlash : chSlash ∉ rest)
    (hLead : path = [] ∨ path = [chSlash]) :
    segmentsOf (behindLead (path ++ chSlash :: rest)) = [] := by
  rcases hLead with rfl | rfl
  · cases rest with
    | nil => rfl
    | cons d rest =>
        rw [List.mem_cons, not_or] at hSlash
        rw [List.nil_append, behindLead_slash_cons]
        exact segmentsOf_fromSlash_none hSlash.2
  · rw [List.cons_append, List.nil_append,
      behindLead_slash_cons]
    exact segmentsOf_fromSlash_none hSlash

theorem beforeQuery_append
    (hQuestion : chQuestion ∉ url)
    (hHash : chHash ∉ url)
    (rest : List UInt8) :
    beforeQuery (url ++ rest) = url ++ beforeQuery rest := by
  induction url with
  | nil => rfl
  | cons c url ih =>
      rw [List.mem_cons, not_or] at hQuestion hHash
      rw [List.cons_append,
        beforeQuery_cons _ (Ne.symm hQuestion.1)
          (Ne.symm hHash.1),
        ih hQuestion.2 hHash.2]
      rfl

theorem beforeQuery_whole
    (hQuestion : chQuestion ∉ url)
    (hHash : chHash ∉ url) :
    beforeQuery url = url := by
  have hEnd := beforeQuery_append hQuestion hHash []
  rw [List.append_nil] at hEnd
  rw [hEnd, beforeQuery_nil, List.append_nil]

/- What is left behind the first colon. -/
def behindColon (text : List UInt8) : List UInt8 :=
  (text.dropWhile notColon).drop 1

theorem pathSegments_eq
    (text : List UInt8) :
    pathSegments text =
      segmentsOf (behindLead (beforeQuery (behindColon text))) :=
  rfl

theorem behindColon_cons
    (c : UInt8)
    (text : List UInt8) :
    behindColon (c :: text) =
      if c = chColon then text else behindColon text := by
  unfold behindColon
  rw [List.dropWhile_cons]
  by_cases hColon : c = chColon
  · rw [if_neg (by simp [notColon, hColon]), if_pos hColon]
    rfl
  · rw [if_pos (by simp [notColon, hColon]), if_neg hColon]

theorem behindColon_append
    (hColon : chColon ∈ url) :
    behindColon (url ++ rest) = behindColon url ++ rest := by
  induction url with
  | nil => exact absurd hColon List.not_mem_nil
  | cons c url ih =>
      rw [List.cons_append, behindColon_cons, behindColon_cons]
      by_cases hFirst : c = chColon
      · rw [if_pos hFirst, if_pos hFirst]
      · rw [if_neg hFirst, if_neg hFirst]
        rcases List.mem_cons.mp hColon with hEq | hMem
        · exact absurd hEq.symm hFirst
        · exact ih hMem

theorem behindColon_skip
    (hColon : chColon ∉ url)
    (rest : List UInt8) :
    behindColon (url ++ rest) = behindColon rest := by
  induction url with
  | nil => rfl
  | cons c url ih =>
      rw [List.mem_cons, not_or] at hColon
      rw [List.cons_append, behindColon_cons,
        if_neg (Ne.symm hColon.1), ih hColon.2]

theorem behindColon_subset
    (text : List UInt8) :
    behindColon text ⊆ text := by
  intro c hMem
  exact (List.dropWhile_suffix _).subset
    (List.mem_of_mem_drop hMem)

theorem beforeQuery_subset
    (text : List UInt8) :
    beforeQuery text ⊆ text :=
  fun _ hMem => (List.takeWhile_prefix _).subset hMem

/-
  The path before the last slash lacks what is behind it, if
  that slash is not in a query.
-/
theorem pathSegments_append
    (hQuestion : chQuestion ∉ url)
    (hHash : chHash ∉ url)
    (hSlash : chSlash ∉ track)
    (hSome : pathSegments (url ++ chSlash :: track) ≠ []) :
    pathSegments (url ++ chSlash :: track) =
      pathSegments url ++ segmentsOf (beforeQuery track) := by
  have hNoSlash : chSlash ∉ beforeQuery track :=
    fun hMem => hSlash (beforeQuery_subset track hMem)
  rw [pathSegments_eq] at hSome
  rw [pathSegments_eq, pathSegments_eq]
  by_cases hColon : chColon ∈ url
  · have hIn : behindColon url ⊆ url := behindColon_subset url
    have hFirst : chQuestion ∉ behindColon url :=
      fun hMem => hQuestion (hIn hMem)
    have hSecond : chHash ∉ behindColon url :=
      fun hMem => hHash (hIn hMem)
    have hWhole :
        beforeQuery (behindColon (url ++ chSlash :: track)) =
          behindColon url ++ chSlash :: beforeQuery track := by
      rw [behindColon_append hColon,
        beforeQuery_append hFirst hSecond,
        beforeQuery_cons _ (by decide) (by decide)]
    rw [hWhole] at hSome ⊢
    rw [beforeQuery_whole hFirst hSecond]
    apply behindLead_append
    · intro hIs
      exact hSome (behindLead_none hNoSlash (.inl hIs))
    · intro hIs
      exact hSome (behindLead_none hNoSlash (.inr hIs))
  · rw [behindColon_skip hColon, behindColon_cons,
      if_neg (by decide)] at hSome
    have hNone :
        chSlash ∉ beforeQuery (behindColon track) :=
      fun hMem =>
        hSlash (behindColon_subset track
          (beforeQuery_subset _ hMem))
    refine absurd ?_ hSome
    cases hHier : beforeQuery (behindColon track) with
    | nil => rfl
    | cons c hier =>
        rw [hHier, List.mem_cons, not_or] at hNone
        rw [behindLead_cons _ (Ne.symm hNone.1)]
        exact segmentsOf_fromSlash_none hNone.2

/- So what is before the last slash is a URI with that path. -/
theorem uriParse_before_slash
    (hSlash : chSlash ∉ track)
    (hParse : uriParse (url ++ chSlash :: track) ≠ none)
    (hSome : pathSegments (url ++ chSlash :: track) ≠ []) :
    uriParse url ≠ none := by
  rw [uriParse_eq, List.append_assoc, List.cons_append]
    at hParse
  rw [uriParse_eq]
  rcases exec_before_slash (by decide) (by decide) hParse with
    hPrefix | ⟨hPhase, _⟩ | ⟨_, hUrl⟩
  · exact hPrefix
  · exact absurd hPhase (by decide)
  · have hColon : chColon ∈ url := by
      have hLast : chColon ∈ url.dropWhile notColon := by
        rw [hUrl]
        exact List.mem_singleton_self _
      exact (List.dropWhile_suffix _).subset hLast
    have hNothing : behindColon url = [] := by
      unfold behindColon
      rw [hUrl]
      rfl
    have hNoSlash : chSlash ∉ beforeQuery track :=
      fun hMem => hSlash (beforeQuery_subset track hMem)
    rw [pathSegments_eq, behindColon_append hColon, hNothing,
      List.nil_append, beforeQuery_cons _ (by decide)
        (by decide)] at hSome
    exact absurd (behindLead_none hNoSlash (.inl rfl)) hSome

end Feng

------------------------------------------------------------
-- The URLs Of Tracks
------------------------------------------------------------

namespace Feng

variable {object : List UInt8}

theorem afterLastSlash_not_mem
    (object : List UInt8) :
    chSlash ∉ afterLastSlash object := by
  intro hMem
  unfold afterLastSlash at hMem
  have hChar :=
    List.mem_takeWhile_imp (List.mem_reverse.mp hMem)
  simp at hChar

theorem lastSlash_split
    (hSlash : chSlash ∈ object) :
    beforeLastSlash object ++
        chSlash :: afterLastSlash object =
      object := by
  have hRest :
      object.reverse.dropWhile (fun c => c ≠ chSlash) ≠ [] := by
    intro hNone
    rw [List.dropWhile_eq_nil_iff] at hNone
    have hNot := hNone chSlash (List.mem_reverse.mpr hSlash)
    simp at hNot
  cases hDrop :
      object.reverse.dropWhile (fun c => c ≠ chSlash) with
  | nil => exact absurd hDrop hRest
  | cons c rest =>
      have hFirst : c = chSlash := by
        have hHead := List.head_dropWhile_not
          (fun c => decide (c ≠ chSlash)) hRest
        simp only [hDrop, List.head_cons,
          decide_eq_false_iff_not, not_not] at hHead
        exact hHead
      have hSplit := List.takeWhile_append_dropWhile
        (p := fun c => decide (c ≠ chSlash))
        (l := object.reverse)
      rw [hDrop, hFirst] at hSplit
      unfold beforeLastSlash afterLastSlash
      rw [hDrop, hFirst]
      have hWhole := congrArg List.reverse hSplit
      rw [List.reverse_reverse, List.reverse_append,
        List.reverse_cons, List.append_assoc] at hWhole
      exact hWhole

/-
  The last slash of the object is in its path, and so is what
  is behind it.
-/
def TrackUrl (object : List UInt8) : Prop :=
  chQuestion ∉ beforeLastSlash object ∧
    chHash ∉ beforeLastSlash object ∧
    beforeQuery (afterLastSlash object) ≠ []

instance decidableTrackUrl : DecidablePred TrackUrl :=
  fun object =>
    inferInstanceAs
      (Decidable
        (chQuestion ∉ beforeLastSlash object ∧
          chHash ∉ beforeLastSlash object ∧
          beforeQuery (afterLastSlash object) ≠ []))

/- It is cut where its path is. -/
theorem TrackUrl.segments
    (h : TrackUrl object)
    (hSlash : chSlash ∈ object)
    (hSome : pathSegments object ≠ []) :
    pathSegments object =
      pathSegments (beforeLastSlash object) ++
        [beforeQuery (afterLastSlash object)] := by
  rcases h with ⟨hQuestion, hHash, hTrack⟩
  have hNoSlash := afterLastSlash_not_mem object
  have hSplit := lastSlash_split hSlash
  have hSegments := pathSegments_append hQuestion hHash
    hNoSlash (by rw [hSplit]; exact hSome)
  rw [hSplit, segmentsOf_single _ hTrack] at hSegments
  · exact hSegments
  · exact fun hMem =>
      hNoSlash (beforeQuery_subset _ hMem)

end Feng

------------------------------------------------------------
-- URIs That Go On
------------------------------------------------------------

namespace Feng

variable {cs : Nat} {before object rest track : List UInt8}
variable {s : UriScan}

/- The characters of a track name that SETUP takes. -/
def isUnreserved (c : UInt8) : Bool :=
  (48 ≤ c && c ≤ 57) || (97 ≤ c && c ≤ 122) ||
    (65 ≤ c && c ≤ 90) || c = 45 || c = 46 || c = 95 ||
    c = 126

/- Behind a slash, and behind a name that follows it. -/
def trackStates : List Nat :=
  [11, 12, 20, 21]

theorem uriParser_name :
    ∀ cs ∈ trackStates, ∀ n < 256,
      isUnreserved (UInt8.ofNat n) = true →
        (uriParserTables.transition cs (UInt8.ofNat n)).1 ∈
          [12, 21] := by
  decide +kernel

theorem uriParser_name_end :
    ∀ cs ∈ trackStates,
      (uriParserTables.transition cs 0).1 = 191 := by
  decide

/- Where the string may end, a slash may follow. -/
theorem uriParser_end_slash :
    ∀ cs < uriStates,
      cs = 0 ∨ uriPhase cs = .tail ∨
        (uriParserTables.transition cs 0).1 < 191 ∨
        (uriParserTables.transition cs chSlash).1 ∈
          [11, 20] := by
  decide +kernel

/- Only a question mark or a hash sign leads to a query. -/
theorem uriMove_tail
    {entry : RagelEntry}
    {phase : UriPhase}
    {c : UInt8}
    (hMove : UriMove entry phase .tail = true)
    (hMatches : entry.Matches c)
    (hPhase : phase ≠ .tail) :
    c = chQuestion ∨ c = chHash := by
  have hFor
      (h : (entry.isFor chQuestion || entry.isFor chHash) =
        true) :
      c = chQuestion ∨ c = chHash := by
    rcases Bool.or_eq_true_iff.mp h with hIs | hIs
    · exact .inl (RagelEntry.eq_of_isFor hIs hMatches)
    · exact .inr (RagelEntry.eq_of_isFor hIs hMatches)
  cases phase with
  | slash => exact hFor (Bool.and_eq_true_iff.mp hMove).1
  | lead => exact hFor (Bool.and_eq_true_iff.mp hMove).1
  | slashes => exact hFor (Bool.and_eq_true_iff.mp hMove).1
  | segment => exact hFor (Bool.and_eq_true_iff.mp hMove).1
  | tail => exact absurd rfl hPhase
  | scheme => cases hMove
  | colon => cases hMove
  | percent => cases hMove
  | digit => cases hMove
  | done => cases hMove

/- Step by step, while the tables lead on. -/
theorem uriParser_exec_goto
    {c : UInt8}
    (hTarget : (uriParserTables.transition cs c).1 ≠ 0)
    (before : List UInt8)
    (s : UriScan)
    (rest : List UInt8) :
    ∃ t,
      uriParser.exec cs before s (c :: rest) =
        uriParser.exec (uriParserTables.transition cs c).1
          (before ++ [c]) t rest := by
  rcases uriParser_plain.exec_cons cs before s c rest with
    ⟨t, _, hExec⟩
  have hExec :
      uriParser.exec cs before s (c :: rest) =
        if (uriParserTables.transition cs c).1 = 0 then
          .out 0 before.length t
        else
          uriParser.exec (uriParserTables.transition cs c).1
            (before ++ [c]) t rest :=
    hExec
  rw [if_neg hTarget] at hExec
  exact ⟨t, hExec⟩

theorem exec_name
    (hState : cs ∈ trackStates)
    (hName : ∀ c ∈ track, isUnreserved c = true)
    (before : List UInt8)
    (s : UriScan) :
    uriResult (uriParser.exec cs before s (track ++ [0])) ≠
      none := by
  induction track generalizing cs before s with
  | nil =>
      exact uriResult_end (uriParser_name_end cs hState)
        before s
  | cons c track ih =>
      rcases List.forall_mem_cons.mp hName with
        ⟨hFirst, hRest⟩
      have hNext := uriParser_name cs hState c.toNat
        (UInt8.toNat_lt c)
      rw [UInt8.ofNat_toNat] at hNext
      have hTarget := hNext hFirst
      have hLive :
          (uriParserTables.transition cs c).1 ≠ 0 := by
        intro hZero
        rw [hZero] at hTarget
        exact absurd hTarget (by decide)
      have hIn :
          (uriParserTables.transition cs c).1 ∈
            trackStates := by
        rcases List.mem_pair.mp hTarget with hIs | hIs
        · rw [hIs]
          decide
        · rw [hIs]
          decide
      rcases uriParser_exec_goto hLive before s
        (track ++ [0]) with ⟨t, hExec⟩
      rw [List.cons_append, hExec]
      exact ih hIn hRest _ t

/- A URI without a query goes on with a slash and a name. -/
theorem exec_behind_slash
    (hState : cs < uriStates)
    (hLive : cs ≠ 0)
    (hPhase : uriPhase cs ≠ .tail)
    (hQuestion : chQuestion ∉ object)
    (hHash : chHash ∉ object)
    (hName : ∀ c ∈ track, isUnreserved c = true)
    (hAccept :
      uriResult
          (uriParser.exec cs before s (object ++ [0])) ≠
        none) :
    uriResult
        (uriParser.exec cs before s
          (object ++ chSlash :: (track ++ [0]))) ≠
      none := by
  induction object generalizing cs before s with
  | nil =>
      rcases uriParser_goes hAccept with ⟨hTarget, t, hExec⟩
      have hFinal :
          191 ≤ (uriParserTables.transition cs 0).1 := by
        have hEnd := hExec []
        rw [uriParser_plain.exec_nil] at hEnd
        rw [List.nil_append, hEnd] at hAccept
        by_contra hLess
        apply hAccept
        unfold uriResult uriParserFirstFinal
        exact if_pos (by omega)
      have hSlash :
          (uriParserTables.transition cs chSlash).1 ∈
            [11, 20] := by
        rcases uriParser_end_slash cs hState with
          hZero | hTail | hLess | hSlash
        · exact absurd hZero hLive
        · exact absurd hTail hPhase
        · exact absurd hLess (Nat.not_lt.mpr hFinal)
        · exact hSlash
      have hNext :
          (uriParserTables.transition cs chSlash).1 ≠ 0 := by
        intro hZero
        rw [hZero] at hSlash
        exact absurd hSlash (by decide)
      have hIn :
          (uriParserTables.transition cs chSlash).1 ∈
            trackStates := by
        rcases List.mem_pair.mp hSlash with hIs | hIs
        · rw [hIs]
          decide
        · rw [hIs]
          decide
      rcases uriParser_exec_goto hNext before s
        (track ++ [0]) with ⟨u, hGoto⟩
      rw [List.nil_append, hGoto]
      exact exec_name hIn hName _ u
  | cons c object ih =>
      rw [List.mem_cons, not_or] at hQuestion hHash
      rcases uriParser_goes hAccept with ⟨hTarget, t, hExec⟩
      rcases uriParser_move hState hLive hTarget with
        ⟨entry, hMatches, hEq, hBound, hMove⟩
      have hNext :
          (uriParserTables.transition cs c).1 =
            entry.target :=
        (congrArg Prod.fst hEq).symm
      rw [hNext] at hTarget hExec
      rw [List.cons_append, hExec] at hAccept ⊢
      have hNoTail : uriPhase entry.target ≠ .tail := by
        intro hTail
        rw [hTail] at hMove
        rcases uriMove_tail hMove hMatches hPhase with
          hIs | hIs
        · exact hQuestion.1 hIs.symm
        · exact hHash.1 hIs.symm
      exact ih hBound hTarget hNoTail hQuestion.2 hHash.2
        hAccept

end Feng

------------------------------------------------------------
-- Schemes
------------------------------------------------------------

namespace Feng

variable {cs : Nat} {before object hier rest : List UInt8}
variable {text : List UInt8} {s : UriScan}

/- What ends a scheme, or an authority, is not in a scheme. -/
def SchemeChar (c : UInt8) : Prop :=
  c ≠ chColon ∧ c ≠ chSlash ∧ c ≠ chQuestion ∧ c ≠ chHash

theorem uriParser_scheme :
    ∀ cs ∈ [1, 2],
      ∀ c ∈ [0, chSlash, chQuestion, chHash],
        (uriParserTables.transition cs c).1 = 0 := by
  decide

theorem uriPhase_scheme
    (h : uriPhase cs = .scheme) :
    cs ∈ [1, 2] := by
  unfold uriPhase at h
  split at h
  · rename_i hIs
    exact List.mem_pair.mpr hIs
  · split_ifs at h

/- What is accepted has a scheme, and a colon behind it. -/
theorem exec_scheme
    (hState : cs < uriStates)
    (hPhase : uriPhase cs = .scheme)
    (hAccept :
      uriResult (uriParser.exec cs before s (text ++ [0])) ≠
        none) :
    ∃ scheme hier,
      text = scheme ++ chColon :: hier ∧
        ∀ c ∈ scheme, SchemeChar c := by
  have hIn := uriPhase_scheme hPhase
  have hLive : cs ≠ 0 := by
    rintro rfl
    exact absurd hIn (by decide)
  induction text generalizing cs before s with
  | nil =>
      have hTarget := (uriParser_goes hAccept).1
      exact absurd
        (uriParser_scheme cs hIn 0 List.mem_cons_self) hTarget
  | cons c text ih =>
      rcases uriParser_goes hAccept with ⟨hTarget, t, hExec⟩
      rcases uriParser_move hState hLive hTarget with
        ⟨entry, hMatches, hEq, hBound, hMove⟩
      have hNext :
          (uriParserTables.transition cs c).1 =
            entry.target :=
        (congrArg Prod.fst hEq).symm
      have hChar : c ∉ [0, chSlash, chQuestion, chHash] :=
        fun hMem =>
          hTarget (uriParser_scheme cs hIn c hMem)
      rw [hNext] at hTarget hExec
      rw [List.cons_append, hExec] at hAccept
      rw [hPhase] at hMove
      cases hThere : uriPhase entry.target
      case scheme =>
        rw [hThere] at hMove
        simp only [UriMove, Bool.and_eq_true] at hMove
        have hNot :=
          RagelEntry.not_mem_of_avoids hMove.1 hMatches
        rcases ih hBound hThere hAccept
            (uriPhase_scheme hThere) hTarget with
          ⟨scheme, hier, rfl, hScheme⟩
        have hFirst : SchemeChar c := by
          refine ⟨?_, ?_, ?_, ?_⟩
          · rintro rfl
            exact hNot (by decide)
          · rintro rfl
            exact hChar (by decide)
          · rintro rfl
            exact hChar (by decide)
          · rintro rfl
            exact hChar (by decide)
        exact ⟨c :: scheme, hier, rfl,
          List.forall_mem_cons.mpr ⟨hFirst, hScheme⟩⟩
      case colon =>
        rw [hThere] at hMove
        simp only [UriMove, Bool.and_eq_true] at hMove
        have hColon :=
          RagelEntry.eq_of_isFor hMove.1 hMatches
        subst hColon
        exact ⟨[], text, rfl,
          fun _ hMem => absurd hMem List.not_mem_nil⟩
      all_goals
        rw [hThere] at hMove
        cases hMove

theorem uriParse_scheme
    (hParse : uriParse text ≠ none) :
    ∃ scheme hier,
      text = scheme ++ chColon :: hier ∧
        ∀ c ∈ scheme, SchemeChar c := by
  rw [uriParse_eq] at hParse
  exact exec_scheme (by decide) rfl hParse

/- What follows a query is not in the path. -/
theorem beforeQuery_stops
    (hQuery : chQuestion ∈ hier ∨ chHash ∈ hier)
    (rest : List UInt8) :
    beforeQuery (hier ++ rest) = beforeQuery hier := by
  induction hier with
  | nil =>
      rcases hQuery with hMem | hMem
      · cases hMem
      · cases hMem
  | cons c hier ih =>
      by_cases hHere : c = chQuestion ∨ c = chHash
      · rw [List.cons_append, beforeQuery_query _ hHere,
          beforeQuery_query _ hHere]
      · rw [not_or] at hHere
        rw [List.cons_append,
          beforeQuery_cons _ hHere.1 hHere.2,
          beforeQuery_cons _ hHere.1 hHere.2, ih]
        rcases hQuery with hMem | hMem
        · rcases List.mem_cons.mp hMem with hIs | hMem
          · exact absurd hIs.symm hHere.1
          · exact .inl hMem
        · rcases List.mem_cons.mp hMem with hIs | hMem
          · exact absurd hIs.symm hHere.2
          · exact .inr hMem

theorem pathSegments_stops
    (hParse : uriParse object ≠ none)
    (hQuery : chQuestion ∈ object ∨ chHash ∈ object)
    (rest : List UInt8) :
    pathSegments (object ++ rest) = pathSegments object := by
  rcases uriParse_scheme hParse with
    ⟨scheme, hier, rfl, hScheme⟩
  have hNoColon : chColon ∉ scheme :=
    fun hMem => (hScheme _ hMem).1 rfl
  have hBehind (more : List UInt8) :
      behindColon (scheme ++ chColon :: more) = more := by
    rw [behindColon_skip hNoColon, behindColon_cons,
      if_pos rfl]
  have hHier : chQuestion ∈ hier ∨ chHash ∈ hier := by
    rcases hQuery with hMem | hMem
    · rcases List.mem_append.mp hMem with hIn | hIn
      · exact absurd rfl (hScheme _ hIn).2.2.1
      · rcases List.mem_cons.mp hIn with hIs | hIn
        · cases hIs
        · exact .inl hIn
    · rcases List.mem_append.mp hMem with hIn | hIn
      · exact absurd rfl (hScheme _ hIn).2.2.2
      · rcases List.mem_cons.mp hIn with hIs | hIn
        · cases hIs
        · exact .inr hIn
  rw [pathSegments_eq, pathSegments_eq, List.append_assoc,
    List.cons_append, hBehind, hBehind,
    beforeQuery_stops hHier]

theorem isUnreserved_not
    {track : List UInt8}
    (hName : ∀ c ∈ track, isUnreserved c = true) :
    chSlash ∉ track ∧ beforeQuery track = track := by
  constructor
  · intro hMem
    exact absurd (hName _ hMem) (by decide)
  · unfold beforeQuery
    rw [List.takeWhile_eq_self_iff]
    intro c hMem
    have hChar := hName c hMem
    simp only [Bool.and_eq_true, decide_eq_true_eq]
    constructor
    · rintro rfl
      exact absurd hChar (by decide)
    · rintro rfl
      exact absurd hChar (by decide)

/- A URI with a path goes on with a slash and a name. -/
theorem uriParse_behind_slash
    {track : List UInt8}
    (hParse : uriParse object ≠ none)
    (hQuestion : chQuestion ∉ object)
    (hHash : chHash ∉ object)
    (hName : ∀ c ∈ track, isUnreserved c = true) :
    uriParse (object ++ chSlash :: track) ≠ none := by
  rw [uriParse_eq] at hParse
  rw [uriParse_eq, List.append_assoc, List.cons_append]
  exact exec_behind_slash (by decide) (by decide) (by decide)
    hQuestion hHash hName hParse

/- Its path is then longer by that name. -/
theorem pathSegments_behind_slash
    {track : List UInt8}
    (hQuestion : chQuestion ∉ object)
    (hHash : chHash ∉ object)
    (hName : ∀ c ∈ track, isUnreserved c = true)
    (hTrack : track ≠ [])
    (hSome : pathSegments object ≠ []) :
    pathSegments (object ++ chSlash :: track) =
      pathSegments object ++ [track] := by
  rcases isUnreserved_not hName with ⟨hSlash, hPlain⟩
  have hColon : chColon ∈ object := by
    by_contra hNone
    have hNothing : behindColon object = [] := by
      have hSkip := behindColon_skip hNone []
      rw [List.append_nil] at hSkip
      exact hSkip
    rw [pathSegments_eq, hNothing] at hSome
    exact hSome rfl
  have hIn : behindColon object ⊆ object :=
    behindColon_subset object
  have hFirst : chQuestion ∉ behindColon object :=
    fun hMem => hQuestion (hIn hMem)
  have hSecond : chHash ∉ behindColon object :=
    fun hMem => hHash (hIn hMem)
  have hAlone := beforeQuery_whole hFirst hSecond
  rw [pathSegments_eq, hAlone] at hSome
  rw [pathSegments_eq, pathSegments_eq, hAlone,
    behindColon_append hColon,
    beforeQuery_append hFirst hSecond,
    beforeQuery_cons _ (by decide) (by decide), hPlain,
    behindLead_append, segmentsOf_single hSlash hTrack]
  · intro hIs
    rw [hIs] at hSome
    exact hSome rfl
  · intro hIs
    rw [hIs] at hSome
    exact hSome rfl

end Feng
