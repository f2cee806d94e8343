import Feng.Uri.Phases

/-
  The path of a URI: the segments a string stands for, read
  off the string, and the proof that the scanner finds them.

  In each phase of the scanner, what is still to be pushed is
  a function of the characters to come.

  Key definitions include:
    * `pathSegments`
    * `joinSegments`
    * `Escaped`
    * `remainingSegments`

  Key theorems include:
    * `uriParse_path`
-/

------------------------------------------------------------
-- Steps Of The Scanner
------------------------------------------------------------

namespace Feng

namespace RagelEntry

variable {entry : RagelEntry} {c : UInt8}

theorem eq_of_isFor
    {d : UInt8}
    (hFor : entry.isFor d = true)
    (hMatches : entry.Matches c) :
    c = d := by
  simp only [isFor, Bool.and_eq_true, decide_eq_true_eq]
    at hFor
  have hLow := hMatches.1
  have hHigh := hMatches.2.1
  apply UInt8.toNat_inj.mp
  omega

theorem not_mem_of_avoids
    {cs : List UInt8}
    (hAvoids : entry.avoids cs = true)
    (hMatches : entry.Matches c) :
    c ∉ cs := by
  intro hMem
  have hOut := List.all_eq_true.mp hAvoids c hMem
  simp only [Bool.or_eq_true, decide_eq_true_eq,
    List.contains_iff_mem] at hOut
  have hLow := hMatches.1
  have hHigh := hMatches.2.1
  rcases hOut with (hOut | hOut) | hOut
  · omega
  · omega
  · exact hMatches.2.2 hOut

end RagelEntry

def isHex (c : UInt8) : Bool :=
  (48 ≤ c && c ≤ 57) || (65 ≤ c && c ≤ 70) ||
    (97 ≤ c && c ≤ 102)

theorem RagelEntry.isHex_of_forHex
    {entry : RagelEntry}
    {c : UInt8}
    (hFor : entry.forHex = true)
    (hMatches : entry.Matches c) :
    isHex c = true := by
  have hLow := hMatches.1
  have hHigh := hMatches.2.1
  simp only [forHex, Bool.or_eq_true, Bool.and_eq_true,
    decide_eq_true_eq] at hFor
  simp only [isHex, Bool.or_eq_true, Bool.and_eq_true,
    decide_eq_true_eq, UInt8.le_iff_toNat_le]
  change
    ((48 ≤ c.toNat ∧ c.toNat ≤ 57) ∨
        (65 ≤ c.toNat ∧ c.toNat ≤ 70)) ∨
      (97 ≤ c.toNat ∧ c.toNat ≤ 102)
  omega

variable {cs target : Nat}
variable {before : List UInt8} {s t : UriScan} {c : UInt8}

theorem uriParser_plain :
    uriParser.Plain := by
  constructor
  · rfl
  · rfl
  · rfl
  · intro action before s
    change ∃ t, uriAction action before s = .next t
    unfold uriAction
    split <;> exact ⟨_, rfl⟩

/-
  Reading one character more, a scanner that goes on makes a
  move of its tables.
-/
theorem uriParser_step
    (hState : cs < uriStates)
    (hLive : cs ≠ 0)
    (before : List UInt8)
    (s : UriScan)
    (c : UInt8)
    (rest : List UInt8) :
    (∃ t,
      uriParser.exec cs before s (c :: rest) =
        .out 0 before.length t) ∨
    ∃ entry t,
      entry.Matches c ∧ entry.target ≠ 0 ∧
        entry.target < uriStates ∧
        UriMove entry (uriPhase cs) (uriPhase entry.target) =
          true ∧
        uriParser.run before entry.actions s = .next t ∧
        uriParser.exec cs before s (c :: rest) =
          uriParser.exec entry.target (before ++ [c]) t
            rest := by
  rcases uriParser_plain.exec_cons cs before s c rest with
    ⟨t, hRun, hExec⟩
  have hTables : uriParser.tables = uriParserTables := rfl
  rw [hTables] at hRun hExec
  by_cases hTarget : (uriParserTables.transition cs c).1 = 0
  · rw [if_pos hTarget] at hExec
    exact .inl ⟨t, hExec⟩
  · rw [if_neg hTarget] at hExec
    rcases RagelTables.transition_mem
        (uriParser_sorted cs hState) c with
      ⟨entry, hMem, hMatches, hEq⟩ | hEq
    · rw [hEq] at hTarget hRun hExec
      rcases uriParser_rows cs hState hLive entry hMem hTarget
        with ⟨hBound, hMove⟩
      exact .inr ⟨entry, t, hMatches, hTarget, hBound, hMove,
        hRun, hExec⟩
    · rw [hEq] at hTarget
      exact absurd (uriParser_rowDefault cs hState hLive)
        hTarget

end Feng

------------------------------------------------------------
-- Segments Of A String
------------------------------------------------------------

namespace Feng

/- What comes before a query or a fragment. -/
def beforeQuery (text : List UInt8) : List UInt8 :=
  text.takeWhile (fun c => c ≠ chQuestion && c ≠ chHash)

/- What comes from the first slash on. -/
def fromSlash (text : List UInt8) : List UInt8 :=
  text.dropWhile (fun c => c ≠ chSlash)

/- The segments between slashes, without the empty ones. -/
def segmentsOf (path : List UInt8) : List (List UInt8) :=
  (path.splitOn chSlash).filter (fun segment => segment ≠ [])

/- What comes behind an authority, or behind a first segment. -/
def behindLead (hier : List UInt8) : List UInt8 :=
  match hier with
  | [] => []
  | c :: rest =>
      if c = chSlash then
        match rest with
        | [] => []
        | d :: more =>
            if d = chSlash then
              fromSlash more
            else
              fromSlash rest
      else
        fromSlash hier

/-
  The path segments of a URI. Without an authority the first
  segment does not count.
-/
def pathSegments (uriString : List UInt8) : List (List UInt8) :=
  let hier :=
    (uriString.dropWhile (fun c => c ≠ chColon)).drop 1
  segmentsOf (behindLead (beforeQuery hier))

/- The path that segments make up, if there are any. -/
def joinSegments
    (segments : List (List UInt8)) : Option (List UInt8) :=
  if segments = [] then
    none
  else
    some (segments.flatMap (fun segment => chSlash :: segment))

/- Every percent sign is followed by two hexadecimal digits. -/
inductive Escaped : List UInt8 → Prop where
| nil :
    Escaped []
| plain {c : UInt8} {rest : List UInt8} :
    c ≠ chPercent → Escaped rest → Escaped (c :: rest)
| escape {h l : UInt8} {rest : List UInt8} :
    isHex h = true → isHex l = true → Escaped rest →
      Escaped (chPercent :: h :: l :: rest)

theorem Escaped.append
    {first rest : List UInt8}
    (hFirst : Escaped first)
    (hRest : Escaped rest) :
    Escaped (first ++ rest) := by
  induction hFirst with
  | nil =>
      exact hRest
  | plain hNot _ ih =>
      exact .plain hNot ih
  | escape hHigh hLow _ ih =>
      exact .escape hHigh hLow ih

@[simp] theorem beforeQuery_nil :
    beforeQuery [] = [] :=
  rfl

theorem beforeQuery_cons
    {c : UInt8}
    (text : List UInt8)
    (hQuestion : c ≠ chQuestion)
    (hHash : c ≠ chHash) :
    beforeQuery (c :: text) = c :: beforeQuery text := by
  simp [beforeQuery, hQuestion, hHash]

theorem beforeQuery_query
    {c : UInt8}
    (text : List UInt8)
    (hQuery : c = chQuestion ∨ c = chHash) :
    beforeQuery (c :: text) = [] := by
  rcases hQuery with hEq | hEq
  · simp [beforeQuery, hEq]
  · simp [beforeQuery, hEq]

@[simp] theorem fromSlash_nil :
    fromSlash [] = [] :=
  rfl

theorem fromSlash_cons
    {c : UInt8}
    (text : List UInt8)
    (hSlash : c ≠ chSlash) :
    fromSlash (c :: text) = fromSlash text := by
  simp [fromSlash, hSlash]

theorem fromSlash_slash
    (text : List UInt8) :
    fromSlash (chSlash :: text) = chSlash :: text := by
  simp [fromSlash]

theorem behindLead_cons
    {c : UInt8}
    (text : List UInt8)
    (hSlash : c ≠ chSlash) :
    behindLead (c :: text) = fromSlash text := by
  simp only [behindLead, if_neg hSlash]
  exact fromSlash_cons text hSlash

theorem behindLead_slash_cons
    (c : UInt8)
    (text : List UInt8) :
    behindLead (chSlash :: c :: text) = fromSlash text := by
  simp only [behindLead, if_true]
  by_cases hSlash : c = chSlash
  · simp only [if_pos hSlash]
  · simp only [if_neg hSlash]
    exact fromSlash_cons text hSlash

theorem segmentsOf_single
    {segment : List UInt8}
    (hSlash : chSlash ∉ segment)
    (hSome : segment ≠ []) :
    segmentsOf segment = [segment] := by
  unfold segmentsOf
  rw [List.splitOn_eq_singleton hSlash]
  simp [hSome]

theorem segmentsOf_cons
    {segment : List UInt8}
    (rest : List UInt8)
    (hSlash : chSlash ∉ segment)
    (hSome : segment ≠ []) :
    segmentsOf (segment ++ chSlash :: rest) =
      segment :: segmentsOf rest := by
  unfold segmentsOf
  rw [List.splitOn_append_cons_self_of_not_mem hSlash]
  simp [hSome]

theorem segmentsOf_slash
    (rest : List UInt8) :
    segmentsOf (chSlash :: rest) = segmentsOf rest := by
  unfold segmentsOf
  rw [List.splitOn_cons_eq_if_modifyHead]
  simp

end Feng

------------------------------------------------------------
-- What Is Still To Be Pushed
------------------------------------------------------------

namespace Feng

/-
  The segments a scanner in some phase has yet to push, given
  what it has read of a segment and what is to come.
-/
def remainingSegments
    (phase : UriPhase)
    (read text : List UInt8) : List (List UInt8) :=
  match phase with
  | .scheme => pathSegments text
  | .colon => segmentsOf (behindLead (beforeQuery text))
  | .slash =>
      segmentsOf (behindLead (chSlash :: beforeQuery text))
  | .lead => segmentsOf (fromSlash (beforeQuery text))
  | .slashes => segmentsOf (beforeQuery text)
  | .segment => segmentsOf (read ++ beforeQuery text)
  | .percent => segmentsOf (read ++ beforeQuery text)
  | .digit => segmentsOf (read ++ beforeQuery text)
  | .tail => []
  | .done => []

/- The mark is where what was read of a segment begins. -/
def UriMarks
    (before : List UInt8)
    (s : UriScan)
    (read : List UInt8) : Prop :=
  ∃ mark,
    s.mark = some mark ∧ mark ≤ before.length ∧
      before.drop mark = read

/- What was read of a segment, in the phases that are in one. -/
def UriOpen
    (before : List UInt8)
    (s : UriScan)
    (phase : UriPhase)
    (read : List UInt8) : Prop :=
  match phase with
  | .segment =>
      UriMarks before s read ∧ read ≠ [] ∧
        chSlash ∉ read ∧ Escaped read
  | .percent =>
      UriMarks before s read ∧
        ∃ head,
          read = head ++ [chPercent] ∧ chSlash ∉ head ∧
            Escaped head
  | .digit =>
      UriMarks before s read ∧
        ∃ head high,
          read = head ++ [chPercent, high] ∧
            isHex high = true ∧ chSlash ∉ head ∧
            Escaped head
  | _ => read = []

/-
  A step pushed some segments, and those that were to be
  pushed before it are these and what is yet to be pushed.
-/
def UriAdvances
    (s t : UriScan)
    (before : List UInt8)
    (phase : UriPhase)
    (text : List UInt8)
    (segments : List (List UInt8)) : Prop :=
  ∃ pushed read,
    t.stack = s.stack ++ pushed ∧ t.uri.path = none ∧
      UriOpen before t phase read ∧
      segments =
        pushed ++ remainingSegments phase read text ∧
      ∀ segment ∈ pushed, Escaped segment

variable {before read text : List UInt8}
variable {s t : UriScan} {c : UInt8} {entry : RagelEntry}
variable {phase next : UriPhase}

theorem uriAction_frame
    {action : Nat}
    (hAction : uriAction action before s = .next t) :
    (action ≠ 5 → t.stack = s.stack) ∧
      (action ≠ 1 → t.uri.path = s.uri.path) := by
  unfold uriAction at hAction
  split at hAction
  all_goals
    cases hAction
    constructor
    all_goals intro hOther
  all_goals first
    | rfl
    | exact absurd rfl hOther
    | skip
  unfold UriScan.setPath
  split
  · rfl
  · rfl

theorem uriParser_run_cons
    {action : Nat}
    {actions : List Nat}
    (hRun :
      uriParser.run before (action :: actions) s = .next t) :
    ∃ u,
      uriAction action before s = .next u ∧
        uriParser.run before actions u = .next t := by
  rcases uriParser_plain.action action before s with
    ⟨u, hAction⟩
  rw [RagelMachine.run_cons hAction] at hRun
  exact ⟨u, hAction, hRun⟩

/- Without a push, the path is at most set from the stack. -/
theorem uriParser_run_no_push
    {actions : List Nat}
    (hPush : 5 ∉ actions)
    (hRun : uriParser.run before actions s = .next t) :
    t.stack = s.stack ∧
      t.uri.path =
        if 1 ∈ actions then s.setPath.uri.path
        else s.uri.path := by
  induction actions generalizing s with
  | nil =>
      cases hRun
      exact ⟨rfl, rfl⟩
  | cons action actions ih =>
      rcases uriParser_run_cons hRun with
        ⟨u, hAction, hRest⟩
      simp only [List.mem_cons, not_or] at hPush
      rcases ih hPush.2 hRest with ⟨hStack, hPath⟩
      rcases uriAction_frame hAction with
        ⟨hSame, hOther⟩
      have hStackEq := hSame (Ne.symm hPush.1)
      refine ⟨hStack.trans hStackEq, ?_⟩
      by_cases hSet : action = 1
      · subst hSet
        have hNow : u = s.setPath := by
          cases hAction
          rfl
        rw [hPath, if_pos List.mem_cons_self, hNow]
        split
        · unfold UriScan.setPath
          by_cases hEmpty : s.stack = []
          · simp [hEmpty]
          · simp [hEmpty]
        · rfl
      · have hKept := hOther hSet
        have hMem :
            1 ∈ action :: actions ↔ 1 ∈ actions := by
          simp [Ne.symm hSet]
        rw [hPath]
        simp only [hMem]
        split
        · unfold UriScan.setPath
          rw [hStackEq]
          split
          · exact hKept
          · rfl
        · exact hKept

theorem run_quiet
    (hQuiet : entry.quiet = true)
    (hRun : uriParser.run before entry.actions s = .next t) :
    t.stack = s.stack ∧ t.uri.path = s.uri.path := by
  simp only [RagelEntry.quiet, Bool.and_eq_true,
    Bool.not_eq_true', List.contains_eq_mem,
    decide_eq_false_iff_not] at hQuiet
  rcases uriParser_run_no_push hQuiet.2 hRun with
    ⟨hStack, hPath⟩
  rw [if_neg hQuiet.1] at hPath
  exact ⟨hStack, hPath⟩

theorem setPath_path
    (hNone : s.uri.path = none) :
    s.setPath.uri.path = joinSegments s.stack := by
  have hFold (segments : List (List UInt8)) :
      ∀ path,
        segments.foldl appendToString path =
          path ++
            segments.flatMap
              (fun segment => chSlash :: segment) := by
    induction segments with
    | nil =>
        simp
    | cons segment segments ih =>
        intro path
        rw [List.foldl_cons, ih]
        simp [appendToString]
  unfold UriScan.setPath joinSegments
  by_cases hEmpty : s.stack = []
  · rw [if_pos hEmpty, if_pos hEmpty]
    exact hNone
  · rw [if_neg hEmpty, if_neg hEmpty]
    exact congrArg some (hFold s.stack [])

theorem run_finishes
    (hFinishes : entry.finishes = true)
    (hNone : s.uri.path = none)
    (hRun : uriParser.run before entry.actions s = .next t) :
    t.uri.path = joinSegments s.stack := by
  simp only [RagelEntry.finishes, Bool.and_eq_true,
    Bool.not_eq_true', List.contains_eq_mem,
    decide_eq_false_iff_not, decide_eq_true_eq] at hFinishes
  have hPath := (uriParser_run_no_push hFinishes.2 hRun).2
  rw [if_pos hFinishes.1] at hPath
  rw [hPath]
  exact setPath_path hNone

theorem UriMarks.snoc
    (hMarks : UriMarks before s read)
    (c : UInt8) :
    UriMarks (before ++ [c]) s (read ++ [c]) := by
  rcases hMarks with ⟨mark, hMark, hBound, hDrop⟩
  refine ⟨mark, hMark, ?_, ?_⟩
  · rw [List.length_append]
    omega
  · rw [List.drop_append_of_le_length hBound, hDrop]

theorem UriMarks.marked
    (hMarks : UriMarks before s read) :
    s.marked before = read := by
  rcases hMarks with ⟨mark, hMark, _, hDrop⟩
  unfold UriScan.marked
  rw [hMark]
  exact hDrop

/- A step that pushes nothing. -/
theorem UriAdvances.of_quiet
    {segments : List (List UInt8)}
    (hQuiet : entry.quiet = true)
    (hRun : uriParser.run before entry.actions s = .next t)
    (hNone : s.uri.path = none)
    (hOpen : UriOpen (before ++ [c]) t next [])
    (hSegments :
      segments = remainingSegments next [] text) :
    UriAdvances s t (before ++ [c]) next text segments := by
  rcases run_quiet hQuiet hRun with ⟨hStack, hPath⟩
  refine ⟨[], [], ?_, hPath.trans hNone, hOpen, ?_, ?_⟩
  · rw [hStack, List.append_nil]
  · exact hSegments
  · simp

/- A step that goes on in a segment. -/
theorem UriAdvances.of_read
    (read : List UInt8)
    {segments : List (List UInt8)}
    (hActions : entry.actions = [])
    (hRun : uriParser.run before entry.actions s = .next t)
    (hNone : s.uri.path = none)
    (hOpen : UriOpen (before ++ [c]) s next read)
    (hSegments :
      segments = remainingSegments next read text) :
    UriAdvances s t (before ++ [c]) next text segments := by
  rw [hActions] at hRun
  cases hRun
  refine ⟨[], read, ?_, hNone, hOpen, ?_, ?_⟩
  · rw [List.append_nil]
  · exact hSegments
  · simp

/- A step that ends a segment. -/
theorem UriAdvances.of_push
    {segments : List (List UInt8)}
    (hActions : entry.actions = [5])
    (hRun : uriParser.run before entry.actions s = .next t)
    (hNone : s.uri.path = none)
    (hMarks : UriMarks before s read)
    (hEscaped : Escaped read)
    (hOpen : UriOpen (before ++ [c]) t next [])
    (hSegments :
      segments = read :: remainingSegments next [] text) :
    UriAdvances s t (before ++ [c]) next text segments := by
  rw [hActions] at hRun
  cases hRun
  refine ⟨[read], [], ?_, hNone, hOpen, ?_, ?_⟩
  · simp only [hMarks.marked]
  · exact hSegments
  · intro segment hMem
    rw [List.mem_singleton.mp hMem]
    exact hEscaped

/- A segment begins at the character read. -/
theorem UriAdvances.of_start
    {segments : List (List UInt8)}
    (hActions : entry.actions = [0])
    (hRun : uriParser.run before entry.actions s = .next t)
    (hNone : s.uri.path = none)
    (hOpen :
      UriMarks (before ++ [c]) t [c] →
        UriOpen (before ++ [c]) t next [c])
    (hSegments :
      segments = remainingSegments next [c] text) :
    UriAdvances s t (before ++ [c]) next text segments := by
  rw [hActions] at hRun
  cases hRun
  refine ⟨[], [c], ?_, hNone, hOpen ?_, ?_, ?_⟩
  · rw [List.append_nil]
  · exact ⟨before.length, rfl, by simp, by simp⟩
  · exact hSegments
  · simp

theorem isHex_ne
    (hHex : isHex c = true) :
    c ≠ chSlash ∧ c ≠ chQuestion ∧ c ≠ chHash := by
  refine ⟨?_, ?_, ?_⟩
  all_goals
    rintro rfl
    exact absurd hHex (by decide)

theorem avoids_query
    {cs : List UInt8}
    (hAvoids : entry.avoids cs = true)
    (hMatches : entry.Matches c)
    (hQuestion : chQuestion ∈ cs)
    (hHash : chHash ∈ cs) :
    beforeQuery (c :: text) = c :: beforeQuery text := by
  have hNot := RagelEntry.not_mem_of_avoids hAvoids hMatches
  apply beforeQuery_cons
  · rintro rfl
    exact hNot hQuestion
  · rintro rfl
    exact hNot hHash

theorem isFor_query
    (hFor :
      (entry.isFor chQuestion || entry.isFor chHash) = true)
    (hMatches : entry.Matches c) :
    beforeQuery (c :: text) = [] := by
  apply beforeQuery_query
  rcases Bool.or_eq_true_iff.mp hFor with hFor | hFor
  · exact .inl (RagelEntry.eq_of_isFor hFor hMatches)
  · exact .inr (RagelEntry.eq_of_isFor hFor hMatches)

theorem avoids_ne
    {cs : List UInt8}
    {d : UInt8}
    (hAvoids : entry.avoids cs = true)
    (hMatches : entry.Matches c)
    (hMem : d ∈ cs) :
    c ≠ d := by
  rintro rfl
  exact RagelEntry.not_mem_of_avoids hAvoids hMatches hMem

/- What the moves of the tables do to the stack. -/
theorem uriMove_advances
    (hMove : UriMove entry phase next = true)
    (hMatches : entry.Matches c)
    (hRun : uriParser.run before entry.actions s = .next t)
    (hNone : s.uri.path = none)
    (hOpen : UriOpen before s phase read)
    (hNext : next ≠ .done) :
    UriAdvances s t (before ++ [c]) next text
      (remainingSegments phase read (c :: text)) := by
  unfold UriMove at hMove
  split at hMove
  all_goals
    try simp only [Bool.and_eq_true, decide_eq_true_eq]
      at hMove
  -- In the scheme, up to the colon behind it.
  · rcases hMove with ⟨hAvoids, hQuiet⟩
    refine UriAdvances.of_quiet hQuiet hRun hNone rfl ?_
    have hColon : c ≠ chColon :=
      avoids_ne hAvoids hMatches (by simp)
    simp [remainingSegments, pathSegments, hColon]
  · rcases hMove with ⟨hFor, hQuiet⟩
    refine UriAdvances.of_quiet hQuiet hRun hNone rfl ?_
    have hColon := RagelEntry.eq_of_isFor hFor hMatches
    simp [remainingSegments, pathSegments, hColon]
  -- Behind the colon.
  · rcases hMove with ⟨hFor, hQuiet⟩
    refine UriAdvances.of_quiet hQuiet hRun hNone rfl ?_
    have hSlash := RagelEntry.eq_of_isFor hFor hMatches
    subst hSlash
    simp only [remainingSegments]
    rw [beforeQuery_cons text (by decide) (by decide)]
  · rcases hMove with ⟨hAvoids, hQuiet⟩
    refine UriAdvances.of_quiet hQuiet hRun hNone rfl ?_
    simp only [remainingSegments]
    rw [avoids_query hAvoids hMatches (by simp) (by simp),
      behindLead_cons _
        (avoids_ne hAvoids hMatches (by simp))]
  -- Behind a slash that follows the colon.
  · rcases hMove with ⟨hAvoids, hQuiet⟩
    refine UriAdvances.of_quiet hQuiet hRun hNone rfl ?_
    simp only [remainingSegments]
    rw [avoids_query hAvoids hMatches (by simp) (by simp),
      behindLead_slash_cons]
  · rcases hMove with ⟨hFor, hQuiet⟩
    refine UriAdvances.of_quiet hQuiet hRun hNone rfl ?_
    simp only [remainingSegments]
    rw [isFor_query hFor hMatches]
    rfl
  · exact absurd rfl hNext
  -- In an authority or a first segment.
  · rcases hMove with ⟨hAvoids, hQuiet⟩
    refine UriAdvances.of_quiet hQuiet hRun hNone rfl ?_
    simp only [remainingSegments]
    rw [avoids_query hAvoids hMatches (by simp) (by simp),
      fromSlash_cons _
        (avoids_ne hAvoids hMatches (by simp))]
  · rcases hMove with ⟨hFor, hQuiet⟩
    refine UriAdvances.of_quiet hQuiet hRun hNone rfl ?_
    have hSlash := RagelEntry.eq_of_isFor hFor hMatches
    subst hSlash
    simp only [remainingSegments]
    rw [beforeQuery_cons text (by decide) (by decide),
      fromSlash_slash, segmentsOf_slash]
  · rcases hMove with ⟨hFor, hQuiet⟩
    refine UriAdvances.of_quiet hQuiet hRun hNone rfl ?_
    simp only [remainingSegments]
    rw [isFor_query hFor hMatches]
    rfl
  · exact absurd rfl hNext
  -- Between segments.
  · rcases hMove with ⟨hFor, hQuiet⟩
    refine UriAdvances.of_quiet hQuiet hRun hNone rfl ?_
    have hSlash := RagelEntry.eq_of_isFor hFor hMatches
    subst hSlash
    simp only [remainingSegments]
    rw [beforeQuery_cons text (by decide) (by decide),
      segmentsOf_slash]
  · rcases hMove with ⟨hAvoids, hActions⟩
    apply UriAdvances.of_start hActions hRun hNone
    · intro hMarks
      refine ⟨hMarks, by simp, ?_, ?_⟩
      · rw [List.mem_singleton]
        exact (avoids_ne hAvoids hMatches (by simp)).symm
      · exact .plain (avoids_ne hAvoids hMatches (by simp))
          .nil
    · simp only [remainingSegments]
      rw [avoids_query hAvoids hMatches (by simp) (by simp)]
      rfl
  · rcases hMove with ⟨hFor, hActions⟩
    have hPercent := RagelEntry.eq_of_isFor hFor hMatches
    subst hPercent
    apply UriAdvances.of_start hActions hRun hNone
    · intro hMarks
      exact ⟨hMarks, [], rfl, by simp, .nil⟩
    · simp only [remainingSegments]
      rw [beforeQuery_cons text (by decide) (by decide)]
      rfl
  · rcases hMove with ⟨hFor, hQuiet⟩
    refine UriAdvances.of_quiet hQuiet hRun hNone rfl ?_
    simp only [remainingSegments]
    rw [isFor_query hFor hMatches]
    rfl
  · exact absurd rfl hNext
  -- In a segment.
  · rcases hMove with ⟨hAvoids, hActions⟩
    rcases hOpen with ⟨hMarks, hSome, hSlash, hEscaped⟩
    apply UriAdvances.of_read (read ++ [c]) hActions
      hRun hNone
    · refine ⟨hMarks.snoc c, by simp, ?_, ?_⟩
      · rw [List.mem_append, List.mem_singleton, not_or]
        exact ⟨hSlash,
          (avoids_ne hAvoids hMatches (by simp)).symm⟩
      · exact hEscaped.append
          (.plain (avoids_ne hAvoids hMatches (by simp))
            .nil)
    · simp only [remainingSegments]
      rw [avoids_query hAvoids hMatches (by simp) (by simp)]
      simp
  · rcases hMove with ⟨hFor, hActions⟩
    rcases hOpen with ⟨hMarks, _, hSlash, hEscaped⟩
    have hPercent := RagelEntry.eq_of_isFor hFor hMatches
    subst hPercent
    apply UriAdvances.of_read (read ++ [chPercent]) hActions
      hRun hNone
    · exact ⟨hMarks.snoc _, read, rfl, hSlash, hEscaped⟩
    · simp only [remainingSegments]
      rw [beforeQuery_cons text (by decide) (by decide)]
      simp
  · rcases hMove with ⟨hFor, hActions⟩
    rcases hOpen with ⟨hMarks, hSome, hSlash, hEscaped⟩
    have hEnd := RagelEntry.eq_of_isFor hFor hMatches
    subst hEnd
    refine UriAdvances.of_push hActions hRun hNone hMarks
      hEscaped rfl ?_
    simp only [remainingSegments]
    rw [beforeQuery_cons text (by decide) (by decide),
      segmentsOf_cons _ hSlash hSome]
  · rcases hMove with ⟨hFor, hActions⟩
    rcases hOpen with ⟨hMarks, hSome, hSlash, hEscaped⟩
    refine UriAdvances.of_push hActions hRun hNone hMarks
      hEscaped rfl ?_
    simp only [remainingSegments]
    rw [isFor_query hFor hMatches, List.append_nil,
      segmentsOf_single hSlash hSome]
  · exact absurd rfl hNext
  -- In an escape.
  · rcases hMove with ⟨hHex, hActions⟩
    rcases hOpen with ⟨hMarks, head, hRead, hSlash, hEscaped⟩
    have hDigit := RagelEntry.isHex_of_forHex hHex hMatches
    rcases isHex_ne hDigit with ⟨_, hQuestion, hHash⟩
    apply UriAdvances.of_read (read ++ [c]) hActions
      hRun hNone
    · refine ⟨hMarks.snoc c, head, c, ?_, hDigit, hSlash,
        hEscaped⟩
      rw [hRead]
      simp
    · simp only [remainingSegments]
      rw [beforeQuery_cons text hQuestion hHash]
      simp
  · rcases hMove with ⟨hHex, hActions⟩
    rcases hOpen with
      ⟨hMarks, head, high, hRead, hHigh, hSlash, hEscaped⟩
    have hDigit := RagelEntry.isHex_of_forHex hHex hMatches
    rcases isHex_ne hDigit with ⟨hNot, hQuestion, hHash⟩
    have hWhole :
        read ++ [c] = head ++ [chPercent, high, c] := by
      rw [hRead]
      simp
    apply UriAdvances.of_read (read ++ [c]) hActions
      hRun hNone
    · refine ⟨hMarks.snoc c, by simp, ?_, ?_⟩
      · rw [hWhole]
        have hPercent : chSlash ≠ chPercent := by decide
        simp [hSlash, hNot.symm, (isHex_ne hHigh).1.symm,
          hPercent]
      · rw [hWhole]
        exact hEscaped.append (.escape hHigh hDigit .nil)
    · simp only [remainingSegments]
      rw [beforeQuery_cons text hQuestion hHash]
      simp
  -- In a query or a fragment.
  · rcases hMove with ⟨_, hQuiet⟩
    exact UriAdvances.of_quiet hQuiet hRun hNone rfl rfl
  · exact absurd rfl hNext
  · cases hMove

/- What a move to the end does to the path. -/
theorem uriMove_done
    (hMove : UriMove entry phase .done = true)
    (hMatches : entry.Matches c)
    (hRun : uriParser.run before entry.actions s = .next t)
    (hNone : s.uri.path = none)
    (hOpen : UriOpen before s phase read) :
    c = 0 ∧
      t.uri.path =
        joinSegments
          (s.stack ++ remainingSegments phase read []) ∧
      ∀ segment ∈ remainingSegments phase read [],
        Escaped segment := by
  have hFinish
      (hMove :
        (entry.isFor 0 && entry.finishes) = true) :
      c = 0 ∧ t.uri.path = joinSegments (s.stack ++ []) := by
    rcases Bool.and_eq_true_iff.mp hMove with
      ⟨hFor, hFinishes⟩
    rw [List.append_nil]
    exact ⟨RagelEntry.eq_of_isFor hFor hMatches,
      run_finishes hFinishes hNone hRun⟩
  cases phase with
  | slash =>
      rcases hFinish hMove with ⟨hNul, hPath⟩
      exact ⟨hNul, hPath, List.forall_mem_nil _⟩
  | lead =>
      rcases hFinish hMove with ⟨hNul, hPath⟩
      exact ⟨hNul, hPath, List.forall_mem_nil _⟩
  | slashes =>
      rcases hFinish hMove with ⟨hNul, hPath⟩
      exact ⟨hNul, hPath, List.forall_mem_nil _⟩
  | tail =>
      rcases hFinish hMove with ⟨hNul, hPath⟩
      exact ⟨hNul, hPath, List.forall_mem_nil _⟩
  | segment =>
      rcases Bool.and_eq_true_iff.mp hMove with
        ⟨hFor, hActions⟩
      rcases hOpen with ⟨hMarks, hSome, hSlash, hEscaped⟩
      rw [decide_eq_true_eq.mp hActions] at hRun
      cases hRun
      have hLast :
          remainingSegments .segment read [] = [read] := by
        simp only [remainingSegments, beforeQuery_nil,
          List.append_nil]
        exact segmentsOf_single hSlash hSome
      rw [hLast]
      refine ⟨RagelEntry.eq_of_isFor hFor hMatches, ?_, ?_⟩
      · rw [setPath_path]
        · simp only [hMarks.marked]
        · exact hNone
      · intro segment hMem
        rw [List.mem_singleton.mp hMem]
        exact hEscaped
  | scheme => cases hMove
  | colon => cases hMove
  | percent => cases hMove
  | digit => cases hMove
  | done => cases hMove

end Feng

------------------------------------------------------------
-- The Path
------------------------------------------------------------

namespace Feng

variable {before read text : List UInt8}
variable {s : UriScan} {cs : Nat} {uri : URI}

/- The URI a scanner hands out at the end of the string. -/
def uriResult (result : RagelResult UriScan) : Option URI :=
  match result with
  | .eof cs _ s =>
      if cs < uriParserFirstFinal then none else some s.uri
  | .out cs _ s =>
      if cs < uriParserFirstFinal then none else some s.uri

theorem uriParse_eq
    (uriString : List UInt8) :
    uriParse uriString =
      uriResult
        (uriParser.exec uriParserStart [] uriScanStart
          (uriString ++ [0])) := by
  unfold uriParse uriResult
  rfl

theorem uriResult_out
    (p : Nat)
    (s : UriScan) :
    uriResult (.out 0 p s) = none :=
  rfl

theorem uriPhase_done
    (hPhase : uriPhase cs = .done) :
    cs = 191 := by
  by_contra hNot
  unfold uriPhase at hPhase
  split_ifs at hPhase

/- Nothing may follow the end of the string. -/
theorem uriResult_done
    (c : UInt8)
    (rest : List UInt8) :
    uriResult (uriParser.exec 191 before s (c :: rest)) =
      none := by
  have hState : 191 < uriStates := by decide
  rcases uriParser_step hState (by decide) before s c
      rest with
    ⟨t, hOut⟩ | ⟨entry, t, _, _, _, hMove, _, _⟩
  · rw [hOut]
    exact uriResult_out _ t
  · change UriMove entry .done (uriPhase entry.target) = true
      at hMove
    cases hNext : uriPhase entry.target
    all_goals
      rw [hNext] at hMove
      cases hMove

/-
  A scanner that accepts the rest of a string pushes what is
  left to be pushed, and sets the path.
-/
theorem exec_remaining
    (hState : cs < uriStates)
    (hLive : cs ≠ 0)
    (hNone : s.uri.path = none)
    (hOpen : UriOpen before s (uriPhase cs) read)
    (hAccept :
      uriResult
          (uriParser.exec cs before s (text ++ [0])) =
        some uri) :
    uri.path =
        joinSegments
          (s.stack ++
            remainingSegments (uriPhase cs) read text) ∧
      ∀ segment ∈ remainingSegments (uriPhase cs) read text,
        Escaped segment := by
  induction text generalizing cs before s read with
  | nil =>
      rcases uriParser_step hState hLive before s 0 [] with
        ⟨t, hOut⟩ |
        ⟨entry, t, hMatches, hTarget, hBound, hMove, hRun,
          hExec⟩
      · rw [List.nil_append, hOut, uriResult_out] at hAccept
        cases hAccept
      · rw [List.nil_append, hExec,
          uriParser_plain.exec_nil] at hAccept
        simp only [uriResult] at hAccept
        split at hAccept
        · cases hAccept
        · rename_i hFinal
          have hDone : uriPhase entry.target = .done := by
            have hEq : entry.target = 191 := by
              unfold uriParserFirstFinal at hFinal
              unfold uriStates at hBound
              omega
            rw [hEq]
            rfl
          cases hAccept
          rw [hDone] at hMove
          exact (uriMove_done hMove hMatches hRun hNone
            hOpen).2
  | cons c text ih =>
      rcases uriParser_step hState hLive before s c
          (text ++ [0]) with
        ⟨t, hOut⟩ |
        ⟨entry, t, hMatches, hTarget, hBound, hMove, hRun,
          hExec⟩
      · rw [List.cons_append, hOut, uriResult_out] at hAccept
        cases hAccept
      · rw [List.cons_append, hExec] at hAccept
        by_cases hDone : uriPhase entry.target = .done
        · rw [uriPhase_done hDone] at hAccept
          cases text with
          | nil =>
              rw [List.nil_append, uriResult_done] at hAccept
              cases hAccept
          | cons d text =>
              rw [List.cons_append, uriResult_done]
                at hAccept
              cases hAccept
        · have hAdvances :
              UriAdvances s t (before ++ [c])
                (uriPhase entry.target) text
                (remainingSegments (uriPhase cs) read
                  (c :: text)) :=
            uriMove_advances hMove hMatches hRun hNone hOpen
              hDone
          rcases hAdvances with
            ⟨pushed, readNow, hStack, hPath, hOpenNow,
              hSegments, hPushed⟩
          rcases ih hBound hTarget hPath hOpenNow hAccept with
            ⟨hJoin, hRest⟩
          rw [hSegments]
          constructor
          · rw [hJoin, hStack, List.append_assoc]
          · intro segment hMem
            rcases List.mem_append.mp hMem with hMem | hMem
            · exact hPushed segment hMem
            · exact hRest segment hMem

/-
  The path of a URI that was accepted is made up of the path
  segments of the string, whose escapes are well formed.
-/
theorem uriParse_path
    {uriString : List UInt8}
    (hParse : uriParse uriString = some uri) :
    uri.path = joinSegments (pathSegments uriString) ∧
      ∀ segment ∈ pathSegments uriString,
        Escaped segment := by
  have hStart :
      UriOpen [] uriScanStart (uriPhase uriParserStart) [] :=
    rfl
  rw [uriParse_eq] at hParse
  exact exec_remaining (by decide) (by decide) rfl hStart
    hParse

end Feng
