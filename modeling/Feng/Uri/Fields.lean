import Feng.Lib.Packed
import Feng.Uri.Prefixes

/-
  The fields of a URI that the scanner reads between a mark
  and a delimiter, for strings that it accepts.

  A field has a state it starts in, and states inside of it.
  The first character sets the mark, and so does a delimiter
  that comes at once.

  Key definitions include:
    * `UriAccepts`
    * `UriKeeps`
    * `UriField`
    * `UriEnds`

  Key theorems include:
    * `UriKeeps.exec`
    * `UriField.read`
-/

------------------------------------------------------------
-- Runs That Accept
------------------------------------------------------------

namespace Feng

/- The scanner accepts what is to come, and this is found. -/
def UriAccepts
    (cs : Nat)
    (before : List UInt8)
    (s : UriScan)
    (text : List UInt8)
    (uri : URI) : Prop :=
  uriResult (uriParser.exec cs before s text) = some uri

variable {cs target : Nat} {actions : List Nat}
variable {before text rest chunk : List UInt8}
variable {s t : UriScan} {uri : URI} {c d : UInt8}

theorem UriAccepts.step
    (h : UriAccepts cs before s (c :: text) uri) :
    (uriParserTables.transition cs c).1 ≠ 0 ∧
    ∃ t,
      uriParser.run before
          (uriParserTables.transition cs c).2 s =
        .next t ∧
      UriAccepts (uriParserTables.transition cs c).1
        (before ++ [c]) t text uri := by
  unfold UriAccepts at h
  rcases uriParser_plain.exec_cons cs before s c text with
    ⟨t, hRun, hExec⟩
  have hExec :
      uriParser.exec cs before s (c :: text) =
        if (uriParserTables.transition cs c).1 = 0 then
          .out 0 before.length t
        else
          uriParser.exec (uriParserTables.transition cs c).1
            (before ++ [c]) t text :=
    hExec
  rw [hExec] at h
  split at h
  · rw [uriResult_out] at h
    cases h
  · rename_i hTarget
    exact ⟨hTarget, t, hRun, h⟩

/- Where the tables lead one way, it is the way that is gone. -/
theorem UriAccepts.goes
    (h : UriAccepts cs before s (c :: text) uri)
    (hWay :
      (uriParserTables.transition cs c).1 = 0 ∨
        uriParserTables.transition cs c = (target, actions)) :
    ∃ t,
      uriParser.run before actions s = .next t ∧
        UriAccepts target (before ++ [c]) t text uri := by
  rcases h.step with ⟨hTarget, t, hRun, hRest⟩
  rcases hWay with hZero | hWay
  · exact absurd hZero hTarget
  · rw [hWay] at hRun hRest
    exact ⟨t, hRun, hRest⟩

/- Where they lead nowhere, nothing is accepted. -/
theorem UriAccepts.stuck
    (h : UriAccepts cs before s (c :: text) uri)
    (hZero : (uriParserTables.transition cs c).1 = 0) :
    False :=
  h.step.1 hZero

theorem forall_uint8
    {P : UInt8 → Prop}
    (h : ∀ n < 256, P (UInt8.ofNat n)) :
    ∀ c, P c := by
  intro c
  have hAt := h c.toNat (UInt8.toNat_lt c)
  rw [UInt8.ofNat_toNat] at hAt
  exact hAt

end Feng

------------------------------------------------------------
-- Parts Without Actions
------------------------------------------------------------

namespace Feng

variable {cs target : Nat} {actions : List Nat}
variable {before text rest chunk : List UInt8}
variable {s t : UriScan} {uri : URI} {c d : UInt8}
variable {states : List Nat} {chars : UInt8 → Bool}

/- Such characters lead nowhere else, and nothing is done. -/
def UriKeeps
    (states : List Nat)
    (chars : UInt8 → Bool) : Prop :=
  ∀ cs ∈ states, ∀ c, chars c = true →
    (uriParserTables.transition cs c).1 = 0 ∨
      ((uriParserTables.transition cs c).1 ∈ states ∧
        (uriParserTables.transition cs c).2 = [])

theorem UriKeeps.exec
    (h : UriKeeps states chars)
    (hState : cs ∈ states)
    (hChunk : ∀ c ∈ chunk, chars c = true)
    (hAccept : UriAccepts cs before s (chunk ++ rest) uri) :
    ∃ cs' ∈ states,
      UriAccepts cs' (before ++ chunk) s rest uri := by
  induction chunk generalizing cs before with
  | nil =>
      rw [List.append_nil]
      exact ⟨cs, hState, hAccept⟩
  | cons c chunk ih =>
      rcases List.forall_mem_cons.mp hChunk with
        ⟨hFirst, hRest⟩
      rcases hAccept.step with ⟨hTarget, t, hRun, hNext⟩
      rcases h cs hState c hFirst with hZero | ⟨hIn, hNone⟩
      · exact absurd hZero hTarget
      · rw [hNone] at hRun
        cases hRun
        rcases ih hIn hRest hNext with ⟨cs', hMem, hEnd⟩
        rw [List.append_assoc] at hEnd
        exact ⟨cs', hMem, hEnd⟩

/- The characters that end an authority, with the last NUL. -/
def uriEnds : List UInt8 :=
  [0, chSlash, chQuestion, chHash]

/- From such states no end of an authority is reached. -/
def UriPending (states : List Nat) : Prop :=
  ∀ cs ∈ states, ∀ d ∈ uriEnds,
    (uriParserTables.transition cs d).1 = 0

theorem UriKeeps.no_end
    (h : UriKeeps states chars)
    (hPending : UriPending states)
    (hState : cs ∈ states)
    (hChunk : ∀ c ∈ chunk, chars c = true)
    (hEnd : d ∈ uriEnds) :
    ¬ UriAccepts cs before s (chunk ++ d :: rest) uri := by
  intro hAccept
  rcases h.exec hState hChunk hAccept with
    ⟨cs', hMem, hNext⟩
  exact hNext.stuck (hPending cs' hMem d hEnd)

end Feng

------------------------------------------------------------
-- Fields
------------------------------------------------------------

namespace Feng

variable {cs start target : Nat} {actions : List Nat}
variable {before text rest chunk : List UInt8}
variable {s t : UriScan} {uri : URI} {c d : UInt8}
variable {inside : List Nat} {firsts chars : UInt8 → Bool}

abbrev chBracket : UInt8 := 91

/- The first character of a field sets the mark. -/
structure UriField
    (start : Nat)
    (inside : List Nat)
    (firsts chars : UInt8 → Bool) : Prop where
  first : ∀ c, firsts c = true →
    (uriParserTables.transition start c).1 = 0 ∨
      ((uriParserTables.transition start c).1 ∈ inside ∧
        (uriParserTables.transition start c).2 = [0])
  later : UriKeeps inside chars

/- A delimiter ends a field that has started, and any other. -/
def UriEnds
    (start : Nat)
    (inside : List Nat)
    (d : UInt8)
    (target : Nat)
    (actions : List Nat) : Prop :=
  ((uriParserTables.transition start d).1 = 0 ∨
    uriParserTables.transition start d =
      (target, 0 :: actions)) ∧
  ∀ cs ∈ inside,
    (uriParserTables.transition cs d).1 = 0 ∨
      uriParserTables.transition cs d = (target, actions)

instance decidableUriEnds
    (start : Nat)
    (inside : List Nat)
    (d : UInt8)
    (target : Nat)
    (actions : List Nat) :
    Decidable (UriEnds start inside d target actions) :=
  inferInstanceAs
    (Decidable
      (((uriParserTables.transition start d).1 = 0 ∨
        uriParserTables.transition start d =
          (target, 0 :: actions)) ∧
      ∀ cs ∈ inside,
        (uriParserTables.transition cs d).1 = 0 ∨
          uriParserTables.transition cs d =
            (target, actions)))

/- The mark is put where the scanner is. -/
def UriScan.mark_
    (s : UriScan)
    (before : List UInt8) : UriScan :=
  { s with mark := some before.length }

theorem UriScan.marked_mark
    (s : UriScan)
    (before chunk : List UInt8) :
    (s.mark_ before).marked (before ++ chunk) = chunk :=
  List.drop_left

theorem run_mark
    (before : List UInt8)
    (actions : List Nat)
    (s : UriScan) :
    uriParser.run before (0 :: actions) s =
      uriParser.run before actions (s.mark_ before) :=
  RagelMachine.run_cons rfl actions

/- A field that has some characters sets the mark. -/
theorem UriField.enter
    (h : UriField start inside firsts chars)
    (hChunk : ∀ c ∈ chunk, chars c = true)
    (hFirst : ∀ c, chunk.head? = some c → firsts c = true)
    (hSome : chunk ≠ [])
    (hAccept : UriAccepts start before s (chunk ++ rest) uri) :
    ∃ cs ∈ inside,
      UriAccepts cs (before ++ chunk) (s.mark_ before) rest
        uri := by
  cases chunk with
  | nil => exact absurd rfl hSome
  | cons c chunk =>
      have hRest := (List.forall_mem_cons.mp hChunk).2
      rcases hAccept.step with ⟨hTarget, t, hRun, hNext⟩
      rcases h.first c (hFirst c rfl) with
        hZero | ⟨hIn, hMark⟩
      · exact absurd hZero hTarget
      · rw [hMark, run_mark] at hRun
        cases hRun
        rcases h.later.exec hIn hRest hNext with
          ⟨cs, hMem, hEnd⟩
        rw [List.append_assoc] at hEnd
        exact ⟨cs, hMem, hEnd⟩

/- A field is read up to its delimiter. -/
theorem UriField.read
    (h : UriField start inside firsts chars)
    (hEnds : UriEnds start inside d target actions)
    (hChunk : ∀ c ∈ chunk, chars c = true)
    (hFirst : ∀ c, chunk.head? = some c → firsts c = true)
    (hAccept :
      UriAccepts start before s (chunk ++ d :: rest) uri) :
    ∃ t,
      uriParser.run (before ++ chunk) actions
          (s.mark_ before) =
        .next t ∧
      UriAccepts target (before ++ chunk ++ [d]) t rest
        uri := by
  by_cases hNone : chunk = []
  · subst hNone
    rcases hAccept.goes hEnds.1 with ⟨t, hRun, hNext⟩
    rw [run_mark] at hRun
    rw [List.append_nil]
    exact ⟨t, hRun, hNext⟩
  · rcases h.enter hChunk hFirst hNone hAccept with
      ⟨cs, hMem, hNext⟩
    exact hNext.goes (hEnds.2 cs hMem)

/- In a field any of its characters may come first. -/
theorem UriField.readPlain
    (h : UriField start inside chars chars)
    (hEnds : UriEnds start inside d target actions)
    (hChunk : ∀ c ∈ chunk, chars c = true)
    (hAccept :
      UriAccepts start before s (chunk ++ d :: rest) uri) :
    ∃ t,
      uriParser.run (before ++ chunk) actions
          (s.mark_ before) =
        .next t ∧
      UriAccepts target (before ++ chunk ++ [d]) t rest
        uri :=
  h.read hEnds hChunk
    (fun c hHead =>
      hChunk c (List.mem_of_mem_head? hHead)) hAccept

end Feng

------------------------------------------------------------
-- What The Tables Say
------------------------------------------------------------

namespace Feng

def isDigit (c : UInt8) : Bool :=
  48 ≤ c && c ≤ 57

abbrev chAt : UInt8 := 64

/- Where the end of an authority leads, and what is done. -/
def endTarget (d : UInt8) : Nat :=
  if d = chSlash then 11
  else if d = chQuestion then 15
  else if d = chHash then 5
  else 191

def endActions (d : UInt8) : List Nat :=
  if d = 0 then [1] else []

/- Characters of a kind, and the entries with none of them. -/
structure UriClass where
  chars : UInt8 → Bool
  outside : RagelEntry → Bool
  sound : ∀ entry c, outside entry = true →
    entry.low ≤ c.toNat → c.toNat ≤ entry.high →
      chars c = false

/- The entry is for no other character. -/
theorem RagelEntry.isFor_only
    {entry : RagelEntry}
    {c d : UInt8}
    (hFor : entry.isFor d = true)
    (hLow : entry.low ≤ c.toNat)
    (hHigh : c.toNat ≤ entry.high) :
    c = d := by
  simp only [RagelEntry.isFor, Bool.and_eq_true,
    decide_eq_true_eq] at hFor
  apply UInt8.toNat_inj.mp
  omega

/- All characters but some. -/
def without (cs : List UInt8) : UriClass where
  chars := fun c => !cs.contains c
  outside := fun entry => cs.any entry.isFor
  sound := by
    intro entry c hOutside hLow hHigh
    rcases List.any_eq_true.mp hOutside with ⟨d, hMem, hFor⟩
    have hIs := RagelEntry.isFor_only hFor hLow hHigh
    rw [hIs, List.contains_iff_mem.mpr hMem]
    rfl

def digits : UriClass where
  chars := isDigit
  outside := fun entry => entry.high < 48 || 57 < entry.low
  sound := by
    intro entry c hOutside hLow hHigh
    rcases Bool.or_eq_true_iff.mp hOutside with hLess | hMore
    · have hLess := of_decide_eq_true hLess
      have hNot : ¬ 48 ≤ c := by
        rw [UInt8.le_iff_toNat_le]
        change ¬ 48 ≤ c.toNat
        omega
      simp [isDigit, hNot]
    · have hMore := of_decide_eq_true hMore
      have hNot : ¬ c ≤ 57 := by
        rw [UInt8.le_iff_toNat_le]
        change ¬ c.toNat ≤ 57
        omega
      simp [isDigit, hNot]

/- The other entries lead to some states, with some actions. -/
def UriClass.Leads
    (chars : UriClass)
    (row : List RagelEntry)
    (default : Nat × List Nat)
    (inside : Nat → Bool)
    (actions : List Nat) : Prop :=
  default.1 = 0 ∧
    ∀ entry ∈ row,
      chars.outside entry = true ∨ entry.target = 0 ∨
        (inside entry.target = true ∧
          entry.actions = actions)

instance decidableLeads
    (chars : UriClass)
    (row : List RagelEntry)
    (default : Nat × List Nat)
    (inside : Nat → Bool)
    (actions : List Nat) :
    Decidable (chars.Leads row default inside actions) :=
  inferInstanceAs
    (Decidable
      (default.1 = 0 ∧
        ∀ entry ∈ row,
          chars.outside entry = true ∨ entry.target = 0 ∨
            (inside entry.target = true ∧
              entry.actions = actions)))

variable {chars : UriClass} {cs start : Nat}
variable {states inside actions : List Nat} {c : UInt8}

theorem UriClass.Leads.transition
    {inside : Nat → Bool}
    (h :
      chars.Leads (uriParserTables.row cs)
        (uriParserTables.rowDefault cs) inside actions)
    (hChar : chars.chars c = true) :
    (uriParserTables.transition cs c).1 = 0 ∨
      (inside (uriParserTables.transition cs c).1 = true ∧
        (uriParserTables.transition cs c).2 = actions) := by
  rcases uriParserTables.transition_row cs c with
    ⟨entry, hMem, hLow, hHigh, hIs⟩ | hIs
  · rw [hIs]
    rcases h.2 entry hMem with hOutside | hWay
    · rw [chars.sound entry c hOutside hLow hHigh] at hChar
      cases hChar
    · exact hWay
  · rw [hIs]
    exact .inl h.1

/- What is checked of rows holds of the transitions. -/
theorem uriKeeps_of_rows
    {inside : Nat → Bool}
    (hInside : ∀ cs, inside cs = true ↔ cs ∈ states)
    (h : ∀ cs ∈ states,
      chars.Leads (uriParserTables.row cs)
        (uriParserTables.rowDefault cs) inside []) :
    UriKeeps states chars.chars := by
  intro cs hMem c hChar
  rcases (h cs hMem).transition hChar with
    hZero | ⟨hIn, hNone⟩
  · exact .inl hZero
  · exact .inr ⟨(hInside _).mp hIn, hNone⟩

theorem uriField_of_rows
    {firsts : UriClass}
    (hFirst :
      firsts.Leads (uriParserTables.row start)
        (uriParserTables.rowDefault start) inside.contains
        [0])
    (hLater : ∀ cs ∈ inside,
      chars.Leads (uriParserTables.row cs)
        (uriParserTables.rowDefault cs) inside.contains
        []) :
    UriField start inside firsts.chars chars.chars where
  first := by
    intro c hChar
    rcases hFirst.transition hChar with hZero | ⟨hIn, hMark⟩
    · exact .inl hZero
    · exact .inr ⟨List.contains_iff_mem.mp hIn, hMark⟩
  later :=
    uriKeeps_of_rows (fun _ => List.contains_iff_mem) hLater

theorem uriField_scheme :
    UriField 1 [2] (without [0, chColon]).chars
      (without [0, chColon]).chars :=
  uriField_of_rows (by decide) (by decide)

theorem uriField_name :
    UriField 20 [21, 22, 23]
      (without (uriEnds ++ [chAt] ++
        [chColon, chBracket])).chars
      (without (uriEnds ++ [chAt] ++ [chColon])).chars :=
  uriField_of_rows (by decide) (by decide)

theorem uriField_host :
    UriField 28 [29, 30, 31]
      (without (uriEnds ++ [chColon, chBracket])).chars
      (without (uriEnds ++ [chColon])).chars :=
  uriField_of_rows (by decide) (by decide)

theorem uriField_port :
    UriField 32 [33] (without uriEnds).chars
      (without uriEnds).chars :=
  uriField_of_rows (by decide) (by decide)

theorem uriField_digits :
    UriField 24 [190] digits.chars digits.chars :=
  uriField_of_rows (by decide) (by decide)

theorem uriField_query :
    UriField 15 [16, 17, 18] (without [0, chHash]).chars
      (without [0, chHash]).chars :=
  uriField_of_rows (by decide) (by decide)

theorem uriField_fragment :
    UriField 5 [6, 7, 8] (without [0]).chars
      (without [0]).chars :=
  uriField_of_rows (by decide) (by decide)

/- A password that does not start with a digit. -/
theorem uriKeeps_password :
    UriKeeps [25, 26, 27]
      (without (uriEnds ++ [chAt])).chars :=
  uriKeeps_of_rows (fun _ => List.contains_iff_mem)
    (by decide)

/- One that does, or the digits of a port. -/
theorem uriKeeps_digits :
    UriKeeps [190, 25, 26, 27]
      (without (uriEnds ++ [chAt])).chars :=
  uriKeeps_of_rows (fun _ => List.contains_iff_mem)
    (by decide)

theorem uriPending_password :
    UriPending [25, 26, 27] := by
  unfold UriPending
  decide

end Feng

------------------------------------------------------------
-- Delimiters
------------------------------------------------------------

namespace Feng

theorem uriEnds_scheme :
    UriEnds 1 [2] chColon 3 [6] := by
  decide

theorem uriEnds_name :
    UriEnds 20 [21, 22, 23] chColon 24 [3] ∧
      UriEnds 20 [21, 22, 23] chAt 28 [2] ∧
      ∀ d ∈ uriEnds,
        UriEnds 20 [21, 22, 23] d (endTarget d)
          (3 :: endActions d) := by
  decide

theorem uriEnds_host :
    UriEnds 28 [29, 30, 31] chColon 32 [3] ∧
      ∀ d ∈ uriEnds,
        UriEnds 28 [29, 30, 31] d (endTarget d)
          (3 :: endActions d) := by
  decide

theorem uriEnds_port :
    (∀ d ∈ uriEnds,
      UriEnds 32 [33] d (endTarget d) (4 :: endActions d)) ∧
    ∀ d ∈ uriEnds,
      UriEnds 24 [190] d (endTarget d)
        (4 :: endActions d) := by
  decide

theorem uriEnds_query :
    UriEnds 15 [16, 17, 18] chHash 5 [7] ∧
      UriEnds 15 [16, 17, 18] 0 191 [7, 1] ∧
      UriEnds 5 [6, 7, 8] 0 191 [8, 1] := by
  decide

/- Single characters, and where they lead. -/
theorem uriParser_single :
    uriParserTables.transition 3 chSlash = (19, []) ∧
      uriParserTables.transition 19 chSlash = (20, []) ∧
      uriParserTables.transition 20 chBracket = (34, [0]) ∧
      uriParserTables.transition 28 chBracket = (34, [0]) ∧
      uriParserTables.transition 24 chAt = (28, [2]) ∧
      uriParserTables.transition 72 chColon = (32, [3]) := by
  decide

/- Behind a password there is an at sign, if anything. -/
theorem uriParser_password :
    ∀ cs ∈ [190, 25, 26, 27],
      (uriParserTables.transition cs chAt).1 = 0 ∨
        uriParserTables.transition cs chAt = (28, [2]) := by
  decide

/- Behind a literal address, the end or a port. -/
theorem uriParser_behindLiteral :
    (∀ d ∈ uriEnds,
      (uriParserTables.transition 72 d).1 = 0 ∨
        uriParserTables.transition 72 d =
          (endTarget d, 3 :: endActions d)) ∧
    (without (uriEnds ++ [chColon])).Leads
      (uriParserTables.row 72)
      (uriParserTables.rowDefault 72) (fun _ => false) [] := by
  decide

/- Behind one there is no at sign. -/
theorem uriParser_noAt :
    ∀ cs ∈ [72, 32, 33],
      (uriParserTables.transition cs chAt).1 = 0 ∧
      (uriParserTables.rowDefault cs).1 = 0 ∧
      ∀ entry ∈ uriParserTables.row cs,
        (without uriEnds).outside entry = true ∨
          entry.target = 0 ∨ entry.target ∈ [72, 32, 33] := by
  decide

/- Characters that are no digits, and not some others. -/
def notDigit (cs : List UInt8) : UriClass where
  chars := fun c => !cs.contains c && !isDigit c
  outside := fun entry =>
    (without cs).outside entry ||
      (48 ≤ entry.low && entry.high ≤ 57)
  sound := by
    intro entry c hOutside hLow hHigh
    rcases Bool.or_eq_true_iff.mp hOutside with hOut | hIn
    · have hNot := (without cs).sound entry c hOut hLow hHigh
      have hNot : (!cs.contains c) = false := hNot
      rw [hNot]
      rfl
    · simp only [Bool.and_eq_true, decide_eq_true_eq] at hIn
      have hDigit : isDigit c = true := by
        simp only [isDigit, Bool.and_eq_true,
          decide_eq_true_eq, UInt8.le_iff_toNat_le]
        change 48 ≤ c.toNat ∧ c.toNat ≤ 57
        omega
      rw [hDigit, Bool.not_true, Bool.and_false]

theorem uriParser_notDigit :
    ∀ cs ∈ [24, 190],
      (notDigit (uriEnds ++ [chAt])).Leads
        (uriParserTables.row cs)
        (uriParserTables.rowDefault cs)
        [25, 26, 27].contains [] := by
  decide

/- In a path only the mark and the stack are changed. -/
def pathStates : List Nat :=
  [11, 12, 13, 14]

theorem uriParser_path :
    ∀ cs ∈ pathStates,
      (uriParserTables.rowDefault cs).1 = 0 ∧
      ∀ entry ∈ uriParserTables.row cs,
        (without [0, chQuestion, chHash]).outside entry =
            true ∨
          entry.target = 0 ∨
          (entry.target ∈ pathStates ∧
            ∀ a ∈ entry.actions, a ∈ [0, 5]) := by
  decide

theorem uriParser_pathEnd :
    ∀ cs ∈ pathStates, ∀ d ∈ [0, chQuestion, chHash],
      (uriParserTables.transition cs d).1 = 0 ∨
        uriParserTables.transition cs d =
          (endTarget d, endActions d) ∨
        uriParserTables.transition cs d =
          (endTarget d, 5 :: endActions d) := by
  decide

end Feng

------------------------------------------------------------
-- Literal Addresses
------------------------------------------------------------

namespace Feng

variable {cs : Nat} {c : UInt8}

/- The states within the brackets of a literal address. -/
def isLiteral (cs : Nat) : Bool :=
  34 ≤ cs && cs < 190 && cs ≠ 72

def literalStates : List Nat :=
  (List.range uriStates).filter isLiteral

theorem isLiteral_iff
    (cs : Nat) :
    isLiteral cs = true ↔ cs ∈ literalStates := by
  unfold literalStates
  rw [List.mem_filter, List.mem_range]
  constructor
  · intro h
    refine ⟨?_, h⟩
    simp only [isLiteral, Bool.and_eq_true,
      decide_eq_true_eq] at h
    exact Nat.lt_trans h.1.2 (by decide)
  · exact fun h => h.2

theorem uriParserFits : uriParserTables.Fits where
  actions := by decide
  keyOffsets := by decide
  transKeys := by decide +kernel
  singleLengths := by decide
  rangeLengths := by decide
  indexOffsets := by decide
  indicies := by decide +kernel
  transTargs := by decide
  transActions := by decide

/-
  Their rows lead to one another, or behind the bracket, and
  the end of an authority is not among them.
-/
def LiteralRow
    (row : List RagelEntry)
    (default : Nat × List Nat) : Prop :=
  (without [93]).Leads row default isLiteral [] ∧
    ∀ entry ∈ row,
      entry.target = 0 ∨
        ((entry.low ≤ 93 → 93 ≤ entry.high →
            (entry.target, entry.actions) = (72, [])) ∧
          ∀ d ∈ chAt :: uriEnds, d.toNat < entry.low ∨
            entry.high < d.toNat)

instance decidableLiteralRow
    (row : List RagelEntry)
    (default : Nat × List Nat) :
    Decidable (LiteralRow row default) :=
  inferInstanceAs
    (Decidable
      ((without [93]).Leads row default isLiteral [] ∧
        ∀ entry ∈ row,
          entry.target = 0 ∨
            ((entry.low ≤ 93 → 93 ≤ entry.high →
                (entry.target, entry.actions) = (72, [])) ∧
              ∀ d ∈ chAt :: uriEnds, d.toNat < entry.low ∨
                entry.high < d.toNat)))

theorem literal_rows :
    ∀ cs ∈ literalStates,
      LiteralRow (uriParserTables.row cs)
        (uriParserTables.rowDefault cs) :=
  RagelTables.rows_of_pack
    (P := fun _ => LiteralRow)
    uriParserFits (by decide +kernel)

theorem uriKeeps_literal :
    UriKeeps literalStates (without [93]).chars :=
  uriKeeps_of_rows isLiteral_iff
    (fun cs hMem => (literal_rows cs hMem).1)

theorem literal_stuck
    (hMem : cs ∈ literalStates)
    (hEnd : c ∈ chAt :: uriEnds) :
    (uriParserTables.transition cs c).1 = 0 := by
  rcases literal_rows cs hMem with ⟨⟨hDefault, _⟩, hRow⟩
  rcases uriParserTables.transition_row cs c with
    ⟨entry, hEntry, hLow, hHigh, hIs⟩ | hIs
  · rw [hIs]
    rcases hRow entry hEntry with hZero | ⟨_, hFree⟩
    · exact hZero
    · have hBeside := hFree c hEnd
      omega
  · rw [hIs]
    exact hDefault

theorem uriPending_literal :
    UriPending literalStates :=
  fun _ hMem _ hEnd =>
    literal_stuck hMem (List.mem_cons_of_mem _ hEnd)

theorem literal_closes
    (hMem : cs ∈ literalStates) :
    (uriParserTables.transition cs 93).1 = 0 ∨
      uriParserTables.transition cs 93 = (72, []) := by
  rcases literal_rows cs hMem with ⟨⟨hDefault, _⟩, hRow⟩
  rcases uriParserTables.transition_row cs 93 with
    ⟨entry, hEntry, hLow, hHigh, hIs⟩ | hIs
  · rw [hIs]
    rcases hRow entry hEntry with hZero | ⟨hCloses, _⟩
    · exact .inl hZero
    · exact .inr (hCloses hLow hHigh)
  · rw [hIs]
    exact .inl hDefault

end Feng

------------------------------------------------------------
-- Paths
------------------------------------------------------------

namespace Feng

variable {cs : Nat} {actions : List Nat}
variable {before text rest chunk : List UInt8}
variable {s t : UriScan} {uri : URI}

theorem run_path
    (hActions : ∀ a ∈ actions, a ∈ [0, 5])
    (hRun : uriParser.run before actions s = .next t) :
    t.uri = s.uri := by
  induction actions generalizing s with
  | nil =>
      cases hRun
      rfl
  | cons a actions ih =>
      rcases List.forall_mem_cons.mp hActions with
        ⟨hFirst, hRest⟩
      rcases List.mem_pair.mp hFirst with rfl | rfl
      · rw [RagelMachine.run_cons rfl] at hRun
        have hSame := ih hRest hRun
        exact hSame
      · rw [RagelMachine.run_cons rfl] at hRun
        have hSame := ih hRest hRun
        exact hSame

/- A path is read up to a query, or to the end. -/
theorem UriAccepts.path
    (hState : cs ∈ pathStates)
    (hChunk : ∀ c ∈ chunk, c ∉ [0, chQuestion, chHash])
    (h : UriAccepts cs before s (chunk ++ rest) uri) :
    ∃ cs' ∈ pathStates, ∃ t,
      t.uri = s.uri ∧
        UriAccepts cs' (before ++ chunk) t rest uri := by
  induction chunk generalizing cs before s with
  | nil =>
      rw [List.append_nil]
      exact ⟨cs, hState, s, rfl, h⟩
  | cons c chunk ih =>
      rcases List.forall_mem_cons.mp hChunk with
        ⟨hFirst, hRest⟩
      rcases h.step with ⟨hTarget, t, hRun, hNext⟩
      rcases uriParser_path cs hState with ⟨hDefault, hRow⟩
      rcases uriParserTables.transition_row cs c with
        ⟨entry, hMem, hLow, hHigh, hIs⟩ | hIs
      · rw [hIs] at hTarget hRun hNext
        rcases hRow entry hMem with
          hOutside | hZero | ⟨hIn, hActions⟩
        · have hNot :=
            (without [0, chQuestion, chHash]).sound entry c
              hOutside hLow hHigh
          change (!([0, chQuestion, chHash].contains c)) =
            false at hNot
          rw [Bool.not_eq_false', List.contains_iff_mem]
            at hNot
          exact absurd hNot hFirst
        · exact absurd hZero hTarget
        · have hSame := run_path hActions hRun
          rcases ih hIn hRest hNext with
            ⟨cs', hMem', u, hUri, hEnd⟩
          rw [List.append_assoc] at hEnd
          exact ⟨cs', hMem', u, hUri.trans hSame, hEnd⟩
      · rw [hIs] at hTarget
        exact absurd hDefault hTarget

end Feng
