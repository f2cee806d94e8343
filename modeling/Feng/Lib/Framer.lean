import Mathlib.Data.List.Basic
import Mathlib.Data.List.Induction

/-
  Streams that are cut into pieces by what has been read.

  A framer has a mode, and holds what was read since the last
  cut. It is asked with each element whether to cut there: it
  then changes its mode and puts something out. What it does
  with a stream does not depend on how the stream is fed.

  Key definitions include:
    * `Framer`
    * `Framer.feed`
    * `Framer.Quiet`

  Key theorems include:
    * `Framer.feed_append`
    * `Framer.feed_quiet`
    * `Framer.feed_cut`
    * `Framer.feed_resume`
    * `Framer.quiet_or_cut`
-/

------------------------------------------------------------
-- Framers
------------------------------------------------------------

namespace Feng

structure Framer (κ β ο : Type) where
  cut : κ → List β → Option (κ × List ο)

/- The mode, what is held, and what has been put out. -/
structure FramerState (κ β ο : Type) where
  mode : κ
  held : List β
  output : List ο

namespace Framer

variable {κ β ο : Type}

/- Read one element. -/
def read
    (framer : Framer κ β ο)
    (state : FramerState κ β ο)
    (b : β) : FramerState κ β ο :=
  match framer.cut state.mode (state.held ++ [b]) with
  | none => { state with held := state.held ++ [b] }
  | some (mode, output) =>
      { mode := mode
        held := []
        output := state.output ++ output }

def feed
    (framer : Framer κ β ο)
    (state : FramerState κ β ο)
    (text : List β) : FramerState κ β ο :=
  text.foldl framer.read state

/- Just behind a cut. -/
def fresh
    (mode : κ)
    (output : List ο) : FramerState κ β ο where
  mode := mode
  held := []
  output := output

/- There is no cut in a text. -/
def Quiet
    (framer : Framer κ β ο)
    (mode : κ)
    (text : List β) : Prop :=
  ∀ first b rest, text = first ++ b :: rest →
    framer.cut mode (first ++ [b]) = none

end Framer

end Feng

------------------------------------------------------------
-- Feeding
------------------------------------------------------------

namespace Feng

namespace Framer

variable {κ β ο : Type} {framer : Framer κ β ο}
variable {mode mode' : κ} {first rest text : List β}
variable {output added : List ο} {b : β}

/- Feeding a stream in two parts is feeding the whole. -/
theorem feed_append
    (state : FramerState κ β ο)
    (first rest : List β) :
    framer.feed state (first ++ rest) =
      framer.feed (framer.feed state first) rest :=
  List.foldl_append

theorem feed_snoc
    (state : FramerState κ β ο)
    (text : List β)
    (b : β) :
    framer.feed state (text ++ [b]) =
      framer.read (framer.feed state text) b := by
  rw [feed_append]
  rfl

theorem quiet_nil :
    framer.Quiet mode [] := by
  intro first b rest hSplit
  cases first with
  | nil => cases hSplit
  | cons c first => cases hSplit

theorem quiet_snoc :
    framer.Quiet mode (text ++ [b]) ↔
      framer.Quiet mode text ∧
        framer.cut mode (text ++ [b]) = none := by
  constructor
  · intro hQuiet
    constructor
    · intro first c rest hSplit
      apply hQuiet first c (rest ++ [b])
      rw [hSplit]
      simp
    · exact hQuiet text b [] rfl
  · rintro ⟨hQuiet, hLast⟩ first c rest hSplit
    cases hRest : rest.reverse with
    | nil =>
        rw [List.reverse_eq_nil_iff.mp hRest] at hSplit
        rcases List.append_inj' hSplit rfl with ⟨hText, hChar⟩
        cases hChar
        rw [← hText]
        exact hLast
    | cons d last =>
        have hEnd : rest = last.reverse ++ [d] := by
          rw [← List.reverse_reverse rest, hRest]
          simp
        rw [hEnd, ← List.cons_append, ← List.append_assoc]
          at hSplit
        rcases List.append_inj' hSplit rfl with ⟨hText, _⟩
        exact hQuiet first c last.reverse hText

/- Without a cut, all is held. -/
theorem feed_quiet
    (hQuiet : framer.Quiet mode text)
    (output : List ο) :
    framer.feed (fresh mode output) text =
      { mode := mode
        held := text
        output := output } := by
  induction text using List.reverseRecOn with
  | nil => rfl
  | append_singleton text b ih =>
      rcases quiet_snoc.mp hQuiet with ⟨hText, hLast⟩
      rw [feed_snoc, ih hText]
      simp only [read, hLast]

/- A text is read up to its first cut. -/
theorem feed_cut
    (hQuiet : framer.Quiet mode first)
    (hCut :
      framer.cut mode (first ++ [b]) = some (mode', added))
    (rest : List β)
    (output : List ο) :
    framer.feed (fresh mode output) (first ++ b :: rest) =
      framer.feed (fresh mode' (output ++ added)) rest := by
  have hSplit : first ++ b :: rest = first ++ [b] ++ rest := by
    simp
  rw [hSplit, feed_append, feed_snoc, feed_quiet hQuiet]
  simp only [read, hCut]
  rfl

/- The first cut of a stream is in one place. -/
theorem Quiet.cut_unique
    {first first' rest rest' : List β}
    {b b' : β}
    (h : framer.Quiet mode first)
    (h' : framer.Quiet mode first')
    (hCut : framer.cut mode (first ++ [b]) ≠ none)
    (hCut' : framer.cut mode (first' ++ [b']) ≠ none)
    (hSame : first ++ b :: rest = first' ++ b' :: rest') :
    first = first' ∧ b = b' ∧ rest = rest' := by
  rcases List.append_eq_append_iff.mp hSame with
    ⟨between, hFirst, hRest⟩ | ⟨between, hFirst, hRest⟩
  · cases between with
    | nil =>
        rw [List.append_nil] at hFirst
        cases hRest
        exact ⟨hFirst.symm, rfl, rfl⟩
    | cons c between =>
        cases hRest
        exact absurd (h' first b between hFirst) hCut
  · cases between with
    | nil =>
        rw [List.append_nil] at hFirst
        cases hRest
        exact ⟨hFirst, rfl, rfl⟩
    | cons c between =>
        cases hRest
        exact absurd (h first' b' between hFirst) hCut'

/- There is no cut in what is held. -/
theorem feed_held_quiet
    (mode : κ)
    (output : List ο)
    (text : List β) :
    framer.Quiet (framer.feed (fresh mode output) text).mode
      (framer.feed (fresh mode output) text).held := by
  induction text using List.reverseRecOn with
  | nil => exact quiet_nil
  | append_singleton text b ih =>
      rw [feed_snoc, read]
      split
      · rename_i hNone
        exact quiet_snoc.mpr ⟨ih, hNone⟩
      · exact quiet_nil

/- What is held is fed again where the stream goes on. -/
theorem feed_resume
    (mode : κ)
    (output : List ο)
    (text more : List β) :
    framer.feed (fresh mode output) (text ++ more) =
      framer.feed
        (fresh (framer.feed (fresh mode output) text).mode
          (framer.feed (fresh mode output) text).output)
        ((framer.feed (fresh mode output) text).held ++
          more) := by
  have hQuiet :
      framer.Quiet (framer.feed (fresh mode output) text).mode
        (framer.feed (fresh mode output) text).held :=
    feed_held_quiet mode output text
  rw [feed_append, feed_append, feed_quiet hQuiet]

/- A text has no cut, or a first one. -/
theorem quiet_or_cut
    (framer : Framer κ β ο)
    (mode : κ)
    (text : List β) :
    framer.Quiet mode text ∨
      ∃ first b rest mode' added,
        text = first ++ b :: rest ∧
        framer.Quiet mode first ∧
        framer.cut mode (first ++ [b]) =
          some (mode', added) := by
  induction text using List.reverseRecOn with
  | nil => exact .inl quiet_nil
  | append_singleton text b ih =>
      rcases ih with hQuiet |
        ⟨first, c, rest, mode', added, hText, hCut⟩
      · cases hLast : framer.cut mode (text ++ [b]) with
        | none =>
            exact .inl (quiet_snoc.mpr ⟨hQuiet, hLast⟩)
        | some result =>
            rcases result with ⟨mode', added⟩
            exact .inr ⟨text, b, [], mode', added, rfl,
              hQuiet, hLast⟩
      · refine .inr ⟨first, c, rest ++ [b], mode', added, ?_,
          hCut⟩
        rw [hText]
        simp

end Framer

end Feng
