import Feng.Uri.Parse

/-
  The phases of the URI scanner, and what its tables say of
  the moves between them.

  Key definitions include:
    * `UriPhase`
    * `uriPhase`
    * `UriMove`

  Key theorems include:
    * `uriParser_rows`
-/

------------------------------------------------------------
-- Phases Of The Scanner
------------------------------------------------------------

namespace Feng

inductive UriPhase where
| scheme
/- Behind the colon. -/
| colon
/- Behind the colon and a slash. -/
| slash
/- In an authority, or in a first segment. -/
| lead
| slashes
| segment
/- In a segment, behind a percent sign. -/
| percent
/- In a segment, behind a percent sign and a digit. -/
| digit
/- In a query or a fragment. -/
| tail
| done
deriving DecidableEq

def uriPhase (cs : Nat) : UriPhase :=
  if cs = 1 ∨ cs = 2 then .scheme
  else if cs = 3 then .colon
  else if cs = 19 then .slash
  else if cs = 11 then .slashes
  else if cs = 12 then .segment
  else if cs = 13 then .percent
  else if cs = 14 then .digit
  else if cs = 191 then .done
  else if 5 ≤ cs ∧ cs ≤ 8 ∨ 15 ≤ cs ∧ cs ≤ 18 then .tail
  else .lead

namespace RagelEntry

/- The entry is for one character only. -/
def isFor (entry : RagelEntry) (c : UInt8) : Bool :=
  entry.low = c.toNat && entry.high = c.toNat

/- The entry is for none of some characters. -/
def avoids (entry : RagelEntry) (cs : List UInt8) : Bool :=
  cs.all (fun c =>
    c.toNat < entry.low || entry.high < c.toNat ||
      entry.except.contains c.toNat)

/- The entry is for hexadecimal digits. -/
def forHex (entry : RagelEntry) : Bool :=
  (48 ≤ entry.low && entry.high ≤ 57) ||
    (65 ≤ entry.low && entry.high ≤ 70) ||
    (97 ≤ entry.low && entry.high ≤ 102)

/- The stack and the path are left alone. -/
def quiet (entry : RagelEntry) : Bool :=
  !entry.actions.contains 1 && !entry.actions.contains 5

/- The path is set to what is on the stack. -/
def finishes (entry : RagelEntry) : Bool :=
  entry.actions.contains 1 && !entry.actions.contains 5

end RagelEntry

/-
  What an entry may be for, by the phase it belongs to and the
  phase it leads to, and its actions.
-/
def UriMove (entry : RagelEntry) :
    UriPhase → UriPhase → Bool
| .scheme, .scheme => entry.avoids [0, chColon] && entry.quiet
| .scheme, .colon => entry.isFor chColon && entry.quiet
| .colon, .slash => entry.isFor chSlash && entry.quiet
| .colon, .lead =>
    entry.avoids [0, chSlash, chQuestion, chHash] &&
      entry.quiet
| .slash, .lead =>
    entry.avoids [0, chQuestion, chHash] && entry.quiet
| .slash, .tail =>
    (entry.isFor chQuestion || entry.isFor chHash) &&
      entry.quiet
| .slash, .done => entry.isFor 0 && entry.finishes
| .lead, .lead =>
    entry.avoids [0, chSlash, chQuestion, chHash] &&
      entry.quiet
| .lead, .slashes => entry.isFor chSlash && entry.quiet
| .lead, .tail =>
    (entry.isFor chQuestion || entry.isFor chHash) &&
      entry.quiet
| .lead, .done => entry.isFor 0 && entry.finishes
| .slashes, .slashes =>
    entry.isFor chSlash && entry.quiet
| .slashes, .segment =>
    entry.avoids
        [0, chSlash, chQuestion, chHash, chPercent] &&
      entry.actions = [0]
| .slashes, .percent =>
    entry.isFor chPercent && entry.actions = [0]
| .slashes, .tail =>
    (entry.isFor chQuestion || entry.isFor chHash) &&
      entry.quiet
| .slashes, .done => entry.isFor 0 && entry.finishes
| .segment, .segment =>
    entry.avoids
        [0, chSlash, chQuestion, chHash, chPercent] &&
      entry.actions = []
| .segment, .percent =>
    entry.isFor chPercent && entry.actions = []
| .segment, .slashes =>
    entry.isFor chSlash && entry.actions = [5]
| .segment, .tail =>
    (entry.isFor chQuestion || entry.isFor chHash) &&
      entry.actions = [5]
| .segment, .done => entry.isFor 0 && entry.actions = [5, 1]
| .percent, .digit => entry.forHex && entry.actions = []
| .digit, .segment => entry.forHex && entry.actions = []
| .tail, .tail => entry.avoids [0] && entry.quiet
| .tail, .done => entry.isFor 0 && entry.finishes
| _, _ => false

def uriStates : Nat :=
  192

/- The tables make no other moves. -/
theorem uriParser_rows :
    ∀ cs < uriStates, cs ≠ 0 →
      ∀ entry ∈ uriParserTables.row cs, entry.target ≠ 0 →
        entry.target < uriStates ∧
          UriMove entry (uriPhase cs)
            (uriPhase entry.target) = true := by
  decide +kernel

theorem uriParser_sorted :
    ∀ cs < uriStates, uriParserTables.SinglesSorted cs := by
  decide +kernel

theorem uriParser_rowDefault :
    ∀ cs < uriStates, cs ≠ 0 →
      (uriParserTables.rowDefault cs).1 = 0 := by
  decide +kernel

end Feng
