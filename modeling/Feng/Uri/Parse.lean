import Feng.Uri.Tables

/-
  The URI parser: the actions of its scanner and the URI they
  build.

  Strings are lists of their characters, without the final
  NUL.

  Key definitions include:
    * `URI`
    * `uriParse`
-/

------------------------------------------------------------
-- The Parser
------------------------------------------------------------

namespace Feng

abbrev chHash : UInt8 := 35
abbrev chPercent : UInt8 := 37
abbrev chDot : UInt8 := 46
abbrev chSlash : UInt8 := 47
abbrev chColon : UInt8 := 58
abbrev chQuestion : UInt8 := 63

structure URI where
  scheme : Option (List UInt8)
  userinfo : Option (List UInt8)
  host : Option (List UInt8)
  port : Option (List UInt8)
  path : Option (List UInt8)
  query : Option (List UInt8)
  fragment : Option (List UInt8)
deriving DecidableEq, Repr

/-
  The variables of the parser. The mark is a place in the
  string, and none where it is not set or was moved to a copy.
-/
structure UriScan where
  mark : Option Nat
  stack : List (List UInt8)
  uri : URI
deriving DecidableEq, Repr

def uriNew : URI where
  scheme := none
  userinfo := none
  host := none
  port := none
  path := none
  query := none
  fragment := none

def uriScanStart : UriScan where
  mark := none
  stack := []
  uri := uriNew

/- `append_to_string`, for every segment of the stack. -/
def appendToString
    (path segment : List UInt8) : List UInt8 :=
  path ++ chSlash :: segment

/- `g_strndup(mark, p - mark)`, given what lies before `p`. -/
def UriScan.marked
    (s : UriScan)
    (before : List UInt8) : List UInt8 :=
  match s.mark with
  | some mark => before.drop mark
  | none => []

/- The URI with the path the stack stands for, if it has one. -/
def UriScan.setPath (s : UriScan) : UriScan :=
  if s.stack = [] then
    s
  else
    { s with
      uri := { s.uri with
        path := some (s.stack.foldl appendToString []) } }

def uriAction
    (action : Nat)
    (before : List UInt8)
    (s : UriScan) : RagelFlow UriScan :=
  match action with
  | 0 => .next { s with mark := some before.length }
  | 1 => .next s.setPath
  | 2 =>
      .next { s with uri :=
        { s.uri with userinfo := some (s.marked before) } }
  | 3 =>
      .next { s with uri :=
        { s.uri with host := some (s.marked before) } }
  | 4 =>
      .next { s with uri :=
        { s.uri with port := some (s.marked before) } }
  | 5 =>
      .next { s with
        mark := none
        stack := s.stack ++ [s.marked before] }
  | 6 =>
      .next { s with uri :=
        { s.uri with scheme := some (s.marked before) } }
  | 7 =>
      .next { s with uri :=
        { s.uri with query := some (s.marked before) } }
  | 8 =>
      .next { s with uri :=
        { s.uri with fragment := some (s.marked before) } }
  | _ => .next s

def uriParserStart : Nat :=
  1

def uriParserFirstFinal : Nat :=
  191

def uriParser : RagelMachine UriScan where
  tables := uriParserTables
  action := uriAction

/- The scanner reads the string and its final NUL. -/
def uriParse (uriString : List UInt8) : Option URI :=
  match uriParser.exec uriParserStart [] uriScanStart
    (uriString ++ [0]) with
  | .eof cs _ s =>
      if cs < uriParserFirstFinal then none else some s.uri
  | .out cs _ s =>
      if cs < uriParserFirstFinal then none else some s.uri

end Feng
