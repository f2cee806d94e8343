import Feng.Uri.Fields

/-
  A URI with an authority, split as RFC 3986 has it, and what
  the scanner finds in it.

  The mark that a userinfo is read from is moved by a digit
  that may be the first of a port. So the scanner loses what
  comes before a password that starts with a digit.

  Key definitions include:
    * `HasAuthority`
    * `rfc3986`
    * `DigitPassword`

  Key theorems include:
    * `UriAccepts.tail`
    * `UriAccepts.toAuthority`
    * `uriParse_authority`
    * `uriParse_split_iff`
-/

------------------------------------------------------------
-- The Parts Of A URI
------------------------------------------------------------

namespace Feng

/- What comes from a query or a fragment on. -/
def fromQuery (text : List UInt8) : List UInt8 :=
  text.dropWhile (fun c => c ≠ chQuestion && c ≠ chHash)

/- The query, from the first question mark to a hash sign. -/
def queryOf (text : List UInt8) : Option (List UInt8) :=
  match fromQuery text with
  | [] => none
  | c :: rest =>
      if c = chQuestion then
        some (rest.takeWhile (fun c => c ≠ chHash))
      else
        none

/- The fragment, from the first hash sign on. -/
def fragmentOf (text : List UInt8) : Option (List UInt8) :=
  match text.dropWhile (fun c => c ≠ chHash) with
  | [] => none
  | _ :: rest => some rest

/- A character of an authority. -/
def inAuthority (c : UInt8) : Bool :=
  c ≠ chSlash && c ≠ chQuestion && c ≠ chHash

/- What is between the scheme and the end of the string. -/
def behindSlashes (text : List UInt8) : List UInt8 :=
  (behindColon text).drop 2

def HasAuthority (text : List UInt8) : Prop :=
  [chSlash, chSlash] <+: behindColon text

instance decidableHasAuthority : DecidablePred HasAuthority :=
  fun text =>
    inferInstanceAs
      (Decidable ([chSlash, chSlash] <+: behindColon text))

def authorityOf (text : List UInt8) : List UInt8 :=
  (behindSlashes text).takeWhile inAuthority

def behindAuthority (text : List UInt8) : List UInt8 :=
  (behindSlashes text).dropWhile inAuthority

def notAt (c : UInt8) : Bool :=
  c ≠ chAt

/- All before the at sign, if there is one. -/
def userinfoOf (authority : List UInt8) :
    Option (List UInt8) :=
  if chAt ∈ authority then
    some (authority.takeWhile notAt)
  else
    none

/- All behind it. -/
def hostportOf (authority : List UInt8) : List UInt8 :=
  if chAt ∈ authority then
    (authority.dropWhile notAt).drop 1
  else
    authority

def notClosing (c : UInt8) : Bool :=
  c ≠ 93

/- A literal address with its brackets, or all to a colon. -/
def hostOf (hostport : List UInt8) : List UInt8 :=
  if hostport.head? = some chBracket then
    hostport.takeWhile notClosing ++ [93]
  else
    hostport.takeWhile notColon

/- What is behind the colon that follows the host. -/
def portOf (hostport : List UInt8) : Option (List UInt8) :=
  match hostport.drop (hostOf hostport).length with
  | [] => none
  | _ :: port => some port

def rfc3986 (text : List UInt8) : URI where
  scheme := some (text.takeWhile notColon)
  userinfo := userinfoOf (authorityOf text)
  host := some (hostOf (hostportOf (authorityOf text)))
  port := portOf (hostportOf (authorityOf text))
  path :=
    joinSegments (segmentsOf (beforeQuery
      (behindAuthority text)))
  query := queryOf (behindAuthority text)
  fragment := fragmentOf (behindAuthority text)

end Feng

------------------------------------------------------------
-- Behind The Authority
------------------------------------------------------------

namespace Feng

variable {cs : Nat} {actions : List Nat}
variable {before text rest chunk more : List UInt8}
variable {s t : UriScan} {uri : URI} {c d : UInt8}

theorem UriAccepts.last
    (h : UriAccepts cs before s [] uri) :
    uri = s.uri := by
  unfold UriAccepts at h
  rw [uriParser_plain.exec_nil] at h
  unfold uriResult at h
  simp only at h
  split at h
  · cases h
  · exact (Option.some.inj h).symm

theorem setPath_uri
    (s : UriScan) :
    s.setPath.uri =
      { s.uri with path := s.setPath.uri.path } := by
  unfold UriScan.setPath
  split
  · rfl
  · rfl

theorem mem_without
    {cs : List UInt8} :
    (without cs).chars c = true ↔ c ∉ cs := by
  change (!cs.contains c) = true ↔ _
  rw [Bool.not_eq_true', ← Bool.not_eq_true,
    List.contains_iff_mem]

/- The last action sets the path, and nothing else. -/
theorem UriAccepts.finish
    {u : UriScan}
    (hRun : uriParser.run before [1] s = .next u)
    (h : UriAccepts cs text u [] uri) :
    uri = { s.uri with path := uri.path } := by
  have hIs : s.setPath = u := RagelFlow.next.inj hRun
  rw [h.last, ← hIs]
  exact setPath_uri s

/- A fragment is all that is left. -/
theorem UriAccepts.fragment
    (hText : (0 : UInt8) ∉ text)
    (h : UriAccepts 5 before s (text ++ [0]) uri) :
    uri =
      { s.uri with
        path := uri.path
        fragment := some text } := by
  have hChars : ∀ c ∈ text,
      (without [0]).chars c = true := by
    intro c hMem
    rw [mem_without, List.mem_singleton]
    rintro rfl
    exact hText hMem
  rcases uriField_fragment.readPlain uriEnds_query.2.2 hChars
      h with ⟨t, hRun, hNext⟩
  have hRun :
      uriParser.run (before ++ text) [1]
          { s.mark_ before with
            uri :=
              { s.uri with
                fragment :=
                  some ((s.mark_ before).marked
                    (before ++ text)) } } =
        .next t :=
    hRun
  rw [UriScan.marked_mark] at hRun
  exact UriAccepts.finish hRun hNext

theorem dropWhile_split
    {p : UInt8 → Bool}
    (text : List UInt8) :
    text.dropWhile p = [] ∨
      ∃ c rest, text.dropWhile p = c :: rest ∧
        p c = false := by
  cases hRest : text.dropWhile p with
  | nil => exact .inl rfl
  | cons c rest =>
      right
      refine ⟨c, rest, rfl, ?_⟩
      have hSome : text.dropWhile p ≠ [] := by
        rw [hRest]
        exact List.cons_ne_nil _ _
      have hHead := List.head_dropWhile_not p hSome
      simp only [hRest, List.head_cons] at hHead
      exact hHead

/- A query goes on to a hash sign, or to the end. -/
theorem UriAccepts.query
    (hText : (0 : UInt8) ∉ text)
    (h : UriAccepts 15 before s (text ++ [0]) uri)
    (hNone : s.uri.fragment = none) :
    uri =
      { s.uri with
        path := uri.path
        query := some (text.takeWhile (fun c => c ≠ chHash))
        fragment := fragmentOf text } := by
  have hSplit := List.takeWhile_append_dropWhile
    (p := fun c : UInt8 => decide (c ≠ chHash)) (l := text)
  have hChars :
      ∀ c ∈ text.takeWhile (fun c => decide (c ≠ chHash)),
        (without [0, chHash]).chars c = true := by
    intro c hMem
    have hNot := List.mem_takeWhile_imp hMem
    have hIn := (List.takeWhile_prefix _).subset hMem
    rw [mem_without, List.mem_cons, List.mem_singleton,
      not_or]
    refine ⟨?_, of_decide_eq_true hNot⟩
    rintro rfl
    exact hText hIn
  rcases dropWhile_split
      (p := fun c : UInt8 => decide (c ≠ chHash)) text with
    hEnd | ⟨c, rest, hRest, hHash⟩
  · unfold fragmentOf
    rw [hEnd, List.append_nil] at hSplit
    rw [← hSplit] at h
    rcases uriField_query.readPlain uriEnds_query.2.1 hChars h
      with ⟨t, hRun, hNext⟩
    have hRun :
        uriParser.run
            (before ++
              text.takeWhile (fun c => decide (c ≠ chHash)))
            [1]
            { s.mark_ before with
              uri :=
                { s.uri with
                  query :=
                    some ((s.mark_ before).marked
                      (before ++ text.takeWhile
                        (fun c => decide (c ≠ chHash)))) } } =
          .next t :=
      hRun
    rw [UriScan.marked_mark] at hRun
    have hUri := UriAccepts.finish hRun hNext
    rw [hUri, hEnd]
    simp only [hNone]
  · have hIs : c = chHash := by
      simpa using hHash
    subst hIs
    unfold fragmentOf
    rw [hRest] at hSplit ⊢
    have hFragment : (0 : UInt8) ∉ rest := by
      intro hMem
      apply hText
      rw [← hSplit]
      exact List.mem_append_right _
        (List.mem_cons_of_mem _ hMem)
    rw [← hSplit, List.append_assoc, List.cons_append] at h
    rcases uriField_query.readPlain uriEnds_query.1 hChars h
      with ⟨t, hRun, hNext⟩
    have hRun :
        RagelFlow.next
            { s.mark_ before with
              uri :=
                { s.uri with
                  query :=
                    some ((s.mark_ before).marked
                      (before ++ text.takeWhile
                        (fun c => decide (c ≠ chHash)))) } } =
          .next t :=
      hRun
    rw [UriScan.marked_mark] at hRun
    cases hRun
    exact hNext.fragment hFragment

/- What follows a path: a query, a fragment, or the end. -/
theorem UriAccepts.queryTail
    (hText : (0 : UInt8) ∉ rest)
    (hHead : ∀ c, rest.head? = some c →
      c = chQuestion ∨ c = chHash)
    (hRest : rest ++ [0] = d :: more)
    (hRun : uriParser.run before (endActions d) s = .next t)
    (h : UriAccepts (endTarget d) (before ++ [d]) t more uri)
    (hQuery : s.uri.query = none)
    (hFragment : s.uri.fragment = none) :
    uri =
      { s.uri with
        path := uri.path
        query := queryOf rest
        fragment := fragmentOf rest } := by
  cases rest with
  | nil =>
      cases hRest
      have hUri := UriAccepts.finish hRun h
      rw [hUri]
      simp only [queryOf, fragmentOf, fromQuery,
        List.dropWhile_nil, hQuery, hFragment]
  | cons c rest =>
      cases hRest
      rw [List.mem_cons, not_or] at hText
      rcases hHead d rfl with rfl | rfl
      · cases hRun
        have hUri := UriAccepts.query hText.2 h hFragment
        rw [hUri]
        rfl
      · cases hRun
        have hUri := UriAccepts.fragment hText.2 h
        rw [hUri]
        simp only [hQuery]
        rfl

theorem fromQuery_skip
    (hChunk : ∀ c ∈ chunk, c ≠ chQuestion ∧ c ≠ chHash)
    (rest : List UInt8) :
    fromQuery (chunk ++ rest) = fromQuery rest ∧
      fragmentOf (chunk ++ rest) = fragmentOf rest := by
  have hBoth :
      ∀ c ∈ chunk,
        (decide (c ≠ chQuestion) && decide (c ≠ chHash)) =
          true := by
    intro c hMem
    rw [Bool.and_eq_true, decide_eq_true_eq,
      decide_eq_true_eq]
    exact hChunk c hMem
  have hHash : ∀ c ∈ chunk, decide (c ≠ chHash) = true :=
    fun c hMem => decide_eq_true (hChunk c hMem).2
  unfold fromQuery fragmentOf
  rw [List.dropWhile_append_of_pos hBoth,
    List.dropWhile_append_of_pos hHash]
  exact ⟨rfl, rfl⟩

theorem fromQuery_head
    {text : List UInt8}
    (c : UInt8)
    (hHead : (fromQuery text).head? = some c) :
    c = chQuestion ∨ c = chHash := by
  unfold fromQuery at hHead
  rcases dropWhile_split
      (p := fun c : UInt8 =>
        decide (c ≠ chQuestion) && decide (c ≠ chHash)) text
    with hNone | ⟨d, rest, hRest, hNot⟩
  · rw [hNone] at hHead
    cases hHead
  · rw [hRest] at hHead
    cases hHead
    simpa [Bool.and_eq_false_iff, or_iff_not_imp_left]
      using hNot

/- A path ends with its last segment, if it is in one. -/
theorem UriAccepts.behindPath
    (h : UriAccepts cs before s (rest ++ [0]) uri)
    (hState : cs ∈ pathStates)
    (hText : (0 : UInt8) ∉ rest)
    (hHead : ∀ c, rest.head? = some c →
      c = chQuestion ∨ c = chHash)
    (hQuery : s.uri.query = none)
    (hFragment : s.uri.fragment = none) :
    uri =
      { s.uri with
        path := uri.path
        query := queryOf rest
        fragment := fragmentOf rest } := by
  have hFirst :
      ∃ d more, rest ++ [0] = d :: more ∧
        d ∈ [0, chQuestion, chHash] := by
    cases rest with
    | nil => exact ⟨0, [], rfl, List.mem_cons_self⟩
    | cons c rest =>
        refine ⟨c, rest ++ [0], rfl, ?_⟩
        rcases hHead c rfl with rfl | rfl
        · decide
        · decide
  rcases hFirst with ⟨d, more, hRest, hEnd⟩
  rw [hRest] at h
  rcases h.step with ⟨hTarget, t, hRun, hNext⟩
  rcases uriParser_pathEnd cs hState d hEnd with
    hZero | hPlain | hPush
  · exact absurd hZero hTarget
  · rw [hPlain] at hRun hNext
    exact UriAccepts.queryTail hText hHead hRest hRun hNext
      hQuery hFragment
  · rw [hPush] at hRun hNext
    rw [RagelMachine.run_cons rfl] at hRun
    have hAll := UriAccepts.queryTail hText hHead hRest hRun
      hNext hQuery hFragment
    exact hAll

/- What follows an authority. -/
theorem UriAccepts.tail
    (hText : (0 : UInt8) ∉ rest)
    (hHead : ∀ c, rest.head? = some c → inAuthority c = false)
    (hRest : rest ++ [0] = d :: more)
    (hRun : uriParser.run before (endActions d) s = .next t)
    (h : UriAccepts (endTarget d) (before ++ [d]) t more uri)
    (hQuery : s.uri.query = none)
    (hFragment : s.uri.fragment = none) :
    uri =
      { s.uri with
        path := uri.path
        query := queryOf rest
        fragment := fragmentOf rest } := by
  by_cases hSlash : rest.head? = some chSlash
  · cases rest with
    | nil => cases hSlash
    | cons c rest =>
        cases hSlash
        cases hRest
        cases hRun
        rw [List.mem_cons, not_or] at hText
        have hSplit :
            beforeQuery rest ++ fromQuery rest = rest :=
          List.takeWhile_append_dropWhile
        have hChars : ∀ c ∈ beforeQuery rest,
            c ≠ chQuestion ∧ c ≠ chHash := by
          intro c hMem
          have hNot := List.mem_takeWhile_imp hMem
          simpa using hNot
        have hChunk : ∀ c ∈ beforeQuery rest,
            c ∉ [0, chQuestion, chHash] := by
          intro c hMem hIn
          rcases List.mem_cons.mp hIn with rfl | hIn
          · exact hText.2 (beforeQuery_subset _ hMem)
          · rcases List.mem_pair.mp hIn with hIs | hIs
            · exact (hChars c hMem).1 hIs
            · exact (hChars c hMem).2 hIs
        have hLeft : (0 : UInt8) ∉ fromQuery rest := by
          intro hMem
          apply hText.2
          rw [← hSplit]
          exact List.mem_append_right _ hMem
        have hPath :
            UriAccepts 11 (before ++ [chSlash]) s
              (beforeQuery rest ++ (fromQuery rest ++ [0]))
              uri := by
          rw [← List.append_assoc, hSplit]
          exact h
        rcases hPath.path (by decide) hChunk with
          ⟨cs, hState, u, hUri, hNext⟩
        rw [← hUri] at hQuery hFragment
        have hAll := hNext.behindPath hState hLeft
          fromQuery_head hQuery hFragment
        have hWhole : ∀ c ∈ chSlash :: beforeQuery rest,
            c ≠ chQuestion ∧ c ≠ chHash :=
          List.forall_mem_cons.mpr ⟨by decide, hChars⟩
        rcases fromQuery_skip hWhole (fromQuery rest) with
          ⟨hFrom, hHash⟩
        rw [List.cons_append, hSplit] at hFrom hHash
        rw [hAll, hUri, hHash]
        unfold queryOf
        rw [hFrom]
  · refine UriAccepts.queryTail hText ?_ hRest hRun h hQuery
      hFragment
    intro c hIs
    have hNot := hHead c hIs
    have hNoSlash : c ≠ chSlash := by
      rintro rfl
      exact hSlash hIs
    simp only [inAuthority, Bool.and_eq_false_iff,
      decide_eq_false_iff_not, not_not] at hNot
    rcases hNot with (hNot | hNot) | hNot
    · exact absurd hNot hNoSlash
    · exact .inl hNot
    · exact .inr hNot

end Feng

------------------------------------------------------------
-- Hosts And Ports
------------------------------------------------------------

namespace Feng

variable {cs start k : Nat} {inside : List Nat}
variable {before text rest chunk port hostport : List UInt8}
variable {s t : UriScan} {uri : URI} {c d : UInt8}
variable {firsts chars : UInt8 → Bool}

/- What may come behind an authority. -/
def Behind (rest : List UInt8) : Prop :=
  (0 : UInt8) ∉ rest ∧
    ∀ c, rest.head? = some c → inAuthority c = false

/- There is no query yet, and no fragment. -/
def Unqueried (s : UriScan) : Prop :=
  s.uri.query = none ∧ s.uri.fragment = none

theorem not_inAuthority
    (h : inAuthority c = false) :
    c ∈ uriEnds := by
  simp only [inAuthority, Bool.and_eq_false_iff,
    decide_eq_false_iff_not, not_not] at h
  rcases h with (rfl | rfl) | rfl
  · decide
  · decide
  · decide

theorem Behind.end_
    (h : Behind rest) :
    ∃ d more, rest ++ [0] = d :: more ∧ d ∈ uriEnds := by
  cases rest with
  | nil => exact ⟨0, [], rfl, List.mem_cons_self⟩
  | cons c rest =>
      exact ⟨c, rest ++ [0], rfl,
        not_inAuthority (h.2 c rfl)⟩

/- A field that the end of the authority ends. -/
theorem UriField.ends
    (h : UriField start inside firsts chars)
    (hEnds : ∀ d ∈ uriEnds,
      UriEnds start inside d (endTarget d)
        (k :: endActions d))
    (hChunk : ∀ c ∈ chunk, chars c = true)
    (hFirst : ∀ c, chunk.head? = some c → firsts c = true)
    (hBehind : Behind rest)
    (hSet : uriParser.action k (before ++ chunk)
      (s.mark_ before) = .next t)
    (hUnqueried : Unqueried t)
    (hAccept :
      UriAccepts start before s (chunk ++ (rest ++ [0]))
        uri) :
    uri =
      { t.uri with
        path := uri.path
        query := queryOf rest
        fragment := fragmentOf rest } := by
  rcases hBehind.end_ with ⟨d, more, hRest, hEnd⟩
  rw [hRest] at hAccept
  rcases h.read (hEnds d hEnd) hChunk hFirst hAccept with
    ⟨u, hRun, hNext⟩
  rw [RagelMachine.run_cons hSet] at hRun
  exact UriAccepts.tail hBehind.1 hBehind.2 hRest hRun hNext
    hUnqueried.1 hUnqueried.2

/- A port goes on to the end of the authority. -/
theorem UriAccepts.toPort
    (h : UriAccepts 32 before s (port ++ (rest ++ [0])) uri)
    (hPort : ∀ c ∈ port, c ∉ uriEnds)
    (hBehind : Behind rest)
    (hUnqueried : Unqueried s) :
    uri =
      { s.uri with
        port := some port
        path := uri.path
        query := queryOf rest
        fragment := fragmentOf rest } := by
  have hChars : ∀ c ∈ port,
      (without uriEnds).chars c = true :=
    fun c hMem => mem_without.mpr (hPort c hMem)
  have hSet :
      uriParser.action 4 (before ++ port)
          (s.mark_ before) =
        .next { s.mark_ before with
          uri := { s.uri with port := some port } } := by
    have hMarked := UriScan.marked_mark s before port
    change RagelFlow.next { s.mark_ before with
      uri := { s.uri with
        port := some ((s.mark_ before).marked
          (before ++ port)) } } = _
    rw [hMarked]
  have hUri := uriField_port.ends uriEnds_port.1 hChars
    (fun c hHead => hChars c (List.mem_of_mem_head? hHead))
    hBehind hSet hUnqueried h
  exact hUri

/- What is behind a literal address. -/
theorem UriAccepts.behindLiteral
    {host : List UInt8}
    (h : UriAccepts 72 before s (text ++ (rest ++ [0])) uri)
    (hText : ∀ c ∈ text, c ∉ uriEnds)
    (hMarked : s.marked before = host)
    (hBehind : Behind rest)
    (hUnqueried : Unqueried s)
    (hPort : s.uri.port = none) :
    uri =
      { s.uri with
        host := some host
        port := text.head?.map (fun _ => text.drop 1)
        path := uri.path
        query := queryOf rest
        fragment := fragmentOf rest } := by
  cases text with
  | nil =>
      rcases hBehind.end_ with ⟨d, more, hRest, hEnd⟩
      rw [List.nil_append, hRest] at h
      rcases h.goes (uriParser_behindLiteral.1 d hEnd) with
        ⟨t, hRun, hNext⟩
      rw [RagelMachine.run_cons rfl] at hRun
      have hUri := UriAccepts.tail hBehind.1 hBehind.2 hRest
        hRun hNext hUnqueried.1 hUnqueried.2
      rw [hUri, hMarked]
      simp only [List.head?_nil, Option.map_none, hPort]
  | cons c text =>
      rcases List.forall_mem_cons.mp hText with
        ⟨hFirst, hRest⟩
      by_cases hColon : c = chColon
      · subst hColon
        rcases h.goes (.inr uriParser_single.2.2.2.2.2) with
          ⟨t, hRun, hNext⟩
        cases hRun
        have hUri := UriAccepts.toPort hNext hRest hBehind
          hUnqueried
        rw [hUri, hMarked]
        rfl
      · have hChar :
            (without (uriEnds ++ [chColon])).chars c =
              true := by
          rw [mem_without, List.mem_append,
            List.mem_singleton, not_or]
          exact ⟨hFirst, hColon⟩
        rcases uriParser_behindLiteral.2.transition hChar with
          hZero | ⟨hFalse, _⟩
        · exact (h.stuck hZero).elim
        · cases hFalse

/- A literal address, from its opening bracket on. -/
theorem UriAccepts.literal
    (h : UriAccepts start before s
      (chBracket :: text ++ (rest ++ [0])) uri)
    (hStart :
      uriParserTables.transition start chBracket = (34, [0]))
    (hText : ∀ c ∈ text, c ∉ uriEnds)
    (hBehind : Behind rest)
    (hUnqueried : Unqueried s)
    (hPort : s.uri.port = none) :
    uri =
      { s.uri with
        host := some (hostOf (chBracket :: text))
        port := portOf (chBracket :: text)
        path := uri.path
        query := queryOf rest
        fragment := fragmentOf rest } := by
  rcases h.goes (.inr hStart) with ⟨t, hRun, hNext⟩
  rw [run_mark] at hRun
  cases hRun
  have hSplit : text.takeWhile notClosing ++
      text.dropWhile notClosing = text :=
    List.takeWhile_append_dropWhile
  have hInside : ∀ c ∈ text.takeWhile notClosing,
      (without [93]).chars c = true := by
    intro c hMem
    have hNot := List.mem_takeWhile_imp hMem
    rw [mem_without, List.mem_singleton]
    exact of_decide_eq_true hNot
  have hNext :
      UriAccepts 34 (before ++ [chBracket]) (s.mark_ before)
        (text.takeWhile notClosing ++
          (text.dropWhile notClosing ++ (rest ++ [0])))
        uri := by
    rw [← List.append_assoc, hSplit]
    exact hNext
  rcases dropWhile_split (p := notClosing) text with
    hNone | ⟨c, more, hMore, hClosing⟩
  · rcases hBehind.end_ with ⟨d, others, hRest, hEnd⟩
    rw [hNone, List.nil_append, hRest] at hNext
    exact (uriKeeps_literal.no_end uriPending_literal
      (by decide) hInside hEnd hNext).elim
  · have hIs : c = 93 := by
      simpa [notClosing] using hClosing
    subst hIs
    rcases uriKeeps_literal.exec (by decide) hInside
        hNext with ⟨cs, hMem, hThere⟩
    rw [hMore] at hThere
    rcases hThere.goes (literal_closes hMem) with
      ⟨t, hRun, hBehindIt⟩
    cases hRun
    have hHost :
        hostOf (chBracket :: text) =
          chBracket :: (text.takeWhile notClosing ++ [93]) := by
      unfold hostOf
      rw [List.head?_cons, if_pos rfl, List.takeWhile_cons,
        if_pos (by decide)]
      rfl
    have hDrop :
        (chBracket :: text).drop
            (hostOf (chBracket :: text)).length =
          more := by
      rw [hHost]
      have hWhole :
          chBracket :: text =
            chBracket ::
              (text.takeWhile notClosing ++ [93]) ++
                more := by
        conv_lhs => rw [← hSplit, hMore]
        simp
      rw [hWhole, List.drop_left]
    have hMarked :
        (s.mark_ before).marked
            (before ++ [chBracket] ++
              text.takeWhile notClosing ++ [93]) =
          hostOf (chBracket :: text) := by
      rw [hHost]
      have hPlace := UriScan.marked_mark s before
        (chBracket :: (text.takeWhile notClosing ++ [93]))
      rw [← hPlace]
      congr 1
      simp
    have hLater : ∀ c ∈ more, c ∉ uriEnds := by
      intro c hMem
      apply hText
      rw [← hSplit, hMore]
      exact List.mem_append_right _
        (List.mem_cons_of_mem _ hMem)
    have hUri := hBehindIt.behindLiteral hLater hMarked hBehind
      hUnqueried hPort
    rw [hUri]
    unfold portOf
    rw [hDrop]
    cases more with
    | nil => rfl
    | cons c more => rfl

end Feng

------------------------------------------------------------
-- Authorities
------------------------------------------------------------

namespace Feng

variable {cs start target : Nat} {inside : List Nat}
variable {before text rest hostport password : List UInt8}
variable {others : List UInt8}
variable {s t : UriScan} {uri : URI} {c d : UInt8}

theorem hostport_split
    (hLiteral : hostport.head? ≠ some chBracket) :
    hostOf hostport ++ hostport.dropWhile notColon =
        hostport ∧
      hostOf hostport = hostport.takeWhile notColon ∧
      hostport.drop (hostOf hostport).length =
        hostport.dropWhile notColon := by
  have hHost : hostOf hostport = hostport.takeWhile notColon :=
    if_neg hLiteral
  have hSplit :
      hostOf hostport ++ hostport.dropWhile notColon =
        hostport := by
    rw [hHost]
    exact List.takeWhile_append_dropWhile
  have hDrop :
      (hostOf hostport ++ hostport.dropWhile notColon).drop
          (hostOf hostport).length =
        hostport.dropWhile notColon :=
    List.drop_left
  rw [hSplit] at hDrop
  exact ⟨hSplit, hHost, hDrop⟩

theorem notColon_false
    (h : notColon c = false) :
    c = chColon := by
  simpa [notColon] using h

/- The characters of a host that is no literal address. -/
theorem host_chars
    (hLiteral : hostport.head? ≠ some chBracket)
    (hHostport : ∀ c ∈ hostport, c ∉ others) :
    (∀ c ∈ hostOf hostport,
      (without (others ++ [chColon])).chars c = true) ∧
    ∀ c, (hostOf hostport).head? = some c →
      (without (others ++ [chColon, chBracket])).chars c =
        true := by
  rcases hostport_split hLiteral with ⟨hSplit, hHost, _⟩
  have hIn : ∀ c ∈ hostOf hostport, c ∉ others ∧
      c ≠ chColon := by
    intro c hMem
    constructor
    · apply hHostport
      rw [← hSplit]
      exact List.mem_append_left _ hMem
    · rw [hHost] at hMem
      have hNot := List.mem_takeWhile_imp hMem
      simpa [notColon] using hNot
  constructor
  · intro c hMem
    rw [mem_without, List.mem_append, List.mem_singleton,
      not_or]
    exact hIn c hMem
  · intro c hHead
    have hMem := List.mem_of_mem_head? hHead
    rw [mem_without, List.mem_append, List.mem_pair, not_or,
      not_or]
    refine ⟨(hIn c hMem).1, (hIn c hMem).2, ?_⟩
    rintro rfl
    apply hLiteral
    rw [← hSplit]
    cases hHostIs : hostOf hostport with
    | nil =>
        rw [hHostIs] at hHead
        cases hHead
    | cons e host =>
        rw [hHostIs] at hHead
        exact hHead

/-
  A host that is read in a field, with what follows a colon
  read as its port.
-/
theorem UriField.readHost
    (h :
      UriField start inside
        (without (others ++ [chColon, chBracket])).chars
        (without (others ++ [chColon])).chars)
    (hPorts : UriEnds start inside chColon target [3])
    (hEnds : ∀ d ∈ uriEnds,
      UriEnds start inside d (endTarget d)
        (3 :: endActions d))
    (hLiteral :
      uriParserTables.transition start chBracket = (34, [0]))
    (hOthers : uriEnds ⊆ others)
    (hToPort :
      ∀ (t : UriScan) (before port : List UInt8),
        (∀ c ∈ port, c ∉ others) → Unqueried t →
          UriAccepts target before t (port ++ (rest ++ [0]))
            uri →
          uri =
            { t.uri with
              port := some port
              path := uri.path
              query := queryOf rest
              fragment := fragmentOf rest })
    (hHostport : ∀ c ∈ hostport, c ∉ others)
    (hBehind : Behind rest)
    (hUnqueried : Unqueried s)
    (hPort : s.uri.port = none)
    (hAccept :
      UriAccepts start before s (hostport ++ (rest ++ [0]))
        uri) :
    uri =
      { s.uri with
        host := some (hostOf hostport)
        port := portOf hostport
        path := uri.path
        query := queryOf rest
        fragment := fragmentOf rest } := by
  by_cases hBracket : hostport.head? = some chBracket
  · cases hostport with
    | nil => cases hBracket
    | cons c text =>
        cases hBracket
        refine hAccept.literal hLiteral ?_ hBehind hUnqueried
          hPort
        intro c hMem hIn
        exact hHostport c (List.mem_cons_of_mem _ hMem)
          (hOthers hIn)
  · rcases hostport_split hBracket with
      ⟨hSplit, hHost, hDrop⟩
    rcases host_chars hBracket hHostport with
      ⟨hChars, hFirst⟩
    have hMarked := UriScan.marked_mark s before
      (hostOf hostport)
    unfold portOf
    rw [hDrop]
    rcases dropWhile_split (p := notColon) hostport with
      hNone | ⟨c, port, hMore, hColon⟩
    · rw [hNone, List.append_nil] at hSplit
      have hSet :
          uriParser.action 3 (before ++ hostport)
              (s.mark_ before) =
            .next { s.mark_ before with
              uri :=
                { s.uri with
                  host := some (hostOf hostport) } } := by
        change RagelFlow.next { s.mark_ before with
          uri := { s.uri with
            host := some ((s.mark_ before).marked
              (before ++ hostport)) } } = _
        rw [hSplit] at hMarked
        rw [hMarked, hSplit]
      rw [hSplit] at hChars hFirst
      have hUri := h.ends hEnds hChars hFirst hBehind hSet
        hUnqueried hAccept
      rw [hUri, hNone]
      simp only [hPort]
    · rw [notColon_false hColon] at hMore
      have hPortChars : ∀ c ∈ port, c ∉ others := by
        intro c hMem
        apply hHostport
        rw [← hSplit, hMore]
        exact List.mem_append_right _
          (List.mem_cons_of_mem _ hMem)
      rw [← hSplit, hMore, List.append_assoc,
        List.cons_append] at hAccept
      rcases h.read hPorts hChars hFirst hAccept with
        ⟨t, hRun, hNext⟩
      have hRun :
          RagelFlow.next { s.mark_ before with
            uri := { s.uri with
              host := some ((s.mark_ before).marked
                (before ++ hostOf hostport)) } } =
            .next t :=
        hRun
      rw [hMarked] at hRun
      cases hRun
      rw [hMore]
      have hThere : Unqueried { s.mark_ before with
          uri := { s.uri with
            host := some (hostOf hostport) } } :=
        hUnqueried
      have hUri := hToPort _ _ port hPortChars hThere hNext
      exact hUri

/- A host behind an at sign, and its port. -/
theorem UriAccepts.toHostport
    (h : UriAccepts 28 before s (hostport ++ (rest ++ [0]))
      uri)
    (hHostport : ∀ c ∈ hostport, c ∉ uriEnds)
    (hBehind : Behind rest)
    (hUnqueried : Unqueried s)
    (hPort : s.uri.port = none) :
    uri =
      { s.uri with
        host := some (hostOf hostport)
        port := portOf hostport
        path := uri.path
        query := queryOf rest
        fragment := fragmentOf rest } := by
  refine uriField_host.readHost uriEnds_host.1 uriEnds_host.2
    uriParser_single.2.2.2.1 (List.Subset.refl _) ?_ hHostport
    hBehind hUnqueried hPort h
  intro t before port hPortChars hUnqueried hNext
  exact hNext.toPort hPortChars hBehind hUnqueried

/- Where there is an at sign, nothing else was to come. -/
theorem uriKeeps_password_end
    (hState : cs ∈ [25, 26, 27])
    (hChunk : ∀ c ∈ password, c ∉ uriEnds ∧ c ≠ chAt)
    (hBehind : Behind rest) :
    ¬ UriAccepts cs before s (password ++ (rest ++ [0]))
      uri := by
  rcases hBehind.end_ with ⟨d, more, hRest, hEnd⟩
  rw [hRest]
  refine uriKeeps_password.no_end uriPending_password hState
    ?_ hEnd
  intro c hMem
  rw [mem_without, List.mem_append, List.mem_singleton,
    not_or]
  exact hChunk c hMem

theorem takeWhile_digits
    (text : List UInt8) :
    ∀ c ∈ text.takeWhile isDigit, digits.chars c = true :=
  fun _ hMem => List.mem_takeWhile_imp hMem

/- A colon that no at sign follows is that of a port. -/
theorem UriAccepts.barePort
    (h : UriAccepts 24 before s (password ++ (rest ++ [0]))
      uri)
    (hChunk : ∀ c ∈ password, c ∉ uriEnds ∧ c ≠ chAt)
    (hBehind : Behind rest)
    (hUnqueried : Unqueried s) :
    uri =
      { s.uri with
        port := some password
        path := uri.path
        query := queryOf rest
        fragment := fragmentOf rest } := by
  have hSplit : password.takeWhile isDigit ++
      password.dropWhile isDigit = password :=
    List.takeWhile_append_dropWhile
  rcases dropWhile_split (p := isDigit) password with
    hNone | ⟨c, more, hMore, hNot⟩
  · rw [hNone, List.append_nil] at hSplit
    have hChars := takeWhile_digits password
    rw [hSplit] at hChars
    have hSet :
        uriParser.action 4 (before ++ password)
            (s.mark_ before) =
          .next { s.mark_ before with
            uri := { s.uri with port := some password } } := by
      have hMarked := UriScan.marked_mark s before password
      change RagelFlow.next { s.mark_ before with
        uri := { s.uri with
          port := some ((s.mark_ before).marked
            (before ++ password)) } } = _
      rw [hMarked]
    have hUri := uriField_digits.ends uriEnds_port.2 hChars
      (fun c hHead => hChars c (List.mem_of_mem_head? hHead))
      hBehind hSet hUnqueried h
    exact hUri
  · rw [hMore] at hSplit
    have hLater : ∀ c ∈ more, c ∉ uriEnds ∧ c ≠ chAt := by
      intro c hMem
      apply hChunk
      rw [← hSplit]
      exact List.mem_append_right _
        (List.mem_cons_of_mem _ hMem)
    have hHere := hChunk c (by
      rw [← hSplit]
      exact List.mem_append_right _ List.mem_cons_self)
    have hChar :
        (notDigit (uriEnds ++ [chAt])).chars c = true := by
      change (!(uriEnds ++ [chAt]).contains c && !isDigit c) =
        true
      rw [hNot, Bool.not_false, Bool.and_true,
        Bool.not_eq_true', ← Bool.not_eq_true,
        List.contains_iff_mem, List.mem_append,
        List.mem_singleton, not_or]
      exact hHere
    rw [← hSplit, List.append_assoc, List.cons_append] at h
    have hAway {cs : Nat} {before : List UInt8}
        {s : UriScan}
        (hState : cs ∈ [24, 190])
        (h : UriAccepts cs before s
          (c :: (more ++ (rest ++ [0]))) uri) :
        False := by
      rcases h.step with ⟨hTarget, t, _, hNext⟩
      rcases (uriParser_notDigit cs hState).transition hChar
        with hZero | ⟨hIn, _⟩
      · exact hTarget hZero
      · exact uriKeeps_password_end
          (List.contains_iff_mem.mp hIn) hLater hBehind hNext
    by_cases hDigits : password.takeWhile isDigit = []
    · rw [hDigits, List.nil_append] at h
      exact (hAway (by decide) h).elim
    · rcases uriField_digits.enter (takeWhile_digits password)
          (fun c hHead => takeWhile_digits password c
            (List.mem_of_mem_head? hHead)) hDigits h with
        ⟨cs, hMem, hNext⟩
      rw [List.mem_singleton.mp hMem] at hNext
      exact (hAway (by decide) hNext).elim

/- An authority without an at sign. -/
theorem UriAccepts.bareHostport
    (h : UriAccepts 20 before s (hostport ++ (rest ++ [0]))
      uri)
    (hHostport : ∀ c ∈ hostport, c ∉ uriEnds ++ [chAt])
    (hBehind : Behind rest)
    (hUnqueried : Unqueried s)
    (hPort : s.uri.port = none) :
    uri =
      { s.uri with
        host := some (hostOf hostport)
        port := portOf hostport
        path := uri.path
        query := queryOf rest
        fragment := fragmentOf rest } := by
  refine uriField_name.readHost uriEnds_name.1
    uriEnds_name.2.2 uriParser_single.2.2.1
    (List.subset_append_left _ _) ?_ hHostport hBehind
    hUnqueried hPort h
  intro t before port hPortChars hUnqueried hNext
  refine hNext.barePort ?_ hBehind hUnqueried
  intro c hMem
  have hNot := hPortChars c hMem
  rw [List.mem_append, List.mem_singleton, not_or] at hNot
  exact hNot

end Feng

------------------------------------------------------------
-- Userinfos
------------------------------------------------------------

namespace Feng

variable {cs : Nat}
variable {before text rest hostport password : List UInt8}
variable {name userinfo : List UInt8}
variable {s t : UriScan} {uri : URI} {c d : UInt8}

/- What is behind the first colon of a userinfo. -/
def passwordOf (userinfo : List UInt8) : List UInt8 :=
  (userinfo.dropWhile notColon).drop 1

/- The password starts with a digit. -/
def digitFirst (password : List UInt8) : Bool :=
  password.head?.any isDigit

/- The userinfo that the scanner finds. -/
def scannedUserinfo (userinfo : List UInt8) : List UInt8 :=
  if digitFirst (passwordOf userinfo) then
    passwordOf userinfo
  else
    userinfo

/- In an address in brackets there is no at sign, nor behind. -/
theorem UriAccepts.no_at
    (hState : cs ∈ literalStates ∨ cs ∈ [72, 32, 33])
    (hChunk : ∀ c ∈ text, c ∉ uriEnds) :
    ¬ UriAccepts cs before s (text ++ chAt :: rest) uri := by
  intro h
  induction text generalizing cs before s with
  | nil =>
      rcases hState with hLiteral | hBehind
      · exact h.stuck
          (literal_stuck hLiteral List.mem_cons_self)
      · exact h.stuck (uriParser_noAt cs hBehind).1
  | cons c text ih =>
      rcases List.forall_mem_cons.mp hChunk with
        ⟨hFirst, hRest⟩
      rcases h.step with ⟨hTarget, t, _, hNext⟩
      refine ih ?_ hRest hNext
      rcases hState with hLiteral | hBehind
      · by_cases hCloses : c = 93
        · subst hCloses
          rcases literal_closes hLiteral with hZero | hIs
          · exact absurd hZero hTarget
          · rw [hIs]
            exact .inr List.mem_cons_self
        · have hChar : (without [93]).chars c = true := by
            rw [mem_without, List.mem_singleton]
            exact hCloses
          rcases uriKeeps_literal cs hLiteral c hChar with
            hZero | ⟨hIn, _⟩
          · exact absurd hZero hTarget
          · exact .inl hIn
      · right
        rcases uriParser_noAt cs hBehind with
          ⟨_, hDefault, hRow⟩
        rcases uriParserTables.transition_row cs c with
          ⟨entry, hMem, hLow, hHigh, hIs⟩ | hIs
        · rw [hIs] at hTarget ⊢
          rcases hRow entry hMem with hOutside | hZero | hIn
          · have hNot := (without uriEnds).sound entry c
              hOutside hLow hHigh
            have hChar := mem_without.mpr hFirst
            rw [hNot] at hChar
            cases hChar
          · exact absurd hZero hTarget
          · exact hIn
        · rw [hIs] at hTarget
          exact absurd hDefault hTarget

/-
  A digit that comes first moves the mark to the password. Any
  other character leaves it where the authority starts.
-/
theorem UriAccepts.readPassword
    (h : UriAccepts 24 before s (password ++ chAt :: text)
      uri)
    (hChunk : ∀ c ∈ password, c ∉ uriEnds ++ [chAt]) :
    ∃ t,
      t.uri =
          { s.uri with
            userinfo := some
              (if digitFirst password then password
              else s.marked (before ++ password)) } ∧
        UriAccepts 28 (before ++ password ++ [chAt]) t text
          uri := by
  have hKept :
      ∀ c ∈ password,
        (without (uriEnds ++ [chAt])).chars c = true :=
    fun c hMem => mem_without.mpr (hChunk c hMem)
  cases password with
  | nil =>
      rcases h.goes (.inr uriParser_single.2.2.2.2.1) with
        ⟨t, hRun, hNext⟩
      cases hRun
      rw [List.append_nil]
      exact ⟨_, rfl, hNext⟩
  | cons c password =>
      rcases List.forall_mem_cons.mp hKept with
        ⟨hFirst, hRest⟩
      have hWhole :
          before ++ [c] ++ password = before ++ c :: password :=
        List.append_assoc before [c] password
      rcases h.step with ⟨hTarget, t, hRun, hNext⟩
      by_cases hDigit : isDigit c = true
      · rcases uriField_digits.first c hDigit with
          hZero | ⟨hIn, hMark⟩
        · exact absurd hZero hTarget
        · rw [hMark, run_mark] at hRun
          cases hRun
          rw [List.mem_singleton.mp hIn] at hNext
          rcases uriKeeps_digits.exec (by decide) hRest hNext
            with ⟨cs, hMem, hEnd⟩
          rcases hEnd.goes (uriParser_password cs hMem) with
            ⟨u, hSet, hHost⟩
          cases hSet
          have hMarked := UriScan.marked_mark s before
            (c :: password)
          rw [hWhole] at hHost
          refine ⟨_, ?_, hHost⟩
          change { s.uri with
            userinfo := some ((s.mark_ before).marked
              (before ++ c :: password)) } = _
          rw [hMarked]
          simp [digitFirst, hDigit]
      · have hChar :
            (notDigit (uriEnds ++ [chAt])).chars c = true := by
          change (!(uriEnds ++ [chAt]).contains c &&
            !isDigit c) = true
          rw [Bool.and_eq_true, Bool.not_eq_true',
            Bool.not_eq_true']
          exact ⟨by simpa [without] using hFirst,
            Bool.not_eq_true _ |>.mp hDigit⟩
        rcases (uriParser_notDigit 24 (by decide)).transition
            hChar with hZero | ⟨hIn, hNone⟩
        · exact absurd hZero hTarget
        · rw [hNone] at hRun
          cases hRun
          have hIn := List.contains_iff_mem.mp hIn
          rcases uriKeeps_password.exec hIn hRest hNext with
            ⟨cs, hMem, hEnd⟩
          rcases hEnd.goes
              (uriParser_password cs
                (List.mem_cons_of_mem _ hMem)) with
            ⟨u, hSet, hHost⟩
          cases hSet
          rw [hWhole] at hHost
          refine ⟨_, ?_, hHost⟩
          simp [digitFirst, hDigit]

/- All that is before an at sign. -/
theorem UriAccepts.readUserinfo
    (h : UriAccepts 20 before s (userinfo ++ chAt :: text)
      uri)
    (hUserinfo : ∀ c ∈ userinfo, c ∉ uriEnds ++ [chAt]) :
    ∃ t host,
      t.uri =
          { s.uri with
            userinfo := some (scannedUserinfo userinfo)
            host := host } ∧
        UriAccepts 28 (before ++ userinfo ++ [chAt]) t text
          uri := by
  have hEnds : ∀ c ∈ userinfo, c ∉ uriEnds := by
    intro c hMem hIn
    exact hUserinfo c hMem (List.mem_append_left _ hIn)
  by_cases hBracket : userinfo.head? = some chBracket
  · cases userinfo with
    | nil => cases hBracket
    | cons c userinfo =>
        cases hBracket
        rcases h.goes (.inr uriParser_single.2.2.1) with
          ⟨t, _, hNext⟩
        exact (UriAccepts.no_at (.inl (by decide))
          (List.forall_mem_cons.mp hEnds).2 hNext).elim
  · rcases hostport_split hBracket with
      ⟨hSplit, hHost, hDrop⟩
    rcases host_chars hBracket hUserinfo with
      ⟨hChars, hFirst⟩
    have hMarked := UriScan.marked_mark s before userinfo
    rcases dropWhile_split (p := notColon) userinfo with
      hNone | ⟨c, password, hMore, hColon⟩
    · rw [hNone, List.append_nil] at hSplit
      rw [hSplit] at hChars hFirst
      rcases uriField_name.read uriEnds_name.2.1 hChars hFirst h
        with ⟨t, hRun, hNext⟩
      cases hRun
      refine ⟨_, s.uri.host, ?_, hNext⟩
      have hScanned : scannedUserinfo userinfo = userinfo := by
        unfold scannedUserinfo passwordOf
        rw [hNone]
        rfl
      change { s.uri with
        userinfo := some ((s.mark_ before).marked
          (before ++ userinfo)) } = _
      rw [hScanned, hMarked]
    · rw [notColon_false hColon] at hMore
      have hPassword : passwordOf userinfo = password := by
        unfold passwordOf
        rw [hMore]
        rfl
      have hLater : ∀ c ∈ password, c ∉ uriEnds ++ [chAt] := by
        intro c hMem
        apply hUserinfo
        rw [← hSplit, hMore]
        exact List.mem_append_right _
          (List.mem_cons_of_mem _ hMem)
      have hWhole :
          before ++ hostOf userinfo ++ [chColon] ++ password =
            before ++ userinfo := by
        conv_rhs => rw [← hSplit, hMore]
        simp
      rw [← hSplit, hMore, List.append_assoc,
        List.cons_append] at h
      rcases uriField_name.read uriEnds_name.1 hChars hFirst h
        with ⟨t, hRun, hNext⟩
      cases hRun
      rcases hNext.readPassword hLater with ⟨u, hUri, hHostport⟩
      rw [hWhole] at hUri hHostport
      refine ⟨u, some ((s.mark_ before).marked
        (before ++ hostOf userinfo)), ?_, hHostport⟩
      have hScanned :
          (if digitFirst password then password
            else (s.mark_ before).marked
              (before ++ userinfo)) =
            scannedUserinfo userinfo := by
        unfold scannedUserinfo
        rw [hPassword, hMarked]
      rw [hUri, ← hScanned]
      rfl

end Feng

------------------------------------------------------------
-- URIs With An Authority
------------------------------------------------------------

namespace Feng

variable {cs : Nat}
variable {before text rest authority : List UInt8}
variable {s : UriScan} {uri : URI}

/- The whole of an authority. -/
theorem UriAccepts.toAuthority
    (h : UriAccepts 20 before s (authority ++ (rest ++ [0]))
      uri)
    (hChars : ∀ c ∈ authority, c ∉ uriEnds)
    (hBehind : Behind rest)
    (hUnqueried : Unqueried s)
    (hUserinfo : s.uri.userinfo = none)
    (hPort : s.uri.port = none) :
    uri =
      { s.uri with
        userinfo := (userinfoOf authority).map scannedUserinfo
        host := some (hostOf (hostportOf authority))
        port := portOf (hostportOf authority)
        path := uri.path
        query := queryOf rest
        fragment := fragmentOf rest } := by
  unfold userinfoOf hostportOf
  by_cases hAt : chAt ∈ authority
  · rw [if_pos hAt, if_pos hAt]
    have hSplit :
        authority.takeWhile notAt ++
            authority.dropWhile notAt =
          authority :=
      List.takeWhile_append_dropWhile
    rcases dropWhile_split (p := notAt) authority with
      hNone | ⟨c, hostport, hMore, hIs⟩
    · rw [hNone, List.append_nil,
        List.takeWhile_eq_self_iff] at hSplit
      exact absurd (hSplit chAt hAt) (by decide)
    · have hIs : c = chAt := by
        simpa [notAt] using hIs
      subst hIs
      rw [hMore] at hSplit ⊢
      have hBefore : ∀ c ∈ authority.takeWhile notAt,
          c ∉ uriEnds ++ [chAt] := by
        intro c hMem
        have hNot := List.mem_takeWhile_imp hMem
        rw [List.mem_append, List.mem_singleton, not_or]
        exact ⟨hChars c
            ((List.takeWhile_prefix _).subset hMem),
          of_decide_eq_true hNot⟩
      have hAfter : ∀ c ∈ hostport, c ∉ uriEnds := by
        intro c hMem
        apply hChars
        rw [← hSplit]
        exact List.mem_append_right _
          (List.mem_cons_of_mem _ hMem)
      rw [← hSplit, List.append_assoc, List.cons_append] at h
      rcases h.readUserinfo hBefore with
        ⟨t, host, hUri, hNext⟩
      have hThere : Unqueried t := by
        unfold Unqueried
        rw [hUri]
        exact hUnqueried
      have hNoPort : t.uri.port = none := by
        rw [hUri]
        exact hPort
      have hAll := hNext.toHostport hAfter hBehind hThere
        hNoPort
      rw [hAll, hUri]
      rfl
  · rw [if_neg hAt, if_neg hAt]
    have hPlain : ∀ c ∈ authority, c ∉ uriEnds ++ [chAt] := by
      intro c hMem
      rw [List.mem_append, List.mem_singleton, not_or]
      refine ⟨hChars c hMem, ?_⟩
      rintro rfl
      exact hAt hMem
    have hAll := h.bareHostport hPlain hBehind hUnqueried hPort
    rw [hAll]
    simp only [Option.map_none, hUserinfo]

/- Only one state is entered with the final NUL. -/
theorem uriParser_nul :
    ∀ cs < uriStates, cs ≠ 0 →
      (uriParserTables.transition cs 0).1 ∈ [0, 191] := by
  decide +kernel

theorem UriAccepts.no_nul
    (h : UriAccepts cs before s (text ++ [0]) uri)
    (hState : cs < uriStates)
    (hLive : cs ≠ 0) :
    (0 : UInt8) ∉ text := by
  induction text generalizing cs before s with
  | nil => exact List.not_mem_nil
  | cons c text ih =>
      rcases h.step with ⟨hTarget, t, _, hNext⟩
      rcases uriParser_move hState hLive hTarget with
        ⟨entry, _, hEq, hBound, _⟩
      have hTo := congrArg Prod.fst hEq
      rw [List.mem_cons, not_or]
      refine ⟨?_, ih hNext (hTo ▸ hBound) hTarget⟩
      rintro rfl
      rcases List.mem_pair.mp
          (uriParser_nul cs hState hLive) with hZero | hDone
      · exact hTarget hZero
      · unfold UriAccepts at hNext
        rw [hDone] at hNext
        change uriResult
            (uriParser.exec 191 (before ++ [0]) t
              (text ++ [0])) = some uri at hNext
        cases hRest : text ++ [0] with
        | nil =>
            exact absurd hRest (List.concat_ne_nil 0 text)
        | cons d rest =>
            rw [hRest, uriResult_done] at hNext
            cases hNext

/- An authority is no part of a path. -/
theorem segmentsOf_behindAuthority
    (text : List UInt8) :
    segmentsOf (behindLead (beforeQuery
        (chSlash :: chSlash :: text))) =
      segmentsOf
        (beforeQuery (text.dropWhile inAuthority)) := by
  have hSplit :
      text.takeWhile inAuthority ++
          text.dropWhile inAuthority =
        text :=
    List.takeWhile_append_dropWhile
  have hIn : ∀ c ∈ text.takeWhile inAuthority,
      c ≠ chSlash ∧ c ≠ chQuestion ∧ c ≠ chHash := by
    intro c hMem
    have hChar := List.mem_takeWhile_imp hMem
    simpa [inAuthority, and_assoc] using hChar
  have hQuestion :
      chQuestion ∉ text.takeWhile inAuthority :=
    fun hMem => (hIn _ hMem).2.1 rfl
  have hHash : chHash ∉ text.takeWhile inAuthority :=
    fun hMem => (hIn _ hMem).2.2 rfl
  have hSlash : ∀ c ∈ text.takeWhile inAuthority,
      decide (c ≠ chSlash) = true :=
    fun c hMem => decide_eq_true (hIn c hMem).1
  rw [beforeQuery_cons _ (by decide) (by decide),
    beforeQuery_cons _ (by decide) (by decide),
    behindLead_slash_cons]
  conv_lhs => rw [← hSplit]
  rw [beforeQuery_append hQuestion hHash]
  unfold fromSlash
  rw [List.dropWhile_append_of_pos hSlash]
  rcases dropWhile_split (p := inAuthority) text with
    hNone | ⟨c, rest, hRest, hNot⟩
  · rw [hNone]
    rfl
  · rw [hRest]
    have hEnds := not_inAuthority hNot
    by_cases hIs : c = chSlash
    · subst hIs
      rw [beforeQuery_cons _ (by decide) (by decide)]
      rfl
    · have hQuery : c = chQuestion ∨ c = chHash := by
        simp only [inAuthority, Bool.and_eq_false_iff,
          decide_eq_false_iff_not, not_not] at hNot
        rcases hNot with (hNot | hNot) | hNot
        · exact absurd hNot hIs
        · exact .inl hNot
        · exact .inr hNot
      rw [beforeQuery_query _ hQuery]
      rfl

/- A scheme, and the slashes in front of an authority. -/
theorem UriAccepts.toSlashes
    {scheme : List UInt8}
    (h : UriAccepts 1 [] uriScanStart
      (scheme ++ chColon :: chSlash :: chSlash :: text) uri)
    (hScheme : ∀ c ∈ scheme, c ∉ [0, chColon]) :
    ∃ before t,
      t.uri = { uriNew with scheme := some scheme } ∧
        UriAccepts 20 before t text uri := by
  have hChars : ∀ c ∈ scheme,
      (without [0, chColon]).chars c = true :=
    fun c hMem => mem_without.mpr (hScheme c hMem)
  rcases uriField_scheme.readPlain uriEnds_scheme hChars h with
    ⟨t, hRun, hNext⟩
  have hRun :
      RagelFlow.next { uriScanStart.mark_ [] with
        uri := { uriNew with
          scheme := some ((uriScanStart.mark_ []).marked
            ([] ++ scheme)) } } =
        .next t :=
    hRun
  rw [UriScan.marked_mark] at hRun
  cases hRun
  rcases hNext.goes (.inr uriParser_single.1) with
    ⟨t, hRun, hNext⟩
  cases hRun
  rcases hNext.goes (.inr uriParser_single.2.1) with
    ⟨t, hRun, hNext⟩
  cases hRun
  exact ⟨_, _, rfl, hNext⟩

/- An authority ends where something else may follow. -/
theorem authority_ends
    (hNul : (0 : UInt8) ∉ text) :
    (∀ c ∈ text.takeWhile inAuthority, c ∉ uriEnds) ∧
      Behind (text.dropWhile inAuthority) := by
  refine ⟨?_, ?_, ?_⟩
  · intro c hMem hIn
    have hChar := List.mem_takeWhile_imp hMem
    rcases List.mem_cons.mp hIn with rfl | hIn
    · exact hNul ((List.takeWhile_prefix _).subset hMem)
    · have hNone : ∀ d ∈ [chSlash, chQuestion, chHash],
          inAuthority d = false := by
        intro d hMem
        simp only [List.mem_cons, List.not_mem_nil,
          or_false] at hMem
        rcases hMem with rfl | rfl | rfl
        · rfl
        · rfl
        · rfl
      rw [hNone c hIn] at hChar
      cases hChar
  · intro hMem
    exact hNul ((List.dropWhile_suffix _).subset hMem)
  · intro c hHead
    rcases dropWhile_split (p := inAuthority) text with
      hNone | ⟨d, rest, hRest, hNot⟩
    · rw [hNone] at hHead
      cases hHead
    · rw [hRest] at hHead
      cases hHead
      exact hNot

/- What is behind the scheme of a URI with an authority. -/
theorem HasAuthority.split
    (hParse : uriParse text ≠ none)
    (h : HasAuthority text) :
    text =
        text.takeWhile notColon ++
          chColon :: chSlash :: chSlash ::
            behindSlashes text ∧
      behindColon text =
        chSlash :: chSlash :: behindSlashes text := by
  rcases uriParse_scheme hParse with
    ⟨scheme, hier, hText, hScheme⟩
  have hNoColon : chColon ∉ scheme :=
    fun hMem => (hScheme _ hMem).1 rfl
  have hHier : behindColon text = hier := by
    rw [hText, behindColon_skip hNoColon, behindColon_cons,
      if_pos rfl]
  have hFirst : text.takeWhile notColon = scheme := by
    rw [hText, List.takeWhile_append_of_pos]
    · rw [List.takeWhile_cons, if_neg (by decide),
        List.append_nil]
    · intro c hMem
      exact decide_eq_true (hScheme c hMem).1
  rcases h with ⟨after, hAfter⟩
  have hSlashes :
      behindColon text =
        chSlash :: chSlash :: behindSlashes text := by
    unfold behindSlashes
    rw [← hAfter]
    rfl
  rw [hFirst, ← hSlashes, hHier]
  exact ⟨hText, rfl⟩

/- What the scanner finds, but for the userinfo. -/
theorem uriParse_authority
    (hParse : uriParse text = some uri)
    (hAuthority : HasAuthority text) :
    uri =
      { rfc3986 text with
        userinfo :=
          (rfc3986 text).userinfo.map scannedUserinfo } := by
  have hPath := (uriParse_path hParse).1
  have hSome : uriParse text ≠ none := by
    rw [hParse]
    exact Option.some_ne_none uri
  rcases hAuthority.split hSome with ⟨hText, hHier⟩
  rw [pathSegments_eq, hHier, segmentsOf_behindAuthority]
    at hPath
  have hWhole :
      UriAccepts 1 [] uriScanStart (text ++ [0]) uri := by
    unfold UriAccepts
    rw [← hParse, uriParse_eq]
    rfl
  have hNul := hWhole.no_nul (by decide) (by decide)
  have hScheme : ∀ c ∈ text.takeWhile notColon,
      c ∉ [0, chColon] := by
    intro c hMem
    have hNot := List.mem_takeWhile_imp hMem
    rw [List.mem_pair, not_or]
    refine ⟨?_, of_decide_eq_true hNot⟩
    rintro rfl
    exact hNul ((List.takeWhile_prefix _).subset hMem)
  have hAfterNul : (0 : UInt8) ∉ behindSlashes text :=
    fun hMem =>
      hNul (behindColon_subset text (List.mem_of_mem_drop hMem))
  rw [hText, List.append_assoc] at hWhole
  rcases UriAccepts.toSlashes hWhole hScheme with
    ⟨before, t, hUri, hNext⟩
  have hSplit :
      authorityOf text ++ behindAuthority text =
        behindSlashes text :=
    List.takeWhile_append_dropWhile
  rcases authority_ends hAfterNul with ⟨hChars, hBehind⟩
  have hUnqueried : Unqueried t := by
    unfold Unqueried
    rw [hUri]
    exact ⟨rfl, rfl⟩
  have hNext :
      UriAccepts 20 before t
        (authorityOf text ++ (behindAuthority text ++ [0]))
        uri := by
    rw [← List.append_assoc, hSplit]
    exact hNext
  have hAll := hNext.toAuthority hChars hBehind hUnqueried
    (by rw [hUri]; rfl) (by rw [hUri]; rfl)
  rw [hAll, hPath, hUri]
  rfl

/- The userinfo has a password that starts with a digit. -/
def DigitPassword (text : List UInt8) : Prop :=
  ∃ userinfo ∈ userinfoOf (authorityOf text),
    digitFirst (passwordOf userinfo) = true

theorem scannedUserinfo_iff
    (userinfo : List UInt8) :
    scannedUserinfo userinfo = userinfo ↔
      digitFirst (passwordOf userinfo) = false := by
  unfold scannedUserinfo
  by_cases hDigit : digitFirst (passwordOf userinfo) = true
  · rw [if_pos hDigit]
    have hSuffix := (List.dropWhile_suffix
      (l := userinfo) notColon).length_le
    have hSome : passwordOf userinfo ≠ [] := by
      intro hNone
      rw [hNone] at hDigit
      cases hDigit
    have hShort :
        (passwordOf userinfo).length < userinfo.length := by
      have hPositive := List.length_pos_of_ne_nil hSome
      unfold passwordOf at hPositive ⊢
      rw [List.length_drop] at hPositive ⊢
      omega
    constructor
    · intro hEq
      rw [hEq] at hShort
      exact absurd hShort (Nat.lt_irrefl _)
    · intro hNot
      rw [hDigit] at hNot
      cases hNot
  · rw [if_neg hDigit]
    exact iff_of_true rfl (Bool.not_eq_true _ |>.mp hDigit)

/-
  The parts are those of the standard, unless the password
  starts with a digit.
-/
theorem uriParse_split_iff
    (hParse : uriParse text = some uri)
    (hAuthority : HasAuthority text) :
    uri = rfc3986 text ↔ ¬ DigitPassword text := by
  have hUri := uriParse_authority hParse hAuthority
  unfold DigitPassword
  constructor
  · rintro hEq ⟨userinfo, hMem, hDigit⟩
    have hUserinfo := congrArg URI.userinfo hUri
    rw [hEq] at hUserinfo
    change userinfoOf (authorityOf text) =
      (userinfoOf (authorityOf text)).map scannedUserinfo
      at hUserinfo
    rw [Option.mem_def.mp hMem] at hUserinfo
    have hSame := (Option.some.inj hUserinfo).symm
    rw [scannedUserinfo_iff, hDigit] at hSame
    cases hSame
  · intro hNot
    rw [hUri]
    cases hUserinfo : userinfoOf (authorityOf text) with
    | none =>
        unfold rfc3986
        rw [hUserinfo]
        rfl
    | some userinfo =>
        have hDigit :
            digitFirst (passwordOf userinfo) = false := by
          rw [← Bool.not_eq_true]
          exact fun hIs => hNot ⟨userinfo, hUserinfo, hIs⟩
        have hSame := (scannedUserinfo_iff userinfo).mpr hDigit
        unfold rfc3986
        rw [hUserinfo]
        simp only [Option.map_some, hSame]

/- A name and a password, a literal address, port and query. -/
def plainUri : List UInt8 :=
  "rtsp://u:p@[::1]:554/a//b?q#f".toUTF8.toList

theorem uriParse_split_iff_plain :
    ∃ uri,
      uriParse plainUri = some uri ∧ HasAuthority plainUri ∧
        (uri = rfc3986 plainUri ↔ ¬ DigitPassword plainUri) :=
  ⟨rfc3986 plainUri, by decide +kernel, by decide +kernel,
    uriParse_split_iff (by decide +kernel)
      (by decide +kernel)⟩

def digitUri : List UInt8 :=
  "rtsp://u:1@h/".toUTF8.toList

/- Of the userinfo `u:1` only the password is found. -/
theorem uriParse_password_alone :
    HasAuthority digitUri ∧
      uriParse digitUri ≠ none ∧
      uriParse digitUri ≠ some (rfc3986 digitUri) ∧
      (rfc3986 digitUri).userinfo =
        some "u:1".toUTF8.toList ∧
      (uriParse digitUri).map (·.userinfo) =
        some (some "1".toUTF8.toList) := by
  decide +kernel

end Feng
