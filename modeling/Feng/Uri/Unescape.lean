import Feng.Uri.Segments
import Mathlib.Data.List.Forall2

/-
  Unescaping a path: what is used of `g_uri_unescape_string`,
  and what becomes of the segments of the path.

  Key definitions include:
    * `Unescapes`
    * `gUriUnescapeString`
    * `SpellsDotDot`
    * `ForbidsUnescape`
    * `NoDotDot`

  Key theorems include:
    * `Unescapes.joined`
    * `Unescapes.eq_dotDot_iff`
    * `Unescapes.eq_none_iff`
    * `UnescapesTo.noDotDot_iff`
-/

------------------------------------------------------------
-- Unescaping
------------------------------------------------------------

namespace Feng

def hexValue (c : UInt8) : Nat :=
  if c.toNat ≤ 57 then c.toNat - 48
  else if c.toNat ≤ 70 then c.toNat - 55
  else c.toNat - 87

/- The character two hexadecimal digits stand for. -/
def escapeValue (high low : UInt8) : Nat :=
  hexValue high * 16 + hexValue low

/-
  What GLib documents of `g_uri_unescape_string(_, "/")`: all
  escapes are decoded, but for those of a slash or of NUL,
  with which there is no result.
-/
structure Unescapes
    (unescape : List UInt8 → Option (List UInt8)) : Prop where
  nil : unescape [] = some []
  plain : ∀ c rest,
    c ≠ chPercent →
      unescape (c :: rest) = (unescape rest).map (c :: ·)
  escape : ∀ high low rest,
    isHex high = true → isHex low = true →
      unescape (chPercent :: high :: low :: rest) =
        if escapeValue high low = 0 ∨
            escapeValue high low = chSlash.toNat then
          none
        else
          (unescape rest).map
            ((escapeValue high low).toUInt8 :: ·)

/- A function that does, and has no result for other escapes. -/
def gUriUnescapeString :
    List UInt8 → Option (List UInt8)
| [] => some []
| [c] => if c = chPercent then none else some [c]
| [c, d] =>
    if c = chPercent then none
    else (gUriUnescapeString [d]).map (c :: ·)
| c :: high :: low :: rest =>
    if c = chPercent then
      if isHex high && isHex low then
        if escapeValue high low = 0 ∨
            escapeValue high low = chSlash.toNat then
          none
        else
          (gUriUnescapeString rest).map
            ((escapeValue high low).toUInt8 :: ·)
      else
        none
    else
      (gUriUnescapeString (high :: low :: rest)).map (c :: ·)

theorem gUriUnescapeString_unescapes :
    Unescapes gUriUnescapeString := by
  constructor
  · rfl
  · intro c rest hPlain
    match rest with
    | [] =>
        simp only [gUriUnescapeString, if_neg hPlain]
        rfl
    | [d] =>
        simp only [gUriUnescapeString, if_neg hPlain]
    | high :: low :: rest =>
        rw [gUriUnescapeString, if_neg hPlain]
  · intro high low rest hHigh hLow
    rw [gUriUnescapeString, if_pos rfl, hHigh, hLow]
    rfl

variable {unescape : List UInt8 → Option (List UInt8)}
variable {segment first rest text : List UInt8}

theorem Unescapes.append
    (h : Unescapes unescape)
    (hFirst : Escaped first)
    (rest : List UInt8) :
    unescape (first ++ rest) =
      (unescape first).bind
        (fun a => (unescape rest).map (a ++ ·)) := by
  induction hFirst with
  | nil =>
      rw [h.nil]
      simp
  | plain hPlain _ ih =>
      rw [List.cons_append, h.plain _ _ hPlain,
        h.plain _ _ hPlain, ih, Option.map_bind,
        Option.bind_map]
      simp [Function.comp_def]
  | escape hHigh hLow _ ih =>
      rw [List.cons_append, List.cons_append,
        List.cons_append, h.escape _ _ _ hHigh hLow,
        h.escape _ _ _ hHigh hLow, ih]
      split
      · rfl
      · rw [Option.map_bind, Option.bind_map]
        simp [Function.comp_def]

theorem isHex_iff
    {c : UInt8} :
    isHex c = true ↔
      48 ≤ c.toNat ∧ c.toNat ≤ 57 ∨
        65 ≤ c.toNat ∧ c.toNat ≤ 70 ∨
        97 ≤ c.toNat ∧ c.toNat ≤ 102 := by
  simp only [isHex, Bool.or_eq_true, Bool.and_eq_true,
    decide_eq_true_eq, UInt8.le_iff_toNat_le]
  exact or_assoc

theorem hexValue_lt
    {c : UInt8}
    (hHex : isHex c = true) :
    hexValue c < 16 := by
  have hRange := isHex_iff.mp hHex
  unfold hexValue
  split
  · omega
  · split
    · omega
    · omega

/- The digits of a value: one up to nine, two beyond. -/
theorem hexValue_eq
    {c : UInt8}
    (hHex : isHex c = true) :
    c.toNat = hexValue c + 48 ∧ hexValue c ≤ 9 ∨
      10 ≤ hexValue c ∧
        (c.toNat = hexValue c + 55 ∨
          c.toNat = hexValue c + 87) := by
  have hRange := isHex_iff.mp hHex
  unfold hexValue
  by_cases hDigit : c.toNat ≤ 57
  · rw [if_pos hDigit]
    omega
  · rw [if_neg hDigit]
    by_cases hUpper : c.toNat ≤ 70
    · rw [if_pos hUpper]
      omega
    · rw [if_neg hUpper]
      omega

/- The two digits of an escape can be read off its value. -/
theorem hexValue_of_escapeValue
    {high low : UInt8}
    {value : Nat}
    (hLow : isHex low = true)
    (hValue : escapeValue high low = value) :
    hexValue high = value / 16 ∧ hexValue low = value % 16 := by
  have hSecond := hexValue_lt hLow
  unfold escapeValue at hValue
  omega

theorem escapeValue_toNat
    {high low : UInt8}
    (hHigh : isHex high = true)
    (hLow : isHex low = true) :
    (escapeValue high low).toUInt8.toNat =
      escapeValue high low := by
  have hFirst := hexValue_lt hHigh
  have hSecond := hexValue_lt hLow
  rw [Nat.toUInt8, UInt8.toNat_ofNat']
  unfold escapeValue
  omega

theorem Unescapes.cons_slash
    (h : Unescapes unescape)
    (text : List UInt8) :
    unescape (chSlash :: text) =
      (unescape text).map (chSlash :: ·) :=
  h.plain _ _ (by decide)

/- A segment that is unescaped gets no slash. -/
theorem Unescapes.no_slash
    (h : Unescapes unescape)
    (hEscaped : Escaped segment)
    (hSlash : chSlash ∉ segment)
    {result : List UInt8}
    (hResult : unescape segment = some result) :
    chSlash ∉ result := by
  induction hEscaped generalizing result with
  | nil =>
      rw [h.nil] at hResult
      cases hResult
      exact List.not_mem_nil
  | plain hPlain _ ih =>
      rw [h.plain _ _ hPlain, Option.map_eq_some_iff]
        at hResult
      rcases hResult with ⟨more, hMore, hEq⟩
      subst hEq
      simp only [List.mem_cons, not_or] at hSlash ⊢
      exact ⟨hSlash.1, ih hSlash.2 hMore⟩
  | escape hHigh hLow _ ih =>
      rw [h.escape _ _ _ hHigh hLow] at hResult
      split at hResult
      · cases hResult
      · rename_i hValue
        rw [Option.map_eq_some_iff] at hResult
        rcases hResult with ⟨more, hMore, hEq⟩
        subst hEq
        simp only [List.mem_cons, not_or] at hSlash ⊢
        refine ⟨?_, ih hSlash.2.2.2 hMore⟩
        intro hEq
        apply hValue
        right
        rw [← escapeValue_toNat hHigh hLow, hEq]

end Feng

------------------------------------------------------------
-- Joined Segments
------------------------------------------------------------

namespace Feng

variable {unescape : List UInt8 → Option (List UInt8)}
variable {segment : List UInt8}
variable {segments results : List (List UInt8)}

def joinPath (segments : List (List UInt8)) : List UInt8 :=
  segments.flatMap (fun segment => chSlash :: segment)

/- Segments, and what each of them is when unescaped. -/
def UnescapesTo
    (unescape : List UInt8 → Option (List UInt8)) :
    List (List UInt8) → List (List UInt8) → Prop :=
  List.Forall₂
    (fun segment result => unescape segment = some result)

/- A path is unescaped segment by segment, or not at all. -/
theorem Unescapes.joined
    (h : Unescapes unescape)
    (hEscaped : ∀ segment ∈ segments, Escaped segment) :
    (∃ results,
      UnescapesTo unescape segments results ∧
        unescape (joinPath segments) =
          some (joinPath results)) ∨
    ((∃ segment ∈ segments, unescape segment = none) ∧
      unescape (joinPath segments) = none) := by
  induction segments with
  | nil =>
      exact .inl ⟨[], .nil, h.nil⟩
  | cons segment segments ih =>
      have hHead := hEscaped segment List.mem_cons_self
      have hPath :
          unescape (joinPath (segment :: segments)) =
            ((unescape segment).bind
              (fun a =>
                (unescape (joinPath segments)).map
                  (a ++ ·))).map (chSlash :: ·) := by
        change unescape
          (chSlash :: (segment ++ joinPath segments)) = _
        rw [h.cons_slash, h.append hHead]
      rw [hPath]
      rcases ih (fun segment hMem =>
          hEscaped segment (List.mem_cons_of_mem _ hMem)) with
        ⟨results, hResults, hRest⟩ | ⟨⟨bad, hBad, hNone⟩, hRest⟩
      · cases hFirst : unescape segment with
        | none =>
            exact .inr
              ⟨⟨segment, List.mem_cons_self, hFirst⟩, rfl⟩
        | some result =>
            refine .inl
              ⟨result :: results, .cons hFirst hResults, ?_⟩
            rw [hRest]
            rfl
      · refine .inr
          ⟨⟨bad, List.mem_cons_of_mem _ hBad, hNone⟩, ?_⟩
        rw [hRest]
        cases unescape segment with
        | none => rfl
        | some result => rfl

/- The segments of a path are those that were joined. -/
theorem splitOn_joinPath
    (hSlash : ∀ segment ∈ segments, chSlash ∉ segment) :
    (joinPath segments).splitOn chSlash = [] :: segments := by
  have hFrom (first : List UInt8) (hFirst : chSlash ∉ first) :
      (first ++ joinPath segments).splitOn chSlash =
        first :: segments := by
    induction segments generalizing first with
    | nil =>
        rw [joinPath, List.flatMap_nil, List.append_nil]
        exact List.splitOn_eq_singleton hFirst
    | cons segment segments ih =>
        change (first ++
          chSlash :: (segment ++ joinPath segments)).splitOn
            chSlash = _
        rw [List.splitOn_append_cons_self_of_not_mem hFirst,
          ih (fun segment hMem =>
              hSlash segment (List.mem_cons_of_mem _ hMem))
            segment (hSlash segment List.mem_cons_self)]
  exact hFrom [] List.not_mem_nil

/- No segment of a path is `..`. -/
def NoDotDot (path : List UInt8) : Prop :=
  [chDot, chDot] ∉ path.splitOn chSlash

instance decidableNoDotDot :
    DecidablePred NoDotDot :=
  fun path =>
    inferInstanceAs
      (Decidable ([chDot, chDot] ∉ path.splitOn chSlash))

/- The ways to write a dot in a path. -/
def dotSpellings : List (List UInt8) :=
  [[chDot], [chPercent, 50, 69], [chPercent, 50, 101]]

/- A segment is `..`, each dot plain or escaped. -/
def SpellsDotDot (segment : List UInt8) : Prop :=
  ∃ first ∈ dotSpellings, ∃ second ∈ dotSpellings,
    segment = first ++ second

/- The escapes of NUL and of a slash. -/
def forbiddenEscapes : List (List UInt8) :=
  [[chPercent, 48, 48], [chPercent, 50, 70],
    [chPercent, 50, 102]]

def ForbidsUnescape (segment : List UInt8) : Prop :=
  ∃ escape ∈ forbiddenEscapes, escape <:+: segment

theorem escapeValue_dot
    {high low : UInt8}
    (hHigh : isHex high = true)
    (hLow : isHex low = true)
    (hValue : escapeValue high low = chDot.toNat) :
    [chPercent, high, low] ∈ dotSpellings := by
  have hDot : chDot.toNat = 46 := rfl
  rw [hDot] at hValue
  rcases hexValue_of_escapeValue hLow hValue with
    ⟨hFirst, hSecond⟩
  have hHighEq := hexValue_eq hHigh
  have hLowEq := hexValue_eq hLow
  rw [hFirst] at hHighEq
  rw [hSecond] at hLowEq
  have hHighChar : high.toNat = 50 := by
    simpa using hHighEq
  have hLowChar : low.toNat = 69 ∨ low.toNat = 101 := by
    simpa using hLowEq
  simp only [dotSpellings, List.mem_cons, List.cons.injEq,
    ← UInt8.toNat_inj]
  rcases hLowChar with hLowChar | hLowChar
  · simp [hHighChar, hLowChar]
  · simp [hHighChar, hLowChar]

theorem Unescapes.eq_nil_iff
    (h : Unescapes unescape)
    (hEscaped : Escaped segment) :
    unescape segment = some [] ↔ segment = [] := by
  cases hEscaped with
  | nil =>
      simp [h.nil]
  | plain hPlain _ =>
      rw [h.plain _ _ hPlain]
      simp
  | escape hHigh hLow _ =>
      rw [h.escape _ _ _ hHigh hLow]
      split
      · simp
      · simp

/- A first character that is a dot was spelled as one. -/
theorem Unescapes.dot_cons
    (h : Unescapes unescape)
    (hEscaped : Escaped segment)
    {result : List UInt8}
    (hResult : unescape segment = some (chDot :: result)) :
    ∃ first ∈ dotSpellings, ∃ rest,
      segment = first ++ rest ∧ Escaped rest ∧
        unescape rest = some result := by
  cases hEscaped with
  | nil =>
      rw [h.nil] at hResult
      cases hResult
  | plain hPlain hRest =>
      rw [h.plain _ _ hPlain, Option.map_eq_some_iff]
        at hResult
      rcases hResult with ⟨more, hMore, hEq⟩
      cases hEq
      exact ⟨[chDot], by decide, _, rfl, hRest, hMore⟩
  | escape hHigh hLow hRest =>
      rw [h.escape _ _ _ hHigh hLow] at hResult
      split at hResult
      · cases hResult
      · rw [Option.map_eq_some_iff] at hResult
        rcases hResult with ⟨more, hMore, hEq⟩
        rcases List.cons.inj hEq with ⟨hChar, hTail⟩
        subst hTail
        have hValue := escapeValue_toNat hHigh hLow
        rw [hChar] at hValue
        exact ⟨_, escapeValue_dot hHigh hLow hValue.symm, _,
          rfl, hRest, hMore⟩

/- A dot is a dot however it is spelled. -/
theorem Unescapes.spelled_dot
    (h : Unescapes unescape)
    {first : List UInt8}
    (hFirst : first ∈ dotSpellings)
    (rest : List UInt8) :
    unescape (first ++ rest) =
      (unescape rest).map (chDot :: ·) := by
  simp only [dotSpellings, List.mem_cons, List.not_mem_nil,
    or_false] at hFirst
  rcases hFirst with hEq | hEq | hEq
  · subst hEq
    exact h.plain _ _ (by decide)
  · subst hEq
    exact h.escape _ _ _ (by decide) (by decide)
  · subst hEq
    exact h.escape _ _ _ (by decide) (by decide)

theorem Unescapes.eq_dotDot_iff
    (h : Unescapes unescape)
    (hEscaped : Escaped segment) :
    unescape segment = some [chDot, chDot] ↔
      SpellsDotDot segment := by
  constructor
  · intro hResult
    rcases h.dot_cons hEscaped hResult with
      ⟨first, hFirst, rest, hSplit, hRest, hMore⟩
    rcases h.dot_cons hRest hMore with
      ⟨second, hSecond, last, hSplitRest, hLast, hNil⟩
    have hEmpty := (h.eq_nil_iff hLast).mp hNil
    refine ⟨first, hFirst, second, hSecond, ?_⟩
    rw [hSplit, hSplitRest, hEmpty, List.append_nil]
  · rintro ⟨first, hFirst, second, hSecond, hEq⟩
    subst hEq
    have hLast := h.spelled_dot hSecond []
    rw [List.append_nil, h.nil] at hLast
    rw [h.spelled_dot hFirst, hLast]
    rfl

theorem escapeValue_forbidden_iff
    {high low : UInt8}
    (hHigh : isHex high = true)
    (hLow : isHex low = true) :
    escapeValue high low = 0 ∨
        escapeValue high low = chSlash.toNat ↔
      [chPercent, high, low] ∈ forbiddenEscapes := by
  have hHighEq := hexValue_eq hHigh
  have hLowEq := hexValue_eq hLow
  have hSlash : chSlash.toNat = 47 := rfl
  have hMem :
      [chPercent, high, low] ∈ forbiddenEscapes ↔
        high.toNat = 48 ∧ low.toNat = 48 ∨
          high.toNat = 50 ∧ low.toNat = 70 ∨
          high.toNat = 50 ∧ low.toNat = 102 := by
    simp [forbiddenEscapes, ← UInt8.toNat_inj]
  rw [hMem, hSlash]
  constructor
  · rintro (hValue | hValue)
    · rcases hexValue_of_escapeValue hLow hValue with
        ⟨hFirst, hSecond⟩
      rw [hFirst] at hHighEq
      rw [hSecond] at hLowEq
      exact .inl ⟨by simpa using hHighEq,
        by simpa using hLowEq⟩
    · rcases hexValue_of_escapeValue hLow hValue with
        ⟨hFirst, hSecond⟩
      rw [hFirst] at hHighEq
      rw [hSecond] at hLowEq
      have hHighChar : high.toNat = 50 := by
        simpa using hHighEq
      have hLowChar : low.toNat = 70 ∨ low.toNat = 102 := by
        simpa using hLowEq
      rcases hLowChar with hLowChar | hLowChar
      · exact .inr (.inl ⟨hHighChar, hLowChar⟩)
      · exact .inr (.inr ⟨hHighChar, hLowChar⟩)
  · unfold escapeValue
    rintro (⟨hFirst, hSecond⟩ | hRest)
    · left
      rw [hFirst] at hHighEq
      rw [hSecond] at hLowEq
      omega
    · right
      have hFirst : high.toNat = 50 := by
        rcases hRest with hOne | hOne
        · exact hOne.1
        · exact hOne.1
      have hSecond : low.toNat = 70 ∨ low.toNat = 102 := by
        rcases hRest with hOne | hOne
        · exact .inl hOne.2
        · exact .inr hOne.2
      rw [hFirst] at hHighEq
      have hBound := hexValue_lt hLow
      omega

/- An escape can only begin at the percent sign. -/
theorem forbidden_prefix_iff
    {high low : UInt8}
    {rest : List UInt8} :
    (∃ escape ∈ forbiddenEscapes,
        escape <+: chPercent :: high :: low :: rest) ↔
      [chPercent, high, low] ∈ forbiddenEscapes := by
  simp [forbiddenEscapes, List.cons_prefix_cons, eq_comm]

theorem forbidsUnescape_cons_iff
    {c : UInt8}
    {rest : List UInt8} :
    ForbidsUnescape (c :: rest) ↔
      (∃ escape ∈ forbiddenEscapes, escape <+: c :: rest) ∨
        ForbidsUnescape rest := by
  simp only [ForbidsUnescape, List.infix_cons_iff]
  constructor
  · rintro ⟨escape, hMem, hHere | hLater⟩
    · exact .inl ⟨escape, hMem, hHere⟩
    · exact .inr ⟨escape, hMem, hLater⟩
  · rintro (⟨escape, hMem, hHere⟩ | ⟨escape, hMem, hLater⟩)
    · exact ⟨escape, hMem, .inl hHere⟩
    · exact ⟨escape, hMem, .inr hLater⟩

theorem not_forbidden_plain
    {c : UInt8}
    {rest : List UInt8}
    (hPlain : c ≠ chPercent) :
    ¬ ∃ escape ∈ forbiddenEscapes, escape <+: c :: rest := by
  simp [forbiddenEscapes, List.cons_prefix_cons,
    Ne.symm hPlain]

theorem isHex_ne_percent
    {c : UInt8}
    (hHex : isHex c = true) :
    c ≠ chPercent := by
  rintro rfl
  exact absurd hHex (by decide)

/- There is no result exactly with an escaped slash or NUL. -/
theorem Unescapes.eq_none_iff
    (h : Unescapes unescape)
    (hEscaped : Escaped segment) :
    unescape segment = none ↔ ForbidsUnescape segment := by
  induction hEscaped with
  | nil =>
      rw [h.nil]
      simp [ForbidsUnescape, forbiddenEscapes]
  | plain hPlain _ ih =>
      rw [h.plain _ _ hPlain, Option.map_eq_none_iff, ih,
        forbidsUnescape_cons_iff]
      simp [not_forbidden_plain hPlain]
  | @escape high low rest hHigh hLow _ ih =>
      have hInside :
          ForbidsUnescape (high :: low :: rest) ↔
            ForbidsUnescape rest := by
        rw [forbidsUnescape_cons_iff,
          forbidsUnescape_cons_iff]
        simp [not_forbidden_plain (isHex_ne_percent hHigh),
          not_forbidden_plain (isHex_ne_percent hLow)]
      rw [h.escape _ _ _ hHigh hLow,
        forbidsUnescape_cons_iff, forbidden_prefix_iff,
        hInside, ← escapeValue_forbidden_iff hHigh hLow, ← ih]
      split
      · rename_i hForbidden
        simp [hForbidden]
      · rename_i hAllowed
        rw [Option.map_eq_none_iff]
        simp [hAllowed]

end Feng

------------------------------------------------------------
-- Dot Segments Of A Path
------------------------------------------------------------

namespace Feng

variable {unescape : List UInt8 → Option (List UInt8)}
variable {segments results : List (List UInt8)}

theorem not_mem_splitOn
    (text : List UInt8) :
    ∀ segment ∈ text.splitOn chSlash, chSlash ∉ segment := by
  induction text with
  | nil =>
      simp
  | cons c text ih =>
      rw [List.splitOn_cons_eq_if_modifyHead]
      split
      · simpa using ih
      · rename_i hSlash
        cases hSplit : text.splitOn chSlash with
        | nil =>
            exact absurd hSplit (List.splitOn_ne_nil _ _)
        | cons first others =>
            rw [hSplit] at ih
            simp only [List.modifyHead_cons, List.mem_cons,
              forall_eq_or_imp] at ih ⊢
            refine ⟨?_, ih.2⟩
            rw [not_or]
            exact ⟨fun hEq => hSlash (by simp [← hEq]), ih.1⟩

theorem not_mem_pathSegments
    {uriString segment : List UInt8}
    (hMem : segment ∈ pathSegments uriString) :
    chSlash ∉ segment := by
  unfold pathSegments segmentsOf at hMem
  exact not_mem_splitOn _ segment (List.mem_filter.mp hMem).1

theorem noDotDot_joinPath
    (hSlash : ∀ result ∈ results, chSlash ∉ result) :
    NoDotDot (joinPath results) ↔
      ∀ result ∈ results, result ≠ [chDot, chDot] := by
  unfold NoDotDot
  rw [splitOn_joinPath hSlash]
  simp only [List.mem_cons, not_or]
  constructor
  · rintro ⟨_, hNot⟩ result hMem hEq
    rw [hEq] at hMem
    exact hNot hMem
  · intro hAll
    exact ⟨by simp, fun hMem => hAll _ hMem rfl⟩

theorem UnescapesTo.no_slash
    (hTo : UnescapesTo unescape segments results)
    (h : Unescapes unescape)
    (hEscaped : ∀ segment ∈ segments, Escaped segment)
    (hSlash : ∀ segment ∈ segments, chSlash ∉ segment) :
    ∀ result ∈ results, chSlash ∉ result := by
  induction hTo with
  | nil =>
      simp
  | cons hOne _ ih =>
      simp only [List.mem_cons, forall_eq_or_imp]
        at hEscaped hSlash ⊢
      exact ⟨h.no_slash hEscaped.1 hSlash.1 hOne,
        ih hEscaped.2 hSlash.2⟩

/- The unescaped path is confined if no segment spells `..`. -/
theorem UnescapesTo.noDotDot_iff
    (hTo : UnescapesTo unescape segments results)
    (h : Unescapes unescape)
    (hEscaped : ∀ segment ∈ segments, Escaped segment)
    (hSlash : ∀ segment ∈ segments, chSlash ∉ segment) :
    NoDotDot (joinPath results) ↔
      ∀ segment ∈ segments, ¬ SpellsDotDot segment := by
  rw [noDotDot_joinPath (hTo.no_slash h hEscaped hSlash)]
  induction hTo with
  | nil =>
      simp
  | cons hOne _ ih =>
      simp only [List.mem_cons, forall_eq_or_imp]
        at hEscaped hSlash ⊢
      apply and_congr
      · rw [← h.eq_dotDot_iff hEscaped.1, hOne]
        simp
      · exact ih hEscaped.2 hSlash.2

/- What comes before the last slash. -/
def beforeLastSlash (text : List UInt8) : List UInt8 :=
  ((text.reverse.dropWhile (fun c => c ≠ chSlash)).drop
    1).reverse

/- What comes behind the last slash. -/
def afterLastSlash (text : List UInt8) : List UInt8 :=
  (text.reverse.takeWhile (fun c => c ≠ chSlash)).reverse

theorem beforeLastSlash_append
    {segment : List UInt8}
    (text : List UInt8)
    (hSlash : chSlash ∉ segment) :
    beforeLastSlash (text ++ chSlash :: segment) = text := by
  have hAll :
      ∀ c ∈ segment.reverse, decide (c ≠ chSlash) = true := by
    intro c hMem
    rw [decide_eq_true_eq]
    rintro rfl
    exact hSlash (List.mem_reverse.mp hMem)
  unfold beforeLastSlash
  rw [List.reverse_append, List.reverse_cons,
    List.append_assoc, List.dropWhile_append_of_pos hAll]
  simp

theorem beforeLastSlash_joinPath
    (hSlash : ∀ result ∈ results, chSlash ∉ result)
    (hSome : results ≠ []) :
    beforeLastSlash (joinPath results) =
      joinPath results.dropLast := by
  have hSplit := List.dropLast_append_getLast hSome
  have hPath :
      joinPath results =
        joinPath results.dropLast ++
          chSlash :: results.getLast hSome := by
    conv_lhs => rw [← hSplit]
    simp [joinPath]
  rw [hPath]
  exact beforeLastSlash_append _
    (hSlash _ (List.getLast_mem hSome))

theorem UnescapesTo.dropLast
    (hTo : UnescapesTo unescape segments results) :
    UnescapesTo unescape segments.dropLast
      results.dropLast := by
  rw [List.dropLast_eq_take, List.dropLast_eq_take,
    ← hTo.length_eq]
  exact List.forall₂_take _ hTo

end Feng
