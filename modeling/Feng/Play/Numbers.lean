import Mathlib.Data.List.TakeWhile
import Feng.Play.Errors

/-
  The numbers of the requests of a connection, and what is
  taken for one.

  The number is read by a conversion that skips blanks, takes
  a sign and makes nothing of an empty text; only what it left
  unread is looked at. So a text is taken for a number that is
  no numeral if it is empty, or if a numeral stands behind
  blanks or a sign.

  Key definitions include:
    * `Play.IsNumeral`
    * `Play.Misread`
    * `Play.NumberedRight`
    * `Play.handledNumbers`

  Key theorems include:
    * `Play.read_iff`
    * `Play.cseqVal_eq_iff`
    * `Play.numbering_iff`
    * `Play.sign_accepted`
-/

------------------------------------------------------------
-- Numerals
------------------------------------------------------------

namespace Feng

namespace Play

variable {text blanks sign digits before : List UInt8}

/- Some decimal digits, and nothing else. -/
def IsNumeral (text : List UInt8) : Prop :=
  text ≠ [] ∧ ∀ c ∈ text, gAsciiIsdigit c = true

instance decidableIsNumeral : DecidablePred IsNumeral :=
  fun text =>
    inferInstanceAs
      (Decidable
        (text ≠ [] ∧ ∀ c ∈ text, gAsciiIsdigit c = true))

/- What the conversion passes over before the digits. -/
structure Passed (blanks sign : List UInt8) : Prop where
  blanks : ∀ c ∈ blanks, gAsciiIsspace c = true
  sign : sign = [] ∨ sign = [43] ∨ sign = [45]

theorem digit_not_space
    {c : UInt8}
    (hDigit : gAsciiIsdigit c = true) :
    gAsciiIsspace c = false := by
  unfold gAsciiIsdigit at hDigit
  unfold gAsciiIsspace
  simp only [Bool.and_eq_true, decide_eq_true_eq,
    UInt8.le_iff_toNat_le] at hDigit
  have hLow : 48 ≤ c.toNat := hDigit.1
  have hNe : c ≠ 32 := by
    rintro rfl
    exact absurd hLow (by decide)
  have hNotLe : ¬ c ≤ 13 := by
    intro hLe
    have hLe : c.toNat ≤ 13 := hLe
    omega
  simp [hNe, hNotLe]

theorem digit_not_sign
    {c : UInt8}
    (hDigit : gAsciiIsdigit c = true) :
    c ≠ 45 ∧ c ≠ 43 := by
  constructor
  · rintro rfl
    exact absurd hDigit (by decide)
  · rintro rfl
    exact absurd hDigit (by decide)

/- The unsigned part of a text, without blanks before it. -/
def unsignedPart (signed : List UInt8) : List UInt8 :=
  match signed with
  | 45 :: rest => rest
  | 43 :: rest => rest
  | rest => rest

theorem unsignedPart_split
    (signed : List UInt8) :
    ∃ sign,
      (sign = [] ∨ sign = [43] ∨ sign = [45]) ∧
        signed = sign ++ unsignedPart signed := by
  unfold unsignedPart
  split
  · exact ⟨[45], .inr (.inr rfl), rfl⟩
  · exact ⟨[43], .inr (.inl rfl), rfl⟩
  · exact ⟨[], .inl rfl, rfl⟩

/- How much is read depends on the digits that are found. -/
theorem gAsciiStrtoull_snd
    (text : List UInt8) :
    (gAsciiStrtoull text).2 =
      let unsigned :=
        unsignedPart (text.dropWhile gAsciiIsspace)
      let digits := unsigned.takeWhile gAsciiIsdigit
      if digits = [] then
        0
      else
        text.length - unsigned.length + digits.length := by
  unfold gAsciiStrtoull unsignedPart
  simp only
  generalize text.dropWhile gAsciiIsspace = signed
  split
  · simp only
    split
    · rfl
    · simp only [apply_ite Prod.snd, ite_self]
  · simp only
    split
    · rfl
    · simp only [apply_ite Prod.snd, ite_self]
  · simp only
    split
    · rfl
    · simp only [apply_ite Prod.snd, ite_self]

theorem unsignedPart_digits
    (hPassed : Passed blanks sign)
    (hDigits : IsNumeral digits) :
    unsignedPart
        ((blanks ++ (sign ++ digits)).dropWhile
          gAsciiIsspace) =
      digits := by
  rcases hDigits with ⟨hSome, hAll⟩
  cases digits with
  | nil => exact absurd rfl hSome
  | cons c digits =>
      have hDigit := hAll c List.mem_cons_self
      have hSpace := digit_not_space hDigit
      rcases digit_not_sign hDigit with ⟨hMinus, hPlus⟩
      rw [List.dropWhile_append_of_pos hPassed.blanks]
      rcases hPassed.sign with rfl | rfl | rfl
      · rw [List.nil_append, List.dropWhile_cons_of_neg
          (by rw [hSpace]; exact Bool.false_ne_true)]
        unfold unsignedPart
        split
        · rename_i hHead
          cases hHead
          exact absurd rfl hMinus
        · rename_i hHead
          cases hHead
          exact absurd rfl hPlus
        · rfl
      · rfl
      · rfl

/-
  The whole text is read if it is empty, or ends with a
  numeral that nothing but blanks and a sign stands before.
-/
theorem read_iff
    (text : List UInt8) :
    ¬ (gAsciiStrtoull text).2 < text.length ↔
      text = [] ∨
        ∃ blanks sign digits,
          text = blanks ++ (sign ++ digits) ∧
            Passed blanks sign ∧ IsNumeral digits := by
  have hSplit :=
    List.takeWhile_append_dropWhile
      (p := gAsciiIsspace) (l := text)
  rcases unsignedPart_split (text.dropWhile gAsciiIsspace) with
    ⟨sign, hSign, hSigned⟩
  have hText :
      text =
        text.takeWhile gAsciiIsspace ++
          (sign ++
            unsignedPart (text.dropWhile gAsciiIsspace)) := by
    rw [← hSigned, hSplit]
  rw [gAsciiStrtoull_snd]
  constructor
  · intro hRead
    simp only at hRead
    split at hRead
    · left
      exact List.eq_nil_of_length_eq_zero (by omega)
    · rename_i hSome
      right
      refine ⟨_, sign, _, hText, ⟨?_, hSign⟩, ?_⟩
      · intro c hMem
        exact List.mem_takeWhile_imp hMem
      · have hLength := congrArg List.length hText
        have hAll :
            (unsignedPart
                (text.dropWhile gAsciiIsspace)).takeWhile
                gAsciiIsdigit =
              unsignedPart (text.dropWhile gAsciiIsspace) := by
          apply (List.takeWhile_prefix _).eq_of_length_le
          simp only [List.length_append] at hLength
          omega
        refine ⟨?_, ?_⟩
        · rw [hAll] at hSome
          exact hSome
        · intro c hMem
          rw [← hAll] at hMem
          exact List.mem_takeWhile_imp hMem
  · rintro (rfl | ⟨blanks, sign, digits, rfl, hPassed, hNumeral⟩)
    · exact Nat.not_lt_zero _
    · simp only [unsignedPart_digits hPassed hNumeral]
      have hTake : digits.takeWhile gAsciiIsdigit = digits :=
        List.takeWhile_eq_self_iff.mpr hNumeral.2
      rw [hTake, if_neg hNumeral.1]
      simp only [List.length_append]
      omega

end Play

end Feng

------------------------------------------------------------
-- What Is Taken For A Number
------------------------------------------------------------

namespace Feng

namespace Play

variable {text : List UInt8} {req : RFC822Request} {v : Nat}

/-
  A text that is no numeral and is taken for a number: there
  is nothing in it, or a numeral behind blanks or a sign.
-/
def Misread (text : List UInt8) : Prop :=
  text = [] ∨
    (gAsciiStrtoull text).1 ≠ gMaxUint64 ∧
      ∃ blanks sign digits,
        text = blanks ++ (sign ++ digits) ∧
          Passed blanks sign ∧ IsNumeral digits ∧
          blanks ++ sign ≠ []

/- The number of a request whose `CSeq` is a numeral for it. -/
def numeralVal (req : RFC822Request) : Option Nat :=
  match rfc822HeadersLookup req.headers .cSeq with
  | none => none
  | some text =>
      if IsNumeral text ∧ decimalValue text < gMaxUint64 then
        some (decimalValue text)
      else
        none

/- The `CSeq` of a request, if any, is not misread. -/
def PlainCseq (req : RFC822Request) : Prop :=
  ∀ text,
    rfc822HeadersLookup req.headers .cSeq = some text →
      ¬ Misread text

theorem passed_nil :
    Passed [] [] :=
  ⟨fun _ hMem => absurd hMem List.not_mem_nil, .inl rfl⟩

/- A numeral is converted to its value, up to the greatest. -/
theorem gAsciiStrtoull_numeral
    (hNumeral : IsNumeral text) :
    (gAsciiStrtoull text).1 =
      if gMaxUint64 < decimalValue text then
        gMaxUint64
      else
        decimalValue text := by
  rcases hNumeral with ⟨hSome, hAll⟩
  have hTake : text.takeWhile gAsciiIsdigit = text :=
    List.takeWhile_eq_self_iff.mpr hAll
  cases text with
  | nil => exact absurd rfl hSome
  | cons c rest =>
      have hDigit := hAll c List.mem_cons_self
      rcases digit_not_sign hDigit with ⟨hMinus, hPlus⟩
      have hDrop :
          (c :: rest).dropWhile gAsciiIsspace = c :: rest :=
        List.dropWhile_cons_of_neg
          (by
            rw [digit_not_space hDigit]
            exact Bool.false_ne_true)
      unfold gAsciiStrtoull
      simp only [hDrop]
      split
      · rename_i hHead
        cases hHead
        exact absurd rfl hMinus
      · rename_i hHead
        cases hHead
        exact absurd rfl hPlus
      · simp only [hTake, if_neg hSome]
        split
        · rfl
        · rfl

theorem cseqVal_of_text
    (hText :
      rfc822HeadersLookup req.headers .cSeq = some text) :
    cseqVal req =
      if (gAsciiStrtoull text).1 = gMaxUint64 ∨
          (gAsciiStrtoull text).2 < text.length then
        none
      else
        some (gAsciiStrtoull text).1 := by
  simp only [cseqVal, hText]

theorem numeralVal_of_text
    (hText :
      rfc822HeadersLookup req.headers .cSeq = some text) :
    numeralVal req =
      if IsNumeral text ∧ decimalValue text < gMaxUint64 then
        some (decimalValue text)
      else
        none := by
  simp only [numeralVal, hText]

/- A numeral is taken for its number. -/
theorem cseqVal_numeral
    (hText :
      rfc822HeadersLookup req.headers .cSeq = some text)
    (hNumeral : IsNumeral text) :
    cseqVal req = numeralVal req := by
  have hRead : ¬ (gAsciiStrtoull text).2 < text.length :=
    (read_iff text).mpr
      (.inr ⟨[], [], text, rfl, passed_nil, hNumeral⟩)
  rw [cseqVal_of_text hText, numeralVal_of_text hText,
    gAsciiStrtoull_numeral hNumeral]
  by_cases hLess : decimalValue text < gMaxUint64
  · rw [if_neg (by omega : ¬ gMaxUint64 < decimalValue text),
      if_neg (by omega), if_pos ⟨hNumeral, hLess⟩]
  · have hMax :
        (if gMaxUint64 < decimalValue text then
          gMaxUint64
        else
          decimalValue text) = gMaxUint64 := by
      split
      · rfl
      · omega
    rw [hMax, if_pos (.inl rfl), if_neg (fun h => hLess h.2)]

/- Other texts are misread exactly if a number is found. -/
theorem misread_iff
    (hNot : ¬ IsNumeral text) :
    Misread text ↔
      (gAsciiStrtoull text).1 ≠ gMaxUint64 ∧
        ¬ (gAsciiStrtoull text).2 < text.length := by
  rw [read_iff]
  constructor
  · rintro (rfl | ⟨hMax, blanks, sign, digits, hText, hPassed,
      hNumeral, _⟩)
    · exact ⟨by decide, .inl rfl⟩
    · exact ⟨hMax,
        .inr ⟨blanks, sign, digits, hText, hPassed, hNumeral⟩⟩
  · rintro ⟨hMax, rfl | ⟨blanks, sign, digits, hText, hPassed,
      hNumeral⟩⟩
    · exact .inl rfl
    · refine .inr ⟨hMax, blanks, sign, digits, hText, hPassed,
        hNumeral, ?_⟩
      intro hNone
      rw [← List.append_assoc, hNone, List.nil_append] at hText
      exact hNot (hText ▸ hNumeral)

theorem not_misread_of_numeral
    (hNumeral : IsNumeral text) :
    ¬ Misread text := by
  rintro (rfl | ⟨_, blanks, sign, digits, rfl, hPassed, _,
    hSome⟩)
  · exact hNumeral.1 rfl
  · cases hBlanks : blanks with
    | cons c blanks =>
        have hSpace : gAsciiIsspace c = true :=
          hPassed.blanks c (by simp [hBlanks])
        have hDigit : gAsciiIsdigit c = true :=
          hNumeral.2 c (by simp [hBlanks])
        rw [digit_not_space hDigit] at hSpace
        cases hSpace
    | nil =>
        subst hBlanks
        rcases hPassed.sign with rfl | rfl | rfl
        · exact hSome rfl
        · exact absurd (hNumeral.2 43 (by simp)) (by decide)
        · exact absurd (hNumeral.2 45 (by simp)) (by decide)

/-
  The number a request is taken to have is that of its numeral
  exactly if its `CSeq` is not misread.
-/
theorem cseqVal_eq_iff
    (req : RFC822Request) :
    cseqVal req = numeralVal req ↔ PlainCseq req := by
  unfold PlainCseq
  cases hText : rfc822HeadersLookup req.headers .cSeq with
  | none => simp [cseqVal, numeralVal, hText]
  | some text =>
      by_cases hNumeral : IsNumeral text
      · constructor
        · rintro _ other hOther
          cases hOther
          exact not_misread_of_numeral hNumeral
        · intro _
          exact cseqVal_numeral hText hNumeral
      · have hNone : numeralVal req = none := by
          rw [numeralVal_of_text hText,
            if_neg (fun h => hNumeral h.1)]
        rw [hNone, cseqVal_of_text hText]
        simp only [ite_eq_left_iff, reduceCtorEq, imp_false,
          not_not, Option.some.injEq, forall_eq',
          misread_iff hNumeral, not_and_or]

end Play

end Feng

------------------------------------------------------------
-- Requests And Their Numbers
------------------------------------------------------------

namespace Feng

namespace Play

variable {env : Env} {req : RFC822Request} {s t : Client}
variable {v : Nat}

/-
  What becomes of a request. Its method is only called if it
  has a numeral that is next in order, which is then noted;
  without a numeral it is answered with 400, and with one that
  is not in order it is dropped, and nothing else happens.
-/
structure NumberedRight
    (s : Client)
    (req : RFC822Request)
    (t : Client) : Prop where
  handled :
    (∃ v, Reaches s req v) →
      ∃ n, numeralVal req = some n ∧ s.rtsp.lastCseq < n ∧
        t.rtsp.lastCseq = n
  refused :
    numeralVal req = none →
      t = finished (s.quickResponse req 400)
  dropped :
    ∀ n, numeralVal req = some n → n ≤ s.rtsp.lastCseq →
      t = finished s

theorem rtspHandleRequest_unnumbered
    (hNone : cseqVal req = none)
    (env : Env)
    (s : Client) :
    rtspHandleRequest env s req =
      .ok (finished (s.quickResponse req 400)) := by
  have hBody :
      handleRequestBody env s req =
        .ok (s.quickResponse req 400) := by
    unfold cseqVal at hNone
    unfold handleRequestBody
    cases hText :
        rfc822HeadersLookup req.headers .cSeq with
    | none => rfl
    | some text =>
        simp only [hText] at hNone ⊢
        by_cases hMax : (gAsciiStrtoull text).1 = gMaxUint64
        · rw [if_pos hMax]
        · rw [if_neg hMax]
          by_cases hRead :
              (gAsciiStrtoull text).2 < text.length
          · rw [if_pos hRead]
          · rw [if_neg (not_or.mpr ⟨hMax, hRead⟩)] at hNone
            cases hNone
  unfold rtspHandleRequest
  rw [hBody]
  rfl

/- A request out of order changes nothing. -/
theorem rtspHandleRequest_dropped
    (hNumber : cseqVal req = some v)
    (hOrder : v ≤ s.rtsp.lastCseq)
    (h : rtspHandleRequest env s req = .ok t) :
    t = finished s := by
  rcases rtspHandleRequest_cases h with
    ⟨hNone, _⟩ | ⟨w, _, _, rfl⟩ |
    ⟨w, u, hSome, hLater, _, _⟩ | ⟨w, u, hReaches, _, _⟩
  · rw [hNone] at hNumber
    cases hNumber
  · rfl
  · rw [hSome] at hNumber
    cases hNumber
    omega
  · rw [hReaches.number] at hNumber
    cases hNumber
    exact absurd hReaches.order (not_lt.mpr hOrder)

theorem finished_ne_answered
    (s : Client)
    (req : RFC822Request)
    (code : Nat) :
    finished s ≠ finished (s.quickResponse req code) := by
  intro hSame
  have hResponses :
      s.rtsp.responses =
        s.rtsp.responses ++ [rtspQuickResponse req code] :=
    congrArg (fun s : Client => s.rtsp.responses) hSame
  simp at hResponses

/-
  A request is dealt with right exactly if the number it is
  taken to have is that of its numeral.
-/
theorem numberedRight_iff
    (h : rtspHandleRequest env s req = .ok t) :
    NumberedRight s req t ↔ PlainCseq req := by
  rw [← cseqVal_eq_iff]
  constructor
  · intro hRight
    cases hNumeral : numeralVal req with
    | some n =>
        unfold numeralVal at hNumeral
        split at hNumeral
        · cases hNumeral
        · rename_i text hText
          split at hNumeral
          · rename_i hIs
            cases hNumeral
            rw [cseqVal_numeral hText hIs.1,
              numeralVal_of_text hText, if_pos hIs]
          · cases hNumeral
    | none =>
        have hEnd := hRight.refused hNumeral
        cases hNumber : cseqVal req with
        | none => rfl
        | some v =>
            by_cases hOrder : v ≤ s.rtsp.lastCseq
            · have hDropped :=
                rtspHandleRequest_dropped hNumber hOrder h
              rw [hDropped] at hEnd
              exact absurd hEnd (finished_ne_answered _ _ _)
            · have hOnce :=
                rtspHandleRequest_answered hNumber
                  (not_le.mp hOrder) h
              have hLast : t.rtsp.lastCseq = v := hOnce.1
              rw [hEnd] at hLast
              have hLast : s.rtsp.lastCseq = v := hLast
              omega
  · intro hSame
    refine ⟨?_, ?_, ?_⟩
    · rintro ⟨v, hReaches⟩
      have hOnce :=
        rtspHandleRequest_answered hReaches.number
          hReaches.order h
      exact ⟨v, hSame ▸ hReaches.number, hReaches.order,
        hOnce.1⟩
    · intro hNone
      rw [← hSame] at hNone
      rw [rtspHandleRequest_unnumbered hNone] at h
      exact (Except.ok.inj h).symm
    · intro n hNumeral hOrder
      rw [← hSame] at hNumeral
      exact rtspHandleRequest_dropped hNumeral hOrder h

end Play

end Feng

------------------------------------------------------------
-- Runs
------------------------------------------------------------

namespace Feng

namespace Play

variable {s t : Client} {op : Op}
variable {trace : List (Client × Op)} {last : Client}

/- A request is dealt with right, whatever it leads to. -/
def NumberedStep (s : Client) : Op → Prop
| .request req env =>
    ∀ t, rtspHandleRequest env s req = .ok t →
      NumberedRight s req t
| _ => True

def PlainStep (_ : Client) : Op → Prop
| .request req _ => PlainCseq req
| _ => True

/- The numeral of a request whose method is called. -/
def handledNumber : Client × Op → Option Nat
| (s, .request req _) =>
    if ∃ v, Reaches s req v then numeralVal req else none
| _ => none

def handledNumbers (trace : List (Client × Op)) : List Nat :=
  trace.filterMap handledNumber

/- The last number never gets less. -/
theorem step_lastCseq
    (h : step s op = .ok t) :
    s.rtsp.lastCseq ≤ t.rtsp.lastCseq := by
  cases op with
  | request req env =>
      cases hNumber : cseqVal req with
      | none =>
          have hEnd :=
            rtspHandleRequest_unnumbered hNumber env s
          have hSame : Except.ok t = Except.ok _ :=
            h.symm.trans hEnd
          cases hSame
          exact Nat.le_refl _
      | some v =>
          by_cases hOrder : v ≤ s.rtsp.lastCseq
          · rw [rtspHandleRequest_dropped hNumber hOrder h]
            exact Nat.le_refl _
          · have hOrder := not_le.mp hOrder
            have hOnce :=
              rtspHandleRequest_answered hNumber hOrder h
            have hLast : t.rtsp.lastCseq = v := hOnce.1
            omega
  | write address env =>
      rcases writeStep_cases h with
        rfl | ⟨session, due, next, _, _, _, rfl⟩
      · exact Nat.le_refl _
      · exact Nat.le_refl _
  | timeout time =>
      rcases step_timeout_cases h with
        ⟨session, connected, _, rfl⟩
      exact Nat.le_refl _

/- What was handled has a number that was noted since. -/
theorem step_handledNumber
    {n : Nat}
    (hPlain : PlainStep s op)
    (hNumber : handledNumber (s, op) = some n)
    (h : step s op = .ok t) :
    s.rtsp.lastCseq < n ∧ t.rtsp.lastCseq = n := by
  cases op with
  | request req env =>
      simp only [handledNumber] at hNumber
      split at hNumber
      · rename_i hReaches
        rcases ((numberedRight_iff h).mpr hPlain).handled
          hReaches with ⟨m, hNumeral, hOrder, hLast⟩
        rw [hNumeral] at hNumber
        cases hNumber
        exact ⟨hOrder, hLast⟩
      · cases hNumber
  | write address env => cases hNumber
  | timeout time => cases hNumber

theorem handledNumbers_ascend
    (hRun : system.Run trace last)
    (hPlain : System.Guarded PlainStep trace) :
    (handledNumbers trace).Pairwise (· < ·) ∧
      ∀ n ∈ handledNumbers trace, n ≤ last.rtsp.lastCseq := by
  induction hRun with
  | start _ =>
      refine ⟨List.Pairwise.nil, ?_⟩
      intro n hMem
      cases hMem
  | @step trace s t op hRun hStep ih =>
      rcases System.guarded_snoc.mp hPlain with
        ⟨hTrace, hLast⟩
      rcases ih hTrace with ⟨hAscend, hBound⟩
      have hMono := step_lastCseq hStep.2
      have hSnoc :
          handledNumbers (trace ++ [(s, op)]) =
            handledNumbers trace ++
              (handledNumber (s, op)).toList := by
        unfold handledNumbers
        rw [List.filterMap_append]
        cases hNumber : handledNumber (s, op) with
        | none => simp [hNumber]
        | some n => simp [hNumber]
      rw [hSnoc]
      cases hNumber : handledNumber (s, op) with
      | none =>
          simp only [Option.toList_none, List.append_nil]
          exact ⟨hAscend,
            fun n hMem => (hBound n hMem).trans hMono⟩
      | some n =>
          rcases step_handledNumber hLast hNumber hStep.2 with
            ⟨hOrder, hNoted⟩
          simp only [Option.toList_some]
          constructor
          · rw [List.pairwise_append]
            refine ⟨hAscend, List.pairwise_singleton _ _, ?_⟩
            intro m hMem k hLater
            cases List.mem_singleton.mp hLater
            exact Nat.lt_of_le_of_lt (hBound m hMem) hOrder
          · intro m hMem
            rcases List.mem_append.mp hMem with hOld | hNew
            · exact (hBound m hOld).trans hMono
            · cases List.mem_singleton.mp hNew
              exact hNoted.ge

/-
  In a run, every request is dealt with right, and those that
  are handled have numbers that rise, exactly if none has a
  `CSeq` that is misread.
-/
theorem numbering_iff
    (hRun : system.Run trace last) :
    (System.Guarded NumberedStep trace ∧
        (handledNumbers trace).Pairwise (· < ·)) ↔
      System.Guarded PlainStep trace := by
  have hSteps :
      System.Guarded NumberedStep trace ↔
        System.Guarded PlainStep trace := by
    apply hRun.guarded_congr
      (I := fun _ => True) (fun _ _ => trivial)
      (fun _ _ _ _ _ _ => trivial)
    intro s op t _ hStep
    cases op with
    | write address env => exact Iff.rfl
    | timeout time => exact Iff.rfl
    | request req env =>
        have hOk : rtspHandleRequest env s req = .ok t :=
          hStep.2
        constructor
        · intro hRight
          exact (numberedRight_iff hOk).mp (hRight t hOk)
        · intro hPlain u hOther
          exact (numberedRight_iff hOther).mpr hPlain
  rw [hSteps]
  constructor
  · intro hBoth
    exact hBoth.1
  · intro hPlain
    exact ⟨hPlain, (handledNumbers_ascend hRun hPlain).1⟩

theorem numbering_iff_sample :
    (System.Guarded NumberedStep
          (System.replayTrace step clientNew sampleOps) ∧
        (handledNumbers
          (System.replayTrace step clientNew
            sampleOps)).Pairwise (· < ·)) ↔
      System.Guarded PlainStep
        (System.replayTrace step clientNew sampleOps) :=
  numbering_iff
    (System.replay_run (by decide +kernel)
      (by decide +kernel))

/- An OPTIONS with this `CSeq`. -/
def optionsRequest (cseq : String) : RFC822Request :=
  { sampleRequest RTSPMethod.options 1 with
    headers := some [(.cSeq, ascii cseq)] }

def optionsOps (cseq : String) : List Op :=
  [.request (optionsRequest cseq) (sampleEnv 1000)]

/- The number of `-7` is 2^64 - 7, and is handled. -/
theorem sign_accepted :
    (∃ trace, system.Run trace
        (System.replayEnd step clientNew (optionsOps "-7"))) ∧
      Reaches clientNew (optionsRequest "-7") (2 ^ 64 - 7) ∧
      numeralVal (optionsRequest "-7") = none ∧
      (System.replayEnd step clientNew
        (optionsOps "-7")).rtsp.lastCseq = 2 ^ 64 - 7 ∧
      ¬ System.Guarded NumberedStep
        (System.replayTrace step clientNew
          (optionsOps "-7")) := by
  have hRun :
      system.Run
        (System.replayTrace step clientNew (optionsOps "-7"))
        (System.replayEnd step clientNew (optionsOps "-7")) :=
    System.replay_run (by decide +kernel) (by decide +kernel)
  have hReaches :
      Reaches clientNew (optionsRequest "-7") (2 ^ 64 - 7) :=
    ⟨by decide +kernel, by decide +kernel, by decide +kernel,
      by decide +kernel⟩
  refine ⟨⟨_, hRun⟩, hReaches, by decide +kernel,
    by decide +kernel, ?_⟩
  intro hRight
  have hOk :
      rtspHandleRequest (sampleEnv 1000) clientNew
          (optionsRequest "-7") =
        .ok
          (System.replayEnd step clientNew
            (optionsOps "-7")) := by
    decide +kernel
  have hMem :
      (clientNew,
        Op.request (optionsRequest "-7") (sampleEnv 1000)) ∈
        System.replayTrace step clientNew
          (optionsOps "-7") := by
    unfold optionsOps System.replayTrace
    have hStep :
        step clientNew
            (.request (optionsRequest "-7")
              (sampleEnv 1000)) =
          .ok
            (System.replayEnd step clientNew
              (optionsOps "-7")) :=
      hOk
    rw [hStep]
    exact List.mem_cons_self
  rcases (hRight _ hMem _ hOk).handled ⟨_, hReaches⟩ with
    ⟨n, hNumeral, _⟩
  have hNone : numeralVal (optionsRequest "-7") = none := by
    decide +kernel
  rw [hNone] at hNumeral
  cases hNumeral

end Play

end Feng
