import Mathlib.Data.List.Basic

/-
  Text made of lines that each end in two given characters, as
  the head of a message is: its lines, an empty line, and what
  follows.

  Key definitions include:
    * `Unbroken`
    * `endLines`
    * `readHead`

  Key theorems include:
    * `readHead_endLines`
-/

------------------------------------------------------------
-- Lines
------------------------------------------------------------

namespace Feng

variable {α : Type}

/- Text without either of the characters that end a line. -/
def Unbroken (cr lf : α) (text : List α) : Prop :=
  cr ∉ text ∧ lf ∉ text

instance decidableUnbroken
    [DecidableEq α]
    (cr lf : α)
    (text : List α) :
    Decidable (Unbroken cr lf text) :=
  inferInstanceAs (Decidable (cr ∉ text ∧ lf ∉ text))

/- The lines one after the other, each with its end. -/
def endLines (cr lf : α) (lines : List (List α)) : List α :=
  lines.flatMap (fun line => line ++ [cr, lf])

variable {cr lf : α} {text other line : List α}
variable {lines : List (List α)}

theorem unbroken_nil :
    Unbroken cr lf [] :=
  ⟨List.not_mem_nil, List.not_mem_nil⟩

@[simp]
theorem unbroken_append_iff :
    Unbroken cr lf (text ++ other) ↔
      Unbroken cr lf text ∧ Unbroken cr lf other := by
  simp only [Unbroken, List.mem_append, not_or]
  constructor
  · rintro ⟨⟨hCr, hCr'⟩, hLf, hLf'⟩
    exact ⟨⟨hCr, hLf⟩, hCr', hLf'⟩
  · rintro ⟨⟨hCr, hLf⟩, hCr', hLf'⟩
    exact ⟨⟨hCr, hCr'⟩, hLf, hLf'⟩

theorem Unbroken.append
    (hText : Unbroken cr lf text)
    (hOther : Unbroken cr lf other) :
    Unbroken cr lf (text ++ other) :=
  unbroken_append_iff.mpr ⟨hText, hOther⟩

theorem Unbroken.of_subset
    (hText : Unbroken cr lf text)
    (hSubset : other ⊆ text) :
    Unbroken cr lf other :=
  ⟨fun hMem => hText.1 (hSubset hMem),
    fun hMem => hText.2 (hSubset hMem)⟩

/- Text is unbroken if all of its parts are. -/
theorem unbroken_flatMap
    {β : Type}
    {parts : List β}
    {f : β → List α}
    (hParts : ∀ part ∈ parts, Unbroken cr lf (f part)) :
    Unbroken cr lf (parts.flatMap f) := by
  constructor
  · intro hMem
    rcases List.mem_flatMap.mp hMem with ⟨part, hPart, hIn⟩
    exact (hParts part hPart).1 hIn
  · intro hMem
    rcases List.mem_flatMap.mp hMem with ⟨part, hPart, hIn⟩
    exact (hParts part hPart).2 hIn

end Feng

------------------------------------------------------------
-- Reading Lines
------------------------------------------------------------

namespace Feng

variable {α : Type} [DecidableEq α]

/-
  Read lines up to an empty one, given the characters of the
  first line that were read: the lines, and what follows.
-/
def readHead (cr lf : α) (line : List α) :
    List α → Option (List (List α) × List α)
| [] => none
| [_] => none
| c :: d :: rest =>
    if c = cr ∧ d = lf then
      if line = [] then
        some ([], rest)
      else
        (readHead cr lf [] rest).map
          (fun (lines, body) => (line :: lines, body))
    else
      readHead cr lf (line ++ [c]) (d :: rest)

variable {cr lf : α} {line body : List α}
variable {lines : List (List α)}

theorem readHead_cons
    {c : α}
    {rest : List α}
    (hChar : c ≠ cr)
    (hSome : rest ≠ []) :
    readHead cr lf line (c :: rest) =
      readHead cr lf (line ++ [c]) rest := by
  cases rest with
  | nil => exact absurd rfl hSome
  | cons d rest =>
      rw [readHead, if_neg (fun hBoth => hChar hBoth.1)]

/- The rest of a line is read up to the end of the line. -/
theorem readHead_line
    {text rest : List α}
    (hText : cr ∉ text)
    (hSome : rest ≠ []) :
    readHead cr lf line (text ++ rest) =
      readHead cr lf (line ++ text) rest := by
  induction text generalizing line with
  | nil => simp
  | cons c text ih =>
      have hChar : cr ≠ c :=
        List.ne_of_not_mem_cons hText
      have hRest : cr ∉ text :=
        List.not_mem_of_not_mem_cons hText
      have hMore : text ++ rest ≠ [] := by
        simp [hSome]
      rw [List.cons_append,
        readHead_cons (Ne.symm hChar) hMore, ih hRest,
        List.append_assoc, List.singleton_append]

/- Whoever reads the lines finds them, and what follows. -/
theorem readHead_endLines
    (hLines : ∀ line ∈ lines,
      line ≠ [] ∧ Unbroken cr lf line)
    (body : List α) :
    readHead cr lf []
        (endLines cr lf lines ++ [cr, lf] ++ body) =
      some (lines, body) := by
  induction lines with
  | nil => simp [endLines, readHead]
  | cons line lines ih =>
      have hLine := hLines line List.mem_cons_self
      have hRest := ih (fun other hMem =>
        hLines other (List.mem_cons_of_mem line hMem))
      have hText :
          endLines cr lf (line :: lines) ++ [cr, lf] ++ body =
            line ++ (cr :: lf ::
              (endLines cr lf lines ++ [cr, lf] ++ body)) := by
        simp [endLines]
      rw [hText, readHead_line hLine.2.1 (by simp),
        List.nil_append, readHead, if_pos ⟨rfl, rfl⟩,
        if_neg hLine.1, hRest]
      rfl

end Feng
