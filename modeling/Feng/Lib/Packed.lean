import Feng.Lib.Ragel

/-
  Tables of a scanner packed into numbers, an entry every
  sixteen bits. What is found in a row of the tables is found
  in the numbers as well, and much sooner.

  Key definitions include:
    * `digit`
    * `RagelTable.pack`
    * `RagelTables.Fits`
    * `PackedTables`
    * `PackedTables.row`

  Key theorems include:
    * `RagelTable.digit_pack`
    * `RagelTables.pack_row`
    * `RagelTables.rows_of_pack`
    * `RagelTables.transition_row`
-/

------------------------------------------------------------
-- Digits
------------------------------------------------------------

namespace Feng

/- A digit to the base of 2^16. -/
def digit (n i : Nat) : Nat :=
  (n >>> (16 * i)) % 65536

def packOnto (values : List Nat) (n : Nat) : Nat :=
  values.foldr (fun v n => v + 65536 * n) n

theorem digit_zero
    {v : Nat}
    (hFits : v < 65536)
    (n : Nat) :
    digit (v + 65536 * n) 0 = v := by
  unfold digit
  rw [Nat.mul_zero, Nat.shiftRight_zero]
  omega

theorem digit_succ
    {v : Nat}
    (hFits : v < 65536)
    (n i : Nat) :
    digit (v + 65536 * n) (i + 1) = digit n i := by
  have hRest : (v + 65536 * n) >>> 16 = n := by
    rw [Nat.shiftRight_eq_div_pow]
    omega
  unfold digit
  rw [show 16 * (i + 1) = 16 + 16 * i by omega,
    Nat.shiftRight_add, hRest]

/- Digits that were packed are found again. -/
theorem digit_packOnto
    {values : List Nat}
    (hFits : ∀ v ∈ values, v < 65536)
    (n i : Nat) :
    digit (packOnto values n) i =
      if i < values.length then
        values.getD i 0
      else
        digit n (i - values.length) := by
  induction values generalizing i with
  | nil => rfl
  | cons v values ih =>
      rcases List.forall_mem_cons.mp hFits with
        ⟨hFirst, hRest⟩
      cases i with
      | zero => exact digit_zero hFirst _
      | succ i =>
          have hTail :
              digit (packOnto (v :: values) n) (i + 1) =
                digit (packOnto values n) i :=
            digit_succ hFirst _ i
          rw [hTail, ih hRest]
          simp only [List.length_cons, Nat.add_lt_add_iff_right,
            List.getD_cons_succ, Nat.add_sub_add_right]

namespace RagelTable

/- A line, filled up with zeros. -/
def fullLine (line : List Nat) : List Nat :=
  (List.range 8).map (fun i => line.getD i 0)

def pack (table : RagelTable) : Nat :=
  table.foldr (fun line n => packOnto (fullLine line) n) 0

def Fits (table : RagelTable) : Prop :=
  ∀ line ∈ table, ∀ v ∈ line, v < 65536

instance decidableFits : DecidablePred Fits :=
  fun table =>
    inferInstanceAs
      (Decidable (∀ line ∈ table, ∀ v ∈ line, v < 65536))

theorem fullLine_fits
    {entries : List Nat}
    (hFits : ∀ v ∈ entries, v < 65536) :
    ∀ v ∈ fullLine entries, v < 65536 := by
  intro v hMem
  rcases List.mem_map.mp hMem with ⟨i, _, rfl⟩
  rw [List.getD_eq_getElem?_getD]
  cases hAt : entries[i]? with
  | none => exact Nat.zero_lt_succ _
  | some w => exact hFits w (List.mem_of_getElem? hAt)

theorem fullLine_getD
    (entries : List Nat)
    {i : Nat}
    (hLess : i < 8) :
    (fullLine entries).getD i 0 = entries.getD i 0 := by
  unfold fullLine
  rw [List.getD_eq_getElem?_getD, List.getElem?_map,
    List.getElem?_range hLess]
  rfl

/- Reading a packed table is reading the table. -/
theorem digit_pack
    {table : RagelTable}
    (hFits : table.Fits)
    (i : Nat) :
    digit table.pack i = table.get i := by
  induction table generalizing i with
  | nil => simp [pack, digit, get]
  | cons line table ih =>
      rcases List.forall_mem_cons.mp hFits with
        ⟨hFirst, hRest⟩
      have hLine :
          digit (pack (line :: table)) i =
            if i < 8 then
              (fullLine line).getD i 0
            else
              digit (pack table) (i - 8) :=
        digit_packOnto (fullLine_fits hFirst) (pack table) i
      rw [hLine]
      split
      · rename_i hLess
        rw [fullLine_getD line hLess, get,
          Nat.div_eq_of_lt hLess, Nat.mod_eq_of_lt hLess]
        rfl
      · rename_i hMore
        have hDiv : i / 8 = (i - 8) / 8 + 1 := by omega
        have hMod : i % 8 = (i - 8) % 8 := by omega
        rw [ih hRest, get, get, hDiv, hMod,
          List.getD_cons_succ]

end RagelTable

end Feng

------------------------------------------------------------
-- Packed Tables
------------------------------------------------------------

namespace Feng

/- The tables that the rows of a machine are read from. -/
structure PackedTables where
  actions : Nat
  keyOffsets : Nat
  transKeys : Nat
  singleLengths : Nat
  rangeLengths : Nat
  indexOffsets : Nat
  indicies : Nat
  transTargs : Nat
  transActions : Nat

namespace PackedTables

def transAt
    (tables : PackedTables)
    (index : Nat) : Nat × List Nat :=
  let trans := digit tables.indicies index
  let offset := digit tables.transActions trans
  (digit tables.transTargs trans,
    (List.range (digit tables.actions offset)).map
      (fun i => digit tables.actions (offset + 1 + i)))

def entryAt
    (tables : PackedTables)
    (low high : Nat)
    (except : List Nat)
    (index : Nat) : RagelEntry where
  low := low
  high := high
  except := except
  target := (tables.transAt index).1
  actions := (tables.transAt index).2

def singleKeys (tables : PackedTables) (cs : Nat) : List Nat :=
  (List.range (digit tables.singleLengths cs)).map
    (fun i =>
      digit tables.transKeys (digit tables.keyOffsets cs + i))

def row
    (tables : PackedTables)
    (cs : Nat) : List RagelEntry :=
  let keys := digit tables.keyOffsets cs
  let trans := digit tables.indexOffsets cs
  let singles := digit tables.singleLengths cs
  let ranges := digit tables.rangeLengths cs
  (List.range singles).map
      (fun i =>
        let key := digit tables.transKeys (keys + i)
        tables.entryAt key key [] (trans + i)) ++
    (List.range ranges).map
      (fun i =>
        tables.entryAt
          (digit tables.transKeys (keys + singles + 2 * i))
          (digit tables.transKeys
            (keys + singles + 2 * i + 1))
          (tables.singleKeys cs)
          (trans + singles + i))

def rowDefault
    (tables : PackedTables)
    (cs : Nat) : Nat × List Nat :=
  tables.transAt
    (digit tables.indexOffsets cs +
      digit tables.singleLengths cs +
      digit tables.rangeLengths cs)

end PackedTables

namespace RagelTables

def pack (tables : RagelTables) : PackedTables where
  actions := tables.actions.pack
  keyOffsets := tables.keyOffsets.pack
  transKeys := tables.transKeys.pack
  singleLengths := tables.singleLengths.pack
  rangeLengths := tables.rangeLengths.pack
  indexOffsets := tables.indexOffsets.pack
  indicies := tables.indicies.pack
  transTargs := tables.transTargs.pack
  transActions := tables.transActions.pack

structure Fits (tables : RagelTables) : Prop where
  actions : tables.actions.Fits
  keyOffsets : tables.keyOffsets.Fits
  transKeys : tables.transKeys.Fits
  singleLengths : tables.singleLengths.Fits
  rangeLengths : tables.rangeLengths.Fits
  indexOffsets : tables.indexOffsets.Fits
  indicies : tables.indicies.Fits
  transTargs : tables.transTargs.Fits
  transActions : tables.transActions.Fits

variable {tables : RagelTables}

theorem pack_transAt
    (hFits : tables.Fits)
    (index : Nat) :
    tables.pack.transAt index = tables.transAt index := by
  unfold PackedTables.transAt transAt actionsAt pack
  simp only [RagelTable.digit_pack hFits.indicies,
    RagelTable.digit_pack hFits.transTargs,
    RagelTable.digit_pack hFits.transActions,
    RagelTable.digit_pack hFits.actions]

theorem pack_entryAt
    (hFits : tables.Fits)
    (low high : Nat)
    (except : List Nat)
    (index : Nat) :
    tables.pack.entryAt low high except index =
      tables.entryAt low high except index := by
  unfold PackedTables.entryAt entryAt
  rw [pack_transAt hFits]

theorem pack_singleKeys
    (hFits : tables.Fits)
    (cs : Nat) :
    tables.pack.singleKeys cs = tables.singleKeys cs := by
  unfold PackedTables.singleKeys singleKeys pack
  simp only [RagelTable.digit_pack hFits.singleLengths,
    RagelTable.digit_pack hFits.transKeys,
    RagelTable.digit_pack hFits.keyOffsets]

theorem pack_row
    (hFits : tables.Fits)
    (cs : Nat) :
    tables.pack.row cs = tables.row cs := by
  unfold PackedTables.row row
  simp only [pack_entryAt hFits, pack_singleKeys hFits]
  unfold pack
  simp only [RagelTable.digit_pack hFits.singleLengths,
    RagelTable.digit_pack hFits.rangeLengths,
    RagelTable.digit_pack hFits.indexOffsets,
    RagelTable.digit_pack hFits.transKeys,
    RagelTable.digit_pack hFits.keyOffsets]

theorem pack_rowDefault
    (hFits : tables.Fits)
    (cs : Nat) :
    tables.pack.rowDefault cs = tables.rowDefault cs := by
  unfold PackedTables.rowDefault rowDefault
  rw [pack_transAt hFits]
  unfold pack
  simp only [RagelTable.digit_pack hFits.singleLengths,
    RagelTable.digit_pack hFits.rangeLengths,
    RagelTable.digit_pack hFits.indexOffsets]

/- What is checked of packed rows holds of the rows. -/
theorem rows_of_pack
    {P : Nat → List RagelEntry → Nat × List Nat → Prop}
    {states : List Nat}
    (hFits : tables.Fits)
    (hAll : ∀ cs ∈ states,
      P cs (tables.pack.row cs) (tables.pack.rowDefault cs)) :
    ∀ cs ∈ states,
      P cs (tables.row cs) (tables.rowDefault cs) := by
  intro cs hMem
  have hPacked := hAll cs hMem
  rw [pack_row hFits, pack_rowDefault hFits] at hPacked
  exact hPacked

/- A transition is that of an entry of its row, or the default. -/
theorem transition_row
    (tables : RagelTables)
    (cs : Nat)
    (c : UInt8) :
    (∃ entry ∈ tables.row cs,
      entry.low ≤ c.toNat ∧ c.toNat ≤ entry.high ∧
        tables.transition cs c =
          (entry.target, entry.actions)) ∨
      tables.transition cs c = tables.rowDefault cs := by
  unfold transition transIndex
  simp only
  split
  · rename_i i hFound
    rcases searchSingle_sound hFound with ⟨hLess, hKey⟩
    have hValue := charValue_of_le (Int.le_of_eq hKey.symm)
    refine .inl ⟨_, List.mem_append_left _
      (List.mem_map_of_mem (List.mem_range.mpr hLess)),
      ?_, ?_, rfl⟩
    · simp only [entryAt]
      omega
    · simp only [entryAt]
      omega
  · split
    · rename_i i hFound
      rcases searchRange_sound hFound with
        ⟨hLess, hLow, hHigh⟩
      have hValue := charValue_of_le hLow
      refine .inl ⟨_, List.mem_append_right _
        (List.mem_map_of_mem (List.mem_range.mpr hLess)),
        ?_, ?_, rfl⟩
      · simp only [entryAt]
        omega
      · simp only [entryAt]
        omega
    · exact .inr rfl

end RagelTables

end Feng
