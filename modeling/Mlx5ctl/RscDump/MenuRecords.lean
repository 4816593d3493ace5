/-
  rscdump.c: what `parse_menu_segment` prints for one record of a menu.

  Every record is 17 lines: its number, and one line for each of the 16 parts in
  `menuRecordParts` (`menuLine_part`), by induction over the loop. A part is a run of bits of the
  record. The type and the flags depend on their own bits only (`RecordPart.ByValue.independent`).
  A name is printed with `%s` from where its field starts, so it depends on its own 16 bytes
  exactly when one of them is NUL (`name_independent_iff`).
-/
import Mlx5ctl.RscDump.Parse
import Mlx5ctl.Lib.CText
import Mlx5ctl.Lib.Patch
import Mathlib.Data.List.Forall2

namespace Mlx5ctl.RscDump

open ByteMem Ifc

/-! ## The parts of a record -/

/-- A field of a menu record: its bits, and the line printed of it. -/
structure RecordPart where
  start : Nat
  width : Nat
  line : Mem → Nat → Line

def segmentTypePart : RecordPart where
  start := MenuRecord.segmentType.off
  width := MenuRecord.segmentType.sz
  line p record :=
    let segType := (mlx5Get p record MenuRecord.segmentType).toNat
    .printf "\tsegment_type: 0x%x (%s)\n" [.int segType, .text (sgmtType2str segType)]

/-- A `print_fld`. -/
def flagPart (name : String) (f : Field) : RecordPart where
  start := f.off
  width := f.sz
  line p record := .printf "\t%s: %d\n" [.text name, getArg p record f]

/-- The bytes of a name. -/
def nameBytes : Nat := 16

/-- A name: 16 bytes from `off` on, printed with `%s`. -/
def namePart (fmt : String) (off : Nat) : RecordPart where
  start := 8 * off
  width := 8 * nameBytes
  line _ record := .printf fmt [.cstr (record + off)]

/-- The names of a record: how they are printed, and where they are. -/
def menuRecordNames : List (String × Nat) :=
  [("\tsegment_name: %s\n", MenuRecord.segmentName),
    ("\tindex1_name: %s\n", MenuRecord.index1Name),
    ("\tindex2_name: %s\n", MenuRecord.index2Name)]

/-- The parts in the order they are printed. -/
def menuRecordParts : List RecordPart :=
  [segmentTypePart] ++ menuRecordFields.map (fun (name, f) => flagPart name f) ++
    menuRecordNames.map (fun (fmt, off) => namePart fmt off)

theorem printMenuRecord_parts (p : Mem) (record : Nat) :
    (printMenuRecord p record).lines = menuRecordParts.map (·.line p record) := rfl

/-! ## The lines of a menu -/

/-- `num_of_records` -/
def numRecords (p : Mem) (menu : Nat) : Nat := (mlx5Get p menu MenuSegment.numOfRecords).toNat

/-- Where record `i` is. -/
def recordOff (menu i : Nat) : Nat := menu + MenuSegment.record + i * MenuRecord.szBytes

/-- The lines printed for record `i`. -/
def recordLines (p : Mem) (menu i : Nat) : List Line :=
  .printf "Menu Record %d\n" [.int i] :: menuRecordParts.map (·.line p (recordOff menu i))

theorem recordLines_length (p : Mem) (menu i : Nat) : (recordLines p menu i).length = 17 := rfl

theorem parseMenuRecords_range (p : Mem) (menu i n : Nat) :
    (parseMenuRecords p (menu + MenuSegment.record) i n).lines =
      (List.range' i n).flatMap (recordLines p menu) := by
  induction n generalizing i with
  | zero => rfl
  | succ n ih =>
      rw [parseMenuRecords, Trace.lines_append, Trace.lines_append, printMenuRecord_parts, ih,
        List.range'_succ, List.flatMap_cons]
      rfl

/-- One line for the menu, and the lines of the records one after the other. -/
theorem parseMenuSegment_records (p : Mem) (menu : Nat) :
    (parseMenuSegment p menu).lines =
      .infoMsg "Resource dump menu size %d num of records %d\n" [.int 0, .int (numRecords p menu)]
        :: (List.range (numRecords p menu)).flatMap (recordLines p menu) := by
  unfold parseMenuSegment
  dsimp only
  rw [Trace.lines_append, parseMenuRecords_range, List.range_eq_range']
  rfl

/-- Line `j` of record `i`. -/
def menuLine (p : Mem) (menu i j : Nat) : Option Line :=
  (parseMenuSegment p menu).lines[1 + 17 * i + (1 + j)]?

/-- An entry of blocks of equal length. -/
theorem getElem?_flatMap_blocks {α β : Type} {f : α → List β} {m : Nat}
    (hm : ∀ x, (f x).length = m) (xs : List α) (i j : Nat) (hj : j < m) :
    (xs.flatMap f)[m * i + j]? = xs[i]?.bind (fun x => (f x)[j]?) := by
  induction xs generalizing i with
  | nil => simp
  | cons x xs ih =>
      rw [List.flatMap_cons]
      cases i with
      | zero => simp [List.getElem?_append_left, hm, hj]
      | succ i =>
          rw [List.getElem?_append_right (by rw [hm, Nat.mul_succ]; omega), hm,
            show m * (i + 1) + j - m = m * i + j by rw [Nat.mul_succ]; omega, ih]
          simp

theorem menuLine_part {p : Mem} {menu i : Nat} (hi : i < numRecords p menu) {j : Nat}
    {part : RecordPart} (hpart : menuRecordParts[j]? = some part) :
    menuLine p menu i j = some (part.line p (recordOff menu i)) := by
  have hj : j < 16 := (List.getElem?_eq_some_iff.mp hpart).1
  have hsucc : 1 + 17 * i + (1 + j) = 17 * i + (1 + j) + 1 := by omega
  unfold menuLine
  rw [parseMenuSegment_records, hsucc, List.getElem?_cons_succ,
    getElem?_flatMap_blocks (recordLines_length p menu) _ _ _ (by omega), List.getElem?_range hi]
  simp [recordLines, Nat.add_comm 1 j, hpart]

/-! ## What is shown -/

/-- What an argument of a `printf` shows in memory `p`: for a string, its bytes. -/
def ArgShownAs (p : Mem) : Arg → Arg → Prop
  | .cstr off, shown => ∃ s, CText p off s ∧ shown = .bytes s
  | arg, shown => shown = arg

/-- What a `printf` shows. -/
def ShownAs (p : Mem) (line : Option Line) (shown : Line) : Prop :=
  ∃ fmt args args', line = some (.printf fmt args) ∧ shown = .printf fmt args' ∧
    List.Forall₂ (ArgShownAs p) args args'

theorem shown_cstr {p : Mem} {fmt : String} {off : Nat} {shown : Line} :
    ShownAs p (some (.printf fmt [.cstr off])) shown ↔
      ∃ s, CText p off s ∧ shown = .printf fmt [.bytes s] := by
  constructor
  · rintro ⟨_, _, args', hline, rfl, hargs⟩
    cases hline
    obtain ⟨arg, _, ⟨s, hs, rfl⟩, hnil, rfl⟩ := List.forall₂_cons_left_iff.mp hargs
    rw [List.forall₂_nil_left_iff.mp hnil]
    exact ⟨s, hs, rfl⟩
  · rintro ⟨s, hs, rfl⟩
    exact ⟨fmt, _, _, rfl, rfl, List.Forall₂.cons ⟨s, hs, rfl⟩ List.Forall₂.nil⟩

/-- Arguments that are no strings in memory are shown as they are. -/
theorem argsShown_value {p : Mem} {args : List Arg} (h : ∀ off, Arg.cstr off ∉ args)
    {args' : List Arg} : List.Forall₂ (ArgShownAs p) args args' ↔ args' = args := by
  induction args generalizing args' with
  | nil => simp
  | cons arg args ih =>
      have harg : ∀ b, ArgShownAs p arg b ↔ b = arg := by
        intro b
        cases arg with
        | cstr off => exact absurd List.mem_cons_self (h off)
        | int v => exact Iff.rfl
        | text s => exact Iff.rfl
        | bytes b => exact Iff.rfl
      have ih := @ih fun off hmem => h off (List.mem_cons_of_mem _ hmem)
      simp [List.forall₂_cons_left_iff, harg, ih]

theorem shown_value {p : Mem} {fmt : String} {args : List Arg}
    (h : ∀ off, Arg.cstr off ∉ args) {shown : Line} :
    ShownAs p (some (.printf fmt args)) shown ↔ shown = .printf fmt args := by
  constructor
  · rintro ⟨_, _, args', hline, rfl, hargs⟩
    cases hline
    rw [(argsShown_value h).mp hargs]
  · rintro rfl
    exact ⟨fmt, args, args, rfl, rfl, (argsShown_value h).mpr rfl⟩

/-! ## Independence -/

/-- The memories agree on the part's own bits of the record. -/
def RecordPart.Agree (part : RecordPart) (p q : Mem) (record : Nat) : Prop :=
  ∀ b, part.start ≤ b → b < part.start + part.width →
    bit q (8 * record + b) = bit p (8 * record + b)

/-- What is printed of part `j` of record `i` does not change with anything but the part's own
    bits, as long as the menu has such a record. -/
def Independent (p : Mem) (menu i j : Nat) (part : RecordPart) : Prop :=
  ∀ q, i < numRecords q menu → part.Agree p q (recordOff menu i) →
    ∀ shown, ShownAs q (menuLine q menu i j) shown ↔ ShownAs p (menuLine p menu i j) shown

/-- The part is printed by value, and the value is in its own bits. -/
def RecordPart.ByValue (part : RecordPart) : Prop :=
  ∀ p q record, part.Agree p q record → ∃ fmt args, (∀ off, Arg.cstr off ∉ args) ∧
    part.line p record = .printf fmt args ∧ part.line q record = .printf fmt args

/-- A field whose bits are the same. -/
theorem RecordPart.Agree.get {part : RecordPart} {p q : Mem} {record : Nat}
    (h : part.Agree p q record) {f : Field} (hstart : part.start = f.off)
    (hwidth : part.width = f.sz) : mlx5Get q record f = mlx5Get p record f := by
  apply mlx5Get_congr
  intro i hlow hhigh
  have hbit := h (i - 8 * record) (by omega) (by omega)
  rwa [Nat.add_sub_cancel' (by omega)] at hbit

theorem segmentType_byValue : segmentTypePart.ByValue := by
  intro p q record h
  refine ⟨_, _, ?_, rfl, ?_⟩
  · simp
  · show Line.printf _ [.int (mlx5Get q record MenuRecord.segmentType).toNat, _] = _
    rw [h.get rfl rfl]

theorem flag_byValue (name : String) (f : Field) : (flagPart name f).ByValue := by
  intro p q record h
  refine ⟨_, _, ?_, rfl, ?_⟩
  · simp [getArg]
  · show Line.printf _ [_, getArg q record f] = _
    unfold getArg
    rw [h.get rfl rfl]

variable {p : Mem} {menu i j : Nat} {part : RecordPart}

/-- A part printed by value depends on its own bits only. -/
theorem RecordPart.ByValue.independent (hvalue : part.ByValue) (hi : i < numRecords p menu)
    (hpart : menuRecordParts[j]? = some part) : Independent p menu i j part := by
  intro q hq hagree shown
  obtain ⟨fmt, args, hargs, hp, hline⟩ := hvalue p q _ hagree
  rw [menuLine_part hi hpart, menuLine_part hq hpart, hp, hline, shown_value hargs,
    shown_value hargs]

/-- The bytes of a name. -/
theorem namePart_agree {fmt : String} {off record : Nat} {q : Mem} :
    (namePart fmt off).Agree p q record ↔
      load q (record + off) nameBytes = load p (record + off) nameBytes := by
  rw [load_eq_iff_at]
  constructor
  · intro h b hb
    have hbit := h (8 * off + b) (Nat.le_add_right _ _) (Nat.add_lt_add_left hb _)
    rwa [← Nat.add_assoc, ← Nat.mul_add] at hbit
  · intro h b hlow hhigh
    have hlow : 8 * off ≤ b := hlow
    have hhigh : b < 8 * off + 8 * nameBytes := hhigh
    have hbit := h (b - 8 * off) (by omega)
    rwa [show 8 * (record + off) + (b - 8 * off) = 8 * record + b by omega] at hbit

/-- The number of records is in front of them. -/
theorem numRecords_update {a : Nat} (ha : menu + MenuSegment.record ≤ a) (b : Byte) :
    numRecords (Function.update p a b) menu = numRecords p menu := by
  unfold numRecords
  congr 1
  apply mlx5Get_congr
  intro k _ hk
  have hoff : MenuSegment.numOfRecords.off + MenuSegment.numOfRecords.sz = 64 := rfl
  have ha : menu + 8 ≤ a := ha
  unfold bit
  rw [Function.update_of_ne (by omega)]

/-- A name depends on its own bytes only exactly when one of them is NUL. -/
theorem name_independent_iff {fmt : String} {off : Nat} (hi : i < numRecords p menu)
    (hpart : menuRecordParts[j]? = some (namePart fmt off)) :
    Independent p menu i j (namePart fmt off) ↔
      Terminated p (recordOff menu i + off) nameBytes := by
  have hR : ∀ b,
      i < numRecords (Function.update p (recordOff menu i + off + nameBytes) b) menu := by
    intro b
    rw [numRecords_update (by unfold recordOff; omega)]
    exact hi
  rw [← decides_text_iff (R := fun q => i < numRecords q menu) hR]
  unfold Independent
  refine forall_congr' fun q => forall_congr' fun hq => imp_congr namePart_agree ?_
  rw [menuLine_part hi hpart, menuLine_part hq hpart]
  show (∀ shown, ShownAs q (some (.printf fmt [.cstr _])) shown ↔
    ShownAs p (some (.printf fmt [.cstr _])) shown) ↔ _
  simp only [shown_cstr]
  constructor
  · intro h s
    have hs := h (.printf fmt [.bytes s])
    simpa using hs
  · intro h shown
    simp only [h]

/-- Each record of the menu is printed from its own bytes, and each of its fields by itself. -/
structure RecordsIndependent (p : Mem) (menu : Nat) : Prop where
  lines : (parseMenuSegment p menu).lines =
    .infoMsg "Resource dump menu size %d num of records %d\n" [.int 0, .int (numRecords p menu)]
      :: (List.range (numRecords p menu)).flatMap (recordLines p menu)
  /-- a printed name is a prefix of its own field -/
  names : ∀ i, i < numRecords p menu → ∀ (k : Nat) (fmt : String) (off : Nat),
    menuRecordNames[k]? = some (fmt, off) → ∃ s,
      ShownAs p (menuLine p menu i (13 + k)) (.printf fmt [.bytes s]) ∧
      s <+: load p (recordOff menu i + off) nameBytes
  parts : ∀ i, i < numRecords p menu → ∀ (j : Nat) (part : RecordPart),
    menuRecordParts[j]? = some part → Independent p menu i j part

/-- The names are the last parts. -/
theorem menuRecordParts_name {k : Nat} {fmt : String} {off : Nat}
    (hk : menuRecordNames[k]? = some (fmt, off)) :
    menuRecordParts[13 + k]? = some (namePart fmt off) := by
  unfold menuRecordParts
  rw [List.getElem?_append_right (by simp [menuRecordFields])]
  simp [menuRecordFields, hk]

/-- The records of a menu are independent exactly when every name ends in its field. -/
theorem menu_independent_iff (p : Mem) (menu : Nat) : RecordsIndependent p menu ↔
    ∀ i, i < numRecords p menu → ∀ (k : Nat) (fmt : String) (off : Nat),
      menuRecordNames[k]? = some (fmt, off) → Terminated p (recordOff menu i + off) nameBytes := by
  constructor
  · intro h i hi k fmt off hk
    have hpart := menuRecordParts_name hk
    exact (name_independent_iff hi hpart).mp (h.parts i hi _ _ hpart)
  · intro h
    refine ⟨parseMenuSegment_records p menu, fun i hi k fmt off hk => ?_,
      fun i hi j part hpart => ?_⟩
    · obtain ⟨s, hs, hlen⟩ := (h i hi k fmt off hk).text
      refine ⟨s, ?_, hs.isPrefix (Nat.le_of_lt hlen)⟩
      rw [menuLine_part hi (menuRecordParts_name hk)]
      exact shown_cstr.mpr ⟨s, hs, rfl⟩
    · have hmem := List.mem_of_getElem? hpart
      unfold menuRecordParts at hmem
      rw [List.mem_append, List.mem_append, List.mem_singleton, List.mem_map, List.mem_map] at hmem
      rcases hmem with (rfl | ⟨flag, _, rfl⟩) | ⟨name, hname, rfl⟩
      · exact segmentType_byValue.independent hi hpart
      · exact (flag_byValue _ _).independent hi hpart
      · obtain ⟨k, hk⟩ := List.mem_iff_getElem?.mp hname
        exact (name_independent_iff hi hpart).mpr (h i hi k _ _ hk)

/-- A menu with one record. Its segment name is 16 times `A`, its first index name is `B`. -/
def fullNameMenu : Mem := overlay
  ([0, 15, 0xff, 0xff, 0, 0, 0, 1] ++ [0, 0, 0, 0] ++ List.replicate 16 0x41 ++ [0x42]) zeroMem

/-- The segment name is printed with the index name behind it. -/
theorem full_name_runs_on :
    ShownAs fullNameMenu (menuLine fullNameMenu 0 0 13)
      (.printf "\tsegment_name: %s\n" [.bytes (List.replicate 16 0x41 ++ [0x42])]) ∧
    ¬ RecordsIndependent fullNameMenu 0 := by
  have hname : menuRecordNames[0]? = some ("\tsegment_name: %s\n", MenuRecord.segmentName) := rfl
  have hrecord : 0 < numRecords fullNameMenu 0 := by decide
  have htext : CText fullNameMenu (recordOff 0 0 + MenuRecord.segmentName)
      (List.replicate 16 0x41 ++ [0x42]) := ⟨rfl, by decide, rfl⟩
  rw [menuLine_part hrecord (menuRecordParts_name hname)]
  refine ⟨shown_cstr.mpr ⟨_, htext, rfl⟩, fun h => ?_⟩
  obtain ⟨s, hs, hprefix⟩ := h.names 0 hrecord 0 _ _ hname
  rw [menuLine_part hrecord (menuRecordParts_name hname)] at hs
  obtain ⟨t, ht, hst⟩ := shown_cstr.mp hs
  have hlen := hprefix.length_le
  cases hst
  rw [ht.unique htext, load_length] at hlen
  exact absurd hlen (by decide)

end Mlx5ctl.RscDump
