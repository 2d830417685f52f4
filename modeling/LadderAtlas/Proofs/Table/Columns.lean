import LadderAtlas.Table.Basic
import Mathlib.Algebra.Ring.Nat
import Mathlib.Data.List.DropRight
import Mathlib.Data.List.Forall2
import Mathlib.Order.Bounds.Basic

/-! # Tables in columns

A line of a table is its cells, filled up with blanks to the widths of their columns and joined by
gaps. As these blocks are as long in each line, each column stands in the same place throughout, and
a cell is found there again.
-/

namespace LadderAtlas.Table

variable {t : Table} {widths : List Nat} {cells : List String} {rows : List (List String)}
  {i w : Nat} {cell : String}

/-! ## Widths of columns -/

/-- The cells of a column that some rows have. -/
def column (rows : List (List String)) (i : Nat) : List String :=
  rows.filterMap fun cells => cells[i]?

theorem mem_column_iff : cell ∈ column rows i ↔ ∃ cells ∈ rows, cells[i]? = some cell :=
  List.mem_filterMap

/-- A column is as wide as its longest cell. -/
def Widest (rows : List (List String)) (i w : Nat) : Prop :=
  IsGreatest (String.length '' {c | c ∈ column rows i}) w

theorem widen_nil (widths : List Nat) : widen widths [] = widths := by cases widths <;> rfl

theorem length_widen (widths : List Nat) (cells : List String) :
    (widen widths cells).length = widths.length := by
  induction widths, cells using widen.induct with
  | case1 cells => rfl
  | case2 widths filled => rw [widen_nil]
  | case3 width widths cell cells ih => rw [widen, List.length_cons, List.length_cons, ih]

theorem getElem?_widen (widths : List Nat) (cells : List String) (i : Nat) :
    (widen widths cells)[i]? = widths[i]?.map fun w =>
      (cells[i]?.map String.length).elim w (max w) := by
  induction widths, cells using widen.induct generalizing i with
  | case1 cells => rfl
  | case2 widths filled => cases h : widths[i]? <;> simp [widen_nil, h]
  | case3 width widths cell cells ih =>
      cases i with
      | zero => rfl
      | succ i => exact ih i

/-- One more row widens a column as far as its own cell asks for. -/
theorem Widest.widen {seen : List (List String)} (widest : Widest seen i w)
    (here : widths[i]? = some w) (cells : List String) :
    ∃ w', (widen widths cells)[i]? = some w' ∧ Widest (seen ++ [cells]) i w' := by
  rw [getElem?_widen, here]
  refine ⟨_, rfl, ?_⟩
  have more : column (seen ++ [cells]) i = column seen i ++ (cells[i]?).toList := by
    rw [column, List.filterMap_append]
    cases there : cells[i]? <;> simp [column, there]
  cases there : cells[i]? with
  | none =>
      rw [there, Option.toList_none, List.append_nil] at more
      rwa [Widest, more]
  | some cell =>
      have lengths : String.length '' {c | c ∈ column (seen ++ [cells]) i} =
          insert cell.length (String.length '' {c | c ∈ column seen i}) := by
        rw [more, there, ← Set.image_insert_eq]
        congr 1
        ext c
        simp [or_comm]
      rw [Widest, lengths]
      have wider := widest.insert cell.length
      rwa [max_comm] at wider

theorem widest_foldl {seen : List (List String)} (widest : Widest seen i w)
    (here : widths[i]? = some w) (rows : List (List String)) :
    ∃ w', (rows.foldl widen widths)[i]? = some w' ∧ Widest (seen ++ rows) i w' := by
  induction rows generalizing seen widths w with
  | nil => exact ⟨w, here, by rwa [List.append_nil]⟩
  | cons cells rows ih =>
      obtain ⟨w', wider, widest'⟩ := widest.widen here cells
      rw [List.append_cons]
      exact ih widest' wider

theorem length_widths (t : Table) : t.widths.length = t.header.length := by
  have kept (widths : List Nat) : (t.rows.foldl widen widths).length = widths.length := by
    induction t.rows generalizing widths with
    | nil => rfl
    | cons cells rows ih => rw [List.foldl_cons, ih, length_widen]
  rw [widths, kept, List.length_map]

theorem widest_of_widths (here : t.widths[i]? = some w) : Widest (t.header :: t.rows) i w := by
  have inHeader : i < t.header.length := by
    rw [← length_widths]
    exact (List.getElem?_eq_some_iff.mp here).1
  have heading : t.header[i]? = some t.header[i] := List.getElem?_eq_getElem inHeader
  have start : Widest [t.header] i t.header[i].length := by
    simp [Widest, column, heading]
  obtain ⟨w', there, widest⟩ :=
    widest_foldl start (by simp [heading] : (t.header.map String.length)[i]? = _) t.rows
  rw [widths, there] at here
  cases here
  exact widest

/-! ## Lines -/

/-- A cell filled up to the width of its column, the first one flush left and the others flush
    right. -/
def block (i width : Nat) (cell : String) : List Char :=
  if i = 0 then cell.toList ++ padding width cell else padding width cell ++ cell.toList

def blocks (widths : List Nat) (cells : List String) : List (List Char) :=
  (widths.zip cells).mapIdx fun i p => block i p.1 p.2

def gap : List Char := [' ', ' ']

theorem tailLine_eq (widths : List Nat) (cells : List String) : tailLine widths cells =
    (widths.zip cells).flatMap fun p => gap ++ (padding p.1 p.2 ++ p.2.toList) := by
  induction widths, cells using tailLine.induct with
  | case1 width widths cell cells ih =>
      rw [tailLine, ih]
      simp [gap]
  | case2 widths cells unpaired =>
      cases widths with
      | nil => rfl
      | cons width widths =>
          cases cells with
          | nil => rfl
          | cons cell cells => exact (unpaired _ _ _ _ rfl rfl).elim

theorem intercalate_cons_eq {separator first : List Char} (others : List (List Char)) :
    separator.intercalate (first :: others) = first ++ others.flatMap (separator ++ ·) := by
  induction others generalizing first with
  | nil => simp
  | cons second others ih =>
      rw [List.intercalate_cons_cons, ih, List.flatMap_cons, List.append_assoc, List.append_assoc]

theorem line_eq (widths : List Nat) (cells : List String) :
    line widths cells = gap.intercalate (blocks widths cells) := by
  cases widths with
  | nil => rfl
  | cons width widths =>
      cases cells with
      | nil => rfl
      | cons cell cells =>
          have others : (widths.zip cells).mapIdx (fun i p => block (i + 1) p.1 p.2) =
              (widths.zip cells).map fun p => padding p.1 p.2 ++ p.2.toList :=
            List.ext_getElem? fun i => by rw [List.getElem?_mapIdx, List.getElem?_map]; rfl
          rw [line, tailLine_eq, blocks, List.zip_cons_cons, List.mapIdx_cons, others,
            intercalate_cons_eq, List.flatMap_map]
          rfl

theorem length_padding (width : Nat) (cell : String) :
    (padding width cell).length = width - cell.length :=
  List.length_replicate

theorem length_block {width : Nat} (fits : cell.length ≤ width) (i : Nat) :
    (block i width cell).length = width := by
  have padding := length_padding width cell
  unfold block
  split <;> rw [List.length_append, String.length_toList] <;> omega

/-- Cells that are each given a width, and have room in it. -/
abbrev Fit (widths : List Nat) (cells : List String) : Prop :=
  List.Forall₂ (fun width cell => String.length cell ≤ width) widths cells

theorem map_length_blocks (fit : Fit widths cells) :
    (blocks widths cells).map List.length = widths := by
  obtain ⟨sameLength, fits⟩ := List.forall₂_iff_zip.mp fit
  have firsts : (blocks widths cells).map List.length = (widths.zip cells).map Prod.fst := by
    apply List.ext_getElem?
    intro i
    rw [blocks, List.getElem?_map, List.getElem?_mapIdx, List.getElem?_map]
    cases pair : (widths.zip cells)[i]? with
    | none => rfl
    | some p => exact congrArg some (length_block (fits (List.mem_of_getElem? pair)) i)
  rw [firsts, List.map_fst_zip sameLength.le]

theorem getElem?_blocks (here : widths[i]? = some w) (there : cells[i]? = some cell) :
    (blocks widths cells)[i]? = some (block i w cell) := by
  have pair : (widths.zip cells)[i]? = some (w, cell) := by
    simp [List.getElem?_zip_eq_some, here, there]
  rw [blocks, List.getElem?_mapIdx, pair]
  rfl

/-- Where a column starts: behind the columns before it and as many gaps. -/
def columnStart (widths : List Nat) (i : Nat) : Nat := (widths.take i).sum + 2 * i

/-- What a line has in a column. -/
def field (widths : List Nat) (line : List Char) (i : Nat) : List Char :=
  (line.drop (columnStart widths i)).take (widths.getD i 0)

theorem length_intercalate_gap (bs : List (List Char)) :
    (gap.intercalate bs).length = (bs.map List.length).sum + 2 * (bs.length - 1) := by
  cases bs with
  | nil => rfl
  | cons b bs =>
      have rest : (bs.flatMap (gap ++ ·)).length = (bs.map List.length).sum + 2 * bs.length := by
        induction bs with
        | nil => rfl
        | cons b bs ih =>
            rw [List.flatMap_cons, List.length_append, List.length_append, ih, List.map_cons,
              List.sum_cons, List.length_cons, gap]
            simp only [List.length_cons, List.length_nil]
            omega
      rw [intercalate_cons_eq, List.length_append, rest, List.map_cons, List.sum_cons,
        List.length_cons]
      omega

theorem field_intercalate_gap {bs : List (List Char)} (b : List Char) (here : bs[i]? = some b) :
    field (bs.map List.length) (gap.intercalate bs) i = b := by
  induction bs generalizing i with
  | nil => cases here
  | cons first bs ih =>
      rw [intercalate_cons_eq]
      cases i with
      | zero =>
          cases here
          exact List.take_left
      | succ i =>
          obtain ⟨second, others, rfl⟩ : ∃ second others, bs = second :: others :=
            List.exists_cons_of_ne_nil (by rintro rfl; cases here)
          have start : columnStart ((first :: second :: others).map List.length) (i + 1) =
              first.length + (gap.length + columnStart ((second :: others).map List.length) i) := by
            simp only [columnStart, List.map_cons, List.take_succ_cons, List.sum_cons, gap,
              List.length_cons, List.length_nil]
            omega
          have moved : (first ++ (second :: others).flatMap (gap ++ ·)).drop
                (columnStart ((first :: second :: others).map List.length) (i + 1)) =
              (gap.intercalate (second :: others)).drop
                (columnStart ((second :: others).map List.length) i) := by
            rw [start, ← List.drop_drop, List.drop_left, List.flatMap_cons, List.append_assoc,
              ← List.drop_drop, List.drop_left, intercalate_cons_eq]
          rw [field, moved]
          exact ih here

/-- Take away blanks with which a cell may have been filled up. -/
def stripped (i : Nat) (chars : List Char) : List Char :=
  if i = 0 then chars.rdropWhile (· == ' ') else chars.dropWhile (· == ' ')

/-- The character of a cell on the side on which it is filled up. -/
def outermost? (i : Nat) (cell : String) : Option Char :=
  if i = 0 then cell.toList.getLast? else cell.toList.head?

theorem stripped_block (i width : Nat) (cell : String) :
    stripped i (block i width cell) = stripped i cell.toList := by
  have blank : ∀ c ∈ padding width cell, (c == ' ') = true := fun c member =>
    beq_iff_eq.mpr (List.eq_of_mem_replicate member)
  unfold stripped block
  split
  · have reversed : ∀ c ∈ (padding width cell).reverse, (c == ' ') = true := fun c member =>
      blank c (List.mem_reverse.mp member)
    rw [List.rdropWhile, List.reverse_append, List.dropWhile_append_of_pos reversed]
    rfl
  · exact List.dropWhile_append_of_pos blank

theorem stripped_of_outermost (tight : outermost? i cell ≠ some ' ') :
    stripped i cell.toList = cell.toList := by
  unfold stripped
  unfold outermost? at tight
  split
  · next first =>
      rw [if_pos first] at tight
      rw [List.rdropWhile_eq_self_iff]
      intro filled blank
      exact tight ((List.getLast?_eq_some_getLast filled).trans (congrArg some (eq_of_beq blank)))
  · next other =>
      rw [if_neg other] at tight
      rw [List.dropWhile_eq_self_iff]
      intro filled blank
      rw [List.head?_eq_getElem?, List.getElem?_eq_getElem filled] at tight
      exact tight (congrArg some (eq_of_beq blank))

/-- A line that shows each cell in the place of its column, and nothing else but blanks. -/
structure LinesUp (widths : List Nat) (cells : List String) (line : List Char) : Prop where
  length : line.length = widths.sum + 2 * (widths.length - 1)
  joined : line = gap.intercalate ((List.range widths.length).map (field widths line))
  shown : ∀ i w cell, widths[i]? = some w → cells[i]? = some cell →
    field widths line i = block i w cell
  upToBlanks : ∀ i cell, cells[i]? = some cell →
    stripped i (field widths line i) = stripped i cell.toList
  readBack : ∀ i cell, cells[i]? = some cell → outermost? i cell ≠ some ' ' →
    stripped i (field widths line i) = cell.toList

theorem linesUp (fit : Fit widths cells) : LinesUp widths cells (line widths cells) := by
  have lengths := map_length_blocks fit
  have count : (blocks widths cells).length = widths.length := by
    rw [← List.length_map List.length, lengths]
  have found {i : Nat} {b : List Char} (here : (blocks widths cells)[i]? = some b) :
      field widths (line widths cells) i = b := by
    have inJoined := field_intercalate_gap b here
    rwa [lengths, ← line_eq] at inJoined
  have inColumn {i : Nat} {cell : String} (there : cells[i]? = some cell) :
      ∃ w, field widths (line widths cells) i = block i w cell := by
    have wide : i < widths.length := fit.length_eq ▸ (List.getElem?_eq_some_iff.mp there).1
    exact ⟨_, found (getElem?_blocks (List.getElem?_eq_getElem wide) there)⟩
  refine ⟨?_, ?_, fun i w cell here there => found (getElem?_blocks here there),
    fun i cell there => ?_, fun i cell there tight => ?_⟩
  · rw [line_eq, length_intercalate_gap, lengths, count]
  · have fields : (List.range widths.length).map (field widths (line widths cells)) =
        blocks widths cells := by
      apply List.ext_getElem
      · rw [List.length_map, List.length_range, count]
      · intro i _ here
        rw [List.getElem_map, List.getElem_range]
        exact found (List.getElem?_eq_getElem here)
    rw [fields, ← line_eq]
  · obtain ⟨w, same⟩ := inColumn there
    rw [same, stripped_block]
  · obtain ⟨w, same⟩ := inColumn there
    rw [same, stripped_block, stripped_of_outermost tight]

/-! ## Texts -/

theorem mem_intercalate_gap {c : Char} {bs : List (List Char)} (member : c ∈ gap.intercalate bs) :
    c = ' ' ∨ ∃ b ∈ bs, c ∈ b := by
  cases bs with
  | nil => cases member
  | cons first bs =>
      rw [intercalate_cons_eq, List.mem_append, List.mem_flatMap] at member
      rcases member with inside | ⟨b, other, inside⟩
      · exact .inr ⟨first, List.mem_cons_self, inside⟩
      · rcases List.mem_append.mp inside with blank | inside
        · exact .inl (List.eq_of_mem_replicate (n := 2) blank)
        · exact .inr ⟨b, List.mem_cons_of_mem first other, inside⟩

theorem mem_line {c : Char} (member : c ∈ line widths cells) :
    c = ' ' ∨ ∃ cell ∈ cells, c ∈ cell.toList := by
  rw [line_eq] at member
  obtain blank | ⟨b, there, inside⟩ := mem_intercalate_gap member
  · exact .inl blank
  obtain ⟨i, here, rfl⟩ := List.mem_mapIdx.mp there
  have pair : (widths.zip cells)[i] ∈ widths.zip cells := List.getElem_mem here
  have parts : c ∈ padding (widths.zip cells)[i].1 (widths.zip cells)[i].2 ∨
      c ∈ (widths.zip cells)[i].2.toList := by
    unfold block at inside
    split at inside
    · exact (List.mem_append.mp inside).symm
    · exact List.mem_append.mp inside
  exact parts.imp List.eq_of_mem_replicate fun own => ⟨_, (List.of_mem_zip pair).2, own⟩

/-- Rows that are as long as the header, and texts in which no line ends. -/
structure Regular (t : Table) : Prop where
  full : ∀ cells ∈ t.rows, cells.length = t.header.length
  title : '\n' ∉ t.title.toList
  unbroken : ∀ cells ∈ t.header :: t.rows, ∀ cell ∈ cells, '\n' ∉ cell.toList

theorem flatMap_concat (separator : Char) (lines : List (List Char)) :
    lines.flatMap (· ++ [separator]) = [separator].intercalate (lines ++ [[]]) := by
  induction lines with
  | nil => rfl
  | cons first lines ih =>
      rw [List.flatMap_cons, ih]
      cases lines with
      | nil => exact List.intercalate_cons_cons.symm
      | cons second lines => exact List.intercalate_cons_cons.symm

theorem Regular.splitOn_text (regular : t.Regular) :
    t.text.toList.splitOn '\n' = t.lines ++ [[]] := by
  have unbroken : ∀ line ∈ t.lines ++ [[]], '\n' ∉ line := by
    intro chars member broken
    rcases List.mem_append.mp member with title | last
    · rcases List.mem_cons.mp title with rfl | row
      · exact regular.title broken
      · obtain ⟨cells, there, rfl⟩ := List.mem_map.mp row
        obtain blank | ⟨cell, own, inside⟩ := mem_line broken
        · cases blank
        · exact regular.unbroken cells there cell own inside
    · rw [List.mem_singleton.mp last] at broken
      cases broken
  rw [text, String.toList_ofList, flatMap_concat]
  exact List.splitOn_intercalate '\n' unbroken
    (List.append_ne_nil_of_right_ne_nil _ (List.cons_ne_nil _ _))

/-! ## What is too wide -/

theorem exists_cell_of_mem_widths (member : w ∈ t.widths) :
    ∃ i < t.header.length, ∃ cell ∈ column (t.header :: t.rows) i, cell.length = w := by
  obtain ⟨i, here, rfl⟩ := List.getElem_of_mem member
  obtain ⟨⟨cell, there, length⟩, -⟩ := widest_of_widths (List.getElem?_eq_getElem here)
  exact ⟨i, length_widths t ▸ here, cell, there, length⟩

theorem exists_width_of_mem_column (inHeader : i < t.header.length)
    (there : cell ∈ column (t.header :: t.rows) i) :
    ∃ w ∈ t.widths, cell.length ≤ w := by
  have wide : i < t.widths.length := by rwa [length_widths]
  have widest := widest_of_widths (List.getElem?_eq_getElem wide)
  exact ⟨_, List.getElem_mem wide, widest.2 ⟨cell, there, rfl⟩⟩

theorem text?_eq_some_iff : t.text? = some t.text ↔ ∀ w ∈ t.widths, w ≤ 65535 := by
  have allFit : t.widths.all (· ≤ widest) = true ↔ ∀ w ∈ t.widths, w ≤ 65535 := by
    rw [List.all_eq_true]
    exact forall₂_congr fun w _ => decide_eq_true_iff
  rw [← allFit, text?]
  exact ite_eq_left_iff.trans (by simp)

/-- A table is not written if a text in one of its columns is too long. -/
theorem text?_eq_none_iff : t.text? = none ↔
    ∃ i < t.header.length, ∃ cell ∈ column (t.header :: t.rows) i, 65535 < cell.length := by
  constructor
  · intro unwritten
    by_contra narrow
    refine Option.some_ne_none t.text
      ((text?_eq_some_iff.mpr fun w member => ?_).symm.trans unwritten)
    obtain ⟨i, inHeader, cell, there, rfl⟩ := exists_cell_of_mem_widths member
    exact Nat.not_lt.mp fun long => narrow ⟨i, inHeader, cell, there, long⟩
  · rintro ⟨i, inHeader, cell, there, long⟩
    obtain ⟨w, member, below⟩ := exists_width_of_mem_column inHeader there
    refine if_neg fun narrow => ?_
    have short : w ≤ 65535 := of_decide_eq_true (List.all_eq_true.mp narrow w member)
    omega

theorem text?_eq_some (narrow : ∀ cells ∈ t.header :: t.rows, ∀ cell ∈ cells, cell.length ≤ 65535) :
    t.text? = some t.text := by
  refine text?_eq_some_iff.mpr fun w member => ?_
  obtain ⟨i, -, cell, there, rfl⟩ := exists_cell_of_mem_widths member
  obtain ⟨cells, row, own⟩ := mem_column_iff.mp there
  exact narrow cells row cell (List.mem_of_getElem? own)

/-! ## Cells beyond the header -/

theorem widen_take (widths : List Nat) (cells : List String) :
    widen widths (cells.take widths.length) = widen widths cells := by
  induction widths, cells using widen.induct with
  | case1 cells => rfl
  | case2 widths filled => rw [List.take_nil]
  | case3 width widths cell cells ih => exact congrArg (max width cell.length :: ·) ih

theorem line_take (widths : List Nat) (cells : List String) :
    line widths (cells.take widths.length) = line widths cells := by
  have pairs : widths.zip (cells.take widths.length) = widths.zip cells := by
    induction widths generalizing cells with
    | nil => rfl
    | cons width widths ih =>
        cases cells with
        | nil => rfl
        | cons cell cells => exact congrArg ((width, cell) :: ·) (ih cells)
  rw [line_eq, line_eq, blocks, blocks, pairs]

/-- A table without what its rows have beyond the header. -/
def cut (t : Table) : Table := { t with rows := t.rows.map (List.take t.header.length) }

theorem widths_cut (t : Table) : t.cut.widths = t.widths := by
  have kept (widths : List Nat) :
      (t.rows.map (List.take widths.length)).foldl widen widths = t.rows.foldl widen widths := by
    induction t.rows generalizing widths with
    | nil => rfl
    | cons cells rows ih =>
        have next := ih (widen widths cells)
        rw [length_widen] at next
        rw [List.map_cons, List.foldl_cons, List.foldl_cons, widen_take, next]
  have start := kept (t.header.map String.length)
  rwa [List.length_map] at start

theorem lines_cut (t : Table) : t.cut.lines = t.lines := by
  have rows : t.cut.rows.map (line t.widths) = t.rows.map (line t.widths) := by
    rw [cut, List.map_map]
    refine List.map_congr_left fun cells _ => ?_
    rw [← length_widths]
    exact line_take t.widths cells
  rw [lines, lines, widths_cut, List.map_cons, List.map_cons, rows]
  rfl

theorem text?_cut (t : Table) : t.cut.text? = t.text? := by
  rw [text?, text?, text, text, widths_cut, lines_cut]

/-! ## Whole tables -/

theorem Regular.fit (regular : t.Regular) (there : cells ∈ t.header :: t.rows) :
    Fit t.widths cells := by
  have sameLength : t.widths.length = cells.length := by
    rw [length_widths]
    rcases List.mem_cons.mp there with rfl | row
    · rfl
    · exact (regular.full cells row).symm
  refine List.forall₂_iff_get.mpr ⟨sameLength, fun i wide own => ?_⟩
  have widest := widest_of_widths (List.getElem?_eq_getElem wide)
  exact widest.2 ⟨cells[i], mem_column_iff.mpr ⟨cells, there, List.getElem?_eq_getElem own⟩, rfl⟩

/-- A written table is its title over lines in which each column has a place of its own, as long as
    no column is too wide to be written. Nothing that a row has beyond the header changes that. -/
theorem columns_line_up (t : Table) :
    (t.Regular → (∀ cells ∈ t.header :: t.rows, ∀ cell ∈ cells, cell.length ≤ 65535) →
      ∃ text header rows,
        t.text? = some text ∧ text.toList.splitOn '\n' = t.title.toList :: header :: rows ++ [[]] ∧
        LinesUp t.widths t.header header ∧ List.Forall₂ (LinesUp t.widths) t.rows rows) ∧
    (t.text? = none ↔ ∃ i < t.header.length, ∃ cell ∈ column (t.header :: t.rows) i,
      65535 < cell.length) ∧
    t.widths.length = t.header.length ∧
    (∀ i w, t.widths[i]? = some w → Widest (t.header :: t.rows) i w) ∧
    ∀ t' : Table, t'.cut = t.cut → t'.text? = t.text? ∧ t'.widths = t.widths := by
  refine ⟨fun regular narrow => ?_, text?_eq_none_iff, length_widths t, fun i w => widest_of_widths,
    fun t' same => ?_⟩
  · refine ⟨t.text, line t.widths t.header, t.rows.map (line t.widths), text?_eq_some narrow,
      regular.splitOn_text, linesUp (regular.fit List.mem_cons_self), ?_⟩
    rw [List.forall₂_map_right_iff, List.forall₂_same]
    exact fun cells row => linesUp (regular.fit (List.mem_cons_of_mem t.header row))
  · rw [← text?_cut t', ← widths_cut t', same, text?_cut, widths_cut]
    exact ⟨rfl, rfl⟩

/-- Two columns under their headings. -/
theorem columns_line_up_two_columns :
    let t : Table := ⟨"Population", ["Region", "Teams"], [["EU", "1 234"]]⟩
    t.Regular ∧ t.text? = some "Population\nRegion  Teams\nEU      1 234\n" ∧
      LinesUp t.widths ["EU", "1 234"] "EU      1 234".toList ∧
      stripped 1 (field t.widths "EU      1 234".toList 1) = "1 234".toList := by
  intro t
  have regular : t.Regular := ⟨by decide, by decide, by decide⟩
  have written : t.text? = some "Population\nRegion  Teams\nEU      1 234\n" := by decide
  obtain ⟨text, header, rows, same, lines, -, up⟩ := (columns_line_up t).1 regular (by decide)
  have split : "Population\nRegion  Teams\nEU      1 234\n".toList.splitOn '\n' =
      ["Population".toList, "Region  Teams".toList, "EU      1 234".toList, []] := by decide
  rw [written] at same
  cases same
  rw [split] at lines
  obtain ⟨-, lines⟩ := List.cons.inj lines
  obtain ⟨-, lines⟩ := List.cons.inj lines
  cases up with
  | cons row none =>
      cases none
      obtain ⟨rfl, -⟩ := List.cons.inj lines
      exact ⟨regular, written, row, row.readBack 1 "1 234" rfl (by decide)⟩

/-- A heading of 65536 characters is too long to be written, and a cell with a blank at its end
    looks like one without. -/
theorem columns_too_wide_or_alike :
    let wide : Table := ⟨"T", [String.ofList (List.replicate 65536 'a')], []⟩
    let plain : Table := ⟨"T", ["abc"], [["a"]]⟩
    let blank : Table := ⟨"T", ["abc"], [["a "]]⟩
    (wide.Regular ∧ wide.text? = none) ∧ plain.Regular ∧ blank.Regular ∧ plain.rows ≠ blank.rows ∧
      plain.text? = some "T\nabc\na  \n" ∧ blank.text? = some "T\nabc\na  \n" := by
  intro wide plain blank
  have letters (n : Nat) : '\n' ∉ (String.ofList (List.replicate n 'a')).toList := by
    rw [String.toList_ofList]
    intro broken
    cases List.eq_of_mem_replicate broken
  have length (n : Nat) : (String.ofList (List.replicate n 'a')).length = n := by
    rw [String.length_ofList, List.length_replicate]
  have unbroken : ∀ cells ∈ wide.header :: wide.rows, ∀ cell ∈ cells, '\n' ∉ cell.toList := by
    intro cells there cell own
    rw [List.mem_singleton.mp there] at own
    rw [List.mem_singleton.mp own]
    exact letters 65536
  have long : 65535 < (String.ofList (List.replicate 65536 'a')).length := by
    rw [length]
    decide
  have unwritten : wide.text? = none :=
    text?_eq_none_iff.mpr ⟨0, Nat.one_pos, _, List.mem_singleton.mpr rfl, long⟩
  exact ⟨⟨⟨nofun, by decide, unbroken⟩, unwritten⟩, ⟨by decide, by decide, by decide⟩,
    ⟨by decide, by decide, by decide⟩, by decide, by decide, by decide⟩

end LadderAtlas.Table
