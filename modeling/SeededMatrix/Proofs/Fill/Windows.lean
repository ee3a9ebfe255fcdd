import SeededMatrix.Fill.Window
import SeededMatrix.Proofs.Output.Cells
import SeededMatrix.Proofs.Spans

/-!
# Windows of blocks

A window visits its blocks row after row. The window of all blocks visits them by their numbers, and
the seeds that are cut out of a table for a window are those of its blocks in the order of the
visit.
-/

namespace SeededMatrix

/-- Whether a block is visited before another one, row after row. -/
def BlockIndex.Before (first second : BlockIndex) : Prop :=
  first.row < second.row ∨ first.row = second.row ∧ first.col < second.col

/-- The number of a block in a grid with this many blocks from left to right. -/
def BlockIndex.number (blocksAcross : Nat) (block : BlockIndex) : Nat :=
  block.row * blocksAcross + block.col

namespace BlockWindow

theorem mem_blocks {window : BlockWindow} {block : BlockIndex} :
    block ∈ window.blocks ↔ block.row ∈ window.rows.indices ∧ block.col ∈ window.cols.indices := by
  simp only [blocks, List.mem_flatMap, List.mem_map]
  constructor
  · rintro ⟨row, row_mem, col, col_mem, rfl⟩
    exact ⟨row_mem, col_mem⟩
  · rintro ⟨row_mem, col_mem⟩
    exact ⟨block.row, row_mem, block.col, col_mem, rfl⟩

theorem has_of_mem_all {down across : Nat} {block : BlockIndex}
    (member : block ∈ blocks ⟨.upTo down, .upTo across⟩) : BlockGrid.Has down across block := by
  simp only [mem_blocks, Span.mem_indices, Span.upTo] at member
  exact ⟨member.1.2, member.2.2⟩

theorem mem_all {down across : Nat} {block : BlockIndex} (has : BlockGrid.Has down across block) :
    block ∈ blocks ⟨.upTo down, .upTo across⟩ := by
  simp only [mem_blocks, Span.mem_indices, Span.upTo]
  exact ⟨⟨Nat.zero_le _, has.1⟩, Nat.zero_le _, has.2⟩

theorem blocks_ordered (window : BlockWindow) : window.blocks.Pairwise BlockIndex.Before := by
  rw [blocks, List.pairwise_flatMap]
  constructor
  · intro row _
    rw [List.pairwise_map]
    exact (List.pairwise_lt_range' 1).imp fun cols_lt => .inr ⟨rfl, cols_lt⟩
  · apply (List.pairwise_lt_range' 1).imp
    intro row row' rows_lt first first_mem second second_mem
    obtain ⟨_, -, rfl⟩ := List.mem_map.mp first_mem
    obtain ⟨_, -, rfl⟩ := List.mem_map.mp second_mem
    exact .inl rows_lt

theorem nodup_blocks (window : BlockWindow) : window.blocks.Nodup := by
  apply window.blocks_ordered.imp
  rintro first _ before rfl
  rcases before with rows_lt | ⟨-, cols_lt⟩
  · exact rows_lt.false
  · exact cols_lt.false

theorem numbers_all (blocksDown blocksAcross : Nat) :
    (blocks ⟨.upTo blocksDown, .upTo blocksAcross⟩).map (BlockIndex.number blocksAcross) =
      List.range (blocksDown * blocksAcross) := by
  simp only [blocks, Span.indices, Span.upTo, Span.length, Nat.sub_zero, ← List.range_eq_range']
  induction blocksDown with
  | zero => simp
  | succ blocksDown induction =>
      rw [List.range_succ, List.flatMap_append, List.map_append, induction, Nat.succ_mul,
        List.range_add]
      simp [BlockIndex.number, Function.comp_def]

theorem number_eq_visit {down across visit : Nat} {block : BlockIndex}
    (found : (blocks ⟨.upTo down, .upTo across⟩)[visit]? = some block) :
    block.number across = visit := by
  have numbers := congrArg (fun list => list[visit]?) (numbers_all down across)
  simp only [List.getElem?_map, found, Option.map_some] at numbers
  obtain ⟨visit_lt, number_eq⟩ := List.getElem?_eq_some_iff.mp numbers.symm
  rw [← number_eq, List.getElem_range]

end BlockWindow

/-! ## Seeds of a window -/

namespace SeedTable

variable {α : Type} {table : Array α} {blocksAcross : Nat}

/-- The entries that a row of blocks takes out of a table are those of its blocks. -/
theorem rowWindow_eq {first width row : Nat} (width_le : first + width ≤ blocksAcross)
    (row_le : (row + 1) * blocksAcross ≤ table.size) (small : table.size < Size.limit) :
    ∃ entries, rowWindow table blocksAcross first width row = .ok entries ∧
      entries.toList.map some =
        (List.range' first width).map fun col => table[row * blocksAcross + col]? := by
  rw [Nat.add_mul, Nat.one_mul] at row_le
  refine ⟨table.extract (row * blocksAcross + first) (row * blocksAcross + first + width), ?_, ?_⟩
  · rw [rowWindow, Size.mul_eq_ok.mpr ⟨by omega, rfl⟩, ok_bind, Size.add_eq_ok.mpr ⟨by omega, rfl⟩,
      ok_bind, Size.add_eq_ok.mpr ⟨by omega, rfl⟩, ok_bind, if_pos (by omega)]
    rfl
  · apply List.ext_getElem (by simp; omega)
    intro position position_lt _
    have inside : row * blocksAcross + first + position < table.size := by
      simp at position_lt
      omega
    simp [← Nat.add_assoc, inside]

theorem appendRows_eq (count row : Nat) {first width : Nat}
    (width_le : first + width ≤ blocksAcross) (rows_le : (row + count) * blocksAcross ≤ table.size)
    (small : table.size < Size.limit) (taken : Array α) :
    ∃ entries, appendRows table blocksAcross first width count row taken = .ok entries ∧
      entries.toList.map some = taken.toList.map some ++
        (List.range' row count).flatMap fun row =>
          (List.range' first width).map fun col => table[row * blocksAcross + col]? := by
  induction count generalizing row taken with
  | zero => exact ⟨taken, rfl, by simp⟩
  | succ count induction =>
      have row_le : (row + 1) * blocksAcross ≤ table.size :=
        (Nat.mul_le_mul_right _ (by omega)).trans rows_le
      obtain ⟨here, here_ok, here_eq⟩ := rowWindow_eq width_le row_le small
      obtain ⟨entries, entries_ok, entries_eq⟩ :=
        induction (row + 1) (by rwa [Nat.add_right_comm]) (taken ++ here)
      refine ⟨entries, ?_, ?_⟩
      · rw [appendRows, here_ok, ok_bind, entries_ok]
      · rw [entries_eq, Array.toList_append, List.map_append, here_eq, List.range'_succ,
          List.flatMap_cons, List.append_assoc]

/-- The seeds that are cut out for a window are those of its blocks in the order of the visit. -/
theorem window_eq {rows cols : Span} (cols_le : cols.stop ≤ blocksAcross)
    (rows_le : rows.stop * blocksAcross ≤ table.size) (rows_forward : rows.start ≤ rows.stop)
    (cols_forward : cols.start ≤ cols.stop) (stored : Size.reserve table.size 8 = .ok ()) :
    ∃ entries, window table rows cols blocksAcross = .ok entries ∧
      entries.toList.map some =
        (BlockWindow.mk rows cols).blocks.map fun block => table[block.number blocksAcross]? := by
  rw [Size.reserve_eq_ok] at stored
  have small : table.size < Size.limit := by
    simp only [Size.allocationLimit, Size.limit] at *
    omega
  have area_le : rows.length * cols.length ≤ table.size :=
    (Nat.mul_le_mul (Nat.sub_le _ _) ((Nat.sub_le _ _).trans cols_le)).trans rows_le
  have reserved : Size.reserve (rows.length * cols.length) 8 = .ok () :=
    Size.reserve_eq_ok.mpr ((Nat.mul_le_mul_right 8 area_le).trans stored)
  have rows_end : rows.start + rows.length = rows.stop := Nat.add_sub_cancel' rows_forward
  have cols_end : cols.start + cols.length = cols.stop := Nat.add_sub_cancel' cols_forward
  obtain ⟨entries, entries_ok, entries_eq⟩ :=
    appendRows_eq rows.length rows.start (cols_end.trans_le cols_le) (by rwa [rows_end]) small #[]
  refine ⟨entries, ?_, ?_⟩
  · rw [window, Size.mul_eq_ok.mpr ⟨by omega, rfl⟩, ok_bind, reserved, ok_bind, entries_ok]
  · simpa [BlockWindow.blocks, BlockIndex.number, Span.indices, List.map_flatMap,
      Function.comp_def] using entries_eq

theorem all_eq {blocksDown : Nat} (size_eq : table.size = blocksDown * blocksAcross) :
    table.toList.map some =
      (BlockWindow.mk (.upTo blocksDown) (.upTo blocksAcross)).blocks.map fun block =>
        table[block.number blocksAcross]? := by
  have visits : (BlockWindow.mk (.upTo blocksDown) (.upTo blocksAcross)).blocks.map
      (fun block => table[block.number blocksAcross]?) =
        (List.range table.size).map fun number => table[number]? := by
    rw [size_eq, ← BlockWindow.numbers_all, List.map_map]
    rfl
  rw [visits]
  apply List.ext_getElem (by simp)
  intro number number_lt _
  simp only [List.length_map, Array.length_toList] at number_lt
  simp [number_lt]

/-- Seeds that stand in the order of the visits meet the blocks that they are for. -/
theorem seed_of_visit {own : Array α} {blocks : List BlockIndex}
    (own_eq : own.toList.map some = blocks.map fun block => table[block.number blocksAcross]?)
    {visit : Nat} {block : BlockIndex} (found : blocks[visit]? = some block) :
    own[visit]? = table[block.number blocksAcross]? := by
  have entry : own[visit]?.map some = some table[block.number blocksAcross]? := by
    rw [← Array.getElem?_toList, ← List.getElem?_map, own_eq, List.getElem?_map, found]
    rfl
  obtain ⟨seed, own_found, seed_found⟩ := Option.map_eq_some_iff.mp entry
  rw [own_found, seed_found]

end SeedTable

end SeededMatrix
