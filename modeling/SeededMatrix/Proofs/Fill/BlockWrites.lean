import SeededMatrix.Proofs.Fill.Passes

/-!
# The writes of one block

Whatever the pattern, a block yields its writes row after row: their cell numbers strictly increase
and stay below the number of cells. The drawing never fails once it has begun. Moved to the matrix,
the writes stay within the rows and columns of the block.
-/

namespace SeededMatrix

open SeededMatrix.Random

/-- Whether a write comes before another one, row after row. -/
def Write.Before (first second : Write) : Prop :=
  first.row < second.row ∨ first.row = second.row ∧ first.col < second.col

/-- The number of the written cell in a block of `width` columns, counted row after row. -/
def Write.number (width : Nat) (write : Write) : Nat :=
  write.row * width + write.col

theorem Write.before_of_number_lt {width : Nat} {first second : Write}
    (col_lt : second.col < width) (increases : first.number width < second.number width) :
    first.Before second := by
  by_cases rows_lt : first.row < second.row
  · exact .inl rows_lt
  · have rows_le : second.row * width ≤ first.row * width :=
      Nat.mul_le_mul_right width (Nat.not_lt.mp rows_lt)
    simp only [number] at increases
    have rows_eq : first.row = second.row := by
      by_contra rows_ne
      have further : (second.row + 1) * width ≤ first.row * width :=
        Nat.mul_le_mul_right width (by omega)
      rw [Nat.add_mul] at further
      omega
    exact .inr ⟨rows_eq, by rw [rows_eq] at increases; omega⟩

/-- A sequence that yields, without a failure, writes of cells whose numbers strictly increase from
`lower` on and stay below `upper`. -/
structure Writes.Ascends (width lower upper : Nat) (writes : Writes) : Prop where
  complete : writes.failure? = none
  inside : ∀ write ∈ writes.toList,
    write.col < width ∧ lower ≤ write.number width ∧ write.number width < upper
  increasing : writes.toList.Pairwise fun first second =>
    first.number width < second.number width

namespace Writes.Ascends

variable {width lower upper : Nat}

theorem done : Ascends width lower upper .done :=
  ⟨rfl, by simp, .nil⟩

theorem mono {lower' : Nat} {writes : Writes} (ascends : Ascends width lower' upper writes)
    (lower_le : lower ≤ lower') : Ascends width lower upper writes := by
  refine ⟨ascends.complete, fun write member => ?_, ascends.increasing⟩
  obtain ⟨col_lt, number_ge, number_lt⟩ := ascends.inside write member
  exact ⟨col_lt, lower_le.trans number_ge, number_lt⟩

theorem next (width_pos : 0 < width) {cell : Nat} (lower_le : lower ≤ cell)
    (cell_lt : cell < upper) (value : Float) {rest : Unit → Writes}
    (ascends : Ascends width (cell + 1) upper (rest ())) :
    Ascends width lower upper (.next (FillRule.writeAt width cell value) rest) := by
  have col_lt : cell % width < width := Nat.mod_lt _ width_pos
  have number_eq : (FillRule.writeAt width cell value).number width = cell :=
    Nat.div_add_mod' _ _
  refine ⟨ascends.complete, fun write member => ?_, .cons (fun write member => ?_)
    ascends.increasing⟩
  · rw [toList_next, List.mem_cons] at member
    rcases member with rfl | later
    · exact ⟨col_lt, by omega, by omega⟩
    · obtain ⟨col_lt', number_ge, number_lt⟩ := ascends.inside write later
      exact ⟨col_lt', by omega, number_lt⟩
  · obtain ⟨-, number_ge, -⟩ := ascends.inside write member
    omega

end Writes.Ascends

namespace FillRule

variable (rule : FillRule) {width : Nat}

/-! ## The patterns -/

/-- Gaps lead from a cell to a later one, as long as there is one. -/
theorem geometricWrites_ascends (width_pos : 0 < width) {size : Nat} (small : size < Size.limit)
    (logMiss : Float) (landed budget : Nat) (occupancy values : Xoshiro) :
    (rule.geometricWrites width size small logMiss landed budget occupancy values).Ascends width
      landed size := by
  induction budget generalizing landed occupancy values with
  | zero =>
      rw [geometricWrites]
      split <;> exact .done
  | succ budget induction =>
      rw [geometricWrites]
      split
      next landed_lt =>
        simp only
        split
        next reached =>
          have advanced := Size.lt_saturatingAdd_one (gap logMiss (drawUnit occupancy).1) le_rfl
            (show landed + 1 < Size.limit by omega)
          exact .next width_pos (by omega) (by omega) _ ((induction _ _ _).mono (by omega))
        next => exact .done
      next => exact .done

theorem everyCellWrites_ascends (width_pos : 0 < width) (remaining cell : Nat)
    (values : Xoshiro) :
    (rule.everyCellWrites width remaining cell values).Ascends width cell (cell + remaining) := by
  induction remaining generalizing cell values with
  | zero => exact .done
  | succ remaining induction =>
      rw [everyCellWrites]
      apply Writes.Ascends.next width_pos le_rfl (by omega)
      have rest := induction (cell + 1) (rule.drawValue values).2
      rwa [Nat.add_right_comm, Nat.add_assoc] at rest

theorem coinWrites_ascends (width_pos : 0 < width) (density : Float)
    (remaining cell budget : Nat) (occupancy values : Xoshiro) :
    (rule.coinWrites width density remaining cell budget occupancy values).Ascends width cell
      (cell + remaining) := by
  induction remaining generalizing cell budget occupancy values with
  | zero => exact .done
  | succ remaining induction =>
      cases budget with
      | zero => exact .done
      | succ budget =>
          have shifted : cell + 1 + remaining = cell + (remaining + 1) := by omega
          rw [coinWrites]
          simp only
          split
          · apply Writes.Ascends.next width_pos le_rfl (by omega)
            simpa only [shifted] using induction (cell + 1) budget _ _
          · have rest := induction (cell + 1) (budget + 1) (drawUnit occupancy).2 values
            rw [shifted] at rest
            exact rest.mono (Nat.le_succ cell)

theorem length_geometricWrites_le {size : Nat} (small : size < Size.limit) (logMiss : Float)
    (landed budget : Nat) (occupancy values : Xoshiro) :
    (rule.geometricWrites width size small logMiss landed budget occupancy values).toList.length ≤
      budget := by
  induction budget generalizing landed occupancy values with
  | zero =>
      rw [geometricWrites]
      split <;> simp
  | succ budget induction =>
      rw [geometricWrites]
      split
      · simp only
        split
        · simpa using induction _ _ _
        · simp
      · simp

theorem length_coinWrites_le (density : Float) (remaining cell budget : Nat)
    (occupancy values : Xoshiro) :
    (rule.coinWrites width density remaining cell budget occupancy values).toList.length ≤
      budget := by
  induction remaining generalizing cell budget occupancy values with
  | zero => simp [coinWrites]
  | succ remaining induction =>
      cases budget with
      | zero => simp [coinWrites]
      | succ budget =>
          rw [coinWrites]
          simp only
          split
          · simpa using induction _ _ _ _
          · exact induction _ _ _ _

/-! ## The chosen pattern -/

/-- Whether a block of this shape and budget gets a value in every cell. -/
def WantsEveryCell (height width budget : Nat) : Prop :=
  rule.scarce = false ∧
    FillPattern.select height width budget rule.blueprint.density = .everyCell

theorem localWrites_ascends {height width : Nat} (height_pos : 0 < height) (width_pos : 0 < width)
    {seed : UInt64} {budget : Nat} {writes : Writes}
    (drawn : rule.localWrites height width seed budget = .ok writes) :
    writes.Ascends width 0 (height * width) := by
  have size_pos : 0 < height * width := Nat.mul_pos height_pos width_pos
  rw [localWrites_eq] at drawn
  split at drawn
  · obtain ⟨size, size_ok, drawn⟩ := bind_eq_ok.mp drawn
    obtain ⟨_, -, drawn⟩ := bind_eq_ok.mp drawn
    obtain ⟨-, rfl⟩ := Size.mul_eq_ok.mp size_ok
    obtain rfl := Except.ok.inj drawn
    exact .next width_pos (Nat.zero_le _) (by omega) _ .done
  · split at drawn
    · split at drawn
      next small =>
        obtain rfl := Except.ok.inj drawn
        exact rule.geometricWrites_ascends width_pos small _ 0 _ _ _
      next => contradiction
    · split at drawn
      · obtain rfl := Except.ok.inj drawn
        simpa using rule.everyCellWrites_ascends width_pos (height * width) 0 (valueStream seed)
      · contradiction
    · obtain rfl := Except.ok.inj drawn
      simpa using rule.coinWrites_ascends width_pos rule.blueprint.density (height * width) 0 budget
        (occupancyStream seed) (valueStream seed)

theorem localWrites_ok {height width : Nat} (height_pos : 0 < height) (width_pos : 0 < width)
    (small : height * width < Size.limit) (seed : UInt64) (budget : Nat) :
    ∃ writes, rule.localWrites height width seed budget = .ok writes := by
  have size_pos : 0 < height * width := Nat.mul_pos height_pos width_pos
  have product : Size.mul height width = .ok (height * width) := Size.mul_eq_ok.mpr ⟨small, rfl⟩
  have last : Size.sub (height * width) 1 = .ok (height * width - 1) :=
    Size.sub_eq_ok.mpr ⟨size_pos, rfl⟩
  rw [localWrites_eq]
  simp only [product, last, ok_bind, small, dite_true, if_true, pure_eq_ok]
  split
  · exact ⟨_, rfl⟩
  · split <;> exact ⟨_, rfl⟩

/-- Only a block that gets a value in every cell can exceed its budget. -/
theorem length_localWrites_le {height width : Nat} {seed : UInt64} {budget : Nat}
    (budget_pos : 0 < budget) (sparing : ¬rule.WantsEveryCell height width budget)
    {writes : Writes} (drawn : rule.localWrites height width seed budget = .ok writes) :
    writes.toList.length ≤ budget := by
  rw [localWrites_eq] at drawn
  split at drawn
  · obtain ⟨size, -, drawn⟩ := bind_eq_ok.mp drawn
    obtain ⟨_, -, drawn⟩ := bind_eq_ok.mp drawn
    obtain rfl := Except.ok.inj drawn
    exact budget_pos
  next plenty =>
    split at drawn
    · split at drawn
      next small =>
        obtain rfl := Except.ok.inj drawn
        exact rule.length_geometricWrites_le small _ 0 _ _ _
      next => contradiction
    next everyCell => exact absurd ⟨by simpa using plenty, everyCell⟩ sparing
    · obtain rfl := Except.ok.inj drawn
      exact rule.length_coinWrites_le _ _ _ _ _ _

end FillRule

/-! ## Moved to the matrix -/

/-- A write moved down and to the right. -/
def Write.moved (firstRow firstCol : Nat) (write : Write) : Write :=
  ⟨firstRow + write.row, firstCol + write.col, write.value⟩

/-- Whether a block covers the cell of a write. -/
def BlockGrid.Holds (grid : BlockGrid) (block : BlockIndex) (write : Write) : Prop :=
  ((grid.rowSpan block).start ≤ write.row ∧ write.row < (grid.rowSpan block).stop) ∧
    (grid.colSpan block).start ≤ write.col ∧ write.col < (grid.colSpan block).stop

instance (grid : BlockGrid) (block : BlockIndex) (write : Write) :
    Decidable (grid.Holds block write) :=
  inferInstanceAs (Decidable (_ ∧ _))

/-- A sequence that yields, without a failure, writes of a block, row after row. -/
structure Writes.Fills (grid : BlockGrid) (block : BlockIndex) (writes : Writes) : Prop where
  complete : writes.failure? = none
  inside : ∀ write ∈ writes.toList, grid.Holds block write
  ordered : writes.toList.Pairwise Write.Before

/-- Cells of a block stay cells of the block when they are moved to where it begins. -/
theorem Writes.Ascends.holds_moved {grid : BlockGrid} {block : BlockIndex} {writes : Writes}
    (ascends : writes.Ascends (grid.colSpan block).length 0
      ((grid.rowSpan block).length * (grid.colSpan block).length))
    {write : Write} (member : write ∈ writes.toList) :
    grid.Holds block
      (write.moved (grid.rowSpan block).start (grid.colSpan block).start) := by
  obtain ⟨col_lt, -, number_lt⟩ := ascends.inside write member
  have row_lt : write.row < (grid.rowSpan block).length := by
    by_contra outside
    have further := Nat.mul_le_mul_right (grid.colSpan block).length (Nat.not_lt.mp outside)
    simp only [Write.number] at number_lt
    omega
  simp only [BlockGrid.Holds, Write.moved, Span.length] at *
  omega

namespace FillRule

variable {rule : FillRule} {down across : Nat} {block : BlockIndex} {seed : UInt64} {budget : Nat}
  {writes : Writes}

theorem starts_eq (counts : rule.blueprint.grid.Counts down across)
    (has : BlockGrid.Has down across block) :
    Size.mul block.row rule.blueprint.grid.blockHeight =
        .ok (rule.blueprint.grid.rowSpan block).start ∧
      Size.mul block.col rule.blueprint.grid.blockWidth =
        .ok (rule.blueprint.grid.colSpan block).start := by
  have row_lt := counts.row_start_lt has
  have col_lt := counts.col_start_lt has
  have rows_fit := counts.down_spec.2.1
  have cols_fit := counts.across_spec.2.1
  exact ⟨Size.mul_eq_ok.mpr ⟨by omega, rfl⟩, Size.mul_eq_ok.mpr ⟨by omega, rfl⟩⟩

/-- A block with a budget and a density yields its own writes, moved to where it begins; any other
block yields nothing. -/
theorem blockWrites_eq (counts : rule.blueprint.grid.Counts down across)
    (has : BlockGrid.Has down across block) (seed : UInt64) (budget : Nat) :
    rule.blockWrites block seed budget =
      if budget = 0 ∨ rule.blueprint.density ≤ 0.0 then .ok .done
      else do
        let writes ← rule.localWrites (rule.blueprint.grid.rowSpan block).length
          (rule.blueprint.grid.colSpan block).length seed budget
        return writes.map (shift (rule.blueprint.grid.rowSpan block).start
          (rule.blueprint.grid.colSpan block).start) := by
  obtain ⟨firstRow, firstCol⟩ := starts_eq counts has
  simp [blockWrites_eq_localWrites, counts.heightAt_eq has, counts.widthAt_eq has, firstRow, firstCol]

/-- A block can be filled exactly if it gets nothing or its own writes can be drawn. -/
theorem blockWrites_ok_iff (counts : rule.blueprint.grid.Counts down across)
    (has : BlockGrid.Has down across block) :
    (∃ writes, rule.blockWrites block seed budget = .ok writes) ↔
      (¬(budget = 0 ∨ rule.blueprint.density ≤ 0.0) →
        ∃ own, rule.localWrites (rule.blueprint.grid.rowSpan block).length
          (rule.blueprint.grid.colSpan block).length seed budget = .ok own) := by
  rw [blockWrites_eq counts has]
  split
  next nothing => exact ⟨fun _ something => absurd nothing something, fun _ => ⟨_, rfl⟩⟩
  next something =>
    constructor
    · rintro ⟨writes, drawn⟩ -
      obtain ⟨own, own_drawn, -⟩ := bind_eq_ok.mp drawn
      exact ⟨own, own_drawn⟩
    · intro draws
      obtain ⟨own, own_drawn⟩ := draws something
      rw [own_drawn]
      exact ⟨_, rfl⟩

/-- A write of a block is moved without a fault, since the block lies in the matrix. -/
theorem shift_eq (counts : rule.blueprint.grid.Counts down across) {write : Write}
    (holds : rule.blueprint.grid.Holds block
      (write.moved (rule.blueprint.grid.rowSpan block).start
        (rule.blueprint.grid.colSpan block).start)) :
    shift (rule.blueprint.grid.rowSpan block).start (rule.blueprint.grid.colSpan block).start
        write =
      .ok (write.moved (rule.blueprint.grid.rowSpan block).start
        (rule.blueprint.grid.colSpan block).start) := by
  obtain ⟨⟨-, row_lt⟩, -, col_lt⟩ := holds
  have rows_fit := counts.down_spec.2.1
  have cols_fit := counts.across_spec.2.1
  have row_end : (rule.blueprint.grid.rowSpan block).stop ≤ rule.blueprint.grid.rows :=
    Nat.min_le_right _ _
  have col_end : (rule.blueprint.grid.colSpan block).stop ≤ rule.blueprint.grid.cols :=
    Nat.min_le_right _ _
  simp only [Write.moved] at *
  rw [shift, Size.add_eq_ok.mpr ⟨by omega, rfl⟩, ok_bind, Size.add_eq_ok.mpr ⟨by omega, rfl⟩]
  rfl

/-- What a block yields is nothing, or its own writes moved to where the block begins. -/
theorem blockWrites_cases (counts : rule.blueprint.grid.Counts down across)
    (has : BlockGrid.Has down across block)
    (drawn : rule.blockWrites block seed budget = .ok writes) :
    ((budget = 0 ∨ rule.blueprint.density ≤ 0.0) ∧ writes = .done) ∨
      ¬(budget = 0 ∨ rule.blueprint.density ≤ 0.0) ∧
        ∃ own, rule.localWrites (rule.blueprint.grid.rowSpan block).length
            (rule.blueprint.grid.colSpan block).length seed budget = .ok own ∧
          own.Ascends (rule.blueprint.grid.colSpan block).length 0
            ((rule.blueprint.grid.rowSpan block).length *
              (rule.blueprint.grid.colSpan block).length) ∧
          writes.failure? = none ∧
          writes.toList = own.toList.map (.moved (rule.blueprint.grid.rowSpan block).start
            (rule.blueprint.grid.colSpan block).start) := by
  rw [blockWrites_eq counts has] at drawn
  split at drawn
  next nothing => exact .inl ⟨nothing, (Except.ok.inj drawn).symm⟩
  next something =>
    obtain ⟨own, own_drawn, moved⟩ := bind_eq_ok.mp drawn
    obtain rfl := Except.ok.inj moved
    have ascends := rule.localWrites_ascends (counts.height_pos has) (counts.width_pos has)
      own_drawn
    obtain ⟨lists, failures⟩ := Writes.map_eq fun write member =>
      shift_eq counts (ascends.holds_moved member)
    exact .inr ⟨something, own, own_drawn, ascends, failures.trans ascends.complete, lists⟩

theorem placed_fillBlock (counts : rule.blueprint.grid.Counts down across)
    (has : BlockGrid.Has down across block) {streams : Streams} {pass : BlockPass}
    (filled : rule.fillBlock block seed budget streams = .ok pass) :
    pass.placed = .ok pass.writes.toList.length := by
  obtain ⟨firstRow, firstCol⟩ := starts_eq counts has
  simp only [fillBlock, counts.heightAt_eq has, counts.widthAt_eq has, firstRow, firstCol, ok_bind]
    at filled
  split at filled
  · obtain rfl := Except.ok.inj filled
    rfl
  · obtain ⟨own, own_filled, moved⟩ := bind_eq_ok.mp filled
    obtain rfl := Except.ok.inj moved
    have own_drawn : rule.localWrites (rule.blueprint.grid.rowSpan block).length
        (rule.blueprint.grid.colSpan block).length seed budget = .ok own.writes :=
      map_eq_ok.mpr ⟨own, own_filled, rfl⟩
    have ascends := rule.localWrites_ascends (counts.height_pos has) (counts.width_pos has)
      own_drawn
    have shifts := fun (write : Write) (member : write ∈ own.writes.toList) =>
      shift_eq counts (ascends.holds_moved member)
    rw [BlockPass.placed_map shifts, BlockPass.writes_map, (Writes.map_eq shifts).1,
      List.length_map]
    exact rule.placed_fillCells own_filled

theorem blockWrites_fills (counts : rule.blueprint.grid.Counts down across)
    (has : BlockGrid.Has down across block)
    (drawn : rule.blockWrites block seed budget = .ok writes) :
    writes.Fills rule.blueprint.grid block := by
  rcases blockWrites_cases counts has drawn with ⟨-, rfl⟩ | ⟨-, own, -, ascends, complete, lists⟩
  · exact ⟨rfl, by simp, .nil⟩
  · refine ⟨complete, fun write member => ?_, ?_⟩
    · rw [lists] at member
      obtain ⟨source, source_member, rfl⟩ := List.mem_map.mp member
      exact ascends.holds_moved source_member
    · rw [lists, List.pairwise_map]
      apply ascends.increasing.imp_of_mem
      intro first second _ member increases
      have before := Write.before_of_number_lt (ascends.inside _ member).1 increases
      simpa [Write.Before, Write.moved] using before

/-- A block of a matrix whose cells can be counted is always filled. -/
theorem blockWrites_ok (counts : rule.blueprint.grid.Counts down across)
    (has : BlockGrid.Has down across block)
    (small : rule.blueprint.grid.rows * rule.blueprint.grid.cols < Size.limit)
    (seed : UInt64) (budget : Nat) :
    ∃ writes, rule.blockWrites block seed budget = .ok writes := by
  have height_le : (rule.blueprint.grid.rowSpan block).length ≤ rule.blueprint.grid.rows := by
    rw [BlockGrid.rowSpan, length_blockSpan]
    omega
  have width_le : (rule.blueprint.grid.colSpan block).length ≤ rule.blueprint.grid.cols := by
    rw [BlockGrid.colSpan, length_blockSpan]
    omega
  have cells_le := Nat.mul_le_mul height_le width_le
  rw [blockWrites_ok_iff counts has]
  intro _
  exact rule.localWrites_ok (counts.height_pos has) (counts.width_pos has) (by omega) seed budget

end FillRule

end SeededMatrix
