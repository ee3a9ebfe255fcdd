import SeededMatrix.Fill.Window
import SeededMatrix.Proofs.Fill.Drawing

/-!
# The filling of blocks as sequences of writes

The loops that fill a block count what they place, walk the rows and the columns, and hand on the
streams that they draw from. Their writes are those of loops without a counter that visit the cells
in a row, and the counters count exactly these writes. Since a block sets both streams to its seed
before it draws, or draws nothing at all, it does not matter where the blocks before it have left
them: blocks that are filled one after the other yield the writes of each of them.
-/

namespace SeededMatrix

open SeededMatrix.Random

/-! ## Passes -/

namespace BlockPass

/-- The writes that are drawn. -/
def writes : BlockPass → Writes
  | ended _ _ => .done
  | failed fault => .failed (.fault fault)
  | next write rest => .next write fun _ => (rest ()).writes

/-- The number of placed values that is reported in the end. -/
def placed : BlockPass → Except Fault Nat
  | ended placed _ => .ok placed
  | failed fault => .error fault
  | next _ rest => (rest ()).placed

/-- Whether a filling draws some writes and reports a number. -/
structure Yields (pass : BlockPass) (writes : Writes) (placed : Nat) : Prop where
  writes_eq : pass.writes = writes
  placed_eq : pass.placed = .ok placed

theorem Yields.next {write : Write} {rest : Unit → BlockPass} {writes : Writes} {placed : Nat}
    (yields : (rest ()).Yields writes placed) :
    (BlockPass.next write rest).Yields (.next write fun _ => writes) placed :=
  ⟨congrArg (Writes.next write) (funext fun _ => yields.writes_eq), yields.placed_eq⟩

theorem writes_map (change : Write → Except Fault Write) (pass : BlockPass) :
    (pass.map change).writes = pass.writes.map change := by
  induction pass with
  | ended placed streams => rfl
  | failed fault => rfl
  | next write rest induction =>
      simp only [map, writes, Writes.map]
      cases change write with
      | ok changed => exact congrArg (Writes.next changed) (funext fun _ => induction ())
      | error fault => rfl

theorem placed_map {change : Write → Except Fault Write} {changed : Write → Write}
    {pass : BlockPass}
    (changes : ∀ write ∈ pass.writes.toList, change write = .ok (changed write)) :
    (pass.map change).placed = pass.placed := by
  induction pass with
  | ended placed streams => rfl
  | failed fault => rfl
  | next write rest induction =>
      rw [writes, Writes.toList_next, List.forall_mem_cons] at changes
      rw [map, changes.1]
      exact induction () changes.2

theorem andThen_const (pass : BlockPass) (others : Writes) :
    pass.andThen (fun _ => others) = pass.writes.andThen fun _ => others := by
  induction pass with
  | ended placed streams => rfl
  | failed fault => rfl
  | next write rest induction => exact congrArg (Writes.next write) (funext fun _ => induction ())

end BlockPass

namespace FillRule

variable (rule : FillRule) {width size row rest : Nat}

/-! ## Loops without a counter -/

/-- The write of a scarce block. -/
def singleWrite (rule : FillRule) (width size : Nat) (occupancy values : Xoshiro) : Write :=
  let (u, _) := drawUnit occupancy
  let cell := min (Size.ofFloat (u * Size.toFloat size)) (size - 1)
  let (value, _) := rule.drawValue values
  writeAt width cell value

/-- Writes from one chosen cell to the next until the block or the budget ends. -/
def geometricWrites (rule : FillRule) (width size : Nat) (small : size < Size.limit)
    (logMiss : Float) (landed budget : Nat) (occupancy values : Xoshiro) : Writes :=
  if landed < size then
    match budget with
    | 0 => .done
    | budget + 1 =>
        let (u, occupancy) := drawUnit occupancy
        let next := Size.saturatingAdd (Size.saturatingAdd landed (gap logMiss u)) 1
        if next ≤ size then
          let (value, values) := rule.drawValue values
          .next (writeAt width (next - 1) value) fun _ =>
            geometricWrites rule width size small logMiss next budget occupancy values
        else .done
  else .done
termination_by size - landed
decreasing_by
  simp only [Size.saturatingAdd, Size.limit] at *
  omega

/-- Writes every one of `remaining` cells from number `cell` on. -/
def everyCellWrites (rule : FillRule) (width : Nat) :
    (remaining cell : Nat) → (values : Xoshiro) → Writes
  | 0, _, _ => .done
  | remaining + 1, cell, values =>
      let (value, values) := rule.drawValue values
      .next (writeAt width cell value) fun _ =>
        everyCellWrites rule width remaining (cell + 1) values

/-- Writes those of `remaining` cells from number `cell` on whose draw does not exceed the density,
until the budget ends. -/
def coinWrites (rule : FillRule) (width : Nat) (density : Float) :
    (remaining cell budget : Nat) → (occupancy values : Xoshiro) → Writes
  | 0, _, _, _, _ => .done
  | _ + 1, _, 0, _, _ => .done
  | remaining + 1, cell, budget + 1, occupancy, values =>
      let (u, occupancy) := drawUnit occupancy
      if u ≤ density then
        let (value, values) := rule.drawValue values
        .next (writeAt width cell value) fun _ =>
          coinWrites rule width density remaining (cell + 1) budget occupancy values
      else
        coinWrites rule width density remaining (cell + 1) (budget + 1) occupancy values

/-! ## The loops that count -/

theorem writeAt_eq {col : Nat} (col_lt : col < width) (value : Float) :
    writeAt width (row * width + col) value = ⟨row, col, value⟩ := by
  have quotient : (row * width + col) / width = row := by
    rw [Nat.mul_comm, Nat.mul_add_div (by omega), Nat.div_eq_of_lt col_lt, Nat.add_zero]
  have remainder : (row * width + col) % width = col := by
    rw [Nat.mul_comm, Nat.mul_add_mod, Nat.mod_eq_of_lt col_lt]
  rw [writeAt, quotient, remainder]

/-- Behind the last cell of a row begins the next row. -/
theorem next_row {col : Nat} (row_end : col + 0 = width) :
    row * width + col = (row + 1) * width := by
  rw [Nat.add_one_mul, ← row_end, Nat.add_zero]

theorem fillByGaps_yields (width : Nat) (small : size < Size.limit) (logMiss : Float)
    (budget landed placed : Nat) (occupancy values : Xoshiro) :
    (rule.fillByGaps width size small logMiss budget landed placed occupancy values).Yields
      (rule.geometricWrites width size small logMiss landed (budget - placed) occupancy values)
      (placed + (rule.geometricWrites width size small logMiss landed (budget - placed) occupancy
        values).toList.length) := by
  generalize remaining_eq : budget - placed = remaining
  induction remaining generalizing landed placed occupancy values with
  | zero =>
      -- The budget is spent, wherever the loop has landed.
      have spent : ¬(landed < size ∧ placed < budget) := by omega
      rw [fillByGaps, if_neg spent, geometricWrites]
      split <;> exact ⟨rfl, rfl⟩
  | succ remaining induction =>
      rw [fillByGaps, geometricWrites]
      by_cases inside : landed < size
      · rw [if_pos ⟨inside, by omega⟩, if_pos inside]
        simp only
        split
        · rw [Writes.toList_next, List.length_cons, ← Nat.add_assoc, Nat.add_right_comm]
          exact (induction _ _ _ _ (by omega)).next
        · exact ⟨rfl, rfl⟩
      · rw [if_neg fun both => inside both.1, if_neg inside]
        exact ⟨rfl, rfl⟩

theorem fillRow_yields {behind : (values : Xoshiro) → BlockPass} {reported : Nat}
    (later : ∀ values, (behind values).Yields
      (rule.everyCellWrites width rest ((row + 1) * width) values) reported)
    (left col : Nat) (row_end : col + left = width) (values : Xoshiro) :
    (rule.fillRow row behind left col values).Yields
      (rule.everyCellWrites width (left + rest) (row * width + col) values) reported := by
  induction left generalizing col values with
  | zero =>
      rw [fillRow, Nat.zero_add, next_row row_end]
      exact later values
  | succ left induction =>
      rw [Nat.add_right_comm, fillRow, everyCellWrites]
      simp only [writeAt_eq (show col < width by omega)]
      exact (induction (col + 1) (by omega) _).next

/-- Row after row, every cell is filled, and the given number is reported. -/
theorem fillEveryCell_yields (width size : Nat) (occupancy : Xoshiro) (left row : Nat)
    (values : Xoshiro) :
    (rule.fillEveryCell width size occupancy left row values).Yields
      (rule.everyCellWrites width (left * width) (row * width) values) size := by
  induction left generalizing row values with
  | zero =>
      rw [Nat.zero_mul]
      exact ⟨rfl, rfl⟩
  | succ left induction =>
      rw [Nat.add_one_mul, Nat.add_comm (left * width)]
      exact rule.fillRow_yields (induction (row + 1)) width 0 (Nat.zero_add width) values

/-- What a loop of coins yields that has placed some values already. -/
def CoinYields (rule : FillRule) (width : Nat) (density : Float) (budget remaining cell : Nat)
    (pass : (placed : Nat) → (occupancy values : Xoshiro) → BlockPass) : Prop :=
  ∀ placed occupancy values, (pass placed occupancy values).Yields
    (rule.coinWrites width density remaining cell (budget - placed) occupancy values)
    (placed + (rule.coinWrites width density remaining cell (budget - placed) occupancy
      values).toList.length)

theorem fillRowByCoins_yields {density : Float} {budget : Nat}
    {behind : (placed : Nat) → (occupancy values : Xoshiro) → BlockPass}
    (later : rule.CoinYields width density budget rest ((row + 1) * width) behind) (left col : Nat)
    (row_end : col + left = width) :
    rule.CoinYields width density budget (left + rest) (row * width + col)
      (rule.fillRowByCoins density budget row behind left col) := by
  induction left generalizing col with
  | zero =>
      rw [Nat.zero_add, next_row row_end]
      exact later
  | succ left induction =>
      intro placed occupancy values
      have cells_after := induction (col + 1) (by omega)
      rw [Nat.add_right_comm, fillRowByCoins]
      by_cases spent : budget ≤ placed
      · rw [if_pos spent, Nat.sub_eq_zero_of_le spent]
        exact ⟨rfl, rfl⟩
      · obtain ⟨remaining, remaining_eq⟩ : ∃ remaining, budget - placed = remaining + 1 :=
          ⟨budget - placed - 1, by omega⟩
        have one_less : budget - (placed + 1) = remaining := by omega
        rw [if_neg spent, remaining_eq, coinWrites]
        simp only [writeAt_eq (show col < width by omega)]
        split
        · have later := cells_after (placed + 1) (drawUnit occupancy).2 (rule.drawValue values).2
          rw [one_less] at later
          rw [Writes.toList_next, List.length_cons, ← Nat.add_assoc, Nat.add_right_comm placed]
          exact later.next
        · have later := cells_after placed (drawUnit occupancy).2 values
          rwa [remaining_eq] at later

/-- Row after row, coins are drawn for the cells, also when the budget breaks out of both loops. -/
theorem fillByCoins_yields (width : Nat) (density : Float) (budget left row : Nat) :
    rule.CoinYields width density budget (left * width) (row * width)
      (rule.fillByCoins width density budget left row) := by
  induction left generalizing row with
  | zero =>
      intro placed occupancy values
      rw [Nat.zero_mul]
      exact ⟨rfl, rfl⟩
  | succ left induction =>
      rw [Nat.add_one_mul, Nat.add_comm (left * width)]
      exact rule.fillRowByCoins_yields (induction (row + 1)) width 0 (Nat.zero_add width)

theorem length_everyCellWrites (remaining cell : Nat) (values : Xoshiro) :
    (rule.everyCellWrites width remaining cell values).toList.length = remaining := by
  induction remaining generalizing cell values with
  | zero => rfl
  | succ remaining induction =>
      rw [everyCellWrites, Writes.toList_next, List.length_cons, induction]

/-! ## One block -/

/-- The writes of a block with at least one cell to write, by row and column within the block. -/
def localWrites (rule : FillRule) (height width : Nat) (seed : UInt64) (budget : Nat) :
    Except Fault Writes :=
  (rule.fillCells height width budget (Streams.initial.reseed seed)).map BlockPass.writes

/-- A block of a scarce matrix gets one value; any other is filled by the pattern of its shape and
budget, by a loop without a counter. -/
theorem localWrites_eq (height width : Nat) (seed : UInt64) (budget : Nat) :
    rule.localWrites height width seed budget =
      if rule.scarce then do
        let size ← Size.mul height width
        let _ ← Size.sub size 1
        return .ofList [rule.singleWrite width size (occupancyStream seed) (valueStream seed)]
      else
        match FillPattern.select height width budget rule.blueprint.density with
        | .geometricGaps =>
            if small : height * width < Size.limit then
              .ok (rule.geometricWrites width (height * width) small
                (1.0 - rule.blueprint.density).log 0 budget (occupancyStream seed)
                (valueStream seed))
            else .error .overflow
        | .everyCell =>
            if height * width < Size.limit then
              .ok (rule.everyCellWrites width (height * width) 0 (valueStream seed))
            else .error .overflow
        | .coinPerCell =>
            .ok (rule.coinWrites width rule.blueprint.density (height * width) 0 budget
              (occupancyStream seed) (valueStream seed)) := by
  rw [localWrites, fillCells]
  dsimp only [Streams.reseed]
  split
  · cases Size.mul height width with
    | error fault => rfl
    | ok size =>
        rw [ok_bind, ok_bind]
        cases Size.sub size 1 with
        | error fault => rfl
        | ok last => rfl
  · cases FillPattern.select height width budget rule.blueprint.density with
    | geometricGaps =>
        dsimp only
        split
        next small =>
          exact congrArg Except.ok (rule.fillByGaps_yields width small _ _ 0 0 _ _).writes_eq
        next => rfl
    | everyCell =>
        have filled := (rule.fillEveryCell_yields width (height * width) (occupancyStream seed)
          height 0 (valueStream seed)).writes_eq
        rw [Nat.zero_mul] at filled
        dsimp only
        split
        · exact congrArg Except.ok filled
        · rfl
    | coinPerCell =>
        have filled := (rule.fillByCoins_yields width rule.blueprint.density budget height 0 0
          (occupancyStream seed) (valueStream seed)).writes_eq
        rw [Nat.zero_mul] at filled
        exact congrArg Except.ok filled

/-- As many values are reported as cells are written, whether the loop counts them or not. -/
theorem placed_fillCells {height width budget : Nat} {streams : Streams} {pass : BlockPass}
    (filled : rule.fillCells height width budget streams = .ok pass) :
    pass.placed = .ok pass.writes.toList.length := by
  obtain ⟨values, occupancy⟩ := streams
  rw [fillCells] at filled
  split at filled
  · obtain ⟨size, -, filled⟩ := bind_eq_ok.mp filled
    obtain ⟨_, -, filled⟩ := bind_eq_ok.mp filled
    obtain rfl := Except.ok.inj filled
    rfl
  · split at filled
    · split at filled
      next small =>
        obtain rfl := Except.ok.inj filled
        have yields := rule.fillByGaps_yields width small (1.0 - rule.blueprint.density).log budget
          0 0 occupancy values
        rw [yields.placed_eq, yields.writes_eq, Nat.zero_add]
      next => contradiction
    · split at filled
      · obtain rfl := Except.ok.inj filled
        have yields := rule.fillEveryCell_yields width (height * width) occupancy height 0 values
        rw [yields.placed_eq, yields.writes_eq, length_everyCellWrites]
      · contradiction
    · obtain rfl := Except.ok.inj filled
      have yields := rule.fillByCoins_yields width rule.blueprint.density budget height 0 0
        occupancy values
      rw [yields.placed_eq, yields.writes_eq, Nat.zero_add]

/-- The writes of a block, by row and column of the matrix. -/
def blockWrites (rule : FillRule) (block : BlockIndex) (seed : UInt64) (budget : Nat) :
    Except Fault Writes :=
  (rule.fillBlock block seed budget .initial).map BlockPass.writes

/-- A block with a budget and a density gets its own writes, moved to where it begins. -/
theorem blockWrites_eq_localWrites (block : BlockIndex) (seed : UInt64) (budget : Nat) :
    rule.blockWrites block seed budget = (do
      if budget = 0 || rule.blueprint.density ≤ 0.0 then return .done
      else
        let height ← rule.blueprint.grid.heightAt block.row
        let width ← rule.blueprint.grid.widthAt block.col
        let firstRow ← Size.mul block.row rule.blueprint.grid.blockHeight
        let firstCol ← Size.mul block.col rule.blueprint.grid.blockWidth
        let writes ← rule.localWrites height width seed budget
        return writes.map (shift firstRow firstCol)) := by
  have own_eq (height width : Nat) : rule.localWrites height width seed budget =
      BlockPass.writes <$> rule.fillCells height width budget (Streams.initial.reseed seed) := rfl
  change BlockPass.writes <$> rule.fillBlock block seed budget .initial = _
  rw [fillBlock]
  split
  · rfl
  · simp only [own_eq, map_bind, map_pure, bind_map_left, BlockPass.writes_map]

/-- A block finds the streams anywhere, and gets its own writes nevertheless. -/
theorem writes_fillBlock (block : BlockIndex) (seed : UInt64) (budget : Nat) (streams : Streams) :
    (rule.fillBlock block seed budget streams).map BlockPass.writes =
      rule.blockWrites block seed budget := by
  rw [blockWrites, fillBlock, fillBlock]
  split <;> rfl

/-! ## Blocks in a row -/

/-- The writes of the next block to be visited, as number `visit`. -/
def visitWrites (rule : FillRule) (across : Nat) (budgets : Array Nat) (seeds : WindowSeeds)
    (block : BlockIndex) (visit : Nat) : Except Failure Writes :=
  (rule.fillVisited across budgets seeds block visit .initial).map BlockPass.writes

/-- The writes of the blocks to come, each of them for itself. -/
def writesFrom (rule : FillRule) (across : Nat) (budgets : Array Nat) (seeds : WindowSeeds) :
    List BlockIndex → (visit : Nat) → Writes
  | [], _ => .done
  | block :: blocks, visit =>
      (Writes.ofExcept (rule.visitWrites across budgets seeds block visit)).andThen fun _ =>
        writesFrom rule across budgets seeds blocks (visit + 1)

variable {across : Nat} {budgets : Array Nat} {seeds : WindowSeeds}

theorem writes_fillVisited (block : BlockIndex) (visit : Nat) (streams : Streams) :
    (rule.fillVisited across budgets seeds block visit streams).map BlockPass.writes = (do
      let seed ← seeds.get visit block
      let budget ← budgetOf budgets across block
      rule.blockWrites block seed budget) := by
  change BlockPass.writes <$> rule.fillVisited across budgets seeds block visit streams = _
  simp only [fillVisited, map_bind, ← rule.writes_fillBlock _ _ _ streams]
  refine bind_congr fun seed => bind_congr fun budget => ?_
  cases rule.fillBlock block seed budget streams <;> rfl

theorem visitWrites_eq (block : BlockIndex) (visit : Nat) :
    rule.visitWrites across budgets seeds block visit = (do
      let seed ← seeds.get visit block
      let budget ← budgetOf budgets across block
      rule.blockWrites block seed budget) :=
  rule.writes_fillVisited block visit .initial

/-- Blocks that are filled one after the other, from streams that begin anywhere and are handed on,
yield the writes of each of them, or the same failure. -/
theorem fillBlocks_eq (blocks : List BlockIndex) (visit : Nat) (streams : Streams) :
    rule.fillBlocks across budgets seeds blocks visit streams =
      rule.writesFrom across budgets seeds blocks visit := by
  induction blocks generalizing visit streams with
  | nil => rfl
  | cons block blocks induction =>
      have later : rule.fillBlocks across budgets seeds blocks (visit + 1) =
          fun _ => rule.writesFrom across budgets seeds blocks (visit + 1) :=
        funext (induction (visit + 1))
      rw [fillBlocks, writesFrom, visitWrites_eq, ← rule.writes_fillVisited block visit streams,
        later]
      cases rule.fillVisited across budgets seeds block visit streams with
      | error failure => rfl
      | ok pass => exact pass.andThen_const _

theorem windowWrites_eq_writesFrom (window : BlockWindow) :
    rule.windowWrites window budgets seeds = (do
      let across ← rule.blueprint.grid.blocksAcross
      return rule.writesFrom across budgets seeds window.blocks 0) := by
  simp only [windowWrites, fillBlocks_eq]

end FillRule

end SeededMatrix
