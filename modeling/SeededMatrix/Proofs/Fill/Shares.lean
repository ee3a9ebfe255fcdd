import SeededMatrix.Fill.Share
import SeededMatrix.Proofs.Fill.WindowWrites
import SeededMatrix.Proofs.Output.Regions
import SeededMatrix.Proofs.Sizes

/-!
# Shares of the blocks

The blocks along an axis are cut into spans that tile it, and so are the cells. Each span makes a
share: a window of its blocks, the region of exactly their cells, and their seeds in the order of
the visit. A share writes what its blocks yield, and only within its region.
-/

namespace SeededMatrix

namespace Share

theorem cellSpan_eq {extent side : Nat} (side_pos : 0 < side) (fits : extent + side < Size.limit)
    {blocks : Span} (forward : blocks.start < blocks.stop)
    (stop_le : blocks.stop ≤ blocksAlong extent side) :
    cellSpan side extent blocks = .ok (cellsOf side extent blocks) := by
  have last := blocksAlong_mul_lt extent side_pos
  have stop_cells := Nat.mul_le_mul_right side stop_le
  have start_cells := Nat.mul_le_mul_right side forward.le
  rw [cellSpan, Size.mul_eq_ok.mpr ⟨by omega, rfl⟩, ok_bind, Size.mul_eq_ok.mpr ⟨by omega, rfl⟩]
  rfl

theorem mapM_cellSpan {extent side : Nat} (side_pos : 0 < side) (fits : extent + side < Size.limit)
    {spans : List Span}
    (inside : ∀ span ∈ spans, span.start < span.stop ∧ span.stop ≤ blocksAlong extent side) :
    spans.mapM (cellSpan side extent) = .ok (spans.map (cellsOf side extent)) := by
  apply mapM_eq_ok
  intro span member
  obtain ⟨forward, stop_le⟩ := inside span member
  exact cellSpan_eq side_pos fits forward stop_le

/-- Number of blocks along an axis. -/
def blocksOn (axis : Axis) (down across : Nat) : Nat :=
  match axis with
  | .rows => down
  | .cols => across

/-- The cells along an axis of a span of blocks. -/
def cells (grid : BlockGrid) (axis : Axis) (blocks : Span) : Span :=
  match axis with
  | .rows => cellsOf grid.blockHeight grid.rows blocks
  | .cols => cellsOf grid.blockWidth grid.cols blocks

/-- Number of cells of a grid along an axis. -/
def extentOf (grid : BlockGrid) (axis : Axis) : Nat :=
  match axis with
  | .rows => grid.rows
  | .cols => grid.cols

variable {grid : BlockGrid} {down across : Nat} {axis : Axis} {spans : List Span}

theorem cellSpans_eq (counts : grid.Counts down across)
    (tile : Span.Tile 0 spans (blocksOn axis down across)) :
    cellSpans grid axis spans = .ok (spans.map (cells grid axis)) := by
  cases axis with
  | rows =>
      obtain ⟨height_pos, fits, rfl⟩ := counts.down_spec
      exact mapM_cellSpan height_pos fits fun span member => (tile.bounds member).2
  | cols =>
      obtain ⟨width_pos, fits, rfl⟩ := counts.across_spec
      exact mapM_cellSpan width_pos fits fun span member => (tile.bounds member).2

theorem tile_cells (counts : grid.Counts down across)
    (tile : Span.Tile 0 spans (blocksOn axis down across)) :
    Span.Tile 0 (spans.map (cells grid axis)) (extentOf grid axis) := by
  cases axis with
  | rows =>
      obtain ⟨height_pos, -, rfl⟩ := counts.down_spec
      have tile_rows := tile.cells height_pos
      rwa [Nat.zero_mul, Nat.zero_min] at tile_rows
  | cols =>
      obtain ⟨width_pos, -, rfl⟩ := counts.across_spec
      have tile_cols := tile.cells width_pos
      rwa [Nat.zero_mul, Nat.zero_min] at tile_cols

theorem has_of_mem_windowOf {blocks : Span} (stop_le : blocks.stop ≤ blocksOn axis down across)
    {block : BlockIndex} (member : block ∈ (windowOf axis down across blocks).blocks) :
    BlockGrid.Has down across block := by
  rw [BlockWindow.mem_blocks] at member
  cases axis with
  | rows =>
      simp only [windowOf, blocksOn, Span.mem_indices, Span.upTo] at member stop_le
      exact ⟨by omega, by omega⟩
  | cols =>
      simp only [windowOf, blocksOn, Span.mem_indices, Span.upTo] at member stop_le
      exact ⟨by omega, by omega⟩

/-! ## What a share is -/

/-- Whether a share is the one of a span of blocks: it has the window of these blocks, the region of
their cells and their seeds. -/
structure Serves (matrix : OutputMatrix) (grid : BlockGrid) (axis : Axis) (down across : Nat)
    (seeds : Array UInt64) (blocks : Span) (share : Share) : Prop where
  window_eq : share.window = windowOf axis down across blocks
  region_eq : share.region =
    matrix.regionAt axis (cells grid axis blocks) (cells grid axis blocks).start
  seeds_eq : share.seeds.toList.map some =
    share.window.blocks.map fun block => seeds[block.number across]?

variable {matrix : OutputMatrix} {seeds : Array UInt64}

/-- The seeds of a span of blocks are cut out of the table of all seeds. -/
theorem window_seeds (size_eq : seeds.size = down * across)
    (stored : Size.reserve seeds.size 8 = .ok ()) {blocks : Span}
    (forward : blocks.start < blocks.stop) (stop_le : blocks.stop ≤ blocksOn axis down across) :
    ∃ own, SeedTable.window seeds (windowOf axis down across blocks).rows
        (windowOf axis down across blocks).cols across = .ok own ∧
      own.toList.map some = (windowOf axis down across blocks).blocks.map fun block =>
        seeds[block.number across]? := by
  cases axis with
  | rows =>
      exact SeedTable.window_eq le_rfl (size_eq ▸ Nat.mul_le_mul_right across stop_le) forward.le
        (Nat.zero_le _) stored
  | cols => exact SeedTable.window_eq stop_le size_eq.ge (Nat.zero_le _) forward.le stored

/-- Whether a share is joined from a region and a span of blocks: it has the region, the window of
these blocks and their seeds. -/
structure Joins (axis : Axis) (down across : Nat) (seeds : Array UInt64) (part : Region × Span)
    (share : Share) : Prop where
  region_eq : share.region = part.1
  window_eq : share.window = windowOf axis down across part.2
  seeds_eq : share.seeds.toList.map some =
    share.window.blocks.map fun block => seeds[block.number across]?

/-- Regions and spans of blocks are joined to shares, one for each span. -/
theorem assemble_joins (size_eq : seeds.size = down * across)
    (stored : Size.reserve seeds.size 8 = .ok ())
    (inside : ∀ span ∈ spans, span.start < span.stop ∧ span.stop ≤ blocksOn axis down across)
    {regions : List Region} (same_length : regions.length = spans.length) (task : Nat) :
    ∃ shares, assemble axis down across seeds task regions spans = .ok shares ∧
      List.Forall₂ (Joins axis down across seeds) (regions.zip spans) shares := by
  induction spans generalizing regions task with
  | nil =>
      obtain rfl := List.length_eq_zero_iff.mp same_length
      exact ⟨[], rfl, .nil⟩
  | cons blocks spans induction =>
      obtain ⟨region, regions, rfl⟩ := List.exists_cons_of_length_eq_add_one same_length
      obtain ⟨forward, stop_le⟩ := inside blocks (by simp)
      obtain ⟨own, own_ok, own_eq⟩ := window_seeds size_eq stored forward stop_le
      obtain ⟨shares, shares_ok, joins⟩ := induction
        (fun span member => inside span (by simp [member])) (Nat.succ.inj same_length) (task + 1)
      refine ⟨⟨task, windowOf axis down across blocks, region, own⟩ :: shares, ?_,
        .cons ⟨rfl, rfl, own_eq⟩ joins⟩
      rw [assemble, own_ok, ok_bind, shares_ok]
      rfl

/-- The regions of the cells of spans are joined with the spans to their shares. -/
theorem assemble_ok (matrix : OutputMatrix) (grid : BlockGrid)
    (size_eq : seeds.size = down * across)
    (stored : Size.reserve seeds.size 8 = .ok ())
    (inside : ∀ span ∈ spans, span.start < span.stop ∧ span.stop ≤ blocksOn axis down across)
    (task : Nat) :
    ∃ shares, assemble axis down across seeds task
        (spans.map fun blocks =>
          matrix.regionAt axis (cells grid axis blocks) (cells grid axis blocks).start) spans =
        .ok shares ∧
      List.Forall₂ (Serves matrix grid axis down across seeds) spans shares := by
  obtain ⟨shares, shares_ok, joins⟩ := assemble_joins size_eq stored inside
    (List.length_map _) task
  refine ⟨shares, shares_ok, ?_⟩
  have parts := List.zip_map' (g := id) (l := spans) (f := fun blocks =>
    matrix.regionAt axis (cells grid axis blocks) (cells grid axis blocks).start)
  rw [List.map_id] at parts
  rw [parts, List.forall₂_map_left_iff] at joins
  exact joins.imp fun _ _ share_joins =>
    ⟨share_joins.window_eq, share_joins.region_eq, share_joins.seeds_eq⟩

theorem ofSpans_ok (counts : grid.Counts down across) (shaped : matrix.WellShaped)
    (extent_eq : matrix.extent axis = extentOf grid axis)
    (cuttable : matrix.sparse = true → axis = .rows) (size_eq : seeds.size = down * across)
    (stored : Size.reserve seeds.size 8 = .ok ())
    (tile : Span.Tile 0 spans (blocksOn axis down across)) :
    ∃ shares, ofSpans matrix grid axis down across seeds spans = .ok shares ∧
      List.Forall₂ (Serves matrix grid axis down across seeds) spans shares := by
  obtain ⟨shares, shares_ok, serves⟩ := assemble_ok matrix grid size_eq stored
    (fun span member => (tile.bounds member).2) 0
  have tile_cells := tile_cells counts tile
  rw [← extent_eq] at tile_cells
  refine ⟨shares, ?_, serves⟩
  rw [ofSpans, cellSpans_eq counts tile, lift_ok, ok_bind,
    OutputMatrix.regions_tile shaped tile_cells cuttable, ok_bind, List.map_map]
  simp only [Function.comp_def, shares_ok, lift_ok]

variable {shares : List Share}

theorem exists_related {α β : Type} {related : α → β → Prop} {left : List α} {right : List β}
    (pairs : List.Forall₂ related left right) {item : β} (member : item ∈ right) :
    ∃ partner ∈ left, related partner item := by
  induction pairs with
  | nil => simp at member
  | cons first _ induction =>
      rw [List.mem_cons] at member
      rcases member with rfl | later
      · exact ⟨_, by simp, first⟩
      · obtain ⟨partner, partner_mem, pair⟩ := induction later
        exact ⟨partner, by simp [partner_mem], pair⟩

/-- What is told of each member by its partner is told of the whole list. -/
theorem map_related {α β γ : Type} {related : α → β → Prop} {left : List α} {right : List β}
    (pairs : List.Forall₂ related left right) {f : α → γ} {g : β → γ}
    (agree : ∀ {partner item}, related partner item → g item = f partner) :
    right.map g = left.map f := by
  induction pairs with
  | nil => rfl
  | cons first _ induction => rw [List.map_cons, List.map_cons, agree first, induction]

/-- What holds of the spans of earlier and later shares. -/
theorem pairwise_serves {related : Span → Span → Prop}
    (serves : List.Forall₂ (Serves matrix grid axis down across seeds) spans shares)
    (ordered : spans.Pairwise related) :
    shares.Pairwise fun first second => ∃ left ∈ spans, ∃ right ∈ spans,
      Serves matrix grid axis down across seeds left first ∧
        Serves matrix grid axis down across seeds right second ∧ related left right := by
  induction serves with
  | nil => exact .nil
  | @cons blocks share spans shares first later induction =>
      obtain ⟨first_related, ordered'⟩ := List.pairwise_cons.mp ordered
      apply List.Pairwise.cons _ ((induction ordered').imp _)
      · intro second member
        obtain ⟨right, right_mem, second_serves⟩ := exists_related later member
        exact ⟨blocks, by simp, right, by simp [right_mem], first, second_serves,
          first_related right right_mem⟩
      · rintro _ _ ⟨left, left_mem, right, right_mem, both⟩
        exact ⟨left, by simp [left_mem], right, by simp [right_mem], both⟩

theorem flatMap_blocks
    (serves : List.Forall₂ (Serves matrix grid axis down across seeds) spans shares) :
    (shares.flatMap fun share => share.window.blocks) =
      spans.flatMap fun blocks => (windowOf axis down across blocks).blocks := by
  have windows := map_related serves Serves.window_eq
  rw [← List.flatMap_map, windows, List.flatMap_map]

end Share

end SeededMatrix
