import SeededMatrix.Proofs.Fill.Schedules

/-!
# Outlines of fillings

The outline of a sequence of writes is the cells that it writes, in their order, and how it ends.
Values come from a stream of their own that nothing else is drawn from. So fillings of one grid and
density have the same outline, whatever values they draw and however many words a value takes.
-/

namespace SeededMatrix

open SeededMatrix.Random

/-- The cell of a write. -/
def Write.cell (write : Write) : Nat × Nat :=
  (write.row, write.col)

/-! ## Sequences that differ in their values only -/

namespace Writes

/-- The written cells in their order, and the failure that ends the sequence, if one does. -/
def outline (writes : Writes) : List (Nat × Nat) × Option Failure :=
  (writes.toList.map Write.cell, writes.failure?)

/-- Whether two sequences write the same cells, one after the other, and end in the same way. -/
inductive Alike : Writes → Writes → Prop
  | done : Alike .done .done
  | failed (failure : Failure) : Alike (.failed failure) (.failed failure)
  | next {left right : Write} {rest rest' : Unit → Writes} (cells_eq : left.cell = right.cell)
      (later : Alike (rest ()) (rest' ())) : Alike (.next left rest) (.next right rest')

namespace Alike

variable {left right : Writes}

theorem outline_eq (alike : Alike left right) : left.outline = right.outline := by
  induction alike with
  | done => rfl
  | failed failure => rfl
  | next cells_eq later induction =>
      obtain ⟨lists_eq, failures_eq⟩ := Prod.mk.inj induction
      rw [outline, toList_next, List.map_cons, cells_eq, lists_eq, failure?_next, failures_eq]
      rfl

/-- Sequences stay alike when they are moved, also if a write cannot be moved. -/
theorem map_shift (alike : Alike left right) (firstRow firstCol : Nat) :
    Alike (left.map (FillRule.shift firstRow firstCol))
      (right.map (FillRule.shift firstRow firstCol)) := by
  induction alike with
  | done => exact .done
  | failed failure => exact .failed failure
  | next cells_eq later induction =>
      obtain ⟨rows_eq, cols_eq⟩ := Prod.mk.inj cells_eq
      rw [map, map, FillRule.shift, FillRule.shift, rows_eq, cols_eq]
      cases Size.add firstRow _ with
      | error fault => exact .failed _
      | ok row =>
          cases Size.add firstCol _ with
          | error fault => exact .failed _
          | ok col => exact .next rfl induction

theorem andThen (alike : Alike left right) {others others' : Unit → Writes}
    (others_alike : Alike (others ()) (others' ())) :
    Alike (left.andThen others) (right.andThen others') := by
  induction alike with
  | done => exact others_alike
  | failed failure => exact .failed failure
  | next cells_eq later induction => exact .next cells_eq induction

end Alike

/-- Whether two computations fail in the same way, or find sequences that are alike. -/
inductive AlikeOutcomes {ε : Type} : Except ε Writes → Except ε Writes → Prop
  | ok {left right : Writes} (alike : Alike left right) : AlikeOutcomes (.ok left) (.ok right)
  | error (failure : ε) : AlikeOutcomes (.error failure) (.error failure)

namespace AlikeOutcomes

theorem bind {ε α : Type} (first : Except ε α) {next next' : α → Except ε Writes}
    (alike : ∀ value, first = .ok value → AlikeOutcomes (next value) (next' value)) :
    AlikeOutcomes (first >>= next) (first >>= next') := by
  cases first with
  | ok value => exact alike value rfl
  | error failure => exact .error failure

/-- Outcomes stay alike when what is found is moved. -/
theorem map_shift {left right : Except Fault Writes} (alike : AlikeOutcomes left right)
    (firstRow firstCol : Nat) :
    AlikeOutcomes (left >>= fun writes => pure (writes.map (FillRule.shift firstRow firstCol)))
      (right >>= fun writes => pure (writes.map (FillRule.shift firstRow firstCol))) := by
  cases alike with
  | ok alike => exact .ok (alike.map_shift firstRow firstCol)
  | error fault => exact .error fault

theorem lift {left right : Except Fault Writes} (alike : AlikeOutcomes left right) :
    AlikeOutcomes (liftM left : Except Failure Writes) (liftM right) := by
  cases alike with
  | ok alike => exact .ok alike
  | error fault => exact .error _

theorem ofExcept {left right : Except Failure Writes} (alike : AlikeOutcomes left right) :
    Alike (ofExcept left) (ofExcept right) := by
  cases alike with
  | ok alike => exact alike
  | error failure => exact .failed failure

theorem outline_eq {ε : Type} {left right : Except ε Writes} (alike : AlikeOutcomes left right) :
    left.map outline = right.map outline := by
  cases alike with
  | ok alike => exact congrArg Except.ok alike.outline_eq
  | error failure => rfl

end AlikeOutcomes

end Writes

/-! ## The patterns of a block -/

namespace FillRule

variable (rule other : FillRule) (width : Nat)

/-- The value of a write has no part in its cell. -/
theorem cell_writeAt (cell : Nat) (value value' : Float) :
    (writeAt width cell value).cell = (writeAt width cell value').cell := rfl

theorem cell_singleWrite (size : Nat) (occupancy values values' : Xoshiro) :
    (rule.singleWrite width size occupancy values).cell =
      (other.singleWrite width size occupancy values').cell := by
  rw [singleWrite, singleWrite]
  exact cell_writeAt width _ _ _

/-- Gaps are drawn from the stream of occupancy alone, so they lead to the same cells whatever the
streams of values yield and wherever they stand. -/
theorem geometricWrites_alike {size : Nat} (small : size < Size.limit) (logMiss : Float)
    (landed budget : Nat) (occupancy values values' : Xoshiro) :
    (rule.geometricWrites width size small logMiss landed budget occupancy values).Alike
      (other.geometricWrites width size small logMiss landed budget occupancy values') := by
  induction budget generalizing landed occupancy values values' with
  | zero =>
      rw [geometricWrites, geometricWrites]
      split <;> exact .done
  | succ budget induction =>
      rw [geometricWrites, geometricWrites]
      split
      · simp only
        split
        · exact .next (cell_writeAt width _ _ _) (induction _ _ _ _)
        · exact .done
      · exact .done

theorem everyCellWrites_alike (remaining cell : Nat) (values values' : Xoshiro) :
    (rule.everyCellWrites width remaining cell values).Alike
      (other.everyCellWrites width remaining cell values') := by
  induction remaining generalizing cell values values' with
  | zero => exact .done
  | succ remaining induction =>
      rw [everyCellWrites, everyCellWrites]
      exact .next (cell_writeAt width _ _ _) (induction _ _ _)

theorem coinWrites_alike (density : Float) (remaining cell budget : Nat)
    (occupancy values values' : Xoshiro) :
    (rule.coinWrites width density remaining cell budget occupancy values).Alike
      (other.coinWrites width density remaining cell budget occupancy values') := by
  induction remaining generalizing cell budget occupancy values values' with
  | zero => exact .done
  | succ remaining induction =>
      cases budget with
      | zero => exact .done
      | succ budget =>
          rw [coinWrites, coinWrites]
          simp only
          split
          · exact .next (cell_writeAt width _ _ _) (induction _ _ _ _ _)
          · exact induction _ _ _ _ _

variable {rule other}

/-- Whether two rules choose the cells of a block by the same grid, density and regime. Nothing is
asked of their values. -/
structure ChoosesAlike (rule other : FillRule) : Prop where
  grid_eq : rule.blueprint.grid = other.blueprint.grid
  density_eq : rule.blueprint.density = other.blueprint.density
  scarce_eq : rule.scarce = other.scarce

theorem localWrites_alike (same : rule.ChoosesAlike other) (height : Nat) (seed : UInt64)
    (budget : Nat) :
    Writes.AlikeOutcomes (rule.localWrites height width seed budget)
      (other.localWrites height width seed budget) := by
  rw [localWrites_eq, localWrites_eq, same.density_eq, same.scarce_eq]
  split
  · apply Writes.AlikeOutcomes.bind
    intro size _
    apply Writes.AlikeOutcomes.bind
    intro last _
    exact .ok (.next (cell_singleWrite rule other width size _ _ _) .done)
  · split
    · split
      next small => exact .ok (rule.geometricWrites_alike other width small _ _ _ _ _ _)
      next => exact .error _
    · split
      · exact .ok (rule.everyCellWrites_alike other width _ _ _ _)
      · exact .error _
    · exact .ok (rule.coinWrites_alike other width _ _ _ _ _ _ _)

/-! ## Blocks, windows and blueprints -/

theorem blockWrites_alike (same : rule.ChoosesAlike other) (block : BlockIndex) (seed : UInt64)
    (budget : Nat) :
    Writes.AlikeOutcomes (rule.blockWrites block seed budget)
      (other.blockWrites block seed budget) := by
  rw [blockWrites_eq_localWrites, blockWrites_eq_localWrites, same.grid_eq, same.density_eq]
  split
  · exact .ok .done
  · apply Writes.AlikeOutcomes.bind
    intro height _
    apply Writes.AlikeOutcomes.bind
    intro width _
    apply Writes.AlikeOutcomes.bind
    intro firstRow _
    apply Writes.AlikeOutcomes.bind
    intro firstCol _
    exact (localWrites_alike width same height seed budget).map_shift firstRow firstCol

theorem visitWrites_alike (same : rule.ChoosesAlike other) (across : Nat) (budgets : Array Nat)
    (seeds : WindowSeeds) (block : BlockIndex) (visit : Nat) :
    Writes.AlikeOutcomes (rule.visitWrites across budgets seeds block visit)
      (other.visitWrites across budgets seeds block visit) := by
  rw [visitWrites_eq, visitWrites_eq]
  apply Writes.AlikeOutcomes.bind
  intro seed _
  apply Writes.AlikeOutcomes.bind
  intro budget _
  exact (blockWrites_alike same block seed budget).lift

theorem writesFrom_alike (same : rule.ChoosesAlike other) (across : Nat) (budgets : Array Nat)
    (seeds : WindowSeeds) (blocks : List BlockIndex) (visit : Nat) :
    (rule.writesFrom across budgets seeds blocks visit).Alike
      (other.writesFrom across budgets seeds blocks visit) := by
  induction blocks generalizing visit with
  | nil => exact .done
  | cons block blocks induction =>
      have here := (visitWrites_alike same across budgets seeds block visit).ofExcept
      exact here.andThen (induction (visit + 1))

theorem windowWrites_alike (same : rule.ChoosesAlike other) (window : BlockWindow)
    (budgets : Array Nat) (seeds : WindowSeeds) :
    Writes.AlikeOutcomes (rule.windowWrites window budgets seeds)
      (other.windowWrites window budgets seeds) := by
  rw [windowWrites_eq_writesFrom, windowWrites_eq_writesFrom, same.grid_eq]
  apply Writes.AlikeOutcomes.bind
  intro across _
  exact .ok (writesFrom_alike same across budgets seeds window.blocks 0)

end FillRule

namespace Blueprint

variable {blueprint other : Blueprint}

/-- Rules are made alike of blueprints with one grid and one density. -/
theorem ofBlueprint_alike (grid_eq : blueprint.grid = other.grid)
    (density_eq : blueprint.density = other.density) {next : FillRule → Except Failure Writes}
    (alike : ∀ rule rule' : FillRule, rule.ChoosesAlike rule' →
      Writes.AlikeOutcomes (next rule) (next rule')) :
    Writes.AlikeOutcomes (FillRule.ofBlueprint blueprint >>= next)
      (FillRule.ofBlueprint other >>= next) := by
  obtain ⟨sampler, sampled⟩ := blueprint.sampler_ok
  obtain ⟨sampler', sampled'⟩ := other.sampler_ok
  rw [FillRule.ofBlueprint, FillRule.ofBlueprint, sampled, sampled', isScarce, isScarce, grid_eq,
    density_eq]
  cases other.grid.blockCount with
  | error fault => exact .error _
  | ok blocks => exact alike _ _ ⟨grid_eq, density_eq, rfl⟩

/-- The writes of a window of a blueprint. -/
def windowWrites (blueprint : Blueprint) (window : BlockWindow) (budgets : Array Nat)
    (seeds : WindowSeeds) : Except Failure Writes := do
  let rule ← FillRule.ofBlueprint blueprint
  rule.windowWrites window budgets seeds

/-- Two blueprints of one grid and density write the same cells in the same order, whatever their
distributions, their ranges and their means are: for every window of blocks, every table of budgets
and all seeds. If the drawing fails, it fails for both behind the same cells. -/
theorem cells_independent_of_values (grid_eq : blueprint.grid = other.grid)
    (density_eq : blueprint.density = other.density) (window : BlockWindow) (budgets : Array Nat)
    (seeds : WindowSeeds) :
    (blueprint.windowWrites window budgets seeds).map Writes.outline =
      (other.windowWrites window budgets seeds).map Writes.outline := by
  apply Writes.AlikeOutcomes.outline_eq
  apply ofBlueprint_alike grid_eq density_eq
  intro rule rule' same
  exact FillRule.windowWrites_alike same window budgets seeds

/-- Two square blocks, one above the other, with uniform values in half of the cells. -/
def halfUniform : Blueprint :=
  { Plan.twoBlocks.blueprint with
    density := 0.5
    density_nonneg := by decide +kernel
    density_le_one := by decide +kernel }

/-- The same blocks with normal values. -/
def halfNormal : Blueprint :=
  { halfUniform with
    distribution := .normal
    least := -3.0
    mean_usable := nofun }

/-- Uniform and normal values are written to the same three cells. -/
theorem uniform_and_normal_share_cells :
    (halfUniform.windowWrites ⟨.upTo 2, .upTo 1⟩ #[2, 3] (.table #[5, 6])).map Writes.outline =
        (halfNormal.windowWrites ⟨.upTo 2, .upTo 1⟩ #[2, 3] (.table #[5, 6])).map Writes.outline ∧
      ((halfNormal.windowWrites ⟨.upTo 2, .upTo 1⟩ #[2, 3] (.table #[5, 6])).map
        Writes.outline).toOption.map Prod.fst = some [(1, 0), (1, 1), (2, 1)] := by
  constructor
  · apply cells_independent_of_values
    · rfl
    · rfl
  · decide +kernel

end Blueprint

end SeededMatrix
