import SeededMatrix.Proofs.Fill.Counts
import SeededMatrix.Proofs.Fill.Outlines
import SeededMatrix.Proofs.Random.Draws

/-!
# Patterns as lists of cells

What a pattern writes is told here without its loop. The stream of occupancy alone chooses a list of
cells, which the budget cuts off: those whose own draw does not exceed the density, those where the
running sums of the gaps lead, or all of them. The first of the chosen cells gets the first draw of
the stream of values, and so on. A larger budget that leads to the same pattern therefore only adds
writes behind the others.
-/

namespace SeededMatrix

open SeededMatrix.Random

/-! ## Positive densities -/

open Float.Model in
theorem unpacked_not_le_zero {number : UnpackedFloat}
    (above : (UnpackedFloat.zero .positive).lt number = true) :
    number.le (.zero .positive) = false := by
  cases number with
  | notANumber => rfl
  | zero sign => contradiction
  | infinity sign =>
      cases sign with
      | positive => rfl
      | negative => contradiction
  | finite sign mantissa exponent mantissa_pos =>
      cases sign with
      | positive => rfl
      | negative => contradiction

theorem not_le_zero_of_pos {number : Float} (positive : 0.0 < number) : ¬number ≤ 0.0 := by
  have zero_eq : (0.0 : Float).toModel.unpack = .zero .positive := rfl
  have above : (0.0 : Float).toModel.unpack.lt number.toModel.unpack = true :=
    of_decide_eq_true positive
  intro below
  have below : number.toModel.unpack.le (0.0 : Float).toModel.unpack = true :=
    of_decide_eq_true below
  rw [zero_eq] at above below
  rw [unpacked_not_le_zero above] at below
  contradiction

namespace FillRule

variable (rule : FillRule) {width size : Nat}

/-! ## Values for cells -/

/-- The value of a number: the sample of this number from a stream, rescaled to the range of values.
-/
def nthValue (values : Xoshiro) (place : Nat) : Float :=
  rule.least + rule.range * nthDraw rule.sampler.next values place

/-- The writes of some cells of a block of `width` columns, each with the value of the same number.
-/
def pairWrites (width : Nat) (cells : List Nat) (value : (place : Nat) → Float) : List Write :=
  cells.mapIdx fun place cell => ⟨cell / width, cell % width, value place⟩

@[simp] theorem pairWrites_nil (value : (place : Nat) → Float) :
    pairWrites width [] value = [] := rfl

@[simp] theorem pairWrites_cons (cell : Nat) (cells : List Nat) (values : Xoshiro) :
    pairWrites width (cell :: cells) (rule.nthValue values) =
      writeAt width cell (rule.drawValue values).1 ::
        pairWrites width cells (rule.nthValue (rule.drawValue values).2) := by
  rw [pairWrites, List.mapIdx_cons]
  rfl

theorem pairWrites_mono {cells more : List Nat} (front : cells <+: more)
    (value : (place : Nat) → Float) :
    pairWrites width cells value <+: pairWrites width more value := by
  obtain ⟨rest, rfl⟩ := front
  rw [pairWrites, pairWrites, List.mapIdx_append]
  exact List.prefix_append _ _

/-! ## The cells of each pattern -/

/-- Where the gaps of a stream lead in some steps from the cell where one has landed; cells are
counted from one here. -/
def landing (logMiss : Float) (landed : Nat) (occupancy : Xoshiro) : (steps : Nat) → Nat
  | 0 => landed
  | steps + 1 =>
      let u := nthDraw drawUnit occupancy steps
      let skip := Size.ofFloat (Size.ceil (u.log / logMiss) - 1.0)
      Size.saturatingAdd (Size.saturatingAdd (landing logMiss landed occupancy steps) skip) 1

/-- The cells within the first `size` ones where the gaps lead in up to `steps` steps from the cell
where one has landed, as many as the budget allows. -/
def cellsByGaps (logMiss : Float) (size steps landed budget : Nat) (occupancy : Xoshiro) :
    List Nat :=
  ((((List.range steps).map fun step => landing logMiss landed occupancy (step + 1)).filter
    (· ≤ size)).take budget).map (· - 1)

/-- The cells among `remaining` ones from number `cell` on whose draw does not exceed the density,
as many as the budget allows. -/
def cellsByCoins (density : Float) (remaining cell budget : Nat) (occupancy : Xoshiro) :
    List Nat :=
  (((List.range remaining).filter fun place => nthDraw drawUnit occupancy place ≤ density).take
    budget).map (cell + ·)

/-- The cells that a pattern chooses in a block of `size` cells, where gaps are followed for some
steps. -/
def chosenCells (pattern : FillPattern) (density : Float) (size steps budget : Nat)
    (occupancy : Xoshiro) : List Nat :=
  match pattern with
  | .geometricGaps => cellsByGaps (1.0 - density).log size steps 0 budget occupancy
  | .everyCell => List.range size
  | .coinPerCell => cellsByCoins density size 0 budget occupancy

theorem chosenCells_mono (pattern : FillPattern) (density : Float) (size steps : Nat)
    {budget more : Nat} (budget_le : budget ≤ more) (occupancy : Xoshiro) :
    chosenCells pattern density size steps budget occupancy <+:
      chosenCells pattern density size steps more occupancy := by
  cases pattern with
  | geometricGaps => exact (List.take_prefix_take_left budget_le).map _
  | everyCell => exact List.prefix_rfl
  | coinPerCell => exact (List.take_prefix_take_left budget_le).map _

/-! ## The loops -/

theorem landing_succ (logMiss : Float) (landed : Nat) (occupancy : Xoshiro) (steps : Nat) :
    landing logMiss landed occupancy (steps + 1) =
      landing logMiss
        (Size.saturatingAdd (Size.saturatingAdd landed (gap logMiss (drawUnit occupancy).1)) 1)
        (drawUnit occupancy).2 steps := by
  induction steps with
  | zero => rfl
  | succ steps induction => rw [landing, induction, nthDraw_succ, landing]

/-- From beyond the cells of a block, no step leads back. -/
theorem lt_landing (logMiss : Float) {landed : Nat} (beyond : size ≤ landed)
    (small : size + 1 < Size.limit) (occupancy : Xoshiro) (step : Nat) :
    size < landing logMiss landed occupancy (step + 1) := by
  induction step with
  | zero => exact Size.lt_saturatingAdd_one _ beyond small
  | succ step induction => exact Size.lt_saturatingAdd_one _ induction.le small

theorem cellsByGaps_of_beyond (logMiss : Float) {landed : Nat} (beyond : size ≤ landed)
    (small : size + 1 < Size.limit) (steps budget : Nat) (occupancy : Xoshiro) :
    cellsByGaps logMiss size steps landed budget occupancy = [] := by
  have none_inside : ((List.range steps).map fun step =>
      landing logMiss landed occupancy (step + 1)).filter (· ≤ size) = [] := by
    rw [List.filter_eq_nil_iff, List.forall_mem_map]
    intro step _
    simpa using lt_landing logMiss beyond small occupancy step
  rw [cellsByGaps, none_inside, List.take_nil, List.map_nil]

/-- The first step leads to a cell of the block or beyond all of them. -/
theorem cellsByGaps_succ (logMiss : Float) (small : size + 1 < Size.limit)
    (steps landed budget : Nat) (occupancy : Xoshiro) {next : Nat}
    (next_eq : Size.saturatingAdd
      (Size.saturatingAdd landed (gap logMiss (drawUnit occupancy).1)) 1 = next) :
    cellsByGaps logMiss size (steps + 1) landed (budget + 1) occupancy =
      if next ≤ size then
        (next - 1) :: cellsByGaps logMiss size steps next budget (drawUnit occupancy).2
      else [] := by
  have first : landing logMiss landed occupancy (0 + 1) = next := next_eq
  have later : (fun step => landing logMiss landed occupancy (step + 1)) ∘ Nat.succ =
      fun step => landing logMiss next (drawUnit occupancy).2 (step + 1) := by
    funext step
    rw [← next_eq]
    exact landing_succ logMiss landed occupancy (step + 1)
  rw [cellsByGaps, List.range_succ_eq_map, List.map_cons, List.map_map, later, first]
  split
  next inside =>
    rw [List.filter_cons_of_pos (by simpa using inside), List.take_succ_cons, List.map_cons]
    rfl
  next beyond =>
    rw [List.filter_cons_of_neg (by simpa using beyond)]
    exact cellsByGaps_of_beyond logMiss (Nat.le_of_not_le beyond) small steps (budget + 1) _

theorem geometricWrites_of_beyond (fits : size < Size.limit) (logMiss : Float) {landed : Nat}
    (beyond : size ≤ landed) (budget : Nat) (occupancy values : Xoshiro) :
    rule.geometricWrites width size fits logMiss landed budget occupancy values = .done := by
  cases budget <;> rw [geometricWrites, if_neg (Nat.not_lt.mpr beyond)]

/-- The loop over gaps writes the cells where the gaps lead, if so many steps lead to the end of the
block. -/
theorem toList_geometricWrites (fits : size < Size.limit) (small : size + 1 < Size.limit)
    (logMiss : Float) (steps landed budget : Nat) (enough : size ≤ landed + steps)
    (occupancy values : Xoshiro) :
    (rule.geometricWrites width size fits logMiss landed budget occupancy values).toList =
      pairWrites width (cellsByGaps logMiss size steps landed budget occupancy)
        (rule.nthValue values) := by
  induction steps generalizing landed budget occupancy values with
  | zero =>
      have beyond : size ≤ landed := enough
      rw [rule.geometricWrites_of_beyond fits logMiss beyond,
        cellsByGaps_of_beyond logMiss beyond small]
      rfl
  | succ steps induction =>
      by_cases beyond : size ≤ landed
      · rw [rule.geometricWrites_of_beyond fits logMiss beyond,
          cellsByGaps_of_beyond logMiss beyond small]
        rfl
      · cases budget with
        | zero =>
            rw [geometricWrites, if_pos (Nat.lt_of_not_le beyond)]
            rfl
        | succ budget =>
            have advances := Size.lt_saturatingAdd_one (gap logMiss (drawUnit occupancy).1) le_rfl
              (show landed + 1 < Size.limit by omega)
            rw [geometricWrites, if_pos (Nat.lt_of_not_le beyond),
              cellsByGaps_succ logMiss small steps landed budget occupancy rfl]
            simp only
            split
            · rw [Writes.toList_next, pairWrites_cons, induction _ _ (by omega)]
            · rfl

theorem toList_everyCellWrites (remaining cell : Nat) (values : Xoshiro) :
    (rule.everyCellWrites width remaining cell values).toList =
      pairWrites width (List.range' cell remaining) (rule.nthValue values) := by
  induction remaining generalizing cell values with
  | zero => rfl
  | succ remaining induction =>
      rw [everyCellWrites, Writes.toList_next, List.range'_succ, pairWrites_cons, induction]

theorem cellsByCoins_succ (density : Float) (remaining cell budget : Nat) (occupancy : Xoshiro) :
    cellsByCoins density (remaining + 1) cell (budget + 1) occupancy =
      if (drawUnit occupancy).1 ≤ density then
        cell :: cellsByCoins density remaining (cell + 1) budget (drawUnit occupancy).2
      else cellsByCoins density remaining (cell + 1) (budget + 1) (drawUnit occupancy).2 := by
  have shifted : (cell + ·) ∘ Nat.succ = (cell + 1 + ·) := by
    funext place
    simp only [Function.comp_apply]
    omega
  have later : (fun place => decide (nthDraw drawUnit occupancy place ≤ density)) ∘ Nat.succ =
      fun place => decide (nthDraw drawUnit (drawUnit occupancy).2 place ≤ density) := rfl
  rw [cellsByCoins, List.range_succ_eq_map]
  split
  next chosen =>
    rw [List.filter_cons_of_pos (by exact decide_eq_true chosen), List.take_succ_cons,
      List.map_cons, List.filter_map, later, ← List.map_take, List.map_map, shifted]
    rfl
  next left =>
    rw [List.filter_cons_of_neg (by exact left ∘ of_decide_eq_true), List.filter_map, later,
      ← List.map_take, List.map_map, shifted]
    rfl

theorem toList_coinWrites (density : Float) (remaining cell budget : Nat)
    (occupancy values : Xoshiro) :
    (rule.coinWrites width density remaining cell budget occupancy values).toList =
      pairWrites width (cellsByCoins density remaining cell budget occupancy)
        (rule.nthValue values) := by
  induction remaining generalizing cell budget occupancy values with
  | zero => simp [coinWrites, cellsByCoins]
  | succ remaining induction =>
      cases budget with
      | zero => simp [coinWrites, cellsByCoins]
      | succ budget =>
          rw [coinWrites, cellsByCoins_succ]
          simp only
          split
          · rw [Writes.toList_next, pairWrites_cons, induction]
          · exact induction _ _ _ _

/-! ## One block -/

/-- A block that is not scarce writes the cells that its pattern chooses. Gaps have left it after as
many steps as it has cells. -/
theorem toList_localWrites {rule : FillRule} (plenty : rule.scarce = false) {height width : Nat}
    (small : height * width < Size.limit - 1) {steps : Nat} (enough : height * width ≤ steps)
    {seed : UInt64} {budget : Nat} {writes : Writes}
    (drawn : rule.localWrites height width seed budget = .ok writes) :
    writes.toList =
      pairWrites width
        (chosenCells (.select height width budget rule.blueprint.density) rule.blueprint.density
          (height * width) steps budget (occupancyStream seed))
        (rule.nthValue (valueStream seed)) := by
  have below : height * width + 1 < Size.limit := Nat.add_lt_of_lt_sub small
  rw [localWrites_eq, plenty, if_neg Bool.false_ne_true] at drawn
  split at drawn
  next pattern =>
    rw [dif_pos (by omega)] at drawn
    obtain rfl := Except.ok.inj drawn
    rw [pattern]
    exact rule.toList_geometricWrites _ below _ _ 0 budget (by omega) _ _
  next pattern =>
    rw [if_pos (by omega)] at drawn
    obtain rfl := Except.ok.inj drawn
    rw [pattern, toList_everyCellWrites, ← List.range_eq_range']
    rfl
  next pattern =>
    obtain rfl := Except.ok.inj drawn
    rw [pattern]
    exact rule.toList_coinWrites _ _ 0 budget _ _

theorem wants_writes (positive : 0.0 < rule.blueprint.density) {budget : Nat}
    (budget_pos : 0 < budget) : ¬(budget = 0 ∨ rule.blueprint.density ≤ 0.0) :=
  fun nothing => nothing.elim budget_pos.ne' (not_le_zero_of_pos positive)

end FillRule

namespace Blueprint

variable {blueprint : Blueprint} {rule : FillRule} {sampler : Sampler} {block : BlockIndex}
  {down across budget : Nat}

/-- The pattern of a block with this budget. -/
def patternOf (blueprint : Blueprint) (block : BlockIndex) (budget : Nat) : FillPattern :=
  .select (blueprint.grid.rowSpan block).length (blueprint.grid.colSpan block).length budget
    blueprint.density

/-- The writes of a block as its pattern tells them. Both streams begin with the seed, and that of
occupancy jumps ahead. The cells are chosen by the stream of occupancy, and get the samples of the
stream of values, one after the other, each rescaled to the range of values. Then the writes are
moved to where the block begins. -/
def patternWrites (blueprint : Blueprint) (sampler : Sampler) (block : BlockIndex) (seed : UInt64)
    (budget steps : Nat) : List Write :=
  let height := (blueprint.grid.rowSpan block).length
  let width := (blueprint.grid.colSpan block).length
  let cells := FillRule.chosenCells (blueprint.patternOf block budget) blueprint.density
    (height * width) steps budget (Xoshiro.ofSeed seed).jump
  let least := blueprint.bounds.1
  let range := blueprint.bounds.2 - least
  (FillRule.pairWrites width cells fun place =>
      least + range * nthDraw sampler.next (Xoshiro.ofSeed seed) place).map
    (.moved (blueprint.grid.rowSpan block).start (blueprint.grid.colSpan block).start)

/-- A larger budget that leads to the same pattern only adds writes behind the others. -/
theorem patternWrites_mono {more : Nat} (budget_le : budget ≤ more)
    (same : blueprint.patternOf block more = blueprint.patternOf block budget) (sampler : Sampler)
    (seed : UInt64) (steps : Nat) :
    blueprint.patternWrites sampler block seed budget steps <+:
      blueprint.patternWrites sampler block seed more steps := by
  rw [patternWrites, patternWrites, same]
  exact (FillRule.pairWrites_mono (FillRule.chosenCells_mono _ _ _ _ budget_le _) _).map _

/-- A block of a matrix that is not scarce, with a budget, a positive density and not too many cells
to be numbered, is filled as its pattern tells: the chosen cells get the samples of the stream of
values, one after the other, and as many values are reported as are written. Where the blocks before
it have left the streams does not matter, nor for how many steps gaps are followed, as long as these
are as many as the cells. -/
theorem fillBlock_eq_patternWrites (rule_made : FillRule.ofBlueprint blueprint = .ok rule)
    (sampled : Sampler.ofDistribution blueprint.distribution blueprint.mean = .ok sampler)
    (plenty : blueprint.isScarce = .ok false) (positive : 0.0 < blueprint.density)
    (counts : blueprint.grid.Counts down across) (has : BlockGrid.Has down across block)
    (small : (blueprint.grid.rowSpan block).length * (blueprint.grid.colSpan block).length <
      Size.limit - 1) (budget_pos : 0 < budget) (seed : UInt64) (streams : Streams) :
    ∃ pass, rule.fillBlock block seed budget streams = .ok pass ∧ pass.writes.failure? = none ∧
      (∀ steps,
        (blueprint.grid.rowSpan block).length * (blueprint.grid.colSpan block).length ≤ steps →
          pass.writes.toList = blueprint.patternWrites sampler block seed budget steps) ∧
      pass.placed = .ok pass.writes.toList.length := by
  obtain ⟨sampler_eq, least_eq, range_eq, scarce_eq⟩ := FillRule.spec_ofBlueprint rule_made
  obtain rfl := Except.ok.inj (sampled.symm.trans sampler_eq)
  have rule_plenty : rule.scarce = false := Except.ok.inj (scarce_eq.symm.trans plenty)
  obtain rfl := FillRule.blueprint_ofBlueprint rule_made
  obtain ⟨writes, drawn⟩ : ∃ writes, rule.blockWrites block seed budget = .ok writes :=
    (FillRule.blockWrites_ok_iff counts has).mpr fun _ => rule.localWrites_ok
      (counts.height_pos has) (counts.width_pos has) (Nat.lt_of_lt_pred small) seed budget
  rw [← rule.writes_fillBlock block seed budget streams] at drawn
  obtain ⟨pass, filled, rfl⟩ := map_eq_ok.mp drawn
  rw [rule.writes_fillBlock] at drawn
  rcases FillRule.blockWrites_cases counts has drawn with
    ⟨nothing, -⟩ | ⟨-, own, own_drawn, -, complete, lists⟩
  · exact absurd nothing (rule.wants_writes positive budget_pos)
  · have values_eq : rule.nthValue (FillRule.valueStream seed) = fun place =>
        rule.blueprint.bounds.1 + (rule.blueprint.bounds.2 - rule.blueprint.bounds.1) *
          nthDraw rule.sampler.next (Xoshiro.ofSeed seed) place := by
      funext place
      rw [FillRule.nthValue, least_eq, range_eq]
      rfl
    refine ⟨pass, filled, complete, fun steps enough => ?_,
      FillRule.placed_fillBlock counts has filled⟩
    rw [lists, FillRule.toList_localWrites rule_plenty small enough own_drawn, values_eq]
    rfl

/-- A block of a matrix that is not scarce is filled as its pattern tells. Under a larger budget
that leads to the same pattern, further writes only follow behind these. -/
theorem block_follows_pattern (rule_made : FillRule.ofBlueprint blueprint = .ok rule)
    (sampled : Sampler.ofDistribution blueprint.distribution blueprint.mean = .ok sampler)
    (plenty : blueprint.isScarce = .ok false) (positive : 0.0 < blueprint.density)
    (counts : blueprint.grid.Counts down across) (has : BlockGrid.Has down across block)
    (small : (blueprint.grid.rowSpan block).length * (blueprint.grid.colSpan block).length <
      Size.limit - 1) (budget_pos : 0 < budget) (seed : UInt64) (streams : Streams) :
    (∃ pass, rule.fillBlock block seed budget streams = .ok pass ∧
      pass.writes.failure? = none ∧
      (∀ steps,
        (blueprint.grid.rowSpan block).length * (blueprint.grid.colSpan block).length ≤ steps →
          pass.writes.toList = blueprint.patternWrites sampler block seed budget steps) ∧
      pass.placed = .ok pass.writes.toList.length) ∧
    ∀ more, budget ≤ more → blueprint.patternOf block more = blueprint.patternOf block budget →
      ∃ pass longer, rule.fillBlock block seed budget streams = .ok pass ∧
        rule.fillBlock block seed more streams = .ok longer ∧
        pass.writes.toList <+: longer.writes.toList := by
  obtain ⟨pass, filled, complete, lists, placed⟩ := fillBlock_eq_patternWrites rule_made sampled
    plenty positive counts has small budget_pos seed streams
  refine ⟨⟨pass, filled, complete, lists, placed⟩, fun more budget_le same => ?_⟩
  obtain ⟨longer, longer_filled, -, lists', -⟩ := fillBlock_eq_patternWrites rule_made sampled
    plenty positive counts has small (budget_pos.trans_le budget_le) seed streams
  refine ⟨pass, longer, filled, longer_filled, ?_⟩
  rw [lists _ le_rfl, lists' _ le_rfl]
  exact patternWrites_mono budget_le same sampler seed _

/-- The lower of two blocks with values in half of the cells, under two budgets, from streams that
another block has left somewhere. -/
theorem half_block_follows_pattern :
    ∃ rule sampler pass longer, FillRule.ofBlueprint halfUniform = .ok rule ∧
      Sampler.ofDistribution halfUniform.distribution halfUniform.mean = .ok sampler ∧
      rule.fillBlock ⟨1, 0⟩ 5 1 ⟨.ofSeed 3, .ofSeed 4⟩ = .ok pass ∧
      rule.fillBlock ⟨1, 0⟩ 5 3 ⟨.ofSeed 3, .ofSeed 4⟩ = .ok longer ∧
      pass.writes.toList = halfUniform.patternWrites sampler ⟨1, 0⟩ 5 1 4 ∧
      pass.placed = .ok pass.writes.toList.length ∧
      pass.writes.toList <+: longer.writes.toList := by
  have counts : halfUniform.grid.Counts 2 1 := ⟨rfl, rfl⟩
  have has : BlockGrid.Has 2 1 ⟨1, 0⟩ := ⟨Nat.one_lt_two, Nat.one_pos⟩
  have two_blocks : Size.mul 2 1 = .ok 2 := rfl
  obtain ⟨rule, rule_made⟩ := FillRule.ofBlueprint_ok counts two_blocks
  have sampled := (FillRule.spec_ofBlueprint rule_made).1
  obtain ⟨⟨pass, filled, -, lists, placed⟩, front⟩ := block_follows_pattern rule_made sampled
    (by decide +kernel) (by decide +kernel) counts has (by decide) Nat.one_pos 5
    ⟨.ofSeed 3, .ofSeed 4⟩
  obtain ⟨_, longer, filled', longer_filled, prefixes⟩ := front 3 (by decide) (by decide +kernel)
  obtain rfl := Except.ok.inj (filled.symm.trans filled')
  exact ⟨rule, rule.sampler, pass, longer, rule_made, sampled, filled, longer_filled,
    lists 4 (by decide), placed, prefixes⟩

end Blueprint

end SeededMatrix
