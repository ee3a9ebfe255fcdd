import SeededMatrix.Proofs.Sampling.Reservoirs
import Mathlib.Algebra.BigOperators.Fin
import Mathlib.Algebra.BigOperators.Ring.Finset
import Mathlib.Data.Finset.Powerset
import Mathlib.Data.Fintype.BigOperators
import Mathlib.Data.Fintype.Fin
import Mathlib.Data.Nat.Factorial.Basic
import Mathlib.Order.Interval.Finset.Nat
import Mathlib.Probability.Distributions.Uniform

/-!
# The law of a reservoir

Every subset of the population is held after equally many tables of draws. If the indices are
uniform and independent, so is the table, and every subset is equally likely.
-/

namespace SeededMatrix

open SeededMatrix.Random
open scoped Finset Nat

/-! ## Uniform draws -/

namespace Random

theorem map_apply_of_injective {α β : Type} (law : PMF α) {move : α → β}
    (injective : Function.Injective move) (outcome : α) :
    law.map move (move outcome) = law outcome := by
  rw [PMF.map_apply, tsum_eq_single outcome, if_pos rfl]
  intro other differs
  exact if_neg fun same => differs (injective same).symm

theorem map_uniform {α β : Type} [Fintype α] [Nonempty α] [Fintype β] [Nonempty β] (e : α ≃ β) :
    (PMF.uniformOfFintype α).map e = PMF.uniformOfFintype β := by
  ext outcome
  obtain ⟨origin, rfl⟩ := e.surjective outcome
  rw [map_apply_of_injective _ e.injective, PMF.uniformOfFintype_apply,
    PMF.uniformOfFintype_apply, Fintype.card_congr e]

theorem uniform_prod (α β : Type) [Fintype α] [Nonempty α] [Fintype β] [Nonempty β] :
    ((PMF.uniformOfFintype α).bind fun left => (PMF.uniformOfFintype β).map (Prod.mk left)) =
      PMF.uniformOfFintype (α × β) := by
  ext ⟨left, right⟩
  rw [PMF.bind_apply, tsum_eq_single left, map_apply_of_injective _ (Prod.mk_right_injective left)]
  · rw [PMF.uniformOfFintype_apply, PMF.uniformOfFintype_apply, PMF.uniformOfFintype_apply,
      Fintype.card_prod, Nat.cast_mul, ENNReal.mul_inv (.inr (ENNReal.natCast_ne_top _))
        (.inl (ENNReal.natCast_ne_top _))]
  · intro other differs
    rw [PMF.map_apply, ENNReal.tsum_eq_zero.mpr, mul_zero]
    intro drawn
    exact if_neg fun same => differs (congrArg Prod.fst same).symm

theorem map_eq_pure {α β : Type} {law : PMF α} {move : α → β} {result : β}
    (constant : ∀ outcome ∈ law.support, move outcome = result) :
    law.map move = PMF.pure result := by
  rw [← PMF.map_const law result]
  ext value
  rw [PMF.map_apply, PMF.map_apply]
  refine tsum_congr fun outcome => ?_
  by_cases possible : outcome ∈ law.support
  · rw [constant outcome possible]
    rfl
  · rw [PMF.apply_eq_zero_iff _ _ |>.mpr possible, ite_self, ite_self]

/-- Indices that are uniform and independent. -/
noncomputable instance : IndexSource PMF where
  index n positive :=
    haveI := Fin.pos_iff_nonempty.mp positive
    PMF.uniformOfFintype (Fin n)

end Random

namespace Reservoir

variable {size seen count : Nat}

/-- Pairs are counted by their parts, if what is asked of each part does not look at the other. -/
theorem card_filter_pairs {α β : Type} [Fintype α] [Fintype β] (first : α → Prop)
    [DecidablePred first] (second : β → Prop) [DecidablePred second] :
    #{pair : α × β | first pair.1 ∧ second pair.2} =
      #{left | first left} * #{right | second right} := by
  rw [← Finset.card_product, ← Finset.filter_product, Finset.univ_product_univ]

theorem card_chances_not_lt (size total : Nat) :
    #{chance : Fin total | ¬chance.val < size} = total - size := by
  rw [Finset.filter_not, Finset.card_sdiff_of_subset (Finset.filter_subset _ _),
    Fin.card_filter_val_lt, Finset.card_univ, Fintype.card_fin]
  omega

/-! ## The set of the held values -/

/-- The set of the values that a reservoir holds. -/
def held (reservoir : Vector Nat size) : Finset Nat :=
  reservoir.toList.toFinset

theorem mem_held {reservoir : Vector Nat size} {value : Nat} :
    value ∈ held reservoir ↔ ∃ place, reservoir.get place = value := by
  rw [held, List.mem_toFinset, toList_eq, List.mem_ofFn']
  rfl

namespace Distinct

variable {reservoir : Vector Nat size}

theorem held_mem (distinct : Distinct seen reservoir) :
    held reservoir ∈ (Finset.Icc 1 seen).powersetCard size := by
  rw [Finset.mem_powersetCard]
  constructor
  · intro value member
    obtain ⟨place, rfl⟩ := mem_held.mp member
    exact Finset.mem_Icc.mpr (distinct.inside place)
  · rw [held, List.toFinset_card_of_nodup distinct.nodup, Vector.length_toList]

theorem next_notMem_held (distinct : Distinct seen reservoir) : seen + 1 ∉ held reservoir := by
  intro member
  obtain ⟨place, same⟩ := mem_held.mp member
  exact distinct.fresh place same

theorem held_set (distinct : Distinct seen reservoir) (slot : Fin size) (value : Nat) :
    held (reservoir.set slot value slot.isLt) =
      insert value ((held reservoir).erase (reservoir.get slot)) := by
  ext other
  rw [mem_held, Finset.mem_insert, Finset.mem_erase, mem_held]
  constructor
  · rintro ⟨place, rfl⟩
    rw [get_set]
    split
    next => exact .inl rfl
    next elsewhere => exact .inr ⟨fun same => elsewhere (distinct.apart same), place, rfl⟩
  · rintro (rfl | ⟨elsewhere, place, rfl⟩)
    · exact ⟨slot, by rw [get_set, if_pos rfl]⟩
    · exact ⟨place, by rw [get_set, if_neg fun same => elsewhere (congrArg _ same)]⟩

/-! ## One offer -/

/-- A subset without the next value is held if it was held before and the value does not enter. -/
theorem card_draws_of_notMem (distinct : Distinct seen reservoir) {subset : Finset Nat}
    (without : seen + 1 ∉ subset) :
    #{draws | held (Reservoir.offerBy seen draws reservoir) = subset} =
      if held reservoir = subset then (seen + 1 - size) * size else 0 := by
  have holds (draws : Fin (seen + 1) × Fin size) :
      held (Reservoir.offerBy seen draws reservoir) = subset ↔
        ¬draws.1.val < size ∧ held reservoir = subset := by
    rw [Reservoir.offerBy]
    split
    next enters =>
      refine iff_of_false ?_ fun both => both.1 enters
      rintro rfl
      rw [distinct.held_set] at without
      exact without (Finset.mem_insert_self _ _)
    next stays => exact (and_iff_right stays).symm
  simp only [holds]
  rw [card_filter_pairs (fun chance : Fin (seen + 1) => ¬chance.val < size)
    fun _ => held reservoir = subset, card_chances_not_lt]
  split
  next same =>
    rw [Finset.filter_true_of_mem fun _ _ => same, Finset.card_univ, Fintype.card_fin]
  next differs =>
    rw [Finset.filter_false_of_mem fun _ _ => differs, Finset.card_empty, Nat.mul_zero]

/-- A value has as many slots from which it is replaced to leave the kept ones as it has ways to be
the one value that is held besides them. -/
theorem card_slots_leaving (distinct : Distinct seen reservoir) (kept : Finset Nat) :
    #{slot | (held reservoir).erase (reservoir.get slot) = kept} =
      #{value ∈ Finset.Icc 1 seen \ kept | held reservoir = insert value kept} := by
  rw [← Finset.card_image_of_injective _ distinct.apart]
  congr 1
  ext value
  rw [Finset.mem_image, Finset.mem_filter, Finset.mem_sdiff]
  constructor
  · rintro ⟨slot, leaving, rfl⟩
    rw [Finset.mem_filter_univ] at leaving
    have there : reservoir.get slot ∈ held reservoir := mem_held.mpr ⟨slot, rfl⟩
    subst leaving
    exact ⟨⟨Finset.mem_Icc.mpr (distinct.inside slot), Finset.notMem_erase _ _⟩,
      (Finset.insert_erase there).symm⟩
  · rintro ⟨⟨-, apart⟩, same⟩
    have there : value ∈ held reservoir := same ▸ Finset.mem_insert_self _ _
    obtain ⟨slot, rfl⟩ := mem_held.mp there
    refine ⟨slot, (Finset.mem_filter_univ _).mpr ?_, rfl⟩
    rw [same, Finset.erase_insert apart]

/-- A subset with the next value is held if the value enters in place of the one value that was held
besides the rest of the subset. -/
theorem card_draws_of_mem (distinct : Distinct seen reservoir) (size_le : size ≤ seen)
    {subset : Finset Nat} (among : seen + 1 ∈ subset) :
    #{draws | held (Reservoir.offerBy seen draws reservoir) = subset} =
      size * #{value ∈ Finset.Icc 1 seen \ subset.erase (seen + 1) |
        held reservoir = insert value (subset.erase (seen + 1))} := by
  have holds (draws : Fin (seen + 1) × Fin size) :
      held (Reservoir.offerBy seen draws reservoir) = subset ↔
        draws.1.val < size ∧
          (held reservoir).erase (reservoir.get draws.2) = subset.erase (seen + 1) := by
    rw [Reservoir.offerBy]
    split
    next enters =>
      have absent : seen + 1 ∉ (held reservoir).erase (reservoir.get draws.2) :=
        fun member => distinct.next_notMem_held (Finset.mem_of_mem_erase member)
      rw [distinct.held_set, and_iff_right enters, eq_comm,
        ← Finset.erase_eq_iff_eq_insert among absent, eq_comm]
    next stays =>
      refine iff_of_false ?_ fun both => stays both.1
      rintro rfl
      exact distinct.next_notMem_held among
  simp only [holds]
  rw [card_filter_pairs (fun chance : Fin (seen + 1) => chance.val < size) fun slot =>
      (held reservoir).erase (reservoir.get slot) = subset.erase (seen + 1),
    Fin.card_filter_val_lt, min_eq_right (Nat.le_succ_of_le size_le), distinct.card_slots_leaving]

end Distinct

/-! ## Tables -/

/-- The tables after which a reservoir holds a subset. -/
def tablesHolding (size count : Nat) (subset : Finset Nat) : Finset (DrawTable size count) :=
  {table | held (fillBy count table) = subset}

theorem card_tablesHolding_succ (size count : Nat) (subset : Finset Nat) :
    #(tablesHolding size (count + 1) subset) =
      ∑ table : DrawTable size count,
        #{draws | held (offerBy (size + count) draws (fillBy count table)) = subset} := by
  let split := Fin.snocEquiv fun turn : Fin (count + 1) => Fin (size + turn + 1) × Fin size
  rw [tablesHolding, Finset.card_filter, ← split.sum_comp, Fintype.sum_prod_type_right]
  refine Finset.sum_congr rfl fun table _ => ?_
  rw [Finset.card_filter]
  refine Finset.sum_congr rfl fun draws _ => ?_
  rw [← fillBy_snoc]
  rfl

theorem card_tablesHolding_of_notMem {subset : Finset Nat} (without : size + count + 1 ∉ subset) :
    #(tablesHolding size (count + 1) subset) =
      (count + 1) * size * #(tablesHolding size count subset) := by
  calc
    _ = ∑ table : DrawTable size count,
          if held (fillBy count table) = subset then (size + count + 1 - size) * size else 0 := by
      rw [card_tablesHolding_succ]
      exact Finset.sum_congr rfl fun table _ =>
        (distinct_fillBy count table).card_draws_of_notMem without
    _ = (count + 1) * size * #(tablesHolding size count subset) := by
      rw [← Finset.sum_filter, Finset.sum_const, smul_eq_mul, Nat.mul_comm, Nat.add_assoc,
        Nat.add_sub_cancel_left]
      rfl

theorem card_tablesHolding_of_mem {subset : Finset Nat} (among : size + count + 1 ∈ subset) :
    #(tablesHolding size (count + 1) subset) =
      size * ∑ value ∈ Finset.Icc 1 (size + count) \ subset.erase (size + count + 1),
        #(tablesHolding size count (insert value (subset.erase (size + count + 1)))) := by
  calc
    _ = ∑ table : DrawTable size count,
          size * #{value ∈ Finset.Icc 1 (size + count) \ subset.erase (size + count + 1) |
            held (fillBy count table) = insert value (subset.erase (size + count + 1))} := by
      rw [card_tablesHolding_succ]
      exact Finset.sum_congr rfl fun table _ =>
        (distinct_fillBy count table).card_draws_of_mem (Nat.le_add_right ..) among
    _ = _ := by
      simp only [tablesHolding, Finset.card_filter]
      rw [← Finset.mul_sum, Finset.sum_comm]

theorem tablesHolding_zero {subset : Finset Nat}
    (chosen : subset ∈ (Finset.Icc 1 size).powersetCard size) :
    tablesHolding size 0 subset = Finset.univ := by
  have only : (Finset.Icc 1 size).powersetCard size = {Finset.Icc 1 size} := by
    simpa using Finset.powersetCard_self (Finset.Icc 1 size)
  have first := (Distinct.initial size).held_mem
  rw [only, Finset.mem_singleton] at chosen first
  rw [tablesHolding, Finset.filter_true_of_mem]
  intro table _
  exact first.trans chosen.symm

theorem erase_subset_Icc {subset : Finset Nat} (offered : subset ⊆ Finset.Icc 1 (seen + 1)) :
    subset.erase (seen + 1) ⊆ Finset.Icc 1 seen := by
  intro value member
  rw [Finset.mem_erase] at member
  have bounds := Finset.mem_Icc.mp (offered member.2)
  exact Finset.mem_Icc.mpr (by omega)

/-- Every subset is held after the same number of tables. -/
theorem card_tablesHolding {subset : Finset Nat}
    (chosen : subset ∈ (Finset.Icc 1 (size + count)).powersetCard size) :
    #(tablesHolding size count subset) = count ! * size ^ count := by
  induction count generalizing subset with
  | zero =>
      rw [tablesHolding_zero chosen, Finset.card_univ, Fintype.card_unique]
      rfl
  | succ count induction =>
      rw [← Nat.add_assoc, Finset.mem_powersetCard] at chosen
      obtain ⟨offered, card_eq⟩ := chosen
      have left := erase_subset_Icc offered
      rw [Nat.factorial_succ]
      by_cases among : size + count + 1 ∈ subset
      · -- Any value that is not kept may be the one that makes room.
        have card_rest : #(subset.erase (size + count + 1)) + 1 = size := by
          rw [Finset.card_erase_add_one among, card_eq]
        have others : #(Finset.Icc 1 (size + count) \ subset.erase (size + count + 1)) =
            count + 1 := by
          rw [Finset.card_sdiff_of_subset left, Nat.card_Icc]
          omega
        rw [card_tablesHolding_of_mem among, Finset.sum_congr rfl fun value member => induction ?_,
          Finset.sum_const, others, smul_eq_mul]
        · ring
        · rw [Finset.mem_sdiff] at member
          rw [Finset.mem_powersetCard, Finset.card_insert_of_notMem member.2]
          exact ⟨Finset.insert_subset member.1 left, card_rest⟩
      · rw [Finset.erase_eq_of_notMem among] at left
        rw [card_tablesHolding_of_notMem among,
          induction (Finset.mem_powersetCard.mpr ⟨left, card_eq⟩)]
        ring

theorem card_drawTable (size count : Nat) :
    Fintype.card (DrawTable size count) =
      (size + count).choose size * (count ! * size ^ count) := by
  have whole : Set.MapsTo (fun table : DrawTable size count => held (fillBy count table))
      (Finset.univ : Finset (DrawTable size count))
      ((Finset.Icc 1 (size + count)).powersetCard size) :=
    fun table _ => (distinct_fillBy count table).held_mem
  calc
    _ = ∑ subset ∈ (Finset.Icc 1 (size + count)).powersetCard size,
          #(tablesHolding size count subset) :=
      Finset.card_eq_sum_card_fiberwise whole
    _ = ∑ _subset ∈ (Finset.Icc 1 (size + count)).powersetCard size, count ! * size ^ count :=
      Finset.sum_congr rfl fun _ chosen => card_tablesHolding chosen
    _ = (size + count).choose size * (count ! * size ^ count) := by
      rw [Finset.sum_const, Finset.card_powersetCard, Nat.card_Icc, Nat.add_sub_cancel,
        smul_eq_mul]

/-! ## The law -/

/-- A table of uniform and independent draws. -/
noncomputable def uniformTable (positive : 0 < size) (count : Nat) : PMF (DrawTable size count) :=
  haveI := Fin.pos_iff_nonempty.mp positive
  PMF.uniformOfFintype (DrawTable size count)

section Law

variable (positive : 0 < size)

/-- An offer looks at two independent uniform draws, or at the first of them only. -/
theorem offer_law [Nonempty (Fin size)] (seen : Nat) (reservoir : Vector Nat size) :
    (offer positive seen reservoir : PMF (Vector Nat size)) =
      (PMF.uniformOfFintype (Fin (seen + 1) × Fin size)).map
        fun draws => offerBy seen draws reservoir := by
  rw [← uniform_prod, PMF.map_bind]
  refine congrArg _ (funext fun chance => ?_)
  rw [PMF.map_comp]
  by_cases enters : chance.val < size
  · have replaced : (fun draws => offerBy seen draws reservoir) ∘ Prod.mk chance =
        fun slot : Fin size => reservoir.set slot (seen + 1) := funext fun _ => if_pos enters
    rw [replaced, if_pos enters]
    rfl
  · have kept : (fun draws => offerBy seen draws reservoir) ∘ Prod.mk chance =
        Function.const (Fin size) reservoir := funext fun _ => if_neg enters
    rw [kept, if_neg enters, PMF.map_const]
    rfl

/-- A uniform table has uniform draws for the last value, whatever the table of the others is. -/
theorem map_uniformTable_succ {β : Type} [Nonempty (Fin size)] (count : Nat)
    (result : DrawTable size (count + 1) → β) :
    (uniformTable positive (count + 1)).map result =
      (uniformTable positive count).bind fun table =>
        (PMF.uniformOfFintype (Fin (size + count + 1) × Fin size)).map fun draws =>
          result (Fin.snoc (α := fun turn => Fin (size + turn + 1) × Fin size) table draws) := by
  let join : DrawTable size count × (Fin (size + count + 1) × Fin size) ≃
      DrawTable size (count + 1) :=
    (Equiv.prodComm _ _).trans (Fin.snocEquiv fun turn => Fin (size + turn + 1) × Fin size)
  calc
    _ = ((PMF.uniformOfFintype (DrawTable size count × (Fin (size + count + 1) × Fin size))).map
          join).map result :=
      congrArg (PMF.map result) (map_uniform join).symm
    _ = _ := by
      rw [PMF.map_comp, ← uniform_prod, PMF.map_bind]
      simp only [PMF.map_comp]
      rfl

/-- Offers look at a uniform table. -/
theorem offerMany_law (count : Nat) :
    (offerMany positive count size (initial size) : PMF (Vector Nat size)) =
      (uniformTable positive count).map (fillBy count) := by
  have := Fin.pos_iff_nonempty.mp positive
  induction count with
  | zero => exact (PMF.map_const ..).symm
  | succ count induction =>
      rw [offerMany_succ, induction, map_uniformTable_succ]
      simp only [fillBy_snoc]
      refine (PMF.bind_map ..).trans (congrArg _ (funext fun table => ?_))
      exact offer_law ..

/-- After a uniform table, every subset is held with the same probability. -/
theorem held_law {subset : Finset Nat}
    (chosen : subset ∈ (Finset.Icc 1 (size + count)).powersetCard size) :
    ((uniformTable positive count).map fun table => held (fillBy count table)) subset =
      ((size + count).choose size : ENNReal)⁻¹ := by
  have share_ne : ((count ! * size ^ count : Nat) : ENNReal) ≠ 0 := by
    exact_mod_cast (Nat.mul_pos count.factorial_pos (Nat.pow_pos positive)).ne'
  calc
    _ = ∑ table : DrawTable size count,
          if held (fillBy count table) = subset then
            (Fintype.card (DrawTable size count) : ENNReal)⁻¹ else 0 := by
      rw [PMF.map_apply, tsum_fintype]
      simp only [uniformTable, PMF.uniformOfFintype_apply, eq_comm (a := subset)]
    _ = #(tablesHolding size count subset) * (Fintype.card (DrawTable size count) : ENNReal)⁻¹ := by
      rw [← Finset.sum_filter, Finset.sum_const, nsmul_eq_mul]
      rfl
    _ = ((size + count).choose size : ENNReal)⁻¹ := by
      rw [card_tablesHolding chosen, card_drawTable, Nat.cast_mul (Nat.choose _ _),
        ENNReal.mul_inv (.inr (ENNReal.natCast_ne_top _)) (.inr share_ne), mul_left_comm,
        ENNReal.mul_inv_cancel share_ne (ENNReal.natCast_ne_top _), mul_one]

end Law

/-- A reservoir is exactly uniform over subsets. If every index is uniform and independent of the
others, a reservoir that is filled from a population looks at a uniform table of draws; every subset
of the population with as many values as the reservoir has places is held after the same number of
tables, and so with the same probability. A shuffle behind it that only changes the order keeps that
probability. -/
theorem subsets_equally_likely {population size : Nat} (positive : 0 < size)
    (size_le : size ≤ population) :
    (fill population size positive : PMF _) =
      (uniformTable positive (population - size)).map (fillBy _) ∧
    ∀ subset ∈ (Finset.Icc 1 population).powersetCard size,
      #(tablesHolding size (population - size) subset) =
        (population - size)! * size ^ (population - size) ∧
      ((fill population size positive : PMF _).map held) subset =
        (population.choose size : ENNReal)⁻¹ ∧
      ∀ shuffle : Array Nat → PMF (Array Nat),
        (∀ table, ∀ shuffled ∈ (shuffle table).support, shuffled.Perm table) →
        ((do shuffle (← fill population size positive).toArray : PMF _).map
          fun values => values.toList.toFinset) subset = (population.choose size : ENNReal)⁻¹ := by
  have filled : (fill population size positive : PMF _) =
      (uniformTable positive (population - size)).map (fillBy _) := offerMany_law positive _
  refine ⟨filled, fun subset chosen => ?_⟩
  have law : ((fill population size positive : PMF _).map held) subset =
      (population.choose size : ENNReal)⁻¹ := by
    rw [filled, PMF.map_comp]
    rw [← Nat.add_sub_of_le size_le] at chosen
    have law := held_law positive chosen
    rwa [Nat.add_sub_of_le size_le] at law
  refine ⟨?_, law, fun shuffle permutes => ?_⟩
  · rw [← Nat.add_sub_of_le size_le] at chosen
    exact card_tablesHolding chosen
  · have order (reservoir : Vector Nat size) :
        (shuffle reservoir.toArray).map (fun values => values.toList.toFinset) =
          PMF.pure (held reservoir) := by
      refine map_eq_pure fun shuffled possible => ?_
      exact List.toFinset_eq_of_perm _ _
        (Array.perm_iff_toList_perm.mp (permutes _ shuffled possible))
    rw [← law]
    refine congrFun (congrArg _ ?_) subset
    refine (PMF.map_bind ..).trans ?_
    simp only [order]
    rfl

/-- Two of a population of three. -/
theorem first_and_last_of_three :
    0 < 2 ∧ 2 ≤ 3 ∧ #(tablesHolding 2 1 {1, 3}) = 2 ∧
      ((fill 3 2 (by decide) : PMF _).map held) {1, 3} = (3 : ENNReal)⁻¹ ∧
      ((do PMF.pure (← fill 3 2 (by decide)).toArray.reverse : PMF _).map
        fun values => values.toList.toFinset) {1, 3} = (3 : ENNReal)⁻¹ := by
  have positive : 0 < 2 := by decide
  have size_le : 2 ≤ 3 := by decide
  obtain ⟨tables, law, shuffled_law⟩ :=
    (subsets_equally_likely positive size_le).2 {1, 3} (by decide)
  refine ⟨positive, size_le, tables, law, ?_⟩
  refine shuffled_law (fun values => PMF.pure values.reverse) ?_
  intro table shuffled possible
  rw [(PMF.mem_support_pure_iff _ _).mp possible]
  exact Array.perm_iff_toList_perm.mpr (by simp)

end Reservoir

end SeededMatrix
