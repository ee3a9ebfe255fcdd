import SeededMatrix.Sample
import SeededMatrix.Proofs.Random.Remainders
import Mathlib.Data.Fin.Tuple.Basic
import Mathlib.Data.Finset.Card
import Mathlib.Data.List.NodupEquivFin

/-!
# Reservoirs

A reservoir depends on its draws only: on an index and a slot for each value that is offered.
Whatever the draws are, it holds as many different values as it has places, all of them offered
before. The shuffle behind it only changes their order.
-/

namespace SeededMatrix

open SeededMatrix.Random

namespace Reservoir

variable {size seen count : Nat}

/-! ## Draws -/

/-- The draws for `count` values that are offered after the first `size` ones: an index among all
values up to the offered one, and a slot. -/
abbrev DrawTable (size count : Nat) : Type :=
  (turn : Fin count) → Fin (size + turn + 1) × Fin size

/-- The reservoir after the value behind the first `seen` ones was offered. The slot is not looked
at unless the value enters. -/
def offerBy (seen : Nat) (draws : Fin (seen + 1) × Fin size) (reservoir : Vector Nat size) :
    Vector Nat size :=
  if draws.1.val < size then reservoir.set draws.2 (seen + 1) else reservoir

/-- The reservoir after `count` values were offered. -/
def fillBy : (count : Nat) → DrawTable size count → Vector Nat size
  | 0, _ => initial size
  | count + 1, table =>
      offerBy (size + count) (table (Fin.last count)) (fillBy count fun turn => table turn.castSucc)

theorem fillBy_snoc (table : DrawTable size count) (draws : Fin (size + count + 1) × Fin size) :
    fillBy (count + 1) (Fin.snoc (α := fun turn => Fin (size + turn + 1) × Fin size) table draws) =
      offerBy (size + count) draws (fillBy count table) := by
  rw [fillBy, Fin.snoc_last]
  congr
  funext turn
  exact Fin.snoc_castSucc ..

section Monads

variable {m : Type → Type} [Monad m] [LawfulMonad m] [IndexSource m]

theorem offerMany_succ (positive : 0 < size) (count seen : Nat) (reservoir : Vector Nat size) :
    (offerMany positive (count + 1) seen reservoir : m (Vector Nat size)) =
      offerMany positive count seen reservoir >>= offer positive (seen + count) := by
  induction count generalizing seen reservoir with
  | zero => simp [offerMany]
  | succ count induction =>
      calc
        offerMany positive (count + 2) seen reservoir =
            offer positive seen reservoir >>= fun next =>
              offerMany positive (count + 1) (seen + 1) next := rfl
        _ = offer positive seen reservoir >>= fun next =>
              offerMany positive count (seen + 1) next >>= offer positive (seen + (count + 1)) := by
          simp only [induction, Nat.add_right_comm seen 1 count, Nat.add_assoc]
        _ = offerMany positive (count + 1) seen reservoir >>=
              offer positive (seen + (count + 1)) := by
          rw [← bind_assoc]
          rfl

end Monads

/-! ## What a reservoir holds -/

theorem toList_eq (reservoir : Vector Nat size) : reservoir.toList = List.ofFn reservoir.get := by
  have whole : Vector.ofFn reservoir.get = reservoir := by
    ext place place_lt
    simp [Vector.get]
  rw [← Vector.toList_ofFn, whole]

theorem get_initial (place : Fin size) : (initial size).get place = place.val + 1 := by
  simp only [initial, Vector.get]
  exact Vector.getElem_ofFn place.isLt

theorem get_set (reservoir : Vector Nat size) (slot place : Fin size) (value : Nat) :
    (reservoir.set slot value slot.isLt).get place =
      if place = slot then value else reservoir.get place := by
  simp only [Vector.get, Fin.ext_iff, eq_comm (a := place.val)]
  exact Vector.getElem_set slot.isLt place.isLt

/-- Whether a reservoir holds different values among the first `seen` ones. -/
structure Distinct (seen : Nat) (reservoir : Vector Nat size) : Prop where
  apart : Function.Injective reservoir.get
  inside : ∀ place, 1 ≤ reservoir.get place ∧ reservoir.get place ≤ seen

namespace Distinct

variable {reservoir : Vector Nat size}

theorem nodup (distinct : Distinct seen reservoir) : reservoir.toList.Nodup := by
  rw [toList_eq, List.nodup_ofFn]
  exact distinct.apart

theorem of_mem (distinct : Distinct seen reservoir) {value : Nat}
    (member : value ∈ reservoir.toList) : 1 ≤ value ∧ value ≤ seen := by
  rw [toList_eq, List.mem_ofFn'] at member
  obtain ⟨place, rfl⟩ := member
  exact distinct.inside place

theorem fresh (distinct : Distinct seen reservoir) (place : Fin size) :
    reservoir.get place ≠ seen + 1 :=
  Nat.ne_of_lt (Nat.lt_succ_of_le (distinct.inside place).2)

theorem initial (size : Nat) : Distinct size (Reservoir.initial size) := by
  constructor
  · intro left right same
    rw [get_initial, get_initial] at same
    exact Fin.ext (Nat.add_right_cancel same)
  · intro place
    rw [get_initial]
    exact ⟨Nat.le_add_left 1 _, place.isLt⟩

theorem set (distinct : Distinct seen reservoir) (slot : Fin size) :
    Distinct (seen + 1) (reservoir.set slot (seen + 1) slot.isLt) := by
  constructor
  · intro left right same
    rw [get_set, get_set] at same
    split at same
    next left_eq =>
      split at same
      next right_eq => exact left_eq.trans right_eq.symm
      next => exact absurd same.symm (distinct.fresh right)
    next =>
      split at same
      next => exact absurd same (distinct.fresh left)
      next => exact distinct.apart same
  · intro place
    have bounds := distinct.inside place
    rw [get_set]
    split
    · exact ⟨Nat.le_add_left 1 seen, le_rfl⟩
    · exact ⟨bounds.1, Nat.le_succ_of_le bounds.2⟩

theorem mono (distinct : Distinct seen reservoir) : Distinct (seen + 1) reservoir :=
  ⟨distinct.apart, fun place =>
    ⟨(distinct.inside place).1, Nat.le_succ_of_le (distinct.inside place).2⟩⟩

/-- An offer keeps the values apart, since what enters was not there before. -/
theorem offerBy (distinct : Distinct seen reservoir) (draws : Fin (seen + 1) × Fin size) :
    Distinct (seen + 1) (offerBy seen draws reservoir) := by
  rw [Reservoir.offerBy]
  split
  · exact distinct.set draws.2
  · exact distinct.mono

end Distinct

theorem distinct_fillBy (count : Nat) (table : DrawTable size count) :
    Distinct (size + count) (fillBy count table) := by
  induction count with
  | zero => exact .initial size
  | succ count induction => exact (induction _).offerBy _

/-! ## Runs -/

section Runs

variable {σ : Type} [IndexSource (StateM σ)]

/-- A run draws an index, and a slot if the value enters. -/
theorem run_offer (positive : 0 < size) (seen : Nat) (reservoir : Vector Nat size) (source : σ) :
    (offer positive seen reservoir : StateM σ _).run source =
      let drawn := (index (seen + 1) seen.succ_pos : StateM σ _).run source
      if drawn.1.val < size then
        let slot := (index size positive : StateM σ _).run drawn.2
        (reservoir.set slot.1 (seen + 1), slot.2)
      else (reservoir, drawn.2) := by
  rw [offer, StateT.run_bind]
  dsimp only [bind, Id.run]
  split <;> rfl

theorem exists_offerBy (positive : 0 < size) (seen : Nat) (reservoir : Vector Nat size)
    (source : σ) : ∃ draws,
      ((offer positive seen reservoir : StateM σ _).run source).1 =
        offerBy seen draws reservoir := by
  rw [run_offer]
  dsimp only
  split
  next enters => exact ⟨(_, _), (if_pos enters).symm⟩
  next stays => exact ⟨(_, ⟨0, positive⟩), (if_neg stays).symm⟩

/-- A run follows a table of draws, whatever the source is. -/
theorem exists_fillBy (positive : 0 < size) (count : Nat) (source : σ) :
    ∃ table : DrawTable size count,
      ((offerMany positive count size (initial size) : StateM σ _).run source).1 =
        fillBy count table := by
  induction count with
  | zero => exact ⟨fun turn => turn.elim0, rfl⟩
  | succ count induction =>
      obtain ⟨table, filled⟩ := induction
      rw [offerMany_succ, StateT.run_bind]
      dsimp only [bind, Id.run]
      obtain ⟨draws, offered⟩ := exists_offerBy (σ := σ) positive (size + count) _ _
      exact ⟨_, offered.trans (by rw [filled, ← fillBy_snoc])⟩

/-- Whatever the source is, a filled reservoir holds different values of the population. -/
theorem distinct_fill {population : Nat} (positive : 0 < size) (size_le : size ≤ population)
    (source : σ) :
    Distinct population ((fill population size positive : StateM σ _).run source).1 := by
  obtain ⟨table, filled⟩ := exists_fillBy positive (population - size) source
  have distinct := distinct_fillBy (population - size) table
  rwa [← filled, Nat.add_sub_of_le size_le] at distinct

end Runs

end Reservoir

/-! ## Shuffles -/

namespace Random

variable {σ α : Type} [WordSource σ]

theorem perm_swapIfInBounds (table : Array α) (left right : Nat) :
    (table.swapIfInBounds left right).Perm table := by
  rw [Array.swapIfInBounds_def]
  split
  · split
    · exact Array.swap_perm _ _
    · exact .rfl
  · exact .rfl

theorem perm_shuffleFrom (last : Nat) (table : Array α) (source : σ) :
    (shuffleFrom last table source).1.Perm table := by
  induction last generalizing table source with
  | zero => exact .rfl
  | succ last induction => exact (induction _ _).trans (perm_swapIfInBounds _ _ _)

theorem perm_shuffle (table : Array α) (source : σ) : (shuffle table source).1.Perm table :=
  perm_shuffleFrom _ table source

end Random

/-! ## Samples -/

namespace Sample

/-- A request that is not refused is answered with the values of a sample without replacement. -/
theorem draw_eq {population size : Nat} (positive : 0 < size) (size_le : size ≤ population)
    {σ : Type} [WordSource σ] (source : σ) :
    draw population size false source = do
      let (values, _) ← withoutReplacement population size positive source
      return values := by
  have people : ¬(population : Int) ≤ 0 := by omega
  have enough : ¬(!false && decide (population < size)) = true := by simpa using size_le
  rw [draw, if_neg people, dif_neg positive.ne', Int.toNat_natCast, if_neg enough,
    if_neg Bool.false_ne_true]

/-- If there is room for a sample, it is a filled reservoir in another order. -/
theorem withoutReplacement_ok {population size : Nat} (positive : 0 < size)
    (size_le : size ≤ population) (fits : size + 1 < Size.limit)
    (room : size * 8 ≤ Size.allocationLimit) {σ : Type} [WordSource σ] (source : σ) :
    ∃ values rest, withoutReplacement population size positive source = .ok (values, rest) ∧
      values.size = size ∧ values.toList.Nodup ∧
      ∀ value ∈ values, 1 ≤ value ∧ value ≤ population := by
  obtain ⟨reservoir, next, filled⟩ : ∃ reservoir next,
      (Reservoir.fill population size positive : StateM σ _).run source = (reservoir, next) :=
    ⟨_, _, rfl⟩
  have distinct := Reservoir.distinct_fill positive size_le source
  rw [filled] at distinct
  have drawn : withoutReplacement population size positive source =
      .ok (shuffle reservoir.toArray next) := by
    rw [withoutReplacement, Size.reserve_eq_ok.mpr room, ok_bind, Size.add_eq_ok.mpr ⟨fits, rfl⟩,
      filled]
    rfl
  have perm : (shuffle reservoir.toArray next).1.toList.Perm reservoir.toList :=
    Array.perm_iff_toList_perm.mp (perm_shuffle reservoir.toArray next)
  have size_eq : (shuffle reservoir.toArray next).1.size = size := by
    simpa using perm.length_eq
  refine ⟨_, _, drawn, size_eq, perm.nodup_iff.mpr distinct.nodup, ?_⟩
  intro value member
  exact distinct.of_mem (perm.mem_iff.mp (Array.mem_toList_iff.mpr member))

theorem withoutReplacement_tooLarge {population size : Nat} (positive : 0 < size)
    (large : Size.allocationLimit < size * 8) {σ : Type} [WordSource σ] (source : σ) :
    withoutReplacement population size positive source = .error .storageTooLarge := by
  rw [withoutReplacement, Size.reserve, if_neg (Nat.not_le.mpr large), error_bind]

/-- As many different values of a population as it has are all of them. -/
theorem perm_population {population : Nat} {values : Array Nat} (size_eq : values.size = population)
    (nodup : values.toList.Nodup) (inside : ∀ value ∈ values, 1 ≤ value ∧ value ≤ population) :
    values.toList.Perm (List.range' 1 population) := by
  have among : values.toList ⊆ List.range' 1 population := by
    intro value member
    have bounds := inside value (Array.mem_toList_iff.mp member)
    exact List.mem_range'_1.mpr (by omega)
  apply (List.subperm_of_subset nodup among).perm_of_length_le
  rw [List.length_range', Array.length_toList, size_eq]

/-- A sample without replacement never repeats a value and never leaves the population. Whatever
the generator is, the population is counted by a number of 63 bits and is not smaller than the
sample. If there is room for the sample, it has as many values as were asked for, all of them
different and from the population; if all of the population was asked for, it is a permutation of
it. Otherwise the room is all that is missing. No sum leaves the range of sizes. -/
theorem never_repeats {population size : Nat} (positive : 0 < size) (size_le : size ≤ population)
    (population_lt : population < bitsLimit) {σ : Type} [WordSource σ] (source : σ) :
    (size * 8 ≤ Size.allocationLimit → ∃ values rest,
      withoutReplacement population size positive source = .ok (values, rest) ∧
      values.size = size ∧ values.toList.Nodup ∧
      (∀ value ∈ values, 1 ≤ value ∧ value ≤ population) ∧
      (size = population → values.toList.Perm (List.range' 1 population)) ∧
      draw population size false source = .ok values) ∧
    (Size.allocationLimit < size * 8 →
      withoutReplacement population size positive source = .error .storageTooLarge ∧
      draw population size false source = .error (.fault .storageTooLarge)) := by
  have fits : size + 1 < Size.limit := by
    have double : bitsLimit + bitsLimit = Size.limit := by decide
    omega
  refine ⟨fun room => ?_, fun large => ?_⟩
  · obtain ⟨values, rest, drawn, size_eq, nodup, inside⟩ :=
      withoutReplacement_ok positive size_le fits room source
    refine ⟨values, rest, drawn, size_eq, nodup, inside, ?_, ?_⟩
    · rintro rfl
      exact perm_population size_eq nodup inside
    · rw [draw_eq positive size_le, drawn]
      rfl
  · have none_drawn : withoutReplacement population size positive source =
        .error .storageTooLarge := withoutReplacement_tooLarge positive large source
    refine ⟨none_drawn, ?_⟩
    rw [draw_eq positive size_le, none_drawn]
    rfl

/-- Two values are drawn from a population of five: the reservoir starts with two of them, and the
three others are offered to it. -/
theorem two_of_five :
    0 < 2 ∧ 2 ≤ 5 ∧ 5 < bitsLimit ∧ ∃ values rest,
      withoutReplacement 5 2 (by decide) (Xoshiro.ofSeed 7) = .ok (values, rest) ∧
      values.size = 2 ∧ values.toList.Nodup ∧ (∀ value ∈ values, 1 ≤ value ∧ value ≤ 5) ∧
      draw 5 2 false (Xoshiro.ofSeed 7) = .ok values := by
  have positive : 0 < 2 := by decide
  have enough : 2 ≤ 5 := by decide
  have below : 5 < bitsLimit := by decide
  obtain ⟨values, rest, drawn, size_eq, nodup, inside, -, answered⟩ :=
    (never_repeats positive enough below (Xoshiro.ofSeed 7)).1 (by decide)
  exact ⟨positive, enough, below, values, rest, drawn, size_eq, nodup, inside, answered⟩

/-- A sample of `2 ^ 60` values, all of a population, has no room. -/
theorem sample_too_large_to_hold :
    (0 < 0x1000_0000_0000_0000 ∧ 0x1000_0000_0000_0000 < bitsLimit) ∧
      withoutReplacement 0x1000_0000_0000_0000 0x1000_0000_0000_0000 (by decide)
        (Xoshiro.ofSeed 1) = .error .storageTooLarge := by
  refine ⟨⟨by decide, by decide⟩, ?_⟩
  rw [withoutReplacement, Size.reserve, if_neg (by decide), error_bind]

end Sample

end SeededMatrix
