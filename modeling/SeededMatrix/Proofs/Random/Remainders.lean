import SeededMatrix.Sample
import SeededMatrix.Proofs.Random.Draws
import SeededMatrix.Proofs.Sizes
import Mathlib.Data.Finset.Card
import Mathlib.Order.Interval.Finset.Nat

/-!
# Remainders without bias

The remainder of 63 bits by `n` is accepted if the interval of `n` numbers in which the bits lie
ends below `2 ^ 63`, that is, if the bits lie below the largest multiple of `n`. Each remainder is
then left by as many bits as there are whole intervals, and what is refused is less than half of all
bits.
-/

namespace SeededMatrix

namespace Random

/-- The number of values of 63 bits, `2 ^ 63`. -/
def bitsLimit : Nat := 0x8000_0000_0000_0000

/-- The bits whose remainder by `n` is accepted and is this value. -/
def acceptedBits (n value : Nat) : Finset Nat :=
  (Finset.range bitsLimit).filter fun bits => remainder? n bits = .ok (some value)

/-- The bits that are refused by `n`. -/
def refusedBits (n : Nat) : Finset Nat :=
  (Finset.range bitsLimit).filter fun bits => remainder? n bits = .ok none

section Bits

variable {n : Nat}

/-- Bits lie below the largest multiple of `n` exactly if their interval ends below the limit. -/
theorem interval_ends_iff (positive : 0 < n) (bits : Nat) :
    n * (bits / n) + (n - 1) ≤ bitsLimit - 1 ↔ bits < n * (bitsLimit / n) := by
  rw [Nat.mul_comm n (bitsLimit / n), ← Nat.div_lt_iff_lt_mul positive, Nat.lt_iff_add_one_le,
    Nat.le_div_iff_mul_le positive, Nat.add_one_mul, Nat.mul_comm (bits / n)]
  have limit_pos : 0 < bitsLimit := by decide
  omega

/-- The acceptance test stays within the sizes, and accepts the bits below the largest multiple of
`n`. -/
theorem remainder?_eq (positive : 0 < n) (n_lt : n < bitsLimit) {bits : Nat}
    (bits_lt : bits < bitsLimit) :
    remainder? n bits =
      .ok (if bits < n * (bitsLimit / n) then some (bits % n) else none) := by
  have start : bits - bits % n = n * (bits / n) := by
    have split := Nat.div_add_mod bits n
    omega
  have start_le : n * (bits / n) ≤ bits := Nat.mul_div_le bits n
  have fits : n * (bits / n) + (n - 1) < Size.limit := by
    have double : bitsLimit + bitsLimit = Size.limit := by decide
    omega
  have difference := Size.sub_eq_ok.mpr ⟨Nat.mod_le bits n, start⟩
  have length := Size.sub_eq_ok.mpr ⟨positive, rfl⟩
  have last := Size.add_eq_ok.mpr ⟨fits, rfl⟩
  rw [remainder?, if_neg positive.ne']
  dsimp only
  rw [difference, ok_bind, length, ok_bind, last, ok_bind, pure_eq_ok]
  simp only [← interval_ends_iff positive]
  rfl

theorem mem_acceptedBits (positive : 0 < n) (n_lt : n < bitsLimit) {value bits : Nat} :
    bits ∈ acceptedBits n value ↔ bits < n * (bitsLimit / n) ∧ bits % n = value := by
  rw [acceptedBits, Finset.mem_filter, Finset.mem_range]
  have whole_le : n * (bitsLimit / n) ≤ bitsLimit := Nat.mul_div_le _ _
  constructor
  · rintro ⟨bits_lt, accepted⟩
    rw [remainder?_eq positive n_lt bits_lt] at accepted
    split at accepted
    next below => exact ⟨below, Option.some.inj (Except.ok.inj accepted)⟩
    next => exact absurd (Except.ok.inj accepted) nofun
  · rintro ⟨below, rfl⟩
    refine ⟨below.trans_le whole_le, ?_⟩
    rw [remainder?_eq positive n_lt (below.trans_le whole_le), if_pos below]

/-- The accepted bits of one remainder are one number from each whole interval. -/
theorem acceptedBits_eq (positive : 0 < n) (n_lt : n < bitsLimit) {value : Nat}
    (value_lt : value < n) :
    acceptedBits n value =
      (Finset.range (bitsLimit / n)).image fun interval => n * interval + value := by
  ext bits
  rw [mem_acceptedBits positive n_lt, Finset.mem_image]
  constructor
  · rintro ⟨below, rfl⟩
    refine ⟨bits / n, Finset.mem_range.mpr ?_, Nat.div_add_mod bits n⟩
    exact (Nat.div_lt_iff_lt_mul positive).mpr (by rwa [Nat.mul_comm])
  · rintro ⟨interval, inside, rfl⟩
    have next : n * (interval + 1) ≤ n * (bitsLimit / n) :=
      Nat.mul_le_mul_left n (Finset.mem_range.mp inside)
    rw [Nat.mul_add_one] at next
    exact ⟨by omega, by rw [Nat.mul_add_mod, Nat.mod_eq_of_lt value_lt]⟩

theorem card_acceptedBits (positive : 0 < n) (n_lt : n < bitsLimit) {value : Nat}
    (value_lt : value < n) : (acceptedBits n value).card = bitsLimit / n := by
  rw [acceptedBits_eq positive n_lt value_lt, Finset.card_image_of_injective, Finset.card_range]
  intro left right same
  exact Nat.eq_of_mul_eq_mul_left positive (Nat.add_right_cancel same)

/-- The refused bits are those from the largest multiple of `n` on. -/
theorem refusedBits_eq (positive : 0 < n) (n_lt : n < bitsLimit) :
    refusedBits n = Finset.Ico (n * (bitsLimit / n)) bitsLimit := by
  ext bits
  rw [refusedBits, Finset.mem_filter, Finset.mem_range, Finset.mem_Ico]
  constructor
  · rintro ⟨bits_lt, refused⟩
    rw [remainder?_eq positive n_lt bits_lt] at refused
    split at refused
    next => exact absurd (Except.ok.inj refused) nofun
    next beyond => exact ⟨Nat.le_of_not_lt beyond, bits_lt⟩
  · rintro ⟨beyond, bits_lt⟩
    exact ⟨bits_lt, by rw [remainder?_eq positive n_lt bits_lt, if_neg (Nat.not_lt.mpr beyond)]⟩

theorem card_refusedBits (positive : 0 < n) (n_lt : n < bitsLimit) :
    (refusedBits n).card = bitsLimit % n := by
  have split := Nat.div_add_mod bitsLimit n
  rw [refusedBits_eq positive n_lt, Nat.card_Ico]
  omega

theorem refused_lt_half (positive : 0 < n) (n_lt : n < bitsLimit) :
    2 * (bitsLimit % n) < bitsLimit := by
  have split := Nat.div_add_mod bitsLimit n
  have left_lt := Nat.mod_lt bitsLimit positive
  have whole : n * 1 ≤ n * (bitsLimit / n) :=
    Nat.mul_le_mul_left n ((Nat.le_div_iff_mul_le positive).mpr (by omega))
  omega

end Bits

/-! ## Draws until one is accepted -/

section Loop

variable {σ : Type} [WordSource σ] {n : Nat}

/-- The upper 63 bits of a word. -/
def upperBits (word : UInt64) : Nat :=
  (word >>> 1).toNat

theorem upperBits_lt (word : UInt64) : upperBits word < bitsLimit := by
  have word_lt := word.toNat_lt
  rw [upperBits, UInt64.toNat_shiftRight]
  change word.toNat >>> 1 < bitsLimit
  rw [Nat.shiftRight_eq_div_pow, bitsLimit]
  omega

theorem drawRemainder_of_accepted {source : σ} {number : Nat}
    (accepted : remainder? n (upperBits (drawWord source).1) = .ok (some number))
    (attempts : Nat) :
    drawRemainder n (attempts + 1) source = .ok (number, (drawWord source).2) := by
  rw [upperBits] at accepted
  simp only [drawRemainder, accepted]

theorem drawRemainder_of_refused {source : σ}
    (refused : remainder? n (upperBits (drawWord source).1) = .ok none) (attempts : Nat) :
    drawRemainder n (attempts + 1) source = drawRemainder n attempts (drawWord source).2 := by
  rw [upperBits] at refused
  simp only [drawRemainder, refused]

/-- The answer is that of the first draw that is not refused. -/
theorem drawRemainder_eq {tries attempts number : Nat} (enough : tries < attempts) (source : σ)
    (refused : ∀ earlier < tries, upperBits (nthDraw drawWord source earlier) ∈ refusedBits n)
    (accepted : upperBits (nthDraw drawWord source tries) ∈ acceptedBits n number) :
    drawRemainder n attempts source = .ok (number, stateAfter drawWord (tries + 1) source) := by
  induction tries generalizing attempts source with
  | zero =>
      obtain ⟨attempts, rfl⟩ := Nat.exists_eq_add_one_of_ne_zero enough.ne'
      exact drawRemainder_of_accepted (Finset.mem_filter.mp accepted).2 attempts
  | succ tries induction =>
      obtain ⟨attempts, rfl⟩ := Nat.exists_eq_add_one_of_ne_zero (Nat.ne_zero_of_lt enough)
      have first_refused := (Finset.mem_filter.mp (refused 0 tries.succ_pos)).2
      rw [nthDraw_zero] at first_refused
      rw [drawRemainder_of_refused first_refused, stateAfter_succ]
      apply induction (Nat.lt_of_add_lt_add_right enough)
      · intro earlier earlier_lt
        exact refused (earlier + 1) (Nat.add_lt_add_right earlier_lt 1)
      · exact accepted

theorem drawRemainder_ok (positive : 0 < n) (n_lt : n < bitsLimit) (attempts : Nat) (source : σ) :
    ∃ number rest, drawRemainder n attempts source = .ok (number, rest) ∧ number < n := by
  induction attempts generalizing source with
  | zero => exact ⟨0, source, rfl, positive⟩
  | succ attempts induction =>
      have answer := remainder?_eq positive n_lt (upperBits_lt (drawWord source).1)
      by_cases below : upperBits (drawWord source).1 < n * (bitsLimit / n)
      · rw [if_pos below] at answer
        exact ⟨_, _, drawRemainder_of_accepted answer attempts, Nat.mod_lt _ positive⟩
      · rw [if_neg below] at answer
        rw [drawRemainder_of_refused answer]
        exact induction _

end Loop

end Random

namespace Sample

open SeededMatrix.Random

variable {σ : Type} [WordSource σ] {population : Nat}

theorem drawOnto_ok (positive : 0 < population) (population_lt : population < bitsLimit)
    (count : Nat) (drawn : Array Nat) (source : σ)
    (inside : ∀ value ∈ drawn, 1 ≤ value ∧ value ≤ population) :
    ∃ values rest, drawOnto population count drawn source = .ok (values, rest) ∧
      values.size = drawn.size + count ∧ ∀ value ∈ values, 1 ≤ value ∧ value ≤ population := by
  induction count generalizing drawn source with
  | zero => exact ⟨drawn, source, rfl, rfl, inside⟩
  | succ count induction =>
      obtain ⟨number, next, drawing, number_lt⟩ :=
        drawRemainder_ok positive population_lt attempts source
      have fits : 1 + number < Size.limit := by
        have limit_lt : bitsLimit < Size.limit := by decide
        omega
      obtain ⟨values, rest, later, size_eq, all_inside⟩ :=
        induction (drawn.push (1 + number)) next (by
          intro value member
          rcases Array.mem_push.mp member with before | rfl
          · exact inside value before
          · omega)
      refine ⟨values, rest, ?_, ?_, all_inside⟩
      · rw [drawOnto, belowByRemainder, drawing, ok_bind]
        simp only
        rw [Size.add_eq_ok.mpr ⟨fits, rfl⟩, ok_bind]
        exact later
      · rw [size_eq, Array.size_push]
        omega

end Sample

namespace Random

/-- Bounded draws by remainders have no bias. For every `n` below `2 ^ 63`, the acceptance test
stays within the sizes whatever the bits are; each value below `n` is the answer to exactly as many
of the `2 ^ 63` bits as there are whole intervals of `n` numbers; the others, less than half of all,
are refused. A bounded draw answers with the first word that is accepted, and if there is room for a
sample with replacement, every value that is drawn belongs to the population. -/
theorem remainders_unbiased {n : Nat} (positive : 0 < n) (n_lt : n < bitsLimit) :
    (∀ bits < bitsLimit, ∃ answer, remainder? n bits = .ok answer) ∧
    (∀ value < n, (acceptedBits n value).card = bitsLimit / n) ∧
    (refusedBits n).card = bitsLimit % n ∧ 2 * (refusedBits n).card < bitsLimit ∧
    (∀ (σ : Type) [WordSource σ] (source : σ) (tries number : Nat), tries < attempts →
      (∀ earlier < tries, upperBits (nthDraw drawWord source earlier) ∈ refusedBits n) →
      upperBits (nthDraw drawWord source tries) ∈ acceptedBits n number →
        belowByRemainder n source = .ok (number, stateAfter drawWord (tries + 1) source)) ∧
    ∀ (σ : Type) [WordSource σ] (size : Nat) (source : σ), size * 8 ≤ Size.allocationLimit →
      ∃ values rest, Sample.withReplacement n size source = .ok (values, rest) ∧
        values.size = size ∧ ∀ value ∈ values, 1 ≤ value ∧ value ≤ n := by
  have refused := card_refusedBits positive n_lt
  refine ⟨fun bits bits_lt => ⟨_, remainder?_eq positive n_lt bits_lt⟩,
    fun value value_lt => card_acceptedBits positive n_lt value_lt, refused,
    refused ▸ refused_lt_half positive n_lt, ?_, ?_⟩
  · intro σ _ source tries number enough all_refused accepted
    exact drawRemainder_eq enough source all_refused accepted
  · intro σ _ size source room
    obtain ⟨values, rest, drawn, size_eq, inside⟩ :=
      Sample.drawOnto_ok positive n_lt size #[] source (by simp)
    refine ⟨values, rest, ?_, by simpa using size_eq, inside⟩
    rw [Sample.withReplacement, Size.reserve_eq_ok.mpr room]
    exact drawn

/-- Of the draws below three, two are refused and each remainder has a third of the others. -/
theorem two_draws_refused_by_three :
    0 < 3 ∧ 3 < bitsLimit ∧ (acceptedBits 3 2).card = 0x2aaa_aaaa_aaaa_aaaa ∧
    (refusedBits 3).card = 2 ∧ ∃ values rest,
      Sample.withReplacement 3 5 (Xoshiro.ofSeed 7) = .ok (values, rest) ∧ values.size = 5 ∧
        ∀ value ∈ values, 1 ≤ value ∧ value ≤ 3 := by
  have positive : 0 < 3 := by decide
  have below : 3 < bitsLimit := by decide
  obtain ⟨-, accepted, refused, -, -, inside⟩ := remainders_unbiased positive below
  exact ⟨positive, below, accepted 2 (by decide), refused, inside Xoshiro 5 (.ofSeed 7) (by decide)⟩

end Random

end SeededMatrix
