import SeededMatrix.Proofs.Fill.Patterns

/-!
# Walks over gaps

The loop over gaps is told here for any gaps that it may draw, also the largest ones that a size can
be. It lands on one cell after the other, counted from one, until the block or the budget ends or a
gap leads out of the block. What makes it end is that it always advances: the sum that leads to the
next cell only stops growing at the largest size, and no block has more cells than that.
-/

namespace SeededMatrix

open SeededMatrix.Random

namespace FillRule

/-- What a walk from a cell does with some gaps: it lands on further and further cells of the block,
no more than the budget allows, and draws a gap for each of them and at most one more. -/
structure Walks (size landed budget : Nat) (gaps cells rest : List Nat) : Prop where
  few : cells.length ≤ min budget (size - landed)
  drawn : ∃ taken, gaps = taken ++ rest ∧ taken.length ≤ cells.length + 1
  increasing : (landed :: cells).Pairwise (· < ·)
  inside : ∀ cell ∈ cells, cell ≤ size

namespace Walks

variable {size landed budget gap next : Nat} {gaps cells rest : List Nat}

theorem ended : Walks size landed budget gaps [] gaps :=
  ⟨Nat.zero_le _, ⟨[], rfl, Nat.zero_le _⟩, .cons nofun .nil, nofun⟩

theorem left : Walks size landed budget (gap :: gaps) [] gaps :=
  ⟨Nat.zero_le _, ⟨[gap], rfl, le_rfl⟩, .cons nofun .nil, nofun⟩

theorem landing (walks : Walks size next budget gaps cells rest) (advances : landed < next)
    (next_le : next ≤ size) :
    Walks size landed (budget + 1) (gap :: gaps) (next :: cells) rest := by
  obtain ⟨few, ⟨taken, rfl, drawn⟩, increasing, inside⟩ := walks
  refine ⟨?_, ⟨gap :: taken, rfl, Nat.succ_le_succ drawn⟩, increasing.cons ?_, ?_⟩
  · rw [List.length_cons]
    omega
  · intro cell member
    rcases List.mem_cons.mp member with rfl | later
    · exact advances
    · exact advances.trans (List.rel_of_pairwise_cons increasing later)
  · intro cell member
    rcases List.mem_cons.mp member with rfl | later
    · exact next_le
    · exact inside cell later

end Walks

/-- The first gaps that a stream of occupancy leads to. -/
def gapsOf (logMiss : Float) (count : Nat) (occupancy : Xoshiro) : List Nat :=
  (firstDraws drawUnit count occupancy).map (gap logMiss)

@[simp] theorem length_gapsOf (logMiss : Float) (count : Nat) (occupancy : Xoshiro) :
    (gapsOf logMiss count occupancy).length = count := by
  simp [gapsOf, firstDraws]

end FillRule

end SeededMatrix
