import SeededMatrix.Failure

/-!
# Block grids

A matrix is cut into blocks of one shape; the last block of each axis keeps what is left. Blocks are
numbered row after row. All counts are checked: a shape whose blocks cannot be counted in 64 bits is
a fault, one with more blocks than a signed 32-bit number can count is refused.
-/

namespace SeededMatrix

/-- The shape of a matrix and of its blocks. -/
structure BlockGrid where
  rows : Nat
  cols : Nat
  blockHeight : Nat
  blockWidth : Nat
deriving DecidableEq, Repr

/-- A block by its row and its column in the grid of blocks. -/
structure BlockIndex where
  row : Nat
  col : Nat
deriving DecidableEq, Repr

namespace BlockGrid

/-- The most blocks a matrix may have, the largest signed 32-bit number `2 ^ 31 - 1`. -/
def maxBlocks : Nat := 0x7fff_ffff

/-- Number of blocks from the top to the bottom. -/
def blocksDown (grid : BlockGrid) : Except Fault Nat :=
  Size.divUp grid.rows grid.blockHeight

/-- Number of blocks from the left to the right. -/
def blocksAcross (grid : BlockGrid) : Except Fault Nat :=
  Size.divUp grid.cols grid.blockWidth

/-- Number of blocks, however large. -/
def blockCount (grid : BlockGrid) : Except Fault Nat := do
  Size.mul (← grid.blocksDown) (← grid.blocksAcross)

/-- Number of blocks, refused above `maxBlocks`. -/
def admittedBlocks (grid : BlockGrid) : Except Failure Nat := do
  let blocks ← grid.blockCount
  if maxBlocks < blocks then refuseShape (.tooManyBlocks grid.rows grid.cols blocks)
  else return blocks

/-- Rows of the blocks in one row of blocks. -/
def heightAt (grid : BlockGrid) (rowBlock : Nat) : Except Fault Nat :=
  Size.lengthOfBlock grid.rows rowBlock grid.blockHeight

/-- Columns of the blocks in one column of blocks. -/
def widthAt (grid : BlockGrid) (colBlock : Nat) : Except Fault Nat :=
  Size.lengthOfBlock grid.cols colBlock grid.blockWidth

/-- The non-zero cells that a density leads to expect in the whole matrix, rounded up. -/
def expectedNonZeros (grid : BlockGrid) (density : Float) : Nat :=
  Size.ofFloat (Size.ceil (Size.toFloat grid.rows * (Size.toFloat grid.cols * density)))

/-- Whether fewer non-zero cells are expected than there are blocks; each block then gets one at
most. -/
def isScarce (grid : BlockGrid) (blocks : Nat) (density : Float) : Bool :=
  grid.expectedNonZeros density < blocks

end BlockGrid

end SeededMatrix
