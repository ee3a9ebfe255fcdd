/-!
# Sizes, spans and faults

Sizes, indices and counts are natural numbers below `2 ^ 64`. Their sums, differences and products
are checked: an operation that would leave the range is a fault. The block arithmetic of one axis
(how many blocks it has, how long each of them is) is built on these operations.

A fault is a broken precondition that ends a run on the spot. It differs from a refusal, which is an
answer to the caller. Two kinds of faults are those of a checked build: that arithmetic leaves its
range, and that a region is written outside its cells. An unchecked build goes on there.
-/

namespace SeededMatrix

/-! ## Faults -/

/-- A broken precondition that ends the run. -/
inductive Fault
  /-- A sum, difference or product leaves the range `0 ≤ n < 2 ^ 64`. -/
  | overflow
  /-- A quotient by zero. -/
  | divisionByZero
  /-- An index or slice past the end of a table. -/
  | outOfBounds
  /-- Storage larger than half of the address space. -/
  | storageTooLarge
  /-- Compressed rows whose columns do not strictly increase or leave the shape. -/
  | malformedCsr
  /-- Reading cell `(row, col)` of a matrix of shape `rows × cols` that does not have it. -/
  | cellOutsideMatrix (row col rows cols : Nat)
  /-- Writing cell `(row, col)` through a region that does not cover it. -/
  | cellOutsideRegion (row col : Nat)
deriving DecidableEq, Repr

/-- The text of a fault that names the cell it happened at; the other faults carry none. -/
def Fault.message? : Fault → Option String
  | .cellOutsideMatrix row col rows cols =>
      some s!"Index ({row}, {col}) out of bounds for {rows}x{cols} block"
  | .cellOutsideRegion row col => some s!"cell ({row}, {col}) outside region"
  | _ => none

/-! ## Spans of indices -/

/-- The indices from `start` up to, and without, `stop`. -/
structure Span where
  start : Nat
  stop : Nat
deriving DecidableEq, Repr, Inhabited

namespace Span

/-- Number of indices in the span; a span written backwards has none. -/
def length (span : Span) : Nat :=
  span.stop - span.start

/-- The indices of the span in increasing order. -/
def indices (span : Span) : List Nat :=
  List.range' span.start span.length

/-- The span from zero. -/
def upTo (stop : Nat) : Span :=
  ⟨0, stop⟩

/-- The written form `start..stop`. -/
def text (span : Span) : String :=
  s!"{span.start}..{span.stop}"

/-- Where part number `part` begins when `count` indices are cut into `parts` parts: each part
before it has the base length, and the first `count % parts` of them one index more. -/
def bound (count parts part : Nat) : Nat :=
  part * (count / parts) + min part (count % parts)

/-- Cuts `count` indices into `min parts count` consecutive spans whose lengths differ by at most
one, longer ones first. -/
def balanced (count parts : Nat) : List Span :=
  let parts := min parts count
  (List.range parts).map fun part => ⟨bound count parts part, bound count parts (part + 1)⟩

end Span

/-! ## Checked arithmetic -/

namespace Size

/-- The first number that is no size, `2 ^ 64`. -/
def limit : Nat := 0x1_0000_0000_0000_0000

/-- The most bytes, or elements, that one allocation can hold, `2 ^ 63 - 1`. -/
def allocationLimit : Nat := 0x7fff_ffff_ffff_ffff

/-- The most bytes that entries can take that are appended one after the other, `2 ^ 62`. Their room
is doubled whenever it is used up, and the next room would be larger than `allocationLimit`. -/
def appendLimit : Nat := 0x4000_0000_0000_0000

/-- Sum of two sizes, unless it leaves the range. -/
def add (left right : Nat) : Except Fault Nat :=
  if left + right < limit then .ok (left + right) else .error .overflow

/-- Difference of two sizes, unless it is negative. -/
def sub (left right : Nat) : Except Fault Nat :=
  if right ≤ left then .ok (left - right) else .error .overflow

/-- Product of two sizes, unless it leaves the range. -/
def mul (left right : Nat) : Except Fault Nat :=
  if left * right < limit then .ok (left * right) else .error .overflow

/-- Sum of two sizes that stops at the largest size. -/
def saturatingAdd (left right : Nat) : Nat :=
  min (left + right) (limit - 1)

/-- The double nearest to a size, ties to even. -/
def toFloat (size : Nat) : Float :=
  size.toUInt64.toFloat

/-- The whole part of a double as a size: what is negative or not a number counts as zero, and what
is too large as the largest size. -/
def ofFloat (value : Float) : Nat :=
  value.toUInt64.toNat

/-- From here on, `2 ^ 52`, every double is a whole number. -/
def wholeFrom : Float := 4503599627370496.0

/-- The least whole number that is not below a double. Zeros, infinities and not-a-number stay as
they are, and a number between minus one and zero becomes the negative zero. -/
def ceil (value : Float) : Float :=
  let whole := value.abs.toUInt64.toFloat
  if 0.0 < value && value < wholeFrom then
    if whole < value then whole + 1.0 else whole
  else if -wholeFrom < value && value < 0.0 then -whole
  else value

/-- Quotient rounded up, computed as `(count + length - 1) / length`; the sum in front must be a
size. -/
def divUp (count length : Nat) : Except Fault Nat := do
  let total ← sub (← add count length) 1
  if length = 0 then .error .divisionByZero else .ok (total / length)

/-- Length of block `index` on an axis of `length` cells cut into blocks of `blockLength`: full
until the axis ends, then what is left, then nothing. -/
def lengthOfBlock (length index blockLength : Nat) : Except Fault Nat := do
  let start ← mul index blockLength
  return min blockLength (length - start)

/-- Room for `count` entries of `bytes` bytes each, unless no allocation can hold it. -/
def reserve (count bytes : Nat) : Except Fault Unit :=
  if count * bytes ≤ allocationLimit then .ok () else .error .storageTooLarge

/-- Room for `count` entries that are appended one after the other. The `bytes` of an entry are a
power of two. -/
def append (count bytes : Nat) : Except Fault Unit :=
  if count * bytes ≤ appendLimit then .ok () else .error .storageTooLarge

/-- The total so far and the sums so far, with one more count. -/
def addCount (sums : Nat × Array Nat) (count : Nat) : Except Fault (Nat × Array Nat) := do
  let total ← add sums.1 count
  return (total, sums.2.push total)

/-- The running sums of a table, starting with zero and ending with its total; each takes eight
bytes. -/
def runningSums (counts : Array Nat) : Except Fault (Array Nat) := do
  reserve (counts.size + 1) 8
  let sums ← counts.foldlM addCount (0, #[0])
  return sums.2

end Size

end SeededMatrix
