import SeededMatrix.Main
import SeededMatrix.Proofs.Fill.EvenCuts
import SeededMatrix.Proofs.Fill.Outlines
import SeededMatrix.Proofs.Fill.Ownership
import SeededMatrix.Proofs.Fill.Walks
import SeededMatrix.Proofs.Generation.Cutouts
import SeededMatrix.Proofs.Generation.Scarce
import SeededMatrix.Proofs.Output.Settling
import SeededMatrix.Proofs.Output.Splitting
import SeededMatrix.Proofs.BlockBudgets
import SeededMatrix.Proofs.Generation.Refusals
import SeededMatrix.Proofs.Generation.Finished
import SeededMatrix.Proofs.Generation.Bounds
import SeededMatrix.Proofs.Generation.Histories
import SeededMatrix.Proofs.Random.Remainders
import SeededMatrix.Proofs.Random.WellBytes
import SeededMatrix.Proofs.Random.WellStates
import SeededMatrix.Proofs.Sampling.Reservoirs
import SeededMatrix.Proofs.Sampling.SubsetLaw
