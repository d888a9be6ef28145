import ConsensusControl.Main
import ConsensusControl.Agent.Records
import ConsensusControl.Model.Linear
import ConsensusControl.Options.Printer
import ConsensusControl.Problem.Extended
import ConsensusControl.Proofs.Ensemble.Execution
import ConsensusControl.Proofs.Network.Registration
import ConsensusControl.Proofs.Network.Synchronization
import ConsensusControl.Proofs.Network.Integrity
import ConsensusControl.Proofs.Network.Upkeep
import ConsensusControl.Proofs.Network.Removal
import ConsensusControl.Proofs.Table
import ConsensusControl.Proofs.Agent
import ConsensusControl.Proofs.Checked
import ConsensusControl.Proofs.Pointwise
import ConsensusControl.Proofs.IndexMap
import ConsensusControl.Proofs.Trajectory
import ConsensusControl.Proofs.Problem.Layout
import ConsensusControl.Proofs.Consensus.Reception
import ConsensusControl.Proofs.Consensus.Updates
import ConsensusControl.Proofs.Consensus.Evolution
import ConsensusControl.Proofs.Consensus.OwnWork
import ConsensusControl.Proofs.Consensus.Guess
import ConsensusControl.Proofs.Consensus.Weights
import ConsensusControl.Proofs.Transport.Faithful
import ConsensusControl.Proofs.Ensemble.Orderly
import ConsensusControl.Proofs.Ensemble.Reachable
import ConsensusControl.Proofs.Ensemble.Exchange
import ConsensusControl.Proofs.Ensemble.Replicas
import ConsensusControl.Proofs.Ensemble.Timeline
import ConsensusControl.Proofs.Ensemble.ReplicaAgreement
import ConsensusControl.Proofs.Consensus.Averaging
import ConsensusControl.Proofs.Ensemble.Balance
import ConsensusControl.Proofs.Consensus.Residuals
import ConsensusControl.Proofs.Ensemble.Convergence
import ConsensusControl.Proofs.Model
import ConsensusControl.Proofs.Problem.Dynamics
import ConsensusControl.Proofs.Ensemble.Prediction
import ConsensusControl.Proofs.Problem.GlobalPoint
import ConsensusControl.Proofs.Problem.CostSharing
import ConsensusControl.Proofs.Consensus.Shape
import ConsensusControl.Proofs.Transport.Prompt
import ConsensusControl.Proofs.Ensemble.Moves
import ConsensusControl.Proofs.Ensemble.Completeness
import ConsensusControl.Proofs.Ensemble.Undisturbed
import ConsensusControl.Proofs.Consensus.FirstSample
import ConsensusControl.Proofs.Consensus.HorizonStart
import ConsensusControl.Proofs.Ensemble.Preparation
import ConsensusControl.Proofs.Ensemble.Result
import ConsensusControl.Proofs.Ensemble.Measurement
import ConsensusControl.Proofs.Ensemble.ClosedLoop
import ConsensusControl.Proofs.Solver.Descent
import ConsensusControl.Proofs.Solver.Faults
import ConsensusControl.Proofs.Solver.Gradient
import ConsensusControl.Proofs.Ensemble.Simulation
import ConsensusControl.Proofs.Consensus.Stock
import ConsensusControl.Proofs.Consensus.LocalSolve
import ConsensusControl.Proofs.Consensus.Operations
import ConsensusControl.Proofs.Ensemble.Attempts
import ConsensusControl.Proofs.ExtendedRat
import ConsensusControl.Proofs.Consensus.ConvergenceTest
import ConsensusControl.Proofs.Transport.Waiting
import ConsensusControl.Proofs.Transport.History
import ConsensusControl.Proofs.Transport.Deliveries
import ConsensusControl.Proofs.Transport.Coordinator
import ConsensusControl.Proofs.Consensus.Rest
import ConsensusControl.Proofs.Ensemble.FixedPoint
import ConsensusControl.Proofs.Consensus.Fitting
import ConsensusControl.Proofs.Consensus.FittingUpdates
import ConsensusControl.Proofs.Ensemble.Driven
import ConsensusControl.Proofs.Ensemble.WarmStart
import ConsensusControl.Proofs.Adjoint
import ConsensusControl.Proofs.Problem.Adjoint
import ConsensusControl.Proofs.Consensus.PenaltyRange
import ConsensusControl.Proofs.Consensus.Lifecycle
import ConsensusControl.Proofs.Ensemble.Bookkeeping
import ConsensusControl.Proofs.Convergence.History
import ConsensusControl.Proofs.Ensemble.Progress
import ConsensusControl.Proofs.Ensemble.Rounds
import ConsensusControl.Proofs.Ensemble.Accounting
import ConsensusControl.Proofs.Problem.Constraints
import ConsensusControl.Proofs.Affine
import ConsensusControl.Proofs.Problem.CostGradients
import ConsensusControl.Proofs.Solver.ShootingGradient
import ConsensusControl.Proofs.Sampling
import ConsensusControl.Proofs.Problem.ConsensusTerms
import ConsensusControl.Proofs.Consensus.Minimizer
import ConsensusControl.Proofs.Consensus.Atomicity
import ConsensusControl.Proofs.Consensus.RoundTrip
import ConsensusControl.Proofs.Tiling
import ConsensusControl.Proofs.IndexMap.Partition
import ConsensusControl.Proofs.Problem.ConstraintLayout
import ConsensusControl.Proofs.Consensus.Acceptance
import ConsensusControl.Proofs.Consensus.ReceptionOrder
import ConsensusControl.Proofs.Interpolation
import ConsensusControl.Proofs.HorizonShift
import ConsensusControl.Proofs.Consensus.PenaltyBalance
import ConsensusControl.Proofs.Rearrangement
import ConsensusControl.Proofs.Problem.Renaming
import ConsensusControl.Proofs.Problem.Reordering
import ConsensusControl.Proofs.Consensus.GridStep
import ConsensusControl.Proofs.Latest
import ConsensusControl.Proofs.Convergence.Ring
import ConsensusControl.Proofs.Convergence.Reports
import ConsensusControl.Proofs.Solution
import ConsensusControl.Proofs.Solver.Termination
import ConsensusControl.Proofs.Derivatives
