import Augr.Accountingrecon.Cutover
import Augr.Dataset.Canonical
import Augr.Evaluation.Drawdown
import Augr.Evidenceprogram.Shadow
import Augr.Execution.Exposure
import Augr.Execution.Spreads
import Augr.Experimentrun.Declared
import Augr.Ledger.Positions
import Augr.Ledger.Redelivery
import Augr.Lifecycle.Bindings
import Augr.Lifecycle.Distinct
import Augr.Lifecycle.History
import Augr.Portfolio.Decisions
import Augr.Portfolio.Exclusive
import Augr.Predictionreplay.Fees
import Augr.Promotion.Modes
import Augr.Robustness.Holm
import Augr.Simulation.Liquidity
import Augr.Venue.Convergence
