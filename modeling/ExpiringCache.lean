import ExpiringCache.Http.Server
import ExpiringCache.Proofs.CountedOutcomes
import ExpiringCache.Proofs.DeletionReports
import ExpiringCache.Proofs.DisjointClients
import ExpiringCache.Proofs.DueOrder
import ExpiringCache.Proofs.DurationGrammar
import ExpiringCache.Proofs.ExactLifetimes
import ExpiringCache.Proofs.ExactTotals
import ExpiringCache.Proofs.FailedRequests
import ExpiringCache.Proofs.FootprintBounds
import ExpiringCache.Proofs.IndexWalk
import ExpiringCache.Proofs.Interleaving
import ExpiringCache.Proofs.LeftmostFault
import ExpiringCache.Proofs.LiteralPrefix
import ExpiringCache.Proofs.OneSweep
import ExpiringCache.Proofs.OpenComment
import ExpiringCache.Proofs.RepeatedSweeps
import ExpiringCache.Proofs.SettingsInForce
import ExpiringCache.Proofs.StoppedEvictor
import ExpiringCache.Proofs.StoredPair
import ExpiringCache.Proofs.UncheckedSteps
import ExpiringCache.Proofs.WholeKey
