import LiveSwap.Cycle
import LiveSwap.Event
import LiveSwap.Forwarding.Manifest
import LiveSwap.Forwarding.Expansion
import LiveSwap.Forwarding.Grammar.Declaration
import LiveSwap.HotSwap
import LiveSwap.Proofs.Conduct
import LiveSwap.Proofs.Effect
import LiveSwap.Proofs.Host
import LiveSwap.Proofs.Refresh
import LiveSwap.Proofs.Cycle
import LiveSwap.Proofs.Record
import LiveSwap.Proofs.Behaviour
import LiveSwap.Proofs.Run
import LiveSwap.Proofs.Accounts
import LiveSwap.Proofs.CycleReport
import LiveSwap.Proofs.CallOrder
import LiveSwap.Proxy
import LiveSwap.Rehearsal.Globals
import LiveSwap.Rehearsal.Lifecycle
import LiveSwap.Rehearsal.Logging
import LiveSwap.Rehearsal.Recipe
import LiveSwap.Rehearsal.Pools
import LiveSwap.Rehearsal.Session
import LiveSwap.Rehearsal.Selection
import LiveSwap.Tracing.Plugin
import LiveSwap.Server.Run
import LiveSwap.Text.Alphanumeric
import LiveSwap.Text.Blank
import LiveSwap.Text.Identifier
import LiveSwap.Text.Quoted
import LiveSwap.Proofs.PoolLibrary
import LiveSwap.Proofs.PoolCycles
import LiveSwap.Proofs.DependencyOrder
import LiveSwap.Proofs.ServerSteps
import LiveSwap.Proofs.BuildStage
import LiveSwap.Proofs.Journal
import LiveSwap.Proofs.CallBlocks
import LiveSwap.Proofs.Growth
import LiveSwap.Proofs.Waiting
import LiveSwap.Proofs.Lifecycle
import LiveSwap.Proofs.Dependencies
import LiveSwap.Proofs.Interleaving
import LiveSwap.Proofs.ReloadLock
import LiveSwap.Proofs.ReloadRaces
import LiveSwap.Proofs.RegistryRaces
import LiveSwap.Proofs.ProxyChains
import LiveSwap.Proofs.ProxyRuns
import LiveSwap.Proofs.Reachable
import LiveSwap.Proofs.TwoLibraries
import LiveSwap.Proofs.OneByOne
import LiveSwap.Proofs.TickCourse
import LiveSwap.Proofs.Guests
import LiveSwap.Proofs.TickAccounts
import LiveSwap.Proofs.HotSwapTicks
import LiveSwap.Proofs.Ticks
import LiveSwap.Proofs.DependencyGraph
import LiveSwap.Proofs.DependencyCycles
import LiveSwap.Proofs.InsertionOrder
import LiveSwap.Proofs.Containment
import LiveSwap.Proofs.Numerals
import LiveSwap.Proofs.VersionText
import LiveSwap.Proofs.VersionDisplay
import LiveSwap.Proofs.PoolOpening
import LiveSwap.Pool.Workers
import LiveSwap.Proofs.PoolSerials
import LiveSwap.Proofs.PoolRaces
import LiveSwap.Proofs.PoolService
import LiveSwap.Proofs.Registering
import LiveSwap.Proofs.ServerCourse
import LiveSwap.Proofs.Admission
import LiveSwap.Proofs.LostQueue
import LiveSwap.Proofs.Dispatch
import LiveSwap.Proofs.ForwardingRules
import LiveSwap.Proofs.ForwardedCode
import LiveSwap.Proofs.SelfUse
import LiveSwap.Proofs.PoolErrands
import LiveSwap.Proofs.BorrowSearch
import LiveSwap.Proofs.Routines
import LiveSwap.Proofs.ListenerPlaces
