import GroupQueue.Main
import GroupQueue.Plan.Rehearsal
import GroupQueue.Proofs.Command.Times
import GroupQueue.Proofs.Plan.Conditions
import GroupQueue.Proofs.Plan.Distinct
import GroupQueue.Proofs.Plan.FirstFailure
import GroupQueue.Proofs.Plan.Locality
import GroupQueue.Proofs.Plan.Refinement
import GroupQueue.Proofs.Plan.Refusal
import GroupQueue.Proofs.Plan.Walks
import GroupQueue.Proofs.Record
import GroupQueue.Proofs.Session.Adding
import GroupQueue.Proofs.Session.Availability
import GroupQueue.Proofs.Session.Enumeration
import GroupQueue.Proofs.Session.Expiry
import GroupQueue.Proofs.Session.FailedGet
import GroupQueue.Proofs.Session.Independence
import GroupQueue.Proofs.Session.Interruption
import GroupQueue.Proofs.Session.LeaseCount
import GroupQueue.Proofs.Session.Leases
import GroupQueue.Proofs.Session.NoSkip
import GroupQueue.Proofs.Session.Purging
import GroupQueue.Proofs.Session.RequeueCount
import GroupQueue.Proofs.Session.Rounds
import GroupQueue.Proofs.Session.Targets
import GroupQueue.Proofs.Sql.LockOrder
import GroupQueue.Proofs.Sql.MemberReads
import GroupQueue.Proofs.Store.Changes
import GroupQueue.Proofs.Store.Issuing
import GroupQueue.Proofs.Store.PayloadRuns
import GroupQueue.Queue.Session
