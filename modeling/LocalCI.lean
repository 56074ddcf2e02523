import LocalCI.Job.Builder
import LocalCI.Main
import LocalCI.Proofs.Command.CheckExit
import LocalCI.Proofs.Command.RunExit
import LocalCI.Proofs.Event.Hosted
import LocalCI.Proofs.Job.Diagnosis
import LocalCI.Proofs.Job.Edges
import LocalCI.Proofs.Job.Sequence
import LocalCI.Proofs.Publish.Escape
import LocalCI.Proofs.Publish.Secrecy
import LocalCI.Proofs.Run.FailFast
import LocalCI.Proofs.Run.Fields
import LocalCI.Proofs.Run.Interrupt
import LocalCI.Proofs.Run.Isolation
import LocalCI.Proofs.Run.Schedule
import LocalCI.Proofs.Run.Shape
import LocalCI.Proofs.Run.Status
import LocalCI.Proofs.Step
import LocalCI.Proofs.Workflow.Faults
import LocalCI.Proofs.Workflow.Grammar
import LocalCI.Proofs.Workflow.Steps
import LocalCI.Proofs.Workflow.WellFormed
import LocalCI.Proofs.Provision
import LocalCI.Proofs.FileTree.Places
import LocalCI.Proofs.FileTree.Writing
import LocalCI.Proofs.Footprint
import LocalCI.Proofs.Checkout
import LocalCI.Proofs.Publish.Residue
import LocalCI.Proofs.FileTree.Copies
import LocalCI.Proofs.Publish.Mirror
import LocalCI.Proofs.Glob
import LocalCI.Proofs.Event.Triggers
import LocalCI.Proofs.Job.Builder
import LocalCI.Proofs.Publish.Blame
import LocalCI.Proofs.Command.Plan
