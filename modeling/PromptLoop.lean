import PromptLoop.Main
import PromptLoop.Rehearsal.Bench
import PromptLoop.Rehearsal.Disk
import PromptLoop.Rehearsal.Stage
import PromptLoop.Proofs.Act.Frame
import PromptLoop.Proofs.Act.Likeness
import PromptLoop.Proofs.Act.Simulation
import PromptLoop.Proofs.Text.Blank
import PromptLoop.Proofs.Text.CharClass
import PromptLoop.Proofs.Text.Integer
import PromptLoop.Proofs.Terminal.Decoration
import PromptLoop.Proofs.Indent.Refusal
import PromptLoop.Proofs.Indent.Reindentation
import PromptLoop.Proofs.Indent.Scanning
import PromptLoop.Proofs.Indent.Literals
import PromptLoop.Proofs.Indent.Balanced
import PromptLoop.Proofs.Indent.Keywords
import PromptLoop.Proofs.Indent.Lines
import PromptLoop.Proofs.Indent.Program
import PromptLoop.Proofs.Indent.ColonLines
import PromptLoop.Proofs.Indent.ColonBlocks
import PromptLoop.Proofs.Indent.ColonShape
import PromptLoop.Proofs.Indent.LeadingClosers
import PromptLoop.Proofs.Indent.Outline
import PromptLoop.Proofs.Indent.Units
import PromptLoop.Proofs.Recovery.Machine
import PromptLoop.Proofs.Recovery.Prompts
import PromptLoop.Proofs.Recovery.Interrupts
import PromptLoop.Proofs.Recovery.Fallback
import PromptLoop.Proofs.Recovery.Draining
import PromptLoop.Proofs.Recovery.Exhaustion
import PromptLoop.Proofs.Session.Reads
import PromptLoop.Proofs.Session.Ledger
import PromptLoop.Proofs.Session.Forwarding
import PromptLoop.Proofs.Session.Conduct
import PromptLoop.Proofs.Session.Agreement
import PromptLoop.Proofs.Session.Repainting
import PromptLoop.Proofs.Session.Cancelling
import PromptLoop.Proofs.Session.Replay
import PromptLoop.Proofs.Session.Splitting
import PromptLoop.Proofs.Session.Presentation
import PromptLoop.Proofs.Session.Correction
import PromptLoop.Proofs.Session.Lifecycle
import PromptLoop.Proofs.Session.Ending
import PromptLoop.Proofs.Session.Containment
import PromptLoop.Proofs.Session.Mending
import PromptLoop.Proofs.Console.Buffer
import PromptLoop.Proofs.Console.Lines
import PromptLoop.Proofs.Console.Accounting
import PromptLoop.Proofs.Console.Cancelling
import PromptLoop.Proofs.Console.Containment
import PromptLoop.Proofs.Console.Recognition
import PromptLoop.Proofs.Console.Interruption
import PromptLoop.Proofs.Console.LastFailure
import PromptLoop.Proofs.Console.Listing
import PromptLoop.Proofs.Source.Steps
import PromptLoop.Proofs.Source.Delivery
import PromptLoop.Proofs.Config.Validity
import PromptLoop.Proofs.Log.Failing
import PromptLoop.Proofs.Log.History
import PromptLoop.Proofs.CommandLine.Starting
import PromptLoop.Proofs.CommandLine.Feeding
import PromptLoop.Proofs.CommandLine.ExitStatus
import PromptLoop.Proofs.CommandLine.Misuse
import PromptLoop.Proofs.Source.Readers
import PromptLoop.Proofs.Hook.Standing
import PromptLoop.Proofs.Hook.Firing
import PromptLoop.Proofs.CommandLine.Configuring
import PromptLoop.Proofs.Session.Emptiness
