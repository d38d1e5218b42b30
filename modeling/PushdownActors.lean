import PushdownActors.Action
import PushdownActors.Action.Program
import PushdownActors.Automaton
import PushdownActors.Automaton.Build
import PushdownActors.Automaton.BuildError
import PushdownActors.Choice
import PushdownActors.Choice.ChaCha
import PushdownActors.Choice.Source
import PushdownActors.CommandLine
import PushdownActors.CommandLine.Arguments
import PushdownActors.Config
import PushdownActors.Config.Environment
import PushdownActors.Config.File
import PushdownActors.Config.Load
import PushdownActors.Config.Record
import PushdownActors.Config.Settings
import PushdownActors.Declaration
import PushdownActors.Declaration.Record
import PushdownActors.Dispatch
import PushdownActors.Event
import PushdownActors.Exploration
import PushdownActors.Exploration.Record
import PushdownActors.Failure
import PushdownActors.Failure.Record
import PushdownActors.MachineId
import PushdownActors.Mailbox
import PushdownActors.Main
import PushdownActors.PingPong
import PushdownActors.Pool
import PushdownActors.Registry
import PushdownActors.RuntimeError
import PushdownActors.Script
import PushdownActors.Script.Instruction
import PushdownActors.Script.Template
import PushdownActors.Session
import PushdownActors.Stack
import PushdownActors.Text.Numeral
import PushdownActors.Text.Radix
import PushdownActors.Value
import PushdownActors.Value.Print
import PushdownActors.Value.Read
import PushdownActors.World
import PushdownActors.World.Step
import PushdownActors.Yaml
import PushdownActors.Yaml.Character
import PushdownActors.Yaml.Folding
import PushdownActors.Yaml.Read
import PushdownActors.Yaml.Scalar
import PushdownActors.Yaml.Scan
import PushdownActors.Yaml.Token
import PushdownActors.Proofs.Traffic
import PushdownActors.Proofs.Mailbox
import PushdownActors.Proofs.Transition
import PushdownActors.Proofs.Run
import PushdownActors.Proofs.Frames
import PushdownActors.Proofs.Accounting
import PushdownActors.Proofs.Nesting
import PushdownActors.Proofs.History
import PushdownActors.Proofs.Quiescence
import PushdownActors.Proofs.Delivery
import PushdownActors.Proofs.Replay
import PushdownActors.Proofs.Checked
import PushdownActors.Proofs.Bracket
import PushdownActors.Proofs.Deadlock
import PushdownActors.Proofs.StepBound
import PushdownActors.Proofs.Breakdown
import PushdownActors.Proofs.FallThrough
import PushdownActors.Proofs.Aftermath
import PushdownActors.Proofs.Declared
import PushdownActors.Proofs.Integrity
import PushdownActors.Proofs.WellFormed
import PushdownActors.Proofs.Lifetime
import PushdownActors.Proofs.Seclusion
import PushdownActors.Proofs.Lockstep
import PushdownActors.Proofs.Draining
import PushdownActors.Proofs.Independence
import PushdownActors.Proofs.Cutoff
import PushdownActors.Proofs.SingleState
import PushdownActors.Proofs.Monitors
import PushdownActors.Proofs.Pools
import PushdownActors.Proofs.Disciplines
import PushdownActors.Proofs.Course
import PushdownActors.Proofs.Rally
import PushdownActors.Proofs.WrittenForm
import PushdownActors.Proofs.PushesAsGotos
import PushdownActors.Proofs.Kinds
import PushdownActors.Proofs.Sources
import PushdownActors.Proofs.Selection
import PushdownActors.Proofs.Passage
import PushdownActors.Proofs.Topmost
import PushdownActors.Proofs.Refusal
import PushdownActors.Proofs.Eras
import PushdownActors.Proofs.Termination
import PushdownActors.Proofs.Layers
import PushdownActors.Proofs.Requests
import PushdownActors.Proofs.Receipt
import PushdownActors.Proofs.Quiet
import PushdownActors.Proofs.Sorting
import PushdownActors.Proofs.Choices
import PushdownActors.Proofs.FirstFailure
import PushdownActors.Proofs.FlatYaml
import PushdownActors.Proofs.SavedConfig
import PushdownActors.Proofs.Origins
import PushdownActors.Proofs.Conduct
import PushdownActors.Proofs.Attribution
