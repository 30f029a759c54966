import BundleHardening.Host.Machine
import BundleHardening.Main
import BundleHardening.Proofs.Text.Cut
import BundleHardening.Proofs.Text.Overlap
import BundleHardening.Proofs.Text.Occurrences
import BundleHardening.Proofs.Pattern.Threads
import BundleHardening.Proofs.Pattern.Form
import BundleHardening.Proofs.Pattern.Parts
import BundleHardening.Proofs.Rule
import BundleHardening.Proofs.Pattern.Literal
import BundleHardening.Proofs.Pattern.Abort
import BundleHardening.Proofs.Pattern.Positions
import BundleHardening.Proofs.Pattern.Trials
import BundleHardening.Proofs.Pattern.Matches
import BundleHardening.Proofs.Rule.FirstFailure
import BundleHardening.Proofs.Template
import BundleHardening.Proofs.Hardening.Entry
import BundleHardening.Proofs.Hardening.ObjectLiteral
import BundleHardening.Proofs.Hardening.LiteralScanner
import BundleHardening.Proofs.Hardening.GuardTwice
import BundleHardening.Proofs.Hardening.Entered
import BundleHardening.Proofs.Hardening.Properties
import BundleHardening.Proofs.Hardening.Accesses
import BundleHardening.Proofs.Hardening.AccessScan
import BundleHardening.Proofs.Hardening.GuardLoop
import BundleHardening.Proofs.Hardening.Bootstrap
import BundleHardening.Proofs.Hardening.Acceptance
import BundleHardening.Proofs.Hardening.Leftovers
import BundleHardening.Proofs.Hardening.Registry
import BundleHardening.Proofs.Hardening.FirstRegistry
import BundleHardening.Proofs.Hardening.MainChunk
import BundleHardening.Proofs.Hardening.Refusals
import BundleHardening.Proofs.Hardening.DetectedLayout
import BundleHardening.Proofs.Hardening.Frame
import BundleHardening.Proofs.Hardening.SingleEntry
import BundleHardening.Proofs.Hardening.RemainingRegistry
import BundleHardening.Proofs.Hardening.Marks
import BundleHardening.Proofs.Hardening.Decision
import BundleHardening.Proofs.RuleSet.Verdict
import BundleHardening.Proofs.RuleSet.Relaxed
import BundleHardening.Proofs.RuleSet.Composition
import BundleHardening.Proofs.RuleSet.Dumps
import BundleHardening.Proofs.RuleSet.Origin
import BundleHardening.Proofs.Render
import BundleHardening.Proofs.Host.Program
import BundleHardening.Proofs.Journal
import BundleHardening.Proofs.Json.Quoted
import BundleHardening.Proofs.Json.Texts
import BundleHardening.Proofs.Json.Lists
import BundleHardening.Proofs.Hardening.PinnedProperties
import BundleHardening.Proofs.Hook.Input
import BundleHardening.Proofs.Hook.Reply
import BundleHardening.Proofs.Hook.RoundTrip
import BundleHardening.Proofs.Hook.SizeLimit
import BundleHardening.Proofs.Pattern.ExactText
import BundleHardening.Proofs.Pattern.Dialects
import BundleHardening.Proofs.RuleSet.Unreadable
import BundleHardening.Proofs.File.Path
import BundleHardening.Proofs.File.Tree
import BundleHardening.Proofs.Host.Files
import BundleHardening.Proofs.Host.Frame
import BundleHardening.Proofs.Host.Trace
import BundleHardening.Proofs.Settings.Discovery
import BundleHardening.Proofs.Settings.Keys
import BundleHardening.Proofs.Settings.Layers
import BundleHardening.Proofs.Journal.Line
import BundleHardening.Proofs.Journal.History
import BundleHardening.Proofs.Journal.Outcome
import BundleHardening.Proofs.CommandLine.Rewrite
import BundleHardening.Proofs.CommandLine.SparedFiles
