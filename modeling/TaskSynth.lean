import TaskSynth.Binding.Support
import TaskSynth.Binding.Synthesis
import TaskSynth.Cli.Command
import TaskSynth.Cli.LogLine
import TaskSynth.FileTree.Basic
import TaskSynth.Main
import TaskSynth.Manifest.Assembly
import TaskSynth.Marker.Registry
import TaskSynth.Output.Run
import TaskSynth.Proofs.Binding.Lookup
import TaskSynth.Proofs.Binding.NameLiteral
import TaskSynth.Proofs.Cli.DryRun
import TaskSynth.Proofs.Cli.Failure
import TaskSynth.Proofs.Manifest.EnvNames
import TaskSynth.Proofs.Manifest.WellFormed
import TaskSynth.Proofs.Output.Concatenation
import TaskSynth.Proofs.Output.Containment
import TaskSynth.Proofs.Output.Effect
import TaskSynth.Proofs.Output.Overlap
import TaskSynth.Proofs.Package.Agreement
import TaskSynth.Proofs.Package.Interleaving
import TaskSynth.Proofs.Snapshot.DocumentOrder
import TaskSynth.Proofs.Snapshot.Warnings
import TaskSynth.Proofs.StructTag.Agreement
import TaskSynth.Shape.Decode
import TaskSynth.Snapshot.Collection
import TaskSynth.StructTag
import TaskSynth.Template.Render
import TaskSynth.Yaml.Printer
import TaskSynth.Proofs.Schema.Properties
import TaskSynth.Proofs.StructTag.Writing
import TaskSynth.Proofs.Manifest.Outcomes
import TaskSynth.Proofs.Binding.Layout
import TaskSynth.Proofs.Manifest.Referent
import TaskSynth.Proofs.Marker.Acceptance
import TaskSynth.Proofs.Package.Encoding
import TaskSynth.Proofs.Output.Kustomization
import TaskSynth.Proofs.Manifest.Arguments
import TaskSynth.Proofs.Manifest.BinaryName
import TaskSynth.Proofs.Package.Reports
import TaskSynth.Proofs.Cli.Support
import TaskSynth.Proofs.StructTag.Scan
import TaskSynth.Proofs.Binding.Operations
import TaskSynth.Proofs.Binding.Year
