import BuilderGen.Derive
import BuilderGen.Example
import BuilderGen.Main
import BuilderGen.Proofs.BuildLines
import BuilderGen.Proofs.CheckedLists
import BuilderGen.Proofs.DeriveComplaints
import BuilderGen.Proofs.DiskWrites
import BuilderGen.Proofs.DryRuns
import BuilderGen.Proofs.EntryContexts
import BuilderGen.Proofs.FluentCalls
import BuilderGen.Proofs.JsonOutput
import BuilderGen.Proofs.Listings
import BuilderGen.Proofs.LiteralNames
import BuilderGen.Proofs.ModulePaths
import BuilderGen.Proofs.OutlineModules
import BuilderGen.Proofs.PassOutcomes
import BuilderGen.Proofs.ProjectLookup
import BuilderGen.Proofs.Regeneration
import BuilderGen.Proofs.RenameGrammar
import BuilderGen.Proofs.RepeatedRuns
import BuilderGen.Proofs.RequestLists
import BuilderGen.Proofs.RequestSpellings
import BuilderGen.Proofs.ScanLocations
import BuilderGen.Proofs.SelfSubstitution
import BuilderGen.Proofs.SelfTypes
import BuilderGen.Proofs.SetterStyles
import BuilderGen.Proofs.SlotFiles
import BuilderGen.Proofs.SlotKeys
import BuilderGen.Proofs.SlotNames
import BuilderGen.Proofs.StoreRuns
import BuilderGen.Proofs.SynthesisOutcomes
import BuilderGen.Proofs.TargetSpellings
import BuilderGen.Proofs.TypeTexts
