import EntitySchema.Main
import EntitySchema.Proofs.Compilation.BackReference
import EntitySchema.Proofs.Compilation.Closure
import EntitySchema.Proofs.Compilation.EmittedLink
import EntitySchema.Proofs.Compilation.Matching
import EntitySchema.Proofs.Compilation.Members
import EntitySchema.Proofs.Compilation.Outcome
import EntitySchema.Proofs.Compilation.Reordering
import EntitySchema.Proofs.Compilation.Symmetry
import EntitySchema.Proofs.Catalog.Union
import EntitySchema.Proofs.Compilation.Composition
import EntitySchema.Proofs.Catalog.Visibility
import EntitySchema.Proofs.Compilation.Noninterference
import EntitySchema.Proofs.Compilation.MemberNames
import EntitySchema.Proofs.Identifier.Words
import EntitySchema.Proofs.Identifier.Absorption
import EntitySchema.Proofs.Compilation.SortKeys
import EntitySchema.Proofs.Compilation.KeyClash
import EntitySchema.Proofs.Model.RoundTrip
import EntitySchema.Proofs.Contract.DescriptorSchema
import EntitySchema.Proofs.Source.Containment
import EntitySchema.Proofs.Run.Overwriting
import EntitySchema.Proofs.Run.FailedRun
import EntitySchema.Proofs.Run.LastStatus
import EntitySchema.Proofs.Run.Record
import EntitySchema.Proofs.Run.Regeneration
import EntitySchema.Proofs.Compilation.SelfReference
import EntitySchema.Proofs.Compilation.Verdict
import EntitySchema.Proofs.Source.FileSet
import EntitySchema.Proofs.Source.MutationNames
import EntitySchema.Proofs.Catalog.Likeness
import EntitySchema.Proofs.Compilation.Likeness
import EntitySchema.Proofs.Compilation.DerivedAnnotations
import EntitySchema.Proofs.Compilation.Independence
import EntitySchema.Proofs.Compilation.TypeNames
import EntitySchema.Proofs.Compilation.InferredHint
import EntitySchema.Proofs.Source.BuilderChain
import EntitySchema.Proofs.Files.CrashSafety
import EntitySchema.Proofs.Source.Imports
import EntitySchema.Proofs.Source.ScalarModels
import EntitySchema.Proofs.Descriptor.Omission
import EntitySchema.Proofs.Bounds
import EntitySchema.Proofs.Compilation.FieldKeys
import EntitySchema.Proofs.Catalog.Representation
