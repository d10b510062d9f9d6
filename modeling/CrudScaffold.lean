import CrudScaffold.Main
import CrudScaffold.Proofs.Archive.Truncation
import CrudScaffold.Proofs.Assembly
import CrudScaffold.Proofs.CommandLine.Init
import CrudScaffold.Proofs.CommandLine.Storing
import CrudScaffold.Proofs.Config.Override
import CrudScaffold.Proofs.Entity.Key
import CrudScaffold.Proofs.FileTree.History
import CrudScaffold.Proofs.Naming.NormalForm
import CrudScaffold.Proofs.Project.ClassOrder
import CrudScaffold.Proofs.Project.Confinement
import CrudScaffold.Proofs.Project.ConstraintAgreement
import CrudScaffold.Proofs.Project.FallbackName
import CrudScaffold.Proofs.Project.Identifier
import CrudScaffold.Proofs.Project.IgnoredRelations
import CrudScaffold.Proofs.Project.ImportClash
import CrudScaffold.Proofs.Project.ImportClosure
import CrudScaffold.Proofs.Project.ImportUse
import CrudScaffold.Proofs.Project.Injection
import CrudScaffold.Proofs.Project.KeyAgreement
import CrudScaffold.Proofs.Project.LengthLimit
import CrudScaffold.Proofs.Project.Manifest
import CrudScaffold.Proofs.Project.MapperRoundTrip
import CrudScaffold.Proofs.Project.MappingClosure
import CrudScaffold.Proofs.Project.Members
import CrudScaffold.Proofs.Project.Warnings
import CrudScaffold.Proofs.Relationship.Agreement
import CrudScaffold.Proofs.Relationship.JoinTable
import CrudScaffold.Proofs.Relationship.Reordering
import CrudScaffold.Proofs.Snapshot.Leniency
import CrudScaffold.Proofs.Store.Atomicity
import CrudScaffold.Proofs.Store.Interleaving
import CrudScaffold.Proofs.Store.Listing
import CrudScaffold.Proofs.Store.Refinement
