import Nominal.Check
import Nominal.Config.Build
import Nominal.Config.Enrolment
import Nominal.Config.JsonForm
import Nominal.Config.Load
import Nominal.Config.Schema
import Nominal.Diagnostic
import Nominal.Log.Logger
import Nominal.Registration
import Nominal.Registry
import Nominal.Sample
import Nominal.Proofs.Failure
import Nominal.Proofs.Hierarchy
import Nominal.Proofs.Typing
import Nominal.Proofs.FirstError
import Nominal.Proofs.InheritanceOrder
import Nominal.Proofs.Build
import Nominal.Proofs.BuildFaults
import Nominal.Proofs.WellFormed
import Nominal.Proofs.SubtypeOrder
import Nominal.Proofs.TwoPhase
import Nominal.Proofs.Nodes
import Nominal.Proofs.EventStream
import Nominal.Proofs.Correspondence
import Nominal.Proofs.BuiltTable
import Nominal.Proofs.EntryOrder
import Nominal.Proofs.ErrorTypes
import Nominal.Proofs.TypeClosure
import Nominal.Proofs.Stability
import Nominal.Proofs.SchemaMeaning
import Nominal.Proofs.RecordFields
import Nominal.Proofs.SchemaCoverage
import Nominal.Proofs.AncestorWalk
import Nominal.Proofs.Substitution
import Nominal.Proofs.Conservation
import Nominal.Proofs.DistinctKeys
import Nominal.Proofs.SchemaLoading
import Nominal.Proofs.InheritanceCycle
import Nominal.Proofs.MethodAddition
import Nominal.Proofs.PlacementRounds
import Nominal.Proofs.SignatureNames
import Nominal.Proofs.MethodInheritance
import Nominal.Proofs.TypeNames
import Nominal.Proofs.ReceiverSpine
import Nominal.Proofs.Instantiation
import Nominal.Proofs.Enrolment
import Nominal.Proofs.EffectiveFilter
import Nominal.Proofs.JsonSpellings
import Nominal.Proofs.KeyOrder
import Nominal.Proofs.KeptOrder
