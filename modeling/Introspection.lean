import Introspection.Config.Decode
import Introspection.Registry.Registration
import Introspection.Proofs.Hierarchy.Reachability
import Introspection.Proofs.Resolution.Chain
import Introspection.Proofs.Registry.Reachable
import Introspection.Proofs.Registry.WellFormed
import Introspection.Proofs.Registry.Consistency
import Introspection.Proofs.Resolution.Substitution
import Introspection.Proofs.Resolution.BuriedVariables
import Introspection.Proofs.Accessor.Override
import Introspection.Proofs.Data.Except
import Introspection.Proofs.Metadata.Members
import Introspection.Proofs.Metadata.Kinds
import Introspection.Proofs.Session.Overrides
import Introspection.Proofs.Metadata.Tables
import Introspection.Proofs.Metadata.Origin
import Introspection.Proofs.Metadata.InStep
import Introspection.Proofs.Metadata.Names
import Introspection.Proofs.Registry.Linking
import Introspection.Proofs.Registry.Dispatch
import Introspection.Proofs.Cache.Runs
import Introspection.Proofs.Cache.Transparency
import Introspection.Proofs.Registry.Assignability
import Introspection.Proofs.Registry.Bridges
import Introspection.Proofs.Registry.Defaults
import Introspection.Proofs.Metadata.Getters
import Introspection.Proofs.Metadata.Inheritance
import Introspection.Proofs.Accessor.Frame
import Introspection.Proofs.Permission.Sealing
import Introspection.Proofs.Session.Calls
import Introspection.Proofs.Session.Sealing
import Introspection.Proofs.Config.Application
import Introspection.Proofs.Session.Grants
import Introspection.Proofs.Metadata.Totality
import Introspection.Proofs.Metadata.Stability
import Introspection.Proofs.Hierarchy.DepthFirst
import Introspection.Proofs.Metadata.Collection
import Introspection.Proofs.Metadata.Components
import Introspection.Proofs.Accessor.ReadBack
import Introspection.Proofs.Metadata.Fields
import Introspection.Proofs.Registry.Layouts
import Introspection.Proofs.Accessor.Denial
import Introspection.Proofs.Object.Writing
import Introspection.Proofs.Accessor.FieldAccess
import Introspection.Proofs.Registry.FieldBodies
import Introspection.Proofs.Object.NameAccess
import Introspection.Proofs.Hierarchy.Search
import Introspection.Proofs.Resolution.Failure
import Introspection.Proofs.Metadata.Spelling
import Introspection.Proofs.Registry.Independence
import Introspection.Proofs.Permission.Combination
