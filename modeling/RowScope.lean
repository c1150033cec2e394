import RowScope.Number.Double
import RowScope.Number.Numeral
import RowScope.Number.Shortest
import RowScope.Number.Layout
import RowScope.Text.Invisible
import RowScope.Text.Quoted
import RowScope.Text.Pad
import RowScope.Dict
import RowScope.Error
import RowScope.Log
import RowScope.Memory
import RowScope.Json.Basic
import RowScope.Json.Printer
import RowScope.Json.Reader
import RowScope.Value.Basic
import RowScope.Value.Codec
import RowScope.Comparison
import RowScope.Schema
import RowScope.Expr.Basic
import RowScope.Expr.Binding
import RowScope.Expr.Predicate
import RowScope.Template
import RowScope.Registry
import RowScope.Settings.Basic
import RowScope.Settings.Item
import RowScope.Settings.Path
import RowScope.Toml.Scalar
import RowScope.Toml.Document
import RowScope.Settings.File
import RowScope.Cache
import RowScope.Compilation
import RowScope.Session
import RowScope.Query
import RowScope.Interception
import RowScope.Engine
import RowScope.Host
import RowScope.Proofs.JsonRoundTrip
import RowScope.Proofs.Signature
import RowScope.Proofs.Evaluation
import RowScope.Proofs.Template
import RowScope.Proofs.Registry
import RowScope.Proofs.Cache
import RowScope.Proofs.Compilation
import RowScope.Proofs.Session
import RowScope.Proofs.Query
import RowScope.Proofs.Interception
import RowScope.Proofs.Engine
import RowScope.Proofs.Host
import RowScope.Proofs.Isolation
import RowScope.Proofs.Conjunction
import RowScope.Proofs.EffectivePredicate
import RowScope.Proofs.RegistryIndex
import RowScope.Proofs.Comparison
import RowScope.Proofs.Typing
import RowScope.Proofs.TypeSoundness
import RowScope.Proofs.Resolution
import RowScope.Proofs.Closures
import RowScope.Proofs.SessionHistory
import RowScope.Proofs.CacheUse
import RowScope.Proofs.Recency
import RowScope.Proofs.Demand
import RowScope.Proofs.Accounting
import RowScope.Proofs.Freeze
import RowScope.Proofs.Admission
import RowScope.Proofs.Interchange
import RowScope.Proofs.RegistrationOrder
import RowScope.Proofs.Rounding
import RowScope.Proofs.NumericOrder
import RowScope.Proofs.Convention
import RowScope.Proofs.Refusal
import RowScope.Proofs.Warnings
import RowScope.Proofs.Separation
import RowScope.Proofs.Registration
import RowScope.Proofs.Carriers
import RowScope.Proofs.Substitution
import RowScope.Proofs.MissingValues
import RowScope.Proofs.OrderLaws
import RowScope.Proofs.ExplicitValues
import RowScope.Proofs.ValueRoundTrip
import RowScope.Proofs.KeyLookup
import RowScope.Proofs.Narrowing
import RowScope.Proofs.Sizing
