import ScopedViews.Number.Read
import ScopedViews.Number.Shortest
import ScopedViews.Text.Blank
import ScopedViews.Text.Case
import ScopedViews.Script.Token
import ScopedViews.Script.Reader
import ScopedViews.Script.Grammar.Expression
import ScopedViews.Script.Parse
import ScopedViews.Sandbox.Value
import ScopedViews.Sandbox.Operators
import ScopedViews.Sandbox.Evaluate
import ScopedViews.Sandbox.Metadata
import ScopedViews.Digest
import ScopedViews.Path
import ScopedViews.Json.Reader
import ScopedViews.Json.Printer
import ScopedViews.Options
import ScopedViews.Loader
import ScopedViews.Block
import ScopedViews.Rewrite
import ScopedViews.Script.Print.Sheet
import ScopedViews.Script.Print.Level
import ScopedViews.Script.Print.Tree
import ScopedViews.Script.Scope
import ScopedViews.Script.Walk
import ScopedViews.Script.Transpile
import ScopedViews.Store
import ScopedViews.Css.Minify
import ScopedViews.Engine
import ScopedViews.CommandLine
import ScopedViews.Main
import ScopedViews.Proofs.Rewrite.Comments
import ScopedViews.Proofs.Rewrite.Includes
import ScopedViews.Proofs.Rewrite.Marks
import ScopedViews.Proofs.Engine.Stages
import ScopedViews.Proofs.Engine.Outcomes
import ScopedViews.Proofs.Engine.Assembly
import ScopedViews.Proofs.Engine.Directives
import ScopedViews.Proofs.Loader.Additions
import ScopedViews.Proofs.Engine.Places
import ScopedViews.Proofs.Engine.Interruption
import ScopedViews.Proofs.Engine.Plain
import ScopedViews.Proofs.Engine.Coherence
import ScopedViews.Proofs.Engine.Separation
import ScopedViews.Proofs.Engine.Names
import ScopedViews.Proofs.Engine.Versions
import ScopedViews.Proofs.Engine.Effects
import ScopedViews.Proofs.Sandbox.Plan
import ScopedViews.Proofs.Sandbox.Evaluation
import ScopedViews.Proofs.Sandbox.Execution
import ScopedViews.Proofs.Engine.Fragments
import ScopedViews.Proofs.Sandbox.Halts
import ScopedViews.Proofs.Store.Exchange
import ScopedViews.Proofs.Engine.Footprint
import ScopedViews.Proofs.Engine.Order
import ScopedViews.Proofs.Engine.Repetition
import ScopedViews.Proofs.Engine.Imports
import ScopedViews.Proofs.Project.Failures
import ScopedViews.Proofs.Sandbox.Budget
import ScopedViews.Proofs.Sandbox.Trace
import ScopedViews.Proofs.Number.Order
import ScopedViews.Proofs.Script.Literals
import ScopedViews.Proofs.Sandbox.Contents
import ScopedViews.Proofs.Sandbox.Methods
import ScopedViews.Proofs.Sandbox.Upkeep.Rules
import ScopedViews.Proofs.Sandbox.Upkeep.Expressions
import ScopedViews.Proofs.Sandbox.Upkeep.Statements
import ScopedViews.Proofs.Sandbox.Termination
import ScopedViews.Proofs.Sandbox.Limits
import ScopedViews.Proofs.Sandbox.Charges
import ScopedViews.Proofs.Sandbox.Metering
import ScopedViews.Proofs.Sandbox.Balance
import ScopedViews.Proofs.Sandbox.Functions
import ScopedViews.Proofs.Engine.Addresses
import ScopedViews.Proofs.Engine.Identifiers
import ScopedViews.Proofs.Sandbox.Mutations
import ScopedViews.Proofs.Sandbox.Finalizers
import ScopedViews.Proofs.Sandbox.Members
import ScopedViews.Proofs.Script.Reading
import ScopedViews.Proofs.Script.Denotation
import ScopedViews.Proofs.Sandbox.Callbacks
import ScopedViews.Proofs.Sandbox.Declarations
import ScopedViews.Proofs.Text.Words
import ScopedViews.Proofs.Path.Reduction
import ScopedViews.Proofs.Path.Targets
import ScopedViews.Proofs.Block.Tags
import ScopedViews.Proofs.Block.Owned
import ScopedViews.Proofs.Block.Imported
import ScopedViews.Proofs.Store.Changes
import ScopedViews.Proofs.Store.Commits
import ScopedViews.Proofs.Sandbox.Printing
import ScopedViews.Proofs.Sandbox.Indices
import ScopedViews.Proofs.Sandbox.Properties
import ScopedViews.Proofs.Number.Equality
import ScopedViews.Proofs.Sandbox.Equality
import ScopedViews.Proofs.Number.Whole
import ScopedViews.Proofs.Number.Digits
import ScopedViews.Proofs.Sandbox.Extension
import ScopedViews.Proofs.Sandbox.Slices
import ScopedViews.Proofs.Text.Splitting
import ScopedViews.Proofs.Sandbox.Positions
import ScopedViews.Proofs.Sandbox.Joining
