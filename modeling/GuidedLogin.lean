import GuidedLogin.Context
import GuidedLogin.Decimal.Shortest
import GuidedLogin.Elapsed
import GuidedLogin.Error
import GuidedLogin.Headers
import GuidedLogin.Hook
import GuidedLogin.Inspect
import GuidedLogin.Json.Basic
import GuidedLogin.Json.Fault
import GuidedLogin.Json.Pointer
import GuidedLogin.Json.Printer
import GuidedLogin.Json.Reader
import GuidedLogin.Module
import GuidedLogin.NameMap
import GuidedLogin.Node
import GuidedLogin.Proc
import GuidedLogin.Proofs.Agreement
import GuidedLogin.Proofs.Assembly
import GuidedLogin.Proofs.Blueprint
import GuidedLogin.Proofs.Calls
import GuidedLogin.Proofs.Classification
import GuidedLogin.Proofs.ContentTypes
import GuidedLogin.Proofs.CookieAges
import GuidedLogin.Proofs.CookieAlone
import GuidedLogin.Proofs.CookieEvents
import GuidedLogin.Proofs.CookieSparing
import GuidedLogin.Proofs.CookieTexts
import GuidedLogin.Proofs.Course
import GuidedLogin.Proofs.CutShort
import GuidedLogin.Proofs.Departure
import GuidedLogin.Proofs.Depot
import GuidedLogin.Proofs.FailStop
import GuidedLogin.Proofs.FixedSetups
import GuidedLogin.Proofs.Fleet
import GuidedLogin.Proofs.Gate
import GuidedLogin.Proofs.History
import GuidedLogin.Proofs.InStep
import GuidedLogin.Proofs.InitDiscipline
import GuidedLogin.Proofs.Initial
import GuidedLogin.Proofs.Installed
import GuidedLogin.Proofs.Interleaving
import GuidedLogin.Proofs.Isolation
import GuidedLogin.Proofs.JarAlone
import GuidedLogin.Proofs.LastStep
import GuidedLogin.Proofs.LastWrite
import GuidedLogin.Proofs.Launch
import GuidedLogin.Proofs.Lineups
import GuidedLogin.Proofs.Log
import GuidedLogin.Proofs.LostJar
import GuidedLogin.Proofs.Matched
import GuidedLogin.Proofs.Memory
import GuidedLogin.Proofs.Mirrored
import GuidedLogin.Proofs.OrderFree
import GuidedLogin.Proofs.Persistence
import GuidedLogin.Proofs.Record
import GuidedLogin.Proofs.Registrations
import GuidedLogin.Proofs.Replay
import GuidedLogin.Proofs.RequestStages
import GuidedLogin.Proofs.RequestSteps
import GuidedLogin.Proofs.Retry
import GuidedLogin.Proofs.Schedule
import GuidedLogin.Proofs.SentPairs
import GuidedLogin.Proofs.ServedInOrder
import GuidedLogin.Proofs.SharedValues
import GuidedLogin.Proofs.SignOffs
import GuidedLogin.Proofs.Simulation
import GuidedLogin.Proofs.Sparing
import GuidedLogin.Proofs.StableOrder
import GuidedLogin.Proofs.StepSource
import GuidedLogin.Proofs.StepTurns
import GuidedLogin.Proofs.StockSparing
import GuidedLogin.Proofs.StockTouches
import GuidedLogin.Proofs.StockTwins
import GuidedLogin.Proofs.Submission
import GuidedLogin.Proofs.Suspended
import GuidedLogin.Proofs.TextsRoundTrip
import GuidedLogin.Proofs.Undisturbed
import GuidedLogin.Registry
import GuidedLogin.Request
import GuidedLogin.Response
import GuidedLogin.Scenario.Catalog
import GuidedLogin.Scenario.Contents
import GuidedLogin.Scenario.Flow
import GuidedLogin.Scenario.Report
import GuidedLogin.Scenario.Script
import GuidedLogin.Scenario.ScriptedModule
import GuidedLogin.Scenario.Trial
import GuidedLogin.Scenario.World
import GuidedLogin.Shared
import GuidedLogin.Stock.Catalog
import GuidedLogin.Stock.Cookie
import GuidedLogin.Stock.CustomHeader
import GuidedLogin.Stock.Endpoint
import GuidedLogin.Stock.JsonTransform
import GuidedLogin.Storage
import GuidedLogin.Text.Ascii
import GuidedLogin.Text.Base64
import GuidedLogin.Text.Blank
import GuidedLogin.Text.Split
import GuidedLogin.Text.Utf8
import GuidedLogin.Text.Utf8.Order
import GuidedLogin.Text.Utf8.RoundTrip
import GuidedLogin.Transport.Prepared
import GuidedLogin.Transport.Wire
import GuidedLogin.TypedMap
import GuidedLogin.Unicode.CombiningClass
import GuidedLogin.Unicode.Composed
import GuidedLogin.Unicode.Decomposition
import GuidedLogin.Unicode.Direction
import GuidedLogin.Unicode.Joining
import GuidedLogin.Unicode.Mark
import GuidedLogin.Unicode.Table
import GuidedLogin.Url.Address
import GuidedLogin.Url.Basic
import GuidedLogin.Url.Domain
import GuidedLogin.Url.Domain.Mapping
import GuidedLogin.Url.Form
import GuidedLogin.Url.Form.RoundTrip
import GuidedLogin.Url.Parser
import GuidedLogin.Url.Percent
import GuidedLogin.Url.Punycode
import GuidedLogin.Workflow.Basic
import GuidedLogin.Workflow.Concurrent
import GuidedLogin.Workflow.Turn
