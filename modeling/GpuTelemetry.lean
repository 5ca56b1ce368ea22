import GpuTelemetry.Json.Reader
import GpuTelemetry.Laboratory
import GpuTelemetry.Main
import GpuTelemetry.Otlp.Wire
import GpuTelemetry.Run.Lemmas
import GpuTelemetry.Survey
import GpuTelemetry.Proofs.Moves
import GpuTelemetry.Proofs.Session.Steps
import GpuTelemetry.Proofs.Session.Queries
import GpuTelemetry.Proofs.Session.Episodes
import GpuTelemetry.Proofs.Session.Accounts
import GpuTelemetry.Proofs.Session.Registry
import GpuTelemetry.Proofs.Laboratory.Queries
import GpuTelemetry.Proofs.Dialogue
import GpuTelemetry.Proofs.Output
import GpuTelemetry.Proofs.Discipline
import GpuTelemetry.Proofs.Session.Parts
import GpuTelemetry.Proofs.Collection.Course
import GpuTelemetry.Proofs.Collection.Outcome
import GpuTelemetry.Proofs.Collection.Backends
import GpuTelemetry.Proofs.Collection.Gathering
import GpuTelemetry.Proofs.Collection.Escapes
import GpuTelemetry.Proofs.Collection.Apart
import GpuTelemetry.Proofs.Command.Session
import GpuTelemetry.Proofs.Command.Printing
import GpuTelemetry.Proofs.Command.Agreement
import GpuTelemetry.Proofs.Otlp
import GpuTelemetry.Proofs.Command.Formats
import GpuTelemetry.Proofs.Collection.Interference
import GpuTelemetry.Proofs.Numeral
import GpuTelemetry.Proofs.Report.Line
import GpuTelemetry.Proofs.Command.ReadBack
import GpuTelemetry.Proofs.Session.InStep
import GpuTelemetry.Proofs.Shutdown.Twins
import GpuTelemetry.Proofs.Shutdown.Unnoticed
import GpuTelemetry.Proofs.Otlp.Grouping
import GpuTelemetry.Proofs.Otlp.Wire.Fields
import GpuTelemetry.Proofs.Otlp.Wire.Messages
import GpuTelemetry.Proofs.Otlp.Wire.Reports
import GpuTelemetry.Proofs.Json.Document
import GpuTelemetry.Proofs.Otlp.Document
import GpuTelemetry.Proofs.Command.Documents
import GpuTelemetry.Proofs.Command.Statuses
import GpuTelemetry.Proofs.Settings
import GpuTelemetry.Proofs.Command.Precedence
import GpuTelemetry.Proofs.Command.Verbosity
import GpuTelemetry.Proofs.Sampling.Rounds
import GpuTelemetry.Proofs.Sampling.Average
import GpuTelemetry.Proofs.Sampling.Cursor
import GpuTelemetry.Proofs.Sampling.Buffer
import GpuTelemetry.Proofs.Simulated.HandedOut
import GpuTelemetry.Proofs.Collection.Heedless
import GpuTelemetry.Proofs.Nvml.Names
import GpuTelemetry.Proofs.Session.Bulk
import GpuTelemetry.Proofs.Command.Listing
import GpuTelemetry.Proofs.Command.Respelling
import GpuTelemetry.Proofs.Text.Quoted
import GpuTelemetry.Proofs.Command.Indices
import GpuTelemetry.Proofs.Session.Feeds
import GpuTelemetry.Proofs.Laboratory.Feeds
import GpuTelemetry.Proofs.Otlp.Refusals
import GpuTelemetry.Proofs.Settings.Grammar
import GpuTelemetry.Proofs.Session.Ledger
import GpuTelemetry.Proofs.Settings.Blanks
import GpuTelemetry.Proofs.Session.Exclusive
import GpuTelemetry.Proofs.Session.Local
import GpuTelemetry.Proofs.Laboratory.Handles
