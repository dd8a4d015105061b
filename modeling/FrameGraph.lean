import FrameGraph.Capability
import FrameGraph.Context
import FrameGraph.Data.Datum
import FrameGraph.Data.Json.Number
import FrameGraph.Data.Json.Printer
import FrameGraph.Data.Json.Quoted
import FrameGraph.Data.Json.Reader
import FrameGraph.Data.Text
import FrameGraph.Data.Toml.Number
import FrameGraph.Data.Toml.Printer
import FrameGraph.Data.Toml.Quoted
import FrameGraph.Data.Toml.Reader
import FrameGraph.Data.Toml.Table
import FrameGraph.Demo
import FrameGraph.Device
import FrameGraph.Device.Life
import FrameGraph.Device.Session
import FrameGraph.Device.Thread
import FrameGraph.Device.Wiring
import FrameGraph.Drive
import FrameGraph.Edit
import FrameGraph.Emission
import FrameGraph.Error
import FrameGraph.Graph.Basic
import FrameGraph.Graph.Build
import FrameGraph.Graph.History
import FrameGraph.Graph.Links
import FrameGraph.Graph.Node
import FrameGraph.Graph.Ports
import FrameGraph.Graph.Requests
import FrameGraph.HostStream
import FrameGraph.HostStreams
import FrameGraph.Identifier
import FrameGraph.Kind
import FrameGraph.LogFilter
import FrameGraph.Main
import FrameGraph.Message
import FrameGraph.Negotiation
import FrameGraph.Node.Body
import FrameGraph.Node.Bridge
import FrameGraph.Node.Camera
import FrameGraph.Node.Camera.Shooting
import FrameGraph.Node.NeuralNetwork
import FrameGraph.Node.Producer
import FrameGraph.Node.State
import FrameGraph.Node.StreamSync
import FrameGraph.NodeKind
import FrameGraph.Number.Floating
import FrameGraph.Number.Layout
import FrameGraph.Number.Power
import FrameGraph.Number.Rounding
import FrameGraph.Number.Shortest
import FrameGraph.Panic
import FrameGraph.Plan
import FrameGraph.Port
import FrameGraph.Process
import FrameGraph.Process.Solo
import FrameGraph.Process.Work
import FrameGraph.Proofs.Data.Digits
import FrameGraph.Proofs.Data.Json.Documents
import FrameGraph.Proofs.Data.Json.Numbers
import FrameGraph.Proofs.Data.Json.Strings
import FrameGraph.Proofs.Data.Numerals
import FrameGraph.Proofs.Data.Tables
import FrameGraph.Proofs.Data.Toml.Assignments
import FrameGraph.Proofs.Data.Toml.Documents
import FrameGraph.Proofs.Data.Toml.Numbers
import FrameGraph.Proofs.Data.Toml.Strings
import FrameGraph.Proofs.Device.Audience
import FrameGraph.Proofs.Device.Courses
import FrameGraph.Proofs.Device.Dataflow
import FrameGraph.Proofs.Device.Flow
import FrameGraph.Proofs.Device.Launching
import FrameGraph.Proofs.Device.Lifecycle
import FrameGraph.Proofs.Device.Moving
import FrameGraph.Proofs.Device.Opening
import FrameGraph.Proofs.Device.Relaying
import FrameGraph.Proofs.Device.Routes
import FrameGraph.Proofs.Device.Sending
import FrameGraph.Proofs.Device.Starting
import FrameGraph.Proofs.Device.Threads
import FrameGraph.Proofs.Device.Wiring
import FrameGraph.Proofs.Graph.Committing
import FrameGraph.Proofs.Graph.Edits
import FrameGraph.Proofs.Graph.Fates
import FrameGraph.Proofs.Graph.Handles
import FrameGraph.Proofs.Graph.Identifiers
import FrameGraph.Proofs.Graph.Keys
import FrameGraph.Proofs.Graph.Lifetime
import FrameGraph.Proofs.Graph.Linking
import FrameGraph.Proofs.Graph.Naming
import FrameGraph.Proofs.Graph.Nodes
import FrameGraph.Proofs.Graph.Outcomes
import FrameGraph.Proofs.Graph.Planning
import FrameGraph.Proofs.Graph.Registering
import FrameGraph.Proofs.Graph.Reordering
import FrameGraph.Proofs.Graph.Requesting
import FrameGraph.Proofs.Graph.Typing
import FrameGraph.Proofs.HostStreams.Draining
import FrameGraph.Proofs.HostStreams.Sets
import FrameGraph.Proofs.Negotiation
import FrameGraph.Proofs.Negotiation.Granting
import FrameGraph.Proofs.Number.Order
import FrameGraph.Proofs.Number.Ranks
import FrameGraph.Proofs.Number.Shortest
import FrameGraph.Proofs.Number.Widening
import FrameGraph.Proofs.Plan.Adjacency
import FrameGraph.Proofs.Plan.Checking
import FrameGraph.Proofs.Plan.Circles
import FrameGraph.Proofs.Plan.Sorting
import FrameGraph.Proofs.Process.Acts
import FrameGraph.Proofs.Process.Bursts
import FrameGraph.Proofs.Process.Exposures
import FrameGraph.Proofs.Process.Frames
import FrameGraph.Proofs.Process.Inference
import FrameGraph.Proofs.Process.Kinds
import FrameGraph.Proofs.Process.Roles
import FrameGraph.Proofs.Process.Sets
import FrameGraph.Proofs.Process.Steps
import FrameGraph.Proofs.Process.Stills
import FrameGraph.Proofs.Process.Working
import FrameGraph.Proofs.Process.WorkingOff
import FrameGraph.Proofs.Queue.Accounting
import FrameGraph.Proofs.Queue.Calls
import FrameGraph.Proofs.Queue.Trying
import FrameGraph.Proofs.Queue.Wakeups
import FrameGraph.Proofs.Scaler
import FrameGraph.Proofs.Scaler.Preference
import FrameGraph.Proofs.Scaler.Projection
import FrameGraph.Proofs.Search
import FrameGraph.Proofs.Settings.Files
import FrameGraph.Proofs.Settings.Sections
import FrameGraph.Proofs.Synchronizer.Alignment
import FrameGraph.Proofs.Synchronizer.Conservation
import FrameGraph.Proofs.Synchronizer.Matching
import FrameGraph.Proofs.Synchronizer.Push
import FrameGraph.Proofs.Synchronizer.Retention
import FrameGraph.Proofs.Synchronizer.Spread
import FrameGraph.Proofs.Synchronizer.Turns
import FrameGraph.Queue
import FrameGraph.Queue.Store
import FrameGraph.Queue.Waiting
import FrameGraph.Rate
import FrameGraph.Scaler
import FrameGraph.Settings
import FrameGraph.Settings.File
import FrameGraph.Synchronizer
import FrameGraph.Text.Alphanumeric
import FrameGraph.Text.Blank
import FrameGraph.Text.Combining
import FrameGraph.Text.Invisible
import FrameGraph.Text.Quoted
import FrameGraph.Text.Ranges
import FrameGraph.Text.Unassigned
import FrameGraph.Wire.Nodes
import FrameGraph.Wire.Problem
import FrameGraph.Wire.Reading
import FrameGraph.Wire.Report
