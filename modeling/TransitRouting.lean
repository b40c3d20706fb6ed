import TransitRouting.Bytes.Hex
import TransitRouting.Number.Binary64
import TransitRouting.Number.Shortest
import TransitRouting.Number.Layout
import TransitRouting.Geo.Coord
import TransitRouting.Ids.Kind
import TransitRouting.Profiling.RequestId
import TransitRouting.Json.Cursor
import TransitRouting.Json.Number
import TransitRouting.Json.Text
import TransitRouting.Json.Value
import TransitRouting.Wire.Varint
import TransitRouting.Wire.Protobuf
import TransitRouting.Text.Utf8
import TransitRouting.Hash.Xxh32
import TransitRouting.Lz4.Block
import TransitRouting.Lz4.Frame
import TransitRouting.Ids.Store
import TransitRouting.Text.Index
import TransitRouting.Ids.Registry
import TransitRouting.Text.Unicode
import TransitRouting.Text.Quote
import TransitRouting.Json.Decode
import TransitRouting.Router.Error
import TransitRouting.Scenario.Types
import TransitRouting.Scenario.Schema
import TransitRouting.Scenario.Check
import TransitRouting.Scenario.Tutorial
import TransitRouting.Plan.Basic
import TransitRouting.Wire.Messages
import TransitRouting.Service.Error
import TransitRouting.Service.Convert
import TransitRouting.Router.Timetable
import TransitRouting.Profiling.Registry
import TransitRouting.Service.Handle
import TransitRouting.Config.Sample
import TransitRouting.Config.Server
import TransitRouting.Config.CommandLine
import TransitRouting.Pool.Semaphore
import TransitRouting.Pool.Error
import TransitRouting.Pool.Workers
import TransitRouting.Pool.Server
import TransitRouting.Pool.Session
import TransitRouting.Pool.Interleaving
import TransitRouting.Main
import TransitRouting.Proofs.Service.HiddenState
import TransitRouting.Proofs.Ids.StoreLookup
import TransitRouting.Proofs.Ids.RegistryCodes
import TransitRouting.Proofs.Wire.VarintRoundTrip
import TransitRouting.Proofs.Ids.Concatenation
import TransitRouting.Proofs.Text.Utf8RoundTrip
import TransitRouting.Proofs.Wire.ProtobufRoundTrip
import TransitRouting.Proofs.Ids.RoundTrip
import TransitRouting.Proofs.Scenario.Indices
import TransitRouting.Proofs.Router.PlanShape
import TransitRouting.Proofs.Lz4.BlockDecode
import TransitRouting.Proofs.Lz4.Compress
import TransitRouting.Proofs.Lz4.FrameRoundTrip
import TransitRouting.Proofs.Pool.Bookkeeping
import TransitRouting.Proofs.Pool.Shutdown
import TransitRouting.Proofs.Pool.Sequential
import TransitRouting.Proofs.Scenario.WellFormed
import TransitRouting.Proofs.Scenario.Schedule
import TransitRouting.Proofs.Scenario.Faults
import TransitRouting.Proofs.Profiling.MergedTable
import TransitRouting.Proofs.Profiling.RequestIdDecimal
import TransitRouting.Proofs.Number.ExactNaturals
import TransitRouting.Proofs.Service.RequestErrors
import TransitRouting.Proofs.Service.RecordedTravelTime
import TransitRouting.Proofs.Number.NearestDouble
import TransitRouting.Proofs.Number.RoundingModel
import TransitRouting.Proofs.Number.Packing
import TransitRouting.Proofs.Number.Operations
import TransitRouting.Proofs.Number.Doubles
import TransitRouting.Proofs.Number.Hypot
import TransitRouting.Proofs.Geo.Distance
import TransitRouting.Proofs.Number.Infinities
import TransitRouting.Proofs.Router.Scan
import TransitRouting.Proofs.Router.Walking
import TransitRouting.Proofs.Router.Departures
import TransitRouting.Proofs.Service.LinkCodes
import TransitRouting.Proofs.Service.ProfilingEntry
import TransitRouting.Proofs.Service.WholeSeconds
import TransitRouting.Proofs.Service.ItineraryOnWire
import TransitRouting.Proofs.Config.Resampling
import TransitRouting.Proofs.Json.Postconditions
import TransitRouting.Proofs.Json.Doubles
import TransitRouting.Proofs.Scenario.Coordinates
import TransitRouting.Proofs.Router.CandidateStops
import TransitRouting.Proofs.Scenario.TimeBounds
import TransitRouting.Proofs.Router.EarliestJourney
import TransitRouting.Proofs.Router.ItineraryTimes
