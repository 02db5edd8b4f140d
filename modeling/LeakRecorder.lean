import LeakRecorder.Options.Text
import LeakRecorder.Payload.Json
import LeakRecorder.Playback
import LeakRecorder.Profiler.Emission
import LeakRecorder.Profiler.Marking
import LeakRecorder.Profiler.Rotation
import LeakRecorder.Profiler.TypeSet
import LeakRecorder.Proofs.Budget
import LeakRecorder.Proofs.Chunk
import LeakRecorder.Proofs.ChunkContents
import LeakRecorder.Proofs.EpochStart
import LeakRecorder.Proofs.Layout
import LeakRecorder.Proofs.Recording
import LeakRecorder.Proofs.Repetition
import LeakRecorder.Proofs.RoundTrip
import LeakRecorder.Sink.Outlet
import LeakRecorder.Proofs.PartialWrite
import LeakRecorder.Proofs.Tuning
import LeakRecorder.Proofs.Settling
import LeakRecorder.Proofs.RotationOutcome
import LeakRecorder.Proofs.Retrying
import LeakRecorder.Proofs.MarkedWindow
import LeakRecorder.Proofs.PendingRecords
import LeakRecorder.Proofs.TagCounts
import LeakRecorder.Proofs.Periods
import LeakRecorder.Proofs.CacheMap
import LeakRecorder.Proofs.ExitHistory
import LeakRecorder.Proofs.CutStream
import LeakRecorder.Proofs.CutPayload
import LeakRecorder.Proofs.Lookups
import LeakRecorder.Proofs.SharedDirectory
import LeakRecorder.Proofs.UnloadedTags
import LeakRecorder.Proofs.SafepointScopes
import LeakRecorder.Proofs.Boundary
import LeakRecorder.Proofs.ReservedCounts
