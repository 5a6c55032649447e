import ProbeTrace.Foundation.Run
import ProbeTrace.Foundation.SlotTable
import ProbeTrace.Foundation.MessageBuffer
import ProbeTrace.Foundation.Crc
import ProbeTrace.Foundation.Drain
import ProbeTrace.Foundation.TableScan
import ProbeTrace.Metatheory.ErrorSafety
import ProbeTrace.Metatheory.RegistryCoherence
import ProbeTrace.Metatheory.ControlRouting
import ProbeTrace.Metatheory.TaskProbes
import ProbeTrace.Metatheory.Exclusion
import ProbeTrace.Metatheory.ProbeIds
import ProbeTrace.Metatheory.HashAlgebra
import ProbeTrace.Metatheory.Announcements
import ProbeTrace.Metatheory.StaticStorage
import ProbeTrace.Metatheory.MergeSafety
import ProbeTrace.Metatheory.FailedRegistration
import ProbeTrace.Metatheory.Toggling
import ProbeTrace.Metatheory.RecordAgreement
import ProbeTrace.Metatheory.SectionLeaks
import ProbeTrace.Metatheory.Schedule
import ProbeTrace.Metatheory.Uninterrupted
import ProbeTrace.Metatheory.ScheduleRefinement
import ProbeTrace.Metatheory.CausalTrace
import ProbeTrace.Metatheory.ControlBuffers
import ProbeTrace.Metatheory.TraceOver
import ProbeTrace.Metatheory.SnapshotMemory
import ProbeTrace.Metatheory.StepCalls
import ProbeTrace.Metatheory.ReportPass
import ProbeTrace.Metatheory.PassAtomicity
import ProbeTrace.Metatheory.SlotLifetime
import ProbeTrace.Foundation.MaskPort
import ProbeTrace.Metatheory.MaskPort
import ProbeTrace.Foundation.CrcCollisions
import ProbeTrace.Metatheory.NameCollisions
import ProbeTrace.Foundation.Additions
import ProbeTrace.Metatheory.ErrorCauses
import ProbeTrace.Foundation.CallDiscipline
import ProbeTrace.Model.UdpIo
import ProbeTrace.Model.Board
import ProbeTrace.Metatheory.UdpProtocol
import ProbeTrace.Metatheory.BoardRuns
import ProbeTrace.Foundation.DistinctFold
import ProbeTrace.Metatheory.ManifestParse
import ProbeTrace.Foundation.Ledger
import ProbeTrace.Metatheory.HeapAccounts
import ProbeTrace.Metatheory.ProbeProtocol
import ProbeTrace.Model.Interleaved
import ProbeTrace.Metatheory.InterruptedCalls
import ProbeTrace.Metatheory.CallAtomicity
import ProbeTrace.Metatheory.LoopBody
