import GspDriver.GmmuFrame
import GspDriver.FlatVram
import GspDriver.BringupVram
import GspDriver.VramRuns
import GspDriver.RangeSearch
import GspDriver.VramFirstFit
import GspDriver.CmdqFlow
import GspDriver.RpcCorrelation
import GspDriver.QueueTermination
import GspDriver.SequencerBounds
import GspDriver.SequencerRequests
import GspDriver.Scanout
import GspDriver.RasterTiming
import GspDriver.FbLayout
import GspDriver.GspFbLayout
import GspDriver.Radix3
import GspDriver.Elf64
import GspDriver.BooterImage
import GspDriver.FwsecPaths
import GspDriver.FwsecReads
import GspDriver.VbiosDump
import GspDriver.ClientIsolation
import GspDriver.GpuCompletion
import GspDriver.GmmuMap
import GspDriver.CmdqElement
import GspDriver.RmIsolation
import GspDriver.MemoryList
import GspDriver.TypedReplies
import GspDriver.FalconDma
import GspDriver.FwsecEffect
import GspDriver.DmaArena
import GspDriver.FifoEncoding
import GspDriver.PollBounds
import GspDriver.AtomicWrites
import GspDriver.KlogFlush
import GspDriver.PublishedAperture
import GspDriver.ModesetOrder
import GspDriver.RmConversation
import GspDriver.BootStaged
