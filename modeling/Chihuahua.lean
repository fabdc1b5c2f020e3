import Chihuahua.Machine.Memory
import Chihuahua.Machine.Stores
import Chihuahua.Machine.Alike
import Chihuahua.Machine.Runs
import Chihuahua.Machine.Relational
import Chihuahua.Machine.Mmu
import Chihuahua.Machine.Traces
import Chihuahua.Machine.Strings
import Chihuahua.Machine.Areas
import Chihuahua.Machine.Simulation
import Chihuahua.Machine.Records
import Chihuahua.Machine.Selection
import Chihuahua.Machine.Resources
import Chihuahua.Machine.Lexicographic
import Chihuahua.Essentials.BinaryUtils
import Chihuahua.Essentials.MemEssentials
import Chihuahua.Essentials.Memmove
import Chihuahua.Essentials.Memset
import Chihuahua.Essentials.Memcmp
import Chihuahua.CHusky.CString
import Chihuahua.CHusky.Strcat
import Chihuahua.CHusky.Strncpy
import Chihuahua.CHusky.MemFunctions
import Chihuahua.CHusky.Buffers
import Chihuahua.CHusky.Joining
import Chihuahua.Paginator.PageTable
import Chihuahua.Paginator.PagingController
import Chihuahua.Paginator.Boot
import Chihuahua.Paginator.BootWords
import Chihuahua.Paginator.RootController
import Chihuahua.Paginator.Footprint
import Chihuahua.Paginator.LowTables
import Chihuahua.Paginator.Translation
import Chihuahua.Paginator.RecursiveSlot
import Chihuahua.Paginator.Permissions
import Chihuahua.Paginator.TableTree
import Chihuahua.Paginator.Failure
import Chihuahua.Paginator.RecursiveAddress
import Chihuahua.Paginator.ForceWrite
import Chihuahua.Paginator.LiveMode
import Chihuahua.Paginator.Activation
import Chihuahua.Paginator.LiveRuns
import Chihuahua.Paginator.Addresses
import Chihuahua.Paginator.EntryCodec
import Chihuahua.Paginator.RangeTranslation
import Chihuahua.Paginator.AllocatorProtocol
import Chihuahua.Elf.Definitions
import Chihuahua.Elf.Loader
import Chihuahua.Elf.FileBounds
import Chihuahua.Elf.Completeness
import Chihuahua.Elf.BufferBounds
import Chihuahua.Elf.LoadItem
import Chihuahua.Elf.FileBytes
import Chihuahua.Elf.FileFormat
import Chihuahua.Bootloader.KernelReader
import Chihuahua.Bootloader.Image
import Chihuahua.Bootloader.KernelFile
import Chihuahua.Bootloader.Firmware
import Chihuahua.Bootloader.ReadFile
import Chihuahua.Bootloader.ReadKernel
import Chihuahua.Bootloader.Release
import Chihuahua.Bootloader.VirtualRanges
import Chihuahua.Bootloader.FileRun
import Chihuahua.Bootloader.Gop
import Chihuahua.Bootloader.ClosestMode
import Chihuahua.Bootloader.FramebufferReport
import Chihuahua.Bootloader.ModeStarts
import Chihuahua.Bootloader.MemoryMap
import Chihuahua.Bootloader.FileBacking
import Chihuahua.Bootloader.FirmwareWrites
import Chihuahua.Bootloader.PageRanges
import Chihuahua.Bootloader.PageUses
import Chihuahua.Bootloader.FileService
import Chihuahua.Bootloader.EfiMain
import Chihuahua.Bootloader.KernelKept
import Chihuahua.Bootloader.Containment
import Chihuahua.Bootloader.Rejection
