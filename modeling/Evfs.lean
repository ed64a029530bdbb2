import Evfs.Foundation.Runs
import Evfs.Foundation.Toggles
import Evfs.Foundation.Journal
import Evfs.Foundation.Interleaving
import Evfs.Foundation.Monitor
import Evfs.Ext4.Geometry
import Evfs.Ext4.Descriptor
import Evfs.Ext4.GdtCsum
import Evfs.Ext4.Memory
import Evfs.Ext4.Kernel
import Evfs.Ext4.FlipBlockBit
import Evfs.Ext4.FlipThreads
import Evfs.Ext4.Disk
import Evfs.Ext4.Mount
import Evfs.Ext4.Ioctl
import Evfs.FreeSpace.AllocationMap
import Evfs.FreeSpace.Accounting
import Evfs.FreeSpace.Addressing
import Evfs.Durability.Atomicity
import Evfs.FreeSpace.Mirrors
import Evfs.FreeSpace.SymmetricDifference
import Evfs.Durability.CrashConsistency
import Evfs.Durability.Remount
import Evfs.Concurrency.Serializability
import Evfs.Authority.Discipline
import Evfs.Authority.WriteAccess
import Evfs.FreeSpace.Reservation
import Evfs.Protocol.Holdings
import Evfs.Protocol.FlipProtocol
import Evfs.Ext4.CompatIoctl
import Evfs.EntryPoints.CompatAgreement
import Evfs.Foundation.LostUpdates
import Evfs.Concurrency.RacingStores
import Evfs.Concurrency.LostFlips
import Evfs.Concurrency.SharedRegisters
import Evfs.Concurrency.RacingRecords
import Evfs.Ext4.Superblock
import Evfs.Metadata.SuperblockCopies
import Evfs.Metadata.SuperblockIoctls
import Evfs.Ext4.Inode
import Evfs.Ext4.SwapBoot
import Evfs.Metadata.BootLoaderSwaps
import Evfs.Metadata.SwapHistories
import Evfs.Foundation.Resources
import Evfs.Protocol.SwapLocks
import Evfs.Protocol.SuperblockHandles
import Evfs.Ext4.FileAttr
import Evfs.Metadata.FileAttributes
import Evfs.Metadata.AttributeHistories
import Evfs.Metadata.ImmutableFiles
import Evfs.EntryPoints.SuperblockLevels
import Evfs.EntryPoints.SwapLevels
import Evfs.Metadata.VolumeCalls
import Evfs.Metadata.InodeSeeds
import Evfs.Foundation.StoredFields
import Evfs.Ext4.DiskFields
import Evfs.Format.Timestamps
import Evfs.Format.RecordLengths
import Evfs.Foundation.Callbacks
import Evfs.Ext4.Fsmap
import Evfs.Ext4.Shutdown
import Evfs.Durability.Shutdowns
import Evfs.Format.SpaceMaps
