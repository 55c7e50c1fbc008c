import PvrServices.Compat.TableCorrect
import PvrServices.Compat.MiscInfo
import PvrServices.Queue.RingCorrect
import PvrServices.Queue.SyncCorrect
import PvrServices.Queue.SyncBuffer
import PvrServices.Handles.BatchMembers
import PvrServices.Handles.Refinement
import PvrServices.Handles.PurgingRuns
import PvrServices.Compat.LayoutLanguage
import PvrServices.Resman.DisconnectCorrect
import PvrServices.Resman.ListLinks
import PvrServices.Queue.CmdProcListCorrect
import PvrServices.Hash.TableCorrect
import PvrServices.SyncMod.LifetimeCorrect
import PvrServices.Mmu.Unmapping
import PvrServices.Sgx.CleanupRequest
import PvrServices.Event.WaitCorrect
import PvrServices.Sgx.SharedPbCorrect
import PvrServices.Sgx.KernelCcb
import PvrServices.Sgx.SubmitUndo
import PvrServices.Sgx.TransferSyncs
import PvrServices.Sgx.BlitQuery
import PvrServices.Sgx.ContextPatchingCorrect
import PvrServices.MMap.ExternalPages
import PvrServices.MMap.CacheOps
import PvrServices.BufferManager.Backing
import PvrServices.BufferManager.WrapTables
import PvrServices.Arena.Failing
import PvrServices.Arena.SaveRestore
import PvrServices.BufferManager.XProcCorrect
import PvrServices.BufferManager.ContextCountsCorrect
import PvrServices.BufferManager.CreationCorrect
import PvrServices.DeviceMem.MakingCorrect
import PvrServices.DeviceMem.WrapSizesCorrect
import PvrServices.Power.Transitions
import PvrServices.Power.RecoveryTimerCorrect
import PvrServices.MiscInfo.MemoryStringCorrect
import PvrServices.DisplayClass.SwapChainCorrect
import PvrServices.UserPages.AcquireCorrect
import PvrServices.Handles.BaseFreeing
import PvrServices.PerProc.Connections
