import SonicNasAcl.ActionCodec
import SonicNasAcl.ActionValues
import SonicNasAcl.AlikeReads
import SonicNasAcl.ConfiguredNpus
import SonicNasAcl.CounterPresence
import SonicNasAcl.CounterRefs
import SonicNasAcl.EntryIds
import SonicNasAcl.EntryRuns
import SonicNasAcl.FilterCodec
import SonicNasAcl.FilterPorts
import SonicNasAcl.GuardRuns
import SonicNasAcl.IncrAgrees
import SonicNasAcl.ListEdits
import SonicNasAcl.Masks
import SonicNasAcl.ModifyUndone
import SonicNasAcl.PortFilters
import SonicNasAcl.ReadExits
import SonicNasAcl.ReorderedWalks
import SonicNasAcl.Rollback
import SonicNasAcl.RollbackEdit
import SonicNasAcl.RollbackEntry
import SonicNasAcl.RollbackIncr
import SonicNasAcl.RollbackPush
import SonicNasAcl.RollbackSet
import SonicNasAcl.RollbackTransaction
import SonicNasAcl.RollbackWhole
import SonicNasAcl.StatsReads
import SonicNasAcl.Transactions
