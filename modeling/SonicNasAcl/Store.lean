/-
# Store -- tables, entries, counters and the switch that holds them

The data of the ACL cache, under the names of the classes, and the operations of
`nas_acl_switch`: lookups that throw, lookups that do not, and the saves and
removals a handler ends with.

* `NasAclSwitch.saveEntry` keeps the counters' reference sets: it compares the
  counter ids of the old and the new entry, where 0 stands for "no counter".
* A `noexcept` function that throws ends the process (`noexceptFn`).
* An object a pointer or an iterator leads to is changed in place: `modifyAt`.
-/
import SonicNasAcl.CpsMaps
import SonicNasAcl.Lib.FinmapModify

namespace SonicNasAcl

set_option autoImplicit false

open Lib

/-! ## Objects -/

/-- `nas::base_obj_t`: the configured NPUs and the attribute marks. -/
structure BaseObj where
  npus : NpuSet
  followingSwitchNpus : Bool
  npusDirty : Bool
  dirtyAttrs : Finset AttrId
  setAttrs : Finset AttrId
  createdInNdi : Bool
  deriving DecidableEq

namespace BaseObj

/-- A new object is on every NPU of its switch. -/
def new (p : Platform) : BaseObj := ⟨p.switchNpus, true, false, ∅, ∅, false⟩

def isAttrDirty (b : BaseObj) (a : AttrId) : Bool := a ∈ b.dirtyAttrs

def markAttrDirty (a : AttrId) (b : BaseObj) : BaseObj :=
  { b with dirtyAttrs := insert a b.dirtyAttrs, setAttrs := insert a b.setAttrs }

/-- The first NPU of a request replaces the list, the others join it. -/
def addNpu (npuId : NpuId) (reset : Bool) (b : BaseObj) : BaseObj :=
  { b with
    npus := if reset && !b.npusDirty then {npuId} else insert npuId b.npus
    followingSwitchNpus := false
    npusDirty := true }

def setNpuList (npus : NpuSet) (b : BaseObj) : BaseObj :=
  { b with npus := npus, followingSwitchNpus := false, npusDirty := true }

/-- After a commit nothing is dirty. -/
def committed (b : BaseObj) : BaseObj :=
  { b with npusDirty := false, dirtyAttrs := ∅, createdInNdi := true }

end BaseObj

/-- `nas_acl_table`. -/
structure NasAclTable where
  base : BaseObj
  tableId : NasObjId
  stage : Stage
  allowedFilters : Finset MatchType
  priority : UInt32
  ndiObjIds : NdiObjIdTable
  deriving DecidableEq

/-- `nas_acl_counter_t`. -/
structure NasAclCounter where
  base : BaseObj
  tableId : NasObjId
  counterId : NasObjId
  enablePktCount : Bool
  enableByteCount : Bool
  followingTableNpus : Bool
  refs : Finset NasObjId
  ndiObjIds : NdiObjIdTable
  deriving DecidableEq

abbrev FilterList := Keyed NasAclFilter.filterType
abbrev ActionList := Keyed NasAclAction.actionType

/-- `nas_acl_entry`; `tableId` is the id of the table its back pointer leads to. -/
structure NasAclEntry where
  base : BaseObj
  tableId : NasObjId
  entryId : NasObjId
  priority : UInt32
  filterNpus : NpuSet
  followingTableNpus : Bool
  flist : FilterList
  alist : ActionList
  ndiEntryIds : NdiObjIdTable

/-- `nas::id_generator_t`. -/
structure IdGenerator where
  max : Nat
  allocated : Finset NasObjId
  deriving DecidableEq

abbrev EntryMap := Finmap fun _ : NasObjId => NasAclEntry
abbrev CounterMap := Finmap fun _ : NasObjId => NasAclCounter

def nasAclTableIdMax : Nat := 500
def nasAclEntryIdMax : Nat := 4094

/-- `acl_table_container_t`. -/
structure AclTableContainer where
  entryIdGen : IdGenerator
  aclEntries : EntryMap
  counterIdGen : IdGenerator
  aclCounters : CounterMap

def AclTableContainer.new : AclTableContainer where
  entryIdGen := ⟨nasAclEntryIdMax, ∅⟩
  aclEntries := ∅
  counterIdGen := ⟨nasAclEntryIdMax, ∅⟩
  aclCounters := ∅

/-- `nas_acl_switch`. -/
structure NasAclSwitch where
  tables : Finmap fun _ : NasObjId => NasAclTable
  tableContainers : Finmap fun _ : NasObjId => AclTableContainer
  tableidGen : IdGenerator

/-- The switch before any request. -/
def NasAclSwitch.new : NasAclSwitch := ⟨∅, ∅, ⟨nasAclTableIdMax, ∅⟩⟩

/-! ## Id generators -/

namespace IdGenerator

/-- `reserve_id`: `false` when the id is taken. -/
def reserveId (id : NasObjId) (g : IdGenerator) : Bool × IdGenerator :=
  if id ∈ g.allocated then (false, g) else (true, { g with allocated := insert id g.allocated })

def releaseId (id : NasObjId) (g : IdGenerator) : IdGenerator :=
  { g with allocated := g.allocated.erase id }

end IdGenerator

/-- `alloc_id` of the generators: which unused id comes next, or what it throws. -/
structure IdAllocator where
  next : IdGenerator → Except Exn NasObjId
  fresh : ∀ g id, next g = .ok id → id ∉ g.allocated ∧ id.toNat ≤ g.max

/-! ## Counters and their references -/

namespace NasAclCounter

def addRef (entryId : NasObjId) (c : NasAclCounter) : NasAclCounter :=
  { c with refs := insert entryId c.refs }

def delRef (entryId : NasObjId) (c : NasAclCounter) : NasAclCounter :=
  { c with refs := c.refs.erase entryId }

def isObjInNpu (c : NasAclCounter) (npuId : NpuId) : Bool := npuId ∈ c.ndiObjIds

end NasAclCounter

namespace NasAclEntry

/-- `counter_id`: 0 without a counter action. -/
def counterId (e : NasAclEntry) : NasObjId :=
  match e.alist.find .setCounter with
  | some a => a.counterId
  | none => 0

def isCounterEnabled (e : NasAclEntry) : Bool := (e.alist.find .setCounter).isSome

end NasAclEntry

/-! ## The switch -/

/-- What leaves a `noexcept` function by a throw ends the process. -/
def noexceptFn {α : Type} : Except Exn α → Except Exn α
  | .ok a => .ok a
  | .error _ => .error (.abort "exception left a noexcept function")

namespace NasAclSwitch

def invalidTableId (tblId : NasObjId) : Exn :=
  .base .keyVal ("Invalid Table ID " ++ toString tblId)

def findTable (sw : NasAclSwitch) (tblId : NasObjId) : Option NasAclTable :=
  sw.tables.lookup tblId

def getTable (sw : NasAclSwitch) (tblId : NasObjId) : Except Exn NasAclTable :=
  match sw.tables.lookup tblId with
  | some t => .ok t
  | none => .error (invalidTableId tblId)

def entryList (sw : NasAclSwitch) (tableId : NasObjId) : Except Exn EntryMap :=
  match sw.tableContainers.lookup tableId with
  | some container => .ok container.aclEntries
  | none => .error (invalidTableId tableId)

def counterList (sw : NasAclSwitch) (tableId : NasObjId) : Except Exn CounterMap :=
  match sw.tableContainers.lookup tableId with
  | some container => .ok container.aclCounters
  | none => .error (invalidTableId tableId)

def findEntry (sw : NasAclSwitch) (tblId entryId : NasObjId) : Option NasAclEntry :=
  (sw.tableContainers.lookup tblId).bind fun container => container.aclEntries.lookup entryId

def getEntry (sw : NasAclSwitch) (tblId entryId : NasObjId) : Except Exn NasAclEntry :=
  match sw.findEntry tblId entryId with
  | some e => .ok e
  | none => .error (.base .keyVal
      ("Invalid Table ID " ++ toString tblId ++ " or Entry ID " ++ toString entryId))

def findCounter (sw : NasAclSwitch) (tblId counterId : NasObjId) : Option NasAclCounter :=
  (sw.tableContainers.lookup tblId).bind fun container => container.aclCounters.lookup counterId

def getCounter (sw : NasAclSwitch) (tblId counterId : NasObjId) : Except Exn NasAclCounter :=
  match sw.tableContainers.lookup tblId with
  | none => .error (invalidTableId tblId)
  | some container =>
      match container.aclCounters.lookup counterId with
      | some c => .ok c
      | none => .error (.base .keyVal ("Invalid Counter ID " ++ toString counterId))

/-- Act on the container of a table, in place. -/
def modifyContainer (tableId : NasObjId) (f : AclTableContainer → AclTableContainer)
    (sw : NasAclSwitch) : NasAclSwitch :=
  { sw with tableContainers := modifyAt tableId f sw.tableContainers }

/-- Act on a counter, in place. -/
def modifyCounter (tableId counterId : NasObjId) (f : NasAclCounter → NasAclCounter) :
    NasAclSwitch → NasAclSwitch :=
  modifyContainer tableId fun container =>
    { container with aclCounters := modifyAt counterId f container.aclCounters }

/-- File an entry in its table. -/
def putEntry (e : NasAclEntry) : NasAclSwitch → NasAclSwitch :=
  modifyContainer e.tableId fun container =>
    { container with aclEntries := container.aclEntries.insert e.entryId e }

/-! ### NDI ids

What a commit of the base object may leave behind in a stored object. -/

def setTableIds (tableId : NasObjId) (ids : NdiObjIdTable) (sw : NasAclSwitch) : NasAclSwitch :=
  { sw with tables := modifyAt tableId ({ · with ndiObjIds := ids }) sw.tables }

def setEntryIds (tableId entryId : NasObjId) (ids : NdiObjIdTable) :
    NasAclSwitch → NasAclSwitch :=
  modifyContainer tableId fun container =>
    { container with
      aclEntries := modifyAt entryId ({ · with ndiEntryIds := ids }) container.aclEntries }

def setCounterIds (tableId counterId : NasObjId) (ids : NdiObjIdTable) :
    NasAclSwitch → NasAclSwitch :=
  modifyCounter tableId counterId ({ · with ndiObjIds := ids })

/-! ### Tables -/

/-- `save_table`. -/
def saveTable (t : NasAclTable) (sw : NasAclSwitch) : NasAclSwitch :=
  match sw.tables.lookup t.tableId with
  | none =>
      { sw with
        tableContainers :=
          -- `insert` keeps a container that is already there.
          if t.tableId ∈ sw.tableContainers then sw.tableContainers
          else sw.tableContainers.insert t.tableId AclTableContainer.new
        tables := sw.tables.insert t.tableId t }
  | some _ => { sw with tables := sw.tables.insert t.tableId t }

/-- `remove_table`. -/
def removeTable (tableId : NasObjId) (sw : NasAclSwitch) : NasAclSwitch where
  tableContainers := sw.tableContainers.erase tableId
  tables := sw.tables.erase tableId
  tableidGen := sw.tableidGen.releaseId tableId

/-- `reserve_table_id`. -/
def reserveTableId (id : NasObjId) (sw : NasAclSwitch) : Except Exn (Bool × NasAclSwitch) :=
  if nasAclTableIdMax < id.toNat then
    .error (.base .fail ("Invalid Table ID " ++ toString id))
  else
    let (unused, gen) := sw.tableidGen.reserveId id
    .ok (unused, { sw with tableidGen := gen })

/-! ### Entries -/

end NasAclSwitch

/-- `nas_acl_entry::get_counter`: the counter the entry counts in, if it does. -/
def NasAclEntry.getCounter (sw : NasAclSwitch) (e : NasAclEntry) :
    Except Exn (Option NasAclCounter) :=
  if e.isCounterEnabled then do
    let c ← sw.getCounter e.tableId e.counterId
    .ok (some c)
  else .ok none

namespace NasAclSwitch

/-- `new_counter_p->add_ref (..)`, when the entry has a counter. -/
def addRefOf (e : NasAclEntry) (sw : NasAclSwitch) : Except Exn NasAclSwitch := do
  match ← e.getCounter sw with
  | some _ => .ok (sw.modifyCounter e.tableId e.counterId (·.addRef e.entryId))
  | none => .ok sw

/-- `old_counter_p->del_ref (..)`, when the entry has a counter. -/
def delRefOf (e : NasAclEntry) (sw : NasAclSwitch) : Except Exn NasAclSwitch := do
  match ← e.getCounter sw with
  | some _ => .ok (sw.modifyCounter e.tableId e.counterId (·.delRef e.entryId))
  | none => .ok sw

/-- `save_entry`. -/
def saveEntry (e : NasAclEntry) (sw : NasAclSwitch) : Except Exn NasAclSwitch :=
  noexceptFn do
    match sw.tableContainers.lookup e.tableId with
    | none => .error .outOfRange
    | some container =>
        match container.aclEntries.lookup e.entryId with
        | none => (sw.putEntry e).addRefOf e
        | some eOrig =>
            if eOrig.counterId ≠ e.counterId then
              let sw ← sw.delRefOf eOrig
              let sw ← sw.addRefOf e
              .ok (sw.putEntry e)
            else .ok (sw.putEntry e)

/-- `remove_entry_from_table`. -/
def removeEntryFromTable (tableId entryId : NasObjId) (sw : NasAclSwitch) :
    Except Exn NasAclSwitch :=
  noexceptFn do
    match sw.findEntry tableId entryId with
    | none => .error .outOfRange
    | some eDel =>
        let sw ← sw.delRefOf eDel
        .ok (sw.modifyContainer tableId fun container =>
          { container with
            aclEntries := container.aclEntries.erase entryId
            entryIdGen := container.entryIdGen.releaseId entryId })

/-- `reserve_entry_id_in_table`. -/
def reserveEntryIdInTable (tableId id : NasObjId) (sw : NasAclSwitch) :
    Except Exn (Bool × NasAclSwitch) :=
  if nasAclEntryIdMax < id.toNat then
    .error (.base .fail ("Invalid Entry ID " ++ toString id))
  else
    match sw.tableContainers.lookup tableId with
    | none => .error .outOfRange
    | some container =>
        .ok ((container.entryIdGen.reserveId id).1,
          sw.modifyContainer tableId fun container =>
            { container with entryIdGen := (container.entryIdGen.reserveId id).2 })

/-- `release_entry_id_in_table`, of an id whose table is there. -/
def releaseEntryIdInTable (tableId entryId : NasObjId) : NasAclSwitch → NasAclSwitch :=
  modifyContainer tableId fun container =>
    { container with entryIdGen := container.entryIdGen.releaseId entryId }

/-! ### Counters -/

/-- Act on the container of a table that cannot be missing: `at` in a `noexcept`
function. -/
def modifyContainerAt (tableId : NasObjId) (f : AclTableContainer → AclTableContainer)
    (sw : NasAclSwitch) : Except Exn NasAclSwitch :=
  noexceptFn do
    match sw.tableContainers.lookup tableId with
    | none => .error .outOfRange
    | some _ => .ok (sw.modifyContainer tableId f)

/-- `save_counter`. -/
def saveCounter (c : NasAclCounter) : NasAclSwitch → Except Exn NasAclSwitch :=
  modifyContainerAt c.tableId fun container =>
    { container with aclCounters := container.aclCounters.insert c.counterId c }

/-- `remove_counter_from_table`. -/
def removeCounterFromTable (tableId counterId : NasObjId) :
    NasAclSwitch → Except Exn NasAclSwitch :=
  modifyContainerAt tableId fun container =>
    { container with
      aclCounters := container.aclCounters.erase counterId
      counterIdGen := container.counterIdGen.releaseId counterId }

/-- `reserve_counter_id_in_table`. -/
def reserveCounterIdInTable (tableId id : NasObjId) (sw : NasAclSwitch) :
    Except Exn (Bool × NasAclSwitch) :=
  if nasAclEntryIdMax < id.toNat then
    .error (.base .fail ("Invalid Counter ID " ++ toString id))
  else
    match sw.tableContainers.lookup tableId with
    | none => .error .outOfRange
    | some container =>
        .ok ((container.counterIdGen.reserveId id).1,
          sw.modifyContainer tableId fun container =>
            { container with counterIdGen := (container.counterIdGen.reserveId id).2 })

/-- `release_counter_id_in_table`, of an id whose table is there. -/
def releaseCounterIdInTable (tableId counterId : NasObjId) : NasAclSwitch → NasAclSwitch :=
  modifyContainer tableId fun container =>
    { container with counterIdGen := container.counterIdGen.releaseId counterId }

end NasAclSwitch

end SonicNasAcl
