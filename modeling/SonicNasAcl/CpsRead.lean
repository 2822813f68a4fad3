/-
# CpsRead -- the GET handlers

`nas_acl_cps_api_read` and the `nas_acl_get_*` functions.  A GET names as many keys as it
likes: none lists everything of its kind on the switch, a table lists what is in the table,
an object gets that object, and a match type or an action type gets one element of an entry.
The objects found are appended to the list of the caller.

An error that a function of this file returns is an exception with its code here: either way
it is what the GET returns, and the objects appended by then stay.  `ignoreRc` is the one
place that does not look at the code.
-/
import SonicNasAcl.CpsEntry

namespace SonicNasAcl

set_option autoImplicit false

open Lib

/-! ## Objects that are read -/

/-- What `cps_api_key_from_attr_with_qual` is asked for. -/
inductive KeyFrom where
  | table | entry | counter | stats | entryMatchType | entryActionType
  deriving DecidableEq, Repr

/-- What code outside the repository answers in a GET: the keys of the class map, what
`ndi_acl_counter_get_pkt_count` and `.._byte_count` read, and the orders the hash maps of an
entry, named by its table and its own id, are walked in. -/
structure Reader where
  keyFromAttr : KeyFrom → CpsKey
  counterGet : CounterType → NpuId → NdiObjId → Except Int UInt64
  walks : NasObjId → NasObjId → Walks

/-- The platform while an entry is read. -/
def Reader.reading (rd : Reader) (p : Platform) (e : NasAclEntry) : Platform :=
  p.walking (rd.walks e.tableId e.entryId)

/-- A GET appends to the list of the caller. -/
abbrev Reading := Eff Exn (List CpsObject)

namespace Reading

/-- `return rc`. -/
def fail (errCode : ErrCode) : Reading Unit := Eff.throw (.base errCode "")

/-- `cps_api_object_list_append`. -/
def append (obj : CpsObject) : Reading Unit := Eff.write (· ++ [obj])

/-- A call whose return code nobody looks at. -/
def ignoreRc (x : Reading Unit) : Reading Unit := fun list =>
  match x list with
  | (.error (.base _ _), list') => (.ok (), list')
  | r => r

end Reading

/-- A new object with a key and what a filling function has added. -/
def CpsObject.filled (key : CpsKey) (adds : Adds) : CpsObject := (CpsObject.new.addAll adds).setKey key

theorem NasObjId.toNat_injective (a b : NasObjId) (same : a.toNat = b.toNat) : a = b :=
  UInt64.toNat_inj.mp same

/-- The order of a `std::map` over ids. -/
def idOrder : Traversal NasObjId := .ofRank UInt64.toNat NasObjId.toNat_injective

/-- What a `std::map` holds, in its order. -/
def inOrder {α : Type} (m : Finmap fun _ : NasObjId => α) : List α :=
  (idOrder.visit m.keys).filterMap m.lookup

/-! ## Tables -/

/-- `nas_acl_fill_table_attr_info`. -/
def fillTableAttrs (p : Platform) (t : NasAclTable) (explicitNpuList : Bool) : Fill :=
  let u32 (a : AttrId) (v : UInt32) := Fill.one [a] (Tlv.leaf (bytesU32 v))
  Fill.andThen (u32 .tableStage (p.stages.code t.stage)) <|
  Fill.andThen (u32 .tablePriority t.priority) <|
  Fill.andThen
    (Fill.forEach (fun f => u32 .tableAllowedMatchFields (p.matchTypes.code f))
      (p.fieldOrder.visit t.allowedFilters))
    (if t.base.followingSwitchNpus && !explicitNpuList then Fill.done
    else Fill.forEach (fun npuId => u32 .tableNpuIdList npuId) (p.npuOrder.visit t.npuList))

/-- `nas_acl_get_table_info`.  The object is in the list before it is filled. -/
def getTableInfo (p : Platform) (rd : Reader) (t : NasAclTable) : Reading Unit := do
  let (adds, ok) ← Eff.query fun _ => noexceptFn (fillTableAttrs p t true)
  Reading.append (tableKeyFill t (.filled (rd.keyFromAttr .table) adds))
  if ok then pure () else Reading.fail .cpsErr

/-- `nas_acl_get_table_info_by_switch`. -/
def getTableInfoBySwitch (p : Platform) (rd : Reader) (sw : NasAclSwitch) : Reading Unit :=
  (inOrder sw.tables).forM fun t => Reading.ignoreRc (getTableInfo p rd t)

/-- `nas_acl_get_table`. -/
def nasAclGetTable (p : Platform) (rd : Reader) (sw : NasAclSwitch) (filter : CpsObject) :
    Reading Unit :=
  match filter.keyGetObjId .tableId with
  | none => getTableInfoBySwitch p rd sw
  | some tableId => do
      let table ← Eff.query fun _ => sw.getTable tableId
      getTableInfo p rd table

/-! ## Entries -/

/-- `nas_acl_fill_entry_npu_list`. -/
def fillEntryNpus (p : Platform) (e : NasAclEntry) (explicitNpuList : Bool) : Fill :=
  if !explicitNpuList && e.followingTableNpus then Fill.done
  else
    Fill.forEach (fun npuId => Fill.one [.entryNpuIdList] (Tlv.leaf (bytesU32 npuId)))
      (p.npuOrder.visit e.npuList)

/-- `nas_acl_fill_entry_attr_info`. -/
def fillEntryAttrInfo (p : Platform) (e : NasAclEntry) (explicitNpuList : Bool) : Fill :=
  Fill.andThen (Fill.one [.entryPriority] (Tlv.leaf (bytesU32 e.priority))) <|
  Fill.andThen (fillMatchAttrList p e) <|
  Fill.andThen (fillActionAttrList p e) (fillEntryNpus p e explicitNpuList)

/-- `nas_acl_get_entry_info`.  An entry that cannot be filled is not appended. -/
def getEntryInfo (p : Platform) (rd : Reader) (e : NasAclEntry) : Reading Unit := do
  let (adds, ok) ← Eff.query fun _ => fillEntryAttrInfo (rd.reading p e) e true
  if ok then Reading.append (entryKeyFill e (.filled (rd.keyFromAttr .entry) adds))
  else Reading.fail .mem

/-- `nas_acl_get_entry_info_by_table`. -/
def getEntryInfoByTable (p : Platform) (rd : Reader) (sw : NasAclSwitch) (t : NasAclTable) :
    Reading Unit := do
  let entries ← Eff.query fun _ => sw.entryList t.tableId
  (inOrder entries).forM (getEntryInfo p rd)

/-- `nas_acl_get_entry_info_by_switch`. -/
def getEntryInfoBySwitch (p : Platform) (rd : Reader) (sw : NasAclSwitch) : Reading Unit :=
  (inOrder sw.tables).forM (getEntryInfoByTable p rd sw)

/-- `_cps_fill_match_info`. -/
def cpsFillMatchInfo (p : Platform) (rd : Reader) (e : NasAclEntry) (v : UInt32) : Reading Unit :=
  match p.matchTypes.decode v with
  | none => Eff.throw (.base .keyVal "ACL Entry has no Filter field Invalid Filter Type")
  | some ftype => do
      let filter ← Eff.query fun _ => e.getFilter ftype
      let (adds, ok) ← Eff.query fun _ => fillMatchAttr (rd.reading p e) filter ftype []
      if ok then
        Reading.append ((entryKeyFill e (.filled (rd.keyFromAttr .entryMatchType) adds)).keySetU32
          .entryMatchType v)
      else Reading.fail .mem

/-- `_cps_fill_action_info`. -/
def cpsFillActionInfo (p : Platform) (rd : Reader) (e : NasAclEntry) (v : UInt32) : Reading Unit :=
  match p.actionTypes.decode v with
  | none => Eff.throw (.base .keyVal "ACL Entry has no Action Invalid Action Type")
  | some atype => do
      let action ← Eff.query fun _ => e.getAction atype
      let (adds, ok) ← Eff.query fun _ => fillActionAttr (rd.reading p e) action atype []
      if ok then
        Reading.append ((entryKeyFill e (.filled (rd.keyFromAttr .entryActionType) adds)).keySetU32
          .entryActionType v)
      else Reading.fail .mem

/-- `nas_acl_get_entry`. -/
def nasAclGetEntry (p : Platform) (rd : Reader) (sw : NasAclSwitch) (filter : CpsObject) :
    Reading Unit :=
  match filter.keyGetObjId .entryTableId with
  | none => getEntryInfoBySwitch p rd sw
  | some tableId =>
      match filter.keyGetObjId .entryId with
      | none => do
          let table ← Eff.query fun _ => sw.getTable tableId
          getEntryInfoByTable p rd sw table
      | some entryId => do
          let entry ← Eff.query fun _ => sw.getEntry tableId entryId
          match keyIncrType filter with
          | none => getEntryInfo p rd entry
          | some (.matchType v) => cpsFillMatchInfo p rd entry v
          | some (.actionType v) => cpsFillActionInfo p rd entry v

/-! ## Counters -/

/-- `_fill_counter_attr_info`. -/
def fillCounterAttrs (p : Platform) (c : NasAclCounter) (explicitNpuList : Bool) : Fill :=
  let u32 (a : AttrId) (v : UInt32) := Fill.one [a] (Tlv.leaf (bytesU32 v))
  Fill.andThen
    (if c.enablePktCount then u32 .counterTypes (p.counterTypes.code .packet) else Fill.done) <|
  Fill.andThen
    (if c.enableByteCount then u32 .counterTypes (p.counterTypes.code .byte) else Fill.done)
    (if c.followingTableNpus && !explicitNpuList then Fill.done
    else Fill.forEach (fun npuId => u32 .counterNpuIdList npuId) (p.npuOrder.visit c.npuList))

/-- `nas_acl_get_counter_info`. -/
def getCounterInfo (p : Platform) (rd : Reader) (c : NasAclCounter) : Reading Unit := do
  let (adds, ok) ← Eff.query fun _ => noexceptFn (fillCounterAttrs p c true)
  if ok then Reading.append (counterKeyFill c (.filled (rd.keyFromAttr .counter) adds))
  else Reading.fail .mem

/-! ## Stats -/

/-- `get_pkt_count_ndi` and `get_byte_count_ndi`. -/
def NasAclCounter.getCountNdi (rd : Reader) (cType : CounterType) (npuId : NpuId)
    (c : NasAclCounter) : Except ErrCode UInt64 :=
  match c.validateEntryCounter cType npuId with
  | none => .error .inconsistent
  | some ndiCounterId =>
      match rd.counterGet cType npuId ndiCounterId with
      | .ok count => .ok count
      | .error rc => .error (.ndi rc)

/-- `_extract_stats_attrs`, for a GET: only which counts are named matters. -/
def extractStatsFilter (attrs : List CpsAttr) : StatsAttrs :=
  attrs.foldl (fun (st : StatsAttrs) attr =>
    match attr.id with
    | .statsNpuIdList => { st with npuList := insert attr.dataU32 st.npuList }
    | .statsMatchedPackets => { st with pktCount := some attr.dataU64 }
    | .statsMatchedBytes => { st with byteCount := some attr.dataU64 }
    | _ => st) {}

/-- The counts a GET is about: those its filter names, or both. -/
def StatsAttrs.asks (st : StatsAttrs) : CounterType → Bool
  | .packet => (st.pktCount.isNone && st.byteCount.isNone) || st.pktCount.isSome
  | .byte => (st.pktCount.isNone && st.byteCount.isNone) || st.byteCount.isSome

/-- The totals of `nas_acl_stats_info_get`. -/
structure StatsTotals where
  pktCount : UInt64 := 0
  byteCount : UInt64 := 0
  deriving DecidableEq, Repr

/-- The total after an NPU.  A count that cannot be read is left out. -/
def addCount (rd : Reader) (c : NasAclCounter) (st : StatsAttrs) (cType : CounterType)
    (npuId : NpuId) (total : UInt64) : UInt64 :=
  if st.asks cType then
    match c.getCountNdi rd cType npuId with
    | .ok count => total + count
    | .error _ => total
  else total

/-- One turn of the loop over the NPUs. -/
def addCounts (rd : Reader) (c : NasAclCounter) (st : StatsAttrs) (totals : StatsTotals)
    (npuId : NpuId) : StatsTotals where
  pktCount := addCount rd c st .packet npuId totals.pktCount
  byteCount := addCount rd c st .byte npuId totals.byteCount

/-- `nas_acl_stats_cps_key_init`. -/
def statsKeyFill (c : NasAclCounter) (obj : CpsObject) : CpsObject :=
  (obj.keySetObjId .statsTableId c.tableId).keySetObjId .statsCounterId c.counterId

/-- What `nas_acl_stats_info_get` adds: the NPUs it looks at, and the totals. -/
def fillStats (p : Platform) (rd : Reader) (filter : CpsObject) (c : NasAclCounter) : Fill :=
  let st := extractStatsFilter filter.attrs
  let loopNpu := p.npuOrder.visit (if st.npuList = ∅ then c.npuList else st.npuList)
  let totals := loopNpu.foldl (addCounts rd c st) {}
  Fill.andThen
    (Fill.forEach (fun npuId => Fill.one [.statsNpuIdList] (Tlv.leaf (bytesU32 npuId))) loopNpu) <|
  Fill.andThen
    (if st.asks .packet then Fill.one [.statsMatchedPackets] (Tlv.leaf (bytesU64 totals.pktCount))
    else Fill.done)
    (if st.asks .byte then Fill.one [.statsMatchedBytes] (Tlv.leaf (bytesU64 totals.byteCount))
    else Fill.done)

/-- `nas_acl_stats_info_get`. -/
def statsInfoGet (p : Platform) (rd : Reader) (filter : CpsObject) (c : NasAclCounter) :
    Reading Unit := do
  let (adds, ok) ← Eff.query fun _ => noexceptFn (fillStats p rd filter c)
  if ok then Reading.append (statsKeyFill c (.filled (rd.keyFromAttr .stats) adds))
  else Reading.fail .mem

/-! ## Counters and stats -/

/-- The kinds of object a counter is read as. -/
inductive CounterView where
  | counter | stats
  deriving DecidableEq, Repr

def CounterView.tableKey : CounterView → KeyAttr
  | .counter => .counterTableId
  | .stats => .statsTableId

def CounterView.counterKey : CounterView → KeyAttr
  | .counter => .counterId
  | .stats => .statsCounterId

/-- The object of one counter. -/
def getCounterAs (p : Platform) (rd : Reader) (filter : CpsObject) (c : NasAclCounter) :
    CounterView → Reading Unit
  | .counter => getCounterInfo p rd c
  | .stats => statsInfoGet p rd filter c

/-- `nas_acl_get_counter_info_by_table`, which is `noexcept`. -/
def getCounterInfoByTable (p : Platform) (rd : Reader) (sw : NasAclSwitch) (filter : CpsObject)
    (view : CounterView) (t : NasAclTable) : Reading Unit := do
  let counters ← Eff.query fun _ => noexceptFn (sw.counterList t.tableId)
  (inOrder counters).forM fun c => getCounterAs p rd filter c view

/-- `nas_acl_get_counter_info_by_switch`. -/
def getCounterInfoBySwitch (p : Platform) (rd : Reader) (sw : NasAclSwitch) (filter : CpsObject)
    (view : CounterView) : Reading Unit :=
  (inOrder sw.tables).forM (getCounterInfoByTable p rd sw filter view)

/-- `nas_acl_get_counter`. -/
def nasAclGetCounter (p : Platform) (rd : Reader) (sw : NasAclSwitch) (filter : CpsObject)
    (view : CounterView) : Reading Unit :=
  match filter.keyGetObjId view.tableKey with
  | none => getCounterInfoBySwitch p rd sw filter view
  | some tableId => do
      match filter.keyGetObjId view.counterKey with
      | none => do
          let table ← Eff.query fun _ => sw.getTable tableId
          getCounterInfoByTable p rd sw filter view table
      | some counterId => do
          let counter ← Eff.query fun _ => sw.getCounter tableId counterId
          getCounterAs p rd filter counter view

/-! ## Requests -/

/-- The `try` block of a GET, which catches `base_exception` only. -/
def tryReading (body : Reading Unit) (list : List CpsObject) : Exit × List CpsObject :=
  match body list with
  | (.ok (), list') => (.returned (.ok ()), list')
  | (.error (.base errCode _), list') => (.returned (.error errCode), list')
  | (.error _, list') => (.terminated, list')

/-- `nas_acl_cps_api_read`: the return code, and the list of the caller. -/
def nasAclCpsApiRead (p : Platform) (rd : Reader) (filters : List CpsObject) (index : Nat)
    (sw : NasAclSwitch) (list : List CpsObject) : Exit × List CpsObject :=
  match filters[index]? with
  | none => (.returned (.error .cpsErr), list)
  | some filter =>
      if filter.key.cat ≠ .baseAcl then (.returned (.error .cpsErr), list)
      else
        match filter.key.subcat with
        | .table => tryReading (nasAclGetTable p rd sw filter) list
        | .entry => tryReading (nasAclGetEntry p rd sw filter) list
        | .counter => tryReading (nasAclGetCounter p rd sw filter .counter) list
        | .stats => tryReading (nasAclGetCounter p rd sw filter .stats) list
        | .other => (.returned (.error .unsupported), list)

end SonicNasAcl
