/-
# CpsCounter -- creating and deleting counters, writing counts

`nas_acl_counter_t` and the handlers of `nas_acl_cps_counter.cpp` and
`nas_acl_cps_stats.cpp`.  A counter that entries refer to cannot be deleted.  The
stats handler writes counts to the NDI and neither saves an undo object nor touches
the store.
-/
import SonicNasAcl.CpsTable

namespace SonicNasAcl

set_option autoImplicit false

open Lib

namespace NasAclCounter

/-- The constructor, for a table. -/
def new (p : Platform) (tableId : NasObjId) : NasAclCounter where
  base := .new p
  tableId := tableId
  counterId := 0
  enablePktCount := false
  enableByteCount := false
  followingTableNpus := true
  refs := ∅
  ndiObjIds := ∅

def npuList (c : NasAclCounter) : NpuSet := c.base.npus

/-- `add_npu`. -/
def addNpu (npuId : NpuId) (c : NasAclCounter) : NasAclCounter :=
  { c with base := c.base.addNpu npuId true, followingTableNpus := false }

/-- `copy_table_npus`. -/
def copyTableNpus (table : NasAclTable) (c : NasAclCounter) : NasAclCounter :=
  { c with base := c.base.setNpuList table.npuList, followingTableNpus := true }

/-- The first type of a request disables both counts. -/
def resetTypes (c : NasAclCounter) : NasAclCounter :=
  if c.base.isAttrDirty .counterTypes then c
  else
    { c with
      base := c.base.markAttrDirty .counterTypes
      enablePktCount := false
      enableByteCount := false }

def enable : CounterType → NasAclCounter → NasAclCounter
  | .packet, c => { c with enablePktCount := true }
  | .byte, c => { c with enableByteCount := true }

/-- `set_type`. -/
def setType (p : Platform) (v : UInt32) (c : NasAclCounter) : Except Exn NasAclCounter :=
  match p.counterTypes.decode v with
  | some t => .ok (c.resetTypes.enable t)
  | none => .error (.base .attrVal ("Unknown Counter type " ++ toString v))

/-- `commit_create`. -/
def commitCreate (o : Oracle) (table : NasAclTable) (rollingBack : Bool) (c : NasAclCounter) :
    Except Exn NasAclCounter := do
  let c := if c.followingTableNpus then c.copyTableNpus table else c
  let ndiObjIds ← o.counterCreate c rollingBack
  .ok { c with base := c.base.committed, ndiObjIds := ndiObjIds }

/-- The check of `commit_delete`. -/
def checkDelete (c : NasAclCounter) : Except Exn Unit :=
  throwIf (c.refs ≠ ∅) (.base .createOnly "Cannot delete counter as it is still in use")

/-- `_validate_entry_counter`: the NDI id, if the count is enabled and the NPU has
the counter. -/
def validateEntryCounter (cType : CounterType) (npuId : NpuId) (c : NasAclCounter) :
    Option NdiObjId :=
  let enabled := match cType with
    | .packet => c.enablePktCount
    | .byte => c.enableByteCount
  if enabled then c.ndiObjIds.lookup npuId else none

/-- How the texts name a count. -/
def countName : CounterType → String
  | .packet => "Packet"
  | .byte => "Byte"

/-- `set_pkt_count_ndi` and `set_byte_count_ndi`. -/
def setCountNdi (o : Oracle) (cType : CounterType) (npuId : NpuId) (count : UInt64)
    (c : NasAclCounter) : Handler Unit :=
  match c.validateEntryCounter cType npuId with
  | none => Handler.fail .inconsistent
      (countName cType ++ " count action not enabled for this ACL Entry")
  | some ndiCounterId =>
      match o.counterSet cType npuId ndiCounterId count with
      | .error rc => Handler.fail (.ndi rc)
          ("NDI " ++ countName cType ++ " counter Set failed for NPU " ++ toString npuId)
      | .ok () => Eff.write fun ctx =>
          { ctx with ndiCounts := ctx.ndiCounts ++ [(cType, npuId, ndiCounterId, count)] }

end NasAclCounter

/-! ## Requests -/

/-- One attribute of a create request. -/
def parseCounterAttr (p : Platform) (c : NasAclCounter) (attr : CpsAttr) :
    Except Exn NasAclCounter :=
  match attr.id with
  | .counterTypes => c.setType p attr.dataU32
  | .counterNpuIdList => .ok (c.addNpu attr.dataU32)
  | _ => .ok c

/-- The counter a create request describes. -/
def parseCounter (p : Platform) (tableId : NasObjId) (attrs : List CpsAttr) :
    Except Exn NasAclCounter :=
  attrs.foldlM (parseCounterAttr p) (.new p tableId)

/-- `_fill_counter_attr_info`, with `explicit_npu_list` false. -/
def fillCounterAttrInfo (p : Platform) (c : NasAclCounter) : Fill :=
  let u32 (a : AttrId) (v : UInt32) := Fill.one [a] (Tlv.leaf (bytesU32 v))
  Fill.andThen
    (if c.enablePktCount then u32 .counterTypes (p.counterTypes.code .packet) else Fill.done) <|
  Fill.andThen
    (if c.enableByteCount then u32 .counterTypes (p.counterTypes.code .byte) else Fill.done)
    (if c.followingTableNpus then Fill.done
    else Fill.forEach (fun npuId => u32 .counterNpuIdList npuId) (p.npuOrder.visit c.npuList))

/-- `_cps_key_fill`. -/
def counterKeyFill (c : NasAclCounter) (obj : CpsObject) : CpsObject :=
  (obj.keySetObjId .counterTableId c.tableId).keySetObjId .counterId c.counterId

/-! ## Handlers -/

/-- `nas_acl_counter_create`.  A counter that exists is reported as a missing key. -/
def nasAclCounterCreate (p : Platform) (o : Oracle) (isRollbkOp : Bool) : Handler Unit := do
  let tableId ← Handler.mandatoryKey .counterTableId "Table ID is a mandatory key for Counter Create "
  let counterId ← Eff.query fun c => .ok (c.obj.keyGetObjId .counterId)
  let table ← Eff.query fun c => c.sw.getTable tableId
  Handler.checkIdFree counterId (fun sw id => (sw.findCounter tableId id).isSome)
    fun id => .base .missingKey ("Counter ID " ++ toString id ++ " already taken")
  let tmpCounter ← Eff.query fun c => parseCounter p table.tableId c.obj.attrs
  Handler.withIdGuard .counter tableId do
    let counterId ← Handler.guardedId o.alloc counterId
    let newCounter ← Eff.query fun _ =>
      { tmpCounter with counterId := counterId }.commitCreate o table isRollbkOp
    -- Committed: nothing may fail from here on.
    Handler.onSwitch (NasAclSwitch.saveCounter newCounter)
    Handler.unguard
    Handler.onObj fun obj => obj.keySetObjId .counterId counterId
    Handler.savePrev isRollbkOp fun obj prev =>
      .ok (counterKeyFill newCounter (prev.setKey obj.key))

/-- The base object's part of `commit_delete`. -/
def baseCounterDelete (o : Oracle) (tableId counterId : NasObjId) (counter : NasAclCounter)
    (rollingBack : Bool) : Handler Unit := do
  let (outcome, ndiObjIds) := o.counterDelete counter rollingBack
  Handler.onSwitch fun sw => .ok (sw.setCounterIds tableId counterId ndiObjIds)
  Eff.query fun _ => outcome

/-- `nas_acl_counter_delete`. -/
def nasAclCounterDelete (p : Platform) (o : Oracle) (isRollbkOp : Bool) : Handler Unit := do
  let tableId ← Handler.mandatoryKey .counterTableId "Table ID is a mandatory key for Counter Delete "
  let counterId ← Handler.mandatoryKey .counterId "Counter ID is a mandatory key for Counter Delete"
  let counter ← Eff.query fun c => c.sw.getCounter tableId counterId
  Handler.savePrev isRollbkOp fun obj prev =>
    (counterKeyFill counter (prev.setKey obj.key)).fill (fillCounterAttrInfo p counter)
  Eff.query fun _ => counter.checkDelete
  baseCounterDelete o tableId counterId counter isRollbkOp
  Handler.onSwitch (NasAclSwitch.removeCounterFromTable tableId counterId)

/-! ## Stats -/

/-- What `_extract_stats_attrs` takes from a request. -/
structure StatsAttrs where
  npuList : NpuSet := ∅
  pktCount : Option UInt64 := none
  byteCount : Option UInt64 := none
  deriving DecidableEq

/-- `_extract_stats_attrs`, for a SET. -/
def extractStatsAttrs (attrs : List CpsAttr) : Option StatsAttrs :=
  let found := attrs.foldl (fun (st : StatsAttrs) attr =>
    match attr.id with
    | .statsNpuIdList => { st with npuList := insert attr.dataU32 st.npuList }
    | .statsMatchedPackets => { st with pktCount := some attr.dataU64 }
    | .statsMatchedBytes => { st with byteCount := some attr.dataU64 }
    | _ => st) {}
  if found.pktCount = none ∧ found.byteCount = none then none else some found

/-- Write a count, if the request carries it. -/
def NasAclCounter.setCountIfPresent (o : Oracle) (cType : CounterType) (npuId : NpuId)
    (counter : NasAclCounter) : Option UInt64 → Handler Unit
  | some count => counter.setCountNdi o cType npuId count
  | none => pure ()

/-- The writes of one NPU. -/
def setCountsNdi (o : Oracle) (counter : NasAclCounter) (st : StatsAttrs) (npuId : NpuId) :
    Handler Unit := do
  counter.setCountIfPresent o .packet npuId st.pktCount
  counter.setCountIfPresent o .byte npuId st.byteCount

/-- `nas_acl_stats_set`. -/
def nasAclStatsSet (p : Platform) (o : Oracle) : Handler Unit := do
  let tableId ← Handler.mandatoryKey .statsTableId
    "Table ID is a mandatory key for Counter Stats Modify "
  let counterId ← Handler.mandatoryKey .statsCounterId
    "Counter ID is a mandatory key for Counter Stats Modify"
  let st ← Eff.query fun c => match extractStatsAttrs c.obj.attrs with
    | some st => .ok st
    | none => .error (.base .missingAttr "")
  let counter ← Eff.query fun c => c.sw.getCounter tableId counterId
  let loopNpu := if st.npuList = ∅ then counter.npuList else st.npuList
  (p.npuOrder.visit loopNpu).forM (setCountsNdi o counter st)

end SonicNasAcl
