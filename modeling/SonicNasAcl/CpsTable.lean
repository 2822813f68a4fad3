/-
# CpsTable -- creating and deleting tables

`nas_acl_table` and the handlers of `nas_acl_cps_table.cpp`.  A table has no modify
handler.  Its create parses the request into a new table, takes an id under a
guard, commits and saves; its delete saves the table's attributes in the undo object
first, and is refused while the table has entries or counters.
-/
import SonicNasAcl.CpsObject

namespace SonicNasAcl

set_option autoImplicit false

open Lib

namespace NasAclTable

/-- The constructor. -/
def new (p : Platform) : NasAclTable where
  base := .new p
  tableId := 0
  stage := .ingress
  allowedFilters := ∅
  priority := 0
  ndiObjIds := ∅

def isAttrDirty (t : NasAclTable) (a : AttrId) : Bool := t.base.isAttrDirty a

def markAttrDirty (a : AttrId) (t : NasAclTable) : NasAclTable :=
  { t with base := t.base.markAttrDirty a }

/-- The three create-only attributes cannot be set once the table is in the NDI. -/
def createOnly (what : String) (t : NasAclTable) : Except Exn Unit :=
  throwIf t.base.createdInNdi (.base .createOnly ("Cannot modify " ++ what ++ " for Table"))

/-- `set_priority`: marked only when it changes. -/
def setPriority (v : UInt32) (t : NasAclTable) : Except Exn NasAclTable := do
  t.createOnly "Priority"
  if v ≠ t.priority then .ok ({ t with priority := v }.markAttrDirty .tablePriority)
  else .ok t

/-- `set_stage`. -/
def setStage (p : Platform) (v : UInt32) (t : NasAclTable) : Except Exn NasAclTable := do
  t.createOnly "Stage"
  match p.stages.decode v with
  | none => .error (.base .attrVal "Bad value for Stage")
  | some stage => .ok ({ t with stage := stage }.markAttrDirty .tableStage)

/-- `set_allowed_filter`: the first of a request clears the set. -/
def setAllowedFilter (p : Platform) (v : UInt32) (t : NasAclTable) : Except Exn NasAclTable := do
  t.createOnly "Filter-Set"
  match p.matchTypes.decode v with
  | none => .error (.base .attrVal ("Unknown Table Match Field type " ++ toString v))
  | some f =>
      let t := if !t.isAttrDirty .tableAllowedMatchFields then
          { t.markAttrDirty .tableAllowedMatchFields with allowedFilters := ∅ }
        else t
      .ok { t with allowedFilters := insert f t.allowedFilters }

/-- `_validate_table_npu_change`: refused once the table is in the NDI and has entries. -/
def validateTableNpuChange (sw : NasAclSwitch) (t : NasAclTable) : Except Exn Unit :=
  if t.base.createdInNdi then do
    let entries ← sw.entryList t.tableId
    throwIf (entries.keys ≠ ∅)
      (.base .createOnly "Cannot modify NPU list when table has entries")
  else .ok ()

/-- `add_npu`. -/
def addNpu (sw : NasAclSwitch) (npuId : NpuId) (t : NasAclTable) : Except Exn NasAclTable := do
  t.validateTableNpuChange sw
  .ok { t with base := t.base.addNpu npuId true }

/-- `commit_create`. -/
def commitCreate (o : Oracle) (rollingBack : Bool) (t : NasAclTable) :
    Except Exn NasAclTable := do
  throwIf (!t.isAttrDirty .tableStage)
    (.base .createOnly "Mandatory attribute Stage not present")
  throwIf (!t.isAttrDirty .tableAllowedMatchFields)
    (.base .createOnly "Mandatory attribute Allowed Match Fields not present")
  let ndiObjIds ← o.tableCreate t rollingBack
  .ok { t with base := t.base.committed, ndiObjIds := ndiObjIds }

/-- The checks of `commit_delete`. -/
def checkDelete (sw : NasAclSwitch) (t : NasAclTable) : Except Exn Unit := do
  let entries ← sw.entryList t.tableId
  throwIf (entries.keys ≠ ∅)
    (.base .inconsistent "Cannot delete table when it has entries")
  let counters ← sw.counterList t.tableId
  throwIf (counters.keys ≠ ∅)
    (.base .inconsistent "Cannot delete table when it has counters")

end NasAclTable

/-! ## Requests -/

/-- The attributes a create request may carry once only. -/
structure TableParse where
  table : NasAclTable
  isStagePresent : Bool := false
  isPriorityPresent : Bool := false

/-- One attribute of a create request. -/
def parseTableAttr (p : Platform) (sw : NasAclSwitch) (st : TableParse) (attr : CpsAttr) :
    Except Exn TableParse :=
  match attr.id with
  | .tableStage =>
      if st.isStagePresent then .error (.base .duplicate "Duplicate Stage attribute ")
      else do
        let table ← st.table.setStage p attr.dataU32
        .ok { st with table := table, isStagePresent := true }
  | .tablePriority =>
      if st.isPriorityPresent then .error (.base .duplicate "Duplicate Priority attribute ")
      else do
        let table ← st.table.setPriority attr.dataU32
        .ok { st with table := table, isPriorityPresent := true }
  | .tableAllowedMatchFields => do
      let table ← st.table.setAllowedFilter p attr.dataU32
      .ok { st with table := table }
  | .tableNpuIdList => do
      let table ← st.table.addNpu sw attr.dataU32
      .ok { st with table := table }
  | _ => .ok st

/-- The table a create request describes. -/
def parseTable (p : Platform) (sw : NasAclSwitch) (attrs : List CpsAttr) :
    Except Exn NasAclTable := do
  let st ← attrs.foldlM (parseTableAttr p sw) { table := .new p }
  .ok st.table

/-- `nas_acl_fill_table_attr_info`, with `explicit_npu_list` false. -/
def fillTableAttrInfo (p : Platform) (t : NasAclTable) : Fill :=
  let u32 (a : AttrId) (v : UInt32) := Fill.one [a] (Tlv.leaf (bytesU32 v))
  Fill.andThen (u32 .tableStage (p.stages.code t.stage)) <|
  Fill.andThen (u32 .tablePriority t.priority) <|
  Fill.andThen
    (Fill.forEach (fun f => u32 .tableAllowedMatchFields (p.matchTypes.code f))
      (p.fieldOrder.visit t.allowedFilters))
    (if t.base.followingSwitchNpus then Fill.done
    else Fill.forEach (fun npuId => u32 .tableNpuIdList npuId) (p.npuOrder.visit t.npuList))

/-- `_cps_key_fill`. -/
def tableKeyFill (t : NasAclTable) (obj : CpsObject) : CpsObject :=
  obj.keySetObjId .tableId t.tableId

/-! ## Handlers -/

/-- `nas_acl_table_create`. -/
def nasAclTableCreate (p : Platform) (o : Oracle) (isRollbkOp : Bool) : Handler Unit := do
  let tableId ← Eff.query fun c => .ok (c.obj.keyGetObjId .tableId)
  Handler.checkIdFree tableId (fun sw id => (sw.findTable id).isSome)
    fun id => .base .keyVal ("Table ID " ++ toString id ++ " already taken")
  let tmpTable ← Eff.query fun c => parseTable p c.sw c.obj.attrs
  Handler.withIdGuard .table 0 do
    let tableId ← Handler.guardedId o.alloc tableId
    let newTable ← Eff.query fun _ =>
      { tmpTable with tableId := tableId }.commitCreate o isRollbkOp
    -- Committed: nothing may fail from here on.
    Handler.onSwitch fun sw => .ok (sw.saveTable newTable)
    Handler.unguard
    Handler.onObj fun obj => obj.keySetObjId .tableId tableId
    Handler.savePrev isRollbkOp fun obj prev => .ok (tableKeyFill newTable (prev.setKey obj.key))

/-- The base object's part of `commit_delete`: the stored table may be left with
other NDI ids. -/
def baseTableDelete (o : Oracle) (t : NasAclTable) (rollingBack : Bool) : Handler Unit := do
  let (outcome, ndiObjIds) := o.tableDelete t rollingBack
  Handler.onSwitch fun sw => .ok (sw.setTableIds t.tableId ndiObjIds)
  Eff.query fun _ => outcome

/-- `nas_acl_table_delete`. -/
def nasAclTableDelete (p : Platform) (o : Oracle) (isRollbkOp : Bool) : Handler Unit := do
  let tableId ← Handler.mandatoryKey .tableId "Table ID is a mandatory key for Table Delete"
  let currTable ← Eff.query fun c => c.sw.getTable tableId
  Handler.savePrev isRollbkOp fun obj prev =>
    (tableKeyFill currTable (prev.setKey obj.key)).fill (fillTableAttrInfo p currTable)
  Eff.query fun c => currTable.checkDelete c.sw
  baseTableDelete o currTable isRollbkOp
  Handler.onSwitch fun sw => .ok (sw.removeTable tableId)

end SonicNasAcl
