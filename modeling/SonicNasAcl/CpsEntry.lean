/-
# CpsEntry -- creating, modifying and deleting entries

The handlers of `nas_acl_cps_entry.cpp`.  A request whose key names a match type or
an action type is an incremental update of one element, whatever the operation; any
other CREATE, SET or DELETE is about the whole entry.

Every handler works on a copy of the entry, commits it through the base object and
only then saves it.  Between the two it fills the object that will undo it, from the
entry as it was: the result of filling is not looked at.
-/
import SonicNasAcl.CpsCounter

namespace SonicNasAcl

set_option autoImplicit false

open Lib

/-! ## Keys -/

/-- The element an incremental update is about. -/
inductive IncrType where
  | matchType (v : UInt32)
  | actionType (v : UInt32)
  deriving DecidableEq, Repr

/-- `entry_op_key_t`, of the only switch. -/
structure EntryOpKey where
  table : NasAclTable
  eid : Option NasObjId
  incrUpd : Option IncrType

/-- The type in a key, which counts only together with an entry id. -/
def keyIncrType (obj : CpsObject) : Option IncrType :=
  match obj.keyGetObjId .entryId with
  | none => none
  | some _ =>
      match obj.keyGetU32 .entryMatchType with
      | some v => some (.matchType v)
      | none => (obj.keyGetU32 .entryActionType).map .actionType

/-- `_cps_op_key_extract`. -/
def cpsOpKeyExtract (sw : NasAclSwitch) (obj : CpsObject) : Except Exn EntryOpKey :=
  match obj.keyGetObjId .entryTableId with
  | none => .error (.base .missingKey "Missing Table ID key")
  | some tableId => do
      let table ← sw.getTable tableId
      .ok ⟨table, obj.keyGetObjId .entryId, keyIncrType obj⟩

theorem cpsOpKeyExtract_ok {sw : NasAclSwitch} {obj : CpsObject} {table : NasAclTable}
    {eid : Option NasObjId} {upd : Option IncrType} :
    cpsOpKeyExtract sw obj = .ok ⟨table, eid, upd⟩ ↔
      ∃ t, obj.keyGetObjId .entryTableId = some t ∧ sw.getTable t = .ok table ∧
        obj.keyGetObjId .entryId = eid ∧ keyIncrType obj = upd := by
  unfold cpsOpKeyExtract
  cases obj.keyGetObjId .entryTableId with
  | none => simp only [reduceCtorEq, false_and, exists_false]
  | some t =>
      simp only [except_bind_ok, Except.ok.injEq, EntryOpKey.mk.injEq, Option.some.injEq,
        exists_eq_left']
      constructor
      · rintro ⟨_, found, rfl, same⟩
        exact ⟨found, same⟩
      · rintro ⟨found, same⟩
        exact ⟨table, found, rfl, same⟩

/-- `_cps_key_fill`. -/
def entryKeyFill (e : NasAclEntry) (obj : CpsObject) : CpsObject :=
  (obj.keySetObjId .entryTableId e.tableId).keySetObjId .entryId e.entryId

/-! ## Requests -/

/-- One attribute of a request, and whether it named an NPU. -/
def parseEntryAttr (p : Platform) (sw : NasAclSwitch) (table : NasAclTable)
    (obj : List CpsAttr) (st : NasAclEntry × Bool) (attr : CpsAttr) :
    Except Exn (NasAclEntry × Bool) :=
  match attr.id with
  | .entryPriority =>
      if st.1.isAttrDirty .entryPriority then
        .error (.base .duplicate "Duplicate Priority attribute ")
      else .ok (st.1.setPriority attr.dataU32, st.2)
  | .entryMatch => do
      let e ← setMatchList p table obj attr st.1
      .ok (e, st.2)
  | .entryAction => do
      let e ← setActionList p sw obj attr st.1
      .ok (e, st.2)
  | .entryNpuIdList => .ok (st.1.addNpu attr.dataU32, true)
  | _ => .ok st

/-- `_cps_parse_entry_obj`. -/
def cpsParseEntryObj (p : Platform) (sw : NasAclSwitch) (table : NasAclTable)
    (obj : List CpsAttr) (e : NasAclEntry) : Except Exn (NasAclEntry × Bool) :=
  obj.foldlM (parseEntryAttr p sw table obj) (e, false)

/-- An incremental update of a match field.  SET and DELETE need it to be there. -/
def incrFilter (p : Platform) (table : NasAclTable) (obj : List CpsAttr) (op : CpsOper)
    (v : UInt32) (e : NasAclEntry) : Except Exn NasAclEntry :=
  if op = .create then setMatchAttr p table obj v [] false e
  else
    match p.matchTypes.decode v with
    | none => .error (.base .keyVal "ACL Entry has no Filter field Invalid Filter Type")
    | some ftype => do
        let _ ← e.getFilter ftype
        if op = .delete then .ok (e.removeFilter ftype) else setMatchAttr p table obj v [] false e

/-- An incremental update of an action. -/
def incrAction (p : Platform) (sw : NasAclSwitch) (obj : List CpsAttr) (op : CpsOper)
    (v : UInt32) (e : NasAclEntry) : Except Exn NasAclEntry :=
  if op = .create then setActionAttr p sw obj v [] false e
  else
    match p.actionTypes.decode v with
    | none => .error (.base .keyVal "ACL Entry has no Action Invalid Action Type")
    | some atype => do
        let _ ← e.getAction atype
        if op = .delete then .ok (e.removeAction atype) else setActionAttr p sw obj v [] false e

/-- The changed copy of an incremental update, before its commit. -/
def incrNewEntry (p : Platform) (sw : NasAclSwitch) (table : NasAclTable) (obj : List CpsAttr)
    (op : CpsOper) : IncrType → NasAclEntry → Except Exn NasAclEntry
  | .matchType v => incrFilter p table obj op v
  | .actionType v => incrAction p sw obj op v

/-! ## Objects to undo with -/

/-- `nas_acl_fill_entry_npu_list`: the overridden `npu_list`, unless it is the
table's. -/
def fillEntryNpuList (p : Platform) (e : NasAclEntry) : Fill :=
  if e.followingTableNpus then Fill.done
  else
    Fill.forEach (fun npuId => Fill.one [.entryNpuIdList] (Tlv.leaf (bytesU32 npuId)))
      (p.npuOrder.visit e.npuList)

/-- What `_cps_pack_attrs` fills for one attribute. -/
def fillEntryAttr (p : Platform) (e : NasAclEntry) : AttrId → Fill
  | .entryPriority => Fill.one [.entryPriority] (Tlv.leaf (bytesU32 e.priority))
  | .entryMatch => fillMatchAttrList p e
  | .entryAction => fillActionAttrList p e
  | _ => Fill.done

/-- `_cps_pack_attrs`. -/
def cpsPackAttrs (p : Platform) (keyObj : CpsObject) (e : NasAclEntry) (attrs : Finset AttrId)
    (npuModified : Bool) (packObj : CpsObject) : Except Exn CpsObject := do
  let packObj := entryKeyFill e (packObj.setKey keyObj.key)
  let packObj ← (p.attrOrder.visit attrs).foldlM
    (fun packObj attrId => packObj.fill (fillEntryAttr p e attrId)) packObj
  if npuModified then packObj.fill (fillEntryNpuList p e) else .ok packObj

/-- `_cps_pack_entry`. -/
def cpsPackEntry (p : Platform) (keyObj : CpsObject) (e : NasAclEntry) :
    CpsObject → Except Exn CpsObject :=
  cpsPackAttrs p keyObj e e.base.setAttrs true

/-- `_cps_pack_key`. -/
def cpsPackKey (p : Platform) (keyObj : CpsObject) (e : NasAclEntry) :
    CpsObject → Except Exn CpsObject :=
  cpsPackAttrs p keyObj e ∅ false

/-- Without attributes there is only the key. -/
theorem cpsPackKey_eq (p : Platform) (keyObj : CpsObject) (e : NasAclEntry)
    (packObj : CpsObject) :
    cpsPackKey p keyObj e packObj = .ok (entryKeyFill e (packObj.setKey keyObj.key)) := by
  simp only [cpsPackKey, cpsPackAttrs, Traversal.visit_empty, List.foldlM_nil, except_pure,
    except_ok_bind, Bool.false_eq_true, if_false]

/-- The object that undoes an incremental update: keyed by the element, and carrying
its old value unless the update was a CREATE. -/
def packIncr (p : Platform) (keyObj : CpsObject) (e : NasAclEntry) (op : CpsOper)
    (upd : IncrType) (packObj : CpsObject) : Except Exn CpsObject :=
  let packObj := entryKeyFill e (packObj.setKey keyObj.key)
  match upd with
  | .matchType v =>
      let packObj := packObj.keySetU32 .entryMatchType v
      if op = .create then .ok packObj
      else
        match p.matchTypes.decode v with
        | none => .ok packObj
        | some ftype => packObj.fill (do
            let filter ← e.getFilter ftype
            fillMatchAttr p filter ftype [])
  | .actionType v =>
      let packObj := packObj.keySetU32 .entryActionType v
      if op = .create then .ok packObj
      else
        match p.actionTypes.decode v with
        | none => .ok packObj
        | some atype => packObj.fill (do
            let action ← e.getAction atype
            fillActionAttr p action atype [])

/-! ## Commits -/

/-- An entry after a commit of the base object. -/
def NasAclEntry.committed (ndiEntryIds : NdiObjIdTable) (e : NasAclEntry) : NasAclEntry :=
  { e with base := e.base.committed, ndiEntryIds := ndiEntryIds }

/-- `nas_acl_entry::commit_create`. -/
def NasAclEntry.commitCreate (p : Platform) (o : Oracle) (sw : NasAclSwitch)
    (table : NasAclTable) (rollingBack : Bool) (e : NasAclEntry) : Except Exn NasAclEntry := do
  let e ← e.checkCreate p sw table
  let ndiEntryIds ← o.entryCreate ⟨p, sw, table⟩ e rollingBack
  .ok (e.committed ndiEntryIds)

/-- `nas_acl_entry::commit_modify`: the committed entry and the attributes that were
dirty. -/
def commitModify (p : Platform) (o : Oracle) (table : NasAclTable)
    (eOrig : NasAclEntry) (rollingBack : Bool) (e : NasAclEntry) :
    Handler (NasAclEntry × Finset AttrId) := do
  let e ← Eff.query fun c => e.checkModify p c.sw table
  let (outcome, oldIds) ← Eff.query fun c =>
    .ok (o.entryModify ⟨p, c.sw, table⟩ e eOrig rollingBack)
  Handler.onSwitch fun sw => .ok (sw.setEntryIds eOrig.tableId eOrig.entryId oldIds)
  let ndiEntryIds ← Eff.query fun _ => outcome
  return (e.committed ndiEntryIds, e.base.dirtyAttrs)

/-- `commit_delete`, which the entry does not override. -/
def commitDelete (p : Platform) (o : Oracle) (table : NasAclTable) (e : NasAclEntry)
    (rollingBack : Bool) : Handler Unit := do
  let (outcome, ids) ← Eff.query fun c => .ok (o.entryDelete ⟨p, c.sw, table⟩ e rollingBack)
  Handler.onSwitch fun sw => .ok (sw.setEntryIds e.tableId e.entryId ids)
  Eff.query fun _ => outcome

/-! ## Handlers -/

/-- `_cps_entry_incr_upd`. -/
def cpsEntryIncrUpd (p : Platform) (o : Oracle) (table : NasAclTable) (eid : NasObjId)
    (upd : IncrType) (op : CpsOper) (isRollbkOp : Bool) : Handler Unit := do
  let oldEntry ← Eff.query fun c => c.sw.getEntry table.tableId eid
  let newEntry ← Eff.query fun c => incrNewEntry p c.sw table c.obj.attrs op upd oldEntry
  let (newEntry, _) ← commitModify p o table oldEntry isRollbkOp newEntry
  -- Committed: nothing may fail from here on.
  Handler.savePrev isRollbkOp fun obj => packIncr p obj oldEntry op upd
  Handler.onSwitch (NasAclSwitch.saveEntry newEntry)

/-- `nas_acl_entry_create`. -/
def nasAclEntryCreate (p : Platform) (o : Oracle) (isRollbkOp : Bool) : Handler Unit := do
  let opKey ← Eff.query fun c => cpsOpKeyExtract c.sw c.obj
  match opKey.incrUpd, opKey.eid with
  | some _, none =>
      Handler.fail .missingKey "Entry ID is a mandatory key for Modify operation"
  | some upd, some eid => cpsEntryIncrUpd p o opKey.table eid upd .create isRollbkOp
  | none, eid =>
      let table := opKey.table
      Handler.checkIdFree eid (fun sw id => (sw.findEntry table.tableId id).isSome)
        fun id => .base .keyVal ("Entry ID " ++ toString id ++ " already taken")
      let (tmpEntry, _) ← Eff.query fun c =>
        cpsParseEntryObj p c.sw table c.obj.attrs (.new p table.tableId)
      Handler.withIdGuard .entry table.tableId do
        let entryId ← Handler.guardedId o.alloc eid
        let newEntry ← Eff.query fun c =>
          { tmpEntry with entryId := entryId }.commitCreate p o c.sw table isRollbkOp
        -- Committed: nothing may fail from here on.
        Handler.onSwitch (NasAclSwitch.saveEntry newEntry)
        Handler.unguard
        Handler.onObj fun obj => obj.keySetObjId .entryId entryId
        Handler.savePrev isRollbkOp fun obj => cpsPackKey p obj newEntry

/-- `nas_acl_entry_modify`. -/
def nasAclEntryModify (p : Platform) (o : Oracle) (isRollbkOp : Bool) : Handler Unit := do
  let opKey ← Eff.query fun c => cpsOpKeyExtract c.sw c.obj
  match opKey.eid, opKey.incrUpd with
  | none, _ => Handler.fail .missingKey "Entry ID is a mandatory key for Modify operation"
  | some eid, some upd => cpsEntryIncrUpd p o opKey.table eid upd .set isRollbkOp
  | some eid, none =>
      let table := opKey.table
      let oldEntry ← Eff.query fun c => c.sw.getEntry table.tableId eid
      let (newEntry, npuModified) ← Eff.query fun c =>
        cpsParseEntryObj p c.sw table c.obj.attrs oldEntry
      let (newEntry, modAttrs) ← commitModify p o table oldEntry isRollbkOp newEntry
      -- Committed: nothing may fail from here on.
      Handler.savePrev isRollbkOp fun obj => cpsPackAttrs p obj oldEntry modAttrs npuModified
      Handler.onSwitch (NasAclSwitch.saveEntry newEntry)

/-- `nas_acl_entry_delete`. -/
def nasAclEntryDelete (p : Platform) (o : Oracle) (isRollbkOp : Bool) : Handler Unit := do
  let opKey ← Eff.query fun c => cpsOpKeyExtract c.sw c.obj
  match opKey.eid, opKey.incrUpd with
  | none, _ => Handler.fail .missingKey "Entry ID is a mandatory key for Delete operation"
  | some eid, some upd => cpsEntryIncrUpd p o opKey.table eid upd .delete isRollbkOp
  | some eid, none =>
      let table := opKey.table
      let entry ← Eff.query fun c => c.sw.getEntry table.tableId eid
      commitDelete p o table entry isRollbkOp
      -- Committed: nothing may fail from here on.
      Handler.savePrev isRollbkOp fun obj => cpsPackEntry p obj entry
      Handler.onSwitch (NasAclSwitch.removeEntryFromTable table.tableId eid)

end SonicNasAcl
