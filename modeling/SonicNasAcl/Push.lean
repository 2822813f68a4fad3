/-
# Push -- an entry in the NDI

The part of `nas_acl_entry.cpp` that installs an entry on an NPU and brings what is
installed in step with a changed copy of the entry.  `Ndi` is what the calls act on:
the entries of every NPU, with one filter and one action of each type, and the tracker
of what is to be undone.  `NdiReplies` answers the calls, in the order they are made.

Filters and actions are compared and pushed by the same two loops
(`utlModifyListNpulistNdi`); the members say how one element is pushed.
-/
import SonicNasAcl.Entry

namespace SonicNasAcl

set_option autoImplicit false

open Lib

/-! ## The NDI -/

/-- An entry as the NDI keeps it: `ndi_acl_entry_t`. -/
structure NdiAclEntry where
  tableId : NdiObjId
  priority : UInt32
  filters : Keyed NdiFilter.filterType
  actions : Keyed NdiAction.actionType

/-- `nas::rollbk_elem_t::op`. -/
inductive RollbkOp where
  | createAttr | deleteAttr
  deriving DecidableEq, Repr

/-- The attribute hierarchy of a tracked change: an attribute and an element of it. -/
inductive AttrHierarchy where
  | matchType (t : MatchType)
  | actionType (t : ActionType)
  | other
  deriving DecidableEq, Repr

/-- `nas::rollbk_elem_t`. -/
structure RollbkElem where
  op : RollbkOp
  npuId : NpuId
  attr : AttrHierarchy
  deriving DecidableEq, Repr

structure Ndi where
  entries : NpuId → NdiObjId → Option NdiAclEntry
  calls : Nat
  trakr : List RollbkElem

/-- The return code of each call, by its number, and the ids of new entries. -/
structure NdiReplies where
  rc : Nat → Except Int Unit
  entryId : NpuId → NdiObjId

abbrev NdiM (α : Type) := Eff Exn Ndi α

namespace Ndi

/-- Change an entry, if there is one. -/
def modifyEntry (npuId : NpuId) (id : NdiObjId) (f : NdiAclEntry → NdiAclEntry) (s : Ndi) : Ndi :=
  { s with
    entries := fun n i => if n = npuId ∧ i = id then (s.entries n i).map f else s.entries n i }

def putEntry (npuId : NpuId) (id : NdiObjId) (e : NdiAclEntry) (s : Ndi) : Ndi :=
  { s with entries := fun n i => if n = npuId ∧ i = id then some e else s.entries n i }

def eraseEntry (npuId : NpuId) (id : NdiObjId) (s : Ndi) : Ndi :=
  { s with entries := fun n i => if n = npuId ∧ i = id then none else s.entries n i }

end Ndi

/-- One call: it acts and returns, or it fails and the code throws. -/
def ndiCall (o : NdiReplies) (errMsg : String) (act : Ndi → Ndi) : NdiM Unit := fun s =>
  match o.rc s.calls with
  | .ok () => (.ok (), { act s with calls := s.calls + 1 })
  | .error rc => (.error (.base (.ndi rc) errMsg), { s with calls := s.calls + 1 })

/-- `ndi_acl_entry_set_filter`. -/
def ndiAclEntrySetFilter (o : NdiReplies) (errMsg : String) (npuId : NpuId) (id : NdiObjId)
    (f : NdiFilter) : NdiM Unit :=
  ndiCall o errMsg (.modifyEntry npuId id fun e => { e with filters := e.filters.put f })

/-- `ndi_acl_entry_disable_filter`. -/
def ndiAclEntryDisableFilter (o : NdiReplies) (errMsg : String) (npuId : NpuId) (id : NdiObjId)
    (t : MatchType) : NdiM Unit :=
  ndiCall o errMsg (.modifyEntry npuId id fun e => { e with filters := e.filters.erase t })

/-- `ndi_acl_entry_set_action`. -/
def ndiAclEntrySetAction (o : NdiReplies) (errMsg : String) (npuId : NpuId) (id : NdiObjId)
    (a : NdiAction) : NdiM Unit :=
  ndiCall o errMsg (.modifyEntry npuId id fun e => { e with actions := e.actions.put a })

/-- `ndi_acl_entry_disable_action`. -/
def ndiAclEntryDisableAction (o : NdiReplies) (errMsg : String) (npuId : NpuId) (id : NdiObjId)
    (t : ActionType) : NdiM Unit :=
  ndiCall o errMsg (.modifyEntry npuId id fun e => { e with actions := e.actions.erase t })

/-- `ndi_entry_ids.at (npu_id)`. -/
def NasAclEntry.ndiEntryId (e : NasAclEntry) (npuId : NpuId) : Except Exn NdiObjId :=
  match e.ndiEntryIds.lookup npuId with
  | some id => .ok id
  | none => .error .outOfRange

/-- `nas_acl_table::get_ndi_obj_id`. -/
def NasAclTable.getNdiObjId (t : NasAclTable) (npuId : NpuId) : Except Exn NdiObjId :=
  match t.ndiObjIds.lookup npuId with
  | some id => .ok id
  | none => .error (.base .fail ("Cannot find NDI ID for Table in NPU " ++ toString npuId))

/-! ## Creating an entry -/

/-- `_copy_all_filters_ndi`, into zeroed structures: `none` when a filter has nothing on
the NPU. -/
def copyAllFiltersNdi (p : Platform) (npuId : NpuId) :
    List NasAclFilter → Except Exn (Option (List NdiFilter))
  | [] => .ok (some [])
  | f :: rest =>
      (f.copyFilterNdi p p.zeroValuesType npuId).bind fun
        | none => .ok none
        | some x => (copyAllFiltersNdi p npuId rest).map (Option.map (x :: ·))

/-- `_copy_ndi_counter_id`, into the last action of a list.  It is `noexcept`, and it
follows the counter without a test. -/
def copyNdiCounterId (sw : NasAclSwitch) (e : NasAclEntry) (npuId : NpuId)
    (ndiAlist : List NdiAction) : Except Exn (List NdiAction) :=
  match ndiAlist.getLast? with
  | none => .error (.abort "back () of an empty list")
  | some ndiAction =>
      noexceptFn do
        let counter ← e.getCounter sw
        match counter.map fun c => c.ndiObjIds.lookup npuId with
        | none => .error (.abort "null counter")
        | some none => .error .outOfRange
        | some (some id) => .ok (ndiAlist.dropLast ++ [{ ndiAction with values := .objId id }])

/-- One turn of `_copy_all_actions_ndi`, and the translation an action is pushed with. -/
def copyOneActionNdi (p : Platform) (sw : NasAclSwitch) (e : NasAclEntry) (npuId : NpuId)
    (ndiAlist : List NdiAction) (a : NasAclAction) : Except Exn (List NdiAction) := do
  let (_, ndiAlist) ← a.copyActionNdi p npuId ndiAlist
  if a.isCounter then copyNdiCounterId sw e npuId ndiAlist else .ok ndiAlist

/-- `_copy_all_actions_ndi`. -/
def copyAllActionsNdi (p : Platform) (sw : NasAclSwitch) (e : NasAclEntry) (npuId : NpuId) :
    Except Exn (List NdiAction) :=
  (e.alist.items p.actionOrder).foldlM (copyOneActionNdi p sw e npuId) []

/-- `ndi_acl_entry_create`. -/
def ndiAclEntryCreate (o : NdiReplies) (npuId : NpuId) (tableId : NdiObjId) (priority : UInt32)
    (filters : List NdiFilter) (actions : List NdiAction) : NdiM Unit :=
  ndiCall o ("NDI ACL Entry Create failed for NPU " ++ toString npuId)
    (.putEntry npuId (o.entryId npuId)
      { tableId := tableId
        priority := priority
        filters := .ofItems filters
        actions := .ofItems actions })

/-- `push_create_obj_to_npu`: whether the entry was created, and the entry. -/
def pushCreateObjToNpu (p : Platform) (o : NdiReplies) (sw : NasAclSwitch) (table : NasAclTable)
    (npuId : NpuId) (e : NasAclEntry) : NdiM (Bool × NasAclEntry) := do
  let tableId ← Eff.query fun _ => table.getNdiObjId npuId
  let filters ← Eff.query fun _ => copyAllFiltersNdi p npuId (e.flist.items p.matchOrder)
  match filters with
  | none => return (false, e)
  | some filters =>
      let actions ← Eff.query fun _ => copyAllActionsNdi p sw e npuId
      ndiAclEntryCreate o npuId tableId e.priority filters actions
      return (true, { e with ndiEntryIds := e.ndiEntryIds.insert npuId (o.entryId npuId) })

/-! ## Deleting an entry -/

/-- `ndi_acl_entry_delete`. -/
def ndiAclEntryDelete (o : NdiReplies) (errMsg : String) (npuId : NpuId) (id : NdiObjId) :
    NdiM Unit :=
  ndiCall o errMsg (.eraseEntry npuId id)

/-- `push_delete_obj_to_npu`: whether the entry was there, and the entry. -/
def pushDeleteObjToNpu (o : NdiReplies) (npuId : NpuId) (e : NasAclEntry) :
    NdiM (Bool × NasAclEntry) :=
  match e.ndiEntryIds.lookup npuId with
  | none => return (false, e)
  | some id => do
      ndiAclEntryDelete o
        ("NDI ACL Entry " ++ toString id ++ " Delete failed for NPU " ++ toString npuId) npuId id
      return (true, { e with ndiEntryIds := e.ndiEntryIds.erase npuId })

/-! ## Pushing the priority -/

/-- `ndi_acl_entry_set_priority`. -/
def ndiAclEntrySetPriority (o : NdiReplies) (errMsg : String) (npuId : NpuId) (id : NdiObjId)
    (priority : UInt32) : NdiM Unit :=
  ndiCall o errMsg (.modifyEntry npuId id fun e => { e with priority := priority })

/-- `push_leaf_attr_to_npu`. -/
def pushLeafAttrToNpu (o : NdiReplies) (attrId : AttrId) (npuId : NpuId) (e : NasAclEntry) :
    NdiM Bool :=
  match attrId with
  | .entryPriority => do
      let id ← Eff.query fun _ => e.ndiEntryId npuId
      ndiAclEntrySetPriority o ("NDI Entry Priority Set Failed for NPU " ++ toString npuId)
        npuId id e.priority
      return true
  | _ => Eff.throw (.base .fail "Unknown leaf attribute type in ACL entry")

/-! ## Pushing one element -/

/-- `_utl_push_disable_filter_to_npu`. -/
def utlPushDisableFilterToNpu (o : NdiReplies) (e : NasAclEntry) (fType : MatchType)
    (npuId : NpuId) : NdiM Unit := do
  let id ← Eff.query fun _ => e.ndiEntryId npuId
  ndiAclEntryDisableFilter o
    ("NDI Filter Disable failed for " ++ fType.typeName ++ " for NPU " ++ toString npuId)
    npuId id fType

/-- `_utl_push_filter_to_npu`: a filter with nothing on the NPU is skipped. -/
def utlPushFilterToNpu (p : Platform) (o : NdiReplies) (e : NasAclEntry) (fAdd : NasAclFilter)
    (npuId : NpuId) : NdiM Unit := do
  let ndiFilter ← Eff.query fun _ => fAdd.copyFilterNdi p p.zeroValuesType npuId
  match ndiFilter with
  | none => return ()
  | some ndiFilter =>
      let id ← Eff.query fun _ => e.ndiEntryId npuId
      ndiAclEntrySetFilter o
        ("NDI Filter set failed for " ++ fAdd.name ++ " for NPU " ++ toString npuId)
        npuId id ndiFilter

/-- `_utl_push_disable_action_to_npu`. -/
def utlPushDisableActionToNpu (o : NdiReplies) (e : NasAclEntry) (aType : ActionType)
    (npuId : NpuId) : NdiM Unit := do
  let id ← Eff.query fun _ => e.ndiEntryId npuId
  ndiAclEntryDisableAction o
    ("NDI Action Disable failed for " ++ aType.typeName ++ " for NPU " ++ toString npuId)
    npuId id aType

/-- `_utl_push_action_to_npu`: the translation of an action always succeeds, also with
nothing in it. -/
def utlPushActionToNpu (p : Platform) (o : NdiReplies) (sw : NasAclSwitch) (e : NasAclEntry)
    (aAdd : NasAclAction) (npuId : NpuId) : NdiM Unit := do
  let ndiAlist ← Eff.query fun _ => copyOneActionNdi p sw e npuId [] aAdd
  ndiAlist.forM fun ndiAction => do
    let id ← Eff.query fun _ => e.ndiEntryId npuId
    ndiAclEntrySetAction o
      ("NDI Action Set failed for " ++ aAdd.name ++ " for NPU " ++ toString npuId)
      npuId id ndiAction

/-! ## Pushing a changed list -/

/-- The `catch` of the loops: when rolling back, a failed call is logged and passed over. -/
def continueOnError (rollingBack : Bool) (body : NdiM Unit) : NdiM Unit := fun s =>
  match body s with
  | (.error (.base errCode errMsg), s') =>
      if rollingBack then (.ok (), s') else (.error (.base errCode errMsg), s')
  | r => r

/-- `if (!rolling_back) r_trakr.push_back (r_elem)`. -/
def track (rollingBack : Bool) (elem : RollbkElem) : NdiM Unit :=
  if rollingBack then pure ()
  else Eff.write fun s => { s with trakr := s.trakr ++ [elem] }

section Lists

variable {κ α : Type} [Fintype κ] {key : α → κ}

/-- The two loops of `_utl_modify_flist_npulist_ndi` and `_utl_modify_alist_npulist_ndi`. -/
def utlModifyListNpulistNdi (order : Traversal κ) (attr : κ → AttrHierarchy)
    (pushDisable : κ → NpuId → NdiM Unit) (push : α → NpuId → NdiM Unit)
    (deleted addOrMod : Keyed key) (rollingBack : Bool) (npuList : List NpuId) : NdiM Unit :=
  npuList.forM fun npuId => do
    (deleted.items order).forM fun x => do
      continueOnError rollingBack (pushDisable (key x) npuId)
      track rollingBack ⟨.deleteAttr, npuId, attr (key x)⟩
    (addOrMod.items order).forM fun x => do
      continueOnError rollingBack (push x npuId)
      track rollingBack ⟨.createAttr, npuId, attr (key x)⟩

end Lists

/-- `_utl_modify_flist_npulist_ndi`. -/
def utlModifyFlistNpulistNdi (p : Platform) (o : NdiReplies) (entryNew entryOld : NasAclEntry)
    (npuList : NpuSet) (rollingBack : Bool) : NdiM Unit :=
  utlModifyListNpulistNdi p.matchOrder .matchType (utlPushDisableFilterToNpu o entryNew)
    (utlPushFilterToNpu p o entryNew) (Keyed.deleted entryNew.flist entryOld.flist)
    (Keyed.addOrMod (NasAclFilter.ne p) entryNew.flist entryOld.flist) rollingBack
    (p.npuOrder.visit npuList)

/-- `_utl_modify_alist_npulist_ndi`. -/
def utlModifyAlistNpulistNdi (p : Platform) (o : NdiReplies) (sw : NasAclSwitch)
    (entryNew entryOld : NasAclEntry) (npuList : NpuSet) (rollingBack : Bool) : NdiM Unit :=
  utlModifyListNpulistNdi p.actionOrder .actionType (utlPushDisableActionToNpu o entryNew)
    (utlPushActionToNpu p o sw entryNew) (Keyed.deleted entryNew.alist entryOld.alist)
    (Keyed.addOrMod NasAclAction.ne entryNew.alist entryOld.alist) rollingBack
    (p.npuOrder.visit npuList)

/-- `push_non_leaf_attr_ndi`. -/
def pushNonLeafAttrNdi (p : Platform) (o : NdiReplies) (sw : NasAclSwitch)
    (nonLeafAttrId : AttrId) (entryOld : NasAclEntry) (npuList : NpuSet) (rollingBack : Bool)
    (entryNew : NasAclEntry) : NdiM Unit :=
  match nonLeafAttrId with
  | .entryMatch => utlModifyFlistNpulistNdi p o entryNew entryOld npuList rollingBack
  | .entryAction => utlModifyAlistNpulistNdi p o sw entryNew entryOld npuList rollingBack
  | _ => Eff.throw (.base .fail "Unknown non-leaf attribute type in ACL entry")

/-! ## Undoing tracked changes -/

/-- `rollback_create_attr_in_npu`. -/
def rollbackCreateAttrInNpu (o : NdiReplies) (attr : AttrHierarchy) (npuId : NpuId)
    (e : NasAclEntry) : NdiM Unit :=
  match attr with
  | .matchType fType => continueOnError true (utlPushDisableFilterToNpu o e fType npuId)
  | .actionType aType => continueOnError true (utlPushDisableActionToNpu o e aType npuId)
  | .other => Eff.throw (.base .fail "Unknown non-leaf attribute type in ACL entry")

/-- `rollback_delete_attr_in_npu`. -/
def rollbackDeleteAttrInNpu (p : Platform) (o : NdiReplies) (sw : NasAclSwitch)
    (attr : AttrHierarchy) (npuId : NpuId) (e : NasAclEntry) : NdiM Unit :=
  match attr with
  | .matchType fType => continueOnError true do
      let f ← Eff.query fun _ => e.getFilter fType
      utlPushFilterToNpu p o e f npuId
  | .actionType aType => continueOnError true do
      let a ← Eff.query fun _ => e.getAction aType
      utlPushActionToNpu p o sw e a npuId
  | .other => Eff.throw (.base .fail "Unknown non-leaf attribute type in ACL entry")

/-- What the base object does with a tracked change of the old entry. -/
def rollbackElem (p : Platform) (o : NdiReplies) (sw : NasAclSwitch) (entryOld : NasAclEntry)
    (elem : RollbkElem) : NdiM Unit :=
  match elem.op with
  | .createAttr => rollbackCreateAttrInNpu o elem.attr elem.npuId entryOld
  | .deleteAttr => rollbackDeleteAttrInNpu p o sw elem.attr elem.npuId entryOld

/-- What the base object does with the tracker of a modify that failed: the last change
is undone first. -/
def rollbackTracked (p : Platform) (o : NdiReplies) (sw : NasAclSwitch) (entryOld : NasAclEntry)
    (trakr : List RollbkElem) : NdiM Unit :=
  trakr.reverse.forM (rollbackElem p o sw entryOld)

end SonicNasAcl
