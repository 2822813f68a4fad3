/-
# CpsLists -- the match list and the action list of a request

`nas_acl_cps_filter.cpp` and `nas_acl_cps_action.cpp`.  A list attribute holds one
container per element, under any index; each names its type and carries its value.
The values are looked up by path from the top of the object, so the containers only
supply the indices and the types.

Reading adds one element after the other to an entry, and the first of them clears
the old list.  Writing gives the elements the indices 0, 1, ... in the order the
map is traversed, and stops at the first that cannot be written.
-/
import SonicNasAcl.Entry

namespace SonicNasAcl

set_option autoImplicit false

open Lib

/-! ## Elements of a list attribute -/

/-- `nas_acl_get_attr`: the first attribute with an id, and whether there is another. -/
def nasAclGetAttr (it : List CpsAttr) (attrId : AttrId) : Option (CpsAttr × Bool) :=
  match it.filter fun a => a.id = attrId with
  | [] => none
  | attr :: rest => some (attr, !rest.isEmpty)

/-- The type a list element names; `what` is the word its errors use. -/
def elementType (typeAttr : AttrId) (what : String) (elem : CpsAttr) : Except Exn UInt32 :=
  if elem.inside.isEmpty then
    .error (.base .missingAttr ("Missing list container for " ++ what ++ " in object"))
  else
    match nasAclGetAttr elem.inside typeAttr with
    | none => .error (.base .missingAttr ("Missing " ++ what ++ "_TYPE attribute"))
    | some (attr, isDupl) =>
        if isDupl then .error (.base .duplicate ("Duplicate " ++ what ++ "_TYPE attribute"))
        else .ok attr.dataU32

/-- The loop over the elements of a list attribute. -/
def forEachElement (listAttr typeAttr : AttrId) (what : String)
    (setAttr : UInt32 → List AttrId → NasAclEntry → Except Exn NasAclEntry)
    (it : CpsAttr) (e : NasAclEntry) : Except Exn NasAclEntry :=
  it.inside.foldlM (fun e elem => do
    let typeVal ← elementType typeAttr what elem
    setAttr typeVal [listAttr, elem.id] e) e

/-! ## Match fields -/

/-- The filter a request describes under a path. -/
def readFilter (p : Platform) (obj : List CpsAttr) (matchTypeVal : UInt32)
    (parentAttrIdList : List AttrId) : Except Exn NasAclFilter :=
  match p.matchTypes.decode matchTypeVal with
  | none => .error (.base .attrVal
      ("Could not find filter (Invalid Filter Type ) " ++ toString matchTypeVal))
  | some t => do
      let mapInfo := filterMap p t
      if mapInfo.val.dataType ≠ .none then
        let commonDataList ←
          copyDataFromObj p obj parentAttrIdList mapInfo.val mapInfo.childList mapInfo.name
        mapInfo.setFn commonDataList (.new t)
      else .ok (.new t)

/-- `nas_acl_set_match_attr`. -/
def setMatchAttr (p : Platform) (table : NasAclTable) (obj : List CpsAttr)
    (matchTypeVal : UInt32) (parentAttrIdList : List AttrId) (reset : Bool) (e : NasAclEntry) :
    Except Exn NasAclEntry := do
  let filter ← readFilter p obj matchTypeVal parentAttrIdList
  e.addFilter p table filter reset

/-- `nas_acl_set_match_list`. -/
def setMatchList (p : Platform) (table : NasAclTable) (obj : List CpsAttr) :
    CpsAttr → NasAclEntry → Except Exn NasAclEntry :=
  forEachElement .entryMatch .entryMatchType "MATCH" fun matchTypeVal path e =>
    setMatchAttr p table obj matchTypeVal path true e

/-- `nas_acl_fill_match_attr`. -/
def fillMatchAttr (p : Platform) (filter : NasAclFilter) (matchType : MatchType)
    (parentAttrIdList : List AttrId) : Fill :=
  let mapInfo := filterMap p matchType
  copyDataToObj p (parentAttrIdList ++ [mapInfo.val.attrId]) mapInfo.val mapInfo.childList
    (mapInfo.getFn filter)

/-- One element of `nas_acl_fill_match_attr_list`. -/
def fillMatchElement (p : Platform) (filter : NasAclFilter) (listIndex : Nat) : Fill :=
  Fill.andThen
    (Fill.one [.entryMatch, .index listIndex, .entryMatchType]
      (Tlv.leaf (bytesU32 (p.matchTypes.code filter.filterType))))
    (fillMatchAttr p filter filter.filterType [.entryMatch, .index listIndex])

/-- `nas_acl_fill_match_attr_list`. -/
def fillMatchAttrList (p : Platform) (e : NasAclEntry) : Fill :=
  Fill.forEach (fun (filter, listIndex) => fillMatchElement p filter listIndex)
    (e.flist.items p.matchOrder).zipIdx

/-! ## Actions -/

/-- The action a request describes under a path. -/
def readAction (p : Platform) (obj : List CpsAttr) (actionTypeVal : UInt32)
    (parentAttrIdList : List AttrId) : Except Exn NasAclAction :=
  match p.actionTypes.decode actionTypeVal with
  | none => .error (.base .fail
      ("Could not find action (Invalid Action Type )" ++ toString actionTypeVal))
  | some t => do
      let mapInfo := actionMap p t
      if mapInfo.val.dataType ≠ .none then
        let commonDataList ←
          copyDataFromObj p obj parentAttrIdList mapInfo.val mapInfo.childList mapInfo.name
        match mapInfo.setFn with
        | some setFn => setFn commonDataList (.new t)
        | none => .error (.abort "null set_fn")
      else .ok (.new t)

/-- `nas_acl_set_action_attr`. -/
def setActionAttr (p : Platform) (sw : NasAclSwitch) (obj : List CpsAttr)
    (actionTypeVal : UInt32) (parentAttrIdList : List AttrId) (reset : Bool) (e : NasAclEntry) :
    Except Exn NasAclEntry := do
  let action ← readAction p obj actionTypeVal parentAttrIdList
  e.addAction sw action reset

/-- `nas_acl_set_action_list`. -/
def setActionList (p : Platform) (sw : NasAclSwitch) (obj : List CpsAttr) :
    CpsAttr → NasAclEntry → Except Exn NasAclEntry :=
  forEachElement .entryAction .entryActionType "ACTION" fun actionTypeVal path e =>
    setActionAttr p sw obj actionTypeVal path true e

/-- `nas_acl_fill_action_attr`.  The accessor is called whether there is one or not. -/
def fillActionAttr (p : Platform) (action : NasAclAction) (actionType : ActionType)
    (parentAttrIdList : List AttrId) : Fill :=
  let mapInfo := actionMap p actionType
  match mapInfo.getFn with
  | none => .error (.abort "null get_fn")
  | some getFn =>
      copyDataToObj p (parentAttrIdList ++ [mapInfo.val.attrId]) mapInfo.val mapInfo.childList
        (getFn action)

/-- One element of `nas_acl_fill_action_attr_list`. -/
def fillActionElement (p : Platform) (action : NasAclAction) (listIndex : Nat) : Fill :=
  Fill.andThen
    (Fill.one [.entryAction, .index listIndex, .entryActionType]
      (Tlv.leaf (bytesU32 (p.actionTypes.code action.actionType))))
    (if (actionMap p action.actionType).val.dataType ≠ .none then
      fillActionAttr p action action.actionType [.entryAction, .index listIndex]
    else Fill.done)

/-- `nas_acl_fill_action_attr_list`. -/
def fillActionAttrList (p : Platform) (e : NasAclEntry) : Fill :=
  Fill.forEach (fun (action, listIndex) => fillActionElement p action listIndex)
    (e.alist.items p.actionOrder).zipIdx

end SonicNasAcl
