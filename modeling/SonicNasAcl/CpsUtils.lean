/-
# CpsUtils -- values in and out of an attribute object

`nas_acl_cps_utils.cpp`: a descriptor (`MapData`, with the descriptors of its
children) says how a value is laid out under a path of an object, and two
functions follow it.

* `copyDataFromObj` reads the items of a value.  A value that is missing, of the
  wrong length or out of its range is refused; a missing optional mask is filled
  with ones, or with the largest value the range allows.
* `copyDataToObj` writes them.  It only ever adds attributes, so it is modelled by
  what it adds, in order, and by whether it came to its end (`Fill`).  What was
  added before a failure stays in the object.
-/
import SonicNasAcl.Action

namespace SonicNasAcl

set_option autoImplicit false

open Lib

/-! ## Descriptors -/

/-- `NAS_ACL_DATA_TYPE_t`. -/
inductive DataType where
  | none | u8 | u16 | u32 | u64 | objId | bin | ifindex | iflist | embedded | opaqueData
  | embeddedList
  deriving DecidableEq, Repr

/-- `nas_acl_obj_data_type_to_str`. -/
def DataType.toStr : DataType → String
  | .none => "NONE"
  | .u8 => "U8"
  | .u16 => "U16"
  | .u32 => "U32"
  | .u64 => "U64"
  | .objId => "OBJ-ID"
  | .bin => "BIN"
  | .iflist => "IFLIST"
  | .embedded => "EMBEDDED"
  | .opaqueData => "OPAQUE"
  | .ifindex => "IFINDEX"
  | .embeddedList => "INVALID"

/-- `nas_acl_attr_mode_t`. -/
inductive AttrMode where
  | mandatory | optional
  deriving DecidableEq, Repr

/-- `nas_acl_map_data_t`; a length or a maximum of zero means none is given. -/
structure MapData where
  attrId : AttrId
  dataType : DataType
  dataLen : Nat := 0
  mode : AttrMode := .mandatory
  rangeMin : Nat := 0
  rangeMax : Nat := 0
  deriving DecidableEq, Repr

/-! ## Reading -/

/-- `_cps_wr_attr_data`. -/
def cpsWrAttrData (attrVal : CpsAttr) (objDataType : DataType) (subObjName : String) :
    Except Exn CommonData :=
  match objDataType with
  | .u8 => .ok (.ofU8 attrVal.dataU8)
  | .u16 => .ok (.ofU16 attrVal.dataU16)
  | .u32 => .ok (.ofU32 attrVal.dataU32)
  | .u64 => .ok (.ofU64 attrVal.dataU64)
  | .objId => .ok (.ofObjId attrVal.dataU64)
  | .ifindex => .ok (.ofIfindex attrVal.dataU32)
  | .bin => .ok (.ofBytes attrVal.value)
  | .none => .ok {}
  | t => .error (.base .fail
      ("Failed to extract " ++ subObjName ++ "Invalid data type " ++ t.toStr))

/-- `_fill_optional_attr`. -/
def fillOptionalAttr (p : Platform) (valInfo : MapData) (subObjName : String) :
    Except Exn CommonData :=
  match valInfo.dataType with
  | .u8 => .ok (.ofU8 (if valInfo.rangeMax ≠ 0 then UInt8.ofNat valInfo.rangeMax else 0xff))
  | .u16 => .ok (.ofU16 (if valInfo.rangeMax ≠ 0 then UInt16.ofNat valInfo.rangeMax else 0xffff))
  | .u32 =>
      .ok (.ofU32 (if valInfo.rangeMax ≠ 0 then UInt32.ofNat valInfo.rangeMax else 0xffffffff))
  | .u64 => .ok (.ofU64 0xffffffffffffffff)
  | .bin => .ok (.ofBytes (List.replicate valInfo.dataLen 0xff))
  | t => .error (.base .fail
      ("Failed to extract " ++ subObjName ++ ": Optional Attribute "
        ++ toString (p.attrNum valInfo.attrId) ++ ": Unsupported type " ++ t.toStr))

/-- The bounds of a descriptor admit a number. -/
def MapData.inRange (valInfo : MapData) (n : Nat) : Bool :=
  valInfo.rangeMin ≤ n ∧ n ≤ valInfo.rangeMax

/-- `_validate_range`. -/
def validateRange (p : Platform) (valInfo : MapData) (data : CommonData) : Except Exn Bool :=
  if valInfo.rangeMax = 0 then .ok true
  else
    match valInfo.dataType with
    | .u8 => .ok (valInfo.inRange data.u8.toNat)
    | .u16 => .ok (valInfo.inRange data.u16.toNat)
    | .u32 => .ok (valInfo.inRange data.u32.toNat)
    | t => .error (.base .fail
        (": Attribute " ++ toString (p.attrNum valInfo.attrId)
          ++ ": Unsupported range validation type " ++ t.toStr))

/-- `_get_data_from_obj`. -/
def getDataFromObj (p : Platform) (obj : List CpsAttr) (attrList : List AttrId)
    (dataInfo : MapData) (subObjName : String) : Except Exn CommonData := do
  if dataInfo.dataType = .opaqueData then
    match (Tlv.get attrList obj).bind p.unserialize with
    | some ndiObjIdTable => return { ndiObjIdTable := ndiObjIdTable }
    | none => .error (.base .missingAttr
        ("Failed to extract " ++ subObjName ++ ": Missing Opaque Attribute "
          ++ toString (p.attrNum dataInfo.attrId)))
  else
    match Tlv.get attrList obj with
    | none =>
        if dataInfo.mode = .mandatory then
          let attrStr := attrList.foldl (fun s a => s ++ toString (p.attrNum a) ++ ".") ""
          .error (.base .missingAttr
            ("Failed to extract " ++ subObjName ++ ": No such attribute - " ++ attrStr))
        else fillOptionalAttr p dataInfo subObjName
    | some attrVal =>
        if dataInfo.dataLen ≠ 0 ∧ dataInfo.dataLen ≠ attrVal.value.length then
          .error (.base .attrLen
            ("Failed to extract " ++ subObjName ++ ": Size mismatch for attribute "
              ++ toString (p.attrNum dataInfo.attrId) ++ " data type " ++ dataInfo.dataType.toStr
              ++ " - expected: " ++ toString dataInfo.dataLen ++ " received: "
              ++ toString attrVal.value.length))
        else
          let commonData ← cpsWrAttrData attrVal dataInfo.dataType subObjName
          if ← validateRange p dataInfo commonData then return commonData
          else
            .error (.base .attrVal
              ("Failed to extract " ++ subObjName ++ ": Invalid value for Attribute "
                ++ toString (p.attrNum dataInfo.attrId) ++ ": Received "
                ++ toString commonData.u32 ++ " Allowed range " ++ toString dataInfo.rangeMin
                ++ " - " ++ toString dataInfo.rangeMax))

/-- `_get_child_attrs_from_obj`: one item for each child. -/
def getChildAttrsFromObj (p : Platform) (obj : List CpsAttr) (parentList : List AttrId)
    (childList : List MapData) (subobjName : String) : Except Exn (List CommonData) :=
  childList.mapM fun dataInfo =>
    getDataFromObj p obj (parentList ++ [dataInfo.attrId]) dataInfo subobjName

/-- `_get_child_list_from_obj`: the items of every inner list element. -/
def getChildListFromObj (p : Platform) (obj : List CpsAttr) (parentList : List AttrId)
    (valInfo : MapData) (childList : List MapData) (subobjName : String) :
    Except Exn (List CommonData) := do
  match Tlv.get parentList obj with
  | none =>
      if valInfo.mode = .mandatory then
        .error (.base .missingAttr
          ("Failed to extract " ++ subobjName ++ ": Missing Attribute "
            ++ toString (p.attrNum valInfo.attrId)))
      else return []
  | some itValueList =>
      let elems ← itValueList.inside.mapM fun elem =>
        getChildAttrsFromObj p obj (parentList ++ [elem.id]) childList subobjName
      return elems.flatten

/-- `_copy_non_iflist_data_from_obj`. -/
def copyNonIflistDataFromObj (p : Platform) (obj : List CpsAttr) (parentList : List AttrId)
    (valInfo : MapData) (childList : List MapData) (subobjName : String) :
    Except Exn (List CommonData) := do
  if valInfo.dataType = .embeddedList then
    getChildListFromObj p obj parentList valInfo childList subobjName
  else if valInfo.dataType = .embedded then
    getChildAttrsFromObj p obj parentList childList subobjName
  else
    return [← getDataFromObj p obj parentList valInfo subobjName]

/-- The interfaces of the attributes with one id. -/
def scanIfval (ifvalAttrId : AttrId) (siblings : List CpsAttr) : List IfIndex :=
  (siblings.filter fun a => a.id = ifvalAttrId).map CpsAttr.dataU32

/-- `_copy_iflist_data_from_obj`.  The interfaces are siblings: they are looked for
at the top of the object when the path has no parent. -/
def copyIflistDataFromObj (p : Platform) (obj : List CpsAttr) (parentList : List AttrId)
    (ifvalAttrId : AttrId) (subObjName : String) : Except Exn (List CommonData) :=
  if parentList = [] then .ok [{ ifindexList := scanIfval ifvalAttrId obj }]
  else
    match Tlv.get parentList obj with
    | none => .error (.base .missingAttr
        ("Failed to extract " ++ subObjName ++ ": Missing Iflist Attribute "
          ++ toString (p.attrNum ifvalAttrId)))
    | some itIfList => .ok [{ ifindexList := scanIfval ifvalAttrId itIfList.inside }]

/-- `nas_acl_copy_data_from_obj`, for the value attribute under a parent path. -/
def copyDataFromObj (p : Platform) (obj : List CpsAttr) (parentList : List AttrId)
    (valInfo : MapData) (childList : List MapData) (subObjName : String) :
    Except Exn (List CommonData) :=
  if valInfo.dataType = .iflist then
    copyIflistDataFromObj p obj parentList valInfo.attrId subObjName
  else
    copyNonIflistDataFromObj p obj (parentList ++ [valInfo.attrId]) valInfo childList subObjName

/-! ## Writing -/

/-- Attributes to add, each at its path. -/
abbrev Adds := List (List AttrId × Tlv.Payload AttrId)

/-- What a filling function adds, and its return value. -/
abbrev Fill := Except Exn (Adds × Bool)

namespace Fill

/-- Nothing added, `true` returned. -/
def done : Fill := .ok ([], true)

/-- Nothing added, `false` returned. -/
def failed : Fill := .ok ([], false)

def one (path : List AttrId) (payload : Tlv.Payload AttrId) : Fill := .ok ([(path, payload)], true)

/-- `if (!x) return false; y`. -/
def andThen (x y : Fill) : Fill := do
  let (adds, ok) ← x
  if ok then
    let (adds', ok') ← y
    return (adds ++ adds', ok')
  else
    return (adds, false)

/-- A loop that returns `false` as soon as its body does. -/
def forEach {α : Type} (body : α → Fill) : List α → Fill
  | [] => done
  | a :: rest => andThen (body a) (forEach body rest)

end Fill

/-- The bytes `_add_data_to_obj` takes from an item, when the type is one it knows. -/
def addedBytes (data : CommonData) : DataType → Option (List UInt8)
  | .u8 => some (bytesU8 data.u8)
  | .u16 => some (bytesU16 data.u16)
  | .u32 => some (bytesU32 data.u32)
  | .u64 => some (bytesU64 data.u64)
  | .objId => some (bytesU64 data.objId)
  | .ifindex => some (bytesU32 data.ifindex)
  | .bin => some data.bytes
  | _ => none

/-- `_add_data_to_obj`. -/
def addDataToObj (p : Platform) (attrList : List AttrId) (data : CommonData)
    (expectedSize : Nat) (objDataType : DataType) : Fill :=
  if objDataType = .opaqueData then Fill.one attrList (p.serialize data.ndiObjIdTable)
  else
    match addedBytes data objDataType with
    | none => Fill.failed
    | some bytes =>
        if expectedSize ≠ 0 ∧ expectedSize ≠ bytes.length then Fill.failed
        else Fill.one attrList (Tlv.leaf bytes)

/-- `_add_child_attrs_to_obj`. -/
def addChildAttrsToObj (p : Platform) (parentList : List AttrId) (childList : List MapData)
    (commonDataList : List CommonData) (startIndex : Nat) : Fill :=
  Fill.forEach (fun (dataInfo, i) => do
      let data ← vectorAt commonDataList (startIndex + i)
      addDataToObj p (parentList ++ [dataInfo.attrId]) data dataInfo.dataLen dataInfo.dataType)
    childList.zipIdx

/-- `_add_child_list_to_obj`. -/
def addChildListToObj (p : Platform) (parentList : List AttrId) (childList : List MapData)
    (commonDataList : List CommonData) : Fill :=
  let elemPerObj := childList.length
  let numObjs := commonDataList.length / elemPerObj
  if numObjs = 0 then Fill.failed
  else
    Fill.forEach (fun iterObj =>
        addChildAttrsToObj p (parentList ++ [.index iterObj]) childList commonDataList
          (iterObj * elemPerObj))
      (List.range numObjs)

/-- `_copy_non_iflist_data_to_obj`. -/
def copyNonIflistDataToObj (p : Platform) (parentList : List AttrId) (valInfo : MapData)
    (childList : List MapData) (commonDataList : List CommonData) : Fill :=
  if valInfo.dataType = .embeddedList then
    addChildListToObj p parentList childList commonDataList
  else if valInfo.dataType = .embedded then
    if commonDataList.length ≠ childList.length then Fill.failed
    else addChildAttrsToObj p parentList childList commonDataList 0
  else
    match commonDataList with
    | [] => Fill.failed
    | data :: _ => addDataToObj p parentList data valInfo.dataLen valInfo.dataType

/-- `_copy_iflist_data_to_obj`. -/
def copyIflistDataToObj (parentList : List AttrId) (commonDataList : List CommonData) : Fill :=
  match commonDataList with
  | [data] =>
      Fill.forEach (fun ifIndex => Fill.one parentList (Tlv.leaf (bytesU32 ifIndex)))
        data.ifindexList
  | _ => Fill.failed

/-- `nas_acl_copy_data_to_obj`. -/
def copyDataToObj (p : Platform) (parentList : List AttrId) (valInfo : MapData)
    (childList : List MapData) (commonDataList : List CommonData) : Fill :=
  match valInfo.dataType with
  | .none => Fill.done
  | .iflist => copyIflistDataToObj parentList commonDataList
  | .opaqueData => Fill.failed
  | _ => copyNonIflistDataToObj p parentList valInfo childList commonDataList

end SonicNasAcl
