/-
# CpsMaps -- the descriptors of every match field and every action

`_filter_map` and `_action_map`: for each type its name, how its value is laid out
in an attribute object, and the accessors that read it out of a filter or an action
and put it back.  Most match fields are a data attribute with an optional mask
(`dataAndMask`); the rows that are not keep their own descriptor.

A number that is no type of the maps is `none` under `Codes.decode`: the maps
here are total on the types.
-/
import SonicNasAcl.CpsUtils

namespace SonicNasAcl

set_option autoImplicit false

/-! ## Constants -/

def nasAclMaxCfi : Nat := 0x1
def nasAclMaxEcn : Nat := 0x3
def nasAclMaxIpFlags : Nat := 0x7
def nasAclMaxIpv6FlowLabel : Nat := 0xfffff
/-- `NAS_MAX_VLAN_ID`, `NAS_MAX_DOT1P` and `NAS_MAX_DSCP`. -/
def nasMaxVlanId : Nat := 4094
def nasMaxDot1p : Nat := 7
def nasMaxDscp : Nat := 63

/-! ## Match fields -/

/-- `nas_acl_filter_info_t`. -/
structure FilterInfo where
  name : String
  val : MapData
  childList : List MapData
  getFn : NasAclFilter → List CommonData
  setFn : List CommonData → NasAclFilter → Except Exn NasAclFilter

namespace FilterInfo

/-- A data attribute and an optional mask of the same kind. -/
def dataAndMask (t : MatchType) (dataType : DataType) (dataLen : Nat)
    (getFn : NasAclFilter → List CommonData)
    (setFn : List CommonData → NasAclFilter → Except Exn NasAclFilter)
    (dataMin rangeMax : Nat) : FilterInfo where
  name := t.typeName
  val := { attrId := .matchValue t, dataType := .embedded }
  childList := [
    { attrId := .matchValueData t, dataType := dataType, dataLen := dataLen,
      rangeMin := dataMin, rangeMax := rangeMax },
    { attrId := .matchValueMask t, dataType := dataType, dataLen := dataLen,
      mode := .optional, rangeMax := rangeMax }]
  getFn := getFn
  setFn := setFn

/-- A single attribute without children. -/
def single (t : MatchType) (dataType : DataType) (dataLen : Nat)
    (getFn : NasAclFilter → List CommonData)
    (setFn : List CommonData → NasAclFilter → Except Exn NasAclFilter)
    (rangeMax : Nat) : FilterInfo where
  name := t.typeName
  val := { attrId := .matchValue t, dataType := dataType, dataLen := dataLen,
           rangeMax := rangeMax }
  childList := []
  getFn := getFn
  setFn := setFn

end FilterInfo

open NasAclFilter in
/-- `_filter_map`. -/
def filterMap (p : Platform) (t : MatchType) : FilterInfo :=
  let ipv6 := FilterInfo.dataAndMask t .bin 16 getIpv6FilterVal setIpv6FilterVal 0 0
  let ipv4 := FilterInfo.dataAndMask t .bin 4 getIpv4FilterVal setIpv4FilterVal 0 0
  let mac := FilterInfo.dataAndMask t .bin 6 getMacFilterVal setMacFilterVal 0 0
  let u8 := FilterInfo.dataAndMask t .u8 1 getU8FilterVal setU8FilterVal
  let u16 := FilterInfo.dataAndMask t .u16 2 getU16FilterVal setU16FilterVal
  let u32 := FilterInfo.dataAndMask t .u32 4 getU32FilterVal setU32FilterVal
  let cfi := FilterInfo.single t .u8 1 getU8FilterVal setU8FilterVal nasAclMaxCfi
  let iflist := FilterInfo.single t .iflist 0 getFilterIfindexList setFilterIfindexList 0
  let ifindex := FilterInfo.single t .ifindex 4 getFilterIfindex (setFilterIfindex p) 0
  match t with
  | .srcIpv6 | .dstIpv6 => ipv6
  | .srcMac | .dstMac => mac
  | .srcIp | .dstIp => ipv4
  | .inPorts | .outPorts => iflist
  | .inPort | .outPort => ifindex
  | .outerVlanId | .innerVlanId => u16 1 nasMaxVlanId
  | .outerVlanPri | .innerVlanPri => u8 0 nasMaxDot1p
  | .outerVlanCfi | .innerVlanCfi => cfi
  | .l4SrcPort | .l4DstPort | .etherType => u16 0 0
  | .ipProtocol | .ttl | .tos | .tcpFlags | .tc | .icmpType | .icmpCode => u8 0 0
  | .dscp => u8 0 nasMaxDscp
  | .ipFlags => u8 0 nasAclMaxIpFlags
  | .ipType => FilterInfo.single t .u32 4 (getIpTypeFilterVal p) (setIpTypeFilterVal p) 0
  | .ipFrag => FilterInfo.single t .u32 4 (getIpFragFilterVal p) (setIpFragFilterVal p) 0
  | .ipv6FlowLabel => u32 0 nasAclMaxIpv6FlowLabel
  | .ecn => u8 0 nasAclMaxEcn

/-! ## Actions -/

/-- `nas_acl_action_info_t`; the accessors of an action without a value are `NULL`. -/
structure ActionInfo where
  name : String
  val : MapData
  childList : List MapData
  getFn : Option (NasAclAction → List CommonData)
  setFn : Option (List CommonData → NasAclAction → Except Exn NasAclAction)

namespace ActionInfo

/-- A single attribute. -/
def single (t : ActionType) (dataType : DataType) (dataLen : Nat)
    (getFn : NasAclAction → List CommonData)
    (setFn : List CommonData → NasAclAction → Except Exn NasAclAction)
    (rangeMin rangeMax : Nat) (childList : List MapData) : ActionInfo where
  name := t.typeName
  val := { attrId := .actionValue t, dataType := dataType, dataLen := dataLen,
           rangeMin := rangeMin, rangeMax := rangeMax }
  childList := childList
  getFn := some getFn
  setFn := some setFn

/-- An object id with its opaque NDI data, once or as a list. -/
def objects (p : Platform) (t : ActionType) (dataType : DataType)
    (setFn : List CommonData → NasAclAction → Except Exn NasAclAction) : ActionInfo where
  name := t.typeName
  val := { attrId := .actionValue t, dataType := dataType }
  childList := [
    { attrId := .actionValueIndex t, dataType := .objId, dataLen := 8 },
    { attrId := .actionValueData t, dataType := .opaqueData }]
  getFn := some (NasAclAction.getOpaqueDataActionVal p)
  setFn := some setFn

/-- No value, and no accessors. -/
def valueless (t : ActionType) : ActionInfo where
  name := t.typeName
  val := { attrId := .index 0, dataType := .none }
  childList := []
  getFn := none
  setFn := none

end ActionInfo

/-- `{ {} }`: one child descriptor, all zero. -/
def zeroChild : List MapData := [{ attrId := .index 0, dataType := .none }]

open NasAclAction in
/-- `_action_map`. -/
def actionMap (p : Platform) (t : ActionType) : ActionInfo :=
  let u8 (rangeMax : Nat) := ActionInfo.single t .u8 1 getU8ActionVal setU8ActionVal 0 rangeMax []
  let u16 (rangeMin rangeMax : Nat) :=
    ActionInfo.single t .u16 2 getU16ActionVal setU16ActionVal rangeMin rangeMax []
  let object := ActionInfo.objects p t .embedded setOpaqueDataActionVal
  let objectList := ActionInfo.objects p t .embeddedList setOpaqueDataListActionVal
  let iflist := ActionInfo.single t .iflist 0 getActionIfindexList (setActionIfindexList p)
    0 0 zeroChild
  match t with
  | .packetAction =>
      ActionInfo.single t .u32 4 (getPktActionVal p) (setPktActionVal p) 0 0 zeroChild
  | .redirectPort =>
      ActionInfo.single t .ifindex 4 getActionIfindex (setActionIfindex p) 0 0 zeroChild
  | .redirectIpNexthop | .setPolicer | .setCpuQueue => object
  | .flood | .decrementTtl => ActionInfo.valueless t
  | .mirrorIngress | .mirrorEgress => objectList
  | .setCounter => ActionInfo.single t .objId 8 getObjIdActionVal setObjIdActionVal 0 0 []
  | .setTc => u8 0
  | .setInnerVlanId | .setOuterVlanId => u16 1 nasMaxVlanId
  | .setInnerVlanPri | .setOuterVlanPri => u8 nasMaxDot1p
  | .setSrcMac | .setDstMac => ActionInfo.single t .bin 6 getMacActionVal setMacActionVal 0 0 []
  | .setSrcIp | .setDstIp => ActionInfo.single t .bin 4 getIpv4ActionVal setIpv4ActionVal 0 0 []
  | .setSrcIpv6 | .setDstIpv6 =>
      ActionInfo.single t .bin 16 getIpv6ActionVal setIpv6ActionVal 0 0 []
  | .setDscp => u8 nasMaxDscp
  | .setL4SrcPort | .setL4DstPort => u16 0 0
  | .egressMask | .redirectPortList => iflist

end SonicNasAcl
