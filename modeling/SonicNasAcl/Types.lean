/-
# Types -- the values the ACL code passes around

Error codes, exceptions, enumerations, identifiers and the NDI structures, under
the source's names.  Enumerations of the generated headers are inductive types:
their numbers are a parameter of the platform (`Platform.lean`).

* An `Exn` is what a function can throw.  `abort` is the end of the process: a
  null call, a failed assertion or an exception leaving a `noexcept` function.
* `CommonData` is `nas_acl_common_data_t`: its union is one 64-bit cell, read
  back at the width a member has.
* `NdiFilterValue` and `NdiActionValue` are the NDI unions together with the
  `values_type` that says which member is meant.
-/
import Mathlib.Data.Finmap
import SonicNasAcl.Lib.Effect
import SonicNasAcl.Lib.Keyed
import SonicNasAcl.Lib.LittleEndian
import SonicNasAcl.Lib.Tlv

namespace SonicNasAcl

set_option autoImplicit false

open Lib

/-! ## Errors -/

/-- `NAS_ACL_E_*`; `ndi` is the return code of an NDI call, thrown on as it is, and
`cpsErr` is `cps_api_ret_code_ERR`. -/
inductive ErrCode where
  | mem | missingKey | missingAttr | unsupported | duplicate | attrLen
  | createOnly | attrVal | inconsistent | keyVal | fail
  | ndi (rc : Int)
  | cpsErr
  deriving DecidableEq, Repr

/-- What a function throws: `nas::base_exception`, `std::out_of_range`, or the
end of the process. -/
inductive Exn where
  | base (errCode : ErrCode) (errMsg : String)
  | outOfRange
  | abort (why : String)
  deriving DecidableEq, Repr

/-- The `t_std_error` a handler returns; `NAS_ACL_E_NONE` is `.ok ()`. -/
abbrev TStdError := Except ErrCode Unit

/-- `std::vector::at`. -/
def vectorAt {α : Type} (l : List α) (i : Nat) : Except Exn α :=
  match l[i]? with
  | some a => .ok a
  | none => .error .outOfRange

/-! ## Identifiers -/

abbrev NasObjId := UInt64
abbrev NdiObjId := UInt64
abbrev NpuId := UInt32
abbrev IfIndex := UInt32

/-- `nas::npu_set_t`. -/
abbrev NpuSet := Finset NpuId

/-- `nas::ndi_obj_id_table_t`: the NDI id an object has on each NPU. -/
abbrev NdiObjIdTable := Finmap fun _ : NpuId => NdiObjId

/-- `_nas2ndi_oid_tbl`: the NDI ids of each NAS object an action names. -/
abbrev Nas2NdiOidTbl := Finmap fun _ : NasObjId => NdiObjIdTable

/-! ## Enumerations -/

/-- `BASE_ACL_MATCH_TYPE_t`: the enumerators the filter map knows. -/
inductive MatchType where
  | srcIpv6 | dstIpv6 | srcMac | dstMac | srcIp | dstIp
  | inPorts | outPorts | inPort | outPort
  | outerVlanId | outerVlanPri | outerVlanCfi | innerVlanId | innerVlanPri | innerVlanCfi
  | l4SrcPort | l4DstPort | etherType | ipProtocol | dscp | ttl | tos | ipFlags | tcpFlags
  | ipType | ipFrag | ipv6FlowLabel | tc | ecn | icmpType | icmpCode
  deriving DecidableEq, Repr

instance : Fintype MatchType where
  elems := {.srcIpv6, .dstIpv6, .srcMac, .dstMac, .srcIp, .dstIp, .inPorts, .outPorts, .inPort,
    .outPort, .outerVlanId, .outerVlanPri, .outerVlanCfi, .innerVlanId, .innerVlanPri,
    .innerVlanCfi, .l4SrcPort, .l4DstPort, .etherType, .ipProtocol, .dscp, .ttl, .tos,
    .ipFlags, .tcpFlags, .ipType, .ipFrag, .ipv6FlowLabel, .tc, .ecn, .icmpType, .icmpCode}
  complete t := by cases t <;> decide

/-- `BASE_ACL_ACTION_TYPE_t`: the enumerators the action map knows. -/
inductive ActionType where
  | packetAction | redirectPort | redirectIpNexthop | flood | mirrorIngress | mirrorEgress
  | setCounter | setPolicer | decrementTtl | setTc
  | setInnerVlanId | setInnerVlanPri | setOuterVlanId | setOuterVlanPri
  | setSrcMac | setDstMac | setSrcIp | setDstIp | setSrcIpv6 | setDstIpv6
  | setDscp | setL4SrcPort | setL4DstPort | setCpuQueue | egressMask | redirectPortList
  deriving DecidableEq, Repr

instance : Fintype ActionType where
  elems := {.packetAction, .redirectPort, .redirectIpNexthop, .flood, .mirrorIngress,
    .mirrorEgress, .setCounter, .setPolicer, .decrementTtl, .setTc, .setInnerVlanId,
    .setInnerVlanPri, .setOuterVlanId, .setOuterVlanPri, .setSrcMac, .setDstMac, .setSrcIp,
    .setDstIp, .setSrcIpv6, .setDstIpv6, .setDscp, .setL4SrcPort, .setL4DstPort, .setCpuQueue,
    .egressMask, .redirectPortList}
  complete t := by cases t <;> decide

/-- `BASE_ACL_MATCH_IP_TYPE_t`. -/
inductive IpType where
  | any | ip | nonIp | ipv4any | nonIpv4 | ipv6any | nonIpv6 | arp | arpRequest | arpReply
  deriving DecidableEq, Repr

/-- `BASE_ACL_MATCH_IP_FRAG_t`. -/
inductive IpFrag where
  | any | nonFrag | nonFragOrHead | head | nonHead
  deriving DecidableEq, Repr

/-- `BASE_ACL_PACKET_ACTION_TYPE_t`: the keys of `_pkt_action_name_map`. -/
inductive PacketAction where
  | drop | forward | copyToCpu | trapToCpu | copyToCpuCancel | copyToCpuAndForward
  | copyToCpuCancelAndDrop | copyToCpuCancelAndForward
  deriving DecidableEq, Repr

/-- `BASE_ACL_STAGE_t`. -/
inductive Stage where
  | ingress | egress
  deriving DecidableEq, Repr

/-- `BASE_ACL_COUNTER_TYPE_t`. -/
inductive CounterType where
  | packet | byte
  deriving DecidableEq, Repr

/-! ## Attributes -/

/-- `BASE_ACL_*` attribute ids.  `matchValueData` is `.._VALUE_DATA`, or
`.._VALUE_ADDR` for an address; `index` is a list index (or any other number). -/
inductive AttrId where
  | tablePriority | tableStage | tableAllowedMatchFields | tableNpuIdList
  | entryPriority | entryMatch | entryMatchType | entryAction | entryActionType
  | entryNpuIdList
  | counterTypes | counterNpuIdList
  | statsNpuIdList | statsMatchedPackets | statsMatchedBytes
  | matchValue (t : MatchType) | matchValueData (t : MatchType) | matchValueMask (t : MatchType)
  | actionValue (t : ActionType) | actionValueIndex (t : ActionType)
  | actionValueData (t : ActionType)
  | index (n : Nat)
  deriving DecidableEq, Repr

abbrev CpsAttr := Tlv AttrId

namespace CpsAttr

/-! `cps_api_object_attr_data_*`.  What lies past a short value reads as zero. -/

def dataU8 (a : CpsAttr) : UInt8 := UInt8.ofNat (ofLe (a.value.take 1))
def dataU16 (a : CpsAttr) : UInt16 := UInt16.ofNat (ofLe (a.value.take 2))
def dataU32 (a : CpsAttr) : UInt32 := UInt32.ofNat (ofLe (a.value.take 4))
def dataU64 (a : CpsAttr) : UInt64 := UInt64.ofNat (ofLe (a.value.take 8))

end CpsAttr

def bytesU8 (v : UInt8) : List UInt8 := toLe 1 v.toNat
def bytesU16 (v : UInt16) : List UInt8 := toLe 2 v.toNat
def bytesU32 (v : UInt32) : List UInt8 := toLe 4 v.toNat
def bytesU64 (v : UInt64) : List UInt8 := toLe 8 v.toNat

theorem dataU8_bytesU8 (a : AttrId) (v : UInt8) (l : List CpsAttr) :
    CpsAttr.dataU8 (.mk a (bytesU8 v) l) = v := by
  have fits : v.toNat < 256 ^ 1 := v.toNat_lt
  rw [CpsAttr.dataU8, Tlv.value_mk, List.take_of_length_le (by simp [bytesU8]), bytesU8,
    ofLe_toLe_of_lt fits, UInt8.ofNat_toNat]

theorem dataU16_bytesU16 (a : AttrId) (v : UInt16) (l : List CpsAttr) :
    CpsAttr.dataU16 (.mk a (bytesU16 v) l) = v := by
  have fits : v.toNat < 256 ^ 2 := v.toNat_lt
  rw [CpsAttr.dataU16, Tlv.value_mk, List.take_of_length_le (by simp [bytesU16]), bytesU16,
    ofLe_toLe_of_lt fits, UInt16.ofNat_toNat]

theorem dataU32_bytesU32 (a : AttrId) (v : UInt32) (l : List CpsAttr) :
    CpsAttr.dataU32 (.mk a (bytesU32 v) l) = v := by
  have fits : v.toNat < 256 ^ 4 := v.toNat_lt
  rw [CpsAttr.dataU32, Tlv.value_mk, List.take_of_length_le (by simp [bytesU32]), bytesU32,
    ofLe_toLe_of_lt fits, UInt32.ofNat_toNat]

theorem dataU64_bytesU64 (a : AttrId) (v : UInt64) (l : List CpsAttr) :
    CpsAttr.dataU64 (.mk a (bytesU64 v) l) = v := by
  have fits : v.toNat < 256 ^ 8 := v.toNat_lt
  rw [CpsAttr.dataU64, Tlv.value_mk, List.take_of_length_le (by simp [bytesU64]), bytesU64,
    ofLe_toLe_of_lt fits, UInt64.ofNat_toNat]

/-! ## Decoded values -/

/-- `nas_acl_common_data_t`. -/
structure CommonData where
  num : UInt64 := 0
  ifindexList : List IfIndex := []
  ndiObjIdTable : NdiObjIdTable := ∅
  bytes : List UInt8 := []
  deriving DecidableEq

namespace CommonData

def u8 (d : CommonData) : UInt8 := d.num.toUInt8
def u16 (d : CommonData) : UInt16 := d.num.toUInt16
def u32 (d : CommonData) : UInt32 := d.num.toUInt32
def u64 (d : CommonData) : UInt64 := d.num
def objId (d : CommonData) : NasObjId := d.num
def ifindex (d : CommonData) : IfIndex := d.num.toUInt32

def ofU8 (v : UInt8) : CommonData := { num := v.toUInt64 }
def ofU16 (v : UInt16) : CommonData := { num := v.toUInt64 }
def ofU32 (v : UInt32) : CommonData := { num := v.toUInt64 }
def ofU64 (v : UInt64) : CommonData := { num := v }
def ofObjId (v : NasObjId) : CommonData := { num := v }
def ofIfindex (v : IfIndex) : CommonData := { num := v.toUInt64 }
def ofBytes (v : List UInt8) : CommonData := { bytes := v }

@[simp] theorem u8_ofU8 (v : UInt8) : (ofU8 v).u8 = v := by simp [u8, ofU8]
@[simp] theorem u16_ofU16 (v : UInt16) : (ofU16 v).u16 = v := by simp [u16, ofU16]
@[simp] theorem u32_ofU32 (v : UInt32) : (ofU32 v).u32 = v := by simp [u32, ofU32]
@[simp] theorem objId_ofObjId (v : NasObjId) : (ofObjId v).objId = v := rfl
@[simp] theorem ifindex_ofIfindex (v : IfIndex) : (ofIfindex v).ifindex = v := by
  simp [ifindex, ofIfindex]
@[simp] theorem bytes_ofBytes (v : List UInt8) : (ofBytes v).bytes = v := rfl

end CommonData

/-! ## NDI structures -/

/-- `ndi_port_t`. -/
structure NdiPort where
  npuId : NpuId
  npuPort : UInt32
  deriving DecidableEq, Repr

/-- `ndi_acl_filter_values_type_t`. -/
inductive FilterValuesType where
  | u8 | u16 | u32 | ipv4Addr | ipv6Addr | macAddr | ipType | ipFrag | port | portlist
  deriving DecidableEq, Repr

/-- The data and mask unions of `ndi_acl_entry_filter_t` with their
`values_type`; `zero` is the structure as `memset` leaves it. -/
inductive NdiFilterValue where
  | zero
  | u8 (data mask : UInt8)
  | u16 (data mask : UInt16)
  | u32 (data mask : UInt32)
  | ipv4Addr (data mask : List UInt8)
  | ipv6Addr (data mask : List UInt8)
  | macAddr (data mask : List UInt8)
  | ipType (data : IpType)
  | ipFrag (data : IpFrag)
  | port (data : NdiPort)
  | portlist (data : List NdiPort)
  deriving DecidableEq, Repr

/-- `ndi_acl_entry_filter_t`. -/
structure NdiFilter where
  filterType : MatchType
  values : NdiFilterValue
  deriving DecidableEq, Repr

/-- The value union of `ndi_acl_entry_action_t` with its `values_type`. -/
inductive NdiActionValue where
  | noValue
  | u8 (v : UInt8)
  | u16 (v : UInt16)
  | u32 (v : UInt32)
  | ipv4Addr (v : List UInt8)
  | ipv6Addr (v : List UInt8)
  | macAddr (v : List UInt8)
  | pktAction (v : PacketAction)
  | port (v : NdiPort)
  | portlist (v : List NdiPort)
  | objId (v : NdiObjId)
  | objIdList (count : Nat) (list : List NdiObjId)
  deriving DecidableEq, Repr

/-- `ndi_acl_entry_action_t`. -/
structure NdiAction where
  actionType : ActionType
  values : NdiActionValue
  deriving DecidableEq, Repr

end SonicNasAcl
