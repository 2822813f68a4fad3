/-
# Filter -- one match field of an entry

`nas_acl_filter_t`: the NDI structure of the filter and, for the four port
types, the interface list the client gave.  The scalar and the address accessors
are each one definition with parameters (`setScalarFilterVal`,
`setBytesFilterVal`); the members only say which union member they fill.
-/
import SonicNasAcl.Platform

namespace SonicNasAcl

set_option autoImplicit false

open Lib

/-- `nas_acl_filter_type_name`. -/
def MatchType.typeName : MatchType → String
  | .srcIpv6 => "MATCH_TYPE_SRC_IPV6"
  | .dstIpv6 => "MATCH_TYPE_DST_IPV6"
  | .srcMac => "MATCH_TYPE_SRC_MAC"
  | .dstMac => "MATCH_TYPE_DST_MAC"
  | .srcIp => "MATCH_TYPE_SRC_IP"
  | .dstIp => "MATCH_TYPE_DST_IP"
  | .inPorts => "MATCH_TYPE_IN_PORTS"
  | .outPorts => "MATCH_TYPE_OUT_PORTS"
  | .inPort => "MATCH_TYPE_IN_PORT"
  | .outPort => "MATCH_TYPE_OUT_PORT"
  | .outerVlanId => "MATCH_TYPE_OUTER_VLAN_ID"
  | .outerVlanPri => "MATCH_TYPE_OUTER_VLAN_PRI"
  | .outerVlanCfi => "MATCH_TYPE_OUTER_VLAN_CFI"
  | .innerVlanId => "MATCH_TYPE_INNER_VLAN_ID"
  | .innerVlanPri => "MATCH_TYPE_INNER_VLAN_PRI"
  | .innerVlanCfi => "MATCH_TYPE_INNER_VLAN_CFI"
  | .l4SrcPort => "MATCH_TYPE_L4_SRC_PORT"
  | .l4DstPort => "MATCH_TYPE_L4_DST_PORT"
  | .etherType => "MATCH_TYPE_ETHER_TYPE"
  | .ipProtocol => "MATCH_TYPE_IP_PROTOCOL"
  | .dscp => "MATCH_TYPE_DSCP"
  | .ttl => "MATCH_TYPE_TTL"
  | .tos => "MATCH_TYPE_TOS"
  | .ipFlags => "MATCH_TYPE_IP_FLAGS"
  | .tcpFlags => "MATCH_TYPE_TCP_FLAGS"
  | .ipType => "MATCH_TYPE_IP_TYPE"
  | .ipFrag => "MATCH_TYPE_IP_FRAG"
  | .ipv6FlowLabel => "MATCH_TYPE_IPV6_FLOW_LABEL"
  | .tc => "MATCH_TYPE_TC"
  | .ecn => "MATCH_TYPE_ECN"
  | .icmpType => "MATCH_TYPE_ICMP_TYPE"
  | .icmpCode => "MATCH_TYPE_ICMP_CODE"

/-- `values_type` of a filter structure.  A structure left at zero carries the
enumerator that is zero. -/
def NdiFilterValue.valuesType (p : Platform) : NdiFilterValue → FilterValuesType
  | .zero => p.zeroValuesType
  | .u8 .. => .u8
  | .u16 .. => .u16
  | .u32 .. => .u32
  | .ipv4Addr .. => .ipv4Addr
  | .ipv6Addr .. => .ipv6Addr
  | .macAddr .. => .macAddr
  | .ipType .. => .ipType
  | .ipFrag .. => .ipFrag
  | .port .. => .port
  | .portlist .. => .portlist

/-- `data.values.ndi_port.npu_id`, whichever member is meant. -/
def NdiFilterValue.npuIdField (p : Platform) : NdiFilterValue → NpuId
  | .port data => data.npuId
  | v => p.unionNpuId v

/-- `nas_acl_filter_t`. -/
structure NasAclFilter where
  fInfo : NdiFilter
  ifindexList : List IfIndex
  deriving DecidableEq, Repr

namespace NasAclFilter

/-- The constructor: everything zero but the type. -/
def new (t : MatchType) : NasAclFilter := ⟨⟨t, .zero⟩, []⟩

def filterType (f : NasAclFilter) : MatchType := f.fInfo.filterType

def name (f : NasAclFilter) : String := f.filterType.typeName

/-- `is_npu_specific (f_type)`. -/
def isNpuSpecificType (t : MatchType) : Bool := t = .inPorts ∨ t = .inPort

def isNpuSpecific (f : NasAclFilter) : Bool := isNpuSpecificType f.filterType

/-- Fill the data and mask unions. -/
def setValues (f : NasAclFilter) (v : NdiFilterValue) : NasAclFilter :=
  { f with fInfo := { f.fInfo with values := v } }

/-! ## Scalars -/

/-- `set_u8/u16/u32_filter_val`: the mask is optional and stays zero without. -/
def setScalarFilterVal {α : Type} (read : CommonData → α) (zero : α)
    (member : α → α → NdiFilterValue) (valList : List CommonData) (f : NasAclFilter) :
    Except Exn NasAclFilter := do
  let data ← vectorAt valList 0
  let mask := (valList[1]?.map read).getD zero
  .ok (f.setValues (member (read data) mask))

def setU8FilterVal := setScalarFilterVal CommonData.u8 0 .u8
def setU16FilterVal := setScalarFilterVal CommonData.u16 0 .u16
def setU32FilterVal := setScalarFilterVal CommonData.u32 0 .u32

def getU8FilterVal (f : NasAclFilter) : List CommonData :=
  match f.fInfo.values with
  | .u8 data mask => [.ofU8 data, .ofU8 mask]
  | _ => [.ofU8 0, .ofU8 0]

def getU16FilterVal (f : NasAclFilter) : List CommonData :=
  match f.fInfo.values with
  | .u16 data mask => [.ofU16 data, .ofU16 mask]
  | _ => [.ofU16 0, .ofU16 0]

def getU32FilterVal (f : NasAclFilter) : List CommonData :=
  match f.fInfo.values with
  | .u32 data mask => [.ofU32 data, .ofU32 mask]
  | _ => [.ofU32 0, .ofU32 0]

/-! ## Addresses -/

/-- `set_ipv4/ipv6/mac_filter_val`: copy `len` bytes of data and of mask. -/
def setBytesFilterVal (len : Nat) (member : List UInt8 → List UInt8 → NdiFilterValue)
    (valList : List CommonData) (f : NasAclFilter) : Except Exn NasAclFilter := do
  let data ← vectorAt valList 0
  let mask ← vectorAt valList 1
  .ok (f.setValues (member (data.bytes.take len) (mask.bytes.take len)))

def setIpv4FilterVal := setBytesFilterVal 4 .ipv4Addr
def setIpv6FilterVal := setBytesFilterVal 16 .ipv6Addr
def setMacFilterVal := setBytesFilterVal 6 .macAddr

/-- `get_ipv4/ipv6/mac_filter_val`.  The three unions of bytes overlay. -/
def getBytesFilterVal (f : NasAclFilter) : List CommonData :=
  match f.fInfo.values with
  | .ipv4Addr data mask | .ipv6Addr data mask | .macAddr data mask =>
      [.ofBytes data, .ofBytes mask]
  | _ => [.ofBytes [], .ofBytes []]

def getIpv4FilterVal := getBytesFilterVal
def getIpv6FilterVal := getBytesFilterVal
def getMacFilterVal := getBytesFilterVal

/-! ## Enumerated values -/

def setIpTypeFilterVal (p : Platform) (valList : List CommonData) (f : NasAclFilter) :
    Except Exn NasAclFilter := do
  let val := (← vectorAt valList 0).u32
  -- `_validate_ip_type_data`
  match p.ipTypes.decode val with
  | none => .error (.base .attrVal ("Invalid IP type value " ++ toString val))
  | some ipType => .ok (f.setValues (.ipType ipType))

def getIpTypeFilterVal (p : Platform) (f : NasAclFilter) : List CommonData :=
  match f.fInfo.values with
  | .ipType data => [.ofU32 (p.ipTypes.code data)]
  | _ => [.ofU32 0]

def setIpFragFilterVal (p : Platform) (valList : List CommonData) (f : NasAclFilter) :
    Except Exn NasAclFilter := do
  let val := (← vectorAt valList 0).u32
  -- `_validate_ip_frag_data`
  match p.ipFrags.decode val with
  | none => .error (.base .attrVal ("Invalid IP frag value " ++ toString val))
  | some ipFrag => .ok (f.setValues (.ipFrag ipFrag))

def getIpFragFilterVal (p : Platform) (f : NasAclFilter) : List CommonData :=
  match f.fInfo.values with
  | .ipFrag data => [.ofU32 (p.ipFrags.code data)]
  | _ => [.ofU32 0]

/-! ## Ports -/

def setFilterIfindexList (valList : List CommonData) (f : NasAclFilter) :
    Except Exn NasAclFilter :=
  let ports := valList.flatMap fun matchData => matchData.ifindexList
  .ok { f.setValues (.portlist []) with ifindexList := f.ifindexList ++ ports }

/-- An empty list is not pushed at all. -/
def getFilterIfindexList (f : NasAclFilter) : List CommonData :=
  if f.ifindexList ≠ [] then [{ ifindexList := f.ifindexList }] else []

def setFilterIfindex (p : Platform) (valList : List CommonData) (f : NasAclFilter) :
    Except Exn NasAclFilter := do
  throwIf (valList.length < 1) (.base .missingAttr "Empty input data list")
  let ifindex := (← vectorAt valList 0).ifindex
  let ndiPort ← utlIfidxToNdiPort p ifindex
  .ok { f.setValues (.port ndiPort) with ifindexList := f.ifindexList ++ [ifindex] }

def getFilterIfindex (f : NasAclFilter) : List CommonData :=
  match f.ifindexList with
  | [] => []
  | ifindex :: _ => [.ofIfindex ifindex]

/-! ## Use -/

/-- The ports of an interface list, in order. -/
def ndiPorts (p : Platform) (l : List IfIndex) : Except Exn (List NdiPort) :=
  l.mapM (utlIfidxToNdiPort p)

/-- `copy_filter_ndi` into a structure with the given `values_type`; `none` is the
return value `false`.

The port test looks at the destination, before anything has been copied to it. -/
def copyFilterNdi (p : Platform) (dest : FilterValuesType) (f : NasAclFilter) (npuId : NpuId) :
    Except Exn (Option NdiFilter) :=
  if dest = .port ∧ f.fInfo.values.npuIdField p ≠ npuId then .ok none
  else if f.fInfo.values.valuesType p = .portlist then do
    let ports ← ndiPorts p f.ifindexList
    match ports.filter fun q => q.npuId = npuId with
    | [] => .ok none
    | plist => .ok (some { f.fInfo with values := .portlist plist })
  else .ok (some f.fInfo)

/-- `get_npu_list`. -/
def getNpuList (p : Platform) (f : NasAclFilter) : Except Exn NpuSet :=
  if f.isNpuSpecific then do
    let ports ← ndiPorts p f.ifindexList
    .ok (ports.map NdiPort.npuId).toFinset
  else .ok ∅

/-- `operator!=`. -/
def ne (p : Platform) (lhs rhs : NasAclFilter) : Bool :=
  if lhs.filterType ≠ rhs.filterType then true
  else
    match lhs.fInfo.values.valuesType p with
    | .portlist | .port => lhs.ifindexList ≠ rhs.ifindexList
    | _ => lhs.fInfo ≠ rhs.fInfo

end NasAclFilter

end SonicNasAcl
