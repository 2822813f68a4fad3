/-
# Action -- one action of an entry

`nas_acl_action_t`: the NDI structure, the interface list of a port action, the
NAS id of a counter action, and the NAS-to-NDI table of the actions that name
objects.  A single LAG port is kept as an object, under its interface index.

`copyActionNdi` translates an action for one NPU.  A port action with no port
there is dropped from the list, and the translation still counts as done.
-/
import SonicNasAcl.Filter

namespace SonicNasAcl

set_option autoImplicit false

/-- `nas_acl_action_type_name`. -/
def ActionType.typeName : ActionType → String
  | .packetAction => "ACTION_TYPE_PACKET_ACTION"
  | .redirectPort => "ACTION_TYPE_REDIRECT_PORT"
  | .redirectIpNexthop => "ACTION_TYPE_REDIRECT_IP_NEXTHOP"
  | .flood => "ACTION_TYPE_FLOOD"
  | .mirrorIngress => "ACTION_TYPE_MIRROR_INGRESS"
  | .mirrorEgress => "ACTION_TYPE_MIRROR_EGRESS"
  | .setCounter => "ACTION_TYPE_SET_COUNTER"
  | .setPolicer => "ACTION_TYPE_SET_POLICER"
  | .decrementTtl => "ACTION_TYPE_DECREMENT_TTL"
  | .setTc => "ACTION_TYPE_SET_TC"
  | .setInnerVlanId => "ACTION_TYPE_SET_INNER_VLAN_ID"
  | .setInnerVlanPri => "ACTION_TYPE_SET_INNER_VLAN_PRI"
  | .setOuterVlanId => "ACTION_TYPE_SET_OUTER_VLAN_ID"
  | .setOuterVlanPri => "ACTION_TYPE_SET_OUTER_VLAN_PRI"
  | .setSrcMac => "ACTION_TYPE_SET_SRC_MAC"
  | .setDstMac => "ACTION_TYPE_SET_DST_MAC"
  | .setSrcIp => "ACTION_TYPE_SET_SRC_IP"
  | .setDstIp => "ACTION_TYPE_SET_DST_IP"
  | .setSrcIpv6 => "ACTION_TYPE_SET_SRC_IPV6"
  | .setDstIpv6 => "ACTION_TYPE_SET_DST_IPV6"
  | .setDscp => "ACTION_TYPE_SET_DSCP"
  | .setL4SrcPort => "ACTION_TYPE_SET_L4_SRC_PORT"
  | .setL4DstPort => "ACTION_TYPE_SET_L4_DST_PORT"
  | .setCpuQueue => "ACTION_TYPE_SET_CPU_QUEUE"
  | .egressMask => "ACTION_TYPE_EGRESS_MASK"
  | .redirectPortList => "ACTION_TYPE_REDIRECT_PORT_LIST"

/-- `nas_acl_action_t`. -/
structure NasAclAction where
  aInfo : NdiAction
  ifindexList : List IfIndex
  nasOid : NasObjId
  nas2ndiOidTbl : Nas2NdiOidTbl
  deriving DecidableEq

namespace NasAclAction

/-- The constructor: no value. -/
def new (t : ActionType) : NasAclAction := ⟨⟨t, .noValue⟩, [], 0, ∅⟩

def actionType (a : NasAclAction) : ActionType := a.aInfo.actionType

def name (a : NasAclAction) : String := a.actionType.typeName

def isCounter (a : NasAclAction) : Bool := a.actionType = .setCounter

def counterId (a : NasAclAction) : NasObjId := a.nasOid

/-- Fill the value union. -/
def setValues (a : NasAclAction) (v : NdiActionValue) : NasAclAction :=
  { a with aInfo := { a.aInfo with values := v } }

/-! ## Scalars and addresses -/

def setObjIdActionVal (dataList : List CommonData) (a : NasAclAction) :
    Except Exn NasAclAction := do
  let data ← vectorAt dataList 0
  .ok { a.setValues (.objId 0) with nasOid := data.objId }

def getObjIdActionVal (a : NasAclAction) : List CommonData := [.ofObjId a.nasOid]

/-- `set_u8/u16_action_val` and `set_ipv4/ipv6/mac_action_val`. -/
def setActionVal (member : CommonData → NdiActionValue) (dataList : List CommonData)
    (a : NasAclAction) : Except Exn NasAclAction := do
  let data ← vectorAt dataList 0
  .ok (a.setValues (member data))

def setU16ActionVal := setActionVal fun data => .u16 data.u16
def setU8ActionVal := setActionVal fun data => .u8 data.u8
def setIpv4ActionVal := setActionVal fun data => .ipv4Addr (data.bytes.take 4)
def setIpv6ActionVal := setActionVal fun data => .ipv6Addr (data.bytes.take 16)
def setMacActionVal := setActionVal fun data => .macAddr (data.bytes.take 6)

def getU16ActionVal (a : NasAclAction) : List CommonData :=
  match a.aInfo.values with
  | .u16 v => [.ofU16 v]
  | _ => [.ofU16 0]

def getU8ActionVal (a : NasAclAction) : List CommonData :=
  match a.aInfo.values with
  | .u8 v => [.ofU8 v]
  | _ => [.ofU8 0]

/-- `get_ipv4/ipv6/mac_action_val`.  The three unions of bytes overlay. -/
def getBytesActionVal (a : NasAclAction) : List CommonData :=
  match a.aInfo.values with
  | .ipv4Addr v | .ipv6Addr v | .macAddr v => [.ofBytes v]
  | _ => [.ofBytes []]

def getIpv4ActionVal := getBytesActionVal
def getIpv6ActionVal := getBytesActionVal
def getMacActionVal := getBytesActionVal

def setPktActionVal (p : Platform) (valList : List CommonData) (a : NasAclAction) :
    Except Exn NasAclAction := do
  let val := (← vectorAt valList 0).u32
  match p.packetActions.decode val with
  | none => .error (.base .attrVal ("Invalid Pkt action " ++ toString val))
  | some pktAction => .ok (a.setValues (.pktAction pktAction))

def getPktActionVal (p : Platform) (a : NasAclAction) : List CommonData :=
  match a.aInfo.values with
  | .pktAction v => [.ofU32 (p.packetActions.code v)]
  | _ => [.ofU32 0]

/-! ## Objects -/

/-- `_set_opaque_data`: the items come in pairs of an id and its NDI table. -/
def setOpaqueData : List CommonData → Nas2NdiOidTbl → Nas2NdiOidTbl
  | d0 :: d1 :: rest, tbl => setOpaqueData rest (tbl.insert d0.objId d1.ndiObjIdTable)
  | _, tbl => tbl

def setOpaqueDataActionVal (dataList : List CommonData) (a : NasAclAction) :
    Except Exn NasAclAction :=
  .ok { a.setValues (.objId 0) with nas2ndiOidTbl := setOpaqueData dataList a.nas2ndiOidTbl }

def setOpaqueDataListActionVal (dataList : List CommonData) (a : NasAclAction) :
    Except Exn NasAclAction :=
  .ok { a.setValues (.objIdList 0 []) with
        nas2ndiOidTbl := setOpaqueData dataList a.nas2ndiOidTbl }

/-- The NDI table of one object of the action. -/
def ndiOidTbl (a : NasAclAction) (oid : NasObjId) : NdiObjIdTable :=
  (a.nas2ndiOidTbl.lookup oid).getD ∅

def getOpaqueDataActionVal (p : Platform) (a : NasAclAction) : List CommonData :=
  (p.oidOrder.visit a.nas2ndiOidTbl.keys).flatMap fun oid =>
    [.ofObjId oid, { ndiObjIdTable := a.ndiOidTbl oid }]

/-! ## Ports -/

def setActionIfindex (p : Platform) (dataList : List CommonData) (a : NasAclAction) :
    Except Exn NasAclAction := do
  let ifindex := (← vectorAt dataList 0).ifindex
  let a := { a with ifindexList := a.ifindexList ++ [ifindex] }
  if ← utlIsIfidxTypeLag p ifindex then
    match p.lagGetNdiIds ifindex with
    | none => .error (.base .attrVal "Failed to get LAG NDI IDs")
    | some tmpNdiOidTbl =>
        .ok { a.setValues (.objId 0) with
              nas2ndiOidTbl := a.nas2ndiOidTbl.insert ifindex.toUInt64 tmpNdiOidTbl }
  else
    let ndiPort ← utlIfidxToNdiPort p ifindex
    .ok (a.setValues (.port ndiPort))

def getActionIfindex (a : NasAclAction) : List CommonData :=
  match a.ifindexList with
  | [] => []
  | ifindex :: _ => [.ofIfindex ifindex]

/-- LAG ports are skipped. -/
def setActionIfindexList (p : Platform) (valList : List CommonData) (a : NasAclAction) :
    Except Exn NasAclAction := do
  let ports := valList.flatMap fun matchData => matchData.ifindexList
  let ports ← ports.filterM fun port => do return !(← utlIsIfidxTypeLag p port)
  .ok { a.setValues (.portlist []) with ifindexList := a.ifindexList ++ ports }

/-- An empty list is not pushed at all. -/
def getActionIfindexList (a : NasAclAction) : List CommonData :=
  if a.ifindexList ≠ [] then [{ ifindexList := a.ifindexList }] else []

/-! ## Use -/

/-- `_ndi_copy_one_obj_id`: the first object of the table, if the NPU has it. -/
def ndiCopyOneObjId (p : Platform) (a : NasAclAction) (npuId : NpuId) :
    Option NdiObjId :=
  match p.oidOrder.visit a.nas2ndiOidTbl.keys with
  | [] => none
  | oid :: _ => (a.ndiOidTbl oid).lookup npuId

/-- `_ndi_copy_obj_id_list`: the ids found on the NPU lead an array as long as
the whole table, and the count is that of the table. -/
def ndiCopyObjIdList (p : Platform) (a : NasAclAction) (npuId : NpuId) :
    Option NdiActionValue :=
  let oids := p.oidOrder.visit a.nas2ndiOidTbl.keys
  let found := oids.filterMap fun oid => (a.ndiOidTbl oid).lookup npuId
  let count := oids.length
  if found = [] then none
  else some (.objIdList count (found ++ List.replicate (count - found.length) 0))

/-- The text of the two failed lookups of `copy_action_ndi`. -/
def noObjectId (a : NasAclAction) (npuId : NpuId) : Exn :=
  .base .fail (a.name ++ ": Could not find object id for NPU " ++ toString npuId)

/-- `copy_action_ndi`: the list grown by the action's translation, and the return
value. -/
def copyActionNdi (p : Platform) (a : NasAclAction) (npuId : NpuId)
    (ndiAlist : List NdiAction) : Except Exn (Bool × List NdiAction) :=
  let back (v : NdiActionValue) := ndiAlist ++ [{ a.aInfo with values := v }]
  match a.aInfo.values with
  | .objId v =>
      -- The NDI id of a counter is kept in the counter object.
      if a.isCounter then .ok (true, back (.objId v))
      else
        match ndiCopyOneObjId p a npuId with
        | none => .error (a.noObjectId npuId)
        | some ndiId => .ok (true, back (.objId ndiId))
  | .objIdList .. =>
      match ndiCopyObjIdList p a npuId with
      | none => .error (a.noObjectId npuId)
      | some v => .ok (true, back v)
  | .port q => if q.npuId ≠ npuId then .ok (true, ndiAlist) else .ok (true, back (.port q))
  | .portlist _ => do
      let ports ← NasAclFilter.ndiPorts p a.ifindexList
      match ports.filter fun q => q.npuId = npuId with
      | [] => .ok (true, ndiAlist)
      | ndiPlist => .ok (true, back (.portlist ndiPlist))
  | v => .ok (true, back v)

/-- `operator!=`. -/
def ne (lhs rhs : NasAclAction) : Bool :=
  if lhs.actionType ≠ rhs.actionType then true
  else
    match lhs.aInfo.values with
    | .port _ => lhs.ifindexList ≠ rhs.ifindexList
    | .objId _ => lhs.nasOid ≠ rhs.nasOid ∨ lhs.nas2ndiOidTbl ≠ rhs.nas2ndiOidTbl
    | .objIdList .. => lhs.nas2ndiOidTbl ≠ rhs.nas2ndiOidTbl
    | .noValue => false
    | _ => lhs.aInfo ≠ rhs.aInfo

end NasAclAction

end SonicNasAcl
