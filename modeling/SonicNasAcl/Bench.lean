/-
# Bench -- a platform to run the service on

Two NPUs with eight ports each, in the manner of the unit tests, whose stubs stand for
the interfaces and for the NDI.  Enumerators are numbered in the order of their type,
loops visit keys in the order of their numbers, and every commit succeeds.

So the facts `Platform` and `Oracle` ask for hold of a platform that runs:

* `enumerate_injective`: attributes are told apart by their place in a list;
* `readTable_writeTable`: an NDI id table reads back as itself;
* `Request.on` makes the request of an object, and `Bench.after` the switch a list of them
  leaves.
-/
import SonicNasAcl.Requests
import Mathlib.Tactic.DeriveFintype

namespace SonicNasAcl

set_option autoImplicit false

open Lib

namespace Bench

/-! ## Enumerators -/

def matchTypes : List MatchType :=
  [.srcIpv6, .dstIpv6, .srcMac, .dstMac, .srcIp, .dstIp, .inPorts, .outPorts, .inPort,
    .outPort, .outerVlanId, .outerVlanPri, .outerVlanCfi, .innerVlanId, .innerVlanPri,
    .innerVlanCfi, .l4SrcPort, .l4DstPort, .etherType, .ipProtocol, .dscp, .ttl, .tos,
    .ipFlags, .tcpFlags, .ipType, .ipFrag, .ipv6FlowLabel, .tc, .ecn, .icmpType, .icmpCode]

def actionTypes : List ActionType :=
  [.packetAction, .redirectPort, .redirectIpNexthop, .flood, .mirrorIngress,
    .mirrorEgress, .setCounter, .setPolicer, .decrementTtl, .setTc, .setInnerVlanId,
    .setInnerVlanPri, .setOuterVlanId, .setOuterVlanPri, .setSrcMac, .setDstMac, .setSrcIp,
    .setDstIp, .setSrcIpv6, .setDstIpv6, .setDscp, .setL4SrcPort, .setL4DstPort, .setCpuQueue,
    .egressMask, .redirectPortList]

theorem mem_matchTypes (t : MatchType) : t ∈ matchTypes := by cases t <;> decide

theorem mem_actionTypes (t : ActionType) : t ∈ actionTypes := by cases t <;> decide

/-- The order of a list of all keys. -/
def orderOf {α : Type} [DecidableEq α] (l : List α) (complete : ∀ a, a ∈ l) : Traversal α :=
  .ofRank l.idxOf fun a _ same => (List.idxOf_inj (complete a)).mp same

/-! ## Attributes -/

/-- The attributes that belong to no type. -/
def plainAttrs : List AttrId :=
  [.tablePriority, .tableStage, .tableAllowedMatchFields, .tableNpuIdList, .entryPriority,
    .entryMatch, .entryMatchType, .entryAction, .entryActionType, .entryNpuIdList,
    .counterTypes, .counterNpuIdList, .statsNpuIdList, .statsMatchedPackets,
    .statsMatchedBytes]

/-- The family of an attribute, and its place there. -/
def placeOf : AttrId → Nat × Nat
  | .index n => (0, n)
  | .matchValue t => (1, matchTypes.idxOf t)
  | .matchValueData t => (2, matchTypes.idxOf t)
  | .matchValueMask t => (3, matchTypes.idxOf t)
  | .actionValue t => (4, actionTypes.idxOf t)
  | .actionValueIndex t => (5, actionTypes.idxOf t)
  | .actionValueData t => (6, actionTypes.idxOf t)
  | a => (7, plainAttrs.idxOf a)

/-- The attribute at a place. -/
def attrAt : Nat × Nat → Option AttrId
  | (0, n) => some (.index n)
  | (1, n) => matchTypes[n]?.map .matchValue
  | (2, n) => matchTypes[n]?.map .matchValueData
  | (3, n) => matchTypes[n]?.map .matchValueMask
  | (4, n) => actionTypes[n]?.map .actionValue
  | (5, n) => actionTypes[n]?.map .actionValueIndex
  | (6, n) => actionTypes[n]?.map .actionValueData
  | (_, n) => plainAttrs[n]?

/-- Eight numbers for each place, one for each family. -/
def enumerate (a : AttrId) : Nat := (placeOf a).1 + 8 * (placeOf a).2

theorem attrAt_placeOf (a : AttrId) : attrAt (placeOf a) = some a := by
  cases a with
  | index n => rfl
  | matchValue t => rw [placeOf, attrAt, List.getElem?_idxOf (mem_matchTypes t)]; rfl
  | matchValueData t => rw [placeOf, attrAt, List.getElem?_idxOf (mem_matchTypes t)]; rfl
  | matchValueMask t => rw [placeOf, attrAt, List.getElem?_idxOf (mem_matchTypes t)]; rfl
  | actionValue t => rw [placeOf, attrAt, List.getElem?_idxOf (mem_actionTypes t)]; rfl
  | actionValueIndex t => rw [placeOf, attrAt, List.getElem?_idxOf (mem_actionTypes t)]; rfl
  | actionValueData t => rw [placeOf, attrAt, List.getElem?_idxOf (mem_actionTypes t)]; rfl
  | _ => rfl

theorem placeOf_small (a : AttrId) : (placeOf a).1 < 8 := by
  cases a <;> exact of_decide_eq_true rfl

theorem enumerate_injective (a b : AttrId) (same : enumerate a = enumerate b) : a = b := by
  have place : placeOf a = placeOf b := by
    have := placeOf_small a
    have := placeOf_small b
    unfold enumerate at same
    refine Prod.ext ?_ ?_ <;> omega
  have named := attrAt_placeOf a
  rw [place, attrAt_placeOf] at named
  exact (Option.some.inj named).symm

/-! ## NDI id tables -/

/-- NPUs, in the order of their numbers. -/
def npuOrder : Traversal NpuId := .ofRank UInt32.toNat fun _ _ => UInt32.toNat_inj.mp

/-- One attribute for each NPU of the table. -/
def writeTable (t : NdiObjIdTable) : Tlv.Payload AttrId :=
  ([], (npuOrder.visit t.keys).map fun n =>
    .mk (.index n.toNat) (bytesU64 ((t.lookup n).getD 0)) [])

/-- The NPU and the id of one attribute. -/
def readId (a : CpsAttr) : Sigma fun _ : NpuId => NdiObjId :=
  match a.id with
  | .index n => ⟨UInt32.ofNat n, a.dataU64⟩
  | _ => ⟨0, a.dataU64⟩

def readTable (a : CpsAttr) : Option NdiObjIdTable := some (a.inside.map readId).toFinmap

theorem dlookup_map (f : NpuId → NdiObjId) (l : List NpuId) (n : NpuId) :
    List.dlookup n (l.map fun m => (⟨m, f m⟩ : Sigma fun _ : NpuId => NdiObjId))
      = if n ∈ l then some (f n) else none := by
  induction l with
  | nil => rfl
  | cons m rest ih =>
      rw [List.map_cons]
      by_cases here : n = m
      · subst here
        rw [List.dlookup_cons_eq, if_pos (List.mem_cons_self ..)]
      · rw [List.dlookup_cons_ne _ _ (by exact here), ih]
        simp only [List.mem_cons, here, false_or]

/-- An NDI id table reads back as itself. -/
theorem readTable_writeTable (a : AttrId) (t : NdiObjIdTable) :
    readTable (.mk a (writeTable t).1 (writeTable t).2) = some t := by
  have read : (writeTable t).2.map readId
      = (npuOrder.visit t.keys).map fun n => ⟨n, (t.lookup n).getD 0⟩ := by
    rw [writeTable, List.map_map]
    refine List.map_congr_left fun n _ => ?_
    simp only [Function.comp_apply, readId, Tlv.id_mk, dataU64_bytesU64, UInt32.ofNat_toNat]
  simp only [readTable, Tlv.inside_mk, Option.some.injEq, read]
  refine Finmap.ext_lookup fun n => ?_
  rw [Finmap.dlookup_list_toFinmap, dlookup_map]
  simp only [npuOrder.mem_visit, Finmap.mem_keys]
  by_cases held : n ∈ t
  · obtain ⟨id, found⟩ := Finmap.mem_iff.mp held
    rw [if_pos held, found]
    rfl
  · rw [if_neg held, Finmap.lookup_eq_none.mpr held]

/-! ## The platform -/

/-- Interfaces 0 to 15 are the ports, eight to an NPU; 16 is a LAG. -/
def ifInfo (ifindex : IfIndex) : Option InterfaceCtrl :=
  if ifindex < 16 then some ⟨.port, ifindex / 8, ifindex % 8⟩
  else if ifindex = 16 then some ⟨.lag, 0, 0⟩
  else none

def platform : Platform where
  switchNpus := {0, 1}
  ifInfo := ifInfo
  lagGetNdiIds ifindex := if ifindex = 16 then some [⟨0, 70⟩, ⟨1, 71⟩].toFinmap else none
  matchTypes := .ofList matchTypes mem_matchTypes (by decide) (by decide)
  actionTypes := .ofList actionTypes mem_actionTypes (by decide) (by decide)
  ipTypes := .ofList
    [.any, .ip, .nonIp, .ipv4any, .nonIpv4, .ipv6any, .nonIpv6, .arp, .arpRequest, .arpReply]
    (fun t => by cases t <;> decide) (by decide) (by decide)
  ipFrags := .ofList [.any, .nonFrag, .nonFragOrHead, .head, .nonHead]
    (fun t => by cases t <;> decide) (by decide) (by decide)
  packetActions := .ofList
    [.drop, .forward, .copyToCpu, .trapToCpu, .copyToCpuCancel, .copyToCpuAndForward,
      .copyToCpuCancelAndDrop, .copyToCpuCancelAndForward]
    (fun t => by cases t <;> decide) (by decide) (by decide)
  stages := .ofList [.ingress, .egress] (fun t => by cases t <;> decide) (by decide) (by decide)
  counterTypes := .ofList [.packet, .byte] (fun t => by cases t <;> decide) (by decide) (by decide)
  matchOrder := orderOf matchTypes mem_matchTypes
  actionOrder := orderOf actionTypes mem_actionTypes
  oidOrder := .ofRank UInt64.toNat fun _ _ => UInt64.toNat_inj.mp
  npuOrder := npuOrder
  attrOrder := .ofRank enumerate enumerate_injective
  attrNum := enumerate
  serialize := writeTable
  unserialize := readTable
  unserialize_serialize := readTable_writeTable
  zeroValuesType := .macAddr
  unionNpuId
    | .u8 data _ => data.toUInt32
    | .u16 data _ => data.toUInt32
    | .u32 data _ => data
    | _ => 0

/-- Every map is walked backwards. -/
def backWalks : Walks where
  matchOrder := orderOf matchTypes.reverse fun t => List.mem_reverse.mpr (mem_matchTypes t)
  actionOrder := orderOf actionTypes.reverse fun t => List.mem_reverse.mpr (mem_actionTypes t)
  oidOrder := .ofRank (fun oid => 2 ^ 64 - oid.toNat) fun a b same => by
    refine UInt64.toNat_inj.mp ?_
    have below := a.toNat_lt
    have below' := b.toNat_lt
    omega

/-- An id on each NPU of a set. -/
def idsOn (npus : NpuSet) : NdiObjIdTable :=
  ((npuOrder.visit npus).map fun n => (⟨n, 9⟩ : Sigma fun _ : NpuId => NdiObjId)).toFinmap

/-- The smallest unused id that is not 0. -/
def allocator : IdAllocator where
  next g :=
    match (List.range' 1 g.max).find? fun n => UInt64.ofNat n ∉ g.allocated ∧ n < 2 ^ 64 with
    | some n => .ok (UInt64.ofNat n)
    | none => .error (.base .fail "no id left")
  fresh g id found := by
    split at found
    · rename_i n first
      cases found
      have chosen := List.find?_some first
      simp only [decide_eq_true_eq] at chosen
      have inside := List.mem_range'_1.mp (List.mem_of_find?_eq_some first)
      refine ⟨chosen.1, ?_⟩
      rw [UInt64.toNat_ofNat', Nat.mod_eq_of_lt chosen.2]
      omega
    · cases found

/-- Every commit succeeds. -/
def oracle : Oracle where
  alloc := allocator
  tableCreate t _ := .ok (idsOn t.base.npus)
  tableDelete _ _ := (.ok (), ∅)
  counterCreate c _ := .ok (idsOn c.base.npus)
  counterDelete _ _ := (.ok (), ∅)
  counterDelete_keys _ _ _ failed := by cases failed
  entryCreate _ e _ := .ok (idsOn e.npuList)
  entryModify _ new old _ := (.ok (idsOn new.npuList), old.ndiEntryIds)
  entryDelete _ _ _ := (.ok (), ∅)
  counterSet _ _ _ _ := .ok ()

end Bench

/-! ## Requests -/

/-- A request of the bench: an object with its key, and nothing else in the transaction. -/
def Request.on (op : CpsOper) (subcat : ObjType) (keys : List (KeyAttr × UInt64))
    (attrs : List CpsAttr) : Request where
  platform := Bench.platform
  oracle := Bench.oracle
  obj := ⟨⟨.baseAcl, subcat, op⟩, fun k => keys.lookup k, attrs⟩
  op := op
  rollback := false
  transaction := ⟨.new, [], [], []⟩

namespace Bench

def u32 (a : AttrId) (v : UInt32) : CpsAttr := .mk a (bytesU32 v) []

def u64 (a : AttrId) (v : UInt64) : CpsAttr := .mk a (bytesU64 v) []

/-- A list attribute, one container per element. -/
def listAttr (a : AttrId) (elems : List (List CpsAttr)) : CpsAttr :=
  .mk a [] (elems.zipIdx.map fun (elem, i) => .mk (.index i) [] elem)

/-- The element of a match list: its type and the attributes of its value. -/
def matchElem (t : MatchType) (value : List CpsAttr) : List CpsAttr :=
  u32 .entryMatchType (platform.matchTypes.code t) :: value

/-- The element of an action list. -/
def actionElem (t : ActionType) (value : List CpsAttr) : List CpsAttr :=
  u32 .entryActionType (platform.actionTypes.code t) :: value

/-- Create a table that allows some match types; it gets id 1 on an empty switch. -/
def createTable (allowed : List MatchType) : Request :=
  .on .create .table [] ([u32 .tablePriority 5, u32 .tableStage 0]
    ++ allowed.map fun t => u32 .tableAllowedMatchFields (platform.matchTypes.code t))

/-- Create a packet counter in table 1. -/
def createCounter (id : NasObjId) : Request :=
  .on .create .counter [(.counterTableId, 1), (.counterId, id)] [u32 .counterTypes 0]

/-- A request on entry 7 of table 1. -/
def entryRequest (op : CpsOper) (attrs : List CpsAttr) : Request :=
  .on op .entry [(.entryTableId, 1), (.entryId, 7)] attrs

/-- The switch after a list of requests. -/
def after (requests : List Request) : NasAclSwitch := Lib.after .new Request.next requests

end Bench

end SonicNasAcl
