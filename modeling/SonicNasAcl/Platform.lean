/-
# Platform -- what the code relies on and does not define

The generated headers, the interface database, the CPS helpers for opaque tables
and the iteration orders of the hash maps are outside the repository.  They enter
the model as the fields of `Platform`, together with the facts about them the
code counts on: enumerators of one type have different numbers, a loop over a map
or a set visits every key once, and a serialized NDI id table reads back as itself.

A hash map is modelled by what it holds.  The order it is walked in depends on how it came
about as well, so two equal maps may be walked in different orders; `Walks` are the orders of
one call, and nothing ties them to those of another.
-/
import SonicNasAcl.Types

namespace SonicNasAcl

set_option autoImplicit false

open Lib

/-! ## Enumerator numbers -/

/-- The numbers a generated header gives the enumerators of a type, and the
enumerator a number names, if any. -/
structure Codes (α : Type) where
  code : α → UInt32
  decode : UInt32 → Option α
  decode_eq_some : ∀ v a, decode v = some a ↔ code a = v

namespace Codes

variable {α : Type} (c : Codes α)

@[simp] theorem decode_code (a : α) : c.decode (c.code a) = some a :=
  (c.decode_eq_some _ _).mpr rfl

theorem code_injective {a b : α} (same : c.code a = c.code b) : a = b := by
  have named := c.decode_code a
  rw [same, decode_code] at named
  exact (Option.some.inj named).symm

/-- The numbers 0, 1, ... in the order of a list. -/
def ofList [DecidableEq α] (l : List α) (complete : ∀ a, a ∈ l) (nodup : l.Nodup)
    (short : l.length < 2 ^ 32) : Codes α where
  code a := UInt32.ofNat (l.idxOf a)
  decode v := l[v.toNat]?
  decode_eq_some v a := by
    have bound : l.idxOf a < l.length := List.idxOf_lt_length_of_mem (complete a)
    have same : (UInt32.ofNat (l.idxOf a)).toNat = l.idxOf a :=
      UInt32.toNat_ofNat_of_lt (bound.trans short)
    constructor
    · intro found
      obtain ⟨inside, rfl⟩ := List.getElem?_eq_some_iff.mp found
      rw [nodup.idxOf_getElem, UInt32.ofNat_toNat]
    · rintro rfl
      rw [same, List.getElem?_eq_some_iff]
      exact ⟨bound, List.getElem_idxOf bound⟩

end Codes

/-! ## Interfaces -/

/-- `int_type` of `interface_ctrl_t`. -/
inductive IntType where
  | port | lag | other
  deriving DecidableEq, Repr

/-- `interface_ctrl_t`. -/
structure InterfaceCtrl where
  intType : IntType
  npuId : NpuId
  portId : UInt32
  deriving DecidableEq, Repr

/-! ## The platform -/

/-- The orders in which one call walks the hash maps. -/
structure Walks where
  matchOrder : Traversal MatchType
  actionOrder : Traversal ActionType
  oidOrder : Traversal NasObjId

structure Platform extends Walks where
  /-- The NPUs of the (only) switch. -/
  switchNpus : NpuSet
  /-- `dn_hal_get_interface_info`. -/
  ifInfo : IfIndex → Option InterfaceCtrl
  /-- `dn_nas_lag_get_ndi_ids`. -/
  lagGetNdiIds : IfIndex → Option NdiObjIdTable
  matchTypes : Codes MatchType
  actionTypes : Codes ActionType
  ipTypes : Codes IpType
  ipFrags : Codes IpFrag
  packetActions : Codes PacketAction
  stages : Codes Stage
  counterTypes : Codes CounterType
  -- The orders in which loops visit sets.
  npuOrder : Traversal NpuId
  attrOrder : Traversal AttrId
  /-- The number of an attribute, for the texts that print it. -/
  attrNum : AttrId → Nat
  /-- `nas::ndi_obj_id_table_cps_serialize`: what it adds at the attribute. -/
  serialize : NdiObjIdTable → Tlv.Payload AttrId
  /-- `nas::ndi_obj_id_table_cps_unserialize`. -/
  unserialize : CpsAttr → Option NdiObjIdTable
  unserialize_serialize : ∀ a t, unserialize (.mk a (serialize t).1 (serialize t).2) = some t
  /-- The `ndi_acl_filter_values_type_t` enumerator whose number is zero. -/
  zeroValuesType : FilterValuesType
  /-- `data.values.ndi_port.npu_id` read while another member of the union is meant. -/
  unionNpuId : NdiFilterValue → NpuId

namespace Platform

/-- The platform in a call that walks the hash maps in other orders. -/
def walking (p : Platform) (w : Walks) : Platform := { p with toWalks := w }

/-- The order of a `std::set` of match types. -/
def fieldOrder (p : Platform) : Traversal MatchType :=
  .ofRank (fun t => (p.matchTypes.code t).toNat) fun _ _ same =>
    p.matchTypes.code_injective (UInt32.toNat_inj.mp same)

/-- A call on the platform, with its own walks. -/
def Hosts (p q : Platform) : Prop := ∃ w, q = p.walking w

theorem hosts_self (p : Platform) : p.Hosts p := ⟨p.toWalks, rfl⟩

theorem Hosts.switchNpus {p q : Platform} (hosts : p.Hosts q) : q.switchNpus = p.switchNpus := by
  obtain ⟨w, rfl⟩ := hosts
  rfl

/-- Whatever walks a call starts from. -/
theorem Hosts.walking {p q : Platform} (hosts : p.Hosts q) (w : Walks) : (p.walking w).Hosts q := by
  obtain ⟨w', rfl⟩ := hosts
  exact ⟨w', rfl⟩

end Platform

/-- `nas_acl_utl_ifidx_to_ndi_port`. -/
def utlIfidxToNdiPort (p : Platform) (ifindex : IfIndex) : Except Exn NdiPort :=
  match p.ifInfo ifindex with
  | none => .error (.base .attrVal ("Invalid IfIndex " ++ toString ifindex))
  | some intfCtrl =>
      if intfCtrl.intType ≠ .port then
        .error (.base .attrVal ("Invalid IfIndex type" ++ toString ifindex))
      else .ok ⟨intfCtrl.npuId, intfCtrl.portId⟩

/-- `nas_acl_utl_is_ifidx_type_lag`. -/
def utlIsIfidxTypeLag (p : Platform) (ifindex : IfIndex) : Except Exn Bool :=
  match p.ifInfo ifindex with
  | none => .error (.base .attrVal ("Invalid IfIndex " ++ toString ifindex))
  | some intfCtrl => .ok (intfCtrl.intType = .lag)

end SonicNasAcl
