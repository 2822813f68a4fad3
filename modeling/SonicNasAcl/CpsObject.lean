/-
# CpsObject -- requests, saved objects and the state of a handler

A CPS object is a key (category, sub-category, operation), the key data and a tree
of attributes.  A handler runs on a `Ctx`: the switch, the request, the object that
will undo it, the id guard of the handler's scope and the counts written to the NDI.

`Oracle` is what the base object and the id generators, outside the repository,
answer during one call.  A commit on a stored object may leave it with other NDI
ids even when it fails, but on the same NPUs: it undoes its own NDI steps.
-/
import SonicNasAcl.CpsLists
import SonicNasAcl.Lib.Effect

namespace SonicNasAcl

set_option autoImplicit false

open Lib

/-! ## Objects -/

inductive CpsCategory where
  | baseAcl | other
  deriving DecidableEq, Repr

/-- `BASE_ACL_OBJECTS_t`, and any other number. -/
inductive ObjType where
  | table | entry | counter | stats | other
  deriving DecidableEq, Repr

/-- `cps_api_operation_types_t`. -/
inductive CpsOper where
  | create | set | delete | other
  deriving DecidableEq, Repr

/-- The key attributes the code looks at. -/
inductive KeyAttr where
  | tableId
  | entryTableId | entryId | entryMatchType | entryActionType
  | counterTableId | counterId
  | statsTableId | statsCounterId
  deriving DecidableEq, Repr

structure CpsKey where
  cat : CpsCategory
  subcat : ObjType
  oper : CpsOper
  deriving DecidableEq, Repr

structure CpsObject where
  key : CpsKey
  keyData : KeyAttr → Option UInt64
  attrs : List CpsAttr

namespace CpsObject

/-- `cps_api_object_list_create_obj_and_append`: a new object. -/
def new : CpsObject := ⟨⟨.other, .other, .other⟩, fun _ => none, []⟩

/-- `cps_api_object_set_key`. -/
def setKey (key : CpsKey) (obj : CpsObject) : CpsObject := { obj with key := key }

/-- `nas_acl_cps_key_get_obj_id`. -/
def keyGetObjId (obj : CpsObject) (k : KeyAttr) : Option NasObjId := obj.keyData k

/-- `nas_acl_cps_key_get_u32`. -/
def keyGetU32 (obj : CpsObject) (k : KeyAttr) : Option UInt32 := (obj.keyData k).map UInt64.toUInt32

/-- `nas_acl_cps_key_set_obj_id`. -/
def keySetObjId (k : KeyAttr) (id : NasObjId) (obj : CpsObject) : CpsObject :=
  { obj with keyData := fun k' => if k' = k then some id else obj.keyData k' }

/-- `nas_acl_cps_key_set_u32`. -/
def keySetU32 (k : KeyAttr) (v : UInt32) (obj : CpsObject) : CpsObject :=
  obj.keySetObjId k v.toUInt64

/-- `cps_api_object_e_add`, several times. -/
def addAll (adds : Adds) (obj : CpsObject) : CpsObject :=
  { obj with attrs := Tlv.addAll adds obj.attrs }

/-- Fill an object, whatever the filling function returns. -/
def fill (x : Fill) (obj : CpsObject) : Except Exn CpsObject := do
  let (adds, _) ← x
  .ok (obj.addAll adds)

end CpsObject

/-! ## Code outside the repository -/

/-- What the pushes of an entry look at besides the entry. -/
structure PushScope where
  platform : Platform
  sw : NasAclSwitch
  table : NasAclTable

/-- The answers of `nas::base_obj_t` and `nas::id_generator_t` in one call.  The
second component of a commit on a stored object is the NDI ids it leaves there.  The
commits of an entry call back the pushes of the entry. -/
structure Oracle where
  alloc : IdAllocator
  tableCreate : NasAclTable → Bool → Except Exn NdiObjIdTable
  tableDelete : NasAclTable → Bool → Except Exn Unit × NdiObjIdTable
  counterCreate : NasAclCounter → Bool → Except Exn NdiObjIdTable
  counterDelete : NasAclCounter → Bool → Except Exn Unit × NdiObjIdTable
  counterDelete_keys : ∀ c rollback e, (counterDelete c rollback).1 = .error e →
    (counterDelete c rollback).2.keys = c.ndiObjIds.keys
  entryCreate : PushScope → NasAclEntry → Bool → Except Exn NdiObjIdTable
  entryModify : PushScope → NasAclEntry → NasAclEntry → Bool →
    Except Exn NdiObjIdTable × NdiObjIdTable
  entryDelete : PushScope → NasAclEntry → Bool → Except Exn Unit × NdiObjIdTable
  /-- The return code of `ndi_acl_counter_set_pkt_count` and `.._byte_count`. -/
  counterSet : CounterType → NpuId → NdiObjId → UInt64 → Except Int Unit

/-! ## The id guard -/

/-- `nas_acl_id_guard_t`. -/
structure NasAclIdGuard where
  objType : ObjType
  tableId : NasObjId
  guarding : Bool
  guardedId : NasObjId
  deriving DecidableEq, Repr

namespace NasAclIdGuard

/-- The constructor. -/
def new (objType : ObjType) (tableId : NasObjId) : NasAclIdGuard := ⟨objType, tableId, false, 0⟩

def unknownObjectType : Exn := .base .fail "Unknown Object type"

/-- The `alloc_*_id` of a type. -/
def allocId (alloc : IdAllocator) (g : NasAclIdGuard) (sw : NasAclSwitch) :
    Except Exn (NasObjId × NasAclSwitch) :=
  match g.objType with
  | .table => do
      let id ← alloc.next sw.tableidGen
      .ok (id, { sw with tableidGen := (sw.tableidGen.reserveId id).2 })
  | .entry =>
      match sw.tableContainers.lookup g.tableId with
      | none => .error .outOfRange
      | some container => do
          let id ← alloc.next container.entryIdGen
          .ok (id, sw.modifyContainer g.tableId fun container =>
            { container with entryIdGen := (container.entryIdGen.reserveId id).2 })
  | .counter =>
      match sw.tableContainers.lookup g.tableId with
      | none => .error .outOfRange
      | some container => do
          let id ← alloc.next container.counterIdGen
          .ok (id, sw.modifyContainer g.tableId fun container =>
            { container with counterIdGen := (container.counterIdGen.reserveId id).2 })
  | _ => .error unknownObjectType

/-- The `reserve_*_id` of a type. -/
def reserveId (id : NasObjId) (g : NasAclIdGuard) (sw : NasAclSwitch) :
    Except Exn (Bool × NasAclSwitch) :=
  match g.objType with
  | .table => sw.reserveTableId id
  | .entry => sw.reserveEntryIdInTable g.tableId id
  | .counter => sw.reserveCounterIdInTable g.tableId id
  | _ => .error unknownObjectType

/-- `alloc_guarded_id`. -/
def allocGuardedId (alloc : IdAllocator) (g : NasAclIdGuard) (sw : NasAclSwitch) :
    Except Exn (NasObjId × NasAclIdGuard × NasAclSwitch) := do
  let (id, sw) ← g.allocId alloc sw
  .ok (id, { g with guarding := true, guardedId := id }, sw)

/-- `reserve_guarded_id`: an id that is taken is not guarded. -/
def reserveGuardedId (id : NasObjId) (g : NasAclIdGuard) (sw : NasAclSwitch) :
    Except Exn (Bool × NasAclIdGuard × NasAclSwitch) := do
  let (unused, sw) ← g.reserveId id sw
  if unused then .ok (true, { g with guarding := true, guardedId := id }, sw)
  else .ok (false, g, sw)

def unguard (g : NasAclIdGuard) : NasAclIdGuard := { g with guarding := false, guardedId := 0 }

/-- The destructor. -/
def destroy (g : NasAclIdGuard) (sw : NasAclSwitch) : NasAclSwitch :=
  if g.guarding then
    match g.objType with
    | .table => { sw with tableidGen := sw.tableidGen.releaseId g.guardedId }
    | .entry => sw.releaseEntryIdInTable g.tableId g.guardedId
    | .counter => sw.releaseCounterIdInTable g.tableId g.guardedId
    | _ => sw
  else sw

/-- The move constructor: the new guard, and the source as it is left. -/
def moveConstruct (g : NasAclIdGuard) : NasAclIdGuard × NasAclIdGuard :=
  (⟨g.objType, g.tableId, g.guarding, g.guardedId⟩, { g with guardedId := 0, guarding := false })

/-- Move assignment overwrites the target, whatever it guards. -/
def moveAssign (_target g : NasAclIdGuard) : NasAclIdGuard × NasAclIdGuard :=
  (⟨g.objType, g.tableId, g.guarding, g.guardedId⟩, { g with guardedId := 0, guarding := false })

end NasAclIdGuard

/-! ## Handlers -/

/-- The state a handler runs on. -/
structure Ctx where
  sw : NasAclSwitch
  idg : NasAclIdGuard
  obj : CpsObject
  prev : CpsObject
  ndiCounts : List (CounterType × NpuId × NdiObjId × UInt64)

abbrev Handler (α : Type) := Eff Exn Ctx α

namespace Handler

def onSwitch (f : NasAclSwitch → Except Exn NasAclSwitch) : Handler Unit :=
  Eff.step fun c => do
    let sw ← f c.sw
    .ok ((), { c with sw := sw })

def onObj (f : CpsObject → CpsObject) : Handler Unit :=
  Eff.write fun c => { c with obj := f c.obj }

/-- `if (!is_rollbk_op)`: fill the object that undoes the request, from the request
and the empty object. -/
def savePrev (isRollbkOp : Bool) (f : CpsObject → CpsObject → Except Exn CpsObject) :
    Handler Unit :=
  if isRollbkOp then pure ()
  else Eff.step fun c => do
    let prev ← f c.obj c.prev
    .ok ((), { c with prev := prev })

/-- A key the handlers cannot do without. -/
def mandatoryKey (k : KeyAttr) (errMsg : String) : Handler NasObjId :=
  Eff.query fun c => match c.obj.keyGetObjId k with
    | some id => .ok id
    | none => .error (.base .missingKey errMsg)

/-- An id that is passed in may not be taken. -/
def checkIdFree (passed : Option NasObjId) (taken : NasAclSwitch → NasObjId → Bool)
    (err : NasObjId → Exn) : Handler Unit :=
  Eff.query fun c =>
    match passed with
    | some id => if taken c.sw id then .error (err id) else .ok ()
    | none => .ok ()

/-- The scope of an id guard: its destructor runs on every exit. -/
def withIdGuard {α : Type} (objType : ObjType) (tableId : NasObjId) (body : Handler α) :
    Handler α := do
  Eff.write fun c => { c with idg := .new objType tableId }
  Eff.ensuring (fun c => { c with sw := c.idg.destroy c.sw }) body

/-- `if (id_passed_in) reserve_guarded_id (id) else alloc_guarded_id ()`. -/
def guardedId (alloc : IdAllocator) : Option NasObjId → Handler NasObjId
  | some id => Eff.step fun c => do
      let (_, idg, sw) ← c.idg.reserveGuardedId id c.sw
      .ok (id, { c with idg := idg, sw := sw })
  | none => Eff.step fun c => do
      let (id, idg, sw) ← c.idg.allocGuardedId alloc c.sw
      .ok (id, { c with idg := idg, sw := sw })

def unguard : Handler Unit := Eff.write fun c => { c with idg := c.idg.unguard }

/-- `return rc`, of a handler that has changed nothing yet. -/
def fail {α : Type} (errCode : ErrCode) (errMsg : String) : Handler α :=
  Eff.throw (.base errCode errMsg)

end Handler

/-- How a handler ends. -/
inductive Exit where
  | returned (rc : TStdError)
  | terminated
  deriving DecidableEq, Repr

/-- The `try` block around a handler: `base_exception` and `out_of_range` become
return codes, anything else ends the process. -/
def tryHandler (body : Handler Unit) (c : Ctx) : Exit × Ctx :=
  match body c with
  | (.ok (), c') => (.returned (.ok ()), c')
  | (.error (.base errCode _), c') => (.returned (.error errCode), c')
  | (.error .outOfRange, c') => (.returned (.error .fail), c')
  | (.error (.abort _), c') => (.terminated, c')

/-- The `try` block of the stats handler, which catches `base_exception` only. -/
def tryStatsHandler (body : Handler Unit) (c : Ctx) : Exit × Ctx :=
  match body c with
  | (.ok (), c') => (.returned (.ok ()), c')
  | (.error (.base errCode _), c') => (.returned (.error errCode), c')
  | (.error _, c') => (.terminated, c')

end SonicNasAcl
