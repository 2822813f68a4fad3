/-
# Cps -- transactions

`nas_acl_cps.cpp`: a write dispatches on the category, the sub-category and the
operation of the object at an index of the change list, after appending a fresh
object to the list of saved objects; a rollback takes the saved object at the index,
turns CREATE into DELETE and back, and dispatches that.

A stats request saves nothing, so it appends nothing.
-/
import SonicNasAcl.CpsEntry

namespace SonicNasAcl

set_option autoImplicit false

open Lib

/-- The handler of `nas_acl_get_*_operation_map`, with how it ends. -/
def operationMap (p : Platform) (o : Oracle) (rollback : Bool) :
    ObjType → CpsOper → Option (Ctx → Exit × Ctx)
  | .table, .create => some (tryHandler (nasAclTableCreate p o rollback))
  | .table, .delete => some (tryHandler (nasAclTableDelete p o rollback))
  | .entry, .create => some (tryHandler (nasAclEntryCreate p o rollback))
  | .entry, .set => some (tryHandler (nasAclEntryModify p o rollback))
  | .entry, .delete => some (tryHandler (nasAclEntryDelete p o rollback))
  | .counter, .create => some (tryHandler (nasAclCounterCreate p o rollback))
  | .counter, .delete => some (tryHandler (nasAclCounterDelete p o rollback))
  | .stats, .set => some (tryStatsHandler (nasAclStatsSet p o))
  | _, _ => none

/-- The parts of `cps_api_transaction_params_t`, and the switch they act on. -/
structure Transaction where
  sw : NasAclSwitch
  changeList : List CpsObject
  prev : List CpsObject
  ndiCounts : List (CounterType × NpuId × NdiObjId × UInt64) := []

/-- `nas_acl_exec_write_op`, on a context of its own. -/
def execWriteOp (handler : Ctx → Exit × Ctx) (sw : NasAclSwitch) (obj prev : CpsObject)
    (ndiCounts : List (CounterType × NpuId × NdiObjId × UInt64)) : Exit × Ctx :=
  handler ⟨sw, .new .other 0, obj, prev, ndiCounts⟩

/-- Whether a request saves an object to undo it with. -/
def savesPrev (subCategory : ObjType) (rollback : Bool) : Bool :=
  !rollback && subCategory != .stats

/-- `nas_acl_cps_api_write_internal`: the return code, the transaction and the
object as the handler leaves it. -/
def writeInternal (p : Platform) (o : Oracle) (obj : CpsObject) (op : CpsOper) (rollback : Bool)
    (t : Transaction) : Exit × Transaction × CpsObject :=
  if obj.key.cat ≠ .baseAcl then (.returned (.error .unsupported), t, obj)
  else
    match operationMap p o rollback obj.key.subcat op with
    | none => (.returned (.error .unsupported), t, obj)
    | some handler =>
        let (exit, c) := execWriteOp handler t.sw obj .new t.ndiCounts
        let prev := if savesPrev obj.key.subcat rollback then t.prev ++ [c.prev] else t.prev
        (exit, { t with sw := c.sw, prev := prev, ndiCounts := c.ndiCounts }, c.obj)

/-- `nas_acl_cps_api_write`. -/
def nasAclCpsApiWrite (p : Platform) (o : Oracle) (index : Nat) (t : Transaction) :
    Exit × Transaction :=
  match t.changeList[index]? with
  | none => (.returned (.error .cpsErr), t)
  | some obj =>
      let (exit, t, obj) := writeInternal p o obj obj.key.oper false t
      (exit, { t with changeList := t.changeList.set index obj })

/-- The operation that undoes an operation. -/
def CpsOper.undo : CpsOper → CpsOper
  | .create => .delete
  | .delete => .create
  | op => op

/-- `nas_acl_cps_api_rollback`. -/
def nasAclCpsApiRollback (p : Platform) (o : Oracle) (index : Nat) (t : Transaction) :
    Exit × Transaction :=
  match t.prev[index]? with
  | none => (.returned (.error .cpsErr), t)
  | some obj =>
      let (exit, t, obj) := writeInternal p o obj obj.key.oper.undo true t
      (exit, { t with prev := t.prev.set index obj })

end SonicNasAcl
