/-
# Requests -- the service as a machine that takes one request at a time

`Request` is a call of `nas_acl_cps_api_write_internal`: any object, any operation, as
a normal or a rollback operation, with any answers of the code outside the repository.
`Request.next` is the switch it leaves, unless it ends the process; `Reached` are the
switches that any sequence of requests leads to from the empty one.

* `run_error`: a request that returns an error leaves the store as it was;
* `write_is_request` and `rollback_is_request`: the two entry points are requests.
-/
import SonicNasAcl.Atomicity
import SonicNasAcl.Consistency
import SonicNasAcl.Lib.Run

namespace SonicNasAcl

set_option autoImplicit false

open Lib

/-! ## Requests -/

/-- A call into the service.  Of the transaction only the lists matter. -/
structure Request where
  platform : Platform
  oracle : Oracle
  obj : CpsObject
  op : CpsOper
  rollback : Bool
  transaction : Transaction

namespace Request

def run (r : Request) (sw : NasAclSwitch) : Exit × NasAclSwitch :=
  let (exit, t, _) :=
    writeInternal r.platform r.oracle r.obj r.op r.rollback { r.transaction with sw := sw }
  (exit, t.sw)

/-- The switch after a request; none when the process is over. -/
def next (sw : NasAclSwitch) (r : Request) : Option NasAclSwitch :=
  match r.run sw with
  | (.returned _, sw') => some sw'
  | (.terminated, _) => none

end Request

/-- The switches that requests lead to, each allowed where it comes. -/
abbrev Reached (allowed : NasAclSwitch → Request → Prop) : NasAclSwitch → Prop :=
  Reachable NasAclSwitch.new Request.next allowed

section Calls

variable {p : Platform} {o : Oracle} {index : Nat} {t : Transaction} {obj : CpsObject}

/-- The request that a write of an object is. -/
def Transaction.writing (t : Transaction) (p : Platform) (o : Oracle) (obj : CpsObject) : Request :=
  ⟨p, o, obj, obj.key.oper, false, t⟩

/-- The request that a rollback of a saved object is: the inverse of the object's operation. -/
def Transaction.undoing (t : Transaction) (p : Platform) (o : Oracle) (obj : CpsObject) : Request :=
  ⟨p, o, obj, obj.key.oper.undo, true, t⟩

theorem write_is_request (listed : t.changeList[index]? = some obj) :
    ((nasAclCpsApiWrite p o index t).1, (nasAclCpsApiWrite p o index t).2.sw)
      = (t.writing p o obj).run t.sw := by
  unfold nasAclCpsApiWrite
  rw [listed]
  rfl

theorem rollback_is_request (listed : t.prev[index]? = some obj) :
    ((nasAclCpsApiRollback p o index t).1, (nasAclCpsApiRollback p o index t).2.sw)
      = (t.undoing p o obj).run t.sw := by
  unfold nasAclCpsApiRollback
  rw [listed]
  rfl

/-- A rollback may change the object it works on, and no other. -/
theorem rollback_prev {j : Nat} (other : index ≠ j) :
    (nasAclCpsApiRollback p o index t).2.prev[j]? = t.prev[j]? := by
  unfold nasAclCpsApiRollback
  cases listed : t.prev[index]? with
  | none => rfl
  | some obj =>
      have kept : (writeInternal p o obj obj.key.oper.undo true t).2.1.prev = t.prev := by
        unfold writeInternal
        split
        · rfl
        · split
          · rfl
          · rfl
      simp only
      rw [List.getElem?_set_ne other, kept]

end Calls

/-! ## Exits -/

section Exits

variable {s : Store} {body : Handler Unit} {c c' : Ctx} {rc : ErrCode}

theorem tryHandler_ok : tryHandler body c = (.returned (.ok ()), c') ↔ body c = (.ok (), c') := by
  unfold tryHandler
  rcases body c with ⟨_ | _, c₁⟩
  · rename_i e
    cases e <;> simp
  · simp

theorem tryStatsHandler_ok :
    tryStatsHandler body c = (.returned (.ok ()), c') ↔ body c = (.ok (), c') := by
  unfold tryStatsHandler
  rcases body c with ⟨_ | _, c₁⟩
  · rename_i e
    cases e <;> simp
  · simp

/-- What both exits of a handler establish, unless the process is over, holds when it
returns. -/
theorem tryHandler_keeps {I : Ctx → Prop} {rc : TStdError}
    (ok : ∀ c', body c = (.ok (), c') → I c')
    (fails : ∀ err c', body c = (.error err, c') → (∃ why, err = .abort why) ∨ I c')
    (ran : tryHandler body c = (.returned rc, c')) : I c' := by
  unfold tryHandler at ran
  rcases exit : body c with ⟨err | u, c₁⟩
  · rw [exit] at ran
    obtain ⟨why, rfl⟩ | kept := fails err c₁ exit
    · cases ran
    · cases err with
      | base errCode errMsg => cases ran; exact kept
      | outOfRange => cases ran; exact kept
      | abort why => cases ran
  · rw [exit] at ran
    cases ran
    exact ok _ exit

theorem tryStatsHandler_keeps {I : Ctx → Prop} {rc : TStdError}
    (ok : ∀ c', body c = (.ok (), c') → I c')
    (fails : ∀ err c', body c = (.error err, c') → (∃ why, err = .abort why) ∨ I c')
    (ran : tryStatsHandler body c = (.returned rc, c')) : I c' := by
  unfold tryStatsHandler at ran
  rcases exit : body c with ⟨err | u, c₁⟩
  · rw [exit] at ran
    obtain ⟨why, rfl⟩ | kept := fails err c₁ exit
    · cases ran
    · cases err with
      | base errCode errMsg => cases ran; exact kept
      | outOfRange => cases ran
      | abort why => cases ran
  · rw [exit] at ran
    cases ran
    exact ok _ exit

theorem tryHandler_error (h : Atomic s body) (pre : c.sw.store = s)
    (failed : tryHandler body c = (.returned (.error rc), c')) : c'.sw.store = s := by
  unfold tryHandler at failed
  rcases ran : body c with ⟨e | u, c₁⟩
  · rw [ran] at failed
    cases h.error pre ran with
    | inl abort =>
        obtain ⟨why, rfl⟩ := abort
        cases failed
    | inr same =>
        cases e with
        | base errCode errMsg => cases failed; exact same
        | outOfRange => cases failed; exact same
        | abort why => cases failed
  · rw [ran] at failed
    cases failed

theorem tryStatsHandler_error (h : Atomic s body) (pre : c.sw.store = s)
    (failed : tryStatsHandler body c = (.returned (.error rc), c')) : c'.sw.store = s := by
  unfold tryStatsHandler at failed
  rcases ran : body c with ⟨e | u, c₁⟩
  · rw [ran] at failed
    cases h.error pre ran with
    | inl abort =>
        obtain ⟨why, rfl⟩ := abort
        cases failed
    | inr same =>
        cases e with
        | base errCode errMsg => cases failed; exact same
        | outOfRange => cases failed
        | abort why => cases failed
  · rw [ran] at failed
    cases failed

end Exits

/-- The handlers of the operation maps return errors only with the store as it was. -/
theorem operationMap_error {p : Platform} {o : Oracle} {rb : Bool} {objType : ObjType}
    {op : CpsOper} {handler : Ctx → Exit × Ctx} {c c' : Ctx} {rc : ErrCode}
    (mapped : operationMap p o rb objType op = some handler)
    (failed : handler c = (.returned (.error rc), c')) : c'.sw.store = c.sw.store := by
  unfold operationMap at mapped
  split at mapped
  · cases mapped; exact tryHandler_error atomic_nasAclTableCreate rfl failed
  · cases mapped; exact tryHandler_error atomic_nasAclTableDelete rfl failed
  · cases mapped; exact tryHandler_error atomic_nasAclEntryCreate rfl failed
  · cases mapped; exact tryHandler_error atomic_nasAclEntryModify rfl failed
  · cases mapped; exact tryHandler_error atomic_nasAclEntryDelete rfl failed
  · cases mapped; exact tryHandler_error atomic_nasAclCounterCreate rfl failed
  · cases mapped; exact tryHandler_error atomic_nasAclCounterDelete rfl failed
  · cases mapped; exact tryStatsHandler_error keeps_nasAclStatsSet.atomic rfl failed
  · cases mapped

/-- The context a handler starts in. -/
def Request.ctx (r : Request) (sw : NasAclSwitch) : Ctx :=
  ⟨sw, .new .other 0, r.obj, .new, r.transaction.ndiCounts⟩

/-- A request runs a handler, or is refused at once. -/
theorem run_cases {r : Request} {sw sw' : NasAclSwitch} {exit : Exit}
    (ran : r.run sw = (exit, sw')) :
    (exit = .returned (.error .unsupported) ∧ sw' = sw) ∨
      ∃ handler c', operationMap r.platform r.oracle r.rollback r.obj.key.subcat r.op
          = some handler ∧ handler (r.ctx sw) = (exit, c') ∧ c'.sw = sw' := by
  unfold Request.run writeInternal at ran
  by_cases other : r.obj.key.cat ≠ .baseAcl
  · rw [if_pos other] at ran
    cases ran
    exact .inl ⟨rfl, rfl⟩
  · rw [if_neg other] at ran
    cases mapped : operationMap r.platform r.oracle r.rollback r.obj.key.subcat r.op with
    | none =>
        rw [mapped] at ran
        cases ran
        exact .inl ⟨rfl, rfl⟩
    | some handler =>
        rw [mapped] at ran
        cases ran
        exact .inr ⟨handler, _, rfl, rfl, rfl⟩

/-- A request that returns an error leaves the store as it was. -/
theorem run_error {r : Request} {sw sw' : NasAclSwitch} {rc : ErrCode}
    (failed : r.run sw = (.returned (.error rc), sw')) : sw'.store = sw.store := by
  obtain ⟨-, rfl⟩ | ⟨handler, c', mapped, ran, rfl⟩ := run_cases failed
  · rfl
  · exact operationMap_error mapped ran

end SonicNasAcl
