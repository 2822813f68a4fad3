/-
# Handlers -- exactly when a request succeeds, and what it has done

One equivalence per handler: it returns normally if and only if every check on its
way passes, and then the state it leaves is the one described.  Read from left to
right they invert a request that succeeded; from right to left they run one.

* `Saved` is the object to undo with: filled, or left alone by a rollback;
* `TakesId` is an id taken under a guard, `TakesId.spec` what that means for the
  store and `takesId_some` when it cannot fail;
* `nasAclEntryCreate_ok`, `nasAclEntryModify_ok`, ... are the equivalences.
-/
import SonicNasAcl.IdGuard

namespace SonicNasAcl

set_option autoImplicit false

open Lib

/-! ## Steps of a handler -/

/-- The object to undo with, after a request. -/
def Saved (isRollbkOp : Bool) (f : CpsObject → Except Exn CpsObject) (before after : CpsObject) :
    Prop :=
  if isRollbkOp then after = before else f before = .ok after

/-- An id was taken, leaving a guard and a switch. -/
def TakesId (alloc : IdAllocator) (g : NasAclIdGuard) (sw : NasAclSwitch)
    (passed : Option NasObjId) (id : NasObjId) (g' : NasAclIdGuard) (sw' : NasAclSwitch) : Prop :=
  match passed with
  | some given => id = given ∧ ∃ unused, g.reserveGuardedId given sw = .ok (unused, g', sw')
  | none => g.allocGuardedId alloc sw = .ok (id, g', sw')

namespace Handler

variable {α : Type} {c c' : Ctx} {a : α}

theorem onSwitch_ok {f : NasAclSwitch → Except Exn NasAclSwitch} {u : Unit} :
    onSwitch f c = (.ok u, c') ↔ ∃ sw, f c.sw = .ok sw ∧ c' = { c with sw := sw } := by
  simp only [onSwitch, Eff.step_ok, except_bind_ok, Except.ok.injEq, Prod.mk.injEq,
    true_and, @eq_comm Ctx c']

theorem onSwitch_bind_ok {f : NasAclSwitch → Except Exn NasAclSwitch} {rest : Unit → Handler α} :
    (onSwitch f >>= rest) c = (.ok a, c') ↔
      ∃ sw, f c.sw = .ok sw ∧ rest () { c with sw := sw } = (.ok a, c') := by
  rw [Eff.bind_ok]
  constructor
  · rintro ⟨_, mid, acted, after⟩
    obtain ⟨sw, done, rfl⟩ := onSwitch_ok.mp acted
    exact ⟨sw, done, after⟩
  · rintro ⟨sw, done, after⟩
    exact ⟨(), _, onSwitch_ok.mpr ⟨sw, done, rfl⟩, after⟩

theorem savePrev_ok {rb : Bool} {f : CpsObject → CpsObject → Except Exn CpsObject} {u : Unit} :
    savePrev rb f c = (.ok u, c') ↔
      ∃ prev, Saved rb (f c.obj) c.prev prev ∧ c' = { c with prev := prev } := by
  cases rb with
  | true =>
      simp only [savePrev, if_true, Eff.pure_apply, Prod.mk.injEq, true_and, Saved,
        exists_eq_left, @eq_comm Ctx c']
  | false =>
      simp only [savePrev, Bool.false_eq_true, if_false, Eff.step_ok, except_bind_ok,
        Except.ok.injEq, Prod.mk.injEq, true_and, Saved, @eq_comm Ctx c']

theorem savePrev_bind_ok {rb : Bool} {f : CpsObject → CpsObject → Except Exn CpsObject}
    {rest : Unit → Handler α} :
    (savePrev rb f >>= rest) c = (.ok a, c') ↔
      ∃ prev, Saved rb (f c.obj) c.prev prev ∧ rest () { c with prev := prev } = (.ok a, c') := by
  rw [Eff.bind_ok]
  constructor
  · rintro ⟨_, mid, acted, after⟩
    obtain ⟨prev, done, rfl⟩ := savePrev_ok.mp acted
    exact ⟨prev, done, after⟩
  · rintro ⟨prev, done, after⟩
    exact ⟨(), _, savePrev_ok.mpr ⟨prev, done, rfl⟩, after⟩

/-- Steps that fail leave everything as it is. -/
theorem onSwitch_error {f : NasAclSwitch → Except Exn NasAclSwitch} {e : Exn}
    (stopped : onSwitch f c = (.error e, c')) : f c.sw = .error e ∧ c' = c := by
  obtain ⟨failed, same⟩ := Eff.step_error.mp stopped
  obtain here | ⟨_, _, impossible⟩ := except_bind_error.mp failed
  · exact ⟨here, same⟩
  · cases impossible

theorem savePrev_error {rb : Bool} {f : CpsObject → CpsObject → Except Exn CpsObject} {e : Exn}
    (stopped : savePrev rb f c = (.error e, c')) : f c.obj c.prev = .error e ∧ c' = c := by
  unfold savePrev at stopped
  cases rb with
  | true => cases stopped
  | false =>
      rw [if_neg Bool.false_ne_true] at stopped
      obtain ⟨failed, same⟩ := Eff.step_error.mp stopped
      obtain here | ⟨_, _, impossible⟩ := except_bind_error.mp failed
      · exact ⟨here, same⟩
      · cases impossible

theorem guardedId_error {alloc : IdAllocator} {passed : Option NasObjId} {e : Exn}
    (stopped : guardedId alloc passed c = (.error e, c')) : c' = c := by
  unfold guardedId at stopped
  cases passed with
  | none => exact (Eff.step_error.mp stopped).2
  | some id => exact (Eff.step_error.mp stopped).2

theorem withIdGuard_ok {objType : ObjType} {t : NasObjId} {body : Handler α} :
    withIdGuard objType t body c = (.ok a, c') ↔
      ∃ mid, body { c with idg := .new objType t } = (.ok a, mid) ∧
        c' = { mid with sw := mid.idg.destroy mid.sw } := by
  rw [withIdGuard, Eff.write_bind_ok, Eff.ensuring_ok]

theorem guardedId_bind_ok {alloc : IdAllocator} {passed : Option NasObjId}
    {rest : NasObjId → Handler α} :
    (guardedId alloc passed >>= rest) c = (.ok a, c') ↔
      ∃ id g sw, TakesId alloc c.idg c.sw passed id g sw ∧
        rest id { c with idg := g, sw := sw } = (.ok a, c') := by
  cases passed with
  | some given =>
      simp only [guardedId, Eff.step_bind_ok, except_bind_ok, TakesId]
      constructor
      · rintro ⟨id, mid, ⟨⟨unused, g, sw⟩, took, same⟩, after⟩
        cases same
        exact ⟨given, g, sw, ⟨rfl, unused, took⟩, after⟩
      · rintro ⟨_, g, sw, ⟨rfl, unused, took⟩, after⟩
        exact ⟨_, _, ⟨(unused, g, sw), took, rfl⟩, after⟩
  | none =>
      simp only [guardedId, Eff.step_bind_ok, except_bind_ok, TakesId]
      constructor
      · rintro ⟨_, mid, ⟨⟨id, g, sw⟩, took, same⟩, after⟩
        cases same
        exact ⟨id, g, sw, took, after⟩
      · rintro ⟨id, g, sw, took, after⟩
        exact ⟨id, _, ⟨(id, g, sw), took, rfl⟩, after⟩

theorem mandatoryKey_bind_ok {k : KeyAttr} {errMsg : String} {rest : NasObjId → Handler α} :
    (mandatoryKey k errMsg >>= rest) c = (.ok a, c') ↔
      ∃ id, c.obj.keyGetObjId k = some id ∧ rest id c = (.ok a, c') := by
  rw [mandatoryKey, Eff.query_bind_ok]
  cases c.obj.keyGetObjId k with
  | none => simp only [reduceCtorEq, false_and, exists_false]
  | some id => simp only [Except.ok.injEq, Option.some.injEq]

theorem checkIdFree_bind_ok {passed : Option NasObjId} {taken : NasAclSwitch → NasObjId → Bool}
    {err : NasObjId → Exn} {rest : Unit → Handler α} :
    (checkIdFree passed taken err >>= rest) c = (.ok a, c') ↔
      (∀ id, passed = some id → taken c.sw id = false) ∧ rest () c = (.ok a, c') := by
  rw [checkIdFree, Eff.query_bind_ok]
  cases passed with
  | none =>
      simp only [reduceCtorEq, false_implies, implies_true, true_and]
      exact Unique.exists_iff
  | some id =>
      cases held : taken c.sw id with
      | true => simp only [held, if_true, reduceCtorEq, false_and, exists_false,
          Option.some.injEq, forall_eq', Bool.true_eq_false]
      | false =>
          simp only [held, Bool.false_eq_true, if_false, true_and, Option.some.injEq, forall_eq']
          exact Unique.exists_iff

end Handler

section Commits

variable {α : Type} {o : Oracle} {rb : Bool} {c c' : Ctx} {a : α}

theorem baseTableDelete_bind_ok {t : NasAclTable} {rest : Unit → Handler α} :
    (baseTableDelete o t rb >>= rest) c = (.ok a, c') ↔
      (o.tableDelete t rb).1 = .ok () ∧
        rest () { c with sw := c.sw.setTableIds t.tableId (o.tableDelete t rb).2 }
          = (.ok a, c') := by
  rw [Eff.bind_ok]
  simp only [baseTableDelete, Handler.onSwitch_bind_ok, Except.ok.injEq, exists_eq_left',
    Eff.query_ok]
  constructor
  · rintro ⟨_, _, ⟨done, rfl⟩, after⟩
    exact ⟨done, after⟩
  · rintro ⟨done, after⟩
    exact ⟨(), _, ⟨done, rfl⟩, after⟩

theorem baseCounterDelete_bind_ok {t id : NasObjId} {x : NasAclCounter} {rest : Unit → Handler α} :
    (baseCounterDelete o t id x rb >>= rest) c = (.ok a, c') ↔
      (o.counterDelete x rb).1 = .ok () ∧
        rest () { c with sw := c.sw.setCounterIds t id (o.counterDelete x rb).2 }
          = (.ok a, c') := by
  rw [Eff.bind_ok]
  simp only [baseCounterDelete, Handler.onSwitch_bind_ok, Except.ok.injEq, exists_eq_left',
    Eff.query_ok]
  constructor
  · rintro ⟨_, _, ⟨done, rfl⟩, after⟩
    exact ⟨done, after⟩
  · rintro ⟨done, after⟩
    exact ⟨(), _, ⟨done, rfl⟩, after⟩

theorem commitDelete_bind_ok {p : Platform} {table : NasAclTable} {e : NasAclEntry}
    {rest : Unit → Handler α} :
    (commitDelete p o table e rb >>= rest) c = (.ok a, c') ↔
      (o.entryDelete ⟨p, c.sw, table⟩ e rb).1 = .ok () ∧
        rest () { c with sw := c.sw.setEntryIds e.tableId e.entryId
                          (o.entryDelete ⟨p, c.sw, table⟩ e rb).2 }
          = (.ok a, c') := by
  rw [Eff.bind_ok]
  simp only [commitDelete, Eff.query_bind_ok, Handler.onSwitch_bind_ok, Except.ok.injEq, exists_eq_left',
    Eff.query_ok]
  constructor
  · rintro ⟨_, _, ⟨done, rfl⟩, after⟩
    exact ⟨done, after⟩
  · rintro ⟨done, after⟩
    exact ⟨(), _, ⟨done, rfl⟩, after⟩

theorem commitModify_bind_ok {p : Platform} {table : NasAclTable} {old new : NasAclEntry}
    {rest : NasAclEntry × Finset AttrId → Handler α} :
    (commitModify p o table old rb new >>= rest) c = (.ok a, c') ↔
      ∃ e, new.checkModify p c.sw table = .ok e ∧
        ∃ ids, (o.entryModify ⟨p, c.sw, table⟩ e old rb).1 = .ok ids ∧
          rest (e.committed ids, e.base.dirtyAttrs)
            { c with sw := c.sw.setEntryIds old.tableId old.entryId
                            (o.entryModify ⟨p, c.sw, table⟩ e old rb).2 }
            = (.ok a, c') := by
  rw [Eff.bind_ok]
  simp only [commitModify, Eff.query_bind_ok, Handler.onSwitch_bind_ok, Except.ok.injEq,
    exists_eq_left', Eff.pure_apply, Prod.mk.injEq]
  constructor
  · rintro ⟨_, _, ⟨e, checked, ids, done, rfl, rfl⟩, after⟩
    exact ⟨e, checked, ids, done, after⟩
  · rintro ⟨e, checked, ids, done, after⟩
    exact ⟨_, _, ⟨e, checked, ids, done, rfl, rfl⟩, after⟩

end Commits

/-! ## Ids -/

section Ids

variable {alloc : IdAllocator} {objType : ObjType} {t id : NasObjId} {sw sw' : NasAclSwitch}
  {passed : Option NasObjId} {g : NasAclIdGuard}

/-- An id that is taken under a new guard: the store has it, the guard's destructor
would give the old store back, and an allocated id was free. -/
theorem TakesId.spec (took : TakesId alloc (.new objType t) sw passed id g sw') :
    ∃ gen, sw.store.idGen objType t = some gen ∧ sw'.store = sw.store.takeId objType t id ∧
      (g.destroy sw').store = sw.store ∧
      (passed = some id ∧ id.toNat ≤ objType.idMax ∨
        passed = none ∧ id ∉ gen.allocated ∧ id.toNat ≤ gen.max) := by
  cases passed with
  | some given =>
      obtain ⟨rfl, unused, ran⟩ := took
      obtain ⟨gen, from_, small, stored, rfl⟩ := NasAclIdGuard.reserveGuardedId_ok ran
      refine ⟨gen, from_, stored, ?_, .inl ⟨rfl, small⟩⟩
      by_cases taken : id ∈ gen.allocated
      · rw [if_neg (not_not.mpr taken)]
        -- A taken id is not guarded, and taking it again changes nothing.
        refine stored.trans ?_
        exact Store.takeId_of_taken from_ taken
      · rw [if_pos taken]
        exact NasAclIdGuard.destroy_guarding from_ taken stored
  | none =>
      obtain ⟨gen, from_, free, small, stored, rfl⟩ := NasAclIdGuard.allocGuardedId_ok took
      exact ⟨gen, from_, stored, NasAclIdGuard.destroy_guarding from_ free stored,
        .inr ⟨rfl, free, small⟩⟩

/-- Reserving an id in range of a generator that is there does not fail. -/
theorem takesId_some {gen : IdGenerator} (from_ : sw.store.idGen objType t = some gen)
    (small : id.toNat ≤ objType.idMax) :
    ∃ g sw', TakesId alloc (.new objType t) sw (some id) id g sw' := by
  obtain ⟨⟨unused, sw₁⟩, reserved⟩ :=
    NasAclIdGuard.reserveId_of_room (g := .new objType t) from_ small
  obtain ⟨r, guarded⟩ : ∃ r, (NasAclIdGuard.new objType t).reserveGuardedId id sw = .ok r := by
    rw [NasAclIdGuard.reserveGuardedId, reserved]
    cases unused with
    | true => exact ⟨_, rfl⟩
    | false => exact ⟨_, rfl⟩
  exact ⟨r.2.1, r.2.2, rfl, r.1, guarded⟩

end Ids

/-! ## Tables and counters -/

section Equivalences

variable {p : Platform} {o : Oracle} {rb : Bool} {c c' : Ctx}

theorem nasAclTableCreate_ok :
    nasAclTableCreate p o rb c = (.ok (), c') ↔
      (∀ id, c.obj.keyGetObjId .tableId = some id → (c.sw.findTable id).isSome = false) ∧
      ∃ tmp, parseTable p c.sw c.obj.attrs = .ok tmp ∧
      ∃ id g sw, TakesId o.alloc (.new .table 0) c.sw (c.obj.keyGetObjId .tableId) id g sw ∧
      ∃ t, { tmp with tableId := id }.commitCreate o rb = .ok t ∧
      ∃ prev, Saved rb
        (fun prev => .ok (tableKeyFill t (prev.setKey (c.obj.keySetObjId .tableId id).key)))
        c.prev prev ∧
      c' = { c with
        sw := sw.saveTable t, idg := g.unguard, obj := c.obj.keySetObjId .tableId id,
        prev := prev } := by
  simp only [nasAclTableCreate, Eff.query_bind_ok, Except.ok.injEq, exists_eq_left',
    Handler.checkIdFree_bind_ok, Handler.withIdGuard_ok, Handler.guardedId_bind_ok,
    Handler.onSwitch_bind_ok, Handler.unguard, Handler.onObj, Eff.write_bind_ok,
    Handler.savePrev_ok]
  refine and_congr_right fun _ => exists_congr fun tmp => and_congr_right fun _ => ?_
  constructor
  · rintro ⟨_, ⟨id, g, sw, took, t, committed, prev, saved, rfl⟩, rfl⟩
    exact ⟨id, g, sw, took, t, committed, prev, saved, rfl⟩
  · rintro ⟨id, g, sw, took, t, committed, prev, saved, rfl⟩
    exact ⟨_, ⟨id, g, sw, took, t, committed, prev, saved, rfl⟩, rfl⟩

theorem nasAclTableDelete_ok :
    nasAclTableDelete p o rb c = (.ok (), c') ↔
      ∃ id, c.obj.keyGetObjId .tableId = some id ∧
      ∃ t, c.sw.getTable id = .ok t ∧
      ∃ prev, Saved rb
        (fun prev => (tableKeyFill t (prev.setKey c.obj.key)).fill (fillTableAttrInfo p t))
        c.prev prev ∧
      t.checkDelete c.sw = .ok () ∧ (o.tableDelete t rb).1 = .ok () ∧
      c' = { c with
        sw := (c.sw.setTableIds t.tableId (o.tableDelete t rb).2).removeTable id,
        prev := prev } := by
  simp only [nasAclTableDelete, Handler.mandatoryKey_bind_ok, Eff.query_bind_ok,
    Handler.savePrev_bind_ok, baseTableDelete_bind_ok, Handler.onSwitch_ok, Except.ok.injEq,
    exists_eq_left']
  refine exists_congr fun id => and_congr_right fun _ => exists_congr fun t =>
    and_congr_right fun _ => exists_congr fun prev => and_congr_right fun _ => ?_
  exact Unique.exists_iff

theorem nasAclCounterCreate_ok :
    nasAclCounterCreate p o rb c = (.ok (), c') ↔
      ∃ t, c.obj.keyGetObjId .counterTableId = some t ∧
      ∃ table, c.sw.getTable t = .ok table ∧
      (∀ id, c.obj.keyGetObjId .counterId = some id → (c.sw.findCounter t id).isSome = false) ∧
      ∃ tmp, parseCounter p table.tableId c.obj.attrs = .ok tmp ∧
      ∃ id g sw, TakesId o.alloc (.new .counter t) c.sw (c.obj.keyGetObjId .counterId) id g sw ∧
      ∃ x, { tmp with counterId := id }.commitCreate o table rb = .ok x ∧
      ∃ sw', sw.saveCounter x = .ok sw' ∧
      ∃ prev, Saved rb
        (fun prev => .ok (counterKeyFill x (prev.setKey (c.obj.keySetObjId .counterId id).key)))
        c.prev prev ∧
      c' = { c with
        sw := sw', idg := g.unguard, obj := c.obj.keySetObjId .counterId id, prev := prev } := by
  simp only [nasAclCounterCreate, Handler.mandatoryKey_bind_ok, Eff.query_bind_ok,
    Except.ok.injEq, exists_eq_left', Handler.checkIdFree_bind_ok, Handler.withIdGuard_ok,
    Handler.guardedId_bind_ok, Handler.onSwitch_bind_ok, Handler.unguard, Handler.onObj,
    Eff.write_bind_ok, Handler.savePrev_ok]
  refine exists_congr fun t => and_congr_right fun _ => exists_congr fun table =>
    and_congr_right fun _ => and_congr_right fun _ => exists_congr fun tmp =>
    and_congr_right fun _ => ?_
  constructor
  · rintro ⟨_, ⟨id, g, sw, took, x, committed, sw', put, prev, saved, rfl⟩, rfl⟩
    exact ⟨id, g, sw, took, x, committed, sw', put, prev, saved, rfl⟩
  · rintro ⟨id, g, sw, took, x, committed, sw', put, prev, saved, rfl⟩
    exact ⟨_, ⟨id, g, sw, took, x, committed, sw', put, prev, saved, rfl⟩, rfl⟩

theorem nasAclCounterDelete_ok :
    nasAclCounterDelete p o rb c = (.ok (), c') ↔
      ∃ t, c.obj.keyGetObjId .counterTableId = some t ∧
      ∃ id, c.obj.keyGetObjId .counterId = some id ∧
      ∃ x, c.sw.getCounter t id = .ok x ∧
      ∃ prev, Saved rb
        (fun prev => (counterKeyFill x (prev.setKey c.obj.key)).fill (fillCounterAttrInfo p x))
        c.prev prev ∧
      x.checkDelete = .ok () ∧ (o.counterDelete x rb).1 = .ok () ∧
      ∃ sw, (c.sw.setCounterIds t id (o.counterDelete x rb).2).removeCounterFromTable t id
          = .ok sw ∧
      c' = { c with sw := sw, prev := prev } := by
  simp only [nasAclCounterDelete, Handler.mandatoryKey_bind_ok, Eff.query_bind_ok,
    Handler.savePrev_bind_ok, baseCounterDelete_bind_ok, Handler.onSwitch_ok]
  refine exists_congr fun t => and_congr_right fun _ => exists_congr fun id =>
    and_congr_right fun _ => exists_congr fun x => and_congr_right fun _ =>
    exists_congr fun prev => and_congr_right fun _ => ?_
  exact Unique.exists_iff

/-! ## Entries -/

variable {table : NasAclTable}

/-- A changed copy of a stored entry passes its checks, is committed and is saved. -/
def Modifies (p : Platform) (o : Oracle) (rb : Bool) (table : NasAclTable)
    (old new : NasAclEntry) (fill : Finset AttrId → CpsObject → Except Exn CpsObject)
    (c c' : Ctx) : Prop :=
  ∃ e, new.checkModify p c.sw table = .ok e ∧
  ∃ ids, (o.entryModify ⟨p, c.sw, table⟩ e old rb).1 = .ok ids ∧
  ∃ prev, Saved rb (fill e.base.dirtyAttrs) c.prev prev ∧
  ∃ sw, (c.sw.setEntryIds old.tableId old.entryId
      (o.entryModify ⟨p, c.sw, table⟩ e old rb).2).saveEntry (e.committed ids) = .ok sw ∧
  c' = { c with sw := sw, prev := prev }

theorem cpsEntryIncrUpd_ok {eid : NasObjId} {upd : IncrType} {op : CpsOper} :
    cpsEntryIncrUpd p o table eid upd op rb c = (.ok (), c') ↔
      ∃ old, c.sw.getEntry table.tableId eid = .ok old ∧
      ∃ new, incrNewEntry p c.sw table c.obj.attrs op upd old = .ok new ∧
      Modifies p o rb table old new (fun _ => packIncr p c.obj old op upd) c c' := by
  simp only [cpsEntryIncrUpd, Eff.query_bind_ok, commitModify_bind_ok,
    Handler.savePrev_bind_ok, Handler.onSwitch_ok, Modifies]

section Key

variable {eid : NasObjId}

theorem nasAclEntryCreate_ok {eid : Option NasObjId}
    (key : cpsOpKeyExtract c.sw c.obj = .ok ⟨table, eid, none⟩) :
    nasAclEntryCreate p o rb c = (.ok (), c') ↔
      (∀ id, eid = some id → (c.sw.findEntry table.tableId id).isSome = false) ∧
      ∃ tmp, cpsParseEntryObj p c.sw table c.obj.attrs (.new p table.tableId) = .ok tmp ∧
      ∃ id g sw, TakesId o.alloc (.new .entry table.tableId) c.sw eid id g sw ∧
      ∃ e, { tmp.1 with entryId := id }.commitCreate p o sw table rb = .ok e ∧
      ∃ sw', sw.saveEntry e = .ok sw' ∧
      ∃ prev, Saved rb (cpsPackKey p (c.obj.keySetObjId .entryId id) e) c.prev prev ∧
      c' = { c with
        sw := sw', idg := g.unguard, obj := c.obj.keySetObjId .entryId id, prev := prev } := by
  simp only [nasAclEntryCreate, Eff.query_bind_ok, key, Except.ok.injEq, exists_eq_left',
    Handler.checkIdFree_bind_ok, Handler.withIdGuard_ok, Handler.guardedId_bind_ok,
    Handler.onSwitch_bind_ok, Handler.unguard, Handler.onObj, Eff.write_bind_ok,
    Handler.savePrev_ok]
  refine and_congr_right fun _ => exists_congr fun tmp => and_congr_right fun _ => ?_
  constructor
  · rintro ⟨_, ⟨id, g, sw, took, e, committed, sw', put, prev, saved, rfl⟩, rfl⟩
    exact ⟨id, g, sw, took, e, committed, sw', put, prev, saved, rfl⟩
  · rintro ⟨id, g, sw, took, e, committed, sw', put, prev, saved, rfl⟩
    exact ⟨_, ⟨id, g, sw, took, e, committed, sw', put, prev, saved, rfl⟩, rfl⟩

theorem nasAclEntryModify_ok (key : cpsOpKeyExtract c.sw c.obj = .ok ⟨table, some eid, none⟩) :
    nasAclEntryModify p o rb c = (.ok (), c') ↔
      ∃ old, c.sw.getEntry table.tableId eid = .ok old ∧
      ∃ new, cpsParseEntryObj p c.sw table c.obj.attrs old = .ok new ∧
      Modifies p o rb table old new.1 (fun dirty => cpsPackAttrs p c.obj old dirty new.2) c c' := by
  simp only [nasAclEntryModify, Eff.query_bind_ok, key, Except.ok.injEq, exists_eq_left',
    commitModify_bind_ok, Handler.savePrev_bind_ok, Handler.onSwitch_ok, Modifies]

theorem nasAclEntryDelete_ok (key : cpsOpKeyExtract c.sw c.obj = .ok ⟨table, some eid, none⟩) :
    nasAclEntryDelete p o rb c = (.ok (), c') ↔
      ∃ e, c.sw.getEntry table.tableId eid = .ok e ∧
      (o.entryDelete ⟨p, c.sw, table⟩ e rb).1 = .ok () ∧
      ∃ prev, Saved rb (cpsPackEntry p c.obj e) c.prev prev ∧
      ∃ sw, (c.sw.setEntryIds e.tableId e.entryId
          (o.entryDelete ⟨p, c.sw, table⟩ e rb).2).removeEntryFromTable table.tableId eid = .ok sw ∧
      c' = { c with sw := sw, prev := prev } := by
  simp only [nasAclEntryDelete, Eff.query_bind_ok, key, Except.ok.injEq, exists_eq_left',
    commitDelete_bind_ok, Handler.savePrev_bind_ok, Handler.onSwitch_ok]

/-! ### Elements

A key that names an element makes any operation an incremental update. -/

variable {upd : IncrType}

theorem nasAclEntryCreate_incr
    (key : cpsOpKeyExtract c.sw c.obj = .ok ⟨table, some eid, some upd⟩) :
    nasAclEntryCreate p o rb c = cpsEntryIncrUpd p o table eid upd .create rb c := by
  unfold nasAclEntryCreate
  exact Eff.query_bind_of_ok (q := fun c : Ctx => cpsOpKeyExtract c.sw c.obj) key

theorem nasAclEntryModify_incr
    (key : cpsOpKeyExtract c.sw c.obj = .ok ⟨table, some eid, some upd⟩) :
    nasAclEntryModify p o rb c = cpsEntryIncrUpd p o table eid upd .set rb c := by
  unfold nasAclEntryModify
  exact Eff.query_bind_of_ok (q := fun c : Ctx => cpsOpKeyExtract c.sw c.obj) key

theorem nasAclEntryDelete_incr
    (key : cpsOpKeyExtract c.sw c.obj = .ok ⟨table, some eid, some upd⟩) :
    nasAclEntryDelete p o rb c = cpsEntryIncrUpd p o table eid upd .delete rb c := by
  unfold nasAclEntryDelete
  exact Eff.query_bind_of_ok (q := fun c : Ctx => cpsOpKeyExtract c.sw c.obj) key

end Key

/-- The key of an entry request that succeeds: the whole entry, or one element of it. -/
theorem entryKey_cases {body : EntryOpKey → Handler Unit}
    (ran : (Eff.query (fun c => cpsOpKeyExtract c.sw c.obj) >>= body) c = (.ok (), c')) :
    (∃ table eid, cpsOpKeyExtract c.sw c.obj = .ok ⟨table, eid, none⟩) ∨
      ∃ table eid upd, cpsOpKeyExtract c.sw c.obj = .ok ⟨table, some eid, some upd⟩ := by
  obtain ⟨⟨table, eid, upd⟩, key, -⟩ := Eff.query_bind_ok.mp ran
  cases upd with
  | none => exact .inl ⟨table, eid, key⟩
  | some upd =>
      obtain ⟨t, -, -, named, element⟩ := cpsOpKeyExtract_ok.mp key
      cases eid with
      | none =>
          rw [keyIncrType, named] at element
          cases element
      | some eid => exact .inr ⟨table, eid, upd, key⟩

end Equivalences

end SonicNasAcl
