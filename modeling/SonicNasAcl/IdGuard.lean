/-
# IdGuard -- an id is taken, or nothing is

The scope of `nas_acl_id_guard_t`, on the abstract store.  Whichever way an id is
taken, allocated or reserved, the store is the one before with the id taken
(`Store.takeId`), and until the guard is told otherwise its destructor leads back
to exactly the store before: an id that somebody else holds is never guarded.

* `allocGuardedId_ok` and `reserveGuardedId_ok` are the two ways;
* `reserveId_of_room` is when a reservation cannot fail.
-/
import SonicNasAcl.StoreOps

namespace SonicNasAcl

set_option autoImplicit false

open Lib

/-! ## Ids of the store -/

/-- The largest id of a type. -/
def ObjType.idMax : ObjType → Nat
  | .table => nasAclTableIdMax
  | _ => nasAclEntryIdMax

namespace Store

/-- The generator that hands out the ids of a type, in a table. -/
def idGen (objType : ObjType) (t : NasObjId) (s : Store) : Option IdGenerator :=
  match objType with
  | .table => some s.tableIds
  | .entry => (s.containers t).map Container.entryIds
  | .counter => (s.containers t).map Container.counterIds
  | _ => none

/-- Take an id of a type, in a table. -/
def takeId (objType : ObjType) (t id : NasObjId) (s : Store) : Store :=
  match objType with
  | .table => { s with tableIds := s.tableIds.takeId id }
  | .entry => s.onContainer t (Container.takeEntryId id)
  | .counter => s.onContainer t (Container.takeCounterId id)
  | _ => s

theorem entry_takeId (objType : ObjType) (t id t' e : NasObjId) (s : Store) :
    (s.takeId objType t id).entry t' e = s.entry t' e := by
  cases objType with
  | entry => exact entry_onContainer_of_same (fun _ => by rfl) t' e s
  | counter => exact entry_onContainer_of_same (fun _ => by rfl) t' e s
  | _ => rfl

theorem counter_takeId (objType : ObjType) (t id t' x : NasObjId) (s : Store) :
    (s.takeId objType t id).counter t' x = s.counter t' x := by
  cases objType with
  | entry => exact counter_onContainer_of_same (fun _ => by rfl) t' x s
  | counter => exact counter_onContainer_of_same (fun _ => by rfl) t' x s
  | _ => rfl

/-- Taking an id that is taken changes nothing. -/
theorem takeId_of_taken {objType : ObjType} {t id : NasObjId} {s : Store} {gen : IdGenerator}
    (from_ : s.idGen objType t = some gen) (taken : id ∈ gen.allocated) :
    s.takeId objType t id = s := by
  have same : gen.takeId id = gen := by
    unfold IdGenerator.takeId
    rw [Finset.insert_eq_of_mem taken]
  cases objType with
  | table =>
      cases from_
      exact Store.ext (fun _ => rfl) (fun _ => rfl) same
  | entry =>
      refine onContainer_id fun c held => ?_
      simp only [idGen, held, Option.map_some, Option.some.injEq] at from_
      subst from_
      exact Container.ext same (fun _ => rfl) rfl fun _ => rfl
  | counter =>
      refine onContainer_id fun c held => ?_
      simp only [idGen, held, Option.map_some, Option.some.injEq] at from_
      subst from_
      exact Container.ext rfl (fun _ => rfl) same fun _ => rfl
  | stats => rfl
  | other => rfl

end Store

section Containers

variable {sw : NasAclSwitch} {t id : NasObjId}

theorem store_takeEntryId :
    (sw.modifyContainer t fun container =>
      { container with entryIdGen := (container.entryIdGen.reserveId id).2 }).store
      = sw.store.onContainer t (Container.takeEntryId id) := by
  refine NasAclSwitch.store_modifyContainer fun c _ => ?_
  simp only [IdGenerator.reserveId_snd]
  rfl

theorem store_takeCounterId :
    (sw.modifyContainer t fun container =>
      { container with counterIdGen := (container.counterIdGen.reserveId id).2 }).store
      = sw.store.onContainer t (Container.takeCounterId id) := by
  refine NasAclSwitch.store_modifyContainer fun c _ => ?_
  simp only [IdGenerator.reserveId_snd]
  rfl

theorem store_releaseEntryId :
    (sw.releaseEntryIdInTable t id).store
      = sw.store.onContainer t (Container.freeEntryId id) :=
  NasAclSwitch.store_modifyContainer fun _ _ => rfl

theorem store_releaseCounterId :
    (sw.releaseCounterIdInTable t id).store
      = sw.store.onContainer t (Container.freeCounterId id) :=
  NasAclSwitch.store_modifyContainer fun _ _ => rfl

end Containers

/-! ## The guard -/

namespace NasAclIdGuard

@[simp] theorem destroy_new (objType : ObjType) (t : NasObjId) (sw : NasAclSwitch) :
    (NasAclIdGuard.new objType t).destroy sw = sw := rfl

/-- Destroying a guard that holds an id which was free gives it back. -/
theorem destroy_guarding {objType : ObjType} {t id : NasObjId} {sw : NasAclSwitch} {s : Store}
    {gen : IdGenerator} (from_ : s.idGen objType t = some gen) (free : id ∉ gen.allocated)
    (taken : sw.store = s.takeId objType t id) :
    (NasAclIdGuard.destroy ⟨objType, t, true, id⟩ sw).store = s := by
  cases objType with
  | table =>
      cases from_
      refine Store.ext (fun k => ?_) (fun k => ?_) ?_
      · exact congrFun (congrArg Store.tables taken) k
      · exact congrFun (congrArg Store.containers taken) k
      · have ids := congrArg Store.tableIds taken
        change sw.tableidGen.releaseId id = _
        rw [show sw.tableidGen = s.tableIds.takeId id from ids,
          IdGenerator.releaseId_takeId free]
  | entry =>
      simp only [destroy, if_true, store_releaseEntryId, taken, Store.takeId,
        Store.onContainer_onContainer]
      refine Store.onContainer_id fun c held => ?_
      simp only [Store.idGen, held, Option.map_some, Option.some.injEq] at from_
      subst from_
      refine Container.ext ?_ (fun _ => rfl) rfl fun _ => rfl
      exact IdGenerator.releaseId_takeId free
  | counter =>
      simp only [destroy, if_true, store_releaseCounterId, taken, Store.takeId,
        Store.onContainer_onContainer]
      refine Store.onContainer_id fun c held => ?_
      simp only [Store.idGen, held, Option.map_some, Option.some.injEq] at from_
      subst from_
      refine Container.ext rfl (fun _ => rfl) ?_ fun _ => rfl
      exact IdGenerator.releaseId_takeId free
  | stats => cases from_
  | other => cases from_

section Take

variable {g g' : NasAclIdGuard} {sw sw' : NasAclSwitch} {id : NasObjId}

/-- An allocated id is taken, was free, and is guarded. -/
theorem allocGuardedId_ok {alloc : IdAllocator}
    (ran : g.allocGuardedId alloc sw = .ok (id, g', sw')) :
    ∃ gen, sw.store.idGen g.objType g.tableId = some gen ∧ id ∉ gen.allocated ∧
      id.toNat ≤ gen.max ∧ sw'.store = sw.store.takeId g.objType g.tableId id ∧
      g' = { g with guarding := true, guardedId := id } := by
  obtain ⟨objType, t, guarding, guardedId⟩ := g
  unfold allocGuardedId allocId at ran
  obtain ⟨⟨id', sw₁⟩, took, ran⟩ := except_bind_ok.mp ran
  cases ran
  cases objType with
  | table =>
      obtain ⟨_, next, took⟩ := except_bind_ok.mp took
      cases took
      obtain ⟨free, small⟩ := alloc.fresh _ _ next
      refine ⟨_, rfl, free, small, ?_, rfl⟩
      simp only [IdGenerator.reserveId_snd]
      rfl
  | entry =>
      cases held : sw.tableContainers.lookup t with
      | none =>
          simp only [held] at took
          cases took
      | some container =>
          simp only [held] at took
          obtain ⟨_, next, took⟩ := except_bind_ok.mp took
          cases took
          obtain ⟨free, small⟩ := alloc.fresh _ _ next
          refine ⟨container.entryIdGen, ?_, free, small, store_takeEntryId, rfl⟩
          simp only [Store.idGen, NasAclSwitch.store_containers, held, Option.map_some]
          rfl
  | counter =>
      cases held : sw.tableContainers.lookup t with
      | none =>
          simp only [held] at took
          cases took
      | some container =>
          simp only [held] at took
          obtain ⟨_, next, took⟩ := except_bind_ok.mp took
          cases took
          obtain ⟨free, small⟩ := alloc.fresh _ _ next
          refine ⟨container.counterIdGen, ?_, free, small, store_takeCounterId, rfl⟩
          simp only [Store.idGen, NasAclSwitch.store_containers, held, Option.map_some]
          rfl
  | stats => cases took
  | other => cases took

/-- What a reservation of the switch does, once its checks pass. -/
theorem reserveId_ok {unused : Bool} (took : g.reserveId id sw = .ok (unused, sw')) :
    ∃ gen, sw.store.idGen g.objType g.tableId = some gen ∧ id.toNat ≤ g.objType.idMax ∧
      sw'.store = sw.store.takeId g.objType g.tableId id ∧
      unused = decide (id ∉ gen.allocated) := by
  obtain ⟨objType, t, guarding, guardedId⟩ := g
  cases objType with
  | table =>
      simp only [reserveId, NasAclSwitch.reserveTableId] at took
      split at took
      · cases took
      · rename_i small
        cases took
        refine ⟨_, rfl, not_lt.mp small, ?_, IdGenerator.reserveId_fst _ _⟩
        simp only [IdGenerator.reserveId_snd]
        rfl
  | entry =>
      simp only [reserveId, NasAclSwitch.reserveEntryIdInTable] at took
      split at took
      · cases took
      · rename_i small
        cases held : sw.tableContainers.lookup t with
        | none =>
            simp only [held] at took
            cases took
        | some container =>
            simp only [held] at took
            cases took
            refine ⟨container.entryIdGen, ?_, not_lt.mp small, store_takeEntryId,
              IdGenerator.reserveId_fst _ _⟩
            simp only [Store.idGen, NasAclSwitch.store_containers, held, Option.map_some]
            rfl
  | counter =>
      simp only [reserveId, NasAclSwitch.reserveCounterIdInTable] at took
      split at took
      · cases took
      · rename_i small
        cases held : sw.tableContainers.lookup t with
        | none =>
            simp only [held] at took
            cases took
        | some container =>
            simp only [held] at took
            cases took
            refine ⟨container.counterIdGen, ?_, not_lt.mp small, store_takeCounterId,
              IdGenerator.reserveId_fst _ _⟩
            simp only [Store.idGen, NasAclSwitch.store_containers, held, Option.map_some]
            rfl
  | stats => cases took
  | other => cases took

/-- An id in range can be reserved where there is a generator. -/
theorem reserveId_of_room {gen : IdGenerator}
    (from_ : sw.store.idGen g.objType g.tableId = some gen)
    (small : id.toNat ≤ g.objType.idMax) : ∃ r, g.reserveId id sw = .ok r := by
  obtain ⟨objType, t, guarding, guardedId⟩ := g
  cases objType with
  | table =>
      have within : ¬ nasAclTableIdMax < id.toNat := not_lt.mpr small
      simp only [reserveId, NasAclSwitch.reserveTableId, if_neg within]
      exact ⟨_, rfl⟩
  | entry =>
      have within : ¬ nasAclEntryIdMax < id.toNat := not_lt.mpr small
      simp only [reserveId, NasAclSwitch.reserveEntryIdInTable, if_neg within]
      cases held : sw.tableContainers.lookup t with
      | none => simp only [Store.idGen, NasAclSwitch.store_containers, held, Option.map_none,
          reduceCtorEq] at from_
      | some container => exact ⟨_, rfl⟩
  | counter =>
      have within : ¬ nasAclEntryIdMax < id.toNat := not_lt.mpr small
      simp only [reserveId, NasAclSwitch.reserveCounterIdInTable, if_neg within]
      cases held : sw.tableContainers.lookup t with
      | none => simp only [Store.idGen, NasAclSwitch.store_containers, held, Option.map_none,
          reduceCtorEq] at from_
      | some container => exact ⟨_, rfl⟩
  | stats => cases from_
  | other => cases from_

/-- A reserved id is taken; it is guarded when it was free. -/
theorem reserveGuardedId_ok {unused : Bool}
    (ran : g.reserveGuardedId id sw = .ok (unused, g', sw')) :
    ∃ gen, sw.store.idGen g.objType g.tableId = some gen ∧ id.toNat ≤ g.objType.idMax ∧
      sw'.store = sw.store.takeId g.objType g.tableId id ∧
      g' = if id ∉ gen.allocated then { g with guarding := true, guardedId := id } else g := by
  unfold reserveGuardedId at ran
  obtain ⟨⟨free, sw₁⟩, took, ran⟩ := except_bind_ok.mp ran
  obtain ⟨gen, from_, small, stored, rfl⟩ := reserveId_ok took
  by_cases taken : id ∈ gen.allocated
  · simp only [taken, not_true_eq_false, decide_false, Bool.false_eq_true, if_false] at ran
    cases ran
    exact ⟨gen, from_, small, stored, by rw [if_neg (not_not.mpr taken)]⟩
  · simp only [taken, not_false_eq_true, decide_true, if_true] at ran
    cases ran
    exact ⟨gen, from_, small, stored, by rw [if_pos taken]⟩

end Take

end NasAclIdGuard

end SonicNasAcl
