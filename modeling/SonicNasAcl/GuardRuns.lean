/-
# GuardRuns -- guards over runs

Any number of id guards over one switch: they are constructed, given ids, told to let
go, moved and destroyed in any order.  Who owns an id is written in two fields of a
guard that moves copy and clear, so the ledger of `Lib.Ledger` is kept beside the run.

* `step_account` is one operation as a transfer, `run_account` the whole run;
* `guards_account_iff`: once every guard is destroyed, the ids left allocated are those
  of the start and those let go of, exactly when no guard was given an id, or another
  guard's, while it guarded one;
* `moveAssign_leaks` is a run that moves onto such a guard.
-/
import SonicNasAcl.IdGuard
import SonicNasAcl.Bench
import SonicNasAcl.Lib.Ledger
import Mathlib.Data.Finset.Option

namespace SonicNasAcl

set_option autoImplicit false

open Lib

/-! ## Ids and their generators -/

/-- A generator of the switch. -/
inductive GeneratorId where
  | tables
  | entries (tableId : NasObjId)
  | counters (tableId : NasObjId)
  deriving DecidableEq

/-- An id, with the generator it comes from. -/
abbrev GuardedId := GeneratorId × NasObjId

/-- The generator a guard takes its ids from, and gives them back to. -/
def NasAclIdGuard.generator (g : NasAclIdGuard) : Option GeneratorId :=
  match g.objType with
  | .table => some .tables
  | .entry => some (.entries g.tableId)
  | .counter => some (.counters g.tableId)
  | _ => none

/-- The id that a guard gives back when it is destroyed. -/
def NasAclIdGuard.held (g : NasAclIdGuard) : Option GuardedId :=
  if g.guarding then g.generator.map (·, g.guardedId) else none

/-- The ids a generator has handed out. -/
def NasAclSwitch.allocatedIds (sw : NasAclSwitch) : GeneratorId → Finset NasObjId
  | .tables => sw.tableidGen.allocated
  | .entries t => ((sw.tableContainers.lookup t).map fun c => c.entryIdGen.allocated).getD ∅
  | .counters t => ((sw.tableContainers.lookup t).map fun c => c.counterIdGen.allocated).getD ∅

def NasAclSwitch.Allocated (sw : NasAclSwitch) (x : GuardedId) : Prop := x.2 ∈ sw.allocatedIds x.1

instance (sw : NasAclSwitch) (x : GuardedId) : Decidable (sw.Allocated x) :=
  inferInstanceAs (Decidable (_ ∈ _))

section Ids

variable {g g' : NasAclIdGuard} {sw sw' : NasAclSwitch} {k : GeneratorId} {id : NasObjId}
  {x : GuardedId}

/-- The ids a generator of the store has handed out. -/
def Store.allocatedIds (s : Store) : GeneratorId → Finset NasObjId
  | .tables => s.tableIds.allocated
  | .entries t => ((s.containers t).map fun c => c.entryIds.allocated).getD ∅
  | .counters t => ((s.containers t).map fun c => c.counterIds.allocated).getD ∅

theorem allocatedIds_store : sw.allocatedIds k = sw.store.allocatedIds k := by
  cases k with
  | tables => rfl
  | entries t =>
      simp only [NasAclSwitch.allocatedIds, Store.allocatedIds, NasAclSwitch.store_containers]
      cases sw.tableContainers.lookup t <;> rfl
  | counters t =>
      simp only [NasAclSwitch.allocatedIds, Store.allocatedIds, NasAclSwitch.store_containers]
      cases sw.tableContainers.lookup t <;> rfl

/-- A guard with a generator has a name for it. -/
theorem generator_of_idGen {gen : IdGenerator} (from_ : sw.store.idGen g.objType g.tableId = some gen) :
    ∃ k, g.generator = some k ∧ sw.allocatedIds k = gen.allocated := by
  obtain ⟨objType, t, guarding, guardedId⟩ := g
  cases objType with
  | table =>
      cases from_
      exact ⟨_, rfl, rfl⟩
  | entry =>
      refine ⟨_, rfl, ?_⟩
      obtain ⟨c, held, rfl⟩ := Option.map_eq_some_iff.mp from_
      rw [allocatedIds_store, Store.allocatedIds, held]
      rfl
  | counter =>
      refine ⟨_, rfl, ?_⟩
      obtain ⟨c, held, rfl⟩ := Option.map_eq_some_iff.mp from_
      rw [allocatedIds_store, Store.allocatedIds, held]
      rfl
  | stats => cases from_
  | other => cases from_

section OneGenerator

variable {s : Store} {t : NasObjId} {f : Container → Container} {h : Finset NasObjId → Finset NasObjId}

/-- A change of the entry ids of one table. -/
theorem allocatedIds_entries (entryIds : ∀ c, (f c).entryIds.allocated = h c.entryIds.allocated)
    (counterIds : ∀ c, (f c).counterIds = c.counterIds)
    (there : s.containers t = none → h ∅ = ∅) :
    (s.onContainer t f).allocatedIds k
      = if k = .entries t then h (s.allocatedIds k) else s.allocatedIds k := by
  cases k with
  | tables => rfl
  | entries t' =>
      simp only [Store.allocatedIds, Store.containers_onContainer, GeneratorId.entries.injEq]
      by_cases here : t' = t
      · subst here
        simp only [if_true]
        cases held : s.containers t' with
        | none => exact (there held).symm
        | some c => exact entryIds c
      · simp only [here, if_false]
  | counters t' =>
      simp only [Store.allocatedIds, Store.containers_onContainer, reduceCtorEq, if_false]
      by_cases here : t' = t
      · subst here
        simp only [if_true]
        cases s.containers t' with
        | none => rfl
        | some c => exact congrArg IdGenerator.allocated (counterIds c)
      · simp only [here, if_false]

/-- A change of the counter ids of one table. -/
theorem allocatedIds_counters (entryIds : ∀ c, (f c).entryIds = c.entryIds)
    (counterIds : ∀ c, (f c).counterIds.allocated = h c.counterIds.allocated)
    (there : s.containers t = none → h ∅ = ∅) :
    (s.onContainer t f).allocatedIds k
      = if k = .counters t then h (s.allocatedIds k) else s.allocatedIds k := by
  cases k with
  | tables => rfl
  | entries t' =>
      simp only [Store.allocatedIds, Store.containers_onContainer, reduceCtorEq, if_false]
      by_cases here : t' = t
      · subst here
        simp only [if_true]
        cases s.containers t' with
        | none => rfl
        | some c => exact congrArg IdGenerator.allocated (entryIds c)
      · simp only [here, if_false]
  | counters t' =>
      simp only [Store.allocatedIds, Store.containers_onContainer, GeneratorId.counters.injEq]
      by_cases here : t' = t
      · subst here
        simp only [if_true]
        cases held : s.containers t' with
        | none => exact (there held).symm
        | some c => exact counterIds c
      · simp only [here, if_false]

/-- A change of the table ids. -/
theorem allocatedIds_tables {s' : Store} (containers : s'.containers = s.containers)
    (tableIds : s'.tableIds.allocated = h s.tableIds.allocated) :
    s'.allocatedIds k = if k = .tables then h (s.allocatedIds k) else s.allocatedIds k := by
  cases k with
  | tables => exact tableIds
  | entries t => simp only [Store.allocatedIds, containers, reduceCtorEq, if_false]
  | counters t => simp only [Store.allocatedIds, containers, reduceCtorEq, if_false]

end OneGenerator

/-- Taking an id of a generator that is there. -/
theorem allocatedIds_takeId {gen : IdGenerator} {k' : GeneratorId}
    (from_ : sw.store.idGen g.objType g.tableId = some gen) (named : g.generator = some k)
    (stored : sw'.store = sw.store.takeId g.objType g.tableId id) :
    sw'.allocatedIds k'
      = if k' = k then insert id (sw.allocatedIds k') else sw.allocatedIds k' := by
  obtain ⟨objType, t, guarding, guardedId⟩ := g
  rw [allocatedIds_store, allocatedIds_store, stored]
  cases objType with
  | table =>
      cases named
      exact allocatedIds_tables rfl rfl
  | entry =>
      cases named
      refine allocatedIds_entries (fun _ => rfl) (fun _ => rfl) fun missing => ?_
      simp only [Store.idGen, missing, Option.map_none, reduceCtorEq] at from_
  | counter =>
      cases named
      refine allocatedIds_counters (fun _ => rfl) (fun _ => rfl) fun missing => ?_
      simp only [Store.idGen, missing, Option.map_none, reduceCtorEq] at from_
  | stats => cases from_
  | other => cases from_

theorem allocated_takeId {gen : IdGenerator} {k' : GeneratorId} {id' : NasObjId}
    (from_ : sw.store.idGen g.objType g.tableId = some gen) (named : g.generator = some k)
    (stored : sw'.store = sw.store.takeId g.objType g.tableId id) :
    sw'.Allocated (k', id') ↔ (k', id') = (k, id) ∨ sw.Allocated (k', id') := by
  rw [NasAclSwitch.Allocated, allocatedIds_takeId from_ named stored, Prod.mk.injEq]
  by_cases same : k' = k
  · rw [if_pos same, Finset.mem_insert]
    exact or_congr_left (and_iff_right same).symm
  · rw [if_neg same]
    exact (or_iff_right fun both => same both.1).symm

/-- Destroying a guard releases the id it guards. -/
theorem allocatedIds_destroy {k' : GeneratorId} (guarding : g.guarding = true)
    (named : g.generator = some k) :
    (g.destroy sw).allocatedIds k'
      = if k' = k then (sw.allocatedIds k').erase g.guardedId else sw.allocatedIds k' := by
  obtain ⟨objType, t, guarding', guardedId⟩ := g
  cases guarding
  rw [allocatedIds_store, allocatedIds_store]
  cases objType with
  | table =>
      cases named
      exact allocatedIds_tables (h := fun ids => ids.erase guardedId) rfl rfl
  | entry =>
      cases named
      have freed : (NasAclIdGuard.destroy ⟨.entry, t, true, guardedId⟩ sw).store
          = sw.store.onContainer t (Container.freeEntryId guardedId) := store_releaseEntryId
      rw [freed]
      exact allocatedIds_entries (h := fun ids => ids.erase guardedId) (fun _ => rfl)
        (fun _ => rfl) fun _ => rfl
  | counter =>
      cases named
      have freed : (NasAclIdGuard.destroy ⟨.counter, t, true, guardedId⟩ sw).store
          = sw.store.onContainer t (Container.freeCounterId guardedId) := store_releaseCounterId
      rw [freed]
      exact allocatedIds_counters (h := fun ids => ids.erase guardedId) (fun _ => rfl)
        (fun _ => rfl) fun _ => rfl
  | stats => cases named
  | other => cases named

/-- A guard of a type without ids has nothing to give back. -/
theorem destroy_of_held_none (empty : g.held = none) : g.destroy sw = sw := by
  obtain ⟨objType, t, guarding, guardedId⟩ := g
  cases guarding with
  | false => rfl
  | true =>
      cases objType with
      | stats => rfl
      | other => rfl
      | table => cases empty
      | entry => cases empty
      | counter => cases empty

/-- What a guard holds is the id it guards, in its generator. -/
theorem held_some : g.held = some (k, id) ↔
    g.guarding = true ∧ g.generator = some k ∧ g.guardedId = id := by
  unfold NasAclIdGuard.held
  rw [Option.ite_none_right_eq_some, Option.map_eq_some_iff]
  refine and_congr_right fun _ => ?_
  constructor
  · rintro ⟨k', named, same⟩
    cases same
    exact ⟨named, rfl⟩
  · rintro ⟨named, rfl⟩
    exact ⟨k, named, rfl⟩

/-- Destroying a guard gives back what it holds, and nothing else. -/
theorem allocated_destroy : (g.destroy sw).Allocated x ↔ sw.Allocated x ∧ g.held ≠ some x := by
  obtain ⟨k', id'⟩ := x
  cases here : g.held with
  | none =>
      rw [destroy_of_held_none here]
      exact (and_iff_left fun absent => by cases absent).symm
  | some held =>
      obtain ⟨k, id⟩ := held
      obtain ⟨guarding, named, rfl⟩ := held_some.mp here
      have differ : some (k, g.guardedId) ≠ some (k', id') ↔ ¬ (k' = k ∧ id' = g.guardedId) := by
        rw [ne_eq, Option.some_inj, Prod.mk.injEq, eq_comm, @eq_comm _ g.guardedId]
      rw [differ, NasAclSwitch.Allocated, NasAclSwitch.Allocated,
        allocatedIds_destroy guarding named]
      by_cases same : k' = k
      · rw [if_pos same, Finset.mem_erase, and_comm]
        exact and_congr_right fun _ => not_congr (and_iff_right same).symm
      · rw [if_neg same]
        exact (and_iff_left fun both => same both.1).symm

/-- A reservation tells whether the id was free. -/
theorem reserveGuardedId_unused {gen : IdGenerator} {unused : Bool}
    (ran : g.reserveGuardedId id sw = .ok (unused, g', sw'))
    (from_ : sw.store.idGen g.objType g.tableId = some gen) :
    unused = decide (id ∉ gen.allocated) := by
  obtain ⟨⟨free, sw₁⟩, took, ran⟩ := except_bind_ok.mp ran
  obtain ⟨gen', from', -, -, verdict⟩ := NasAclIdGuard.reserveId_ok took
  cases from_.symm.trans from'
  rw [← verdict]
  cases free with
  | false =>
      cases ran
      rfl
  | true =>
      cases ran
      rfl

/-- An id is allocated where a generator has one to give. -/
theorem allocGuardedId_returns {alloc : IdAllocator} : (∃ r, g.allocGuardedId alloc sw = .ok r) ↔
    ∃ gen, sw.store.idGen g.objType g.tableId = some gen ∧ ∃ id, alloc.next gen = .ok id := by
  obtain ⟨objType, t, guarding, guardedId⟩ := g
  have given {x : Except Exn (NasObjId × NasAclSwitch)} {f : NasObjId × NasAclSwitch →
      Except Exn (NasObjId × NasAclIdGuard × NasAclSwitch)} (all : ∀ y, ∃ r, f y = .ok r) :
      (∃ r, (x >>= f) = .ok r) ↔ ∃ y, x = .ok y := by
    simp only [except_bind_ok]
    constructor
    · rintro ⟨r, y, ran, -⟩
      exact ⟨y, ran⟩
    · rintro ⟨y, ran⟩
      obtain ⟨r, here⟩ := all y
      exact ⟨r, y, ran, here⟩
  have next {gen : IdGenerator} {f : NasObjId → NasAclSwitch} :
      (∃ y, (alloc.next gen >>= fun id => .ok (id, f id)) = Except.ok y) ↔
        ∃ id, alloc.next gen = .ok id := by
    cases alloc.next gen with
    | error e =>
        exact iff_of_false (fun ⟨_, absent⟩ => by cases absent) fun ⟨_, absent⟩ => by cases absent
    | ok id => exact iff_of_true ⟨_, rfl⟩ ⟨id, rfl⟩
  unfold NasAclIdGuard.allocGuardedId
  rw [given fun y => ⟨_, rfl⟩]
  unfold NasAclIdGuard.allocId
  cases objType with
  | table =>
      rw [next]
      simp only [Store.idGen, Option.some.injEq, exists_eq_left']
      rfl
  | entry =>
      simp only [Store.idGen, NasAclSwitch.store_containers]
      cases sw.tableContainers.lookup t with
      | none => simp only [reduceCtorEq, exists_false, Option.map_none, false_and]
      | some container =>
          simp only [next, Option.map_some, Option.some.injEq, exists_eq_left']
          rfl
  | counter =>
      simp only [Store.idGen, NasAclSwitch.store_containers]
      cases sw.tableContainers.lookup t with
      | none => simp only [reduceCtorEq, exists_false, Option.map_none, false_and]
      | some container =>
          simp only [next, Option.map_some, Option.some.injEq, exists_eq_left']
          rfl
  | stats => simp only [Store.idGen, reduceCtorEq, exists_false, false_and]
  | other => simp only [Store.idGen, reduceCtorEq, exists_false, false_and]

end Ids

/-! ## Guards -/

section Guards

variable {α : Type} [DecidableEq α]

/-- A switch, and the guards over it. -/
structure GuardState (α : Type) where
  sw : NasAclSwitch
  guards : Finmap fun _ : α => NasAclIdGuard

/-- What a program does with guards. -/
inductive GuardOp (α : Type) where
  | construct (n : α) (objType : ObjType) (tableId : NasObjId)
  | allocGuardedId (n : α)
  | reserveGuardedId (n : α) (id : NasObjId)
  | unguard (n : α)
  | moveConstruct (n source : α)
  | moveAssign (n source : α)
  | destroy (n : α)

namespace GuardState

/-- One operation.  One that throws changes nothing, and a guard that is not there is
not used. -/
def step (alloc : IdAllocator) (s : GuardState α) : GuardOp α → GuardState α
  | .construct n objType tableId =>
      if n ∈ s.guards then s else { s with guards := s.guards.insert n (.new objType tableId) }
  | .allocGuardedId n =>
      match s.guards.lookup n with
      | none => s
      | some g =>
          match g.allocGuardedId alloc s.sw with
          | .ok (_, g, sw) => ⟨sw, s.guards.insert n g⟩
          | .error _ => s
  | .reserveGuardedId n id =>
      match s.guards.lookup n with
      | none => s
      | some g =>
          match g.reserveGuardedId id s.sw with
          | .ok (_, g, sw) => ⟨sw, s.guards.insert n g⟩
          | .error _ => s
  | .unguard n =>
      match s.guards.lookup n with
      | none => s
      | some g => { s with guards := s.guards.insert n g.unguard }
  | .moveConstruct n source =>
      match s.guards.lookup source with
      | none => s
      | some g =>
          if n ∈ s.guards then s
          else
            let (g, left) := g.moveConstruct
            { s with guards := (s.guards.insert n g).insert source left }
  | .moveAssign n source =>
      match s.guards.lookup n, s.guards.lookup source with
      | some target, some g =>
          let (g, left) := target.moveAssign g
          { s with guards := (s.guards.insert n g).insert source left }
      | _, _ => s
  | .destroy n =>
      match s.guards.lookup n with
      | none => s
      | some g => ⟨g.destroy s.sw, s.guards.erase n⟩

def run (alloc : IdAllocator) (s : GuardState α) (ops : List (GuardOp α)) : GuardState α :=
  ops.foldl (step alloc) s

/-- The id a guard holds. -/
def held (s : GuardState α) (n : α) : Option GuardedId :=
  (s.guards.lookup n).bind NasAclIdGuard.held

/-- The ids that a run meets: those `f` sees at its operations. -/
def along (alloc : IdAllocator) (f : GuardState α → GuardOp α → Finset GuardedId) :
    GuardState α → List (GuardOp α) → Finset GuardedId
  | _, [] => ∅
  | s, op :: ops => f s op ∪ along alloc f (step alloc s op) ops

/-- What a guard guards at the moment it is unguarded. -/
def unguarded (s : GuardState α) : GuardOp α → Finset GuardedId
  | .unguard n => (s.held n).toFinset
  | _ => ∅

/-- What a destructor releases. -/
def released (s : GuardState α) : GuardOp α → Finset GuardedId
  | .destroy n => (s.held n).toFinset
  | _ => ∅

/-- The guard that an operation gives an id, or what another guard has: its generator has an
id for it, or the id it asks for is in range and free. -/
def refilled (alloc : IdAllocator) (s : GuardState α) : GuardOp α → Option α
  | .allocGuardedId n => (s.guards.lookup n).bind fun g =>
      (s.sw.store.idGen g.objType g.tableId).bind fun gen =>
        if (alloc.next gen).isOk then some n else none
  | .reserveGuardedId n id => (s.guards.lookup n).bind fun g =>
      (s.sw.store.idGen g.objType g.tableId).bind fun gen =>
        if id.toNat ≤ g.objType.idMax ∧ id ∉ gen.allocated then some n else none
  | .moveAssign n source => if n ∈ s.guards ∧ source ∈ s.guards then some n else none
  | _ => none

/-- What a guard guards at the moment it is given something else. -/
def forgotten (alloc : IdAllocator) (s : GuardState α) (op : GuardOp α) : Finset GuardedId :=
  ((refilled alloc s op).bind s.held).toFinset

/-- No guard is given an id, or what another guard has, while it guards an id. -/
def Careful (alloc : IdAllocator) : GuardState α → List (GuardOp α) → Prop
  | _, [] => True
  | s, op :: ops =>
      (∀ n, refilled alloc s op = some n → s.held n = none) ∧ Careful alloc (step alloc s op) ops

/-- The ids left allocated after a run are those of the start and those unguarded, and
nothing that was allocated at the start is released. -/
structure Accounts (alloc : IdAllocator) (s : GuardState α) (ops : List (GuardOp α)) : Prop where
  left : ∀ x, (run alloc s ops).sw.Allocated x ↔
    s.sw.Allocated x ∨ x ∈ along alloc unguarded s ops
  spared : ∀ x ∈ along alloc released s ops, ¬ s.sw.Allocated x

/-! ### One operation -/

variable {alloc : IdAllocator} {s : GuardState α} {l : Ledger α GuardedId} {op : GuardOp α}
  {n source : α} {g : NasAclIdGuard} {sw : NasAclSwitch} {x : GuardedId}

theorem held_insert :
    (⟨sw, s.guards.insert n g⟩ : GuardState α).held = Function.update s.held n g.held := by
  funext k
  unfold held
  by_cases here : k = n
  · subst here
    rw [Finmap.lookup_insert, Function.update_self, Option.bind_some]
  · rw [Finmap.lookup_insert_of_ne _ here, Function.update_of_ne here]

theorem held_erase :
    (⟨sw, s.guards.erase n⟩ : GuardState α).held = Function.update s.held n none := by
  funext k
  unfold held
  by_cases here : k = n
  · subst here
    rw [Finmap.lookup_erase, Function.update_self, Option.bind_none]
  · rw [Finmap.lookup_erase_ne here, Function.update_of_ne here]

theorem held_of_lookup (found : s.guards.lookup n = some g) : s.held n = g.held := by
  rw [held, found, Option.bind_some]

theorem held_of_not_mem (absent : n ∉ s.guards) : s.held n = none := by
  rw [held, Finmap.lookup_eq_none.mpr absent, Option.bind_none]

theorem refilled_alloc (found : s.guards.lookup n = some g) :
    refilled alloc s (.allocGuardedId n)
      = if (g.allocGuardedId alloc s.sw).isOk then some n else none := by
  have returns : (g.allocGuardedId alloc s.sw).isOk = true ↔
      ∃ gen, s.sw.store.idGen g.objType g.tableId = some gen ∧ (alloc.next gen).isOk = true := by
    simp only [except_isOk]
    exact allocGuardedId_returns
  simp only [refilled, found, Option.bind_some]
  cases from_ : s.sw.store.idGen g.objType g.tableId with
  | none =>
      refine (if_neg fun ok => ?_).symm
      obtain ⟨gen, there, -⟩ := returns.mp ok
      cases from_.symm.trans there
  | some gen =>
      rw [Option.bind_some]
      refine if_congr ?_ rfl rfl
      rw [returns, from_]
      simp only [Option.some.injEq, exists_eq_left']

theorem refilled_reserve {id : NasObjId} (found : s.guards.lookup n = some g) :
    refilled alloc s (.reserveGuardedId n id)
      = if (g.reserveGuardedId id s.sw).toOption.any (·.1) then some n else none := by
  simp only [refilled, found, Option.bind_some]
  cases ran : g.reserveGuardedId id s.sw with
  | error e =>
      cases from_ : s.sw.store.idGen g.objType g.tableId with
      | none => rfl
      | some gen =>
          have far : ¬ id.toNat ≤ g.objType.idMax := by
            intro near
            obtain ⟨⟨unused, sw⟩, took⟩ := NasAclIdGuard.reserveId_of_room from_ near
            rw [NasAclIdGuard.reserveGuardedId, took, except_ok_bind] at ran
            cases unused <;> cases ran
          exact if_neg fun both => far both.1
  | ok r =>
      obtain ⟨unused, g', sw⟩ := r
      obtain ⟨gen, from_, near, -, -⟩ := NasAclIdGuard.reserveGuardedId_ok ran
      rw [from_, Option.bind_some, reserveGuardedId_unused ran from_]
      simp only [near, true_and, Except.toOption, Option.any_some, decide_eq_true_eq]

/-- The ledger follows an operation by a transfer. -/
structure Follows (alloc : IdAllocator) (l : Ledger α GuardedId) (s : GuardState α) (op : GuardOp α)
    (t : Transfer α GuardedId) : Prop where
  fresh : l.Fresh t
  right : (l.step t).Right {x | (step alloc s op).sw.Allocated x} (step alloc s op).held
  handed : ∀ x, (∃ n, t.Sends n .handed ∧ l x = some (.owned n)) ↔ x ∈ unguarded s op
  lost : ∀ x, (∃ n, t.Sends n .lost ∧ l x = some (.owned n)) ↔ x ∈ forgotten alloc s op

omit [DecidableEq α] in
theorem sent_nowhere {t : Transfer α GuardedId} {p : Place α} (never : ∀ n, ¬ t.Sends n p) :
    (∃ n, t.Sends n p ∧ l x = some (.owned n)) ↔ x ∈ (∅ : Finset GuardedId) := by
  refine iff_of_false ?_ (Finset.notMem_empty x)
  rintro ⟨n, sends, -⟩
  exact never n sends

section Follow

variable (right : l.Right {x | s.sw.Allocated x} s.held)

include right

/-- What goes from one owner is what its guard guards. -/
theorem sent_iff {t : Transfer α GuardedId} {p : Place α} (only : ∀ k, t.Sends k p ↔ k = n) :
    (∃ k, t.Sends k p ∧ l x = some (.owned k)) ↔ x ∈ (s.held n).toFinset := by
  rw [Option.mem_toFinset, Option.mem_def, right.owner]
  constructor
  · rintro ⟨k, sends, held⟩
    cases (only k).mp sends
    exact held
  · intro held
    exact ⟨n, (only n).mpr rfl, held⟩

/-- An operation after which the same ids are allocated and held. -/
theorem follows_idle (allocated : ∀ x, (step alloc s op).sw.Allocated x ↔ s.sw.Allocated x)
    (held : (step alloc s op).held = s.held) (none_unguarded : unguarded s op = ∅)
    (none_forgotten : forgotten alloc s op = ∅) : ∃ t, Follows alloc l s op t := by
  refine ⟨.idle, trivial, ⟨fun x => ?_, fun n x => ?_⟩, fun x => ?_, fun x => ?_⟩
  · exact (allocated x).trans (right.allocated x)
  · rw [held]
    exact right.owner n x
  · rw [none_unguarded]
    exact sent_nowhere fun n sends => by cases sends
  · rw [none_forgotten]
    exact sent_nowhere fun n sends => by cases sends

theorem follows_same (same : step alloc s op = s) (none_unguarded : unguarded s op = ∅)
    (none_forgotten : forgotten alloc s op = ∅) : ∃ t, Follows alloc l s op t :=
  follows_idle right (fun x => by rw [same]) (by rw [same]) none_unguarded none_forgotten

/-- An id that was free comes to be guarded. -/
theorem follows_take {gen : IdGenerator} {id : NasObjId}
    (from_ : s.sw.store.idGen g.objType g.tableId = some gen) (free : id ∉ gen.allocated)
    (stored : sw.store = s.sw.store.takeId g.objType g.tableId id)
    (stepped : step alloc s op
      = ⟨sw, s.guards.insert n { g with guarding := true, guardedId := id }⟩)
    (filled : refilled alloc s op = some n) (none_unguarded : unguarded s op = ∅) :
    ∃ t, Follows alloc l s op t := by
  obtain ⟨k, named, ids⟩ := generator_of_idGen from_
  have holds : NasAclIdGuard.held { g with guarding := true, guardedId := id } = some (k, id) :=
    held_some.mpr ⟨rfl, named, rfl⟩
  have unallocated : ¬ s.sw.Allocated (k, id) := by
    rw [NasAclSwitch.Allocated, ids]
    exact free
  have fresh : l (k, id) = none := not_not.mp (mt (right.allocated (k, id)).mpr unallocated)
  refine ⟨.take n (k, id), fresh, ?_, fun x => ?_, fun x => ?_⟩
  · rw [stepped, held_insert, holds]
    have all : {x | sw.Allocated x} = insert (k, id) {x | s.sw.Allocated x} := by
      ext x
      rw [Set.mem_insert_iff]
      obtain ⟨k', id'⟩ := x
      exact allocated_takeId from_ named stored
    rw [all]
    exact right.take fresh
  · rw [none_unguarded]
    exact sent_nowhere fun k sends => by cases sends
  · rw [forgotten, filled, Option.bind_some]
    refine sent_iff right fun k => ⟨fun sends => by cases sends; rfl, ?_⟩
    rintro rfl
    exact .take ..

theorem follows_construct {objType : ObjType} {t : NasObjId} :
    ∃ u, Follows alloc l s (.construct n objType t) u := by
  by_cases there : n ∈ s.guards
  · exact follows_same right (if_pos there) rfl rfl
  · have stepped : step alloc s (.construct n objType t)
        = ⟨s.sw, s.guards.insert n (.new objType t)⟩ := if_neg there
    refine follows_idle right (fun x => by rw [stepped]) ?_ rfl rfl
    rw [stepped, held_insert, Function.update_eq_self_iff, held_of_not_mem there]
    rfl

theorem follows_alloc : ∃ t, Follows alloc l s (.allocGuardedId n) t := by
  cases found : s.guards.lookup n with
  | none =>
      refine follows_same right ?_ rfl ?_
      · simp only [step, found]
      · simp only [forgotten, refilled, found, Option.bind_none, Option.toFinset_none]
  | some g =>
      cases ran : g.allocGuardedId alloc s.sw with
      | error e =>
          refine follows_same right ?_ rfl ?_
          · simp only [step, found, ran]
          · simp only [forgotten, refilled_alloc found, ran, Except.isOk, Except.toBool,
              Bool.false_eq_true, if_false, Option.bind_none, Option.toFinset_none]
      | ok r =>
          obtain ⟨id, g', sw'⟩ := r
          obtain ⟨gen, from_, free, -, stored, rfl⟩ := NasAclIdGuard.allocGuardedId_ok ran
          refine follows_take (n := n) right from_ free stored ?_ ?_ rfl
          · simp only [step, found, ran]
          · simp only [refilled_alloc found, ran, Except.isOk, Except.toBool, if_true]

theorem follows_reserve {id : NasObjId} : ∃ t, Follows alloc l s (.reserveGuardedId n id) t := by
  cases found : s.guards.lookup n with
  | none =>
      refine follows_same right ?_ rfl ?_
      · simp only [step, found]
      · simp only [forgotten, refilled, found, Option.bind_none, Option.toFinset_none]
  | some g =>
      cases ran : g.reserveGuardedId id s.sw with
      | error e =>
          refine follows_same right ?_ rfl ?_
          · simp only [step, found, ran]
          · simp only [forgotten, refilled_reserve found, ran, Except.toOption, Option.any_none,
              Bool.false_eq_true, if_false, Option.bind_none, Option.toFinset_none]
      | ok r =>
          obtain ⟨unused, g', sw'⟩ := r
          obtain ⟨gen, from_, -, stored, left⟩ := NasAclIdGuard.reserveGuardedId_ok ran
          have verdict := reserveGuardedId_unused ran from_
          have stepped : step alloc s (.reserveGuardedId n id) = ⟨sw', s.guards.insert n g'⟩ := by
            simp only [step, found, ran]
          by_cases taken : id ∈ gen.allocated
          · rw [if_neg (not_not.mpr taken)] at left
            rw [Store.takeId_of_taken from_ taken] at stored
            subst left
            have sameIds : ∀ k, sw'.allocatedIds k = s.sw.allocatedIds k := by
              intro k
              rw [allocatedIds_store, allocatedIds_store, stored]
            refine follows_idle right (fun x => ?_) ?_ rfl ?_
            · rw [stepped, NasAclSwitch.Allocated, NasAclSwitch.Allocated, sameIds]
            · rw [stepped, held_insert, Function.update_eq_self_iff, held_of_lookup found]
            · simp only [forgotten, refilled_reserve found, ran, Except.toOption, Option.any_some,
                verdict, taken, not_true_eq_false, decide_false,
                Bool.false_eq_true, if_false, Option.bind_none, Option.toFinset_none]
          · rw [if_pos taken] at left
            subst left
            refine follows_take (n := n) right from_ taken stored stepped ?_ rfl
            simp only [refilled_reserve found, ran, Except.toOption, Option.any_some, verdict,
              taken, not_false_eq_true, decide_true, if_true]

theorem follows_unguard : ∃ t, Follows alloc l s (.unguard n) t := by
  cases found : s.guards.lookup n with
  | none =>
      refine follows_same right ?_ ?_ rfl
      · simp only [step, found]
      · rw [unguarded, held, found]
        rfl
  | some g =>
      have stepped : step alloc s (.unguard n) = ⟨s.sw, s.guards.insert n g.unguard⟩ := by
        simp only [step, found]
      refine ⟨.hand n, trivial, ?_, fun x => ?_, fun x => sent_nowhere fun k sends => by cases sends⟩
      · rw [stepped, held_insert]
        exact right.settle fun _ same => by cases same
      · refine sent_iff right fun k => ⟨fun sends => by cases sends; rfl, ?_⟩
        rintro rfl
        exact .hand _

/-- A guard takes over what another one has. -/
theorem follows_move {left : NasAclIdGuard} (found : s.guards.lookup source = some g)
    (stepped : step alloc s op = ⟨s.sw, (s.guards.insert n g).insert source left⟩)
    (empty : left.held = none) (none_unguarded : unguarded s op = ∅)
    (dropped : forgotten alloc s op = (s.held n).toFinset) : ∃ t, Follows alloc l s op t := by
  refine ⟨.move n source, trivial, ?_, fun x => ?_, fun x => ?_⟩
  · have inner : (⟨s.sw, s.guards.insert n g⟩ : GuardState α).held
        = Function.update s.held n (s.held source) := by
      rw [held_insert, held_of_lookup found]
    have both : (⟨s.sw, (s.guards.insert n g).insert source left⟩ : GuardState α).held
        = Function.update (Function.update s.held n (s.held source)) source none := by
      rw [← inner, ← empty]
      exact held_insert (s := ⟨s.sw, s.guards.insert n g⟩)
    rw [stepped, both]
    exact right.move
  · rw [none_unguarded]
    exact sent_nowhere fun k sends => by cases sends
  · rw [dropped]
    refine sent_iff right fun k => ⟨fun sends => by cases sends; rfl, ?_⟩
    rintro rfl
    exact .move ..

theorem follows_moveConstruct : ∃ t, Follows alloc l s (.moveConstruct n source) t := by
  cases found : s.guards.lookup source with
  | none => exact follows_same right (by simp only [step, found]) rfl rfl
  | some g =>
      by_cases there : n ∈ s.guards
      · exact follows_same right (by simp only [step, found, there, if_true]) rfl rfl
      · refine follows_move right found (by simp only [step, found, there, if_false]; rfl) rfl rfl ?_
        rw [held_of_not_mem there]
        rfl

theorem follows_moveAssign : ∃ t, Follows alloc l s (.moveAssign n source) t := by
  cases target : s.guards.lookup n with
  | none =>
      refine follows_same right (by simp only [step, target]) rfl ?_
      have absent : n ∉ s.guards := Finmap.lookup_eq_none.mp target
      simp only [forgotten, refilled, absent, false_and, if_false, Option.bind_none,
        Option.toFinset_none]
  | some old =>
      have there : n ∈ s.guards := Finmap.mem_iff.mpr ⟨old, target⟩
      cases found : s.guards.lookup source with
      | none =>
          refine follows_same right (by simp only [step, target, found]) rfl ?_
          have absent : source ∉ s.guards := Finmap.lookup_eq_none.mp found
          simp only [forgotten, refilled, absent, and_false, if_false, Option.bind_none,
            Option.toFinset_none]
      | some g =>
          have present : source ∈ s.guards := Finmap.mem_iff.mpr ⟨g, found⟩
          refine follows_move right found (by simp only [step, target, found]; rfl) rfl rfl ?_
          simp only [forgotten, refilled, there, present, and_self, if_true, Option.bind_some]

theorem follows_destroy : ∃ t, Follows alloc l s (.destroy n) t := by
  cases found : s.guards.lookup n with
  | none => exact follows_same right (by simp only [step, found]) rfl rfl
  | some g =>
      have stepped : step alloc s (.destroy n) = ⟨g.destroy s.sw, s.guards.erase n⟩ := by
        simp only [step, found]
      refine ⟨.drop n, trivial, ?_, fun x => sent_nowhere (fun k sends => by cases sends),
        fun x => sent_nowhere (fun k sends => by cases sends)⟩
      have all : {x | (g.destroy s.sw).Allocated x}
          = {x | s.sw.Allocated x} \ {x | s.held n = some x} := by
        ext x
        rw [Set.mem_sdiff, Set.mem_ofPred_eq, Set.mem_ofPred_eq, Set.mem_ofPred_eq,
          allocated_destroy, held_of_lookup found]
      rw [stepped, held_erase, all]
      exact right.drop

/-- Every operation is a transfer. -/
theorem step_account (op : GuardOp α) : ∃ t, Follows alloc l s op t := by
  cases op with
  | construct n objType t => exact follows_construct right
  | allocGuardedId n => exact follows_alloc right
  | reserveGuardedId n id => exact follows_reserve right
  | unguard n => exact follows_unguard right
  | moveConstruct n source => exact follows_moveConstruct right
  | moveAssign n source => exact follows_moveAssign right
  | destroy n => exact follows_destroy right

end Follow

/-! ### Runs -/

/-- The ledger `l'` at the end of a run, against the ledger `l` at its start. -/
structure Followed (alloc : IdAllocator) (l : Ledger α GuardedId) (s : GuardState α)
    (ops : List (GuardOp α)) (l' : Ledger α GuardedId) : Prop where
  right : l'.Right {x | (run alloc s ops).sw.Allocated x} (run alloc s ops).held
  start : ∀ x, l' x = some .start ↔ l x = some .start
  handed : ∀ x, l' x = some .handed ↔ l x = some .handed ∨ x ∈ along alloc unguarded s ops
  lost : ∀ x, l' x = some .lost ↔ l x = some .lost ∨ x ∈ along alloc (forgotten alloc) s ops
  spared : ∀ x ∈ along alloc released s ops, l x ≠ some .start

theorem released_owned (right : l.Right {x | s.sw.Allocated x} s.held)
    (given : x ∈ released s op) : l x ≠ some .start := by
  cases op with
  | destroy n =>
      have held := (right.owner n x).mp (Option.mem_toFinset.mp given)
      rw [held]
      intro same
      cases same
  | _ => exact absurd given (Finset.notMem_empty x)

theorem run_account (right : l.Right {x | s.sw.Allocated x} s.held) (ops : List (GuardOp α)) :
    ∃ l', Followed alloc l s ops l' := by
  induction ops generalizing s l with
  | nil =>
      refine ⟨l, right, fun _ => Iff.rfl, fun x => ?_, fun x => ?_, fun x absent => ?_⟩
      · exact (or_iff_left (Finset.notMem_empty x)).symm
      · exact (or_iff_left (Finset.notMem_empty x)).symm
      · exact absurd absent (Finset.notMem_empty x)
  | cons op rest ih =>
      obtain ⟨t, first⟩ : ∃ t, Follows alloc l s op t := step_account right op
      obtain ⟨l', later⟩ := ih first.right
      have start : ∀ x, l.step t x = some .start ↔ l x = some .start := by
        intro x
        rw [Ledger.step_settled first.fresh (fun _ same => by cases same)]
        refine or_iff_left ?_
        rintro ⟨n, sends, -⟩
        cases sends
      refine ⟨l', later.right, fun x => ?_, fun x => ?_, fun x => ?_, fun x mem => ?_⟩
      · rw [later.start, start]
      · rw [later.handed, Ledger.step_settled first.fresh (fun _ same => by cases same),
          first.handed, along, Finset.mem_union, or_assoc]
      · rw [later.lost, Ledger.step_settled first.fresh (fun _ same => by cases same),
          first.lost, along, Finset.mem_union, or_assoc]
      · rcases Finset.mem_union.mp mem with here | there
        · exact released_owned right here
        · exact mt (start x).mpr (later.spared x there)

omit [DecidableEq α] in
theorem toFinset_eq_empty {o : Option GuardedId} : o.toFinset = ∅ ↔ o = none := by
  cases o with
  | none => exact iff_of_true rfl rfl
  | some x => exact iff_of_false (Finset.singleton_ne_empty x) (Option.some_ne_none x)

theorem careful_iff {ops : List (GuardOp α)} :
    Careful alloc s ops ↔ along alloc (forgotten alloc) s ops = ∅ := by
  induction ops generalizing s with
  | nil => exact iff_of_true trivial rfl
  | cons op rest ih =>
      rw [Careful, along, Finset.union_eq_empty, ih, forgotten, toFinset_eq_empty,
        Option.bind_eq_none_iff]

/-- A switch before any guard is over it. -/
def before (sw : NasAclSwitch) : GuardState α := ⟨sw, ∅⟩

/-- Once every guard is destroyed, the ids left allocated are those of the start and
those unguarded, exactly when the run was careful. -/
theorem guards_account_iff {sw : NasAclSwitch} {ops : List (GuardOp α)}
    (ended : (run alloc (before sw) ops).guards = ∅) :
    Accounts alloc (before sw) ops ↔ Careful alloc (before sw) ops := by
  have opened : (Ledger.opening {x | sw.Allocated x}).Right
      {x | sw.Allocated x} (before sw : GuardState α).held := Ledger.right_opening _
  obtain ⟨l', followed⟩ : ∃ l', Followed alloc _ (before sw) ops l' := run_account opened ops
  have isStart : ∀ x, l' x = some .start ↔ sw.Allocated x := by
    intro x
    rw [followed.start, Ledger.opening_some]
    exact and_iff_left rfl
  have isHanded : ∀ x, l' x = some .handed ↔ x ∈ along alloc unguarded (before sw) ops := by
    intro x
    rw [followed.handed, Ledger.opening_some]
    exact or_iff_right fun both => by cases both.2
  have isLost : ∀ x, l' x = some .lost ↔ x ∈ along alloc (forgotten alloc) (before sw) ops := by
    intro x
    rw [followed.lost, Ledger.opening_some]
    exact or_iff_right fun both => by cases both.2
  have unowned : ∀ n x, l' x ≠ some (.owned n) := by
    intro n x owned
    have held := (followed.right.owner n x).mpr owned
    rw [held_of_not_mem (by rw [ended]; exact Finmap.notMem_empty)] at held
    cases held
  rw [careful_iff]
  constructor
  · intro accounts
    refine Finset.eq_empty_of_forall_notMem fun x mem => ?_
    have lost := (isLost x).mpr mem
    have left := (followed.right.allocated x).mpr (by rw [lost]; exact Option.some_ne_none _)
    rcases (accounts.left x).mp left with there | given
    · cases lost.symm.trans ((isStart x).mpr there)
    · cases lost.symm.trans ((isHanded x).mpr given)
  · intro nothing
    refine ⟨fun x => ?_, fun x mem there => followed.spared x mem ?_⟩
    · refine (followed.right.allocated x).trans (Iff.trans ?_ (or_congr (isStart x) (isHanded x)))
      cases here : l' x with
      | none =>
          refine iff_of_false (fun differ => differ rfl) ?_
          rintro (absent | absent)
          · cases absent
          · cases absent
      | some p =>
          refine iff_of_true (Option.some_ne_none p) ?_
          cases p with
          | start => exact .inl rfl
          | handed => exact .inr rfl
          | lost =>
              have forgot := (isLost x).mp here
              rw [nothing] at forgot
              exact absurd forgot (Finset.notMem_empty x)
          | owned n => exact absurd here (unowned n x)
    · exact Ledger.opening_some.mpr ⟨there, rfl⟩

end GuardState

end Guards

/-! ### On the bench -/

/-- One guard takes an id and lets go of it; another one takes one, fails to take it
again, and is moved twice before it is destroyed. -/
theorem moved_guard_accounts :
    GuardState.Accounts Bench.allocator (GuardState.before .new)
      [.construct 0 .table 0, .allocGuardedId 0, .unguard 0, .construct 1 .table 0,
        .reserveGuardedId 1 7, .reserveGuardedId 1 7, .moveConstruct 2 1, .destroy 1,
        .moveAssign 0 2, .destroy 2, .destroy (0 : Nat)] := by
  refine (GuardState.guards_account_iff (by decide +kernel)).mpr ?_
  exact GuardState.careful_iff.mpr (by decide +kernel)

/-- A guard that guards id 1 is moved onto, and id 1 stays allocated for ever. -/
theorem moveAssign_leaks :
    ¬ ∀ (alloc : IdAllocator) (sw : NasAclSwitch) (ops : List (GuardOp Nat)),
      (GuardState.run alloc (.before sw) ops).guards = ∅ →
      GuardState.Accounts alloc (.before sw) ops := by
  intro claim
  have accounts := claim Bench.allocator .new [.construct 0 .table 0, .construct 1 .table 0,
    .allocGuardedId 0, .allocGuardedId 1, .moveAssign 0 1, .destroy 0, .destroy 1] (by decide +kernel)
  exact absurd (accounts.left (.tables, 1)) (by decide +kernel)

end SonicNasAcl
