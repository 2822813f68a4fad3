/-
# Atomicity -- a handler that returns an error has changed nothing

For each handler a two-exit triple: from a store `s`, the error exit is in `s` again
(`Unchanged s`), unless the process is over.  The triples follow the handlers step by
step: what comes before the commit keeps the store (`Keeps`), and what comes after it
fails only by ending the process.

Inside the scope of an id guard the store may already hold the id; what is kept there
is the store the guard's destructor leads back to.
-/
import SonicNasAcl.Handlers

namespace SonicNasAcl

set_option autoImplicit false

open Lib

/-- The process is over, or the store is the one before. -/
def Unchanged (s : Store) (e : Exn) (c : Ctx) : Prop :=
  (∃ why, e = .abort why) ∨ c.sw.store = s

/-- Whatever its exit, the step is still in the store. -/
abbrev Keeps {α : Type} (s : Store) (x : Handler α) : Prop :=
  Eff.Spec (fun c => c.sw.store = s) x (fun _ c => c.sw.store = s) (Unchanged s)

/-- The error exit is in the store. -/
abbrev Atomic {α : Type} (s : Store) (x : Handler α) : Prop :=
  Eff.Spec (fun c => c.sw.store = s) x (fun _ _ => True) (Unchanged s)

/-- The step only fails by ending the process. -/
abbrev NoThrow {α : Type} (x : Handler α) : Prop :=
  Eff.Spec (fun _ => True) x (fun _ _ => True) fun e _ => ∃ why, e = .abort why

/-! ## Steps -/

section Steps

variable {s : Store} {α β : Type}

theorem keeps_query (f : Ctx → Except Exn α) : Keeps s (Eff.query f) :=
  .query (fun _ _ pre _ => pre) fun _ _ pre _ => .inr pre

theorem atomic_fail (errCode : ErrCode) (errMsg : String) :
    Atomic s (Handler.fail errCode errMsg : Handler α) :=
  .throw fun _ pre => .inr pre

theorem keeps_checkIdFree (passed : Option NasObjId) (taken : NasAclSwitch → NasObjId → Bool)
    (err : NasObjId → Exn) : Keeps s (Handler.checkIdFree passed taken err) := keeps_query _

theorem keeps_mandatoryKey (k : KeyAttr) (errMsg : String) :
    Keeps s (Handler.mandatoryKey k errMsg) := keeps_query _

theorem keeps_onSwitch {f : NasAclSwitch → Except Exn NasAclSwitch}
    (same : ∀ sw sw', f sw = .ok sw' → sw'.store = sw.store) : Keeps s (Handler.onSwitch f) where
  ok pre ran := by
    obtain ⟨sw', acted, rfl⟩ := Handler.onSwitch_ok.mp ran
    exact (same _ _ acted).trans pre
  error pre stopped := by
    obtain ⟨-, rfl⟩ := Handler.onSwitch_error stopped
    exact .inr pre

theorem keeps_savePrev (rb : Bool) (f : CpsObject → CpsObject → Except Exn CpsObject) :
    Keeps s (Handler.savePrev rb f) where
  ok pre ran := by
    obtain ⟨prev, -, rfl⟩ := Handler.savePrev_ok.mp ran
    exact pre
  error pre stopped := by
    obtain ⟨-, rfl⟩ := Handler.savePrev_error stopped
    exact .inr pre

theorem Keeps.atomic {x : Handler α} (h : Keeps s x) : Atomic s x :=
  h.mono (fun _ pre => pre) (fun _ _ _ => trivial) fun _ _ err => err

theorem Keeps.then {x : Handler α} {f : α → Handler β} (first : Keeps s x)
    (rest : ∀ a, Atomic s (f a)) : Atomic s (x >>= f) := Eff.Spec.bind first rest

theorem atomic_onSwitch (f : NasAclSwitch → Except Exn NasAclSwitch) :
    Atomic s (Handler.onSwitch f) where
  ok _ _ := trivial
  error pre stopped := by
    obtain ⟨-, rfl⟩ := Handler.onSwitch_error stopped
    exact .inr pre

theorem noexceptFn_error {x : Except Exn α} {e : Exn} (stopped : noexceptFn x = .error e) :
    ∃ why, e = .abort why := by
  cases x with
  | ok a => cases stopped
  | error e' =>
      cases stopped
      exact ⟨_, rfl⟩

theorem noThrow_onSwitch {f : NasAclSwitch → Except Exn NasAclSwitch}
    (noexcept : ∀ sw e, f sw = .error e → ∃ why, e = .abort why) :
    NoThrow (Handler.onSwitch f) where
  ok _ _ := trivial
  error _ stopped := by
    exact noexcept _ _ (Handler.onSwitch_error stopped).1

theorem noThrow_savePrev_of_error {rb : Bool} {f : CpsObject → CpsObject → Except Exn CpsObject}
    (fails : ∀ obj prev err, f obj prev = .error err → ∃ why, err = .abort why) :
    NoThrow (Handler.savePrev rb f) where
  ok _ _ := trivial
  error _ stopped := fails _ _ _ (Handler.savePrev_error stopped).1

theorem noThrow_savePrev {rb : Bool} {f : CpsObject → CpsObject → Except Exn CpsObject}
    (fills : ∀ obj prev, ∃ filled, f obj prev = .ok filled) : NoThrow (Handler.savePrev rb f) := by
  refine noThrow_savePrev_of_error fun obj prev err failed => ?_
  obtain ⟨filled, done⟩ := fills obj prev
  rw [failed] at done
  cases done

theorem noThrow_write (f : Ctx → Ctx) : NoThrow (Eff.write f) := .write fun _ _ => trivial

theorem NoThrow.then {x : Handler α} {f : α → Handler β} (first : NoThrow x)
    (rest : ∀ a, NoThrow (f a)) : NoThrow (x >>= f) := Eff.Spec.bind first rest

end Steps

/-! ## The scope of an id guard -/

section Guard

variable {s : Store} {α β : Type} {objType : ObjType} {t : NasObjId} {alloc : IdAllocator}
  {passed : Option NasObjId}

/-- The guard's destructor leads back to the store. -/
def Guarded (s : Store) (c : Ctx) : Prop := (c.idg.destroy c.sw).store = s

/-- In the scope of a guard, the error exit leads back to the store. -/
abbrev GuardedAtomic (s : Store) (x : Handler α) : Prop :=
  Eff.Spec (Guarded s) x (fun _ _ => True)
    fun e c => Unchanged s e { c with sw := c.idg.destroy c.sw }

theorem guardedAtomic_query {f : Ctx → Except Exn α} {rest : α → Handler β}
    (after : ∀ a, GuardedAtomic s (rest a)) : GuardedAtomic s (Eff.query f >>= rest) :=
  .bind (.query (fun _ _ pre _ => pre) fun _ _ pre _ => .inr pre) after

/-- The object is saved: from here on nothing throws. -/
theorem guardedAtomic_save {f : NasAclSwitch → Except Exn NasAclSwitch} {rest : Unit → Handler β}
    (after : ∀ u, NoThrow (rest u)) : GuardedAtomic s (Handler.onSwitch f >>= rest) :=
  Eff.Spec.bind (Q := fun _ _ => True)
    { ok := fun _ _ => trivial
      error := fun pre stopped => by
        obtain ⟨-, rfl⟩ := Handler.onSwitch_error stopped
        exact .inr pre }
    fun u => (after u).mono (fun _ _ => trivial) (fun _ _ _ => trivial) fun _ _ abort => .inl abort

theorem guarded_of_takesId {sw sw' : NasAclSwitch} {id : NasObjId} {g : NasAclIdGuard}
    (took : TakesId alloc (.new objType t) sw passed id g sw') (pre : sw.store = s) :
    (g.destroy sw').store = s := by
  obtain ⟨_, _, _, back, _⟩ := took.spec
  exact back.trans pre

theorem atomic_withIdGuard {rest : NasObjId → Handler α} (after : ∀ id, GuardedAtomic s (rest id)) :
    Atomic s (Handler.withIdGuard objType t (Handler.guardedId alloc passed >>= rest)) := by
  refine Eff.Spec.bind (Q := fun _ c => c.sw.store = s ∧ c.idg = .new objType t)
    (.write fun _ pre => ⟨pre, rfl⟩) fun _ => .ensuring ?_
  refine Eff.Spec.bind (Q := fun _ c => Guarded s c) ⟨?_, ?_⟩ fun id => after id
  · rintro c c' id ⟨pre, new⟩ ran
    obtain ⟨_, g, sw, took, same⟩ := Handler.guardedId_bind_ok.mp
      (show (Handler.guardedId alloc passed >>= pure) c = (.ok id, c') from
        Eff.bind_of_ok ran)
    cases same
    rw [new] at took
    exact guarded_of_takesId took pre
  · rintro c c' e ⟨pre, new⟩ stopped
    obtain rfl := Handler.guardedId_error stopped
    refine .inr ?_
    rw [new, NasAclIdGuard.destroy_new]
    exact pre

end Guard

/-! ## Handlers -/

section Handlers

variable {s : Store} {p : Platform} {o : Oracle} {rb : Bool}

theorem atomic_nasAclTableCreate : Atomic s (nasAclTableCreate p o rb) := by
  refine (keeps_query _).then fun tableId => (keeps_checkIdFree ..).then fun _ =>
    (keeps_query _).then fun tmp => atomic_withIdGuard fun id => ?_
  refine guardedAtomic_query fun t => guardedAtomic_save fun _ => ?_
  exact (noThrow_write _).then fun _ => (noThrow_write _).then fun _ =>
    noThrow_savePrev fun _ _ => ⟨_, rfl⟩

theorem atomic_nasAclTableDelete : Atomic s (nasAclTableDelete p o rb) := by
  refine (keeps_mandatoryKey ..).then fun id => (keeps_query _).then fun t =>
    (keeps_savePrev ..).then fun _ => (keeps_query _).then fun _ => ?_
  refine Keeps.then (Eff.Spec.bind (keeps_onSwitch ?_) fun _ => keeps_query _)
    fun _ => atomic_onSwitch _
  rintro sw _ ⟨⟩
  exact store_setTableIds _ _

theorem atomic_nasAclCounterCreate : Atomic s (nasAclCounterCreate p o rb) := by
  refine (keeps_mandatoryKey ..).then fun t => (keeps_query _).then fun id =>
    (keeps_query _).then fun table => (keeps_checkIdFree ..).then fun _ =>
    (keeps_query _).then fun tmp => atomic_withIdGuard fun id => ?_
  refine guardedAtomic_query fun x => guardedAtomic_save fun _ => ?_
  exact (noThrow_write _).then fun _ => (noThrow_write _).then fun _ =>
    noThrow_savePrev fun _ _ => ⟨_, rfl⟩

/-- Deleting a counter: its NDI ids may change, but not the NPUs it is on. -/
theorem atomic_nasAclCounterDelete : Atomic s (nasAclCounterDelete p o rb) := by
  refine (keeps_mandatoryKey ..).then fun t => (keeps_mandatoryKey ..).then fun id => ?_
  refine Eff.Spec.bind (Q := fun x c => c.sw.store = s ∧ c.sw.findCounter t id = some x)
    (.query (fun c x pre found => ⟨pre, getCounter_ok.mp found⟩) fun _ _ pre _ => .inr pre)
    fun x => ?_
  refine Eff.Spec.bind (Q := fun _ c => c.sw.store = s ∧ c.sw.findCounter t id = some x)
    ⟨?_, ?_⟩ fun _ => ?_
  · intro c c' u pre ran
    obtain ⟨prev, -, rfl⟩ := Handler.savePrev_ok.mp ran
    exact pre
  · intro c c' e pre stopped
    obtain ⟨-, rfl⟩ := Handler.savePrev_error stopped
    exact .inr pre.1
  refine Eff.Spec.bind (Q := fun _ c => c.sw.store = s ∧ c.sw.findCounter t id = some x)
    (.query (fun _ _ pre _ => pre) fun _ _ pre _ => .inr pre.1) fun _ => ?_
  refine Eff.Spec.bind (Q := fun _ _ => True) ⟨fun _ _ => trivial, ?_⟩ fun _ =>
    (noThrow_onSwitch fun _ _ => noexceptFn_error).mono (fun _ _ => trivial)
      (fun _ _ _ => trivial) fun _ _ abort => .inl abort
  rintro c c' e ⟨pre, found⟩ stopped
  obtain renamed | ⟨_, mid, renamed, failed⟩ := Eff.bind_error.mp stopped
  · cases (Handler.onSwitch_error renamed).1
  · obtain ⟨sw, renamed, rfl⟩ := Handler.onSwitch_ok.mp renamed
    cases renamed
    rw [Eff.query_apply, Prod.mk.injEq] at failed
    obtain ⟨failed, rfl⟩ := failed
    exact .inr ((store_setCounterIds found (o.counterDelete_keys x rb e failed)).trans pre)

theorem keeps_commitModify {table : NasAclTable} {old new : NasAclEntry} :
    Keeps s (commitModify p o table old rb new) := by
  refine .bind (keeps_query _) fun e => .bind (keeps_query _) fun _ =>
    .bind (keeps_onSwitch ?_) fun _ => .bind (keeps_query _) fun _ => .pure fun _ pre => pre
  rintro sw _ ⟨⟩
  exact store_setEntryIds _ _ _ _

theorem atomic_cpsEntryIncrUpd {table : NasAclTable} {eid : NasObjId} {upd : IncrType}
    {op : CpsOper} : Atomic s (cpsEntryIncrUpd p o table eid upd op rb) :=
  (keeps_query _).then fun _ => (keeps_query _).then fun _ => keeps_commitModify.then fun _ =>
    (keeps_savePrev ..).then fun _ => atomic_onSwitch _

theorem atomic_nasAclEntryCreate : Atomic s (nasAclEntryCreate p o rb) := by
  refine (keeps_query _).then fun ⟨table, eid, incrUpd⟩ => ?_
  cases incrUpd with
  | some upd =>
      cases eid with
      | none => exact atomic_fail _ _
      | some eid => exact atomic_cpsEntryIncrUpd
  | none =>
      refine (keeps_checkIdFree ..).then fun _ => (keeps_query _).then fun tmp =>
        atomic_withIdGuard fun id => ?_
      refine guardedAtomic_query fun e => guardedAtomic_save fun _ => ?_
      exact (noThrow_write _).then fun _ => (noThrow_write _).then fun _ =>
        noThrow_savePrev fun _ _ => ⟨_, cpsPackKey_eq ..⟩

theorem atomic_nasAclEntryModify : Atomic s (nasAclEntryModify p o rb) := by
  refine (keeps_query _).then fun ⟨table, eid, incrUpd⟩ => ?_
  cases eid with
  | none => exact atomic_fail _ _
  | some eid =>
      cases incrUpd with
      | some upd => exact atomic_cpsEntryIncrUpd
      | none =>
          exact (keeps_query _).then fun _ => (keeps_query _).then fun _ =>
            keeps_commitModify.then fun _ => (keeps_savePrev ..).then fun _ => atomic_onSwitch _

theorem atomic_nasAclEntryDelete : Atomic s (nasAclEntryDelete p o rb) := by
  refine (keeps_query _).then fun ⟨table, eid, incrUpd⟩ => ?_
  cases eid with
  | none => exact atomic_fail _ _
  | some eid =>
      cases incrUpd with
      | some upd => exact atomic_cpsEntryIncrUpd
      | none =>
          refine (keeps_query _).then fun e => Keeps.then
            (.bind (keeps_query _) fun _ => .bind (keeps_onSwitch ?_) fun _ => keeps_query _) fun _ =>
            (keeps_savePrev ..).then fun _ => atomic_onSwitch _
          rintro sw _ ⟨⟩
          exact store_setEntryIds _ _ _ _

/-! ### Stats -/

theorem keeps_setCountNdi (cType : CounterType) (npuId : NpuId) (count : UInt64)
    (x : NasAclCounter) : Keeps s (x.setCountNdi o cType npuId count) := by
  unfold NasAclCounter.setCountNdi
  split
  · exact .throw fun _ pre => .inr pre
  · split
    · exact .throw fun _ pre => .inr pre
    · exact .write fun _ pre => pre

theorem keeps_setCountIfPresent (cType : CounterType) (npuId : NpuId) (count : Option UInt64)
    (x : NasAclCounter) : Keeps s (x.setCountIfPresent o cType npuId count) := by
  cases count with
  | none => exact .pure fun _ pre => pre
  | some count => exact keeps_setCountNdi ..

theorem keeps_forM {α : Type} {f : α → Handler Unit} (each : ∀ a, Keeps s (f a)) (l : List α) :
    Keeps s (l.forM f) := by
  induction l with
  | nil => exact .pure fun _ pre => pre
  | cons a rest ih => exact .bind (each a) fun _ => ih

theorem keeps_nasAclStatsSet : Keeps s (nasAclStatsSet p o) :=
  .bind (keeps_mandatoryKey ..) fun _ => .bind (keeps_mandatoryKey ..) fun _ =>
    .bind (keeps_query _) fun _ => .bind (keeps_query _) fun _ =>
    keeps_forM (fun _ => .bind (keeps_setCountIfPresent ..) fun _ => keeps_setCountIfPresent ..) _

end Handlers

end SonicNasAcl
