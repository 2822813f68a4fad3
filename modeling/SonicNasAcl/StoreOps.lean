/-
# StoreOps -- what the operations of the switch do to the store

One lemma per operation of `nas_acl_switch`, stated on the abstract store.  They are
all a handler's proof needs to know: nothing later unfolds a switch operation.

* `saveEntry_new` and `saveEntry_old`: an entry is filed, and the references of the
  counters of the old and the new entry are moved -- when the two counter ids differ;
* `removeEntry_ok`: the entry, its id and its reference go;
* `saveTable_new`, `store_removeTable`, `saveCounter_ok`, `removeCounter_ok`: tables and
  counters, with their ids;
* `store_setTableIds` and `store_setEntryIds`: NDI ids are not seen.
-/
import SonicNasAcl.AbstractStore

namespace SonicNasAcl

set_option autoImplicit false

open Lib

theorem noexceptFn_ok {α : Type} {x : Except Exn α} {a : α} :
    noexceptFn x = .ok a ↔ x = .ok a := by
  cases x with
  | ok b => exact Iff.rfl
  | error e => simp only [noexceptFn, reduceCtorEq]

/-! ## References on stores -/

namespace Store

/-- File an entry in its table. -/
def putEntry (e : NasAclEntry) (s : Store) : Store :=
  s.onContainer e.tableId (Container.putEntry e)

/-- Refer to the entry's counter, if it has one. -/
def addRef (e : NasAclEntry) (s : Store) : Store :=
  if e.isCounterEnabled then
    s.onContainer e.tableId (Container.modifyRefs e.counterId (·.addRef e.entryId))
  else s

/-- Stop referring to the entry's counter, if it has one. -/
def delRef (e : NasAclEntry) (s : Store) : Store :=
  if e.isCounterEnabled then
    s.onContainer e.tableId (Container.modifyRefs e.counterId (·.delRef e.entryId))
  else s

theorem entry_addRef (e : NasAclEntry) (t id : NasObjId) (s : Store) :
    (s.addRef e).entry t id = s.entry t id := by
  unfold addRef
  split
  · exact entry_onContainer_of_same (fun _ => by rfl) t id s
  · rfl

theorem entry_delRef (e : NasAclEntry) (t id : NasObjId) (s : Store) :
    (s.delRef e).entry t id = s.entry t id := by
  unfold delRef
  split
  · exact entry_onContainer_of_same (fun _ => by rfl) t id s
  · rfl

theorem counter_putEntry (e : NasAclEntry) (t x : NasObjId) (s : Store) :
    (s.putEntry e).counter t x = s.counter t x :=
  counter_onContainer_of_same (fun _ => by rfl) t x s

/-- The entry's counter is stored. -/
def CounterStored (s : Store) (e : NasAclEntry) : Prop :=
  e.isCounterEnabled → (s.counter e.tableId e.counterId).isSome

/-- Save over a stored entry. -/
def replaceEntry (old e : NasAclEntry) (s : Store) : Store :=
  if old.counterId ≠ e.counterId then ((s.delRef old).addRef e).putEntry e else s.putEntry e

/-- Remove a stored entry, its id and its reference. -/
def removeEntry (e : NasAclEntry) (tableId entryId : NasObjId) (s : Store) : Store :=
  (s.delRef e).onContainer tableId
    (Container.freeEntryId entryId ∘ Container.eraseEntry entryId)

end Store

/-! ## References on the switch -/

@[simp] theorem noIds_counterId (e : NasAclEntry) : e.noIds.counterId = e.counterId := rfl

@[simp] theorem noIds_isCounterEnabled (e : NasAclEntry) :
    e.noIds.isCounterEnabled = e.isCounterEnabled := rfl

@[simp] theorem noIds_tableId (e : NasAclEntry) : e.noIds.tableId = e.tableId := rfl

theorem getCounter_ok {sw : NasAclSwitch} {t id : NasObjId} {c : NasAclCounter} :
    sw.getCounter t id = .ok c ↔ sw.findCounter t id = some c := by
  unfold NasAclSwitch.getCounter NasAclSwitch.findCounter
  cases sw.tableContainers.lookup t with
  | none => simp only [Option.bind_none, reduceCtorEq]
  | some container =>
      simp only [Option.bind_some]
      cases container.aclCounters.lookup id with
      | none => simp only [reduceCtorEq]
      | some c' => simp only [Except.ok.injEq, Option.some.injEq]

theorem getEntry_ok {sw : NasAclSwitch} {t id : NasObjId} {e : NasAclEntry} :
    sw.getEntry t id = .ok e ↔ sw.findEntry t id = some e := by
  unfold NasAclSwitch.getEntry
  cases sw.findEntry t id with
  | none => simp only [reduceCtorEq]
  | some e' => simp only [Except.ok.injEq, Option.some.injEq]

theorem getTable_ok {sw : NasAclSwitch} {t : NasObjId} {table : NasAclTable} :
    sw.getTable t = .ok table ↔ sw.findTable t = some table := by
  unfold NasAclSwitch.getTable NasAclSwitch.findTable
  cases sw.tables.lookup t with
  | none => simp only [reduceCtorEq]
  | some t' => simp only [Except.ok.injEq, Option.some.injEq]

theorem entryCounter_ok {sw : NasAclSwitch} {e : NasAclEntry} {found : Option NasAclCounter} :
    e.getCounter sw = .ok found ↔
      if e.isCounterEnabled then
        ∃ c, sw.findCounter e.tableId e.counterId = some c ∧ found = some c
      else found = none := by
  unfold NasAclEntry.getCounter
  cases e.isCounterEnabled with
  | false => simp only [Bool.false_eq_true, if_false, Except.ok.injEq, eq_comm]
  | true =>
      simp only [if_true, except_bind_ok, getCounter_ok, Except.ok.injEq]
      exact exists_congr fun c => and_congr_right fun _ => eq_comm

theorem store_modifyCounter (t id : NasObjId) {f : NasAclCounter → NasAclCounter}
    (sw : NasAclSwitch)
    (refsOnly : ∀ x, (f x).stored = { x.stored with counter := f x.stored.counter }) :
    (sw.modifyCounter t id f).store = sw.store.onContainer t (Container.modifyRefs id f) :=
  NasAclSwitch.store_modifyContainer fun c _ => abs_modifyCounter c id refsOnly

theorem addRefOf_ok {e : NasAclEntry} {sw sw' : NasAclSwitch} :
    sw.addRefOf e = .ok sw' →
      sw'.store = sw.store.addRef e ∧ sw.store.CounterStored e := by
  intro saved
  obtain ⟨found, lookup, rest⟩ := except_bind_ok.mp saved
  rw [entryCounter_ok] at lookup
  unfold Store.addRef Store.CounterStored
  by_cases enabled : e.isCounterEnabled
  · rw [if_pos enabled] at lookup ⊢
    obtain ⟨c, held, rfl⟩ := lookup
    cases rest
    refine ⟨store_modifyCounter _ _ _ fun _ => rfl, fun _ => ?_⟩
    rw [NasAclSwitch.store_counter, held]
    rfl
  · rw [if_neg enabled] at lookup ⊢
    subst lookup
    cases rest
    exact ⟨rfl, fun yes => absurd yes enabled⟩

theorem delRefOf_ok {e : NasAclEntry} {sw sw' : NasAclSwitch} :
    sw.delRefOf e = .ok sw' → sw'.store = sw.store.delRef e := by
  intro saved
  obtain ⟨found, lookup, rest⟩ := except_bind_ok.mp saved
  rw [entryCounter_ok] at lookup
  unfold Store.delRef
  by_cases enabled : e.isCounterEnabled
  · rw [if_pos enabled] at lookup ⊢
    obtain ⟨c, held, rfl⟩ := lookup
    cases rest
    exact store_modifyCounter _ _ _ fun _ => rfl
  · rw [if_neg enabled] at lookup ⊢
    subst lookup
    cases rest
    rfl

theorem store_putEntry (e : NasAclEntry) (sw : NasAclSwitch) :
    (sw.putEntry e).store = sw.store.putEntry e.noIds :=
  NasAclSwitch.store_modifyContainer fun c _ => abs_putEntry c e

/-! ## Saving and removing entries -/

section SaveEntry

variable {e : NasAclEntry} {sw sw' : NasAclSwitch}

/-- Saving under an id that is not stored. -/
theorem saveEntry_new (absent : sw.findEntry e.tableId e.entryId = none)
    (saved : sw.saveEntry e = .ok sw') :
    sw'.store = (sw.store.putEntry e.noIds).addRef e ∧
      (sw.store.putEntry e.noIds).CounterStored e ∧ (sw.store.containers e.tableId).isSome := by
  unfold NasAclSwitch.saveEntry at saved
  rw [noexceptFn_ok] at saved
  unfold NasAclSwitch.findEntry at absent
  cases held : sw.tableContainers.lookup e.tableId with
  | none =>
      rw [held] at saved
      cases saved
  | some container =>
      rw [held, Option.bind_some] at absent
      simp only [held, absent] at saved
      have refs := addRefOf_ok saved
      rw [store_putEntry] at refs
      refine ⟨refs.1, refs.2, ?_⟩
      rw [NasAclSwitch.store_containers, held]
      rfl

/-- Saving over a stored entry. -/
theorem saveEntry_old {old : NasAclEntry} (present : sw.findEntry e.tableId e.entryId = some old)
    (saved : sw.saveEntry e = .ok sw') :
    sw'.store = sw.store.replaceEntry old e.noIds := by
  unfold NasAclSwitch.saveEntry at saved
  rw [noexceptFn_ok] at saved
  unfold NasAclSwitch.findEntry at present
  cases held : sw.tableContainers.lookup e.tableId with
  | none =>
      rw [held] at saved
      cases saved
  | some container =>
      rw [held, Option.bind_some] at present
      simp only [held, present] at saved
      unfold Store.replaceEntry
      by_cases differ : old.counterId ≠ e.counterId
      · rw [if_pos differ] at saved
        obtain ⟨sw₁, dropped, saved⟩ := except_bind_ok.mp saved
        obtain ⟨sw₂, added, saved⟩ := except_bind_ok.mp saved
        cases saved
        rw [noIds_counterId, if_pos differ, store_putEntry, (addRefOf_ok added).1,
          delRefOf_ok dropped]
        rfl
      · rw [if_neg differ] at saved
        cases saved
        rw [noIds_counterId, if_neg differ, store_putEntry]

theorem removeEntry_ok {t id : NasObjId} (removed : sw.removeEntryFromTable t id = .ok sw') :
    ∃ old, sw.findEntry t id = some old ∧ sw'.store = sw.store.removeEntry old t id := by
  unfold NasAclSwitch.removeEntryFromTable at removed
  rw [noexceptFn_ok] at removed
  cases held : sw.findEntry t id with
  | none =>
      rw [held] at removed
      cases removed
  | some old =>
      simp only [held] at removed
      obtain ⟨sw₁, dropped, removed⟩ := except_bind_ok.mp removed
      cases removed
      refine ⟨old, rfl, ?_⟩
      unfold Store.removeEntry
      rw [← delRefOf_ok dropped]
      exact NasAclSwitch.store_modifyContainer fun c _ => abs_eraseEntry c id

end SaveEntry

/-! ## Tables and counters -/

namespace Store

/-- File a table, with a container if it has none. -/
def putTable (t : NasAclTable) (s : Store) : Store where
  tables id := if id = t.tableId then some t else s.tables id
  containers id :=
    if id = t.tableId then some ((s.containers id).getD .new) else s.containers id
  tableIds := s.tableIds

/-- Remove a table, its container and its id. -/
def removeTable (tableId : NasObjId) (s : Store) : Store where
  tables id := if id = tableId then none else s.tables id
  containers id := if id = tableId then none else s.containers id
  tableIds := s.tableIds.releaseId tableId

end Store

section Tables

variable {sw sw' : NasAclSwitch}

theorem abs_new : AclTableContainer.new.abs = Container.new := by
  exact Container.ext rfl (fun _ => rfl) rfl fun _ => rfl

theorem saveTable_new {t : NasAclTable} (absent : sw.findTable t.tableId = none) :
    (sw.saveTable t).store = sw.store.putTable t.noIds := by
  unfold NasAclSwitch.findTable at absent
  unfold NasAclSwitch.saveTable
  rw [absent]
  refine Store.ext (fun id => ?_) (fun id => ?_) rfl
  · simp only [NasAclSwitch.store_tables, Store.putTable]
    by_cases here : id = t.tableId
    · subst here
      rw [Finmap.lookup_insert]
      exact (if_pos rfl).symm
    · rw [Finmap.lookup_insert_of_ne _ here]
      exact (if_neg here).symm
  · simp only [NasAclSwitch.store_containers, Store.putTable]
    by_cases held : t.tableId ∈ sw.tableContainers
    · obtain ⟨c, found⟩ := Finmap.mem_iff.mp held
      rw [if_pos held]
      by_cases here : id = t.tableId
      · rw [here, found, Option.map_some, Option.getD_some]
        exact (if_pos rfl).symm
      · exact (if_neg here).symm
    · rw [if_neg held]
      by_cases here : id = t.tableId
      · rw [here, Finmap.lookup_insert, Finmap.lookup_eq_none.mpr held, Option.map_some, abs_new]
        exact (if_pos rfl).symm
      · rw [Finmap.lookup_insert_of_ne _ here]
        exact (if_neg here).symm

theorem store_removeTable (t : NasObjId) :
    (sw.removeTable t).store = sw.store.removeTable t := by
  have erased {α : Type} (m : Finmap fun _ : NasObjId => α) (id : NasObjId) :
      (m.erase t).lookup id = if id = t then none else m.lookup id := by
    by_cases here : id = t
    · rw [here, Finmap.lookup_erase, if_pos rfl]
    · rw [Finmap.lookup_erase_ne here, if_neg here]
  refine Store.ext (fun id => ?_) (fun id => ?_) rfl
  · simp only [NasAclSwitch.removeTable, NasAclSwitch.store_tables, Store.removeTable, erased]
    split <;> rfl
  · simp only [NasAclSwitch.removeTable, NasAclSwitch.store_containers, Store.removeTable, erased]
    split <;> rfl

theorem modifyContainerAt_ok {t : NasObjId} {f : AclTableContainer → AclTableContainer}
    {g : Container → Container} (matched : ∀ c, (f c).abs = g c.abs)
    (saved : sw.modifyContainerAt t f = .ok sw') :
    sw'.store = sw.store.onContainer t g ∧ (sw.store.containers t).isSome := by
  unfold NasAclSwitch.modifyContainerAt at saved
  rw [noexceptFn_ok] at saved
  cases held : sw.tableContainers.lookup t with
  | none =>
      rw [held] at saved
      cases saved
  | some container =>
      simp only [held] at saved
      cases saved
      refine ⟨NasAclSwitch.store_modifyContainer fun c _ => matched c, ?_⟩
      rw [NasAclSwitch.store_containers, held]
      rfl

theorem saveCounter_ok {x : NasAclCounter} (saved : sw.saveCounter x = .ok sw') :
    sw'.store = sw.store.onContainer x.tableId (Container.putCounter x.stored) ∧
      (sw.store.containers x.tableId).isSome :=
  modifyContainerAt_ok (fun c => abs_putCounter c x) saved

theorem removeCounter_ok {t id : NasObjId} (removed : sw.removeCounterFromTable t id = .ok sw') :
    sw'.store = sw.store.onContainer t
      (Container.freeCounterId id ∘ Container.eraseCounter id) :=
  (modifyContainerAt_ok (fun c => abs_eraseCounter c id) removed).1

/-! ## New NDI ids -/

theorem store_setTableIds (t : NasObjId) (ids : NdiObjIdTable) :
    (sw.setTableIds t ids).store = sw.store := by
  refine Store.ext (fun id => ?_) (fun _ => rfl) rfl
  simp only [NasAclSwitch.setTableIds, NasAclSwitch.store_tables, lookup_modifyAt]
  by_cases here : id = t
  · rw [if_pos here, Option.map_map]
    rfl
  · rw [if_neg here]

theorem store_setEntryIds (sw : NasAclSwitch) (t id : NasObjId) (ids : NdiObjIdTable) :
    (sw.setEntryIds t id ids).store = sw.store := by
  unfold NasAclSwitch.setEntryIds
  rw [NasAclSwitch.store_modifyContainer (g := fun c => c) fun c _ => abs_entryIds c id ids]
  exact Store.onContainer_id fun _ _ => rfl

/-- New NDI ids of a counter, on the NPUs it was on. -/
theorem store_setCounterIds {t id : NasObjId} {x : NasAclCounter} {ids : NdiObjIdTable}
    (held : sw.findCounter t id = some x) (same : ids.keys = x.ndiObjIds.keys) :
    (sw.setCounterIds t id ids).store = sw.store := by
  unfold NasAclSwitch.findCounter at held
  unfold NasAclSwitch.setCounterIds NasAclSwitch.modifyCounter
  rw [NasAclSwitch.store_modifyContainer (g := fun c => c)]
  · exact Store.onContainer_id fun _ _ => rfl
  · intro c found
    rw [found, Option.bind_some] at held
    refine abs_counterIds c id ids fun y there => ?_
    rw [held] at there
    cases there
    exact same

/-- Whatever NDI ids a counter is left with, it is gone once it is erased. -/
theorem store_setCounterIds_erase (t id : NasObjId) (ids : NdiObjIdTable) :
    (sw.setCounterIds t id ids).store.onContainer t (Container.eraseCounter id)
      = sw.store.onContainer t (Container.eraseCounter id) := by
  refine Store.ext (fun _ => rfl) (fun t' => ?_) rfl
  simp only [Store.containers_onContainer, NasAclSwitch.store_containers,
    NasAclSwitch.setCounterIds, NasAclSwitch.modifyCounter, NasAclSwitch.modifyContainer,
    lookup_modifyAt]
  by_cases here : t' = t
  · simp only [here, if_true, Option.map_map]
    refine congrFun (congrArg Option.map (funext fun c => ?_)) _
    refine Container.ext rfl (fun _ => rfl) rfl fun id' => ?_
    simp only [Function.comp, AclTableContainer.abs, Container.eraseCounter, lookup_modifyAt]
    by_cases same : id' = id
    · rw [if_pos same, if_pos same]
    · rw [if_neg same, if_neg same, if_neg same]
  · simp only [here, if_false]

end Tables

end SonicNasAcl
