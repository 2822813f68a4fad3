/-
# Configuration -- what a switch was told, and nothing else

The configuration of a switch is its store without the marks of attributes and without the
NPUs the NDI has put a counter on: which objects there are, what a client has configured of
each, which ids are taken and which entries a counter is used by.  Two switches with one
configuration are the same switch to a client.

An object that is created and deleted again, or deleted and created again, is followed here
on the store alone:

* `removeTable_putTable`, `eraseCounter_putCounter`: a create that is taken back leaves the
  store exactly as it was;
* `eraseEntry_putEntry_iff`: of an entry, when its counter did not list it before;
* `config_putTable_removeTable`, `config_putCounter_eraseCounter`, `config_putEntry_eraseEntry_iff`:
  a delete that is taken back by a create leaves the configuration, if what is created is
  configured as what was deleted.
-/
import SonicNasAcl.RollbackEdit
import SonicNasAcl.CounterRefs

namespace SonicNasAcl

set_option autoImplicit false

open Lib

/-! ## The configuration of an object -/

/-- The base object without the marks of its attributes. -/
def BaseObj.config (b : BaseObj) : BaseObj :=
  { b with npusDirty := false, dirtyAttrs := ∅, setAttrs := ∅ }

def NasAclTable.config (t : NasAclTable) : NasAclTable :=
  { t with base := t.base.config, ndiObjIds := ∅ }

def NasAclCounter.config (x : NasAclCounter) : NasAclCounter :=
  { x with base := x.base.config, ndiObjIds := ∅ }

def NasAclEntry.config (e : NasAclEntry) : NasAclEntry :=
  { e with base := e.base.config, ndiEntryIds := ∅ }

/-- The NPUs a counter is on are the NDI's. -/
def StoredCounter.config (x : StoredCounter) : StoredCounter := ⟨x.counter.config, ∅⟩

def Container.config (c : Container) : Container where
  entryIds := c.entryIds
  entries id := (c.entries id).map NasAclEntry.config
  counterIds := c.counterIds
  counters id := (c.counters id).map StoredCounter.config

def Store.config (s : Store) : Store where
  tables id := (s.tables id).map NasAclTable.config
  containers id := (s.containers id).map Container.config
  tableIds := s.tableIds

/-- Two switches that were told the same. -/
def SameConfig (sw sw' : NasAclSwitch) : Prop := sw'.store.config = sw.store.config

theorem SameConfig.symm {sw sw' : NasAclSwitch} (same : SameConfig sw sw') : SameConfig sw' sw :=
  Eq.symm same

theorem SameConfig.trans {sw sw' sw'' : NasAclSwitch} (first : SameConfig sw sw')
    (second : SameConfig sw' sw'') : SameConfig sw sw'' := Eq.trans second first

/-- Only one container changes. -/
theorem Store.config_onContainer_iff {s : Store} {t : NasObjId} {f : Container → Container}
    {c : Container} (held : s.containers t = some c) :
    (s.onContainer t f).config = s.config ↔ (f c).config = c.config := by
  constructor
  · intro same
    have here := congrFun (congrArg Store.containers same) t
    simp only [config, containers_onContainer, if_true, held, Option.map_some, Option.some.injEq]
      at here
    exact here
  · intro same
    refine Store.ext (fun _ => rfl) (fun t' => ?_) rfl
    simp only [config, containers_onContainer]
    by_cases here : t' = t
    · rw [here, if_pos rfl, held]
      exact congrArg some same
    · rw [if_neg here]

theorem Store.onContainer_eq_iff {s : Store} {t : NasObjId} {f : Container → Container}
    {c : Container} (held : s.containers t = some c) : s.onContainer t f = s ↔ f c = c := by
  constructor
  · intro same
    have here := congrFun (congrArg Store.containers same) t
    simp only [containers_onContainer, if_true, held, Option.map_some, Option.some.injEq] at here
    exact here
  · intro same
    refine onContainer_id fun c' there => ?_
    cases held.symm.trans there
    exact same

/-! ## Tables -/

section Tables

variable {s : Store} {t t' : NasAclTable} {c : Container}

/-- A new table is removed without a trace. -/
theorem removeTable_putTable (consistent : s.Consistent) (absent : s.tables t.tableId = none) :
    ((s.takeId .table 0 t.tableId).putTable t).removeTable t.tableId = s := by
  have free : t.tableId ∉ s.tableIds.allocated := by
    rw [consistent.tableIds, absent]
    exact Bool.false_ne_true
  have none_yet : s.containers t.tableId = none := by
    rw [← Option.not_isSome_iff_eq_none, ← consistent.sameKeys, absent]
    exact Bool.false_ne_true
  refine Store.ext (fun id => ?_) (fun id => ?_) (IdGenerator.releaseId_takeId free)
  · simp only [Store.removeTable, Store.putTable, Store.takeId]
    by_cases here : id = t.tableId
    · rw [if_pos here, here, absent]
    · rw [if_neg here, if_neg here]
  · simp only [Store.removeTable, Store.putTable, Store.takeId]
    by_cases here : id = t.tableId
    · rw [if_pos here, here, none_yet]
    · rw [if_neg here, if_neg here]

/-- The container of a table with nothing in it. -/
theorem container_of_empty {id : NasObjId} (consistent : c.Consistent id)
    (noEntries : ∀ e, c.entries e = none) (noCounters : ∀ x, c.counters x = none) :
    c = Container.new := by
  have none_taken {g : IdGenerator} (within : g.Within nasAclEntryIdMax)
      (free : ∀ id, id ∉ g.allocated) : g = ⟨nasAclEntryIdMax, ∅⟩ := by
    obtain ⟨max, allocated⟩ := g
    rw [IdGenerator.mk.injEq]
    exact ⟨within.max_eq, Finset.eq_empty_iff_forall_notMem.mpr free⟩
  refine Container.ext (none_taken consistent.entryIdsWithin fun id taken => ?_) noEntries
    (none_taken consistent.counterIdsWithin fun id taken => ?_) noCounters
  · rw [consistent.entryIds, noEntries] at taken
    cases taken
  · rw [consistent.counterIds, noCounters] at taken
    cases taken

/-- An empty table is put back. -/
theorem config_putTable_removeTable (consistent : s.Consistent)
    (stored : s.tables t.tableId = some t) (held : s.containers t.tableId = some c)
    (noEntries : ∀ e, c.entries e = none) (noCounters : ∀ x, c.counters x = none)
    (same : t'.config = t.config) :
    (((s.removeTable t.tableId).takeId .table 0 t'.tableId).putTable t').config = s.config := by
  have own : t'.config.tableId = t.config.tableId := congrArg NasAclTable.tableId same
  have own : t'.tableId = t.tableId := own
  have taken : t.tableId ∈ s.tableIds.allocated := by
    rw [consistent.tableIds, stored]
    rfl
  have empty := container_of_empty (consistent.containers _ c held) noEntries noCounters
  rw [own]
  refine Store.ext (fun id => ?_) (fun id => ?_) (IdGenerator.takeId_releaseId taken)
  · simp only [Store.config, Store.putTable, Store.takeId, Store.removeTable, own]
    by_cases here : id = t.tableId
    · rw [if_pos here, here, stored]
      exact congrArg some same
    · rw [if_neg here, if_neg here]
  · simp only [Store.config, Store.putTable, Store.takeId, Store.removeTable, own]
    by_cases here : id = t.tableId
    · rw [if_pos here, if_pos here, here, held, empty]
      rfl
    · rw [if_neg here, if_neg here]

end Tables

/-! ## Counters -/

section Counters

variable {s : Store} {t id : NasObjId} {x y : StoredCounter} {c : Container}

/-- A new counter is erased without a trace. -/
theorem eraseCounter_putCounter (consistent : s.Consistent)
    (absent : s.counter t x.counter.counterId = none) :
    ((s.takeId .counter t x.counter.counterId).onContainer t (Container.putCounter x)).onContainer t
      (Container.freeCounterId x.counter.counterId ∘ Container.eraseCounter x.counter.counterId)
        = s := by
  simp only [Store.takeId, Store.onContainer_onContainer]
  refine Store.onContainer_id fun c held => ?_
  have gone : c.counters x.counter.counterId = none := by
    rw [Store.counter, held] at absent
    exact absent
  have free : x.counter.counterId ∉ c.counterIds.allocated := by
    rw [(consistent.containers t c held).counterIds, gone]
    exact Bool.false_ne_true
  refine Container.ext rfl (fun _ => rfl) (IdGenerator.releaseId_takeId free) fun id => ?_
  simp only [Function.comp_apply, Container.freeCounterId, Container.eraseCounter, Container.putCounter,
    Container.takeCounterId]
  by_cases here : id = x.counter.counterId
  · rw [if_pos here, here, gone]
  · rw [if_neg here, if_neg here]

/-- An erased counter is put back. -/
theorem config_putCounter_eraseCounter (consistent : s.Consistent)
    (stored : s.counter t x.counter.counterId = some x) (same : y.config = x.config) :
    (((s.onContainer t (Container.freeCounterId x.counter.counterId ∘
      Container.eraseCounter x.counter.counterId)).takeId .counter t
        y.counter.counterId).onContainer t (Container.putCounter y)).config = s.config := by
  have own : y.counter.counterId = x.counter.counterId :=
    congrArg (fun x => x.counter.counterId) same
  obtain ⟨c, held, inside⟩ := Option.bind_eq_some_iff.mp stored
  have taken : x.counter.counterId ∈ c.counterIds.allocated := by
    rw [(consistent.containers t c held).counterIds, inside]
    rfl
  simp only [Store.takeId, Store.onContainer_onContainer, own]
  refine (Store.config_onContainer_iff held).mpr ?_
  refine Container.ext rfl (fun _ => rfl) (IdGenerator.takeId_releaseId taken) fun id => ?_
  simp only [Function.comp_apply, Container.config, Container.putCounter, Container.takeCounterId,
    Container.freeCounterId, Container.eraseCounter, own]
  by_cases here : id = x.counter.counterId
  · rw [if_pos here, here, inside]
    exact congrArg some same
  · rw [if_neg here, if_neg here]

end Counters

/-! ## Entries -/

/-- The references are part of the configuration. -/
theorem Store.refs_of_config {s s' : Store} (same : s'.config = s.config) : s'.refs = s.refs := by
  funext t id
  have here := congrFun (congrArg Store.containers same) t
  simp only [config] at here
  unfold refs counter
  generalize s'.containers t = x', s.containers t = x at here
  cases x' with
  | none =>
      cases x with
      | none => rfl
      | some c => cases here
  | some c' =>
      cases x with
      | none => cases here
      | some c =>
          have counters := congrFun (congrArg Container.counters (Option.some.inj here)) id
          have listed := congrArg (Option.map fun x : StoredCounter => x.counter.refs) counters
          simp only [Container.config, Option.map_map] at listed
          exact listed

namespace NasAclEntry

/-- The counter of the entry lists it. -/
def ListedIn (s : Store) (e : NasAclEntry) : Prop :=
  e.isCounterEnabled → ∀ x, s.counter e.tableId e.counterId = some x → e.entryId ∈ x.counter.refs

/-- The counter of the entry does not list it. -/
def UnlistedIn (s : Store) (e : NasAclEntry) : Prop :=
  e.isCounterEnabled → ∀ x, s.counter e.tableId e.counterId = some x → e.entryId ∉ x.counter.refs

end NasAclEntry

section Entries

variable {s : Store} {t id : NasObjId} {e e' : NasAclEntry} {c : Container}

theorem addRefOf_counters (id : NasObjId) :
    (c.addRefOf e).counters id = if e.isCounterEnabled ∧ id = e.counterId then
      (c.counters id).map fun x => { x with counter := x.counter.addRef e.entryId }
      else c.counters id := by
  unfold Container.addRefOf
  cases e.isCounterEnabled with
  | true => simp only [if_true, Container.modifyRefs_counters, true_and]
  | false => simp only [Bool.false_eq_true, if_false, false_and]

theorem delRefOf_counters (id : NasObjId) :
    (c.delRefOf e).counters id = if e.isCounterEnabled ∧ id = e.counterId then
      (c.counters id).map fun x => { x with counter := x.counter.delRef e.entryId }
      else c.counters id := by
  unfold Container.delRefOf
  cases e.isCounterEnabled with
  | true => simp only [if_true, Container.modifyRefs_counters, true_and]
  | false => simp only [Bool.false_eq_true, if_false, false_and]

theorem addRefOf_others : (c.addRefOf e).entries = c.entries ∧ (c.addRefOf e).entryIds = c.entryIds ∧
    (c.addRefOf e).counterIds = c.counterIds := by
  unfold Container.addRefOf
  split <;> exact ⟨rfl, rfl, rfl⟩

theorem delRefOf_others : (c.delRefOf e).entries = c.entries ∧ (c.delRefOf e).entryIds = c.entryIds ∧
    (c.delRefOf e).counterIds = c.counterIds := by
  unfold Container.delRefOf
  split <;> exact ⟨rfl, rfl, rfl⟩

/-- A reference that is added and deleted again is gone: nothing has changed if it was not there
before. -/
theorem delRefOf_addRefOf (id : NasObjId)
    (unlisted : e.isCounterEnabled → ∀ x, c.counters e.counterId = some x →
      e.entryId ∉ x.counter.refs) : ((c.addRefOf e).delRefOf e).counters id = c.counters id := by
  simp only [delRefOf_counters, addRefOf_counters]
  by_cases here : e.isCounterEnabled ∧ id = e.counterId
  · obtain ⟨enabled, rfl⟩ := here
    simp only [enabled, true_and, if_true]
    cases held : c.counters e.counterId with
    | none => rfl
    | some x =>
        have erased : (insert e.entryId x.counter.refs).erase e.entryId = x.counter.refs :=
          Finset.erase_insert (unlisted enabled x held)
        simp only [Option.map_some, NasAclCounter.delRef, NasAclCounter.addRef, erased]
  · simp only [if_neg here]

/-- A reference that is deleted and added again was there before if nothing has changed. -/
theorem addRefOf_delRefOf_iff :
    (∀ id, (((c.delRefOf e).addRefOf e).counters id).map StoredCounter.config
      = (c.counters id).map StoredCounter.config) ↔
      (e.isCounterEnabled → ∀ x, c.counters e.counterId = some x → e.entryId ∈ x.counter.refs) := by
  simp only [delRefOf_counters, addRefOf_counters]
  constructor
  · intro same enabled x held
    have here := same e.counterId
    simp only [enabled, true_and, if_true, held, Option.map_some, Option.some.injEq] at here
    have refs := congrArg (fun x : StoredCounter => x.counter.refs) here
    have inserted : insert e.entryId (x.counter.refs.erase e.entryId) = x.counter.refs := refs
    rw [← inserted]
    exact Finset.mem_insert_self _ _
  · intro listed id
    by_cases here : e.isCounterEnabled ∧ id = e.counterId
    · obtain ⟨enabled, rfl⟩ := here
      simp only [enabled, true_and, if_true]
      cases held : c.counters e.counterId with
      | none => rfl
      | some x =>
          have inserted : insert e.entryId (x.counter.refs.erase e.entryId) = x.counter.refs :=
            Finset.insert_erase (listed enabled x held)
          simp only [Option.map_some, NasAclCounter.delRef, NasAclCounter.addRef, inserted]
    · simp only [if_neg here]

/-- What is referred to is told by the actions of the entry. -/
theorem addRefOf_congr (own : e'.entryId = e.entryId) (actions : e'.alist = e.alist) :
    c.addRefOf e' = c.addRefOf e := by
  unfold Container.addRefOf NasAclEntry.isCounterEnabled NasAclEntry.counterId
  rw [own, actions]

theorem listedIn_iff (held : s.containers e.tableId = some c) :
    e.ListedIn s ↔
      (e.isCounterEnabled → ∀ x, c.counters e.counterId = some x → e.entryId ∈ x.counter.refs) := by
  unfold NasAclEntry.ListedIn Store.counter
  rw [held]
  exact Iff.rfl

theorem unlistedIn_iff (held : s.containers e.tableId = some c) :
    e.UnlistedIn s ↔
      (e.isCounterEnabled → ∀ x, c.counters e.counterId = some x → e.entryId ∉ x.counter.refs) := by
  unfold NasAclEntry.UnlistedIn Store.counter
  rw [held]
  exact Iff.rfl

/-- A new entry is removed without a trace when its counter did not list it; when it did, the
counter has lost a reference, whatever else one looks at. -/
theorem eraseEntry_putEntry_iff {back : Store → Prop} (whole : back s)
    (refs : ∀ s', back s' → s'.refs = s.refs) (consistent : s.Consistent)
    (held : s.containers e.tableId = some c) (absent : s.entry e.tableId e.entryId = none) :
    back ((((s.takeId .entry e.tableId e.entryId).putEntry (e.committed ∅)).addRef e).removeEntry e
      e.tableId e.entryId) ↔ e.UnlistedIn s := by
  have gone : c.entries e.entryId = none := by
    rw [Store.entry, held] at absent
    exact absent
  have free : e.entryId ∉ c.entryIds.allocated := by
    rw [(consistent.containers _ c held).entryIds, gone]
    exact Bool.false_ne_true
  have here : (e.committed ∅).tableId = e.tableId := rfl
  let mid := Container.putEntry (e.committed ∅) (c.takeEntryId e.entryId)
  have counters : mid.counters = c.counters := rfl
  let last := (((mid.addRefOf e).delRefOf e).eraseEntry e.entryId).freeEntryId e.entryId
  have ended : (((s.takeId .entry e.tableId e.entryId).putEntry (e.committed ∅)).addRef e).removeEntry e
      e.tableId e.entryId = s.onContainer e.tableId fun c => ((((Container.putEntry (e.committed ∅)
        (c.takeEntryId e.entryId)).addRefOf e).delRefOf e).eraseEntry e.entryId).freeEntryId
          e.entryId := by
    simp only [Store.removeEntry, Store.delRef_eq, Store.addRef_eq, Store.putEntry, Store.takeId, here,
      Store.onContainer_onContainer]
    rfl
  rw [ended, unlistedIn_iff held, ← counters]
  constructor
  · intro same enabled x found
    have counted := congrFun (congrFun (refs _ same) e.tableId) e.counterId
    have counted : (last.counters e.counterId).map (fun x => x.counter.refs)
        = (c.counters e.counterId).map fun x => x.counter.refs := by
      simp only [Store.refs, Store.counter, Store.containers_onContainer, if_true, held, Option.map_some,
        Option.bind_some] at counted
      exact counted
    have here : last.counters e.counterId = ((mid.addRefOf e).delRefOf e).counters e.counterId := rfl
    rw [counters] at found
    simp only [here, delRefOf_counters, addRefOf_counters, enabled, true_and, if_true, counters, found,
      Option.map_some, Option.some.injEq] at counted
    have erased : (insert e.entryId x.counter.refs).erase e.entryId = x.counter.refs := counted
    rw [← erased]
    exact Finset.notMem_erase _ _
  · intro unlisted
    rw [(Store.onContainer_eq_iff held).mpr]
    · exact whole
    refine Container.ext ?_ (fun id => ?_) ?_ fun id => delRefOf_addRefOf id unlisted
    · change ((mid.addRefOf e).delRefOf e).entryIds.releaseId e.entryId = _
      rw [delRefOf_others.2.1, addRefOf_others.2.1]
      exact IdGenerator.releaseId_takeId free
    · change (if id = e.entryId then none else ((mid.addRefOf e).delRefOf e).entries id) = _
      rw [delRefOf_others.1, addRefOf_others.1]
      by_cases mine : id = e.entryId
      · rw [if_pos mine, mine, gone]
      · rw [if_neg mine]
        exact if_neg mine
    · change ((mid.addRefOf e).delRefOf e).counterIds = _
      rw [delRefOf_others.2.2, addRefOf_others.2.2]
      rfl

/-- A removed entry is put back as it was when its counter lists it, and what is put is
configured as it was. -/
theorem config_putEntry_eraseEntry_iff (consistent : s.Consistent)
    (held : s.containers e.tableId = some c) (stored : s.entry e.tableId e.entryId = some e)
    (table : e'.tableId = e.tableId) (own : e'.entryId = e.entryId) :
    ((((s.removeEntry e e.tableId e.entryId).takeId .entry e'.tableId e'.entryId).putEntry
      (e'.committed ∅)).addRef e').config = s.config ↔
        (e'.committed ∅).config = e.config ∧ e.ListedIn s := by
  have inside : c.entries e.entryId = some e := by
    rw [Store.entry, held] at stored
    exact stored
  have taken : e.entryId ∈ c.entryIds.allocated := by
    rw [(consistent.containers _ c held).entryIds, inside]
    rfl
  have here : (e'.committed ∅).tableId = e.tableId := table
  have named : (e'.committed ∅).entryId = e.entryId := own
  let mid := Container.putEntry (e'.committed ∅)
    ((((c.delRefOf e).eraseEntry e.entryId).freeEntryId e.entryId).takeEntryId e.entryId)
  have entries (id : NasObjId) : mid.entries id
      = if id = e.entryId then some (e'.committed ∅) else c.entries id := by
    change (if id = (e'.committed ∅).entryId then some (e'.committed ∅)
      else if id = e.entryId then none else (c.delRefOf e).entries id) = _
    rw [named, delRefOf_others.1]
    by_cases mine : id = e.entryId
    · rw [if_pos mine, if_pos mine]
    · rw [if_neg mine, if_neg mine, if_neg mine]
  simp only [Store.removeEntry, Store.delRef_eq, Store.addRef_eq, Store.putEntry, Store.takeId, here,
    table, own, Store.onContainer_onContainer]
  rw [Store.config_onContainer_iff held, listedIn_iff held, ← addRefOf_delRefOf_iff]
  change (mid.addRefOf e').config = c.config ↔ _
  have counters (actions : e'.alist = e.alist) (id : NasObjId) :
      (mid.addRefOf e').counters id = ((c.delRefOf e).addRefOf e).counters id := by
    rw [addRefOf_congr own actions, addRefOf_counters, addRefOf_counters]
    rfl
  have filed : ((mid.addRefOf e').entries e.entryId) = some (e'.committed ∅) := by
    rw [addRefOf_others.1, entries, if_pos rfl]
  constructor
  · intro same
    have entry := congrFun (congrArg Container.entries same) e.entryId
    simp only [Container.config, filed, inside, Option.map_some, Option.some.injEq] at entry
    have actions : (e'.committed ∅).config.alist = e.config.alist := congrArg NasAclEntry.alist entry
    refine ⟨entry, fun id => ?_⟩
    rw [← counters actions]
    exact congrFun (congrArg Container.counters same) id
  · rintro ⟨same, refs⟩
    have actions : (e'.committed ∅).config.alist = e.config.alist := congrArg NasAclEntry.alist same
    refine Container.ext ?_ (fun id => ?_) ?_ fun id => ?_
    · change (mid.addRefOf e').entryIds = _
      rw [addRefOf_others.2.1]
      change ((c.delRefOf e).entryIds.releaseId e.entryId).takeId e.entryId = _
      rw [delRefOf_others.2.1]
      exact IdGenerator.takeId_releaseId taken
    · change ((mid.addRefOf e').entries id).map NasAclEntry.config = _
      rw [addRefOf_others.1, entries]
      by_cases mine : id = e.entryId
      · rw [if_pos mine, mine]
        change some (e'.committed ∅).config = (c.entries e.entryId).map NasAclEntry.config
        rw [inside, same]
        rfl
      · rw [if_neg mine]
        rfl
    · change (mid.addRefOf e').counterIds = _
      rw [addRefOf_others.2.2]
      exact delRefOf_others.2.2
    · change ((mid.addRefOf e').counters id).map StoredCounter.config = _
      rw [counters actions]
      exact refs id

end Entries

end SonicNasAcl
