/-
# Consistency -- every object under its own id, every id accounted for

`Store.Consistent` says that the two maps of tables agree, that every table, entry and
counter sits under its own id and in its own table, and that the ids a generator has
given out are exactly the keys of the map it serves.

Each operation of the store keeps it, in the form the handlers use it: an id is taken
and its object filed (`Consistent.create_table`, `create_entry`, `create_counter`), an
object is replaced (`Consistent.replaceEntry`), an object goes with its id
(`Consistent.removeTable`, `removeEntry`, `removeCounter`).
-/
import SonicNasAcl.IdGuard

namespace SonicNasAcl

set_option autoImplicit false

open Lib

/-! ## The invariant -/

/-- A generator of the ids up to `max`, all of which were given out in range. -/
structure IdGenerator.Within (g : IdGenerator) (max : Nat) : Prop where
  max_eq : g.max = max
  le_max : ∀ id ∈ g.allocated, id.toNat ≤ max

structure Container.Consistent (t : NasObjId) (c : Container) : Prop where
  entryKeyed : ∀ id e, c.entries id = some e → e.tableId = t ∧ e.entryId = id
  counterKeyed : ∀ id x, c.counters id = some x →
    x.counter.tableId = t ∧ x.counter.counterId = id
  entryIds : ∀ id, id ∈ c.entryIds.allocated ↔ (c.entries id).isSome
  counterIds : ∀ id, id ∈ c.counterIds.allocated ↔ (c.counters id).isSome
  entryIdsWithin : c.entryIds.Within nasAclEntryIdMax
  counterIdsWithin : c.counterIds.Within nasAclEntryIdMax

structure Store.Consistent (s : Store) : Prop where
  sameKeys : ∀ t, (s.tables t).isSome ↔ (s.containers t).isSome
  tableKeyed : ∀ t table, s.tables t = some table → table.tableId = t
  tableIds : ∀ t, t ∈ s.tableIds.allocated ↔ (s.tables t).isSome
  tableIdsWithin : s.tableIds.Within nasAclTableIdMax
  containers : ∀ t c, s.containers t = some c → c.Consistent t

/-! ## Ids -/

namespace IdGenerator

variable {g : IdGenerator} {max : Nat} {id : NasObjId}

theorem Within.takeId (h : g.Within max) (small : id.toNat ≤ max) : (g.takeId id).Within max where
  max_eq := h.max_eq
  le_max id' taken := by
    rcases Finset.mem_insert.mp taken with rfl | before
    · exact small
    · exact h.le_max id' before

theorem Within.releaseId (h : g.Within max) : (g.releaseId id).Within max where
  max_eq := h.max_eq
  le_max id' taken := h.le_max id' (Finset.mem_of_mem_erase taken)

theorem mem_takeId (id' : NasObjId) : id' ∈ (g.takeId id).allocated ↔ id' = id ∨ id' ∈ g.allocated :=
  Finset.mem_insert

theorem mem_releaseId (id' : NasObjId) :
    id' ∈ (g.releaseId id).allocated ↔ id' ≠ id ∧ id' ∈ g.allocated := Finset.mem_erase

/-- The ids given out and the keys of a map, after an object is filed. -/
theorem keys_takeId {α : Type} {m : NasObjId → Option α} {x : α}
    (same : ∀ id, id ∈ g.allocated ↔ (m id).isSome) (id' : NasObjId) :
    id' ∈ (g.takeId id).allocated ↔ (if id' = id then some x else m id').isSome := by
  rw [mem_takeId]
  by_cases here : id' = id
  · simp only [here, true_or, if_true, Option.isSome_some]
  · simp only [here, false_or, if_false, same]

/-- The ids given out and the keys of a map, after an object is gone. -/
theorem keys_releaseId {α : Type} {m : NasObjId → Option α}
    (same : ∀ id, id ∈ g.allocated ↔ (m id).isSome) (id' : NasObjId) :
    id' ∈ (g.releaseId id).allocated ↔ (if id' = id then none else m id').isSome := by
  rw [mem_releaseId]
  by_cases here : id' = id
  · simp only [here, ne_eq, not_true_eq_false, false_and, if_true, Option.isSome_none,
      Bool.false_eq_true]
  · simp only [ne_eq, here, not_false_eq_true, true_and, if_false, same]

end IdGenerator

/-! ## Containers -/

namespace Container

theorem consistent_new (t : NasObjId) : Container.new.Consistent t where
  entryKeyed _ _ held := by cases held
  counterKeyed _ _ held := by cases held
  entryIds _ := by simp only [new, Finset.notMem_empty, Option.isSome_none, Bool.false_eq_true]
  counterIds _ := by simp only [new, Finset.notMem_empty, Option.isSome_none, Bool.false_eq_true]
  entryIdsWithin := ⟨rfl, fun _ taken => absurd taken (Finset.notMem_empty _)⟩
  counterIdsWithin := ⟨rfl, fun _ taken => absurd taken (Finset.notMem_empty _)⟩

namespace Consistent

variable {t id : NasObjId} {c : Container} {e : NasAclEntry} {x : StoredCounter}

/-- Filing an entry under its own id keeps everything under its own id. -/
theorem entryKeyed_put (h : c.Consistent t) (mine : e.tableId = t) (id' : NasObjId)
    (e' : NasAclEntry) (held : (c.putEntry e).entries id' = some e') :
    e'.tableId = t ∧ e'.entryId = id' := by
  simp only [putEntry] at held
  split at held
  · rename_i here
    cases held
    exact ⟨mine, here.symm⟩
  · exact h.entryKeyed id' e' held

theorem create_entry (h : c.Consistent t) (mine : e.tableId = t)
    (small : e.entryId.toNat ≤ nasAclEntryIdMax) :
    ((c.takeEntryId e.entryId).putEntry e).Consistent t where
  entryKeyed id' e' held := h.entryKeyed_put mine id' e' held
  counterKeyed := h.counterKeyed
  entryIds id' := IdGenerator.keys_takeId h.entryIds id'
  counterIds := h.counterIds
  entryIdsWithin := h.entryIdsWithin.takeId small
  counterIdsWithin := h.counterIdsWithin

theorem putEntry (h : c.Consistent t) (mine : e.tableId = t)
    (stored : (c.entries e.entryId).isSome) : (c.putEntry e).Consistent t where
  entryKeyed id' e' held := h.entryKeyed_put mine id' e' held
  counterKeyed := h.counterKeyed
  entryIds id' := by
    rw [Container.putEntry, h.entryIds]
    by_cases here : id' = e.entryId
    · simp only [here, stored, if_true, Option.isSome_some]
    · simp only [here, if_false]
  counterIds := h.counterIds
  entryIdsWithin := h.entryIdsWithin
  counterIdsWithin := h.counterIdsWithin

theorem removeEntry (h : c.Consistent t) :
    ((c.eraseEntry id).freeEntryId id).Consistent t where
  entryKeyed id' e' held := by
    simp only [eraseEntry, freeEntryId] at held
    split at held
    · cases held
    · exact h.entryKeyed id' e' held
  counterKeyed := h.counterKeyed
  entryIds id' := IdGenerator.keys_releaseId h.entryIds id'
  counterIds := h.counterIds
  entryIdsWithin := h.entryIdsWithin.releaseId
  counterIdsWithin := h.counterIdsWithin

theorem create_counter (h : c.Consistent t) (mine : x.counter.tableId = t)
    (small : x.counter.counterId.toNat ≤ nasAclEntryIdMax) :
    ((c.takeCounterId x.counter.counterId).putCounter x).Consistent t where
  entryKeyed := h.entryKeyed
  counterKeyed id' x' held := by
    simp only [putCounter] at held
    split at held
    · rename_i here
      cases held
      exact ⟨mine, here.symm⟩
    · exact h.counterKeyed id' x' held
  entryIds := h.entryIds
  counterIds id' := IdGenerator.keys_takeId h.counterIds id'
  entryIdsWithin := h.entryIdsWithin
  counterIdsWithin := h.counterIdsWithin.takeId small

theorem removeCounter (h : c.Consistent t) :
    ((c.eraseCounter id).freeCounterId id).Consistent t where
  entryKeyed := h.entryKeyed
  counterKeyed id' x' held := by
    simp only [eraseCounter, freeCounterId] at held
    split at held
    · cases held
    · exact h.counterKeyed id' x' held
  entryIds := h.entryIds
  counterIds id' := IdGenerator.keys_releaseId h.counterIds id'
  entryIdsWithin := h.entryIdsWithin
  counterIdsWithin := h.counterIdsWithin.releaseId

/-- A change of references moves no counter. -/
theorem modifyRefs {f : NasAclCounter → NasAclCounter} (h : c.Consistent t)
    (refsOnly : ∀ x, (f x).tableId = x.tableId ∧ (f x).counterId = x.counterId) :
    (c.modifyRefs id f).Consistent t where
  entryKeyed := h.entryKeyed
  counterKeyed id' x' held := by
    simp only [Container.modifyRefs] at held
    split at held
    · rename_i here
      subst here
      obtain ⟨x, found, rfl⟩ := Option.map_eq_some_iff.mp held
      obtain ⟨table, own⟩ := h.counterKeyed id' x found
      exact ⟨(refsOnly x.counter).1.trans table, (refsOnly x.counter).2.trans own⟩
    · exact h.counterKeyed id' x' held
  entryIds := h.entryIds
  counterIds id' := by
    simp only [Container.modifyRefs, h.counterIds]
    by_cases here : id' = id
    · simp only [here, if_true, Option.isSome_map]
    · simp only [here, if_false]
  entryIdsWithin := h.entryIdsWithin
  counterIdsWithin := h.counterIdsWithin

end Consistent

end Container

/-! ## Stores -/

namespace Store

theorem consistent_empty : Store.empty.Consistent where
  sameKeys _ := Iff.rfl
  tableKeyed _ _ held := by cases held
  tableIds _ := by simp only [empty, Finset.notMem_empty, Option.isSome_none, Bool.false_eq_true]
  tableIdsWithin := ⟨rfl, fun _ taken => absurd taken (Finset.notMem_empty _)⟩
  containers _ _ held := by cases held

namespace Consistent

variable {s : Store} {t id : NasObjId}

/-- It is enough to look at the one container that changes. -/
theorem onContainer {f : Container → Container} (h : s.Consistent)
    (kept : ∀ c, s.containers t = some c → c.Consistent t → (f c).Consistent t) :
    (s.onContainer t f).Consistent where
  sameKeys t' := by
    rw [containers_onContainer, tables_onContainer, h.sameKeys]
    by_cases here : t' = t
    · simp only [here, if_true, Option.isSome_map]
    · simp only [here, if_false]
  tableKeyed := h.tableKeyed
  tableIds := h.tableIds
  tableIdsWithin := h.tableIdsWithin
  containers t' c' held := by
    rw [containers_onContainer] at held
    by_cases here : t' = t
    · subst here
      rw [if_pos rfl] at held
      obtain ⟨c, found, rfl⟩ := Option.map_eq_some_iff.mp held
      exact kept c found (h.containers _ _ found)
    · rw [if_neg here] at held
      exact h.containers _ _ held

theorem create_table {table : NasAclTable} (h : s.Consistent)
    (small : table.tableId.toNat ≤ nasAclTableIdMax) :
    ((s.takeId .table 0 table.tableId).putTable table).Consistent where
  sameKeys t := by
    simp only [takeId, putTable]
    by_cases here : t = table.tableId
    · simp only [here, if_true, Option.isSome_some]
    · simp only [here, if_false, h.sameKeys]
  tableKeyed t table' held := by
    simp only [takeId, putTable] at held
    split at held
    · rename_i here
      cases held
      exact here.symm
    · exact h.tableKeyed t table' held
  tableIds t := IdGenerator.keys_takeId h.tableIds t
  tableIdsWithin := h.tableIdsWithin.takeId small
  containers t c held := by
    simp only [takeId, putTable] at held
    split at held
    · cases container : s.containers t with
      | none =>
          rw [container] at held
          cases held
          exact Container.consistent_new t
      | some c' =>
          rw [container] at held
          cases held
          exact h.containers t _ container
    · exact h.containers t c held

theorem removeTable (h : s.Consistent) : (s.removeTable id).Consistent where
  sameKeys t := by
    simp only [Store.removeTable]
    by_cases here : t = id
    · simp only [here, if_true, Option.isSome_none]
    · simp only [here, if_false, h.sameKeys]
  tableKeyed t table held := by
    simp only [Store.removeTable] at held
    split at held
    · cases held
    · exact h.tableKeyed t table held
  tableIds t := IdGenerator.keys_releaseId h.tableIds t
  tableIdsWithin := h.tableIdsWithin.releaseId
  containers t c held := by
    simp only [Store.removeTable] at held
    split at held
    · cases held
    · exact h.containers t c held

theorem addRef {e : NasAclEntry} (h : s.Consistent) : (s.addRef e).Consistent := by
  unfold Store.addRef
  split
  · exact h.onContainer fun _ _ ok => ok.modifyRefs fun _ => ⟨rfl, rfl⟩
  · exact h

theorem delRef {e : NasAclEntry} (h : s.Consistent) : (s.delRef e).Consistent := by
  unfold Store.delRef
  split
  · exact h.onContainer fun _ _ ok => ok.modifyRefs fun _ => ⟨rfl, rfl⟩
  · exact h

theorem create_entry {e : NasAclEntry} (h : s.Consistent)
    (small : e.entryId.toNat ≤ nasAclEntryIdMax) :
    ((s.takeId .entry e.tableId e.entryId).putEntry e).Consistent := by
  simp only [takeId, putEntry, onContainer_onContainer]
  exact h.onContainer fun _ _ ok => ok.create_entry rfl small

theorem putEntry {e : NasAclEntry} (h : s.Consistent)
    (stored : (s.entry e.tableId e.entryId).isSome) : (s.putEntry e).Consistent := by
  refine h.onContainer fun c held ok => ok.putEntry rfl ?_
  rw [entry, held] at stored
  exact stored

theorem replaceEntry {old e : NasAclEntry} (h : s.Consistent)
    (stored : (s.entry e.tableId e.entryId).isSome) : (s.replaceEntry old e).Consistent := by
  unfold Store.replaceEntry
  split
  · refine h.delRef.addRef.putEntry ?_
    rw [entry_addRef, entry_delRef]
    exact stored
  · exact h.putEntry stored

theorem removeEntry {e : NasAclEntry} (h : s.Consistent) :
    (s.removeEntry e t id).Consistent := by
  unfold Store.removeEntry
  exact h.delRef.onContainer fun _ _ ok => ok.removeEntry

theorem create_counter {x : StoredCounter} (h : s.Consistent)
    (small : x.counter.counterId.toNat ≤ nasAclEntryIdMax) :
    ((s.takeId .counter x.counter.tableId x.counter.counterId).onContainer x.counter.tableId
      (Container.putCounter x)).Consistent := by
  simp only [takeId, onContainer_onContainer]
  exact h.onContainer fun _ _ ok => ok.create_counter rfl small

theorem removeCounter (h : s.Consistent) :
    (s.onContainer t (Container.freeCounterId id ∘ Container.eraseCounter id)).Consistent :=
  h.onContainer fun _ _ ok => ok.removeCounter

end Consistent

end Store

end SonicNasAcl
