/-
# AbstractStore -- the store with the NDI ids aside

What the ACL cache is for: which tables, entries and counters there are, which ids
are taken, and who refers to which counter.  `Store` is that as partial functions.
The NDI ids of an object are left out, except for the NPUs a counter is on, which
the checks of an entry look at.

`NasAclSwitch.store` is the abstraction function.  Every operation of the switch is
matched by one on stores: `store_modifyContainer` does it for all that act inside a
table's container, and an operation that only changes NDI ids is the identity
(`store_setEntryIds`, ...).
-/
import SonicNasAcl.Cps

namespace SonicNasAcl

set_option autoImplicit false

open Lib

/-! ## Ids -/

namespace IdGenerator

/-- Take an id, whether it is free or not. -/
def takeId (id : NasObjId) (g : IdGenerator) : IdGenerator :=
  { g with allocated := insert id g.allocated }

@[simp] theorem reserveId_snd (id : NasObjId) (g : IdGenerator) :
    (g.reserveId id).2 = g.takeId id := by
  unfold reserveId takeId
  by_cases taken : id ∈ g.allocated
  · rw [if_pos taken, Finset.insert_eq_of_mem taken]
  · rw [if_neg taken]

theorem reserveId_fst (id : NasObjId) (g : IdGenerator) :
    (g.reserveId id).1 = decide (id ∉ g.allocated) := by
  unfold reserveId
  by_cases taken : id ∈ g.allocated
  · rw [if_pos taken, decide_eq_false (not_not.mpr taken)]
  · rw [if_neg taken, decide_eq_true taken]

/-- An id that was free is given back exactly. -/
theorem releaseId_takeId {id : NasObjId} {g : IdGenerator} (free : id ∉ g.allocated) :
    (g.takeId id).releaseId id = g := by
  unfold takeId releaseId
  rw [Finset.erase_insert free]

/-- An id that was taken is taken back exactly. -/
theorem takeId_releaseId {id : NasObjId} {g : IdGenerator} (taken : id ∈ g.allocated) :
    (g.releaseId id).takeId id = g := by
  unfold takeId releaseId
  rw [Finset.insert_erase taken]

end IdGenerator

/-! ## Stores -/

/-- A counter, and the NPUs it is on. -/
structure StoredCounter where
  counter : NasAclCounter
  onNpus : NpuSet

/-- What is stored for one table. -/
structure Container where
  entryIds : IdGenerator
  entries : NasObjId → Option NasAclEntry
  counterIds : IdGenerator
  counters : NasObjId → Option StoredCounter

structure Store where
  tables : NasObjId → Option NasAclTable
  containers : NasObjId → Option Container
  tableIds : IdGenerator

@[ext] theorem Container.ext {c d : Container} (entryIds : c.entryIds = d.entryIds)
    (entries : ∀ id, c.entries id = d.entries id) (counterIds : c.counterIds = d.counterIds)
    (counters : ∀ id, c.counters id = d.counters id) : c = d := by
  cases c
  cases d
  simp only [Container.mk.injEq]
  exact ⟨entryIds, funext entries, counterIds, funext counters⟩

@[ext] theorem Store.ext {s t : Store} (tables : ∀ id, s.tables id = t.tables id)
    (containers : ∀ id, s.containers id = t.containers id) (tableIds : s.tableIds = t.tableIds) :
    s = t := by
  cases s
  cases t
  simp only [Store.mk.injEq]
  exact ⟨funext tables, funext containers, tableIds⟩

namespace Store

def empty : Store := ⟨fun _ => none, fun _ => none, ⟨nasAclTableIdMax, ∅⟩⟩

def entry (s : Store) (t e : NasObjId) : Option NasAclEntry :=
  (s.containers t).bind fun c => c.entries e

def counter (s : Store) (t c : NasObjId) : Option StoredCounter :=
  (s.containers t).bind fun container => container.counters c

/-- Act inside the container of a table. -/
def onContainer (t : NasObjId) (f : Container → Container) (s : Store) : Store :=
  { s with containers := fun t' => if t' = t then (s.containers t).map f else s.containers t' }

theorem containers_onContainer (t t' : NasObjId) (f : Container → Container) (s : Store) :
    (s.onContainer t f).containers t' = if t' = t then (s.containers t).map f
      else s.containers t' := rfl

@[simp] theorem tables_onContainer (t : NasObjId) (f : Container → Container) (s : Store) :
    (s.onContainer t f).tables = s.tables := rfl

theorem onContainer_onContainer (t : NasObjId) (f g : Container → Container) (s : Store) :
    (s.onContainer t f).onContainer t g = s.onContainer t (g ∘ f) := by
  refine Store.ext (fun _ => rfl) (fun t' => ?_) rfl
  simp only [containers_onContainer]
  by_cases here : t' = t
  · simp only [here, if_true, Option.map_map]
  · simp only [if_neg here]

theorem onContainer_id {t : NasObjId} {f : Container → Container} {s : Store}
    (same : ∀ c, s.containers t = some c → f c = c) : s.onContainer t f = s := by
  refine Store.ext (fun _ => rfl) (fun t' => ?_) rfl
  rw [containers_onContainer]
  by_cases here : t' = t
  · subst here
    rw [if_pos rfl]
    cases held : s.containers t' with
    | none => rfl
    | some c => rw [Option.map_some, same c held]
  · rw [if_neg here]

theorem entry_onContainer (t t' e : NasObjId) (f : Container → Container) (s : Store) :
    (s.onContainer t f).entry t' e =
      if t' = t then (s.containers t).bind fun c => (f c).entries e else s.entry t' e := by
  unfold entry
  rw [containers_onContainer]
  by_cases here : t' = t
  · simp only [if_pos here, Option.bind_map, Function.comp_def]
  · simp only [if_neg here]

theorem counter_onContainer (t t' c : NasObjId) (f : Container → Container) (s : Store) :
    (s.onContainer t f).counter t' c =
      if t' = t then (s.containers t).bind fun d => (f d).counters c else s.counter t' c := by
  unfold counter
  rw [containers_onContainer]
  by_cases here : t' = t
  · simp only [if_pos here, Option.bind_map, Function.comp_def]
  · simp only [if_neg here]

/-- An action on a container that leaves its entries alone. -/
theorem entry_onContainer_of_same {t : NasObjId} {f : Container → Container}
    (same : ∀ c, (f c).entries = c.entries) (t' e : NasObjId) (s : Store) :
    (s.onContainer t f).entry t' e = s.entry t' e := by
  rw [entry_onContainer]
  by_cases here : t' = t
  · simp only [here, if_true, same, entry]
  · rw [if_neg here]

/-- An action on a container that leaves its counters alone. -/
theorem counter_onContainer_of_same {t : NasObjId} {f : Container → Container}
    (same : ∀ c, (f c).counters = c.counters) (t' x : NasObjId) (s : Store) :
    (s.onContainer t f).counter t' x = s.counter t' x := by
  rw [counter_onContainer]
  by_cases here : t' = t
  · simp only [here, if_true, same, counter]
  · rw [if_neg here]

end Store

/-! ## Changes inside a container -/

namespace Container

def new : Container :=
  ⟨⟨nasAclEntryIdMax, ∅⟩, fun _ => none, ⟨nasAclEntryIdMax, ∅⟩, fun _ => none⟩

def putEntry (e : NasAclEntry) (c : Container) : Container :=
  { c with entries := fun id => if id = e.entryId then some e else c.entries id }

def eraseEntry (id₀ : NasObjId) (c : Container) : Container :=
  { c with entries := fun id => if id = id₀ then none else c.entries id }

def putCounter (x : StoredCounter) (c : Container) : Container :=
  { c with counters := fun id => if id = x.counter.counterId then some x else c.counters id }

def eraseCounter (id₀ : NasObjId) (c : Container) : Container :=
  { c with counters := fun id => if id = id₀ then none else c.counters id }

def modifyRefs (counterId : NasObjId) (f : NasAclCounter → NasAclCounter) (c : Container) :
    Container :=
  { c with
    counters := fun id =>
      if id = counterId then (c.counters id).map fun x => { x with counter := f x.counter }
      else c.counters id }

def takeEntryId (id : NasObjId) (c : Container) : Container :=
  { c with entryIds := c.entryIds.takeId id }

def freeEntryId (id : NasObjId) (c : Container) : Container :=
  { c with entryIds := c.entryIds.releaseId id }

def takeCounterId (id : NasObjId) (c : Container) : Container :=
  { c with counterIds := c.counterIds.takeId id }

def freeCounterId (id : NasObjId) (c : Container) : Container :=
  { c with counterIds := c.counterIds.releaseId id }

end Container

/-! ## The abstraction -/

def NasAclEntry.noIds (e : NasAclEntry) : NasAclEntry := { e with ndiEntryIds := ∅ }

def NasAclTable.noIds (t : NasAclTable) : NasAclTable := { t with ndiObjIds := ∅ }

/-- A counter without its NDI ids, but with the NPUs that have one. -/
def NasAclCounter.stored (c : NasAclCounter) : StoredCounter :=
  ⟨{ c with ndiObjIds := ∅ }, c.ndiObjIds.keys⟩

def AclTableContainer.abs (c : AclTableContainer) : Container where
  entryIds := c.entryIdGen
  entries id := (c.aclEntries.lookup id).map NasAclEntry.noIds
  counterIds := c.counterIdGen
  counters id := (c.aclCounters.lookup id).map NasAclCounter.stored

namespace NasAclSwitch

def store (sw : NasAclSwitch) : Store where
  tables id := (sw.tables.lookup id).map NasAclTable.noIds
  containers id := (sw.tableContainers.lookup id).map AclTableContainer.abs
  tableIds := sw.tableidGen

theorem store_new : NasAclSwitch.new.store = Store.empty := by
  exact Store.ext (fun _ => rfl) (fun _ => rfl) rfl

@[simp] theorem store_tables (sw : NasAclSwitch) (t : NasObjId) :
    sw.store.tables t = (sw.tables.lookup t).map NasAclTable.noIds := rfl

@[simp] theorem store_containers (sw : NasAclSwitch) (t : NasObjId) :
    sw.store.containers t = (sw.tableContainers.lookup t).map AclTableContainer.abs := rfl

theorem store_entry (sw : NasAclSwitch) (t e : NasObjId) :
    sw.store.entry t e = (sw.findEntry t e).map NasAclEntry.noIds := by
  simp only [Store.entry, findEntry, store_containers]
  cases sw.tableContainers.lookup t with
  | none => rfl
  | some c => rfl

theorem store_counter (sw : NasAclSwitch) (t c : NasObjId) :
    sw.store.counter t c = (sw.findCounter t c).map NasAclCounter.stored := by
  simp only [Store.counter, findCounter, store_containers]
  cases sw.tableContainers.lookup t with
  | none => rfl
  | some container => rfl

/-- An action on a table's container is an action on its abstraction. -/
theorem store_modifyContainer {t : NasObjId} {f : AclTableContainer → AclTableContainer}
    {g : Container → Container} {sw : NasAclSwitch}
    (matched : ∀ c, sw.tableContainers.lookup t = some c → (f c).abs = g c.abs) :
    (sw.modifyContainer t f).store = sw.store.onContainer t g := by
  refine Store.ext (fun _ => rfl) (fun t' => ?_) rfl
  rw [Store.containers_onContainer, store_containers, modifyContainer, lookup_modifyAt]
  by_cases here : t' = t
  · subst here
    rw [if_pos rfl, if_pos rfl, store_containers]
    cases held : sw.tableContainers.lookup t' with
    | none => rfl
    | some c => exact congrArg some (matched c held)
  · rw [if_neg here, if_neg here, store_containers]

end NasAclSwitch

/-! ## Operations on containers -/

section Operations

variable (c : AclTableContainer)

theorem abs_putEntry (e : NasAclEntry) :
    ({ c with aclEntries := c.aclEntries.insert e.entryId e } : AclTableContainer).abs
      = c.abs.putEntry e.noIds := by
  refine Container.ext rfl (fun id => ?_) rfl fun _ => rfl
  simp only [AclTableContainer.abs, Container.putEntry]
  by_cases here : id = e.entryId
  · subst here
    rw [Finmap.lookup_insert]
    exact (if_pos rfl).symm
  · rw [Finmap.lookup_insert_of_ne _ here]
    exact (if_neg here).symm

theorem abs_eraseEntry (id₀ : NasObjId) :
    ({ c with aclEntries := c.aclEntries.erase id₀,
              entryIdGen := c.entryIdGen.releaseId id₀ } : AclTableContainer).abs
      = (c.abs.eraseEntry id₀).freeEntryId id₀ := by
  refine Container.ext rfl (fun id => ?_) rfl fun _ => rfl
  simp only [AclTableContainer.abs, Container.eraseEntry, Container.freeEntryId]
  by_cases here : id = id₀
  · subst here
    rw [Finmap.lookup_erase]
    exact (if_pos rfl).symm
  · rw [Finmap.lookup_erase_ne here]
    exact (if_neg here).symm

theorem abs_putCounter (x : NasAclCounter) :
    ({ c with aclCounters := c.aclCounters.insert x.counterId x } : AclTableContainer).abs
      = c.abs.putCounter x.stored := by
  refine Container.ext rfl (fun _ => rfl) rfl fun id => ?_
  simp only [AclTableContainer.abs, Container.putCounter, NasAclCounter.stored]
  by_cases here : id = x.counterId
  · subst here
    rw [Finmap.lookup_insert]
    exact (if_pos rfl).symm
  · rw [Finmap.lookup_insert_of_ne _ here]
    exact (if_neg here).symm

theorem abs_eraseCounter (id₀ : NasObjId) :
    ({ c with aclCounters := c.aclCounters.erase id₀,
              counterIdGen := c.counterIdGen.releaseId id₀ } : AclTableContainer).abs
      = (c.abs.eraseCounter id₀).freeCounterId id₀ := by
  refine Container.ext rfl (fun _ => rfl) rfl fun id => ?_
  simp only [AclTableContainer.abs, Container.eraseCounter, Container.freeCounterId]
  by_cases here : id = id₀
  · subst here
    rw [Finmap.lookup_erase]
    exact (if_pos rfl).symm
  · rw [Finmap.lookup_erase_ne here]
    exact (if_neg here).symm

/-- New NDI ids in a stored entry are not seen. -/
theorem abs_entryIds (id₀ : NasObjId) (ids : NdiObjIdTable) :
    ({ c with aclEntries := modifyAt id₀ ({ · with ndiEntryIds := ids }) c.aclEntries } :
      AclTableContainer).abs = c.abs := by
  refine Container.ext rfl (fun id => ?_) rfl fun _ => rfl
  simp only [AclTableContainer.abs, lookup_modifyAt]
  by_cases here : id = id₀
  · subst here
    rw [if_pos rfl, Option.map_map]
    rfl
  · rw [if_neg here]

/-- Nor are new NDI ids in a stored counter, on the same NPUs. -/
theorem abs_counterIds (id₀ : NasObjId) (ids : NdiObjIdTable)
    (same : ∀ x, c.aclCounters.lookup id₀ = some x → ids.keys = x.ndiObjIds.keys) :
    ({ c with aclCounters := modifyAt id₀ ({ · with ndiObjIds := ids }) c.aclCounters } :
      AclTableContainer).abs = c.abs := by
  refine Container.ext rfl (fun _ => rfl) rfl fun id => ?_
  simp only [AclTableContainer.abs, lookup_modifyAt]
  by_cases here : id = id₀
  · subst here
    rw [if_pos rfl, Option.map_map]
    cases held : c.aclCounters.lookup id with
    | none => rfl
    | some x => simp only [Option.map_some, Function.comp, NasAclCounter.stored, same x held]
  · rw [if_neg here]

/-- A change of a counter's references. -/
theorem abs_modifyCounter (id₀ : NasObjId) {f : NasAclCounter → NasAclCounter}
    (refsOnly : ∀ x, (f x).stored = { x.stored with counter := f x.stored.counter }) :
    ({ c with aclCounters := modifyAt id₀ f c.aclCounters } : AclTableContainer).abs
      = c.abs.modifyRefs id₀ f := by
  refine Container.ext rfl (fun _ => rfl) rfl fun id => ?_
  simp only [AclTableContainer.abs, Container.modifyRefs, lookup_modifyAt]
  by_cases here : id = id₀
  · subst here
    simp only [if_pos]
    cases c.aclCounters.lookup id with
    | none => rfl
    | some x => simp only [Option.map_some, refsOnly x]
  · simp only [if_neg here]

end Operations

end SonicNasAcl
