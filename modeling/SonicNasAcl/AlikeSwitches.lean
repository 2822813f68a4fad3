/-
# AlikeSwitches -- what cannot tell two switches apart

Two switches of one configuration hold objects of one configuration under the same ids, and
whatever is done to both leaves them so.

* `SameConfig.getTable`, `.getEntry`, `.getCounter`: what is found is configured alike, or is
  missing with the same error;
* `SameConfig.reserve`, `.alloc`, `.destroy`: a guard takes and gives back the same ids;
* `SameConfig.saveTable`, `.saveCounter`, `.removeEntry` and the others: what is saved in both,
  or removed from both.
-/
import SonicNasAcl.Configuration
import SonicNasAcl.Lib.Relational

namespace SonicNasAcl

set_option autoImplicit false

open Lib

/-! ## Lookups and images -/

/-- Two lookups that some view does not tell apart. -/
theorem option_alike {α β : Type} {u : α → β} {o o' : Option α} (same : o'.map u = o.map u) :
    (o = none ∧ o' = none) ∨ ∃ a a', o = some a ∧ o' = some a' ∧ u a' = u a := by
  cases o with
  | none => exact .inl ⟨rfl, Option.map_eq_none_iff.mp same⟩
  | some a =>
      obtain ⟨a', rfl, view⟩ := Option.map_eq_some_iff.mp same
      exact .inr ⟨a, a', rfl, rfl, view⟩

theorem option_map_alike {α β γ δ : Type} {u : α → β} {v : γ → δ} {f f' : α → γ} {o o' : Option α}
    (turn : ∀ a a', u a' = u a → v (f' a') = v (f a)) (same : o'.map u = o.map u) :
    (o'.map f').map v = (o.map f).map v := by
  obtain ⟨rfl, rfl⟩ | ⟨a, a', rfl, rfl, view⟩ := option_alike same
  · rfl
  · exact congrArg some (turn a a' view)

/-! ## Stores -/

section Containers

variable {c : Container}

theorem config_eraseEntry (id₀ : NasObjId) : (c.eraseEntry id₀).config = c.config.eraseEntry id₀ := by
  refine Container.ext rfl (fun id => ?_) rfl fun _ => rfl
  simp only [Container.config, Container.eraseEntry]
  split <;> rfl

theorem config_putCounter (x : StoredCounter) :
    (c.putCounter x).config = c.config.putCounter x.config := by
  refine Container.ext rfl (fun _ => rfl) rfl fun id => ?_
  simp only [Container.config, Container.putCounter]
  by_cases here : id = x.counter.counterId
  · rw [if_pos here]
    exact (if_pos here).symm
  · rw [if_neg here]
    exact (if_neg here).symm

theorem config_eraseCounter (id₀ : NasObjId) :
    (c.eraseCounter id₀).config = c.config.eraseCounter id₀ := by
  refine Container.ext rfl (fun _ => rfl) rfl fun id => ?_
  simp only [Container.config, Container.eraseCounter]
  split <;> rfl

/-- References are told apart by the configuration, and by nothing else. -/
theorem config_modifyRefs {f : NasAclCounter → NasAclCounter}
    (refsOnly : ∀ x : NasAclCounter, (f x).config = f x.config) (id₀ : NasObjId) :
    (c.modifyRefs id₀ f).config = c.config.modifyRefs id₀ f := by
  refine Container.ext rfl (fun _ => rfl) rfl fun id => ?_
  simp only [Container.config, Container.modifyRefs]
  by_cases here : id = id₀
  · rw [if_pos here, if_pos here]
    cases c.counters id with
    | none => rfl
    | some x => exact congrArg (fun counter => some (⟨counter, ∅⟩ : StoredCounter)) (refsOnly x.counter)
  · rw [if_neg here, if_neg here]

end Containers

section Stores

variable {s s' : Store} {t : NasObjId}

theorem config_putTable {table table' : NasAclTable} (alike : table'.config = table.config)
    (same : s'.config = s.config) : (s'.putTable table').config = (s.putTable table).config := by
  have own : table'.config.tableId = table.config.tableId := congrArg NasAclTable.tableId alike
  have own : table'.tableId = table.tableId := own
  have views (id : NasObjId) : (s'.containers id).map Container.config
      = (s.containers id).map Container.config := congrFun (congrArg Store.containers same) id
  have ids : s'.config.tableIds = s.config.tableIds := congrArg Store.tableIds same
  refine Store.ext (fun id => ?_) (fun id => ?_) ids
  · simp only [Store.config, Store.putTable, own]
    by_cases here : id = table.tableId
    · rw [if_pos here, if_pos here]
      exact congrArg some alike
    · rw [if_neg here, if_neg here]
      exact congrFun (congrArg Store.tables same) id
  · simp only [Store.config, Store.putTable, own]
    by_cases here : id = table.tableId
    · rw [if_pos here, if_pos here]
      obtain ⟨none_, none_'⟩ | ⟨c, c', held, held', view⟩ := option_alike (views id)
      · rw [none_, none_']
      · rw [held, held']
        exact congrArg some view
    · rw [if_neg here, if_neg here]
      exact views id

theorem config_removeTable (same : s'.config = s.config) :
    (s'.removeTable t).config = (s.removeTable t).config := by
  refine Store.ext (fun id => ?_) (fun id => ?_) ?_
  · simp only [Store.config, Store.removeTable]
    split
    · rfl
    · exact congrFun (congrArg Store.tables same) id
  · simp only [Store.config, Store.removeTable]
    split
    · rfl
    · exact congrFun (congrArg Store.containers same) id
  · exact congrArg (fun s => IdGenerator.releaseId t s.tableIds) same

end Stores

/-! ## What is found -/

section Found

variable {sw sw' : NasAclSwitch} {t id : NasObjId}

theorem SameConfig.tableIds (same : SameConfig sw sw') : sw'.tableidGen = sw.tableidGen :=
  congrArg Store.tableIds same

theorem SameConfig.findTable (same : SameConfig sw sw') (t : NasObjId) :
    (sw'.findTable t).map NasAclTable.config = (sw.findTable t).map NasAclTable.config := by
  have here : (sw'.store.tables t).map NasAclTable.config = (sw.store.tables t).map NasAclTable.config :=
    congrFun (congrArg Store.tables same) t
  rw [NasAclSwitch.store_tables, NasAclSwitch.store_tables, Option.map_map, Option.map_map] at here
  exact here

/-- What is stored for a table. -/
theorem SameConfig.container (same : SameConfig sw sw') (t : NasObjId) :
    (sw.tableContainers.lookup t = none ∧ sw'.tableContainers.lookup t = none) ∨
      ∃ c c', sw.tableContainers.lookup t = some c ∧ sw'.tableContainers.lookup t = some c' ∧
        c'.abs.config = c.abs.config := by
  have here : (sw'.store.containers t).map Container.config
      = (sw.store.containers t).map Container.config := congrFun (congrArg Store.containers same) t
  rw [NasAclSwitch.store_containers, NasAclSwitch.store_containers, Option.map_map, Option.map_map]
    at here
  exact option_alike here

theorem entries_alike {c c' : AclTableContainer} (same : c'.abs.config = c.abs.config) (id : NasObjId) :
    (c'.aclEntries.lookup id).map NasAclEntry.config
      = (c.aclEntries.lookup id).map NasAclEntry.config := by
  have here := congrFun (congrArg Container.entries same) id
  simp only [Container.config, AclTableContainer.abs, Option.map_map] at here
  exact here

theorem counters_alike {c c' : AclTableContainer} (same : c'.abs.config = c.abs.config)
    (id : NasObjId) : (c'.aclCounters.lookup id).map NasAclCounter.config
      = (c.aclCounters.lookup id).map NasAclCounter.config := by
  have here := congrFun (congrArg Container.counters same) id
  simp only [Container.config, AclTableContainer.abs, Option.map_map] at here
  have view := congrArg (Option.map StoredCounter.counter) here
  rw [Option.map_map, Option.map_map] at view
  exact view

theorem SameConfig.findEntry (same : SameConfig sw sw') (t id : NasObjId) :
    (sw'.findEntry t id).map NasAclEntry.config = (sw.findEntry t id).map NasAclEntry.config := by
  unfold NasAclSwitch.findEntry
  obtain ⟨none_, none_'⟩ | ⟨c, c', held, held', view⟩ := same.container t
  · rw [none_, none_']
  · rw [held, held']
    exact entries_alike view id

theorem SameConfig.findCounter (same : SameConfig sw sw') (t id : NasObjId) :
    (sw'.findCounter t id).map NasAclCounter.config
      = (sw.findCounter t id).map NasAclCounter.config := by
  unfold NasAclSwitch.findCounter
  obtain ⟨none_, none_'⟩ | ⟨c, c', held, held', view⟩ := same.container t
  · rw [none_, none_']
  · rw [held, held']
    exact counters_alike view id

theorem SameConfig.getTable (same : SameConfig sw sw') :
    Alike (fun a b : NasAclTable => b.config = a.config) (sw.getTable t) (sw'.getTable t) := by
  have found := same.findTable t
  unfold NasAclSwitch.findTable at found
  unfold NasAclSwitch.getTable
  obtain ⟨none_, none_'⟩ | ⟨a, a', held, held', view⟩ := option_alike found
  · rw [none_, none_']
    exact .error _
  · rw [held, held']
    exact .ok view

theorem SameConfig.getEntry (same : SameConfig sw sw') :
    Alike (fun a b : NasAclEntry => b.config = a.config) (sw.getEntry t id) (sw'.getEntry t id) := by
  unfold NasAclSwitch.getEntry
  obtain ⟨none_, none_'⟩ | ⟨a, a', held, held', view⟩ := option_alike (same.findEntry t id)
  · rw [none_, none_']
    exact .error _
  · rw [held, held']
    exact .ok view

theorem SameConfig.getCounter (same : SameConfig sw sw') :
    Alike (fun a b : NasAclCounter => b.config = a.config) (sw.getCounter t id)
      (sw'.getCounter t id) := by
  unfold NasAclSwitch.getCounter
  obtain ⟨none_, none_'⟩ | ⟨c, c', held, held', view⟩ := same.container t
  · rw [none_, none_']
    exact .error _
  · rw [held, held']
    simp only
    obtain ⟨none_, none_'⟩ | ⟨a, a', found, found', view⟩ := option_alike (counters_alike view id)
    · rw [none_, none_']
      exact .error _
    · rw [found, found']
      exact .ok view

/-- The keys of two maps that some view does not tell apart. -/
theorem keys_alike {α β : Type} {u : α → β} {m m' : Finmap fun _ : NasObjId => α}
    (same : ∀ id, (m'.lookup id).map u = (m.lookup id).map u) : m'.keys = m.keys := by
  ext id
  rw [Finmap.mem_keys, Finmap.mem_keys, Finmap.mem_iff, Finmap.mem_iff,
    ← Option.isSome_iff_exists, ← Option.isSome_iff_exists]
  have here := congrArg Option.isSome (same id)
  rw [Option.isSome_map, Option.isSome_map] at here
  rw [here]

theorem SameConfig.entryList (same : SameConfig sw sw') :
    Alike (fun a b : EntryMap => ∀ id,
      (b.lookup id).map NasAclEntry.config = (a.lookup id).map NasAclEntry.config)
      (sw.entryList t) (sw'.entryList t) := by
  unfold NasAclSwitch.entryList
  obtain ⟨none_, none_'⟩ | ⟨c, c', held, held', view⟩ := same.container t
  · rw [none_, none_']
    exact .error _
  · rw [held, held']
    exact .ok (entries_alike view)

theorem SameConfig.counterList (same : SameConfig sw sw') :
    Alike (fun a b : CounterMap => ∀ id,
      (b.lookup id).map NasAclCounter.config = (a.lookup id).map NasAclCounter.config)
      (sw.counterList t) (sw'.counterList t) := by
  unfold NasAclSwitch.counterList
  obtain ⟨none_, none_'⟩ | ⟨c, c', held, held', view⟩ := same.container t
  · rw [none_, none_']
    exact .error _
  · rw [held, held']
    exact .ok (counters_alike view)

end Found

/-! ## What is changed -/

/-- What an entry is told, field by field. -/
theorem entry_fields {e e' : NasAclEntry} (alike : e'.config = e.config) :
    e'.tableId = e.tableId ∧ e'.entryId = e.entryId ∧ e'.alist = e.alist ∧ e'.flist = e.flist ∧
      e'.priority = e.priority :=
  ⟨(congrArg NasAclEntry.tableId alike :), (congrArg NasAclEntry.entryId alike :),
    (congrArg NasAclEntry.alist alike :), (congrArg NasAclEntry.flist alike :),
    (congrArg NasAclEntry.priority alike :)⟩

theorem counterId_congr {e e' : NasAclEntry} (actions : e'.alist = e.alist) :
    e'.counterId = e.counterId ∧ e'.isCounterEnabled = e.isCounterEnabled := by
  unfold NasAclEntry.counterId NasAclEntry.isCounterEnabled
  rw [actions]
  exact ⟨rfl, rfl⟩

section Changed

variable {sw sw' : NasAclSwitch} {t id : NasObjId} {e e' : NasAclEntry}

theorem SameConfig.modifyContainer {f f' : AclTableContainer → AclTableContainer}
    (same : SameConfig sw sw')
    (turn : ∀ c c', c'.abs.config = c.abs.config → (f' c').abs.config = (f c).abs.config) :
    SameConfig (sw.modifyContainer t f) (sw'.modifyContainer t f') := by
  have views (id : NasObjId) := congrFun (congrArg Store.containers same) id
  have ids : sw'.store.config.tableIds = sw.store.config.tableIds := congrArg Store.tableIds same
  refine Store.ext (fun id => (congrFun (congrArg Store.tables same) id :)) (fun id => ?_) ids
  simp only [Store.config, NasAclSwitch.store_containers, NasAclSwitch.modifyContainer,
    lookup_modifyAt, Option.map_map] at views ⊢
  by_cases here : id = t
  · rw [if_pos here, if_pos here, here, Option.map_map, Option.map_map]
    have moved := option_map_alike (v := Container.config ∘ AclTableContainer.abs) turn (views t)
    rw [Option.map_map, Option.map_map] at moved
    exact moved
  · rw [if_neg here, if_neg here]
    exact views id

theorem SameConfig.modifyRefs {f : NasAclCounter → NasAclCounter} (same : SameConfig sw sw')
    (refsOnly : ∀ x : NasAclCounter, (f x).stored = { x.stored with counter := f x.stored.counter })
    (kept : ∀ x : NasAclCounter, (f x).config = f x.config) :
    SameConfig (sw.modifyCounter t id f) (sw'.modifyCounter t id f) := by
  refine same.modifyContainer fun c c' view => ?_
  rw [abs_modifyCounter c id refsOnly, abs_modifyCounter c' id refsOnly, config_modifyRefs kept,
    config_modifyRefs kept, view]

theorem SameConfig.setTableIds (ids : NdiObjIdTable) : SameConfig sw (sw.setTableIds t ids) :=
  congrArg Store.config (store_setTableIds t ids)

theorem SameConfig.setEntryIds (ids : NdiObjIdTable) : SameConfig sw (sw.setEntryIds t id ids) :=
  congrArg Store.config (store_setEntryIds sw t id ids)

/-- The NPUs that a counter is on are no part of its configuration. -/
theorem SameConfig.setCounterIds (ids : NdiObjIdTable) :
    SameConfig sw (sw.setCounterIds t id ids) := by
  have lookups (c : AclTableContainer) :
      ({ c with aclCounters := modifyAt id ({ · with ndiObjIds := ids }) c.aclCounters } :
        AclTableContainer).abs.config = c.abs.config := by
    refine Container.ext rfl (fun _ => rfl) rfl fun id' => ?_
    simp only [Container.config, AclTableContainer.abs, lookup_modifyAt, Option.map_map]
    by_cases here : id' = id
    · rw [if_pos here, Option.map_map]
      rfl
    · rw [if_neg here]
  refine Store.ext (fun _ => rfl) (fun t' => ?_) rfl
  simp only [Store.config, NasAclSwitch.store_containers, NasAclSwitch.setCounterIds,
    NasAclSwitch.modifyCounter, NasAclSwitch.modifyContainer, lookup_modifyAt, Option.map_map]
  by_cases here : t' = t
  · rw [if_pos here, here, Option.map_map]
    exact congrFun (congrArg Option.map (funext fun c => lookups c)) _
  · rw [if_neg here]

/-! ### References -/

theorem SameConfig.entryCounter (same : SameConfig sw sw') (table : e'.tableId = e.tableId)
    (actions : e'.alist = e.alist) :
    Alike (fun a b : Option NasAclCounter => b.map NasAclCounter.config = a.map NasAclCounter.config)
      (e.getCounter sw) (e'.getCounter sw') := by
  obtain ⟨counter, enabled⟩ := counterId_congr actions
  unfold NasAclEntry.getCounter
  rw [counter, enabled, table]
  refine Alike.ite Iff.rfl (fun _ => ?_) fun _ => .ok rfl
  exact same.getCounter.bind fun a b view => .ok (congrArg some view)

theorem SameConfig.delRefOf (same : SameConfig sw sw') (table : e'.tableId = e.tableId)
    (own : e'.entryId = e.entryId) (actions : e'.alist = e.alist) :
    Alike SameConfig (sw.delRefOf e) (sw'.delRefOf e') := by
  refine (same.entryCounter table actions).bind fun a b view => ?_
  obtain ⟨rfl, rfl⟩ | ⟨x, x', rfl, rfl, -⟩ := option_alike view
  · exact .ok same
  · obtain ⟨counter, -⟩ := counterId_congr actions
    simp only
    rw [counter, table, own]
    exact .ok (same.modifyRefs (fun _ => rfl) fun _ => rfl)

/-! ### Saved and removed -/

theorem noexceptFn_alike {α β : Type} {Q : α → β → Prop} {x : Except Exn α} {y : Except Exn β}
    (alike : Alike Q x y) : Alike Q (noexceptFn x) (noexceptFn y) := by
  cases alike with
  | ok related => exact .ok related
  | error e => exact .error _

theorem SameConfig.removeEntry (same : SameConfig sw sw') :
    Alike SameConfig (sw.removeEntryFromTable t id) (sw'.removeEntryFromTable t id) := by
  refine noexceptFn_alike ?_
  obtain ⟨none_, none_'⟩ | ⟨old, old', found, found', orig⟩ := option_alike (same.findEntry t id)
  · rw [none_, none_']
    exact .error _
  · rw [found, found']
    obtain ⟨tableOld, ownOld, actionsOld, -⟩ := entry_fields orig
    refine (same.delRefOf tableOld ownOld actionsOld).bind fun a b dropped => .ok ?_
    refine dropped.modifyContainer fun c c' view => ?_
    rw [abs_eraseEntry, abs_eraseEntry]
    change (c'.abs.eraseEntry id).config.freeEntryId id = (c.abs.eraseEntry id).config.freeEntryId id
    rw [config_eraseEntry, config_eraseEntry, view]

theorem SameConfig.modifyContainerAt {f f' : AclTableContainer → AclTableContainer}
    (same : SameConfig sw sw')
    (turn : ∀ c c', c'.abs.config = c.abs.config → (f' c').abs.config = (f c).abs.config) :
    Alike SameConfig (sw.modifyContainerAt t f) (sw'.modifyContainerAt t f') := by
  refine noexceptFn_alike ?_
  obtain ⟨none_, none_'⟩ | ⟨c, c', held, held', -⟩ := same.container t
  · rw [none_, none_']
    exact .error _
  · rw [held, held']
    exact .ok (same.modifyContainer turn)

theorem SameConfig.saveCounter {x x' : NasAclCounter} (same : SameConfig sw sw')
    (alike : x'.config = x.config) : Alike SameConfig (sw.saveCounter x) (sw'.saveCounter x') := by
  have table : x'.tableId = x.tableId := (congrArg NasAclCounter.tableId alike :)
  have own : x'.counterId = x.counterId := (congrArg NasAclCounter.counterId alike :)
  have put (c : AclTableContainer) (x : NasAclCounter) :
      ({ c with aclCounters := c.aclCounters.insert x.counterId x } : AclTableContainer).abs.config
        = c.abs.config.putCounter ⟨x.config, ∅⟩ := by
    rw [abs_putCounter, config_putCounter]
    rfl
  unfold NasAclSwitch.saveCounter
  rw [table]
  refine same.modifyContainerAt fun c c' view => ?_
  rw [put c x, put c' x', view, alike]

theorem SameConfig.removeCounter (same : SameConfig sw sw') :
    Alike SameConfig (sw.removeCounterFromTable t id) (sw'.removeCounterFromTable t id) := by
  refine same.modifyContainerAt fun c c' view => ?_
  rw [abs_eraseCounter, abs_eraseCounter]
  change (c'.abs.eraseCounter id).config.freeCounterId id
    = (c.abs.eraseCounter id).config.freeCounterId id
  rw [config_eraseCounter, config_eraseCounter, view]

theorem SameConfig.removeTable (same : SameConfig sw sw') :
    SameConfig (sw.removeTable t) (sw'.removeTable t) := by
  unfold SameConfig
  rw [store_removeTable, store_removeTable]
  exact config_removeTable same

/-- A table is saved under an id that is free in both. -/
theorem SameConfig.saveTable {table table' : NasAclTable} (same : SameConfig sw sw')
    (alike : table'.config = table.config) :
    SameConfig (sw.saveTable table) (sw'.saveTable table') := by
  have own : table'.tableId = table.tableId := (congrArg NasAclTable.tableId alike :)
  have found := same.findTable table.tableId
  obtain ⟨none_, none_'⟩ | ⟨a, a', held, held', view⟩ := option_alike found
  · unfold SameConfig
    rw [saveTable_new none_, saveTable_new (own.symm ▸ none_')]
    exact config_putTable alike same
  · have saved {sw : NasAclSwitch} {table a : NasAclTable} (held : sw.findTable table.tableId = some a) :
        sw.saveTable table = { sw with tables := sw.tables.insert table.tableId table } := by
      unfold NasAclSwitch.findTable at held
      unfold NasAclSwitch.saveTable
      rw [held]
    rw [saved held, saved (own.symm ▸ held')]
    refine Store.ext (fun id => ?_) (fun id => (congrFun (congrArg Store.containers same) id :))
      (congrArg Store.tableIds same :)
    simp only [Store.config, NasAclSwitch.store_tables, Option.map_map]
    by_cases here : id = table.tableId
    · rw [here, ← own, Finmap.lookup_insert, own, Finmap.lookup_insert]
      exact congrArg some alike
    · rw [Finmap.lookup_insert_of_ne _ here, Finmap.lookup_insert_of_ne _ (own.symm ▸ here)]
      exact same.findTable id

/-! ### Ids -/

/-- What a guard has done: the same to both, and the same guard is left. -/
def GuardedAlike {α : Type} (a b : α × NasAclIdGuard × NasAclSwitch) : Prop :=
  b.1 = a.1 ∧ b.2.1 = a.2.1 ∧ SameConfig a.2.2 b.2.2

/-- The generators of a table hand out the same ids. -/
theorem generators_alike {c c' : AclTableContainer} (same : c'.abs.config = c.abs.config) :
    c'.entryIdGen = c.entryIdGen ∧ c'.counterIdGen = c.counterIdGen :=
  ⟨(congrArg Container.entryIds same :), (congrArg Container.counterIds same :)⟩

theorem SameConfig.setTableIdGen (same : SameConfig sw sw') (gen : IdGenerator) :
    SameConfig { sw with tableidGen := gen } { sw' with tableidGen := gen } :=
  Store.ext (fun id => (congrFun (congrArg Store.tables same) id :))
    (fun id => (congrFun (congrArg Store.containers same) id :)) rfl

theorem SameConfig.setEntryIdGen (same : SameConfig sw sw') (f : IdGenerator → IdGenerator) :
    SameConfig (sw.modifyContainer t fun c => { c with entryIdGen := f c.entryIdGen })
      (sw'.modifyContainer t fun c => { c with entryIdGen := f c.entryIdGen }) := by
  refine same.modifyContainer fun c c' view => ?_
  refine Container.ext ?_ (fun id => (congrFun (congrArg Container.entries view) id :))
    (generators_alike view).2 fun id => (congrFun (congrArg Container.counters view) id :)
  exact congrArg f (generators_alike view).1

theorem SameConfig.setCounterIdGen (same : SameConfig sw sw') (f : IdGenerator → IdGenerator) :
    SameConfig (sw.modifyContainer t fun c => { c with counterIdGen := f c.counterIdGen })
      (sw'.modifyContainer t fun c => { c with counterIdGen := f c.counterIdGen }) := by
  refine same.modifyContainer fun c c' view => ?_
  refine Container.ext (generators_alike view).1
    (fun id => (congrFun (congrArg Container.entries view) id :)) ?_
    fun id => (congrFun (congrArg Container.counters view) id :)
  exact congrArg f (generators_alike view).2

theorem SameConfig.reserveId (same : SameConfig sw sw') (g : NasAclIdGuard) :
    Alike (fun a b : Bool × NasAclSwitch => b.1 = a.1 ∧ SameConfig a.2 b.2) (g.reserveId id sw)
      (g.reserveId id sw') := by
  unfold NasAclIdGuard.reserveId
  split
  · unfold NasAclSwitch.reserveTableId
    refine Alike.ite Iff.rfl (fun _ => .error _) fun _ => ?_
    rw [same.tableIds]
    exact .ok ⟨rfl, same.setTableIdGen _⟩
  · unfold NasAclSwitch.reserveEntryIdInTable
    refine Alike.ite Iff.rfl (fun _ => .error _) fun _ => ?_
    obtain ⟨none_, none_'⟩ | ⟨c, c', held, held', view⟩ := same.container g.tableId
    · rw [none_, none_']
      exact .error _
    · rw [held, held']
      simp only
      rw [(generators_alike view).1]
      exact .ok ⟨rfl, same.setEntryIdGen fun gen => (gen.reserveId id).2⟩
  · unfold NasAclSwitch.reserveCounterIdInTable
    refine Alike.ite Iff.rfl (fun _ => .error _) fun _ => ?_
    obtain ⟨none_, none_'⟩ | ⟨c, c', held, held', view⟩ := same.container g.tableId
    · rw [none_, none_']
      exact .error _
    · rw [held, held']
      simp only
      rw [(generators_alike view).2]
      exact .ok ⟨rfl, same.setCounterIdGen fun gen => (gen.reserveId id).2⟩
  · exact .error _

theorem SameConfig.allocId (same : SameConfig sw sw') (alloc : IdAllocator) (g : NasAclIdGuard) :
    Alike (fun a b : NasObjId × NasAclSwitch => b.1 = a.1 ∧ SameConfig a.2 b.2) (g.allocId alloc sw)
      (g.allocId alloc sw') := by
  have next (gen : IdGenerator) :
      Alike (fun a b : NasObjId => b = a) (alloc.next gen) (alloc.next gen) :=
    Alike.refl (P := fun a b => b = a) (fun _ => rfl) _
  unfold NasAclIdGuard.allocId
  split
  · rw [same.tableIds]
    refine (next sw.tableidGen).bind fun id id' same_ => ?_
    rw [same_]
    exact .ok ⟨rfl, same.setTableIdGen _⟩
  · obtain ⟨none_, none_'⟩ | ⟨c, c', held, held', view⟩ := same.container g.tableId
    · rw [none_, none_']
      exact .error _
    · rw [held, held']
      simp only
      rw [(generators_alike view).1]
      refine (next c.entryIdGen).bind fun id id' same_ => ?_
      rw [same_]
      exact .ok ⟨rfl, same.setEntryIdGen fun gen => (gen.reserveId id).2⟩
  · obtain ⟨none_, none_'⟩ | ⟨c, c', held, held', view⟩ := same.container g.tableId
    · rw [none_, none_']
      exact .error _
    · rw [held, held']
      simp only
      rw [(generators_alike view).2]
      refine (next c.counterIdGen).bind fun id id' same_ => ?_
      rw [same_]
      exact .ok ⟨rfl, same.setCounterIdGen fun gen => (gen.reserveId id).2⟩
  · exact .error _

theorem SameConfig.alloc (same : SameConfig sw sw') (alloc : IdAllocator) (g : NasAclIdGuard) :
    Alike GuardedAlike (g.allocGuardedId alloc sw) (g.allocGuardedId alloc sw') := by
  refine (same.allocId alloc g).bind fun a b kept => ?_
  obtain ⟨id, sw₁⟩ := a
  obtain ⟨id', sw₁'⟩ := b
  obtain ⟨given, kept⟩ := kept
  obtain rfl : id' = id := given
  exact .ok ⟨rfl, rfl, kept⟩

theorem SameConfig.destroy (same : SameConfig sw sw') (g : NasAclIdGuard) :
    SameConfig (g.destroy sw) (g.destroy sw') := by
  unfold NasAclIdGuard.destroy
  by_cases guarding : g.guarding
  · rw [if_pos guarding, if_pos guarding]
    split
    · rw [same.tableIds]
      exact same.setTableIdGen _
    · exact same.setEntryIdGen _
    · exact same.setCounterIdGen _
    · exact same
  · rw [if_neg guarding, if_neg guarding]
    exact same

end Changed

end SonicNasAcl
