/-
# RollbackCreate -- a CREATE that is rolled back

A CREATE saves the keys of what it has made, and its rollback deletes what it finds under
them.  Nothing is lost on the way: tables and counters that are created and taken back leave
the store exactly as it was.  An entry also lists itself in the counter it counts in, and a
counter forgets the entries it lists one by one, whoever it was that put them there; so the
store comes back unless the counter already listed the id of the new entry.

* `Writes.rollsBack_iff`: a write that has succeeded, and the handler that takes it back;
* `create_rollsBack`: the CREATE of a table or a counter comes undone, always;
* `entryCreate_rollsBack_iff`: the CREATE of an entry comes undone when its counter did not
  list it before.
-/
import SonicNasAcl.Configuration
import SonicNasAcl.RollbackSet

namespace SonicNasAcl

set_option autoImplicit false

open Lib

/-! ## Writes that succeed -/

/-- The write at an index succeeds; it is this operation on this kind of object. -/
structure Transaction.Writes (p : Platform) (o : Oracle) (t : Transaction) (index : Nat)
    (obj : CpsObject) (subcat : ObjType) (op : CpsOper) : Prop where
  listed : t.changeList[index]? = some obj
  cat : obj.key.cat = .baseAcl
  subcat : obj.key.subcat = subcat
  op : obj.key.oper = op
  wrote : (nasAclCpsApiWrite p o index t).1 = .returned (.ok ())

/-- Two switches with one store; what the NDI has numbered may differ. -/
def SameStore (sw sw' : NasAclSwitch) : Prop := sw'.store = sw.store

theorem SameStore.config {sw sw' : NasAclSwitch} (same : SameStore sw sw') : SameConfig sw sw' :=
  congrArg Store.config same

section Writes

variable {p p' : Platform} {o o' : Oracle} {index : Nat} {t t' : Transaction} {obj : CpsObject}
  {subcat : ObjType} {op : CpsOper} {body undo : Handler Unit}

theorem write_cat (listed : t.changeList[index]? = some obj)
    (wrote : nasAclCpsApiWrite p o index t = (.returned (.ok ()), t')) : obj.key.cat = .baseAcl := by
  by_contra other
  unfold nasAclCpsApiWrite writeInternal at wrote
  rw [listed] at wrote
  simp only [if_pos other] at wrote
  cases wrote

theorem RollsBack.mono {restored restored' : NasAclSwitch → NasAclSwitch → Prop}
    (weaker : ∀ sw sw', restored sw sw' → restored' sw sw')
    (back : RollsBack p p' o o' index t restored) : RollsBack p p' o o' index t restored' := by
  obtain ⟨t₁, t₂, wrote, undone, same⟩ := back
  exact ⟨t₁, t₂, wrote, undone, weaker _ _ same⟩

theorem Transaction.Writes.ran (writes : t.Writes p o index obj subcat op) (saves : subcat ≠ .stats)
    (mapped : operationMap p o false subcat op = some (tryHandler body)) :
    ∃ c, body (t.ctx obj) = (.ok (), c) := by
  have wrote : nasAclCpsApiWrite p o index t
      = (.returned (.ok ()), (nasAclCpsApiWrite p o index t).2) := Prod.ext writes.wrote rfl
  rw [nasAclCpsApiWrite_ok writes.listed writes.cat (writes.subcat ▸ saves)
    (by rw [writes.subcat, writes.op]; exact mapped)] at wrote
  obtain ⟨c, ran, -⟩ := wrote
  exact ⟨c, ran⟩

/-- What the write has left is where the rollback starts from. -/
theorem Transaction.Writes.rollsBack_iff {restored : NasAclSwitch → NasAclSwitch → Prop}
    (writes : t.Writes p o index obj subcat op) (saves : subcat ≠ .stats)
    (mapped : operationMap p o false subcat op = some (tryHandler body))
    (undone : operationMap p' o' true subcat op.undo = some (tryHandler undo)) {c₁ : Ctx}
    (ran : body (t.ctx obj) = (.ok (), c₁)) (sameKey : c₁.prev.key = obj.key) :
    RollsBack p p' o o' index t restored ↔
      ∃ c₂, undo ⟨c₁.sw, .new .other 0, c₁.prev, .new, c₁.ndiCounts⟩ = (.ok (), c₂) ∧
        restored t.sw c₂.sw := by
  have only {c : Ctx} (ran' : body (t.ctx obj) = (.ok (), c)) : c = c₁ :=
    congrArg Prod.snd (ran'.symm.trans ran)
  rw [SonicNasAcl.rollsBack_iff writes.listed writes.cat (writes.subcat ▸ saves)
    (by rw [writes.subcat, writes.op]; exact mapped)
    (by rw [writes.subcat, writes.op]; exact undone) fun c ran' => only ran' ▸ sameKey]
  constructor
  · rintro ⟨c, ran', rest⟩
    exact only ran' ▸ rest
  · exact fun rest => ⟨c₁, ran, rest⟩

end Writes

/-! ## What is found in a store -/

section Found

variable {sw : NasAclSwitch} {t id : NasObjId}

theorem getTable_of_store {table : NasAclTable} (held : sw.store.tables t = some table) :
    ∃ found, sw.getTable t = .ok found ∧ found.noIds = table := by
  rw [NasAclSwitch.store_tables, Option.map_eq_some_iff] at held
  obtain ⟨found, inside, same⟩ := held
  exact ⟨found, getTable_ok.mpr inside, same⟩

theorem getEntry_of_store {e : NasAclEntry} (held : sw.store.entry t id = some e) :
    ∃ found, sw.getEntry t id = .ok found ∧ found.noIds = e := by
  rw [NasAclSwitch.store_entry, Option.map_eq_some_iff] at held
  obtain ⟨found, inside, same⟩ := held
  exact ⟨found, getEntry_ok.mpr inside, same⟩

theorem getCounter_of_store {x : StoredCounter} (held : sw.store.counter t id = some x) :
    ∃ found, sw.getCounter t id = .ok found ∧ found.stored = x := by
  rw [NasAclSwitch.store_counter, Option.map_eq_some_iff] at held
  obtain ⟨found, inside, same⟩ := held
  exact ⟨found, getCounter_ok.mpr inside, same⟩

theorem modifyContainerAt_exists {f : AclTableContainer → AclTableContainer}
    (held : (sw.store.containers t).isSome) : ∃ sw', sw.modifyContainerAt t f = .ok sw' := by
  rw [NasAclSwitch.store_containers, Option.isSome_map] at held
  obtain ⟨c, found⟩ := Option.isSome_iff_exists.mp held
  refine ⟨sw.modifyContainer t f, noexceptFn_ok.mpr ?_⟩
  rw [found]

theorem containers_setCounterIds (t' : NasObjId) (ids : NdiObjIdTable) :
    ((sw.setCounterIds t' id ids).store.containers t).isSome = (sw.store.containers t).isSome := by
  simp only [NasAclSwitch.store_containers, Option.isSome_map, NasAclSwitch.setCounterIds,
    NasAclSwitch.modifyCounter, NasAclSwitch.modifyContainer, lookup_modifyAt]
  split
  · rw [Option.isSome_map]
  · rfl

end Found

/-! ## Tables and counters -/

section Deletes

variable {p : Platform} {o : Oracle} {c : Ctx} {rb : Bool}

/-- A rollback deletes an empty table under its key. -/
theorem tableDelete_runs (accepts : o.Succeeds) {t : NasAclTable} {d : Container}
    (key : c.obj.keyGetObjId .tableId = some t.tableId)
    (stored : c.sw.store.tables t.tableId = some t)
    (held : c.sw.store.containers t.tableId = some d)
    (noEntries : ∀ e, d.entries e = none) (noCounters : ∀ x, d.counters x = none) :
    ∃ c', nasAclTableDelete p o true c = (.ok (), c') ∧
      c'.sw.store = c.sw.store.removeTable t.tableId := by
  obtain ⟨found, known, same⟩ := getTable_of_store stored
  have own : found.noIds.tableId = t.tableId := congrArg NasAclTable.tableId same
  have own : found.tableId = t.tableId := own
  refine ⟨_, nasAclTableDelete_ok.mpr ⟨_, key, found, known, c.prev, rfl,
    tableCheckDelete_ok.mpr ⟨d, own ▸ held, noEntries, noCounters⟩, accepts.tableDelete _ _, rfl⟩, ?_⟩
  change ((c.sw.setTableIds _ _).removeTable _).store = _
  rw [store_removeTable, store_setTableIds]

/-- And a counter that no entry uses. -/
theorem counterDelete_runs (accepts : o.Succeeds) {t id : NasObjId} {x : StoredCounter}
    (table : c.obj.keyGetObjId .counterTableId = some t)
    (key : c.obj.keyGetObjId .counterId = some id)
    (stored : c.sw.store.counter t id = some x) (unused : x.counter.refs = ∅) :
    ∃ c', nasAclCounterDelete p o true c = (.ok (), c') ∧ c'.sw.store = c.sw.store.onContainer t
      (Container.freeCounterId id ∘ Container.eraseCounter id) := by
  obtain ⟨found, known, same⟩ := getCounter_of_store stored
  obtain ⟨d, held, -⟩ := Option.bind_eq_some_iff.mp stored
  have refs : found.refs = x.counter.refs := congrArg (fun x => x.counter.refs) same
  have free : found.checkDelete = .ok () := throwIf_ok.mpr (not_not.mpr (refs.trans unused))
  obtain ⟨sw', removed⟩ : ∃ sw', (c.sw.setCounterIds t id
      (o.counterDelete found true).2).removeCounterFromTable t id = .ok sw' := by
    refine modifyContainerAt_exists ?_
    rw [containers_setCounterIds, held]
    rfl
  refine ⟨_, nasAclCounterDelete_ok.mpr ⟨t, table, id, key, found, known, c.prev, rfl, free,
    accepts.counterDelete _ _, sw', removed, rfl⟩, ?_⟩
  change sw'.store = _
  rw [removeCounter_ok removed, ← Store.onContainer_onContainer, store_setCounterIds_erase,
    Store.onContainer_onContainer]

end Deletes

section Creates

variable {p p' : Platform} {o o' : Oracle} {index : Nat} {t : Transaction} {obj : CpsObject}
  {allowed : NasAclSwitch → Request → Prop}

theorem tableCreate_rollsBack (reached : Reached allowed t.sw) (accepts : o'.Succeeds)
    (writes : t.Writes p o index obj .table .create) : RollsBack p p' o o' index t SameStore := by
  have consistent := reached_consistent reached
  obtain ⟨c₁, ran⟩ := writes.ran (by decide) rfl
  obtain ⟨tmp, table, made⟩ := tableCreate_made (c := t.ctx obj) consistent ran
  have prev : c₁.prev = tableKeyFill table (CpsObject.new.setKey obj.key) :=
    (Except.ok.inj made.saved).symm
  rw [writes.rollsBack_iff (by decide) rfl rfl ran (by rw [prev]; rfl)]
  have stored : c₁.sw.store.tables table.tableId = some table := by
    rw [made.store]
    exact if_pos rfl
  have held : c₁.sw.store.containers table.tableId = some Container.new := by
    have none_yet : t.sw.store.containers table.tableId = none := by
      rw [← Option.not_isSome_iff_eq_none, ← consistent.sameKeys]
      exact Option.not_isSome_iff_eq_none.mpr made.absent
    rw [made.store]
    refine (if_pos rfl).trans ?_
    exact congrArg (fun d => some (Option.getD d Container.new)) none_yet
  obtain ⟨c₂, undone, store⟩ := tableDelete_runs (p := p') (c := ⟨c₁.sw, .new .other 0, c₁.prev, .new,
    c₁.ndiCounts⟩) accepts (by rw [prev]; rfl) stored held (fun _ => rfl) fun _ => rfl
  refine ⟨c₂, undone, ?_⟩
  unfold SameStore
  rw [store]
  change c₁.sw.store.removeTable _ = _
  rw [made.store]
  exact removeTable_putTable consistent made.absent

theorem counterCreate_rollsBack (reached : Reached allowed t.sw) (accepts : o'.Succeeds)
    (writes : t.Writes p o index obj .counter .create) : RollsBack p p' o o' index t SameStore := by
  have consistent := reached_consistent reached
  obtain ⟨c₁, ran⟩ := writes.ran (by decide) rfl
  obtain ⟨table, tmp, x, made⟩ := counterCreate_made (c := t.ctx obj) consistent ran
  have prev : c₁.prev = counterKeyFill x.counter (CpsObject.new.setKey obj.key) :=
    (Except.ok.inj made.saved).symm
  rw [writes.rollsBack_iff (by decide) rfl rfl ran (by rw [prev]; rfl)]
  obtain ⟨d, held⟩ : ∃ d, t.sw.store.containers table.tableId = some d := by
    refine Option.isSome_iff_exists.mp ?_
    rw [← consistent.sameKeys, NasAclSwitch.store_tables,
      show t.sw.tables.lookup table.tableId = some table from getTable_ok.mp made.known]
    rfl
  have stored : c₁.sw.store.counter table.tableId x.counter.counterId = some x := by
    rw [made.store, Store.counter_onContainer, if_pos rfl, Store.takeId, Store.containers_onContainer,
      if_pos rfl]
    change ((t.sw.store.containers table.tableId).map _).bind _ = _
    rw [held, Option.map_some, Option.bind_some]
    exact if_pos rfl
  have own : x.counter.tableId = table.tableId := made.own
  obtain ⟨c₂, undone, store⟩ := counterDelete_runs (p := p') (c := ⟨c₁.sw, .new .other 0, c₁.prev, .new,
    c₁.ndiCounts⟩) accepts (by rw [prev, ← own]; rfl) (by rw [prev]; rfl) stored made.unused
  refine ⟨c₂, undone, ?_⟩
  unfold SameStore
  rw [store]
  change c₁.sw.store.onContainer _ _ = _
  rw [made.store]
  exact eraseCounter_putCounter consistent made.absent

/-- Whatever table or counter was created, its rollback leaves the store as it was. -/
theorem create_rollsBack {subcat : ObjType} (plain : subcat = .table ∨ subcat = .counter)
    (reached : Reached allowed t.sw) (accepts : o'.Succeeds)
    (writes : t.Writes p o index obj subcat .create) : RollsBack p p' o o' index t SameStore := by
  obtain rfl | rfl := plain
  · exact tableCreate_rollsBack reached accepts writes
  · exact counterCreate_rollsBack reached accepts writes

end Creates

/-! ## Entries -/

theorem GivenId.unique {alloc : IdAllocator} {s : Store} {objType : ObjType} {t id id' : NasObjId}
    {passed : Option NasObjId} (given : GivenId alloc s objType t passed id)
    (given' : GivenId alloc s objType t passed id') : id = id' := by
  obtain rfl | ⟨rfl, gen, from_, next⟩ := given
  · obtain same | ⟨none_, -⟩ := given'
    · exact Option.some.inj same
    · cases none_
  · obtain none_ | ⟨-, gen', from_', next'⟩ := given'
    · cases none_
    · cases from_.symm.trans from_'
      exact Except.ok.inj (next.symm.trans next')

theorem removeEntry_exists {sw : NasAclSwitch} {t id : NasObjId} {e : NasAclEntry}
    (found : sw.findEntry t id = some e) (counted : sw.store.CounterStored e) :
    ∃ sw', sw.removeEntryFromTable t id = .ok sw' := by
  obtain ⟨sw₁, dropped⟩ := delRefOf_exists counted
  simp only [NasAclSwitch.removeEntryFromTable, noexceptFn_ok, found, except_bind_ok, dropped,
    Except.ok.injEq, exists_eq_left', exists_eq']

/-- A rollback removes an entry whose counter is there. -/
theorem entryDelete_runs {p : Platform} {o : Oracle} {c : Ctx} (accepts : o.Accepts p)
    {table : NasAclTable} {eid : NasObjId} {e : NasAclEntry}
    (key : cpsOpKeyExtract c.sw c.obj = .ok ⟨table, some eid, none⟩)
    (stored : c.sw.store.entry table.tableId eid = some e) (counted : c.sw.store.CounterStored e) :
    ∃ c', nasAclEntryDelete p o true c = (.ok (), c') ∧
      c'.sw.store = c.sw.store.removeEntry e table.tableId eid := by
  obtain ⟨e₁, known, same⟩ := getEntry_of_store stored
  have renamed := store_setEntryIds c.sw e₁.tableId e₁.entryId (o.entryDelete ⟨p, c.sw, table⟩ e₁ true).2
  obtain ⟨e₂, found, same'⟩ : ∃ e₂, (c.sw.setEntryIds e₁.tableId e₁.entryId
      (o.entryDelete ⟨p, c.sw, table⟩ e₁ true).2).findEntry table.tableId eid = some e₂ ∧
        e₂.noIds = e := by
    rw [← renamed, NasAclSwitch.store_entry] at stored
    exact Option.map_eq_some_iff.mp stored
  have there : (c.sw.setEntryIds e₁.tableId e₁.entryId
      (o.entryDelete ⟨p, c.sw, table⟩ e₁ true).2).store.CounterStored e₂ := by
    rw [renamed]
    exact fun enabled => (same' ▸ counted) enabled
  obtain ⟨sw₂, removed⟩ := removeEntry_exists found there
  have ran : nasAclEntryDelete p o true c = (.ok (), { c with sw := sw₂, prev := c.prev }) :=
    (nasAclEntryDelete_ok key).mpr ⟨e₁, known,
      accepts.deletes _ _ _ fun _ _ => delete_returns, c.prev, rfl, sw₂, removed, rfl⟩
  obtain ⟨e', gone⟩ := entryDelete_gone key ran
  obtain rfl : e' = e₁ := Except.ok.inj (gone.stored.symm.trans known)
  refine ⟨_, ran, ?_⟩
  rw [gone.store, ← Store.removeEntry_noIds, same]

section Entries

variable {p p' : Platform} {o o' : Oracle} {index : Nat} {t : Transaction} {obj : CpsObject}
  {allowed : NasAclSwitch → Request → Prop} {table : NasAclTable} {eid : Option NasObjId}
  {id : NasObjId}

/-- The counter that is asked for is the counter the new entry uses. -/
theorem EntryMade.usedCounter {c c' : Ctx} {new : NasAclEntry × Bool} {e : NasAclEntry} {rb : Bool}
    (made : EntryMade p o rb c c' table eid new e) :
    e.usedCounter = (NasAclEntry.new p table.tableId).counterGiven p c.obj.attrs := by
  obtain ⟨-, -, -, actions, -⟩ := npusForCreate_frame made.placed
  have actions : e.alist = new.1.alist := actions
  have clean : (NasAclEntry.new p table.tableId).isAttrDirty .entryAction = false := rfl
  unfold NasAclEntry.counterGiven NasAclEntry.usedCounter
  rw [actions]
  obtain ⟨none_, -, same⟩ | ⟨some_, -, same⟩ := parse_actions clean made.parsed
  · rw [if_pos none_, same]
  · rw [if_neg some_, same]

/-- The counter that a request names, if it names one, does not list the id of its entry. -/
def CounterUnlisted (p : Platform) (sw : NasAclSwitch) (table : NasAclTable) (obj : CpsObject)
    (id : NasObjId) : Prop :=
  ∀ counter ∈ (NasAclEntry.new p table.tableId).counterGiven p obj.attrs,
    ∀ x, sw.findCounter table.tableId counter = some x → id ∉ x.refs

/-- A rollback takes a new entry out of the store as if it had never been there, unless the
counter that the request names has listed its id already; this shows wherever references do. -/
theorem entryCreate_undone_iff (back : Store → Prop) {restored : NasAclSwitch → NasAclSwitch → Prop}
    (means : ∀ sw', restored t.sw sw' ↔ back sw'.store) (whole : back t.sw.store)
    (refs : ∀ s', back s' → s'.refs = t.sw.store.refs) (reached : Reached allowed t.sw)
    (accepts : o'.Accepts p') (writes : t.Writes p o index obj .entry .create)
    (key : cpsOpKeyExtract t.sw obj = .ok ⟨table, eid, none⟩)
    (given : GivenId o.alloc t.sw.store .entry table.tableId eid id) :
    RollsBack p p' o o' index t restored ↔ CounterUnlisted p t.sw table obj id := by
  have consistent := reached_consistent reached
  obtain ⟨c₁, ran⟩ := writes.ran (by decide) rfl
  obtain ⟨new, e, made⟩ := entryCreate_made (c := t.ctx obj) consistent key ran
  obtain rfl : e.entryId = id := made.given.unique given
  have own := made.own
  have prev : c₁.prev = entryKeyFill e (CpsObject.new.setKey obj.key) :=
    (Except.ok.inj made.saved).symm
  rw [writes.rollsBack_iff (by decide) rfl rfl ran (by rw [prev]; rfl)]
  obtain ⟨t₀, -, known, -⟩ := cpsOpKeyExtract_ok.mp key
  obtain rfl := tableId_of_getTable consistent known
  obtain ⟨d, held⟩ : ∃ d, t.sw.store.containers e.tableId = some d := by
    refine Option.isSome_iff_exists.mp ?_
    rw [own, ← consistent.sameKeys, NasAclSwitch.store_tables,
      show t.sw.tables.lookup table.tableId = some table from getTable_ok.mp known]
    rfl
  have bare : t.sw.store.SameBare c₁.sw.store := by
    rw [made.store]
    refine Store.SameBare.trans (fun t' id' => ?_)
      (Store.sameBare_putEntry.trans Store.sameBare_addRef)
    rw [Store.counter_takeId]
    rfl
  have tables : c₁.sw.store.tables = t.sw.store.tables := by
    rw [made.store, Store.tables_addRef]
    rfl
  have stored : c₁.sw.store.entry table.tableId e.entryId = some (e.committed ∅) := by
    rw [made.store, Store.entry_addRef, ← own]
    change ((t.sw.store.onContainer e.tableId _).onContainer e.tableId _).entry e.tableId _ = _
    rw [Store.onContainer_onContainer]
    unfold Store.entry
    rw [Store.containers_onContainer, if_pos rfl, held]
    exact if_pos rfl
  obtain ⟨table', known', named⟩ : ∃ table', c₁.sw.getTable table.tableId = .ok table' ∧
      table'.noIds = table.noIds := by
    refine getTable_of_store ?_
    rw [tables, NasAclSwitch.store_tables,
      show t.sw.tables.lookup table.tableId = some table from getTable_ok.mp known]
    rfl
  have undoKey : cpsOpKeyExtract c₁.sw c₁.prev = .ok ⟨table', some e.entryId, none⟩ := by
    rw [prev, opKey_entryKeyFill (own ▸ known'), keyIncrType_entryKeyFill rfl rfl]
  have named : table'.noIds.tableId = table.noIds.tableId := congrArg NasAclTable.tableId named
  have same : table'.tableId = table.tableId := named
  have counted : c₁.sw.store.CounterStored (e.committed ∅) :=
    (bare.counterStored (e := e)).mpr made.counted
  rw [← same] at stored
  obtain ⟨c₂, undone, store⟩ := entryDelete_runs (p := p') (c := ⟨c₁.sw, .new .other 0, c₁.prev, .new,
    c₁.ndiCounts⟩) accepts undoKey stored counted
  have restores : restored t.sw c₂.sw ↔ e.UnlistedIn t.sw.store := by
    rw [means, store, same, ← own]
    change back (c₁.sw.store.removeEntry (e.committed ∅) _ _) ↔ _
    rw [made.store]
    exact eraseEntry_putEntry_iff whole refs consistent held made.absent
  have asked : e.UnlistedIn t.sw.store ↔ CounterUnlisted p t.sw table obj e.entryId := by
    unfold CounterUnlisted
    rw [← show (t.ctx obj).obj.attrs = obj.attrs from rfl, ← made.usedCounter, ← own,
      forall_usedCounter]
    refine forall_congr' fun enabled => ?_
    rw [NasAclSwitch.store_counter]
    simp only [Option.map_eq_some_iff, forall_exists_index, and_imp, forall_apply_eq_imp_iff₂]
    rfl
  rw [← asked, ← restores]
  constructor
  · rintro ⟨c, ran', back⟩
    cases undone.symm.trans ran'
    exact back
  · exact fun back => ⟨c₂, undone, back⟩

/-- When the NDI accepts its calls, a rollback takes a new entry out of the store as if it had
never been there, unless the counter that the request names has listed its id already. -/
theorem entryCreate_rollsBack_iff (reached : Reached allowed t.sw) (accepts : o'.Accepts p')
    (writes : t.Writes p o index obj .entry .create)
    (key : cpsOpKeyExtract t.sw obj = .ok ⟨table, eid, none⟩)
    (given : GivenId o.alloc t.sw.store .entry table.tableId eid id) :
    RollsBack p p' o o' index t SameStore ↔ CounterUnlisted p t.sw table obj id :=
  entryCreate_undone_iff (· = t.sw.store) (fun _ => Iff.rfl) rfl (fun _ same => same ▸ rfl) reached
    accepts writes key given

end Entries

/-! ### On the bench -/

namespace Bench

theorem oracle_succeeds : oracle.Succeeds where
  tableCreate _ _ := ⟨_, rfl⟩
  tableDelete _ _ := rfl
  counterCreate _ _ := ⟨_, rfl⟩
  counterDelete _ _ := rfl

theorem pushingOracle_succeeds : pushingOracle.Succeeds where
  tableCreate := oracle_succeeds.tableCreate
  tableDelete := oracle_succeeds.tableDelete
  counterCreate := oracle_succeeds.counterCreate
  counterDelete := oracle_succeeds.counterDelete

/-- A transaction of one request, after a run of others. -/
def change (run : List Request) (r : Request) : Transaction where
  sw := after run
  changeList := [r.obj]
  prev := []

theorem change_reached {allowed : NasAclSwitch → Request → Prop} {run : List Request}
    {r : Request} (fine : ∀ r ∈ run, ∀ sw, allowed sw r) : Reached allowed (change run r).sw := by
  change Reached allowed (after run)
  exact Reachable.after fine

/-- Entry 7, which uses counter 4. -/
def countedEntry : Request :=
  entryRequest .create [u32 .entryPriority 3,
    listAttr .entryAction [actionElem .setCounter [u64 (.actionValue .setCounter) 4]]]

theorem countedEntry_key {sw : NasAclSwitch} {table : NasAclTable}
    (held : (sw.getTable 1).toOption = some table) :
    cpsOpKeyExtract sw countedEntry.obj = .ok ⟨table, some 7, none⟩ :=
  cpsOpKeyExtract_ok.mpr ⟨1, rfl, except_toOption.mp held, rfl, rfl⟩

theorem countedEntry_unlisted {sw : NasAclSwitch} {table : NasAclTable} (own : table.tableId = 1)
    (unlisted : (sw.findCounter 1 4).all fun x => 7 ∉ x.refs) :
    CounterUnlisted platform sw table countedEntry.obj 7 := by
  have asked : (NasAclEntry.new platform 1).counterGiven platform countedEntry.obj.attrs = some 4 := by
    decide +kernel
  unfold CounterUnlisted
  rw [own, asked]
  rintro _ ⟨⟩ x found
  rw [found] at unlisted
  exact of_decide_eq_true unlisted

end Bench

/-- A counter is created in table 1 and taken back. -/
theorem created_counter_rolled_back :
    RollsBack Bench.platform Bench.platform Bench.oracle Bench.oracle 0
      (Bench.change [Bench.createTable [.dscp]] (Bench.createCounter 4)) SameStore :=
  have reached : Reached (fun _ _ => True)
      (Bench.change [Bench.createTable [.dscp]] (Bench.createCounter 4)).sw :=
    Bench.change_reached fun _ _ _ => trivial
  create_rollsBack (.inr rfl) reached Bench.oracle_succeeds ⟨rfl, rfl, rfl, rfl, by decide +kernel⟩

/-- And entry 7, which uses the counter. -/
theorem created_entry_rolled_back :
    RollsBack Bench.platform Bench.platform Bench.pushingOracle Bench.pushingOracle 0
      (Bench.change [Bench.createTable [.dscp], Bench.createCounter 4] Bench.countedEntry)
      SameStore := by
  let run := [Bench.createTable [.dscp], Bench.createCounter 4]
  have tableThere : ((Bench.after run).getTable 1).toOption.any fun table => table.tableId = 1 := by
    decide +kernel
  obtain ⟨table, held, own⟩ := (Option.any_eq_true _ _).mp tableThere
  have reached : Reached (fun _ _ => True) (Bench.change run Bench.countedEntry).sw :=
    Bench.change_reached fun _ _ _ => trivial
  exact (entryCreate_rollsBack_iff reached (Bench.pushingOracle_accepts Bench.platform)
    ⟨rfl, rfl, rfl, rfl, by decide +kernel⟩ (Bench.countedEntry_key held) (.inl rfl)).mpr
    (Bench.countedEntry_unlisted (of_decide_eq_true own) (by decide +kernel))

end SonicNasAcl
