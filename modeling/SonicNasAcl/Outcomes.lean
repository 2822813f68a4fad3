/-
# Outcomes -- what a request that succeeds does to the store

`Did r sw s` has one case for each way a request `r` can succeed on a switch `sw`, with
the store `s` it leaves and what the handler has checked on the way.  In a consistent
store there is no other way (`run_did`), so an invariant of the store is proved case by
case here and never again by looking at a handler.

An entry that is changed is the one the request asks for (`Request.Asks`), after the
checks of its commit.

* `tableCreate_made`, `counterCreate_made`, `entryCreate_made`: what a create has read,
  checked and filed, and the object it saves;
* `tableDelete_gone`, `counterDelete_gone`, `entryDelete_gone`: the same of a delete.
-/
import SonicNasAcl.Edits
import SonicNasAcl.Requests

namespace SonicNasAcl

set_option autoImplicit false

open Lib

/-! ## What a request asks for -/

/-- The new entry a request asks for in place of a stored one. -/
inductive Request.Asks (r : Request) (sw : NasAclSwitch) (table : NasAclTable) :
    NasAclEntry → NasAclEntry → Prop
  | whole {eid : NasObjId} {old : NasAclEntry} {new : NasAclEntry × Bool}
      (key : cpsOpKeyExtract sw r.obj = .ok ⟨table, some eid, none⟩) (set : r.op = .set)
      (stored : sw.getEntry table.tableId eid = .ok old)
      (parsed : cpsParseEntryObj r.platform sw table r.obj.attrs old = .ok new) :
      r.Asks sw table old new.1
  | element {eid : NasObjId} {upd : IncrType} {old new : NasAclEntry}
      (key : cpsOpKeyExtract sw r.obj = .ok ⟨table, some eid, some upd⟩)
      (stored : sw.getEntry table.tableId eid = .ok old)
      (made : incrNewEntry r.platform sw table r.obj.attrs r.op upd old = .ok new) :
      r.Asks sw table old new

/-- Only a SET or an incremental update changes an entry. -/
theorem Request.Asks.changes {r : Request} {sw : NasAclSwitch} {table : NasAclTable}
    {old new : NasAclEntry} (asks : r.Asks sw table old new) :
    r.op = .set ∨ keyIncrType r.obj ≠ none := by
  cases asks with
  | whole key set => exact .inl set
  | element key =>
      obtain ⟨t, -, -, -, upd⟩ := cpsOpKeyExtract_ok.mp key
      rw [upd]
      exact .inr (Option.some_ne_none _)

/-- What the edits keep, a request keeps. -/
theorem Request.Asks.closed {r : Request} {sw : NasAclSwitch} {table : NasAclTable}
    {old new : NasAclEntry} {P : NasAclEntry → Prop} (asks : r.Asks sw table old new)
    (closed : ClosedUnderReads r.platform sw table P) (first : P old) : P new := by
  cases asks with
  | whole key set stored parsed => exact parse_closed closed first parsed
  | element key stored made => exact incr_closed closed first made

/-- The counter of an entry is on every NPU of the entry. -/
def Store.CoversEntry (s : Store) (e : NasAclEntry) : Prop :=
  e.isCounterEnabled → ∀ npuId ∈ e.npuList,
    ∃ x, s.counter e.tableId e.counterId = some x ∧ npuId ∈ x.onNpus

/-- The ways a request succeeds. -/
inductive Did (r : Request) (sw : NasAclSwitch) : Store → Prop
  | statsSet : Did r sw sw.store
  | tableCreated {t : NasAclTable} (absent : sw.store.tables t.tableId = none)
      (small : t.tableId.toNat ≤ nasAclTableIdMax) :
      Did r sw ((sw.store.takeId .table 0 t.tableId).putTable t)
  | tableDeleted {id : NasObjId} {c : Container} (held : sw.store.containers id = some c)
      (noEntries : ∀ e, c.entries e = none) (noCounters : ∀ x, c.counters x = none) :
      Did r sw (sw.store.removeTable id)
  | counterCreated {x : StoredCounter}
      (absent : sw.store.counter x.counter.tableId x.counter.counterId = none)
      (small : x.counter.counterId.toNat ≤ nasAclEntryIdMax) (unused : x.counter.refs = ∅) :
      Did r sw ((sw.store.takeId .counter x.counter.tableId x.counter.counterId).onContainer
        x.counter.tableId (Container.putCounter x))
  | counterDeleted {t id : NasObjId} {x : StoredCounter} (held : sw.store.counter t id = some x)
      (unused : x.counter.refs = ∅) :
      Did r sw (sw.store.onContainer t (Container.freeCounterId id ∘ Container.eraseCounter id))
  | entryCreated {table : NasAclTable} {eid : Option NasObjId} {new : NasAclEntry × Bool}
      {e : NasAclEntry} {id : NasObjId}
      (key : cpsOpKeyExtract sw r.obj = .ok ⟨table, eid, none⟩)
      (parsed : cpsParseEntryObj r.platform sw table r.obj.attrs (.new r.platform table.tableId)
        = .ok new)
      (placed : { new.1 with entryId := id }.npusForCreate r.platform table = .ok e)
      (absent : sw.store.entry e.tableId e.entryId = none)
      (small : e.entryId.toNat ≤ nasAclEntryIdMax)
      (counted : sw.store.CounterStored e) (covered : sw.store.CoversEntry e) :
      Did r sw (((sw.store.takeId .entry e.tableId e.entryId).putEntry (e.committed ∅)).addRef e)
  | entryChanged {table : NasAclTable} {old new e : NasAclEntry}
      (entry : r.obj.key.subcat = .entry) (asks : r.Asks sw table old new)
      (checked : new.checkModify r.platform sw table = .ok e) :
      Did r sw (sw.store.replaceEntry old (e.committed ∅))
  | entryDeleted {table : NasAclTable} {eid : NasObjId} {e : NasAclEntry}
      (key : cpsOpKeyExtract sw r.obj = .ok ⟨table, some eid, none⟩)
      (stored : sw.getEntry table.tableId eid = .ok e) :
      Did r sw (sw.store.removeEntry e table.tableId eid)

/-! ## Ids that are taken -/

section Ids

variable {s : Store} {objType : ObjType} {t id : NasObjId} {gen : IdGenerator}

theorem Store.Consistent.idGen_within (h : s.Consistent) (from_ : s.idGen objType t = some gen) :
    gen.Within objType.idMax := by
  cases objType with
  | table =>
      cases from_
      exact h.tableIdsWithin
  | entry =>
      obtain ⟨c, held, rfl⟩ := Option.map_eq_some_iff.mp from_
      exact (h.containers t c held).entryIdsWithin
  | counter =>
      obtain ⟨c, held, rfl⟩ := Option.map_eq_some_iff.mp from_
      exact (h.containers t c held).counterIdsWithin
  | stats => cases from_
  | other => cases from_

variable {alloc : IdAllocator} {sw sw' : NasAclSwitch} {passed : Option NasObjId}
  {g : NasAclIdGuard}

theorem TakesId.small (h : sw.store.Consistent)
    (took : TakesId alloc (.new objType t) sw passed id g sw') : id.toNat ≤ objType.idMax := by
  obtain ⟨gen, from_, -, -, ⟨-, small⟩ | ⟨-, -, small⟩⟩ := took.spec
  · exact small
  · rwa [(h.idGen_within from_).max_eq] at small

/-- The id a create gives: the one that is passed in, or the next of its generator. -/
def GivenId (alloc : IdAllocator) (s : Store) (objType : ObjType) (t : NasObjId)
    (passed : Option NasObjId) (id : NasObjId) : Prop :=
  passed = some id ∨ passed = none ∧ ∃ gen, s.idGen objType t = some gen ∧ alloc.next gen = .ok id

theorem TakesId.given (took : TakesId alloc (.new objType t) sw passed id g sw') :
    GivenId alloc sw.store objType t passed id := by
  cases passed with
  | some given => exact .inl (congrArg some took.1.symm)
  | none =>
      refine .inr ⟨rfl, ?_⟩
      obtain ⟨⟨id', sw₁⟩, took, same⟩ := except_bind_ok.mp took
      cases same
      cases objType with
      | table =>
          obtain ⟨_, next, took⟩ := except_bind_ok.mp took
          cases took
          exact ⟨_, rfl, next⟩
      | entry =>
          simp only [NasAclIdGuard.allocId, NasAclIdGuard.new] at took
          cases held : sw.tableContainers.lookup t with
          | none =>
              simp only [held] at took
              cases took
          | some container =>
              simp only [held] at took
              obtain ⟨_, next, took⟩ := except_bind_ok.mp took
              cases took
              refine ⟨container.entryIdGen, ?_, next⟩
              simp only [Store.idGen, NasAclSwitch.store_containers, held, Option.map_some]
              rfl
      | counter =>
          simp only [NasAclIdGuard.allocId, NasAclIdGuard.new] at took
          cases held : sw.tableContainers.lookup t with
          | none =>
              simp only [held] at took
              cases took
          | some container =>
              simp only [held] at took
              obtain ⟨_, next, took⟩ := except_bind_ok.mp took
              cases took
              refine ⟨container.counterIdGen, ?_, next⟩
              simp only [Store.idGen, NasAclSwitch.store_containers, held, Option.map_some]
              rfl
      | stats => cases took
      | other => cases took

/-- An id that may be passed in only when it is not in use, is not in use. -/
theorem TakesId.unused (InUse : NasObjId → Prop)
    (took : TakesId alloc (.new objType t) sw passed id g sw')
    (checked : ∀ given, passed = some given → ¬ InUse given)
    (known : ∀ gen, sw.store.idGen objType t = some gen → ∀ id, InUse id → id ∈ gen.allocated) :
    ¬ InUse id := by
  obtain ⟨gen, from_, -, -, ⟨same, -⟩ | ⟨-, free, -⟩⟩ := took.spec
  · exact checked id same
  · exact fun used => free (known gen from_ id used)

end Ids

theorem store_findTable_none {sw : NasAclSwitch} {t : NasObjId} :
    sw.findTable t = none ↔ sw.store.tables t = none := by
  rw [NasAclSwitch.store_tables, Option.map_eq_none_iff]
  rfl

theorem store_findEntry_none {sw : NasAclSwitch} {t e : NasObjId} :
    sw.findEntry t e = none ↔ sw.store.entry t e = none := by
  rw [NasAclSwitch.store_entry, Option.map_eq_none_iff]

theorem store_findCounter_none {sw : NasAclSwitch} {t x : NasObjId} :
    sw.findCounter t x = none ↔ sw.store.counter t x = none := by
  rw [NasAclSwitch.store_counter, Option.map_eq_none_iff]

/-! ## Tables and counters -/

section Handlers

variable {r : Request} {sw : NasAclSwitch} {c' : Ctx}

theorem tableCommit_ok {o : Oracle} {rb : Bool} {t t' : NasAclTable} :
    t.commitCreate o rb = .ok t' ↔
      (t.isAttrDirty .tableStage ∧ t.isAttrDirty .tableAllowedMatchFields) ∧
        ∃ ids, o.tableCreate t rb = .ok ids ∧
          t' = { t with base := t.base.committed, ndiObjIds := ids } := by
  simp only [NasAclTable.commitCreate, except_bind_ok, throwIf_ok, exists_const, Bool.not_eq_true',
    Bool.not_eq_false, Except.ok.injEq, and_assoc, @eq_comm NasAclTable _ t']

/-- A table create that returns. -/
structure TableMade (p : Platform) (o : Oracle) (rb : Bool) (c c' : Ctx) (tmp t : NasAclTable) :
    Prop where
  parsed : parseTable p c.sw c.obj.attrs = .ok tmp
  stage : tmp.isAttrDirty .tableStage
  fields : tmp.isAttrDirty .tableAllowedMatchFields
  made : t = { tmp with tableId := t.tableId, base := tmp.base.committed, ndiObjIds := ∅ }
  given : GivenId o.alloc c.sw.store .table 0 (c.obj.keyGetObjId .tableId) t.tableId
  absent : c.sw.store.tables t.tableId = none
  small : t.tableId.toNat ≤ nasAclTableIdMax
  store : c'.sw.store = (c.sw.store.takeId .table 0 t.tableId).putTable t
  saved : Saved rb (fun prev => .ok (tableKeyFill t (prev.setKey c.obj.key))) c.prev c'.prev

theorem tableCreate_made {c : Ctx} (consistent : c.sw.store.Consistent) {o : Oracle} {rb : Bool}
    {p : Platform} (ran : nasAclTableCreate p o rb c = (.ok (), c')) :
    ∃ tmp t, TableMade p o rb c c' tmp t := by
  obtain ⟨checked, tmp, parsed, id, g, sw₁, took, t, committed, prev, saved, rfl⟩ :=
    nasAclTableCreate_ok.mp ran
  obtain ⟨⟨stage, fields⟩, ids, -, same⟩ := tableCommit_ok.mp committed
  obtain rfl : t.tableId = id := congrArg NasAclTable.tableId same
  obtain ⟨gen, -, stored, -⟩ := took.spec
  have absent : c.sw.store.tables t.tableId = none := by
    refine not_not.mp (took.unused (fun id => c.sw.store.tables id ≠ none) ?_ ?_)
    · intro given passed
      exact not_not.mpr (store_findTable_none.mp (Option.isNone_iff_eq_none.mp
        (Option.isSome_eq_false_iff.mp (checked given passed))))
    · rintro _ ⟨⟩ id used
      exact (consistent.tableIds id).mpr (Option.isSome_iff_ne_none.mpr used)
  have new : sw₁.findTable t.tableId = none := by
    rw [store_findTable_none, stored]
    exact absent
  refine ⟨tmp, t.noIds, parsed, stage, fields, ?_, took.given, absent, took.small consistent, ?_,
    saved⟩
  · exact congrArg NasAclTable.noIds same
  · change (sw₁.saveTable t).store = _
    rw [saveTable_new new, stored]
    rfl

theorem did_tableCreate (consistent : sw.store.Consistent) {o : Oracle} {rb : Bool} {p : Platform}
    (ran : nasAclTableCreate p o rb (r.ctx sw) = (.ok (), c')) : Did r sw c'.sw.store := by
  obtain ⟨tmp, t, made⟩ := tableCreate_made consistent ran
  rw [made.store]
  exact .tableCreated made.absent made.small

theorem entryList_ok {t : NasObjId} {entries : EntryMap} :
    sw.entryList t = .ok entries ↔
      ∃ c, sw.tableContainers.lookup t = some c ∧ entries = c.aclEntries := by
  unfold NasAclSwitch.entryList
  cases sw.tableContainers.lookup t with
  | none => simp only [reduceCtorEq, false_and, exists_false]
  | some c => simp only [Except.ok.injEq, Option.some.injEq, exists_eq_left', @eq_comm _ _ entries]

theorem counterList_ok {t : NasObjId} {counters : CounterMap} :
    sw.counterList t = .ok counters ↔
      ∃ c, sw.tableContainers.lookup t = some c ∧ counters = c.aclCounters := by
  unfold NasAclSwitch.counterList
  cases sw.tableContainers.lookup t with
  | none => simp only [reduceCtorEq, false_and, exists_false]
  | some c => simp only [Except.ok.injEq, Option.some.injEq, exists_eq_left', @eq_comm _ _ counters]

/-- A table may be deleted when it has a container with nothing in it. -/
theorem tableCheckDelete_ok {t : NasAclTable} :
    t.checkDelete sw = .ok () ↔
      ∃ c, sw.store.containers t.tableId = some c ∧
        (∀ e, c.entries e = none) ∧ ∀ x, c.counters x = none := by
  have no_keys {α : Type} (m : Finmap fun _ : NasObjId => α) :
      ¬ m.keys ≠ ∅ ↔ ∀ k, m.lookup k = none := by
    rw [not_not, Finset.eq_empty_iff_forall_notMem]
    exact forall_congr' fun k => by rw [Finmap.mem_keys, Finmap.lookup_eq_none]
  simp only [NasAclTable.checkDelete, except_bind_ok, throwIf_ok, exists_const, entryList_ok,
    counterList_ok, no_keys, NasAclSwitch.store_containers, Option.map_eq_some_iff]
  constructor
  · rintro ⟨_, ⟨c, held, rfl⟩, entries, _, ⟨c', held', rfl⟩, counters⟩
    rw [held] at held'
    cases held'
    refine ⟨_, ⟨c, held, rfl⟩, fun e => ?_, fun x => ?_⟩
    · exact Option.map_eq_none_iff.mpr (entries e)
    · exact Option.map_eq_none_iff.mpr (counters x)
  · rintro ⟨_, ⟨c, held, rfl⟩, entries, counters⟩
    exact ⟨_, ⟨c, held, rfl⟩, fun e => Option.map_eq_none_iff.mp (entries e), _, ⟨c, held, rfl⟩,
      fun x => Option.map_eq_none_iff.mp (counters x)⟩

/-- A table that is found is the one that was asked for. -/
theorem tableId_of_getTable (consistent : sw.store.Consistent) {t : NasObjId} {table : NasAclTable}
    (found : sw.getTable t = .ok table) : table.tableId = t := by
  refine consistent.tableKeyed t table.noIds ?_
  rw [NasAclSwitch.store_tables, show sw.tables.lookup t = some table from getTable_ok.mp found]
  rfl

/-- A table delete that returns. -/
structure TableGone (p : Platform) (rb : Bool) (c c' : Ctx) (t : NasAclTable) (d : Container) :
    Prop where
  key : c.obj.keyGetObjId .tableId = some t.tableId
  found : c.sw.getTable t.tableId = .ok t
  held : c.sw.store.containers t.tableId = some d
  noEntries : ∀ e, d.entries e = none
  noCounters : ∀ x, d.counters x = none
  store : c'.sw.store = c.sw.store.removeTable t.tableId
  saved : Saved rb (fun prev => (tableKeyFill t (prev.setKey c.obj.key)).fill (fillTableAttrInfo p t))
    c.prev c'.prev

theorem tableDelete_gone {c : Ctx} (consistent : c.sw.store.Consistent) {o : Oracle} {rb : Bool}
    {p : Platform} (ran : nasAclTableDelete p o rb c = (.ok (), c')) :
    ∃ t d, TableGone p rb c c' t d := by
  obtain ⟨id, key, t, found, prev, saved, checked, -, rfl⟩ := nasAclTableDelete_ok.mp ran
  obtain ⟨d, held, noEntries, noCounters⟩ := tableCheckDelete_ok.mp checked
  obtain rfl := tableId_of_getTable consistent found
  refine ⟨t, d, key, found, held, noEntries, noCounters, ?_, saved⟩
  change ((c.sw.setTableIds _ _).removeTable _).store = _
  rw [store_removeTable, store_setTableIds]

theorem did_tableDelete (consistent : sw.store.Consistent) {o : Oracle} {rb : Bool} {p : Platform}
    (ran : nasAclTableDelete p o rb (r.ctx sw) = (.ok (), c')) : Did r sw c'.sw.store := by
  obtain ⟨t, d, gone⟩ := tableDelete_gone consistent ran
  rw [gone.store]
  exact .tableDeleted gone.held gone.noEntries gone.noCounters

theorem counterCommit_ok {o : Oracle} {table : NasAclTable} {rb : Bool} {x x' : NasAclCounter} :
    x.commitCreate o table rb = .ok x' ↔
      ∃ ids, o.counterCreate (if x.followingTableNpus then x.copyTableNpus table else x) rb
          = .ok ids ∧
        x' = { (if x.followingTableNpus then x.copyTableNpus table else x) with
          base := (if x.followingTableNpus then x.copyTableNpus table else x).base.committed,
          ndiObjIds := ids } := by
  simp only [NasAclCounter.commitCreate, except_bind_ok, Except.ok.injEq,
    @eq_comm NasAclCounter _ x']

/-- What no attribute of a create request touches. -/
theorem parseCounter_keeps {p : Platform} {t : NasObjId} {attrs : List CpsAttr}
    {x : NasAclCounter} (parsed : parseCounter p t attrs = .ok x) :
    x.tableId = t ∧ x.refs = ∅ := by
  refine except_foldlM_invariant (P := fun x => x.tableId = t ∧ x.refs = ∅)
    (fun x attr x' same turn => ?_) ⟨rfl, rfl⟩ parsed
  unfold parseCounterAttr at turn
  split at turn
  · unfold NasAclCounter.setType at turn
    split at turn
    · rename_i type _
      cases turn
      unfold NasAclCounter.resetTypes
      cases type <;> split <;> exact same
    · cases turn
  · cases turn
    exact same
  · cases turn
    exact same

/-- The counter on the NPUs of its commit. -/
def NasAclCounter.placed (table : NasAclTable) (x : NasAclCounter) : NasAclCounter :=
  if x.followingTableNpus then x.copyTableNpus table else x

/-- A counter create that returns. -/
structure CounterMade (p : Platform) (o : Oracle) (rb : Bool) (c c' : Ctx) (table : NasAclTable)
    (tmp : NasAclCounter) (x : StoredCounter) : Prop where
  key : c.obj.keyGetObjId .counterTableId = some table.tableId
  known : c.sw.getTable table.tableId = .ok table
  parsed : parseCounter p table.tableId c.obj.attrs = .ok tmp
  made : x.counter = { tmp.placed table with
    counterId := x.counter.counterId, base := (tmp.placed table).base.committed, ndiObjIds := ∅ }
  own : x.counter.tableId = table.tableId
  unused : x.counter.refs = ∅
  placed : ∃ ids, o.counterCreate { tmp.placed table with counterId := x.counter.counterId } rb
    = .ok ids ∧ x.onNpus = ids.keys
  given : GivenId o.alloc c.sw.store .counter table.tableId (c.obj.keyGetObjId .counterId)
    x.counter.counterId
  absent : c.sw.store.counter table.tableId x.counter.counterId = none
  small : x.counter.counterId.toNat ≤ nasAclEntryIdMax
  store : c'.sw.store = (c.sw.store.takeId .counter table.tableId x.counter.counterId).onContainer
    table.tableId (Container.putCounter x)
  saved : Saved rb (fun prev => .ok (counterKeyFill x.counter (prev.setKey c.obj.key))) c.prev c'.prev

theorem counterCreate_made {c : Ctx} (consistent : c.sw.store.Consistent) {o : Oracle} {rb : Bool}
    {p : Platform} (ran : nasAclCounterCreate p o rb c = (.ok (), c')) :
    ∃ table tmp x, CounterMade p o rb c c' table tmp x := by
  obtain ⟨t, key, table, found, checked, tmp, parsed, id, g, sw₁, took, x, committed, sw₂, put,
    prev, saved, rfl⟩ := nasAclCounterCreate_ok.mp ran
  obtain rfl := tableId_of_getTable consistent found
  obtain ⟨mine, unused⟩ := parseCounter_keeps parsed
  have placed : (if tmp.followingTableNpus then
      NasAclCounter.copyTableNpus table { tmp with counterId := id }
      else { tmp with counterId := id }) = { tmp.placed table with counterId := id } := by
    unfold NasAclCounter.placed
    split <;> rfl
  obtain ⟨ids, accepted, same⟩ := counterCommit_ok.mp committed
  rw [placed] at accepted same
  obtain rfl : x.counterId = id := congrArg NasAclCounter.counterId same
  have kept : x.tableId = table.tableId ∧ x.refs = ∅ := by
    rw [same]
    unfold NasAclCounter.placed
    split
    · exact ⟨mine, unused⟩
    · exact ⟨mine, unused⟩
  obtain ⟨gen, -, stored, -⟩ := took.spec
  have absent : c.sw.store.counter table.tableId x.counterId = none := by
    refine not_not.mp (took.unused
      (fun id => c.sw.store.counter table.tableId id ≠ none) ?_ ?_)
    · intro given passed
      exact not_not.mpr (store_findCounter_none.mp (Option.isNone_iff_eq_none.mp
        (Option.isSome_eq_false_iff.mp (checked given passed))))
    · intro gen from_ id used
      obtain ⟨d, held, rfl⟩ := Option.map_eq_some_iff.mp from_
      refine ((consistent.containers _ _ held).counterIds id).mpr ?_
      rw [Store.counter, show c.sw.store.containers table.tableId = some d from held] at used
      exact Option.isSome_iff_ne_none.mpr used
  refine ⟨table, tmp, x.stored, key, found, parsed, ?_, kept.1, kept.2, ⟨ids, accepted, ?_⟩,
    took.given, absent, took.small consistent, ?_, saved⟩
  · exact congrArg (fun x : NasAclCounter => { x with ndiObjIds := ∅ }) same
  · exact congrArg (fun x : NasAclCounter => x.ndiObjIds.keys) same
  · change sw₂.store = _
    rw [(saveCounter_ok put).1, stored, kept.1]
    rfl

theorem did_counterCreate (consistent : sw.store.Consistent) {o : Oracle} {rb : Bool}
    {p : Platform} (ran : nasAclCounterCreate p o rb (r.ctx sw) = (.ok (), c')) :
    Did r sw c'.sw.store := by
  obtain ⟨table, tmp, x, made⟩ := counterCreate_made consistent ran
  have absent := made.absent
  rw [made.store]
  rw [← made.own] at absent ⊢
  exact .counterCreated absent made.small made.unused

/-- A counter delete that returns. -/
structure CounterGone (p : Platform) (rb : Bool) (c c' : Ctx) (t id : NasObjId) (x : NasAclCounter) :
    Prop where
  table : c.obj.keyGetObjId .counterTableId = some t
  key : c.obj.keyGetObjId .counterId = some id
  held : c.sw.store.counter t id = some x.stored
  unused : x.refs = ∅
  store : c'.sw.store = c.sw.store.onContainer t
    (Container.freeCounterId id ∘ Container.eraseCounter id)
  saved : Saved rb
    (fun prev => (counterKeyFill x (prev.setKey c.obj.key)).fill (fillCounterAttrInfo p x))
    c.prev c'.prev

/-- A counter that is found is the one that was asked for. -/
theorem counterDelete_gone {c : Ctx} {o : Oracle} {rb : Bool} {p : Platform}
    (ran : nasAclCounterDelete p o rb c = (.ok (), c')) :
    ∃ t id x, CounterGone p rb c c' t id x := by
  obtain ⟨t, table, id, key, x, found, prev, saved, checked, -, sw₁, removed, rfl⟩ :=
    nasAclCounterDelete_ok.mp ran
  have unused : x.refs = ∅ := not_not.mp (throwIf_ok.mp checked)
  have held : c.sw.store.counter t id = some x.stored := by
    rw [NasAclSwitch.store_counter, show c.sw.findCounter t id = some x from getCounter_ok.mp found]
    rfl
  refine ⟨t, id, x, table, key, held, unused, ?_, saved⟩
  change sw₁.store = _
  rw [removeCounter_ok removed, ← Store.onContainer_onContainer, store_setCounterIds_erase,
    Store.onContainer_onContainer]

theorem did_counterDelete {o : Oracle} {rb : Bool} {p : Platform}
    (ran : nasAclCounterDelete p o rb (r.ctx sw) = (.ok (), c')) : Did r sw c'.sw.store := by
  obtain ⟨t, id, x, gone⟩ := counterDelete_gone ran
  rw [gone.store]
  exact .counterDeleted gone.held gone.unused

/-! ## Entries -/

theorem getEntry_store {t id : NasObjId} {e : NasAclEntry} (found : sw.getEntry t id = .ok e) :
    sw.store.entry t id = some e.noIds := by
  rw [NasAclSwitch.store_entry, getEntry_ok.mp found]
  rfl

theorem entryKeyed (consistent : sw.store.Consistent) {t id : NasObjId} {e : NasAclEntry}
    (found : sw.getEntry t id = .ok e) : e.tableId = t ∧ e.entryId = id := by
  have held := getEntry_store found
  obtain ⟨c, container, inside⟩ := Option.bind_eq_some_iff.mp held
  exact (consistent.containers t c container).entryKeyed id e.noIds inside

theorem npusForCreate_frame {p : Platform} {table : NasAclTable} {e e' : NasAclEntry}
    (placed : e.npusForCreate p table = .ok e') :
    e'.tableId = e.tableId ∧ e'.entryId = e.entryId ∧ e'.flist = e.flist ∧ e'.alist = e.alist ∧
      e'.filterNpus = e.filterNpus ∧ e'.priority = e.priority := by
  obtain ⟨rfl, -⟩ := NasAclEntry.npusForCreate_ok.mp placed
  split <;> exact ⟨rfl, rfl, rfl, rfl, rfl, rfl⟩

theorem npusForModify_frame {p : Platform} {table : NasAclTable} {e e' : NasAclEntry}
    (placed : e.npusForModify p table = .ok e') :
    e'.tableId = e.tableId ∧ e'.entryId = e.entryId ∧ e'.flist = e.flist ∧ e'.alist = e.alist ∧
      e'.filterNpus = e.filterNpus ∧ e'.priority = e.priority := by
  obtain ⟨rfl, -⟩ := NasAclEntry.npusForModify_ok.mp placed
  split <;> exact ⟨rfl, rfl, rfl, rfl, rfl, rfl⟩

/-- What a request asks for stays where it was. -/
theorem Request.Asks.stored_old {table : NasAclTable} {old new : NasAclEntry}
    (asks : r.Asks sw table old new) (consistent : sw.store.Consistent) :
    sw.getEntry old.tableId old.entryId = .ok old ∧ old.tableId = table.tableId ∧
      new.tableId = old.tableId ∧ new.entryId = old.entryId := by
  cases asks with
  | whole key set stored parsed =>
      obtain ⟨mine, own⟩ := entryKeyed consistent stored
      refine ⟨?_, mine, ?_⟩
      · rw [mine, own]
        exact stored
      · exact parse_invariant (NasAclEntry.closed_identity _ _) ⟨rfl, rfl⟩ parsed
  | element key stored made =>
      obtain ⟨mine, own⟩ := entryKeyed consistent stored
      refine ⟨?_, mine, ?_⟩
      · rw [mine, own]
        exact stored
      · exact incr_invariant (NasAclEntry.closed_identity _ _) ⟨rfl, rfl⟩ made

/-- An entry of the store is found in the switch, up to NDI ids. -/
theorem findEntry_of_store {t id : NasObjId} {e : NasAclEntry}
    (held : sw.store.entry t id = some e.noIds) :
    ∃ e', sw.findEntry t id = some e' ∧ e'.noIds = e.noIds := by
  rwa [NasAclSwitch.store_entry, Option.map_eq_some_iff] at held

theorem Store.replaceEntry_noIds (old e : NasAclEntry) (s : Store) :
    s.replaceEntry old.noIds e = s.replaceEntry old e := rfl

theorem Store.removeEntry_noIds (e : NasAclEntry) (t id : NasObjId) (s : Store) :
    s.removeEntry e.noIds t id = s.removeEntry e t id := rfl

/-- A changed copy that is saved takes the place of the stored entry. -/
theorem modifies_store (consistent : sw.store.Consistent) {o : Oracle} {rb : Bool}
    {table : NasAclTable} {old new : NasAclEntry}
    {fill : Finset AttrId → CpsObject → Except Exn CpsObject} (asks : r.Asks sw table old new)
    (modifies : Modifies r.platform o rb table old new fill (r.ctx sw) c') :
    ∃ e, new.checkModify r.platform sw table = .ok e ∧
      c'.sw.store = sw.store.replaceEntry old (e.committed ∅) := by
  obtain ⟨e, checked, ids, -, prev, -, sw₁, saved, rfl⟩ := modifies
  obtain ⟨placed, -⟩ := NasAclEntry.checkModify_ok.mp checked
  obtain ⟨stored, -, mine, own⟩ := asks.stored_old consistent
  obtain ⟨mine', own', -⟩ := npusForModify_frame placed
  have renamed := store_setEntryIds sw old.tableId old.entryId
    (o.entryModify ⟨r.platform, sw, table⟩ e old rb).2
  have held : (sw.setEntryIds old.tableId old.entryId
      (o.entryModify ⟨r.platform, sw, table⟩ e old rb).2).store.entry e.tableId e.entryId
        = some old.noIds := by
    rw [renamed, mine', own', mine, own]
    exact getEntry_store stored
  obtain ⟨old', found, same⟩ := findEntry_of_store held
  refine ⟨e, checked, ?_⟩
  change sw₁.store = _
  rw [saveEntry_old (e := e.committed ids) found saved, ← Store.replaceEntry_noIds old', same,
    Store.replaceEntry_noIds]
  exact congrArg (Store.replaceEntry old (e.committed ∅)) renamed

theorem did_modifies (consistent : sw.store.Consistent) {o : Oracle} {rb : Bool}
    {table : NasAclTable} {old new : NasAclEntry}
    {fill : Finset AttrId → CpsObject → Except Exn CpsObject}
    (entry : r.obj.key.subcat = .entry) (asks : r.Asks sw table old new)
    (modifies : Modifies r.platform o rb table old new fill (r.ctx sw) c') :
    Did r sw c'.sw.store := by
  obtain ⟨e, checked, store⟩ := modifies_store consistent asks modifies
  rw [store]
  exact .entryChanged entry asks checked

/-- A delete of a whole entry that returns. -/
structure EntryGone (p : Platform) (rb : Bool) (c c' : Ctx) (e : NasAclEntry) (t id : NasObjId) :
    Prop where
  stored : c.sw.getEntry t id = .ok e
  store : c'.sw.store = c.sw.store.removeEntry e t id
  saved : Saved rb (cpsPackEntry p c.obj e) c.prev c'.prev

theorem entryDelete_gone {c : Ctx} {o : Oracle} {rb : Bool} {table : NasAclTable} {eid : NasObjId}
    {p : Platform} (key : cpsOpKeyExtract c.sw c.obj = .ok ⟨table, some eid, none⟩)
    (ran : nasAclEntryDelete p o rb c = (.ok (), c')) :
    ∃ e, EntryGone p rb c c' e table.tableId eid := by
  obtain ⟨e, stored, -, prev, saved, sw₁, removed, rfl⟩ := (nasAclEntryDelete_ok key).mp ran
  have renamed := store_setEntryIds c.sw e.tableId e.entryId
    (o.entryDelete ⟨p, c.sw, table⟩ e rb).2
  obtain ⟨e', found, gone⟩ := removeEntry_ok removed
  have held : (c.sw.setEntryIds e.tableId e.entryId
      (o.entryDelete ⟨p, c.sw, table⟩ e rb).2).store.entry table.tableId eid = some e.noIds := by
    rw [renamed]
    exact getEntry_store stored
  obtain ⟨e'', found', same⟩ := findEntry_of_store held
  obtain rfl : e' = e'' := Option.some.inj (found.symm.trans found')
  refine ⟨e, stored, ?_, saved⟩
  change sw₁.store = _
  rw [gone, ← Store.removeEntry_noIds e', same, Store.removeEntry_noIds]
  exact congrArg (Store.removeEntry e table.tableId eid) renamed

theorem did_entryDelete {o : Oracle} {rb : Bool}
    {table : NasAclTable} {eid : NasObjId} {p : Platform}
    (key : cpsOpKeyExtract sw r.obj = .ok ⟨table, some eid, none⟩)
    (ran : nasAclEntryDelete p o rb (r.ctx sw) = (.ok (), c')) : Did r sw c'.sw.store := by
  obtain ⟨e, gone⟩ := entryDelete_gone (c := r.ctx sw) key ran
  rw [gone.store]
  exact .entryDeleted key gone.stored

/-- The check of a counter looks at what is stored. -/
theorem checkCounter_store {p : Platform} {e : NasAclEntry} :
    e.checkCounter p sw = .ok () ↔ sw.store.CoversEntry e := by
  rw [NasAclEntry.checkCounter_ok]
  refine forall_congr' fun _ => forall_congr' fun npuId => forall_congr' fun _ => ?_
  rw [NasAclSwitch.store_counter]
  simp only [getCounter_ok, Option.map_eq_some_iff]
  constructor
  · rintro ⟨c, found, here⟩
    exact ⟨c.stored, ⟨c, found, rfl⟩, Finmap.mem_keys.mpr (of_decide_eq_true here)⟩
  · rintro ⟨x, ⟨c, found, rfl⟩, here⟩
    exact ⟨c, found, decide_eq_true (Finmap.mem_keys.mp here)⟩

/-- A create of a whole entry that returns. -/
structure EntryMade (p : Platform) (o : Oracle) (rb : Bool) (c c' : Ctx) (table : NasAclTable)
    (eid : Option NasObjId) (new : NasAclEntry × Bool) (e : NasAclEntry) : Prop where
  parsed : cpsParseEntryObj p c.sw table c.obj.attrs (.new p table.tableId) = .ok new
  placed : { new.1 with entryId := e.entryId }.npusForCreate p table = .ok e
  own : e.tableId = table.tableId
  given : GivenId o.alloc c.sw.store .entry table.tableId eid e.entryId
  absent : c.sw.store.entry e.tableId e.entryId = none
  small : e.entryId.toNat ≤ nasAclEntryIdMax
  counted : c.sw.store.CounterStored e
  covered : c.sw.store.CoversEntry e
  committed : ∃ sw ids, (∀ t id, sw.store.counter t id = c.sw.store.counter t id) ∧
    o.entryCreate ⟨p, sw, table⟩ e rb = .ok ids
  store : c'.sw.store
    = ((c.sw.store.takeId .entry e.tableId e.entryId).putEntry (e.committed ∅)).addRef e
  saved : Saved rb (fun prev => .ok (entryKeyFill e (prev.setKey c.obj.key))) c.prev c'.prev

theorem entryCreate_made {c : Ctx} (consistent : c.sw.store.Consistent) {o : Oracle} {rb : Bool}
    {p : Platform} {table : NasAclTable} {eid : Option NasObjId}
    (key : cpsOpKeyExtract c.sw c.obj = .ok ⟨table, eid, none⟩)
    (ran : nasAclEntryCreate p o rb c = (.ok (), c')) :
    ∃ new e, EntryMade p o rb c c' table eid new e := by
  obtain ⟨checked, new, parsed, id, g, sw₁, took, e, committed, sw₂, put, prev, saved, rfl⟩ :=
    (nasAclEntryCreate_ok key).mp ran
  obtain ⟨t, -, found, -⟩ := cpsOpKeyExtract_ok.mp key
  obtain rfl := tableId_of_getTable consistent found
  obtain ⟨gen, -, stored, -⟩ := took.spec
  have absent : c.sw.store.entry table.tableId id = none := by
    refine not_not.mp (took.unused
      (fun id => c.sw.store.entry table.tableId id ≠ none) ?_ ?_)
    · intro given passed
      exact not_not.mpr (store_findEntry_none.mp (Option.isNone_iff_eq_none.mp
        (Option.isSome_eq_false_iff.mp (checked given passed))))
    · intro gen from_ id used
      obtain ⟨d, held, rfl⟩ := Option.map_eq_some_iff.mp from_
      refine ((consistent.containers _ _ held).entryIds id).mpr ?_
      rw [Store.entry, show c.sw.store.containers table.tableId = some d from held] at used
      exact Option.isSome_iff_ne_none.mpr used
  obtain ⟨e₁, checkedNpus, committed⟩ := except_bind_ok.mp committed
  obtain ⟨ids, done, committed⟩ := except_bind_ok.mp committed
  cases committed
  obtain ⟨placed, covered⟩ := NasAclEntry.checkCreate_ok.mp checkedNpus
  obtain ⟨mine, own, -⟩ := npusForCreate_frame placed
  obtain ⟨mine', -⟩ := parse_invariant (NasAclEntry.closed_identity table.tableId 0) ⟨rfl, rfl⟩
    parsed
  have here : e₁.tableId = table.tableId := mine.trans mine'
  obtain rfl : e₁.entryId = id := own
  have new₁ : sw₁.findEntry (e₁.committed ids).tableId (e₁.committed ids).entryId = none := by
    rw [store_findEntry_none, stored, Store.entry_takeId]
    exact here ▸ absent
  obtain ⟨filed, counted, -⟩ := saveEntry_new new₁ put
  have known : c.sw.store.CounterStored e₁ := fun enabled => by
    have held := counted enabled
    rwa [Store.counter_putEntry, stored, Store.counter_takeId] at held
  have covers : c.sw.store.CoversEntry e₁ := fun enabled npuId mem => by
    have held := checkCounter_store.mp covered enabled npuId mem
    rwa [stored, Store.counter_takeId] at held
  have counters (t id : NasObjId) : sw₁.store.counter t id = c.sw.store.counter t id := by
    rw [stored, Store.counter_takeId]
  refine ⟨new, e₁, parsed, placed, here, took.given, here ▸ absent, took.small consistent, known,
    covers, ⟨sw₁, ids, counters, done⟩, ?_, ?_⟩
  · change sw₂.store = _
    rw [filed, stored, here]
    rfl
  · have same : cpsPackKey p (c.obj.keySetObjId .entryId e₁.entryId) (e₁.committed ids)
        = fun prev => .ok (entryKeyFill e₁ (prev.setKey c.obj.key)) :=
      funext fun prev => cpsPackKey_eq p _ _ prev
    rwa [same] at saved

theorem did_entryCreate (consistent : sw.store.Consistent) {o : Oracle} {rb : Bool}
    {table : NasAclTable} {eid : Option NasObjId}
    (key : cpsOpKeyExtract sw r.obj = .ok ⟨table, eid, none⟩)
    (ran : nasAclEntryCreate r.platform o rb (r.ctx sw) = (.ok (), c')) :
    Did r sw c'.sw.store := by
  obtain ⟨new, e, made⟩ := entryCreate_made (c := r.ctx sw) consistent key ran
  rw [made.store]
  exact .entryCreated key made.parsed made.placed made.absent made.small made.counted made.covered

/-! ## Every request -/

/-- The handler that a request succeeds with; an update of an element is one handler,
whatever its operation. -/
inductive Request.Ran (r : Request) (sw : NasAclSwitch) (c' : Ctx) : Prop
  | tableCreate (ran : nasAclTableCreate r.platform r.oracle r.rollback (r.ctx sw) = (.ok (), c'))
  | tableDelete (ran : nasAclTableDelete r.platform r.oracle r.rollback (r.ctx sw) = (.ok (), c'))
  | counterCreate
      (ran : nasAclCounterCreate r.platform r.oracle r.rollback (r.ctx sw) = (.ok (), c'))
  | counterDelete
      (ran : nasAclCounterDelete r.platform r.oracle r.rollback (r.ctx sw) = (.ok (), c'))
  | entryCreate {table : NasAclTable} {eid : Option NasObjId}
      (key : cpsOpKeyExtract sw r.obj = .ok ⟨table, eid, none⟩)
      (ran : nasAclEntryCreate r.platform r.oracle r.rollback (r.ctx sw) = (.ok (), c'))
  | entryChange {table : NasAclTable} {old new : NasAclEntry}
      {fill : Finset AttrId → CpsObject → Except Exn CpsObject} (entry : r.obj.key.subcat = .entry)
      (asks : r.Asks sw table old new)
      (modifies : Modifies r.platform r.oracle r.rollback table old new fill (r.ctx sw) c')
  | entryDelete {table : NasAclTable} {eid : NasObjId}
      (key : cpsOpKeyExtract sw r.obj = .ok ⟨table, some eid, none⟩)
      (ran : nasAclEntryDelete r.platform r.oracle r.rollback (r.ctx sw) = (.ok (), c'))
  | statsSet (same : c'.sw.store = sw.store)

theorem ran_incr {table : NasAclTable} {eid : NasObjId} {upd : IncrType}
    (entry : r.obj.key.subcat = .entry)
    (key : cpsOpKeyExtract sw r.obj = .ok ⟨table, some eid, some upd⟩)
    (ran : cpsEntryIncrUpd r.platform r.oracle table eid upd r.op r.rollback (r.ctx sw)
      = (.ok (), c')) : r.Ran sw c' := by
  obtain ⟨old, stored, new, made, modifies⟩ := cpsEntryIncrUpd_ok.mp ran
  exact .entryChange entry (.element key stored made) modifies

theorem run_ran {sw' : NasAclSwitch} (ran : r.run sw = (.returned (.ok ()), sw')) :
    ∃ c', r.Ran sw c' ∧ c'.sw = sw' := by
  obtain ⟨refused, -⟩ | ⟨handler, c', mapped, ran, same⟩ := run_cases ran
  · cases refused
  refine ⟨c', ?_, same⟩
  unfold operationMap at mapped
  split at mapped
  · cases mapped
    exact .tableCreate (tryHandler_ok.mp ran)
  · cases mapped
    exact .tableDelete (tryHandler_ok.mp ran)
  · rename_i entry op
    cases mapped
    have ran := tryHandler_ok.mp ran
    obtain ⟨table, eid, key⟩ | ⟨table, eid, upd, key⟩ := entryKey_cases ran
    · exact .entryCreate key ran
    · rw [nasAclEntryCreate_incr key, ← op] at ran
      exact ran_incr entry key ran
  · rename_i entry op
    cases mapped
    have ran := tryHandler_ok.mp ran
    obtain ⟨table, eid, key⟩ | ⟨table, eid, upd, key⟩ := entryKey_cases ran
    · cases eid with
      | none =>
          obtain ⟨_, found, stopped⟩ := Eff.query_bind_ok.mp ran
          cases key.symm.trans found
          cases stopped
      | some eid =>
          obtain ⟨old, stored, new, parsed, modifies⟩ := (nasAclEntryModify_ok key).mp ran
          exact .entryChange entry (.whole key op stored parsed) modifies
    · rw [nasAclEntryModify_incr key, ← op] at ran
      exact ran_incr entry key ran
  · rename_i entry op
    cases mapped
    have ran := tryHandler_ok.mp ran
    obtain ⟨table, eid, key⟩ | ⟨table, eid, upd, key⟩ := entryKey_cases ran
    · cases eid with
      | none =>
          obtain ⟨_, found, stopped⟩ := Eff.query_bind_ok.mp ran
          cases key.symm.trans found
          cases stopped
      | some eid => exact .entryDelete key ran
    · rw [nasAclEntryDelete_incr key, ← op] at ran
      exact ran_incr entry key ran
  · cases mapped
    exact .counterCreate (tryHandler_ok.mp ran)
  · cases mapped
    exact .counterDelete (tryHandler_ok.mp ran)
  · cases mapped
    exact .statsSet ((keeps_nasAclStatsSet (s := sw.store)).ok rfl (tryStatsHandler_ok.mp ran))
  · cases mapped

/-- A request that succeeds has done one of the things it can do. -/
theorem run_did {sw' : NasAclSwitch} (consistent : sw.store.Consistent)
    (ran : r.run sw = (.returned (.ok ()), sw')) : Did r sw sw'.store := by
  obtain ⟨c', handled, rfl⟩ := run_ran ran
  cases handled with
  | tableCreate ran => exact did_tableCreate consistent ran
  | tableDelete ran => exact did_tableDelete consistent ran
  | counterCreate ran => exact did_counterCreate consistent ran
  | counterDelete ran => exact did_counterDelete ran
  | entryCreate key ran => exact did_entryCreate consistent key ran
  | entryChange entry asks modifies => exact did_modifies consistent entry asks modifies
  | entryDelete key ran => exact did_entryDelete key ran
  | statsSet same =>
      rw [same]
      exact .statsSet

end Handlers

end SonicNasAcl
