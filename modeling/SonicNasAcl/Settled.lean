/-
# Settled -- what tables and counters are once they are stored

No request changes a table, or the configuration of a counter, in place: whatever is stored
was there before or was made by this request (`Request.Leaves`).  So what its create
establishes of an object holds for as long as the object is stored, and "the table of an
entry" and "the table of a counter" are always the table they were created in.

* `run_leaves`: the step, handler by handler;
* `reached_tables`, `reached_counters`: what a create establishes holds of all that is stored;
* `next_keeps_configured`: a request leaves every table and counter that stays as it is;
* `followers_on_table`: a counter that follows its table is on exactly the table's NPUs, and so
  is an entry, unless a port filter narrows it.
-/
import SonicNasAcl.ListEdits
import SonicNasAcl.RollbackEdit

namespace SonicNasAcl

set_option autoImplicit false

open Lib

/-! ## Where tables and counters come from -/

/-- The tables and counters of a store were there, or the request made them. -/
structure Request.Leaves (r : Request) (sw : NasAclSwitch) (s : Store) : Prop where
  tables : ∀ t table, s.tables t = some table → sw.store.tables t = some table ∨
    ∃ c' tmp, TableMade r.platform r.oracle r.rollback (r.ctx sw) c' tmp table
  counters : ∀ t id x, s.counter t id = some x →
    (∃ y, sw.store.counter t id = some y ∧ y.bare = x.bare) ∨
    ∃ c' table tmp, CounterMade r.platform r.oracle r.rollback (r.ctx sw) c' table tmp x

section Leaves

variable {r : Request} {sw sw' : NasAclSwitch} {c' : Ctx} {s : Store}

theorem Request.Leaves.of_bare (tables : s.tables = sw.store.tables)
    (counters : sw.store.SameBare s) : r.Leaves sw s where
  tables t table held := .inl (tables ▸ held)
  counters t id x held := by
    obtain ⟨y, found, same⟩ := counters.symm.counter held
    exact .inl ⟨y, found, same⟩

theorem leaves_tableCreate (consistent : sw.store.Consistent)
    (ran : nasAclTableCreate r.platform r.oracle r.rollback (r.ctx sw) = (.ok (), c')) :
    r.Leaves sw c'.sw.store := by
  obtain ⟨tmp, made_, made⟩ := tableCreate_made consistent ran
  have empty : sw.store.containers made_.tableId = none := by
    rw [← Option.not_isSome_iff_eq_none, ← consistent.sameKeys]
    exact Option.not_isSome_iff_eq_none.mpr made.absent
  rw [made.store]
  constructor
  · intro t table held
    simp only [Store.putTable, Store.takeId] at held
    split at held
    · cases held
      exact .inr ⟨c', tmp, made⟩
    · exact .inl held
  · intro t id x held
    refine .inl ⟨x, ?_, rfl⟩
    simp only [Store.counter, Store.putTable, Store.takeId] at held ⊢
    split at held
    · rename_i here
      rw [here, show (r.ctx sw).sw.store.containers made_.tableId = none from empty] at held
      cases held
    · exact held

theorem leaves_tableDelete (consistent : sw.store.Consistent)
    (ran : nasAclTableDelete r.platform r.oracle r.rollback (r.ctx sw) = (.ok (), c')) :
    r.Leaves sw c'.sw.store := by
  obtain ⟨gone_, d, gone⟩ := tableDelete_gone consistent ran
  rw [gone.store]
  constructor
  · intro t table held
    simp only [Store.removeTable] at held
    split at held
    · cases held
    · exact .inl held
  · intro t id x held
    refine .inl ⟨x, ?_, rfl⟩
    simp only [Store.counter, Store.removeTable] at held ⊢
    split at held
    · cases held
    · exact held

theorem leaves_counterCreate (consistent : sw.store.Consistent)
    (ran : nasAclCounterCreate r.platform r.oracle r.rollback (r.ctx sw) = (.ok (), c')) :
    r.Leaves sw c'.sw.store := by
  obtain ⟨table, tmp, made_, made⟩ := counterCreate_made consistent ran
  rw [made.store]
  refine ⟨fun t table held => .inl held, fun t id x held => ?_⟩
  rw [Store.counter_onContainer] at held
  split at held
  · rename_i here
    obtain ⟨d, container, inside⟩ := Option.bind_eq_some_iff.mp held
    simp only [Container.putCounter] at inside
    split at inside
    · cases inside
      exact .inr ⟨c', table, tmp, made⟩
    · refine .inl ⟨x, ?_, rfl⟩
      rw [← Store.counter_takeId .counter table.tableId made_.counter.counterId, Store.counter, here]
      exact Option.bind_eq_some_iff.mpr ⟨d, container, inside⟩
  · rw [Store.counter_takeId] at held
    exact .inl ⟨x, held, rfl⟩

theorem leaves_counterDelete
    (ran : nasAclCounterDelete r.platform r.oracle r.rollback (r.ctx sw) = (.ok (), c')) :
    r.Leaves sw c'.sw.store := by
  obtain ⟨t₀, id₀, gone_, gone⟩ := counterDelete_gone ran
  rw [gone.store]
  refine ⟨fun t table held => .inl held, fun t id x held => .inl ⟨x, ?_, rfl⟩⟩
  rw [Store.counter_onContainer] at held
  split at held
  · rename_i here
    obtain ⟨d, container, inside⟩ := Option.bind_eq_some_iff.mp held
    simp only [Function.comp_apply, Container.freeCounterId, Container.eraseCounter] at inside
    split at inside
    · cases inside
    · rw [here]
      exact Option.bind_eq_some_iff.mpr ⟨d, container, inside⟩
  · exact held

/-- Requests on entries move references, and nothing else of a counter. -/
theorem leaves_entryCreate (consistent : sw.store.Consistent) {table : NasAclTable}
    {eid : Option NasObjId} (key : cpsOpKeyExtract sw r.obj = .ok ⟨table, eid, none⟩)
    (ran : nasAclEntryCreate r.platform r.oracle r.rollback (r.ctx sw) = (.ok (), c')) :
    r.Leaves sw c'.sw.store := by
  obtain ⟨new, e, made⟩ := entryCreate_made (c := r.ctx sw) consistent key ran
  rw [made.store]
  have taken : sw.store.SameBare (sw.store.takeId .entry e.tableId e.entryId) := fun t id => by
    rw [Store.counter_takeId]
  refine .of_bare ?_ ((taken.trans Store.sameBare_putEntry).trans Store.sameBare_addRef)
  rw [Store.tables_addRef]
  rfl

theorem leaves_modifies (consistent : sw.store.Consistent) {table : NasAclTable}
    {old new : NasAclEntry} {fill : Finset AttrId → CpsObject → Except Exn CpsObject}
    (asks : r.Asks sw table old new)
    (modifies : Modifies r.platform r.oracle r.rollback table old new fill (r.ctx sw) c') :
    r.Leaves sw c'.sw.store := by
  obtain ⟨e, -, store⟩ := modifies_store consistent asks modifies
  rw [store]
  refine .of_bare ?_ Store.sameBare_replaceEntry
  unfold Store.replaceEntry
  split
  · exact (Store.tables_addRef _ _).trans (Store.tables_delRef _ _)
  · rfl

theorem leaves_entryDelete {table : NasAclTable} {eid : NasObjId}
    (key : cpsOpKeyExtract sw r.obj = .ok ⟨table, some eid, none⟩)
    (ran : nasAclEntryDelete r.platform r.oracle r.rollback (r.ctx sw) = (.ok (), c')) :
    r.Leaves sw c'.sw.store := by
  obtain ⟨e, gone⟩ := entryDelete_gone (c := r.ctx sw) key ran
  rw [gone.store]
  have erased (s : Store) : s.SameBare (s.onContainer table.tableId
      (Container.freeEntryId eid ∘ Container.eraseEntry eid)) := fun t id => by
    rw [Store.counter_onContainer_of_same (f := Container.freeEntryId eid ∘ Container.eraseEntry eid)
      fun _ => rfl]
  exact .of_bare (Store.tables_delRef _ _) (Store.sameBare_delRef.trans (erased _))

/-- Every table and every counter after a request was there before, or was made by it. -/
theorem run_leaves (consistent : sw.store.Consistent)
    (ran : r.run sw = (.returned (.ok ()), sw')) : r.Leaves sw sw'.store := by
  obtain ⟨c', handled, rfl⟩ := run_ran ran
  cases handled with
  | tableCreate ran => exact leaves_tableCreate consistent ran
  | tableDelete ran => exact leaves_tableDelete consistent ran
  | counterCreate ran => exact leaves_counterCreate consistent ran
  | counterDelete ran => exact leaves_counterDelete ran
  | entryCreate key ran => exact leaves_entryCreate consistent key ran
  | entryChange _ asks modifies => exact leaves_modifies consistent asks modifies
  | entryDelete key ran => exact leaves_entryDelete key ran
  | statsSet same =>
      rw [same]
      exact .of_bare rfl fun _ _ => rfl

theorem next_leaves (consistent : sw.store.Consistent) (stepped : Request.next sw r = some sw') :
    r.Leaves sw sw'.store := by
  unfold Request.next at stepped
  split at stepped
  · rename_i rc sw₁ ran
    cases stepped
    cases rc with
    | error errCode =>
        rw [run_error ran]
        exact .of_bare rfl fun _ _ => rfl
    | ok u => exact run_leaves consistent ran
  · cases stepped

end Leaves

/-! ## What a create establishes -/

section Runs

variable {r : Request} {sw sw' : NasAclSwitch} {s : Store} {t id : NasObjId} {table : NasAclTable}
  {allowed : NasAclSwitch → Request → Prop}

/-- A table that is still there is the one that was there. -/
theorem Request.Leaves.table_kept (leaves : r.Leaves sw s) (consistent : s.Consistent)
    (before : sw.store.tables t = some table) (still : (s.tables t).isSome) :
    s.tables t = some table := by
  obtain ⟨table', held⟩ := Option.isSome_iff_exists.mp still
  obtain same | ⟨c', tmp, made⟩ := leaves.tables t table' held
  · exact held.trans (same.symm.trans before)
  · have absent := made.absent
    rw [consistent.tableKeyed t table' held] at absent
    cases absent.symm.trans before

/-- And a counter, but for its references. -/
theorem Request.Leaves.counter_kept (leaves : r.Leaves sw s) (consistent : s.Consistent)
    {x y : StoredCounter} (before : sw.store.counter t id = some y)
    (held : s.counter t id = some x) : x.bare = y.bare := by
  obtain ⟨z, found, same⟩ | ⟨c', table, tmp, made⟩ := leaves.counters t id x held
  · cases before.symm.trans found
    exact same.symm
  · obtain ⟨c, container, inside⟩ := Option.bind_eq_some_iff.mp held
    obtain ⟨mine, own⟩ := (consistent.containers t c container).counterKeyed id x inside
    have absent := made.absent
    rw [← made.own, mine, own] at absent
    cases absent.symm.trans before

theorem reached_tables {P : NasAclTable → Prop}
    (makes : ∀ sw r c' tmp table, allowed sw r →
      TableMade r.platform r.oracle r.rollback (r.ctx sw) c' tmp table → P table)
    (reached : Reached allowed sw) : ∀ t table, sw.store.tables t = some table → P table := by
  refine reached.invariant_within (fun sw => sw.store.Consistent)
    (fun sw => ∀ t table, sw.store.tables t = some table → P table)
    (fun _ before => reached_consistent before) ?_ ?_
  · rintro t table held
    cases held
  · intro sw r sw' consistent all here stepped t table held
    obtain before | ⟨c', tmp, made⟩ := (next_leaves consistent stepped).tables t table held
    · exact all t table before
    · exact makes sw r c' tmp table here made

/-- What the create of a counter establishes, with the table it was created in. -/
theorem reached_counters {P : NasAclTable → StoredCounter → Prop}
    (makes : ∀ sw r c' table tmp x, allowed sw r →
      CounterMade r.platform r.oracle r.rollback (r.ctx sw) c' table tmp x → P table.noIds x.bare)
    (reached : Reached allowed sw) : ∀ t id x, sw.store.counter t id = some x →
      ∃ table, sw.store.tables t = some table ∧ P table x.bare := by
  suffices both : sw.store.Consistent ∧ ∀ t id x, sw.store.counter t id = some x →
      ∃ table, sw.store.tables t = some table ∧ P table x.bare from both.2
  refine reached.invariant (fun sw => sw.store.Consistent ∧ ∀ t id x,
    sw.store.counter t id = some x → ∃ table, sw.store.tables t = some table ∧ P table x.bare) ?_ ?_
  · rw [NasAclSwitch.store_new]
    refine ⟨Store.consistent_empty, ?_⟩
    rintro t id x held
    cases held
  · rintro sw r sw' ⟨consistent, all⟩ here stepped
    have leaves := next_leaves consistent stepped
    have consistent' : sw'.store.Consistent := by
      obtain same | did := next_cases consistent stepped
      · exact same.symm ▸ consistent
      · exact did_consistent consistent did
    refine ⟨consistent', fun t id x held => ?_⟩
    obtain ⟨c, container, inside⟩ := Option.bind_eq_some_iff.mp held
    have still : (sw'.store.tables t).isSome := by
      rw [consistent'.sameKeys, container]
      rfl
    obtain ⟨y, before, same⟩ | ⟨c', table, tmp, made⟩ := leaves.counters t id x held
    · obtain ⟨table, known, holds⟩ := all t id y before
      exact ⟨table, leaves.table_kept consistent' known still, same ▸ holds⟩
    · have mine := ((consistent'.containers t c container).counterKeyed id x inside).1
      have known : sw.store.tables t = some table.noIds := by
        rw [← mine, made.own]
        exact getTable_store made.known
      exact ⟨table.noIds, leaves.table_kept consistent' known still,
        makes sw r c' table tmp x here made⟩

end Runs

/-! ## Tables -/

/-- A table that was committed. -/
structure NasAclTable.Settled (p : Platform) (t : NasAclTable) : Prop where
  created : t.base.createdInNdi = true
  fields : t.allowedFilters ≠ ∅
  onSwitch : t.base.followingSwitchNpus = true → t.base.npus = p.switchNpus
  own : t.base.followingSwitchNpus = false → t.base.npus ≠ ∅

section Tables

variable {p : Platform} {sw : NasAclSwitch} {attrs : List CpsAttr}

theorem addNpu_nonempty (b : BaseObj) (npuId : NpuId) (reset : Bool) :
    (b.addNpu npuId reset).npus ≠ ∅ := by
  unfold BaseObj.addNpu
  dsimp only
  split
  · exact Finset.singleton_ne_empty _
  · exact Finset.insert_ne_empty _ _

/-- The NPUs of a table that is being parsed, and its filters once there are any. -/
structure NasAclTable.Forming (p : Platform) (t : NasAclTable) : Prop where
  fields : t.isAttrDirty .tableAllowedMatchFields = true → t.allowedFilters ≠ ∅
  onSwitch : t.base.followingSwitchNpus = true → t.base.npus = p.switchNpus
  own : t.base.followingSwitchNpus = false → t.base.npus ≠ ∅

theorem NasAclTable.Forming.mark {t : NasAclTable} (forming : t.Forming p) {a : AttrId}
    (other : a ≠ .tableAllowedMatchFields) : (t.markAttrDirty a).Forming p where
  fields dirty := by
    refine forming.fields (decide_eq_true ?_)
    have mem := of_decide_eq_true dirty
    exact (Finset.mem_insert.mp mem).resolve_left (Ne.symm other)
  onSwitch := forming.onSwitch
  own := forming.own

theorem parseTableAttr_forming {st st' : TableParse} {attr : CpsAttr}
    (forming : st.table.Forming p) (turn : parseTableAttr p sw st attr = .ok st') :
    st'.table.Forming p := by
  unfold parseTableAttr at turn
  split at turn
  · split at turn
    · cases turn
    · obtain ⟨table, set, same⟩ := except_bind_ok.mp turn
      cases same
      obtain ⟨_, -, set⟩ := except_bind_ok.mp set
      split at set
      · cases set
      · rename_i stage _
        cases set
        have kept : ({ st.table with stage := stage } : NasAclTable).Forming p :=
          ⟨forming.fields, forming.onSwitch, forming.own⟩
        exact kept.mark fun same => by cases same
  · split at turn
    · cases turn
    · obtain ⟨table, set, same⟩ := except_bind_ok.mp turn
      cases same
      obtain ⟨_, -, set⟩ := except_bind_ok.mp set
      split at set
      · cases set
        have kept : ({ st.table with priority := attr.dataU32 } : NasAclTable).Forming p :=
          ⟨forming.fields, forming.onSwitch, forming.own⟩
        exact kept.mark fun same => by cases same
      · cases set
        exact forming
  · obtain ⟨table, set, same⟩ := except_bind_ok.mp turn
    cases same
    obtain ⟨_, -, set⟩ := except_bind_ok.mp set
    split at set
    · cases set
    · cases set
      refine ⟨fun _ => Finset.insert_ne_empty _ _, ?_, ?_⟩
      · split
        · exact forming.onSwitch
        · exact forming.onSwitch
      · split
        · exact forming.own
        · exact forming.own
  · obtain ⟨table, set, same⟩ := except_bind_ok.mp turn
    cases same
    obtain ⟨_, -, set⟩ := except_bind_ok.mp set
    cases set
    exact ⟨forming.fields, fun follows => Bool.noConfusion follows, fun _ => addNpu_nonempty _ _ _⟩
  · cases turn
    exact forming

theorem parseTable_forming {t : NasAclTable} (parsed : parseTable p sw attrs = .ok t) :
    t.Forming p := by
  obtain ⟨st, ran, same⟩ := except_bind_ok.mp parsed
  cases same
  refine except_foldlM_invariant (P := fun st : TableParse => st.table.Forming p)
    (fun st attr st' forming turn => parseTableAttr_forming forming turn) ?_ ran
  refine ⟨fun dirty => ?_, fun _ => rfl, fun own => Bool.noConfusion own⟩
  have mem : AttrId.tableAllowedMatchFields ∈ (∅ : Finset AttrId) := of_decide_eq_true dirty
  exact absurd mem (Finset.notMem_empty _)

theorem TableMade.settled {o : Oracle} {rb : Bool} {c c' : Ctx} {tmp t : NasAclTable}
    (made : TableMade p o rb c c' tmp t) : t.Settled p := by
  have forming := parseTable_forming made.parsed
  rw [made.made]
  exact ⟨rfl, forming.fields made.fields, forming.onSwitch, forming.own⟩

theorem settled_tables (reached : Reached (fun _ r => r.platform.switchNpus = p.switchNpus) sw)
    {t : NasObjId}
    {table : NasAclTable} (held : sw.store.tables t = some table) : table.Settled p := by
  refine reached_tables (P := NasAclTable.Settled p) (fun sw r c' tmp table same made => ?_) reached
    t table held
  have settled := made.settled
  exact ⟨settled.created, settled.fields, fun on => (settled.onSwitch on).trans same, settled.own⟩

end Tables

/-! ## Counters -/

/-- A counter that was committed, in its table. -/
structure NasAclCounter.Settled (table : NasAclTable) (x : NasAclCounter) : Prop where
  created : x.base.createdInNdi = true
  notSwitch : x.base.followingSwitchNpus = false
  follows : x.followingTableNpus = true → x.base.npus = table.npuList
  own : x.followingTableNpus = false → x.base.npus ≠ ∅

section Counters

variable {p : Platform} {sw : NasAclSwitch} {attrs : List CpsAttr} {table : NasAclTable}

/-- The NPUs of a counter that is being parsed. -/
def NasAclCounter.Forming (x : NasAclCounter) : Prop :=
  x.followingTableNpus = false → x.base.followingSwitchNpus = false ∧ x.base.npus ≠ ∅

theorem parseCounter_forming {t : NasObjId} {x : NasAclCounter}
    (parsed : parseCounter p t attrs = .ok x) : x.Forming := by
  refine except_foldlM_invariant (P := NasAclCounter.Forming) (fun x attr x' forming turn => ?_)
    (fun own => Bool.noConfusion own) parsed
  unfold parseCounterAttr at turn
  split at turn
  · unfold NasAclCounter.setType at turn
    split at turn
    · rename_i type _
      cases turn
      unfold NasAclCounter.resetTypes
      cases type <;> split <;> exact forming
    · cases turn
  · cases turn
    exact fun _ => ⟨rfl, addNpu_nonempty _ _ _⟩
  · cases turn
    exact forming

theorem CounterMade.settled {o : Oracle} {rb : Bool} {c c' : Ctx} {tmp : NasAclCounter}
    {x : StoredCounter} (made : CounterMade p o rb c c' table tmp x) : x.counter.Settled table := by
  have forming := parseCounter_forming made.parsed
  rw [made.made]
  unfold NasAclCounter.placed
  split
  · exact ⟨rfl, rfl, fun _ => rfl, fun own => Bool.noConfusion own⟩
  · rename_i unfollowed
    have own := Bool.eq_false_iff.mpr unfollowed
    exact ⟨rfl, (forming own).1, fun follows => absurd follows unfollowed, fun _ => (forming own).2⟩

theorem settled_counters {allowed : NasAclSwitch → Request → Prop} (reached : Reached allowed sw)
    {t id : NasObjId} {x : StoredCounter} (held : sw.store.counter t id = some x) :
    ∃ table, sw.store.tables t = some table ∧ x.counter.Settled table := by
  obtain ⟨table, known, settled⟩ := reached_counters
    (P := fun table x => x.counter.Settled table) (fun sw r c' table tmp x _ made => by
      have settled := made.settled
      exact ⟨settled.created, settled.notSwitch, settled.follows, settled.own⟩) reached t id x held
  exact ⟨table, known, settled.created, settled.notSwitch, settled.follows, settled.own⟩

end Counters

/-! ## Entries -/

namespace NasAclEntry

/-- Whatever an entry has, it was asked for: the attribute is among those that were set. -/
structure Marked (e : NasAclEntry) : Prop where
  priority : e.priority ≠ 0 → .entryPriority ∈ e.base.setAttrs
  filters : e.flist ≠ .empty → .entryMatch ∈ e.base.setAttrs
  actions : e.alist ≠ .empty → .entryAction ∈ e.base.setAttrs

/-- An entry that was committed, in its table. -/
structure Settled (table : NasAclTable) (e : NasAclEntry) : Prop where
  created : e.base.createdInNdi = true
  clean : e.base.npusDirty = false ∧ e.base.dirtyAttrs = ∅
  notSwitch : e.base.followingSwitchNpus = false
  follows : e.followingTableNpus = true → e.base.npus = table.npuList
  marked : e.Marked

/-- The NPUs of an entry that follows, and that one with its own does not follow the switch. -/
structure Follows (npus : NpuSet) (onSwitch : Bool) (e : NasAclEntry) : Prop where
  table : e.followingTableNpus = true → e.base.npus = npus ∧ e.base.followingSwitchNpus = onSwitch
  own : e.followingTableNpus = false → e.base.followingSwitchNpus = false

section Edits

variable {p : Platform} {sw : NasAclSwitch} {table : NasAclTable} {e : NasAclEntry}

theorem Marked.mark (marked : e.Marked) (a : AttrId) : (e.markAttrDirty a).Marked where
  priority some_ := Finset.mem_insert_of_mem (marked.priority some_)
  filters some_ := Finset.mem_insert_of_mem (marked.filters some_)
  actions some_ := Finset.mem_insert_of_mem (marked.actions some_)

theorem closed_marked : ClosedUnderEdits p sw table Marked where
  setPriority e v marked := by
    have others := marked.mark .entryPriority
    exact ⟨fun _ => Finset.mem_insert_self _ _, others.filters, others.actions⟩
  addFilter e f reset e' marked added := by
    have others := marked.mark .entryMatch
    rw [addFilter_eq added]
    exact ⟨others.priority, fun _ => Finset.mem_insert_self _ _, others.actions⟩
  addAction e a reset e' marked added := by
    have others := marked.mark .entryAction
    obtain ⟨rfl, -⟩ := addAction_ok.mp added
    rw [putAction_frame]
    exact ⟨others.priority, others.filters, fun _ => Finset.mem_insert_self _ _⟩
  addNpu e npuId marked := ⟨marked.priority, marked.filters, marked.actions⟩
  removeFilter e t marked := by
    have others := marked.mark .entryMatch
    exact ⟨others.priority, fun _ => Finset.mem_insert_self _ _, others.actions⟩
  removeAction e t marked := by
    have others := marked.mark .entryAction
    exact ⟨others.priority, others.filters, fun _ => Finset.mem_insert_self _ _⟩

theorem closed_follows (npus : NpuSet) (onSwitch : Bool) :
    ClosedUnderEdits p sw table (Follows npus onSwitch) where
  setPriority e v follows := ⟨follows.table, follows.own⟩
  addFilter e f reset e' follows added := by
    rw [addFilter_eq added]
    exact ⟨follows.table, follows.own⟩
  addAction e a reset e' follows added := by
    obtain ⟨rfl, -⟩ := addAction_ok.mp added
    rw [putAction_frame]
    exact ⟨follows.table, follows.own⟩
  addNpu e npuId _ := ⟨fun follows => Bool.noConfusion follows, fun _ => rfl⟩
  removeFilter e t follows := ⟨follows.table, follows.own⟩
  removeAction e t follows := ⟨follows.table, follows.own⟩

end Edits

end NasAclEntry

section Entries

open NasAclEntry

variable {r : Request} {sw : NasAclSwitch} {table : NasAclTable} {e : NasAclEntry}

theorem keeps_settled : KeepsEntries (fun table e => e.Settled table) r sw where
  created {table eid new e id} key parsed placed := by
    have marked : new.1.Marked := parse_invariant closed_marked
      ⟨fun some_ => absurd rfl some_, fun some_ => absurd rfl some_, fun some_ => absurd rfl some_⟩ parsed
    have follows : new.1.Follows r.platform.switchNpus true :=
      parse_invariant (closed_follows _ _) ⟨fun _ => ⟨rfl, rfl⟩, fun own => Bool.noConfusion own⟩ parsed
    obtain ⟨rfl, -⟩ := npusForCreate_ok.mp placed
    split
    · exact ⟨rfl, ⟨rfl, rfl⟩, rfl, fun _ => rfl, ⟨marked.priority, marked.filters, marked.actions⟩⟩
    · rename_i unfollowed
      exact ⟨rfl, ⟨rfl, rfl⟩, follows.own (Bool.eq_false_iff.mpr unfollowed),
        fun follows => absurd follows unfollowed, ⟨marked.priority, marked.filters, marked.actions⟩⟩
  changed {table old new e} asks checked before := by
    have marked : new.Marked := asks.closed closed_marked.reads
      ⟨before.marked.priority, before.marked.filters, before.marked.actions⟩
    have follows : new.Follows table.npuList false := asks.closed (closed_follows _ _).reads
      ⟨fun follows => ⟨before.follows follows, before.notSwitch⟩, fun _ => before.notSwitch⟩
    obtain ⟨rfl, -⟩ := npusForModify_ok.mp (checkModify_ok.mp checked).1
    split
    · exact ⟨rfl, ⟨rfl, rfl⟩, rfl, fun _ => rfl, ⟨marked.priority, marked.filters, marked.actions⟩⟩
    · refine ⟨rfl, ⟨rfl, rfl⟩, ?_, fun on => (follows.table on).1,
        ⟨marked.priority, marked.filters, marked.actions⟩⟩
      cases on : new.followingTableNpus with
      | true => exact (follows.table on).2
      | false => exact follows.own on

theorem settled_entries {allowed : NasAclSwitch → Request → Prop} (reached : Reached allowed sw)
    {t id : NasObjId} (held : sw.store.entry t id = some e) :
    ∃ table, sw.store.tables t = some table ∧ e.Settled table :=
  reached_entries (fun _ _ _ _ => keeps_settled) reached t id e held

end Entries

/-! ### Their port filters -/

/-- An entry without a port filter caches no NPUs. -/
def NasAclEntry.NarrowedByPorts (e : NasAclEntry) : Prop := e.portFilter = none → e.filterNpus = ∅

section Narrowed

open NasAclEntry NasAclFilter

variable {p : Platform} {r : Request} {sw : NasAclSwitch} {table : NasAclTable} {e : NasAclEntry}

theorem portFilter_none : e.portFilter = none ↔
    ∀ t, isNpuSpecificType t → e.flist.find t = none := by
  rw [portFilter, Option.or_eq_none_iff]
  constructor
  · rintro ⟨inPorts, inPort⟩ t tied
    rcases npuSpecificType_cases tied with rfl | rfl
    · exact inPorts
    · exact inPort
  · exact fun none_ => ⟨none_ _ rfl, none_ _ rfl⟩

theorem narrowed_reset (narrowed : e.NarrowedByPorts) (reset : Bool) :
    (e.resetFilters reset).NarrowedByPorts := by
  unfold resetFilters
  split
  · exact fun _ => rfl
  · exact narrowed

theorem closed_narrowed : ClosedUnderEdits p sw table NarrowedByPorts where
  setPriority _ _ narrowed := narrowed
  addFilter e f reset e' narrowed added := by
    have again : e.addFilter p table f reset = (e.resetFilters reset).addFilter p table f false := rfl
    rw [again] at added
    obtain ⟨-, -, rfl⟩ := addFilter_over_iff.mp added
    intro none_
    have none_ := portFilter_none.mp none_
    cases tied : f.isNpuSpecific with
    | true =>
        have absent := none_ _ tied
        simp only [Keyed.find_put_self] at absent
        cases absent
    | false =>
        refine narrowed_reset narrowed reset (portFilter_none.mpr fun t special => ?_)
        have other : t ≠ f.filterType := by
          rintro rfl
          exact Bool.false_ne_true (tied.symm.trans special)
        exact (Keyed.find_put_of_ne other _).symm.trans (none_ t special)
  addAction e a reset e' narrowed added := by
    obtain ⟨rfl, -⟩ := addAction_ok.mp added
    rw [putAction_frame]
    exact narrowed
  addNpu _ _ narrowed := narrowed
  removeFilter e t narrowed none_ := by
    have none_ := portFilter_none.mp none_
    cases tied : isNpuSpecificType t with
    | true => exact if_pos tied
    | false =>
        refine (if_neg (Bool.eq_false_iff.mp tied)).trans
          (narrowed (portFilter_none.mpr fun t' special => ?_))
        have other : t' ≠ t := by
          rintro rfl
          exact Bool.false_ne_true (tied.symm.trans special)
        exact ((Keyed.find_erase _ _ _).trans (if_neg other)).symm.trans (none_ t' special)
  removeAction _ _ narrowed := narrowed

theorem keeps_narrowed : KeepsEntries (fun _ e => e.NarrowedByPorts) r sw where
  created {table eid new e id} key parsed placed := by
    have narrowed : new.1.NarrowedByPorts := parse_invariant closed_narrowed (fun _ => rfl) parsed
    obtain ⟨rfl, -⟩ := npusForCreate_ok.mp placed
    split
    · exact narrowed
    · exact narrowed
  changed asks checked before := by
    have narrowed := asks.closed closed_narrowed.reads before
    obtain ⟨rfl, -⟩ := npusForModify_ok.mp (checkModify_ok.mp checked).1
    split
    · exact narrowed
    · exact narrowed

end Narrowed

/-! ## Every reachable switch -/

section Reached

variable {p : Platform} {sw sw' : NasAclSwitch} {r : Request}

/-- A request leaves alone every table that is stored before and after it, and of a counter all
but the references. -/
theorem next_keeps_configured (reached : Reached (fun _ _ => True) sw)
    (stepped : Request.next sw r = some sw') :
    (∀ t table table', sw.findTable t = some table → sw'.findTable t = some table' →
      table'.noIds = table.noIds) ∧
    ∀ t id x x', sw.findCounter t id = some x → sw'.findCounter t id = some x' →
      x'.stored.bare = x.stored.bare := by
  have consistent := reached_consistent reached
  have consistent' := reached_consistent (reached.step trivial stepped)
  have leaves := next_leaves consistent stepped
  refine ⟨fun t table table' before after => ?_, fun t id x x' before after => ?_⟩
  · have held : sw'.store.tables t = some table'.noIds := getTable_store (getTable_ok.mpr after)
    have kept := leaves.table_kept consistent' (getTable_store (getTable_ok.mpr before))
      (Option.isSome_of_eq_some held)
    exact Option.some.inj (held.symm.trans kept)
  · have stored : sw.store.counter t id = some x.stored := by
      rw [NasAclSwitch.store_counter, before]
      rfl
    have stored' : sw'.store.counter t id = some x'.stored := by
      rw [NasAclSwitch.store_counter, after]
      rfl
    exact leaves.counter_kept consistent' stored stored'

/-- Whoever follows its table is on the NPUs of the table: a counter always, and an entry if no
port filter narrows it. -/
theorem followers_on_table (reached : Reached (fun _ _ => True) sw) :
    (∀ t id x, sw.findCounter t id = some x → ∃ table, sw.findTable t = some table ∧
      (x.followingTableNpus = true → x.npuList = table.npuList)) ∧
    ∀ t id e, sw.findEntry t id = some e → ∃ table, sw.findTable t = some table ∧
      (e.followingTableNpus = true → e.base.npus = table.npuList ∧
        (e.portFilter = none → e.npuList = table.npuList)) := by
  have found {t : NasObjId} {table : NasAclTable} (known : sw.store.tables t = some table) :
      ∃ table', sw.findTable t = some table' ∧ table'.npuList = table.npuList := by
    obtain ⟨table', held, same⟩ := Option.map_eq_some_iff.mp known
    have kept : table'.noIds.npuList = table.npuList := congrArg NasAclTable.npuList same
    exact ⟨table', held, kept⟩
  refine ⟨fun t id x held => ?_, fun t id e held => ?_⟩
  · have stored : sw.store.counter t id = some x.stored := by
      rw [NasAclSwitch.store_counter, held]
      rfl
    obtain ⟨table, known, settled⟩ := settled_counters reached stored
    obtain ⟨table', held', same⟩ := found known
    exact ⟨table', held', fun follows => (settled.follows follows).trans same.symm⟩
  · have stored := getEntry_store (getEntry_ok.mpr held)
    obtain ⟨table, known, settled⟩ := settled_entries reached stored
    obtain ⟨-, -, narrowed⟩ := reached_entries (P := fun _ e => e.NarrowedByPorts)
      (fun _ _ _ _ => keeps_narrowed) reached t id _ stored
    obtain ⟨table', held', same⟩ := found known
    refine ⟨table', held', fun follows => ?_⟩
    have npus : e.base.npus = table'.npuList := (settled.follows follows).trans same.symm
    refine ⟨npus, fun unported => ?_⟩
    have none_ : e.filterNpus = ∅ := narrowed unported
    rw [← npus, NasAclEntry.npuList, if_neg (not_not.mpr none_)]

end Reached

/-! ### On the bench -/

/-- Table 1 and counter 4, which follow the switch and the table. -/
def followRun : List Request := [Bench.createTable [.inPort], Bench.createCounter 4]

/-- Entry 7, which follows the table too and uses the counter. -/
def followingEntry : Request :=
  Bench.entryRequest .create [Bench.u32 .entryPriority 3,
    Bench.listAttr .entryAction [Bench.actionElem .setCounter [Bench.u64 (.actionValue .setCounter) 4]]]

/-- An entry that uses the counter changes neither. -/
theorem entry_keeps_configured :
    let sw := Bench.after followRun
    ∃ sw', Request.next sw followingEntry = some sw' ∧
      (∀ t table table', sw.findTable t = some table → sw'.findTable t = some table' →
        table'.noIds = table.noIds) ∧
      ∀ t id x x', sw.findCounter t id = some x → sw'.findCounter t id = some x' →
        x'.stored.bare = x.stored.bare := by
  intro sw
  obtain ⟨sw', stepped⟩ : ∃ sw', Request.next sw followingEntry = some sw' :=
    Option.isSome_iff_exists.mp (by decide +kernel)
  exact ⟨sw', stepped, next_keeps_configured (Reachable.after fun _ _ _ => trivial) stepped⟩

theorem bench_followers :
    let sw := Bench.after (followRun ++ [followingEntry])
    (sw.findEntry 1 7).isSome ∧
    (∀ t id x, sw.findCounter t id = some x → ∃ table, sw.findTable t = some table ∧
      (x.followingTableNpus = true → x.npuList = table.npuList)) ∧
    ∀ t id e, sw.findEntry t id = some e → ∃ table, sw.findTable t = some table ∧
      (e.followingTableNpus = true → e.base.npus = table.npuList ∧
        (e.portFilter = none → e.npuList = table.npuList)) :=
  ⟨by decide +kernel, followers_on_table (Reachable.after fun _ _ _ => trivial)⟩

end SonicNasAcl
