/-
# Invariants -- every reachable store is consistent, every failure is clean

`did_consistent` is the step lemma, one case per way a request succeeds, and
`reached_consistent` the induction over runs.  Both hold for any requests, on any
platform, with any answers of the code outside the repository.

* `consistent_and_atomic`: in a reachable switch the store is consistent, and a request
  that returns an error leaves the store exactly as it was;
* `next_cases`: what any later invariant has to look at;
* `reached_entries`: a property of entries that creating and changing one keeps, holds of
  every stored entry.
-/
import SonicNasAcl.Bench
import SonicNasAcl.Outcomes

namespace SonicNasAcl

set_option autoImplicit false

open Lib

variable {r : Request} {sw sw' : NasAclSwitch}

/-! ## One request -/

/-- A request leaves the store alone or succeeds. -/
theorem next_cases (consistent : sw.store.Consistent) (stepped : Request.next sw r = some sw') :
    sw'.store = sw.store ∨ Did r sw sw'.store := by
  unfold Request.next at stepped
  split at stepped
  · rename_i rc sw₁ ran
    cases stepped
    cases rc with
    | error errCode => exact .inl (run_error ran)
    | ok u => exact .inr (run_did consistent ran)
  · cases stepped

theorem did_consistent {s : Store} (consistent : sw.store.Consistent) (did : Did r sw s) :
    s.Consistent := by
  cases did with
  | statsSet => exact consistent
  | tableCreated absent small => exact consistent.create_table small
  | tableDeleted => exact consistent.removeTable
  | counterCreated absent small => exact consistent.create_counter small
  | counterDeleted => exact consistent.removeCounter
  | @entryCreated _ _ _ e _ _ _ _ _ small =>
      exact (consistent.create_entry (e := e.committed ∅) small).addRef
  | @entryChanged table old new e _ asks checked =>
      obtain ⟨stored, -, mine, own⟩ := asks.stored_old consistent
      obtain ⟨mine', own', -⟩ := npusForModify_frame (NasAclEntry.checkModify_ok.mp checked).1
      refine consistent.replaceEntry (e := e.committed ∅) ?_
      change (sw.store.entry e.tableId e.entryId).isSome
      rw [mine', own', mine, own, getEntry_store stored]
      rfl
  | entryDeleted => exact consistent.removeEntry

/-! ## Runs -/

theorem reached_consistent {allowed : NasAclSwitch → Request → Prop}
    (reached : Reached allowed sw) : sw.store.Consistent := by
  refine reached.invariant (fun sw => sw.store.Consistent) ?_ ?_
  · rw [NasAclSwitch.store_new]
    exact Store.consistent_empty
  · intro sw r sw' consistent _ stepped
    obtain same | did := next_cases consistent stepped
    · exact same.symm ▸ consistent
    · exact did_consistent consistent did

/-- Store consistency and failure atomicity. -/
theorem consistent_and_atomic (reached : Reached (fun _ _ => True) sw) :
    sw.store.Consistent ∧
      ∀ (r : Request) (rc : ErrCode) (sw' : NasAclSwitch),
        r.run sw = (.returned (.error rc), sw') → sw'.store = sw.store :=
  ⟨reached_consistent reached, fun _ _ _ failed => run_error failed⟩

/-! ## Properties of entries -/

/-- Every entry has a table, and with it the property. -/
def Store.Entries (P : NasAclTable → NasAclEntry → Prop) (s : Store) : Prop :=
  ∀ t k e, s.entry t k = some e → ∃ table, s.tables t = some table ∧ P table e

/-- What a request makes of an entry has the property. -/
structure KeepsEntries (P : NasAclTable → NasAclEntry → Prop) (r : Request) (sw : NasAclSwitch) :
    Prop where
  created : ∀ {table : NasAclTable} {eid : Option NasObjId} {new : NasAclEntry × Bool}
    {e : NasAclEntry} {id : NasObjId}, cpsOpKeyExtract sw r.obj = .ok ⟨table, eid, none⟩ →
    cpsParseEntryObj r.platform sw table r.obj.attrs (.new r.platform table.tableId) = .ok new →
    { new.1 with entryId := id }.npusForCreate r.platform table = .ok e →
    P table.noIds (e.committed ∅)
  changed : ∀ {table : NasAclTable} {old new e : NasAclEntry}, r.Asks sw table old new →
    new.checkModify r.platform sw table = .ok e → P table.noIds old.noIds →
    P table.noIds (e.committed ∅)

theorem getTable_store {t : NasObjId} {table : NasAclTable} (found : sw.getTable t = .ok table) :
    sw.store.tables t = some table.noIds := by
  rw [NasAclSwitch.store_tables, show sw.tables.lookup t = some table from getTable_ok.mp found]
  rfl

theorem opKey_table (consistent : sw.store.Consistent) {obj : CpsObject} {table : NasAclTable}
    {eid : Option NasObjId} {upd : Option IncrType}
    (key : cpsOpKeyExtract sw obj = .ok ⟨table, eid, upd⟩) :
    sw.store.tables table.tableId = some table.noIds := by
  obtain ⟨t, -, found, -⟩ := cpsOpKeyExtract_ok.mp key
  rw [tableId_of_getTable consistent found]
  exact getTable_store found

theorem Request.Asks.table_stored {table : NasAclTable} {old new : NasAclEntry}
    (consistent : sw.store.Consistent) (asks : r.Asks sw table old new) :
    sw.store.tables table.tableId = some table.noIds := by
  cases asks with
  | whole key => exact opKey_table consistent key
  | element key => exact opKey_table consistent key

namespace Store

variable {P : NasAclTable → NasAclEntry → Prop} {s s' : Store}

theorem Entries.putEntry {e : NasAclEntry} {table : NasAclTable} (all : s.Entries P)
    (here : s.tables e.tableId = some table) (holds : P table e) : (s.putEntry e).Entries P := by
  intro t k e' held
  rw [Store.putEntry, entry_onContainer] at held
  by_cases mine : t = e.tableId
  · subst mine
    rw [if_pos rfl] at held
    obtain ⟨c, container, inside⟩ := Option.bind_eq_some_iff.mp held
    simp only [Container.putEntry] at inside
    split at inside
    · cases inside
      exact ⟨table, here, holds⟩
    · refine all _ k e' ?_
      rw [entry, container]
      exact inside
  · rw [if_neg mine] at held
    exact all t k e' held

/-- Acting on a container in a way that only removes entries. -/
theorem Entries.onContainer {t : NasObjId} {f : Container → Container} (all : s.Entries P)
    (fewer : ∀ c k e, (f c).entries k = some e → c.entries k = some e) :
    (s.onContainer t f).Entries P := by
  intro t' k e held
  rw [entry_onContainer] at held
  refine all t' k e ?_
  split at held
  · rename_i here
    obtain ⟨c, container, inside⟩ := Option.bind_eq_some_iff.mp held
    rw [here, entry, container]
    exact fewer c k e inside
  · exact held

theorem Entries.takeId {objType : ObjType} {t id : NasObjId} (all : s.Entries P) :
    (s.takeId objType t id).Entries P := by
  cases objType with
  | entry => exact all.onContainer (f := Container.takeEntryId id) fun _ _ _ held => held
  | counter => exact all.onContainer (f := Container.takeCounterId id) fun _ _ _ held => held
  | _ => exact all

theorem tables_addRef (e : NasAclEntry) (s : Store) : (s.addRef e).tables = s.tables := by
  unfold Store.addRef
  split <;> rfl

theorem tables_delRef (e : NasAclEntry) (s : Store) : (s.delRef e).tables = s.tables := by
  unfold Store.delRef
  split <;> rfl

theorem Entries.addRef {e : NasAclEntry} (all : s.Entries P) : (s.addRef e).Entries P := by
  unfold Store.addRef
  split
  · exact all.onContainer (f := Container.modifyRefs _ _) fun _ _ _ held => held
  · exact all

theorem Entries.delRef {e : NasAclEntry} (all : s.Entries P) : (s.delRef e).Entries P := by
  unfold Store.delRef
  split
  · exact all.onContainer (f := Container.modifyRefs _ _) fun _ _ _ held => held
  · exact all

end Store

open Store in
theorem did_entries {P : NasAclTable → NasAclEntry → Prop} {s : Store}
    (consistent : sw.store.Consistent) (all : sw.store.Entries P) (keeps : KeepsEntries P r sw)
    (did : Did r sw s) : s.Entries P := by
  cases did with
  | statsSet => exact all
  | @tableCreated table absent small =>
      intro t k e held
      have none_yet : sw.store.containers table.tableId = none := by
        rw [← Option.not_isSome_iff_eq_none, ← consistent.sameKeys, absent]
        exact Bool.false_ne_true
      simp only [Store.entry, Store.putTable, Store.takeId] at held ⊢
      by_cases here : t = table.tableId
      · rw [if_pos here, here, none_yet] at held
        cases held
      · rw [if_neg here] at held ⊢
        exact all t k e held
  | @tableDeleted id c held =>
      intro t k e held
      simp only [Store.entry, Store.removeTable] at held ⊢
      by_cases here : t = id
      · rw [if_pos here] at held
        cases held
      · rw [if_neg here] at held ⊢
        exact all t k e held
  | counterCreated =>
      exact all.takeId.onContainer (f := Container.putCounter _) fun _ _ _ held => held
  | @counterDeleted t id =>
      exact all.onContainer (f := Container.freeCounterId id ∘ Container.eraseCounter id)
        fun _ _ _ held => held
  | @entryCreated table eid new e id key parsed placed =>
      have mine : e.tableId = table.tableId := by
        rw [(npusForCreate_frame placed).1]
        exact (parse_invariant (NasAclEntry.closed_identity _ _) ⟨rfl, rfl⟩ parsed).1
      refine (all.takeId.putEntry (e := e.committed ∅) ?_ (keeps.created key parsed placed)).addRef
      change sw.store.tables e.tableId = some table.noIds
      rw [mine]
      exact opKey_table consistent key
  | @entryChanged table old new e entry asks checked =>
      obtain ⟨stored, mine, mine', -⟩ := asks.stored_old consistent
      have here : e.tableId = table.tableId :=
        ((npusForModify_frame (NasAclEntry.checkModify_ok.mp checked).1).1.trans mine').trans mine
      have known := asks.table_stored consistent
      obtain ⟨table', found, holds⟩ := all _ _ _ (getEntry_store stored)
      rw [mine, known] at found
      cases found
      have made := keeps.changed asks checked holds
      have placed {s : Store} (tables : s.tables = sw.store.tables) :
          s.tables (e.committed ∅).tableId = some table.noIds := by
        rw [tables, show (e.committed ∅).tableId = table.tableId from here]
        exact known
      unfold replaceEntry
      split
      · exact all.delRef.addRef.putEntry (placed (by rw [tables_addRef, tables_delRef])) made
      · exact all.putEntry (placed rfl) made
  | @entryDeleted table eid e key stored =>
      refine all.delRef.onContainer fun c k e' held => ?_
      simp only [Function.comp_apply, Container.freeEntryId, Container.eraseEntry] at held
      split at held
      · cases held
      · exact held

theorem reached_entries {P : NasAclTable → NasAclEntry → Prop}
    {allowed : NasAclSwitch → Request → Prop}
    (keeps : ∀ sw r, sw.store.Consistent → allowed sw r → KeepsEntries P r sw)
    (reached : Reached allowed sw) : sw.store.Entries P := by
  refine reached.invariant_within (fun sw => sw.store.Consistent)
    (fun sw => sw.store.Entries P) (fun _ before => reached_consistent before) ?_ ?_
  · rw [NasAclSwitch.store_new]
    rintro t k e held
    cases held
  · intro sw r sw' consistent all here stepped
    obtain same | did := next_cases consistent stepped
    · exact same.symm ▸ all
    · exact did_entries consistent all (keeps sw r consistent here) did

/-- On the bench, with a table and a counter in it. -/
theorem consistent_and_atomic_on_bench :
    let sw := Bench.after [Bench.createTable [.inPort], Bench.createCounter 4]
    (sw.store.Consistent ∧
      ∀ (r : Request) (rc : ErrCode) (sw' : NasAclSwitch),
        r.run sw = (.returned (.error rc), sw') → sw'.store = sw.store) ∧
    (sw.findCounter 1 4).isSome :=
  ⟨consistent_and_atomic (Reachable.after fun _ _ _ => trivial), by decide +kernel⟩

end SonicNasAcl
