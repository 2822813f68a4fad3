/-
# RollbackSet -- a full SET that is rolled back

The object that undoes a SET holds the attributes the SET has changed, as they were, and is
run as another SET.  What was there before comes back only if it can be written: a list that
was empty is written as nothing, and is left as the SET made it.

* `filters_back_iff`, `actions_back_iff`, `npus_back_iff`: when each of the three comes back;
* `set_rollsBack_iff`: when a SET and its rollback leave the entry and the references of the
  counters as they were.
-/
import SonicNasAcl.Carried
import SonicNasAcl.Packed
import SonicNasAcl.RollbackIncr

namespace SonicNasAcl

set_option autoImplicit false

open Lib

/-! ## What has to hold of the old entry -/

namespace NasAclEntry

/-- The filters can be written and read again, all of them. -/
structure FiltersReturn (p : Platform) (table : NasAclTable) (old : NasAclEntry) : Prop where
  accepted : ∀ t f, old.flist.find t = some f → f.Accepted p table
  some_ : old.flist ≠ .empty
  full : ∀ f ∈ (old.flist.items p.matchOrder).dropLast, ¬ f.EmptyPorts
  last : PortsLast (old.flist.items p.matchOrder)

/-- The actions can be written and read again, all of them. -/
structure ActionsReturn (p : Platform) (sw : NasAclSwitch) (old : NasAclEntry) : Prop where
  described : ∀ t a, old.alist.find t = some a → a.Described p
  some_ : old.alist ≠ .empty
  full : ∀ a ∈ (old.alist.items p.actionOrder).dropLast, ¬ a.Empty
  objects : ∀ a ∈ old.alist.items p.actionOrder, ¬ a.NoObjects
  counters : ∀ a ∈ old.alist.items p.actionOrder, KnownCounter sw old.tableId a

/-- The NPUs that are written are those that are configured. -/
def NpusReturn (old : NasAclEntry) : Prop :=
  old.followingTableNpus = false ∧ old.npuList = old.base.npus

/-- The entry with the NPUs of its filters cached again, if the request carries filters. -/
def recachedBy (p : Platform) (obj : List CpsAttr) (old : NasAclEntry) : NasAclEntry :=
  if requestFilters p obj = [] then old
  else { old with filterNpus := portNpus p (old.flist.items p.matchOrder) }

/-- The counter the entry uses when the request has been carried out. -/
def counterGiven (p : Platform) (obj : List CpsAttr) (old : NasAclEntry) : Option NasObjId :=
  if requestActions p obj = [] then old.usedCounter
  else ((Keyed.ofItems (requestActions p obj) : ActionList).find .setCounter).map
    NasAclAction.counterId

/-- What a request carries comes back. -/
structure CarriedReturns (p : Platform) (sw : NasAclSwitch) (table : NasAclTable)
    (obj : List CpsAttr) (old : NasAclEntry) : Prop where
  filters : requestFilters p obj ≠ [] → old.FiltersReturn p table
  actions : requestActions p obj ≠ [] → old.ActionsReturn p sw
  npus : listedNpus obj ≠ [] → old.NpusReturn

/-- What is asked of the old entry for a SET with these attributes to be undone. -/
structure SetReturns (p p' : Platform) (sw : NasAclSwitch) (table : NasAclTable)
    (obj : List CpsAttr) (old : NasAclEntry) : Prop where
  carried : old.CarriedReturns p sw table obj
  passes : (old.recachedBy p obj).Passes p sw table
  wayBack : old.WayBack p p' table (Carries p obj) (old.given p obj) (old.recachedBy p obj)
  counters : CountersReturn sw old.tableId old.entryId old.usedCounter (old.counterGiven p obj)

/-- The entry is configured as the old one. -/
structure RestoredTo (old e : NasAclEntry) : Prop where
  priority : e.priority = old.priority
  filters : e.flist = old.flist
  actions : e.alist = old.alist
  npus : e.base.npus = old.base.npus
  following : e.followingTableNpus = old.followingTableNpus

end NasAclEntry

/-- The entry is the old one again, and so are the references of all counters. -/
def EntryRestored (tableId eid : NasObjId) (old : NasAclEntry) (sw sw' : NasAclSwitch) : Prop :=
  (∃ e, sw'.findEntry tableId eid = some e ∧ old.RestoredTo e) ∧ SameRefs sw sw'

/-! ## What comes back -/

section Back

open NasAclEntry

variable {p : Platform} {sw sw' : NasAclSwitch} {table : NasAclTable} {old u : NasAclEntry}
  {new : NasAclEntry × Bool} {obj : List CpsAttr} {ids : NdiObjIdTable}

/-- What a SET has changed of the old entry, packed and read on the new one. -/
abbrev BackFrom (p : Platform) (old : NasAclEntry) (new : NasAclEntry × Bool) (ids : NdiObjIdTable)
    (u : NasAclEntry) : Prop :=
  GivenBack p old new.1.base.dirtyAttrs new.2 (new.1.committed ids) u

theorem mem_dirty {e : NasAclEntry} {a : AttrId} :
    a ∈ e.base.dirtyAttrs ↔ e.isAttrDirty a = true := decide_eq_true_iff.symm

theorem not_mem_dirty {e : NasAclEntry} {a : AttrId} (clean : e.isAttrDirty a = false) :
    a ∉ e.base.dirtyAttrs := of_decide_eq_false clean

theorem filters_back_iff (clean : old.isAttrDirty .entryMatch = false)
    (parsed : cpsParseEntryObj p sw table obj old = .ok new) (back : BackFrom p old new ids u) :
    u.flist = old.flist ↔ (requestFilters p obj ≠ [] → old.flist ≠ .empty ∧
      ∀ f ∈ (old.flist.items p.matchOrder).dropLast, ¬ f.EmptyPorts) := by
  have fields := congrArg Prod.fst back.filters
  obtain ⟨none_, clean', same, -⟩ | ⟨some_, dirty, ⟨held, -⟩, -⟩ := parse_filters clean parsed
  · rw [if_neg fun both => not_mem_dirty clean' both.1] at fields
    exact iff_of_true (fields.trans same) fun carried => absurd none_ carried
  · have carried := mem_dirty.mpr dirty
    rw [forall_prop_of_true some_]
    by_cases empty : old.flist = .empty
    · have nothing : old.writtenFilters p = [] := Keyed.upTo_items_eq_nil.mpr empty
      rw [if_neg fun both => both.2 nothing] at fields
      refine iff_of_false (fun same => some_ ?_) fun both => both.1 empty
      have none_ : (Keyed.ofItems (requestFilters p obj) : FilterList) = .empty :=
        held.symm.trans (fields.symm.trans (same.trans empty))
      exact Keyed.ofItems_eq_empty.mp none_
    · have written : old.writtenFilters p ≠ [] := fun none_ =>
        empty (Keyed.upTo_items_eq_nil.mp none_)
      rw [if_pos ⟨carried, written⟩] at fields
      change u.flist = Keyed.ofItems (old.writtenFilters p) at fields
      rw [fields, NasAclEntry.writtenFilters, Keyed.ofItems_upTo]
      simp only [decide_eq_false_iff_not]
      exact (and_iff_right empty).symm

theorem actions_back_iff (clean : old.isAttrDirty .entryAction = false)
    (parsed : cpsParseEntryObj p sw table obj old = .ok new) (back : BackFrom p old new ids u) :
    u.alist = old.alist ↔ (requestActions p obj ≠ [] → old.alist ≠ .empty ∧
      ∀ a ∈ (old.alist.items p.actionOrder).dropLast, ¬ a.Empty) := by
  have fields := back.actions
  obtain ⟨none_, clean', same⟩ | ⟨some_, dirty, held⟩ := parse_actions clean parsed
  · rw [if_neg fun both => not_mem_dirty clean' both.1] at fields
    exact iff_of_true (fields.trans same) fun carried => absurd none_ carried
  · have carried := mem_dirty.mpr dirty
    rw [forall_prop_of_true some_]
    by_cases empty : old.alist = .empty
    · have nothing : old.writtenActions p = [] := Keyed.upTo_items_eq_nil.mpr empty
      rw [if_neg fun both => both.2 nothing] at fields
      refine iff_of_false (fun same => some_ ?_) fun both => both.1 empty
      have none_ : (Keyed.ofItems (requestActions p obj) : ActionList) = .empty :=
        held.symm.trans (fields.symm.trans (same.trans empty))
      exact Keyed.ofItems_eq_empty.mp none_
    · have written : old.writtenActions p ≠ [] := fun none_ =>
        empty (Keyed.upTo_items_eq_nil.mp none_)
      rw [if_pos ⟨carried, written⟩] at fields
      rw [fields, NasAclEntry.writtenActions, Keyed.ofItems_upTo]
      simp only [decide_eq_false_iff_not]
      exact (and_iff_right empty).symm

/-- An entry that does not follow its table has NPUs. -/
theorem npuList_nonempty (listed : old.Listed) (own : old.followingTableNpus = false) :
    old.npuList ≠ ∅ := by
  unfold npuList
  split
  · assumption
  · exact listed own

theorem npus_back_iff (listed : old.Listed)
    (parsed : cpsParseEntryObj p sw table obj old = .ok new) (back : BackFrom p old new ids u) :
    (u.base.npus = old.base.npus ∧ u.followingTableNpus = old.followingTableNpus) ↔
      (listedNpus obj ≠ [] → old.NpusReturn) := by
  have fields := Prod.ext_iff.mp back.npus
  obtain ⟨none_, unnamed, npus, following⟩ | ⟨some_, named, own⟩ := parse_npus parsed
  · rw [if_neg fun both => Bool.false_ne_true (unnamed.symm.trans both.1)] at fields
    exact iff_of_true ⟨fields.1.trans npus, fields.2.trans following⟩ fun carried => absurd none_ carried
  · rw [forall_prop_of_true some_, NpusReturn]
    cases follows : old.followingTableNpus with
    | true =>
        have nothing : old.writtenNpus p = [] := if_pos follows
        rw [if_neg fun both => both.2 nothing] at fields
        refine iff_of_false (fun same => ?_) fun both => Bool.noConfusion both.1
        exact Bool.noConfusion (own.symm.trans (fields.2.symm.trans same.2))
    | false =>
        have visited : old.writtenNpus p = p.npuOrder.visit old.npuList := by
          rw [writtenNpus, follows]
          rfl
        have set : (old.writtenNpus p).toFinset = old.npuList := by
          ext npuId
          rw [List.mem_toFinset, visited, p.npuOrder.mem_visit]
        have written : old.writtenNpus p ≠ [] := by
          intro none_
          rw [none_] at set
          exact npuList_nonempty listed follows set.symm
        rw [if_pos ⟨named, written⟩, set] at fields
        obtain ⟨npus, following⟩ := fields
        have npus : u.base.npus = old.npuList := npus
        have following : u.followingTableNpus = false := following
        rw [npus, following]
        exact and_comm

theorem filters_marked (clean : old.isAttrDirty .entryMatch = false)
    (parsed : cpsParseEntryObj p sw table obj old = .ok new) :
    .entryMatch ∈ new.1.base.dirtyAttrs ↔ requestFilters p obj ≠ [] := by
  obtain ⟨none_, clean', -⟩ | ⟨some_, dirty, -⟩ := parse_filters clean parsed
  · exact iff_of_false (not_mem_dirty clean') (not_not.mpr none_)
  · exact iff_of_true (mem_dirty.mpr dirty) some_

theorem actions_marked (clean : old.isAttrDirty .entryAction = false)
    (parsed : cpsParseEntryObj p sw table obj old = .ok new) :
    .entryAction ∈ new.1.base.dirtyAttrs ↔ requestActions p obj ≠ [] := by
  obtain ⟨none_, clean', -⟩ | ⟨some_, dirty, -⟩ := parse_actions clean parsed
  · exact iff_of_false (not_mem_dirty clean') (not_not.mpr none_)
  · exact iff_of_true (mem_dirty.mpr dirty) some_

/-- What was packed can be taken back and gives the old entry just when all comes back that the
request carries. -/
theorem restored_iff {sw₁ : NasAclSwitch} (clean : ∀ a, old.isAttrDirty a = false)
    (listed : old.Listed) (parsed : cpsParseEntryObj p sw table obj old = .ok new)
    (readable : ∀ a ∈ new.1.base.dirtyAttrs, old.ReadableAt p table a)
    (bare : sw.store.SameBare sw₁.store) (back : BackFrom p old new ids u) :
    ((∀ a ∈ new.1.base.dirtyAttrs, TakenBack p sw₁ old a) ∧ old.RestoredTo u) ↔
      old.CarriedReturns p sw table obj := by
  have filters := filters_back_iff (clean _) parsed back
  have actions := actions_back_iff (clean _) parsed back
  have npus := npus_back_iff listed parsed back
  have allFilters (full : ∀ f ∈ (old.flist.items p.matchOrder).dropLast, ¬ f.EmptyPorts) :
      old.writtenFilters p = old.flist.items p.matchOrder :=
    upTo_eq_self.mpr fun f mem => decide_eq_false (full f mem)
  have allActions (full : ∀ a ∈ (old.alist.items p.actionOrder).dropLast, ¬ a.Empty) :
      old.writtenActions p = old.alist.items p.actionOrder :=
    upTo_eq_self.mpr fun a mem => decide_eq_false (full a mem)
  constructor
  · rintro ⟨taken, restored⟩
    refine ⟨fun carried => ?_, fun carried => ?_, npus.mp ⟨restored.npus, restored.following⟩⟩
    · have mem := (filters_marked (clean _) parsed).mpr carried
      obtain ⟨some_, full⟩ := filters.mp restored.filters carried
      refine ⟨readable _ mem, some_, full, ?_⟩
      rw [← allFilters full]
      exact taken _ mem
    · have mem := (actions_marked (clean _) parsed).mpr carried
      obtain ⟨some_, full⟩ := actions.mp restored.actions carried
      have each := taken _ mem
      unfold TakenBack at each
      rw [allActions full] at each
      exact ⟨readable _ mem, some_, full, fun a mem => (each a mem).1,
        fun a mem => (knownCounter_bare bare).mp (each a mem).2⟩
  · rintro ⟨returnsFilters, returnsActions, returnsNpus⟩
    obtain ⟨sameNpus, following⟩ := npus.mpr returnsNpus
    refine ⟨fun a mem => ?_, ?_, filters.mpr fun carried => ?_, actions.mpr fun carried => ?_, sameNpus,
      following⟩
    · cases a with
      | entryMatch =>
          have returns := returnsFilters ((filters_marked (clean _) parsed).mp mem)
          unfold TakenBack
          rw [allFilters returns.full]
          exact returns.last
      | entryAction =>
          have returns := returnsActions ((actions_marked (clean _) parsed).mp mem)
          unfold TakenBack
          rw [allActions returns.full]
          exact fun a mem =>
            ⟨returns.objects a mem, (knownCounter_bare bare).mpr (returns.counters a mem)⟩
      | _ => trivial
    · rw [back.priority]
      split
      · rfl
      · rename_i unmarked
        exact parse_priority parsed (decide_eq_false unmarked)
    · exact ⟨(returnsFilters carried).some_, (returnsFilters carried).full⟩
    · exact ⟨(returnsActions carried).some_, (returnsActions carried).full⟩

/-- The entry that comes back puts the old one back, with its NPUs cached again. -/
theorem puts_back (clean : ∀ a, old.isAttrDirty a = false)
    (parsed : cpsParseEntryObj p sw table obj old = .ok new) (back : BackFrom p old new ids u)
    (own : new.1.tableId = old.tableId) (restored : old.RestoredTo u)
    (returns : old.CarriedReturns p sw' table obj) :
    (old.recachedBy p obj).PutsBack (Carries p obj) ids u := by
  have cache : u.filterNpus = (old.recachedBy p obj).filterNpus := by
    have fields := congrArg Prod.snd back.filters
    unfold recachedBy
    obtain ⟨none_, clean', -, same⟩ | ⟨some_, dirty, -, -⟩ := parse_filters (clean _) parsed
    · rw [if_neg fun both => not_mem_dirty clean' both.1] at fields
      rw [if_pos none_]
      exact fields.trans same
    · have returns := returns.filters some_
      have all : old.writtenFilters p = old.flist.items p.matchOrder :=
        upTo_eq_self.mpr fun f mem => decide_eq_false (returns.full f mem)
      have written : old.writtenFilters p ≠ [] := fun none_ =>
        returns.some_ (Keyed.upTo_items_eq_nil.mp none_)
      rw [if_pos ⟨mem_dirty.mpr dirty, written⟩, all] at fields
      rw [if_neg some_]
      exact fields
  have others : (old.recachedBy p obj).tableId = old.tableId ∧
      (old.recachedBy p obj).followingTableNpus = old.followingTableNpus ∧
      (old.recachedBy p obj).base = old.base ∧ (old.recachedBy p obj).alist = old.alist ∧
      (old.recachedBy p obj).flist = old.flist := by
    unfold recachedBy
    split
    · exact ⟨rfl, rfl, rfl, rfl, rfl⟩
    · exact ⟨rfl, rfl, rfl, rfl, rfl⟩
  obtain ⟨tableId, following, base, actions, filters⟩ := others
  -- What is carried is written, since all of it comes back.
  have marks (a : AttrId) : u.isAttrDirty a = true ↔ Carries p obj a := by
    rw [back.marks]
    cases a with
    | entryPriority =>
        rw [mem_dirty, parse_priority_iff (clean _) parsed]
        exact and_iff_left trivial
    | entryMatch =>
        rw [filters_marked (clean _) parsed]
        exact and_iff_left_of_imp fun carried none_ =>
          (returns.filters carried).some_ (Keyed.upTo_items_eq_nil.mp none_)
    | entryAction =>
        rw [actions_marked (clean _) parsed]
        exact and_iff_left_of_imp fun carried none_ =>
          (returns.actions carried).some_ (Keyed.upTo_items_eq_nil.mp none_)
    | _ => exact iff_of_false (fun both => both.2) id
  refine ⟨⟨?_, ?_, ?_, cache, ?_⟩, restored.filters.trans filters.symm, back.ids, marks⟩
  · rw [tableId, back.tableId]
    exact own
  · rw [following]
    exact restored.following
  · rw [base]
    exact restored.npus
  · rw [actions]
    exact restored.actions

end Back

/-! ## A SET and its rollback -/

/-- A full SET of a stored entry that succeeds. -/
structure SetSucceeds (p : Platform) (o : Oracle) (t : Transaction) (index : Nat) (obj : CpsObject)
    (table : NasAclTable) (eid : NasObjId) (old : NasAclEntry) : Prop where
  listed : t.changeList[index]? = some obj
  cat : obj.key.cat = .baseAcl
  entry : obj.key.subcat = .entry
  op : obj.key.oper = .set
  key : cpsOpKeyExtract t.sw obj = .ok ⟨table, some eid, none⟩
  stored : t.sw.getEntry table.tableId eid = .ok old
  wrote : (nasAclCpsApiWrite p o index t).1 = .returned (.ok ())

section Rollback

open NasAclEntry

variable {p p' : Platform} {o o' : Oracle} {t : Transaction} {index : Nat} {obj : CpsObject}
  {table : NasAclTable} {eid : NasObjId} {old u : NasAclEntry} {new : NasAclEntry × Bool}
  {allowed : NasAclSwitch → Request → Prop}

/-- What such a SET has read, and that it passed the checks and was committed. -/
theorem SetSucceeds.reads (set : SetSucceeds p o t index obj table eid old)
    (reached : Reached allowed t.sw) :
    ∃ new, cpsParseEntryObj p t.sw table obj.attrs old = .ok new ∧ new.1.Passes p t.sw table ∧
      ∃ ids, (o.entryModify ⟨p, t.sw, table⟩ new.1 old false).1 = .ok ids := by
  have saves : obj.key.subcat ≠ .stats := by
    rw [set.entry]
    decide
  have mapped : operationMap p o false obj.key.subcat obj.key.oper
      = some (tryHandler (nasAclEntryModify p o false)) := by
    rw [set.entry, set.op]
    rfl
  have wrote : nasAclCpsApiWrite p o index t
      = (.returned (.ok ()), (nasAclCpsApiWrite p o index t).2) := Prod.ext set.wrote rfl
  obtain ⟨c, ran, -⟩ := (nasAclCpsApiWrite_ok set.listed set.cat saves mapped).mp wrote
  obtain ⟨old', stored, new, parsed, e, checked, ids, done, -⟩ := (nasAclEntryModify_ok set.key).mp ran
  cases set.stored.symm.trans stored
  have listed : new.1.Listed :=
    parse_invariant closed_listed (stored_listed reached set.stored) parsed
  obtain ⟨rfl, -⟩ := (checkModify_listed listed).mp checked
  exact ⟨new, parsed, ⟨_, checked⟩, ids, done⟩

theorem SetSucceeds.finds (set : SetSucceeds p o t index obj table eid old)
    (reached : Reached allowed t.sw)
    (parsed : cpsParseEntryObj p t.sw table obj.attrs old = .ok new) :
    t.Finds table eid old new.1 := by
  have consistent := reached_consistent reached
  obtain ⟨tableId, -, found, -⟩ := cpsOpKeyExtract_ok.mp set.key
  obtain rfl := tableId_of_getTable consistent found
  obtain ⟨ownTable, ownEntry⟩ := entryKeyed consistent set.stored
  have identity : new.1.tableId = old.tableId ∧ new.1.entryId = old.entryId :=
    parse_invariant (closed_identity _ _) ⟨rfl, rfl⟩ parsed
  have listed : old.Listed := stored_listed reached set.stored
  refine ⟨ownTable ▸ found, ?_, ownTable, ownEntry, identity.1, identity.2,
    parse_invariant (closed_ndiEntryIds _) rfl parsed, stored_countsByObject reached set.stored,
    listed, parse_invariant closed_listed listed parsed⟩
  rw [ownTable, ownEntry]
  exact getEntry_ok.mp set.stored

/-- Packing an entry fills the keys and leaves the operation. -/
theorem cpsPackAttrs_keys {keyObj prev : CpsObject} {attrs : Finset AttrId} {npuModified : Bool}
    (packed : cpsPackAttrs p keyObj old attrs npuModified .new = .ok prev) :
    prev.key = keyObj.key ∧
      prev.keyData = (entryKeyFill old (CpsObject.new.setKey keyObj.key)).keyData := by
  obtain ⟨filled, blocks, rest⟩ := except_bind_ok.mp packed
  have kept : filled.key = keyObj.key ∧
      filled.keyData = (entryKeyFill old (CpsObject.new.setKey keyObj.key)).keyData := by
    refine except_foldlM_invariant (P := fun x : CpsObject => x.key = keyObj.key ∧
      x.keyData = (entryKeyFill old (CpsObject.new.setKey keyObj.key)).keyData)
      (fun x a x' pre turn => ?_) ?_ blocks
    · obtain ⟨key, data⟩ := fill_keys turn
      exact ⟨key.trans pre.1, data.trans pre.2⟩
    · exact ⟨rfl, rfl⟩
  split at rest
  · obtain ⟨key, data⟩ := fill_keys rest
    exact ⟨key.trans kept.1, data.trans kept.2⟩
  · cases rest
    exact kept

/-- A handler of a full SET. -/
theorem nasAclEntryModify_listed {rb : Bool} {c c' : Ctx}
    (key : cpsOpKeyExtract c.sw c.obj = .ok ⟨table, some eid, none⟩)
    (stored : c.sw.getEntry table.tableId eid = .ok old) (listed : old.Listed) :
    nasAclEntryModify p o rb c = (.ok (), c') ↔
      ∃ new, cpsParseEntryObj p c.sw table c.obj.attrs old = .ok new ∧
        EditRuns p o rb table old new.1
          (cpsPackAttrs p c.obj old new.1.base.dirtyAttrs new.2) c c' := by
  rw [nasAclEntryModify_ok key]
  constructor
  · rintro ⟨old', stored', new, parsed, runs⟩
    cases stored.symm.trans stored'
    exact ⟨new, parsed, (modifies_listed (parse_invariant closed_listed listed parsed)).mp runs⟩
  · rintro ⟨new, parsed, runs⟩
    exact ⟨old, stored, new, parsed,
      (modifies_listed (parse_invariant closed_listed listed parsed)).mpr runs⟩

/-- A SET, and the SET that its rollback is. -/
theorem SetSucceeds.edits (set : SetSucceeds p o t index obj table eid old)
    (hosts : p.Hosts p') (reached : Reached allowed t.sw)
    (parsed : cpsParseEntryObj p t.sw table obj.attrs old = .ok new)
    (passes : new.1.Passes p t.sw table)
    (committed : ∃ ids, (o.entryModify ⟨p, t.sw, table⟩ new.1 old false).1 = .ok ids) :
    t.Edits p p' o o' index obj table eid old new.1
      (cpsPackAttrs p obj old new.1.base.dirtyAttrs new.2)
      fun sw prev n u => ∃ named, cpsParseEntryObj p sw table prev.attrs n = .ok (u, named) := by
  have finds := set.finds reached parsed
  refine ⟨set.listed, set.cat, set.entry, finds, passes, committed, ?_, ?_, ?_, ?_⟩
  · rw [set.op]
    refine ⟨_, rfl, fun c => (nasAclEntryModify_listed set.key set.stored finds.listed).trans ?_⟩
    constructor
    · rintro ⟨new', parsed', runs⟩
      cases parsed.symm.trans parsed'
      exact runs
    · exact fun runs => ⟨new, parsed, runs⟩
  · exact fun prev packed => (cpsPackAttrs_keys packed).1
  · obtain ⟨w, rfl⟩ := hosts
    rw [set.op]
    refine ⟨_, rfl, fun c c' n packed known stored listed => ?_⟩
    have key : cpsOpKeyExtract c.sw c.obj = .ok ⟨table, some eid, none⟩ := by
      rw [opKey_congr (cpsPackAttrs_keys packed).2, opKey_entryKeyFill known,
        keyIncrType_entryKeyFill rfl rfl, finds.ownEntry]
    rw [nasAclEntryModify_listed key stored listed, cpsParseEntryObj_walking]
    constructor
    · rintro ⟨u, parsed, runs⟩
      exact ⟨u.1, ⟨u.2, parsed⟩, _, runs⟩
    · rintro ⟨u, ⟨named, parsed⟩, pack, passes, ids, prev, sw', done, saved, put, same⟩
      exact ⟨(u, named), parsed, passes, ids, prev, sw', done, saved, put, same⟩
  · rintro sw₁ prev n u ⟨named, parsed⟩
    exact parse_invariant (closed_identity n.tableId n.entryId) ⟨rfl, rfl⟩ parsed

/-- What comes back of a list was read. -/
theorem readable_back {sw₁ : NasAclSwitch} {attrs : List CpsAttr} {ids : NdiObjIdTable}
    {named : Bool} (clean : ∀ a, old.isAttrDirty a = false)
    (parsed : cpsParseEntryObj p t.sw table obj.attrs old = .ok new)
    (again : cpsParseEntryObj p sw₁ table attrs (new.1.committed ids) = .ok (u, named))
    (restored : old.RestoredTo u) : ∀ a ∈ new.1.base.dirtyAttrs, old.ReadableAt p table a := by
  have cleanAgain (a : AttrId) : (new.1.committed ids).isAttrDirty a = false :=
    decide_eq_false (Finset.notMem_empty a)
  intro a mem
  cases a with
  | entryMatch =>
      have held : ∀ t f, new.1.flist.find t = some f → f.Accepted p table := by
        obtain ⟨-, clean', -⟩ | ⟨-, -, -, held⟩ := parse_filters (clean _) parsed
        · exact absurd mem (not_mem_dirty clean')
        · exact held
      unfold ReadableAt
      rw [← restored.filters]
      obtain ⟨-, -, same, -⟩ | ⟨-, -, -, held'⟩ := parse_filters (cleanAgain _) again
      · rw [same]
        exact held
      · exact held'
  | entryAction =>
      have held : ActionsRead p new.1 := by
        obtain ⟨-, clean', -⟩ | ⟨-, -, same⟩ := parse_actions (clean _) parsed
        · exact absurd mem (not_mem_dirty clean')
        · exact actionsRead_listed same
      have read : ActionsRead p u := by
        obtain ⟨-, -, same⟩ | ⟨-, -, same⟩ := parse_actions (cleanAgain _) again
        · unfold ActionsRead
          rw [same]
          exact held
        · exact actionsRead_listed same
      unfold ReadableAt ActionsRead
      rw [← restored.actions]
      exact read
  | _ => trivial

/-- A full SET that succeeds is undone by its rollback, entry and references, just when the old
entry is as `SetReturns` says. -/
theorem set_rollsBack_iff (hosts : p.Hosts p') (reached : Reached (fun _ _ => True) t.sw)
    (commits : o.Commits p) (accepts : o'.Accepts p')
    (set : SetSucceeds p o t index obj table eid old) :
    RollsBack p p' o o' index t (EntryRestored table.tableId eid old) ↔
      old.SetReturns p p' t.sw table obj.attrs := by
  obtain ⟨new, parsed, passes, committed⟩ := set.reads reached
  have finds := set.finds reached parsed
  have clean (a : AttrId) : old.isAttrDirty a = false := stored_clean reached set.stored a
  let attrs := new.1.base.dirtyAttrs
  have cleanAgain (ids : NdiObjIdTable) (a : AttrId) :
      (new.1.committed ids).isAttrDirty a = false := decide_eq_false (Finset.notMem_empty a)
  have back (ids : NdiObjIdTable) : BackFrom p old new ids
      (givenBack p old attrs new.2 (new.1.committed ids)) := givenBack_fields (cleanAgain ids) rfl
  have readableOf (returns : old.CarriedReturns p t.sw table obj.attrs) :
      ∀ a ∈ attrs, old.ReadableAt p table a := by
    intro a mem
    cases a with
    | entryMatch => exact (returns.filters ((filters_marked (clean _) parsed).mp mem)).accepted
    | entryAction => exact (returns.actions ((actions_marked (clean _) parsed).mp mem)).described
    | _ => trivial
  have packedOf (readable : ∀ a ∈ attrs, old.ReadableAt p table a) :
      cpsPackAttrs p obj old attrs new.2 .new
        = .ok { entryKeyFill old (CpsObject.new.setKey obj.key) with
          attrs := packedAttrs p old attrs new.2 } := cpsPackAttrs_eq readable new.2
  have undone (sw₁ : NasAclSwitch) (prev : CpsObject) (ids : NdiObjIdTable) (u : NasAclEntry)
      (bare : t.sw.store.SameBare sw₁.store)
      (packed : cpsPackAttrs p obj old attrs new.2 .new = .ok prev) :
      ((∃ named, cpsParseEntryObj p sw₁ table prev.attrs (new.1.committed ids) = .ok (u, named)) ∧
          old.RestoredTo u) ↔
        old.CarriedReturns p t.sw table obj.attrs ∧
          u = givenBack p old attrs new.2 (new.1.committed ids) := by
    have read (readable : ∀ a ∈ attrs, old.ReadableAt p table a) :
        (∃ named, cpsParseEntryObj p sw₁ table prev.attrs (new.1.committed ids) = .ok (u, named)) ↔
          (∀ a ∈ attrs, TakenBack p sw₁ old a) ∧
            u = givenBack p old attrs new.2 (new.1.committed ids) := by
      rw [packedOf readable] at packed
      cases packed
      exact parse_packed_iff readable (cleanAgain ids) finds.sameTable
    constructor
    · rintro ⟨⟨named, again⟩, restored⟩
      have readable := readable_back clean parsed again restored
      obtain ⟨taken, rfl⟩ := (read readable).mp ⟨named, again⟩
      exact ⟨(restored_iff clean finds.listed parsed readable bare (back ids)).mp ⟨taken, restored⟩,
        rfl⟩
    · rintro ⟨returns, rfl⟩
      have readable := readableOf returns
      obtain ⟨taken, restored⟩ :=
        (restored_iff clean finds.listed parsed readable bare (back ids)).mpr returns
      exact ⟨(read readable).mpr ⟨taken, rfl⟩, restored⟩
  have listed : (old.recachedBy p obj.attrs).Listed := by
    unfold recachedBy
    split
    · exact finds.listed
    · exact finds.listed
  have puts (returns : old.CarriedReturns p t.sw table obj.attrs) (ids : NdiObjIdTable) :
      (old.recachedBy p obj.attrs).PutsBack (Carries p obj.attrs) ids
        (givenBack p old attrs new.2 (new.1.committed ids)) :=
    puts_back clean parsed (back ids) finds.sameTable
      ((restored_iff clean finds.listed parsed (readableOf returns) (fun _ _ => rfl) (back ids)).mpr
        returns).2 returns
  have asked : (old.given p obj.attrs).PushesAs new.1 := by
    obtain ⟨filters, actions, npus⟩ := parse_asked clean (stored_fresh reached set.stored) parsed
    exact ⟨filters, actions, npus⟩
  have counter : new.1.usedCounter = old.counterGiven p obj.attrs := by
    unfold counterGiven usedCounter
    obtain ⟨none_, -, same⟩ | ⟨some_, -, same⟩ := parse_actions (clean _) parsed
    · rw [if_pos none_, same]
    · rw [if_neg some_, same]
  refine (rollsBack_edit_iff old.RestoredTo (givenBack p old attrs new.2) commits accepts
    (set.edits hosts reached parsed passes committed)
    (fun u ids => ⟨fun same => ⟨same.1, same.2, same.3, same.4, same.5⟩,
      fun same => ⟨same.1, same.2, same.3, same.4, same.5⟩⟩) (fun u same => same.actions) undone asked
    listed puts).trans ?_
  rw [refsReturn_iff, counter]
  constructor
  · rintro ⟨-, carried, passes, wayBack, counters⟩
    exact ⟨carried, passes, wayBack, counters⟩
  · rintro ⟨carried, passes, wayBack, counters⟩
    exact ⟨⟨_, packedOf (readableOf carried)⟩, carried, passes, wayBack, counters⟩

end Rollback

/-! ### On the bench -/

/-- The object of a full SET of entry 7. -/
def setObject (attrs : List CpsAttr) : CpsObject := (Bench.entryRequest .set attrs).obj

/-- An installed entry that follows the table and has an EGRESS_MASK.  No action is empty, none
has a counter. -/
def NasAclEntry.Masks (e : NasAclEntry) : Prop :=
  e.Free ∧ e.Installed ∧ (e.alist.find .egressMask).isSome ∧
    ∀ a ∈ e.alist.items Bench.platform.actionOrder, ¬ a.Empty ∧ a.actionType ≠ .setCounter

instance (e : NasAclEntry) : Decidable e.Masks :=
  inferInstanceAs (Decidable (_ ∧ _ ∧ _ ∧ _))

theorem set_succeeds {attrs : List CpsAttr}
    (test : ((Bench.after updateRun).getTable 1).toOption.any fun table => table.tableId = 1 ∧
      ((Bench.after updateRun).findEntry 1 7).any fun old => old.Masks)
    (wrote : (nasAclCpsApiWrite Bench.platform Bench.pushingOracle 0
      (elementTransaction (setObject attrs))).1 = .returned (.ok ())) :
    ∃ table old, table.tableId = 1 ∧ old.Masks ∧
      SetSucceeds Bench.platform Bench.pushingOracle (elementTransaction (setObject attrs)) 0
        (setObject attrs) table 7 old := by
  obtain ⟨table, held, test⟩ := (Option.any_eq_true _ _).mp test
  obtain ⟨own, test⟩ := of_decide_eq_true test
  obtain ⟨old, found, test⟩ := (Option.any_eq_true _ _).mp test
  refine ⟨table, old, own, of_decide_eq_true test, rfl, rfl, rfl, rfl, ?_, ?_, wrote⟩
  · exact cpsOpKeyExtract_ok.mpr ⟨1, rfl, except_toOption.mp held, rfl, rfl⟩
  · rw [own]
    exact getEntry_ok.mpr found

theorem NasAclEntry.Masks.returns {e : NasAclEntry} {sw : NasAclSwitch} (masks : e.Masks)
    (described : ∀ t a, e.alist.find t = some a → a.Described Bench.platform) :
    e.ActionsReturn Bench.platform sw := by
  obtain ⟨-, -, some_, valued⟩ := masks
  refine ⟨described, ?_, fun a mem => (valued a (List.mem_of_mem_dropLast mem)).1,
    fun a mem none_ => (valued a mem).1 (.inr none_),
    fun a mem counter => absurd counter (valued a mem).2⟩
  rintro empty
  rw [empty] at some_
  cases some_

/-- The priority and the actions are set, and put back. -/
theorem set_actions_returned :
    let obj := setObject [Bench.u32 .entryPriority 9,
      Bench.listAttr .entryAction [Bench.actionElem .egressMask (egressMask 5)]]
    ∃ old, (Bench.after updateRun).findEntry 1 7 = some old ∧
      RollsBack Bench.platform Bench.platform Bench.pushingOracle Bench.pushingOracle 0
        (elementTransaction obj) (EntryRestored 1 7 old) := by
  intro obj
  have ready : ∃ table old, table.tableId = 1 ∧ old.Masks ∧
      SetSucceeds Bench.platform Bench.pushingOracle (elementTransaction obj) 0 obj table 7 old :=
    set_succeeds (by decide +kernel) (by decide +kernel)
  obtain ⟨table, old, own, masks, set⟩ := ready
  have onBench : Reached (fun _ r => Bench.platform.Hosts r.platform) (elementTransaction obj).sw := by
    refine elementTransaction_reached fun r mem _ => ?_
    rcases List.mem_pair.mp mem with rfl | rfl <;> exact Platform.hosts_self _
  have reached : Reached (fun _ _ => True) (elementTransaction obj).sw :=
    elementTransaction_reached fun _ _ _ => trivial
  have stored : (Bench.after updateRun).getEntry 1 7 = .ok old := own ▸ set.stored
  obtain ⟨new, parsed, -⟩ := set.reads reached
  have finds := set.finds reached parsed
  have readable := reached_readable onBench finds.known (getEntry_ok.mpr finds.stored)
  have noFilters : requestFilters Bench.platform obj.attrs = [] := by decide +kernel
  have noNpus : listedNpus obj.attrs = [] := by decide
  have uncounted : old.usedCounter = none := by
    unfold NasAclEntry.usedCounter
    rw [Option.isNone_iff_eq_none.mp (Option.isSome_eq_false_iff.mp masks.1.2)]
    rfl
  have given : old.counterGiven Bench.platform obj.attrs = none := by
    unfold NasAclEntry.counterGiven
    rw [uncounted]
    decide +kernel
  have same : old.recachedBy Bench.platform obj.attrs = old := if_pos noFilters
  have stays : (old.given Bench.platform obj.attrs).npuList = old.npuList := by
    unfold NasAclEntry.given
    rw [noFilters, noNpus]
    rfl
  have carried : old.CarriedReturns Bench.platform (elementTransaction obj).sw table obj.attrs :=
    ⟨absurd noFilters, fun _ => masks.returns readable.actions, absurd noNpus⟩
  have pushes := Bench.pushingOracle_accepts Bench.platform
  refine ⟨old, getEntry_ok.mp stored, own ▸ (set_rollsBack_iff (Platform.hosts_self _) reached
    pushes.toCommits pushes set).mpr ⟨carried, ?_, ?_, ?_⟩⟩
  · rw [same]
    exact masks.1.passes
  · rw [same]
    exact wayBack_of_installed masks.2.1 stays rfl
  · rw [uncounted, given]
    exact absurd rfl

/-- An entry that followed its table keeps the NPUs it was given. -/
theorem set_not_always_rolled_back :
    ¬ ∀ (p p' : Platform) (o o' : Oracle) (t : Transaction) (index : Nat) (obj : CpsObject)
      (table : NasAclTable) (eid : NasObjId) (old : NasAclEntry),
      p.Hosts p' → Reached (fun _ _ => True) t.sw → o.Commits p → o'.Accepts p' →
      SetSucceeds p o t index obj table eid old →
      RollsBack p p' o o' index t (EntryRestored table.tableId eid old) := by
  intro claim
  let obj := setObject [Bench.u32 .entryNpuIdList 0]
  let write := nasAclCpsApiWrite Bench.platform Bench.pushingOracle 0 (elementTransaction obj)
  have ready : ∃ table old, table.tableId = 1 ∧ old.Masks ∧
      SetSucceeds Bench.platform Bench.pushingOracle (elementTransaction obj) 0 obj table 7 old :=
    set_succeeds (by decide +kernel) (by decide +kernel)
  obtain ⟨table, old, own, masks, set⟩ := ready
  have reached : Reached (fun _ _ => True) (elementTransaction obj).sw :=
    elementTransaction_reached fun _ _ _ => trivial
  have pushes := Bench.pushingOracle_accepts Bench.platform
  obtain ⟨t₁, t₂, wrote, rolled, ⟨e, held, restored⟩, -⟩ := claim _ _ _ _ _ _ _ _ _ _
    (Platform.hosts_self _) reached pushes.toCommits pushes set
  have left : ((nasAclCpsApiRollback Bench.platform Bench.pushingOracle 0 write.2).2.sw.findEntry
      1 7).any fun e => e.followingTableNpus = false := by decide +kernel
  have same : write = (.returned (.ok ()), t₁) := wrote
  rw [same] at left
  rw [show nasAclCpsApiRollback Bench.platform Bench.pushingOracle 0 t₁ = _ from rolled, ← own, held]
    at left
  have own := of_decide_eq_true left
  exact Bool.noConfusion (own.symm.trans (restored.following.trans masks.1.1))

end SonicNasAcl
