/-
# RollbackEntry -- the DELETE of an entry that is rolled back

The DELETE of an entry packs all that was ever set on it, the NPUs as `npuList` shows them
and no empty lists; its rollback creates an entry from that.  What does not survive the
detour is told here: a list with an element that cannot be written or read, NPUs that a port
filter has narrowed, a counter that is not as a new entry needs it.

* `repacked_iff`: when the entry that is created is configured as the one that was deleted;
* `entryDelete_undone_iff`: when the DELETE comes undone.
-/
import SonicNasAcl.RollbackDelete

namespace SonicNasAcl

set_option autoImplicit false

open Lib

namespace NasAclEntry

/-- The entry is packed without a loss, and can be read again where its counters are. -/
structure Repacks (p : Platform) (e : NasAclEntry) : Prop where
  filters : ∀ f ∈ (e.flist.items p.matchOrder).dropLast, ¬ f.EmptyPorts
  cached : e.filterNpus = portNpus p (e.flist.items p.matchOrder)
  actions : ∀ a ∈ (e.alist.items p.actionOrder).dropLast, ¬ a.Empty
  npus : e.followingTableNpus = false → e.npuList = e.base.npus

/-- What has to hold of an entry for its DELETE to be undone; its pushes walk their maps in the
way of the second call. -/
structure DeleteReturns (p p' : Platform) (table : NasAclTable) (sw : NasAclSwitch)
    (e : NasAclEntry) : Prop where
  readable : e.Readable p table
  repacks : e.Repacks p
  last : PortsLast (e.flist.items p.matchOrder)
  objects : ∀ a ∈ e.alist.items p.actionOrder, ¬ a.NoObjects
  counters : ∀ a ∈ e.alist.items p.actionOrder, KnownCounter sw e.tableId a
  covered : sw.store.CoversEntry e
  pushes : ∀ npuId ∈ e.npuList, e.Creatable p' table npuId
  listed : e.ListedIn sw.store

end NasAclEntry

section Repacked

open NasAclEntry

variable {p : Platform} {table : NasAclTable} {e u : NasAclEntry}

theorem NasAclEntry.config_iff {e e' : NasAclEntry} :
    e'.config = e.config ↔
      (e'.tableId = e.tableId ∧ e'.entryId = e.entryId ∧ e'.priority = e.priority) ∧
      (e'.flist = e.flist ∧ e'.filterNpus = e.filterNpus) ∧ e'.alist = e.alist ∧
      (e'.base.npus = e.base.npus ∧ e'.followingTableNpus = e.followingTableNpus) ∧
      e'.base.followingSwitchNpus = e.base.followingSwitchNpus ∧
      e'.base.createdInNdi = e.base.createdInNdi := by
  obtain ⟨⟨npus, onSwitch, dirty, attrs, set, created⟩, t, id, priority, cache, follows, fl, al, ids⟩ := e
  obtain ⟨⟨npus', onSwitch', dirty', attrs', set', created'⟩, t', id', priority', cache', follows', fl', al',
    ids'⟩ := e'
  simp only [config, BaseObj.config, NasAclEntry.mk.injEq, BaseObj.mk.injEq, true_and, and_true]
  constructor
  · rintro ⟨⟨h₁, h₂, h₃⟩, h₄, h₅, h₆, h₇, h₈, h₉, h₁₀⟩
    exact ⟨⟨h₄, h₅, h₆⟩, ⟨h₉, h₇⟩, h₁₀, ⟨h₁, h₈⟩, h₂, h₃⟩
  · rintro ⟨⟨h₄, h₅, h₆⟩, ⟨h₉, h₇⟩, h₁₀, ⟨h₁, h₈⟩, h₂, h₃⟩
    exact ⟨⟨h₁, h₂, h₃⟩, h₄, h₅, h₆, h₇, h₈, h₉, h₁₀⟩

/-- The filters of the new entry. -/
theorem repacked_filters (marked : e.Marked)
    (back : GivenBack p e e.base.setAttrs true (.new p table.tableId) u) :
    u.flist = e.flist ∧ u.filterNpus = e.filterNpus ↔
      (∀ f ∈ (e.flist.items p.matchOrder).dropLast, ¬ f.EmptyPorts) ∧
        e.filterNpus = portNpus p (e.flist.items p.matchOrder) := by
  have fields := back.filters
  by_cases empty : e.flist = .empty
  · have nothing : e.writtenFilters p = [] := Keyed.upTo_items_eq_nil.mpr empty
    have items : e.flist.items p.matchOrder = [] := upTo_eq_nil.mp nothing
    rw [if_neg fun both => both.2 nothing] at fields
    obtain ⟨flist, cache⟩ := Prod.ext_iff.mp fields
    have flist : u.flist = .empty := flist
    have cache : u.filterNpus = ∅ := cache
    rw [flist, cache, items, empty]
    exact and_congr (iff_of_true rfl fun f mem => by cases mem) eq_comm
  · have written : e.writtenFilters p ≠ [] := fun none_ => empty (Keyed.upTo_items_eq_nil.mp none_)
    rw [if_pos ⟨marked.filters empty, written⟩] at fields
    obtain ⟨flist, cache⟩ := Prod.ext_iff.mp fields
    have flist : u.flist = Keyed.ofItems (e.writtenFilters p) := flist
    have cache : u.filterNpus = portNpus p (e.writtenFilters p) := cache
    have full : u.flist = e.flist ↔
        ∀ f ∈ (e.flist.items p.matchOrder).dropLast, ¬ f.EmptyPorts := by
      rw [flist, writtenFilters, Keyed.ofItems_upTo]
      simp only [decide_eq_false_iff_not]
    rw [full]
    refine and_congr_right fun all => ?_
    have whole : e.writtenFilters p = e.flist.items p.matchOrder :=
      upTo_eq_self.mpr fun f mem => decide_eq_false (all f mem)
    rw [cache, whole]
    exact eq_comm

/-- Its actions. -/
theorem repacked_actions (marked : e.Marked)
    (back : GivenBack p e e.base.setAttrs true (.new p table.tableId) u) :
    u.alist = e.alist ↔ ∀ a ∈ (e.alist.items p.actionOrder).dropLast, ¬ a.Empty := by
  have fields := back.actions
  by_cases empty : e.alist = .empty
  · have nothing : e.writtenActions p = [] := Keyed.upTo_items_eq_nil.mpr empty
    have items : e.alist.items p.actionOrder = [] := upTo_eq_nil.mp nothing
    rw [if_neg fun both => both.2 nothing] at fields
    rw [fields, items, empty]
    exact iff_of_true rfl fun a mem => by cases mem
  · have written : e.writtenActions p ≠ [] := fun none_ => empty (Keyed.upTo_items_eq_nil.mp none_)
    rw [if_pos ⟨marked.actions empty, written⟩] at fields
    rw [fields, writtenActions, Keyed.ofItems_upTo]
    simp only [decide_eq_false_iff_not]

/-- The entry on the NPUs of its create. -/
def NasAclEntry.placed (table : NasAclTable) (e : NasAclEntry) : NasAclEntry :=
  if e.followingTableNpus then e.copyTableNpus table else e

/-- Its NPUs, those of the table if it follows. -/
theorem repacked_npus (settled : e.Settled table) (listed : e.Listed)
    (back : GivenBack p e e.base.setAttrs true (.new p table.tableId) u) :
    (u.placed table).base.npus = e.base.npus ∧
        (u.placed table).followingTableNpus = e.followingTableNpus ↔
      (e.followingTableNpus = false → e.npuList = e.base.npus) := by
  have fields := back.npus
  cases follows : e.followingTableNpus with
  | true =>
      have nothing : e.writtenNpus p = [] := if_pos follows
      rw [if_neg fun both => both.2 nothing] at fields
      have following : u.followingTableNpus = true := congrArg Prod.snd fields
      have placed : u.placed table = u.copyTableNpus table := if_pos following
      rw [placed]
      exact iff_of_true ⟨(settled.follows follows).symm, rfl⟩ fun own => Bool.noConfusion own
  | false =>
      have visited : e.writtenNpus p = p.npuOrder.visit e.npuList := by
        rw [writtenNpus, follows]
        rfl
      have set : (e.writtenNpus p).toFinset = e.npuList := by
        ext npuId
        rw [List.mem_toFinset, visited, p.npuOrder.mem_visit]
      have written : e.writtenNpus p ≠ [] := by
        intro none_
        rw [none_] at set
        exact npuList_nonempty listed follows set.symm
      rw [if_pos ⟨rfl, written⟩, set] at fields
      have npus : u.base.npus = e.npuList := congrArg Prod.fst fields
      have own : u.followingTableNpus = false := congrArg Prod.snd fields
      have placed : u.placed table = u := if_neg (Bool.eq_false_iff.mp own)
      rw [placed, npus, own, forall_prop_of_true rfl]
      exact and_iff_left rfl

/-- The entry that is created is configured as the one that was deleted. -/
theorem repacked_iff (settled : e.Settled table) (listed : e.Listed) (mine : e.tableId = table.tableId)
    (onSwitch : u.followingTableNpus = false → u.base.followingSwitchNpus = false)
    (back : GivenBack p e e.base.setAttrs true (.new p table.tableId) u) :
    (({ u with entryId := e.entryId }.placed table).committed ∅).config = e.config ↔
      e.Repacks p := by
  have priority : u.priority = e.priority := by
    rw [back.priority]
    split
    · rfl
    · rename_i unmarked
      exact (not_not.mp fun some_ => unmarked (settled.marked.priority some_)).symm
  have frame : ({ u with entryId := e.entryId }.placed table)
      = { u.placed table with entryId := e.entryId } := by
    unfold NasAclEntry.placed
    split <;> rfl
  have others : (u.placed table).tableId = u.tableId ∧ (u.placed table).priority = u.priority ∧
      (u.placed table).flist = u.flist ∧ (u.placed table).filterNpus = u.filterNpus ∧
      (u.placed table).alist = u.alist ∧ (u.placed table).base.followingSwitchNpus = false := by
    unfold NasAclEntry.placed
    split
    · exact ⟨rfl, rfl, rfl, rfl, rfl, rfl⟩
    · rename_i own
      exact ⟨rfl, rfl, rfl, rfl, rfl, onSwitch (Bool.eq_false_iff.mpr own)⟩
  obtain ⟨tableId, priority', flist, cache, alist, switch⟩ := others
  rw [config_iff, frame]
  change ((u.placed table).tableId = _ ∧ _ ∧ (u.placed table).priority = _) ∧
    ((u.placed table).flist = _ ∧ (u.placed table).filterNpus = _) ∧ (u.placed table).alist = _ ∧
    ((u.placed table).base.npus = _ ∧ (u.placed table).followingTableNpus = _) ∧
    (u.placed table).base.followingSwitchNpus = _ ∧ _ ↔ _
  rw [tableId, priority', flist, cache, alist, switch, repacked_filters settled.marked back,
    repacked_actions settled.marked back, repacked_npus settled listed back]
  constructor
  · rintro ⟨-, ⟨filters, cached⟩, actions, npus, -⟩
    exact ⟨filters, cached, actions, npus⟩
  · rintro ⟨filters, cached, actions, npus⟩
    exact ⟨⟨back.tableId.trans mine.symm, rfl, priority⟩, ⟨filters, cached⟩, actions, npus,
      settled.notSwitch.symm, settled.created.symm⟩

end Repacked

/-! ## Creating the entry again -/

section Runs

open NasAclEntry

variable {p : Platform} {o : Oracle} {sw : NasAclSwitch} {table : NasAclTable} {e : NasAclEntry}

/-- A rollback creates an entry under the id it is given. -/
theorem entryCreate_runs {c : Ctx} (consistent : c.sw.store.Consistent) (accepts : o.Accepts p)
    {id : NasObjId} {new : NasAclEntry × Bool}
    (key : cpsOpKeyExtract c.sw c.obj = .ok ⟨table, some id, none⟩)
    (absent : c.sw.store.entry table.tableId id = none) (small : id.toNat ≤ nasAclEntryIdMax)
    (parsed : cpsParseEntryObj p c.sw table c.obj.attrs (.new p table.tableId) = .ok new)
    (placed : { new.1 with entryId := id }.npusForCreate p table = .ok e)
    (counted : c.sw.store.CounterStored e) (covered : c.sw.store.CoversEntry e)
    (counts : e.CountsByObject) (pushes : ∀ npuId ∈ e.npuList, e.Creatable p table npuId) :
    ∃ c', nasAclEntryCreate p o true c = (.ok (), c') := by
  obtain ⟨t, -, known, -⟩ := cpsOpKeyExtract_ok.mp key
  obtain rfl := tableId_of_getTable consistent known
  obtain ⟨d, held⟩ : ∃ d, c.sw.store.containers table.tableId = some d := by
    refine Option.isSome_iff_exists.mp ?_
    rw [← consistent.sameKeys, getTable_store known]
    rfl
  obtain ⟨g, sw₁, took⟩ : ∃ g sw₁,
      TakesId o.alloc (.new .entry table.tableId) c.sw (some id) id g sw₁ :=
    takesId_some (Option.map_eq_some_iff.mpr ⟨d, held, rfl⟩) small
  obtain ⟨gen, -, stored, -⟩ := took.spec
  obtain ⟨mine, own, -⟩ := npusForCreate_frame placed
  have identity : new.1.tableId = table.tableId ∧ new.1.entryId = 0 :=
    parse_invariant (closed_identity table.tableId 0) ⟨rfl, rfl⟩ parsed
  have here : e.tableId = table.tableId := mine.trans identity.1
  have named : e.entryId = id := own
  have bare : c.sw.store.SameBare sw₁.store := fun t' id' => by
    rw [stored, Store.counter_takeId]
  have covered₁ : sw₁.store.CoversEntry e := bare.coversEntry covered
  have checked : { new.1 with entryId := id }.checkCreate p sw₁ table = .ok e :=
    checkCreate_ok.mpr ⟨placed, checkCounter_store.mpr covered₁⟩
  obtain ⟨ids, done⟩ := accepts.creates sw₁ table e fun npuId mem =>
    (createsOn_iff (counterOn_of_covers covered₁ (fun _ _ => rfl) npuId mem) counts).mpr
      (pushes npuId mem)
  have committed : { new.1 with entryId := id }.commitCreate p o sw₁ table true
      = .ok (e.committed ids) :=
    except_bind_ok.mpr ⟨e, checked, except_bind_ok.mpr ⟨ids, done, rfl⟩⟩
  obtain ⟨sw₂, put⟩ : ∃ sw₂, sw₁.saveEntry (e.committed ids) = .ok sw₂ := by
    refine saveEntry_new_exists ?_ ?_ (bare.counterStored (e := e) |>.mpr counted)
    · change (sw₁.store.containers e.tableId).isSome
      rw [here, stored, Store.takeId, Store.containers_onContainer, if_pos rfl, held]
      rfl
    · change sw₁.findEntry e.tableId e.entryId = none
      rw [store_findEntry_none, stored, Store.entry_takeId, here, named]
      exact absent
  have unused : ∀ id', some id = some id' → (c.sw.findEntry table.tableId id').isSome = false := by
    rintro id' ⟨⟩
    rw [store_findEntry_none.mpr absent]
    rfl
  exact ⟨_, (nasAclEntryCreate_ok key).mpr ⟨unused, new, parsed, id, g, sw₁, took, _, committed, sw₂,
    put, c.prev, rfl, rfl⟩⟩

end Runs

/-! ## A DELETE and its rollback -/

section Rollback

open NasAclEntry

variable {p p' : Platform} {w : Walks} {o o' : Oracle} {t : Transaction} {index : Nat}
  {obj : CpsObject} {sw sw' : NasAclSwitch} {table : NasAclTable} {eid : NasObjId} {e e' : NasAclEntry}

theorem entry_removeEntry {s : Store} {t id : NasObjId} :
    (s.removeEntry e t id).entry t id = none := by
  rw [Store.removeEntry, Store.entry_onContainer, if_pos rfl]
  cases (s.delRef e).containers t with
  | none => rfl
  | some c => exact if_pos rfl

/-- All that was set on an entry that is packed without a loss can be read again. -/
theorem taken_iff (marked : e.Marked) (repacks : e.Repacks p) (bare : sw.store.SameBare sw'.store) :
    (∀ a ∈ e.base.setAttrs, TakenBack p sw' e a) ↔
      PortsLast (e.flist.items p.matchOrder) ∧
        ∀ a ∈ e.alist.items p.actionOrder, ¬ a.NoObjects ∧ KnownCounter sw e.tableId a := by
  have allFilters : e.writtenFilters p = e.flist.items p.matchOrder :=
    upTo_eq_self.mpr fun f mem => decide_eq_false (repacks.filters f mem)
  have allActions : e.writtenActions p = e.alist.items p.actionOrder :=
    upTo_eq_self.mpr fun a mem => decide_eq_false (repacks.actions a mem)
  constructor
  · intro taken
    constructor
    · by_cases empty : e.flist = .empty
      · have none_ : e.writtenFilters p = [] := Keyed.upTo_items_eq_nil.mpr empty
        rw [← allFilters, none_]
        exact List.Pairwise.nil
      · rw [← allFilters]
        exact taken _ (marked.filters empty)
    · by_cases empty : e.alist = .empty
      · have none_ : e.writtenActions p = [] := Keyed.upTo_items_eq_nil.mpr empty
        rw [← allActions, none_]
        exact fun a mem => by cases mem
      · have each := taken _ (marked.actions empty)
        unfold TakenBack at each
        rw [allActions] at each
        exact fun a mem => ⟨(each a mem).1, (knownCounter_bare bare).mp (each a mem).2⟩
  · rintro ⟨last, each⟩ a mem
    cases a with
    | entryMatch =>
        unfold TakenBack
        rw [allFilters]
        exact last
    | entryAction =>
        unfold TakenBack
        rw [allActions]
        exact fun a mem => ⟨(each a mem).1, (knownCounter_bare bare).mpr (each a mem).2⟩
    | _ => trivial

theorem counterStored_of_known
    (known : ∀ a ∈ e.alist.items p.actionOrder, KnownCounter sw e.tableId a) :
    sw.store.CounterStored e := by
  intro enabled
  unfold isCounterEnabled counterId at *
  cases found : e.alist.find .setCounter with
  | none =>
      rw [found] at enabled
      cases enabled
  | some a =>
      have type : a.actionType = .setCounter := e.alist.keyed _ a found
      obtain ⟨x, held, -⟩ := known a (Keyed.mem_items.mpr (type ▸ found)) type
      rw [NasAclSwitch.store_counter]
      exact Option.isSome_map.trans (Option.isSome_of_eq_some held)

/-- The store after an entry is removed: the counters lose a reference. -/
theorem sameBare_removeEntry {s : Store} {t id : NasObjId} : s.SameBare (s.removeEntry e t id) := by
  have erased (s : Store) : s.SameBare (s.onContainer t
      (Container.freeEntryId id ∘ Container.eraseEntry id)) := fun t' id' => by
    rw [Store.counter_onContainer_of_same (f := Container.freeEntryId id ∘ Container.eraseEntry id)
      fun _ => rfl]
  exact Store.sameBare_delRef.trans (erased _)

theorem NasAclEntry.Readable.at (readable : e.Readable p table) (a : AttrId) :
    e.ReadableAt p table a := by
  cases a with
  | entryMatch => exact readable.filters
  | entryAction => exact readable.actions
  | _ => trivial

/-- An entry was deleted from a switch, and what is left is the object it was packed into. -/
structure Deleted (p : Platform) (sw : NasAclSwitch) (table : NasAclTable) (e : NasAclEntry) (c : Ctx) :
    Prop where
  consistent : sw.store.Consistent
  stored : sw.store.entry e.tableId e.entryId = some e.noIds
  own : e.tableId = table.tableId
  settled : e.Settled table
  counts : e.CountsByObject
  listed : e.Listed
  removed : c.sw.store = sw.store.removeEntry e e.tableId e.entryId
  key : cpsOpKeyExtract c.sw c.obj = .ok ⟨table, some e.entryId, none⟩
  attrs : e.Readable p table → c.obj.attrs = packedAttrs p e e.base.setAttrs true

/-- The entry that is read from what was packed. -/
def NasAclEntry.readAgain (p : Platform) (e : NasAclEntry) : NasAclEntry :=
  givenBack p e e.base.setAttrs true (.new p e.tableId)

variable {c c' : Ctx}

theorem Deleted.reads (deleted : Deleted p sw table e c) (readable : e.Readable p table)
    {u : NasAclEntry} :
    (∃ named, cpsParseEntryObj p c.sw table c.obj.attrs (.new p table.tableId) = .ok (u, named)) ↔
      (∀ a ∈ e.base.setAttrs, TakenBack p c.sw e a) ∧ u = e.readAgain p := by
  rw [deleted.attrs readable, readAgain, deleted.own]
  exact parse_packed_iff (fun a _ => readable.at a) (fun _ => rfl) deleted.own.symm

theorem Deleted.bare (deleted : Deleted p sw table e c) : sw.store.SameBare c.sw.store := by
  rw [deleted.removed]
  exact sameBare_removeEntry

/-- It is configured as the old one if that was packed without a loss. -/
theorem Deleted.config_iff (deleted : Deleted p sw table e c) {named : Bool}
    (parsed : cpsParseEntryObj p c.sw table c.obj.attrs (.new p table.tableId)
      = .ok (e.readAgain p, named)) :
    (({ e.readAgain p with entryId := e.entryId }.placed table).committed ∅).config = e.config ↔
      e.Repacks p := by
  have follows : (e.readAgain p).Follows p.switchNpus true :=
    parse_invariant (closed_follows _ _) ⟨fun _ => ⟨rfl, rfl⟩, fun own => Bool.noConfusion own⟩ parsed
  have back : GivenBack p e e.base.setAttrs true (.new p table.tableId) (e.readAgain p) := by
    rw [readAgain, deleted.own]
    exact givenBack_fields (fun _ => rfl) rfl
  exact repacked_iff deleted.settled deleted.listed deleted.own follows.own back

/-- What a create has made of a packed entry, and is configured as it was, can be read. -/
theorem EntryMade.readable {eid : Option NasObjId} {new : NasAclEntry × Bool}
    (made : EntryMade (p.walking w) o true c c' table eid new e')
    (same : (e'.committed ∅).config = e.config) : e.Readable p table := by
  have read : new.1.Readable p table :=
    parse_closed (closed_readable ⟨w, rfl⟩) (readable_new _) made.parsed
  obtain ⟨-, -, filters, actions, -⟩ := npusForCreate_frame made.placed
  obtain ⟨-, ⟨filters', -⟩, actions', -⟩ := NasAclEntry.config_iff.mp same
  exact read.of_same (filters'.symm.trans filters) (actions'.symm.trans actions)

/-- What the create has made of it. -/
theorem Deleted.creates (deleted : Deleted p sw table e c) (readable : e.Readable p table)
    {new : NasAclEntry × Bool}
    (made : EntryMade (p.walking w) o true c c' table (some e.entryId) new e') :
    (∀ a ∈ e.base.setAttrs, TakenBack p c.sw e a) ∧
      ((e'.committed ∅).config = e.config ↔ e.Repacks p) := by
  obtain ⟨u, named⟩ := new
  have parsed := made.parsed
  rw [cpsParseEntryObj_walking] at parsed
  obtain ⟨taken, rfl⟩ := (deleted.reads readable).mp ⟨named, parsed⟩
  have own : e'.entryId = e.entryId := made.given.unique (.inl rfl)
  have same : e' = ({ e.readAgain p with entryId := e.entryId }.placed table) := by
    rw [(npusForCreate_ok.mp made.placed).1, own]
    rfl
  refine ⟨taken, ?_⟩
  rw [same]
  exact deleted.config_iff parsed

/-- The configuration is back when the new entry has that of the old one, and its counter
still lists it. -/
theorem Deleted.restores (deleted : Deleted p sw table e c) {new : NasAclEntry × Bool}
    (made : EntryMade p' o true c c' table (some e.entryId) new e') :
    SameConfig sw c'.sw ↔ (e'.committed ∅).config = e.config ∧ e.ListedIn sw.store := by
  obtain ⟨d, held, -⟩ := Option.bind_eq_some_iff.mp deleted.stored
  have own : e'.entryId = e.entryId := made.given.unique (.inl rfl)
  unfold SameConfig
  rw [made.store, deleted.removed]
  exact config_putEntry_eraseEntry_iff (e := e.noIds) deleted.consistent held deleted.stored
    (made.own.trans deleted.own.symm) own

theorem Deleted.comesBack_iff (deleted : Deleted p sw table e c) (hosts : p.Hosts p')
    (accepts : o.Accepts p') :
    (∃ c', nasAclEntryCreate p' o true c = (.ok (), c') ∧ SameConfig sw c'.sw) ↔
      e.DeleteReturns p p' table sw := by
  obtain ⟨w, rfl⟩ := hosts
  have consistent : c.sw.store.Consistent := deleted.removed ▸ deleted.consistent.removeEntry
  -- Two entries with one configuration are checked and pushed alike.
  have checks {e' : NasAclEntry} (same : (e'.committed ∅).config = e.config) :
      e.ChecksAs e' ∧ e.PushesAs e' := by
    obtain ⟨⟨mine, -⟩, ⟨filters, cache⟩, actions, ⟨npus, following⟩, -⟩ :=
      NasAclEntry.config_iff.mp same
    have checks : e.ChecksAs e' := ⟨mine, following, npus, cache, actions⟩
    exact ⟨checks, filters, actions, checks.npuList⟩
  have counts {e' : NasAclEntry} (same : e.PushesAs e') : e'.CountsByObject :=
    countsByObject_of_actions same.actions deleted.counts
  constructor
  · rintro ⟨c', ran, back⟩
    obtain ⟨new, e', made⟩ := entryCreate_made consistent deleted.key ran
    obtain ⟨same, listed⟩ := (deleted.restores made).mp back
    have readable := made.readable same
    obtain ⟨taken, repacks⟩ := deleted.creates readable made
    have repacks := repacks.mp same
    obtain ⟨last, each⟩ := (taken_iff deleted.settled.marked repacks deleted.bare).mp taken
    obtain ⟨checks, pushes⟩ := checks same
    refine ⟨readable, repacks, last, fun a mem => (each a mem).1, fun a mem => (each a mem).2,
      (checks.coversEntry deleted.bare).mp made.covered, fun npuId mem => ?_, listed⟩
    obtain ⟨sw₁, ids, counters, done⟩ := made.committed
    have covered : sw₁.store.CoversEntry e' := by
      intro enabled npuId mem
      rw [counters]
      exact made.covered enabled npuId mem
    rw [← pushes.npus] at mem
    have creates := accepts.created sw₁ table e' true ids done npuId mem
    exact pushes.creatable.mp
      ((createsOn_iff (counterOn_of_covers covered (fun _ _ => rfl) npuId mem) (counts pushes)).mp
        creates)
  · intro returns
    have taken := (taken_iff deleted.settled.marked returns.repacks deleted.bare).mpr
      ⟨returns.last, fun a mem => ⟨returns.objects a mem, returns.counters a mem⟩⟩
    obtain ⟨named, parsed⟩ := (deleted.reads returns.readable).mpr ⟨taken, rfl⟩
    have same := (deleted.config_iff parsed).mpr returns.repacks
    obtain ⟨checks, pushes⟩ := checks same
    have placed : { e.readAgain p with entryId := e.entryId }.npusForCreate p table
        = .ok ({ e.readAgain p with entryId := e.entryId }.placed table) :=
      npusForCreate_ok.mpr ⟨rfl, fun _ => filterNpus_subset_npuList _⟩
    obtain ⟨d, held, inside⟩ := Option.bind_eq_some_iff.mp deleted.stored
    have absent : c.sw.store.entry table.tableId e.entryId = none := by
      rw [deleted.removed, ← deleted.own]
      exact entry_removeEntry
    have small : e.entryId.toNat ≤ nasAclEntryIdMax := by
      refine (deleted.consistent.containers _ d held).entryIdsWithin.le_max e.entryId ?_
      rw [(deleted.consistent.containers _ d held).entryIds, inside]
      rfl
    have counted :
        c.sw.store.CounterStored ({ e.readAgain p with entryId := e.entryId }.placed table) := by
      have known := deleted.bare.counterStored.mpr (counterStored_of_known returns.counters)
      unfold Store.CounterStored isCounterEnabled counterId at known ⊢
      rw [checks.actions, checks.table]
      exact known
    have creatable : ∀ npuId ∈ ({ e.readAgain p with entryId := e.entryId }.placed table).npuList,
        ({ e.readAgain p with entryId := e.entryId }.placed table).Creatable (p.walking w) table
          npuId := by
      rw [pushes.npus]
      exact fun npuId mem => pushes.creatable.mpr (returns.pushes npuId mem)
    rw [← cpsParseEntryObj_walking p w] at parsed
    obtain ⟨c', ran⟩ := entryCreate_runs consistent accepts deleted.key absent small parsed placed
      counted ((checks.coversEntry deleted.bare).mpr returns.covered) (counts pushes) creatable
    obtain ⟨new, e', made⟩ := entryCreate_made consistent deleted.key ran
    exact ⟨c', ran, (deleted.restores made).mpr
      ⟨(deleted.creates returns.readable made).2.mpr returns.repacks, returns.listed⟩⟩

/-- When the NDI accepts its calls, a rollback creates an entry again, under its id and with the
configuration it had, just when the entry is as `DeleteReturns` says. -/
theorem entryDelete_undone_iff {allowed : NasAclSwitch → Request → Prop} (hosts : p.Hosts p')
    (reached : Reached allowed t.sw) (accepts : o'.Accepts p')
    (writes : t.Writes p o index obj .entry .delete)
    (key : cpsOpKeyExtract t.sw obj = .ok ⟨table, some eid, none⟩)
    (stored : t.sw.getEntry table.tableId eid = .ok e) :
    RollsBack p p' o o' index t SameConfig ↔ e.DeleteReturns p p' table t.sw := by
  have consistent := reached_consistent reached
  obtain ⟨c₁, ran⟩ := writes.ran (by decide) rfl
  obtain ⟨e₀, gone⟩ := entryDelete_gone (c := t.ctx obj) key ran
  obtain rfl : e₀ = e := Except.ok.inj (gone.stored.symm.trans stored)
  obtain ⟨mine, own⟩ := entryKeyed consistent stored
  obtain ⟨t₀, -, known, -⟩ := cpsOpKeyExtract_ok.mp key
  obtain rfl := tableId_of_getTable consistent known
  have known' : c₁.sw.getTable table.tableId = .ok table := by
    obtain ⟨_, -, -, _, -, sw₁, removed, rfl⟩ := (nasAclEntryDelete_ok (c := t.ctx obj) key).mp ran
    have tables : sw₁.tables = t.sw.tables :=
      (NasAclSwitch.tables_removeEntryFromTable removed).trans rfl
    change sw₁.getTable table.tableId = _
    rw [NasAclSwitch.getTable, tables]
    exact known
  have settled : e₀.Settled table := by
    obtain ⟨table₀, held, settled⟩ := settled_entries reached (getEntry_store stored)
    obtain rfl := Option.some.inj (held.symm.trans (getTable_store known))
    exact ⟨settled.created, settled.clean, settled.notSwitch, settled.follows,
      settled.marked.priority, settled.marked.filters, settled.marked.actions⟩
  have saved : cpsPackAttrs p obj e₀ e₀.base.setAttrs true .new = .ok c₁.prev := gone.saved
  obtain ⟨sameKey, keys⟩ := cpsPackAttrs_keys saved
  rw [writes.rollsBack_iff (by decide) rfl rfl ran sameKey]
  have deleted : Deleted p t.sw table e₀ ⟨c₁.sw, .new .other 0, c₁.prev, .new, c₁.ndiCounts⟩ := by
    refine ⟨consistent, ?_, mine, settled, stored_countsByObject reached stored,
      stored_listed reached stored, ?_, ?_, fun readable => ?_⟩
    · rw [mine, own]
      exact getEntry_store stored
    · rw [mine, own]
      exact gone.store
    · change cpsOpKeyExtract c₁.sw c₁.prev = _
      rw [opKey_congr keys, opKey_entryKeyFill (mine ▸ known'), keyIncrType_entryKeyFill rfl rfl]
    · rw [cpsPackAttrs_eq (fun a _ => readable.at a) true] at saved
      exact congrArg CpsObject.attrs (Except.ok.inj saved).symm
  exact deleted.comesBack_iff hosts accepts

end Rollback

/-! ### On the bench -/

namespace NasAclEntry

instance (p : Platform) (e : NasAclEntry) : Decidable (e.Repacks p) :=
  decidable_of_iff (((∀ f ∈ (e.flist.items p.matchOrder).dropLast, ¬ f.EmptyPorts) ∧
    e.filterNpus = portNpus p (e.flist.items p.matchOrder)) ∧
    (∀ a ∈ (e.alist.items p.actionOrder).dropLast, ¬ a.Empty) ∧
    (e.followingTableNpus = false → e.npuList = e.base.npus))
    ⟨fun h => ⟨h.1.1, h.1.2, h.2.1, h.2.2⟩, fun h => ⟨⟨h.filters, h.cached⟩, h.actions, h.npus⟩⟩

/-- An entry without a counter and without ports to match. -/
def Unported (p : Platform) (e : NasAclEntry) : Prop :=
  e.isCounterEnabled = false ∧ e.Repacks p ∧
    (∀ f ∈ e.flist.items p.matchOrder, f.isNpuSpecific = false) ∧
    ∀ a ∈ e.alist.items p.actionOrder, ¬ a.Empty ∧ a.actionType ≠ .setCounter

instance (p : Platform) (e : NasAclEntry) : Decidable (e.Unported p) :=
  inferInstanceAs (Decidable (_ ∧ _ ∧ _ ∧ _))

/-- Its filters and actions translate on its NPUs, which the table is on. -/
def Translates (p : Platform) (table : NasAclTable) (e : NasAclEntry) : Prop :=
  ∀ npuId ∈ e.npuList, npuId ∈ table.ndiObjIds.keys ∧
    (copyAllFiltersNdi p npuId (e.flist.items p.matchOrder)).toOption.isSome ∧
    ∀ a ∈ e.alist.items p.actionOrder, (a.copyActionNdi p npuId []).toOption.isSome

instance (p : Platform) (table : NasAclTable) (e : NasAclEntry) : Decidable (e.Translates p table) :=
  (Finset.decidableDforallFinset : Decidable (∀ npuId ∈ e.npuList, _ ∧ _ ∧ _))

theorem Translates.creatable {p : Platform} {table : NasAclTable} {e : NasAclEntry}
    (translates : e.Translates p table) : ∀ npuId ∈ e.npuList, e.Creatable p table npuId := by
  have ends {α : Type} {x : Except Exn α} (test : x.toOption.isSome) : ∃ a, x = .ok a := by
    obtain ⟨a, ran⟩ := Option.isSome_iff_exists.mp test
    exact ⟨a, except_toOption.mp ran⟩
  intro npuId mem
  obtain ⟨there, filters, actions⟩ := translates npuId mem
  refine ⟨Finmap.mem_keys.mp there, ends filters, fun _ t a held => ?_⟩
  exact ends (actions a (Keyed.mem_items.mpr ((e.alist.keyed t a held).symm ▸ held)))

theorem Unported.returns {p : Platform} {table : NasAclTable} {sw : NasAclSwitch} {e : NasAclEntry}
    (readable : e.Readable p table) (unported : e.Unported p) (translates : e.Translates p table) :
    e.DeleteReturns p p table sw := by
  obtain ⟨uncounted, repacks, filters, actions⟩ := unported
  refine ⟨readable, repacks, ?_, fun a mem none_ => (actions a mem).1 (.inr none_),
    fun a mem counter => absurd counter (actions a mem).2, fun on => ?_, translates.creatable,
    fun on => ?_⟩
  · refine List.Pairwise.imp_of_mem (R := fun _ _ => True) ?_
      (List.pairwise_of_forall fun _ _ => trivial)
    intro g f mem _ _ special
    exact absurd special (Bool.eq_false_iff.mp (filters g mem))
  · exact absurd on (Bool.eq_false_iff.mp uncounted)
  · exact absurd on (Bool.eq_false_iff.mp uncounted)

end NasAclEntry

end SonicNasAcl
