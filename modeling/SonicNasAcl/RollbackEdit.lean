/-
# RollbackEdit -- a change of a stored entry that is rolled back

Whether one element of an entry is updated or the whole of it is set, the copy that was changed
passes its checks, is committed and is saved over the old one; the rollback does the same with
what it makes of the object that was saved.

* `passes_congr`: what the checks of a commit look at;
* `wayBack_iff`: what the pushes take that put the old entry back, said of the entry before the
  change and the one that is asked for;
* `refsReturn_iff`: when the references of the counters return, by the counters that are used;
* `rollsBack_edit_iff`: a change is undone when the object can be packed, reading it gives the
  old entry, and that entry still passes the checks and can be pushed.
-/
import SonicNasAcl.ConfiguredNpus
import SonicNasAcl.EntryCommits
import SonicNasAcl.Rollback

namespace SonicNasAcl

set_option autoImplicit false

open Lib

/-! ## What the checks of a commit look at -/

/-- An entry that passes the checks of a changed one. -/
def NasAclEntry.Passes (p : Platform) (sw : NasAclSwitch) (table : NasAclTable) (e : NasAclEntry) :
    Prop :=
  ∃ e', e.checkModify p sw table = .ok e'

section Checks

open NasAclEntry

variable {p : Platform} {r : Request} {sw sw' : NasAclSwitch} {table : NasAclTable}
  {e e' : NasAclEntry}

/-- An entry that has a list of NPUs, if it has one of its own, is left as it is. -/
theorem checkModify_listed (listed : e.Listed) :
    e.checkModify p sw table = .ok e' ↔
      e' = e ∧ (e.followingTableNpus = false → e.filterNpus ⊆ e.base.npus) ∧
        sw.store.CoversEntry e := by
  rw [checkModify_ok, checkCounter_store]
  constructor
  · rintro ⟨placed, covers⟩
    obtain ⟨rfl, inside⟩ := npusForModify_listed listed placed
    exact ⟨rfl, inside, covers⟩
  · rintro ⟨rfl, inside, covers⟩
    refine ⟨npusForModify_ok.mpr ⟨(if_neg ?_).symm, fun own _ => inside own⟩, covers⟩
    rintro ⟨own, nothing⟩
    exact listed own nothing

theorem passes_listed (listed : e.Listed) :
    e.Passes p sw table ↔
      (e.followingTableNpus = false → e.filterNpus ⊆ e.base.npus) ∧ sw.store.CoversEntry e := by
  unfold NasAclEntry.Passes
  simp only [checkModify_listed listed, exists_eq_left]

/-- Two entries that the checks do not tell apart. -/
structure NasAclEntry.ChecksAs (e e' : NasAclEntry) : Prop where
  table : e'.tableId = e.tableId
  following : e'.followingTableNpus = e.followingTableNpus
  npus : e'.base.npus = e.base.npus
  cache : e'.filterNpus = e.filterNpus
  actions : e'.alist = e.alist

theorem NasAclEntry.ChecksAs.listed (same : e.ChecksAs e') (listed : e.Listed) : e'.Listed := by
  intro own
  rw [same.npus]
  exact listed (same.following.symm.trans own)

theorem NasAclEntry.ChecksAs.npuList (same : e.ChecksAs e') : e'.npuList = e.npuList := by
  unfold NasAclEntry.npuList
  rw [same.cache, same.npus]

theorem NasAclEntry.ChecksAs.coversEntry (same : e.ChecksAs e') (bare : sw.store.SameBare sw'.store) :
    sw'.store.CoversEntry e' ↔ sw.store.CoversEntry e := by
  have covers (s : Store) : s.CoversEntry e' ↔ s.CoversEntry e := by
    unfold Store.CoversEntry isCounterEnabled counterId
    rw [same.npuList, same.actions, same.table]
  rw [covers]
  exact ⟨bare.symm.coversEntry, bare.coversEntry⟩

theorem passes_congr (same : e.ChecksAs e') (listed : e.Listed)
    (bare : sw.store.SameBare sw'.store) : e'.Passes p sw' table ↔ e.Passes p sw table := by
  rw [passes_listed (same.listed listed), passes_listed listed, same.coversEntry bare,
    same.following, same.cache, same.npus]

theorem keeps_listed : KeepsEntries (fun _ e => e.Listed) r sw where
  created {table eid new e id} key parsed placed := by
    have listed : new.1.Listed := parse_invariant closed_listed (fun own => by cases own) parsed
    obtain ⟨rfl, -⟩ := npusForCreate_ok.mp placed
    split
    · intro own
      cases own
    · exact listed
  changed asks checked before := by
    have listed := asks_listed asks before
    obtain ⟨rfl, -⟩ := npusForModify_listed listed (checkModify_ok.mp checked).1
    exact listed

theorem stored_listed {allowed : NasAclSwitch → Request → Prop} (reached : Reached allowed sw)
    {t id : NasObjId} (stored : sw.getEntry t id = .ok e) : e.Listed := by
  have all := reached_entries (P := fun _ e => e.Listed) (fun _ _ _ _ => keeps_listed) reached
  obtain ⟨table, -, listed⟩ := all _ _ _ (getEntry_store stored)
  exact listed

end Checks

/-! ## What the rollback pushes -/

/-- The entry has an id on an NPU once it is changed to `given`: where it was before, if it had
one there, and elsewhere if all its filters apply. -/
def NasAclEntry.InstalledAfter (p : Platform) (old given : NasAclEntry) (npuId : NpuId) : Prop :=
  if npuId ∈ old.npuList then npuId ∈ old.ndiEntryIds else given.HasMatchOn p npuId

/-- What the pushes take that put `x` back when `old` was changed to `given`.  The entry is
created where it has been taken away; where it has stayed it has to be installed, if an
attribute is put back there.  The two calls walk their maps each in its own way. -/
structure NasAclEntry.WayBack (p p' : Platform) (table : NasAclTable) (marked : AttrId → Prop)
    (old given x : NasAclEntry) : Prop where
  created : ∀ npuId ∈ x.npuList \ given.npuList, x.Creatable p' table npuId
  priority : marked .entryPriority → ∀ npuId ∈ given.npuList ∩ x.npuList,
    old.InstalledAfter p given npuId
  filters : marked .entryMatch → ∀ npuId ∈ given.npuList ∩ x.npuList,
    FiltersNeedId p' x given npuId → old.InstalledAfter p given npuId
  actions : marked .entryAction → ∀ npuId ∈ given.npuList ∩ x.npuList,
    ActionsNeedId p' x given npuId → old.InstalledAfter p given npuId

/-- Two entries that are pushed alike. -/
structure NasAclEntry.PushesAs (e e' : NasAclEntry) : Prop where
  filters : e'.flist = e.flist
  actions : e'.alist = e.alist
  npus : e'.npuList = e.npuList

/-- An entry that puts another back: it passes the same checks, has the same filters, and is
marked where it is changed. -/
structure NasAclEntry.PutsBack (marked : AttrId → Prop) (ids : NdiObjIdTable) (x u : NasAclEntry) :
    Prop where
  checks : x.ChecksAs u
  filters : u.flist = x.flist
  ids : u.ndiEntryIds = ids
  marks : ∀ a, u.isAttrDirty a = true ↔ marked a

section Pushes

open NasAclEntry

variable {p p' : Platform} {o : Oracle} {sw : NasAclSwitch} {table : NasAclTable} {rb : Bool}
  {old given new x u n : NasAclEntry} {ids : NdiObjIdTable} {marked : AttrId → Prop}

theorem NasAclEntry.PushesAs.hasMatchOn (same : given.PushesAs new) {npuId : NpuId} :
    new.HasMatchOn p npuId ↔ given.HasMatchOn p npuId := by
  unfold NasAclEntry.HasMatchOn
  rw [same.filters]

theorem NasAclEntry.PushesAs.creatable (same : x.PushesAs u) {npuId : NpuId} :
    u.Creatable p table npuId ↔ x.Creatable p table npuId := by
  constructor
  · rintro ⟨there, filters, actions⟩
    refine ⟨there, same.filters ▸ filters, fun matches_ => ?_⟩
    rw [← same.actions]
    exact actions (same.hasMatchOn.mpr matches_)
  · rintro ⟨there, filters, actions⟩
    refine ⟨there, same.filters.symm ▸ filters, fun matches_ => ?_⟩
    rw [same.actions]
    exact actions (same.hasMatchOn.mp matches_)

theorem NasAclEntry.PutsBack.pushesAs (puts : x.PutsBack marked ids u) : x.PushesAs u where
  filters := puts.filters
  actions := puts.checks.actions
  npus := puts.checks.npuList

/-- The ids after a change, NPU by NPU. -/
theorem ids_installed (commits : o.Commits p)
    (done : (o.entryModify ⟨p, sw, table⟩ new old rb).1 = .ok ids) (asked : given.PushesAs new)
    (sameIds : new.ndiEntryIds = old.ndiEntryIds) {npuId : NpuId} (mem : npuId ∈ given.npuList) :
    npuId ∈ ids ↔ old.InstalledAfter p given npuId := by
  rw [← asked.npus] at mem
  unfold NasAclEntry.InstalledAfter
  split
  · rename_i before
    rw [commits.kept sw table new old rb ids done npuId (Finset.mem_inter.mpr ⟨before, mem⟩), sameIds]
  · rename_i added
    obtain ⟨creates, created⟩ := commits.added sw table new old rb ids done npuId
      (Finset.mem_sdiff.mpr ⟨mem, added⟩)
    rw [created, createdOn_iff, and_iff_right creates]
    exact asked.hasMatchOn

/-- An entry can be pushed back where there is a way back. -/
theorem wayBack_iff (counterOn : ∀ npuId ∈ u.npuList, u.CounterOn sw npuId)
    (counts : u.CountsByObject) (puts : x.PutsBack marked ids u) (asked : given.PushesAs n)
    (installed : ∀ npuId ∈ given.npuList, npuId ∈ ids ↔ old.InstalledAfter p given npuId) :
    u.RestorePushes ⟨p', sw, table⟩ n ↔ old.WayBack p p' table marked given x := by
  have same := puts.pushesAs
  have held {npuId : NpuId} (mem : npuId ∈ given.npuList ∩ x.npuList) :
      npuId ∈ u.ndiEntryIds ↔ old.InstalledAfter p given npuId := by
    rw [puts.ids]
    exact installed npuId (Finset.mem_inter.mp mem).1
  have filters {npuId : NpuId} : FiltersNeedId p' u n npuId ↔ FiltersNeedId p' x given npuId := by
    unfold FiltersNeedId
    rw [same.filters, asked.filters]
  have actions {npuId : NpuId} : ActionsNeedId p' u n npuId ↔ ActionsNeedId p' x given npuId := by
    unfold ActionsNeedId
    rw [same.actions, asked.actions]
  rw [restorePushes_iff counterOn counts]
  constructor
  · rintro ⟨created, priority, match_, action⟩
    rw [same.npus, asked.npus] at created priority match_ action
    exact ⟨fun npuId mem => same.creatable.mp (created npuId mem),
      fun mark npuId mem => (held mem).mp (priority ((puts.marks _).mpr mark) npuId mem),
      fun mark npuId mem need =>
        (held mem).mp (match_ ((puts.marks _).mpr mark) npuId mem (filters.mpr need)),
      fun mark npuId mem need =>
        (held mem).mp (action ((puts.marks _).mpr mark) npuId mem (actions.mpr need))⟩
  · rintro ⟨created, priority, match_, action⟩
    constructor
    · rw [same.npus, asked.npus]
      exact fun npuId mem => same.creatable.mpr (created npuId mem)
    · rw [same.npus, asked.npus]
      exact fun dirty npuId mem => (held mem).mpr (priority ((puts.marks _).mp dirty) npuId mem)
    · rw [same.npus, asked.npus]
      exact fun dirty npuId mem need =>
        (held mem).mpr (match_ ((puts.marks _).mp dirty) npuId mem (filters.mp need))
    · rw [same.npus, asked.npus]
      exact fun dirty npuId mem need =>
        (held mem).mpr (action ((puts.marks _).mp dirty) npuId mem (actions.mp need))

/-- An entry that stays where it is, and is installed there, has a way back. -/
theorem wayBack_of_installed (installed : old.npuList ⊆ old.ndiEntryIds.keys)
    (stays : given.npuList = old.npuList) (back : x.npuList = old.npuList) :
    old.WayBack p p' table marked given x := by
  have held {npuId : NpuId} (mem : npuId ∈ given.npuList ∩ x.npuList) :
      old.InstalledAfter p given npuId := by
    rw [stays, back, Finset.inter_self] at mem
    unfold NasAclEntry.InstalledAfter
    rw [if_pos mem]
    exact Finmap.mem_keys.mp (installed mem)
  refine ⟨fun npuId mem => ?_, fun _ npuId mem => held mem, fun _ npuId mem _ => held mem,
    fun _ npuId mem _ => held mem⟩
  rw [stays, back, Finset.sdiff_self] at mem
  exact absurd mem (Finset.notMem_empty npuId)

end Pushes

/-! ## The counter of the entry -/

/-- The counter an entry uses. -/
def NasAclEntry.usedCounter (e : NasAclEntry) : Option NasObjId :=
  (e.alist.find .setCounter).map NasAclAction.counterId

/-- Where the id of the counter changes (none counts as 0), the entry is among the references
of the counter it leaves, and not among those of the counter it comes to. -/
def CountersReturn (sw : NasAclSwitch) (t eid : NasObjId) (before after : Option NasObjId) : Prop :=
  before.getD 0 ≠ after.getD 0 →
    (∀ id ∈ before, ∃ x, sw.findCounter t id = some x ∧ eid ∈ x.refs) ∧
      ∀ id ∈ after, ∃ x, sw.findCounter t id = some x ∧ eid ∉ x.refs

section Counters

open NasAclEntry

variable {sw sw' : NasAclSwitch} {old new e : NasAclEntry} {tableId : NasObjId} {a : NasAclAction}

theorem counterId_usedCounter : e.counterId = e.usedCounter.getD 0 := by
  unfold counterId usedCounter
  cases e.alist.find .setCounter <;> rfl

theorem forall_usedCounter (P : NasObjId → Prop) :
    (∀ id ∈ e.usedCounter, P id) ↔ (e.isCounterEnabled → P e.counterId) := by
  unfold isCounterEnabled counterId usedCounter
  cases e.alist.find .setCounter with
  | none => exact iff_of_true (fun id mem => by cases mem) fun on => absurd on Bool.false_ne_true
  | some a => exact ⟨fun all _ => all _ rfl, fun here id mem => Option.some.inj mem ▸ here rfl⟩

theorem refsReturn_iff : RefsReturn sw old new ↔
    CountersReturn sw old.tableId old.entryId old.usedCounter new.usedCounter := by
  unfold RefsReturn CountersReturn
  rw [forall_usedCounter, forall_usedCounter, counterId_usedCounter, counterId_usedCounter]

theorem refsReturn_of_same (same : new.alist = old.alist) : RefsReturn sw old new := by
  intro differ
  refine absurd ?_ differ
  unfold counterId
  rw [same]

/-- A counter is known whatever its references. -/
theorem knownCounter_bare (bare : sw.store.SameBare sw'.store) :
    KnownCounter sw' tableId a ↔ KnownCounter sw tableId a := by
  have kept {s s' : NasAclSwitch} (bare : s.store.SameBare s'.store)
      (known : KnownCounter s tableId a) : KnownCounter s' tableId a := by
    intro counter
    obtain ⟨x, found, own⟩ := known counter
    have held : s.store.counter tableId a.counterId = some x.stored := by
      rw [NasAclSwitch.store_counter, found]
      rfl
    obtain ⟨y, held', same⟩ := bare.counter held
    rw [NasAclSwitch.store_counter, Option.map_eq_some_iff] at held'
    obtain ⟨x', found', rfl⟩ := held'
    refine ⟨x', found', ?_⟩
    rw [← own]
    exact congrArg (fun y => y.counter.tableId) same
  exact ⟨kept bare.symm, kept bare⟩

end Counters

/-! ## A change and its rollback -/

/-- What a change of a stored entry finds in a reachable switch. -/
structure Transaction.Finds (t : Transaction) (table : NasAclTable) (eid : NasObjId)
    (old new : NasAclEntry) : Prop where
  known : t.sw.getTable old.tableId = .ok table
  stored : t.sw.findEntry old.tableId old.entryId = some old
  ownTable : old.tableId = table.tableId
  ownEntry : old.entryId = eid
  sameTable : new.tableId = old.tableId
  sameEntry : new.entryId = old.entryId
  sameIds : new.ndiEntryIds = old.ndiEntryIds
  counts : old.CountsByObject
  listed : old.Listed
  listed' : new.Listed

section Rollback

open NasAclEntry Transaction

variable {p p' : Platform} {o o' : Oracle} {t : Transaction} {index : Nat} {obj : CpsObject}
  {table : NasAclTable} {eid : NasObjId} {old new : NasAclEntry}

/-- The entry after the write, in a switch that the checks do not tell from the one before. -/
theorem Transaction.Finds.after {ids ids' : NdiObjIdTable} {sw₁ : NasAclSwitch}
    (finds : Finds t table eid old new)
    (saved : (t.sw.setEntryIds old.tableId old.entryId ids').saveEntry (new.committed ids)
      = .ok sw₁) :
    sw₁.getEntry table.tableId eid = .ok (new.committed ids) ∧
      sw₁.getTable old.tableId = .ok table ∧ t.sw.store.SameBare sw₁.store := by
  have save := saveEntry_over (e := new.committed ids) finds.stored finds.sameTable
    finds.sameEntry saved
  obtain ⟨held, tables, store⟩ := save
  refine ⟨getEntry_ok.mpr ?_, ?_, ?_⟩
  · rw [← finds.ownTable, ← finds.ownEntry, ← finds.sameTable, ← finds.sameEntry]
    exact held
  · rw [NasAclSwitch.getTable, tables]
    exact finds.known
  · rw [store]
    exact Store.sameBare_replaceEntry

/-- And the entry after the rollback. -/
theorem Transaction.Finds.putBack {ids ids' : NdiObjIdTable} {sw₁ : NasAclSwitch}
    {u : NasAclEntry} (finds : Finds t table eid old new)
    (saved : (t.sw.setEntryIds old.tableId old.entryId ids').saveEntry (new.committed ids)
      = .ok sw₁)
    (identity : u.tableId = new.tableId ∧ u.entryId = new.entryId)
    (left : NdiObjIdTable) (ids₂ : NdiObjIdTable) :
    (∀ sw₂, (sw₁.setEntryIds new.tableId new.entryId left).saveEntry (u.committed ids₂) = .ok sw₂ →
      sw₂.findEntry table.tableId eid = some (u.committed ids₂)) ∧
    (u.alist = old.alist →
      ((∃ sw₂, (sw₁.setEntryIds new.tableId new.entryId left).saveEntry (u.committed ids₂) = .ok sw₂ ∧
        SameRefs t.sw sw₂) ↔ RefsReturn t.sw old new)) := by
  have held : sw₁.findEntry (new.committed ids).tableId (new.committed ids).entryId
      = some (new.committed ids) :=
    (saveEntry_over (e := new.committed ids) finds.stored finds.sameTable finds.sameEntry saved).1
  refine ⟨fun sw₂ saved' => ?_, fun actions => ?_⟩
  · have again := (saveEntry_over (e := u.committed ids₂) held identity.1 identity.2 saved').1
    rw [← finds.ownTable, ← finds.ownEntry, ← finds.sameTable, ← finds.sameEntry, ← identity.1,
      ← identity.2]
    exact again
  · exact putBack_iff (e := new.committed ids) (r := u.committed ids₂) finds.stored finds.sameTable
      finds.sameEntry saved (identity.1.trans finds.sameTable) (identity.2.trans finds.sameEntry)
      actions

/-- A changed copy of a stored entry passes its checks, is committed and is saved. -/
def EditRuns (p : Platform) (o : Oracle) (rb : Bool) (table : NasAclTable) (old new : NasAclEntry)
    (pack : CpsObject → Except Exn CpsObject) (c c' : Ctx) : Prop :=
  new.Passes p c.sw table ∧
    ∃ ids prev sw', (o.entryModify ⟨p, c.sw, table⟩ new old rb).1 = .ok ids ∧
      Saved rb pack c.prev prev ∧
      (c.sw.setEntryIds old.tableId old.entryId (o.entryModify ⟨p, c.sw, table⟩ new old rb).2).saveEntry
        (new.committed ids) = .ok sw' ∧
      c' = { c with sw := sw', prev := prev }

theorem modifies_listed {rb : Bool} {fill : Finset AttrId → CpsObject → Except Exn CpsObject}
    {c c' : Ctx} (listed : new.Listed) :
    Modifies p o rb table old new fill c c' ↔
      EditRuns p o rb table old new (fill new.base.dirtyAttrs) c c' := by
  constructor
  · rintro ⟨e, checked, ids, done, prev, saved, sw', put, rfl⟩
    obtain ⟨rfl, -⟩ := (checkModify_listed listed).mp checked
    exact ⟨⟨_, checked⟩, ids, prev, sw', done, saved, put, rfl⟩
  · rintro ⟨⟨e, checked⟩, ids, prev, sw', done, saved, put, rfl⟩
    obtain ⟨rfl, -⟩ := (checkModify_listed listed).mp checked
    exact ⟨_, checked, ids, done, prev, saved, sw', put, rfl⟩

/-- A change of a stored entry that is committed, and the handler that undoes it. -/
structure Transaction.Edits (p p' : Platform) (o o' : Oracle) (t : Transaction) (index : Nat)
    (obj : CpsObject) (table : NasAclTable) (eid : NasObjId) (old new : NasAclEntry)
    (pack : CpsObject → Except Exn CpsObject)
    (Undoes : NasAclSwitch → CpsObject → NasAclEntry → NasAclEntry → Prop) : Prop where
  listed : t.changeList[index]? = some obj
  cat : obj.key.cat = .baseAcl
  entry : obj.key.subcat = .entry
  finds : Finds t table eid old new
  passes : new.Passes p t.sw table
  committed : ∃ ids, (o.entryModify ⟨p, t.sw, table⟩ new old false).1 = .ok ids
  write : ∃ body : Handler Unit,
    operationMap p o false .entry obj.key.oper = some (tryHandler body) ∧
      ∀ c, body (t.ctx obj) = (.ok (), c) ↔ EditRuns p o false table old new pack (t.ctx obj) c
  key : ∀ prev, pack .new = .ok prev → prev.key = obj.key
  undo : ∃ body : Handler Unit,
    operationMap p' o' true .entry obj.key.oper.undo = some (tryHandler body) ∧
      ∀ c c' n, pack .new = .ok c.obj → c.sw.getTable old.tableId = .ok table →
        c.sw.getEntry table.tableId eid = .ok n → n.Listed →
        (body c = (.ok (), c') ↔
          ∃ u, Undoes c.sw c.obj n u ∧ ∃ pack, EditRuns p' o' true table n u pack c c')
  identity : ∀ sw₁ prev n u, Undoes sw₁ prev n u → u.tableId = n.tableId ∧ u.entryId = n.entryId

/-- A change is undone when it can be packed, reading it gives an entry that puts `x` back, the
checks and the pushes let it through, and the counter returns. -/
theorem rollsBack_edit_iff {pack : CpsObject → Except Exn CpsObject}
    {Undoes : NasAclSwitch → CpsObject → NasAclEntry → NasAclEntry → Prop}
    {R : Prop} {given x : NasAclEntry} {marked : AttrId → Prop}
    (same : NasAclEntry → Prop) (back : NasAclEntry → NasAclEntry)
    (commits : o.Commits p) (accepts : o'.Accepts p')
    (edits : Edits p p' o o' t index obj table eid old new pack Undoes)
    (kept : ∀ u ids, same (NasAclEntry.committed ids u) ↔ same u)
    (actions : ∀ u, same u → u.alist = old.alist)
    (undone : ∀ sw₁ prev ids u, t.sw.store.SameBare sw₁.store → pack .new = .ok prev →
      ((Undoes sw₁ prev (new.committed ids) u ∧ same u) ↔ R ∧ u = back (new.committed ids)))
    (asked : given.PushesAs new) (listed : x.Listed)
    (puts : R → ∀ ids, x.PutsBack marked ids (back (new.committed ids))) :
    RollsBack p p' o o' index t (fun sw sw' =>
        (∃ e, sw'.findEntry table.tableId eid = some e ∧ same e) ∧ SameRefs sw sw') ↔
      (∃ prev, pack .new = .ok prev) ∧ R ∧ x.Passes p t.sw table ∧
        old.WayBack p p' table marked given x ∧ RefsReturn t.sw old new := by
  have finds := edits.finds
  have listed₁ (ids : NdiObjIdTable) : (new.committed ids).Listed := finds.listed'
  have checked {sw₁ : NasAclSwitch} (returns : R) (ids : NdiObjIdTable)
      (bare : t.sw.store.SameBare sw₁.store) :
      (back (new.committed ids)).Passes p' sw₁ table ↔ x.Passes p t.sw table := by
    rw [← passes_congr (puts returns ids).checks listed bare,
      passes_listed ((puts returns ids).checks.listed listed),
      passes_listed ((puts returns ids).checks.listed listed)]
  -- With its counter at hand, the entry can be pushed where there is a way back.
  have pushed {sw₁ : NasAclSwitch} (returns : R) (ids : NdiObjIdTable)
      (bare : t.sw.store.SameBare sw₁.store) (passes : x.Passes p t.sw table)
      (sameAs : same (back (new.committed ids)))
      (done : (o.entryModify ⟨p, t.sw, table⟩ new old false).1 = .ok ids) :
      (back (new.committed ids)).RestorePushes ⟨p', sw₁, table⟩ (new.committed ids) ↔
        old.WayBack p p' table marked given x := by
    have covered := (passes_listed ((puts returns ids).checks.listed listed)).mp
      ((checked returns ids bare).mpr passes)
    have counts : (back (new.committed ids)).CountsByObject :=
      countsByObject_of_actions (actions _ sameAs) finds.counts
    exact wayBack_iff (counterOn_of_covers covered.2 fun _ _ => rfl) counts (puts returns ids)
      ⟨asked.filters, asked.actions, asked.npus⟩
      fun npuId mem => ids_installed commits done asked finds.sameIds mem
  obtain ⟨body, mapped, write⟩ := edits.write
  obtain ⟨undo, mapped', runs'⟩ := edits.undo
  have saves : obj.key.subcat ≠ .stats := by
    rw [edits.entry]
    decide
  rw [rollsBack_iff edits.listed edits.cat saves (by rw [edits.entry]; exact mapped)
    (by rw [edits.entry]; exact mapped')]
  · constructor
    · rintro ⟨c₁, ran, c₂, ran', ⟨e, held, sameAs⟩, refs⟩
      obtain ⟨-, ids, prev, sw₁, done, packed, saved, rfl⟩ := (write c₁).mp ran
      have packed : pack .new = .ok prev := packed
      obtain ⟨stored, known, bare⟩ := finds.after saved
      obtain ⟨u, made, -, passes, ids', prev', sw₂, done', -, saved', rfl⟩ :=
        (runs' _ c₂ _ packed known stored (listed₁ ids)).mp ran'
      obtain ⟨held', putBack⟩ :=
        finds.putBack saved (edits.identity _ _ (new.committed ids) _ made) _ ids'
      cases held.symm.trans (held' _ saved')
      have sameAs := (kept _ _).mp sameAs
      obtain ⟨returns, rfl⟩ := (undone sw₁ prev ids u bare packed).mp ⟨made, sameAs⟩
      have passes := (checked returns ids bare).mp passes
      refine ⟨⟨prev, packed⟩, returns, passes, ?_, ?_⟩
      · exact (pushed returns ids bare passes sameAs done).mp
          (accepts.restored _ _ _ _ _ done')
      · exact (putBack (actions _ sameAs)).mp ⟨sw₂, saved', refs⟩
    · rintro ⟨⟨prev, packed⟩, returns, passes, wayBack, refs⟩
      obtain ⟨ids, done⟩ := edits.committed
      have saves₁ : ∃ sw₁, (t.sw.setEntryIds old.tableId old.entryId
          (o.entryModify ⟨p, t.sw, table⟩ new old false).2).saveEntry (new.committed ids) = .ok sw₁ :=
        (saveEntry_over_exists (e := new.committed ids) _ finds.stored finds.sameTable
          finds.sameEntry).mpr fun differ => refs.stored finds.sameTable differ
      obtain ⟨sw₁, saved⟩ := saves₁
      obtain ⟨stored, known, bare⟩ := finds.after saved
      obtain ⟨made, sameAs⟩ := (undone sw₁ prev ids _ bare packed).mpr ⟨returns, rfl⟩
      obtain ⟨ids', done'⟩ := accepts.restores sw₁ table _ _
        ((pushed returns ids bare passes sameAs done).mpr wayBack)
      obtain ⟨held', putBack⟩ := finds.putBack saved (edits.identity _ _ (new.committed ids) _ made)
        (o'.entryModify ⟨p', sw₁, table⟩ (back (new.committed ids)) (new.committed ids) true).2 ids'
      obtain ⟨sw₂, saved', refs'⟩ := (putBack (actions _ sameAs)).mpr refs
      exact ⟨_, (write _).mpr ⟨edits.passes, ids, prev, sw₁, done, packed, saved, rfl⟩, _,
        (runs' _ _ _ packed known stored (listed₁ ids)).mpr ⟨_, made, pack,
          (checked returns ids bare).mpr passes, ids', _, sw₂, done', rfl, saved', rfl⟩,
        ⟨_, held' _ saved', (kept _ _).mpr sameAs⟩, refs'⟩
  · intro c₁ ran
    obtain ⟨-, ids, prev, sw₁, -, packed, -, rfl⟩ := (write c₁).mp ran
    exact edits.key prev packed

end Rollback

end SonicNasAcl
