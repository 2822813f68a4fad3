/-
# Rollback -- a write undone by the object it saved

A write that succeeds puts an object aside, and a rollback runs the opposite operation on
that object.  `RollsBack` says of a write that it succeeds, that its rollback succeeds, and
how the switch then relates to the one before the write.

* `rollsBack_iff`: a write and its rollback are two handlers, the second on what the first
  has saved;
* `saveEntry_exists`: an entry is saved over another unless it changes to or from a counter
  that is not there;
* `refs_putBack_iff`: saving an entry and then the old one again moves the references of the
  two counters, which were right before exactly when they are the same as before.
-/
import SonicNasAcl.ActionCodec
import SonicNasAcl.EntryFrame
import SonicNasAcl.FilterCodec
import SonicNasAcl.Walking

namespace SonicNasAcl

set_option autoImplicit false

open Lib

/-! ## Transactions -/

/-- Tables and counters are created and deleted: their pushes fail only where the NDI does. -/
structure Oracle.Succeeds (o : Oracle) : Prop where
  tableCreate : ∀ t rb, ∃ ids, o.tableCreate t rb = .ok ids
  tableDelete : ∀ t rb, (o.tableDelete t rb).1 = .ok ()
  counterCreate : ∀ x rb, ∃ ids, o.counterCreate x rb = .ok ids
  counterDelete : ∀ x rb, (o.counterDelete x rb).1 = .ok ()

/-- The write at an index succeeds, and so does the rollback of what it saved, in a call of
its own; the switches before and after both are related. -/
def RollsBack (p p' : Platform) (o o' : Oracle) (index : Nat) (t : Transaction)
    (restored : NasAclSwitch → NasAclSwitch → Prop) : Prop :=
  ∃ t₁ t₂, nasAclCpsApiWrite p o index t = (.returned (.ok ()), t₁) ∧
    nasAclCpsApiRollback p' o' t.prev.length t₁ = (.returned (.ok ()), t₂) ∧ restored t.sw t₂.sw

/-- The context of a handler in a transaction. -/
def Transaction.ctx (t : Transaction) (obj : CpsObject) : Ctx :=
  ⟨t.sw, .new .other 0, obj, .new, t.ndiCounts⟩

/-- The transaction after a handler has written the change at an index. -/
def Transaction.written (t : Transaction) (index : Nat) (c : Ctx) : Transaction where
  sw := c.sw
  changeList := t.changeList.set index c.obj
  prev := t.prev ++ [c.prev]
  ndiCounts := c.ndiCounts

section Transactions

variable {p p' : Platform} {o o' : Oracle} {index : Nat} {t t' : Transaction} {obj : CpsObject}
  {body undo : Handler Unit}

theorem nasAclCpsApiWrite_ok (listed : t.changeList[index]? = some obj)
    (cat : obj.key.cat = .baseAcl) (saves : obj.key.subcat ≠ .stats)
    (mapped : operationMap p o false obj.key.subcat obj.key.oper = some (tryHandler body)) :
    nasAclCpsApiWrite p o index t = (.returned (.ok ()), t') ↔
      ∃ c, body (t.ctx obj) = (.ok (), c) ∧ t' = t.written index c := by
  have saved : savesPrev obj.key.subcat false = true := by
    simp only [savesPrev, Bool.not_false, Bool.true_and, bne_iff_ne, ne_eq, saves, not_false_eq_true]
  simp only [nasAclCpsApiWrite, listed, writeInternal, cat, ne_eq, not_true_eq_false, if_false,
    mapped, saved, if_true, Prod.mk.injEq, execWriteOp]
  constructor
  · rintro ⟨exit, rfl⟩
    exact ⟨_, tryHandler_ok.mp (Prod.ext exit rfl), rfl⟩
  · rintro ⟨c, ran, rfl⟩
    have exit : tryHandler body ⟨t.sw, .new .other 0, obj, .new, t.ndiCounts⟩
        = (.returned (.ok ()), c) := tryHandler_ok.mpr ran
    rw [exit]
    exact ⟨rfl, rfl⟩

theorem nasAclCpsApiRollback_ok (listed : t.prev[index]? = some obj)
    (cat : obj.key.cat = .baseAcl)
    (mapped : operationMap p o true obj.key.subcat obj.key.oper.undo = some (tryHandler body)) :
    nasAclCpsApiRollback p o index t = (.returned (.ok ()), t') ↔
      ∃ c, body (t.ctx obj) = (.ok (), c) ∧
        t' = { t with sw := c.sw, prev := t.prev.set index c.obj, ndiCounts := c.ndiCounts } := by
  simp only [nasAclCpsApiRollback, listed, writeInternal, cat, ne_eq, not_true_eq_false, if_false,
    mapped, savesPrev, Bool.not_true, Bool.false_and, Bool.false_eq_true, Prod.mk.injEq,
    execWriteOp]
  constructor
  · rintro ⟨exit, rfl⟩
    exact ⟨_, tryHandler_ok.mp (Prod.ext exit rfl), rfl⟩
  · rintro ⟨c, ran, rfl⟩
    have exit : tryHandler body ⟨t.sw, .new .other 0, obj, .new, t.ndiCounts⟩
        = (.returned (.ok ()), c) := tryHandler_ok.mpr ran
    rw [exit]
    exact ⟨rfl, rfl⟩

/-- A write and its rollback are two handlers: the second runs on the object the first has
saved, under the key of the request. -/
theorem rollsBack_iff {restored : NasAclSwitch → NasAclSwitch → Prop}
    (listed : t.changeList[index]? = some obj) (cat : obj.key.cat = .baseAcl)
    (saves : obj.key.subcat ≠ .stats)
    (mapped : operationMap p o false obj.key.subcat obj.key.oper = some (tryHandler body))
    (undone : operationMap p' o' true obj.key.subcat obj.key.oper.undo = some (tryHandler undo))
    (sameKey : ∀ c, body (t.ctx obj) = (.ok (), c) → c.prev.key = obj.key) :
    RollsBack p p' o o' index t restored ↔
      ∃ c₁, body (t.ctx obj) = (.ok (), c₁) ∧
        ∃ c₂, undo ⟨c₁.sw, .new .other 0, c₁.prev, .new, c₁.ndiCounts⟩ = (.ok (), c₂) ∧
          restored t.sw c₂.sw := by
  have rollback {c₁ : Ctx} (ran : body (t.ctx obj) = (.ok (), c₁)) (t₂ : Transaction) :
      nasAclCpsApiRollback p' o' t.prev.length (t.written index c₁) = (.returned (.ok ()), t₂) ↔
        ∃ c₂, undo ((t.written index c₁).ctx c₁.prev) = (.ok (), c₂) ∧
          t₂ = { t.written index c₁ with
            sw := c₂.sw, prev := (t.written index c₁).prev.set t.prev.length c₂.obj,
            ndiCounts := c₂.ndiCounts } := by
    have last : (t.prev ++ [c₁.prev])[t.prev.length]? = some c₁.prev := by
      rw [List.getElem?_append_right (Nat.le_refl _), Nat.sub_self]
      rfl
    rw [← sameKey c₁ ran] at cat undone
    exact nasAclCpsApiRollback_ok last cat undone
  unfold RollsBack
  simp only [nasAclCpsApiWrite_ok listed cat saves mapped]
  constructor
  · rintro ⟨t₁, t₂, ⟨c₁, ran, rfl⟩, back, same⟩
    obtain ⟨c₂, ran₂, rfl⟩ := (rollback ran t₂).mp back
    exact ⟨c₁, ran, c₂, ran₂, same⟩
  · rintro ⟨c₁, ran, c₂, ran₂, same⟩
    exact ⟨_, _, ⟨c₁, ran, rfl⟩, (rollback ran _).mpr ⟨c₂, ran₂, rfl⟩, same⟩

end Transactions

/-! ## Saved objects -/

section Keys

variable {sw : NasAclSwitch} {table : NasAclTable} {e : NasAclEntry} {obj : CpsObject}

/-- An entry's saved object leads to the entry. -/
theorem opKey_entryKeyFill (found : sw.getTable e.tableId = .ok table) :
    cpsOpKeyExtract sw (entryKeyFill e obj)
      = .ok ⟨table, some e.entryId, keyIncrType (entryKeyFill e obj)⟩ :=
  cpsOpKeyExtract_ok.mpr ⟨e.tableId, rfl, found, rfl, rfl⟩

theorem keyIncrType_entryKeyFill (plain : obj.keyData .entryMatchType = none)
    (plain' : obj.keyData .entryActionType = none) : keyIncrType (entryKeyFill e obj) = none := by
  have matchType : (entryKeyFill e obj).keyData .entryMatchType = none := plain
  have actionType : (entryKeyFill e obj).keyData .entryActionType = none := plain'
  simp only [keyIncrType, CpsObject.keyGetU32, matchType, actionType, Option.map_none]
  split <;> rfl

/-- What is filled does not change the keys. -/
theorem fill_keys {x : Fill} {filled : CpsObject} (done : obj.fill x = .ok filled) :
    filled.key = obj.key ∧ filled.keyData = obj.keyData := by
  obtain ⟨r, -, done⟩ := except_bind_ok.mp done
  cases done
  exact ⟨rfl, rfl⟩

theorem opKey_congr {obj' : CpsObject} (same : obj'.keyData = obj.keyData) :
    cpsOpKeyExtract sw obj' = cpsOpKeyExtract sw obj := by
  unfold cpsOpKeyExtract keyIncrType CpsObject.keyGetObjId CpsObject.keyGetU32
  rw [same]

end Keys

/-! ## Saving over an entry -/

section Saves

variable {sw sw' : NasAclSwitch} {e old : NasAclEntry} {ids : NdiObjIdTable} {t id : NasObjId}

namespace NasAclSwitch

theorem tables_addRefOf (added : sw.addRefOf e = .ok sw') : sw'.tables = sw.tables := by
  obtain ⟨counter, -, added⟩ := except_bind_ok.mp added
  cases counter <;> cases added <;> rfl

theorem tables_delRefOf (deleted : sw.delRefOf e = .ok sw') : sw'.tables = sw.tables := by
  obtain ⟨counter, -, deleted⟩ := except_bind_ok.mp deleted
  cases counter <;> cases deleted <;> rfl

theorem tables_saveEntry (saved : sw.saveEntry e = .ok sw') : sw'.tables = sw.tables := by
  have saved := noexceptFn_ok.mp saved
  split at saved
  · cases saved
  · split at saved
    · exact (tables_addRefOf saved).trans rfl
    · split at saved
      · obtain ⟨sw₁, deleted, saved⟩ := except_bind_ok.mp saved
        obtain ⟨sw₂, added, saved⟩ := except_bind_ok.mp saved
        cases saved
        exact (tables_addRefOf added).trans (tables_delRefOf deleted)
      · cases saved
        rfl

theorem tables_removeEntryFromTable (removed : sw.removeEntryFromTable t id = .ok sw') :
    sw'.tables = sw.tables := by
  have removed := noexceptFn_ok.mp removed
  split at removed
  · cases removed
  · obtain ⟨sw₁, deleted, removed⟩ := except_bind_ok.mp removed
    cases removed
    change sw₁.tables = sw.tables
    exact tables_delRefOf deleted

theorem findEntry_putEntry (held : (sw.tableContainers.lookup e.tableId).isSome) :
    (sw.putEntry e).findEntry e.tableId e.entryId = some e := by
  obtain ⟨c, found⟩ := Option.isSome_iff_exists.mp held
  rw [putEntry, findEntry_modifyContainer, if_pos rfl, found, Option.bind_some,
    Finmap.lookup_insert]

end NasAclSwitch

theorem addRefOf_exists (stored : sw.store.CounterStored e) : ∃ sw', sw.addRefOf e = .ok sw' := by
  unfold NasAclSwitch.addRefOf NasAclEntry.getCounter
  by_cases enabled : e.isCounterEnabled
  · obtain ⟨y, held⟩ := Option.isSome_iff_exists.mp (stored enabled)
    rw [NasAclSwitch.store_counter, Option.map_eq_some_iff] at held
    obtain ⟨x, found, -⟩ := held
    rw [if_pos enabled, getCounter_ok.mpr found]
    exact ⟨_, rfl⟩
  · rw [if_neg enabled]
    exact ⟨_, rfl⟩

theorem delRefOf_exists (stored : sw.store.CounterStored e) : ∃ sw', sw.delRefOf e = .ok sw' := by
  unfold NasAclSwitch.delRefOf NasAclEntry.getCounter
  by_cases enabled : e.isCounterEnabled
  · obtain ⟨y, held⟩ := Option.isSome_iff_exists.mp (stored enabled)
    rw [NasAclSwitch.store_counter, Option.map_eq_some_iff] at held
    obtain ⟨x, found, -⟩ := held
    rw [if_pos enabled, getCounter_ok.mpr found]
    exact ⟨_, rfl⟩
  · rw [if_neg enabled]
    exact ⟨_, rfl⟩

end Saves

/-! ## References -/

/-- A counter without its references. -/
def StoredCounter.bare (x : StoredCounter) : StoredCounter :=
  { x with counter := { x.counter with refs := ∅ } }

/-- The entry counts in this counter. -/
def NasAclEntry.Counts (e : NasAclEntry) (t id : NasObjId) : Prop :=
  e.isCounterEnabled ∧ t = e.tableId ∧ id = e.counterId

instance (e : NasAclEntry) (t id : NasObjId) : Decidable (e.Counts t id) :=
  inferInstanceAs (Decidable (e.isCounterEnabled ∧ t = e.tableId ∧ id = e.counterId))

namespace Store

variable {s s' : Store} {e old r : NasAclEntry} {t id : NasObjId}

/-- The references of a counter. -/
def refs (s : Store) (t id : NasObjId) : Option (Finset NasObjId) :=
  (s.counter t id).map fun x => x.counter.refs

/-- The same counters, but for their references. -/
def SameBare (s s' : Store) : Prop :=
  ∀ t id, (s'.counter t id).map StoredCounter.bare = (s.counter t id).map StoredCounter.bare

theorem counter_modifyRefs (t₀ id₀ : NasObjId) (f : NasAclCounter → NasAclCounter) :
    (s.onContainer t₀ (Container.modifyRefs id₀ f)).counter t id =
      if t = t₀ ∧ id = id₀ then (s.counter t id).map fun x => { x with counter := f x.counter }
      else s.counter t id := by
  rw [counter_onContainer]
  by_cases table : t = t₀
  · subst table
    by_cases here : id = id₀
    · subst here
      simp only [and_self, if_true, counter, Container.modifyRefs, Option.map_bind]
      rfl
    · simp only [here, if_true, if_false, and_false, counter, Container.modifyRefs]
  · rw [if_neg table, if_neg fun both => table both.1]

theorem counter_addRef : (s.addRef e).counter t id =
    if e.Counts t id then
      (s.counter t id).map fun x => { x with counter := x.counter.addRef e.entryId }
    else s.counter t id := by
  unfold addRef NasAclEntry.Counts
  by_cases enabled : e.isCounterEnabled
  · rw [if_pos enabled, counter_modifyRefs]
    simp only [enabled, true_and]
  · simp only [enabled, Bool.false_eq_true, if_false, false_and]

theorem counter_delRef : (s.delRef e).counter t id =
    if e.Counts t id then
      (s.counter t id).map fun x => { x with counter := x.counter.delRef e.entryId }
    else s.counter t id := by
  unfold delRef NasAclEntry.Counts
  by_cases enabled : e.isCounterEnabled
  · rw [if_pos enabled, counter_modifyRefs]
    simp only [enabled, true_and]
  · simp only [enabled, Bool.false_eq_true, if_false, false_and]

theorem refs_addRef : (s.addRef e).refs t id =
    if e.Counts t id then (s.refs t id).map (insert e.entryId) else s.refs t id := by
  unfold refs
  rw [counter_addRef]
  split
  · rw [Option.map_map, Option.map_map]
    rfl
  · rfl

theorem refs_delRef : (s.delRef e).refs t id =
    if e.Counts t id then (s.refs t id).map (·.erase e.entryId) else s.refs t id := by
  unfold refs
  rw [counter_delRef]
  split
  · rw [Option.map_map, Option.map_map]
    rfl
  · rfl

theorem SameBare.trans {s'' : Store} (first : s.SameBare s') (second : s'.SameBare s'') :
    s.SameBare s'' := fun t id => (second t id).trans (first t id)

theorem sameBare_addRef : s.SameBare (s.addRef e) := by
  intro t id
  rw [counter_addRef]
  split
  · rw [Option.map_map]
    rfl
  · rfl

theorem sameBare_delRef : s.SameBare (s.delRef e) := by
  intro t id
  rw [counter_delRef]
  split
  · rw [Option.map_map]
    rfl
  · rfl

theorem sameBare_putEntry : s.SameBare (s.putEntry e) := by
  intro t id
  rw [counter_putEntry]

theorem sameBare_replaceEntry : s.SameBare (s.replaceEntry old e) := by
  unfold replaceEntry
  split
  · exact (sameBare_delRef.trans sameBare_addRef).trans sameBare_putEntry
  · exact sameBare_putEntry

/-- What a check of the counter looks at is the same. -/
theorem SameBare.counter (same : s.SameBare s') {y : StoredCounter}
    (held : s.counter t id = some y) : ∃ y', s'.counter t id = some y' ∧ y'.bare = y.bare := by
  have here := same t id
  rwa [held, Option.map_some, Option.map_eq_some_iff] at here

theorem SameBare.symm (same : s.SameBare s') : s'.SameBare s := fun t id => (same t id).symm

theorem SameBare.counterStored (same : s.SameBare s') : s'.CounterStored e ↔ s.CounterStored e := by
  unfold CounterStored
  rw [← Option.isSome_map (f := StoredCounter.bare), same, Option.isSome_map]

theorem SameBare.coversEntry (same : s.SameBare s') (covers : s.CoversEntry e) :
    s'.CoversEntry e := by
  intro enabled npuId mem
  obtain ⟨y, held, on_⟩ := covers enabled npuId mem
  obtain ⟨y', held', bare⟩ := same.counter held
  exact ⟨y', held', (congrArg StoredCounter.onNpus bare).symm ▸ on_⟩

/-- The references when a stored entry changes its counter. -/
theorem refs_replaceEntry (differ : old.counterId ≠ e.counterId) :
    (s.replaceEntry old e).refs t id =
      if e.Counts t id then (s.refs t id).map (insert e.entryId)
      else if old.Counts t id then (s.refs t id).map (·.erase old.entryId)
      else s.refs t id := by
  have put (s : Store) : (s.putEntry e).refs t id = s.refs t id := by
    unfold refs
    rw [counter_putEntry]
  unfold replaceEntry
  rw [if_pos differ, put, refs_addRef, refs_delRef]
  by_cases here : e.Counts t id
  · have other : ¬ old.Counts t id := fun there => differ (there.2.2.symm.trans here.2.2)
    rw [if_pos here, if_pos here, if_neg other]
  · rw [if_neg here, if_neg here]

theorem refs_replaceEntry_same (same : old.counterId = e.counterId) :
    (s.replaceEntry old e).refs t id = s.refs t id := by
  unfold replaceEntry refs
  rw [if_neg (not_not.mpr same), counter_putEntry]

/-- Replacing an entry and putting it back leaves the references as they were exactly when
the entry was a reference of the counter it used, and not of the other. -/
theorem refs_putBack_iff (differ : old.counterId ≠ e.counterId) (own : e.entryId = old.entryId)
    (back : r.entryId = old.entryId) (counts : ∀ t id, r.Counts t id ↔ old.Counts t id)
    (same : r.counterId = old.counterId) :
    (∀ t id, ((s.replaceEntry old e).replaceEntry e r).refs t id = s.refs t id) ↔
      (∀ t id refs, old.Counts t id → s.refs t id = some refs → old.entryId ∈ refs) ∧
        ∀ t id refs, e.Counts t id → s.refs t id = some refs → old.entryId ∉ refs := by
  have apart {t id : NasObjId} (here : old.Counts t id) : ¬ e.Counts t id :=
    fun there => differ (here.2.2.symm.trans there.2.2)
  have step (t id : NasObjId) : ((s.replaceEntry old e).replaceEntry e r).refs t id
      = if old.Counts t id then (s.refs t id).map (insert old.entryId)
        else if e.Counts t id then (s.refs t id).map (·.erase old.entryId)
        else s.refs t id := by
    rw [refs_replaceEntry (fun same' => differ (same'.trans same).symm), back, own,
      refs_replaceEntry differ, own]
    simp only [counts]
    by_cases here : old.Counts t id
    · rw [if_pos here, if_neg (apart here), if_pos here, if_pos here]
      cases s.refs t id with
      | none => rfl
      | some refs =>
          refine congrArg some (Finset.ext fun k => ?_)
          simp only [Finset.mem_insert, Finset.mem_erase]
          by_cases mine : k = old.entryId <;> simp only [mine, true_or, false_or, not_false_eq_true,
            true_and, ne_eq]
    · rw [if_neg here, if_neg here, if_neg here]
      by_cases there : e.Counts t id
      · rw [if_pos there, if_pos there, if_pos there]
        cases s.refs t id with
        | none => rfl
        | some refs => simp only [Option.map_some, Finset.erase_insert_eq_erase]
      · rw [if_neg there, if_neg there, if_neg there]
  simp only [step]
  constructor
  · intro restored
    constructor
    · intro t id refs here found
      have now := restored t id
      rw [if_pos here, found, Option.map_some, Option.some.injEq] at now
      exact Finset.insert_eq_self.mp now
    · intro t id refs there found
      have now := restored t id
      rw [if_neg fun here => apart here there, if_pos there, found, Option.map_some,
        Option.some.injEq] at now
      exact Finset.erase_eq_self.mp now
  · rintro ⟨listed, unlisted⟩ t id
    cases found : s.refs t id with
    | none => simp only [Option.map_none, ite_self]
    | some refs =>
        by_cases here : old.Counts t id
        · rw [if_pos here, Option.map_some, Finset.insert_eq_self.mpr (listed t id refs here found)]
        · rw [if_neg here]
          by_cases there : e.Counts t id
          · rw [if_pos there, Option.map_some,
              Finset.erase_eq_self.mpr (unlisted t id refs there found)]
          · rw [if_neg there]

end Store

/-! ## A stored entry that is replaced -/

section Replaced

variable {sw sw' : NasAclSwitch} {e old : NasAclEntry} {ids : NdiObjIdTable}

theorem delRefOf_stored (deleted : sw.delRefOf e = .ok sw') : sw.store.CounterStored e := by
  obtain ⟨found, lookup, -⟩ := except_bind_ok.mp deleted
  rw [entryCounter_ok] at lookup
  intro enabled
  rw [if_pos enabled] at lookup
  obtain ⟨x, held, -⟩ := lookup
  rw [NasAclSwitch.store_counter, held]
  rfl

/-- An entry is saved over another exactly when the counters it changes between are there. -/
theorem saveEntry_exists (present : sw.findEntry e.tableId e.entryId = some old) :
    (∃ sw', sw.saveEntry e = .ok sw') ↔
      (old.counterId ≠ e.counterId → sw.store.CounterStored old ∧ sw.store.CounterStored e) := by
  obtain ⟨c, container, held⟩ := Option.bind_eq_some_iff.mp present
  simp only [NasAclSwitch.saveEntry, noexceptFn_ok, container, held]
  by_cases differ : old.counterId ≠ e.counterId
  · rw [if_pos differ, forall_prop_of_true differ]
    constructor
    · rintro ⟨sw', saved⟩
      obtain ⟨sw₁, deleted, saved⟩ := except_bind_ok.mp saved
      obtain ⟨sw₂, added, -⟩ := except_bind_ok.mp saved
      have there := (addRefOf_ok added).2
      rw [delRefOf_ok deleted] at there
      exact ⟨delRefOf_stored deleted, Store.sameBare_delRef.counterStored.mp there⟩
    · rintro ⟨before, after⟩
      obtain ⟨sw₁, deleted⟩ := delRefOf_exists before
      have kept : sw₁.store.CounterStored e := by
        rw [delRefOf_ok deleted]
        exact Store.sameBare_delRef.counterStored.mpr after
      obtain ⟨sw₂, added⟩ := addRefOf_exists kept
      exact ⟨_, except_bind_ok.mpr ⟨sw₁, deleted, except_bind_ok.mpr ⟨sw₂, added, rfl⟩⟩⟩
  · rw [if_neg differ]
    exact ⟨fun _ changed => absurd changed differ, fun _ => ⟨_, rfl⟩⟩

/-- A new entry is saved when its counter is there. -/
theorem saveEntry_new_exists (held : (sw.store.containers e.tableId).isSome)
    (absent : sw.findEntry e.tableId e.entryId = none) (counted : sw.store.CounterStored e) :
    ∃ sw', sw.saveEntry e = .ok sw' := by
  rw [NasAclSwitch.store_containers, Option.isSome_map] at held
  obtain ⟨c, found⟩ := Option.isSome_iff_exists.mp held
  have none_ : c.aclEntries.lookup e.entryId = none := by
    rw [NasAclSwitch.findEntry, found] at absent
    exact absent
  have there : (sw.putEntry e).store.CounterStored e := by
    rw [store_putEntry]
    exact Store.sameBare_putEntry.counterStored.mpr counted
  obtain ⟨sw', added⟩ := addRefOf_exists there
  refine ⟨sw', noexceptFn_ok.mpr ?_⟩
  rw [found]
  dsimp only
  rw [none_]
  exact added

/-- Saving does not look at NDI ids. -/
theorem saveEntry_alike {sw₁ : NasAclSwitch} {e₁ : NasAclEntry} (store : sw₁.store = sw.store)
    (same : e₁.noIds = e.noIds) (saved : sw.saveEntry e = .ok sw') :
    ∃ sw₁', sw₁.saveEntry e₁ = .ok sw₁' ∧ sw₁'.store = sw'.store := by
  have table : e₁.tableId = e.tableId := (congrArg NasAclEntry.tableId same :)
  have own : e₁.entryId = e.entryId := (congrArg NasAclEntry.entryId same :)
  have counts {s : Store} (counted : s.CounterStored e) : s.CounterStored e₁ := by
    change s.CounterStored e₁.noIds
    rw [same]
    exact counted
  cases present : sw.findEntry e.tableId e.entryId with
  | none =>
      obtain ⟨left, counted, held⟩ := saveEntry_new present saved
      have absent : sw₁.findEntry e₁.tableId e₁.entryId = none := by
        rw [table, own, store_findEntry_none, store]
        exact store_findEntry_none.mp present
      obtain ⟨sw₁', saved₁⟩ := saveEntry_new_exists (by rw [store, table]; exact held) absent
        (store ▸ counts (Store.sameBare_putEntry.counterStored.mp counted))
      refine ⟨sw₁', saved₁, ?_⟩
      rw [(saveEntry_new absent saved₁).1, left, store, same]
      change (sw.store.putEntry e.noIds).addRef e₁.noIds = _
      rw [same]
      rfl
  | some old =>
      have stored : sw₁.store.entry e₁.tableId e₁.entryId = some old.noIds := by
        rw [store, table, own, NasAclSwitch.store_entry, present]
        rfl
      rw [NasAclSwitch.store_entry] at stored
      obtain ⟨old₁, present₁, alike⟩ := Option.map_eq_some_iff.mp stored
      have counter : old₁.counterId = old.counterId := (congrArg NasAclEntry.counterId alike :)
      have counter' : e₁.counterId = e.counterId := (congrArg NasAclEntry.counterId same :)
      obtain ⟨sw₁', saved₁⟩ := (saveEntry_exists present₁).mpr (by
        rw [counter, counter', store]
        intro differ
        obtain ⟨before, after⟩ := (saveEntry_exists present).mp ⟨sw', saved⟩ differ
        refine ⟨?_, counts after⟩
        change sw.store.CounterStored old₁.noIds
        rw [alike]
        exact before)
      refine ⟨sw₁', saved₁, ?_⟩
      rw [saveEntry_old present₁ saved₁, saveEntry_old present saved, store, same]
      change sw.store.replaceEntry old₁.noIds e.noIds = _
      rw [alike]
      rfl

theorem findEntry_saveEntry (present : sw.findEntry e.tableId e.entryId = some old)
    (saved : sw.saveEntry e = .ok sw') : sw'.findEntry e.tableId e.entryId = some e := by
  obtain ⟨c, container, held⟩ := Option.bind_eq_some_iff.mp present
  have put (sw₀ : NasAclSwitch) (same : sw₀.findEntry = sw.findEntry) :
      (sw₀.putEntry e).findEntry e.tableId e.entryId = some e := by
    have there := congrFun (congrFun same e.tableId) e.entryId
    obtain ⟨c₀, container₀, -⟩ := Option.bind_eq_some_iff.mp (there.trans present)
    exact NasAclSwitch.findEntry_putEntry (by rw [container₀]; rfl)
  have saved := noexceptFn_ok.mp saved
  simp only [container, held] at saved
  split at saved
  · obtain ⟨sw₁, deleted, saved⟩ := except_bind_ok.mp saved
    obtain ⟨sw₂, added, saved⟩ := except_bind_ok.mp saved
    cases saved
    exact put _ ((NasAclSwitch.findEntry_addRefOf added).trans
      (NasAclSwitch.findEntry_delRefOf deleted))
  · cases saved
    exact put _ rfl

/-- The entry that is left by a commit of the base object, before it is saved over. -/
theorem findEntry_left (stored : sw.findEntry old.tableId old.entryId = some old)
    (table : e.tableId = old.tableId) (own : e.entryId = old.entryId) :
    (sw.setEntryIds old.tableId old.entryId ids).findEntry e.tableId e.entryId
      = some { old with ndiEntryIds := ids } := by
  rw [table, own, NasAclSwitch.findEntry_setEntryIds, if_pos ⟨rfl, rfl⟩, stored]
  rfl

theorem saveEntry_over_exists (ids : NdiObjIdTable)
    (stored : sw.findEntry old.tableId old.entryId = some old)
    (table : e.tableId = old.tableId) (own : e.entryId = old.entryId) :
    (∃ sw', (sw.setEntryIds old.tableId old.entryId ids).saveEntry e = .ok sw') ↔
      (old.counterId ≠ e.counterId → sw.store.CounterStored old ∧ sw.store.CounterStored e) := by
  rw [saveEntry_exists (findEntry_left stored table own), store_setEntryIds]
  exact Iff.rfl

/-- What is stored after an entry is saved over another. -/
theorem saveEntry_over (stored : sw.findEntry old.tableId old.entryId = some old)
    (table : e.tableId = old.tableId) (own : e.entryId = old.entryId)
    (saved : (sw.setEntryIds old.tableId old.entryId ids).saveEntry e = .ok sw') :
    sw'.findEntry e.tableId e.entryId = some e ∧ sw'.tables = sw.tables ∧
      sw'.store = sw.store.replaceEntry old e.noIds := by
  have left : (sw.setEntryIds old.tableId old.entryId ids).findEntry e.tableId e.entryId
      = some { old with ndiEntryIds := ids } := findEntry_left stored table own
  refine ⟨findEntry_saveEntry left saved, (NasAclSwitch.tables_saveEntry saved).trans rfl, ?_⟩
  have store := saveEntry_old left saved
  rwa [store_setEntryIds] at store

/-! ### And put back -/

/-- Every counter has the references it had. -/
def SameRefs (sw sw' : NasAclSwitch) : Prop :=
  ∀ t id, (sw'.findCounter t id).map (·.refs) = (sw.findCounter t id).map (·.refs)

/-- Where the counter changes, the entry is a reference of the one it has, and not of the one
it gets. -/
def RefsReturn (sw : NasAclSwitch) (old new : NasAclEntry) : Prop :=
  old.counterId ≠ new.counterId →
    (old.isCounterEnabled → ∃ x, sw.findCounter old.tableId old.counterId = some x ∧
      old.entryId ∈ x.refs) ∧
    (new.isCounterEnabled → ∃ x, sw.findCounter old.tableId new.counterId = some x ∧
      old.entryId ∉ x.refs)

theorem store_refs (sw : NasAclSwitch) (t id : NasObjId) :
    sw.store.refs t id = (sw.findCounter t id).map (·.refs) := by
  unfold Store.refs
  rw [NasAclSwitch.store_counter, Option.map_map]
  rfl

theorem sameRefs_iff : SameRefs sw sw' ↔ ∀ t id, sw'.store.refs t id = sw.store.refs t id := by
  unfold SameRefs
  simp only [store_refs]

theorem counterStored_of_found {x : NasAclCounter}
    (found : sw.findCounter e.tableId e.counterId = some x) : sw.store.CounterStored e := by
  intro _
  rw [NasAclSwitch.store_counter, found]
  rfl

theorem RefsReturn.stored (table : e.tableId = old.tableId) (refs : RefsReturn sw old e)
    (differ : old.counterId ≠ e.counterId) :
    sw.store.CounterStored old ∧ sw.store.CounterStored e := by
  obtain ⟨held, free⟩ := refs differ
  refine ⟨fun enabled => ?_, fun enabled => ?_⟩
  · obtain ⟨x, found, -⟩ := held enabled
    exact counterStored_of_found found enabled
  · obtain ⟨x, found, -⟩ := free enabled
    exact counterStored_of_found (by rw [table]; exact found) enabled

variable {r : NasAclEntry} {sw₁ : NasAclSwitch} {ids₁ : NdiObjIdTable}

/-- An entry that was saved over can be saved again, with all references as before, exactly
when they were right for the two counters. -/
theorem putBack_iff (stored : sw.findEntry old.tableId old.entryId = some old)
    (table : e.tableId = old.tableId) (own : e.entryId = old.entryId)
    (saved : (sw.setEntryIds old.tableId old.entryId ids).saveEntry e = .ok sw₁)
    (table' : r.tableId = old.tableId) (own' : r.entryId = old.entryId)
    (actions : r.alist = old.alist) :
    (∃ sw₂, (sw₁.setEntryIds e.tableId e.entryId ids₁).saveEntry r = .ok sw₂ ∧ SameRefs sw sw₂) ↔
      RefsReturn sw old e := by
  obtain ⟨here, -, store⟩ := saveEntry_over stored table own saved
  have same : r.counterId = old.counterId := by
    unfold NasAclEntry.counterId
    rw [actions]
  have enabled : r.isCounterEnabled = old.isCounterEnabled := by
    unfold NasAclEntry.isCounterEnabled
    rw [actions]
  have counts (t id : NasObjId) : r.noIds.Counts t id ↔ old.Counts t id := by
    unfold NasAclEntry.Counts
    rw [noIds_isCounterEnabled, noIds_tableId, noIds_counterId, enabled, table', same]
  have twice {sw₂ : NasAclSwitch}
      (saved' : (sw₁.setEntryIds e.tableId e.entryId ids₁).saveEntry r = .ok sw₂) :
      sw₂.store = (sw.store.replaceEntry old e.noIds).replaceEntry e.noIds r.noIds := by
    have again := (saveEntry_over here (table'.trans table.symm) (own'.trans own.symm) saved').2.2
    rw [again, store]
    rfl
  have known := (saveEntry_over_exists ids stored table own).mp ⟨sw₁, saved⟩
  have found {x : NasAclEntry} (there : sw.store.CounterStored x) (on : x.isCounterEnabled) :
      ∃ y, sw.findCounter x.tableId x.counterId = some y := by
    have held := there on
    rw [NasAclSwitch.store_counter, Option.isSome_map] at held
    exact Option.isSome_iff_exists.mp held
  constructor
  · rintro ⟨sw₂, saved', refs⟩ differ
    have back := sameRefs_iff.mp refs
    rw [twice saved'] at back
    obtain ⟨listed, unlisted⟩ :=
      (Store.refs_putBack_iff (e := e.noIds) (r := r.noIds) differ own own' counts same).mp back
    obtain ⟨before, after⟩ := known differ
    refine ⟨fun on => ?_, fun on => ?_⟩
    · obtain ⟨y, there⟩ := found before on
      refine ⟨y, there, listed _ _ y.refs ⟨on, rfl, rfl⟩ ?_⟩
      rw [store_refs, there]
      rfl
    · obtain ⟨y, there⟩ := found after on
      rw [table] at there
      refine ⟨y, there, unlisted _ _ y.refs ⟨on, table.symm, rfl⟩ ?_⟩
      rw [store_refs, noIds_counterId, there]
      rfl
  · intro refs
    have exists_ : ∃ sw₂, (sw₁.setEntryIds e.tableId e.entryId ids₁).saveEntry r = .ok sw₂ := by
      refine (saveEntry_over_exists ids₁ here (table'.trans table.symm) (own'.trans own.symm)).mpr
        fun differ => ?_
      obtain ⟨before, after⟩ := refs.stored table fun same' => differ (same'.symm.trans same.symm)
      have kept : sw.store.SameBare sw₁.store := store ▸ Store.sameBare_replaceEntry
      refine ⟨kept.counterStored.mpr after, kept.counterStored.mpr fun on => ?_⟩
      rw [table', same]
      exact before (enabled ▸ on)
    obtain ⟨sw₂, saved'⟩ := exists_
    refine ⟨sw₂, saved', sameRefs_iff.mpr ?_⟩
    rw [twice saved']
    by_cases differ : old.counterId ≠ e.counterId
    · refine (Store.refs_putBack_iff (e := e.noIds) (r := r.noIds) differ own own' counts
        same).mpr ⟨?_, ?_⟩
      · rintro t id y ⟨on, rfl, rfl⟩ there
        obtain ⟨x, held, mem⟩ := (refs differ).1 on
        rw [store_refs, held] at there
        cases there
        exact mem
      · rintro t id y ⟨on, rfl, rfl⟩ there
        obtain ⟨x, held, absent⟩ := (refs differ).2 on
        rw [store_refs, noIds_tableId, noIds_counterId, table, held] at there
        cases there
        exact absent
    · have kept := not_not.mp differ
      intro t id
      have again : e.noIds.counterId = r.noIds.counterId := kept.symm.trans same.symm
      have first : old.counterId = e.noIds.counterId := kept
      rw [Store.refs_replaceEntry_same again, Store.refs_replaceEntry_same first]

end Replaced

/-! ## What is stored was read -/

/-- The filters and the actions of an entry were read from objects, and the table has the
filters. -/
structure NasAclEntry.Readable (p : Platform) (table : NasAclTable) (e : NasAclEntry) : Prop where
  filters : ∀ t f, e.flist.find t = some f → f.Accepted p table
  actions : ActionsRead p e

section Readable

open NasAclEntry

variable {p : Platform} {sw : NasAclSwitch} {table : NasAclTable} {e : NasAclEntry} {r : Request}

theorem NasAclEntry.Readable.of_same {e' : NasAclEntry} (held : e.Readable p table)
    (filters : e'.flist = e.flist) (actions : e'.alist = e.alist) : e'.Readable p table where
  filters := by
    rw [filters]
    exact held.filters
  actions := by
    unfold ActionsRead
    rw [actions]
    exact held.actions

/-- Whatever a call reads is read alike in any other. -/
theorem closed_readable {q : Platform} (hosts : p.Hosts q) :
    ClosedUnderReads q sw table (Readable p table) where
  setPriority e v held := held.of_same rfl rfl
  addFilter e f reset e' obj v path held read added := by
    obtain ⟨w, rfl⟩ := hosts
    rw [readFilter_walking] at read
    obtain ⟨-, -, actions, -⟩ := addFilter_frame added
    refine ⟨accepted_addFilter held.filters ⟨obj, v, path, read⟩ added, ?_⟩
    unfold ActionsRead
    rw [actions]
    exact held.actions
  addAction e a reset e' obj v path held read added := by
    obtain ⟨w, rfl⟩ := hosts
    rw [readAction_walking] at read
    refine ⟨?_, actionsRead_set held.actions (setActionAttr_ok.mpr ⟨a, read, added⟩)⟩
    obtain ⟨rfl, -⟩ := addAction_ok.mp added
    rw [putAction_frame]
    exact held.filters
  addNpu e npuId held := held.of_same rfl rfl
  removeFilter e t held := by
    refine ⟨fun t' f found => ?_, held.actions⟩
    simp only [removeFilter, Keyed.find_erase] at found
    split at found
    · cases found
    · exact held.filters t' f found
  removeAction e t held := by
    refine ⟨held.filters, fun t' a found => ?_⟩
    simp only [removeAction, Keyed.find_erase] at found
    split at found
    · cases found
    · exact held.actions t' a found

theorem NasAclEntry.Readable.noIds (held : e.Readable p table) :
    e.noIds.Readable p table.noIds where
  filters t f found := ⟨(held.filters t f found).read, (held.filters t f found).allowed,
    (held.filters t f found).inTable⟩
  actions := held.actions

theorem NasAclEntry.Readable.of_noIds (held : e.noIds.Readable p table.noIds) : e.Readable p table where
  filters t f found := ⟨(held.filters t f found).read, (held.filters t f found).allowed,
    (held.filters t f found).inTable⟩
  actions := held.actions

theorem readable_new {q : Platform} (t : NasObjId) : (NasAclEntry.new q t).Readable p table where
  filters t f found := by cases found
  actions t a found := by cases found

theorem NasAclEntry.Readable.committed (held : e.Readable p table) :
    (e.committed ∅).Readable p table.noIds := by
  have same : (e.committed ∅).Readable p table := held.of_same rfl rfl
  exact same.noIds

theorem keeps_readable (hosts : p.Hosts r.platform) :
    KeepsEntries (fun table e => e.Readable p table) r sw where
  created key parsed placed := by
    have read := parse_closed (closed_readable hosts) (readable_new _) parsed
    obtain ⟨-, -, filters, actions, -⟩ := npusForCreate_frame placed
    exact (read.of_same filters actions).committed
  changed asks checked held := by
    have read := asks.closed (closed_readable hosts) held.of_noIds
    obtain ⟨-, -, filters, actions, -⟩ := npusForModify_frame (checkModify_ok.mp checked).1
    exact (read.of_same filters actions).committed

/-- On one platform, what is stored in an entry was read there. -/
theorem reached_readable (reached : Reached (fun _ r => p.Hosts r.platform) sw) {t id : NasObjId}
    (known : sw.getTable t = .ok table) (stored : sw.getEntry t id = .ok e) :
    e.Readable p table := by
  have all := reached_entries (fun _ _ _ => keeps_readable) reached
  obtain ⟨table', held, read⟩ := all t id _ (getEntry_store stored)
  rw [getTable_store known] at held
  cases held
  exact read.of_noIds

end Readable

end SonicNasAcl
