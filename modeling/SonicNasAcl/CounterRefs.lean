/-
# CounterRefs -- a counter's references are the entries that use it

`Container.RefsExact`: a counter of a table refers to exactly the entries of the table
whose SET_COUNTER action names it.  As a relation between counter ids and entry ids the
invariant also says that every counter an entry names is there.

The references are kept by comparing counter ids, and 0 is the id of an entry without
a counter as well as an id a client may choose.  So the invariant is one of runs in
which no entry goes between "no counter" and "counter 0" (`Request.FlipsZero`):

* `addRef_refersTo`, `delRef_refersTo`: what the two updates do to the relation;
* `did_refsExact`: the step lemma, one case per way a request succeeds;
* `refs_exact_unless_flipped`: the run theorem, and what it means for a deletion.
-/
import SonicNasAcl.Invariants

namespace SonicNasAcl

set_option autoImplicit false

open Lib

/-! ## The invariant -/

namespace NasAclEntry

/-- The entry's SET_COUNTER action names the counter. -/
def UsesCounter (e : NasAclEntry) (id : NasObjId) : Prop :=
  ∃ a, e.alist.find .setCounter = some a ∧ a.counterId = id

theorem usesCounter_iff {e : NasAclEntry} {id : NasObjId} :
    e.UsesCounter id ↔ e.isCounterEnabled ∧ e.counterId = id := by
  unfold UsesCounter isCounterEnabled counterId
  cases e.alist.find .setCounter with
  | none => simp only [reduceCtorEq, false_and, exists_false, Option.isSome_none,
      Bool.false_eq_true]
  | some a => simp only [Option.some.injEq, exists_eq_left', Option.isSome_some, true_and]

/-- One entry has no counter, the other has counter 0. -/
def FlipsZero (old new : NasAclEntry) : Prop :=
  (old.isCounterEnabled = false ∧ new.UsesCounter 0) ∨
    (old.UsesCounter 0 ∧ new.isCounterEnabled = false)

/-- Entries that agree on the counter id agree on its use, unless one of them flips. -/
theorem usesCounter_congr {old new : NasAclEntry} (steady : ¬ old.FlipsZero new)
    (same : old.counterId = new.counterId) (id : NasObjId) :
    old.UsesCounter id ↔ new.UsesCounter id := by
  have zero {e : NasAclEntry} (off : e.isCounterEnabled = false) : e.counterId = 0 := by
    unfold isCounterEnabled at off
    unfold counterId
    rw [Option.isNone_iff_eq_none.mp (Option.isSome_eq_false_iff.mp off)]
  rw [usesCounter_iff, usesCounter_iff, same]
  cases before : old.isCounterEnabled with
  | true =>
      cases after : new.isCounterEnabled with
      | true => exact Iff.rfl
      | false =>
          refine absurd (.inr ⟨usesCounter_iff.mpr ⟨before, ?_⟩, after⟩) steady
          rw [same, zero after]
  | false =>
      cases after : new.isCounterEnabled with
      | false => exact Iff.rfl
      | true =>
          refine absurd (.inl ⟨before, usesCounter_iff.mpr ⟨after, ?_⟩⟩) steady
          rw [← same, zero before]

end NasAclEntry

namespace Container

/-- The counter refers to the entry. -/
def RefersTo (c : Container) (id k : NasObjId) : Prop :=
  ∃ x, c.counters id = some x ∧ k ∈ x.counter.refs

/-- The entry uses the counter. -/
def Uses (c : Container) (k id : NasObjId) : Prop :=
  ∃ e, c.entries k = some e ∧ e.UsesCounter id

def RefsExact (c : Container) : Prop := ∀ id k, c.RefersTo id k ↔ c.Uses k id

end Container

/-- In every table, a counter refers to exactly the entries that use it. -/
def Store.RefsExact (s : Store) : Prop := ∀ t c, s.containers t = some c → c.RefsExact

/-- A counter that a stored entry uses is stored and refers to the entry. -/
theorem Store.RefsExact.referred {s : Store} (exact_ : s.RefsExact) {t k id : NasObjId}
    {e : NasAclEntry} (stored : s.entry t k = some e) (uses : e.UsesCounter id) :
    ∃ x, s.counter t id = some x ∧ k ∈ x.counter.refs := by
  obtain ⟨c, container, inside⟩ := Option.bind_eq_some_iff.mp stored
  obtain ⟨x, held, mem⟩ := (exact_ t c container id k).mpr ⟨e, inside, uses⟩
  refine ⟨x, ?_, mem⟩
  rw [Store.counter, container]
  exact held

/-! ## Operations on a container -/

namespace Container

variable {c : Container} {e : NasAclEntry} {id k : NasObjId}

/-- `Store.addRef`, inside the entry's table. -/
def addRefOf (e : NasAclEntry) (c : Container) : Container :=
  if e.isCounterEnabled then c.modifyRefs e.counterId (·.addRef e.entryId) else c

/-- `Store.delRef`, inside the entry's table. -/
def delRefOf (e : NasAclEntry) (c : Container) : Container :=
  if e.isCounterEnabled then c.modifyRefs e.counterId (·.delRef e.entryId) else c

theorem modifyRefs_counters (id₀ id : NasObjId) (f : NasAclCounter → NasAclCounter)
    (c : Container) :
    (c.modifyRefs id₀ f).counters id =
      if id = id₀ then (c.counters id).map fun x => { x with counter := f x.counter }
      else c.counters id := rfl

theorem addRef_refersTo :
    (c.addRefOf e).RefersTo id k ↔
      c.RefersTo id k ∨ (k = e.entryId ∧ e.UsesCounter id ∧ (c.counters id).isSome) := by
  rw [NasAclEntry.usesCounter_iff]
  unfold addRefOf RefersTo
  cases e.isCounterEnabled with
  | false => simp only [Bool.false_eq_true, if_false, false_and, and_false, or_false]
  | true =>
      simp only [if_true, true_and, modifyRefs_counters]
      by_cases here : id = e.counterId
      · subst here
        cases c.counters e.counterId with
        | none => simp only [if_true, Option.map_none, reduceCtorEq, false_and, exists_false,
            Option.isSome_none, Bool.false_eq_true, and_false, or_false]
        | some x =>
            simp only [if_true, Option.map_some, Option.some.injEq, exists_eq_left',
              Option.isSome_some, and_true, NasAclCounter.addRef, Finset.mem_insert]
            exact or_comm
      · simp only [here, if_false, Ne.symm here, false_and, and_false, or_false]

theorem delRef_refersTo :
    (c.delRefOf e).RefersTo id k ↔ c.RefersTo id k ∧ ¬ (k = e.entryId ∧ e.UsesCounter id) := by
  rw [NasAclEntry.usesCounter_iff]
  unfold delRefOf RefersTo
  cases e.isCounterEnabled with
  | false => simp only [Bool.false_eq_true, if_false, false_and, and_false, not_false_eq_true,
      and_true]
  | true =>
      simp only [if_true, true_and, modifyRefs_counters]
      by_cases here : id = e.counterId
      · subst here
        cases c.counters e.counterId with
        | none => simp only [if_true, Option.map_none, reduceCtorEq, false_and, exists_false]
        | some x =>
            simp only [if_true, Option.map_some, Option.some.injEq, exists_eq_left', and_true,
              NasAclCounter.delRef, Finset.mem_erase]
            exact and_comm
      · simp only [here, if_false, Ne.symm here, and_false, not_false_eq_true, and_true]

theorem delRefOf_isSome : ((c.delRefOf e).counters id).isSome = (c.counters id).isSome := by
  unfold delRefOf
  split
  · rw [modifyRefs_counters]
    split
    · rw [Option.isSome_map]
    · rfl
  · rfl

theorem uses_of_held (held : c.entries k = some e) : c.Uses k id ↔ e.UsesCounter id := by
  unfold Uses
  simp only [held, Option.some.injEq, exists_eq_left']

theorem uses_putEntry : (c.putEntry e).Uses k id ↔
    if k = e.entryId then e.UsesCounter id else c.Uses k id := by
  unfold Uses putEntry
  by_cases here : k = e.entryId
  · simp only [here, if_true, Option.some.injEq, exists_eq_left']
  · simp only [here, if_false]

theorem uses_addRefOf : (c.addRefOf e).Uses k id ↔ c.Uses k id := by
  unfold addRefOf
  split <;> exact Iff.rfl

theorem uses_delRefOf : (c.delRefOf e).Uses k id ↔ c.Uses k id := by
  unfold delRefOf
  split <;> exact Iff.rfl

/-- In a container where the relation is exact, a counter that is named is there. -/
theorem RefsExact.known (exact_ : c.RefsExact) (uses : c.Uses k id) : (c.counters id).isSome := by
  obtain ⟨x, held, -⟩ := (exact_ id k).mpr uses
  rw [held]
  rfl

/-! ### The invariant -/

theorem refsExact_new : Container.new.RefsExact := by
  intro id k
  constructor
  · rintro ⟨x, held, -⟩
    cases held
  · rintro ⟨e, held, -⟩
    cases held

/-- A new entry. -/
theorem RefsExact.create (exact_ : c.RefsExact) (absent : c.entries e.entryId = none)
    (known : ∀ id, e.UsesCounter id → (c.counters id).isSome) :
    ((c.putEntry e).addRefOf e).RefsExact := by
  intro id k
  rw [addRef_refersTo, uses_addRefOf, uses_putEntry]
  change c.RefersTo id k ∨ (_ ∧ _ ∧ (c.counters id).isSome) ↔ _
  rw [exact_ id k]
  by_cases here : k = e.entryId
  · have unused : ¬ c.Uses k id := by
      rintro ⟨e', held, -⟩
      rw [here, absent] at held
      cases held
    simp only [here, if_true, true_and] at unused ⊢
    simp only [unused, false_or]
    exact ⟨fun both => both.1, fun uses => ⟨uses, known id uses⟩⟩
  · simp only [here, false_and, or_false, if_false]

/-- An entry in the place of another, with the references moved. -/
theorem RefsExact.replace (exact_ : c.RefsExact) (old : NasAclEntry)
    (held : c.entries e.entryId = some old) (own : old.entryId = e.entryId)
    (known : ∀ id, e.UsesCounter id → (c.counters id).isSome) :
    (((c.delRefOf old).addRefOf e).putEntry e).RefsExact := by
  intro id k
  rw [uses_putEntry, uses_addRefOf, uses_delRefOf]
  change ((c.delRefOf old).addRefOf e).RefersTo id k ↔ _
  rw [addRef_refersTo, delRef_refersTo, delRefOf_isSome, own, exact_ id k]
  by_cases here : k = e.entryId
  · subst here
    simp only [uses_of_held held, true_and, and_not_self_iff, false_or, if_true]
    exact ⟨fun both => both.1, fun uses => ⟨uses, known id uses⟩⟩
  · simp only [here, false_and, not_false_eq_true, and_true, or_false, if_false]

/-- An entry in the place of another that uses the same counter. -/
theorem RefsExact.keep (exact_ : c.RefsExact) (old : NasAclEntry)
    (held : c.entries e.entryId = some old)
    (same : ∀ id, old.UsesCounter id ↔ e.UsesCounter id) : (c.putEntry e).RefsExact := by
  intro id k
  rw [uses_putEntry]
  change c.RefersTo id k ↔ _
  rw [exact_ id k]
  by_cases here : k = e.entryId
  · subst here
    simp only [uses_of_held held, if_true, same]
  · simp only [here, if_false]

/-- An entry that goes, with its reference. -/
theorem RefsExact.remove (exact_ : c.RefsExact) (held : c.entries e.entryId = some e) :
    ((c.delRefOf e).eraseEntry e.entryId).RefsExact := by
  intro id k
  change (c.delRefOf e).RefersTo id k ↔ ∃ e', (if k = e.entryId then none else _) = some e' ∧ _
  rw [delRef_refersTo, exact_ id k]
  by_cases here : k = e.entryId
  · subst here
    simp only [uses_of_held held, true_and, and_not_self_iff, if_true, reduceCtorEq, false_and,
      exists_false]
  · simp only [here, false_and, not_false_eq_true, and_true, if_false]
    exact (uses_delRefOf (e := e)).symm

/-- A new counter, which nobody refers to. -/
theorem RefsExact.createCounter (exact_ : c.RefsExact) {x : StoredCounter}
    (absent : c.counters x.counter.counterId = none) (unused : x.counter.refs = ∅) :
    (c.putCounter x).RefsExact := by
  intro id k
  change (∃ y, (if id = x.counter.counterId then some x else c.counters id) = some y ∧ _) ↔
    c.Uses k id
  rw [← exact_ id k]
  unfold RefersTo
  by_cases here : id = x.counter.counterId
  · simp only [here, if_true, Option.some.injEq, exists_eq_left', unused, Finset.notMem_empty,
      absent, reduceCtorEq, false_and, exists_false]
  · simp only [here, if_false]

/-- A counter that nobody refers to goes. -/
theorem RefsExact.removeCounter (exact_ : c.RefsExact) {x : StoredCounter} {id₀ : NasObjId}
    (held : c.counters id₀ = some x) (unused : x.counter.refs = ∅) :
    (c.eraseCounter id₀).RefsExact := by
  intro id k
  change (∃ y, (if id = id₀ then none else c.counters id) = some y ∧ _) ↔ c.Uses k id
  rw [← exact_ id k]
  unfold RefersTo
  by_cases here : id = id₀
  · simp only [here, if_true, reduceCtorEq, false_and, exists_false, held, Option.some.injEq,
      exists_eq_left', unused, Finset.notMem_empty]
  · simp only [here, if_false]

end Container

/-! ## Counters that a request names -/

section Named

variable {p : Platform} {sw : NasAclSwitch} {table : NasAclTable} {e e' : NasAclEntry}
  {id t : NasObjId}

theorem usesCounter_putAction {a : NasAclAction} {reset : Bool}
    (uses : (e.putAction a reset).UsesCounter id) :
    (a.actionType = .setCounter ∧ (e.putAction a reset).counterId = id) ∨ e.UsesCounter id := by
  rw [NasAclEntry.putAction_frame] at uses ⊢
  obtain ⟨a', found, named⟩ := uses
  rw [Keyed.find_put] at found
  split at found
  · rename_i here
    cases found
    refine .inl ⟨here.symm, ?_⟩
    simp only [NasAclEntry.counterId, Keyed.find_put, here, if_true]
    exact named
  · refine .inr ⟨a', ?_, named⟩
    unfold NasAclEntry.resetActions at found
    split at found
    · cases found
    · exact found

/-- A counter that the edits of a request name was there, or was named before. -/
theorem closed_counterKnown (old : NasAclEntry) (t : NasObjId) :
    ClosedUnderEdits p sw table fun e =>
      e.tableId = t ∧ ∀ id, e.UsesCounter id → old.UsesCounter id ∨ (sw.findCounter t id).isSome where
  setPriority _ _ known := known
  addFilter e f reset e' known added := by
    obtain ⟨mine, -, same, -⟩ := NasAclEntry.addFilter_frame added
    refine ⟨mine.trans known.1, fun id uses => known.2 id ?_⟩
    unfold NasAclEntry.UsesCounter at uses ⊢
    rwa [same] at uses
  addAction e a reset e' known added := by
    obtain ⟨rfl, checked⟩ := NasAclEntry.addAction_ok.mp added
    have mine : (e.putAction a reset).tableId = t := by
      rw [NasAclEntry.putAction_frame]
      exact known.1
    refine ⟨mine, fun id uses => ?_⟩
    obtain ⟨counter, named⟩ | before := usesCounter_putAction uses
    · obtain ⟨x, found, -⟩ := checked counter
      rw [mine, named] at found
      exact .inr (Option.isSome_of_eq_some found)
    · exact known.2 id before
  addNpu _ _ known := known
  removeFilter _ _ known := known
  removeAction e a known := by
    refine ⟨known.1, fun id uses => known.2 id ?_⟩
    obtain ⟨a', found, named⟩ := uses
    refine ⟨a', ?_, named⟩
    simp only [NasAclEntry.removeAction, Keyed.find_erase] at found
    split at found
    · cases found
    · exact found

variable {r : Request}

theorem Request.Asks.counterKnown {old new : NasAclEntry} (asks : r.Asks sw table old new) :
    ∀ id, new.UsesCounter id → old.UsesCounter id ∨ (sw.findCounter old.tableId id).isSome := by
  cases asks with
  | whole key set stored parsed =>
      exact (parse_invariant (closed_counterKnown old old.tableId)
        ⟨rfl, fun _ uses => .inl uses⟩ parsed).2
  | element key stored made =>
      exact (incr_invariant (closed_counterKnown old old.tableId)
        ⟨rfl, fun _ uses => .inl uses⟩ made).2

end Named

/-! ## One request -/

/-- The request would change a stored entry between having no counter and having
counter 0. -/
def Request.FlipsZero (r : Request) (sw : NasAclSwitch) : Prop :=
  r.obj.key.subcat = .entry ∧ ∃ table old new e, r.Asks sw table old new ∧
    new.checkModify r.platform sw table = .ok e ∧ old.FlipsZero e

namespace Store

variable {s : Store} {e : NasAclEntry} {t : NasObjId}

theorem addRef_eq (e : NasAclEntry) (s : Store) :
    s.addRef e = s.onContainer e.tableId (Container.addRefOf e) := by
  unfold addRef Container.addRefOf
  cases e.isCounterEnabled with
  | true => rfl
  | false => exact (onContainer_id fun _ _ => rfl).symm

theorem delRef_eq (e : NasAclEntry) (s : Store) :
    s.delRef e = s.onContainer e.tableId (Container.delRefOf e) := by
  unfold delRef Container.delRefOf
  cases e.isCounterEnabled with
  | true => rfl
  | false => exact (onContainer_id fun _ _ => rfl).symm

theorem RefsExact.onContainer {f : Container → Container} (exact_ : s.RefsExact)
    (kept : ∀ c, s.containers t = some c → c.RefsExact → (f c).RefsExact) :
    (s.onContainer t f).RefsExact := by
  intro t' c' held
  rw [containers_onContainer] at held
  by_cases here : t' = t
  · subst here
    rw [if_pos rfl] at held
    obtain ⟨c, found, rfl⟩ := Option.map_eq_some_iff.mp held
    exact kept c found (exact_ _ _ found)
  · rw [if_neg here] at held
    exact exact_ _ _ held

end Store

/-- What a request that succeeds keeps, entry by entry and counter by counter. -/
theorem did_refsExact {r : Request} {sw : NasAclSwitch} {s : Store}
    (consistent : sw.store.Consistent) (exact_ : sw.store.RefsExact) (steady : ¬ r.FlipsZero sw)
    (did : Did r sw s) : s.RefsExact := by
  cases did with
  | statsSet => exact exact_
  | @tableCreated table absent small =>
      intro t c found
      simp only [Store.putTable, Store.takeId] at found
      split at found
      · rename_i here
        have none_yet : sw.store.containers t = none := by
          rw [← Option.not_isSome_iff_eq_none, ← consistent.sameKeys, here, absent]
          exact Bool.false_ne_true
        rw [none_yet] at found
        cases found
        exact Container.refsExact_new
      · exact exact_ t c found
  | tableDeleted held =>
      intro t c found
      simp only [Store.removeTable] at found
      split at found
      · cases found
      · exact exact_ t c found
  | @counterCreated x absent small unused =>
      simp only [Store.takeId, Store.onContainer_onContainer]
      refine exact_.onContainer fun c held ok => ?_
      rw [Store.counter, held] at absent
      exact Container.RefsExact.createCounter (c := c.takeCounterId _) ok absent unused
  | @counterDeleted t id x held unused =>
      refine exact_.onContainer fun c found ok => ?_
      rw [Store.counter, found] at held
      exact ok.removeCounter held unused
  | @entryCreated table eid new e id key parsed placed absent small counted =>
      have here : (e.committed ∅).tableId = e.tableId := rfl
      simp only [Store.addRef_eq, Store.takeId, Store.putEntry, here, Store.onContainer_onContainer]
      refine exact_.onContainer fun c held ok => ?_
      rw [Store.entry, held] at absent
      refine Container.RefsExact.create (c := c.takeEntryId e.entryId) (e := e.committed ∅) ok
        absent fun x uses => ?_
      obtain ⟨enabled, rfl⟩ := NasAclEntry.usesCounter_iff.mp uses
      have stored := counted enabled
      rwa [Store.counter, held] at stored
  | @entryChanged table old new e entry asks checked =>
      obtain ⟨stored, -, mine, own⟩ := asks.stored_old consistent
      obtain ⟨mine', own', -, actions, -⟩ :=
        npusForModify_frame (NasAclEntry.checkModify_ok.mp checked).1
      have here : (e.committed ∅).tableId = old.tableId := mine'.trans mine
      have there : old.noIds.entryId = (e.committed ∅).entryId := (own'.trans own).symm
      have flip : ¬ old.FlipsZero e := fun flips =>
        steady ⟨entry, table, old, new, e, asks, checked, flips⟩
      have in_container : ∀ c, sw.store.containers old.tableId = some c →
          c.entries (e.committed ∅).entryId = some old.noIds := fun c held => by
        have found := getEntry_store stored
        rw [Store.entry, held] at found
        exact there ▸ found
      unfold Store.replaceEntry
      split
      · simp only [Store.addRef_eq, Store.delRef_eq, Store.putEntry, here,
          Store.onContainer_onContainer]
        refine exact_.onContainer fun c held ok => ?_
        have held' := in_container c held
        refine Container.RefsExact.replace ok old.noIds held' there ?_
        intro x uses
        have named : new.UsesCounter x := by
          unfold NasAclEntry.UsesCounter at uses ⊢
          rwa [← actions]
        obtain before | found := asks.counterKnown x named
        · exact ok.known ((Container.uses_of_held (in_container c held)).mpr before)
        · have stored := congrArg Option.isSome (sw.store_counter old.tableId x)
          rw [Option.isSome_map, found, Store.counter, held] at stored
          exact stored
      · rename_i same
        simp only [Store.putEntry, here]
        refine exact_.onContainer fun c held ok => ?_
        have held' := in_container c held
        exact ok.keep old.noIds held' (NasAclEntry.usesCounter_congr flip (not_not.mp same))
  | @entryDeleted table eid e key stored =>
      obtain ⟨mine, own⟩ := entryKeyed consistent stored
      simp only [Store.removeEntry, Store.delRef_eq, mine, Store.onContainer_onContainer]
      refine exact_.onContainer fun c held ok => ?_
      have found := getEntry_store stored
      rw [Store.entry, held, ← own] at found
      rw [← own]
      exact Container.RefsExact.remove (e := e.noIds) ok found

/-! ## Runs -/

/-- A counter can be deleted only when no stored entry uses it. -/
theorem unused_of_deleted {r : Request} {sw sw' : NasAclSwitch} (exact_ : sw.store.RefsExact)
    {t id : NasObjId} (counter : r.obj.key.subcat = .counter) (op : r.op = .delete)
    (inTable : r.obj.keyGetObjId .counterTableId = some t)
    (named : r.obj.keyGetObjId .counterId = some id)
    (ran : r.run sw = (.returned (.ok ()), sw')) :
    ∀ k e, sw.store.entry t k = some e → ¬ e.UsesCounter id := by
  obtain ⟨refused, -⟩ | ⟨handler, c', mapped, done, -⟩ := run_cases ran
  · cases refused
  · rw [counter, op] at mapped
    cases mapped
    rw [tryHandler_ok, nasAclCounterDelete_ok] at done
    obtain ⟨t', inTable', id', named', x, found, prev, -, unused, -⟩ := done
    cases inTable.symm.trans inTable'
    cases named.symm.trans named'
    intro k e stored uses
    obtain ⟨y, held, mem⟩ := exact_.referred stored uses
    rw [sw.store_counter, show sw.findCounter t id = some x from getCounter_ok.mp found] at held
    cases held
    have nobody : x.refs = ∅ := not_not.mp (throwIf_ok.mp unused)
    change k ∈ x.refs at mem
    rw [nobody] at mem
    exact Finset.notMem_empty k mem

/-- Along a run in which no entry goes between no counter and counter 0, references
are exact. -/
theorem refs_exact_unless_flipped {sw : NasAclSwitch}
    (reached : Reached (fun sw r => ¬ r.FlipsZero sw) sw) :
    (∀ t c, sw.store.containers t = some c →
      (∀ id x, c.counters id = some x → ∀ k, k ∈ x.counter.refs ↔ c.Uses k id) ∧
      ∀ k id, c.Uses k id → (c.counters id).isSome) ∧
    ∀ (r : Request) (sw' : NasAclSwitch) (t id : NasObjId),
      r.obj.key.subcat = .counter → r.op = .delete →
      r.obj.keyGetObjId .counterTableId = some t → r.obj.keyGetObjId .counterId = some id →
      r.run sw = (.returned (.ok ()), sw') →
      ∀ k e, sw.store.entry t k = some e → ¬ e.UsesCounter id := by
  have exact_ : sw.store.RefsExact := by
    refine reached.invariant_within (fun sw => sw.store.Consistent)
      (fun sw => sw.store.RefsExact) (fun _ before => reached_consistent before) ?_ ?_
    · rintro t c held
      rw [NasAclSwitch.store_new] at held
      cases held
    · intro sw r sw' consistent ok steady stepped
      obtain same | did := next_cases consistent stepped
      · exact same.symm ▸ ok
      · exact did_refsExact consistent ok steady did
  refine ⟨fun t c held => ⟨fun id x found k => ?_, fun k id => (exact_ t c held).known⟩,
    fun r sw' t id counter op inTable named ran =>
      unused_of_deleted exact_ counter op inTable named ran⟩
  rw [← exact_ t c held id k]
  unfold Container.RefersTo
  simp only [found, Option.some.injEq, exists_eq_left']

/-! ### On the bench -/

/-- Table 1, counter 0, and entry 7 with a counter or without. -/
def counterZeroRun (actions : List (List CpsAttr)) : List Request :=
  [Bench.createTable [.inPort], Bench.createCounter 0,
    Bench.entryRequest .create
      [Bench.u32 .entryPriority 0,
        Bench.listAttr .entryMatch [Bench.matchElem .inPort [Bench.u32 (.matchValue .inPort) 3]],
        Bench.listAttr .entryAction actions]]

def setCounterZero : List CpsAttr :=
  Bench.actionElem .setCounter [Bench.u64 (.actionValue .setCounter) 0]

/-- An entry that is given counter 0 by a SET is not among the counter's references. -/
theorem refs_not_always_exact :
    ¬ ∀ sw, Reached (fun _ _ => True) sw → sw.store.RefsExact := by
  intro claim
  let sw := Bench.after (counterZeroRun [Bench.actionElem .decrementTtl []]
    ++ [Bench.entryRequest .set [Bench.listAttr .entryAction [setCounterZero]]])
  have exact_ := claim sw (Reachable.after fun _ _ _ => trivial)
  have used : (sw.findEntry 1 7).any fun e => e.isCounterEnabled ∧ e.counterId = 0 := by
    decide +kernel
  have unreferenced : (sw.findCounter 1 0).map (·.refs) = some ∅ := by decide +kernel
  obtain ⟨e, found, uses⟩ := (Option.any_eq_true _ _).mp used
  have stored := sw.store_entry 1 7
  rw [found] at stored
  have named : e.noIds.UsesCounter 0 :=
    NasAclEntry.usesCounter_iff (e := e).mpr (of_decide_eq_true uses)
  obtain ⟨x, held, mem⟩ := exact_.referred stored named
  rw [sw.store_counter] at held
  obtain ⟨y, found, rfl⟩ := Option.map_eq_some_iff.mp held
  rw [found] at unreferenced
  have nobody : y.refs = ∅ := Option.some.inj unreferenced
  change 7 ∈ y.refs at mem
  rw [nobody] at mem
  exact Finset.notMem_empty _ mem

/-- A run of creations: entry 7 uses counter 0, which refers to it. -/
theorem refs_exact_after_create :
    let sw := Bench.after (counterZeroRun [setCounterZero])
    (∀ t c, sw.store.containers t = some c →
      (∀ id x, c.counters id = some x → ∀ k, k ∈ x.counter.refs ↔ c.Uses k id) ∧
      ∀ k id, c.Uses k id → (c.counters id).isSome) ∧
    (sw.findCounter 1 0).map (·.refs) = some {7} := by
  have creations : ∀ r ∈ counterZeroRun [setCounterZero],
      ¬ (r.op = .set ∨ keyIncrType r.obj ≠ none) := by decide +kernel
  refine ⟨(refs_exact_unless_flipped (Reachable.after ?_)).1, by decide +kernel⟩
  rintro r mem sw ⟨-, table, old, new, e, asks, -⟩
  exact creations r mem asks.changes

end SonicNasAcl
