/-
# CounterPresence -- a counter is where its entries are pushed

`_copy_ndi_counter_id` follows an entry's counter without a test and is `noexcept`: a
counter that is missing, or not on the NPU, ends the process.  Three things keep it
from that.  A commit checks that the counter is on every NPU of the new entry; a counter
is never moved, only created and deleted; and it is not deleted while an entry refers to
it -- which is exact as long as no counter has the id 0.

* `did_countersCover`: every request keeps "a stored entry's counter is on its NPUs";
* `reached_covered`: without a counter 0 no entry flips, so references are exact;
* `pushesOn_of_counterOn`: where its counter is, pushing an entry does not end the
  process;
* `counters_at_hand`: whatever is pushed for a new entry, or undone for an old one,
  survives.
-/
import SonicNasAcl.ConfiguredNpus
import SonicNasAcl.CounterRefs
import SonicNasAcl.ActionCodec
import SonicNasAcl.Escapes

namespace SonicNasAcl

set_option autoImplicit false

open Lib

/-! ## Counters and the NPUs they are on -/

namespace Container

variable {c c' : Container} {e : NasAclEntry}

def counterNpus (c : Container) (id : NasObjId) : Option NpuSet :=
  (c.counters id).map StoredCounter.onNpus

/-- The counter of an entry is on every NPU of the entry. -/
def Covers (c : Container) (e : NasAclEntry) : Prop :=
  e.isCounterEnabled → ∀ npuId ∈ e.npuList, ∃ npus, c.counterNpus e.counterId = some npus ∧
    npuId ∈ npus

def CountersCover (c : Container) : Prop := ∀ k e, c.entries k = some e → c.Covers e

theorem Covers.congr (covers : c.Covers e)
    (same : c'.counterNpus e.counterId = c.counterNpus e.counterId) : c'.Covers e := by
  unfold Covers
  rw [same]
  exact covers

theorem counterNpus_modifyRefs (id₀ id : NasObjId) (f : NasAclCounter → NasAclCounter) :
    (c.modifyRefs id₀ f).counterNpus id = c.counterNpus id := by
  simp only [counterNpus, modifyRefs_counters]
  split
  · rw [Option.map_map]
    rfl
  · rfl

theorem counterNpus_addRefOf (id : NasObjId) :
    (c.addRefOf e).counterNpus id = c.counterNpus id := by
  unfold addRefOf
  split
  · exact counterNpus_modifyRefs _ _ _
  · rfl

theorem counterNpus_delRefOf (id : NasObjId) :
    (c.delRefOf e).counterNpus id = c.counterNpus id := by
  unfold delRefOf
  split
  · exact counterNpus_modifyRefs _ _ _
  · rfl

/-- Counters that stay where they are, and entries that were there. -/
theorem CountersCover.of_fewer (all : c.CountersCover)
    (same : ∀ id, c'.counterNpus id = c.counterNpus id)
    (fewer : ∀ k e, c'.entries k = some e → c.entries k = some e) : c'.CountersCover := by
  intro k e held
  exact (all k e (fewer k e held)).congr (same e.counterId)

theorem CountersCover.putEntry (all : c.CountersCover) (here : c.Covers e) :
    (c.putEntry e).CountersCover := by
  intro k e' held
  change (if k = e.entryId then some e else c.entries k) = some e' at held
  split at held
  · cases held
    exact here
  · exact all k e' held

theorem CountersCover.addRefOf (all : c.CountersCover) (e : NasAclEntry) :
    (c.addRefOf e).CountersCover := by
  refine all.of_fewer counterNpus_addRefOf fun k e' held => ?_
  unfold Container.addRefOf at held
  split at held
  · exact held
  · exact held

theorem CountersCover.delRefOf (all : c.CountersCover) (e : NasAclEntry) :
    (c.delRefOf e).CountersCover := by
  refine all.of_fewer counterNpus_delRefOf fun k e' held => ?_
  unfold Container.delRefOf at held
  split at held
  · exact held
  · exact held

/-- A new counter does not move the others. -/
theorem CountersCover.createCounter (all : c.CountersCover) {x : StoredCounter}
    (absent : c.counters x.counter.counterId = none) : (c.putCounter x).CountersCover := by
  intro k e held enabled npuId mem
  obtain ⟨npus, there, on⟩ := all k e held enabled npuId mem
  refine ⟨npus, ?_, on⟩
  by_cases here : e.counterId = x.counter.counterId
  · rw [counterNpus, here, absent] at there
    cases there
  · change ((if e.counterId = x.counter.counterId then some x else c.counters e.counterId).map _) = _
    rw [if_neg here]
    exact there

/-- A counter that goes is used by nobody. -/
theorem CountersCover.removeCounter (all : c.CountersCover) (exact_ : c.RefsExact)
    {x : StoredCounter} {id₀ : NasObjId} (held : c.counters id₀ = some x)
    (unused : x.counter.refs = ∅) : (c.eraseCounter id₀).CountersCover := by
  intro k e stored enabled npuId mem
  obtain ⟨npus, there, on⟩ := all k e stored enabled npuId mem
  refine ⟨npus, ?_, on⟩
  by_cases here : e.counterId = id₀
  · have uses : c.Uses k id₀ := ⟨e, stored, NasAclEntry.usesCounter_iff.mpr ⟨enabled, here⟩⟩
    obtain ⟨y, found, refers⟩ := (exact_ id₀ k).mpr uses
    rw [held] at found
    cases found
    rw [unused] at refers
    exact absurd refers (Finset.notMem_empty k)
  · change ((if e.counterId = id₀ then none else c.counters e.counterId).map _) = _
    rw [if_neg here]
    exact there

end Container

namespace Store

variable {s : Store} {e : NasAclEntry} {t : NasObjId}

/-- In every table, the counter of a stored entry is on the NPUs of the entry. -/
def CountersCover (s : Store) : Prop := ∀ t c, s.containers t = some c → c.CountersCover

theorem coversEntry_iff {c : Container} (held : s.containers e.tableId = some c) :
    s.CoversEntry e ↔ c.Covers e := by
  unfold CoversEntry Container.Covers Container.counterNpus counter
  simp only [held, Option.bind_some, Option.map_eq_some_iff, exists_exists_and_eq_and]

theorem CountersCover.onContainer {f : Container → Container} (all : s.CountersCover)
    (kept : ∀ c, s.containers t = some c → c.CountersCover → (f c).CountersCover) :
    (s.onContainer t f).CountersCover := by
  intro t' c' held
  rw [containers_onContainer] at held
  by_cases here : t' = t
  · subst here
    rw [if_pos rfl] at held
    obtain ⟨c, found, rfl⟩ := Option.map_eq_some_iff.mp held
    exact kept c found (all _ _ found)
  · rw [if_neg here] at held
    exact all _ _ held

/-- A stored entry whose counter covers it. -/
theorem CountersCover.entry (all : s.CountersCover) (consistent : s.Consistent) {k : NasObjId}
    (stored : s.entry t k = some e) : s.CoversEntry e := by
  obtain ⟨c, held, inside⟩ := Option.bind_eq_some_iff.mp stored
  have mine : e.tableId = t := ((consistent.containers t c held).entryKeyed k e inside).1
  refine (coversEntry_iff (mine.symm ▸ held)).mpr ?_
  exact all t c held k e inside

end Store

/-! ## One request -/

/-- Every request keeps counters where their entries are. -/
theorem did_countersCover {r : Request} {sw : NasAclSwitch} {s : Store}
    (consistent : sw.store.Consistent) (exact_ : sw.store.RefsExact)
    (all : sw.store.CountersCover) (did : Did r sw s) : s.CountersCover := by
  cases did with
  | statsSet => exact all
  | @tableCreated table absent small =>
      intro t c found
      simp only [Store.putTable, Store.takeId] at found
      split at found
      · rename_i here
        have none_yet : sw.store.containers t = none := by
          rw [← Option.not_isSome_iff_eq_none, ← consistent.sameKeys, here, absent]
          exact Bool.false_ne_true
        rw [none_yet] at found
        cases found
        intro k e held
        cases held
      · exact all t c found
  | tableDeleted held =>
      intro t c found
      simp only [Store.removeTable] at found
      split at found
      · cases found
      · exact all t c found
  | @counterCreated x absent small unused =>
      simp only [Store.takeId, Store.onContainer_onContainer]
      refine all.onContainer fun c held ok => ?_
      rw [Store.counter, held] at absent
      exact Container.CountersCover.createCounter (c := c.takeCounterId _) ok absent
  | @counterDeleted t id x held unused =>
      refine all.onContainer fun c found ok => ?_
      rw [Store.counter, found] at held
      exact ok.removeCounter (exact_ t c found) held unused
  | @entryCreated table eid new e id key parsed placed absent small counted covered =>
      have here : (e.committed ∅).tableId = e.tableId := rfl
      simp only [Store.addRef_eq, Store.takeId, Store.putEntry, here, Store.onContainer_onContainer]
      refine all.onContainer fun c held ok => ?_
      have mine : c.Covers (e.committed ∅) := (Store.coversEntry_iff held).mp covered
      exact (Container.CountersCover.putEntry (c := c.takeEntryId e.entryId) ok mine).addRefOf e
  | @entryChanged table old new e entry asks checked =>
      obtain ⟨placed, counted⟩ := NasAclEntry.checkModify_ok.mp checked
      have covered := checkCounter_store.mp counted
      obtain ⟨-, -, mine, -⟩ := asks.stored_old consistent
      have here : (e.committed ∅).tableId = old.tableId := (npusForModify_frame placed).1.trans mine
      have covers {c : Container} (held : sw.store.containers old.tableId = some c) :
          c.Covers (e.committed ∅) :=
        (Store.coversEntry_iff (e := e.committed ∅) (here.symm ▸ held)).mp covered
      unfold Store.replaceEntry
      split
      · simp only [Store.addRef_eq, Store.delRef_eq, Store.putEntry, here,
          Store.onContainer_onContainer]
        refine all.onContainer fun c held ok => ?_
        refine ((ok.delRefOf old).addRefOf (e.committed ∅)).putEntry ((covers held).congr ?_)
        rw [Container.counterNpus_addRefOf, Container.counterNpus_delRefOf]
      · simp only [Store.putEntry, here]
        exact all.onContainer fun c held ok => ok.putEntry (covers held)
  | @entryDeleted table eid e key stored =>
      obtain ⟨mine, own⟩ := entryKeyed consistent stored
      simp only [Store.removeEntry, Store.delRef_eq, mine, Store.onContainer_onContainer]
      refine all.onContainer fun c held ok => ?_
      refine (ok.delRefOf e).of_fewer (fun _ => rfl) fun k e' there => ?_
      change (if k = eid then none else (c.delRefOf e).entries k) = some e' at there
      split at there
      · cases there
      · exact there

/-! ## Runs without a counter 0 -/

/-- No counter has the id 0. -/
def NasAclSwitch.CountersNonzero (sw : NasAclSwitch) : Prop := ∀ t, sw.findCounter t 0 = none

theorem NasAclSwitch.countersNonzero_iff {sw : NasAclSwitch} :
    sw.CountersNonzero ↔ ∀ t ∈ sw.tableContainers.keys, sw.findCounter t 0 = none := by
  refine ⟨fun all t _ => all t, fun all t => ?_⟩
  by_cases held : t ∈ sw.tableContainers
  · exact all t (Finmap.mem_keys.mpr held)
  · rw [NasAclSwitch.findCounter, Finmap.lookup_eq_none.mpr held]
    rfl

-- the tables are looked through, not all ids
instance (sw : NasAclSwitch) : Decidable sw.CountersNonzero :=
  @decidable_of_iff' _ _ sw.countersNonzero_iff Finset.decidableDforallFinset

/-- The request creates no counter 0. -/
def Request.KeepsCountersNonzero (r : Request) (sw : NasAclSwitch) : Prop :=
  ∀ sw', Request.next sw r = some sw' → sw'.CountersNonzero

/-- An entry whose counter action holds an object, as the accessor makes it. -/
def NasAclEntry.CountsByObject (e : NasAclEntry) : Prop :=
  ∀ a, e.alist.find .setCounter = some a → ∃ v, a.aInfo.values = .objId v

section Runs

variable {r : Request} {sw : NasAclSwitch} {table : NasAclTable} {p : Platform}

theorem reached_nonzero (reached : Reached (fun sw r => r.KeepsCountersNonzero sw) sw) :
    sw.CountersNonzero := by
  refine reached.invariant NasAclSwitch.CountersNonzero (fun t => ?_) fun sw r sw' _ keeps stepped => ?_
  · rfl
  · exact keeps sw' stepped

/-- Where references are exact and no counter is 0, no entry flips. -/
theorem not_flipsZero (exact_ : sw.store.RefsExact) (consistent : sw.store.Consistent)
    (nonzero : sw.CountersNonzero) : ¬ r.FlipsZero sw := by
  rintro ⟨-, table, old, new, e, asks, checked, flips⟩
  have unused (t : NasObjId) : sw.store.counter t 0 = none := by
    rw [NasAclSwitch.store_counter, nonzero t]
    rfl
  obtain ⟨stored, -⟩ := asks.stored_old consistent
  have oldNot : ¬ old.UsesCounter 0 := by
    intro uses
    obtain ⟨x, held, -⟩ := exact_.referred (e := old.noIds) (getEntry_store stored) uses
    rw [unused] at held
    cases held
  rcases flips with ⟨-, uses⟩ | ⟨uses, -⟩
  · have actions := (npusForModify_frame (NasAclEntry.checkModify_ok.mp checked).1).2.2.2.1
    have named : new.UsesCounter 0 := by
      unfold NasAclEntry.UsesCounter at uses ⊢
      rwa [← actions]
    obtain before | found := asks.counterKnown 0 named
    · exact oldNot before
    · rw [nonzero] at found
      cases found
  · exact oldNot uses

/-- So references are exact, and counters are where their entries are. -/
theorem reached_covered (reached : Reached (fun sw r => r.KeepsCountersNonzero sw) sw) :
    sw.store.RefsExact ∧ sw.store.CountersCover := by
  refine reached.invariant_within (fun sw => sw.store.Consistent ∧ sw.CountersNonzero)
    (fun sw => sw.store.RefsExact ∧ sw.store.CountersCover)
    (fun _ before => ⟨reached_consistent before, reached_nonzero before⟩) ?_ ?_
  · rw [NasAclSwitch.store_new]
    refine ⟨fun t c held => ?_, fun t c held => ?_⟩ <;> cases held
  · rintro sw r sw' ⟨consistent, nonzero⟩ ⟨exact_, covered⟩ - stepped
    obtain same | did := next_cases consistent stepped
    · rw [same]
      exact ⟨exact_, covered⟩
    · exact ⟨did_refsExact consistent exact_ (not_flipsZero exact_ consistent nonzero) did,
        did_countersCover consistent exact_ covered did⟩

/-- Reading a counter action makes it an object. -/
theorem closed_countsByObject : ClosedUnderReads p sw table NasAclEntry.CountsByObject where
  setPriority _ _ holds := holds
  addFilter e f reset e' _ _ _ holds _ added := by
    obtain ⟨-, -, same, -⟩ := NasAclEntry.addFilter_frame added
    unfold NasAclEntry.CountsByObject
    rwa [same]
  addAction e a reset e' obj v path holds read added := by
    obtain ⟨rfl, -⟩ := NasAclEntry.addAction_ok.mp added
    rw [NasAclEntry.putAction_frame]
    intro b found
    simp only [Keyed.find_put] at found
    split at found
    · rename_i counter
      cases found
      obtain ⟨t, -, ⟨valueless, rfl⟩ | ⟨-, l, setFn, -, setter, set⟩⟩ := readAction_ok.mp read
      · obtain rfl : ActionType.setCounter = t := counter
        cases valueless
      · obtain rfl : a.actionType = t := actionMap_setFn_type setter set
        rw [← counter] at setter set
        cases setter
        obtain ⟨data, -, rfl⟩ := NasAclAction.setObjIdActionVal_ok.mp set
        exact ⟨0, rfl⟩
    · unfold NasAclEntry.resetActions at found
      split at found
      · cases found
      · exact holds b found
  addNpu _ _ holds := holds
  removeFilter _ _ holds := holds
  removeAction e t holds := by
    intro b found
    simp only [NasAclEntry.removeAction, Keyed.find_erase] at found
    split at found
    · cases found
    · exact holds b found

/-- What reading keeps, and what depends on the actions of an entry only, holds of every stored
entry. -/
theorem reached_actions {P : NasAclEntry → Prop} {allowed : NasAclSwitch → Request → Prop}
    (closed : ∀ p sw table, ClosedUnderReads p sw table P) (first : ∀ p t, P (.new p t))
    (ofActions : ∀ e e', e'.alist = e.alist → P e → P e') (reached : Reached allowed sw) :
    sw.store.Entries fun _ e => P e := by
  refine reached_entries (fun sw r _ _ => ⟨?_, ?_⟩) reached
  · intro table eid new e id key parsed placed
    have holds := parse_closed (closed _ _ _) (first r.platform table.tableId) parsed
    exact ofActions new.1 _ (npusForCreate_frame placed).2.2.2.1 holds
  · intro table old new e asks checked before
    have holds := asks.closed (closed _ _ _) (ofActions old.noIds old rfl before)
    exact ofActions new _ (npusForModify_frame (NasAclEntry.checkModify_ok.mp checked).1).2.2.2.1 holds

theorem countsByObject_of_actions {e e' : NasAclEntry} (same : e'.alist = e.alist)
    (counts : e.CountsByObject) : e'.CountsByObject := by
  unfold NasAclEntry.CountsByObject
  rw [same]
  exact counts

theorem reached_countsByObject {allowed : NasAclSwitch → Request → Prop}
    (reached : Reached allowed sw) : sw.store.Entries fun _ e => e.CountsByObject :=
  reached_actions (fun _ _ _ => closed_countsByObject) (fun _ _ a found => by cases found)
    (fun _ _ => countsByObject_of_actions) reached

theorem stored_countsByObject {allowed : NasAclSwitch → Request → Prop} (reached : Reached allowed sw)
    {t id : NasObjId} {e : NasAclEntry} (stored : sw.getEntry t id = .ok e) : e.CountsByObject := by
  obtain ⟨table, -, counts⟩ := reached_countsByObject reached t id _ (getEntry_store stored)
  exact counts

end Runs

/-! ## What is pushed for an entry -/

/-- The exceptions that end the process. -/
def Aborts (err : Exn) : Prop := ∃ why, err = .abort why

theorem aborts_notBase : NotBase Aborts := by
  rintro errCode errMsg ⟨why, same⟩
  cases same

/-- The counter of an entry is in its table, and on the NPU. -/
def NasAclEntry.CounterOn (sw : NasAclSwitch) (e : NasAclEntry) (npuId : NpuId) : Prop :=
  e.isCounterEnabled → ∃ c id, sw.findCounter e.tableId e.counterId = some c ∧
    c.ndiObjIds.lookup npuId = some id

section Pushing

variable {p : Platform} {o : NdiReplies} {sw : NasAclSwitch} {e : NasAclEntry} {npuId : NpuId}
  {a : NasAclAction}

theorem copyNdiCounterId_ok (counterOn : e.CounterOn sw npuId) (enabled : e.isCounterEnabled)
    (l : List NdiAction) (x : NdiAction) : ∃ l', copyNdiCounterId sw e npuId (l ++ [x]) = .ok l' := by
  obtain ⟨c, id, found, here⟩ := counterOn enabled
  have counter : e.getCounter sw = .ok (some c) := by
    refine entryCounter_ok.mpr ?_
    rw [if_pos enabled]
    exact ⟨c, found, rfl⟩
  simp only [copyNdiCounterId, List.getLast?_concat, counter, except_ok_bind, Option.map_some, here]
  exact ⟨_, rfl⟩

/-- An action of the entry is translated without ending the process. -/
theorem avoids_copyOneActionNdi (counterOn : e.CounterOn sw npuId) (counts : e.CountsByObject)
    (held : e.alist.find a.actionType = some a) (l : List NdiAction) :
    Avoids Aborts (copyOneActionNdi p sw e npuId l a) := by
  unfold copyOneActionNdi
  by_cases counter : a.isCounter
  · have type : a.actionType = .setCounter := of_decide_eq_true counter
    rw [type] at held
    obtain ⟨v, object⟩ := counts a held
    have copied : a.copyActionNdi p npuId l
        = .ok (true, l ++ [{ a.aInfo with values := .objId v }]) := by
      rw [NasAclAction.copyActionNdi, object]
      simp only [counter, if_true]
    obtain ⟨l', ran⟩ := copyNdiCounterId_ok counterOn (Option.isSome_of_eq_some held) l
      { a.aInfo with values := .objId v }
    rw [copied]
    simp only [except_ok_bind, counter, if_true, ran]
    exact avoids_ok l'
  · refine avoids_bind (avoids_copyActionNdi aborts_notBase) fun r _ => ?_
    simp only [counter, Bool.false_eq_true, if_false]
    exact avoids_ok _

/-- Where its counter is, an entry is pushed without ending the process. -/
theorem pushesOn_of_counterOn (counterOn : e.CounterOn sw npuId) (counts : e.CountsByObject) :
    e.PushesOn Aborts p sw npuId where
  found := by
    unfold NasAclEntry.ndiEntryId
    split
    · exact avoids_ok _
    · rintro err failed ⟨why, rfl⟩
      cases failed
  actions a held l := avoids_copyOneActionNdi counterOn counts held l

end Pushing

/-! ## Every run -/

/-- The counter of an entry is there on each NPU the entry is on, and what is done to the
NDI for the entry on these NPUs does not end the process. -/
structure CounterAtHand (p : Platform) (sw : NasAclSwitch) (e : NasAclEntry) : Prop where
  present : e.isCounterEnabled → ∀ npuId ∈ e.npuList,
    ∃ c id, sw.findCounter e.tableId e.counterId = some c ∧ c.ndiObjIds.lookup npuId = some id
  created : ∀ o table, ∀ npuId ∈ e.npuList, Never Aborts (pushCreateObjToNpu p o sw table npuId e)
  changed : ∀ o attr old npus rollingBack, npus ⊆ e.npuList →
    Never Aborts (pushNonLeafAttrNdi p o sw attr old npus rollingBack e)
  undone : ∀ o trakr, (∀ elem ∈ trakr, elem.npuId ∈ e.npuList) →
    Never Aborts (rollbackTracked p o sw e trakr)

section Runs

variable {p : Platform} {sw sw₁ : NasAclSwitch} {e : NasAclEntry}

/-- The counter of an entry that is covered is on its NPUs. -/
theorem counterOn_of_covers (covered : sw.store.CoversEntry e)
    (same : ∀ t id, sw₁.findCounter t id = sw.findCounter t id) :
    ∀ npuId ∈ e.npuList, e.CounterOn sw₁ npuId := by
  intro npuId mem enabled
  obtain ⟨x, found, here⟩ := covered enabled npuId mem
  rw [sw.store_counter] at found
  obtain ⟨c, held, rfl⟩ := Option.map_eq_some_iff.mp found
  obtain ⟨id, known⟩ := Finmap.mem_iff.mp (Finmap.mem_keys.mp here)
  exact ⟨c, id, (same _ _).trans held, known⟩

/-- An entry that is covered, and whose counter action is an object. -/
theorem CounterAtHand.of_covered (covered : sw.store.CoversEntry e) (counts : e.CountsByObject)
    (same : ∀ t id, sw₁.findCounter t id = sw.findCounter t id) : CounterAtHand p sw₁ e := by
  have on := counterOn_of_covers covered same
  have pushes : ∀ npuId ∈ e.npuList, e.PushesOn Aborts p sw₁ npuId := fun npuId mem =>
    pushesOn_of_counterOn (on npuId mem) counts
  refine ⟨fun enabled npuId mem => on npuId mem enabled, fun o table npuId mem => ?_,
    fun o attr old npus rollingBack inside => ?_, fun o trakr inside => ?_⟩
  · exact never_pushCreateObjToNpu aborts_notBase (pushes npuId mem).actions
  · exact never_pushNonLeafAttrNdi aborts_notBase fun npuId mem => pushes npuId (inside mem)
  · exact never_rollbackTracked aborts_notBase fun elem mem => pushes _ (inside elem mem)

/-- Without a counter 0, the counter of an entry is at hand when the new entry of a commit
is pushed, and when the old entry of a modify is brought back.  The switch that is pushed
from may have an id taken that `sw` has not; its counters are those of `sw`. -/
theorem counters_at_hand (reached : Reached (fun sw r => r.KeepsCountersNonzero sw) sw)
    (same : ∀ t id, sw₁.findCounter t id = sw.findCounter t id) (r : Request)
    (table : NasAclTable) :
    (∀ new e, r.Commits sw table new (.ok e) → CounterAtHand r.platform sw₁ e) ∧
      ∀ old new, r.Asks sw table old new → CounterAtHand r.platform sw₁ old := by
  have consistent := reached_consistent reached
  obtain ⟨-, covers⟩ := reached_covered reached
  have objects := reached_countsByObject reached
  have oldCounts {old new : NasAclEntry} (asks : r.Asks sw table old new) :
      old.CountsByObject := by
    obtain ⟨-, -, counts⟩ := objects _ _ _ (getEntry_store (asks.stored_old consistent).1)
    exact counts
  have checkedFine {new e : NasAclEntry} (alist : e.alist = new.alist)
      (counted : e.checkCounter r.platform sw = .ok ()) (counts : new.CountsByObject) :
      CounterAtHand r.platform sw₁ e := by
    exact .of_covered (checkCounter_store.mp counted) (countsByObject_of_actions alist counts) same
  refine ⟨fun new e commits => ?_, fun old new asks => ?_⟩
  · generalize outcome : (Except.ok e : Except Exn NasAclEntry) = checked at commits
    cases commits with
    | @create eid new id key op parsed =>
        obtain ⟨placed, counted⟩ := NasAclEntry.checkCreate_ok.mp outcome.symm
        refine checkedFine (npusForCreate_frame placed).2.2.2.1 counted ?_
        have first : (NasAclEntry.new r.platform table.tableId).CountsByObject := by
          intro a found
          cases found
        exact parse_closed closed_countsByObject first parsed
    | modify asks =>
        obtain ⟨placed, counted⟩ := NasAclEntry.checkModify_ok.mp outcome.symm
        refine checkedFine (npusForModify_frame placed).2.2.2.1 counted ?_
        exact asks.closed closed_countsByObject (oldCounts asks)
  · have stored := getEntry_store (asks.stored_old consistent).1
    have covered : sw.store.CoversEntry old :=
      covers.entry (e := old.noIds) consistent stored
    exact .of_covered covered (oldCounts asks) same

end Runs

/-! ### On the bench -/

/-- Table 1, counter 4, and entry 7 that uses it. -/
def counterRun : List Request :=
  [Bench.createTable [.inPort], Bench.createCounter 4,
    Bench.entryRequest .create
      [Bench.u32 .entryPriority 0,
        Bench.listAttr .entryMatch [Bench.matchElem .inPort [Bench.u32 (.matchValue .inPort) 3]],
        Bench.listAttr .entryAction
          [Bench.actionElem .setCounter [Bench.u64 (.actionValue .setCounter) 4]]]]

/-- A request that may come, and creates no counter 0. -/
def keepsNonzero (sw : NasAclSwitch) (r : Request) : Bool :=
  match Request.next sw r with
  | some sw' => decide sw'.CountersNonzero
  | none => true

theorem keepsNonzero_sound {sw : NasAclSwitch} {r : Request} (passed : keepsNonzero sw r = true) :
    r.KeepsCountersNonzero sw := by
  intro sw' stepped
  unfold keepsNonzero at passed
  rw [stepped] at passed
  exact of_decide_eq_true passed

/-- A SET of the priority finds the counter of entry 7 at hand. -/
theorem counter_at_hand_on_bench :
    ∃ sw table old new, Reached (fun sw r => r.KeepsCountersNonzero sw) sw ∧
      (Bench.entryRequest .set [Bench.u32 .entryPriority 9]).Asks sw table old new ∧
      old.isCounterEnabled ∧ 0 ∈ old.npuList ∧ CounterAtHand Bench.platform sw old := by
  have asked : (counterRun.foldlM (fun sw r => if keepsNonzero sw r then Request.next sw r else none)
      NasAclSwitch.new).any (fun sw => (do
        let table ← sw.getTable 1
        let old ← sw.getEntry table.tableId 7
        let new ← cpsParseEntryObj Bench.platform sw table [Bench.u32 .entryPriority 9] old
        pure (old.isCounterEnabled && decide (0 ∈ old.npuList))).toOption.any id) = true := by
    decide +kernel
  obtain ⟨sw, ran, asked⟩ := (Option.any_eq_true _ _).mp asked
  obtain ⟨b, ran', good⟩ := except_any_iff.mp asked
  obtain ⟨table, found, ran'⟩ := except_bind_ok.mp ran'
  obtain ⟨old, stored, ran'⟩ := except_bind_ok.mp ran'
  obtain ⟨new, parsed, ran'⟩ := except_bind_ok.mp ran'
  cases ran'
  obtain ⟨enabled, here⟩ := (Bool.and_eq_true_iff).mp good
  have reached := Reachable.of_tests (fun r _ sw => keepsNonzero_sound) .init ran
  have key : cpsOpKeyExtract sw (Bench.entryRequest .set [Bench.u32 .entryPriority 9]).obj
      = .ok ⟨table, some 7, none⟩ :=
    cpsOpKeyExtract_ok.mpr ⟨1, rfl, found, rfl, rfl⟩
  have asks := Request.Asks.whole (r := Bench.entryRequest .set [Bench.u32 .entryPriority 9]) key rfl
    stored parsed
  exact ⟨sw, table, old, new.1, reached, asks, enabled, of_decide_eq_true here,
    (counters_at_hand reached (fun _ _ => rfl) _ table).2 old new.1 asks⟩

end SonicNasAcl
