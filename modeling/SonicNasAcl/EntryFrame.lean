/-
# EntryFrame -- requests that are not about entries leave entries alone

`Store` does not see NDI ids.  What is said about the ids of stored
entries is said about the switch itself: `AllEntries P` holds of a switch all of whose
entries satisfy `P`.

* `findEntry_modifyContainer`: every operation on a table acts on its container;
* `Safe`: a step after which, on both exits, all entries still satisfy `P`;
* `safe_nasAclTableCreate`, `safe_nasAclTableDelete`, `safe_nasAclCounterCreate`,
  `safe_nasAclCounterDelete`, `safe_nasAclStatsSet`: these handlers are safe for any `P`.
-/
import SonicNasAcl.Requests

namespace SonicNasAcl

set_option autoImplicit false

open Lib

/-! ## Entries of a switch -/

namespace NasAclSwitch

variable {sw sw' : NasAclSwitch} {P : NasAclEntry → Prop} {t id : NasObjId}
  {f : AclTableContainer → AclTableContainer}

def AllEntries (P : NasAclEntry → Prop) (sw : NasAclSwitch) : Prop :=
  ∀ t id e, sw.findEntry t id = some e → P e

theorem AllEntries.of_fewer (all : sw.AllEntries P)
    (fewer : ∀ t id e, sw'.findEntry t id = some e → sw.findEntry t id = some e) :
    sw'.AllEntries P :=
  fun t id e found => all t id e (fewer t id e found)

theorem AllEntries.of_same (all : sw.AllEntries P) (same : sw'.findEntry = sw.findEntry) :
    sw'.AllEntries P := by
  unfold AllEntries
  rw [same]
  exact all

theorem findEntry_modifyContainer (t' id : NasObjId) :
    (sw.modifyContainer t f).findEntry t' id =
      if t' = t then (sw.tableContainers.lookup t).bind fun c => (f c).aclEntries.lookup id
      else sw.findEntry t' id := by
  simp only [findEntry, modifyContainer, lookup_modifyAt]
  split
  · rename_i here
    rw [here, Option.bind_map]
    rfl
  · rfl

theorem findEntry_modifyContainer_same (same : ∀ c, (f c).aclEntries = c.aclEntries) :
    (sw.modifyContainer t f).findEntry = sw.findEntry := by
  funext t' id
  rw [findEntry_modifyContainer]
  split
  · rename_i here
    rw [here]
    simp only [same]
    rfl
  · rfl

theorem findEntry_modifyCounter (g : NasAclCounter → NasAclCounter) :
    (sw.modifyCounter t id g).findEntry = sw.findEntry :=
  findEntry_modifyContainer_same fun _ => rfl

theorem findEntry_addRefOf {e : NasAclEntry} (added : sw.addRefOf e = .ok sw') :
    sw'.findEntry = sw.findEntry := by
  obtain ⟨counter, -, added⟩ := except_bind_ok.mp added
  cases counter with
  | none =>
      cases added
      rfl
  | some c =>
      cases added
      exact findEntry_modifyCounter _

theorem findEntry_delRefOf {e : NasAclEntry} (deleted : sw.delRefOf e = .ok sw') :
    sw'.findEntry = sw.findEntry := by
  obtain ⟨counter, -, deleted⟩ := except_bind_ok.mp deleted
  cases counter with
  | none =>
      cases deleted
      rfl
  | some c =>
      cases deleted
      exact findEntry_modifyCounter _

theorem findEntry_saveTable (x : NasAclTable) : (sw.saveTable x).findEntry = sw.findEntry := by
  unfold saveTable
  split
  · funext t id
    simp only [findEntry]
    split
    · rfl
    · rename_i absent
      by_cases here : t = x.tableId
      · rw [here, Finmap.lookup_insert, Finmap.lookup_eq_none.mpr absent]
        rfl
      · rw [Finmap.lookup_insert_of_ne _ here]
  · rfl

theorem fewer_removeTable (x : NasObjId) :
    ∀ t id e, (sw.removeTable x).findEntry t id = some e → sw.findEntry t id = some e := by
  intro t id e found
  simp only [findEntry, removeTable] at found ⊢
  by_cases here : t = x
  · rw [here, Finmap.lookup_erase] at found
    cases found
  · rwa [Finmap.lookup_erase_ne here] at found

theorem findEntry_modifyContainerAt (same : ∀ c, (f c).aclEntries = c.aclEntries)
    (acted : sw.modifyContainerAt t f = .ok sw') : sw'.findEntry = sw.findEntry := by
  have acted := noexceptFn_ok.mp acted
  split at acted
  · cases acted
  · cases acted
    exact findEntry_modifyContainer_same same

/-! ### One entry -/

variable {e x : NasAclEntry} {ids : NdiObjIdTable} {t' id' : NasObjId}

theorem entry_of_putEntry (found : (sw.putEntry e).findEntry t' id' = some x) :
    x = e ∨ sw.findEntry t' id' = some x ∧ ¬ (t' = e.tableId ∧ id' = e.entryId) := by
  rw [putEntry, findEntry_modifyContainer] at found
  split at found
  · rename_i table
    obtain ⟨c, held, found⟩ := Option.bind_eq_some_iff.mp found
    by_cases here : id' = e.entryId
    · rw [here, Finmap.lookup_insert] at found
      exact .inl (Option.some.inj found).symm
    · rw [Finmap.lookup_insert_of_ne _ here] at found
      refine .inr ⟨?_, fun both => here both.2⟩
      rw [table]
      exact Option.bind_eq_some_iff.mpr ⟨c, held, found⟩
  · rename_i other
    exact .inr ⟨found, fun both => other both.1⟩

/-- After an entry is saved, the others are those of before. -/
theorem entry_of_saveEntry (saved : sw.saveEntry e = .ok sw')
    (found : sw'.findEntry t' id' = some x) :
    x = e ∨ sw.findEntry t' id' = some x ∧ ¬ (t' = e.tableId ∧ id' = e.entryId) := by
  have saved := noexceptFn_ok.mp saved
  split at saved
  · cases saved
  · split at saved
    · rw [findEntry_addRefOf saved] at found
      exact entry_of_putEntry found
    · split at saved
      · obtain ⟨sw₁, deleted, saved⟩ := except_bind_ok.mp saved
        obtain ⟨sw₂, added, saved⟩ := except_bind_ok.mp saved
        cases saved
        refine (entry_of_putEntry found).imp_right fun before => ?_
        rwa [findEntry_addRefOf added, findEntry_delRefOf deleted] at before
      · cases saved
        exact entry_of_putEntry found

theorem entry_of_removeEntry (removed : sw.removeEntryFromTable t id = .ok sw')
    (found : sw'.findEntry t' id' = some x) :
    sw.findEntry t' id' = some x ∧ ¬ (t' = t ∧ id' = id) := by
  have removed := noexceptFn_ok.mp removed
  split at removed
  · cases removed
  · obtain ⟨sw₁, deleted, removed⟩ := except_bind_ok.mp removed
    cases removed
    rw [← findEntry_delRefOf deleted]
    rw [findEntry_modifyContainer] at found
    split at found
    · rename_i table
      obtain ⟨c, held, found⟩ := Option.bind_eq_some_iff.mp found
      by_cases here : id' = id
      · rw [here, Finmap.lookup_erase] at found
        cases found
      · rw [Finmap.lookup_erase_ne here] at found
        refine ⟨?_, fun both => here both.2⟩
        rw [table]
        exact Option.bind_eq_some_iff.mpr ⟨c, held, found⟩
    · rename_i other
      exact ⟨found, fun both => other both.1⟩

theorem findEntry_setEntryIds : (sw.setEntryIds t id ids).findEntry t' id' =
    if t' = t ∧ id' = id then (sw.findEntry t id).map ({ · with ndiEntryIds := ids })
    else sw.findEntry t' id' := by
  rw [setEntryIds, findEntry_modifyContainer]
  simp only [lookup_modifyAt]
  by_cases table : t' = t
  · subst table
    by_cases here : id' = id
    · subst here
      simp only [and_self, if_true, findEntry, Option.map_bind]
      rfl
    · simp only [here, if_true, if_false, and_false, findEntry]
  · rw [if_neg table, if_neg fun both => table both.1]

/-- New NDI ids for one entry. -/
theorem AllEntries.setEntryIds (all : sw.AllEntries P)
    (here : ∀ e, sw.findEntry t id = some e → P { e with ndiEntryIds := ids }) :
    (sw.setEntryIds t id ids).AllEntries P := by
  intro t' id' x found
  rw [findEntry_setEntryIds] at found
  split at found
  · obtain ⟨e, held, rfl⟩ := Option.map_eq_some_iff.mp found
    exact here e held
  · exact all t' id' x found

/-- A changed entry takes the place of the old one, whatever ids that was left with. -/
theorem AllEntries.replaced (all : sw.AllEntries P) (here : P e)
    (saved : (sw.setEntryIds e.tableId e.entryId ids).saveEntry e = .ok sw') :
    sw'.AllEntries P := by
  intro t' id' x found
  obtain rfl | ⟨before, other⟩ := entry_of_saveEntry saved found
  · exact here
  · rw [findEntry_setEntryIds, if_neg other] at before
    exact all t' id' x before

theorem AllEntries.removed (all : sw.AllEntries P)
    (gone : (sw.setEntryIds t id ids).removeEntryFromTable t id = .ok sw') :
    sw'.AllEntries P := by
  intro t' id' x found
  obtain ⟨before, other⟩ := entry_of_removeEntry gone found
  rw [findEntry_setEntryIds, if_neg other] at before
  exact all t' id' x before

theorem AllEntries.saved (all : sw.AllEntries P) (here : P e) (saved : sw.saveEntry e = .ok sw') :
    sw'.AllEntries P := by
  intro t' id' x found
  obtain rfl | ⟨before, -⟩ := entry_of_saveEntry saved found
  · exact here
  · exact all t' id' x before

end NasAclSwitch

/-! ## The id guard -/

namespace NasAclIdGuard

variable {sw sw' : NasAclSwitch} {g g' : NasAclIdGuard} {alloc : IdAllocator}
  {passed : Option NasObjId} {id : NasObjId}

theorem findEntry_destroy : (g.destroy sw).findEntry = sw.findEntry := by
  unfold destroy
  split
  · split
    · rfl
    · exact NasAclSwitch.findEntry_modifyContainer_same fun _ => rfl
    · exact NasAclSwitch.findEntry_modifyContainer_same fun _ => rfl
    · rfl
  · rfl

theorem findEntry_allocId (took : g.allocId alloc sw = .ok (id, sw')) :
    sw'.findEntry = sw.findEntry := by
  unfold allocId at took
  split at took
  · obtain ⟨_, -, took⟩ := except_bind_ok.mp took
    cases took
    rfl
  · split at took
    · cases took
    · obtain ⟨_, -, took⟩ := except_bind_ok.mp took
      cases took
      exact NasAclSwitch.findEntry_modifyContainer_same fun _ => rfl
  · split at took
    · cases took
    · obtain ⟨_, -, took⟩ := except_bind_ok.mp took
      cases took
      exact NasAclSwitch.findEntry_modifyContainer_same fun _ => rfl
  · cases took

theorem findEntry_reserveId {unused : Bool} (took : g.reserveId id sw = .ok (unused, sw')) :
    sw'.findEntry = sw.findEntry := by
  unfold reserveId at took
  split at took
  · unfold NasAclSwitch.reserveTableId at took
    split at took
    · cases took
    · cases took
      rfl
  · unfold NasAclSwitch.reserveEntryIdInTable at took
    split at took
    · cases took
    · split at took
      · cases took
      · cases took
        exact NasAclSwitch.findEntry_modifyContainer_same fun _ => rfl
  · unfold NasAclSwitch.reserveCounterIdInTable at took
    split at took
    · cases took
    · split at took
      · cases took
      · cases took
        exact NasAclSwitch.findEntry_modifyContainer_same fun _ => rfl
  · cases took

end NasAclIdGuard

/-- Taking an id leaves entries alone. -/
theorem TakesId.findEntry {alloc : IdAllocator} {g g' : NasAclIdGuard} {sw sw' : NasAclSwitch}
    {passed : Option NasObjId} {id : NasObjId} (took : TakesId alloc g sw passed id g' sw') :
    sw'.findEntry = sw.findEntry := by
  cases passed with
  | some given =>
      obtain ⟨-, unused, took⟩ := took
      obtain ⟨⟨free, sw₁⟩, reserved, took⟩ := except_bind_ok.mp took
      have same := NasAclIdGuard.findEntry_reserveId reserved
      simp only [] at took
      split at took
      · cases took
        exact same
      · cases took
        exact same
  | none =>
      obtain ⟨⟨id, sw₁⟩, allocated, took⟩ := except_bind_ok.mp took
      cases took
      exact NasAclIdGuard.findEntry_allocId allocated

/-! ## Steps -/

/-- Whatever its exit, all entries satisfy `P` after the step, unless the process is
over. -/
abbrev Safe {α : Type} (P : NasAclEntry → Prop) (x : Handler α) : Prop :=
  Eff.Spec (fun c => c.sw.AllEntries P) x (fun _ c => c.sw.AllEntries P)
    fun err c => (∃ why, err = .abort why) ∨ c.sw.AllEntries P

section Steps

variable {α β : Type} {P : NasAclEntry → Prop}

theorem safe_query (f : Ctx → Except Exn α) : Safe P (Eff.query f) :=
  .query (fun _ _ all _ => all) fun _ _ all _ => .inr all

theorem safe_onSwitch {f : NasAclSwitch → Except Exn NasAclSwitch}
    (kept : ∀ sw sw', f sw = .ok sw' → sw.AllEntries P → sw'.AllEntries P) :
    Safe P (Handler.onSwitch f) where
  ok all ran := by
    obtain ⟨sw', acted, rfl⟩ := Handler.onSwitch_ok.mp ran
    exact kept _ _ acted all
  error all stopped := by
    obtain ⟨-, rfl⟩ := Handler.onSwitch_error stopped
    exact .inr all

theorem safe_savePrev (rb : Bool) (f : CpsObject → CpsObject → Except Exn CpsObject) :
    Safe P (Handler.savePrev rb f) where
  ok all ran := by
    obtain ⟨prev, -, rfl⟩ := Handler.savePrev_ok.mp ran
    exact all
  error all stopped := by
    obtain ⟨-, rfl⟩ := Handler.savePrev_error stopped
    exact .inr all

theorem Safe.then {x : Handler α} {f : α → Handler β} (first : Safe P x)
    (rest : ∀ a, Safe P (f a)) : Safe P (x >>= f) := Eff.Spec.bind first rest

theorem safe_guardedId {alloc : IdAllocator} {passed : Option NasObjId} :
    Safe P (Handler.guardedId alloc passed) where
  ok {c c' id} all ran := by
    obtain ⟨_, g, sw, took, same⟩ := Handler.guardedId_bind_ok.mp
      (show (Handler.guardedId alloc passed >>= pure) c = (.ok id, c') from Eff.bind_of_ok ran)
    cases same
    exact all.of_same took.findEntry
  error all stopped := by
    obtain rfl := Handler.guardedId_error stopped
    exact .inr all

theorem safe_withIdGuard {objType : ObjType} {t : NasObjId} {body : Handler α} (inner : Safe P body) :
    Safe P (Handler.withIdGuard objType t body) := by
  refine Safe.then (.write fun _ all => all) fun _ => .ensuring ?_
  refine inner.mono (fun _ all => all) (fun _ _ all => ?_) fun _ _ err => err.imp_right fun all => ?_
  · exact all.of_same NasAclIdGuard.findEntry_destroy
  · exact all.of_same NasAclIdGuard.findEntry_destroy

theorem safe_forM {f : α → Handler Unit} {l : List α} (turns : ∀ a, Safe P (f a)) :
    Safe P (l.forM f) := by
  induction l with
  | nil => exact .pure fun _ all => all
  | cons a rest ih => exact (turns a).then fun _ => ih

end Steps

/-! ## Handlers -/

section Handlers

variable {P : NasAclEntry → Prop} {p : Platform} {o : Oracle} {rb : Bool}

theorem safe_nasAclTableCreate : Safe P (nasAclTableCreate p o rb) := by
  refine (safe_query _).then fun tableId => (safe_query _).then fun _ =>
    (safe_query _).then fun tmp => safe_withIdGuard (safe_guardedId.then fun id => ?_)
  refine (safe_query _).then fun x => (safe_onSwitch ?_).then fun _ => ?_
  · rintro sw _ ⟨⟩ all
    exact all.of_same (NasAclSwitch.findEntry_saveTable _)
  · exact Safe.then (.write fun _ all => all) fun _ => Safe.then (.write fun _ all => all)
      fun _ => safe_savePrev _ _

theorem safe_nasAclTableDelete : Safe P (nasAclTableDelete p o rb) := by
  refine (safe_query _).then fun id => (safe_query _).then fun x => (safe_savePrev _ _).then
    fun _ => (safe_query _).then fun _ => Safe.then ?_ fun _ => safe_onSwitch ?_
  · refine (safe_onSwitch ?_).then fun _ => safe_query _
    rintro sw _ ⟨⟩ all
    exact all.of_same rfl
  · rintro sw _ ⟨⟩ all
    exact all.of_fewer (NasAclSwitch.fewer_removeTable _)

theorem safe_nasAclCounterCreate : Safe P (nasAclCounterCreate p o rb) := by
  refine (safe_query _).then fun t => (safe_query _).then fun id => (safe_query _).then fun table =>
    (safe_query _).then fun _ => (safe_query _).then fun tmp =>
    safe_withIdGuard (safe_guardedId.then fun id => ?_)
  refine (safe_query _).then fun x => (safe_onSwitch ?_).then fun _ => ?_
  · intro sw sw' saved all
    refine all.of_same (NasAclSwitch.findEntry_modifyContainerAt ?_ saved)
    exact fun _ => rfl
  · exact Safe.then (.write fun _ all => all) fun _ => Safe.then (.write fun _ all => all)
      fun _ => safe_savePrev _ _

theorem safe_nasAclCounterDelete : Safe P (nasAclCounterDelete p o rb) := by
  refine (safe_query _).then fun t => (safe_query _).then fun id => (safe_query _).then fun x =>
    (safe_savePrev _ _).then fun _ => (safe_query _).then fun _ => Safe.then ?_ fun _ =>
    safe_onSwitch ?_
  · refine (safe_onSwitch ?_).then fun _ => safe_query _
    rintro sw _ ⟨⟩ all
    exact all.of_same (NasAclSwitch.findEntry_modifyCounter _)
  · intro sw sw' removed all
    refine all.of_same (NasAclSwitch.findEntry_modifyContainerAt ?_ removed)
    exact fun _ => rfl

theorem safe_setCountIfPresent (cType : CounterType) (npuId : NpuId) (count : Option UInt64)
    (x : NasAclCounter) : Safe P (x.setCountIfPresent o cType npuId count) := by
  cases count with
  | none => exact .pure fun _ all => all
  | some count =>
      change Safe P (x.setCountNdi o cType npuId count)
      unfold NasAclCounter.setCountNdi
      split
      · exact .throw fun _ all => .inr all
      · split
        · exact .throw fun _ all => .inr all
        · exact .write fun _ all => all

theorem safe_nasAclStatsSet : Safe P (nasAclStatsSet p o) :=
  (safe_query _).then fun _ => (safe_query _).then fun _ => (safe_query _).then fun _ =>
    (safe_query _).then fun _ => safe_forM fun _ =>
    (safe_setCountIfPresent ..).then fun _ => safe_setCountIfPresent ..

end Handlers

end SonicNasAcl
