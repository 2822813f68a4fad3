/-
# IncrAgrees -- an update of one element, and a SET of the whole list

An incremental update puts one element into the list of an entry or takes it out.  A full
SET that carries the list this makes goes another way: it clears the list and adds its
elements one by one.

* `incrFilter_iff`, `incrAction_iff`: the update makes what giving the whole list makes, but
  looks at the new element only;
* `setFilters_iff`, `setActions_iff`: the SET looks at all of them;
* `kept_fits`: what a table has taken once it takes again;
* `incr_sameOutcome_iff`: so the two differ in the order of two port filters, in a counter
  that is gone, and in an action without a value, which ends the process.
-/
import SonicNasAcl.Reordered

namespace SonicNasAcl

set_option autoImplicit false

open Lib

/-! ## What a table has taken -/

/-- The table allows the filters of an entry and is on all NPUs it has cached. -/
structure NasAclEntry.HeldBy (table : NasAclTable) (e : NasAclEntry) : Prop where
  allowed : ∀ t, (e.flist.find t).isSome → t ∈ table.allowedFilters
  inTable : e.filterNpus ⊆ table.npuList

/-- The cache of an entry holds the NPUs of its filter that is tied to NPUs, of which there is
one at most. -/
structure NasAclEntry.CachesPorts (p : Platform) (e : NasAclEntry) : Prop where
  single : ∀ t t', NasAclFilter.isNpuSpecificType t → NasAclFilter.isNpuSpecificType t' →
    (e.flist.find t).isSome → (e.flist.find t').isSome → t = t'
  cached : ∀ t f, NasAclFilter.isNpuSpecificType t → e.flist.find t = some f →
    PortsOn p f.ifindexList e.filterNpus
  uncached : (∀ t, NasAclFilter.isNpuSpecificType t → e.flist.find t = none) → e.filterNpus = ∅

section Held

open NasAclEntry

variable {p : Platform} {r : Request} {sw : NasAclSwitch} {table : NasAclTable}
  {e e' : NasAclEntry}

theorem NasAclEntry.HeldBy.of_same (held : e.HeldBy table) (filters : e'.flist = e.flist)
    (cache : e'.filterNpus = e.filterNpus) : e'.HeldBy table where
  allowed := filters ▸ held.allowed
  inTable := cache ▸ held.inTable

theorem heldBy_empty (filters : e.flist = .empty) (cache : e.filterNpus = ∅) : e.HeldBy table where
  allowed t found := by rw [filters] at found; cases found
  inTable := cache ▸ Finset.empty_subset _

theorem closed_heldBy : ClosedUnderEdits p sw table (HeldBy table) where
  setPriority e v held := held.of_same rfl rfl
  addFilter e f reset e' held added := by
    obtain ⟨permitted, cached, step, rfl⟩ := addFilter_ok.mp added
    have cleared : (e.resetFilters reset).HeldBy table := by
      unfold resetFilters
      split
      · exact heldBy_empty rfl rfl
      · exact held
    have kept : cached.HeldBy table := by
      obtain ⟨-, rfl⟩ | ⟨-, -, npus, -, inside, rfl⟩ := cacheFilterNpus_ok.mp step
      · exact cleared
      · exact ⟨cleared.allowed, inside⟩
    refine ⟨fun t found => ?_, kept.inTable⟩
    simp only [Keyed.find_put] at found
    split at found
    · rename_i here
      exact here ▸ permitted
    · exact kept.allowed t found
  addAction e a reset e' held added := by
    obtain ⟨rfl, -⟩ := addAction_ok.mp added
    rw [putAction_frame]
    exact held.of_same rfl rfl
  addNpu e npuId held := held.of_same rfl rfl
  removeFilter e t held := by
    refine ⟨fun t' found => ?_, ?_⟩
    · simp only [removeFilter, Keyed.find_erase] at found
      split at found
      · cases found
      · exact held.allowed t' found
    · unfold removeFilter
      split
      · exact Finset.empty_subset _
      · exact held.inTable
  removeAction e t held := held.of_same rfl rfl

theorem keeps_heldBy : KeepsEntries (fun table e => e.HeldBy table) r sw where
  created key parsed placed := by
    have held := parse_invariant closed_heldBy (heldBy_empty rfl rfl) parsed
    obtain ⟨-, -, filters, -, cache, -⟩ := npusForCreate_frame placed
    have same := held.of_same filters cache
    exact ⟨same.allowed, same.inTable⟩
  changed asks checked before := by
    have held := asks.closed closed_heldBy.reads ⟨before.allowed, before.inTable⟩
    obtain ⟨-, -, filters, -, cache, -⟩ := npusForModify_frame (checkModify_ok.mp checked).1
    have same := held.of_same filters cache
    exact ⟨same.allowed, same.inTable⟩

theorem stored_heldBy {allowed : NasAclSwitch → Request → Prop} (reached : Reached allowed sw)
    {eid : Option NasObjId} {upd : Option IncrType} {id : NasObjId} {obj : CpsObject}
    (key : cpsOpKeyExtract sw obj = .ok ⟨table, eid, upd⟩)
    (stored : sw.getEntry table.tableId id = .ok e) : e.HeldBy table := by
  have all := reached_entries (P := fun table e => e.HeldBy table)
    (fun _ _ _ _ => keeps_heldBy) reached
  obtain ⟨table', there, held⟩ := all _ _ _ (getEntry_store stored)
  rw [opKey_table (reached_consistent reached) key] at there
  cases there
  exact ⟨held.allowed, held.inTable⟩

end Held

/-! ## The filters an update keeps -/

section Kept

open NasAclEntry NasAclFilter

variable {p : Platform} {table : NasAclTable} {old : NasAclEntry} {t t' : MatchType}
  {f g : NasAclFilter}

/-- The filters of an entry but for those of a type. -/
def NasAclEntry.filtersBut (p : Platform) (t : MatchType) (e : NasAclEntry) : List NasAclFilter :=
  (e.flist.erase t).items p.matchOrder

theorem mem_filtersBut :
    g ∈ old.filtersBut p t ↔ g.filterType ≠ t ∧ old.flist.find g.filterType = some g :=
  Keyed.mem_items_erase

theorem NasAclEntry.CachesPorts.npus (cached : old.CachesPorts p) (tied : g.isNpuSpecific)
    (found : old.flist.find g.filterType = some g) : g.npus p = old.filterNpus :=
  npus_of_ok ((getNpuList_ok tied).mpr (cached.cached _ g tied found))

/-- An entry that has cached NPUs has a filter that is tied to them. -/
theorem NasAclEntry.CachesPorts.exists_tied (cached : old.CachesPorts p) (full : old.filterNpus ≠ ∅) :
    ∃ g, g.isNpuSpecific ∧ old.flist.find g.filterType = some g := by
  by_contra absent
  refine full (cached.uncached fun t tied => ?_)
  by_contra there
  obtain ⟨g, found⟩ := Option.ne_none_iff_exists'.mp there
  have type : g.filterType = t := old.flist.keyed t g found
  refine absent ⟨g, ?_, ?_⟩
  · rw [isNpuSpecific, type]
    exact tied
  · rw [type]
    exact found

/-- What a table has taken it takes again. -/
theorem kept_fits (cached : old.CachesPorts p) (held : old.HeldBy table)
    (mem : g ∈ old.filtersBut p t) : g.Fits p table := by
  obtain ⟨-, found⟩ := mem_filtersBut.mp mem
  refine ⟨held.allowed _ (Option.isSome_of_eq_some found), ?_⟩
  cases tied : g.isNpuSpecific with
  | true => exact ⟨_, (getNpuList_ok tied).mpr (cached.cached _ g tied found), held.inTable⟩
  | false => exact ⟨∅, getNpuList_free tied, Finset.empty_subset _⟩

/-- Two filters of an entry are not both tied to NPUs. -/
theorem portsLast_kept (cached : old.CachesPorts p) : PortsLast (old.filtersBut p t) := by
  have apart : (old.filtersBut p t).Pairwise fun g f => g.filterType ≠ f.filterType :=
    List.pairwise_map.mp (Keyed.nodup_items p.matchOrder _)
  refine apart.imp_of_mem fun {g f} here there differ tied tied' => ?_
  have found := (mem_filtersBut.mp here).2
  have found' := (mem_filtersBut.mp there).2
  exact absurd (cached.single _ _ tied tied' (Option.isSome_of_eq_some found)
    (Option.isSome_of_eq_some found')) differ

/-- Without a filter of a type that is tied to NPUs, all that is cached is of the filters
that are kept. -/
theorem portNpus_kept_free (cached : old.CachesPorts p) (free : isNpuSpecificType t = false) :
    portNpus p (old.filtersBut p t) = old.filterNpus := by
  ext npuId
  rw [mem_portNpus]
  constructor
  · rintro ⟨g, mem, inside⟩
    cases tied : g.isNpuSpecific with
    | true =>
        rw [cached.npus tied (mem_filtersBut.mp mem).2] at inside
        exact inside
    | false =>
        rw [npus_of_ok (getNpuList_free tied)] at inside
        exact absurd inside (Finset.notMem_empty _)
  · intro inside
    obtain ⟨g, tied, found⟩ := cached.exists_tied (Finset.ne_empty_of_mem inside)
    refine ⟨g, mem_filtersBut.mpr ⟨fun same => ?_, found⟩, cached.npus tied found ▸ inside⟩
    rw [← same] at free
    exact Bool.false_ne_true (free.symm.trans tied)

/-- The filters that are kept have no ports. -/
def NasAclEntry.KeptPortless (p : Platform) (t : MatchType) (e : NasAclEntry) : Prop :=
  ∀ g ∈ e.filtersBut p t, g.isNpuSpecific → g.ifindexList = []

theorem portNpus_kept_portless (portless : old.KeptPortless p t) :
    portNpus p (old.filtersBut p t) = ∅ := by
  refine Finset.eq_empty_of_forall_notMem fun npuId inside => ?_
  obtain ⟨g, mem, inside⟩ := mem_portNpus.mp inside
  have none_ : g.npus p = ∅ := by
    refine npus_of_ok ?_
    cases tied : g.isNpuSpecific with
    | false => exact getNpuList_free tied
    | true =>
        rw [getNpuList, if_pos tied, portless g mem tied]
        rfl
  rw [none_] at inside
  exact Finset.notMem_empty _ inside

/-- Where the type that is tied to NPUs is there, no other is. -/
theorem keptPortless_of_present (cached : old.CachesPorts p) (tied : isNpuSpecificType t)
    (there : (old.flist.find t).isSome) : old.KeptPortless p t := by
  intro g mem tied'
  obtain ⟨other, found⟩ := mem_filtersBut.mp mem
  exact absurd (cached.single _ _ tied' tied (Option.isSome_of_eq_some found) there) other

/-- The test that `add_filter` makes for a filter that is tied to NPUs. -/
theorem exclusive_iff (cached : old.CachesPorts p) (tied : isNpuSpecificType t) :
    (old.filterNpus ≠ ∅ → old.flist.find t ≠ none) ↔ old.KeptPortless p t := by
  constructor
  · intro exclusive
    by_cases there : old.flist.find t = none
    · intro g mem tied'
      have none_ : old.filterNpus = ∅ := by
        by_contra full
        exact exclusive full there
      have ports := cached.cached _ g tied' (mem_filtersBut.mp mem).2
      rw [none_] at ports
      exact ports.eq_nil
    · exact keptPortless_of_present cached tied (Option.isSome_iff_ne_none.mpr there)
  · intro portless full absent
    obtain ⟨g, tied', found⟩ := cached.exists_tied full
    have mem : g ∈ old.filtersBut p t := by
      refine mem_filtersBut.mpr ⟨fun same => ?_, found⟩
      rw [same, absent] at found
      cases found
    have npus := portNpus_kept_portless portless
    refine full ?_
    rw [← cached.npus tied' found]
    refine Finset.eq_empty_of_forall_notMem fun npuId inside => ?_
    exact Finset.notMem_empty npuId (npus ▸ mem_portNpus.mpr ⟨g, mem, inside⟩)

/-- A filter may come last unless it is tied to NPUs and one with ports is kept. -/
theorem portsLast_concat (cached : old.CachesPorts p) :
    PortsLast (old.filtersBut p t ++ [f]) ↔ (f.isNpuSpecific → old.KeptPortless p t) := by
  rw [PortsLast, List.pairwise_append, ← PortsLast, and_iff_right (portsLast_kept cached),
    and_iff_right (List.pairwise_singleton _ _)]
  constructor
  · intro last tied g mem tied'
    exact last g mem f (List.mem_singleton_self f) tied' tied
  · intro portless g mem f' last tied' tied
    cases List.mem_singleton.mp last
    exact portless tied g mem tied'

end Kept

/-! ## An update of a filter -/

/-- The filters an update gives: the one it reads, unless it is a DELETE. -/
def Request.givenFilters (r : Request) (v : UInt32) : Except Exn (List NasAclFilter) :=
  if r.op = .delete then .ok []
  else do
    let filter ← readFilter r.platform r.obj.attrs v []
    .ok [filter]

section Filters

open NasAclEntry NasAclFilter

variable {p : Platform} {r : Request} {table : NasAclTable} {old e : NasAclEntry} {t : MatchType}
  {f : NasAclFilter} {l : List NasAclFilter}

/-- On a clean entry the list replaces what was there. -/
theorem giveFilters_clean (clean : old.isAttrDirty .entryMatch = false) (some_ : l ≠ []) :
    old.giveFilters p l =
      { old.markAttrDirty .entryMatch with flist := Keyed.ofItems l, filterNpus := portNpus p l } := by
  have cleared : old.resetFilters true = { old with flist := .empty, filterNpus := ∅ } := by
    rw [resetFilters, clean]
    rfl
  rw [giveFilters, if_neg some_, cleared, Finset.empty_union]
  rfl

theorem ofItems_filtersBut : Keyed.ofItems (old.filtersBut p t) = old.flist.erase t :=
  Keyed.ofItems_items p.matchOrder _

theorem portNpus_concat : portNpus p (l ++ [f]) = portNpus p l ∪ f.npus p := by
  ext npuId
  simp only [mem_portNpus, Finset.mem_union, List.mem_append, List.mem_singleton, or_and_right,
    exists_or, exists_eq_left]

/-- Removing a filter gives the others. -/
theorem removeFilter_eq (cached : old.CachesPorts p) (clean : old.isAttrDirty .entryMatch = false)
    (there : (old.flist.find t).isSome) (some_ : old.filtersBut p t ≠ []) :
    old.removeFilter t = old.giveFilters p (old.filtersBut p t) := by
  rw [giveFilters_clean clean some_, ofItems_filtersBut, removeFilter]
  cases tied : isNpuSpecificType t with
  | true => rw [portNpus_kept_portless (keptPortless_of_present cached tied there), if_pos rfl]
  | false => rw [portNpus_kept_free cached tied, if_neg Bool.false_ne_true]

/-- Putting a filter gives it after the others. -/
theorem putFilter_eq (cached : old.CachesPorts p) (clean : old.isAttrDirty .entryMatch = false)
    (type : f.filterType = t) (last : f.isNpuSpecific → old.KeptPortless p t) :
    { old.markAttrDirty .entryMatch with
      flist := old.flist.put f
      filterNpus := if f.isNpuSpecific then f.npus p else old.filterNpus } =
      old.giveFilters p (old.filtersBut p t ++ [f]) := by
  subst type
  rw [giveFilters_clean clean (List.concat_ne_nil _ _), Keyed.ofItems_concat, ofItems_filtersBut,
    Keyed.put_erase_self, portNpus_concat]
  cases tied : f.isNpuSpecific with
  | true => rw [portNpus_kept_portless (last tied), Finset.empty_union, if_pos rfl]
  | false =>
      rw [portNpus_kept_free cached tied, npus_of_ok (getNpuList_free tied), Finset.union_empty,
        if_neg Bool.false_ne_true]

/-- A filter is added to the others that are there. -/
theorem addFilter_kept_iff (cached : old.CachesPorts p)
    (clean : old.isAttrDirty .entryMatch = false) (type : f.filterType = t) :
    old.addFilter p table f false = .ok e ↔
      f.Fits p table ∧ PortsLast (old.filtersBut p t ++ [f]) ∧
        e = old.giveFilters p (old.filtersBut p t ++ [f]) := by
  subst type
  rw [addFilter_over_iff, portsLast_concat cached]
  refine and_congr_right fun _ => ?_
  have last_iff : (f.isNpuSpecific → old.filterNpus ≠ ∅ → old.flist.find f.filterType ≠ none) ↔
      (f.isNpuSpecific → old.KeptPortless p f.filterType) :=
    forall_congr' fun tied => exclusive_iff cached tied
  rw [last_iff]
  refine and_congr_right fun last => ?_
  rw [putFilter_eq cached clean rfl last]

/-- An update of a filter that is there, or that need not be. -/
theorem incrFilter_eq {obj : List CpsAttr} {op : CpsOper} {v : UInt32}
    (decoded : p.matchTypes.decode v = some t)
    (there : op ≠ .create → (old.flist.find t).isSome) :
    incrFilter p table obj op v old =
      if op = .delete then .ok (old.removeFilter t) else setMatchAttr p table obj v [] false old := by
  unfold incrFilter
  by_cases create : op = .create
  · rw [if_pos create, create]
    rfl
  · obtain ⟨f, found⟩ := Option.isSome_iff_exists.mp (there create)
    rw [if_neg create, decoded]
    simp only [getFilter_ok.mpr found, except_ok_bind]

/-- An update of a filter gives the list it makes, and looks at the new filter only. -/
theorem incrFilter_iff {v : UInt32} (cached : old.CachesPorts r.platform)
    (clean : old.isAttrDirty .entryMatch = false)
    (decoded : r.platform.matchTypes.decode v = some t)
    (there : r.op ≠ .create → (old.flist.find t).isSome) (given : r.givenFilters v = .ok l)
    (some_ : old.filtersBut r.platform t ++ l ≠ []) :
    incrFilter r.platform table r.obj.attrs r.op v old = .ok e ↔
      (∀ f ∈ l, f.Fits r.platform table) ∧ PortsLast (old.filtersBut r.platform t ++ l) ∧
        e = old.giveFilters r.platform (old.filtersBut r.platform t ++ l) := by
  rw [incrFilter_eq decoded there]
  unfold Request.givenFilters at given
  by_cases delete : r.op = .delete
  · rw [if_pos delete] at given ⊢
    cases given
    have change : r.op ≠ .create := fun create => by cases delete.symm.trans create
    rw [List.append_nil] at some_ ⊢
    rw [removeFilter_eq cached clean (there change) some_, Except.ok.injEq, @eq_comm NasAclEntry _ e]
    exact ⟨fun same => ⟨List.forall_mem_nil _, portsLast_kept cached, same⟩, fun both => both.2.2⟩
  · rw [if_neg delete] at given ⊢
    obtain ⟨f, read, given⟩ := except_bind_ok.mp given
    cases given
    have type : f.filterType = t := Option.some.inj ((readFilter_type read).symm.trans decoded)
    rw [setMatchAttr, read, except_ok_bind, addFilter_kept_iff cached clean type]
    simp only [List.mem_singleton, forall_eq]

/-- Without a filter to give there is no update. -/
theorem incrFilter_unread {v : UInt32} {err : Exn}
    (decoded : r.platform.matchTypes.decode v = some t)
    (there : r.op ≠ .create → (old.flist.find t).isSome) (given : r.givenFilters v = .error err) :
    incrFilter r.platform table r.obj.attrs r.op v old ≠ .ok e := by
  rw [incrFilter_eq decoded there]
  unfold Request.givenFilters at given
  split at given
  · cases given
  · rename_i change
    rw [if_neg change]
    intro made
    obtain ⟨f, read, -⟩ := setMatchAttr_ok.mp made
    rw [read] at given
    cases given

/-- What is given is of the type that the others are not of. -/
theorem givenFilters_apart {v : UInt32} (decoded : r.platform.matchTypes.decode v = some t)
    (given : r.givenFilters v = .ok l) :
    ((old.filtersBut r.platform t ++ l).map filterType).Nodup := by
  unfold Request.givenFilters at given
  split at given
  · cases given
    rw [List.append_nil]
    exact Keyed.nodup_items _ _
  · obtain ⟨f, read, given⟩ := except_bind_ok.mp given
    cases given
    obtain rfl : f.filterType = t := Option.some.inj ((readFilter_type read).symm.trans decoded)
    exact Keyed.nodup_items_concat _ _ f

end Filters

/-! ## An update of an action -/

/-- The actions of an entry but for those of a type. -/
def NasAclEntry.actionsBut (p : Platform) (t : ActionType) (e : NasAclEntry) : List NasAclAction :=
  (e.alist.erase t).items p.actionOrder

/-- The actions an update gives: the one it reads, unless it is a DELETE. -/
def Request.givenActions (r : Request) (v : UInt32) : Except Exn (List NasAclAction) :=
  if r.op = .delete then .ok []
  else do
    let action ← readAction r.platform r.obj.attrs v []
    .ok [action]

section Actions

open NasAclEntry NasAclAction

variable {p : Platform} {r : Request} {sw : NasAclSwitch} {old e : NasAclEntry} {t : ActionType}
  {a : NasAclAction} {l : List NasAclAction}

theorem giveActions_clean (clean : old.isAttrDirty .entryAction = false) (some_ : l ≠ []) :
    old.giveActions l = { old.markAttrDirty .entryAction with alist := Keyed.ofItems l } := by
  have cleared : old.resetActions true = { old with alist := .empty } := by
    rw [resetActions, clean]
    rfl
  rw [giveActions, if_neg some_, cleared]
  rfl

theorem ofItems_actionsBut : Keyed.ofItems (old.actionsBut p t) = old.alist.erase t :=
  Keyed.ofItems_items p.actionOrder _

/-- Removing an action gives the others. -/
theorem removeAction_eq (clean : old.isAttrDirty .entryAction = false)
    (some_ : old.actionsBut p t ≠ []) :
    old.removeAction t = old.giveActions (old.actionsBut p t) := by
  rw [giveActions_clean clean some_, ofItems_actionsBut]
  rfl

/-- Putting an action gives it after the others. -/
theorem putAction_eq (clean : old.isAttrDirty .entryAction = false) (type : a.actionType = t) :
    old.putAction a false = old.giveActions (old.actionsBut p t ++ [a]) := by
  subst type
  rw [giveActions_clean clean (List.concat_ne_nil _ _), Keyed.ofItems_concat, ofItems_actionsBut,
    Keyed.put_erase_self]
  rfl

/-- An update of an action that is there, or that need not be. -/
theorem incrAction_eq {obj : List CpsAttr} {op : CpsOper} {v : UInt32}
    (decoded : p.actionTypes.decode v = some t)
    (there : op ≠ .create → (old.alist.find t).isSome) :
    incrAction p sw obj op v old =
      if op = .delete then .ok (old.removeAction t) else setActionAttr p sw obj v [] false old := by
  unfold incrAction
  by_cases create : op = .create
  · rw [if_pos create, create]
    rfl
  · obtain ⟨a, found⟩ := Option.isSome_iff_exists.mp (there create)
    rw [if_neg create, decoded]
    simp only [getAction_ok.mpr found, except_ok_bind]

/-- An update of an action gives the list it makes, and looks at the new action only. -/
theorem incrAction_iff {v : UInt32} (clean : old.isAttrDirty .entryAction = false)
    (decoded : r.platform.actionTypes.decode v = some t)
    (there : r.op ≠ .create → (old.alist.find t).isSome) (given : r.givenActions v = .ok l)
    (some_ : old.actionsBut r.platform t ++ l ≠ []) :
    incrAction r.platform sw r.obj.attrs r.op v old = .ok e ↔
      (∀ a ∈ l, KnownCounter sw old.tableId a) ∧
        e = old.giveActions (old.actionsBut r.platform t ++ l) := by
  rw [incrAction_eq decoded there]
  unfold Request.givenActions at given
  by_cases delete : r.op = .delete
  · rw [if_pos delete] at given ⊢
    cases given
    rw [List.append_nil] at some_ ⊢
    rw [removeAction_eq clean some_, and_iff_right (List.forall_mem_nil _), Except.ok.injEq,
      @eq_comm NasAclEntry _ e]
  · rw [if_neg delete] at given ⊢
    obtain ⟨a, read, given⟩ := except_bind_ok.mp given
    cases given
    have type : a.actionType = t := Option.some.inj ((readAction_type read).symm.trans decoded)
    rw [setActionAttr, read, except_ok_bind, addAction_iff,
      putAction_eq (p := r.platform) clean type]
    simp only [List.mem_singleton, forall_eq]

/-- Without an action to give there is no update. -/
theorem incrAction_unread {v : UInt32} {err : Exn}
    (decoded : r.platform.actionTypes.decode v = some t)
    (there : r.op ≠ .create → (old.alist.find t).isSome) (given : r.givenActions v = .error err) :
    incrAction r.platform sw r.obj.attrs r.op v old ≠ .ok e := by
  rw [incrAction_eq decoded there]
  unfold Request.givenActions at given
  split at given
  · cases given
  · rename_i change
    rw [if_neg change]
    intro made
    obtain ⟨a, read, -⟩ := setActionAttr_ok.mp made
    rw [read] at given
    cases given

theorem givenActions_apart {v : UInt32} (decoded : r.platform.actionTypes.decode v = some t)
    (given : r.givenActions v = .ok l) :
    ((old.actionsBut r.platform t ++ l).map actionType).Nodup := by
  unfold Request.givenActions at given
  split at given
  · cases given
    rw [List.append_nil]
    exact Keyed.nodup_items _ _
  · obtain ⟨a, read, given⟩ := except_bind_ok.mp given
    cases given
    obtain rfl : a.actionType = t := Option.some.inj ((readAction_type read).symm.trans decoded)
    exact Keyed.nodup_items_concat _ _ a

end Actions

/-! ## A SET of one list -/

section Sets

open NasAclEntry

variable {p : Platform} {sw : NasAclSwitch} {table : NasAclTable} {old : NasAclEntry} {it : CpsAttr}
  {st : NasAclEntry × Bool}

theorem parse_single :
    cpsParseEntryObj p sw table [it] old = .ok st ↔
      parseEntryAttr p sw table [it] (old, false) it = .ok st := by
  simp only [cpsParseEntryObj, List.foldlM_cons, List.foldlM_nil, bind_pure]

theorem setFilters_iff {l : List NasAclFilter} (isMatch : it.id = .entryMatch)
    (clean : old.isAttrDirty .entryMatch = false)
    (read : it.inside.mapM (elementFilter p [it]) = .ok l)
    (apart : (l.map NasAclFilter.filterType).Nodup) :
    cpsParseEntryObj p sw table [it] old = .ok st ↔
      (∀ f ∈ l, f.Fits p table) ∧ PortsLast l ∧ st = (old.giveFilters p l, false) := by
  rw [parse_single, parseEntryAttr_match isMatch]
  constructor
  · rintro ⟨_, read', e, added, rfl⟩
    cases read.symm.trans read'
    obtain ⟨fits, last, rfl⟩ := (addFilters_clean clean apart).mp added
    exact ⟨fits, last, rfl⟩
  · rintro ⟨fits, last, rfl⟩
    exact ⟨l, read, _, (addFilters_clean clean apart).mpr ⟨fits, last, rfl⟩, rfl⟩

theorem setActions_iff {l : List NasAclAction} (isAction : it.id = .entryAction)
    (read : it.inside.mapM (elementAction p [it]) = .ok l) :
    cpsParseEntryObj p sw table [it] old = .ok st ↔
      (∀ a ∈ l, KnownCounter sw old.tableId a) ∧ st = (old.giveActions l, false) := by
  rw [parse_single, parseEntryAttr_action isAction]
  constructor
  · rintro ⟨_, read', known, rfl⟩
    cases read.symm.trans read'
    exact ⟨known, rfl⟩
  · rintro ⟨known, rfl⟩
    exact ⟨l, read, known, rfl⟩

end Sets

/-! ## The two requests -/

/-- The type an update names is known. -/
def IncrType.Known (p : Platform) : IncrType → Prop
  | .matchType v => (p.matchTypes.decode v).isSome
  | .actionType v => (p.actionTypes.decode v).isSome

/-- An incremental update of a stored entry that passes the type checks: it names a type, and
an element of this type is there unless it is a CREATE. -/
structure Request.Updates (r : Request) (sw : NasAclSwitch) (table : NasAclTable) (upd : IncrType)
    (old : NasAclEntry) : Prop where
  entry : r.obj.key.subcat = .entry
  op : r.op ∈ [CpsOper.create, .set, .delete]
  key : ∃ eid, cpsOpKeyExtract sw r.obj = .ok ⟨table, some eid, some upd⟩ ∧
    sw.getEntry table.tableId eid = .ok old
  known : upd.Known r.platform
  there : r.op ≠ .create → old.HasElement r.platform upd

/-- A list attribute that is read as the elements that are kept and the one that is given, in
any order; or that cannot be read, as the one that is given cannot. -/
def ListsExactly {α : Type} (read : CpsAttr → Except Exn α) (it : CpsAttr) (kept : List α)
    (given : Except Exn (List α)) : Prop :=
  (∃ new l, given = .ok new ∧ kept ++ new ≠ [] ∧ it.inside.mapM read = .ok l ∧ l.Perm (kept ++ new)) ∨
    ((∃ err, given = .error err) ∧ ∃ err, it.inside.mapM read = .error err)

namespace Request

/-- A full SET of one list, on the entry of an update and with the same answers. -/
def setting (it : CpsAttr) (r : Request) : Request :=
  { r with
    obj :=
      { key := { r.obj.key with oper := .set }
        keyData := fun k =>
          if k = .entryMatchType ∨ k = .entryActionType then none else r.obj.keyData k
        attrs := [it] }
    op := .set }

/-- The list attribute is of the list that an update makes. -/
def Lists (r : Request) (it : CpsAttr) (old : NasAclEntry) : IncrType → Prop
  | .matchType v => it.id = .entryMatch ∧ ∀ t, r.platform.matchTypes.decode v = some t →
      ListsExactly (elementFilter r.platform [it]) it (old.filtersBut r.platform t) (r.givenFilters v)
  | .actionType v => it.id = .entryAction ∧ ∀ t, r.platform.actionTypes.decode v = some t →
      ListsExactly (elementAction r.platform [it]) it (old.actionsBut r.platform t) (r.givenActions v)

/-- The entry that an update makes when the new element is taken. -/
def Makes (r : Request) (sw : NasAclSwitch) (table : NasAclTable) (old : NasAclEntry) :
    IncrType → NasAclEntry → Prop
  | .matchType v, new => ∃ t l, r.platform.matchTypes.decode v = some t ∧ r.givenFilters v = .ok l ∧
      (∀ f ∈ l, f.Fits r.platform table) ∧
      new = old.giveFilters r.platform (old.filtersBut r.platform t ++ l)
  | .actionType v, new => ∃ t l, r.platform.actionTypes.decode v = some t ∧ r.givenActions v = .ok l ∧
      (∀ a ∈ l, KnownCounter sw old.tableId a) ∧
      new = old.giveActions (old.actionsBut r.platform t ++ l)

/-- Nothing refuses the update: the new element can be read and is taken by the table, and the
entry it makes passes its checks, is taken by the NDI and is saved. -/
def UpdateStands (r : Request) (sw : NasAclSwitch) (table : NasAclTable) (old : NasAclEntry)
    (upd : IncrType) (sw' : NasAclSwitch) : Prop :=
  r.obj.key.cat = .baseAcl ∧ ∃ new, r.Makes sw table old upd new ∧ r.Replaces sw table old new sw'

/-- Of filters: where the one list puts IN_PORT after an IN_PORTS without ports, so does the
other.  Of actions: there is a value to save or none has to be, just when the counter that is
kept is known. -/
def UpdateAgrees (r : Request) (sw : NasAclSwitch) (it : CpsAttr) (old : NasAclEntry) :
    IncrType → Prop
  | .matchType v => ∀ t l, r.platform.matchTypes.decode v = some t → r.givenFilters v = .ok l →
      ((old.filtersBut r.platform t ++ l).Pairwise Apart ↔
        (requestFilters r.platform [it]).Pairwise Apart)
  | .actionType v => ∀ t, r.platform.actionTypes.decode v = some t →
      ((r.rollback = false → r.op ≠ .create → (actionMap r.platform t).val.dataType ≠ .none) ↔
        ∀ a ∈ old.actionsBut r.platform t, KnownCounter sw old.tableId a)

end Request

section Agreement

variable {r : Request} {sw sw' : NasAclSwitch} {table : NasAclTable} {upd : IncrType}
  {old : NasAclEntry} {it : CpsAttr}

theorem run_updates_iff (updates : r.Updates sw table upd old) :
    r.run sw = (.returned (.ok ()), sw') ↔ r.obj.key.cat = .baseAcl ∧
      ∃ new, incrNewEntry r.platform sw table r.obj.attrs r.op upd old = .ok new ∧
        (r.rollback = false → r.op ≠ .create → ¬ upd.Valueless r.platform) ∧
        r.Replaces sw table old new sw' := by
  obtain ⟨eid, key, stored⟩ := updates.key
  obtain ⟨-, -, -, -, element⟩ := cpsOpKeyExtract_ok.mp key
  rw [run_incr_iff updates.entry updates.op element]
  refine and_congr_right fun _ => ⟨?_, fun made => ⟨table, eid, key, old, stored, made⟩⟩
  rintro ⟨table', eid', key', old', stored', made⟩
  cases key.symm.trans key'
  cases stored.symm.trans stored'
  exact made

theorem run_setting_iff (updates : r.Updates sw table upd old) :
    (r.setting it).run sw = (.returned (.ok ()), sw') ↔ r.obj.key.cat = .baseAcl ∧
      ∃ st, cpsParseEntryObj r.platform sw table [it] old = .ok st ∧
        r.Replaces sw table old st.1 sw' := by
  obtain ⟨eid, key, stored⟩ := updates.key
  obtain ⟨t, named, found, own, -⟩ := cpsOpKeyExtract_ok.mp key
  have plain : keyIncrType (r.setting it).obj = none := by
    unfold keyIncrType
    split <;> rfl
  have key' : cpsOpKeyExtract sw (r.setting it).obj = .ok ⟨table, some eid, none⟩ :=
    cpsOpKeyExtract_ok.mpr ⟨t, named, found, own, plain⟩
  have whole : (r.setting it).Whole := ⟨updates.entry, .inr rfl, plain⟩
  rw [run_whole_iff whole]
  refine and_congr_right fun _ => ⟨?_, ?_⟩
  · rintro ⟨table', eid', key₂, ⟨create, -⟩ | ⟨-, id, old', new, rfl, stored', parsed, made⟩⟩
    · cases create
    · cases key'.symm.trans key₂
      cases stored.symm.trans stored'
      exact ⟨new, parsed, made⟩
  · rintro ⟨st, parsed, made⟩
    exact ⟨table, some eid, key', .inr ⟨rfl, eid, old, st, rfl, stored, parsed, made⟩⟩

/-- Where the new element cannot be read, neither request succeeds. -/
theorem sameOutcome_of_unread (updates : r.Updates sw table upd old)
    (refused : ∀ new, incrNewEntry r.platform sw table r.obj.attrs r.op upd old ≠ .ok new)
    (unread : ∀ st, cpsParseEntryObj r.platform sw table [it] old ≠ .ok st) :
    SameOutcome r (r.setting it) sw := by
  intro sw'
  rw [run_updates_iff updates, run_setting_iff updates]
  refine iff_of_false ?_ ?_
  · rintro ⟨-, new, made, -⟩
    exact refused new made
  · rintro ⟨-, st, parsed, -⟩
    exact unread st parsed

/-- Where both make the same entry, each under a condition of its own. -/
theorem sameOutcome_of_made (new : NasAclEntry) (takes : Prop) {A B : Prop}
    (updates : r.Updates sw table upd old)
    (makes : ∀ e, r.Makes sw table old upd e ↔ takes ∧ e = new)
    (incr : ∀ e, (incrNewEntry r.platform sw table r.obj.attrs r.op upd old = .ok e ∧
      (r.rollback = false → r.op ≠ .create → ¬ upd.Valueless r.platform)) ↔ (takes ∧ A) ∧ e = new)
    (set : ∀ st, cpsParseEntryObj r.platform sw table [it] old = .ok st ↔
      (takes ∧ B) ∧ st = (new, false)) :
    SameOutcome r (r.setting it) sw ↔
      (A ↔ B) ∨ ¬ ∃ sw', r.UpdateStands sw table old upd sw' := by
  refine sameOutcome_iff (fun sw' => ?_) fun sw' => ?_
  · rw [run_updates_iff updates, Request.UpdateStands, and_assoc]
    refine and_congr_right fun _ => ⟨?_, ?_⟩
    · rintro ⟨e, made, saves, replaces⟩
      obtain ⟨⟨taken, holds⟩, rfl⟩ := (incr e).mp ⟨made, saves⟩
      exact ⟨⟨e, (makes e).mpr ⟨taken, rfl⟩, replaces⟩, holds⟩
    · rintro ⟨⟨e, made, replaces⟩, holds⟩
      obtain ⟨taken, same⟩ := (makes e).mp made
      obtain ⟨made, saves⟩ := (incr e).mpr ⟨⟨taken, holds⟩, same⟩
      exact ⟨e, made, saves, replaces⟩
  · rw [run_setting_iff updates, Request.UpdateStands, and_assoc]
    refine and_congr_right fun _ => ⟨?_, ?_⟩
    · rintro ⟨st, parsed, replaces⟩
      obtain ⟨⟨taken, holds⟩, rfl⟩ := (set st).mp parsed
      exact ⟨⟨new, (makes new).mpr ⟨taken, rfl⟩, replaces⟩, holds⟩
    · rintro ⟨⟨e, made, replaces⟩, holds⟩
      obtain ⟨taken, rfl⟩ := (makes e).mp made
      exact ⟨(e, false), (set _).mpr ⟨⟨taken, holds⟩, rfl⟩, replaces⟩

/-- The two requests, where the update is of a filter. -/
theorem filter_sameOutcome_iff {v : UInt32} {allowed : NasAclSwitch → Request → Prop}
    (reached : Reached allowed sw) (updates : r.Updates sw table (.matchType v) old)
    (cached : old.CachesPorts r.platform) (lists : r.Lists it old (.matchType v)) :
    SameOutcome r (r.setting it) sw ↔
      r.UpdateAgrees sw it old (.matchType v) ∨
        ¬ ∃ sw', r.UpdateStands sw table old (.matchType v) sw' := by
  obtain ⟨t, decoded⟩ := Option.isSome_iff_exists.mp updates.known
  obtain ⟨eid, key, stored⟩ := updates.key
  have clean := stored_clean reached stored .entryMatch
  have there (change : r.op ≠ .create) : (old.flist.find t).isSome := updates.there change t decoded
  obtain ⟨isMatch, lists⟩ := lists
  obtain ⟨new, l, given, some_, read, perm⟩ | ⟨⟨err, given⟩, err', unread⟩ := lists t decoded
  · have apart : ((old.filtersBut r.platform t ++ new).map NasAclFilter.filterType).Nodup :=
      givenFilters_apart decoded given
    have apart' := (perm.map NasAclFilter.filterType).nodup_iff.mpr apart
    have fits_iff : (∀ f ∈ l, f.Fits r.platform table) ↔ ∀ f ∈ new, f.Fits r.platform table := by
      have held := stored_heldBy reached key stored
      simp only [perm.mem_iff, List.mem_append]
      exact ⟨fun fits f mem => fits f (.inr mem),
        fun fits f mem => mem.elim (fun mem => kept_fits cached held mem) (fits f)⟩
    have ports : ∀ f ∈ old.filtersBut r.platform t ++ new, f.filterType = .inPort →
        f.ifindexList ≠ [] := by
      intro f mem type
      have listed : f ∈ attrFilters r.platform [it] it := by
        rw [attrFilters_of_read isMatch read]
        exact perm.mem_iff.mpr mem
      exact listed_inPort listed type
    have agrees : r.UpdateAgrees sw it old (.matchType v) ↔
        (PortsLast (old.filtersBut r.platform t ++ new) ↔ PortsLast l) := by
      have listed : requestFilters r.platform [it] = l := by
        rw [requestFilters, List.flatMap_singleton]
        exact attrFilters_of_read isMatch read
      rw [portsLast_congr apart ports perm, ← listed]
      constructor
      · intro agrees
        exact agrees t new decoded given
      · intro same t' l' decoded' given'
        cases decoded.symm.trans decoded'
        cases given.symm.trans given'
        exact same
    rw [agrees]
    refine sameOutcome_of_made (old.giveFilters r.platform (old.filtersBut r.platform t ++ new))
      (∀ f ∈ new, f.Fits r.platform table) updates ?_ ?_ ?_
    · intro e
      constructor
      · rintro ⟨t', l', decoded', given', made⟩
        cases decoded.symm.trans decoded'
        cases given.symm.trans given'
        exact made
      · intro made
        exact ⟨t, new, decoded, given, made⟩
    · intro e
      have noValue : ¬ (IncrType.matchType v).Valueless r.platform := fun valueless => valueless
      rw [and_iff_left fun _ _ => noValue, and_assoc]
      exact incrFilter_iff cached clean decoded there given some_
    · intro st
      rw [setFilters_iff isMatch clean read apart', fits_iff, and_assoc,
        NasAclEntry.giveFilters_perm apart perm]
  · refine iff_of_true (sameOutcome_of_unread updates (fun new made => ?_) fun st parsed => ?_) (.inr ?_)
    · exact incrFilter_unread decoded there given made
    · obtain ⟨fs, read, -⟩ := (parseEntryAttr_match isMatch).mp (parse_single.mp parsed)
      cases unread.symm.trans read
    · rintro ⟨sw', -, new, ⟨t', l', -, given', -⟩, -⟩
      cases given.symm.trans given'

/-- The two requests, where the update is of an action. -/
theorem action_sameOutcome_iff {v : UInt32} {allowed : NasAclSwitch → Request → Prop}
    (reached : Reached allowed sw) (updates : r.Updates sw table (.actionType v) old)
    (lists : r.Lists it old (.actionType v)) :
    SameOutcome r (r.setting it) sw ↔
      r.UpdateAgrees sw it old (.actionType v) ∨
        ¬ ∃ sw', r.UpdateStands sw table old (.actionType v) sw' := by
  obtain ⟨t, decoded⟩ := Option.isSome_iff_exists.mp updates.known
  obtain ⟨eid, key, stored⟩ := updates.key
  have clean := stored_clean reached stored .entryAction
  have there (change : r.op ≠ .create) : (old.alist.find t).isSome := updates.there change t decoded
  obtain ⟨isAction, lists⟩ := lists
  obtain ⟨new, l, given, some_, read, perm⟩ | ⟨⟨err, given⟩, err', unread⟩ := lists t decoded
  · have apart : ((old.actionsBut r.platform t ++ new).map NasAclAction.actionType).Nodup :=
      givenActions_apart decoded given
    have known_iff : (∀ a ∈ l, KnownCounter sw old.tableId a) ↔
        (∀ a ∈ new, KnownCounter sw old.tableId a) ∧
          ∀ a ∈ old.actionsBut r.platform t, KnownCounter sw old.tableId a := by
      simp only [perm.mem_iff, List.mem_append]
      exact ⟨fun known => ⟨fun a mem => known a (.inr mem), fun a mem => known a (.inl mem)⟩,
        fun both a mem => mem.elim (both.2 a) (both.1 a)⟩
    have valued : ¬ (IncrType.actionType v).Valueless r.platform ↔
        (actionMap r.platform t).val.dataType ≠ .none := by
      refine not_congr ⟨?_, fun none_ => ⟨t, decoded, none_⟩⟩
      rintro ⟨t', decoded', none_⟩
      cases decoded.symm.trans decoded'
      exact none_
    have agrees : r.UpdateAgrees sw it old (.actionType v) ↔
        ((r.rollback = false → r.op ≠ .create → ¬ (IncrType.actionType v).Valueless r.platform) ↔
          ∀ a ∈ old.actionsBut r.platform t, KnownCounter sw old.tableId a) := by
      rw [valued]
      constructor
      · intro agrees
        exact agrees t decoded
      · intro same t' decoded'
        cases decoded.symm.trans decoded'
        exact same
    rw [agrees]
    refine sameOutcome_of_made (old.giveActions (old.actionsBut r.platform t ++ new))
      (∀ a ∈ new, KnownCounter sw old.tableId a) updates ?_ ?_ ?_
    · intro e
      constructor
      · rintro ⟨t', l', decoded', given', made⟩
        cases decoded.symm.trans decoded'
        cases given.symm.trans given'
        exact made
      · intro made
        exact ⟨t, new, decoded, given, made⟩
    · intro e
      rw [and_right_comm]
      exact and_congr_left fun _ => incrAction_iff clean decoded there given some_
    · intro st
      rw [setActions_iff isAction read, known_iff, NasAclEntry.giveActions_perm apart perm]
  · refine iff_of_true (sameOutcome_of_unread updates (fun new made => ?_) fun st parsed => ?_) (.inr ?_)
    · exact incrAction_unread decoded there given made
    · obtain ⟨l, read, -⟩ := (parseEntryAttr_action isAction).mp (parse_single.mp parsed)
      cases unread.symm.trans read
    · rintro ⟨sw', -, new, ⟨t', l', -, given', -⟩, -⟩
      cases given.symm.trans given'

/-- On a platform whose interfaces stay what they are, an incremental update and the full SET
of the list it makes have the same outcome just when they agree on what only one of them looks
at, or the update is refused anyway. -/
theorem incr_sameOutcome_iff (reached : Reached (fun _ before => r.platform.Hosts before.platform) sw)
    (updates : r.Updates sw table upd old) (cached : old.CachesPorts r.platform)
    (lists : r.Lists it old upd) :
    SameOutcome r (r.setting it) sw ↔
      r.UpdateAgrees sw it old upd ∨ ¬ ∃ sw', r.UpdateStands sw table old upd sw' := by
  cases upd with
  | matchType v => exact filter_sameOutcome_iff reached updates cached lists
  | actionType v => exact action_sameOutcome_iff reached updates lists

end Agreement

/-! ### On the bench -/

/-- An incremental update of an action of entry 7. -/
def actionUpdate (op : CpsOper) (t : ActionType) (attrs : List CpsAttr) : Request :=
  .on op .entry [(.entryTableId, 1), (.entryId, 7),
    (.entryActionType, (Bench.platform.actionTypes.code t).toUInt64)] attrs

/-- Entry 7, with a DSCP, an EGRESS_MASK and a DECREMENT_TTL. -/
def updateRun : List Request :=
  orderTable ++ [orderedEntry [Bench.matchElem .dscp
    [.mk (.matchValue .dscp) [] [.mk (.matchValueData .dscp) (bytesU8 10) []]]]]

theorem updateRun_reached :
    Reached (fun _ r => Bench.platform.Hosts r.platform) (Bench.after updateRun) :=
  Reachable.after fun r mem _ => by
    rcases List.mem_pair.mp mem with rfl | rfl <;> exact Platform.hosts_self _

def egressMask (v : UInt32) : List CpsAttr := [Bench.u32 (.actionValue .egressMask) v]

/-- The entry has no port filter and the action, and the list attribute is of its other actions
and the new ones, none of them with a counter. -/
def NasAclEntry.ListedBy (it : CpsAttr) (t : ActionType) (new : List NasAclAction)
    (e : NasAclEntry) : Prop :=
  e.flist.find .inPorts = none ∧ e.flist.find .inPort = none ∧ e.filterNpus = ∅ ∧
    (e.alist.find t).isSome ∧ e.actionsBut Bench.platform t ++ new ≠ [] ∧
    (it.inside.mapM (elementAction Bench.platform [it])).toOption
      = some (e.actionsBut Bench.platform t ++ new) ∧
    ∀ a ∈ e.actionsBut Bench.platform t, a.actionType ≠ .setCounter

instance (it : CpsAttr) (t : ActionType) (new : List NasAclAction) (e : NasAclEntry) :
    Decidable (e.ListedBy it t new) :=
  inferInstanceAs (Decidable (_ ∧ _ ∧ _ ∧ _ ∧ _ ∧ _ ∧ _))

theorem cachesPorts_free {p : Platform} {e : NasAclEntry} (inPorts : e.flist.find .inPorts = none)
    (inPort : e.flist.find .inPort = none) (cache : e.filterNpus = ∅) : e.CachesPorts p := by
  have free {t : MatchType} (tied : NasAclFilter.isNpuSpecificType t) : e.flist.find t = none := by
    rcases NasAclEntry.npuSpecificType_cases tied with rfl | rfl
    · exact inPorts
    · exact inPort
  refine ⟨fun t t' tied _ found => ?_, fun t f tied found => ?_, fun _ => cache⟩
  · rw [free tied] at found
    cases found
  · rw [free tied] at found
    cases found

theorem actionUpdate_ready {op : CpsOper} {t : ActionType} {attrs : List CpsAttr} {it : CpsAttr}
    (known : op ∈ [CpsOper.create, .set, .delete])
    (named : keyIncrType (actionUpdate op t attrs).obj
      = some (.actionType (Bench.platform.actionTypes.code t)))
    (isAction : it.id = .entryAction)
    (listed : ((actionUpdate op t attrs).givenActions (Bench.platform.actionTypes.code t)).toOption.any
      fun new => ((Bench.after updateRun).findEntry 1 7).any fun e => e.ListedBy it t new) :
    ∃ table old, (actionUpdate op t attrs).Updates (Bench.after updateRun) table
        (.actionType (Bench.platform.actionTypes.code t)) old ∧
      old.CachesPorts Bench.platform ∧
      (actionUpdate op t attrs).Lists it old (.actionType (Bench.platform.actionTypes.code t)) ∧
      ∀ a ∈ old.actionsBut Bench.platform t, a.actionType ≠ .setCounter := by
  have typed : Bench.platform.actionTypes.decode (Bench.platform.actionTypes.code t) = some t :=
    (Bench.platform.actionTypes.decode_eq_some _ _).mpr rfl
  have typed_iff {t' : ActionType}
      (decoded : Bench.platform.actionTypes.decode (Bench.platform.actionTypes.code t) = some t') :
      t = t' := Option.some.inj (typed.symm.trans decoded)
  obtain ⟨new, given, listed⟩ := (Option.any_eq_true _ _).mp listed
  obtain ⟨old, found, test⟩ := (Option.any_eq_true _ _).mp listed
  obtain ⟨inPorts, inPort, cache, there, some_, read, uncounted⟩ := of_decide_eq_true test
  have tableThere : ((Bench.after updateRun).getTable 1).toOption.any fun table =>
      table.tableId = 1 := by decide +kernel
  obtain ⟨table, held, own⟩ := (Option.any_eq_true _ _).mp tableThere
  have own := of_decide_eq_true own
  have stored : (Bench.after updateRun).getEntry table.tableId 7 = .ok old := by
    rw [own, NasAclSwitch.getEntry, found]
  refine ⟨table, old, ⟨rfl, known, ⟨7, ?_, stored⟩, ?_, ?_⟩, cachesPorts_free inPorts inPort cache,
    ⟨isAction, ?_⟩, uncounted⟩
  · exact cpsOpKeyExtract_ok.mpr ⟨1, rfl, except_toOption.mp held, rfl, named⟩
  · exact Option.isSome_of_eq_some typed
  · intro _ t' decoded
    exact typed_iff decoded ▸ there
  · intro t' decoded
    obtain rfl := typed_iff decoded
    exact .inl ⟨new, _, except_toOption.mp given, some_, except_toOption.mp read, List.Perm.refl _⟩

/-- Setting the EGRESS_MASK, alone or in a list with the other action. -/
theorem incr_set_egressMask :
    let r := actionUpdate .set .egressMask (egressMask 5)
    let it := Bench.listAttr .entryAction
      [Bench.actionElem .decrementTtl [], Bench.actionElem .egressMask (egressMask 5)]
    SameOutcome r (r.setting it) (Bench.after updateRun) ∧
      (r.run (Bench.after updateRun)).1 = .returned (.ok ()) := by
  intro r it
  have ready : ∃ table old, r.Updates (Bench.after updateRun) table _ old ∧
      old.CachesPorts Bench.platform ∧ r.Lists it old _ ∧
      ∀ a ∈ old.actionsBut Bench.platform .egressMask, a.actionType ≠ .setCounter :=
    actionUpdate_ready (by decide) (by decide +kernel) rfl (by decide +kernel)
  obtain ⟨table, old, updates, cached, lists, uncounted⟩ := ready
  refine ⟨(incr_sameOutcome_iff updateRun_reached updates cached lists).mpr
    (.inl fun t decoded => ?_), by decide +kernel⟩
  have type : t = .egressMask := Option.some.inj (decoded.symm.trans
    ((Bench.platform.actionTypes.decode_eq_some _ _).mpr rfl))
  subst type
  refine iff_of_true (fun _ _ none_ => by cases none_) fun a mem counter => ?_
  exact absurd counter (uncounted a mem)

/-- Deleting the DECREMENT_TTL ends the process; setting the other action alone does not. -/
theorem incr_not_always_setting :
    ¬ ∀ (sw : NasAclSwitch) (r : Request) (table : NasAclTable) (upd : IncrType)
      (old : NasAclEntry) (it : CpsAttr), Reached (fun _ before => r.platform.Hosts before.platform) sw →
      r.Updates sw table upd old → old.CachesPorts r.platform → r.Lists it old upd →
      SameOutcome r (r.setting it) sw := by
  intro claim
  let r := actionUpdate .delete .decrementTtl []
  let it := Bench.listAttr .entryAction [Bench.actionElem .egressMask (egressMask 3)]
  let sw := Bench.after updateRun
  have ready : ∃ table old, r.Updates sw table _ old ∧ old.CachesPorts Bench.platform ∧
      r.Lists it old _ ∧
      ∀ a ∈ old.actionsBut Bench.platform .decrementTtl, a.actionType ≠ .setCounter :=
    actionUpdate_ready (by decide) (by decide +kernel) rfl (by decide +kernel)
  obtain ⟨table, old, updates, cached, lists, -⟩ := ready
  have same := claim sw r table _ old it updateRun_reached updates cached lists
  have accepted : ((r.setting it).run sw).1 = .returned (.ok ()) := by decide +kernel
  have ended : (r.run sw).1 = .terminated := by decide +kernel
  have ran := (same ((r.setting it).run sw).2).mpr (Prod.ext accepted rfl)
  rw [ran] at ended
  cases ended

end SonicNasAcl
