/-
# ListEdits -- a list of a request, taken as a whole

The elements of a list are added to an entry one after the other, and the first clears
what was there.  Taken together they are one edit:

* `addFilters_iff`: filters of different types can be added exactly when the table takes
  each (`Fits`) and no port filter comes after one that has ports (`PortsLast`);
* `addActions_iff`: actions can be added exactly when their counters are known;
* `giveFilters_perm`, `giveActions_perm`: what they leave does not depend on their order,
  so that `PortsLast` is all that can;
* `portsLast_iff_not_apart`: it depends on the order only between IN_PORT and an IN_PORTS
  without ports;
* `setMatchList_iff`, `setActionList_iff`: the list of a request is read, then added.
-/
import SonicNasAcl.ActionCodec
import SonicNasAcl.FilterCodec

namespace SonicNasAcl

set_option autoImplicit false

open Lib

/-! ## Filters that a table takes -/

namespace NasAclFilter

/-- The table allows the type of a filter and is on all NPUs of its ports. -/
structure Fits (p : Platform) (table : NasAclTable) (f : NasAclFilter) : Prop where
  allowed : f.filterType ∈ table.allowedFilters
  inTable : ∃ npus, f.getNpuList p = .ok npus ∧ npus ⊆ table.npuList

/-- The NPUs of a filter; none if its interfaces are unknown. -/
def npus (p : Platform) (f : NasAclFilter) : NpuSet := (f.getNpuList p).toOption.getD ∅

variable {p : Platform} {table : NasAclTable} {f : NasAclFilter}

theorem npus_of_ok {npus : NpuSet} (listed : f.getNpuList p = .ok npus) : f.npus p = npus := by
  rw [NasAclFilter.npus, listed]
  rfl

/-- A filter that is not tied to NPUs has none. -/
theorem getNpuList_free (free : f.isNpuSpecific = false) : f.getNpuList p = .ok ∅ := by
  rw [getNpuList, free, if_neg Bool.false_ne_true]

theorem Accepted.fits (accepted : f.Accepted p table) : f.Fits p table := by
  refine ⟨accepted.allowed, ?_⟩
  cases tied : f.isNpuSpecific with
  | true => exact accepted.inTable tied
  | false => exact ⟨∅, getNpuList_free tied, Finset.empty_subset _⟩

/-- A filter that fits has no NPUs just when it is not tied to any or has no ports. -/
theorem Fits.npus_eq_empty (fits : f.Fits p table) :
    f.npus p = ∅ ↔ (f.isNpuSpecific → f.ifindexList = []) := by
  obtain ⟨npus, listed, -⟩ := fits.inTable
  rw [npus_of_ok listed]
  constructor
  · rintro rfl tied
    exact ((getNpuList_ok tied).mp listed).eq_nil
  · intro portless
    cases tied : f.isNpuSpecific with
    | false => exact Except.ok.inj (listed.symm.trans (getNpuList_free tied))
    | true =>
        rw [getNpuList, if_pos tied, portless tied] at listed
        exact (Except.ok.inj listed).symm

end NasAclFilter

/-- The NPUs of the port filters of a list. -/
def portNpus (p : Platform) (l : List NasAclFilter) : NpuSet :=
  l.foldr (fun f npus => f.npus p ∪ npus) ∅

theorem mem_portNpus {p : Platform} {l : List NasAclFilter} {npuId : NpuId} :
    npuId ∈ portNpus p l ↔ ∃ f ∈ l, npuId ∈ f.npus p := by
  induction l with
  | nil =>
      refine iff_of_false (Finset.notMem_empty _) ?_
      rintro ⟨f, mem, -⟩
      cases mem
  | cons f rest ih =>
      rw [portNpus, List.foldr_cons, Finset.mem_union, ← portNpus, ih, List.exists_mem_cons_iff]

/-- No port filter comes after one that has ports. -/
def PortsLast (l : List NasAclFilter) : Prop :=
  l.Pairwise fun g f => g.isNpuSpecific → f.isNpuSpecific → g.ifindexList = []

/-! ## Match lists -/

theorem BaseObj.markAttrDirty_idem (a : AttrId) (b : BaseObj) :
    (b.markAttrDirty a).markAttrDirty a = b.markAttrDirty a := by
  simp only [BaseObj.markAttrDirty, Finset.insert_idem]

namespace NasAclEntry

open NasAclFilter

variable {p : Platform} {sw : NasAclSwitch} {table : NasAclTable} {e e' : NasAclEntry}
  {l l' : List NasAclFilter}

/-- The entry after a match list with these filters. -/
def giveFilters (p : Platform) (l : List NasAclFilter) (e : NasAclEntry) : NasAclEntry :=
  if l = [] then e
  else
    { e.markAttrDirty .entryMatch with
      flist := l.foldl (fun m f => m.put f) (e.resetFilters true).flist
      filterNpus := (e.resetFilters true).filterNpus ∪ portNpus p l }

theorem giveFilters_nil : e.giveFilters p [] = e := if_pos rfl

/-- What is marked is not cleared. -/
theorem resetFilters_of_dirty (dirty : e.isAttrDirty .entryMatch = true) :
    e.resetFilters true = e := by
  rw [resetFilters, dirty]
  rfl

theorem resetActions_of_dirty (dirty : e.isAttrDirty .entryAction = true) :
    e.resetActions true = e := by
  rw [resetActions, dirty]
  rfl

theorem isAttrDirty_markAttrDirty (a : AttrId) (e : NasAclEntry) :
    (e.markAttrDirty a).isAttrDirty a = true := decide_eq_true (Finset.mem_insert_self ..)

/-- One filter of a type that is not there. -/
theorem addFilter_iff {f : NasAclFilter}
    (absent : f.isNpuSpecific → (e.resetFilters true).flist.find f.filterType = none) :
    e.addFilter p table f true = .ok e' ↔
      f.Fits p table ∧ ((e.resetFilters true).filterNpus ≠ ∅ → f.isNpuSpecific = false) ∧
        e' = e.giveFilters p [f] := by
  have given (cached : NasAclEntry) (same : cached = { e.resetFilters true with
      filterNpus := (e.resetFilters true).filterNpus ∪ f.npus p }) :
      { cached.markAttrDirty .entryMatch with flist := cached.flist.put f }
        = e.giveFilters p [f] := by
    have single : portNpus p [f] = f.npus p := Finset.union_empty _
    rw [same, giveFilters, if_neg (List.cons_ne_nil _ _), single]
    unfold resetFilters
    split <;> rfl
  rw [addFilter_ok]
  cases tied : f.isNpuSpecific with
  | false =>
      have none_ : f.npus p = ∅ := npus_of_ok (getNpuList_free tied)
      have plain := given (e.resetFilters true) (by rw [none_, Finset.union_empty])
      constructor
      · rintro ⟨allowed, cached, step, rfl⟩
        obtain ⟨-, rfl⟩ | ⟨port, -⟩ := cacheFilterNpus_ok.mp step
        · exact ⟨⟨allowed, ∅, getNpuList_free tied, Finset.empty_subset _⟩, fun _ => rfl, plain⟩
        · cases tied.symm.trans port
      · rintro ⟨fits, -, rfl⟩
        exact ⟨fits.allowed, _, cacheFilterNpus_ok.mpr (.inl ⟨tied, rfl⟩), plain.symm⟩
  | true =>
      have cached {npus : NpuSet} (free : (e.resetFilters true).filterNpus = ∅)
          (listed : f.getNpuList p = .ok npus) :=
        given { e.resetFilters true with filterNpus := npus }
          (by rw [free, Finset.empty_union, npus_of_ok listed])
      constructor
      · rintro ⟨allowed, _, step, rfl⟩
        obtain ⟨free, -⟩ | ⟨-, alone, npus, listed, inside, rfl⟩ := cacheFilterNpus_ok.mp step
        · cases tied.symm.trans free
        · have free : (e.resetFilters true).filterNpus = ∅ := by
            by_contra full
            exact alone full (absent tied)
          exact ⟨⟨allowed, npus, listed, inside⟩, fun full => absurd free full, cached free listed⟩
      · rintro ⟨fits, alone, rfl⟩
        obtain ⟨npus, listed, inside⟩ := fits.inTable
        have free : (e.resetFilters true).filterNpus = ∅ := by
          by_contra full
          cases alone full
        exact ⟨fits.allowed, _, cacheFilterNpus_ok.mpr
          (.inr ⟨tied, fun full => absurd free full, npus, listed, inside, rfl⟩),
          (cached free listed).symm⟩

/-- One filter beside what is there: it takes the place of one of its type. -/
theorem addFilter_over_iff {f : NasAclFilter} :
    e.addFilter p table f false = .ok e' ↔
      f.Fits p table ∧
        (f.isNpuSpecific → e.filterNpus ≠ ∅ → e.flist.find f.filterType ≠ none) ∧
        e' = { e.markAttrDirty .entryMatch with
          flist := e.flist.put f
          filterNpus := if f.isNpuSpecific then f.npus p else e.filterNpus } := by
  have asIs : e.resetFilters false = e := rfl
  rw [addFilter_ok, asIs]
  cases tied : f.isNpuSpecific with
  | false =>
      simp only [Bool.false_eq_true, false_implies, true_and, if_false]
      constructor
      · rintro ⟨allowed, _, step, rfl⟩
        obtain ⟨-, rfl⟩ | ⟨port, -⟩ := cacheFilterNpus_ok.mp step
        · exact ⟨⟨allowed, ∅, getNpuList_free tied, Finset.empty_subset _⟩, rfl⟩
        · cases tied.symm.trans port
      · rintro ⟨fits, rfl⟩
        exact ⟨fits.allowed, e, cacheFilterNpus_ok.mpr (.inl ⟨tied, rfl⟩), rfl⟩
  | true =>
      simp only [true_implies, if_true]
      constructor
      · rintro ⟨allowed, _, step, rfl⟩
        obtain ⟨free, -⟩ | ⟨-, alone, npus, listed, inside, rfl⟩ := cacheFilterNpus_ok.mp step
        · cases tied.symm.trans free
        · rw [npus_of_ok listed]
          exact ⟨⟨allowed, npus, listed, inside⟩, alone, rfl⟩
      · rintro ⟨fits, alone, rfl⟩
        obtain ⟨npus, listed, inside⟩ := fits.inTable
        rw [npus_of_ok listed]
        exact ⟨fits.allowed, _, cacheFilterNpus_ok.mpr (.inr ⟨tied, alone, npus, listed, inside, rfl⟩),
          rfl⟩

theorem giveFilters_dirty (some_ : l ≠ []) : (e.giveFilters p l).isAttrDirty .entryMatch = true := by
  rw [giveFilters, if_neg some_]
  exact isAttrDirty_markAttrDirty .entryMatch e

theorem giveFilters_cons (f : NasAclFilter) :
    (e.giveFilters p [f]).giveFilters p l = e.giveFilters p (f :: l) := by
  by_cases none_ : l = []
  · rw [none_]
    rfl
  · rw [giveFilters, if_neg none_, resetFilters_of_dirty (giveFilters_dirty (List.cons_ne_nil _ _)),
      giveFilters, if_neg (List.cons_ne_nil _ _), giveFilters, if_neg (List.cons_ne_nil _ _)]
    have single : portNpus p [f] = f.npus p := Finset.union_empty _
    simp only [markAttrDirty, BaseObj.markAttrDirty_idem, single, Finset.union_assoc]
    rfl

/-- Filters of different types, none of them on the entry. -/
theorem addFilters_iff (apart : (l.map filterType).Nodup)
    (absent : ∀ f ∈ l, f.isNpuSpecific → (e.resetFilters true).flist.find f.filterType = none) :
    addFilters p table l e = .ok e' ↔
      (∀ f ∈ l, f.Fits p table) ∧
        ((e.resetFilters true).filterNpus ≠ ∅ → ∀ f ∈ l, f.isNpuSpecific = false) ∧
        PortsLast l ∧ e' = e.giveFilters p l := by
  induction l generalizing e with
  | nil =>
      constructor
      · rintro ⟨⟩
        exact ⟨List.forall_mem_nil _, fun _ => List.forall_mem_nil _, List.Pairwise.nil, rfl⟩
      · rintro ⟨-, -, -, rfl⟩
        rfl
  | cons f rest ih =>
      obtain ⟨other, apart⟩ := List.nodup_cons.mp apart
      obtain ⟨absent_f, absent⟩ := List.forall_mem_cons.mp absent
      have single : portNpus p [f] = f.npus p := Finset.union_empty _
      have mid : (e.giveFilters p [f]).resetFilters true = e.giveFilters p [f] :=
        resetFilters_of_dirty (giveFilters_dirty (List.cons_ne_nil _ _))
      have cache : (e.giveFilters p [f]).filterNpus
          = (e.resetFilters true).filterNpus ∪ f.npus p := by
        rw [giveFilters, if_neg (List.cons_ne_nil _ _), single]
      have absent_mid : ∀ g ∈ rest, g.isNpuSpecific →
          ((e.giveFilters p [f]).resetFilters true).flist.find g.filterType = none := by
        intro g mem tied
        have ne : g.filterType ≠ f.filterType := fun same =>
          other (same ▸ List.mem_map_of_mem mem)
        rw [mid, giveFilters, if_neg (List.cons_ne_nil _ _)]
        exact (Keyed.find_put_of_ne ne _).trans (absent g mem tied)
      have split : addFilters p table (f :: rest) e = .ok e' ↔
          ∃ mid, e.addFilter p table f true = .ok mid ∧ addFilters p table rest mid = .ok e' :=
        except_bind_ok
      simp only [split, addFilter_iff absent_f, and_assoc, exists_eq_left, exists_and_left]
      rw [ih apart absent_mid, mid, cache, giveFilters_cons]
      simp only [List.forall_mem_cons, PortsLast, List.pairwise_cons]
      constructor
      · rintro ⟨fits, alone, fits_rest, alone_rest, last, same⟩
        refine ⟨⟨fits, fits_rest⟩, fun full => ⟨alone full, alone_rest fun none_ => ?_⟩,
          ⟨fun g mem tied tied' => ?_, last⟩, same⟩
        · exact full (Finset.union_eq_empty.mp none_).1
        · by_contra ports
          have free := alone_rest (fun none_ => ports
            (fits.npus_eq_empty.mp (Finset.union_eq_empty.mp none_).2 tied)) g mem
          cases free.symm.trans tied'
      · rintro ⟨⟨fits, fits_rest⟩, alone, ⟨first, last⟩, same⟩
        refine ⟨fits, fun full => (alone full).1, fits_rest, fun full g mem => ?_, last, same⟩
        by_contra tied'
        have tied' := Bool.eq_true_of_not_eq_false tied'
        refine full (Finset.union_eq_empty.mpr ⟨?_, fits.npus_eq_empty.mpr fun tied =>
          first g mem tied tied'⟩)
        by_contra there
        cases ((alone there).2 g mem).symm.trans tied'

/-- On an entry that was not given filters before. -/
theorem addFilters_clean (clean : e.isAttrDirty .entryMatch = false)
    (apart : (l.map filterType).Nodup) :
    addFilters p table l e = .ok e' ↔
      (∀ f ∈ l, f.Fits p table) ∧ PortsLast l ∧ e' = e.giveFilters p l := by
  have cleared : e.resetFilters true = { e with flist := .empty, filterNpus := ∅ } := by
    rw [resetFilters, clean]
    rfl
  rw [addFilters_iff apart fun f mem tied => by rw [cleared]; rfl, cleared]
  exact and_congr_right fun _ => and_iff_right fun full => absurd rfl full

/-- The order of a list is not seen in what it leaves. -/
theorem giveFilters_perm (apart : (l.map filterType).Nodup) (perm : l'.Perm l) :
    e.giveFilters p l' = e.giveFilters p l := by
  have npus : portNpus p l' = portNpus p l := by
    ext npuId
    simp only [mem_portNpus, perm.mem_iff]
  have filters := Keyed.foldl_put_perm apart perm (e.resetFilters true).flist
  unfold giveFilters
  by_cases none_ : l = []
  · rw [none_] at perm ⊢
    rw [perm.eq_nil]
  · have some_ : l' ≠ [] := fun same => none_ (same ▸ perm).symm.eq_nil
    rw [if_neg none_, if_neg some_, npus, filters]

/-! ## Action lists -/

section Actions

variable {actions actions' : List NasAclAction}

/-- The entry after an action list with these actions. -/
def giveActions (l : List NasAclAction) (e : NasAclEntry) : NasAclEntry :=
  if l = [] then e
  else
    { e.markAttrDirty .entryAction with
      alist := l.foldl (fun m a => m.put a) (e.resetActions true).alist }

theorem giveActions_nil : e.giveActions [] = e := if_pos rfl

theorem giveActions_single (a : NasAclAction) : e.giveActions [a] = e.putAction a true := by
  rw [putAction_frame]
  rfl

theorem giveActions_dirty (some_ : actions ≠ []) :
    (e.giveActions actions).isAttrDirty .entryAction = true := by
  rw [giveActions, if_neg some_]
  exact isAttrDirty_markAttrDirty .entryAction e

theorem giveActions_cons (a : NasAclAction) :
    (e.giveActions [a]).giveActions actions = e.giveActions (a :: actions) := by
  by_cases none_ : actions = []
  · rw [none_]
    rfl
  · rw [giveActions, if_neg none_, resetActions_of_dirty (giveActions_dirty (List.cons_ne_nil _ _)),
      giveActions, if_neg (List.cons_ne_nil _ _), giveActions, if_neg (List.cons_ne_nil _ _)]
    simp only [markAttrDirty, BaseObj.markAttrDirty_idem]
    rfl

theorem addAction_iff {a : NasAclAction} {reset : Bool} :
    e.addAction sw a reset = .ok e' ↔
      KnownCounter sw e.tableId a ∧ e' = e.putAction a reset := by
  rw [addAction_ok, and_comm]
  refine and_congr_left fun same => forall_congr' fun counter => ?_
  have named : e'.counterId = a.counterId := by
    rw [same, putAction_frame, counterId, ← counter]
    simp only [Keyed.find_put_self]
  rw [named, same, putAction_frame]

/-- Actions can be added when their counters are known. -/
theorem addActions_iff :
    addActions sw actions e = .ok e' ↔
      (∀ a ∈ actions, KnownCounter sw e.tableId a) ∧ e' = e.giveActions actions := by
  induction actions generalizing e with
  | nil =>
      constructor
      · rintro ⟨⟩
        exact ⟨List.forall_mem_nil _, rfl⟩
      · rintro ⟨-, rfl⟩
        rfl
  | cons a rest ih =>
      have split : addActions sw (a :: rest) e = .ok e' ↔
          ∃ mid, e.addAction sw a true = .ok mid ∧ addActions sw rest mid = .ok e' :=
        except_bind_ok
      have table : (e.giveActions [a]).tableId = e.tableId := rfl
      simp only [split, addAction_iff, ← giveActions_single, and_assoc, exists_eq_left,
        exists_and_left, List.forall_mem_cons]
      rw [ih, table, giveActions_cons]

theorem giveActions_perm (apart : (actions.map NasAclAction.actionType).Nodup)
    (perm : actions'.Perm actions) : e.giveActions actions' = e.giveActions actions := by
  have same := Keyed.foldl_put_perm apart perm (e.resetActions true).alist
  unfold giveActions
  by_cases none_ : actions = []
  · rw [none_] at perm ⊢
    rw [perm.eq_nil]
  · have some_ : actions' ≠ [] := fun same => none_ (same ▸ perm).symm.eq_nil
    rw [if_neg none_, if_neg some_, same]

end Actions

end NasAclEntry

/-! ## Reading a list -/

/-- The filter an element of a match list describes. -/
def elementFilter (p : Platform) (obj : List CpsAttr) (elem : CpsAttr) :
    Except Exn NasAclFilter := do
  let matchTypeVal ← elementType .entryMatchType "MATCH" elem
  readFilter p obj matchTypeVal [.entryMatch, elem.id]

/-- The action an element of an action list describes. -/
def elementAction (p : Platform) (obj : List CpsAttr) (elem : CpsAttr) :
    Except Exn NasAclAction := do
  let actionTypeVal ← elementType .entryActionType "ACTION" elem
  readAction p obj actionTypeVal [.entryAction, elem.id]

/-- The types of the elements of a list, where they name one. -/
def elementTypes (typeAttr : AttrId) (what : String) (it : CpsAttr) : List UInt32 :=
  it.inside.filterMap fun elem => (elementType typeAttr what elem).toOption

section Reading

variable {p : Platform} {sw : NasAclSwitch} {table : NasAclTable} {obj : List CpsAttr}
  {it : CpsAttr} {e e' : NasAclEntry}

/-- A list attribute is read, then its elements are added. -/
theorem forEachElement_iff {α : Type} {listAttr typeAttr : AttrId} {what : String}
    {read : UInt32 → List AttrId → Except Exn α} {add : α → NasAclEntry → Except Exn NasAclEntry} :
    forEachElement listAttr typeAttr what (fun v path e => read v path >>= fun x => add x e) it e
        = .ok e' ↔
      ∃ xs, it.inside.mapM (fun elem =>
          elementType typeAttr what elem >>= fun v => read v [listAttr, elem.id]) = .ok xs ∧
        xs.foldlM (fun e x => add x e) e = .ok e' := by
  rw [← except_foldlM_mapM, forEachElement]
  refine Eq.congr_left (except_foldlM_congr fun elem _ e => ?_)
  cases elementType typeAttr what elem with
  | error err => rfl
  | ok v => rfl

theorem setMatchList_iff : setMatchList p table obj it e = .ok e' ↔
    ∃ fs, it.inside.mapM (elementFilter p obj) = .ok fs ∧ addFilters p table fs e = .ok e' :=
  forEachElement_iff

theorem setActionList_iff : setActionList p sw obj it e = .ok e' ↔
    ∃ l, it.inside.mapM (elementAction p obj) = .ok l ∧ addActions sw l e = .ok e' :=
  forEachElement_iff

/-- Elements of different types describe filters of different types. -/
theorem attrFilters_apart (isMatch : it.id = .entryMatch)
    (types : (elementTypes .entryMatchType "MATCH" it).Nodup) :
    ((attrFilters p obj it).map NasAclFilter.filterType).Nodup := by
  have named (elem : CpsAttr) (f : NasAclFilter) (read : elementFilter p obj elem = .ok f) :
      elementType .entryMatchType "MATCH" elem = .ok (p.matchTypes.code f.filterType) := by
    obtain ⟨v, found, read⟩ := except_bind_ok.mp read
    rw [found, (p.matchTypes.decode_eq_some _ _).mp (readFilter_type read)]
  have codes := types.sublist (except_filterMap_keys named it.inside)
  rw [← Function.comp_def, ← List.map_map] at codes
  rw [attrFilters, if_pos isMatch, ← List.filterMap_eq_flatMap_toList]
  exact codes.of_map

/-- What is read is what the request lists. -/
theorem attrFilters_of_read {fs : List NasAclFilter} (isMatch : it.id = .entryMatch)
    (read : it.inside.mapM (elementFilter p obj) = .ok fs) : attrFilters p obj it = fs := by
  rw [attrFilters, if_pos isMatch, (except_mapM_ok.mp read).2, ← List.filterMap_eq_flatMap_toList]
  rfl

theorem filters_apart {fs : List NasAclFilter} (isMatch : it.id = .entryMatch)
    (types : (elementTypes .entryMatchType "MATCH" it).Nodup)
    (read : it.inside.mapM (elementFilter p obj) = .ok fs) :
    (fs.map NasAclFilter.filterType).Nodup :=
  attrFilters_of_read isMatch read ▸ attrFilters_apart isMatch types

theorem actions_apart {l : List NasAclAction}
    (types : (elementTypes .entryActionType "ACTION" it).Nodup)
    (read : it.inside.mapM (elementAction p obj) = .ok l) :
    (l.map NasAclAction.actionType).Nodup := by
  have named (elem : CpsAttr) (a : NasAclAction) (read : elementAction p obj elem = .ok a) :
      elementType .entryActionType "ACTION" elem = .ok (p.actionTypes.code a.actionType) := by
    obtain ⟨v, found, read⟩ := except_bind_ok.mp read
    rw [found, (p.actionTypes.decode_eq_some _ _).mp (readAction_type read)]
  have codes := types.sublist (except_filterMap_keys named it.inside)
  rw [← (except_mapM_ok.mp read).2, ← Function.comp_def, ← List.map_map] at codes
  exact codes.of_map

/-- A filter of one port that is listed has its port. -/
theorem listed_inPort {f : NasAclFilter} (listed : f ∈ attrFilters p obj it)
    (type : f.filterType = .inPort) : f.ifindexList ≠ [] := by
  unfold attrFilters at listed
  split at listed
  · rw [← List.filterMap_eq_flatMap_toList] at listed
    obtain ⟨elem, -, here⟩ := List.mem_filterMap.mp listed
    obtain ⟨v, -, read⟩ := except_bind_ok.mp (except_toOption.mp here)
    exact readFilter_inPort read type
  · cases listed

end Reading

/-! ## The order of two port filters -/

section Order

open NasAclFilter

variable {l : List NasAclFilter}

/-- A list in which no IN_PORT and IN_PORTS meet. -/
theorem ports_of_alone {t : MatchType} (absent : t ∉ l.map filterType)
    (port : t = .inPort ∨ t = .inPorts) (apart : (l.map filterType).Nodup) :
    PortsLast l ∧ l.Pairwise Apart := by
  have never : ∀ f ∈ l, f.filterType ≠ t := fun f mem same =>
    absent (same ▸ List.mem_map_of_mem mem)
  have types : l.Pairwise fun g f => g.filterType ≠ f.filterType := List.pairwise_map.mp apart
  constructor
  · refine types.imp_of_mem fun {g f} here there differ tied tied' => ?_
    rcases NasAclEntry.npuSpecificType_cases tied with type | type <;>
      rcases NasAclEntry.npuSpecificType_cases tied' with type' | type'
    · exact absurd (type.trans type'.symm) differ
    · rcases port with rfl | rfl
      · exact absurd type' (never f there)
      · exact absurd type (never g here)
    · rcases port with rfl | rfl
      · exact absurd type (never g here)
      · exact absurd type' (never f there)
    · exact absurd (type.trans type'.symm) differ
  · refine types.imp_of_mem fun {g f} here there _ type _ type' => ?_
    rcases port with rfl | rfl
    · exact never f there type'
    · exact never g here type

/-- Where they meet, they may do so in one order only, and when IN_PORTS has no ports. -/
theorem portsLast_iff_not_apart (apart : (l.map filterType).Nodup)
    (given : ∀ f ∈ l, f.filterType = .inPort → f.ifindexList ≠ [])
    (inPort : .inPort ∈ l.map filterType) (inPorts : .inPorts ∈ l.map filterType) :
    PortsLast l ↔ ¬ l.Pairwise Apart := by
  induction l with
  | nil => cases inPort
  | cons f rest ih =>
      obtain ⟨other, apart'⟩ := List.nodup_cons.mp apart
      obtain ⟨given_f, given⟩ := List.forall_mem_cons.mp given
      rw [PortsLast, List.pairwise_cons, List.pairwise_cons, ← PortsLast]
      rcases List.mem_cons.mp inPort with type | inPort
      · -- IN_PORT comes first: nothing may come after it.
        obtain ⟨last, fine⟩ := ports_of_alone (type ▸ other) (.inl rfl) apart'
        have inPorts : MatchType.inPorts ∈ rest.map filterType := by
          rcases List.mem_cons.mp inPorts with same | there
          · cases type.trans same.symm
          · exact there
        obtain ⟨g, mem, type'⟩ := List.mem_map.mp inPorts
        refine iff_of_false ?_ (not_not.mpr ⟨fun g mem type' => ?_, fine⟩)
        · rintro ⟨first, -⟩
          refine given_f type.symm (first g mem ?_ ?_)
          · exact decide_eq_true (.inr type.symm)
          · exact decide_eq_true (.inl type')
        · cases type.trans type'
      · rcases List.mem_cons.mp inPorts with type | inPorts
        · -- IN_PORTS comes first.
          obtain ⟨last, fine⟩ := ports_of_alone (type ▸ other) (.inr rfl) apart'
          obtain ⟨g, mem, type'⟩ := List.mem_map.mp inPort
          constructor
          · rintro ⟨first, -⟩ ⟨first', -⟩
            have none_ := first g mem (decide_eq_true (.inl type.symm)) (decide_eq_true (.inr type'))
            exact first' g mem type.symm none_ type'
          · intro meet
            refine ⟨fun g mem _ _ => ?_, last⟩
            by_contra ports
            exact meet ⟨fun g mem _ none_ => absurd none_ ports, fine⟩
        · have free : f.isNpuSpecific = false := by
            refine decide_eq_false ?_
            rintro (type | type)
            · exact other (type ▸ inPorts)
            · exact other (type ▸ inPort)
          have plain : f.filterType ≠ .inPorts := fun type => other (type ▸ inPorts)
          rw [and_iff_right, and_iff_right, ih apart' given inPort inPorts]
          · exact fun g mem type => absurd type plain
          · intro g mem tied
            cases free.symm.trans tied

/-- So in two lists of the same filters the one agrees just when the other does. -/
theorem portsLast_congr {l' : List NasAclFilter} (apart : (l.map filterType).Nodup)
    (given : ∀ f ∈ l, f.filterType = .inPort → f.ifindexList ≠ []) (perm : l'.Perm l) :
    (PortsLast l ↔ PortsLast l') ↔ (l.Pairwise Apart ↔ l'.Pairwise Apart) := by
  have apart' : (l'.map filterType).Nodup := (perm.map filterType).nodup_iff.mpr apart
  have given' : ∀ f ∈ l', f.filterType = .inPort → f.ifindexList ≠ [] := fun f mem =>
    given f (perm.mem_iff.mp mem)
  have alone {t : MatchType} (port : t = .inPort ∨ t = .inPorts) (absent : t ∉ l.map filterType) :
      (PortsLast l ↔ PortsLast l') ↔ (l.Pairwise Apart ↔ l'.Pairwise Apart) := by
    obtain ⟨last, fine⟩ := ports_of_alone absent port apart
    obtain ⟨last', fine'⟩ := ports_of_alone (mt (perm.map filterType).mem_iff.mp absent) port apart'
    exact iff_of_true (iff_of_true last last') (iff_of_true fine fine')
  by_cases inPort : .inPort ∈ l.map filterType
  · by_cases inPorts : .inPorts ∈ l.map filterType
    · rw [portsLast_iff_not_apart apart given inPort inPorts,
        portsLast_iff_not_apart apart' given' ((perm.map filterType).mem_iff.mpr inPort)
          ((perm.map filterType).mem_iff.mpr inPorts), not_iff_not]
    · exact alone (.inr rfl) inPorts
  · exact alone (.inl rfl) inPort

end Order

end SonicNasAcl
