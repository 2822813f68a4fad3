/-
# PortFilters -- the port filter of an entry and the NPUs it is cached with

`NasAclEntry.PortFilters`: every filter is allowed by the table, at most one of them is
tied to NPUs, and the cache `filterNpus` is exactly the NPUs of its ports, all in the
table.

That no second port filter is there is tested on the cache, which is also empty for a
list of no ports.  So the invariant is one of runs that add no IN_PORT filter next to an
IN_PORTS filter without ports (`Request.KeepsPortsApart`):

* `portsCached_addFilter`, `portsCached_removeFilter`: what the two edits keep;
* `parse_portsCached`: what a request keeps, by using up the list of its filters;
* `portFilters_hold`: the run theorem.
-/
import SonicNasAcl.Invariants
import SonicNasAcl.Ports
import SonicNasAcl.Reading

namespace SonicNasAcl

set_option autoImplicit false

open Lib

/-! ## The invariant -/

namespace NasAclEntry

open NasAclFilter (isNpuSpecificType)

structure PortFilters (p : Platform) (table : NasAclTable) (e : NasAclEntry) : Prop where
  allowed : ∀ t, (e.flist.find t).isSome → table.isFilterAllowed t
  single : ∀ t t', isNpuSpecificType t → isNpuSpecificType t' → (e.flist.find t).isSome →
    (e.flist.find t').isSome → t = t'
  cached : ∀ t f, isNpuSpecificType t → e.flist.find t = some f →
    PortsOn p f.ifindexList e.filterNpus
  uncached : (∀ t, isNpuSpecificType t → e.flist.find t = none) → e.filterNpus = ∅
  inTable : e.filterNpus ⊆ table.npuList

/-- The invariant, and that the filter of a single port has its port. -/
structure PortsCached (p : Platform) (table : NasAclTable) (e : NasAclEntry) : Prop extends
    PortFilters p table e where
  portGiven : ∀ f, e.flist.find .inPort = some f → f.ifindexList ≠ []

variable {p : Platform} {sw : NasAclSwitch} {table : NasAclTable} {e e' : NasAclEntry}
  {f : NasAclFilter}

/-- The invariant looks at the filters and their cache only. -/
theorem PortsCached.of_same (h : e.PortsCached p table) (filters : e'.flist = e.flist)
    (cache : e'.filterNpus = e.filterNpus) : e'.PortsCached p table where
  allowed := filters ▸ h.allowed
  single := filters ▸ h.single
  cached := by rw [filters, cache]; exact h.cached
  uncached := by rw [filters, cache]; exact h.uncached
  inTable := cache ▸ h.inTable
  portGiven := filters ▸ h.portGiven

theorem portsCached_empty (filters : e.flist = .empty) (cache : e.filterNpus = ∅) :
    e.PortsCached p table where
  allowed t found := by rw [filters] at found; cases found
  single t t' _ _ found := by rw [filters] at found; cases found
  cached t f _ found := by rw [filters] at found; cases found
  uncached _ := cache
  inTable := cache ▸ Finset.empty_subset _
  portGiven f found := by rw [filters] at found; cases found

end NasAclEntry

/-! ## Edits -/

/-- A filter that may stand after another one in an entry: not IN_PORT after IN_PORTS
without ports. -/
def Apart (g f : NasAclFilter) : Prop :=
  g.filterType = .inPorts → g.ifindexList = [] → f.filterType ≠ .inPort

instance : DecidableRel Apart := fun g f =>
  inferInstanceAs (Decidable (g.filterType = .inPorts → g.ifindexList = [] → f.filterType ≠ .inPort))

namespace NasAclEntry

open NasAclFilter (isNpuSpecificType)

variable {p : Platform} {sw : NasAclSwitch} {table : NasAclTable} {e e' : NasAclEntry}
  {f : NasAclFilter} {t : MatchType} {reset : Bool}

theorem isAttrDirty_markAttrDirty_of_ne {a b : AttrId} (other : a ≠ b) :
    (e.markAttrDirty b).isAttrDirty a = e.isAttrDirty a := by
  simp only [isAttrDirty, markAttrDirty, BaseObj.isAttrDirty, BaseObj.markAttrDirty,
    Finset.mem_insert, other, false_or]

theorem npuSpecificType_cases (tied : isNpuSpecificType t) : t = .inPorts ∨ t = .inPort :=
  of_decide_eq_true tied

theorem portsCached_removeFilter (h : e.PortsCached p table) (held : (e.flist.find t).isSome) :
    (e.removeFilter t).PortsCached p table := by
  have kept {t' : MatchType} {f : NasAclFilter} (found : (e.removeFilter t).flist.find t' = some f) :
      t' ≠ t ∧ e.flist.find t' = some f := by
    simp only [removeFilter, Keyed.find_erase] at found
    split at found
    · cases found
    · exact ⟨by assumption, found⟩
  have kept_some {t' : MatchType} (found : ((e.removeFilter t).flist.find t').isSome) :
      t' ≠ t ∧ (e.flist.find t').isSome := by
    obtain ⟨f, found⟩ := Option.isSome_iff_exists.mp found
    obtain ⟨other, before⟩ := kept found
    exact ⟨other, Option.isSome_of_eq_some before⟩
  cases tied : isNpuSpecificType t with
  | true =>
      have cache : (e.removeFilter t).filterNpus = ∅ := by simp only [removeFilter, tied, if_true]
      have gone {t' : MatchType} (tied' : isNpuSpecificType t') :
          ¬ ((e.removeFilter t).flist.find t').isSome := fun found => by
        obtain ⟨other, before⟩ := kept_some found
        exact other (h.single t' t tied' tied before held)
      exact {
        allowed := fun t' found => h.allowed t' (kept_some found).2
        single := fun t' _ tied' _ found => absurd found (gone tied')
        cached := fun t' f tied' found =>
          absurd (Option.isSome_of_eq_some found) (gone tied')
        uncached := fun _ => cache
        inTable := cache ▸ Finset.empty_subset _
        portGiven := fun f found => h.portGiven f (kept found).2 }
  | false =>
      have cache : (e.removeFilter t).filterNpus = e.filterNpus := by
        simp only [removeFilter, tied, Bool.false_eq_true, if_false]
      exact {
        allowed := fun t' found => h.allowed t' (kept_some found).2
        single := fun t' t'' tied' tied'' found found' =>
          h.single t' t'' tied' tied'' (kept_some found).2 (kept_some found').2
        cached := fun t' f tied' found => by
          rw [cache]
          exact h.cached t' f tied' (kept found).2
        uncached := fun none_left => by
          rw [cache]
          refine h.uncached fun t' tied' => ?_
          have before := none_left t' tied'
          simp only [removeFilter, Keyed.find_erase] at before
          split at before
          · rename_i same
            rw [same, tied] at tied'
            cases tied'
          · exact before
        inTable := cache ▸ h.inTable
        portGiven := fun f found => h.portGiven f (kept found).2 }

theorem portsCached_resetFilters (h : e.PortsCached p table) :
    (e.resetFilters reset).PortsCached p table := by
  unfold resetFilters
  split
  · exact portsCached_empty rfl rfl
  · exact h

/-- Where a filter tied to NPUs may be added, no other is. -/
theorem alone_of_cached (h : e.PortsCached p table) (tied : f.isNpuSpecific)
    (apart : ∀ g, e.flist.find .inPorts = some g → Apart g f)
    (exclusive : e.filterNpus ≠ ∅ → e.flist.find f.filterType ≠ none) (tied' : isNpuSpecificType t)
    (held : (e.flist.find t).isSome) : t = f.filterType := by
  by_contra other
  obtain ⟨g, found⟩ := Option.isSome_iff_exists.mp held
  have cache : e.filterNpus = ∅ := by
    by_contra full
    exact other (h.single t _ tied' tied held (Option.isSome_iff_ne_none.mpr (exclusive full)))
  have ports := h.cached t g tied' found
  rw [cache] at ports
  have portless := ports.eq_nil
  rcases npuSpecificType_cases tied' with rfl | rfl
  · rcases npuSpecificType_cases tied with same | same
    · exact other same.symm
    · exact apart g found (e.flist.keyed _ g found) portless same
  · exact h.portGiven g found portless

/-- A filter that is allowed and cached is added. -/
theorem portsCached_put (h : e.PortsCached p table) (permitted : table.isFilterAllowed f.filterType)
    (given : f.filterType = .inPort → f.ifindexList ≠ [])
    (apart : ∀ g, e.flist.find .inPorts = some g → Apart g f)
    (cached : e.cacheFilterNpus p table f = .ok e') :
    { e' with flist := e'.flist.put f }.PortsCached p table := by
  have allowed_put (t : MatchType) (found : ((e.flist.put f).find t).isSome) :
      table.isFilterAllowed t := by
    rw [Keyed.find_put] at found
    split at found
    · rename_i here
      exact here ▸ permitted
    · exact h.allowed t found
  have given_put (g : NasAclFilter) (found : (e.flist.put f).find .inPort = some g) :
      g.ifindexList ≠ [] := by
    rw [Keyed.find_put] at found
    split at found
    · rename_i here
      cases found
      exact given here.symm
    · exact h.portGiven g found
  obtain ⟨free, rfl⟩ | ⟨tied, exclusive, npus, read, inside, rfl⟩ :=
    cacheFilterNpus_ok.mp cached
  · have same {t : MatchType} (tied : isNpuSpecificType t) :
        (e'.flist.put f).find t = e'.flist.find t := by
      refine Keyed.find_put_of_ne ?_ _
      rintro rfl
      exact Bool.false_ne_true (free.symm.trans tied)
    exact {
      allowed := allowed_put
      single := fun t t' tied tied' found found' => by
        rw [same tied] at found
        rw [same tied'] at found'
        exact h.single t t' tied tied' found found'
      cached := fun t g tied found => h.cached t g tied (same tied ▸ found)
      uncached := fun none_left => h.uncached fun t tied => same tied ▸ none_left t tied
      inTable := h.inTable
      portGiven := given_put }
  · have only {t : MatchType} (tied' : isNpuSpecificType t)
        (found : ((e.flist.put f).find t).isSome) : t = f.filterType := by
      rw [Keyed.find_put] at found
      split at found
      · assumption
      · exact alone_of_cached h tied apart exclusive tied' found
    exact {
      allowed := allowed_put
      single := fun t t' tied tied' found found' =>
        (only tied found).trans (only tied' found').symm
      cached := fun t g tied' found => by
        have here := only tied' (Option.isSome_of_eq_some found)
        subst here
        cases (Keyed.find_put_self f e.flist).symm.trans found
        exact (NasAclFilter.getNpuList_ok tied).mp read
      uncached := fun none_left => by
        have gone := none_left f.filterType tied
        rw [Keyed.find_put_self] at gone
        cases gone
      inTable := inside
      portGiven := given_put }

theorem portsCached_addFilter (h : e.PortsCached p table)
    (given : f.filterType = .inPort → f.ifindexList ≠ [])
    (apart : ∀ g, (e.resetFilters reset).flist.find .inPorts = some g → Apart g f)
    (added : e.addFilter p table f reset = .ok e') : e'.PortsCached p table := by
  obtain ⟨permitted, cached, step, rfl⟩ := addFilter_ok.mp added
  exact (portsCached_put (portsCached_resetFilters h) (decide_eq_true permitted) given apart
    step).of_same rfl rfl

end NasAclEntry

/-! ## Requests -/

/-- The filter an element of a match list describes. -/
def listedFilter (p : Platform) (obj : List CpsAttr) (elem : CpsAttr) : Option NasAclFilter :=
  (do
    let matchTypeVal ← elementType .entryMatchType "MATCH" elem
    readFilter p obj matchTypeVal [.entryMatch, elem.id]).toOption

/-- The filters that one attribute of a request lists. -/
def attrFilters (p : Platform) (obj : List CpsAttr) (attr : CpsAttr) : List NasAclFilter :=
  if attr.id = .entryMatch then attr.inside.flatMap fun elem => (listedFilter p obj elem).toList
  else []

/-- The filters a request lists, in order. -/
def requestFilters (p : Platform) (obj : List CpsAttr) : List NasAclFilter :=
  obj.flatMap (attrFilters p obj)

/-- The invariant of an entry that is still to be given filters: those that are left go with
each other and with the ones it has been given. -/
def NasAclEntry.Awaits (p : Platform) (table : NasAclTable) (rest : List NasAclFilter)
    (e : NasAclEntry) : Prop :=
  e.PortsCached p table ∧ rest.Pairwise Apart ∧
    (e.isAttrDirty .entryMatch → ∀ g, e.flist.find .inPorts = some g → ∀ f ∈ rest, Apart g f)

section Requests

variable {p : Platform} {sw : NasAclSwitch} {table : NasAclTable} {e e' : NasAclEntry}
  {obj : List CpsAttr} {rest : List NasAclFilter}

open NasAclEntry

theorem NasAclEntry.Awaits.addFilter {f : NasAclFilter} (h : e.Awaits p table (f :: rest))
    (given : f.filterType = .inPort → f.ifindexList ≠ [])
    (added : e.addFilter p table f true = .ok e') : e'.Awaits p table rest := by
  obtain ⟨inv, pairs, before⟩ := h
  obtain ⟨first, pairs⟩ := List.pairwise_cons.mp pairs
  have held {g : NasAclFilter} (found : (e.resetFilters true).flist.find .inPorts = some g) :
      e.isAttrDirty .entryMatch ∧ e.flist.find .inPorts = some g := by
    unfold resetFilters at found
    cases dirty : e.isAttrDirty .entryMatch with
    | true =>
        rw [dirty] at found
        exact ⟨rfl, found⟩
    | false =>
        rw [dirty] at found
        cases found
  refine ⟨portsCached_addFilter inv given (fun g found => ?_) added, pairs, fun _ g found => ?_⟩
  · obtain ⟨dirty, found⟩ := held found
    exact before dirty g found f (List.mem_cons_self ..)
  · obtain ⟨-, cached, step, rfl⟩ := addFilter_ok.mp added
    have kept : cached.flist = (e.resetFilters true).flist := by
      obtain ⟨-, rfl⟩ | ⟨-, -, npus, -, -, rfl⟩ := cacheFilterNpus_ok.mp step <;> rfl
    simp only [Keyed.find_put, kept] at found
    split at found
    · cases found
      exact first
    · obtain ⟨dirty, found⟩ := held found
      exact fun f' mem => before dirty g found f' (List.mem_cons_of_mem _ mem)

/-- Steps that leave filters and their mark alone. -/
theorem NasAclEntry.Awaits.of_same (h : e.Awaits p table rest) (filters : e'.flist = e.flist)
    (cache : e'.filterNpus = e.filterNpus)
    (mark : e'.isAttrDirty .entryMatch = e.isAttrDirty .entryMatch) : e'.Awaits p table rest := by
  refine ⟨h.1.of_same filters cache, h.2.1, ?_⟩
  rw [filters, mark]
  exact h.2.2

/-- What a request keeps while it is read: `J rest e` when the filters `rest` are still to be
added to `e`. -/
structure KeptByFilters (p : Platform) (table : NasAclTable)
    (J : List NasAclFilter → NasAclEntry → Prop) : Prop where
  added : ∀ {f rest e e'}, J (f :: rest) e → (f.filterType = .inPort → f.ifindexList ≠ []) →
    e.addFilter p table f true = .ok e' → J rest e'
  others : ∀ {rest e e'}, J rest e → e'.flist = e.flist → e'.filterNpus = e.filterNpus →
    e'.isAttrDirty .entryMatch = e.isAttrDirty .entryMatch → J rest e'

section Kept

variable {J : List NasAclFilter → NasAclEntry → Prop}

theorem setMatchList_keeps (kept : KeptByFilters p table J) {attr : CpsAttr}
    (isMatch : attr.id = .entryMatch) (h : J (attrFilters p obj attr ++ rest) e)
    (set : setMatchList p table obj attr e = .ok e') : J rest e' := by
  rw [attrFilters, if_pos isMatch] at h
  refine except_foldlM_consume (fun elem rest e e' pre turn => ?_) h set
  obtain ⟨v, named, set⟩ := except_bind_ok.mp turn
  obtain ⟨f, read, added⟩ := setMatchAttr_ok.mp set
  have listed : listedFilter p obj elem = some f := by
    rw [listedFilter, named, except_ok_bind, read]
    rfl
  rw [listed] at pre
  exact kept.added pre (readFilter_inPort read) added

theorem parseEntryAttr_keeps (kept : KeptByFilters p table J) {st st' : NasAclEntry × Bool}
    {attr : CpsAttr} (h : J (attrFilters p obj attr ++ rest) st.1)
    (parsed : parseEntryAttr p sw table obj st attr = .ok st') : J rest st'.1 := by
  have others (other : attr.id ≠ .entryMatch) : J rest st.1 := by
    rwa [attrFilters, if_neg other, List.nil_append] at h
  unfold parseEntryAttr at parsed
  split at parsed
  · rename_i named
    split at parsed
    · cases parsed
    · cases parsed
      refine kept.others (others ?_) rfl rfl ?_
      · rw [named]
        exact AttrId.noConfusion
      · exact isAttrDirty_markAttrDirty_of_ne (fun same => AttrId.noConfusion same)
  · rename_i named
    obtain ⟨e, set, parsed⟩ := except_bind_ok.mp parsed
    cases parsed
    exact setMatchList_keeps kept named h set
  · rename_i named
    obtain ⟨e, set, parsed⟩ := except_bind_ok.mp parsed
    cases parsed
    refine forEachElement_invariant (fun v path e e' pre turn => ?_) (others ?_) set
    · obtain ⟨a, -, added⟩ := setActionAttr_ok.mp turn
      obtain ⟨rfl, -⟩ := addAction_ok.mp added
      rw [putAction_frame]
      exact kept.others pre rfl rfl
        (isAttrDirty_markAttrDirty_of_ne (fun same => AttrId.noConfusion same))
    · rw [named]
      exact AttrId.noConfusion
  · rename_i named
    cases parsed
    refine kept.others (others ?_) rfl rfl rfl
    rw [named]
    exact AttrId.noConfusion
  · rename_i other _ _
    cases parsed
    exact others other

theorem parse_keeps (kept : KeptByFilters p table J) (h : J (requestFilters p obj) e)
    {st : NasAclEntry × Bool} (parsed : cpsParseEntryObj p sw table obj e = .ok st) :
    J [] st.1 := by
  rw [← List.append_nil (requestFilters p obj)] at h
  exact except_foldlM_consume (J := fun rest st => J rest st.1)
    (fun _ _ _ _ pre turn => parseEntryAttr_keeps kept pre turn) h parsed

end Kept

theorem awaits_kept : KeptByFilters p table fun rest e => e.Awaits p table rest where
  added h given added := h.addFilter given added
  others h filters cache mark := h.of_same filters cache mark

/-- A request whose filters go with each other keeps the invariant of the entry. -/
theorem parse_portsCached (h : e.PortsCached p table) (clean : e.isAttrDirty .entryMatch = false)
    (apart : (requestFilters p obj).Pairwise Apart) {st : NasAclEntry × Bool}
    (parsed : cpsParseEntryObj p sw table obj e = .ok st) : st.1.PortsCached p table := by
  refine (parse_keeps awaits_kept ⟨h, apart, fun dirty => ?_⟩ parsed).1
  rw [clean] at dirty
  cases dirty

end Requests

/-! ## Runs -/

/-- The request adds no IN_PORT filter next to an IN_PORTS filter without ports, neither in
one list nor to a stored entry. -/
structure Request.KeepsPortsApart (r : Request) (sw : NasAclSwitch) : Prop where
  listed : keyIncrType r.obj = none → (requestFilters r.platform r.obj.attrs).Pairwise Apart
  element : ∀ {table : NasAclTable} {eid : NasObjId} {v : UInt32} {old : NasAclEntry}
    {g : NasAclFilter}, r.op = .create →
    cpsOpKeyExtract sw r.obj = .ok ⟨table, some eid, some (.matchType v)⟩ →
    r.platform.matchTypes.decode v = some .inPort → sw.getEntry table.tableId eid = .ok old →
    old.flist.find .inPorts = some g → g.ifindexList ≠ []

/-- What is known of a stored entry: nothing is dirty, and its port filter is cached. -/
def NasAclEntry.PortsStored (p : Platform) (table : NasAclTable) (e : NasAclEntry) : Prop :=
  e.isAttrDirty .entryMatch = false ∧ e.PortsCached p table

section Runs

open NasAclEntry

variable {p : Platform} {r : Request} {sw : NasAclSwitch} {table : NasAclTable}
  {old e : NasAclEntry}

theorem NasAclEntry.PortsCached.congr {q : Platform} (same : p.ifInfo = q.ifInfo)
    (h : e.PortsCached p table) : e.PortsCached q table :=
  { h with cached := fun t f tied found => (h.cached t f tied found).congr same }

/-- NDI ids play no part. -/
theorem NasAclEntry.PortsCached.of_noIds (h : e.noIds.PortsCached p table.noIds) :
    e.PortsCached p table :=
  { h with }

/-- An entry as it is stored after a commit: nothing is dirty. -/
theorem NasAclEntry.PortsCached.committed (h : e.PortsCached p table) :
    (e.committed ∅).PortsStored p table.noIds :=
  ⟨rfl, { h with }⟩

/-- An incremental update of a match field. -/
theorem incrFilter_portsCached {obj : List CpsAttr} {op : CpsOper} {v : UInt32}
    (h : old.PortsCached p table)
    (apart : op = .create → p.matchTypes.decode v = some .inPort →
      ∀ g, old.flist.find .inPorts = some g → g.ifindexList ≠ [])
    (made : incrFilter p table obj op v old = .ok e) : e.PortsCached p table := by
  have set (goes : p.matchTypes.decode v = some .inPort → ∀ g,
      old.flist.find .inPorts = some g → g.ifindexList ≠ [])
      (turn : setMatchAttr p table obj v [] false old = .ok e) : e.PortsCached p table := by
    obtain ⟨f, read, added⟩ := setMatchAttr_ok.mp turn
    refine portsCached_addFilter h (readFilter_inPort read) (fun g found _ portless inPort => ?_)
      added
    exact goes (inPort ▸ readFilter_type read) g found portless
  unfold incrFilter at made
  split at made
  · rename_i create
    exact set (apart create) made
  · split at made
    · cases made
    · rename_i ftype named
      obtain ⟨f, held, made⟩ := except_bind_ok.mp made
      have there : (old.flist.find ftype).isSome := by
        unfold getFilter at held
        split at held
        · rename_i found
          exact Option.isSome_of_eq_some found
        · cases held
      split at made
      · cases made
        exact portsCached_removeFilter h there
      · -- The field is there already, so IN_PORTS cannot be.
        refine set (fun inPort g found => ?_) made
        cases named.symm.trans inPort
        have same := h.single .inPorts .inPort rfl rfl (Option.isSome_of_eq_some found) there
        cases same

theorem asks_portsCached {new : NasAclEntry} (asks : r.Asks sw table old new)
    (apart : r.KeepsPortsApart sw) (h : old.PortsStored r.platform table) :
    new.PortsCached r.platform table := by
  cases asks with
  | whole key set stored parsed =>
      obtain ⟨-, -, -, -, whole⟩ := cpsOpKeyExtract_ok.mp key
      exact parse_portsCached h.2 h.1 (apart.listed whole) parsed
  | @element eid upd old new key stored made =>
      cases upd with
      | matchType v =>
          exact incrFilter_portsCached h.2
            (fun create inPort g found => apart.element create key inPort stored found) made
      | actionType v =>
          obtain ⟨filters, cache⟩ := incrAction_frame made
          exact h.2.of_same filters cache

theorem keeps_portsCached (same : r.platform.ifInfo = p.ifInfo) (apart : r.KeepsPortsApart sw) :
    KeepsEntries (fun table e => e.PortsStored p table) r sw where
  created {table eid new e id} key parsed placed := by
    obtain ⟨-, -, -, -, whole⟩ := cpsOpKeyExtract_ok.mp key
    have made := parse_portsCached (portsCached_empty rfl rfl) (decide_eq_false (Finset.notMem_empty _))
      (apart.listed whole) parsed
    obtain ⟨-, -, filters, -, cache, -⟩ := npusForCreate_frame placed
    exact ((made.of_same filters cache).congr same).committed
  changed {table old new e} asks checked h := by
    have made := asks_portsCached asks apart ⟨h.1, h.2.of_noIds.congr same.symm⟩
    obtain ⟨-, -, filters, -, cache, -⟩ :=
      npusForModify_frame (NasAclEntry.checkModify_ok.mp checked).1
    exact ((made.of_same filters cache).congr same).committed

/-- Along a run that keeps the two port filters apart, every stored entry has its port
filter cached. -/
theorem portFilters_hold
    (reached : Reached (fun sw r => r.platform.ifInfo = p.ifInfo ∧ r.KeepsPortsApart sw) sw) :
    ∀ t k e, sw.findEntry t k = some e →
      ∃ table, sw.findTable t = some table ∧ e.PortFilters p table := by
  have all := reached_entries (P := fun table e => e.PortsStored p table)
    (fun sw r _ here => keeps_portsCached here.1 here.2) reached
  intro t k e found
  have stored := sw.store_entry t k
  rw [found] at stored
  obtain ⟨table, known, -, h⟩ := all t k _ stored
  rw [NasAclSwitch.store_tables, Option.map_eq_some_iff] at known
  obtain ⟨table', there, rfl⟩ := known
  exact ⟨table', there, h.of_noIds.toPortFilters⟩

end Runs

/-! ### On the bench -/

/-- Table 1 for the two port filters, and entry 7 with some filters. -/
def portFilterRun (filters : List (List CpsAttr)) : List Request :=
  [Bench.createTable [.inPorts, .inPort],
    Bench.entryRequest .create
      [Bench.u32 .entryPriority 0, Bench.listAttr .entryMatch filters,
        Bench.listAttr .entryAction [Bench.actionElem .decrementTtl []]]]

def inPort3 : List CpsAttr := Bench.matchElem .inPort [Bench.u32 (.matchValue .inPort) 3]

theorem portFilterRun_platform {filters : List (List CpsAttr)} {r : Request}
    (mem : r ∈ portFilterRun filters) : r.platform = Bench.platform ∧ keyIncrType r.obj = none := by
  rcases List.mem_pair.mp mem with rfl | rfl
  · exact ⟨rfl, rfl⟩
  · exact ⟨rfl, rfl⟩

theorem portFilters_of_inPort :
    let sw := Bench.after (portFilterRun [inPort3])
    (∀ t k e, sw.findEntry t k = some e →
      ∃ table, sw.findTable t = some table ∧ e.PortFilters Bench.platform table) ∧
    (sw.findEntry 1 7).map (·.filterNpus) = some {0} := by
  have apart : ∀ r ∈ portFilterRun [inPort3],
      (requestFilters Bench.platform r.obj.attrs).Pairwise Apart := by decide +kernel
  refine ⟨portFilters_hold (Reachable.after fun r mem sw => ?_), by decide +kernel⟩
  obtain ⟨bench, whole⟩ := portFilterRun_platform mem
  refine ⟨congrArg Platform.ifInfo bench, fun _ => bench ▸ apart r mem, fun _ key => ?_⟩
  obtain ⟨-, -, -, -, element⟩ := cpsOpKeyExtract_ok.mp key
  cases whole.symm.trans element

/-- IN_PORTS without ports, and IN_PORT after it, are both accepted. -/
theorem portFilters_not_always :
    ¬ ∀ (p : Platform) (sw : NasAclSwitch),
      Reached (fun _ r => r.platform.ifInfo = p.ifInfo) sw → ∀ t k e, sw.findEntry t k = some e →
        ∃ table, sw.findTable t = some table ∧ e.PortFilters p table := by
  intro claim
  let sw := Bench.after (portFilterRun [Bench.matchElem .inPorts [], inPort3])
  have reached : Reached (fun _ r => r.platform.ifInfo = Bench.platform.ifInfo) sw :=
    Reachable.after fun r mem _ => congrArg Platform.ifInfo (portFilterRun_platform mem).1
  have both : (sw.findEntry 1 7).any fun e =>
      (e.flist.find .inPorts).isSome ∧ (e.flist.find .inPort).isSome := by decide +kernel
  obtain ⟨e, found, held⟩ := (Option.any_eq_true _ _).mp both
  obtain ⟨inPorts, inPort⟩ := of_decide_eq_true held
  obtain ⟨table, -, h⟩ := claim Bench.platform sw reached 1 7 e found
  cases h.single .inPorts .inPort rfl rfl inPorts inPort

end SonicNasAcl
