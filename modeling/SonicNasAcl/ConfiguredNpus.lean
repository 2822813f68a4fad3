/-
# ConfiguredNpus -- when an entry stays on the NPUs a client listed

A client that lists NPUs for an entry may also give it a filter of ports, which
narrows the entry to the NPUs of those ports.  Both commits check that the ports' NPUs
are among the listed ones, but `commit_create` asks the overridden `npu_list`, which
answers with the ports' NPUs themselves: its check lets everything through.

* `respected_modify`: the check of a changed entry does what it is for;
* `respected_create_iff`: a new entry respects the list only when the request does;
* `npus_respected_iff`: so for every request, in every reachable switch;
* `stored_npus_respected`: the stored entries of runs whose requests list the NPUs of
  their ports.
-/
import SonicNasAcl.PortFilters

namespace SonicNasAcl

set_option autoImplicit false

open Lib

/-! ## The NPUs of the ports -/

namespace NasAclEntry

open NasAclFilter (isNpuSpecificType)

/-- Every port of the entry's filters is on one of the NPUs. -/
def PortsWithin (p : Platform) (npus : NpuSet) (e : NasAclEntry) : Prop :=
  ∀ t f, isNpuSpecificType t → e.flist.find t = some f → PortsIn p f.ifindexList npus

/-- The filter that ties an entry to NPUs. -/
def portFilter (e : NasAclEntry) : Option NasAclFilter :=
  (e.flist.find .inPorts).or (e.flist.find .inPort)

variable {p : Platform} {table : NasAclTable} {e : NasAclEntry} {f : NasAclFilter} {npus : NpuSet}

/-- Where the cache is right, it decides. -/
theorem PortFilters.within_iff (h : e.PortFilters p table) :
    e.PortsWithin p npus ↔ e.filterNpus ⊆ npus := by
  constructor
  · intro within
    by_cases bare : ∀ t, isNpuSpecificType t → e.flist.find t = none
    · rw [h.uncached bare]
      exact Finset.empty_subset _
    · push Not at bare
      obtain ⟨t, tied, held⟩ := bare
      obtain ⟨f, found⟩ := Option.ne_none_iff_exists'.mp held
      exact (h.cached t f tied found).subset_iff.mpr (within t f tied found)
  · intro inside t f tied found
    exact (h.cached t f tied found).subset_iff.mp inside

theorem npuList_subset (inside : e.filterNpus ⊆ e.base.npus) : e.npuList ⊆ e.base.npus := by
  unfold npuList
  split
  · exact inside
  · exact Finset.Subset.refl _

theorem PortFilters.portFilter_iff (h : e.PortFilters p table) :
    e.portFilter = some f ↔ isNpuSpecificType f.filterType ∧ e.flist.find f.filterType = some f := by
  have keyed {t : MatchType} {g : NasAclFilter} (found : e.flist.find t = some g) :
      g.filterType = t := e.flist.keyed t g found
  constructor
  · intro held
    obtain found | ⟨-, found⟩ := Option.or_eq_some_iff.mp held
    · rw [keyed found]
      exact ⟨rfl, found⟩
    · rw [keyed found]
      exact ⟨rfl, found⟩
  · rintro ⟨tied, found⟩
    unfold portFilter
    rcases npuSpecificType_cases tied with here | here
    · rw [here] at found
      rw [found, Option.some_or]
    · rw [here] at found
      have only : e.flist.find .inPorts = none := by
        by_contra other
        have same := h.single .inPorts .inPort rfl rfl (Option.isSome_iff_ne_none.mpr other)
          (Option.isSome_of_eq_some found)
        cases same
      rw [only, Option.none_or, found]

/-- The same, of the one filter. -/
theorem PortFilters.within_iff_portFilter (h : e.PortFilters p table) :
    e.PortsWithin p npus ↔
      ∀ f, e.portFilter = some f → PortsIn p f.ifindexList npus := by
  constructor
  · intro within f held
    obtain ⟨tied, found⟩ := h.portFilter_iff.mp held
    exact within _ f tied found
  · intro within t f tied found
    obtain rfl : f.filterType = t := e.flist.keyed t f found
    exact within f (h.portFilter_iff.mpr ⟨tied, found⟩)

end NasAclEntry

/-! ## The two checks -/

/-- What a client who lists NPUs relies on, of an entry and what its commit's check makes of
it: the entry stays on the listed NPUs, or is refused. -/
structure NpusRespected (p : Platform) (new : NasAclEntry) (checked : Except Exn NasAclEntry) :
    Prop where
  installed : ∀ e, checked = .ok e → e.followingTableNpus = false →
    e.PortsWithin p e.base.npus ∧ e.npuList ⊆ e.base.npus
  refused : new.followingTableNpus = false → ¬ new.PortsWithin p new.base.npus →
    ∃ text, checked = .error (.base .inconsistent text)

/-- An entry with a list of its own has NPUs in it. -/
def NasAclEntry.Listed (e : NasAclEntry) : Prop := e.followingTableNpus = false → e.base.npus ≠ ∅

section Checks

open NasAclEntry

variable {p : Platform} {sw : NasAclSwitch} {table : NasAclTable} {new e : NasAclEntry}

/-- A changed entry with a list of its own is left as it is, if it passes. -/
theorem npusForModify_listed (listed : new.Listed) (placed : new.npusForModify p table = .ok e) :
    e = new ∧ (new.followingTableNpus = false → new.filterNpus ⊆ new.base.npus) := by
  obtain ⟨rfl, inside⟩ := npusForModify_ok.mp placed
  refine ⟨if_neg ?_, fun own => inside own (listed own)⟩
  rintro ⟨own, nothing⟩
  exact listed own nothing

theorem respected_modify (ports : new.PortFilters p table) (listed : new.Listed) :
    NpusRespected p new (new.checkModify p sw table) where
  installed e checked own := by
    obtain ⟨placed, -⟩ := checkModify_ok.mp checked
    obtain ⟨rfl, inside⟩ := npusForModify_listed listed placed
    exact ⟨ports.within_iff.mpr (inside own), npuList_subset (inside own)⟩
  refused own outside := by
    have missing : firstMissing p new.filterNpus new.base.npus ≠ none := by
      rw [ne_eq, firstMissing_eq_none, ← ports.within_iff]
      exact outside
    obtain ⟨npuId, missing⟩ := Option.ne_none_iff_exists'.mp missing
    have stopped : new.checkModify p sw table = .error (new.missingNpu npuId) := by
      simp only [checkModify, npusForModify, own, Bool.false_eq_true, if_false, listed own, missing,
        except_error_bind]
    exact ⟨_, stopped⟩

/-- A new entry is checked against itself. -/
theorem filterNpus_subset_npuList (e : NasAclEntry) : e.filterNpus ⊆ e.npuList := by
  unfold npuList
  split
  · exact Finset.Subset.refl _
  · rename_i bare
    rw [not_not.mp bare]
    exact Finset.empty_subset _

/-- A list of its own is never checked on a new entry: only its counter is. -/
theorem checkCreate_own (own : new.followingTableNpus = false) :
    new.checkCreate p sw table = (new.checkCounter p sw).map fun _ => new := by
  have placed : new.npusForCreate p table = .ok new := by
    refine npusForCreate_ok.mpr ⟨?_, fun _ => filterNpus_subset_npuList new⟩
    rw [own]
    rfl
  rw [checkCreate, placed, except_ok_bind]
  cases new.checkCounter p sw <;> rfl

theorem respected_create_iff (ports : new.PortFilters p table) :
    NpusRespected p new (new.checkCreate p sw table) ↔
      new.followingTableNpus = true ∨ new.PortsWithin p new.base.npus ∨
        ∃ text, new.checkCounter p sw = .error (.base .inconsistent text) := by
  cases own : new.followingTableNpus with
  | true =>
      refine iff_of_true ⟨fun e checked own' => ?_, fun own' => ?_⟩ (.inl rfl)
      · obtain ⟨placed, -⟩ := checkCreate_ok.mp checked
        obtain ⟨rfl, -⟩ := npusForCreate_ok.mp placed
        rw [own] at own'
        cases own'
      · cases own.symm.trans own'
  | false =>
      rw [checkCreate_own own]
      simp only [Bool.false_eq_true, false_or]
      constructor
      · intro respected
        by_cases within : new.PortsWithin p new.base.npus
        · exact .inl within
        · obtain ⟨text, failed⟩ := respected.refused own within
          cases counted : new.checkCounter p sw with
          | ok u =>
              rw [counted] at failed
              cases failed
          | error err =>
              rw [counted] at failed
              cases failed
              exact .inr ⟨text, rfl⟩
      · rintro (within | ⟨text, failed⟩)
        · refine ⟨fun e checked _ => ?_, fun _ outside => absurd within outside⟩
          cases counted : new.checkCounter p sw with
          | error err =>
              rw [counted] at checked
              cases checked
          | ok u =>
              rw [counted] at checked
              cases checked
              exact ⟨within, npuList_subset (ports.within_iff.mp within)⟩
        · rw [failed]
          refine ⟨fun e checked => ?_, fun _ _ => ⟨text, rfl⟩⟩
          cases checked

end Checks

/-! ## What a request lists -/

def attrNpus (attr : CpsAttr) : List NpuId :=
  if attr.id = .entryNpuIdList then [attr.dataU32] else []

/-- The NPUs a request lists, in order. -/
def listedNpus (obj : List CpsAttr) : List NpuId := obj.flatMap attrNpus

/-- The filter of ports a request leaves in an entry: of those it lists, the last. -/
def requestPortFilter (p : Platform) (obj : List CpsAttr) : Option NasAclFilter :=
  ((requestFilters p obj).filter (·.isNpuSpecific)).getLast?

/-- The request lists no NPUs, or those of its ports among them. -/
def ListsPortNpus (p : Platform) (obj : List CpsAttr) : Prop :=
  listedNpus obj = [] ∨ ∀ f, requestPortFilter p obj = some f →
    PortsIn p f.ifindexList (listedNpus obj).toFinset

instance (p : Platform) (obj : List CpsAttr) : Decidable (ListsPortNpus p obj) :=
  inferInstanceAs (Decidable (listedNpus obj = [] ∨ ∀ f ∈ requestPortFilter p obj,
    PortsIn p f.ifindexList (listedNpus obj).toFinset))

/-- The old entry, after it has been given some NPUs. -/
structure NasAclEntry.Given (old : NasAclEntry) (given : List NpuId) (e : NasAclEntry) : Prop where
  following : e.followingTableNpus = (given.isEmpty && old.followingTableNpus)
  dirty : e.base.npusDirty = !given.isEmpty
  npus : e.base.npus = if given = [] then old.base.npus else given.toFinset

section Parsing

open NasAclEntry

variable {p : Platform} {sw : NasAclSwitch} {table : NasAclTable} {old e e' : NasAclEntry}
  {obj : List CpsAttr} {given : List NpuId} {st : NasAclEntry × Bool}

theorem NasAclEntry.Given.addNpu (h : old.Given given e) (npuId : NpuId) :
    old.Given (given ++ [npuId]) (e.addNpu npuId) := by
  have full : (given ++ [npuId]).isEmpty = false := by simp
  refine ⟨by rw [full]; rfl, by rw [full]; rfl, ?_⟩
  rw [if_neg (List.append_ne_nil_of_right_ne_nil _ (List.cons_ne_nil _ _))]
  cases given with
  | nil =>
      simp only [NasAclEntry.addNpu, BaseObj.addNpu, h.dirty]
      rfl
  | cons first others =>
      simp only [NasAclEntry.addNpu, BaseObj.addNpu, h.dirty, h.npus, if_neg (List.cons_ne_nil _ _),
        List.isEmpty_cons, Bool.not_false, Bool.not_true, Bool.and_false, Bool.false_eq_true, if_false,
        List.toFinset_append]
      rw [Finset.union_comm]
      rfl

/-- Marks other than that of the NPU list play no part. -/
theorem NasAclEntry.Given.of_marked {a : AttrId} (h : old.Given given e)
    (following : e'.followingTableNpus = e.followingTableNpus)
    (base : e'.base = e.base.markAttrDirty a) : old.Given given e' :=
  ⟨following.trans h.following, by rw [base]; exact h.dirty, by rw [base]; exact h.npus⟩

theorem parseEntryAttr_given {st st' : NasAclEntry × Bool} {attr : CpsAttr}
    (h : old.Given given st.1) (parsed : parseEntryAttr p sw table obj st attr = .ok st') :
    old.Given (given ++ attrNpus attr) st'.1 := by
  have others (other : attr.id ≠ .entryNpuIdList) (same : old.Given given st'.1) :
      old.Given (given ++ attrNpus attr) st'.1 := by
    rwa [attrNpus, if_neg other, List.append_nil]
  unfold parseEntryAttr at parsed
  split at parsed
  · rename_i named
    split at parsed
    · cases parsed
    · cases parsed
      exact others (named ▸ AttrId.noConfusion) (h.of_marked rfl rfl)
  · rename_i named
    obtain ⟨e, set, parsed⟩ := except_bind_ok.mp parsed
    cases parsed
    refine others (named ▸ AttrId.noConfusion) ?_
    refine forEachElement_invariant (fun v path e e' pre turn => ?_) h set
    obtain ⟨f, -, added⟩ := setMatchAttr_ok.mp turn
    obtain ⟨-, -, -, -, following, base⟩ := addFilter_frame added
    exact pre.of_marked following base
  · rename_i named
    obtain ⟨e, set, parsed⟩ := except_bind_ok.mp parsed
    cases parsed
    refine others (named ▸ AttrId.noConfusion) ?_
    refine forEachElement_invariant (fun v path e e' pre turn => ?_) h set
    obtain ⟨a, -, added⟩ := setActionAttr_ok.mp turn
    obtain ⟨rfl, -⟩ := addAction_ok.mp added
    rw [putAction_frame]
    exact pre.of_marked rfl rfl
  · rename_i named
    cases parsed
    rw [attrNpus, if_pos named]
    exact h.addNpu _
  · rename_i other
    cases parsed
    exact others other h

/-- An entry has the NPUs its request lists, if there are any. -/
theorem parse_given (clean : old.base.npusDirty = false)
    (parsed : cpsParseEntryObj p sw table obj old = .ok st) : old.Given (listedNpus obj) st.1 := by
  have first : ∃ given, listedNpus obj = given ++ listedNpus obj ∧ old.Given given old :=
    ⟨[], rfl, rfl, clean, rfl⟩
  rw [← List.append_nil (listedNpus obj)] at first
  obtain ⟨given, whole, h⟩ := except_foldlM_consume
    (J := fun rest st => ∃ given, listedNpus obj ++ [] = given ++ rest ∧ old.Given given st.1)
    (fun attr rest st st' pre turn => by
      obtain ⟨given, whole, h⟩ := pre
      exact ⟨given ++ attrNpus attr, by rw [whole, List.append_assoc], parseEntryAttr_given h turn⟩)
    first parsed
  rw [List.append_nil, List.append_nil] at whole
  rw [whole]
  exact h

/-- While a new entry is read: its port filter is the last one, of those it has and those that
are left. -/
def NasAclEntry.AwaitsPorts (p : Platform) (table : NasAclTable) (last : Option NasAclFilter)
    (rest : List NasAclFilter) (e : NasAclEntry) : Prop :=
  e.Awaits p table rest ∧ (e.isAttrDirty .entryMatch ∨ e.flist = .empty) ∧
    last = (rest.filter (·.isNpuSpecific)).getLast?.or e.portFilter

theorem getLast?_cons_or {α : Type} (a : α) (l : List α) (x : Option α) :
    (a :: l).getLast?.or x = l.getLast?.or (some a) := by
  cases l with
  | nil => rfl
  | cons b rest => rw [List.getLast?_cons_cons, List.getLast?_cons, Option.some_or, Option.some_or]

theorem awaitsPorts_kept {last : Option NasAclFilter} :
    KeptByFilters p table fun rest e => e.AwaitsPorts p table last rest where
  added {f rest e e'} h given added := by
    obtain ⟨awaits, fresh, held⟩ := h
    have after := awaits.addFilter given added
    obtain ⟨-, -, -, -, -, base⟩ := addFilter_frame added
    have dirty : e'.isAttrDirty .entryMatch := by
      simp only [isAttrDirty, base, BaseObj.isAttrDirty, BaseObj.markAttrDirty,
        Finset.mem_insert_self, decide_true]
    refine ⟨after, .inl dirty, held.trans ?_⟩
    obtain ⟨-, cached, step, rfl⟩ := addFilter_ok.mp added
    cases tied : f.isNpuSpecific with
    | true =>
        have ports := after.1.portFilter_iff.mpr ⟨tied, Keyed.find_put_self f cached.flist⟩
        rw [ports, List.filter_cons_of_pos tied, getLast?_cons_or]
    | false =>
        have kept : cached.flist = e.flist := by
          obtain ⟨-, rfl⟩ | ⟨tied', -⟩ := cacheFilterNpus_ok.mp step
          · unfold resetFilters
            split
            · rename_i reset
              rcases fresh with marked | none_yet
              · rw [marked] at reset
                cases reset
              · exact none_yet.symm
            · rfl
          · cases tied.symm.trans tied'
        have others {t : MatchType} (tied' : NasAclFilter.isNpuSpecificType t) :
            (cached.flist.put f).find t = e.flist.find t := by
          rw [kept]
          refine Keyed.find_put_of_ne ?_ _
          rintro rfl
          exact Bool.false_ne_true (tied.symm.trans tied')
        rw [List.filter_cons_of_neg (by rw [tied]; exact Bool.false_ne_true), portFilter, portFilter,
          others rfl, others rfl]
  others h filters cache mark := by
    obtain ⟨awaits, fresh, held⟩ := h
    refine ⟨awaits.of_same filters cache mark, ?_, held.trans ?_⟩
    · rw [mark, filters]
      exact fresh
    · rw [portFilter, portFilter, filters]

/-- A new entry has the port filter of its request. -/
theorem parse_portFilter (apart : (requestFilters p obj).Pairwise Apart)
    (parsed : cpsParseEntryObj p sw table obj (.new p table.tableId) = .ok st) :
    st.1.portFilter = requestPortFilter p obj := by
  have first : (NasAclEntry.new p table.tableId).AwaitsPorts p table (requestPortFilter p obj)
      (requestFilters p obj) := by
    refine ⟨⟨portsCached_empty rfl rfl, apart, fun _ g found => ?_⟩, .inr rfl, ?_⟩
    · cases found
    · exact (Option.or_none).symm
  exact (parse_keeps awaitsPorts_kept first parsed).2.2.symm

/-- A new entry stays on the NPUs its request lists when they have all its ports. -/
theorem parse_within_iff (apart : (requestFilters p obj).Pairwise Apart)
    (parsed : cpsParseEntryObj p sw table obj (.new p table.tableId) = .ok st)
    (ports : st.1.PortFilters p table) :
    (st.1.followingTableNpus = true ∨ st.1.PortsWithin p st.1.base.npus) ↔ ListsPortNpus p obj := by
  have given := parse_given rfl parsed
  have follows : ((listedNpus obj).isEmpty && (NasAclEntry.new p table.tableId).followingTableNpus)
      = (listedNpus obj).isEmpty := Bool.and_true _
  rw [ports.within_iff_portFilter, parse_portFilter apart parsed, given.following, follows,
    List.isEmpty_iff]
  by_cases none_listed : listedNpus obj = []
  · exact iff_of_true (.inl none_listed) (.inl none_listed)
  · rw [given.npus, if_neg none_listed]
    exact Iff.rfl

end Parsing

/-! ## Every request -/

/-- What a request hands to a commit, and what the commit's check makes of it. -/
inductive Request.Commits (r : Request) (sw : NasAclSwitch) (table : NasAclTable) :
    NasAclEntry → Except Exn NasAclEntry → Prop
  | create {eid : Option NasObjId} {new : NasAclEntry × Bool} {id : NasObjId}
      (key : cpsOpKeyExtract sw r.obj = .ok ⟨table, eid, none⟩) (op : r.op = .create)
      (parsed : cpsParseEntryObj r.platform sw table r.obj.attrs (.new r.platform table.tableId)
        = .ok new) :
      r.Commits sw table { new.1 with entryId := id }
        ({ new.1 with entryId := id }.checkCreate r.platform sw table)
  | modify {old new : NasAclEntry} (asks : r.Asks sw table old new) :
      r.Commits sw table new (new.checkModify r.platform sw table)

section Runs

open NasAclEntry

variable {p : Platform} {r : Request} {sw : NasAclSwitch} {table : NasAclTable}
  {new : NasAclEntry} {checked : Except Exn NasAclEntry}

theorem closed_listed : ClosedUnderEdits p sw table Listed where
  setPriority _ _ listed := listed
  addFilter e f reset e' listed added := by
    obtain ⟨-, -, -, -, following, base⟩ := addFilter_frame added
    unfold Listed
    rw [following, base]
    exact listed
  addAction e a reset e' listed added := by
    obtain ⟨rfl, -⟩ := addAction_ok.mp added
    rw [putAction_frame]
    exact listed
  addNpu e npuId _ := by
    intro _ nothing
    simp only [NasAclEntry.addNpu, BaseObj.addNpu] at nothing
    split at nothing
    · exact Finset.singleton_ne_empty _ nothing
    · exact Finset.insert_ne_empty _ _ nothing
  removeFilter _ _ listed := listed
  removeAction _ _ listed := listed

theorem asks_listed {old : NasAclEntry} (asks : r.Asks sw table old new) (listed : old.Listed) :
    new.Listed := by
  cases asks with
  | whole key set stored parsed => exact parse_invariant closed_listed listed parsed
  | element key stored made => exact incr_invariant closed_listed listed made

/-- What a stored entry keeps, whatever its requests list. -/
def NasAclEntry.NpusStored (p : Platform) (table : NasAclTable) (e : NasAclEntry) : Prop :=
  e.PortsStored p table ∧ e.Listed

theorem keeps_npusStored (same : r.platform.ifInfo = p.ifInfo) (apart : r.KeepsPortsApart sw) :
    KeepsEntries (fun table e => e.NpusStored p table) r sw where
  created {table eid new e id} key parsed placed := by
    refine ⟨(keeps_portsCached same apart).created key parsed placed, ?_⟩
    have listed : Listed new.1 :=
      parse_invariant closed_listed (fun own => by cases own) parsed
    obtain ⟨rfl, -⟩ := npusForCreate_ok.mp placed
    split
    · intro own
      cases own
    · exact listed
  changed {table old new e} asks checked h := by
    refine ⟨(keeps_portsCached same apart).changed asks checked h.1, ?_⟩
    have listed := asks_listed asks h.2
    obtain ⟨rfl, -⟩ := npusForModify_listed listed (checkModify_ok.mp checked).1
    exact listed

/-- An entry that a request asks for in a reachable switch. -/
theorem asked_npus
    (reached : Reached (fun sw r => r.platform.ifInfo = p.ifInfo ∧ r.KeepsPortsApart sw) sw)
    (same : r.platform.ifInfo = p.ifInfo) (apart : r.KeepsPortsApart sw) {old : NasAclEntry}
    (asks : r.Asks sw table old new) : new.PortsCached r.platform table ∧ new.Listed := by
  have all := reached_entries (P := fun table e => e.NpusStored p table)
    (fun sw r _ here => keeps_npusStored here.1 here.2) reached
  have consistent := reached_consistent reached
  obtain ⟨table', known, ⟨clean, ports⟩, listed⟩ :=
    all _ _ _ (getEntry_store (asks.stored_old consistent).1)
  obtain rfl : table' = table.noIds := by
    rw [(asks.stored_old consistent).2.1, asks.table_stored consistent] at known
    exact (Option.some.inj known).symm
  exact ⟨asks_portsCached asks apart ⟨clean, ports.of_noIds.congr same.symm⟩,
    asks_listed asks listed⟩

/-- The list of a client is respected by every change of an entry, and by every creation whose
request lists the NPUs of its ports, or whose counter is missing on one of them. -/
theorem npus_respected_iff
    (reached : Reached (fun sw r => r.platform.ifInfo = p.ifInfo ∧ r.KeepsPortsApart sw) sw)
    (same : r.platform.ifInfo = p.ifInfo) (apart : r.KeepsPortsApart sw)
    (commits : r.Commits sw table new checked) :
    NpusRespected r.platform new checked ↔
      (r.op = .create → keyIncrType r.obj = none → ListsPortNpus r.platform r.obj.attrs ∨
        ∃ text, new.checkCounter r.platform sw = .error (.base .inconsistent text)) := by
  cases commits with
  | @create eid new id key op parsed =>
      obtain ⟨-, -, -, -, whole⟩ := cpsOpKeyExtract_ok.mp key
      have ports := parse_portsCached (portsCached_empty rfl rfl)
        (decide_eq_false (Finset.notMem_empty _)) (apart.listed whole) parsed
      have here : PortsCached r.platform table { new.1 with entryId := id } :=
        ports.of_same rfl rfl
      refine (respected_create_iff here.toPortFilters).trans ?_
      rw [← or_assoc, forall_prop_of_true op, forall_prop_of_true whole]
      exact or_congr_left (parse_within_iff (apart.listed whole) parsed ports.toPortFilters)
  | modify asks =>
      obtain ⟨ports, listed⟩ := asked_npus reached same apart asks
      refine iff_of_true (respected_modify ports.toPortFilters listed) fun create whole => ?_
      obtain set | element := asks.changes
      · rw [create] at set
        cases set
      · exact absurd whole element

/-- Along a run whose requests list the NPUs of their ports, every stored entry stays on the
NPUs its client listed. -/
theorem stored_npus_respected
    (reached : Reached (fun sw r => (r.platform.ifInfo = p.ifInfo ∧ r.KeepsPortsApart sw) ∧
      (keyIncrType r.obj = none → ListsPortNpus r.platform r.obj.attrs)) sw) :
    ∀ t k e, sw.findEntry t k = some e → e.followingTableNpus = false →
      e.PortsWithin p e.base.npus ∧ e.npuList ⊆ e.base.npus := by
  have all := reached_entries (P := fun table e => e.NpusStored p table ∧
    (e.followingTableNpus = false → e.filterNpus ⊆ e.base.npus)) (fun sw r _ here => ?_) reached
  · intro t k e found own
    have stored := sw.store_entry t k
    rw [found] at stored
    obtain ⟨table, -, ⟨⟨-, ports⟩, -⟩, inside⟩ := all t k _ stored
    have here : e.PortsWithin p e.base.npus := ports.toPortFilters.within_iff.mpr (inside own)
    exact ⟨here, npuList_subset (inside own)⟩
  · obtain ⟨⟨same, apart⟩, lists⟩ := here
    refine ⟨fun {table eid new e id} key parsed placed => ?_,
      fun {table old new e} asks checked h => ?_⟩
    · refine ⟨(keeps_npusStored same apart).created key parsed placed, fun own => ?_⟩
      obtain ⟨-, -, -, -, whole⟩ := cpsOpKeyExtract_ok.mp key
      have ports := parse_portsCached (portsCached_empty rfl rfl)
        (decide_eq_false (Finset.notMem_empty _)) (apart.listed whole) parsed
      have within := (parse_within_iff (apart.listed whole) parsed ports.toPortFilters).mpr
        (lists whole)
      obtain ⟨rfl, -⟩ := npusForCreate_ok.mp placed
      split at own
      · cases own
      · rename_i following
        rw [if_neg following]
        exact ports.toPortFilters.within_iff.mp (within.resolve_left following)
    · refine ⟨(keeps_npusStored same apart).changed asks checked h.1, fun own => ?_⟩
      obtain ⟨rfl, inside⟩ := npusForModify_listed (asks_listed asks h.1.2)
        (checkModify_ok.mp checked).1
      exact inside own

end Runs

/-! ### On the bench -/

/-- Create entry 7 with a filter of one port, on some NPUs. -/
def createOnPort (port : UInt32) (npus : List UInt32) : Request :=
  Bench.entryRequest .create
    ([Bench.u32 .entryPriority 0,
      Bench.listAttr .entryMatch [Bench.matchElem .inPort [Bench.u32 (.matchValue .inPort) port]],
      Bench.listAttr .entryAction [Bench.actionElem .decrementTtl []]]
      ++ npus.map (Bench.u32 .entryNpuIdList))

/-- What the check of its commit makes of such a request, in table 1. -/
def checkedOnPort (port : UInt32) (npus : List UInt32) (sw : NasAclSwitch) :
    Except Exn NasAclEntry := do
  let table ← sw.getTable 1
  let new ← cpsParseEntryObj Bench.platform sw table (createOnPort port npus).obj.attrs
    (.new Bench.platform table.tableId)
  new.1.checkCreate Bench.platform sw table

theorem createOnPort_commits {port : UInt32} {npus : List UInt32} {sw : NasAclSwitch}
    {test : NasAclEntry → Bool} (passed : (checkedOnPort port npus sw).toOption.any test = true) :
    ∃ table new e, (createOnPort port npus).Commits sw table new (.ok e) ∧ test e := by
  obtain ⟨e, ran, good⟩ := except_any_iff.mp passed
  obtain ⟨table, found, ran⟩ := except_bind_ok.mp ran
  obtain ⟨new, parsed, checked⟩ := except_bind_ok.mp ran
  have key : cpsOpKeyExtract sw (createOnPort port npus).obj = .ok ⟨table, some 7, none⟩ :=
    cpsOpKeyExtract_ok.mpr ⟨1, rfl, found, rfl, rfl⟩
  refine ⟨table, new.1, e, ?_, good⟩
  rw [← checked]
  exact @Request.Commits.create (createOnPort port npus) sw table (some 7) new new.1.entryId key rfl
    parsed

theorem createOnPort_apart {port : UInt32} {npus : List UInt32} {sw : NasAclSwitch}
    (apart : (requestFilters Bench.platform (createOnPort port npus).obj.attrs).Pairwise Apart) :
    (createOnPort port npus).KeepsPortsApart sw := by
  refine ⟨fun _ => apart, fun _ key => ?_⟩
  obtain ⟨-, -, -, -, element⟩ := cpsOpKeyExtract_ok.mp key
  cases element

/-- A table with every NPU, which allows filters of one port. -/
theorem inPortTable_reached : Reached (fun sw r => r.platform.ifInfo = Bench.platform.ifInfo ∧
    r.KeepsPortsApart sw) (Bench.after [Bench.createTable [.inPort]]) := by
  refine Reachable.after fun r mem sw => ?_
  obtain rfl := List.mem_singleton.mp mem
  refine ⟨rfl, fun _ => by decide +kernel, fun _ key => ?_⟩
  obtain ⟨-, -, -, -, element⟩ := cpsOpKeyExtract_ok.mp key
  cases element

theorem npus_respected_on_bench :
    ∃ table new e, (createOnPort 3 [0]).Commits (Bench.after [Bench.createTable [.inPort]]) table
        new (.ok e) ∧
      NpusRespected Bench.platform new (.ok e) ∧ !e.followingTableNpus := by
  have passed : (checkedOnPort 3 [0] (Bench.after [Bench.createTable [.inPort]])).toOption.any
      (fun e => !e.followingTableNpus) = true := by decide +kernel
  obtain ⟨table, new, e, commits, own⟩ := createOnPort_commits passed
  have lists : ListsPortNpus Bench.platform (createOnPort 3 [0]).obj.attrs := by decide +kernel
  have respected := npus_respected_iff inPortTable_reached (p := Bench.platform) rfl
    (createOnPort_apart (by decide +kernel)) commits
  exact ⟨table, new, e, commits, respected.mpr fun _ _ => .inl lists, own⟩

/-- An entry created on NPU 0, with a filter of a port of NPU 1, is accepted there. -/
theorem npus_not_always_respected :
    ¬ ∀ (p : Platform) (r : Request) (sw : NasAclSwitch) (table : NasAclTable)
        (new : NasAclEntry) (checked : Except Exn NasAclEntry),
      Reached (fun sw r => r.platform.ifInfo = p.ifInfo ∧ r.KeepsPortsApart sw) sw →
      r.platform.ifInfo = p.ifInfo → r.KeepsPortsApart sw → r.Commits sw table new checked →
      NpusRespected r.platform new checked := by
  intro claim
  have passed : (checkedOnPort 9 [0] (Bench.after [Bench.createTable [.inPort]])).toOption.any
      (fun e => !e.followingTableNpus && !decide (e.npuList ⊆ e.base.npus)) = true := by
    decide +kernel
  obtain ⟨table, new, e, commits, test⟩ := createOnPort_commits passed
  obtain ⟨own, outside⟩ := (Bool.and_eq_true_iff).mp test
  have respected := claim Bench.platform _ _ table new _ inPortTable_reached rfl
    (createOnPort_apart (by decide +kernel)) commits
  have inside := (respected.installed e rfl (Bool.not_eq_true' _ |>.mp own)).2
  rw [decide_eq_true inside] at outside
  cases outside

end SonicNasAcl
