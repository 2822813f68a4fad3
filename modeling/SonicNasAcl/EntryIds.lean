/-
# EntryIds -- an entry that was created on its NPUs is found there

`ndi_entry_ids.at (npu_id)` throws when the entry has no NDI id on an NPU, and the base
object does not catch `std::out_of_range`.  An entry gets its ids when it is created on
the NPUs of `npu_list ()`; a filter without ports on an NPU leaves the entry out there,
and only the port filters of `is_npu_specific` take the NPU out of the list as well.

So the lookups succeed as long as every filter has something to match on every NPU the
entry is created on; `entry_ids_can_be_missing` has an output port list that has not.

* `BaseObjIds`: what is asked of the base object about ids;
* `copyAllFiltersNdi_hasMatch`, `PushedOn.found`: creating an entry gives it an id where all
  its filters apply;
* `Request.FiltersApply`: they do where a request creates an entry;
* `reached_onItsNpus`: then every stored entry has an id on each of its NPUs;
* `ids_at_hand`: and no lookup of a modify fails.
-/
import SonicNasAcl.ConfiguredNpus
import SonicNasAcl.EntryFrame
import SonicNasAcl.Escapes
import SonicNasAcl.Filling

namespace SonicNasAcl

set_option autoImplicit false

open Lib

/-! ## Filters that apply -/

/-- A filter has something to match on an NPU.  The port test of `copy_filter_ndi` is made
when the structure it copies to is zero. -/
def NasAclFilter.HasMatchOn (p : Platform) (f : NasAclFilter) (npuId : NpuId) : Prop :=
  (p.zeroValuesType = .port → f.fInfo.values.npuIdField p = npuId) ∧
  (f.fInfo.values.valuesType p = .portlist → ∃ ifindex ∈ f.ifindexList, ∃ port,
    utlIfidxToNdiPort p ifindex = .ok port ∧ port.npuId = npuId)

def NasAclEntry.HasMatchOn (p : Platform) (e : NasAclEntry) (npuId : NpuId) : Prop :=
  ∀ t f, e.flist.find t = some f → f.HasMatchOn p npuId

section Filters

variable {p : Platform} {f : NasAclFilter} {npuId : NpuId}

/-- Ports on an NPU come from interfaces there. -/
theorem exists_port {l : List IfIndex} {ports : List NdiPort}
    (translated : NasAclFilter.ndiPorts p l = .ok ports) :
    (∃ q ∈ ports, q.npuId = npuId) ↔
      ∃ ifindex ∈ l, ∃ q, utlIfidxToNdiPort p ifindex = .ok q ∧ q.npuId = npuId := by
  induction l generalizing ports with
  | nil =>
      obtain rfl : [] = ports := Except.ok.inj translated
      simp only [List.not_mem_nil, false_and, exists_false]
  | cons ifindex rest ih =>
      unfold NasAclFilter.ndiPorts at translated ih
      rw [List.mapM_cons] at translated
      obtain ⟨q, here, translated⟩ := except_bind_ok.mp translated
      obtain ⟨qs, there, translated⟩ := except_bind_ok.mp translated
      cases translated
      simp only [List.mem_cons, or_and_right, exists_or, exists_eq_left, ih there, here,
        Except.ok.injEq, exists_eq_left']

/-- A filter is translated exactly where it applies. -/
theorem copyFilterNdi_hasMatch {found : Option NdiFilter}
    (copied : f.copyFilterNdi p p.zeroValuesType npuId = .ok found) :
    found.isSome ↔ f.HasMatchOn p npuId := by
  unfold NasAclFilter.copyFilterNdi at copied
  unfold NasAclFilter.HasMatchOn
  split at copied
  · rename_i elsewhere
    cases copied
    simp only [Option.isSome_none, Bool.false_eq_true, false_iff, not_and]
    exact fun here => absurd (here elsewhere.1) elsewhere.2
  · rename_i here
    have first : p.zeroValuesType = .port → f.fInfo.values.npuIdField p = npuId :=
      fun zero => not_not.mp fun other => here ⟨zero, other⟩
    split at copied
    · rename_i list
      obtain ⟨ports, translated, copied⟩ := except_bind_ok.mp copied
      rw [and_iff_right first, forall_prop_of_true list, ← exists_port translated]
      split at copied
      · rename_i none_
        cases copied
        simp only [Option.isSome_none, Bool.false_eq_true, false_iff, not_exists, not_and]
        intro q mem same
        have listed : q ∈ ports.filter fun q => q.npuId = npuId :=
          List.mem_filter.mpr ⟨mem, decide_eq_true same⟩
        rw [none_] at listed
        cases listed
      · rename_i some_
        cases copied
        refine iff_of_true rfl ?_
        obtain ⟨q, mem⟩ := List.exists_mem_of_ne_nil _ some_
        obtain ⟨listed, same⟩ := List.mem_filter.mp mem
        exact ⟨q, listed, of_decide_eq_true same⟩
    · rename_i plain
      cases copied
      exact iff_of_true rfl ⟨first, fun list => absurd list plain⟩

theorem copyAllFiltersNdi_hasMatch {l : List NasAclFilter} {found : Option (List NdiFilter)}
    (copied : copyAllFiltersNdi p npuId l = .ok found) :
    found.isSome ↔ ∀ f ∈ l, f.HasMatchOn p npuId := by
  induction l generalizing found with
  | nil =>
      cases copied
      simp only [Option.isSome_some, List.not_mem_nil, false_implies, implies_true]
  | cons f rest ih =>
      obtain ⟨first, here, copied⟩ := except_bind_ok.mp copied
      rw [List.forall_mem_cons, ← copyFilterNdi_hasMatch here]
      cases first with
      | none =>
          cases copied
          simp only [Option.isSome_none, Bool.false_eq_true, false_and]
      | some x =>
          cases there : copyAllFiltersNdi p npuId rest with
          | error err =>
              simp only [there] at copied
              cases copied
          | ok found' =>
              simp only [there] at copied
              cases copied
              rw [Option.isSome_map, ← ih there]
              simp only [Option.isSome_some, true_and]

end Filters

/-! ## What is asked of the base object -/

/-- `push_create_obj_to_npu` has returned, and `true` means that there is an id. -/
def NasAclEntry.PushedOn (p : Platform) (e : NasAclEntry) (npuId : NpuId) (ids : NdiObjIdTable) :
    Prop :=
  ∃ o sw table s created e' s',
    pushCreateObjToNpu p o sw table npuId e s = (.ok (created, e'), s') ∧
      (created = true → npuId ∈ ids)

/-- A create pushes the entry to each NPU of its list.  A modify pushes it to the NPUs that
are new in the list and leaves it the ids where it stays; one that fails is undone.  A
delete that fails is undone, too. -/
structure BaseObjIds (p : Platform) (o : Oracle) : Prop where
  created : ∀ sw table e rollback ids, o.entryCreate ⟨p, sw, table⟩ e rollback = .ok ids →
    ∀ npuId ∈ e.npuList, e.PushedOn p npuId ids
  added : ∀ sw table e old rollback ids,
    (o.entryModify ⟨p, sw, table⟩ e old rollback).1 = .ok ids →
    ∀ npuId ∈ e.npuList \ old.npuList, e.PushedOn p npuId ids
  kept : ∀ sw table e old rollback ids,
    (o.entryModify ⟨p, sw, table⟩ e old rollback).1 = .ok ids →
    ∀ npuId ∈ e.npuList ∩ old.npuList, npuId ∈ e.ndiEntryIds → npuId ∈ ids
  undone : ∀ sw table e old rollback err,
    (o.entryModify ⟨p, sw, table⟩ e old rollback).1 = .error err →
    ∀ npuId ∈ old.ndiEntryIds, npuId ∈ (o.entryModify ⟨p, sw, table⟩ e old rollback).2
  spared : ∀ sw table e rollback err, (o.entryDelete ⟨p, sw, table⟩ e rollback).1 = .error err →
    ∀ npuId ∈ e.ndiEntryIds, npuId ∈ (o.entryDelete ⟨p, sw, table⟩ e rollback).2

/-- An entry is created where all its filters apply. -/
theorem NasAclEntry.PushedOn.found {p : Platform} {e : NasAclEntry} {npuId : NpuId}
    {ids : NdiObjIdTable} (pushed : e.PushedOn p npuId ids) (matches_ : e.HasMatchOn p npuId) :
    npuId ∈ ids := by
  obtain ⟨o, sw, table, s, created, e', s', ran, id⟩ := pushed
  refine id ?_
  obtain ⟨tableId, -, ran⟩ := Eff.query_bind_ok.mp ran
  obtain ⟨found, copied, ran⟩ := Eff.query_bind_ok.mp ran
  have translated : found.isSome := by
    refine (copyAllFiltersNdi_hasMatch copied).mpr fun f mem => matches_ f.filterType f ?_
    exact Keyed.mem_items.mp mem
  obtain ⟨filters, rfl⟩ := Option.isSome_iff_exists.mp translated
  obtain ⟨actions, -, ran⟩ := Eff.query_bind_ok.mp ran
  obtain ⟨_, mid, -, ran⟩ := Eff.bind_ok.mp ran
  cases ran
  rfl

/-- An entry has an NDI id on each of its NPUs. -/
def NasAclEntry.OnItsNpus (e : NasAclEntry) : Prop := ∀ npuId ∈ e.npuList, npuId ∈ e.ndiEntryIds

/-! ## Requests that fail -/

/-- The step ends the process, or leaves every entry with its ids. -/
abbrev FailsSafe {α : Type} (P : Ctx → Prop) (x : Handler α) : Prop :=
  Eff.Spec P x (fun _ _ => True)
    fun err c => (∃ why, err = .abort why) ∨ c.sw.AllEntries NasAclEntry.OnItsNpus

section Failing

variable {α β : Type} {p : Platform} {o : Oracle} {rb : Bool} {table : NasAclTable} {s : Store}

theorem NoThrow.failsSafe {P : Ctx → Prop} {x : Handler α} (noThrow : NoThrow x) : FailsSafe P x :=
  noThrow.mono (fun _ _ => trivial) (fun _ _ _ => trivial) fun _ _ abort => .inl abort

theorem noThrow_saveEntry {e : NasAclEntry} : NoThrow (Handler.onSwitch (NasAclSwitch.saveEntry e)) :=
  noThrow_onSwitch fun _ _ => noexceptFn_error

/-- A modify that fails has its changes undone. -/
theorem failsSafe_commitModify (base : BaseObjIds p o) {old new : NasAclEntry}
    {rest : NasAclEntry × Finset AttrId → Handler β} (after : ∀ x, NoThrow (rest x)) :
    FailsSafe (fun c => c.sw.AllEntries NasAclEntry.OnItsNpus ∧
        c.sw.findEntry old.tableId old.entryId = some old)
      (commitModify p o table old rb new >>= rest) := by
  have installed {c : Ctx} {e : NasAclEntry} {err : Exn}
      (failed : (o.entryModify ⟨p, c.sw, table⟩ e old rb).1 = .error err)
      (pre : c.sw.AllEntries NasAclEntry.OnItsNpus ∧
        c.sw.findEntry old.tableId old.entryId = some old) :
      (c.sw.setEntryIds old.tableId old.entryId
        (o.entryModify ⟨p, c.sw, table⟩ e old rb).2).AllEntries NasAclEntry.OnItsNpus := by
    refine pre.1.setEntryIds fun x found => ?_
    obtain rfl : old = x := Option.some.inj (pre.2.symm.trans found)
    exact fun npuId mem =>
      base.undone c.sw table e old rb err failed npuId (pre.1 _ _ old pre.2 npuId mem)
  refine Eff.Spec.bind (Q := fun _ _ => True) ?_ fun x => (after x).failsSafe
  refine .query_bind (fun _ _ pre _ => .inr pre.1) fun e => ?_
  refine .query_bind (fun _ _ pre _ => .inr pre.1.1) fun result => ?_
  refine Eff.Spec.bind (Q := fun _ c => ∀ err, result.1 = .error err →
      c.sw.AllEntries NasAclEntry.OnItsNpus) ⟨?_, ?_⟩ fun _ => ?_
  · rintro c c' _ ⟨⟨pre, -⟩, asked⟩ ran err failed
    obtain ⟨sw, renamed, rfl⟩ := Handler.onSwitch_ok.mp ran
    cases renamed
    cases asked
    exact installed failed pre
  · rintro c c' err - stopped
    cases (Handler.onSwitch_error stopped).1
  · refine .bind (.query (fun _ _ _ _ => trivial) fun c err pre failed => .inr (pre err failed))
      fun _ => ?_
    exact .pure fun _ _ => trivial

/-- An entry is stored under its own ids. -/
theorem findEntry_own {sw : NasAclSwitch} {t id : NasObjId} {e : NasAclEntry}
    (consistent : sw.store.Consistent) (stored : sw.getEntry t id = .ok e) :
    sw.findEntry e.tableId e.entryId = some e := by
  obtain ⟨mine, own⟩ := entryKeyed consistent stored
  rw [mine, own]
  exact getEntry_ok.mp stored

theorem failsSafe_cpsEntryIncrUpd (base : BaseObjIds p o) {eid : NasObjId} {upd : IncrType}
    {op : CpsOper} :
    FailsSafe (fun c => c.sw.AllEntries NasAclEntry.OnItsNpus ∧ c.sw.store.Consistent)
      (cpsEntryIncrUpd p o table eid upd op rb) := by
  refine .query_bind (fun _ _ pre _ => .inr pre.1) fun old => ?_
  refine .query_bind (fun _ _ pre _ => .inr pre.1.1) fun new => ?_
  refine .of_fact (fun c pre => incrNewEntry_hasElement pre.2) fun present => ?_
  refine Eff.Spec.mono (failsSafe_commitModify base fun x => NoThrow.then ?_
    fun _ => noThrow_saveEntry) (fun c pre => ?_) (fun _ _ _ => trivial) fun _ _ err => err
  · exact noThrow_savePrev_of_error fun obj prev err failed => packIncr_error present failed
  · exact ⟨pre.1.1.1, findEntry_own pre.1.1.2 pre.1.2⟩

theorem failsSafe_nasAclEntryModify (base : BaseObjIds p o) :
    FailsSafe (fun c => c.sw.AllEntries NasAclEntry.OnItsNpus ∧ c.sw.store.Consistent)
      (nasAclEntryModify p o rb) := by
  refine .query_bind (fun _ _ pre _ => .inr pre.1) fun opKey => ?_
  obtain ⟨table, eid, upd⟩ := opKey
  cases eid with
  | none => exact .throw fun _ pre => .inr pre.1.1
  | some eid =>
      cases upd with
      | some upd =>
          exact (failsSafe_cpsEntryIncrUpd base).mono (fun _ pre => pre.1) (fun _ _ _ => trivial)
            fun _ _ err => err
      | none =>
          refine .query_bind (fun _ _ pre _ => .inr pre.1.1) fun old => ?_
          refine .query_bind (fun _ _ pre _ => .inr pre.1.1.1) fun new => ?_
          refine Eff.Spec.mono (failsSafe_commitModify base fun x => NoThrow.then ?_
            fun _ => noThrow_saveEntry) (fun c pre => ?_) (fun _ _ _ => trivial) fun _ _ err => err
          · exact noThrow_savePrev fun obj prev => cpsPackAttrs_ends prev
          · exact ⟨pre.1.1.1.1, findEntry_own pre.1.1.1.2 pre.1.2⟩

theorem failsSafe_nasAclEntryDelete (base : BaseObjIds p o) :
    FailsSafe (fun c => c.sw.AllEntries NasAclEntry.OnItsNpus ∧ c.sw.store.Consistent)
      (nasAclEntryDelete p o rb) := by
  refine .query_bind (fun _ _ pre _ => .inr pre.1) fun opKey => ?_
  obtain ⟨table, eid, upd⟩ := opKey
  cases eid with
  | none => exact .throw fun _ pre => .inr pre.1.1
  | some eid =>
      cases upd with
      | some upd =>
          exact (failsSafe_cpsEntryIncrUpd base).mono (fun _ pre => pre.1) (fun _ _ _ => trivial)
            fun _ _ err => err
      | none =>
          refine .query_bind (fun _ _ pre _ => .inr pre.1.1) fun e => ?_
          refine Eff.Spec.bind (Q := fun _ _ => True) ?_ fun _ => (NoThrow.then
            (noThrow_savePrev fun obj prev => cpsPackAttrs_ends prev) fun _ =>
            noThrow_onSwitch fun _ _ => noexceptFn_error).failsSafe
          refine .query_bind (fun _ _ pre _ => .inr pre.1.1.1) fun result => ?_
          refine Eff.Spec.bind (Q := fun _ c => ∀ err, result.1 = .error err →
            c.sw.AllEntries NasAclEntry.OnItsNpus) ⟨?_, ?_⟩ fun _ =>
            .query (fun _ _ _ _ => trivial) fun c err pre failed => .inr (pre err failed)
          · rintro c c' _ ⟨⟨⟨⟨all, consistent⟩, -⟩, stored⟩, asked⟩ ran err failed
            obtain ⟨sw, renamed, rfl⟩ := Handler.onSwitch_ok.mp ran
            cases renamed
            cases asked
            refine all.setEntryIds fun x found => ?_
            have own := findEntry_own consistent stored
            obtain rfl : e = x := Option.some.inj (own.symm.trans found)
            exact fun npuId mem => base.spared _ _ e rb err failed npuId (all _ _ e own npuId mem)
          · rintro c c' err - stopped
            cases (Handler.onSwitch_error stopped).1

theorem failsSafe_withIdGuard {objType : ObjType} {t : NasObjId} {body : Handler α}
    (inner : FailsSafe (fun c => c.sw.AllEntries NasAclEntry.OnItsNpus) body) :
    FailsSafe (fun c => c.sw.AllEntries NasAclEntry.OnItsNpus)
      (Handler.withIdGuard objType t body) := by
  refine Eff.Spec.bind (Q := fun _ c => c.sw.AllEntries NasAclEntry.OnItsNpus)
    (.write fun _ all => all) fun _ => .ensuring ?_
  refine inner.mono (fun _ all => all) (fun _ _ _ => trivial) fun _ _ err => ?_
  exact err.imp_right fun all => all.of_same NasAclIdGuard.findEntry_destroy

theorem failsSafe_nasAclEntryCreate (base : BaseObjIds p o) :
    FailsSafe (fun c => c.sw.AllEntries NasAclEntry.OnItsNpus ∧ c.sw.store.Consistent)
      (nasAclEntryCreate p o rb) := by
  refine .query_bind (fun _ _ pre _ => .inr pre.1) fun opKey => ?_
  obtain ⟨table, eid, upd⟩ := opKey
  cases upd with
  | some upd =>
      cases eid with
      | none => exact .throw fun _ pre => .inr pre.1.1
      | some eid =>
          exact (failsSafe_cpsEntryIncrUpd base).mono (fun _ pre => pre.1) (fun _ _ _ => trivial)
            fun _ _ err => err
  | none =>
      refine Eff.Spec.mono (P := fun c => c.sw.AllEntries NasAclEntry.OnItsNpus)
        (Q := fun _ _ => True) ?_ (fun _ pre => pre.1.1) (fun _ _ _ => trivial) fun _ _ err => err
      refine .bind (safe_query _) fun _ => .bind (safe_query _) fun tmp => failsSafe_withIdGuard ?_
      refine .bind safe_guardedId fun id => .bind (safe_query _) fun e => ?_
      refine Eff.Spec.bind (Q := fun _ _ => True) ⟨fun _ _ => trivial, ?_⟩ fun _ =>
        ((noThrow_write _).then fun _ => (noThrow_write _).then fun _ =>
          noThrow_savePrev fun _ _ => ⟨_, cpsPackKey_eq ..⟩).failsSafe
      intro c c' err all stopped
      obtain ⟨-, rfl⟩ := Handler.onSwitch_error stopped
      exact .inr all

end Failing

/-! ## Requests that succeed -/

/-- The NPUs a request creates an entry on. -/
inductive Request.Installs (r : Request) (sw : NasAclSwitch) (table : NasAclTable) :
    NasAclEntry → NpuSet → Prop
  | create {eid : Option NasObjId} {new : NasAclEntry × Bool} {id : NasObjId} {e : NasAclEntry}
      (key : cpsOpKeyExtract sw r.obj = .ok ⟨table, eid, none⟩) (op : r.op = .create)
      (parsed : cpsParseEntryObj r.platform sw table r.obj.attrs (.new r.platform table.tableId)
        = .ok new)
      (checked : { new.1 with entryId := id }.checkCreate r.platform sw table = .ok e) :
      r.Installs sw table e e.npuList
  | modify {old new e : NasAclEntry} (asks : r.Asks sw table old new)
      (checked : new.checkModify r.platform sw table = .ok e) :
      r.Installs sw table e (e.npuList \ old.npuList)

/-- Every filter of an entry has something to match on the NPUs the entry is created on. -/
def Request.FiltersApply (r : Request) (sw : NasAclSwitch) : Prop :=
  ∀ table e npus, r.Installs sw table e npus → ∀ npuId ∈ npus, e.HasMatchOn r.platform npuId

section Succeeding

variable {r : Request} {sw sw' : NasAclSwitch} {table : NasAclTable} {old new e : NasAclEntry}
  {o : Oracle} {rb : Bool} {c' : Ctx}

/-- The changed copy of an entry starts with the entry's ids. -/
theorem closed_ndiEntryIds {p : Platform} (ids : NdiObjIdTable) :
    ClosedUnderEdits p sw table fun e => e.ndiEntryIds = ids where
  setPriority _ _ same := same
  addFilter e f reset e' same added := by
    rw [NasAclEntry.addFilter_eq added]
    exact same
  addAction e a reset e' same added := by
    obtain ⟨rfl, -⟩ := NasAclEntry.addAction_ok.mp added
    rw [NasAclEntry.putAction_frame]
    exact same
  addNpu _ _ same := same
  removeFilter _ _ same := same
  removeAction _ _ same := same

theorem Request.Asks.ndiEntryIds (asks : r.Asks sw table old new)
    (checked : new.checkModify r.platform sw table = .ok e) : e.ndiEntryIds = old.ndiEntryIds := by
  have copied : new.ndiEntryIds = old.ndiEntryIds := by
    cases asks with
    | whole key set stored parsed => exact parse_invariant (closed_ndiEntryIds _) rfl parsed
    | element key stored made => exact incr_invariant (closed_ndiEntryIds _) rfl made
  obtain ⟨rfl, -⟩ := NasAclEntry.npusForModify_ok.mp (NasAclEntry.checkModify_ok.mp checked).1
  split <;> exact copied

theorem modifies_onItsNpus (base : BaseObjIds r.platform o) (apply_ : r.FiltersApply sw)
    (consistent : sw.store.Consistent) (all : sw.AllEntries NasAclEntry.OnItsNpus)
    {fill : Finset AttrId → CpsObject → Except Exn CpsObject} (asks : r.Asks sw table old new)
    (modifies : Modifies r.platform o rb table old new fill (r.ctx sw) c') :
    c'.sw.AllEntries NasAclEntry.OnItsNpus := by
  obtain ⟨e, checked, ids, committed, prev, -, sw₁, saved, rfl⟩ := modifies
  obtain ⟨stored, -, mine, own⟩ := asks.stored_old consistent
  obtain ⟨mine', own', -⟩ := npusForModify_frame (NasAclEntry.checkModify_ok.mp checked).1
  have table_ : (e.committed ids).tableId = old.tableId := mine'.trans mine
  have key : (e.committed ids).entryId = old.entryId := own'.trans own
  rw [← table_, ← key] at saved
  refine all.replaced ?_ saved
  intro npuId mem
  change npuId ∈ e.npuList at mem
  by_cases before : npuId ∈ old.npuList
  · refine base.kept _ _ e old rb ids committed npuId (Finset.mem_inter.mpr ⟨mem, before⟩) ?_
    rw [asks.ndiEntryIds checked]
    exact all _ _ old (getEntry_ok.mp stored) npuId before
  · have added := Finset.mem_sdiff.mpr ⟨mem, before⟩
    exact (base.added _ _ e old rb ids committed npuId added).found
      (apply_ table e _ (.modify asks checked) npuId added)

theorem incr_onItsNpus (base : BaseObjIds r.platform o) (apply_ : r.FiltersApply sw)
    (consistent : sw.store.Consistent) (all : sw.AllEntries NasAclEntry.OnItsNpus)
    {eid : NasObjId} {upd : IncrType}
    (key : cpsOpKeyExtract sw r.obj = .ok ⟨table, some eid, some upd⟩)
    (ran : cpsEntryIncrUpd r.platform o table eid upd r.op rb (r.ctx sw) = (.ok (), c')) :
    c'.sw.AllEntries NasAclEntry.OnItsNpus := by
  obtain ⟨old, stored, new, made, modifies⟩ := cpsEntryIncrUpd_ok.mp ran
  exact modifies_onItsNpus base apply_ consistent all (.element key stored made) modifies

theorem create_onItsNpus (base : BaseObjIds r.platform o) (apply_ : r.FiltersApply sw)
    (all : sw.AllEntries NasAclEntry.OnItsNpus) (op : r.op = .create) {eid : Option NasObjId}
    (key : cpsOpKeyExtract sw r.obj = .ok ⟨table, eid, none⟩)
    (ran : nasAclEntryCreate r.platform o rb (r.ctx sw) = (.ok (), c')) :
    c'.sw.AllEntries NasAclEntry.OnItsNpus := by
  obtain ⟨-, new, parsed, id, g, sw₁, took, e, committed, sw₂, saved, prev, -, rfl⟩ :=
    (nasAclEntryCreate_ok key).mp ran
  obtain ⟨e₁, checked, committed⟩ := except_bind_ok.mp committed
  obtain ⟨ids, created, committed⟩ := except_bind_ok.mp committed
  cases committed
  obtain ⟨gen, -, stored, -⟩ := took.spec
  obtain ⟨placed, counted⟩ := NasAclEntry.checkCreate_ok.mp checked
  -- taking the id has changed no counter
  have covers : sw.store.CoversEntry e₁ := fun enabled npuId mem => by
    have held := checkCounter_store.mp counted enabled npuId mem
    rwa [stored, Store.counter_takeId] at held
  have checked₀ := NasAclEntry.checkCreate_ok.mpr ⟨placed, checkCounter_store.mpr covers⟩
  refine (all.of_same took.findEntry).saved (fun npuId mem => ?_) saved
  change npuId ∈ e₁.npuList at mem
  exact (base.created _ _ e₁ rb ids created npuId mem).found
    (apply_ table e₁ _ (.create key op parsed checked₀) npuId mem)

theorem delete_onItsNpus (consistent : sw.store.Consistent)
    (all : sw.AllEntries NasAclEntry.OnItsNpus) {eid : NasObjId} {p : Platform}
    (key : cpsOpKeyExtract sw r.obj = .ok ⟨table, some eid, none⟩)
    (ran : nasAclEntryDelete p o rb (r.ctx sw) = (.ok (), c')) :
    c'.sw.AllEntries NasAclEntry.OnItsNpus := by
  obtain ⟨e, stored, -, prev, -, sw₁, removed, rfl⟩ := (nasAclEntryDelete_ok key).mp ran
  obtain ⟨mine, own⟩ := entryKeyed consistent stored
  rw [← mine, ← own] at removed
  exact all.removed removed

end Succeeding

/-! ## Every run -/

section Runs

variable {r : Request} {sw sw' : NasAclSwitch}

/-- One request, whatever it returns. -/
theorem next_onItsNpus (base : BaseObjIds r.platform r.oracle) (apply_ : r.FiltersApply sw)
    (consistent : sw.store.Consistent) (all : sw.AllEntries NasAclEntry.OnItsNpus)
    (stepped : r.next sw = some sw') : sw'.AllEntries NasAclEntry.OnItsNpus := by
  obtain ⟨rc, ran⟩ : ∃ rc, r.run sw = (.returned rc, sw') := by
    unfold Request.next at stepped
    split at stepped
    · rename_i rc sw₁ ran
      cases stepped
      exact ⟨rc, ran⟩
    · cases stepped
  obtain ⟨-, rfl⟩ | ⟨handler, c', mapped, ran, rfl⟩ := run_cases ran
  · exact all
  · unfold operationMap at mapped
    split at mapped
    · cases mapped
      exact tryHandler_keeps (fun _ => safe_nasAclTableCreate.ok all)
        (fun _ _ => safe_nasAclTableCreate.error all) ran
    · cases mapped
      exact tryHandler_keeps (fun _ => safe_nasAclTableDelete.ok all)
        (fun _ _ => safe_nasAclTableDelete.error all) ran
    · rename_i entry op
      cases mapped
      refine tryHandler_keeps (fun c₁ ran => ?_)
        (fun _ _ => (failsSafe_nasAclEntryCreate base).error ⟨all, consistent⟩) ran
      obtain ⟨table, eid, key⟩ | ⟨table, eid, upd, key⟩ := entryKey_cases ran
      · exact create_onItsNpus base apply_ all op key ran
      · rw [nasAclEntryCreate_incr key, ← op] at ran
        exact incr_onItsNpus base apply_ consistent all key ran
    · rename_i entry op
      cases mapped
      refine tryHandler_keeps (fun c₁ ran => ?_)
        (fun _ _ => (failsSafe_nasAclEntryModify base).error ⟨all, consistent⟩) ran
      obtain ⟨table, eid, key⟩ | ⟨table, eid, upd, key⟩ := entryKey_cases ran
      · cases eid with
        | none =>
            obtain ⟨_, found, stopped⟩ := Eff.query_bind_ok.mp ran
            cases key.symm.trans found
            cases stopped
        | some eid =>
            obtain ⟨old, stored, new, parsed, modifies⟩ := (nasAclEntryModify_ok key).mp ran
            exact modifies_onItsNpus base apply_ consistent all (.whole key op stored parsed) modifies
      · rw [nasAclEntryModify_incr key, ← op] at ran
        exact incr_onItsNpus base apply_ consistent all key ran
    · rename_i entry op
      cases mapped
      refine tryHandler_keeps (fun c₁ ran => ?_)
        (fun _ _ => (failsSafe_nasAclEntryDelete base).error ⟨all, consistent⟩) ran
      obtain ⟨table, eid, key⟩ | ⟨table, eid, upd, key⟩ := entryKey_cases ran
      · cases eid with
        | none =>
            obtain ⟨_, found, stopped⟩ := Eff.query_bind_ok.mp ran
            cases key.symm.trans found
            cases stopped
        | some eid => exact delete_onItsNpus consistent all key ran
      · rw [nasAclEntryDelete_incr key, ← op] at ran
        exact incr_onItsNpus base apply_ consistent all key ran
    · cases mapped
      exact tryHandler_keeps (fun _ => safe_nasAclCounterCreate.ok all)
        (fun _ _ => safe_nasAclCounterCreate.error all) ran
    · cases mapped
      exact tryHandler_keeps (fun _ => safe_nasAclCounterDelete.ok all)
        (fun _ _ => safe_nasAclCounterDelete.error all) ran
    · cases mapped
      exact tryStatsHandler_keeps (fun _ => safe_nasAclStatsSet.ok all)
        (fun _ _ => safe_nasAclStatsSet.error all) ran
    · cases mapped

/-- Where filters apply on the NPUs an entry is created on, every stored entry has its ids. -/
theorem reached_onItsNpus (reached : Reached
    (fun sw r => BaseObjIds r.platform r.oracle ∧ r.FiltersApply sw) sw) :
    sw.AllEntries NasAclEntry.OnItsNpus := by
  refine reached.invariant_within (fun sw => sw.store.Consistent)
    (fun sw => sw.AllEntries NasAclEntry.OnItsNpus) (fun _ before => reached_consistent before) ?_ ?_
  · intro t id e found
    cases found
  · intro sw r sw' consistent all steady stepped
    exact next_onItsNpus steady.1 steady.2 consistent all stepped

end Runs

/-! ## Lookups -/

/-- What `ndi_entry_ids.at` throws. -/
def OutOfRange (err : Exn) : Prop := err = .outOfRange

theorem outOfRange_notBase : NotBase OutOfRange := by
  intro errCode errMsg same
  cases same

/-- On some NPUs, the ids of an entry are found, and nothing that is pushed for the entry
or undone there lets `std::out_of_range` escape. -/
structure LookupsSucceed (p : Platform) (sw : NasAclSwitch) (e : NasAclEntry) (npus : NpuSet) :
    Prop where
  found : ∀ npuId ∈ npus, ∃ id, e.ndiEntryId npuId = .ok id
  leaf : ∀ o attr, ∀ npuId ∈ npus, Never OutOfRange (pushLeafAttrToNpu o attr npuId e)
  changed : ∀ o attr old npus' rollingBack, npus' ⊆ npus →
    Never OutOfRange (pushNonLeafAttrNdi p o sw attr old npus' rollingBack e)
  undone : ∀ o trakr, (∀ elem ∈ trakr, elem.npuId ∈ npus) →
    Never OutOfRange (rollbackTracked p o sw e trakr)

section Lookups

variable {p : Platform} {sw : NasAclSwitch} {e old new : NasAclEntry} {npus : NpuSet}
  {ids : NdiObjIdTable} {npuId : NpuId} {table : NasAclTable} {r : Request}

/-- A counter that is missing ends the process instead. -/
theorem avoids_copyNdiCounterId {l : List NdiAction} :
    Avoids OutOfRange (copyNdiCounterId sw e npuId l) := by
  rintro err failed rfl
  unfold copyNdiCounterId at failed
  split at failed
  · cases failed
  · obtain ⟨why, same⟩ := noexceptFn_error failed
    cases same

theorem exists_ndiEntryId (here : npuId ∈ e.ndiEntryIds) : ∃ id, e.ndiEntryId npuId = .ok id := by
  obtain ⟨id, known⟩ := Finmap.mem_iff.mp here
  refine ⟨id, ?_⟩
  unfold NasAclEntry.ndiEntryId
  rw [known]

theorem avoids_ndiEntryId (here : npuId ∈ e.ndiEntryIds) : Avoids OutOfRange (e.ndiEntryId npuId) := by
  obtain ⟨id, found⟩ := exists_ndiEntryId here
  rw [found]
  exact avoids_ok id

theorem copyOneActionNdi_inRange {a : NasAclAction} {l : List NdiAction} :
    Avoids OutOfRange (copyOneActionNdi p sw e npuId l a) := by
  refine avoids_bind (avoids_copyActionNdi outOfRange_notBase) fun x _ => ?_
  obtain ⟨copied, l⟩ := x
  simp only []
  split
  · exact avoids_copyNdiCounterId
  · exact avoids_ok _

theorem pushesOn_of_id (here : npuId ∈ e.ndiEntryIds) : e.PushesOn OutOfRange p sw npuId where
  found := avoids_ndiEntryId here
  actions _ _ _ := copyOneActionNdi_inRange

theorem lookupsSucceed_of_ids (here : ∀ npuId ∈ npus, npuId ∈ e.ndiEntryIds) :
    LookupsSucceed p sw e npus where
  found npuId mem := exists_ndiEntryId (here npuId mem)
  leaf _ _ npuId mem :=
    never_pushLeafAttrToNpu outOfRange_notBase (avoids_ndiEntryId (here npuId mem))
  changed _ _ _ _ _ inside :=
    never_pushNonLeafAttrNdi outOfRange_notBase fun npuId mem =>
      pushesOn_of_id (here npuId (inside mem))
  undone _ _ inside :=
    never_rollbackTracked outOfRange_notBase fun elem mem => pushesOn_of_id (here _ (inside elem mem))

/-- Where filters apply on the NPUs an entry is created on, a later modify finds its ids on
the NPUs that stay in its list, in the new copy of the entry and in the old one.  While the
base object works on a copy, the ids on other NPUs come and go. -/
theorem ids_at_hand (reached : Reached
      (fun sw r => BaseObjIds r.platform r.oracle ∧ r.FiltersApply sw) sw)
    (asks : r.Asks sw table old new) (checked : new.checkModify r.platform sw table = .ok e) :
    (∀ ids, (∀ npuId ∈ old.npuList ∩ e.npuList, npuId ∈ e.ndiEntryIds → npuId ∈ ids) →
      LookupsSucceed r.platform sw { e with ndiEntryIds := ids } (old.npuList ∩ e.npuList)) ∧
    ∀ ids, (∀ npuId ∈ old.npuList ∩ e.npuList, npuId ∈ old.ndiEntryIds → npuId ∈ ids) →
      LookupsSucceed r.platform sw { old with ndiEntryIds := ids } (old.npuList ∩ e.npuList) := by
  obtain ⟨stored, -⟩ := asks.stored_old (reached_consistent reached)
  have installed := reached_onItsNpus reached _ _ old (getEntry_ok.mp stored)
  have here : ∀ npuId ∈ old.npuList ∩ e.npuList, npuId ∈ old.ndiEntryIds := fun npuId mem =>
    installed npuId (Finset.mem_inter.mp mem).1
  refine ⟨fun ids stay => ?_, fun ids stay => ?_⟩
  · refine lookupsSucceed_of_ids fun npuId mem => stay npuId mem ?_
    rw [asks.ndiEntryIds checked]
    exact here npuId mem
  · exact lookupsSucceed_of_ids fun npuId mem => stay npuId mem (here npuId mem)

end Lookups

/-! ### On the bench -/

namespace Bench

/-- How a push ends when the NDI accepts its calls. -/
def answer {α : Type} (push : NdiReplies → NdiM α) : Except Exn α :=
  (push ⟨fun _ => .ok (), fun _ => 9⟩ ⟨fun _ _ => none, 0, []⟩).1

/-- Whether the push of an entry to an NPU creates it there. -/
def pushed (scope : PushScope) (e : NasAclEntry) (npuId : NpuId) : Except Exn Bool :=
  (answer fun o => pushCreateObjToNpu scope.platform o scope.sw scope.table npuId e).map Prod.fst

/-- The ids of an entry that keeps some and is pushed to other NPUs. -/
def idsPushed (scope : PushScope) (e : NasAclEntry) (kept npus : NpuSet) :
    Except Exn NdiObjIdTable := do
  let _ ← (npuOrder.visit npus).mapM (pushed scope e)
  return idsOn (kept ∪ npus.filter fun npuId => (pushed scope e npuId).toOption = some true)

/-- The pushes of a modify that rolls back, to the NPUs that stay. -/
def restored (scope : PushScope) (e old : NasAclEntry) : Except Exn Unit :=
  let npus := old.npuList ∩ e.npuList
  let whenDirty (attr : AttrId) (push : Except Exn Unit) :=
    if e.isAttrDirty attr then push else .ok ()
  let list (attr : AttrId) :=
    answer fun o => pushNonLeafAttrNdi scope.platform o scope.sw attr old npus true e
  do
    whenDirty .entryPriority ((npuOrder.visit npus).forM fun npuId =>
      (answer fun o => pushLeafAttrToNpu o .entryPriority npuId e).map fun _ => ())
    whenDirty .entryMatch (list .entryMatch)
    whenDirty .entryAction (list .entryAction)

/-- What a modify comes to. -/
def modified (scope : PushScope) (e old : NasAclEntry) (rollback : Bool) :
    Except Exn NdiObjIdTable := do
  let () ← if rollback then restored scope e old else .ok ()
  idsPushed scope e (e.npuList ∩ old.npuList ∩ e.ndiEntryIds.keys) (e.npuList \ old.npuList)

/-- A base object that pushes entries. -/
def pushingOracle : Oracle where
  alloc := allocator
  tableCreate := oracle.tableCreate
  tableDelete := oracle.tableDelete
  counterCreate := oracle.counterCreate
  counterDelete := oracle.counterDelete
  counterDelete_keys := oracle.counterDelete_keys
  entryCreate scope e _ := idsPushed scope e ∅ e.npuList
  entryModify scope e old rollback := (modified scope e old rollback, old.ndiEntryIds)
  entryDelete _ _ _ := (.ok (), ∅)
  counterSet := oracle.counterSet

theorem mem_idsOn {npus : NpuSet} {npuId : NpuId} : npuId ∈ idsOn npus ↔ npuId ∈ npus := by
  rw [idsOn, Finmap.mem_list_toFinmap]
  constructor
  · rintro ⟨id, listed⟩
    obtain ⟨n, mem, same⟩ := List.mem_map.mp listed
    cases same
    exact (npuOrder.mem_visit _ _).mp mem
  · exact fun mem => ⟨9, List.mem_map.mpr ⟨npuId, (npuOrder.mem_visit _ _).mpr mem, rfl⟩⟩

theorem answer_ok {α : Type} {push : NdiReplies → NdiM α} {a : α} :
    answer push = .ok a ↔
      ∃ s', push ⟨fun _ => .ok (), fun _ => 9⟩ ⟨fun _ _ => none, 0, []⟩ = (.ok a, s') :=
  ⟨fun ended => ⟨_, Prod.ext ended rfl⟩, fun ⟨_, ended⟩ => congrArg Prod.fst ended⟩

theorem pushed_ok {scope : PushScope} {e : NasAclEntry} {npuId : NpuId} {created : Bool} :
    pushed scope e npuId = .ok created ↔
      ∃ r s', pushCreateObjToNpu scope.platform ⟨fun _ => .ok (), fun _ => 9⟩ scope.sw scope.table
        npuId e ⟨fun _ _ => none, 0, []⟩ = (.ok r, s') ∧ r.1 = created := by
  unfold pushed
  constructor
  · intro ran
    cases ended : answer fun o =>
        pushCreateObjToNpu scope.platform o scope.sw scope.table npuId e with
    | error err =>
        rw [ended] at ran
        cases ran
    | ok r =>
        rw [ended] at ran
        obtain ⟨s', ended⟩ := answer_ok.mp ended
        exact ⟨r, s', ended, Except.ok.inj ran⟩
  · rintro ⟨r, s', ended, rfl⟩
    rw [answer_ok.mpr ⟨s', ended⟩]
    rfl

/-- The entry was pushed to each of the NPUs, and has the ids where that has created it. -/
theorem idsPushed_ok {scope : PushScope} {e : NasAclEntry} {kept npus : NpuSet}
    {ids : NdiObjIdTable} :
    idsPushed scope e kept npus = .ok ids ↔
      (∀ npuId ∈ npus, ∃ created, pushed scope e npuId = .ok created) ∧
        ids = idsOn (kept ∪ npus.filter fun npuId => (pushed scope e npuId).toOption = some true) := by
  unfold idsPushed
  constructor
  · intro done
    obtain ⟨created, ran, done⟩ := except_bind_ok.mp done
    cases done
    have each := (except_mapM_ok.mp ran).1
    exact ⟨fun npuId mem => each npuId ((npuOrder.mem_visit _ _).mpr mem), rfl⟩
  · rintro ⟨each, rfl⟩
    have ran := except_mapM_ok.mpr ⟨fun npuId mem => each npuId ((npuOrder.mem_visit _ _).mp mem), rfl⟩
    exact except_bind_ok.mpr ⟨_, ran, rfl⟩

theorem pushed_on {scope : PushScope} {e : NasAclEntry} {kept npus : NpuSet} {ids : NdiObjIdTable}
    (done : idsPushed scope e kept npus = .ok ids) :
    (∀ npuId ∈ npus, e.PushedOn scope.platform npuId ids) ∧ ∀ npuId ∈ kept, npuId ∈ ids := by
  obtain ⟨each, rfl⟩ := idsPushed_ok.mp done
  refine ⟨fun npuId mem => ?_, fun npuId mem => mem_idsOn.mpr (Finset.mem_union_left _ mem)⟩
  obtain ⟨created, ran⟩ := each npuId mem
  obtain ⟨r, s', ended, rfl⟩ := pushed_ok.mp ran
  refine ⟨_, _, _, _, r.1, r.2, s', ended, fun there => ?_⟩
  refine mem_idsOn.mpr (Finset.mem_union_right _ (Finset.mem_filter.mpr ⟨mem, ?_⟩))
  rw [ran]
  exact congrArg some there

theorem modified_ok {scope : PushScope} {e old : NasAclEntry} {rollback : Bool}
    {ids : NdiObjIdTable} :
    modified scope e old rollback = .ok ids ↔
      (rollback = true → restored scope e old = .ok ()) ∧
        idsPushed scope e (e.npuList ∩ old.npuList ∩ e.ndiEntryIds.keys)
          (e.npuList \ old.npuList) = .ok ids := by
  cases rollback with
  | true =>
      rw [forall_prop_of_true rfl]
      constructor
      · intro done
        obtain ⟨_, back, done⟩ := except_bind_ok.mp done
        exact ⟨back, done⟩
      · rintro ⟨back, done⟩
        exact except_bind_ok.mpr ⟨(), back, done⟩
  | false => exact ⟨fun done => ⟨nofun, done⟩, fun done => done.2⟩

theorem pushingOracle_ids (p : Platform) : BaseObjIds p pushingOracle where
  created _ _ e _ ids done := (pushed_on done).1
  added _ _ e old _ ids done := (pushed_on (modified_ok.mp done).2).1
  kept _ _ e old _ ids done npuId mem held := by
    refine (pushed_on (modified_ok.mp done).2).2 npuId (Finset.mem_inter.mpr ⟨mem, ?_⟩)
    exact Finmap.mem_keys.mpr held
  undone _ _ e old _ err failed npuId mem := mem
  spared _ _ e _ err failed := by cases failed

/-- A request to this base object. -/
def pushing (r : Request) : Request := { r with platform := platform, oracle := pushingOracle }

end Bench

/-- Table 1, and entry 7 with one filter. -/
def oneFilterRun (filter : MatchType) (value : List CpsAttr) : List Request :=
  [Bench.createTable [filter],
    Bench.entryRequest .create
      [Bench.u32 .entryPriority 0,
        Bench.listAttr .entryMatch [Bench.matchElem filter value],
        Bench.listAttr .entryAction [Bench.actionElem .decrementTtl []]]].map Bench.pushing

theorem oneFilterRun_ids {filter : MatchType} {value : List CpsAttr} {r : Request}
    (mem : r ∈ oneFilterRun filter value) : BaseObjIds r.platform r.oracle := by
  obtain ⟨r', -, rfl⟩ := List.mem_map.mp mem
  exact Bench.pushingOracle_ids _

/-- A SET of the priority of entry 7. -/
def setPriorityOfEntry : Request :=
  Bench.pushing (Bench.entryRequest .set [Bench.u32 .entryPriority 9])

/-- What the SET makes of entry 7. -/
def prioritySet (sw : NasAclSwitch) : Except Exn (NasAclTable × NasAclEntry × NasAclEntry) := do
  let table ← sw.getTable 1
  let old ← sw.getEntry table.tableId 7
  let new ← cpsParseEntryObj Bench.platform sw table setPriorityOfEntry.obj.attrs old
  let e ← new.1.checkModify Bench.platform sw table
  return (table, old, e)

theorem prioritySet_asks {sw : NasAclSwitch} (test : NasAclEntry → NasAclEntry → Bool)
    (passed : (prioritySet sw).toOption.any (fun x => test x.2.1 x.2.2) = true) :
    ∃ table old new e, setPriorityOfEntry.Asks sw table old new ∧
      new.checkModify Bench.platform sw table = .ok e ∧ test old e := by
  obtain ⟨x, ran, good⟩ := except_any_iff.mp passed
  obtain ⟨table, found, ran⟩ := except_bind_ok.mp ran
  obtain ⟨old, stored, ran⟩ := except_bind_ok.mp ran
  obtain ⟨new, parsed, ran⟩ := except_bind_ok.mp ran
  obtain ⟨e, checked, ran⟩ := except_bind_ok.mp ran
  cases ran
  have key : cpsOpKeyExtract sw setPriorityOfEntry.obj = .ok ⟨table, some 7, none⟩ :=
    cpsOpKeyExtract_ok.mpr ⟨1, rfl, found, rfl, rfl⟩
  exact ⟨table, old, new.1, e, .whole key rfl stored parsed, checked, good⟩

/-- Whether a filter has something to match on an NPU of the bench. -/
def hasMatch (f : NasAclFilter) (npuId : NpuId) : Bool :=
  decide (f.fInfo.values.valuesType Bench.platform ≠ .portlist) ||
    f.ifindexList.any fun ifindex =>
      (utlIfidxToNdiPort Bench.platform ifindex).toOption.any fun q => decide (q.npuId = npuId)

theorem hasMatch_sound {f : NasAclFilter} {npuId : NpuId} (passed : hasMatch f npuId = true) :
    f.HasMatchOn Bench.platform npuId := by
  refine ⟨fun zero => (by cases zero), fun list => ?_⟩
  obtain other | passed := (Bool.or_eq_true_iff).mp passed
  · exact absurd list (of_decide_eq_true other)
  · obtain ⟨ifindex, mem, passed⟩ := List.any_eq_true.mp passed
    obtain ⟨q, translated, same⟩ := except_any_iff.mp passed
    exact ⟨ifindex, mem, q, translated, of_decide_eq_true same⟩

/-- The entry a CREATE of the bench asks for, with the NPUs of its table. -/
def entryToCreate (sw : NasAclSwitch) (r : Request) : Except Exn NasAclEntry := do
  let k ← cpsOpKeyExtract sw r.obj
  let new ← cpsParseEntryObj Bench.platform sw k.table r.obj.attrs
    (.new Bench.platform k.table.tableId)
  return if new.1.followingTableNpus then new.1.copyTableNpus k.table else new.1

/-- Whether a request is a CREATE whose filters match on all NPUs of the entry. -/
def createsMatching (sw : NasAclSwitch) (r : Request) : Bool :=
  decide (r.op = .create ∧ keyIncrType r.obj = none) &&
    (entryToCreate sw r).toOption.all fun e =>
      (Bench.npuOrder.visit e.npuList).all fun npuId =>
        (e.flist.items Bench.platform.matchOrder).all fun f => hasMatch f npuId

theorem createsMatching_sound {sw : NasAclSwitch} {r : Request} (bench : r.platform = Bench.platform)
    (passed : createsMatching sw r = true) : r.FiltersApply sw := by
  obtain ⟨whole, passed⟩ := (Bool.and_eq_true_iff).mp passed
  obtain ⟨create, whole⟩ := of_decide_eq_true whole
  intro table e npus installs
  cases installs with
  | modify asks checked =>
      obtain set | element := asks.changes
      · cases create.symm.trans set
      · exact absurd whole element
  | create key op parsed checked =>
      rename_i eid new id
      rw [bench] at parsed checked ⊢
      have asked : entryToCreate sw r = .ok
          (if new.1.followingTableNpus then new.1.copyTableNpus table else new.1) := by
        simp only [entryToCreate, key, parsed, except_ok_bind]
        rfl
      rw [asked] at passed
      obtain ⟨placed, -⟩ := NasAclEntry.checkCreate_ok.mp checked
      obtain ⟨rfl, -⟩ := NasAclEntry.npusForCreate_ok.mp placed
      -- the entry of the commit differs from that in its id only
      intro npuId mem t f held
      refine hasMatch_sound ?_
      have onNpu := List.all_eq_true.mp passed npuId ((Bench.npuOrder.mem_visit _ _).mpr ?_)
      · refine List.all_eq_true.mp onNpu f (Keyed.mem_items.mpr ?_)
        rw [Keyed.keyed _ t f held]
        cases following : new.1.followingTableNpus with
        | true =>
            simp only [following, if_true] at held ⊢
            exact held
        | false =>
            simp only [following, Bool.false_eq_true, if_false] at held ⊢
            exact held
      · cases following : new.1.followingTableNpus with
        | true =>
            simp only [following, if_true] at mem ⊢
            exact mem
        | false =>
            simp only [following, Bool.false_eq_true, if_false] at mem ⊢
            exact mem

/-- Where its filter has a port on both NPUs, the ids of entry 7 are found. -/
theorem ids_at_hand_on_bench :
    ∃ sw table old new e,
      Reached (fun sw r => BaseObjIds r.platform r.oracle ∧ r.FiltersApply sw) sw ∧
      setPriorityOfEntry.Asks sw table old new ∧
      new.checkModify Bench.platform sw table = .ok e ∧ 1 ∈ old.npuList ∩ e.npuList ∧
      LookupsSucceed Bench.platform sw e (old.npuList ∩ e.npuList) := by
  let run := oneFilterRun .outPorts
    [Bench.u32 (.matchValue .outPorts) 3, Bench.u32 (.matchValue .outPorts) 9]
  have asked : (run.foldlM (fun sw r => if createsMatching sw r then Request.next sw r else none)
      NasAclSwitch.new).any (fun sw => (prioritySet sw).toOption.any fun x =>
        decide (1 ∈ x.2.1.npuList ∩ x.2.2.npuList)) = true := by
    decide +kernel
  obtain ⟨sw, ran, passed⟩ := (Option.any_eq_true _ _).mp asked
  have reached : Reached (fun sw r => BaseObjIds r.platform r.oracle ∧ r.FiltersApply sw) sw := by
    refine Reachable.of_tests (fun r mem sw passed => ⟨oneFilterRun_ids mem, ?_⟩) .init ran
    obtain ⟨r', -, rfl⟩ := List.mem_map.mp mem
    exact createsMatching_sound rfl passed
  obtain ⟨table, old, new, e, asks, checked, here⟩ := prioritySet_asks
    (fun old e => decide (1 ∈ old.npuList ∩ e.npuList)) passed
  refine ⟨sw, table, old, new, e, reached, asks, checked, of_decide_eq_true here, ?_⟩
  exact (ids_at_hand reached asks checked).1 e.ndiEntryIds fun _ _ held => held

/-- An entry with an output port of NPU 0 is not created on NPU 1, which stays in its list:
a SET of its priority throws. -/
theorem entry_ids_can_be_missing :
    ¬ ∀ (r : Request) (sw : NasAclSwitch) (table : NasAclTable) (old new e : NasAclEntry),
      Reached (fun _ r => BaseObjIds r.platform r.oracle) sw → BaseObjIds r.platform r.oracle →
      r.Asks sw table old new → new.checkModify r.platform sw table = .ok e →
      LookupsSucceed r.platform sw e (old.npuList ∩ e.npuList) := by
  intro claim
  let run := oneFilterRun .outPorts [Bench.u32 (.matchValue .outPorts) 3]
  have reached : Reached (fun _ r => BaseObjIds r.platform r.oracle) (Bench.after run) :=
    Reachable.after fun r mem _ => oneFilterRun_ids mem
  have passed : (prioritySet (Bench.after run)).toOption.any (fun x =>
      decide (1 ∈ x.2.1.npuList ∩ x.2.2.npuList) && (x.2.2.ndiEntryIds.lookup 1).isNone) = true := by
    decide +kernel
  obtain ⟨table, old, new, e, asks, checked, test⟩ := prioritySet_asks
    (fun old e => decide (1 ∈ old.npuList ∩ e.npuList) && (e.ndiEntryIds.lookup 1).isNone)
    passed
  obtain ⟨mem, missing⟩ := (Bool.and_eq_true_iff).mp test
  obtain ⟨id, found⟩ :=
    (claim _ _ table old new e reached (Bench.pushingOracle_ids _) asks checked).found
    1 (of_decide_eq_true mem)
  unfold NasAclEntry.ndiEntryId at found
  rw [Option.isNone_iff_eq_none.mp missing] at found
  cases found

end SonicNasAcl
