/-
# ReorderedWalks -- elements and maps in another order

The elements of a request may stand in another order, and the hash maps that are made of them
are then walked in another order too.  The store sees neither, but for two things: a port filter
must not come after one that has ports, and where the new entry is installed its filters are
copied in the order of the walk until one of them has no port on the NPU.

* `stands_iff`: in any walk, what stands does so somewhere and has its filters copied;
* `reordered_sameStored_iff`: so the order is seen just when one of the two things happens in
  one order only, and nothing else refuses the request.
-/
import SonicNasAcl.PushWalks
import SonicNasAcl.Reordered
import SonicNasAcl.Rollback

namespace SonicNasAcl

set_option autoImplicit false

open Lib

/-! ## What is described, in another walk -/

section Describing

variable {p : Platform} {w : Walks} {sw : NasAclSwitch} {table : NasAclTable} {obj : List CpsAttr}
  {e : NasAclEntry} {st st' : NasAclEntry × Bool}

theorem fits_walking {f : NasAclFilter} : f.Fits (p.walking w) table ↔ f.Fits p table :=
  ⟨fun fits => ⟨fits.allowed, fits.inTable⟩, fun fits => ⟨fits.allowed, fits.inTable⟩⟩

/-- A description does not depend on the walks of the call. -/
theorem describes_walking :
    Describes (p.walking w) sw table obj e st ↔ Describes p sw table obj e st := by
  refine Along.congr (List.forall₂_same.mpr fun attr _ st st' => ?_)
  unfold AttrDescribes
  rw [parseEntryAttr_walking]
  simp only [fits_walking]
  rfl

theorem describes_unique (described : Describes p sw table obj e st)
    (described' : Describes p sw table obj e st') : st = st' := by
  refine Along.unique (fun attr st st₁ st₂ here there => ?_) described described'
  unfold AttrDescribes at here there
  split at here
  · rename_i isMatch
    rw [if_pos isMatch] at there
    obtain ⟨fs, read, -, rfl⟩ := here
    obtain ⟨fs', read', -, rfl⟩ := there
    cases read.symm.trans read'
    rfl
  · rename_i other
    rw [if_neg other] at there
    exact Except.ok.inj (here.symm.trans there)

/-- What is described has its actions from reading. -/
theorem describes_closed {P : NasAclEntry → Prop} (closed : ClosedUnderReads p sw table P)
    (ofActions : ∀ e e', e'.alist = e.alist → P e → P e') (first : P e)
    (described : Describes p sw table obj e st) : P st.1 := by
  refine Along.keeps (P := fun st => P st.1) (fun attr st st' pre step => ?_) first described
  unfold AttrDescribes at step
  split at step
  · obtain ⟨fs, -, -, rfl⟩ := step
    refine ofActions _ _ ?_ pre
    unfold NasAclEntry.giveFilters NasAclEntry.resetFilters
    split
    · rfl
    · rfl
  · exact parseEntryAttr_closed closed pre step

end Describing

/-! ## Requests in another walk -/

/-- The request in a call that walks the hash maps in other orders. -/
def Request.walking (r : Request) (w : Walks) : Request := { r with platform := r.platform.walking w }

/-- Either request succeeds just when the other does, and leaves the same store. -/
def SameStored (r r' : Request) (sw : NasAclSwitch) : Prop :=
  ∀ s, (∃ sw', r.run sw = (.returned (.ok ()), sw') ∧ sw'.store = s) ↔
    ∃ sw', r'.run sw = (.returned (.ok ()), sw') ∧ sw'.store = s

/-- The entry a request describes, with its NPUs, and those of them that it is new on. -/
inductive Request.NewOn (r : Request) (sw : NasAclSwitch) : NasAclEntry → NpuSet → Prop
  | create {table : NasAclTable} {eid : Option NasObjId} {st : NasAclEntry × Bool} {e : NasAclEntry}
      (op : r.op = .create) (key : cpsOpKeyExtract sw r.obj = .ok ⟨table, eid, none⟩)
      (described : Describes r.platform sw table r.obj.attrs (.new r.platform table.tableId) st)
      (placed : st.1.npusForCreate r.platform table = .ok e) : r.NewOn sw e e.npuList
  | set {table : NasAclTable} {id : NasObjId} {old : NasAclEntry} {st : NasAclEntry × Bool}
      {e : NasAclEntry} (op : r.op = .set)
      (key : cpsOpKeyExtract sw r.obj = .ok ⟨table, some id, none⟩)
      (stored : sw.getEntry table.tableId id = .ok old)
      (described : Describes r.platform sw table r.obj.attrs old st)
      (placed : st.1.npusForModify r.platform table = .ok e) :
      r.NewOn sw e (e.npuList \ old.npuList)

/-- Where the entry is installed, walking its filters comes to an end without an interface that is
no port. -/
def Request.FiltersEnd (r : Request) (sw : NasAclSwitch) (w : Walks) : Prop :=
  ∀ e npus, r.NewOn sw e npus → ∀ npuId ∈ npus, e.FiltersEnd r.platform w npuId

/-- In some walk of the maps nothing refuses what the request describes. -/
def Request.StandsSomehow (r : Request) (sw : NasAclSwitch) (s : Store) : Prop :=
  ∃ w sw', (r.walking w).Stands sw sw' ∧ sw'.store = s

section Walks

open NasAclEntry

variable {r : Request} {w w' : Walks} {sw sw' : NasAclSwitch} {table : NasAclTable}
  {eid : Option NasObjId} {old new e : NasAclEntry}

theorem commitCreate_ok {p : Platform} {o : Oracle} {rb : Bool} {e' : NasAclEntry} :
    e.commitCreate p o sw table rb = .ok e' ↔ ∃ x, e.checkCreate p sw table = .ok x ∧
      ∃ ids, o.entryCreate ⟨p, sw, table⟩ x rb = .ok ids ∧ e' = x.committed ids := by
  simp only [NasAclEntry.commitCreate, except_bind_ok, Except.ok.injEq, @eq_comm NasAclEntry _ e']

/-- The NPUs of a new entry do not depend on its id. -/
theorem npusForCreate_id {p : Platform} {id : NasObjId}
    (placed : { new with entryId := id }.npusForCreate p table = .ok e) :
    ∃ x, new.npusForCreate p table = .ok x ∧ e = { x with entryId := id } := by
  obtain ⟨rfl, inside⟩ := npusForCreate_ok.mp placed
  refine ⟨_, npusForCreate_ok.mpr ⟨rfl, inside⟩, ?_⟩
  split <;> rfl

/-- Where a push creates an entry in one walk, it does in another where copying the filters
comes to an end. -/
theorem createsOn_walking_iff {p : Platform} {npuId : NpuId} (counterOn : e.CounterOn sw npuId)
    (counts : e.CountsByObject) (each : e.TakesOneEach)
    (creates : e.CreatesOn ⟨p.walking w, sw, table⟩ npuId) :
    e.CreatesOn ⟨p.walking w', sw, table⟩ npuId ↔ e.FiltersEnd p w' npuId := by
  rw [createsOn_iff counterOn counts]
  exact creatable_walking_iff each ((createsOn_iff counterOn counts).mp creates)

theorem creates_filtersEnd (sees : r.oracle.SeesPushes r.platform) (each : new.TakesOneEach)
    (counts : new.CountsByObject) (made : (r.walking w).Creates sw table eid new sw')
    (placed : new.npusForCreate r.platform table = .ok e) :
    ∀ npuId ∈ e.npuList, e.FiltersEnd r.platform w npuId := by
  obtain ⟨-, id, g, sw₁, -, _, committed, -⟩ := made
  obtain ⟨x, checked, ids, done, -⟩ := commitCreate_ok.mp committed
  obtain ⟨placed', counted⟩ := checkCreate_ok.mp checked
  have actions : x.alist = new.alist := (npusForCreate_frame placed').2.2.2.1
  obtain ⟨x₀, same, rfl⟩ := npusForCreate_id placed'
  cases placed.symm.trans same
  intro npuId mem
  have creates := sees.created _ _ _ _ _ ids done npuId mem
  exact (createsOn_walking_iff
    (counterOn_of_covers (checkCounter_store.mp counted) (fun _ _ => rfl) npuId mem)
    (countsByObject_of_actions actions counts) (takesOneEach_of_actions actions each) creates).mp creates

theorem creates_elsewhere (sees : r.oracle.SeesPushes r.platform) (each : new.TakesOneEach)
    (counts : new.CountsByObject) (made : (r.walking w).Creates sw table eid new sw')
    (ends : ∀ e, new.npusForCreate r.platform table = .ok e →
      ∀ npuId ∈ e.npuList, e.FiltersEnd r.platform w' npuId) :
    ∃ sw₁, (r.walking w').Creates sw table eid new sw₁ ∧ sw₁.store = sw'.store := by
  obtain ⟨free, id, g, sw₀, took, _, committed, saved⟩ := made
  obtain ⟨x, checked, ids, done, rfl⟩ := commitCreate_ok.mp committed
  obtain ⟨placed, counted⟩ := checkCreate_ok.mp checked
  have actions : x.alist = new.alist := (npusForCreate_frame placed).2.2.2.1
  obtain ⟨x₀, placed₀, rfl⟩ := npusForCreate_id placed
  have creates := sees.created _ _ _ _ _ ids done
  have creates' : ∀ npuId ∈ x₀.npuList, NasAclEntry.CreatesOn { x₀ with entryId := id }
      ⟨r.platform.walking w', sw₀, table⟩ npuId := fun npuId mem =>
    (createsOn_walking_iff
      (counterOn_of_covers (checkCounter_store.mp counted) (fun _ _ => rfl) npuId mem)
      (countsByObject_of_actions actions counts) (takesOneEach_of_actions actions each)
      (creates npuId mem)).mpr (ends x₀ placed₀ npuId mem)
  obtain ⟨ids', done'⟩ := sees.creates w w' _ _ _ _ ids done fun npuId mem =>
    iff_of_true (creates npuId mem) (creates' npuId mem)
  have alike : ∃ sw₁, sw₀.saveEntry (NasAclEntry.committed ids' { x₀ with entryId := id }) = .ok sw₁ ∧
      sw₁.store = sw'.store := by
    refine saveEntry_alike rfl ?_ saved
    rfl
  obtain ⟨sw₁, saved', same⟩ := alike
  exact ⟨sw₁, ⟨free, id, g, sw₀, took, _, commitCreate_ok.mpr ⟨_, checked, ids', done', rfl⟩,
    saved'⟩, same⟩

theorem replaces_filtersEnd (sees : r.oracle.SeesPushes r.platform) (each : new.TakesOneEach)
    (counts : new.CountsByObject) (made : (r.walking w).Replaces sw table old new sw')
    (placed : new.npusForModify r.platform table = .ok e) :
    ∀ npuId ∈ e.npuList \ old.npuList, e.FiltersEnd r.platform w npuId := by
  obtain ⟨x, checked, ids, done, -⟩ := made
  obtain ⟨placed', counted⟩ := checkModify_ok.mp checked
  cases placed.symm.trans placed'
  have actions : e.alist = new.alist := (npusForModify_frame placed).2.2.2.1
  intro npuId mem
  have creates := sees.added _ _ _ _ _ _ ids done npuId mem
  exact (createsOn_walking_iff
    (counterOn_of_covers (checkCounter_store.mp counted) (fun _ _ => rfl) npuId
      (Finset.mem_sdiff.mp mem).1)
    (countsByObject_of_actions actions counts) (takesOneEach_of_actions actions each) creates).mp creates

theorem replaces_elsewhere (sees : r.oracle.SeesPushes r.platform) (each : new.TakesOneEach)
    (counts : new.CountsByObject) (made : (r.walking w).Replaces sw table old new sw')
    (ends : ∀ e, new.npusForModify r.platform table = .ok e →
      ∀ npuId ∈ e.npuList \ old.npuList, e.FiltersEnd r.platform w' npuId) :
    ∃ sw₁, (r.walking w').Replaces sw table old new sw₁ ∧ sw₁.store = sw'.store := by
  obtain ⟨e, checked, ids, done, saved⟩ := made
  obtain ⟨placed, counted⟩ := checkModify_ok.mp checked
  have actions : e.alist = new.alist := (npusForModify_frame placed).2.2.2.1
  have counts := countsByObject_of_actions actions counts
  have each := takesOneEach_of_actions actions each
  have creates := sees.added _ _ _ _ _ _ ids done
  have creates' : ∀ npuId ∈ e.npuList \ old.npuList,
      e.CreatesOn ⟨r.platform.walking w', sw, table⟩ npuId := fun npuId mem =>
    (createsOn_walking_iff (counterOn_of_covers (checkCounter_store.mp counted) (fun _ _ => rfl) npuId
      (Finset.mem_sdiff.mp mem).1) counts each (creates npuId mem)).mpr (ends e placed npuId mem)
  obtain ⟨ids', done'⟩ := sees.modifies w w' _ _ _ _ _ ids done (pushesAlike counts each
    fun npuId mem => iff_of_true (creates npuId mem) (creates' npuId mem))
  have alike (left : NdiObjIdTable) : ∃ sw₁, (sw.setEntryIds old.tableId old.entryId left).saveEntry
      (e.committed ids') = .ok sw₁ ∧ sw₁.store = sw'.store := by
    refine saveEntry_alike ?_ ?_ saved
    · rw [store_setEntryIds, store_setEntryIds]
    · rfl
  obtain ⟨sw₁, saved', same⟩ := alike _
  exact ⟨sw₁, ⟨e, checked, ids', done', saved'⟩, same⟩

end Walks

/-! ## Requests that stand -/

section Stands

variable {r : Request} {w w' : Walks} {sw sw' : NasAclSwitch} {s : Store}

/-- A request that stands in one walk has the filters of its entry copied in it. -/
theorem stands_filtersEnd (reached : Reached (fun _ _ => True) sw)
    (sees : r.oracle.SeesPushes r.platform) (stands : (r.walking w).Stands sw sw') :
    r.FiltersEnd sw w := by
  obtain ⟨-, table, eid, key,
    ⟨op, new, read, made⟩ | ⟨op, id, old, new, rfl, stored, read, made⟩⟩ := stands
  · have read := describes_walking.mp read
    have each := describes_closed closed_takesOneEach (fun _ _ => takesOneEach_of_actions)
      (fun t a found => by cases found) read
    have counts := describes_closed closed_countsByObject (fun _ _ => countsByObject_of_actions)
      (fun a found => by cases found) read
    rintro e npus (⟨op', key', read', placed⟩ | ⟨op', -⟩)
    · cases key.symm.trans key'
      obtain rfl := describes_unique read read'
      exact creates_filtersEnd sees each counts made placed
    · cases op.symm.trans op'
  · have read := describes_walking.mp read
    have each := describes_closed closed_takesOneEach (fun _ _ => takesOneEach_of_actions)
      (stored_takesOneEach reached stored) read
    have counts := describes_closed closed_countsByObject (fun _ _ => countsByObject_of_actions)
      (stored_countsByObject reached stored) read
    rintro e npus (⟨op', -⟩ | ⟨op', key', stored', read', placed⟩)
    · cases op.symm.trans op'
    · cases key.symm.trans key'
      cases stored.symm.trans stored'
      obtain rfl := describes_unique read read'
      exact replaces_filtersEnd sees each counts made placed

/-- It stands in any other walk that has them copied. -/
theorem stands_elsewhere (reached : Reached (fun _ _ => True) sw)
    (sees : r.oracle.SeesPushes r.platform) (ends : r.FiltersEnd sw w')
    (stands : (r.walking w).Stands sw sw') :
    ∃ sw₁, (r.walking w').Stands sw sw₁ ∧ sw₁.store = sw'.store := by
  obtain ⟨cat, table, eid, key,
    ⟨op, new, read, made⟩ | ⟨op, id, old, new, rfl, stored, read, made⟩⟩ := stands
  · have read := describes_walking.mp read
    have each := describes_closed closed_takesOneEach (fun _ _ => takesOneEach_of_actions)
      (fun t a found => by cases found) read
    have counts := describes_closed closed_countsByObject (fun _ _ => countsByObject_of_actions)
      (fun a found => by cases found) read
    obtain ⟨sw₁, made', same⟩ := creates_elsewhere sees each counts made fun e placed =>
      ends e _ (.create op key read placed)
    exact ⟨sw₁, ⟨cat, table, eid, key, .inl ⟨op, new, describes_walking.mpr read, made'⟩⟩, same⟩
  · have read := describes_walking.mp read
    have each := describes_closed closed_takesOneEach (fun _ _ => takesOneEach_of_actions)
      (stored_takesOneEach reached stored) read
    have counts := describes_closed closed_countsByObject (fun _ _ => countsByObject_of_actions)
      (stored_countsByObject reached stored) read
    obtain ⟨sw₁, made', same⟩ := replaces_elsewhere sees each counts made fun e placed =>
      ends e _ (.set op key stored read placed)
    exact ⟨sw₁, ⟨cat, table, some id, key,
      .inr ⟨op, id, old, new, rfl, stored, describes_walking.mpr read, made'⟩⟩, same⟩

/-- A request stands in a walk when it stands in some, and has its filters copied in this one. -/
theorem stands_iff (reached : Reached (fun _ _ => True) sw) (sees : r.oracle.SeesPushes r.platform) :
    (∃ sw', (r.walking w).Stands sw sw' ∧ sw'.store = s) ↔ r.StandsSomehow sw s ∧ r.FiltersEnd sw w := by
  constructor
  · rintro ⟨sw', stands, same⟩
    exact ⟨⟨w, sw', stands, same⟩, stands_filtersEnd reached sees stands⟩
  · rintro ⟨⟨w₁, sw', stands, same⟩, ends⟩
    obtain ⟨sw₁, stands', same'⟩ := stands_elsewhere reached sees ends stands
    exact ⟨sw₁, stands', same'.trans same⟩

/-- The order of the elements of a request, and of the maps they are put in, makes a difference
exactly when in one order only a port filter comes after one that has ports, or an interface that
is no port is met where the entry is installed, and nothing else refuses the request. -/
theorem reordered_sameStored_iff (reached : Reached (fun _ _ => True) sw) (whole : r.Whole)
    (sees : r.oracle.SeesPushes r.platform) (lists : PlainLists r.obj.attrs) {attrs' : List CpsAttr}
    (reordered : List.Forall₂ CpsAttr.Reordered r.obj.attrs attrs') (w : Walks) :
    SameStored r ((r.withAttrs attrs').walking w) sw ↔
      ((PortsLast (requestFilters r.platform r.obj.attrs) ∧ r.FiltersEnd sw r.platform.toWalks) ↔
        (PortsLast (requestFilters r.platform attrs') ∧ r.FiltersEnd sw w)) ∨
      ¬ ∃ s, r.StandsSomehow sw s := by
  have under {r' : Request} {last : Prop} {w : Walks} (ran : ∀ sw', r'.run sw = (.returned (.ok ()), sw') ↔
      (r.walking w).Stands sw sw' ∧ last) (s : Store) :
      (∃ sw', r'.run sw = (.returned (.ok ()), sw') ∧ sw'.store = s) ↔
        r.StandsSomehow sw s ∧ last ∧ r.FiltersEnd sw w := by
    rw [and_left_comm, ← stands_iff reached sees, ← exists_and_left]
    refine exists_congr fun sw' => ?_
    rw [ran, and_left_comm, and_assoc]
  have whole' : ((r.withAttrs attrs').walking w).Whole := ⟨whole.entry, whole.op, whole.plain⟩
  have here (sw' : NasAclSwitch) : r.run sw = (.returned (.ok ()), sw') ↔
      (r.walking r.platform.toWalks).Stands sw sw' ∧ PortsLast (requestFilters r.platform r.obj.attrs) :=
    run_stands_iff reached whole lists
  have there (sw' : NasAclSwitch) : ((r.withAttrs attrs').walking w).run sw = (.returned (.ok ()), sw') ↔
      (r.walking w).Stands sw sw' ∧ PortsLast (requestFilters r.platform attrs') := by
    rw [run_stands_iff reached whole' (lists.reordered reordered)]
    have same : ((r.walking w).withAttrs attrs').Stands sw sw' ↔ (r.walking w).Stands sw sw' :=
      stands_reordered lists reordered
    exact and_congr_left fun _ => same
  exact alike_iff (under here) (under there)

end Stands

/-! ### On the bench -/

namespace Bench

/-- Table 1, for the port filters and a DSCP. -/
def portsTable : List Request := [createTable [.inPorts, .inPort, .outPorts, .dscp]]

/-- An entry that is pushed. -/
def pushedEntry (filters : List (List CpsAttr)) : Request := pushing (orderedEntry filters)

end Bench

theorem SameStored.accepts {r r' : Request} {sw : NasAclSwitch} (same : SameStored r r' sw)
    (accepted : (r.run sw).1 = .returned (.ok ())) : (r'.run sw).1 = .returned (.ok ()) := by
  obtain ⟨sw', ran, -⟩ := (same (r.run sw).2.store).mp ⟨_, Prod.ext accepted rfl, rfl⟩
  rw [ran]

/-- What a request that is accepted has shown. -/
theorem last_and_ends {r : Request} {w : Walks} {sw : NasAclSwitch}
    (reached : Reached (fun _ _ => True) sw) (whole : r.Whole) (sees : r.oracle.SeesPushes r.platform)
    (lists : PlainLists r.obj.attrs) (accepted : ((r.walking w).run sw).1 = .returned (.ok ())) :
    PortsLast (requestFilters r.platform r.obj.attrs) ∧ r.FiltersEnd sw w := by
  have whole' : (r.walking w).Whole := ⟨whole.entry, whole.op, whole.plain⟩
  obtain ⟨stands, last⟩ := (run_stands_iff reached whole' lists).mp (Prod.ext accepted rfl)
  exact ⟨last, stands_filtersEnd reached sees stands⟩

def portAndDscp : Request :=
  Bench.pushedEntry [inPort3, Bench.matchElem .dscp
    [.mk (.matchValue .dscp) [] [.mk (.matchValueData .dscp) (bytesU8 10) []]]]

/-- A port and a DSCP, in either order. -/
theorem reordered_port_and_dscp :
    SameStored portAndDscp
        ((portAndDscp.withAttrs (backwards portAndDscp.obj.attrs)).walking Bench.backWalks)
        (Bench.after Bench.portsTable) ∧
      (portAndDscp.run (Bench.after Bench.portsTable)).1 = .returned (.ok ()) := by
  have reached : Reached (fun _ _ => True) (Bench.after Bench.portsTable) :=
    Reachable.after fun _ _ _ => trivial
  have sees := Bench.pushingOracle_seesPushes Bench.platform
  have lists : PlainLists portAndDscp.obj.attrs := by decide +kernel
  have reordered : List.Forall₂ CpsAttr.Reordered portAndDscp.obj.attrs
      (backwards portAndDscp.obj.attrs) := reordered_backwards (by decide +kernel)
  have whole : portAndDscp.Whole := ⟨rfl, .inl rfl, rfl⟩
  have accepted : (portAndDscp.run (Bench.after Bench.portsTable)).1 = .returned (.ok ()) := by
    decide +kernel
  have here := last_and_ends reached whole sees lists accepted
  have ends := last_and_ends reached whole sees lists (w := Bench.backWalks) (by decide +kernel)
  have last := last_and_ends (r := portAndDscp.withAttrs (backwards portAndDscp.obj.attrs)) reached
    ⟨rfl, .inl rfl, rfl⟩ sees (lists.reordered reordered) (w := Bench.platform.toWalks)
    (by decide +kernel)
  exact ⟨(reordered_sameStored_iff reached whole sees lists reordered Bench.backWalks).mpr
    (.inl (iff_of_true here ⟨last.1, ends.2⟩)), accepted⟩

def emptyPortsAndPort : Request := Bench.pushedEntry [Bench.matchElem .inPorts [], inPort3]

/-- An IN_PORTS without ports and IN_PORT are accepted in this order only. -/
theorem reordered_not_always :
    ¬ ∀ (sw : NasAclSwitch) (r : Request) (attrs' : List CpsAttr) (w : Walks),
      Reached (fun _ _ => True) sw → r.Whole → r.oracle.SeesPushes r.platform →
      PlainLists r.obj.attrs → List.Forall₂ CpsAttr.Reordered r.obj.attrs attrs' →
      SameStored r ((r.withAttrs attrs').walking w) sw := by
  intro claim
  have same := claim (Bench.after Bench.portsTable) emptyPortsAndPort
    (backwards emptyPortsAndPort.obj.attrs) Bench.platform.toWalks
    (Reachable.after fun _ _ _ => trivial) ⟨rfl, .inl rfl, rfl⟩
    (Bench.pushingOracle_seesPushes Bench.platform) (by decide +kernel)
    (reordered_backwards (by decide +kernel))
  have accepted := same.accepts (by decide +kernel)
  have refused : (((emptyPortsAndPort.withAttrs (backwards emptyPortsAndPort.obj.attrs)).walking
      Bench.platform.toWalks).run (Bench.after Bench.portsTable)).1
      = .returned (.error .inconsistent) := by decide +kernel
  cases accepted.symm.trans refused

/-- No port is in the one filter, and no port is named by the other. -/
def emptyPortsAndNoPort : Request :=
  Bench.pushedEntry [Bench.matchElem .inPorts [],
    Bench.matchElem .outPorts [Bench.u32 (.matchValue .outPorts) 17]]

-- The walk decides which of the two is met first.
example : (emptyPortsAndNoPort.run (Bench.after Bench.portsTable)).1 = .returned (.ok ()) := by
  decide +kernel

example : ((emptyPortsAndNoPort.walking Bench.backWalks).run (Bench.after Bench.portsTable)).1
    ≠ .returned (.ok ()) := by decide +kernel

end SonicNasAcl
