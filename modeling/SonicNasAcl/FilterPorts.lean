/-
# FilterPorts -- where a filter on ports is pushed

A filter on ports matches something on an NPU only if one of its ports lies there, and the
NDI is to be given exactly those ports.  A list of ports is cut down when it is copied.  A
single port is compared with the NPU before the copy, on the structure copied *to*: its
`values_type` is still zero, whatever the filter is.

* `Built.kinds`: a built filter is a list of interfaces, a port with its interface, or has
  nothing to do with ports;
* `appliesOn_iff`: which filters `copy_filter_ndi` takes;
* `pushed_where_ports_iff`: the entry is created on an NPU exactly when every filter on
  ports has one there, under the condition that no filter on a single port that lies
  elsewhere is the only one without.
-/
import SonicNasAcl.ModifyAgrees
import SonicNasAcl.Ports

namespace SonicNasAcl

set_option autoImplicit false

open Lib

/-- The filters on a list of ports. -/
abbrev MatchType.IsPortList (t : MatchType) : Prop := t ∈ [.inPorts, .outPorts]

/-- The filters on one port. -/
abbrev MatchType.IsPort (t : MatchType) : Prop := t ∈ [.inPort, .outPort]

/-! ## The ports of a filter -/

namespace NasAclFilter

variable {p : Platform} {f : NasAclFilter} {npuId : NpuId}

/-- The ports of the filter that lie on the NPU. -/
def portsOn (p : Platform) (f : NasAclFilter) (npuId : NpuId) : List NdiPort :=
  portsAt p f.ifindexList npuId

/-- A filter on ports has one on the NPU. -/
def HasPortsOn (p : Platform) (f : NasAclFilter) (npuId : NpuId) : Prop :=
  f.filterType.IsPort ∨ f.filterType.IsPortList → f.portsOn p npuId ≠ []

/-- The NDI is given exactly the filter's ports on the NPU, and any other value as it is. -/
def HandedAs (p : Platform) (f : NasAclFilter) (npuId : NpuId) (x : NdiFilter) : Prop :=
  x.filterType = f.filterType ∧
    if f.filterType.IsPortList then x.values = .portlist (f.portsOn p npuId)
    else if f.filterType.IsPort then ∃ q, f.portsOn p npuId = [q] ∧ x.values = .port q
    else x.values = f.fInfo.values

/-! ## Built filters -/

/-- The three kinds of a built filter. -/
inductive Kind (p : Platform) (f : NasAclFilter) : Prop where
  | portList (type : f.filterType.IsPortList) (value : f.fInfo.values = .portlist [])
  | port (type : f.filterType.IsPort) (i : IfIndex) (q : NdiPort) (listed : f.ifindexList = [i])
      (known : utlIfidxToNdiPort p i = .ok q) (value : f.fInfo.values = .port q)
  | other (type : ¬ f.filterType.IsPort) (type' : ¬ f.filterType.IsPortList) (plain : f.Plain p)

theorem Built.kinds (built : f.Built p) : f.Kind p := by
  obtain ⟨l, set⟩ := built
  generalize named : f.filterType = t at set
  cases t
  case inPorts | outPorts =>
    refine .portList (by rw [named]; decide) ?_
    cases set
    rfl
  case inPort | outPort =>
    obtain ⟨data, -, port, known, made⟩ := setFilterIfindex_ok.mp set
    exact .port (by rw [named]; decide) data.ifindex port (congrArg ifindexList made) known
      (congrArg (fun f => f.fInfo.values) made)
  case srcIpv6 | dstIpv6 | srcMac | dstMac | srcIp | dstIp =>
    exact .other (by rw [named]; decide) (by rw [named]; decide)
      (setBytesFilterVal_plain (by simp [NdiFilterValue.valuesType]) set)
  case ipType =>
    obtain ⟨data, -, ipType, -, made⟩ := setIpTypeFilterVal_ok.mp set
    exact .other (by rw [named]; decide) (by rw [named]; decide)
      (by
        rw [made]
        exact ⟨rfl, FilterValuesType.noConfusion, FilterValuesType.noConfusion⟩)
  case ipFrag =>
    obtain ⟨data, -, ipFrag, -, made⟩ := setIpFragFilterVal_ok.mp set
    exact .other (by rw [named]; decide) (by rw [named]; decide)
      (by
        rw [made]
        exact ⟨rfl, FilterValuesType.noConfusion, FilterValuesType.noConfusion⟩)
  all_goals
    exact .other (by rw [named]; decide) (by rw [named]; decide)
      (setScalarFilterVal_plain (by simp [NdiFilterValue.valuesType]) set)

theorem Built.portlist_iff (built : f.Built p) :
    f.fInfo.values.valuesType p = .portlist ↔ f.filterType.IsPortList := by
  cases built.kinds with
  | portList type value =>
      rw [value]
      exact iff_of_true rfl type
  | port type i q listed known value =>
      rw [value]
      refine iff_of_false FilterValuesType.noConfusion ?_
      rcases List.mem_pair.mp type with here | here <;> rw [here] <;> decide
  | other type type' plain => exact iff_of_false plain.2.2 type'

/-! ## Copying a filter -/

/-- The test of `copy_filter_ndi` on the structure it copies to passes. -/
def PassesPortTest (p : Platform) (f : NasAclFilter) (npuId : NpuId) : Prop :=
  p.zeroValuesType = .port → f.fInfo.values.npuIdField p = npuId

theorem copyFilterNdi_some {x : NdiFilter} :
    f.copyFilterNdi p p.zeroValuesType npuId = .ok (some x) ↔ f.PassesPortTest p npuId ∧
      if f.fInfo.values.valuesType p = .portlist then
        (∀ i ∈ f.ifindexList, KnownPort p i) ∧ f.portsOn p npuId ≠ [] ∧
          x = { f.fInfo with values := .portlist (f.portsOn p npuId) }
      else x = f.fInfo := by
  unfold copyFilterNdi PassesPortTest
  by_cases test : p.zeroValuesType = .port ∧ f.fInfo.values.npuIdField p ≠ npuId
  · rw [if_pos test]
    refine iff_of_false nofun ?_
    rintro ⟨passes, -⟩
    exact test.2 (passes test.1)
  · have passes : p.zeroValuesType = .port → f.fInfo.values.npuIdField p = npuId := by
      intro zero
      by_contra other
      exact test ⟨zero, other⟩
    rw [if_neg test, and_iff_right passes]
    by_cases list : f.fInfo.values.valuesType p = .portlist
    · rw [if_pos list, if_pos list, except_bind_ok]
      simp only [ndiPorts_ok]
      constructor
      · rintro ⟨ports, ⟨known, rfl⟩, copied⟩
        refine ⟨known, ?_⟩
        split at copied
        · cases copied
        · rename_i some_
          cases copied
          exact ⟨some_, rfl⟩
      · rintro ⟨known, some_, rfl⟩
        refine ⟨_, ⟨known, rfl⟩, ?_⟩
        split
        · rename_i none_
          exact absurd none_ some_
        · rfl
    · rw [if_neg list, if_neg list, Except.ok.injEq, Option.some.injEq, eq_comm]

/-- A built filter is taken where it passes the test and, if it is a list of ports, has one
there. -/
theorem appliesOn_iff (built : f.Built p) : f.AppliesOn p npuId ↔ f.PassesPortTest p npuId ∧
    (f.filterType.IsPortList →
      (∀ i ∈ f.ifindexList, KnownPort p i) ∧ f.portsOn p npuId ≠ []) := by
  unfold AppliesOn
  simp only [copyFilterNdi_some, built.portlist_iff]
  by_cases list : f.filterType.IsPortList
  · simp only [list, true_implies]
    constructor
    · rintro ⟨x, passes, known, some_, -⟩
      exact ⟨passes, known, some_⟩
    · rintro ⟨passes, known, some_⟩
      exact ⟨_, passes, known, some_, rfl⟩
  · simp only [list, false_implies, and_true]
    constructor
    · rintro ⟨x, passes, -⟩
      exact passes
    · intro passes
      exact ⟨_, passes, rfl⟩

/-- What a filter with ports on the NPU is copied to has exactly those ports. -/
theorem handedAs_of_copied {x : NdiFilter} (built : f.Built p) (here : f.HasPortsOn p npuId)
    (copied : f.copyFilterNdi p p.zeroValuesType npuId = .ok (some x)) : f.HandedAs p npuId x := by
  have value := (copyFilterNdi_some.mp copied).2
  refine ⟨copyFilterNdi_type copied, ?_⟩
  by_cases list : f.filterType.IsPortList
  · rw [if_pos (built.portlist_iff.mpr list)] at value
    rw [if_pos list, value.2.2]
  · rw [if_neg (mt built.portlist_iff.mp list)] at value
    rw [if_neg list, value]
    by_cases port : f.filterType.IsPort
    · rw [if_pos port]
      cases built.kinds with
      | portList type value => exact absurd type list
      | other type type' plain => exact absurd port type
      | port type i q listed known value =>
          have there := here (.inl port)
          refine ⟨q, ?_, value⟩
          unfold portsOn at there ⊢
          rw [listed, portsAt_singleton known] at there ⊢
          by_cases same : q.npuId = npuId
          · rw [if_pos same]
          · rw [if_neg same] at there
            exact absurd rfl there
    · rw [if_neg port]

end NasAclFilter

/-! ## Creating an entry -/

section Create

variable {p : Platform} {o : NdiReplies} {sw : NasAclSwitch} {table : NasAclTable}
  {npuId : NpuId} {e e' : NasAclEntry} {s s' : Ndi}

/-- The entry is created exactly when it has an image and the call succeeds. -/
theorem pushCreate_true :
    pushCreateObjToNpu p o sw table npuId e s = (.ok (true, e'), s') ↔
      o.rc s.calls = .ok () ∧ ∃ x, e.ndiImage p sw table npuId = some x ∧
        e' = { e with ndiEntryIds := e.ndiEntryIds.insert npuId (o.entryId npuId) } ∧
        s' = { s.putEntry npuId (o.entryId npuId) x with calls := s.calls + 1 } := by
  unfold pushCreateObjToNpu
  constructor
  · intro ran
    obtain ⟨tableId, known, ran⟩ := Eff.query_bind_ok.mp ran
    obtain ⟨r, copied, ran⟩ := Eff.query_bind_ok.mp ran
    cases r with
    | none => cases ran
    | some filters =>
        obtain ⟨actions, translated, ran⟩ := Eff.query_bind_ok.mp ran
        obtain ⟨u, mid, called, returned⟩ := Eff.bind_ok.mp ran
        have image := ndiImage_eq_some.mpr
          ⟨tableId, filters, actions, known, copied, translated, rfl⟩
        unfold ndiAclEntryCreate ndiCall at called
        split at called
        · rename_i fine
          cases called
          cases returned
          exact ⟨fine, _, image, rfl, rfl⟩
        · cases called
  · rintro ⟨fine, x, image, rfl, rfl⟩
    obtain ⟨tableId, filters, actions, known, copied, translated, rfl⟩ := ndiImage_eq_some.mp image
    rw [known, copied, translated]
    refine Eff.bind_of_ok (a := ()) ?_
    simp only [ndiAclEntryCreate, ndiCall, fine]

/-- Every filter on ports has one on the NPU. -/
def NasAclEntry.HasPortsOn (p : Platform) (e : NasAclEntry) (npuId : NpuId) : Prop :=
  ∀ t f, e.flist.find t = some f → f.HasPortsOn p npuId

/-- Nothing else keeps the entry from being created: the table is on the NPU, the actions
translate there, the interfaces of lists are ports, and the call succeeds. -/
structure PushPossible (p : Platform) (o : NdiReplies) (sw : NasAclSwitch) (table : NasAclTable)
    (npuId : NpuId) (e : NasAclEntry) (s : Ndi) : Prop where
  table : ∃ id, table.getNdiObjId npuId = .ok id
  actions : ∃ actions, copyAllActionsNdi p sw e npuId = .ok actions
  ports : ∀ t f, e.flist.find t = some f → f.filterType.IsPortList →
    ∀ i ∈ f.ifindexList, KnownPort p i
  call : o.rc s.calls = .ok ()

/-- An entry is created on the NPUs its filters have ports on, with exactly those ports. -/
structure PushedWherePorts (p : Platform) (o : NdiReplies) (sw : NasAclSwitch)
    (table : NasAclTable) (npuId : NpuId) (e : NasAclEntry) (s : Ndi) : Prop where
  created_iff : (∃ e' s', pushCreateObjToNpu p o sw table npuId e s = (.ok (true, e'), s')) ↔
    e.HasPortsOn p npuId
  handed : ∀ e' s', pushCreateObjToNpu p o sw table npuId e s = (.ok (true, e'), s') →
    ∃ x, s'.entries npuId (o.entryId npuId) = some x ∧
      ∀ t, Option.Rel (fun f y => f.HandedAs p npuId y) (e.flist.find t) (x.filters.find t)

/-- Every filter passes the test on the structure it is copied to. -/
def NasAclEntry.PassesPortTests (p : Platform) (e : NasAclEntry) (npuId : NpuId) : Prop :=
  ∀ t f, e.flist.find t = some f → f.PassesPortTest p npuId

/-- A list of ports has none on the NPU. -/
def NasAclEntry.LacksPortList (p : Platform) (e : NasAclEntry) (npuId : NpuId) : Prop :=
  ∃ t f, e.flist.find t = some f ∧ f.filterType.IsPortList ∧ f.portsOn p npuId = []

/-- An entry is created unless something else stops it, a filter fails the test, or a list of
ports has none on the NPU. -/
theorem created_iff (built : ∀ t f, e.flist.find t = some f → f.Built p) :
    (∃ e' s', pushCreateObjToNpu p o sw table npuId e s = (.ok (true, e'), s')) ↔
      PushPossible p o sw table npuId e s ∧ e.PassesPortTests p npuId ∧
        ¬ e.LacksPortList p npuId := by
  have filters : (∃ xs, copyAllFiltersNdi p npuId (e.flist.items p.matchOrder) = .ok (some xs)) ↔
      ∀ t f, e.flist.find t = some f → f.AppliesOn p npuId := by
    simp only [copyAllFiltersNdi_ok, exists_and_left, exists_eq, and_true]
    exact all_apply_iff
  simp only [pushCreate_true, ndiImage_eq_some]
  constructor
  · rintro ⟨-, -, fine, x, ⟨tableId, xs, actions, known, copied, translated, -⟩, -, -⟩
    have applies := filters.mp ⟨xs, copied⟩
    refine ⟨⟨⟨tableId, known⟩, ⟨actions, translated⟩, ?_, fine⟩, ?_, ?_⟩
    · intro t f found list
      exact (((NasAclFilter.appliesOn_iff (built t f found)).mp (applies t f found)).2 list).1
    · intro t f found
      exact ((NasAclFilter.appliesOn_iff (built t f found)).mp (applies t f found)).1
    · rintro ⟨t, f, found, list, none_⟩
      exact (((NasAclFilter.appliesOn_iff (built t f found)).mp (applies t f found)).2 list).2 none_
  · rintro ⟨⟨⟨tableId, known⟩, ⟨actions, translated⟩, ports, fine⟩, passes, some_⟩
    have applies : ∀ t f, e.flist.find t = some f → f.AppliesOn p npuId := by
      intro t f found
      refine (NasAclFilter.appliesOn_iff (built t f found)).mpr ⟨passes t f found, fun list => ?_⟩
      exact ⟨ports t f found list, fun none_ => some_ ⟨t, f, found, list, none_⟩⟩
    obtain ⟨xs, copied⟩ := filters.mpr applies
    exact ⟨_, _, fine, _, ⟨tableId, xs, actions, known, copied, translated, rfl⟩, rfl, rfl⟩

/-- The filters of an entry that was created have exactly their ports on the NPU, if each has
one. -/
theorem handed_of_created (built : ∀ t f, e.flist.find t = some f → f.Built p)
    (here : e.HasPortsOn p npuId)
    (created : pushCreateObjToNpu p o sw table npuId e s = (.ok (true, e'), s')) :
    ∃ x, s'.entries npuId (o.entryId npuId) = some x ∧
      ∀ t, Option.Rel (fun f y => f.HandedAs p npuId y) (e.flist.find t) (x.filters.find t) := by
  obtain ⟨-, x, image, -, rfl⟩ := pushCreate_true.mp created
  refine ⟨x, ?_, fun t => ?_⟩
  · simp only [Ndi.putEntry, and_self, if_true]
  · obtain ⟨_, filters, _, -, copied, -, rfl⟩ := ndiImage_eq_some.mp image
    obtain ⟨applies, rfl⟩ := copyAllFiltersNdi_ok.mp copied
    have pushed : (Keyed.ofItems ((e.flist.items p.matchOrder).flatMap
        ((filterPushing p).values · npuId)) : Keyed NdiFilter.filterType).find t
          = (e.flist.find t).bind fun f => ((filterPushing p).values f npuId).head? :=
      Pushing.find_image (k := filterPushing p) (fun _ _ => filter_single) t
    simp only
    rw [pushed]
    cases found : e.flist.find t with
    | none => exact .none
    | some f =>
        obtain ⟨y, copied, one⟩ := (all_apply_iff.mp applies t f found).values
        rw [Option.bind_some, one]
        exact .some (NasAclFilter.handedAs_of_copied (built t f found) (here t f found) copied)

end Create

/-- An entry is created on exactly the NPUs where every filter on ports has one, when: where
they have, nothing else stops it; where one has not, something else stops it, or the filter
is a list of ports (or fails the test on the structure it is copied to). -/
theorem pushed_where_ports_iff {p : Platform} {o : NdiReplies} {sw : NasAclSwitch}
    {table : NasAclTable} {npuId : NpuId} {e : NasAclEntry} {s : Ndi}
    (built : ∀ t f, e.flist.find t = some f → f.Built p) :
    PushedWherePorts p o sw table npuId e s ↔
      (e.HasPortsOn p npuId → PushPossible p o sw table npuId e s ∧ e.PassesPortTests p npuId) ∧
      (¬ e.HasPortsOn p npuId → ¬ PushPossible p o sw table npuId e s ∨
        ¬ e.PassesPortTests p npuId ∨ e.LacksPortList p npuId) := by
  have lists : e.HasPortsOn p npuId → ¬ e.LacksPortList p npuId := by
    rintro here ⟨t, f, found, list, none_⟩
    exact here t f found (.inr list) none_
  constructor
  · rintro ⟨created, -⟩
    rw [created_iff built] at created
    refine ⟨fun here => ?_, fun absent => ?_⟩
    · obtain ⟨possible, passes, -⟩ := created.mpr here
      exact ⟨possible, passes⟩
    · by_contra neither
      obtain ⟨possible, passes, some_⟩ : _ ∧ _ ∧ _ := by
        simpa only [not_or, not_not] using neither
      exact absent (created.mp ⟨possible, passes, some_⟩)
  · rintro ⟨wanted, unwanted⟩
    have created : (∃ e' s', pushCreateObjToNpu p o sw table npuId e s = (.ok (true, e'), s')) ↔
        e.HasPortsOn p npuId := by
      rw [created_iff built]
      constructor
      · rintro ⟨possible, passes, some_⟩
        by_contra absent
        rcases unwanted absent with stopped | fails | none_
        · exact stopped possible
        · exact fails passes
        · exact some_ none_
      · intro here
        obtain ⟨possible, passes⟩ := wanted here
        exact ⟨possible, passes, lists here⟩
    exact ⟨created, fun e' s' ran => handed_of_created built (created.mp ⟨e', s', ran⟩) ran⟩

/-! ### On the bench -/

namespace Bench

/-- An entry with one filter, on the bench. -/
def filtered (f : NasAclFilter) : NasAclEntry :=
  (NasAclEntry.new platform 1).withFilters (.ofItems [f])

/-- A filter on one port. -/
def outPort (i : IfIndex) (q : NdiPort) : NasAclFilter := ⟨⟨.outPort, .port q⟩, [i]⟩

/-- Nothing stops an entry without actions on an NPU of the bench. -/
theorem push_possible {f : NasAclFilter}
    (ports : f.filterType.IsPortList → ∀ i ∈ f.ifindexList, KnownPort platform i) :
    PushPossible platform replies .new installedTable 0 (filtered f) emptyNdi where
  table := ⟨9, by decide +kernel⟩
  actions := by
    have none_ : (NasAclEntry.new platform 1).alist.items platform.actionOrder = [] := by
      decide +kernel
    have none_' : (filtered f).alist.items platform.actionOrder = [] := none_
    exact ⟨[], by rw [copyAllActionsNdi, none_']; rfl⟩
  ports t g found := by
    rw [Keyed.eq_of_find_singleton found]
    exact ports
  call := rfl

end Bench

/-- A list with a port on the NPU is pushed there. -/
theorem inPorts_pushed_where_ports :
    PushedWherePorts Bench.platform Bench.replies .new Bench.installedTable 0
      (Bench.filtered (Bench.inPorts [1])) Bench.emptyNdi := by
  have here : (Bench.filtered (Bench.inPorts [1])).HasPortsOn Bench.platform 0 := by
    intro t f found
    rw [Keyed.eq_of_find_singleton found]
    exact fun _ => by decide +kernel
  have known : KnownPort Bench.platform 1 := ⟨⟨0, 1⟩, by decide +kernel⟩
  refine (pushed_where_ports_iff (o := Bench.replies) (s := Bench.emptyNdi)
    Bench.onPorts_built).mpr ⟨fun _ => ⟨Bench.push_possible ?_, fun t f found zero => ?_⟩,
      fun absent => absurd here absent⟩
  · intro _ i mem
    rw [List.mem_singleton.mp mem]
    exact known
  · cases zero

/-- A filter on port 9 alone, which lies on NPU 1, is pushed to NPU 0. -/
theorem pushed_without_port :
    ¬ ∀ (p : Platform) (o : NdiReplies) (sw : NasAclSwitch) (table : NasAclTable)
      (npuId : NpuId) (e : NasAclEntry) (s : Ndi), (∀ t f, e.flist.find t = some f → f.Built p) →
      PushPossible p o sw table npuId e s → PushedWherePorts p o sw table npuId e s := by
  intro claim
  have known : utlIfidxToNdiPort Bench.platform 9 = .ok ⟨1, 1⟩ := by decide +kernel
  have built : ∀ t f, (Bench.filtered (Bench.outPort 9 ⟨1, 1⟩)).flist.find t = some f →
      f.Built Bench.platform := by
    intro t f found
    rw [Keyed.eq_of_find_singleton found]
    exact ⟨[.ofIfindex 9], NasAclFilter.setFilterIfindex_ok.mpr
      ⟨_, rfl, _, by rw [CommonData.ifindex_ofIfindex]; exact known,
        by rw [CommonData.ifindex_ofIfindex]; rfl⟩⟩
  have single : ¬ (Bench.outPort 9 ⟨1, 1⟩).filterType.IsPortList := by decide
  have possible := Bench.push_possible fun list => absurd list single
  have passes : (Bench.filtered (Bench.outPort 9 ⟨1, 1⟩)).PassesPortTests Bench.platform 0 := by
    intro t f found zero
    cases zero
  have noList : ¬ (Bench.filtered (Bench.outPort 9 ⟨1, 1⟩)).LacksPortList Bench.platform 0 := by
    rintro ⟨t, f, found, list, -⟩
    rw [Keyed.eq_of_find_singleton found] at list
    exact single list
  have pushed := claim _ _ _ _ _ _ _ built possible
  have here := pushed.created_iff.mp ((created_iff built).mpr ⟨possible, passes, noList⟩)
  exact here .outPort _ (Keyed.find_put_self _ _) (.inl (by decide)) (by decide +kernel)

end SonicNasAcl
