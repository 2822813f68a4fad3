/-
# Translation -- what filters and actions become on an NPU

The two instances of `Pushing`, for filters and for actions, and what is common to
creating an entry and to modifying one: each element is translated by itself, into at
most one NDI element, of its own type.

* `NasAclFilter.Built` and `NasAclAction.Built` are the elements the accessors make;
  unchanged ones (`operator!=`) are the same filter (`Built.eq_of_same`);
* `copyAllFiltersNdi_ok` and `copyAllActionsNdi_ok` are the create path, element by
  element;
* `action_values_nil` says which actions are left out on an NPU.
-/
import SonicNasAcl.PushPlan
import SonicNasAcl.Reading
import SonicNasAcl.StoreOps

namespace SonicNasAcl

set_option autoImplicit false

open Lib

/-! ## Built filters -/

namespace NasAclFilter

/-- The filter is what the accessor of its type makes of some data. -/
def Built (p : Platform) (f : NasAclFilter) : Prop :=
  ∃ l, (filterMap p f.filterType).setFn l (.new f.filterType) = .ok f

/-- The filter has something to match on the NPU. -/
def AppliesOn (p : Platform) (f : NasAclFilter) (npuId : NpuId) : Prop :=
  ∃ x, f.copyFilterNdi p p.zeroValuesType npuId = .ok (some x)

/-- The filter has nothing to match on the NPU. -/
def SkippedOn (p : Platform) (f : NasAclFilter) (npuId : NpuId) : Prop :=
  f.copyFilterNdi p p.zeroValuesType npuId = .ok none

/-- A filter with no interfaces, whose value is not a port. -/
def Plain (p : Platform) (f : NasAclFilter) : Prop :=
  f.ifindexList = [] ∧ f.fInfo.values.valuesType p ≠ .port ∧
    f.fInfo.values.valuesType p ≠ .portlist

variable {p : Platform} {f g : NasAclFilter} {t : MatchType} {l : List CommonData}

theorem setScalarFilterVal_plain {α : Type} {read : CommonData → α} {zero : α}
    {member : α → α → NdiFilterValue}
    (scalar : ∀ x y, (member x y).valuesType p ≠ .port ∧ (member x y).valuesType p ≠ .portlist)
    (set : setScalarFilterVal read zero member l (.new t) = .ok f) : f.Plain p := by
  obtain ⟨data, -, set⟩ := except_bind_ok.mp set
  cases set
  exact ⟨rfl, scalar _ _⟩

theorem setBytesFilterVal_plain {len : Nat} {member : List UInt8 → List UInt8 → NdiFilterValue}
    (bytes : ∀ x y, (member x y).valuesType p ≠ .port ∧ (member x y).valuesType p ≠ .portlist)
    (set : setBytesFilterVal len member l (.new t) = .ok f) : f.Plain p := by
  obtain ⟨data, -, set⟩ := except_bind_ok.mp set
  obtain ⟨mask, -, set⟩ := except_bind_ok.mp set
  cases set
  exact ⟨rfl, bytes _ _⟩

/-- Filters that compare as equal agree on what is compared. -/
theorem ne_eq_false : f.ne p g = false ↔ f.filterType = g.filterType ∧
    if f.fInfo.values.valuesType p = .port ∨ f.fInfo.values.valuesType p = .portlist then
      f.ifindexList = g.ifindexList
    else f.fInfo = g.fInfo := by
  unfold ne
  by_cases same : f.filterType = g.filterType
  · cases f.fInfo.values.valuesType p <;> simp [same]
  · simp [same]

theorem Plain.eq_of_same (plain : f.Plain p) (other : g.Plain p) (same : f.ne p g = false) :
    f = g := by
  obtain ⟨none_, notPort, notPortlist⟩ := plain
  have compared := (ne_eq_false.mp same).2
  rw [if_neg (not_or.mpr ⟨notPort, notPortlist⟩)] at compared
  obtain ⟨fInfo, ports⟩ := f
  obtain ⟨gInfo, ports'⟩ := g
  cases compared
  cases none_
  cases other.1
  rfl

/-- Filters of port lists that compare as equal are the same. -/
theorem portlist_eq_of_same {l' : List CommonData}
    (set : setFilterIfindexList l (.new t) = .ok f)
    (set' : setFilterIfindexList l' (.new t) = .ok g) (same : f.ne p g = false) : f = g := by
  cases set
  cases set'
  have compared := (ne_eq_false.mp same).2
  rw [if_pos (.inr rfl)] at compared
  exact congrArg (NasAclFilter.mk _) compared

/-- Filters of one port that compare as equal are the same: the port is that of the
interface. -/
theorem port_eq_of_same {l' : List CommonData} (set : setFilterIfindex p l (.new t) = .ok f)
    (set' : setFilterIfindex p l' (.new t) = .ok g) (same : f.ne p g = false) : f = g := by
  obtain ⟨data, -, port, known, rfl⟩ := setFilterIfindex_ok.mp set
  obtain ⟨data', -, port', known', rfl⟩ := setFilterIfindex_ok.mp set'
  have compared := (ne_eq_false.mp same).2
  rw [if_pos (.inl rfl)] at compared
  have interface : data.ifindex = data'.ifindex := (List.cons.inj compared).1
  rw [interface, known'] at known
  cases known
  exact congrArg (NasAclFilter.mk _) compared

/-- Built filters that compare as equal are the same. -/
theorem Built.eq_of_same (built : f.Built p) (built' : g.Built p) (same : f.ne p g = false) :
    f = g := by
  obtain ⟨l, set⟩ := built
  obtain ⟨l', set'⟩ := built'
  rw [← (ne_eq_false.mp same).1] at set'
  generalize f.filterType = t at set set'
  cases t
  case srcIpv6 | dstIpv6 | srcMac | dstMac | srcIp | dstIp =>
    exact (setBytesFilterVal_plain (by simp [NdiFilterValue.valuesType]) set).eq_of_same
      (setBytesFilterVal_plain (by simp [NdiFilterValue.valuesType]) set') same
  case inPorts | outPorts => exact portlist_eq_of_same set set' same
  case inPort | outPort => exact port_eq_of_same set set' same
  case ipType =>
    obtain ⟨data, -, ipType, -, rfl⟩ := setIpTypeFilterVal_ok.mp set
    obtain ⟨data', -, ipType', -, rfl⟩ := setIpTypeFilterVal_ok.mp set'
    exact Plain.eq_of_same ⟨rfl, nofun, nofun⟩ ⟨rfl, nofun, nofun⟩ same
  case ipFrag =>
    obtain ⟨data, -, ipFrag, -, rfl⟩ := setIpFragFilterVal_ok.mp set
    obtain ⟨data', -, ipFrag', -, rfl⟩ := setIpFragFilterVal_ok.mp set'
    exact Plain.eq_of_same ⟨rfl, nofun, nofun⟩ ⟨rfl, nofun, nofun⟩ same
  all_goals
    exact (setScalarFilterVal_plain (by simp [NdiFilterValue.valuesType]) set).eq_of_same
      (setScalarFilterVal_plain (by simp [NdiFilterValue.valuesType]) set') same

/-- A translation keeps the type. -/
theorem copyFilterNdi_type {dest : FilterValuesType} {npuId : NpuId} {x : NdiFilter}
    (copied : f.copyFilterNdi p dest npuId = .ok (some x)) : x.filterType = f.filterType := by
  unfold copyFilterNdi at copied
  split at copied
  · cases copied
  · split at copied
    · obtain ⟨ports, -, copied⟩ := except_bind_ok.mp copied
      split at copied
      · cases copied
      · cases copied
        rfl
    · cases copied
      rfl

end NasAclFilter

/-! ## Built actions -/

namespace NasAclAction

/-- The action is what the accessor of its type makes of some data, or has no accessor. -/
def Built (p : Platform) (a : NasAclAction) : Prop :=
  match (actionMap p a.actionType).setFn with
  | some setFn => ∃ l, setFn l (.new a.actionType) = .ok a
  | none => a = .new a.actionType

/-- A port action whose ports are all on other NPUs. -/
def NothingOn (p : Platform) (a : NasAclAction) (npuId : NpuId) : Prop :=
  match a.aInfo.values with
  | .port q => q.npuId ≠ npuId
  | .portlist _ => ∀ ports, NasAclFilter.ndiPorts p a.ifindexList = .ok ports →
      ports.filter (fun q => q.npuId = npuId) = []
  | _ => False

variable {p : Platform} {sw : NasAclSwitch} {e : NasAclEntry} {a : NasAclAction} {npuId : NpuId}

/-- A counter is kept as an object. -/
theorem Built.counter (built : a.Built p) (counter : a.isCounter) :
    ∃ v, a.aInfo.values = .objId v := by
  have type : a.actionType = .setCounter := of_decide_eq_true counter
  unfold Built at built
  rw [type] at built
  obtain ⟨l, set⟩ := built
  obtain ⟨data, -, set⟩ := except_bind_ok.mp set
  cases set
  exact ⟨0, rfl⟩

/-- The translation of an action is appended to what is there. -/
theorem copyActionNdi_append (l : List NdiAction) :
    a.copyActionNdi p npuId l = (a.copyActionNdi p npuId []).map fun r => (r.1, l ++ r.2) := by
  unfold copyActionNdi
  cases a.aInfo.values with
  | objId v =>
      by_cases counter : a.isCounter
      · simp only [counter, if_true]
        rfl
      · simp only [counter, Bool.false_eq_true, if_false]
        cases a.ndiCopyOneObjId p npuId <;> rfl
  | objIdList count list => cases a.ndiCopyObjIdList p npuId <;> rfl
  | port q =>
      by_cases here : q.npuId = npuId
      · simp only [here, ne_eq, not_true_eq_false, if_false]
        rfl
      · simp only [here, ne_eq, not_false_eq_true, if_true, Except.map, List.append_nil]
  | portlist ports =>
      cases NasAclFilter.ndiPorts p a.ifindexList with
      | error err => rfl
      | ok ports =>
          simp only [except_ok_bind]
          cases ports.filter fun q => q.npuId = npuId with
          | nil => simp only [Except.map, List.append_nil]
          | cons q rest => rfl
  | _ => rfl

/-- What an action is translated to is of its type. -/
theorem copyActionNdi_single {b : Bool} {xs : List NdiAction}
    (copied : a.copyActionNdi p npuId [] = .ok (b, xs)) :
    Pushing.Single NdiAction.actionType a.actionType xs ∧ (xs = [] ↔ a.NothingOn p npuId) := by
  unfold copyActionNdi at copied
  unfold NothingOn
  cases value : a.aInfo.values with
  | objId v =>
      simp only [value] at copied ⊢
      by_cases counter : a.isCounter
      · rw [if_pos counter] at copied
        cases copied
        exact ⟨.inr ⟨_, rfl, rfl⟩, iff_of_false (List.cons_ne_nil _ _) id⟩
      · rw [if_neg counter] at copied
        split at copied
        · cases copied
        · cases copied
          exact ⟨.inr ⟨_, rfl, rfl⟩, iff_of_false (List.cons_ne_nil _ _) id⟩
  | objIdList count list =>
      simp only [value] at copied ⊢
      split at copied
      · cases copied
      · cases copied
        exact ⟨.inr ⟨_, rfl, rfl⟩, iff_of_false (List.cons_ne_nil _ _) id⟩
  | port q =>
      simp only [value] at copied ⊢
      split at copied
      · rename_i other
        cases copied
        exact ⟨.inl rfl, iff_of_true rfl other⟩
      · rename_i here
        cases copied
        exact ⟨.inr ⟨_, rfl, rfl⟩, iff_of_false (List.cons_ne_nil _ _) here⟩
  | portlist stored =>
      simp only [value] at copied ⊢
      obtain ⟨ports, known, copied⟩ := except_bind_ok.mp copied
      rw [known]
      simp only [Except.ok.injEq, forall_eq']
      split at copied
      · rename_i absent
        cases copied
        exact ⟨.inl rfl, iff_of_true rfl absent⟩
      · rename_i present
        cases copied
        exact ⟨.inr ⟨_, rfl, rfl⟩, iff_of_false (List.cons_ne_nil _ _) present⟩
  | _ =>
      simp only [value] at copied ⊢
      cases copied
      exact ⟨.inr ⟨_, rfl, rfl⟩, iff_of_false (List.cons_ne_nil _ _) id⟩

end NasAclAction

section Actions

variable {p : Platform} {sw : NasAclSwitch} {e : NasAclEntry} {a : NasAclAction} {npuId : NpuId}

theorem copyNdiCounterId_concat (l : List NdiAction) (x : NdiAction) :
    copyNdiCounterId sw e npuId (l ++ [x])
      = (copyNdiCounterId sw e npuId [x]).map fun xs => l ++ xs := by
  simp only [copyNdiCounterId, List.getLast?_concat, List.getLast?_singleton,
    List.dropLast_concat, List.dropLast_singleton, List.nil_append]
  cases e.getCounter sw with
  | error err => cases err <;> rfl
  | ok counter =>
      simp only [except_ok_bind]
      cases counter.map fun c => c.ndiObjIds.lookup npuId with
      | none => rfl
      | some found => cases found <;> rfl

theorem copyNdiCounterId_single {x : NdiAction} {xs : List NdiAction}
    (copied : copyNdiCounterId sw e npuId [x] = .ok xs) :
    ∃ id, xs = [{ x with values := .objId id }] := by
  simp only [copyNdiCounterId, List.getLast?_singleton, List.dropLast_singleton,
    List.nil_append] at copied
  obtain ⟨counter, -, copied⟩ := except_bind_ok.mp (noexceptFn_ok.mp copied)
  split at copied
  · cases copied
  · cases copied
  · rename_i id _
    cases copied
    exact ⟨id, rfl⟩

/-- One turn of `_copy_all_actions_ndi` appends the translation of the action. -/
theorem copyOneActionNdi_append (objects : a.isCounter → ∃ v, a.aInfo.values = .objId v)
    (l : List NdiAction) :
    copyOneActionNdi p sw e npuId l a
      = (copyOneActionNdi p sw e npuId [] a).map (l ++ ·) := by
  unfold copyOneActionNdi
  rw [NasAclAction.copyActionNdi_append]
  by_cases counter : a.isCounter
  · obtain ⟨v, object⟩ := objects counter
    have copied : a.copyActionNdi p npuId [] = .ok (true, [{ a.aInfo with values := .objId v }]) := by
      rw [NasAclAction.copyActionNdi, object]
      simp only [counter, if_true, List.nil_append]
    rw [copied]
    simp only [Except.map, except_ok_bind, counter, if_true]
    exact copyNdiCounterId_concat _ _
  · simp only [counter, Bool.false_eq_true, if_false]
    cases a.copyActionNdi p npuId [] <;> rfl

/-- An action that is pushed as one NDI action is pushed as one of its type. -/
theorem copyOneActionNdi_type {x : NdiAction}
    (copied : copyOneActionNdi p sw e npuId [] a = .ok [x]) : x.actionType = a.actionType := by
  obtain ⟨⟨b, ys⟩, first, copied⟩ := except_bind_ok.mp copied
  obtain ⟨none_ | ⟨y, one, same⟩, -⟩ := NasAclAction.copyActionNdi_single first
  · simp only [none_] at copied
    split at copied <;> cases copied
  · simp only [one] at copied
    split at copied
    · obtain ⟨id, set⟩ := copyNdiCounterId_single copied
      cases set
      exact same
    · cases copied
      exact same

/-- An action is pushed as at most one NDI action, of its type, and left out exactly when
it has nothing on the NPU. -/
theorem copyOneActionNdi_single (built : a.Built p) {xs : List NdiAction}
    (copied : copyOneActionNdi p sw e npuId [] a = .ok xs) :
    Pushing.Single NdiAction.actionType a.actionType xs ∧ (xs = [] ↔ a.NothingOn p npuId) := by
  obtain ⟨⟨b, ys⟩, first, copied⟩ := except_bind_ok.mp copied
  obtain ⟨single, nothing⟩ := NasAclAction.copyActionNdi_single first
  by_cases counter : a.isCounter
  · simp only [counter, if_true] at copied
    obtain ⟨v, object⟩ := built.counter counter
    have present : ¬ a.NothingOn p npuId := by
      unfold NasAclAction.NothingOn
      rw [object]
      exact id
    obtain none_ | ⟨y, rfl, same⟩ := single
    · exact absurd (nothing.mp none_) present
    · obtain ⟨id, rfl⟩ := copyNdiCounterId_single copied
      exact ⟨.inr ⟨_, rfl, same⟩, iff_of_false (List.cons_ne_nil _ _) present⟩
  · simp only [counter, Bool.false_eq_true, if_false, Except.ok.injEq] at copied
    subst copied
    exact ⟨single, nothing⟩

end Actions

/-! ## Filters and actions, pushed -/

/-- How filters are pushed. -/
def filterPushing (p : Platform) : Pushing NasAclFilter.filterType NdiFilter.filterType where
  part := filterPart
  order := p.matchOrder
  attr := .matchType
  translate f npuId := (f.copyFilterNdi p p.zeroValuesType npuId).map Option.toList
  disableMsg t npuId :=
    "NDI Filter Disable failed for " ++ t.typeName ++ " for NPU " ++ toString npuId
  setMsg f npuId := "NDI Filter set failed for " ++ f.name ++ " for NPU " ++ toString npuId

/-- How the actions of an entry are pushed. -/
def actionPushing (p : Platform) (sw : NasAclSwitch) (e : NasAclEntry) :
    Pushing NasAclAction.actionType NdiAction.actionType where
  part := actionPart
  order := p.actionOrder
  attr := .actionType
  translate a npuId := copyOneActionNdi p sw e npuId [] a
  disableMsg t npuId :=
    "NDI Action Disable failed for " ++ t.typeName ++ " for NPU " ++ toString npuId
  setMsg a npuId := "NDI Action Set failed for " ++ a.name ++ " for NPU " ++ toString npuId

section Members

variable {p : Platform} {o : NdiReplies} {sw : NasAclSwitch} {e : NasAclEntry}

theorem utlPushDisableFilterToNpu_eq :
    utlPushDisableFilterToNpu o e = (filterPushing p).disable o e := rfl

theorem utlPushDisableActionToNpu_eq :
    utlPushDisableActionToNpu o e = (actionPushing p sw e).disable o e := rfl

theorem utlPushActionToNpu_eq :
    utlPushActionToNpu p o sw e = (actionPushing p sw e).push o e := rfl

theorem utlPushFilterToNpu_eq : utlPushFilterToNpu p o e = (filterPushing p).push o e := by
  funext f npuId
  unfold utlPushFilterToNpu Pushing.push
  simp only [filterPushing]
  cases f.copyFilterNdi p p.zeroValuesType npuId with
  | error err => rfl
  | ok ndiFilter =>
      cases ndiFilter with
      | none => rfl
      | some x => exact bind_pure_unit.symm

end Members

/-! ## All filters, all actions -/

section All

variable {p : Platform} {sw : NasAclSwitch} {e : NasAclEntry} {npuId : NpuId}

theorem filter_translate_ok {f : NasAclFilter} {xs : List NdiFilter} :
    (filterPushing p).translate f npuId = .ok xs ↔
      ∃ r, f.copyFilterNdi p p.zeroValuesType npuId = .ok r ∧ xs = r.toList := by
  simp only [filterPushing]
  cases f.copyFilterNdi p p.zeroValuesType npuId with
  | error err => simp only [Except.map, reduceCtorEq, false_and, exists_false]
  | ok r => simp only [Except.map, Except.ok.injEq, exists_eq_left', @eq_comm _ xs]

/-- A filter is pushed as at most one NDI filter, of its type. -/
theorem filter_single {f : NasAclFilter} :
    Pushing.Single NdiFilter.filterType f.filterType ((filterPushing p).values f npuId) := by
  unfold Pushing.values
  simp only [filterPushing]
  cases copied : f.copyFilterNdi p p.zeroValuesType npuId with
  | error err => exact .inl rfl
  | ok r =>
      cases r with
      | none => exact .inl rfl
      | some x => exact .inr ⟨x, rfl, NasAclFilter.copyFilterNdi_type copied⟩

theorem NasAclFilter.AppliesOn.values {f : NasAclFilter} (applies : f.AppliesOn p npuId) :
    ∃ x, f.copyFilterNdi p p.zeroValuesType npuId = .ok (some x) ∧
      (filterPushing p).values f npuId = [x] := by
  obtain ⟨x, copied⟩ := applies
  exact ⟨x, copied, Pushing.values_of (filter_translate_ok.mpr ⟨some x, copied, rfl⟩)⟩

/-- `_copy_all_filters_ndi` fills the list exactly when every filter applies. -/
theorem copyAllFiltersNdi_ok {l : List NasAclFilter} {xs : List NdiFilter} :
    copyAllFiltersNdi p npuId l = .ok (some xs) ↔
      (∀ f ∈ l, f.AppliesOn p npuId) ∧ xs = l.flatMap ((filterPushing p).values · npuId) := by
  induction l generalizing xs with
  | nil =>
      simp only [copyAllFiltersNdi, List.not_mem_nil, false_implies, implies_true, true_and,
        List.flatMap_nil, Except.ok.injEq, Option.some.injEq, @eq_comm _ xs]
  | cons f rest ih =>
      rw [copyAllFiltersNdi, List.forall_mem_cons, List.flatMap_cons]
      constructor
      · intro copied
        obtain ⟨r, first, copied⟩ := except_bind_ok.mp copied
        cases r with
        | none => cases copied
        | some x =>
            have applies : f.AppliesOn p npuId := ⟨x, first⟩
            obtain ⟨x', first', one⟩ := applies.values
            rw [first] at first'
            cases first'
            simp only at copied
            cases more : copyAllFiltersNdi p npuId rest with
            | error err =>
                rw [more] at copied
                cases copied
            | ok r =>
                rw [more] at copied
                cases r with
                | none => cases copied
                | some ys =>
                    cases copied
                    obtain ⟨others, rfl⟩ := ih.mp more
                    exact ⟨⟨applies, others⟩, by rw [one]; rfl⟩
      · rintro ⟨⟨applies, others⟩, rfl⟩
        obtain ⟨x, first, one⟩ := applies.values
        rw [first, one]
        change (copyAllFiltersNdi p npuId rest).map (Option.map (x :: ·)) = _
        rw [ih.mpr ⟨others, rfl⟩]
        rfl

theorem filter_translates_nil {f : NasAclFilter} :
    (filterPushing p).translate f npuId = .ok [] ↔ f.SkippedOn p npuId := by
  rw [filter_translate_ok, NasAclFilter.SkippedOn]
  constructor
  · rintro ⟨r, copied, none_⟩
    cases r with
    | none => exact copied
    | some x => cases none_
  · intro copied
    exact ⟨none, copied, rfl⟩

/-- `_copy_all_actions_ndi` is one translation after the other. -/
theorem copyAllActionsNdi_ok
    (objects : ∀ a ∈ e.alist.items p.actionOrder, a.isCounter → ∃ v, a.aInfo.values = .objId v)
    {xs : List NdiAction} :
    copyAllActionsNdi p sw e npuId = .ok xs ↔
      (∀ a ∈ e.alist.items p.actionOrder,
        ∃ v, (actionPushing p sw e).translate a npuId = .ok v) ∧
      xs = (e.alist.items p.actionOrder).flatMap ((actionPushing p sw e).values · npuId) :=
  except_foldlM_append (r := []) fun a mem r => copyOneActionNdi_append (objects a mem) r

/-- An action is pushed as at most one NDI action, of its type. -/
theorem action_single {a : NasAclAction} (built : a.Built p) :
    Pushing.Single NdiAction.actionType a.actionType ((actionPushing p sw e).values a npuId) := by
  unfold Pushing.values
  cases translated : (actionPushing p sw e).translate a npuId with
  | error err => exact .inl rfl
  | ok xs => exact (copyOneActionNdi_single built translated).1

/-- Nothing is pushed for an action exactly when it has nothing on the NPU. -/
theorem action_values_nil {a : NasAclAction} (built : a.Built p)
    (translated : ∃ xs, (actionPushing p sw e).translate a npuId = .ok xs) :
    (actionPushing p sw e).values a npuId = [] ↔ a.NothingOn p npuId :=
  (copyOneActionNdi_single built (Pushing.translate_eq translated)).2

end All

end SonicNasAcl
