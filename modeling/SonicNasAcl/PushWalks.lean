/-
# PushWalks -- what a push owes to the walks of its maps

The filters and the actions of an entry are pushed in the order their hash maps are walked in.
Where the entry is installed, each element that has changed is pushed by itself, and the
order decides nothing.  A new entry is pushed as a whole, and the first filter without a port
on the NPU ends the walk: an interface that is no port makes the push throw in front of that
filter, and is not looked at behind it.

* `Decided`: an effect that returns or throws, whatever the state, while the NDI accepts its
  calls; it is closed under sequence and loops;
* `filters_return_iff`, `actions_return_iff`: what pushing the changes of a list takes;
* `creatable_walking_iff`: of a new entry only the walk of its filters matters;
* `Oracle.SeesPushes`: so a commit sees no more of the walks than its pushes do.
-/
import SonicNasAcl.EntryCommits
import SonicNasAcl.Walking

namespace SonicNasAcl

set_option autoImplicit false

open Lib

/-! ## Effects that return or throw -/

/-- While the NDI accepts its calls, the effect returns when `good`, and else throws. -/
def Decided (good : Prop) (body : NdiReplies → NdiM Unit) : Prop :=
  (good ∧ ∀ o s, o.Accepts → ∃ s', body o s = (.ok (), s')) ∨
    (¬ good ∧ ∀ o s, o.Accepts → ∃ err s', body o s = (.error err, s'))

theorem Settles.decided {good : Prop} {body : NdiReplies → NdiM Unit} (settles : Settles good body) :
    Decided good body := by
  obtain ⟨fine, calls, ran⟩ | ⟨bad, threw⟩ := settles
  · exact .inl ⟨fine, fun o s _ => ⟨_, ran o s⟩⟩
  · exact .inr ⟨bad, fun o s _ => threw o s⟩

namespace Decided

variable {good good' : Prop} {body body' : NdiReplies → NdiM Unit}

theorem congr (decided : Decided good body) (same : good ↔ good') : Decided good' body := by
  rw [Decided, ← same]
  exact decided

theorem of_returns (ran : ∀ o s, o.Accepts → ∃ s', body o s = (.ok (), s')) : Decided True body :=
  .inl ⟨trivial, ran⟩

theorem of_throws (threw : ∀ o s, o.Accepts → ∃ err s', body o s = (.error err, s')) :
    Decided False body := .inr ⟨id, threw⟩

theorem returns_iff (decided : Decided good body) : Returns body ↔ good := by
  obtain ⟨fine, ran⟩ | ⟨bad, threw⟩ := decided
  · refine iff_of_true (fun o s accepts => ?_) fine
    obtain ⟨s', ended⟩ := ran o s accepts
    exact ⟨(), s', ended, trivial⟩
  · refine iff_of_false (fun returns => ?_) bad
    obtain ⟨b, s', ended, -⟩ :=
      returns ⟨fun _ => .ok (), fun _ => 0⟩ ⟨fun _ _ => none, 0, []⟩ fun _ => rfl
    obtain ⟨err, s'', stopped⟩ :=
      threw ⟨fun _ => .ok (), fun _ => 0⟩ ⟨fun _ _ => none, 0, []⟩ fun _ => rfl
    cases ended.symm.trans stopped

theorem seq (first : Decided good body) (second : Decided good' body') :
    Decided (good ∧ good') fun o => body o >>= fun _ => body' o := by
  obtain ⟨fine, ran⟩ | ⟨bad, threw⟩ := first
  · obtain ⟨fine', ran'⟩ | ⟨bad', threw'⟩ := second
    · refine .inl ⟨⟨fine, fine'⟩, fun o s accepts => ?_⟩
      obtain ⟨mid, ended⟩ := ran o s accepts
      obtain ⟨s', ended'⟩ := ran' o mid accepts
      exact ⟨s', (Eff.bind_of_ok ended).trans ended'⟩
    · refine .inr ⟨fun both => bad' both.2, fun o s accepts => ?_⟩
      obtain ⟨mid, ended⟩ := ran o s accepts
      obtain ⟨err, s', stopped⟩ := threw' o mid accepts
      exact ⟨err, s', (Eff.bind_of_ok ended).trans stopped⟩
  · refine .inr ⟨fun both => bad both.1, fun o s accepts => ?_⟩
    obtain ⟨err, s', stopped⟩ := threw o s accepts
    exact ⟨err, s', Eff.bind_of_error stopped⟩

theorem forM {β : Type} {l : List β} {f : NdiReplies → β → NdiM Unit} {ok : β → Prop}
    (turn : ∀ b ∈ l, Decided (ok b) fun o => f o b) :
    Decided (∀ b ∈ l, ok b) fun o => l.forM (f o) := by
  induction l with
  | nil => exact (of_returns fun _ s _ => ⟨s, rfl⟩).congr (iff_of_true trivial (List.forall_mem_nil _))
  | cons b rest ih =>
      rw [List.forall_mem_cons]
      exact (turn b (List.mem_cons_self ..)).seq (ih fun c mem => turn c (List.mem_cons_of_mem _ mem))

end Decided

/-! ## One element -/

section Elements

variable {p : Platform} {sw : NasAclSwitch} {e : NasAclEntry} {npuId : NpuId}

theorem decided_callOn (errMsg : String) (call : NdiObjId → ElementCall) :
    Decided (npuId ∈ e.ndiEntryIds) (callOn e npuId errMsg call) := by
  by_cases here : npuId ∈ e.ndiEntryIds
  · obtain ⟨id, known⟩ := Finmap.mem_iff.mp here
    refine (Decided.of_returns fun o s accepts => ?_).congr (iff_of_true trivial here)
    rw [callOn_of_id known, ndiCall, accepts]
    exact ⟨_, rfl⟩
  · refine (Decided.of_throws fun o s _ => ⟨.outOfRange, s, ?_⟩).congr (iff_of_false id here)
    exact callOn_of_none here o s

/-- A filter has to be translated, and looked up on an NPU where it has something to set. -/
def FilterReturns (p : Platform) (rolling : Bool) (e : NasAclEntry) (npuId : NpuId)
    (f : NasAclFilter) : Prop :=
  (rolling = false → ∃ found, f.copyFilterNdi p p.zeroValuesType npuId = .ok found) ∧
    ((∃ x, f.copyFilterNdi p p.zeroValuesType npuId = .ok (some x)) → npuId ∈ e.ndiEntryIds)

theorem decided_filter {rolling : Bool} {f : NasAclFilter} :
    Decided (FilterReturns p rolling e npuId f) fun o =>
      continueOnError rolling (utlPushFilterToNpu p o e f npuId) := by
  cases rolling with
  | true => exact settles_filter.decided.congr (and_iff_right Bool.noConfusion).symm
  | false =>
      simp only [continueOnError_false, FilterReturns, true_implies]
      unfold utlPushFilterToNpu
      cases f.copyFilterNdi p p.zeroValuesType npuId with
      | error err =>
          refine (Decided.of_throws fun o s _ => ⟨err, s, rfl⟩).congr (iff_of_false id ?_)
          rintro ⟨⟨found, same⟩, -⟩
          cases same
      | ok found =>
          cases found with
          | none =>
              refine (Decided.of_returns fun o s _ => ⟨s, rfl⟩).congr
                (iff_of_true trivial ⟨⟨_, rfl⟩, ?_⟩)
              rintro ⟨x, same⟩
              cases same
          | some x =>
              refine (decided_callOn _ (.setFilter npuId · x)).congr ?_
              exact ⟨fun here => ⟨⟨_, rfl⟩, fun _ => here⟩, fun both => both.2 ⟨x, rfl⟩⟩

/-- And an action. -/
def ActionReturns (p : Platform) (sw : NasAclSwitch) (rolling : Bool) (e : NasAclEntry)
    (npuId : NpuId) (a : NasAclAction) : Prop :=
  (rolling = false → ∃ l, copyOneActionNdi p sw e npuId [] a = .ok l) ∧
    (∀ why, copyOneActionNdi p sw e npuId [] a ≠ .error (.abort why)) ∧
    ((∃ x l, copyOneActionNdi p sw e npuId [] a = .ok (x :: l)) → npuId ∈ e.ndiEntryIds)

theorem decided_action {rolling : Bool} {a : NasAclAction} :
    Decided (ActionReturns p sw rolling e npuId a) fun o =>
      continueOnError rolling (utlPushActionToNpu p o sw e a npuId) := by
  cases rolling with
  | true => exact settles_action.decided.congr (and_iff_right Bool.noConfusion).symm
  | false =>
      simp only [continueOnError_false, ActionReturns, true_implies]
      unfold utlPushActionToNpu
      cases copyOneActionNdi p sw e npuId [] a with
      | error err =>
          refine (Decided.of_throws fun o s _ => ⟨err, s, rfl⟩).congr (iff_of_false id ?_)
          rintro ⟨⟨l, same⟩, -⟩
          cases same
      | ok l =>
          have turns : Decided (∀ x ∈ l, npuId ∈ e.ndiEntryIds) fun o => l.forM fun ndiAction =>
              callOn e npuId ("NDI Action Set failed for " ++ a.name ++ " for NPU " ++ toString npuId)
                (.setAction npuId · ndiAction) o := Decided.forM fun x _ => decided_callOn _ _
          refine turns.congr ⟨fun all => ⟨⟨l, rfl⟩, nofun, ?_⟩, fun both x mem => ?_⟩
          · rintro ⟨x, l', same⟩
            exact all x (Except.ok.inj same ▸ List.mem_cons_self ..)
          · obtain ⟨y, l', rfl⟩ := List.exists_cons_of_ne_nil (List.ne_nil_of_mem mem)
            exact both.2.2 ⟨y, l', rfl⟩

end Elements

/-! ## The changes of a list -/

theorem decided_modifyList {κ α : Type} [Fintype κ] {key : α → κ} {order : Traversal κ}
    {attr : κ → AttrHierarchy} {rolling : Bool} (pushDisable : NdiReplies → κ → NpuId → NdiM Unit)
    (push : NdiReplies → α → NpuId → NdiM Unit) {deleted addOrMod : Keyed key} {npus : List NpuId}
    {goodDisable : NpuId → Prop} {goodPush : NpuId → α → Prop}
    (disables : ∀ t npuId, Decided (goodDisable npuId) fun o =>
      continueOnError rolling (pushDisable o t npuId))
    (pushes : ∀ x npuId, Decided (goodPush npuId x) fun o =>
      continueOnError rolling (push o x npuId)) :
    Decided (∀ npuId ∈ npus, (∀ x ∈ deleted.items order, goodDisable npuId) ∧
        ∀ x ∈ addOrMod.items order, goodPush npuId x)
      fun o => utlModifyListNpulistNdi order attr (pushDisable o) (push o) deleted addOrMod rolling
        npus := by
  have tracked (elem : RollbkElem) : Decided True fun _ => track rolling elem := by
    cases rolling with
    | true => exact .of_returns fun _ s _ => ⟨s, rfl⟩
    | false => exact .of_returns fun _ s _ => ⟨_, rfl⟩
  refine Decided.forM fun npuId _ => Decided.seq ?_ ?_
  · exact Decided.forM fun x _ => ((disables (key x) npuId).seq (tracked _)).congr (and_iff_left trivial)
  · exact Decided.forM fun x _ => ((pushes x npuId).seq (tracked _)).congr (and_iff_left trivial)

/-- What a push of the changes of one attribute does on some NPUs. -/
def changesPush (p : Platform) (sw : NasAclSwitch) (attr : AttrId) (new old : NasAclEntry)
    (npus : NpuSet) (rolling : Bool) (o : NdiReplies) : NdiM Unit :=
  pushNonLeafAttrNdi p o sw attr old npus rolling new

section Changes

variable {p : Platform} {sw : NasAclSwitch} {new old : NasAclEntry} {npus : NpuSet} {rolling : Bool}

theorem decided_disableFilter {t : MatchType} {npuId : NpuId} :
    Decided (npuId ∈ new.ndiEntryIds) fun o =>
      continueOnError rolling (utlPushDisableFilterToNpu o new t npuId) := by
  cases rolling with
  | true => exact settles_disableFilter.decided
  | false =>
      simp only [continueOnError_false]
      exact decided_callOn _ (.disableFilter npuId · t)

theorem decided_disableAction {t : ActionType} {npuId : NpuId} :
    Decided (npuId ∈ new.ndiEntryIds) fun o =>
      continueOnError rolling (utlPushDisableActionToNpu o new t npuId) := by
  cases rolling with
  | true => exact settles_disableAction.decided
  | false =>
      simp only [continueOnError_false]
      exact decided_callOn _ (.disableAction npuId · t)

/-- Each filter that is gone or has changed is pushed by itself. -/
theorem filters_return_iff :
    Returns (changesPush p sw .entryMatch new old npus rolling) ↔ ∀ npuId ∈ npus,
      (∀ f, (Keyed.deleted new.flist old.flist).find f.filterType = some f →
        npuId ∈ new.ndiEntryIds) ∧
      ∀ f, (Keyed.addOrMod (NasAclFilter.ne p) new.flist old.flist).find f.filterType = some f →
        FilterReturns p rolling new npuId f := by
  have decided : Decided (∀ npuId ∈ p.npuOrder.visit npus,
      (∀ f ∈ (Keyed.deleted new.flist old.flist).items p.matchOrder, npuId ∈ new.ndiEntryIds) ∧
      ∀ f ∈ (Keyed.addOrMod (NasAclFilter.ne p) new.flist old.flist).items p.matchOrder,
        FilterReturns p rolling new npuId f) (changesPush p sw .entryMatch new old npus rolling) :=
    decided_modifyList (fun o => utlPushDisableFilterToNpu o new)
      (fun o => utlPushFilterToNpu p o new) (fun _ _ => decided_disableFilter) fun _ _ => decided_filter
  refine decided.returns_iff.trans ?_
  simp only [Traversal.mem_visit, Keyed.mem_items]

/-- And each action. -/
theorem actions_return_iff :
    Returns (changesPush p sw .entryAction new old npus rolling) ↔ ∀ npuId ∈ npus,
      (∀ a, (Keyed.deleted new.alist old.alist).find a.actionType = some a →
        npuId ∈ new.ndiEntryIds) ∧
      ∀ a, (Keyed.addOrMod NasAclAction.ne new.alist old.alist).find a.actionType = some a →
        ActionReturns p sw rolling new npuId a := by
  have decided : Decided (∀ npuId ∈ p.npuOrder.visit npus,
      (∀ a ∈ (Keyed.deleted new.alist old.alist).items p.actionOrder, npuId ∈ new.ndiEntryIds) ∧
      ∀ a ∈ (Keyed.addOrMod NasAclAction.ne new.alist old.alist).items p.actionOrder,
        ActionReturns p sw rolling new npuId a) (changesPush p sw .entryAction new old npus rolling) :=
    decided_modifyList (fun o => utlPushDisableActionToNpu o new)
      (fun o => utlPushActionToNpu p o sw new) (fun _ _ => decided_disableAction)
      fun _ _ => decided_action
  refine decided.returns_iff.trans ?_
  simp only [Traversal.mem_visit, Keyed.mem_items]

end Changes

/-! ## Objects -/

/-- An action that takes one object holds no more. -/
def NasAclAction.OneObject (a : NasAclAction) : Prop :=
  ∀ v, a.aInfo.values = .objId v → a.nas2ndiOidTbl.keys.card ≤ 1

section Objects

variable {p : Platform} {w : Walks} {sw : NasAclSwitch} {table : NasAclTable} {e : NasAclEntry}
  {npuId : NpuId} {a : NasAclAction}

theorem except_mapM_pair {α β : Type} {f : α → Except Exn β} {x y : α} {l : List β}
    (ran : [x, y].mapM f = .ok l) : ∃ b b', l = [b, b'] := by
  rw [List.mapM_cons] at ran
  obtain ⟨b, -, ran⟩ := except_bind_ok.mp ran
  obtain ⟨_, ran, rest⟩ := except_bind_ok.mp ran
  rw [List.mapM_cons] at ran
  obtain ⟨b', -, ran⟩ := except_bind_ok.mp ran
  cases ran
  cases rest
  exact ⟨b, b', rfl⟩

/-- One object is read as one pair. -/
theorem copyDataFromObj_object {obj : List CpsAttr} {path : List AttrId} {t : ActionType} {name : String}
    {setFn : List CommonData → NasAclAction → Except Exn NasAclAction} {l : List CommonData}
    (copied : copyDataFromObj p obj path (ActionInfo.objects p t .embedded setFn).val
      (ActionInfo.objects p t .embedded setFn).childList name = .ok l) : ∃ d d', l = [d, d'] := by
  have children : getChildAttrsFromObj p obj
      (path ++ [(ActionInfo.objects p t .embedded setFn).val.attrId])
      (ActionInfo.objects p t .embedded setFn).childList name = .ok l := copied
  exact except_mapM_pair children

/-- What is read from an object takes one object, if it takes one. -/
theorem readAction_oneObject {obj : List CpsAttr} {v : UInt32} {path : List AttrId}
    (read : readAction p obj v path = .ok a) : a.OneObject := by
  have small {b : NasAclAction} (empty : b.nas2ndiOidTbl = ∅) : b.OneObject := by
    intro _ _
    rw [empty, Finmap.keys_empty]
    exact Nat.zero_le 1
  have single {b : NasAclAction} {oid : NasObjId} {ids : NdiObjIdTable}
      (one : b.nas2ndiOidTbl = (∅ : Nas2NdiOidTbl).insert oid ids) : b.OneObject := by
    intro _ _
    rw [one, keys_insert_empty, Finset.card_singleton]
  obtain ⟨t, -, ⟨-, rfl⟩ | ⟨-, l, setFn, copied, setter, set⟩⟩ := readAction_ok.mp read
  · exact small rfl
  cases t
  case flood | decrementTtl => cases setter
  case egressMask | redirectPortList =>
    cases setter
    obtain ⟨ports, rfl⟩ := NasAclAction.setActionIfindexList_ok set
    exact small rfl
  case redirectIpNexthop | setPolicer | setCpuQueue =>
    cases setter
    obtain rfl := Except.ok.inj set
    obtain ⟨d, d', rfl⟩ := copyDataFromObj_object copied
    exact single rfl
  case mirrorIngress | mirrorEgress =>
    cases setter
    obtain rfl := Except.ok.inj set
    intro _ value
    cases value
  case packetAction =>
    cases setter
    obtain ⟨data, -, v, -, rfl⟩ := NasAclAction.setPktActionVal_ok.mp set
    exact small rfl
  case redirectPort =>
    cases setter
    obtain ⟨data, -, ⟨-, ids, -, rfl⟩ | ⟨-, port, -, rfl⟩⟩ := NasAclAction.setActionIfindex_ok.mp set
    · exact single rfl
    · exact small rfl
  case setCounter =>
    cases setter
    obtain ⟨data, -, rfl⟩ := NasAclAction.setObjIdActionVal_ok.mp set
    exact small rfl
  all_goals
    cases setter
    obtain ⟨data, -, rfl⟩ := NasAclAction.setActionVal_ok.mp set
    exact small rfl

/-- An entry whose actions take one object each, where they take one. -/
def NasAclEntry.TakesOneEach (e : NasAclEntry) : Prop := ∀ t a, e.alist.find t = some a → a.OneObject

theorem closed_takesOneEach : ClosedUnderReads p sw table NasAclEntry.TakesOneEach where
  setPriority _ _ holds := holds
  addFilter e f reset e' _ _ _ holds _ added := by
    obtain ⟨-, -, same, -⟩ := NasAclEntry.addFilter_frame added
    unfold NasAclEntry.TakesOneEach
    rwa [same]
  addAction e a reset e' obj v path holds read added := by
    obtain ⟨rfl, -⟩ := NasAclEntry.addAction_ok.mp added
    rw [NasAclEntry.putAction_frame]
    intro t b found
    simp only [Keyed.find_put] at found
    split at found
    · cases found
      exact readAction_oneObject read
    · unfold NasAclEntry.resetActions at found
      split at found
      · cases found
      · exact holds t b found
  addNpu _ _ holds := holds
  removeFilter _ _ holds := holds
  removeAction e t holds := by
    intro t' b found
    simp only [NasAclEntry.removeAction, Keyed.find_erase] at found
    split at found
    · cases found
    · exact holds t' b found

theorem takesOneEach_of_actions {e e' : NasAclEntry} (same : e'.alist = e.alist)
    (each : e.TakesOneEach) : e'.TakesOneEach := by
  unfold NasAclEntry.TakesOneEach
  rw [same]
  exact each

theorem stored_takesOneEach {allowed : NasAclSwitch → Request → Prop} (reached : Reached allowed sw)
    {t id : NasObjId} (stored : sw.getEntry t id = .ok e) : e.TakesOneEach := by
  have all := reached_actions (fun _ _ _ => closed_takesOneEach) (fun _ _ t a found => by cases found)
    (fun _ _ => takesOneEach_of_actions) reached
  obtain ⟨table, -, each⟩ := all t id _ (getEntry_store stored)
  exact each

/-- The objects of an action are walked in the order of their map; how many elements it
translates to does not depend on it. -/
theorem copyActionNdi_walking (one : a.OneObject) :
    (a.copyActionNdi (p.walking w) npuId []).map (fun r => r.2.length)
      = (a.copyActionNdi p npuId []).map fun r => r.2.length := by
  unfold NasAclAction.copyActionNdi
  cases value : a.aInfo.values with
  | objId v =>
      have first : a.ndiCopyOneObjId (p.walking w) npuId = a.ndiCopyOneObjId p npuId := by
        unfold NasAclAction.ndiCopyOneObjId
        rw [Traversal.visit_small p.oidOrder _ (one v value)]
      simp only [first]
  | objIdList count list =>
      have found : (a.ndiCopyObjIdList (p.walking w) npuId).isSome
          = (a.ndiCopyObjIdList p npuId).isSome := by
        unfold NasAclAction.ndiCopyObjIdList
        simp only [List.filterMap_eq_nil_iff, Traversal.mem_visit]
        split <;> rfl
      cases there : a.ndiCopyObjIdList (p.walking w) npuId with
      | none =>
          rw [there, Option.isSome_none, eq_comm, Option.isSome_eq_false_iff,
            Option.isNone_iff_eq_none] at found
          simp only [found]
      | some v =>
          rw [there] at found
          obtain ⟨v', here⟩ := Option.isSome_iff_exists.mp found.symm
          simp only [here]
          rfl
  | _ => rfl

/-- Nor does that of an action with its counter. -/
theorem copyOneActionNdi_walking (one : a.OneObject)
    (counts : a.actionType = .setCounter → ∃ v, a.aInfo.values = .objId v) :
    (copyOneActionNdi (p.walking w) sw e npuId [] a).map List.length
      = (copyOneActionNdi p sw e npuId [] a).map List.length := by
  unfold copyOneActionNdi
  by_cases counter : a.isCounter
  · obtain ⟨v, object⟩ := counts (of_decide_eq_true counter)
    have same : a.copyActionNdi (p.walking w) npuId [] = a.copyActionNdi p npuId [] := by
      unfold NasAclAction.copyActionNdi
      simp only [object, counter, if_true]
    rw [same]
  · simp only [counter, Bool.false_eq_true, if_false]
    have same : (a.copyActionNdi (p.walking w) npuId []).map (fun r => r.2.length)
        = (a.copyActionNdi p npuId []).map fun r => r.2.length := copyActionNdi_walking one
    cases there : a.copyActionNdi (p.walking w) npuId [] with
    | error err =>
        cases here : a.copyActionNdi p npuId [] with
        | error err' =>
            rw [there, here] at same
            cases same
            rfl
        | ok r =>
            rw [there, here] at same
            cases same
    | ok r =>
        cases here : a.copyActionNdi p npuId [] with
        | error err =>
            rw [there, here] at same
            cases same
        | ok r' =>
            rw [there, here] at same
            exact same

/-- Whether pushing an action returns depends on how many elements it translates to. -/
theorem actionReturns_congr {p' : Platform} {rolling : Bool}
    (same : (copyOneActionNdi p' sw e npuId [] a).map List.length
      = (copyOneActionNdi p sw e npuId [] a).map List.length) :
    ActionReturns p' sw rolling e npuId a ↔ ActionReturns p sw rolling e npuId a := by
  unfold ActionReturns
  cases there : copyOneActionNdi p' sw e npuId [] a with
  | error err =>
      cases here : copyOneActionNdi p sw e npuId [] a with
      | error err' =>
          rw [there, here] at same
          cases same
          rfl
      | ok l =>
          rw [there, here] at same
          cases same
  | ok l =>
      cases here : copyOneActionNdi p sw e npuId [] a with
      | error err =>
          rw [there, here] at same
          cases same
      | ok l' =>
          rw [there, here] at same
          have length : l.length = l'.length := Except.ok.inj same
          cases l with
          | nil =>
              rw [List.eq_nil_of_length_eq_zero length.symm]
          | cons x rest =>
              obtain ⟨x', rest', rfl⟩ := List.exists_cons_of_length_eq_add_one length.symm
              simp only [Except.ok.injEq, exists_eq', implies_true, ne_eq, reduceCtorEq, not_false_eq_true,
                List.cons.injEq, true_and, exists_and_left, exists_eq_left', forall_const]

end Objects

/-! ## New entries -/

section Creating

open NasAclEntry

variable {p : Platform} {w w' : Walks} {sw : NasAclSwitch} {table : NasAclTable} {e old : NasAclEntry}
  {npuId : NpuId} {rolling : Bool}

theorem copyAllFiltersNdi_walking (l : List NasAclFilter) :
    copyAllFiltersNdi (p.walking w) npuId l = copyAllFiltersNdi p npuId l := by
  induction l with
  | nil => rfl
  | cons f rest ih =>
      unfold copyAllFiltersNdi
      rw [ih]
      rfl

/-- No filter without a port stands behind an interface that is no port, in the order the filters
are walked in: copying all of them returns. -/
def NasAclEntry.FiltersEnd (p : Platform) (w : Walks) (e : NasAclEntry) (npuId : NpuId) : Prop :=
  ∃ found, copyAllFiltersNdi p npuId (e.flist.items w.matchOrder) = .ok found

/-- Of a new entry, only the walk of its filters matters. -/
theorem creatable_walking_iff (objects : e.TakesOneEach)
    (creatable : e.Creatable (p.walking w) table npuId) :
    e.Creatable (p.walking w') table npuId ↔ e.FiltersEnd p w' npuId := by
  have length {w : Walks} {t : ActionType} {a : NasAclAction} (held : e.alist.find t = some a) :
      (∃ r, a.copyActionNdi (p.walking w) npuId [] = .ok r) ↔
        ∃ r, a.copyActionNdi p npuId [] = .ok r := by
    have same : (a.copyActionNdi (p.walking w) npuId []).map (fun r => r.2.length)
        = (a.copyActionNdi p npuId []).map fun r => r.2.length :=
      copyActionNdi_walking (objects t a held)
    constructor
    · rintro ⟨r, copied⟩
      obtain ⟨r', copied', -⟩ := except_map_ok.mp (same.symm.trans (except_map_ok.mpr ⟨r, copied, rfl⟩))
      exact ⟨r', copied'⟩
    · rintro ⟨r, copied⟩
      obtain ⟨r', copied', -⟩ := except_map_ok.mp (same.trans (except_map_ok.mpr ⟨r, copied, rfl⟩))
      exact ⟨r', copied'⟩
  constructor
  · intro creatable'
    obtain ⟨found, copied⟩ := creatable'.filters
    exact ⟨found, (copyAllFiltersNdi_walking _).symm.trans copied⟩
  · rintro ⟨found, copied⟩
    refine ⟨creatable.table, ⟨found, (copyAllFiltersNdi_walking _).trans copied⟩, ?_⟩
    exact fun matches_ t a held =>
      (length held).mpr ((length held).mp (creatable.actions matches_ t a held))

/-! ## What is asked of the base object -/

/-- The pushes of a modify end in the same way in two calls. -/
structure NasAclEntry.PushesAlike (scope scope' : PushScope) (rolling : Bool) (e old : NasAclEntry) :
    Prop where
  created : ∀ npuId ∈ e.npuList \ old.npuList, e.CreatesOn scope npuId ↔ e.CreatesOn scope' npuId
  filters : Returns (changesPush scope.platform scope.sw .entryMatch e old (old.npuList ∩ e.npuList)
      rolling) ↔
    Returns (changesPush scope'.platform scope'.sw .entryMatch e old (old.npuList ∩ e.npuList) rolling)
  actions : Returns (changesPush scope.platform scope.sw .entryAction e old (old.npuList ∩ e.npuList)
      rolling) ↔
    Returns (changesPush scope'.platform scope'.sw .entryAction e old (old.npuList ∩ e.npuList) rolling)

/-- A commit of an entry that has succeeded has made its pushes, and it sees the walks of the
maps through them only: where the pushes of another call end in the same way, that call succeeds
as well.  So the NDI does not mind the order in which the elements of an entry are listed. -/
structure Oracle.SeesPushes (p : Platform) (o : Oracle) : Prop where
  created : ∀ w sw table e rollback ids,
    o.entryCreate ⟨p.walking w, sw, table⟩ e rollback = .ok ids →
    ∀ npuId ∈ e.npuList, e.CreatesOn ⟨p.walking w, sw, table⟩ npuId
  added : ∀ w sw table e old rollback ids,
    (o.entryModify ⟨p.walking w, sw, table⟩ e old rollback).1 = .ok ids →
    ∀ npuId ∈ e.npuList \ old.npuList, e.CreatesOn ⟨p.walking w, sw, table⟩ npuId
  creates : ∀ w w' sw table e rollback ids,
    o.entryCreate ⟨p.walking w, sw, table⟩ e rollback = .ok ids →
    (∀ npuId ∈ e.npuList,
      e.CreatesOn ⟨p.walking w, sw, table⟩ npuId ↔ e.CreatesOn ⟨p.walking w', sw, table⟩ npuId) →
    ∃ ids', o.entryCreate ⟨p.walking w', sw, table⟩ e rollback = .ok ids'
  modifies : ∀ w w' sw table e old rollback ids,
    (o.entryModify ⟨p.walking w, sw, table⟩ e old rollback).1 = .ok ids →
    e.PushesAlike ⟨p.walking w, sw, table⟩ ⟨p.walking w', sw, table⟩ rollback old →
    ∃ ids', (o.entryModify ⟨p.walking w', sw, table⟩ e old rollback).1 = .ok ids'

/-- Where an entry is installed, its changes are pushed alike in any order. -/
theorem filters_return_walking {npus : NpuSet} :
    Returns (changesPush (p.walking w) sw .entryMatch e old npus rolling) ↔
      Returns (changesPush p sw .entryMatch e old npus rolling) := by
  rw [filters_return_iff, filters_return_iff]
  rfl

theorem actions_return_walking {npus : NpuSet} (counts : e.CountsByObject)
    (objects : e.TakesOneEach) :
    Returns (changesPush (p.walking w) sw .entryAction e old npus rolling) ↔
      Returns (changesPush p sw .entryAction e old npus rolling) := by
  rw [actions_return_iff, actions_return_iff]
  refine forall₂_congr fun npuId _ => and_congr_right fun _ => forall₂_congr fun a found => ?_
  have held := (Keyed.find_addOrMod.mp found).1
  exact actionReturns_congr (copyOneActionNdi_walking (objects _ a held) fun counter =>
    counts a (counter ▸ held))

theorem pushesAlike (counts : e.CountsByObject)
    (objects : e.TakesOneEach)
    (created : ∀ npuId ∈ e.npuList \ old.npuList,
      e.CreatesOn ⟨p.walking w, sw, table⟩ npuId ↔ e.CreatesOn ⟨p.walking w', sw, table⟩ npuId) :
    e.PushesAlike ⟨p.walking w, sw, table⟩ ⟨p.walking w', sw, table⟩ rolling old where
  created := created
  filters := filters_return_walking.trans filters_return_walking.symm
  actions := (actions_return_walking counts objects).trans (actions_return_walking counts objects).symm

end Creating

/-! ### On the bench -/

theorem Bench.pushingOracle_seesPushes (p : Platform) : Bench.pushingOracle.SeesPushes p where
  created _ _ _ _ _ ids done := idsPushed_creates.mp ⟨ids, done⟩
  added _ _ _ _ _ _ ids done := idsPushed_creates.mp ⟨ids, (modified_ok.mp done).2⟩
  creates _ _ _ _ _ _ ids done alike := by
    have creates := idsPushed_creates.mp ⟨ids, done⟩
    exact idsPushed_creates.mpr fun npuId mem => (alike npuId mem).mp (creates npuId mem)
  modifies w w' sw table e old rollback ids done alike := by
    change modified ⟨p.walking w, sw, table⟩ e old rollback = .ok ids at done
    obtain ⟨back, pushed⟩ := modified_ok.mp done
    have creates := idsPushed_creates.mp ⟨ids, pushed⟩
    have again : ∃ ids', idsPushed ⟨p.walking w', sw, table⟩ e
        (e.npuList ∩ old.npuList ∩ e.ndiEntryIds.keys) (e.npuList \ old.npuList) = .ok ids' :=
      idsPushed_creates.mpr fun npuId mem => (alike.created npuId mem).mp (creates npuId mem)
    obtain ⟨ids', pushed'⟩ := again
    refine ⟨ids', modified_ok.mpr ⟨fun rolls => ?_, pushed'⟩⟩
    obtain ⟨priority, filters, actions⟩ := restored_ok.mp (back rolls)
    subst rolls
    exact restored_ok.mpr ⟨priority, fun dirty => alike.filters.mp (filters dirty),
      fun dirty => alike.actions.mp (actions dirty)⟩

end SonicNasAcl
