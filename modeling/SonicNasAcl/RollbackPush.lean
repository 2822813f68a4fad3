/-
# RollbackPush -- pushes that go on after a failure

A push that rolls back passes over the calls that fail: it is a list of calls, made one
after the other whatever they return.  But the `catch` of its loops is for base
exceptions only, and two things throw another kind: the lookup of the NDI id of the
entry on an NPU, and the counter of an entry that is not where the entry is.

* `Settles`: an effect that either makes all of a list of calls or throws, whatever the
  NDI answers; it is closed under sequence and loops;
* `rollbackPush_bestEffort_iff`: a push that rolls back is best effort exactly when it
  meets neither of the two;
* `not_installed_stops` is a push to an NPU where the entry is not installed.
-/
import SonicNasAcl.Bench
import SonicNasAcl.EntryIds

namespace SonicNasAcl

set_option autoImplicit false

open Lib

/-! ## Calls -/

/-- A call about one element of an installed entry. -/
inductive ElementCall where
  | disableFilter (npuId : NpuId) (id : NdiObjId) (t : MatchType)
  | setFilter (npuId : NpuId) (id : NdiObjId) (f : NdiFilter)
  | disableAction (npuId : NpuId) (id : NdiObjId) (t : ActionType)
  | setAction (npuId : NpuId) (id : NdiObjId) (a : NdiAction)

namespace ElementCall

/-- What a call does when it succeeds. -/
def act : ElementCall → Ndi → Ndi
  | .disableFilter npuId id t => .modifyEntry npuId id fun e => { e with filters := e.filters.erase t }
  | .setFilter npuId id f => .modifyEntry npuId id fun e => { e with filters := e.filters.put f }
  | .disableAction npuId id t =>
      .modifyEntry npuId id fun e => { e with actions := e.actions.erase t }
  | .setAction npuId id a => .modifyEntry npuId id fun e => { e with actions := e.actions.put a }

/-- A call, whatever it returns. -/
def attempt (o : NdiReplies) (s : Ndi) (c : ElementCall) : Ndi :=
  match o.rc s.calls with
  | .ok () => { c.act s with calls := s.calls + 1 }
  | .error _ => { s with calls := s.calls + 1 }

/-- Calls made one after the other, whatever they return. -/
def attemptAll (o : NdiReplies) (calls : List ElementCall) (s : Ndi) : Ndi := calls.foldl (attempt o) s

theorem attempt_trakr (o : NdiReplies) (s : Ndi) (c : ElementCall) :
    (c.attempt o s).trakr = s.trakr := by
  unfold attempt
  cases o.rc s.calls with
  | error rc => rfl
  | ok _ => cases c <;> rfl

theorem attemptAll_trakr (o : NdiReplies) (calls : List ElementCall) (s : Ndi) :
    (attemptAll o calls s).trakr = s.trakr := by
  induction calls generalizing s with
  | nil => rfl
  | cons c rest ih => exact (ih _).trans (attempt_trakr o s c)

end ElementCall

open ElementCall

/-- An effect that returns with the same calls attempted, whatever the NDI answers, and
tracks nothing. -/
structure BestEffort (body : NdiReplies → NdiM Unit) : Prop where
  sameCalls : ∃ calls, ∀ o s, body o s = (.ok (), attemptAll o calls s)
  untracked : ∀ o s, (body o s).2.trakr = s.trakr

/-! ## Effects that attempt all their calls, or throw -/

/-- The effect attempts a list of calls when `good`, and else throws, whatever the NDI
answers. -/
def Settles (good : Prop) (body : NdiReplies → NdiM Unit) : Prop :=
  (good ∧ ∃ calls, ∀ o s, body o s = (.ok (), attemptAll o calls s)) ∨
    (¬ good ∧ ∀ o s, ∃ err s', body o s = (.error err, s'))

namespace Settles

variable {good good' : Prop} {body body' : NdiReplies → NdiM Unit}

theorem congr (h : Settles good body) (same : good ↔ good') : Settles good' body := by
  rw [Settles, ← same]
  exact h

theorem of_calls (calls : List ElementCall)
    (ran : ∀ o s, body o s = (.ok (), attemptAll o calls s)) : Settles True body :=
  .inl ⟨trivial, calls, ran⟩

theorem of_throw (threw : ∀ o s, ∃ err s', body o s = (.error err, s')) : Settles False body :=
  .inr ⟨id, threw⟩

theorem seq (first : Settles good body) (second : Settles good' body') :
    Settles (good ∧ good') fun o => body o >>= fun _ => body' o := by
  rcases first with ⟨fine, calls, ran⟩ | ⟨bad, threw⟩
  · rcases second with ⟨fine', calls', ran'⟩ | ⟨bad', threw'⟩
    · refine .inl ⟨⟨fine, fine'⟩, calls ++ calls', fun o s => ?_⟩
      refine (Eff.bind_of_ok (ran o s)).trans ?_
      rw [ran', attemptAll, attemptAll, attemptAll, List.foldl_append]
    · refine .inr ⟨fun both => bad' both.2, fun o s => ?_⟩
      obtain ⟨err, s', stopped⟩ := threw' o (attemptAll o calls s)
      exact ⟨err, s', (Eff.bind_of_ok (ran o s)).trans stopped⟩
  · refine .inr ⟨fun both => bad both.1, fun o s => ?_⟩
    obtain ⟨err, s', stopped⟩ := threw o s
    exact ⟨err, s', Eff.bind_of_error stopped⟩

theorem forM {β : Type} {l : List β} {f : NdiReplies → β → NdiM Unit} {ok : β → Prop}
    (turn : ∀ b ∈ l, Settles (ok b) fun o => f o b) :
    Settles (∀ b ∈ l, ok b) fun o => l.forM (f o) := by
  induction l with
  | nil => exact (of_calls [] fun _ _ => rfl).congr (iff_of_true trivial (List.forall_mem_nil _))
  | cons b rest ih =>
      rw [List.forall_mem_cons]
      exact (turn b (List.mem_cons_self ..)).seq (ih fun c mem => turn c (List.mem_cons_of_mem _ mem))

theorem bestEffort_iff (h : Settles good body) : BestEffort body ↔ good := by
  rcases h with ⟨fine, calls, ran⟩ | ⟨bad, threw⟩
  · refine iff_of_true ⟨⟨calls, ran⟩, fun o s => ?_⟩ fine
    rw [ran]
    exact attemptAll_trakr o calls s
  · refine iff_of_false (fun best => ?_) bad
    obtain ⟨calls, ran⟩ := best.sameCalls
    obtain ⟨err, s', stopped⟩ := threw ⟨fun _ => .ok (), fun _ => 0⟩ ⟨fun _ _ => none, 0, []⟩
    cases stopped.symm.trans (ran _ _)

end Settles

/-! ## One element -/

section Elements

variable {p : Platform} {sw : NasAclSwitch} {e : NasAclEntry} {npuId : NpuId}

/-- A call that is passed over when it fails. -/
theorem continueOnError_call (o : NdiReplies) (errMsg : String) (c : ElementCall) (s : Ndi) :
    continueOnError true (ndiCall o errMsg c.act) s = (.ok (), c.attempt o s) := by
  unfold continueOnError ndiCall attempt
  cases o.rc s.calls with
  | ok _ => rfl
  | error rc => rfl

/-- The lookup of the id on an NPU, then one call. -/
def callOn (e : NasAclEntry) (npuId : NpuId) (errMsg : String) (call : NdiObjId → ElementCall)
    (o : NdiReplies) : NdiM Unit := do
  let id ← Eff.query fun _ => e.ndiEntryId npuId
  ndiCall o errMsg (call id).act

theorem callOn_of_id {id : NdiObjId} (known : e.ndiEntryIds.lookup npuId = some id)
    {errMsg : String} {call : NdiObjId → ElementCall} (o : NdiReplies) :
    callOn e npuId errMsg call o = ndiCall o errMsg (call id).act := by
  unfold callOn
  rw [NasAclEntry.ndiEntryId, known]
  rfl

theorem callOn_of_none (absent : npuId ∉ e.ndiEntryIds) {errMsg : String}
    {call : NdiObjId → ElementCall} (o : NdiReplies) (s : Ndi) :
    callOn e npuId errMsg call o s = (.error .outOfRange, s) := by
  unfold callOn
  rw [NasAclEntry.ndiEntryId, Finmap.lookup_eq_none.mpr absent]
  rfl

/-- An exception that is not a base exception passes the `catch`. -/
theorem continueOnError_throws {body : NdiM Unit} {err : Exn} {s s' : Ndi}
    (notBase : ∀ errCode errMsg, err ≠ .base errCode errMsg) (threw : body s = (.error err, s')) :
    continueOnError true body s = (.error err, s') := by
  unfold continueOnError
  rw [threw]
  cases err with
  | base errCode errMsg => exact absurd rfl (notBase errCode errMsg)
  | _ => rfl

/-- A base exception does not. -/
theorem continueOnError_base {body : NdiM Unit} {errCode : ErrCode} {errMsg : String} {s s' : Ndi}
    (threw : body s = (.error (.base errCode errMsg), s')) :
    continueOnError true body s = (.ok (), s') := by
  unfold continueOnError
  rw [threw]
  rfl

theorem settles_callOn (errMsg : String) (call : NdiObjId → ElementCall) :
    Settles (npuId ∈ e.ndiEntryIds) fun o => continueOnError true (callOn e npuId errMsg call o) := by
  by_cases here : npuId ∈ e.ndiEntryIds
  · obtain ⟨id, known⟩ := Finmap.mem_iff.mp here
    refine (Settles.of_calls [call id] fun o s => ?_).congr (iff_of_true trivial here)
    rw [callOn_of_id known]
    exact continueOnError_call o errMsg (call id) s
  · refine (Settles.of_throw fun o s => ⟨.outOfRange, s, ?_⟩).congr (iff_of_false id here)
    exact continueOnError_throws (fun _ _ same => by cases same) (callOn_of_none here o s)

theorem settles_disableFilter {t : MatchType} :
    Settles (npuId ∈ e.ndiEntryIds) fun o =>
      continueOnError true (utlPushDisableFilterToNpu o e t npuId) :=
  settles_callOn _ (.disableFilter npuId · t)

theorem settles_disableAction {t : ActionType} :
    Settles (npuId ∈ e.ndiEntryIds) fun o =>
      continueOnError true (utlPushDisableActionToNpu o e t npuId) :=
  settles_callOn _ (.disableAction npuId · t)

/-- The kind of all exceptions that pass the `catch`. -/
def Passes (err : Exn) : Prop := ∀ errCode errMsg, err ≠ .base errCode errMsg

theorem passes_notBase : NotBase Passes := fun errCode errMsg passes => passes errCode errMsg rfl

theorem base_of_avoids {α : Type} {x : Except Exn α} {err : Exn} (avoids : Avoids Passes x)
    (failed : x = .error err) : ∃ errCode errMsg, err = .base errCode errMsg := by
  by_contra none_
  refine avoids err failed fun errCode errMsg same => ?_
  exact none_ ⟨errCode, errMsg, same⟩

/-- A filter is looked up on an NPU where it has something to set. -/
theorem settles_filter {f : NasAclFilter} :
    Settles ((∃ x, f.copyFilterNdi p p.zeroValuesType npuId = .ok (some x)) → npuId ∈ e.ndiEntryIds)
      fun o => continueOnError true (utlPushFilterToNpu p o e f npuId) := by
  unfold utlPushFilterToNpu
  cases copied : f.copyFilterNdi p p.zeroValuesType npuId with
  | error err =>
      obtain ⟨errCode, errMsg, rfl⟩ := base_of_avoids (avoids_copyFilterNdi passes_notBase) copied
      refine (Settles.of_calls [] fun o s => continueOnError_base rfl).congr ?_
      refine iff_of_true trivial ?_
      rintro ⟨x, same⟩
      cases same
  | ok found =>
      cases found with
      | none =>
          refine (Settles.of_calls [] fun o s => rfl).congr (iff_of_true trivial ?_)
          rintro ⟨x, same⟩
          cases same
      | some x =>
          refine (settles_callOn _ (.setFilter npuId · x)).congr ?_
          exact ⟨fun here _ => here, fun found => found ⟨x, rfl⟩⟩

/-- Nothing is appended to an empty list but the one translation of an action. -/
theorem copyActionNdi_length {a : NasAclAction} {b : Bool} {l : List NdiAction}
    (copied : a.copyActionNdi p npuId [] = .ok (b, l)) : l.length ≤ 1 := by
  unfold NasAclAction.copyActionNdi at copied
  cases value : a.aInfo.values with
  | objId v =>
      simp only [value] at copied
      split at copied
      · cases copied
        exact le_refl 1
      · split at copied
        · cases copied
        · cases copied
          exact le_refl 1
  | objIdList count list =>
      simp only [value] at copied
      split at copied
      · cases copied
      · cases copied
        exact le_refl 1
  | port q =>
      simp only [value] at copied
      split at copied
      · cases copied
        exact Nat.zero_le 1
      · cases copied
        exact le_refl 1
  | portlist list =>
      simp only [value] at copied
      obtain ⟨ports, -, copied⟩ := except_bind_ok.mp copied
      split at copied
      · cases copied
        exact Nat.zero_le 1
      · cases copied
        exact le_refl 1
  | _ =>
      simp only [value] at copied
      cases copied
      exact le_refl 1

theorem copyNdiCounterId_length {l l' : List NdiAction}
    (copied : copyNdiCounterId sw e npuId l = .ok l') : l'.length = l.length := by
  unfold copyNdiCounterId at copied
  cases last : l.getLast? with
  | none =>
      rw [last] at copied
      cases copied
  | some x =>
      rw [last] at copied
      obtain ⟨counter, -, copied⟩ := except_bind_ok.mp (noexceptFn_ok.mp copied)
      split at copied
      · cases copied
      · cases copied
      · cases copied
        have some_ : l ≠ [] := by
          rintro rfl
          cases last
        rw [List.length_append, List.length_dropLast, List.length_singleton]
        exact Nat.sub_add_cancel (List.length_pos_iff.mpr some_)

/-- An action translates to one element at most. -/
theorem copyOneActionNdi_length {a : NasAclAction} {l : List NdiAction}
    (copied : copyOneActionNdi p sw e npuId [] a = .ok l) : l.length ≤ 1 := by
  obtain ⟨⟨b, l₀⟩, first, copied⟩ := except_bind_ok.mp copied
  have short := copyActionNdi_length first
  dsimp only at copied
  split at copied
  · rw [copyNdiCounterId_length copied]
    exact short
  · cases copied
    exact short

/-- An action is looked up on an NPU where it has something to set. -/
theorem settles_action {a : NasAclAction} :
    Settles ((∀ why, copyOneActionNdi p sw e npuId [] a ≠ .error (.abort why)) ∧
        ((∃ x l, copyOneActionNdi p sw e npuId [] a = .ok (x :: l)) → npuId ∈ e.ndiEntryIds))
      fun o => continueOnError true (utlPushActionToNpu p o sw e a npuId) := by
  unfold utlPushActionToNpu
  cases copied : copyOneActionNdi p sw e npuId [] a with
  | error err =>
      cases err with
      | base errCode errMsg =>
          refine (Settles.of_calls [] fun o s => continueOnError_base rfl).congr ?_
          refine iff_of_true trivial ⟨(fun why same => by cases same), ?_⟩
          rintro ⟨x, l, same⟩
          cases same
      | abort why =>
          refine (Settles.of_throw fun o s => ⟨.abort why, s, ?_⟩).congr ?_
          · exact continueOnError_throws (fun _ _ same => by cases same) rfl
          · exact iff_of_false id fun good => good.1 why rfl
      | outOfRange => exact absurd rfl (copyOneActionNdi_inRange _ copied)
  | ok l =>
      cases l with
      | nil =>
          refine (Settles.of_calls [] fun o s => rfl).congr ?_
          refine iff_of_true trivial ⟨(fun why same => by cases same), ?_⟩
          rintro ⟨x, l, same⟩
          cases same
      | cons x rest =>
          have single : rest = [] := by
            have short := copyOneActionNdi_length copied
            rw [List.length_cons] at short
            exact List.eq_nil_of_length_eq_zero (by omega)
          subst single
          have one : ∀ o, (do
              let ndiAlist ← Eff.query fun _ => .ok [x]
              ndiAlist.forM fun ndiAction => do
                let id ← Eff.query fun _ => e.ndiEntryId npuId
                ndiAclEntrySetAction o
                  ("NDI Action Set failed for " ++ a.name ++ " for NPU " ++ toString npuId)
                  npuId id ndiAction)
              = callOn e npuId ("NDI Action Set failed for " ++ a.name ++ " for NPU " ++ toString npuId)
                (.setAction npuId · x) o := by
            intro o
            have turn : (callOn e npuId ("NDI Action Set failed for " ++ a.name ++ " for NPU "
                ++ toString npuId) (.setAction npuId · x) o >>= fun _ => pure ())
                = callOn e npuId ("NDI Action Set failed for " ++ a.name ++ " for NPU "
                ++ toString npuId) (.setAction npuId · x) o := bind_pure _
            exact turn
          refine Settles.congr ?_ ⟨fun here => ⟨(fun why same => by cases same), fun _ => here⟩,
            fun good => good.2 ⟨x, [], rfl⟩⟩
          simp only [one]
          exact settles_callOn _ _

end Elements

/-! ## The changed lists -/

/-- Tracking is off, and each element settles: so does the whole modify. -/
theorem settles_modifyList {κ α : Type} [Fintype κ] {key : α → κ} {order : Traversal κ}
    {attr : κ → AttrHierarchy} (pushDisable : NdiReplies → κ → NpuId → NdiM Unit)
    (push : NdiReplies → α → NpuId → NdiM Unit) {deleted addOrMod : Keyed key} {npus : List NpuId}
    {goodDisable : NpuId → Prop} {goodPush : NpuId → α → Prop}
    (disables : ∀ t npuId, Settles (goodDisable npuId) fun o =>
      continueOnError true (pushDisable o t npuId))
    (pushes : ∀ x npuId, Settles (goodPush npuId x) fun o =>
      continueOnError true (push o x npuId)) :
    Settles (∀ npuId ∈ npus, (∀ x ∈ deleted.items order, goodDisable npuId) ∧
        ∀ x ∈ addOrMod.items order, goodPush npuId x)
      fun o => utlModifyListNpulistNdi order attr (pushDisable o) (push o) deleted addOrMod true
        npus := by
  have untracked : Settles True fun _ => (pure () : NdiM Unit) := .of_calls [] fun _ _ => rfl
  refine Settles.forM fun npuId _ => Settles.seq ?_ ?_
  · exact Settles.forM fun x _ => ((disables (key x) npuId).seq untracked).congr (and_iff_left trivial)
  · exact Settles.forM fun x _ => ((pushes x npuId).seq untracked).congr (and_iff_left trivial)

section Lists

variable {p : Platform} {sw : NasAclSwitch} {new old : NasAclEntry} {npus : NpuSet}

/-- The entry is installed wherever a filter is removed, or set to something. -/
def FiltersRestorable (p : Platform) (new old : NasAclEntry) (npus : NpuSet) : Prop :=
  ∀ npuId ∈ npus, (∀ f, (Keyed.deleted new.flist old.flist).find f.filterType = some f →
      npuId ∈ new.ndiEntryIds) ∧
    ∀ f, (Keyed.addOrMod (NasAclFilter.ne p) new.flist old.flist).find f.filterType = some f →
      (∃ x, f.copyFilterNdi p p.zeroValuesType npuId = .ok (some x)) → npuId ∈ new.ndiEntryIds

/-- The entry is installed wherever an action is removed, or set to something, and no
translation ends the process. -/
def ActionsRestorable (p : Platform) (sw : NasAclSwitch) (new old : NasAclEntry) (npus : NpuSet) :
    Prop :=
  ∀ npuId ∈ npus, (∀ a, (Keyed.deleted new.alist old.alist).find a.actionType = some a →
      npuId ∈ new.ndiEntryIds) ∧
    ∀ a, (Keyed.addOrMod NasAclAction.ne new.alist old.alist).find a.actionType = some a →
      (∀ why, copyOneActionNdi p sw new npuId [] a ≠ .error (.abort why)) ∧
      ((∃ x l, copyOneActionNdi p sw new npuId [] a = .ok (x :: l)) → npuId ∈ new.ndiEntryIds)

/-- What a rollback push of one attribute does. -/
def rollbackPush (p : Platform) (sw : NasAclSwitch) (attr : AttrId) (new old : NasAclEntry)
    (npus : NpuSet) (o : NdiReplies) : NdiM Unit :=
  pushNonLeafAttrNdi p o sw attr old npus true new

theorem settles_flist :
    Settles (FiltersRestorable p new old npus) (rollbackPush p sw .entryMatch new old npus) := by
  refine (settles_modifyList (fun o => utlPushDisableFilterToNpu o new)
    (fun o => utlPushFilterToNpu p o new) (fun t npuId => settles_disableFilter)
    fun f npuId => settles_filter).congr ?_
  simp only [FiltersRestorable, Traversal.mem_visit, Keyed.mem_items]

theorem settles_alist :
    Settles (ActionsRestorable p sw new old npus) (rollbackPush p sw .entryAction new old npus) := by
  refine (settles_modifyList (fun o => utlPushDisableActionToNpu o new)
    (fun o => utlPushActionToNpu p o sw new) (fun t npuId => settles_disableAction)
    fun a npuId => settles_action).congr ?_
  simp only [ActionsRestorable, Traversal.mem_visit, Keyed.mem_items]

/-- A rollback push is best effort exactly when the lookups it makes succeed. -/
theorem rollbackPush_bestEffort_iff (p : Platform) (sw : NasAclSwitch) (new old : NasAclEntry)
    (npus : NpuSet) :
    (BestEffort (rollbackPush p sw .entryMatch new old npus) ↔ FiltersRestorable p new old npus) ∧
      (BestEffort (rollbackPush p sw .entryAction new old npus) ↔
        ActionsRestorable p sw new old npus) :=
  ⟨settles_flist.bestEffort_iff, settles_alist.bestEffort_iff⟩

end Lists

/-! ### On the bench -/

namespace Bench

/-- An entry for interface 1, which is on NPU 0, installed there. -/
def onPort (more : List NasAclFilter) : NasAclEntry :=
  { NasAclEntry.new platform 1 with
    flist := .ofItems (⟨⟨.inPort, .port ⟨0, 1⟩⟩, [1]⟩ :: more)
    ndiEntryIds := idsOn {0} }

def ttlFilter : NasAclFilter := ⟨⟨.ttl, .u8 7 255⟩, []⟩

end Bench

/-- A filter that a failed modify has added is to be removed again on NPU 1, where the
entry is not installed. -/
theorem not_installed_stops :
    ¬ ∀ (p : Platform) (sw : NasAclSwitch) (new old : NasAclEntry) (npus : NpuSet),
      BestEffort (rollbackPush p sw .entryMatch new old npus) ∧
        BestEffort (rollbackPush p sw .entryAction new old npus) := by
  intro claim
  obtain ⟨calls, ran⟩ := (claim Bench.platform .new (Bench.onPort []) (Bench.onPort [Bench.ttlFilter])
    {0, 1}).1.sameCalls
  have stopped : (rollbackPush Bench.platform .new .entryMatch (Bench.onPort [])
      (Bench.onPort [Bench.ttlFilter]) {0, 1} ⟨fun _ => .ok (), fun _ => 0⟩
      ⟨fun _ _ => none, 0, []⟩).1 = .error .outOfRange := by
    decide +kernel
  rw [ran] at stopped
  cases stopped

end SonicNasAcl
