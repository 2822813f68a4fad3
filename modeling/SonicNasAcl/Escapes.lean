/-
# Escapes -- which exceptions leave a push

What is done to the NDI for an entry throws from three places: a call or a translation
that fails, which is a base exception and is caught; a lookup of the entry's NDI id;
and the entry's counter, which is followed in a `noexcept` function.  So an exception
that is not a base exception stays away as long as the lookups and the counter do not
throw it.

* `Avoids` and `Never`: a computation, and an effect on the NDI, that do not throw a
  kind of exception;
* `NasAclEntry.PushesOn`: the two places of an entry that may, on an NPU;
* `never_pushCreateObjToNpu`, `never_pushLeafAttrToNpu`, `never_pushNonLeafAttrNdi`,
  `never_rollbackTracked`: where they do not throw it, nothing does.
-/
import SonicNasAcl.Push

namespace SonicNasAcl

set_option autoImplicit false

open Lib

/-! ## Kinds of exceptions -/

/-- A kind of exception that is not a base exception. -/
def NotBase (bad : Exn → Prop) : Prop := ∀ errCode errMsg, ¬ bad (.base errCode errMsg)

/-- An answer, or an exception of another kind. -/
def Avoids {α : Type} (bad : Exn → Prop) (x : Except Exn α) : Prop :=
  ∀ err, x = .error err → ¬ bad err

/-- An effect on the NDI that throws no exception of a kind, whatever the NDI answers. -/
abbrev Never {α : Type} (bad : Exn → Prop) (x : NdiM α) : Prop :=
  Eff.Spec (fun _ => True) x (fun _ _ => True) fun err _ => ¬ bad err

section Kinds

variable {α β : Type} {bad : Exn → Prop}

theorem avoids_ok (a : α) : Avoids bad (.ok a : Except Exn α) := by
  intro err failed
  cases failed

theorem avoids_base (notBase : NotBase bad) (errCode : ErrCode) (errMsg : String) :
    Avoids bad (.error (.base errCode errMsg) : Except Exn α) := by
  intro err failed
  cases failed
  exact notBase errCode errMsg

theorem avoids_bind {x : Except Exn α} {f : α → Except Exn β} (first : Avoids bad x)
    (second : ∀ a, x = .ok a → Avoids bad (f a)) : Avoids bad (x >>= f) := by
  intro err stopped
  obtain failed | ⟨a, found, failed⟩ := except_bind_error.mp stopped
  · exact first err failed
  · exact second a found err failed

theorem avoids_foldlM {f : β → α → Except Exn β} {l : List α} {b : β}
    (turns : ∀ a ∈ l, ∀ b, Avoids bad (f b a)) : Avoids bad (l.foldlM f b) := by
  induction l generalizing b with
  | nil => exact avoids_ok b
  | cons a rest ih =>
      obtain ⟨here, turns⟩ := List.forall_mem_cons.mp turns
      rw [List.foldlM_cons]
      exact avoids_bind (here b) fun b' _ => ih turns

theorem avoids_mapM {f : α → Except Exn β} {l : List α} (turns : ∀ a, Avoids bad (f a)) :
    Avoids bad (l.mapM f) := by
  induction l with
  | nil => exact avoids_ok []
  | cons a rest ih =>
      rw [List.mapM_cons]
      exact avoids_bind (turns a) fun b _ => avoids_bind ih fun bs _ => avoids_ok _

theorem never_query {f : Ndi → Except Exn α} (avoids : ∀ s, Avoids bad (f s)) :
    Never bad (Eff.query f) :=
  .query (fun _ _ _ _ => trivial) fun s err _ failed => avoids s err failed

theorem never_throw_base (notBase : NotBase bad) (errCode : ErrCode) (errMsg : String) :
    Never bad (Eff.throw (.base errCode errMsg) : NdiM α) :=
  .throw fun _ _ => notBase errCode errMsg

theorem Never.then {x : NdiM α} {f : α → NdiM β} (first : Never bad x)
    (rest : ∀ a, Never bad (f a)) : Never bad (x >>= f) := Eff.Spec.bind first rest

/-- An answer that does not depend on the NDI is known to what follows. -/
theorem never_asked {x : Except Exn α} {f : α → NdiM β} (avoids : Avoids bad x)
    (rest : ∀ a, x = .ok a → Never bad (f a)) : Never bad (Eff.query (fun _ => x) >>= f) where
  ok _ _ := trivial
  error {s s' err} pre failed := by
    rcases Eff.bind_error.mp failed with asked | ⟨a, mid, asked, stopped⟩
    · rw [Eff.query_apply, Prod.mk.injEq] at asked
      exact avoids err asked.1
    · obtain ⟨answer, rfl⟩ := Eff.query_ok.mp asked
      exact (rest a answer).error pre stopped

theorem never_forM {f : α → NdiM Unit} {l : List α} (turns : ∀ a ∈ l, Never bad (f a)) :
    Never bad (l.forM f) := by
  induction l with
  | nil => exact .pure fun _ _ => trivial
  | cons a rest ih =>
      obtain ⟨here, turns⟩ := List.forall_mem_cons.mp turns
      exact here.then fun _ => ih turns

theorem never_continueOnError {rollingBack : Bool} {body : NdiM Unit} (inner : Never bad body) :
    Never bad (continueOnError rollingBack body) where
  ok _ _ := trivial
  error {s s' err} pre failed := by
    unfold continueOnError at failed
    split at failed
    · rename_i stopped
      split at failed
      · cases failed
      · cases failed
        exact inner.error pre stopped
    · exact inner.error pre failed

theorem never_track {rollingBack : Bool} {elem : RollbkElem} :
    Never bad (track rollingBack elem) :=
  .ite (fun _ => .pure fun _ _ => trivial) fun _ => .write fun _ _ => trivial

end Kinds

/-! ## Translations and calls -/

section Translations

variable {bad : Exn → Prop} {p : Platform} {o : NdiReplies} {npuId : NpuId}

theorem never_ndiCall (notBase : NotBase bad) {errMsg : String} {act : Ndi → Ndi} :
    Never bad (ndiCall o errMsg act) where
  ok _ _ := trivial
  error {s s' err} _ failed := by
    unfold ndiCall at failed
    split at failed
    · cases failed
    · cases failed
      exact notBase _ _

theorem avoids_getNdiObjId (notBase : NotBase bad) {table : NasAclTable} :
    Avoids bad (table.getNdiObjId npuId) := by
  unfold NasAclTable.getNdiObjId
  split
  · exact avoids_ok _
  · exact avoids_base notBase _ _

theorem avoids_ndiPorts (notBase : NotBase bad) {l : List IfIndex} :
    Avoids bad (NasAclFilter.ndiPorts p l) := by
  refine avoids_mapM fun ifindex => ?_
  unfold utlIfidxToNdiPort
  split
  · exact avoids_base notBase _ _
  · split
    · exact avoids_base notBase _ _
    · exact avoids_ok _

theorem avoids_copyFilterNdi (notBase : NotBase bad) {dest : FilterValuesType}
    {f : NasAclFilter} : Avoids bad (f.copyFilterNdi p dest npuId) := by
  unfold NasAclFilter.copyFilterNdi
  split
  · exact avoids_ok _
  · split
    · refine avoids_bind (avoids_ndiPorts notBase) fun ports _ => ?_
      split <;> exact avoids_ok _
    · exact avoids_ok _

theorem avoids_copyAllFiltersNdi (notBase : NotBase bad) {l : List NasAclFilter} :
    Avoids bad (copyAllFiltersNdi p npuId l) := by
  induction l with
  | nil => exact avoids_ok _
  | cons f rest ih =>
      refine avoids_bind (avoids_copyFilterNdi notBase) fun found _ => ?_
      cases found with
      | none => exact avoids_ok _
      | some x =>
          cases copied : copyAllFiltersNdi p npuId rest with
          | ok r => exact avoids_ok _
          | error err =>
              intro err' failed
              cases failed
              exact ih err copied

theorem avoids_copyActionNdi (notBase : NotBase bad) {a : NasAclAction} {l : List NdiAction} :
    Avoids bad (a.copyActionNdi p npuId l) := by
  unfold NasAclAction.copyActionNdi
  cases a.aInfo.values with
  | objId v =>
      simp only []
      split
      · exact avoids_ok _
      · split
        · exact avoids_base notBase _ _
        · exact avoids_ok _
  | objIdList count list =>
      simp only []
      split
      · exact avoids_base notBase _ _
      · exact avoids_ok _
  | port q =>
      simp only []
      split <;> exact avoids_ok _
  | portlist list =>
      refine avoids_bind (avoids_ndiPorts notBase) fun ports _ => ?_
      split <;> exact avoids_ok _
  | _ => exact avoids_ok _

end Translations

/-! ## Entries -/

/-- The lookup of an entry's id on an NPU, and the translation of its actions there. -/
structure NasAclEntry.PushesOn (bad : Exn → Prop) (p : Platform) (sw : NasAclSwitch)
    (e : NasAclEntry) (npuId : NpuId) : Prop where
  found : Avoids bad (e.ndiEntryId npuId)
  actions : ∀ a, e.alist.find a.actionType = some a → ∀ l,
    Avoids bad (copyOneActionNdi p sw e npuId l a)

section Entries

variable {bad : Exn → Prop} {p : Platform} {o : NdiReplies} {sw : NasAclSwitch} {e : NasAclEntry}
  {npuId : NpuId}

/-- Creating an entry looks up no id of it. -/
theorem never_pushCreateObjToNpu (notBase : NotBase bad) {table : NasAclTable}
    (actions : ∀ a, e.alist.find a.actionType = some a → ∀ l,
      Avoids bad (copyOneActionNdi p sw e npuId l a)) :
    Never bad (pushCreateObjToNpu p o sw table npuId e) := by
  refine (never_query fun _ => avoids_getNdiObjId notBase).then fun tableId => ?_
  refine (never_query fun _ => avoids_copyAllFiltersNdi notBase).then fun filters => ?_
  cases filters with
  | none => exact .pure fun _ _ => trivial
  | some filters =>
      refine (never_query fun _ => ?_).then fun actions => ?_
      · exact avoids_foldlM fun a mem l => actions a (Keyed.mem_items.mp mem) l
      · exact (never_ndiCall notBase).then fun _ => .pure fun _ _ => trivial

theorem never_pushLeafAttrToNpu (notBase : NotBase bad) (found : Avoids bad (e.ndiEntryId npuId))
    {attr : AttrId} : Never bad (pushLeafAttrToNpu o attr npuId e) := by
  unfold pushLeafAttrToNpu
  split
  · refine (never_query fun _ => found).then fun id => ?_
    exact (never_ndiCall notBase).then fun _ => .pure fun _ _ => trivial
  · exact never_throw_base notBase _ _

theorem never_utlPushActionToNpu (notBase : NotBase bad) (pushes : e.PushesOn bad p sw npuId)
    {a : NasAclAction} (held : e.alist.find a.actionType = some a) :
    Never bad (utlPushActionToNpu p o sw e a npuId) := by
  refine (never_query fun _ => pushes.actions a held []).then fun l => ?_
  refine never_forM fun x _ => ?_
  exact (never_query fun _ => pushes.found).then fun id => never_ndiCall notBase

theorem never_utlPushFilterToNpu (notBase : NotBase bad) (found : Avoids bad (e.ndiEntryId npuId))
    {f : NasAclFilter} : Never bad (utlPushFilterToNpu p o e f npuId) := by
  refine (never_query fun _ => avoids_copyFilterNdi notBase).then fun copied => ?_
  cases copied with
  | none => exact .pure fun _ _ => trivial
  | some x => exact (never_query fun _ => found).then fun id => never_ndiCall notBase

theorem never_utlPushDisableFilterToNpu (notBase : NotBase bad)
    (found : Avoids bad (e.ndiEntryId npuId)) {t : MatchType} :
    Never bad (utlPushDisableFilterToNpu o e t npuId) :=
  (never_query fun _ => found).then fun _ => never_ndiCall notBase

theorem never_utlPushDisableActionToNpu (notBase : NotBase bad)
    (found : Avoids bad (e.ndiEntryId npuId)) {t : ActionType} :
    Never bad (utlPushDisableActionToNpu o e t npuId) :=
  (never_query fun _ => found).then fun _ => never_ndiCall notBase

theorem never_utlModifyList {κ α : Type} [Fintype κ] {key : α → κ} {order : Traversal κ}
    {attr : κ → AttrHierarchy} {pushDisable : κ → NpuId → NdiM Unit} {push : α → NpuId → NdiM Unit}
    {deleted addOrMod : Keyed key} {rollingBack : Bool} {npus : List NpuId}
    (disables : ∀ k, ∀ npuId ∈ npus, Never bad (pushDisable k npuId))
    (pushes : ∀ x, addOrMod.find (key x) = some x → ∀ npuId ∈ npus, Never bad (push x npuId)) :
    Never bad (utlModifyListNpulistNdi order attr pushDisable push deleted addOrMod rollingBack
      npus) := by
  refine never_forM fun npuId mem => Never.then ?_ fun _ => ?_
  · refine never_forM fun x _ => ?_
    exact (never_continueOnError (disables _ npuId mem)).then fun _ => never_track
  · refine never_forM fun x held => ?_
    exact (never_continueOnError (pushes x (Keyed.mem_items.mp held) npuId mem)).then
      fun _ => never_track

/-- Bringing the NDI in step with a changed entry. -/
theorem never_pushNonLeafAttrNdi (notBase : NotBase bad) {attr : AttrId} {old : NasAclEntry}
    {npus : NpuSet} {rollingBack : Bool} (pushes : ∀ npuId ∈ npus, e.PushesOn bad p sw npuId) :
    Never bad (pushNonLeafAttrNdi p o sw attr old npus rollingBack e) := by
  have listed {npuId : NpuId} (mem : npuId ∈ p.npuOrder.visit npus) : e.PushesOn bad p sw npuId :=
    pushes npuId ((p.npuOrder.mem_visit _ _).mp mem)
  unfold pushNonLeafAttrNdi
  split
  · refine never_utlModifyList (fun t npuId mem => ?_) fun f _ npuId mem => ?_
    · exact never_utlPushDisableFilterToNpu notBase (listed mem).found
    · exact never_utlPushFilterToNpu notBase (listed mem).found
  · refine never_utlModifyList (fun t npuId mem => ?_) fun a held npuId mem => ?_
    · exact never_utlPushDisableActionToNpu notBase (listed mem).found
    · exact never_utlPushActionToNpu notBase (listed mem) (Keyed.find_addOrMod.mp held).1
  · exact never_throw_base notBase _ _

/-- Undoing tracked changes. -/
theorem never_rollbackTracked (notBase : NotBase bad) {trakr : List RollbkElem}
    (pushes : ∀ elem ∈ trakr, e.PushesOn bad p sw elem.npuId) :
    Never bad (rollbackTracked p o sw e trakr) := by
  have filter {t : MatchType} : Avoids bad (e.getFilter t) := by
    unfold NasAclEntry.getFilter
    split
    · exact avoids_ok _
    · exact avoids_base notBase _ _
  have action {t : ActionType} : Avoids bad (e.getAction t) := by
    unfold NasAclEntry.getAction
    split
    · exact avoids_ok _
    · exact avoids_base notBase _ _
  refine never_forM fun elem mem => ?_
  have here := pushes elem (List.mem_reverse.mp mem)
  unfold rollbackElem
  cases elem.op with
  | createAttr =>
      simp only []
      unfold rollbackCreateAttrInNpu
      cases elem.attr with
      | matchType t =>
          exact never_continueOnError (never_utlPushDisableFilterToNpu notBase here.found)
      | actionType t =>
          exact never_continueOnError (never_utlPushDisableActionToNpu notBase here.found)
      | other => exact never_throw_base notBase _ _
  | deleteAttr =>
      simp only []
      unfold rollbackDeleteAttrInNpu
      cases elem.attr with
      | matchType t =>
          refine never_continueOnError ((never_query fun _ => filter).then fun f => ?_)
          exact never_utlPushFilterToNpu notBase here.found
      | actionType t =>
          refine never_continueOnError (never_asked action fun a got => ?_)
          have held : e.alist.find t = some a := NasAclEntry.getAction_ok.mp got
          refine never_utlPushActionToNpu notBase here ?_
          rwa [e.alist.keyed t a held]
      | other => exact never_throw_base notBase _ _

end Entries

end SonicNasAcl
