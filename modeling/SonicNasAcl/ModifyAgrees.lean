/-
# ModifyAgrees -- a modify against creating the entry anew

What an NDI entry holds after a modify is compared with what a create of the changed
entry would have left (`NasAclEntry.ndiImage`), on one NPU and with every call succeeding.

* `modify_filters_agree_iff`: where the entry is installed, the two agree exactly when
  every new filter applies; a filter that does not is skipped by a modify, and the old one
  stays programmed.  Where it is not installed, a modify must have nothing to do.
* `modify_actions_agree_iff`: on every action that has changed they agree exactly when no
  action loses its ports on the NPU while the old one had some.
-/
import SonicNasAcl.Bench
import SonicNasAcl.Translation

namespace SonicNasAcl

set_option autoImplicit false

open Lib

/-! ## What a create leaves -/

/-- The NDI entry that `push_create_obj_to_npu` installs, if it does. -/
def NasAclEntry.ndiImage (p : Platform) (sw : NasAclSwitch) (table : NasAclTable)
    (npuId : NpuId) (e : NasAclEntry) : Option NdiAclEntry :=
  match table.getNdiObjId npuId, copyAllFiltersNdi p npuId (e.flist.items p.matchOrder),
    copyAllActionsNdi p sw e npuId with
  | .ok tableId, .ok (some filters), .ok actions =>
      some ⟨tableId, e.priority, .ofItems filters, .ofItems actions⟩
  | _, _, _ => none

/-- What a create has left on an NPU: a create that throws has left nothing. -/
def leftOn (npuId : NpuId) : Except Exn (Bool × NasAclEntry) × Ndi → Option NdiAclEntry
  | (.ok (_, e), s) => e.installed s npuId
  | (.error _, _) => none

section Create

variable {p : Platform} {o : NdiReplies} {sw : NasAclSwitch} {table : NasAclTable}
  {npuId : NpuId} {e e' : NasAclEntry} {s s' : Ndi}

theorem ndiImage_eq_some {x : NdiAclEntry} : e.ndiImage p sw table npuId = some x ↔
    ∃ tableId filters actions, table.getNdiObjId npuId = .ok tableId ∧
      copyAllFiltersNdi p npuId (e.flist.items p.matchOrder) = .ok (some filters) ∧
      copyAllActionsNdi p sw e npuId = .ok actions ∧
      x = ⟨tableId, e.priority, .ofItems filters, .ofItems actions⟩ := by
  unfold NasAclEntry.ndiImage
  constructor
  · intro image
    split at image
    · rename_i tableId filters actions known copied translated
      cases image
      exact ⟨tableId, filters, actions, known, copied, translated, rfl⟩
    · cases image
  · rintro ⟨tableId, filters, actions, known, copied, translated, rfl⟩
    rw [known, copied, translated]

/-- An entry that has an image is created. -/
theorem pushCreate_of_image (fine : ∀ i, o.rc i = .ok ()) {x : NdiAclEntry}
    (image : e.ndiImage p sw table npuId = some x) :
    pushCreateObjToNpu p o sw table npuId e s =
      (.ok (true, { e with ndiEntryIds := e.ndiEntryIds.insert npuId (o.entryId npuId) }),
        { s.putEntry npuId (o.entryId npuId) x with calls := s.calls + 1 }) := by
  obtain ⟨tableId, filters, actions, known, copied, translated, rfl⟩ := ndiImage_eq_some.mp image
  unfold pushCreateObjToNpu
  rw [known, copied, translated]
  refine Eff.bind_of_ok (a := ()) ?_
  simp only [ndiAclEntryCreate, ndiCall, fine]

/-- A create that returns has installed the image of the entry, or nothing where a filter
does not apply. -/
theorem pushCreate_ok (fine : ∀ i, o.rc i = .ok ()) {there : Bool}
    (ran : pushCreateObjToNpu p o sw table npuId e s = (.ok (there, e'), s')) :
    (there = true ∧ ∃ x, e.ndiImage p sw table npuId = some x ∧
        e' = { e with ndiEntryIds := e.ndiEntryIds.insert npuId (o.entryId npuId) } ∧
        s' = { s.putEntry npuId (o.entryId npuId) x with calls := s.calls + 1 }) ∨
      (there = false ∧ e.ndiImage p sw table npuId = none ∧
        copyAllFiltersNdi p npuId (e.flist.items p.matchOrder) = .ok none ∧ e' = e ∧ s' = s) := by
  cases image : e.ndiImage p sw table npuId with
  | some x =>
      rw [pushCreate_of_image fine image] at ran
      cases ran
      exact .inl ⟨rfl, x, rfl, rfl, rfl⟩
  | none =>
      unfold pushCreateObjToNpu at ran
      obtain ⟨tableId, known, ran⟩ := Eff.query_bind_ok.mp ran
      obtain ⟨r, copied, ran⟩ := Eff.query_bind_ok.mp ran
      cases r with
      | none =>
          cases ran
          exact .inr ⟨rfl, rfl, copied, rfl, rfl⟩
      | some filters =>
          obtain ⟨actions, translated, ran⟩ := Eff.query_bind_ok.mp ran
          rw [ndiImage_eq_some.mpr ⟨tableId, filters, actions, known, copied, translated, rfl⟩]
            at image
          cases image

/-- A create leaves the image of the entry. -/
theorem pushCreate_leaves (fine : ∀ i, o.rc i = .ok ())
    (fresh : e.ndiEntryIds.lookup npuId = none) :
    leftOn npuId (pushCreateObjToNpu p o sw table npuId e s) = e.ndiImage p sw table npuId := by
  rcases ran : pushCreateObjToNpu p o sw table npuId e s with ⟨err | ⟨there, e'⟩, s'⟩
  · cases image : e.ndiImage p sw table npuId with
    | none => rfl
    | some x =>
        rw [pushCreate_of_image fine image] at ran
        cases ran
  · obtain ⟨-, x, image, rfl, rfl⟩ | ⟨-, image, -, rfl, rfl⟩ := pushCreate_ok fine ran
    · rw [image]
      simp only [leftOn, NasAclEntry.installed, Finmap.lookup_insert, Option.bind_some,
        Ndi.putEntry, and_self, if_true]
    · rw [image]
      simp only [leftOn, NasAclEntry.installed, fresh, Option.bind_none]

end Create

/-! ## The calls of a modify -/

section Modify

variable {p : Platform} {o : NdiReplies} {sw : NasAclSwitch} {eNew eOld : NasAclEntry}
  {npuList : NpuSet}

theorem pushMatch_eq : pushNonLeafAttrNdi p o sw .entryMatch eOld npuList false eNew =
    (filterPushing p).modify o eNew (Keyed.deleted eNew.flist eOld.flist)
      (Keyed.addOrMod (NasAclFilter.ne p) eNew.flist eOld.flist) (p.npuOrder.visit npuList) := by
  simp only [pushNonLeafAttrNdi, utlModifyFlistNpulistNdi, utlPushFilterToNpu_eq]
  rfl

theorem pushAction_eq : pushNonLeafAttrNdi p o sw .entryAction eOld npuList false eNew =
    (actionPushing p sw eNew).modify o eNew (Keyed.deleted eNew.alist eOld.alist)
      (Keyed.addOrMod NasAclAction.ne eNew.alist eOld.alist) (p.npuOrder.visit npuList) := rfl

end Modify

/-! ## Actions -/

/-- The entry with another action list. -/
def NasAclEntry.withActions (l : Keyed NasAclAction.actionType) (e : NasAclEntry) : NasAclEntry :=
  { e with alist := l }

section Actions

variable {p : Platform} {o : NdiReplies} {sw : NasAclSwitch} {npuId : NpuId} {e : NasAclEntry}
  {l old new : Keyed NasAclAction.actionType} {acts oldActs newActs : List NdiAction}
  {s : Ndi} {t : ActionType} {a : NasAclAction}

theorem items_built (built : ∀ t a, l.find t = some a → a.Built p) :
    ∀ a ∈ l.items p.actionOrder, a.Built p :=
  fun a mem => built _ a (Keyed.mem_items.mp mem)

/-- What `_copy_all_actions_ndi` makes of an action list, by type. -/
theorem find_copiedActions (built : ∀ t a, l.find t = some a → a.Built p)
    (copied : copyAllActionsNdi p sw (e.withActions l) npuId = .ok acts) (t : ActionType) :
    (Keyed.ofItems acts : Keyed NdiAction.actionType).find t = (l.find t).bind fun a =>
      ((actionPushing p sw (e.withActions l)).values a npuId).head? := by
  obtain ⟨-, rfl⟩ := (copyAllActionsNdi_ok fun a mem => (items_built built a mem).counter).mp copied
  exact Pushing.find_image (k := actionPushing p sw (e.withActions l))
    (fun a mem => action_single (items_built built a mem)) t

/-- An action of a list that could be copied translates. -/
theorem translates_of_copied (built : ∀ t a, l.find t = some a → a.Built p)
    (copied : copyAllActionsNdi p sw (e.withActions l) npuId = .ok acts)
    (found : l.find t = some a) :
    ∃ xs, (actionPushing p sw (e.withActions l)).translate a npuId = .ok xs := by
  refine ((copyAllActionsNdi_ok fun a mem => (items_built built a mem).counter).mp copied).1 a
    (Keyed.mem_items.mpr ?_)
  exact l.keyed t a found ▸ found

theorem copied_nil (built : ∀ t a, l.find t = some a → a.Built p)
    (copied : copyAllActionsNdi p sw (e.withActions l) npuId = .ok acts)
    (found : l.find t = some a) :
    (actionPushing p sw (e.withActions l)).values a npuId = [] ↔ a.NothingOn p npuId :=
  action_values_nil (built t a found) (translates_of_copied built copied found)

/-- What a modify of the actions leaves of a type. -/
theorem modify_actions (old : Keyed NasAclAction.actionType)
    (newBuilt : ∀ t a, new.find t = some a → a.Built p)
    (newCopied : copyAllActionsNdi p sw (e.withActions new) npuId = .ok newActs)
    {x : NdiAclEntry} (there : e.installed s npuId = some x)
    (absent : ∀ t, old.find t = none → x.actions.find t = none) (fine : ∀ i, o.rc i = .ok ()) :
    ∃ s', pushNonLeafAttrNdi p o sw .entryAction (e.withActions old) {npuId} false
        (e.withActions new) s = (.ok (), s') ∧ ∃ x', e.installed s' npuId = some x' ∧
      (∀ t, new.find t = none → x'.actions.find t = none) ∧
      (∀ t a, new.find t = some a → old.find t = none → x'.actions.find t
        = ((actionPushing p sw (e.withActions new)).values a npuId).head?) ∧
      ∀ t a b, new.find t = some a → old.find t = some b → NasAclAction.ne b a →
        x'.actions.find t = (((actionPushing p sw (e.withActions new)).values a npuId).head?).or
          (x.actions.find t) := by
  obtain ⟨id, known, entry⟩ := Option.bind_eq_some_iff.mp there
  have register (s : Ndi) (x : NdiAclEntry) (there : e.installed s npuId = some x) (t : ActionType) :
      regs actionPart (e.withActions new) s (npuId, t) = x.actions.find t := by
    change (e.installed s npuId).bind _ = _
    rw [there]
    rfl
  obtain ⟨s', ran, others, gone, added, both⟩ := Pushing.modify_between
    (k := actionPushing p sw (e.withActions new)) (e := e.withActions new) (o := o) (s := s)
    (fun _ => id) NasAclAction.ne new old known
    (by rw [entry]; rfl) (fun a found => action_single (newBuilt _ a found))
    (fun t none_ => (register s x there t).trans (absent t none_))
    (fun a mem => translates_of_copied newBuilt newCopied
      (Keyed.find_addOrMod.mp (Keyed.mem_items.mp mem)).1) fine
  have kept := congrArg Option.isSome (congrFun others npuId)
  rw [rest, rest, Option.isSome_map, Option.isSome_map] at kept
  obtain ⟨x', there'⟩ := Option.isSome_iff_exists.mp (kept.trans (Option.isSome_of_eq_some there))
  refine ⟨s', ?_, x', there', fun t none_ => ?_, fun t a found none_ => ?_,
    fun t a b found was differ => ?_⟩
  · rw [pushAction_eq, Traversal.visit_singleton]
    exact ran
  · rw [← register s' x' there']
    exact gone t none_
  · rw [← register s' x' there']
    exact added t a found none_
  · rw [← register s' x' there', ← register s x there]
    exact (both t a b found was).trans (if_pos differ)

end Actions

/-- The modify returns, and leaves of every action type that has changed what a create of
the new list installs. -/
def ActionsAgree (p : Platform) (o : NdiReplies) (sw : NasAclSwitch) (npuId : NpuId)
    (e : NasAclEntry) (old new : Keyed NasAclAction.actionType) (newActs : List NdiAction)
    (s : Ndi) : Prop :=
  ∃ s', pushNonLeafAttrNdi p o sw .entryAction (e.withActions old) {npuId} false
      (e.withActions new) s = (.ok (), s') ∧
    ∀ t, ((Keyed.deleted new old).find t).isSome ∨
        ((Keyed.addOrMod NasAclAction.ne new old).find t).isSome →
      (e.installed s' npuId).bind (·.actions.find t)
        = (Keyed.ofItems newActs : Keyed NdiAction.actionType).find t

/-- A modify agrees with a create on all actions that have changed, exactly when no changed
action has nothing on the NPU where the old one had something. -/
theorem modify_actions_agree_iff {p : Platform} {o : NdiReplies} {sw : NasAclSwitch}
    {npuId : NpuId} {e : NasAclEntry} {old new : Keyed NasAclAction.actionType} {s : Ndi}
    {oldActs newActs : List NdiAction}
    (oldBuilt : ∀ t a, old.find t = some a → a.Built p)
    (newBuilt : ∀ t a, new.find t = some a → a.Built p)
    (oldCopied : copyAllActionsNdi p sw (e.withActions old) npuId = .ok oldActs)
    (newCopied : copyAllActionsNdi p sw (e.withActions new) npuId = .ok newActs)
    (holds : (e.installed s npuId).map NdiAclEntry.actions = some (.ofItems oldActs))
    (fine : ∀ i, o.rc i = .ok ()) :
    ActionsAgree p o sw npuId e old new newActs s ↔
      ∀ t a b, new.find t = some a → old.find t = some b → NasAclAction.ne b a →
        a.NothingOn p npuId → b.NothingOn p npuId := by
  obtain ⟨x, there, held⟩ := Option.map_eq_some_iff.mp holds
  have before := find_copiedActions oldBuilt oldCopied
  rw [← held] at before
  have after := find_copiedActions newBuilt newCopied
  obtain ⟨s', ran, x', there', gone, added, both⟩ := modify_actions (o := o) old newBuilt
    newCopied there (fun t none_ => (before t).trans (by rw [none_]; rfl)) fine
  constructor
  · rintro ⟨s'', ran', agree⟩ t a b found was differ absent
    rw [ran] at ran'
    cases ran'
    have changed : (Keyed.addOrMod NasAclAction.ne new old).find t = some a :=
      Keyed.find_addOrMod.mpr
        ⟨found, fun b' was' => by rw [was] at was'; cases was'; exact differ⟩
    have same := agree t (.inr (Option.isSome_of_eq_some changed))
    rw [there', Option.bind_some, both t a b found was differ, after, found, Option.bind_some,
      (copied_nil newBuilt newCopied found).mpr absent, List.head?_nil, Option.none_or, before,
      was, Option.bind_some, List.head?_eq_none_iff] at same
    exact (copied_nil oldBuilt oldCopied was).mp same
  · intro kept
    refine ⟨s', ran, fun t changed => ?_⟩
    rw [there', Option.bind_some, after]
    cases found : new.find t with
    | none => exact gone t found
    | some a =>
        cases was : old.find t with
        | none => exact added t a found was
        | some b =>
            have differ : NasAclAction.ne b a := by
              by_contra same
              rw [Keyed.addOrMod_of_same found was same, Keyed.isSome_deleted, found] at changed
              rcases changed with ⟨absurd_, -⟩ | absurd_ <;> cases absurd_
            rw [both t a b found was differ, Option.bind_some]
            cases value : (actionPushing p sw (e.withActions new)).values a npuId with
            | cons v rest => rfl
            | nil =>
                have absent := kept t a b found was differ
                  ((copied_nil newBuilt newCopied found).mp value)
                rw [before, was, Option.bind_some, (copied_nil oldBuilt oldCopied was).mpr absent]
                rfl

namespace Bench

/-- Every call succeeds. -/
def replies : NdiReplies := ⟨fun _ => .ok (), fun _ => 9⟩

/-- An entry that is installed on both NPUs, under id 9. -/
def installedEntry : NasAclEntry := { NasAclEntry.new platform 1 with ndiEntryIds := idsOn {0, 1} }

/-- An NDI that holds one entry on each NPU. -/
def ndi (x : NpuId → NdiAclEntry) : Ndi where
  entries n id := if id = 9 then some (x n) else none
  calls := 0
  trakr := []

/-- A redirection to an interface, and its list. -/
def redirect (i : IfIndex) : NasAclAction :=
  ⟨⟨.redirectPort, .port ⟨i / 8, i % 8⟩⟩, [i], 0, ∅⟩

def redirects (i : IfIndex) : Keyed NasAclAction.actionType := .ofItems [redirect i]

/-- The NDI with the action of a redirection to a port of NPU 0. -/
def redirected (i : IfIndex) : NdiAclEntry := ⟨0, 0, .empty, .ofItems [(redirect i).aInfo]⟩

theorem redirects_built {i : IfIndex}
    (set : NasAclAction.setActionIfindex platform [.ofIfindex i] (.new .redirectPort)
      = .ok (redirect i)) (t : ActionType) (a : NasAclAction)
    (found : (redirects i).find t = some a) : a.Built platform := by
  cases Keyed.eq_of_find_singleton found
  exact ⟨_, set⟩

end Bench

/-- A redirection from one port of an NPU to another is carried out. -/
theorem modify_redirect_agrees :
    ActionsAgree Bench.platform Bench.replies .new 0 Bench.installedEntry (Bench.redirects 1)
      (Bench.redirects 2) [(Bench.redirect 2).aInfo] (Bench.ndi fun _ => Bench.redirected 1) := by
  refine (modify_actions_agree_iff (Bench.redirects_built rfl) (Bench.redirects_built rfl)
    (show copyAllActionsNdi _ _ _ _ = .ok [(Bench.redirect 1).aInfo] by decide +kernel)
    (by decide +kernel) ?_ fun _ => rfl).mpr fun t a b found _ _ nothing => ?_
  · have known : Bench.installedEntry.ndiEntryIds.lookup 0 = some 9 := by decide +kernel
    rw [NasAclEntry.installed, known]
    rfl
  · cases Keyed.eq_of_find_singleton found
    exact absurd rfl nothing

/-- A redirection that moves to another NPU stays programmed on the NPU it leaves. -/
theorem modify_actions_not_always :
    ¬ ∀ (p : Platform) (o : NdiReplies) (sw : NasAclSwitch) (npuId : NpuId) (e : NasAclEntry)
      (old new : Keyed NasAclAction.actionType) (s : Ndi) (oldActs newActs : List NdiAction),
      (∀ t a, old.find t = some a → a.Built p) → (∀ t a, new.find t = some a → a.Built p) →
      copyAllActionsNdi p sw (e.withActions old) npuId = .ok oldActs →
      copyAllActionsNdi p sw (e.withActions new) npuId = .ok newActs →
      (e.installed s npuId).map NdiAclEntry.actions = some (.ofItems oldActs) →
      (∀ i, o.rc i = .ok ()) → ActionsAgree p o sw npuId e old new newActs s := by
  intro claim
  have known : Bench.installedEntry.ndiEntryIds.lookup 0 = some 9 := by decide +kernel
  obtain ⟨s', ran, agree⟩ := claim Bench.platform Bench.replies .new 0 Bench.installedEntry
    (Bench.redirects 1) (Bench.redirects 9) (Bench.ndi fun _ => Bench.redirected 1)
    [(Bench.redirect 1).aInfo] [] (Bench.redirects_built rfl) (Bench.redirects_built rfl)
    (by decide +kernel) (by decide +kernel) (by rw [NasAclEntry.installed, known]; rfl)
    fun _ => rfl
  have left : (Bench.installedEntry.installed s' 0).bind (·.actions.find .redirectPort)
      = some (Bench.redirect 1).aInfo := by
    have after := congrArg Prod.snd ran
    simp only at after
    rw [← after]
    decide +kernel
  have none_ := agree .redirectPort (.inr (by decide +kernel))
  rw [left] at none_
  cases none_

/-! ## Filters -/

/-- The entry with another filter list. -/
def NasAclEntry.withFilters (l : Keyed NasAclFilter.filterType) (e : NasAclEntry) : NasAclEntry :=
  { e with flist := l }

/-- The modify returns, and leaves the NDI entry a create of the new list leaves, where a
create of the old one has left `eOld` and the state `s₁`. -/
def FiltersAgree (p : Platform) (o : NdiReplies) (sw : NasAclSwitch) (table : NasAclTable)
    (npuId : NpuId) (e eOld : NasAclEntry) (new : Keyed NasAclFilter.filterType)
    (s s₁ : Ndi) : Prop :=
  ∃ s₂, pushNonLeafAttrNdi p o sw .entryMatch eOld {npuId} false (eOld.withFilters new) s₁
      = (.ok (), s₂) ∧
    (eOld.withFilters new).installed s₂ npuId
      = leftOn npuId (pushCreateObjToNpu p o sw table npuId (e.withFilters new) s)

section Filters

variable {p : Platform} {o : NdiReplies} {sw : NasAclSwitch} {table : NasAclTable}
  {npuId : NpuId} {e : NasAclEntry} {old new l : Keyed NasAclFilter.filterType} {s : Ndi}
  {x : NdiAclEntry}

theorem all_apply_iff : (∀ f ∈ l.items p.matchOrder, f.AppliesOn p npuId) ↔
    ∀ t f, l.find t = some f → f.AppliesOn p npuId :=
  ⟨fun all t f found => all f (Keyed.mem_items.mpr (l.keyed t f found ▸ found)),
    fun all f mem => all _ f (Keyed.mem_items.mp mem)⟩

/-- All filters of an entry that has an image apply. -/
theorem applies_of_image (image : (e.withFilters l).ndiImage p sw table npuId = some x) :
    ∀ t f, l.find t = some f → f.AppliesOn p npuId := by
  obtain ⟨_, _, _, -, copied, -⟩ := ndiImage_eq_some.mp image
  exact all_apply_iff.mp (copyAllFiltersNdi_ok.mp copied).1

/-- The filters of an image, by type. -/
theorem find_image_filters (image : (e.withFilters l).ndiImage p sw table npuId = some x)
    (t : MatchType) :
    x.filters.find t = (l.find t).bind fun f => ((filterPushing p).values f npuId).head? := by
  obtain ⟨_, filters, _, -, copied, -, rfl⟩ := ndiImage_eq_some.mp image
  obtain ⟨-, rfl⟩ := copyAllFiltersNdi_ok.mp copied
  exact Pushing.find_image (k := filterPushing p) (fun _ _ => filter_single) t

/-- With filters that apply, the image is there too, and differs in the filters only. -/
theorem image_of_applies (image : (e.withFilters old).ndiImage p sw table npuId = some x)
    (applies : ∀ t f, new.find t = some f → f.AppliesOn p npuId) :
    ∃ y, (e.withFilters new).ndiImage p sw table npuId = some y ∧
      filterPart.set .empty y = filterPart.set .empty x := by
  obtain ⟨tableId, _, actions, known, -, translated, rfl⟩ := ndiImage_eq_some.mp image
  exact ⟨⟨tableId, e.priority, .ofItems _, .ofItems actions⟩,
    ndiImage_eq_some.mpr ⟨tableId, _, actions, known,
      copyAllFiltersNdi_ok.mpr ⟨all_apply_iff.mpr applies, rfl⟩, translated, rfl⟩, rfl⟩

/-- What a modify of the filters leaves of a type, and that it leaves the rest alone. -/
theorem modify_filters (sw : NasAclSwitch) (new : Keyed NasAclFilter.filterType)
    {eOld : NasAclEntry} {s : Ndi} (there : eOld.installed s npuId = some x)
    (absent : ∀ t, eOld.flist.find t = none → x.filters.find t = none)
    (translated : ∀ f ∈ (Keyed.addOrMod (NasAclFilter.ne p) new eOld.flist).items p.matchOrder,
      ∃ xs, (filterPushing p).translate f npuId = .ok xs)
    (fine : ∀ i, o.rc i = .ok ()) :
    ∃ s', pushNonLeafAttrNdi p o sw .entryMatch eOld {npuId} false (eOld.withFilters new) s
        = (.ok (), s') ∧ ∃ x', (eOld.withFilters new).installed s' npuId = some x' ∧
      filterPart.set .empty x' = filterPart.set .empty x ∧
      (∀ t, new.find t = none → x'.filters.find t = none) ∧
      (∀ t f, new.find t = some f → eOld.flist.find t = none →
        x'.filters.find t = ((filterPushing p).values f npuId).head?) ∧
      ∀ t f g, new.find t = some f → eOld.flist.find t = some g → x'.filters.find t =
        if g.ne p f then (((filterPushing p).values f npuId).head?).or (x.filters.find t)
        else x.filters.find t := by
  obtain ⟨id, known, entry⟩ := Option.bind_eq_some_iff.mp there
  have register (s : Ndi) (x : NdiAclEntry)
      (there : (eOld.withFilters new).installed s npuId = some x) (t : MatchType) :
      regs filterPart (eOld.withFilters new) s (npuId, t) = x.filters.find t := by
    rw [regs, there]
    rfl
  obtain ⟨s', ran, others, gone, added, both⟩ := Pushing.modify_between
    (k := filterPushing p) (e := eOld.withFilters new) (o := o) (s := s) (fun _ => id)
    (NasAclFilter.ne p) new eOld.flist known (by rw [entry]; rfl)
    (fun _ _ => filter_single) (fun t none_ => (register s x there t).trans (absent t none_))
    translated fine
  have kept := congrFun others npuId
  have there₁ : (eOld.withFilters new).installed s npuId = some x := there
  rw [rest, rest, there₁, Option.map_some, Option.map_eq_some_iff] at kept
  obtain ⟨x', there', same⟩ := kept
  refine ⟨s', ?_, x', there', same, fun t none_ => ?_, fun t f found none_ => ?_,
    fun t f g found was => ?_⟩
  · rw [pushMatch_eq, Traversal.visit_singleton]
    exact ran
  · rw [← register s' x' there']
    exact gone t none_
  · rw [← register s' x' there']
    exact added t f found none_
  · rw [← register s' x' there', ← register s x there]
    exact both t f g found was

/-- Where the entry is installed: the modify ends at the image of the new list exactly when
all its filters apply. -/
theorem agrees_where_installed {eOld : NasAclEntry} {s₁ : Ndi}
    (oldBuilt : ∀ t f, eOld.flist.find t = some f → f.Built p)
    (newBuilt : ∀ t f, new.find t = some f → f.Built p) (fine : ∀ i, o.rc i = .ok ())
    (image : (e.withFilters eOld.flist).ndiImage p sw table npuId = some x)
    (there : eOld.installed s₁ npuId = some x) :
    (∃ s₂, pushNonLeafAttrNdi p o sw .entryMatch eOld {npuId} false (eOld.withFilters new) s₁
        = (.ok (), s₂) ∧ (eOld.withFilters new).installed s₂ npuId
          = (e.withFilters new).ndiImage p sw table npuId) ↔
      ∀ t f, new.find t = some f → f.AppliesOn p npuId := by
  have before := find_image_filters image
  have modified := modify_filters (p := p) (o := o) sw new there
    (fun t none_ => (before t).trans (by rw [none_]; rfl))
  constructor
  · rintro ⟨s₂, ran, agree⟩
    have returns := ran
    rw [pushMatch_eq, Traversal.visit_singleton] at returns
    have translated := ((Pushing.modify_ok_iff fine s₁).mp ⟨s₂, returns⟩).2
    obtain ⟨s', ran', x', there', -⟩ := modified
      (fun f mem => (translated f mem).imp fun _ => And.left) fine
    rw [ran] at ran'
    cases ran'
    exact applies_of_image (agree.symm.trans there')
  · intro applies
    have translated : ∀ t f, new.find t = some f →
        ∃ v, (filterPushing p).values f npuId = [v] ∧
          ∃ xs, (filterPushing p).translate f npuId = .ok xs :=
      fun t f found => by
        obtain ⟨v, copied, one⟩ := (applies t f found).values
        exact ⟨v, one, _, filter_translate_ok.mpr ⟨_, copied, rfl⟩⟩
    obtain ⟨s', ran, x', there', others, gone, added, both⟩ := modified
      (fun f mem => (translated _ f (Keyed.find_addOrMod.mp (Keyed.mem_items.mp mem)).1).elim
        fun _ => And.right) fine
    obtain ⟨y, imageNew, others'⟩ := image_of_applies image applies
    refine ⟨s', ran, ?_⟩
    rw [there', imageNew]
    refine congrArg some (filterPart.ext (fun t => ?_) (others.trans others'.symm))
    change x'.filters.find t = y.filters.find t
    rw [find_image_filters imageNew]
    cases found : new.find t with
    | none => exact gone t found
    | some f =>
        obtain ⟨v, one, -⟩ := translated t f found
        rw [Option.bind_some]
        cases was : eOld.flist.find t with
        | none => exact added t f found was
        | some g =>
            rw [both t f g found was, one, List.head?_cons]
            split
            · rfl
            · rename_i same
              have eq := (oldBuilt t g was).eq_of_same (newBuilt t f found)
                (Bool.eq_false_of_not_eq_true same)
              rw [before, was, eq, Option.bind_some, one, List.head?_cons]

/-- Where the entry is not installed, and a filter of the old list is the reason: the modify
must have nothing to do. -/
theorem agrees_where_absent {s : Ndi} (oldBuilt : ∀ t f, old.find t = some f → f.Built p)
    (newBuilt : ∀ t f, new.find t = some f → f.Built p) (fine : ∀ i, o.rc i = .ok ())
    (fresh : e.ndiEntryIds.lookup npuId = none)
    (skipped : copyAllFiltersNdi p npuId (old.items p.matchOrder) = .ok none) :
    (∃ s₂, pushNonLeafAttrNdi p o sw .entryMatch (e.withFilters old) {npuId} false
        (e.withFilters new) s = (.ok (), s₂) ∧ (e.withFilters new).installed s₂ npuId
          = (e.withFilters new).ndiImage p sw table npuId) ↔
      (∀ t, new.find t = none → old.find t = none) ∧
        ∀ t f, (Keyed.addOrMod (NasAclFilter.ne p) new old).find t = some f →
          f.SkippedOn p npuId := by
  have unknown : (e.withFilters new).ndiEntryIds.lookup npuId = none := fresh
  have returns : (∃ s₂, pushNonLeafAttrNdi p o sw .entryMatch (e.withFilters old) {npuId} false
      (e.withFilters new) s = (.ok (), s₂)) ↔ (∀ t, new.find t = none → old.find t = none) ∧
        ∀ t f, (Keyed.addOrMod (NasAclFilter.ne p) new old).find t = some f →
          f.SkippedOn p npuId := by
    rw [pushMatch_eq, Traversal.visit_singleton, Pushing.modify_ok_iff fine]
    simp only [unknown, Option.isSome_none, Bool.false_eq_true, or_false, exists_eq_right,
      filter_translates_nil]
    refine and_congr ⟨fun none_ t absent => ?_, fun none_ f mem => ?_⟩
      ⟨fun all t f set => all f (Keyed.mem_items.mpr (Keyed.keyed _ t f set ▸ set)),
        fun all f mem => all _ f (Keyed.mem_items.mp mem)⟩
    · refine Option.eq_none_iff_forall_ne_some.mpr fun f held => ?_
      have gone := Keyed.find_deleted.mpr ⟨absent, held⟩
      exact none_ f (Keyed.mem_items.mpr (Keyed.keyed _ t f gone ▸ gone))
    · obtain ⟨absent, held⟩ := Keyed.find_deleted.mp (Keyed.mem_items.mp mem)
      cases (none_ _ absent).symm.trans held
  have nowhere (s₂ : Ndi) : (e.withFilters new).installed s₂ npuId = none := by
    rw [NasAclEntry.installed, unknown, Option.bind_none]
  refine Iff.trans ?_ returns
  constructor
  · rintro ⟨s₂, ran, -⟩
    exact ⟨s₂, ran⟩
  rintro ⟨s₂, ran⟩
  refine ⟨s₂, ran, ?_⟩
  obtain ⟨nothingGone, nothingSet⟩ := returns.mp ⟨s₂, ran⟩
  rw [nowhere]
  refine (Option.eq_none_iff_forall_ne_some.mpr fun y image => ?_).symm
  have applies := applies_of_image image
  -- Every old filter would apply too, and the old list would have been copied.
  have oldApplies : ∀ t g, old.find t = some g → g.AppliesOn p npuId := fun t g was => by
    cases found : new.find t with
    | none =>
        rw [nothingGone t found] at was
        cases was
    | some f =>
        by_cases differ : g.ne p f
        · obtain ⟨v, copied⟩ := applies t f found
          have skips := nothingSet t f (Keyed.find_addOrMod.mpr
            ⟨found, fun g' was' => by rw [was] at was'; cases was'; exact differ⟩)
          rw [NasAclFilter.SkippedOn, copied] at skips
          cases skips
        · rw [(oldBuilt t g was).eq_of_same (newBuilt t f found) (Bool.eq_false_of_not_eq_true differ)]
          exact applies t f found
  rw [copyAllFiltersNdi_ok.mpr ⟨all_apply_iff.mpr oldApplies, rfl⟩] at skipped
  cases skipped

end Filters

/-- A modify of the filters agrees with a create of the new list, on an NPU where the entry is
installed exactly when all new filters apply, and elsewhere exactly when it has nothing to
disable and nothing that is not skipped to set. -/
theorem modify_filters_agree_iff {p : Platform} {o : NdiReplies} {sw : NasAclSwitch}
    {table : NasAclTable} {npuId : NpuId} {e eOld : NasAclEntry}
    {old new : Keyed NasAclFilter.filterType} {s s₁ : Ndi} {there : Bool}
    (oldBuilt : ∀ t f, old.find t = some f → f.Built p)
    (newBuilt : ∀ t f, new.find t = some f → f.Built p)
    (fresh : e.ndiEntryIds.lookup npuId = none) (fine : ∀ i, o.rc i = .ok ())
    (created : pushCreateObjToNpu p o sw table npuId (e.withFilters old) s
      = (.ok (there, eOld), s₁)) :
    FiltersAgree p o sw table npuId e eOld new s s₁ ↔
      if there then ∀ t f, new.find t = some f → f.AppliesOn p npuId
      else (∀ t, new.find t = none → old.find t = none) ∧
        ∀ t f, (Keyed.addOrMod (NasAclFilter.ne p) new old).find t = some f →
          f.SkippedOn p npuId := by
  have freshNew : (e.withFilters new).ndiEntryIds.lookup npuId = none := fresh
  unfold FiltersAgree
  rw [pushCreate_leaves fine freshNew]
  obtain ⟨rfl, x, image, rfl, rfl⟩ | ⟨rfl, -, skipped, rfl, rfl⟩ := pushCreate_ok fine created
  · rw [if_pos rfl]
    refine agrees_where_installed oldBuilt newBuilt fine image ?_
    simp only [NasAclEntry.installed, Finmap.lookup_insert, Option.bind_some, Ndi.putEntry,
      and_self, if_true]
  · rw [if_neg Bool.false_ne_true]
    exact agrees_where_absent oldBuilt newBuilt fine fresh skipped

namespace Bench

/-- A filter on a list of interfaces, and its list. -/
def inPorts (ports : List IfIndex) : NasAclFilter := ⟨⟨.inPorts, .portlist []⟩, ports⟩

def onPorts (ports : List IfIndex) : Keyed NasAclFilter.filterType := .ofItems [inPorts ports]

/-- A table that is installed on both NPUs. -/
def installedTable : NasAclTable := { NasAclTable.new platform with ndiObjIds := idsOn {0, 1} }

def emptyNdi : Ndi := ⟨fun _ _ => none, 0, []⟩

theorem onPorts_built {ports : List IfIndex} (t : MatchType) (f : NasAclFilter)
    (found : (onPorts ports).find t = some f) : f.Built platform := by
  cases Keyed.eq_of_find_singleton found
  refine ⟨[{ ifindexList := ports }], ?_⟩
  change Except.ok _ = Except.ok _
  simp only [NasAclFilter.new, List.flatMap_cons, List.flatMap_nil, List.append_nil,
    List.nil_append]
  rfl

/-- What is installed for a filter on port 1, which is on NPU 0. -/
theorem onPort1_image : ((NasAclEntry.new platform 1).withFilters (onPorts [1])).ndiImage platform
    .new installedTable 0
      = some ⟨9, 0, .ofItems [⟨.inPorts, .portlist [⟨0, 1⟩]⟩], .ofItems []⟩ :=
  ndiImage_eq_some.mpr ⟨9, _, _, by decide +kernel, by decide +kernel, by decide +kernel, rfl⟩

end Bench

/-- Another port of the same NPU is added to a filter. -/
theorem modify_ports_agrees : ∃ eOld s₁,
    pushCreateObjToNpu Bench.platform Bench.replies .new Bench.installedTable 0
        ((NasAclEntry.new Bench.platform 1).withFilters (Bench.onPorts [1])) Bench.emptyNdi
      = (.ok (true, eOld), s₁) ∧
    FiltersAgree Bench.platform Bench.replies .new Bench.installedTable 0
      (NasAclEntry.new Bench.platform 1) eOld (Bench.onPorts [1, 2]) Bench.emptyNdi s₁ := by
  have created := pushCreate_of_image (o := Bench.replies) (s := Bench.emptyNdi) (fun _ => rfl)
    Bench.onPort1_image
  refine ⟨_, _, created, (modify_filters_agree_iff Bench.onPorts_built Bench.onPorts_built rfl
    (fun _ => rfl) created).mpr ?_⟩
  rw [if_pos rfl]
  intro t f found
  cases Keyed.eq_of_find_singleton found
  exact ⟨⟨.inPorts, .portlist [⟨0, 1⟩, ⟨0, 2⟩]⟩, by decide +kernel⟩

/-- A filter whose ports move to another NPU stays programmed on the NPU they leave. -/
theorem modify_filters_not_always :
    ¬ ∀ (p : Platform) (o : NdiReplies) (sw : NasAclSwitch) (table : NasAclTable) (npuId : NpuId)
      (e eOld : NasAclEntry) (old new : Keyed NasAclFilter.filterType) (s s₁ : Ndi)
      (there : Bool),
      (∀ t f, old.find t = some f → f.Built p) → (∀ t f, new.find t = some f → f.Built p) →
      e.ndiEntryIds.lookup npuId = none → (∀ i, o.rc i = .ok ()) →
      pushCreateObjToNpu p o sw table npuId (e.withFilters old) s = (.ok (there, eOld), s₁) →
      FiltersAgree p o sw table npuId e eOld new s s₁ := by
  intro claim
  obtain ⟨s₂, ran, agree⟩ := claim Bench.platform Bench.replies .new Bench.installedTable 0
    (NasAclEntry.new Bench.platform 1) _ (Bench.onPorts [1]) (Bench.onPorts [9]) Bench.emptyNdi _
    true Bench.onPorts_built Bench.onPorts_built rfl (fun _ => rfl)
    (pushCreate_of_image (fun _ => rfl) Bench.onPort1_image)
  have left := congrArg Option.isSome agree
  have after := congrArg Prod.snd ran
  simp only at after
  rw [← after, pushCreate_leaves (fun _ => rfl) rfl] at left
  exact absurd left (by decide +kernel)

end SonicNasAcl
