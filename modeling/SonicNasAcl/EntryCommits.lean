/-
# EntryCommits -- what a commit of an entry owes to its pushes

The base object commits an entry by pushing it, NPU by NPU, and is outside the repository;
the pushes are not.  A push fails where the NDI does, and also on its own account: the table
has no id on the NPU, an interface is no port, an object is not on the NPU, the entry is not
installed where an element of it is changed.

* `Oracle.Commits`: a commit that has succeeded has made its pushes;
* `Oracle.Accepts`: and with an NDI that accepts every call, nothing else can fail;
* `createsOn_iff`: creating an entry returns where it is `Creatable`;
* `restorePushes_iff`: and a modify that rolls back where each NPU that stays has the ids that
  the elements to be put back need.
-/
import SonicNasAcl.CounterPresence
import SonicNasAcl.RollbackPush
import SonicNasAcl.Translation

namespace SonicNasAcl

set_option autoImplicit false

open Lib

/-! ## Pushes that return -/

/-- Every call succeeds. -/
def NdiReplies.Accepts (o : NdiReplies) : Prop := ∀ n, o.rc n = .ok ()

/-- When the NDI accepts its calls, the push returns something like that. -/
def Gives {α : Type} (push : NdiReplies → NdiM α) (good : α → Prop) : Prop :=
  ∀ o s, o.Accepts → ∃ a s', push o s = (.ok a, s') ∧ good a

abbrev Returns {α : Type} (push : NdiReplies → NdiM α) : Prop := Gives push fun _ => True

section Returning

variable {α β : Type} {good : β → Prop}

/-- The NDI of a start, which accepts what it is asked. -/
theorem gives_somewhere {push : NdiReplies → NdiM β} (gives : Gives push good) :
    ∃ o s b s', push o s = (.ok b, s') ∧ good b := by
  obtain ⟨b, s', ran, fine⟩ := gives ⟨fun _ => .ok (), fun _ => 0⟩ ⟨fun _ _ => none, 0, []⟩ fun _ => rfl
  exact ⟨_, _, b, s', ran, fine⟩

theorem Gives.mono {push : NdiReplies → NdiM β} {good' : β → Prop}
    (gives : Gives push good) (weaker : ∀ b, good b → good' b) : Gives push good' := by
  intro o s accepts
  obtain ⟨b, s', ran, fine⟩ := gives o s accepts
  exact ⟨b, s', ran, weaker b fine⟩

theorem gives_pure {b : β} : Gives (fun _ => pure b) good ↔ good b := by
  constructor
  · intro gives
    obtain ⟨o, s, b', s', ran, fine⟩ := gives_somewhere gives
    cases ran
    exact fine
  · exact fun fine o s _ => ⟨b, s, rfl, fine⟩

/-- What a push computes first has to succeed. -/
theorem gives_query {x : Except Exn α} {f : NdiReplies → α → NdiM β} :
    Gives (fun o => Eff.query (fun _ => x) >>= f o) good ↔
      ∃ a, x = .ok a ∧ Gives (fun o => f o a) good := by
  constructor
  · intro gives
    obtain ⟨o, s, b, s', ran, -⟩ := gives_somewhere gives
    obtain ⟨a, computed, -⟩ := Eff.query_bind_ok.mp ran
    refine ⟨a, computed, fun o s accepts => ?_⟩
    obtain ⟨b, s', ran, fine⟩ := gives o s accepts
    obtain ⟨a', computed', ran⟩ := Eff.query_bind_ok.mp ran
    cases computed.symm.trans computed'
    exact ⟨b, s', ran, fine⟩
  · rintro ⟨a, computed, gives⟩ o s accepts
    obtain ⟨b, s', ran, fine⟩ := gives o s accepts
    exact ⟨b, s', Eff.query_bind_ok.mpr ⟨a, computed, ran⟩, fine⟩

/-- A call that is accepted does not fail. -/
theorem gives_call {errMsg : String} {act : NdiReplies → Ndi → Ndi} {b : NdiReplies → β}
    (fine : ∀ o, good (b o)) :
    Gives (fun o => ndiCall o errMsg (act o) >>= fun _ => pure (b o)) good := by
  intro o s accepts
  have called : ndiCall o errMsg (act o) s = (.ok (), { act o s with calls := s.calls + 1 }) := by
    unfold ndiCall
    rw [accepts]
  exact ⟨b o, { act o s with calls := s.calls + 1 }, Eff.bind_of_ok called, fine o⟩

/-- An effect that settles returns when all is well, whatever the NDI answers. -/
theorem Settles.returns_iff {fine : Prop} {body : NdiReplies → NdiM Unit} (settles : Settles fine body) :
    Returns body ↔ fine := by
  obtain ⟨fine, calls, ran⟩ | ⟨bad, threw⟩ := settles
  · exact iff_of_true (fun o s _ => ⟨(), _, ran o s, trivial⟩) fine
  · refine iff_of_false (fun returns => ?_) bad
    obtain ⟨o, s, b, s', ran, -⟩ := gives_somewhere returns
    obtain ⟨err, s'', stopped⟩ := threw o s
    cases ran.symm.trans stopped

end Returning

/-! ## Creating an entry -/

namespace NasAclEntry

/-- `push_create_obj_to_npu` returns. -/
def CreatesOn (e : NasAclEntry) (scope : PushScope) (npuId : NpuId) : Prop :=
  Returns fun o => pushCreateObjToNpu scope.platform o scope.sw scope.table npuId e

/-- And has created the entry. -/
def CreatedOn (e : NasAclEntry) (scope : PushScope) (npuId : NpuId) : Prop :=
  Gives (fun o => pushCreateObjToNpu scope.platform o scope.sw scope.table npuId e) fun r => r.1 = true

/-- What creating an entry on an NPU takes, apart from its counter: the table is there, and so
is what its filters and, if all of them apply, its actions name. -/
structure Creatable (p : Platform) (table : NasAclTable) (e : NasAclEntry) (npuId : NpuId) : Prop where
  table : npuId ∈ table.ndiObjIds
  filters : ∃ found, copyAllFiltersNdi p npuId (e.flist.items p.matchOrder) = .ok found
  actions : e.HasMatchOn p npuId → ∀ t a, e.alist.find t = some a →
    ∃ r, a.copyActionNdi p npuId [] = .ok r

end NasAclEntry

section Creating

open NasAclEntry

variable {scope : PushScope} {p : Platform} {sw : NasAclSwitch} {table : NasAclTable}
  {e : NasAclEntry} {npuId : NpuId} {good : Bool × NasAclEntry → Prop}

theorem getNdiObjId_ok {id : NdiObjId} :
    table.getNdiObjId npuId = .ok id ↔ table.ndiObjIds.lookup npuId = some id := by
  unfold NasAclTable.getNdiObjId
  cases table.ndiObjIds.lookup npuId with
  | none => simp only [reduceCtorEq]
  | some id' => simp only [Except.ok.injEq, Option.some.injEq]

/-- The push returns when the table is there and filters and actions translate. -/
theorem gives_create (either : ∀ created e e', good (created, e) ↔ good (created, e')) :
    Gives (fun o => pushCreateObjToNpu scope.platform o scope.sw scope.table npuId e) good ↔
      npuId ∈ scope.table.ndiObjIds ∧
      ∃ found, copyAllFiltersNdi scope.platform npuId (e.flist.items scope.platform.matchOrder)
          = .ok found ∧ good (found.isSome, e) ∧
        (found.isSome → ∃ l, copyAllActionsNdi scope.platform scope.sw e npuId = .ok l) := by
  unfold pushCreateObjToNpu
  rw [Finmap.mem_iff, ← exists_and_right]
  simp only [gives_query, getNdiObjId_ok]
  refine exists_congr fun id => and_congr_right fun _ => exists_congr fun found =>
    and_congr_right fun _ => ?_
  cases found with
  | none => simp only [gives_pure, Option.isSome_none, Bool.false_eq_true, false_implies, and_true]
  | some filters =>
      simp only [gives_query, Option.isSome_some, true_implies]
      constructor
      · rintro ⟨actions, copied, gives⟩
        obtain ⟨o, s, r, s', ran, fine⟩ := gives_somewhere gives
        obtain ⟨-, mid, -, ran⟩ := Eff.bind_ok.mp ran
        cases ran
        exact ⟨(either _ _ _).mp fine, actions, copied⟩
      · rintro ⟨fine, actions, copied⟩
        exact ⟨actions, copied, gives_call fun o => (either _ _ _).mp fine⟩

theorem items_hasMatch :
    (∀ f ∈ e.flist.items p.matchOrder, f.HasMatchOn p npuId) ↔ e.HasMatchOn p npuId := by
  constructor
  · intro all t f held
    exact all f (Keyed.mem_items.mpr ((e.flist.keyed t f held).symm ▸ held))
  · exact fun all f mem => all f.filterType f (Keyed.mem_items.mp mem)

/-- An entry is created where the push returns and all filters apply. -/
theorem createdOn_iff :
    e.CreatedOn scope npuId ↔ e.CreatesOn scope npuId ∧ e.HasMatchOn scope.platform npuId := by
  unfold CreatedOn CreatesOn Returns
  rw [gives_create fun _ _ _ => Iff.rfl, gives_create fun _ _ _ => Iff.rfl, and_assoc]
  refine and_congr_right fun _ => ?_
  have applies {found : Option (List NdiFilter)}
      (copied : copyAllFiltersNdi scope.platform npuId (e.flist.items scope.platform.matchOrder)
        = .ok found) : found.isSome ↔ e.HasMatchOn scope.platform npuId :=
    (copyAllFiltersNdi_hasMatch copied).trans items_hasMatch
  constructor
  · rintro ⟨found, copied, some_, actions⟩
    exact ⟨⟨found, copied, trivial, actions⟩, (applies copied).mp some_⟩
  · rintro ⟨⟨found, copied, -, actions⟩, matches_⟩
    exact ⟨found, copied, (applies copied).mpr matches_, actions⟩

/-! ### Its actions -/

/-- Where the counter of an entry is at hand, an action of it is pushed as itself. -/
theorem copyOneActionNdi_counted {a : NasAclAction} (counterOn : e.CounterOn sw npuId)
    (counts : e.CountsByObject) (held : e.alist.find a.actionType = some a) :
    (copyOneActionNdi p sw e npuId [] a).map List.length
      = (a.copyActionNdi p npuId []).map fun r => r.2.length := by
  unfold copyOneActionNdi
  by_cases counter : a.isCounter
  · have type : a.actionType = .setCounter := of_decide_eq_true counter
    rw [type] at held
    obtain ⟨v, object⟩ := counts a held
    have copied : a.copyActionNdi p npuId [] = .ok (true, [{ a.aInfo with values := .objId v }]) := by
      rw [NasAclAction.copyActionNdi, object]
      simp only [counter, if_true, List.nil_append]
    obtain ⟨l, ran⟩ := copyNdiCounterId_ok counterOn (Option.isSome_of_eq_some held) []
      { a.aInfo with values := .objId v }
    rw [List.nil_append] at ran
    rw [copied]
    simp only [except_ok_bind, counter, if_true, ran]
    exact congrArg Except.ok (copyNdiCounterId_length ran)
  · simp only [counter, Bool.false_eq_true, if_false]
    cases a.copyActionNdi p npuId [] <;> rfl

theorem except_map_ok {α β : Type} {x : Except Exn α} {f : α → β} {b : β} :
    x.map f = .ok b ↔ ∃ a, x = .ok a ∧ f a = b := by
  cases x with
  | error err => simp only [Except.map, reduceCtorEq, false_and, exists_false]
  | ok a => simp only [Except.map, Except.ok.injEq, exists_eq_left']

/-- Creating an entry that has its counter takes what its filters and actions name. -/
theorem createsOn_iff (counterOn : e.CounterOn sw npuId) (counts : e.CountsByObject) :
    e.CreatesOn ⟨p, sw, table⟩ npuId ↔ e.Creatable p table npuId := by
  have objects : ∀ a ∈ e.alist.items p.actionOrder, a.isCounter → ∃ v, a.aInfo.values = .objId v := by
    intro a mem counter
    have type : a.actionType = .setCounter := of_decide_eq_true counter
    exact counts a (type ▸ Keyed.mem_items.mp mem)
  have each (a : NasAclAction) (held : e.alist.find a.actionType = some a) :
      (∃ l, copyOneActionNdi p sw e npuId [] a = .ok l) ↔ ∃ r, a.copyActionNdi p npuId [] = .ok r := by
    have same := copyOneActionNdi_counted (p := p) counterOn counts held
    constructor
    · rintro ⟨l, copied⟩
      obtain ⟨r, alone, -⟩ := except_map_ok.mp (same.symm.trans (except_map_ok.mpr ⟨l, copied, rfl⟩))
      exact ⟨r, alone⟩
    · rintro ⟨r, alone⟩
      obtain ⟨l, copied, -⟩ := except_map_ok.mp (same.trans (except_map_ok.mpr ⟨r, alone, rfl⟩))
      exact ⟨l, copied⟩
  have actions : (∃ l, copyAllActionsNdi p sw e npuId = .ok l) ↔
      ∀ t a, e.alist.find t = some a → ∃ r, a.copyActionNdi p npuId [] = .ok r := by
    simp only [copyAllActionsNdi_ok objects, exists_and_left, exists_eq, and_true]
    constructor
    · intro all t a held
      obtain rfl := e.alist.keyed t a held
      exact (each a held).mp (all a (Keyed.mem_items.mpr held))
    · exact fun all a mem => (each a (Keyed.mem_items.mp mem)).mpr (all _ a (Keyed.mem_items.mp mem))
  have applies {found : Option (List NdiFilter)}
      (copied : copyAllFiltersNdi p npuId (e.flist.items p.matchOrder) = .ok found) :
      found.isSome ↔ e.HasMatchOn p npuId := (copyAllFiltersNdi_hasMatch copied).trans items_hasMatch
  unfold CreatesOn Returns
  rw [gives_create fun _ _ _ => Iff.rfl]
  constructor
  · rintro ⟨there, found, copied, -, translated⟩
    exact ⟨there, ⟨found, copied⟩, fun matches_ =>
      actions.mp (translated ((applies copied).mpr matches_))⟩
  · rintro ⟨there, ⟨found, copied⟩, translated⟩
    exact ⟨there, found, copied, trivial, fun some_ =>
      actions.mpr (translated ((applies copied).mp some_))⟩

end Creating

/-! ## Putting an entry back -/

/-- An element of the old filters is removed on the NPU, or one of the new ones is set there. -/
def FiltersNeedId (p : Platform) (new old : NasAclEntry) (npuId : NpuId) : Prop :=
  (∃ t f, old.flist.find t = some f ∧ new.flist.find t = none) ∨
    ∃ t f, new.flist.find t = some f ∧
      (∀ g, old.flist.find t = some g → NasAclFilter.ne p g f = true) ∧ f.AppliesOn p npuId

/-- And of the actions. -/
def ActionsNeedId (p : Platform) (new old : NasAclEntry) (npuId : NpuId) : Prop :=
  (∃ t a, old.alist.find t = some a ∧ new.alist.find t = none) ∨
    ∃ t a, new.alist.find t = some a ∧
      (∀ b, old.alist.find t = some b → NasAclAction.ne b a = true) ∧
      ∃ pushed x l, a.copyActionNdi p npuId [] = .ok (pushed, x :: l)

/-- The pushes of a modify that rolls back and ends at `e`: to the NPUs that are new in its
list, to those that are not in it any more, and to those that stay. -/
structure NasAclEntry.RestorePushes (scope : PushScope) (e old : NasAclEntry) : Prop where
  created : ∀ npuId ∈ e.npuList \ old.npuList, e.CreatesOn scope npuId
  deleted : ∀ npuId ∈ old.npuList \ e.npuList, Returns fun o => pushDeleteObjToNpu o npuId e
  priority : e.isAttrDirty .entryPriority → ∀ npuId ∈ old.npuList ∩ e.npuList,
    Returns fun o => pushLeafAttrToNpu o .entryPriority npuId e
  filters : e.isAttrDirty .entryMatch →
    Returns (rollbackPush scope.platform scope.sw .entryMatch e old (old.npuList ∩ e.npuList))
  actions : e.isAttrDirty .entryAction →
    Returns (rollbackPush scope.platform scope.sw .entryAction e old (old.npuList ∩ e.npuList))

/-- What these pushes take, apart from the counter of the entry. -/
structure NasAclEntry.Restorable (p : Platform) (table : NasAclTable) (e old : NasAclEntry) : Prop where
  created : ∀ npuId ∈ e.npuList \ old.npuList, e.Creatable p table npuId
  priority : e.isAttrDirty .entryPriority → ∀ npuId ∈ old.npuList ∩ e.npuList, npuId ∈ e.ndiEntryIds
  filters : e.isAttrDirty .entryMatch → ∀ npuId ∈ old.npuList ∩ e.npuList,
    FiltersNeedId p e old npuId → npuId ∈ e.ndiEntryIds
  actions : e.isAttrDirty .entryAction → ∀ npuId ∈ old.npuList ∩ e.npuList,
    ActionsNeedId p e old npuId → npuId ∈ e.ndiEntryIds

section Restoring

open NasAclEntry

variable {p : Platform} {sw : NasAclSwitch} {table : NasAclTable} {e old : NasAclEntry}
  {npuId : NpuId} {npus : NpuSet}

/-- A delete finds the entry, or has nothing to do. -/
theorem delete_returns : Returns fun o => pushDeleteObjToNpu o npuId e := by
  unfold pushDeleteObjToNpu
  cases e.ndiEntryIds.lookup npuId with
  | none => exact gives_pure.mpr trivial
  | some id => exact gives_call fun _ => trivial

theorem priority_returns_iff :
    (Returns fun o => pushLeafAttrToNpu o .entryPriority npuId e) ↔ npuId ∈ e.ndiEntryIds := by
  have found {id : NdiObjId} : e.ndiEntryId npuId = .ok id ↔ e.ndiEntryIds.lookup npuId = some id := by
    unfold ndiEntryId
    cases e.ndiEntryIds.lookup npuId with
    | none => simp only [reduceCtorEq]
    | some id' => simp only [Except.ok.injEq, Option.some.injEq]
  unfold pushLeafAttrToNpu Returns
  simp only [gives_query, found, Finmap.mem_iff]
  exact exists_congr fun id => and_iff_left (gives_call fun _ => trivial)

theorem filtersRestorable_iff :
    FiltersRestorable p e old npus ↔
      ∀ npuId ∈ npus, FiltersNeedId p e old npuId → npuId ∈ e.ndiEntryIds := by
  refine forall₂_congr fun npuId _ => ?_
  constructor
  · rintro ⟨removed, set⟩ (⟨t, f, held, gone⟩ | ⟨t, f, held, differs, applies⟩)
    · obtain rfl := old.flist.keyed t f held
      exact removed f (Keyed.find_deleted.mpr ⟨gone, held⟩)
    · obtain rfl := e.flist.keyed t f held
      exact set f (Keyed.find_addOrMod.mpr ⟨held, differs⟩) applies
  · intro needed
    refine ⟨fun f found => needed (.inl ?_), fun f found applies => needed (.inr ?_)⟩
    · obtain ⟨gone, held⟩ := Keyed.find_deleted.mp found
      exact ⟨_, f, held, gone⟩
    · obtain ⟨held, differs⟩ := Keyed.find_addOrMod.mp found
      exact ⟨_, f, held, differs, applies⟩

theorem actionsRestorable_iff (counterOn : ∀ npuId ∈ npus, e.CounterOn sw npuId)
    (counts : e.CountsByObject) :
    ActionsRestorable p sw e old npus ↔
      ∀ npuId ∈ npus, ActionsNeedId p e old npuId → npuId ∈ e.ndiEntryIds := by
  refine forall₂_congr fun npuId mem => ?_
  have pushes {a : NasAclAction} (held : e.alist.find a.actionType = some a) :
      (∃ x l, copyOneActionNdi p sw e npuId [] a = .ok (x :: l)) ↔
        ∃ pushed x l, a.copyActionNdi p npuId [] = .ok (pushed, x :: l) := by
    have same := copyOneActionNdi_counted (p := p) (counterOn npuId mem) counts held
    constructor
    · rintro ⟨x, l, copied⟩
      obtain ⟨⟨pushed, l'⟩, alone, length⟩ :=
        except_map_ok.mp (same.symm.trans (except_map_ok.mpr ⟨_, copied, rfl⟩))
      obtain ⟨x', l', rfl⟩ := List.exists_cons_of_length_eq_add_one length
      exact ⟨pushed, x', l', alone⟩
    · rintro ⟨pushed, x, l, alone⟩
      obtain ⟨l', copied, length⟩ :=
        except_map_ok.mp (same.trans (except_map_ok.mpr ⟨_, alone, rfl⟩))
      obtain ⟨x', l', rfl⟩ := List.exists_cons_of_length_eq_add_one length
      exact ⟨x', l', copied⟩
  constructor
  · rintro ⟨removed, set⟩ (⟨t, a, held, gone⟩ | ⟨t, a, held, differs, applies⟩)
    · obtain rfl := old.alist.keyed t a held
      exact removed a (Keyed.find_deleted.mpr ⟨gone, held⟩)
    · obtain rfl := e.alist.keyed t a held
      exact (set a (Keyed.find_addOrMod.mpr ⟨held, differs⟩)).2 ((pushes held).mpr applies)
  · intro needed
    refine ⟨fun a found => needed (.inl ?_), fun a found => ⟨fun why failed => ?_, fun applies =>
      needed (.inr ?_)⟩⟩
    · obtain ⟨gone, held⟩ := Keyed.find_deleted.mp found
      exact ⟨_, a, held, gone⟩
    · have held := (Keyed.find_addOrMod.mp found).1
      exact avoids_copyOneActionNdi (counterOn npuId mem) counts held [] _ failed ⟨why, rfl⟩
    · obtain ⟨held, differs⟩ := Keyed.find_addOrMod.mp found
      exact ⟨_, a, held, differs, (pushes held).mp applies⟩

/-- An entry that has its counter is put back where each NPU that stays has the ids it takes. -/
theorem restorePushes_iff (counterOn : ∀ npuId ∈ e.npuList, e.CounterOn sw npuId)
    (counts : e.CountsByObject) :
    e.RestorePushes ⟨p, sw, table⟩ old ↔ e.Restorable p table old := by
  have creates : (∀ npuId ∈ e.npuList \ old.npuList, e.CreatesOn ⟨p, sw, table⟩ npuId) ↔
      ∀ npuId ∈ e.npuList \ old.npuList, e.Creatable p table npuId :=
    forall₂_congr fun npuId mem => createsOn_iff (counterOn npuId (Finset.mem_sdiff.mp mem).1) counts
  let npus := old.npuList ∩ e.npuList
  have filters : Settles (FiltersRestorable p e old npus) (rollbackPush p sw .entryMatch e old npus) :=
    settles_flist
  have actions : Settles (ActionsRestorable p sw e old npus)
      (rollbackPush p sw .entryAction e old npus) :=
    settles_alist
  have restorable : ActionsRestorable p sw e old npus ↔
      ∀ npuId ∈ npus, ActionsNeedId p e old npuId → npuId ∈ e.ndiEntryIds :=
    actionsRestorable_iff (fun npuId mem => counterOn npuId (Finset.mem_inter.mp mem).2) counts
  constructor
  · rintro ⟨created, -, priority, match_, action⟩
    exact ⟨creates.mp created,
      fun dirty npuId mem => priority_returns_iff.mp (priority dirty npuId mem),
      fun dirty => filtersRestorable_iff.mp (filters.returns_iff.mp (match_ dirty)),
      fun dirty => restorable.mp (actions.returns_iff.mp (action dirty))⟩
  · rintro ⟨created, priority, match_, action⟩
    exact ⟨creates.mpr created, fun _ _ => delete_returns,
      fun dirty npuId mem => priority_returns_iff.mpr (priority dirty npuId mem),
      fun dirty => filters.returns_iff.mpr (filtersRestorable_iff.mpr (match_ dirty)),
      fun dirty => actions.returns_iff.mpr (restorable.mpr (action dirty))⟩

end Restoring

/-! ## What is asked of the base object -/

/-- What is seen of the commits of entries while the NDI accepts every call.  A commit has
pushed the entry to each NPU that is new in its list, and has an id there just when the push has
created it; on an NPU that stays it has one just when it had one.  A modify that rolls back has
made the pushes of `RestorePushes`. -/
structure Oracle.Commits (p : Platform) (o : Oracle) : Prop where
  created : ∀ sw table e rollback ids, o.entryCreate ⟨p, sw, table⟩ e rollback = .ok ids →
    ∀ npuId ∈ e.npuList, e.CreatesOn ⟨p, sw, table⟩ npuId
  added : ∀ sw table e old rollback ids,
    (o.entryModify ⟨p, sw, table⟩ e old rollback).1 = .ok ids →
    ∀ npuId ∈ e.npuList \ old.npuList, e.CreatesOn ⟨p, sw, table⟩ npuId ∧
      (npuId ∈ ids ↔ e.CreatedOn ⟨p, sw, table⟩ npuId)
  kept : ∀ sw table e old rollback ids,
    (o.entryModify ⟨p, sw, table⟩ e old rollback).1 = .ok ids →
    ∀ npuId ∈ old.npuList ∩ e.npuList, (npuId ∈ ids ↔ npuId ∈ e.ndiEntryIds)
  restored : ∀ sw table e old ids, (o.entryModify ⟨p, sw, table⟩ e old true).1 = .ok ids →
    e.RestorePushes ⟨p, sw, table⟩ old

/-- And in a rollback nothing but a push that throws makes a commit fail. -/
structure Oracle.Accepts (p : Platform) (o : Oracle) : Prop extends o.Commits p where
  creates : ∀ sw table e, (∀ npuId ∈ e.npuList, e.CreatesOn ⟨p, sw, table⟩ npuId) →
    ∃ ids, o.entryCreate ⟨p, sw, table⟩ e true = .ok ids
  restores : ∀ sw table e old, e.RestorePushes ⟨p, sw, table⟩ old →
    ∃ ids, (o.entryModify ⟨p, sw, table⟩ e old true).1 = .ok ids
  deletes : ∀ sw table e, (∀ npuId ∈ e.npuList, Returns fun o => pushDeleteObjToNpu o npuId e) →
    (o.entryDelete ⟨p, sw, table⟩ e true).1 = .ok ()

/-! ### On the bench -/

namespace Bench

variable {scope : PushScope} {e old : NasAclEntry} {npuId : NpuId}

theorem answer_of_gives {α : Type} {push : NdiReplies → NdiM α} {good : α → Prop}
    (gives : Gives push good) : ∃ a, answer push = .ok a ∧ good a := by
  obtain ⟨a, s', ran, fine⟩ := gives ⟨fun _ => .ok (), fun _ => 9⟩ ⟨fun _ _ => none, 0, []⟩ fun _ => rfl
  exact ⟨a, answer_ok.mpr ⟨s', ran⟩, fine⟩

/-- The bench runs a push once, and no other run of it ends otherwise. -/
theorem pushed_gives {created : Bool} (ran : pushed scope e npuId = .ok created) :
    Gives (fun o => pushCreateObjToNpu scope.platform o scope.sw scope.table npuId e)
      fun r => r.1 = created := by
  obtain ⟨r, s', ended, rfl⟩ := pushed_ok.mp ran
  obtain ⟨id, there, ran⟩ := Eff.query_bind_ok.mp ended
  obtain ⟨found, copied, ran⟩ := Eff.query_bind_ok.mp ran
  refine (gives_create fun _ _ _ => Iff.rfl).mpr
    ⟨Finmap.mem_iff.mpr ⟨id, getNdiObjId_ok.mp there⟩, found, copied, ?_⟩
  cases found with
  | none =>
      cases ran
      exact ⟨rfl, nofun⟩
  | some filters =>
      obtain ⟨actions, translated, ran⟩ := Eff.query_bind_ok.mp ran
      obtain ⟨-, mid, -, ran⟩ := Eff.bind_ok.mp ran
      cases ran
      exact ⟨rfl, fun _ => ⟨actions, translated⟩⟩

theorem pushed_of_gives {good : Bool → Prop}
    (gives : Gives (fun o => pushCreateObjToNpu scope.platform o scope.sw scope.table npuId e)
      fun r => good r.1) : ∃ created, pushed scope e npuId = .ok created ∧ good created := by
  obtain ⟨r, ran, fine⟩ := answer_of_gives gives
  obtain ⟨s', ran⟩ := answer_ok.mp ran
  exact ⟨r.1, pushed_ok.mpr ⟨r, s', ran, rfl⟩, fine⟩

theorem pushed_true_iff : (pushed scope e npuId).toOption = some true ↔ e.CreatedOn scope npuId := by
  constructor
  · exact fun found => pushed_gives (except_toOption.mp found)
  · intro created
    have ends : ∃ created, pushed scope e npuId = .ok created ∧ created = true := pushed_of_gives created
    obtain ⟨created, ran, rfl⟩ := ends
    rw [ran]
    rfl

theorem idsPushed_creates {kept npus : NpuSet} :
    (∃ ids, idsPushed scope e kept npus = .ok ids) ↔ ∀ npuId ∈ npus, e.CreatesOn scope npuId := by
  simp only [idsPushed_ok, exists_and_left, exists_eq, and_true]
  refine forall₂_congr fun npuId _ => ?_
  constructor
  · rintro ⟨created, ran⟩
    exact (pushed_gives ran).mono fun _ _ => trivial
  · intro creates
    have ends : ∃ created, pushed scope e npuId = .ok created ∧ True := pushed_of_gives creates
    obtain ⟨created, ran, -⟩ := ends
    exact ⟨created, ran⟩

theorem mem_idsPushed {kept npus : NpuSet} {ids : NdiObjIdTable}
    (done : idsPushed scope e kept npus = .ok ids) :
    npuId ∈ ids ↔ npuId ∈ kept ∨ npuId ∈ npus ∧ e.CreatedOn scope npuId := by
  obtain ⟨-, rfl⟩ := idsPushed_ok.mp done
  rw [mem_idsOn, Finset.mem_union, Finset.mem_filter, pushed_true_iff]

theorem answer_settles {fine : Prop} {body : NdiReplies → NdiM Unit} (settles : Settles fine body) :
    answer body = .ok () ↔ fine := by
  obtain ⟨fine, calls, ran⟩ | ⟨bad, threw⟩ := settles
  · exact iff_of_true (answer_ok.mpr ⟨_, ran _ _⟩) fine
  · refine iff_of_false (fun ended => ?_) bad
    obtain ⟨s', ran⟩ := answer_ok.mp ended
    obtain ⟨err, s'', stopped⟩ := threw _ _
    cases ran.symm.trans stopped

theorem answer_priority :
    (∃ done, answer (fun o => pushLeafAttrToNpu o .entryPriority npuId e) = .ok done) ↔
      npuId ∈ e.ndiEntryIds := by
  rw [← priority_returns_iff]
  constructor
  · rintro ⟨done, ran⟩
    obtain ⟨s', ran⟩ := answer_ok.mp ran
    obtain ⟨id, found, -⟩ := Eff.query_bind_ok.mp ran
    exact gives_query.mpr ⟨id, found, gives_call fun _ => trivial⟩
  · intro returns
    obtain ⟨done, ran, -⟩ := answer_of_gives returns
    exact ⟨done, ran⟩

theorem restored_ok :
    restored scope e old = .ok () ↔
      (e.isAttrDirty .entryPriority → ∀ npuId ∈ old.npuList ∩ e.npuList,
        Returns fun o => pushLeafAttrToNpu o .entryPriority npuId e) ∧
      (e.isAttrDirty .entryMatch → Returns
        (rollbackPush scope.platform scope.sw .entryMatch e old (old.npuList ∩ e.npuList))) ∧
      (e.isAttrDirty .entryAction → Returns
        (rollbackPush scope.platform scope.sw .entryAction e old (old.npuList ∩ e.npuList))) := by
  have guarded (dirty : Bool) (x : Except Exn Unit) :
      (if dirty then x else .ok ()) = .ok () ↔ (dirty = true → x = .ok ()) := by
    cases dirty with
    | true => exact ⟨fun ran _ => ran, fun ran => ran rfl⟩
    | false => exact ⟨fun _ => nofun, fun _ => rfl⟩
  have unit {x y : Except Exn Unit} : (x >>= fun _ => y) = .ok () ↔ x = .ok () ∧ y = .ok () :=
    except_bind_ok.trans ⟨fun ⟨_, ran, rest⟩ => ⟨ran, rest⟩, fun ⟨ran, rest⟩ => ⟨(), ran, rest⟩⟩
  have done {x : Except Exn Bool} : x.map (fun _ => ()) = .ok () ↔ ∃ b, x = .ok b := by
    simp only [except_map_ok, and_true]
  unfold restored
  simp only [unit, guarded, except_forM_ok, npuOrder.mem_visit, done, answer_priority,
    priority_returns_iff]
  refine and_congr_right fun _ => and_congr (forall_congr' fun _ => ?_) (forall_congr' fun _ => ?_)
  · exact (answer_settles settles_flist).trans settles_flist.returns_iff.symm
  · exact (answer_settles settles_alist).trans settles_alist.returns_iff.symm

/-- An entry that comes to no new NPU is committed. -/
theorem modified_stays (stays : e.npuList ⊆ old.npuList) :
    ∃ ids, modified scope e old false = .ok ids := by
  have none_ : e.npuList \ old.npuList = ∅ := Finset.sdiff_eq_empty_iff_subset.mpr stays
  have creates : ∀ npuId ∈ e.npuList \ old.npuList, e.CreatesOn scope npuId := by
    rw [none_]
    exact fun npuId mem => absurd mem (Finset.notMem_empty npuId)
  obtain ⟨ids, pushed⟩ := idsPushed_creates.mpr creates
  exact ⟨ids, modified_ok.mpr ⟨fun rolls => Bool.noConfusion rolls, pushed⟩⟩

/-- The base object of the bench does what is asked of one. -/
theorem pushingOracle_accepts (p : Platform) : pushingOracle.Accepts p where
  created _ _ _ _ ids done := idsPushed_creates.mp ⟨ids, done⟩
  added sw table e old rollback ids done npuId mem := by
    have pushed := (modified_ok.mp done).2
    refine ⟨idsPushed_creates.mp ⟨ids, pushed⟩ npuId mem, ?_⟩
    rw [mem_idsPushed pushed]
    have new : npuId ∉ e.npuList ∩ old.npuList ∩ e.ndiEntryIds.keys := fun kept =>
      (Finset.mem_sdiff.mp mem).2 (Finset.mem_inter.mp (Finset.mem_inter.mp kept).1).2
    exact ⟨fun either => (either.resolve_left new).2, fun created => .inr ⟨mem, created⟩⟩
  kept _ _ _ _ _ ids done npuId mem := by
    have pushed := (modified_ok.mp done).2
    obtain ⟨before, after⟩ := Finset.mem_inter.mp mem
    rw [mem_idsPushed pushed]
    constructor
    · rintro (kept | ⟨new, -⟩)
      · exact Finmap.mem_keys.mp (Finset.mem_inter.mp kept).2
      · exact absurd before (Finset.mem_sdiff.mp new).2
    · intro held
      exact .inl (Finset.mem_inter.mpr ⟨Finset.mem_inter.mpr ⟨after, before⟩, Finmap.mem_keys.mpr held⟩)
  restored sw table e old ids done := by
    change modified ⟨p, sw, table⟩ e old true = .ok ids at done
    obtain ⟨back, pushed⟩ := modified_ok.mp done
    obtain ⟨priority, filters, actions⟩ := restored_ok.mp (back rfl)
    exact ⟨idsPushed_creates.mp ⟨ids, pushed⟩, fun _ _ => delete_returns, priority, filters, actions⟩
  creates _ _ _ creates := idsPushed_creates.mpr creates
  restores sw table e old pushes := by
    obtain ⟨ids, pushed⟩ := idsPushed_creates.mpr pushes.created
    refine ⟨ids, ?_⟩
    change modified ⟨p, sw, table⟩ e old true = .ok ids
    exact modified_ok.mpr
      ⟨fun _ => restored_ok.mpr ⟨pushes.priority, pushes.filters, pushes.actions⟩, pushed⟩
  deletes _ _ _ _ := rfl

end Bench

end SonicNasAcl
