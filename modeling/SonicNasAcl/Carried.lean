/-
# Carried -- what a request carries, and what it leaves alone

A full SET changes of an entry what the request carries: the priority, the filters, the
actions, the NPUs.  Each of the four is marked when it is given and otherwise left as it was.

* `parse_priority`: a priority that is not marked is the old one;
* `parse_filters`, `parse_actions`: a list that is carried is the new one, item by item;
* `parse_npus`: an entry that is given NPUs no longer follows its table;
* `parse_asked`: so the entry is pushed as the one the request asks for.
-/
import SonicNasAcl.ConfiguredNpus
import SonicNasAcl.Reordered

namespace SonicNasAcl

set_option autoImplicit false

open Lib

/-- The actions that one attribute of a request lists. -/
def attrActions (p : Platform) (obj : List CpsAttr) (attr : CpsAttr) : List NasAclAction :=
  if attr.id = .entryAction then attr.inside.filterMap fun elem => (elementAction p obj elem).toOption
  else []

/-- The actions a request lists, in order. -/
def requestActions (p : Platform) (obj : List CpsAttr) : List NasAclAction :=
  obj.flatMap (attrActions p obj)

/-- The request carries the attribute, or an element of it. -/
def Carries (p : Platform) (obj : List CpsAttr) : AttrId → Prop
  | .entryPriority => ∃ attr ∈ obj, attr.id = .entryPriority
  | .entryMatch => requestFilters p obj ≠ []
  | .entryAction => requestActions p obj ≠ []
  | _ => False

/-- The entry that a request asks for, apart from its priority: what is not carried is the old
entry's. -/
def NasAclEntry.given (p : Platform) (obj : List CpsAttr) (old : NasAclEntry) : NasAclEntry :=
  let filters := requestFilters p obj
  let actions := requestActions p obj
  let npus := listedNpus obj
  { old with
    flist := if filters = [] then old.flist else Keyed.ofItems filters
    filterNpus := if filters = [] then old.filterNpus
      else (requestPortFilter p obj).elim ∅ (·.npus p)
    alist := if actions = [] then old.alist else Keyed.ofItems actions
    base := { old.base with npus := if npus = [] then old.base.npus else npus.toFinset } }

section Carried

open NasAclEntry

variable {p : Platform} {sw : NasAclSwitch} {table : NasAclTable} {old e e' : NasAclEntry}
  {obj : List CpsAttr} {attr : CpsAttr} {st st' : NasAclEntry × Bool}

/-! ## One attribute -/

/-- What an attribute does not stand for is left alone. -/
theorem parseEntryAttr_others (parsed : parseEntryAttr p sw table obj st attr = .ok st') :
    (attr.id ≠ .entryPriority → st'.1.priority = st.1.priority ∧
      st'.1.isAttrDirty .entryPriority = st.1.isAttrDirty .entryPriority) ∧
    (attr.id ≠ .entryAction → st'.1.alist = st.1.alist ∧
      st'.1.isAttrDirty .entryAction = st.1.isAttrDirty .entryAction) ∧
    (attr.id ≠ .entryNpuIdList → st'.1.base.npus = st.1.base.npus ∧
      st'.1.followingTableNpus = st.1.followingTableNpus ∧ st'.2 = st.2) := by
  have marked {a b : AttrId} (ne : b ≠ a) (x : NasAclEntry) :
      (x.markAttrDirty a).isAttrDirty b = x.isAttrDirty b := isAttrDirty_markAttrDirty_of_ne ne
  unfold parseEntryAttr at parsed
  split at parsed
  · rename_i named
    split at parsed
    · cases parsed
    · cases parsed
      exact ⟨fun other => absurd named other, fun _ => ⟨rfl, marked AttrId.noConfusion _⟩,
        fun _ => ⟨rfl, rfl, rfl⟩⟩
  · rename_i named
    obtain ⟨e, set, parsed⟩ := except_bind_ok.mp parsed
    cases parsed
    have kept : e.priority = st.1.priority ∧ e.alist = st.1.alist ∧ e.base.npus = st.1.base.npus ∧
        e.followingTableNpus = st.1.followingTableNpus ∧
        ∀ a, a ≠ .entryMatch → e.isAttrDirty a = st.1.isAttrDirty a := by
      refine forEachElement_invariant (P := fun e => e.priority = st.1.priority ∧
        e.alist = st.1.alist ∧ e.base.npus = st.1.base.npus ∧
        e.followingTableNpus = st.1.followingTableNpus ∧
        ∀ a, a ≠ .entryMatch → e.isAttrDirty a = st.1.isAttrDirty a)
        (fun v path x x' pre turn => ?_) ⟨rfl, rfl, rfl, rfl, fun _ _ => rfl⟩ set
      obtain ⟨f, -, added⟩ := setMatchAttr_ok.mp turn
      obtain ⟨-, -, actions, priority, following, base⟩ := addFilter_frame added
      refine ⟨priority.trans pre.1, actions.trans pre.2.1, ?_, following.trans pre.2.2.2.1,
        fun a ne => ?_⟩
      · rw [base]
        exact pre.2.2.1
      · rw [isAttrDirty, base]
        exact (marked ne x).trans (pre.2.2.2.2 a ne)
    obtain ⟨priority, actions, npus, following, marks⟩ := kept
    exact ⟨fun _ => ⟨priority, marks _ AttrId.noConfusion⟩,
      fun _ => ⟨actions, marks _ AttrId.noConfusion⟩, fun _ => ⟨npus, following, rfl⟩⟩
  · rename_i named
    obtain ⟨e, set, parsed⟩ := except_bind_ok.mp parsed
    cases parsed
    have kept : e.priority = st.1.priority ∧ e.base.npus = st.1.base.npus ∧
        e.followingTableNpus = st.1.followingTableNpus ∧
        e.isAttrDirty .entryPriority = st.1.isAttrDirty .entryPriority := by
      refine forEachElement_invariant (P := fun e => e.priority = st.1.priority ∧
        e.base.npus = st.1.base.npus ∧ e.followingTableNpus = st.1.followingTableNpus ∧
        e.isAttrDirty .entryPriority = st.1.isAttrDirty .entryPriority)
        (fun v path x x' pre turn => ?_) ⟨rfl, rfl, rfl, rfl⟩ set
      obtain ⟨a, -, added⟩ := setActionAttr_ok.mp turn
      obtain ⟨rfl, -⟩ := addAction_ok.mp added
      rw [putAction_frame]
      exact ⟨pre.1, pre.2.1, pre.2.2.1, (marked AttrId.noConfusion x).trans pre.2.2.2⟩
    obtain ⟨priority, npus, following, mark⟩ := kept
    exact ⟨fun _ => ⟨priority, mark⟩, fun other => absurd named other, fun _ => ⟨npus, following, rfl⟩⟩
  · rename_i named
    cases parsed
    exact ⟨fun _ => ⟨rfl, rfl⟩, fun _ => ⟨rfl, rfl⟩, fun other => absurd named other⟩
  · cases parsed
    exact ⟨fun _ => ⟨rfl, rfl⟩, fun _ => ⟨rfl, rfl⟩, fun _ => ⟨rfl, rfl, rfl⟩⟩

theorem parseEntryAttr_priority (isPriority : attr.id = .entryPriority)
    (parsed : parseEntryAttr p sw table obj st attr = .ok st') :
    st'.1.isAttrDirty .entryPriority = true := by
  unfold parseEntryAttr at parsed
  rw [isPriority] at parsed
  simp only [] at parsed
  split at parsed
  · cases parsed
  · cases parsed
    exact isAttrDirty_markAttrDirty .entryPriority _

/-! ## A whole request -/

/-- The priority is marked when it is carried. -/
theorem parse_priority_iff (clean : old.isAttrDirty .entryPriority = false)
    (parsed : cpsParseEntryObj p sw table obj old = .ok st) :
    st.1.isAttrDirty .entryPriority = true ↔ Carries p obj .entryPriority := by
  let J (rest : List CpsAttr) (st : NasAclEntry × Bool) : Prop := ∃ given, obj = given ++ rest ∧
    (st.1.isAttrDirty .entryPriority = true ↔ ∃ attr ∈ given, attr.id = .entryPriority)
  have turns (attr : CpsAttr) (rest : List CpsAttr) (st st' : NasAclEntry × Bool)
      (pre : J ([attr] ++ rest) st) (turn : parseEntryAttr p sw table obj st attr = .ok st') :
      J rest st' := by
    obtain ⟨given, all, marks⟩ := pre
    refine ⟨given ++ [attr], by rw [all, List.append_assoc], ?_⟩
    simp only [List.mem_append, List.mem_singleton, or_and_right, exists_or, exists_eq_left]
    rw [← marks]
    by_cases isPriority : attr.id = .entryPriority
    · exact iff_of_true (parseEntryAttr_priority isPriority turn) (.inr isPriority)
    · rw [((parseEntryAttr_others turn).1 isPriority).2]
      exact (or_iff_left isPriority).symm
  have first : J (obj.flatMap (fun attr => [attr]) ++ []) (old, false) := by
    refine ⟨[], by rw [List.flatMap_singleton', List.append_nil, List.nil_append], ?_⟩
    rw [clean]
    refine iff_of_false Bool.false_ne_true ?_
    rintro ⟨attr, mem, -⟩
    cases mem
  obtain ⟨given, all, marks⟩ := except_foldlM_consume turns first parsed
  rw [List.append_nil] at all
  rw [marks, ← all]
  exact Iff.rfl

/-- A priority that is not marked was left alone. -/
theorem parse_priority (parsed : cpsParseEntryObj p sw table obj old = .ok st)
    (clean : st.1.isAttrDirty .entryPriority = false) : st.1.priority = old.priority := by
  have kept : st.1.isAttrDirty .entryPriority = false → st.1.priority = old.priority := by
    refine except_foldlM_invariant (P := fun st => st.1.isAttrDirty .entryPriority = false →
      st.1.priority = old.priority) (fun st attr st' pre turn clean => ?_) (fun _ => rfl) parsed
    by_cases isPriority : attr.id = .entryPriority
    · cases clean.symm.trans (parseEntryAttr_priority isPriority turn)
    · obtain ⟨same, mark⟩ := (parseEntryAttr_others turn).1 isPriority
      exact same.trans (pre (mark.symm.trans clean))
  exact kept clean

/-- The NPUs are those the entry had, or it has some of its own. -/
theorem parse_npus (parsed : cpsParseEntryObj p sw table obj old = .ok st) :
    (listedNpus obj = [] ∧ st.2 = false ∧ st.1.base.npus = old.base.npus ∧
        st.1.followingTableNpus = old.followingTableNpus) ∨
      (listedNpus obj ≠ [] ∧ st.2 = true ∧ st.1.followingTableNpus = false) := by
  have whole := except_foldlM_consume (g := attrNpus)
    (J := fun rest (st : NasAclEntry × Bool) => ∃ given, listedNpus obj ++ [] = given ++ rest ∧
      ((given = [] ∧ st.2 = false ∧ st.1.base.npus = old.base.npus ∧
          st.1.followingTableNpus = old.followingTableNpus) ∨
        (given ≠ [] ∧ st.2 = true ∧ st.1.followingTableNpus = false)))
    (fun attr rest st st' pre turn => ?_) ⟨[], rfl, .inl ⟨rfl, rfl, rfl, rfl⟩⟩ parsed
  · obtain ⟨given, listed, cases_⟩ := whole
    rw [List.append_nil, List.append_nil] at listed
    rw [listed]
    exact cases_
  · obtain ⟨given, listed, cases_⟩ := pre
    refine ⟨given ++ attrNpus attr, by rw [listed, List.append_assoc], ?_⟩
    by_cases isNpu : attr.id = .entryNpuIdList
    · have given_ : st' = (st.1.addNpu attr.dataU32, true) := by
        unfold parseEntryAttr at turn
        rw [isNpu] at turn
        exact (Except.ok.inj turn).symm
      rw [attrNpus, if_pos isNpu, given_]
      exact .inr ⟨List.append_ne_nil_of_right_ne_nil _ (List.cons_ne_nil _ _), rfl, rfl⟩
    · obtain ⟨npus, following, named⟩ := (parseEntryAttr_others turn).2.2 isNpu
      rw [attrNpus, if_neg isNpu, List.append_nil, npus, following, named]
      exact cases_

/-- The actions are those the entry had, or those the request lists. -/
theorem parse_actions (clean : old.isAttrDirty .entryAction = false)
    (parsed : cpsParseEntryObj p sw table obj old = .ok st) :
    (requestActions p obj = [] ∧ st.1.isAttrDirty .entryAction = false ∧
        st.1.alist = old.alist) ∨
      (requestActions p obj ≠ [] ∧ st.1.isAttrDirty .entryAction = true ∧
        st.1.alist = Keyed.ofItems (requestActions p obj)) := by
  have whole := except_foldlM_consume (g := attrActions p obj)
    (J := fun rest (st : NasAclEntry × Bool) => ∃ given, requestActions p obj ++ [] = given ++ rest ∧
      ((given = [] ∧ st.1.isAttrDirty .entryAction = false ∧ st.1.alist = old.alist) ∨
        (given ≠ [] ∧ st.1.isAttrDirty .entryAction = true ∧
          st.1.alist = Keyed.ofItems given)))
    (fun attr rest st st' pre turn => ?_) ⟨[], rfl, .inl ⟨rfl, clean, rfl⟩⟩ parsed
  · obtain ⟨given, listed, cases_⟩ := whole
    rw [List.append_nil, List.append_nil] at listed
    rw [listed]
    exact cases_
  · obtain ⟨given, listed, cases_⟩ := pre
    refine ⟨given ++ attrActions p obj attr, by rw [listed, List.append_assoc], ?_⟩
    by_cases isAction : attr.id = .entryAction
    · obtain ⟨l, read, -, rfl⟩ := (parseEntryAttr_action isAction).mp turn
      have here : attrActions p obj attr = l := by
        rw [attrActions, if_pos isAction, (except_mapM_ok.mp read).2]
      rw [here]
      by_cases none_ : l = []
      · rw [none_, List.append_nil, giveActions_nil]
        exact cases_
      · refine .inr ⟨List.append_ne_nil_of_right_ne_nil _ none_, giveActions_dirty none_, ?_⟩
        rw [giveActions, if_neg none_]
        obtain ⟨rfl, clean', -⟩ | ⟨some_, dirty, held⟩ := cases_
        · have cleared : (st.1.resetActions true).alist = .empty := by
            rw [resetActions, clean']
            rfl
          rw [cleared]
          rfl
        · rw [resetActions_of_dirty dirty, held]
          exact (List.foldl_append ..).symm
    · obtain ⟨actions, mark⟩ := (parseEntryAttr_others turn).2.1 isAction
      rw [attrActions, if_neg isAction, List.append_nil, actions, mark]
      exact cases_

/-- A filter that is listed was read. -/
theorem requestFilters_read {f : NasAclFilter} (listed : f ∈ requestFilters p obj) :
    ∃ v path, readFilter p obj v path = .ok f := by
  obtain ⟨attr, -, here⟩ := List.mem_flatMap.mp listed
  unfold attrFilters at here
  split at here
  · rw [← List.filterMap_eq_flatMap_toList] at here
    obtain ⟨elem, -, found⟩ := List.mem_filterMap.mp here
    obtain ⟨v, -, read⟩ := except_bind_ok.mp (except_toOption.mp found)
    exact ⟨v, _, read⟩
  · cases here

theorem requestActions_read {a : NasAclAction} (listed : a ∈ requestActions p obj) :
    ∃ v path, readAction p obj v path = .ok a := by
  obtain ⟨attr, -, here⟩ := List.mem_flatMap.mp listed
  unfold attrActions at here
  split at here
  · obtain ⟨elem, -, found⟩ := List.mem_filterMap.mp here
    obtain ⟨v, -, read⟩ := except_bind_ok.mp (except_toOption.mp found)
    exact ⟨v, _, read⟩
  · cases here

theorem actionsRead_listed (same : e.alist = Keyed.ofItems (requestActions p obj)) :
    ActionsRead p e := by
  intro t a found
  rw [same] at found
  obtain ⟨v, path, read⟩ := requestActions_read (Keyed.mem_of_find_ofItems found)
  exact ⟨obj, v, path, read⟩

/-- The NPUs of the last filter of a list that has ports. -/
def lastPortNpus (p : Platform) (l : List NasAclFilter) : NpuSet :=
  (l.filter (·.isNpuSpecific)).getLast?.elim ∅ (·.npus p)

theorem lastPortNpus_concat (l : List NasAclFilter) (f : NasAclFilter) :
    lastPortNpus p (l ++ [f]) = if f.isNpuSpecific then f.npus p else lastPortNpus p l := by
  unfold lastPortNpus
  rw [List.filter_append]
  cases tied : f.isNpuSpecific with
  | true =>
      rw [List.filter_cons_of_pos tied, List.filter_nil, List.getLast?_concat, if_pos rfl]
      rfl
  | false =>
      have free : ¬ f.isNpuSpecific = true := fun there => Bool.false_ne_true (tied.symm.trans there)
      rw [List.filter_cons_of_neg free, List.filter_nil, List.append_nil, if_neg Bool.false_ne_true]

/-- The filters are those the entry had, or those the request lists. -/
theorem parse_filters (clean : old.isAttrDirty .entryMatch = false)
    (parsed : cpsParseEntryObj p sw table obj old = .ok st) :
    (requestFilters p obj = [] ∧ st.1.isAttrDirty .entryMatch = false ∧
        st.1.flist = old.flist ∧ st.1.filterNpus = old.filterNpus) ∨
      (requestFilters p obj ≠ [] ∧ st.1.isAttrDirty .entryMatch = true ∧
        (st.1.flist = Keyed.ofItems (requestFilters p obj) ∧
          st.1.filterNpus = lastPortNpus p (requestFilters p obj)) ∧
        ∀ t f, st.1.flist.find t = some f → f.Accepted p table) := by
  let J (rest : List NasAclFilter) (e : NasAclEntry) : Prop :=
    ∃ given, requestFilters p obj = given ++ rest ∧
      ((given = [] ∧ e.isAttrDirty .entryMatch = false ∧ e.flist = old.flist ∧
          e.filterNpus = old.filterNpus) ∨
        (given ≠ [] ∧ e.isAttrDirty .entryMatch = true ∧
          (e.flist = Keyed.ofItems given ∧ e.filterNpus = lastPortNpus p given) ∧
          ∀ t f, e.flist.find t = some f → f.Accepted p table))
  have kept : KeptByFilters p table J :=
    { added := fun {f rest e e'} before _ added => by
        obtain ⟨given, listed, cases_⟩ := before
        have again : e.addFilter p table f true = (e.resetFilters true).addFilter p table f false := rfl
        rw [again] at added
        obtain ⟨fits, -, rfl⟩ := addFilter_over_iff.mp added
        have here : f ∈ requestFilters p obj := by
          rw [listed]
          exact List.mem_append_right _ (List.mem_cons_self ..)
        obtain ⟨v, path, read⟩ := requestFilters_read here
        -- What stands before the filter is what was given, and nothing of the old entry.
        have reset : (e.resetFilters true).flist = Keyed.ofItems given ∧
            (e.resetFilters true).filterNpus = lastPortNpus p given ∧
            ∀ t g, (e.resetFilters true).flist.find t = some g → g.Accepted p table := by
          obtain ⟨rfl, clean, -⟩ | ⟨-, dirty, ⟨filters, npus⟩, held⟩ := cases_
          · rw [resetFilters, clean]
            exact ⟨rfl, rfl, fun t g found => by cases found⟩
          · rw [resetFilters_of_dirty dirty]
            exact ⟨filters, npus, held⟩
        obtain ⟨filters, npus, held⟩ := reset
        refine ⟨given ++ [f], by rw [listed, List.append_assoc, List.singleton_append],
          .inr ⟨List.append_ne_nil_of_right_ne_nil _ (List.cons_ne_nil _ _),
            isAttrDirty_markAttrDirty .entryMatch _, ⟨?_, ?_⟩, fun t g found => ?_⟩⟩
        · rw [Keyed.ofItems_concat, ← filters]
        · rw [lastPortNpus_concat, ← npus]
        · rw [Keyed.find_put] at found
          split at found
          · cases found
            exact ⟨⟨_, _, _, read⟩, fits.allowed, fun _ => fits.inTable⟩
          · exact held t g found
      others := fun {rest e e'} before filters cache mark => by
        obtain ⟨given, listed, cases_⟩ := before
        refine ⟨given, listed, ?_⟩
        rw [filters, cache, mark]
        exact cases_ }
  obtain ⟨given, listed, cases_⟩ := parse_keeps kept ⟨[], rfl, .inl ⟨rfl, clean, rfl, rfl⟩⟩ parsed
  rw [List.append_nil] at listed
  rw [listed]
  exact cases_

/-- A clean entry is read as the one the request asks for. -/
theorem parse_asked (clean : ∀ a, old.isAttrDirty a = false) (fresh : old.base.npusDirty = false)
    (parsed : cpsParseEntryObj p sw table obj old = .ok st) :
    st.1.flist = (old.given p obj).flist ∧ st.1.alist = (old.given p obj).alist ∧
      st.1.npuList = (old.given p obj).npuList := by
  have npus : st.1.base.npus = (old.given p obj).base.npus := (parse_given fresh parsed).npus
  have actions : st.1.alist = (old.given p obj).alist := by
    unfold given
    obtain ⟨none_, -, same⟩ | ⟨some_, -, same⟩ := parse_actions (clean _) parsed
    · simp only [none_, if_true, same]
    · simp only [if_neg some_, same]
  have filters : st.1.flist = (old.given p obj).flist ∧
      st.1.filterNpus = (old.given p obj).filterNpus := by
    unfold given
    obtain ⟨none_, -, same⟩ | ⟨some_, -, same, -⟩ := parse_filters (clean _) parsed
    · simp only [none_, if_true]
      exact same
    · simp only [if_neg some_]
      exact same
  refine ⟨filters.1, actions, ?_⟩
  unfold npuList
  rw [filters.2, npus]

end Carried

end SonicNasAcl
