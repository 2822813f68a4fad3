/-
# Reordered -- the elements of a list in another order

What a request describes, with the order of its elements left out, is `Describes`: the
filters of a match list that the table takes, each by itself, and the actions.  Reading the
request is more than that by one thing only, that no port filter comes after one that has
ports (`parse_iff`), and elements in another order describe the same (`describes_iff`).

* `get_reordered`: a path into a list leads to the same element;
* `parse_iff` and `describes_iff`: the two halves;
* `run_stands_iff`, `stands_reordered`: so a request succeeds when what it describes stands,
  in any order, and its port filters come in a good one;
* `sameOutcome_iff`: two requests of which the same stands.
-/
import SonicNasAcl.EntryRuns
import SonicNasAcl.Invariants
import SonicNasAcl.ListEdits

namespace SonicNasAcl

set_option autoImplicit false

open Lib

/-! ## Lists in another order -/

/-- A match list or an action list with its elements in another order; any other attribute
as it is. -/
structure CpsAttr.Reordered (a b : CpsAttr) : Prop where
  id : b.id = a.id
  value : b.value = a.value
  elements : b.inside.Perm a.inside
  others : a.id ≠ .entryMatch → a.id ≠ .entryAction → b = a

/-- One match list at most, and in every list elements of different types under different
indices. -/
structure PlainLists (obj : List CpsAttr) : Prop where
  single : (obj.filter fun a => a.id = .entryMatch).length ≤ 1
  indices : ∀ it ∈ obj, it.id = .entryMatch ∨ it.id = .entryAction → (it.inside.map Tlv.id).Nodup
  matchTypes : ∀ it ∈ obj, it.id = .entryMatch → (elementTypes .entryMatchType "MATCH" it).Nodup
  actionTypes : ∀ it ∈ obj, it.id = .entryAction →
    (elementTypes .entryActionType "ACTION" it).Nodup

section Objects

variable {obj obj' : List CpsAttr}

theorem PlainLists.reordered (lists : PlainLists obj)
    (reordered : List.Forall₂ CpsAttr.Reordered obj obj') : PlainLists obj' := by
  have back {P : CpsAttr → Prop} (all : ∀ it ∈ obj, P it)
      (kept : ∀ a b, CpsAttr.Reordered a b → P a → P b) : ∀ it ∈ obj', P it := by
    clear lists
    induction reordered with
    | nil => exact List.forall_mem_nil _
    | cons here _ ih =>
        obtain ⟨first, all⟩ := List.forall_mem_cons.mp all
        exact List.forall_mem_cons.mpr ⟨kept _ _ here first, ih all⟩
  constructor
  · have same : (obj'.filter fun a => a.id = .entryMatch).length
        = (obj.filter fun a => a.id = .entryMatch).length := by
      clear lists back
      induction reordered with
      | nil => rfl
      | cons here _ ih =>
          simp only [List.filter_cons, here.id]
          split
          · rw [List.length_cons, List.length_cons, ih]
          · exact ih
    exact same ▸ lists.single
  · refine back lists.indices fun a b here all list => ?_
    exact ((here.elements.map Tlv.id).nodup_iff).mpr (all (here.id ▸ list))
  · refine back lists.matchTypes fun a b here all list => ?_
    exact ((here.elements.filterMap _).nodup_iff).mpr (all (here.id ▸ list))
  · refine back lists.actionTypes fun a b here all list => ?_
    exact ((here.elements.filterMap _).nodup_iff).mpr (all (here.id ▸ list))

/-- The first attribute with an id is the same one, reordered. -/
theorem find_reordered (reordered : List.Forall₂ CpsAttr.Reordered obj obj') (a : AttrId) :
    (Tlv.find a obj = none ∧ Tlv.find a obj' = none) ∨
      ∃ t t', Tlv.find a obj = some t ∧ Tlv.find a obj' = some t' ∧ CpsAttr.Reordered t t' := by
  unfold Tlv.find
  induction reordered with
  | nil => exact .inl ⟨rfl, rfl⟩
  | @cons t t' rest rest' here _ ih =>
      by_cases named : t.id = a
      · refine .inr ⟨t, t', List.find?_cons_of_pos (decide_eq_true named),
          List.find?_cons_of_pos (decide_eq_true (here.id.trans named)), here⟩
      · have skip {u : CpsAttr} {l : List CpsAttr} (other : ¬ u.id = a) :
            (u :: l).find? (fun t => t.id = a) = l.find? fun t => t.id = a :=
          List.find?_cons_of_neg fun same => other (of_decide_eq_true same)
        rw [skip named, skip (here.id ▸ named)]
        exact ih

/-- A path into a list leads to the same element. -/
theorem get_reordered (lists : PlainLists obj)
    (reordered : List.Forall₂ CpsAttr.Reordered obj obj') {a : AttrId}
    (listed : a = .entryMatch ∨ a = .entryAction) (b : AttrId) (path : List AttrId) :
    Tlv.get (a :: b :: path) obj' = Tlv.get (a :: b :: path) obj := by
  change (Tlv.find a obj').bind _ = (Tlv.find a obj).bind _
  obtain ⟨none_, none_'⟩ | ⟨t, t', found, found', here⟩ := find_reordered reordered a
  · rw [none_, none_']
  · rw [found, found', Option.bind_some, Option.bind_some]
    have named : t.id = a := of_decide_eq_true (List.find?_some found :)
    have indices := lists.indices t (List.mem_of_find?_eq_some found) (named ▸ listed)
    have element := Tlv.find_perm indices here.elements b
    cases path with
    | nil => exact element
    | cons c rest =>
        change (Tlv.find b t'.inside).bind _ = (Tlv.find b t.inside).bind _
        rw [element]

end Objects

/-! ## Reading along paths -/

section Paths

variable {p : Platform} {obj obj' : List CpsAttr} {path : List AttrId}

/-- A value is looked for along paths only. -/
theorem copyDataFromObj_congr (inner : path ≠ [])
    (same : ∀ rest, Tlv.get (path ++ rest) obj' = Tlv.get (path ++ rest) obj) (d : MapData)
    (childList : List MapData) (name : String) :
    copyDataFromObj p obj' path d childList name = copyDataFromObj p obj path d childList name := by
  have here : Tlv.get path obj' = Tlv.get path obj := by
    have := same []
    rwa [List.append_nil] at this
  have item (rest : List AttrId) (d : MapData) :
      getDataFromObj p obj' (path ++ rest) d name = getDataFromObj p obj (path ++ rest) d name := by
    unfold getDataFromObj
    rw [same rest]
  have children (rest : List AttrId) (l : List MapData) :
      getChildAttrsFromObj p obj' (path ++ rest) l name
        = getChildAttrsFromObj p obj (path ++ rest) l name := by
    unfold getChildAttrsFromObj
    simp only [List.append_assoc, item]
  unfold copyDataFromObj copyIflistDataFromObj copyNonIflistDataFromObj getChildListFromObj
  simp only [inner, if_false, here, same, item, List.append_assoc, children]

theorem readFilter_congr (inner : path ≠ [])
    (same : ∀ rest, Tlv.get (path ++ rest) obj' = Tlv.get (path ++ rest) obj) (v : UInt32) :
    readFilter p obj' v path = readFilter p obj v path := by
  unfold readFilter
  simp only [copyDataFromObj_congr inner same]

theorem readAction_congr (inner : path ≠ [])
    (same : ∀ rest, Tlv.get (path ++ rest) obj' = Tlv.get (path ++ rest) obj) (v : UInt32) :
    readAction p obj' v path = readAction p obj v path := by
  unfold readAction
  simp only [copyDataFromObj_congr inner same]

theorem elementFilter_reordered (lists : PlainLists obj)
    (reordered : List.Forall₂ CpsAttr.Reordered obj obj') :
    elementFilter p obj' = elementFilter p obj := by
  funext elem
  unfold elementFilter
  refine congrArg (elementType .entryMatchType "MATCH" elem >>= ·) (funext fun v => ?_)
  have same (rest : List AttrId) :
      Tlv.get ([.entryMatch, elem.id] ++ rest) obj' = Tlv.get ([.entryMatch, elem.id] ++ rest) obj :=
    get_reordered lists reordered (.inl rfl) elem.id rest
  exact readFilter_congr (List.cons_ne_nil _ _) same v

theorem elementAction_reordered (lists : PlainLists obj)
    (reordered : List.Forall₂ CpsAttr.Reordered obj obj') :
    elementAction p obj' = elementAction p obj := by
  funext elem
  unfold elementAction
  refine congrArg (elementType .entryActionType "ACTION" elem >>= ·) (funext fun v => ?_)
  have same (rest : List AttrId) :
      Tlv.get ([.entryAction, elem.id] ++ rest) obj' = Tlv.get ([.entryAction, elem.id] ++ rest) obj :=
    get_reordered lists reordered (.inr rfl) elem.id rest
  exact readAction_congr (List.cons_ne_nil _ _) same v

end Paths

/-! ## What a request describes -/

/-- What an attribute asks for, if the filters of a list are taken each by itself. -/
def AttrDescribes (p : Platform) (sw : NasAclSwitch) (table : NasAclTable) (obj : List CpsAttr)
    (attr : CpsAttr) (st st' : NasAclEntry × Bool) : Prop :=
  if attr.id = .entryMatch then
    ∃ fs, attr.inside.mapM (elementFilter p obj) = .ok fs ∧ (∀ f ∈ fs, f.Fits p table) ∧
      st' = (st.1.giveFilters p fs, st.2)
  else parseEntryAttr p sw table obj st attr = .ok st'

/-- What a request asks for, attribute by attribute. -/
def Describes (p : Platform) (sw : NasAclSwitch) (table : NasAclTable) (obj : List CpsAttr)
    (e : NasAclEntry) (st : NasAclEntry × Bool) : Prop :=
  Along (AttrDescribes p sw table obj) obj (e, false) st

section Describing

variable {p : Platform} {sw : NasAclSwitch} {table : NasAclTable} {obj obj' attrs : List CpsAttr}
  {e : NasAclEntry} {st st' : NasAclEntry × Bool} {attr : CpsAttr}

theorem parseEntryAttr_match (isMatch : attr.id = .entryMatch) :
    parseEntryAttr p sw table obj st attr = .ok st' ↔
      ∃ fs, attr.inside.mapM (elementFilter p obj) = .ok fs ∧
        ∃ e', addFilters p table fs st.1 = .ok e' ∧ st' = (e', st.2) := by
  unfold parseEntryAttr
  rw [isMatch]
  simp only [except_bind_ok, setMatchList_iff, Except.ok.injEq, @eq_comm (NasAclEntry × Bool) _ st']
  constructor
  · rintro ⟨e', ⟨fs, read, added⟩, rfl⟩
    exact ⟨fs, read, e', added, rfl⟩
  · rintro ⟨fs, read, e', added, rfl⟩
    exact ⟨e', ⟨fs, read, added⟩, rfl⟩

theorem parseEntryAttr_action (isAction : attr.id = .entryAction) :
    parseEntryAttr p sw table obj st attr = .ok st' ↔
      ∃ l, attr.inside.mapM (elementAction p obj) = .ok l ∧
        (∀ a ∈ l, KnownCounter sw st.1.tableId a) ∧ st' = (st.1.giveActions l, st.2) := by
  unfold parseEntryAttr
  rw [isAction]
  simp only [except_bind_ok, setActionList_iff, NasAclEntry.addActions_iff, Except.ok.injEq,
    @eq_comm (NasAclEntry × Bool) _ st']
  constructor
  · rintro ⟨_, ⟨l, read, known, rfl⟩, rfl⟩
    exact ⟨l, read, known, rfl⟩
  · rintro ⟨l, read, known, rfl⟩
    exact ⟨_, ⟨l, read, known, rfl⟩, rfl⟩

/-- Only a match list marks the filters. -/
theorem parseEntryAttr_clean (other : attr.id ≠ .entryMatch)
    (clean : st.1.isAttrDirty .entryMatch = false)
    (parsed : parseEntryAttr p sw table obj st attr = .ok st') :
    st'.1.isAttrDirty .entryMatch = false := by
  have kept : KeptByFilters p table fun rest e => rest = [] ∧ e.isAttrDirty .entryMatch = false :=
    { added := fun before => by cases before.1
      others := fun before _ _ mark => ⟨before.1, mark.trans before.2⟩ }
  have none_ : attrFilters p obj attr ++ [] = [] := by
    rw [attrFilters, if_neg other]
    rfl
  exact (parseEntryAttr_keeps kept ⟨none_, clean⟩ parsed).2

theorem flatMap_attrFilters_nil (others : ∀ attr ∈ attrs, attr.id ≠ .entryMatch) :
    attrs.flatMap (attrFilters p obj) = [] :=
  List.flatMap_eq_nil_iff.mpr fun attr mem => if_neg (others attr mem)

/-- Beside the one match list there is no other. -/
theorem others_of_single (isMatch : attr.id = .entryMatch)
    (single : ((attr :: attrs).filter fun a => a.id = .entryMatch).length ≤ 1) :
    ∀ a ∈ attrs, a.id ≠ .entryMatch := by
  intro a mem same
  have listed : a ∈ attrs.filter fun a => a.id = .entryMatch :=
    List.mem_filter.mpr ⟨mem, decide_eq_true same⟩
  have := List.length_pos_of_mem listed
  simp only [List.filter_cons, isMatch, decide_true, if_true, List.length_cons] at single
  omega

/-- Without a match list there is nothing to leave out. -/
theorem parse_others (others : ∀ attr ∈ attrs, attr.id ≠ .entryMatch) :
    attrs.foldlM (parseEntryAttr p sw table obj) st = .ok st' ↔
      Along (AttrDescribes p sw table obj) attrs st st' := by
  rw [except_foldlM_ok]
  refine Along.congr ?_
  induction attrs with
  | nil => exact .nil
  | cons attr rest ih =>
      obtain ⟨here, others⟩ := List.forall_mem_cons.mp others
      refine .cons (fun st st' => ?_) (ih others)
      rw [AttrDescribes, if_neg here]

/-- The attributes are read when what they describe is described, with no port filter after one
that has ports. -/
theorem parseAttrs_iff (single : (attrs.filter fun a => a.id = .entryMatch).length ≤ 1)
    (types : ∀ it ∈ attrs, it.id = .entryMatch → (elementTypes .entryMatchType "MATCH" it).Nodup)
    (clean : st.1.isAttrDirty .entryMatch = false) :
    attrs.foldlM (parseEntryAttr p sw table obj) st = .ok st' ↔
      Along (AttrDescribes p sw table obj) attrs st st' ∧
        PortsLast (attrs.flatMap (attrFilters p obj)) := by
  induction attrs generalizing st with
  | nil =>
      rw [List.foldlM_nil, Along.nil_iff, except_pure, Except.ok.injEq,
        @eq_comm (NasAclEntry × Bool) _ st']
      exact (and_iff_left List.Pairwise.nil).symm
  | cons attr rest ih =>
      obtain ⟨types_here, types⟩ := List.forall_mem_cons.mp types
      rw [List.foldlM_cons, except_bind_ok, Along.cons_iff, List.flatMap_cons]
      by_cases isMatch : attr.id = .entryMatch
      · have others := others_of_single isMatch single
        rw [flatMap_attrFilters_nil others, List.append_nil]
        simp only [AttrDescribes, if_pos isMatch, parseEntryAttr_match isMatch]
        constructor
        · rintro ⟨_, ⟨fs, read, e', added, rfl⟩, parsed⟩
          have apart := filters_apart isMatch (types_here isMatch) read
          obtain ⟨fits, last, rfl⟩ := (NasAclEntry.addFilters_clean clean apart).mp added
          rw [attrFilters_of_read isMatch read]
          exact ⟨⟨_, ⟨fs, read, fits, rfl⟩, (parse_others others).mp parsed⟩, last⟩
        · rintro ⟨⟨_, ⟨fs, read, fits, rfl⟩, path⟩, last⟩
          have apart := filters_apart isMatch (types_here isMatch) read
          rw [attrFilters_of_read isMatch read] at last
          exact ⟨_, ⟨fs, read, _, (NasAclEntry.addFilters_clean clean apart).mpr ⟨fits, last, rfl⟩, rfl⟩,
            (parse_others others).mpr path⟩
      · have skip : attrFilters p obj attr = [] := if_neg isMatch
        have single : (rest.filter fun a => a.id = .entryMatch).length ≤ 1 := by
          simp only [List.filter_cons, isMatch, decide_false, Bool.false_eq_true, if_false] at single
          exact single
        rw [skip, List.nil_append]
        simp only [AttrDescribes, if_neg isMatch]
        constructor
        · rintro ⟨mid, step, parsed⟩
          obtain ⟨path, last⟩ := (ih single types (parseEntryAttr_clean isMatch clean step)).mp parsed
          exact ⟨⟨mid, step, path⟩, last⟩
        · rintro ⟨⟨mid, step, path⟩, last⟩
          exact ⟨mid, step,
            (ih single types (parseEntryAttr_clean isMatch clean step)).mpr ⟨path, last⟩⟩

theorem parse_iff (lists : PlainLists obj) (clean : e.isAttrDirty .entryMatch = false) :
    cpsParseEntryObj p sw table obj e = .ok st ↔
      Describes p sw table obj e st ∧ PortsLast (requestFilters p obj) :=
  parseAttrs_iff lists.single lists.matchTypes clean

/-! ### Elements in another order -/

theorem attrDescribes_reordered (lists : PlainLists obj)
    (reordered : List.Forall₂ CpsAttr.Reordered obj obj') {attr' : CpsAttr} (mem : attr ∈ obj)
    (here : CpsAttr.Reordered attr attr') :
    AttrDescribes p sw table obj attr st st' ↔ AttrDescribes p sw table obj' attr' st st' := by
  unfold AttrDescribes
  rw [here.id]
  by_cases isMatch : attr.id = .entryMatch
  · rw [if_pos isMatch, if_pos isMatch, elementFilter_reordered lists reordered]
    have types := lists.matchTypes attr mem isMatch
    constructor
    · rintro ⟨fs, read, fits, rfl⟩
      obtain ⟨fs', read', perm⟩ := except_mapM_perm here.elements read
      exact ⟨fs', read', fun f mem => fits f (perm.mem_iff.mp mem),
        by rw [NasAclEntry.giveFilters_perm (filters_apart isMatch types read) perm]⟩
    · rintro ⟨fs', read', fits, rfl⟩
      obtain ⟨fs, read, perm⟩ := except_mapM_perm here.elements.symm read'
      exact ⟨fs, read, fun f mem => fits f (perm.mem_iff.mp mem),
        by rw [NasAclEntry.giveFilters_perm (filters_apart isMatch types read) perm.symm]⟩
  · rw [if_neg isMatch, if_neg isMatch]
    by_cases isAction : attr.id = .entryAction
    · rw [parseEntryAttr_action isAction, parseEntryAttr_action (here.id.trans isAction),
        elementAction_reordered lists reordered]
      have types := lists.actionTypes attr mem isAction
      constructor
      · rintro ⟨l, read, known, rfl⟩
        obtain ⟨l', read', perm⟩ := except_mapM_perm here.elements read
        exact ⟨l', read', fun a mem => known a (perm.mem_iff.mp mem),
          by rw [NasAclEntry.giveActions_perm (actions_apart types read) perm]⟩
      · rintro ⟨l', read', known, rfl⟩
        obtain ⟨l, read, perm⟩ := except_mapM_perm here.elements.symm read'
        exact ⟨l, read, fun a mem => known a (perm.mem_iff.mp mem),
          by rw [NasAclEntry.giveActions_perm (actions_apart types read) perm.symm]⟩
    · -- Any other attribute is read without the object.
      rw [here.others isMatch isAction]
      unfold parseEntryAttr
      split
      · rfl
      · exact absurd ‹_› isMatch
      · exact absurd ‹_› isAction
      · rfl
      · rfl

/-- What is described does not depend on the order of the elements. -/
theorem describes_iff (lists : PlainLists obj)
    (reordered : List.Forall₂ CpsAttr.Reordered obj obj') :
    Describes p sw table obj e st ↔ Describes p sw table obj' e st := by
  have each : List.Forall₂ (fun attr attr' => ∀ st st',
      AttrDescribes p sw table obj attr st st' ↔ AttrDescribes p sw table obj' attr' st st')
      obj obj' := by
    have inside := (List.forall₂_and_left obj obj').mpr ⟨fun _ mem => mem, reordered⟩
    refine inside.imp fun attr attr' both st st' => ?_
    exact attrDescribes_reordered lists reordered both.1 both.2
  exact Along.congr each

end Describing

/-! ## Requests in another order -/

/-- The request with other attributes. -/
def Request.withAttrs (attrs : List CpsAttr) (r : Request) : Request :=
  { r with obj := { r.obj with attrs := attrs } }

/-- Either request succeeds just when the other does, and leaves the same switch. -/
def SameOutcome (r r' : Request) (sw : NasAclSwitch) : Prop :=
  ∀ sw', r.run sw = (.returned (.ok ()), sw') ↔ r'.run sw = (.returned (.ok ()), sw')

/-- Nothing refuses what a request describes: its elements can be read and are taken each by
itself, and the entry they make passes its checks, is taken by the NDI and is saved. -/
def Request.Stands (r : Request) (sw sw' : NasAclSwitch) : Prop :=
  r.Takes sw (fun table e st => Describes r.platform sw table r.obj.attrs e st) sw'

section Requests

variable {r : Request} {sw sw' : NasAclSwitch}

/-- A stored entry is clean: the commit has seen to it. -/
theorem keeps_clean : KeepsEntries (fun _ e => e.base.dirtyAttrs = ∅) r sw where
  created _ _ _ := rfl
  changed _ _ _ := rfl

theorem stored_clean {allowed : NasAclSwitch → Request → Prop} (reached : Reached allowed sw)
    {t id : NasObjId} {e : NasAclEntry} (stored : sw.getEntry t id = .ok e) (a : AttrId) :
    e.isAttrDirty a = false := by
  have all := reached_entries (P := fun _ e => e.base.dirtyAttrs = ∅)
    (fun _ _ _ _ => keeps_clean) reached
  obtain ⟨table, -, clean⟩ := all _ _ _ (getEntry_store stored)
  have none_ : e.base.dirtyAttrs = ∅ := clean
  refine decide_eq_false ?_
  rw [none_]
  exact Finset.notMem_empty a

theorem stored_fresh {allowed : NasAclSwitch → Request → Prop} (reached : Reached allowed sw)
    {t id : NasObjId} {e : NasAclEntry} (stored : sw.getEntry t id = .ok e) :
    e.base.npusDirty = false := by
  have all := reached_entries (P := fun _ e => e.base.npusDirty = false)
    (fun _ _ _ _ => ⟨fun _ _ _ => rfl, fun _ _ _ => rfl⟩) reached
  obtain ⟨table, -, fresh⟩ := all _ _ _ (getEntry_store stored)
  exact fresh

/-- Two things that amount to the same, each under a condition of its own. -/
theorem alike_iff {α : Type} {here there stands : α → Prop} {A B : Prop}
    (one : ∀ a, here a ↔ stands a ∧ A) (other : ∀ a, there a ↔ stands a ∧ B) :
    (∀ a, here a ↔ there a) ↔ (A ↔ B) ∨ ¬ ∃ a, stands a := by
  simp only [one, other]
  constructor
  · intro same
    by_cases found : ∃ a, stands a
    · obtain ⟨a, stood⟩ := found
      refine .inl ⟨fun holds => ((same a).mp ⟨stood, holds⟩).2, fun holds => ?_⟩
      exact ((same a).mpr ⟨stood, holds⟩).2
    · exact .inr found
  · rintro (same | never) a
    · rw [same]
    · exact iff_of_false (fun both => never ⟨a, both.1⟩) fun both => never ⟨a, both.1⟩

/-- Two requests that ask for the same. -/
theorem sameOutcome_iff {r' : Request} {stands : NasAclSwitch → Prop} {A B : Prop}
    (here : ∀ sw', r.run sw = (.returned (.ok ()), sw') ↔ stands sw' ∧ A)
    (there : ∀ sw', r'.run sw = (.returned (.ok ()), sw') ↔ stands sw' ∧ B) :
    SameOutcome r r' sw ↔ (A ↔ B) ∨ ¬ ∃ sw', stands sw' := alike_iff here there

/-- A request succeeds when what it describes stands, and no port filter comes after one that
has ports. -/
theorem run_stands_iff {allowed : NasAclSwitch → Request → Prop} (reached : Reached allowed sw)
    (whole : r.Whole) (lists : PlainLists r.obj.attrs) :
    r.run sw = (.returned (.ok ()), sw') ↔
      r.Stands sw sw' ∧ PortsLast (requestFilters r.platform r.obj.attrs) := by
  rw [run_whole_iff whole]
  have fresh (t : NasObjId) : (NasAclEntry.new r.platform t).isAttrDirty .entryMatch = false := rfl
  constructor
  · intro takes
    have last : PortsLast (requestFilters r.platform r.obj.attrs) := by
      obtain ⟨-, table, eid, -, ⟨-, new, read, -⟩ | ⟨-, id, old, new, -, stored, read, -⟩⟩ := takes
      · exact ((parse_iff lists (fresh _)).mp read).2
      · exact ((parse_iff lists (stored_clean reached stored _)).mp read).2
    refine ⟨takes.imp (fun table st read => ?_) fun table id old st stored read => ?_, last⟩
    · exact ((parse_iff lists (fresh _)).mp read).1
    · exact ((parse_iff lists (stored_clean reached stored _)).mp read).1
  · rintro ⟨stands, last⟩
    refine stands.imp (fun table st read => ?_) fun table id old st stored read => ?_
    · exact (parse_iff lists (fresh _)).mpr ⟨read, last⟩
    · exact (parse_iff lists (stored_clean reached stored _)).mpr ⟨read, last⟩

/-- What stands does so in any order. -/
theorem stands_reordered {attrs' : List CpsAttr} (lists : PlainLists r.obj.attrs)
    (reordered : List.Forall₂ CpsAttr.Reordered r.obj.attrs attrs') :
    (r.withAttrs attrs').Stands sw sw' ↔ r.Stands sw sw' := by
  have same (table : NasAclTable) (e : NasAclEntry) (st : NasAclEntry × Bool) :
      Describes r.platform sw table attrs' e st ↔ Describes r.platform sw table r.obj.attrs e st :=
    (describes_iff lists reordered).symm
  change r.Takes sw (fun table e st => Describes r.platform sw table attrs' e st) sw' ↔ _
  constructor
  · exact Request.Takes.imp (fun _ _ => (same _ _ _).mp) fun _ _ _ _ _ => (same _ _ _).mp
  · exact Request.Takes.imp (fun _ _ => (same _ _ _).mpr) fun _ _ _ _ _ => (same _ _ _).mpr

end Requests

/-! ### On the bench -/

theorem plainLists_iff {obj : List CpsAttr} :
    ((obj.filter fun a => a.id = .entryMatch).length ≤ 1 ∧
      (∀ it ∈ obj, it.id = .entryMatch ∨ it.id = .entryAction → (it.inside.map Tlv.id).Nodup) ∧
      (∀ it ∈ obj, it.id = .entryMatch → (elementTypes .entryMatchType "MATCH" it).Nodup) ∧
      ∀ it ∈ obj, it.id = .entryAction → (elementTypes .entryActionType "ACTION" it).Nodup) ↔
    PlainLists obj := by
  constructor
  · rintro ⟨single, indices, matchTypes, actionTypes⟩
    exact ⟨single, indices, matchTypes, actionTypes⟩
  · rintro ⟨single, indices, matchTypes, actionTypes⟩
    exact ⟨single, indices, matchTypes, actionTypes⟩

instance (obj : List CpsAttr) : Decidable (PlainLists obj) := decidable_of_iff _ plainLists_iff

/-- Every list with its elements backwards. -/
def backwards (obj : List CpsAttr) : List CpsAttr :=
  obj.map fun a => .mk a.id a.value a.inside.reverse

theorem reordered_backwards {obj : List CpsAttr}
    (plain : ∀ a ∈ obj, a.id ≠ .entryMatch → a.id ≠ .entryAction → a.inside.length = 0) :
    List.Forall₂ CpsAttr.Reordered obj (backwards obj) := by
  refine (List.forall₂_map_right_iff).mpr (List.forall₂_same.mpr fun a mem => ?_)
  obtain ⟨id, value, inside⟩ := a
  refine ⟨rfl, rfl, List.reverse_perm inside, fun isMatch isAction => ?_⟩
  have none_ : inside = [] := List.length_eq_zero_iff.mp (plain _ mem isMatch isAction)
  simp only [Tlv.id_mk, Tlv.value_mk, Tlv.inside_mk, none_, List.reverse_nil]

/-- Table 1, for the two port filters and a DSCP. -/
def orderTable : List Request := [Bench.createTable [.inPorts, .inPort, .dscp]]

/-- An entry with some filters, and two actions. -/
def orderedEntry (filters : List (List CpsAttr)) : Request :=
  Bench.entryRequest .create
    [Bench.u32 .entryPriority 5, Bench.listAttr .entryMatch filters,
      Bench.listAttr .entryAction
        [Bench.actionElem .egressMask [Bench.u32 (.actionValue .egressMask) 3],
          Bench.actionElem .decrementTtl []]]

end SonicNasAcl
