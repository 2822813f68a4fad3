/-
# Listings -- what a GET without a key lists

A GET that names no object lists the objects of its kind, table after table, in the order
of their ids.  Tables, counters and stats are listed whole.  Of entries this is not so: an
entry with a filter whose list of ports is empty, or with an action whose list of ports or
objects is, cannot be written, and the GET gives up there.

* `getTableInfo_run`, `getCounterAs_run`, `getEntryInfo_run`: one object;
* `mem_entriesIn`, `entriesIn_sorted`: what there is to list, each entry once;
* `tables_listed`, `counters_listed`, `entries_listed`: what a GET lists of it, and when that
  is all.
-/
import SonicNasAcl.CpsRead
import SonicNasAcl.RollbackEntry

namespace SonicNasAcl

set_option autoImplicit false

open Lib

/-! ## Filling -/

namespace Fill

variable {α : Type} {x y : Fill} {body : α → Fill} {l : List α}

/-- What is added, if the filling function returns. -/
def adds (x : Fill) : Adds := (x.toOption.map Prod.fst).getD []

/-- A filling function that returns `b`. -/
def Returns (x : Fill) (b : Bool) : Prop := x = .ok (x.adds, b)

theorem returns_iff {b : Bool} : x.Returns b ↔ ∃ adds, x = .ok (adds, b) := by
  constructor
  · exact fun returns => ⟨_, returns⟩
  · rintro ⟨adds, rfl⟩
    rfl

theorem done_returns : done.Returns true := rfl

theorem one_returns (path : List AttrId) (payload : Tlv.Payload AttrId) :
    (one path payload).Returns true :=
  rfl

theorem Returns.andThen {b b' : Bool} (first : x.Returns b) (second : y.Returns b') :
    (Fill.andThen x y).Returns (b && b') := by
  obtain ⟨adds, rfl⟩ := returns_iff.mp first
  obtain ⟨adds', rfl⟩ := returns_iff.mp second
  cases b with
  | true => exact returns_iff.mpr ⟨_, rfl⟩
  | false => exact returns_iff.mpr ⟨_, rfl⟩

theorem forEach_returns {goes : α → Bool} (turns : ∀ a ∈ l, (body a).Returns (goes a)) :
    (forEach body l).Returns (l.all goes) := by
  induction l with
  | nil => exact done_returns
  | cons a rest ih =>
      obtain ⟨here, turns⟩ := List.forall_mem_cons.mp turns
      exact here.andThen (ih turns)

/-- A loop over additions that cannot fail. -/
theorem forEach_one_returns {path : α → List AttrId} {payload : α → Tlv.Payload AttrId} :
    (forEach (fun a => one (path a) (payload a)) l).Returns true := by
  have turns : ∀ a ∈ l, (one (path a) (payload a)).Returns true := fun _ _ => rfl
  have returns := forEach_returns turns
  rwa [List.all_eq_true.mpr fun _ _ => rfl] at returns

end Fill

/-! ## Maps in their order -/

section InOrder

variable {α : Type} {m : Finmap fun _ : NasObjId => α}

theorem mem_inOrder {a : α} : a ∈ inOrder m ↔ ∃ id, m.lookup id = some a := by
  unfold inOrder
  rw [List.mem_filterMap]
  constructor
  · rintro ⟨id, -, found⟩
    exact ⟨id, found⟩
  · rintro ⟨id, found⟩
    refine ⟨id, (idOrder.mem_visit _ _).mpr (Finmap.mem_keys.mpr ?_), found⟩
    exact Finmap.mem_of_lookup_eq_some found

/-- A map whose values know their keys is listed by these, going up. -/
theorem inOrder_sorted {key : α → NasObjId} (keyed : ∀ id a, m.lookup id = some a → key a = id) :
    (inOrder m).Pairwise fun a b => key a < key b := by
  unfold inOrder
  refine List.Pairwise.filterMap m.lookup (fun id id' below a found a' found' => ?_)
    (Traversal.ofRank_sorted m.keys)
  rw [keyed id a found, keyed id' a' found']
  exact UInt64.lt_iff_toNat_lt.mpr below

end InOrder

/-- The items of a list, in whatever order and under whatever indices. -/
theorem all_items {κ α : Type} [DecidableEq κ] [Fintype κ] {key : α → κ} {l : Keyed key}
    (Bad : α → Prop) [DecidablePred Bad] (order : Traversal κ) :
    ((l.items order).zipIdx.all fun x => !decide (Bad x.1))
      = decide (∀ k, ∀ a ∈ l.find k, ¬ Bad a) := by
  rw [Bool.eq_iff_iff, List.all_eq_true, decide_eq_true_iff]
  constructor
  · intro all k a found bad
    obtain rfl := l.keyed k a found
    have listed : a ∈ l.items order := Keyed.mem_items.mpr found
    obtain ⟨i, at_i⟩ := List.mem_iff_getElem?.mp listed
    have here := all (a, i) (List.mk_mem_zipIdx_iff_getElem?.mpr at_i)
    rw [decide_eq_true bad] at here
    cases here
  · intro none_ x mem
    rw [decide_eq_false (none_ _ x.1 (Keyed.mem_items.mp (mem_of_zipIdx mem)))]
    rfl

/-- What a GET computes before it goes on. -/
theorem Reading.answer {α : Type} {x : Except Exn α} {a : α} (known : x = .ok a)
    (f : α → Reading Unit) : (Eff.query (fun _ => x) >>= f) = f a := by
  rw [known]
  rfl

/-! ## One object -/

/-- An entry that a GET can write: it is on some port wherever it names ports, and on some
object wherever it names objects. -/
def NasAclEntry.Writable (e : NasAclEntry) : Prop :=
  (∀ t, ∀ f ∈ e.flist.find t, ¬ f.EmptyPorts) ∧ ∀ t, ∀ a ∈ e.alist.find t, ¬ a.Empty

instance (e : NasAclEntry) : Decidable e.Writable :=
  inferInstanceAs (Decidable ((∀ t, ∀ f ∈ e.flist.find t, ¬ f.EmptyPorts) ∧
    ∀ t, ∀ a ∈ e.alist.find t, ¬ a.Empty))

/-- The object of a table. -/
def tableObject (p : Platform) (rd : Reader) (t : NasAclTable) : CpsObject :=
  tableKeyFill t (.filled (rd.keyFromAttr .table) (fillTableAttrs p t true).adds)

/-- The object of an entry. -/
def entryObject (p : Platform) (rd : Reader) (e : NasAclEntry) : CpsObject :=
  entryKeyFill e (.filled (rd.keyFromAttr .entry) (fillEntryAttrInfo (rd.reading p e) e true).adds)

/-- The object of a counter, or of its stats. -/
def counterObject (p : Platform) (rd : Reader) (filter : CpsObject) (c : NasAclCounter) :
    CounterView → CpsObject
  | .counter => counterKeyFill c (.filled (rd.keyFromAttr .counter) (fillCounterAttrs p c true).adds)
  | .stats => statsKeyFill c (.filled (rd.keyFromAttr .stats) (fillStats p rd filter c).adds)

section Objects

variable {p : Platform} {rd : Reader} {table : NasAclTable} {e : NasAclEntry}

theorem fillTableAttrs_returns (t : NasAclTable) (explicit : Bool) :
    (fillTableAttrs p t explicit).Returns true := by
  refine (Fill.one_returns _ _).andThen ((Fill.one_returns _ _).andThen
    (Fill.forEach_one_returns.andThen ?_))
  split
  · exact Fill.done_returns
  · exact Fill.forEach_one_returns

theorem fillCounterAttrs_returns (c : NasAclCounter) (explicit : Bool) :
    (fillCounterAttrs p c explicit).Returns true := by
  refine (?_ : Fill.Returns _ true).andThen
    ((?_ : Fill.Returns _ true).andThen (?_ : Fill.Returns _ true))
  · split
    · exact Fill.one_returns _ _
    · exact Fill.done_returns
  · split
    · exact Fill.one_returns _ _
    · exact Fill.done_returns
  · split
    · exact Fill.done_returns
    · exact Fill.forEach_one_returns

theorem fillStats_returns (filter : CpsObject) (c : NasAclCounter) :
    (fillStats p rd filter c).Returns true := by
  refine Fill.forEach_one_returns.andThen ((?_ : Fill.Returns _ true).andThen (?_ : Fill.Returns _ true))
  · split
    · exact Fill.one_returns _ _
    · exact Fill.done_returns
  · split
    · exact Fill.one_returns _ _
    · exact Fill.done_returns

theorem fillMatchAttrList_returns (readable : e.Readable p table) :
    (fillMatchAttrList p e).Returns (decide (∀ t, ∀ f ∈ e.flist.find t, ¬ f.EmptyPorts)) := by
  have turns : ∀ x ∈ (e.flist.items p.matchOrder).zipIdx,
      (fillMatchElement p x.1 x.2).Returns (!decide x.1.EmptyPorts) := fun x mem => by
    obtain ⟨obj, v, path, read⟩ := (readable.filters _ x.1 (Keyed.mem_items.mp (mem_of_zipIdx mem))).read
    exact Fill.returns_iff.mpr ⟨_, fillMatchElement_read read x.2⟩
  rw [← all_items NasAclFilter.EmptyPorts p.matchOrder]
  exact Fill.forEach_returns turns

theorem fillActionAttrList_returns (readable : e.Readable p table) :
    (fillActionAttrList p e).Returns (decide (∀ t, ∀ a ∈ e.alist.find t, ¬ a.Empty)) := by
  have turns : ∀ x ∈ (e.alist.items p.actionOrder).zipIdx,
      (fillActionElement p x.1 x.2).Returns (!decide x.1.Empty) := fun x mem => by
    obtain ⟨obj, v, path, read⟩ := readable.actions _ x.1 (Keyed.mem_items.mp (mem_of_zipIdx mem))
    exact Fill.returns_iff.mpr ⟨_, fillActionElement_read read x.2⟩
  rw [← all_items NasAclAction.Empty p.actionOrder]
  exact Fill.forEach_returns turns

/-- An entry is filled to the end when all its lists have something in them. -/
theorem fillEntryAttrInfo_returns (readable : e.Readable p table) :
    (fillEntryAttrInfo p e true).Returns (decide e.Writable) := by
  have npus : (fillEntryNpus p e true).Returns true := by
    unfold fillEntryNpus
    split
    · exact Fill.done_returns
    · exact Fill.forEach_one_returns
  have all := (Fill.one_returns [.entryPriority] (Tlv.leaf (bytesU32 e.priority))).andThen
    ((fillMatchAttrList_returns readable).andThen ((fillActionAttrList_returns readable).andThen npus))
  rw [Bool.true_and, Bool.and_true, ← Bool.decide_and] at all
  exact all

variable {list : List CpsObject}

theorem getTableInfo_run (t : NasAclTable) :
    getTableInfo p rd t list = (.ok (), list ++ [tableObject p rd t]) := by
  have filled : noexceptFn (fillTableAttrs p t true) = .ok ((fillTableAttrs p t true).adds, true) :=
    congrArg noexceptFn (fillTableAttrs_returns t true)
  unfold getTableInfo
  rw [Reading.answer filled]
  rfl

theorem getCounterAs_run (filter : CpsObject) (c : NasAclCounter) (view : CounterView) :
    getCounterAs p rd filter c view list = (.ok (), list ++ [counterObject p rd filter c view]) := by
  cases view with
  | counter =>
      have filled : noexceptFn (fillCounterAttrs p c true)
          = .ok ((fillCounterAttrs p c true).adds, true) :=
        congrArg noexceptFn (fillCounterAttrs_returns c true)
      unfold getCounterAs getCounterInfo
      rw [Reading.answer filled]
      rfl
  | stats =>
      have filled : noexceptFn (fillStats p rd filter c) = .ok ((fillStats p rd filter c).adds, true) :=
        congrArg noexceptFn (fillStats_returns filter c)
      unfold getCounterAs statsInfoGet
      rw [Reading.answer filled]
      rfl

theorem getEntryInfo_run (readable : e.Readable (rd.reading p e) table) :
    getEntryInfo p rd e list
      = if decide e.Writable then (.ok (), list ++ [entryObject p rd e])
        else (.error (.base .mem ""), list) := by
  unfold getEntryInfo
  rw [Reading.answer (fillEntryAttrInfo_returns readable)]
  cases decide e.Writable with
  | true => rfl
  | false => rfl

end Objects

/-! ## What there is to list -/

namespace NasAclSwitch

/-- The entries of a table, in their order. -/
def entriesOf (sw : NasAclSwitch) (t : NasObjId) : List NasAclEntry :=
  ((sw.tableContainers.lookup t).map fun c => inOrder c.aclEntries).getD []

/-- The counters of a table, in their order. -/
def countersOf (sw : NasAclSwitch) (t : NasObjId) : List NasAclCounter :=
  ((sw.tableContainers.lookup t).map fun c => inOrder c.aclCounters).getD []

/-- The tables that a GET goes through: the one it names, or all. -/
def tablesIn (sw : NasAclSwitch) (scope : Option NasObjId) : List NasAclTable :=
  match scope with
  | none => inOrder sw.tables
  | some t => (sw.tables.lookup t).toList

/-- The entries of these tables. -/
def entriesIn (sw : NasAclSwitch) (scope : Option NasObjId) : List NasAclEntry :=
  (sw.tablesIn scope).flatMap fun t => sw.entriesOf t.tableId

/-- The counters of these tables. -/
def countersIn (sw : NasAclSwitch) (scope : Option NasObjId) : List NasAclCounter :=
  (sw.tablesIn scope).flatMap fun t => sw.countersOf t.tableId

end NasAclSwitch

/-- The order of a listing: by table, and in a table by id. -/
def Before (tableId id tableId' id' : NasObjId) : Prop :=
  tableId < tableId' ∨ tableId = tableId' ∧ id < id'

section Lists

variable {sw : NasAclSwitch} {scope : Option NasObjId} {t id : NasObjId}

theorem container_isSome (consistent : sw.store.Consistent) :
    (sw.tableContainers.lookup t).isSome ↔ (sw.tables.lookup t).isSome := by
  have same := consistent.sameKeys t
  rw [NasAclSwitch.store_tables, NasAclSwitch.store_containers, Option.isSome_map,
    Option.isSome_map] at same
  exact same.symm

theorem getTable_of_container (consistent : sw.store.Consistent) {c : AclTableContainer}
    (held : sw.tableContainers.lookup t = some c) : ∃ table, sw.getTable t = .ok table := by
  obtain ⟨table, found⟩ := Option.isSome_iff_exists.mp
    ((container_isSome consistent).mp (Option.isSome_of_eq_some held))
  exact ⟨table, getTable_ok.mpr found⟩

theorem container_of_getTable (consistent : sw.store.Consistent) {table : NasAclTable}
    (known : sw.getTable t = .ok table) : ∃ c, sw.tableContainers.lookup t = some c :=
  Option.isSome_iff_exists.mp
    ((container_isSome consistent).mpr (Option.isSome_of_eq_some (getTable_ok.mp known)))

theorem mem_tablesIn (consistent : sw.store.Consistent) {table : NasAclTable} :
    table ∈ sw.tablesIn scope ↔
      (∀ t ∈ scope, table.tableId = t) ∧ sw.getTable table.tableId = .ok table := by
  have own {t : NasObjId} (found : sw.tables.lookup t = some table) : table.tableId = t :=
    tableId_of_getTable consistent (getTable_ok.mpr found)
  cases scope with
  | none =>
      unfold NasAclSwitch.tablesIn
      rw [mem_inOrder]
      constructor
      · rintro ⟨t, found⟩
        have named : ∀ t' ∈ (none : Option NasObjId), table.tableId = t' := fun t' absent => by
          cases absent
        refine ⟨named, ?_⟩
        rw [own found]
        exact getTable_ok.mpr found
      · rintro ⟨-, known⟩
        exact ⟨_, getTable_ok.mp known⟩
  | some t =>
      unfold NasAclSwitch.tablesIn
      rw [Option.mem_toList]
      constructor
      · intro found
        refine ⟨fun _ same => Option.some.inj same ▸ own found, ?_⟩
        rw [own found]
        exact getTable_ok.mpr found
      · rintro ⟨named, known⟩
        rw [← named t rfl]
        exact getTable_ok.mp known

theorem tablesIn_sorted (consistent : sw.store.Consistent) :
    (sw.tablesIn scope).Pairwise fun a b => a.tableId < b.tableId := by
  cases scope with
  | none => exact inOrder_sorted fun t table found =>
      tableId_of_getTable consistent (getTable_ok.mpr found)
  | some t =>
      change ((sw.tables.lookup t).toList).Pairwise _
      cases sw.tables.lookup t with
      | none => exact List.Pairwise.nil
      | some table => exact List.pairwise_singleton _ _

section Scope

variable {α : Type} {of : NasObjId → List α} {tableId id : α → NasObjId}

/-- What the tables in the scope hold. -/
theorem mem_inScope (consistent : sw.store.Consistent) (mine : ∀ t, ∀ a ∈ of t, tableId a = t)
    (there : ∀ t, ∀ a ∈ of t, ∃ table, sw.getTable t = .ok table) {a : α} :
    a ∈ (sw.tablesIn scope).flatMap (fun t => of t.tableId) ↔
      (∀ t ∈ scope, tableId a = t) ∧ a ∈ of (tableId a) := by
  rw [List.mem_flatMap]
  constructor
  · rintro ⟨table, here, inside⟩
    obtain ⟨named, -⟩ := (mem_tablesIn consistent).mp here
    rw [mine _ a inside]
    exact ⟨named, inside⟩
  · rintro ⟨named, inside⟩
    obtain ⟨table, known⟩ := there _ a inside
    have own := tableId_of_getTable consistent known
    refine ⟨table, (mem_tablesIn consistent).mpr ⟨fun t mem => own.trans (named t mem), ?_⟩, ?_⟩
    · rw [own]
      exact known
    · rw [own]
      exact inside

/-- It goes up, if what each table holds does. -/
theorem inScope_sorted (consistent : sw.store.Consistent) (mine : ∀ t, ∀ a ∈ of t, tableId a = t)
    (up : ∀ t, (of t).Pairwise fun a b => id a < id b) :
    ((sw.tablesIn scope).flatMap fun t => of t.tableId).Pairwise fun a b =>
      Before (tableId a) (id a) (tableId b) (id b) := by
  refine List.pairwise_flatMap.mpr ⟨fun table _ => ?_, ?_⟩
  · refine List.Pairwise.imp_of_mem (fun inA inB below => ?_) (up table.tableId)
    exact .inr ⟨(mine _ _ inA).trans (mine _ _ inB).symm, below⟩
  · refine (tablesIn_sorted consistent).imp fun below a inA b inB => ?_
    rw [← mine _ _ inA, ← mine _ _ inB] at below
    exact .inl below

end Scope

theorem mem_entriesOf (consistent : sw.store.Consistent) {e : NasAclEntry} :
    e ∈ sw.entriesOf t ↔ e.tableId = t ∧ sw.getEntry t e.entryId = .ok e := by
  have keyed {id : NasObjId} (found : sw.getEntry t id = .ok e) := entryKeyed consistent found
  simp only [getEntry_ok, NasAclSwitch.findEntry, NasAclSwitch.entriesOf] at keyed ⊢
  cases held : sw.tableContainers.lookup t with
  | none =>
      refine iff_of_false List.not_mem_nil ?_
      rintro ⟨-, found⟩
      cases found
  | some c =>
      rw [held] at keyed
      refine mem_inOrder.trans ⟨?_, fun inside => ⟨_, inside.2⟩⟩
      rintro ⟨id, found⟩
      obtain ⟨mine, own⟩ := keyed found
      exact ⟨mine, own ▸ found⟩

theorem entriesOf_sorted (consistent : sw.store.Consistent) :
    (sw.entriesOf t).Pairwise fun a b => a.entryId < b.entryId := by
  have keyed {id : NasObjId} {e : NasAclEntry} (found : sw.findEntry t id = some e) :
      e.entryId = id := (entryKeyed consistent (getEntry_ok.mpr found)).2
  unfold NasAclSwitch.entriesOf
  unfold NasAclSwitch.findEntry at keyed
  cases held : sw.tableContainers.lookup t with
  | none => exact List.Pairwise.nil
  | some c =>
      rw [held] at keyed
      exact inOrder_sorted fun id e found => keyed found

/-- Every entry in the scope is there to be listed, and nothing else. -/
theorem mem_entriesIn (consistent : sw.store.Consistent) {e : NasAclEntry} :
    e ∈ sw.entriesIn scope ↔
      (∀ t ∈ scope, e.tableId = t) ∧ sw.getEntry e.tableId e.entryId = .ok e := by
  refine (mem_inScope consistent (fun t a inside => ((mem_entriesOf consistent).mp inside).1)
    fun t a inside => ?_).trans
    (and_congr_right fun _ => (mem_entriesOf consistent).trans (and_iff_right rfl))
  obtain ⟨c, held, -⟩ := Option.bind_eq_some_iff.mp
    (getEntry_ok.mp ((mem_entriesOf consistent).mp inside).2)
  exact getTable_of_container consistent held

/-- A listing goes up, so it has each entry once. -/
theorem entriesIn_sorted (consistent : sw.store.Consistent) :
    (sw.entriesIn scope).Pairwise fun a b => Before a.tableId a.entryId b.tableId b.entryId :=
  inScope_sorted consistent (fun _ _ inside => ((mem_entriesOf consistent).mp inside).1)
    fun _ => entriesOf_sorted consistent

end Lists

/-! ## Listings -/

/-- A GET at an index that names no object: of everything of a kind, or of what a table that
is there holds. -/
structure GetsAll (sw : NasAclSwitch) (filters : List CpsObject) (index : Nat) (filter : CpsObject)
    (kind : ObjType) (tableKey objKey : KeyAttr) (scope : Option NasObjId) : Prop where
  listed : filters[index]? = some filter
  cat : filter.key.cat = .baseAcl
  ofKind : filter.key.subcat = kind
  inScope : filter.keyGetObjId tableKey = scope
  whole : scope = none ∨ filter.keyGetObjId objKey = none
  known : ∀ t ∈ scope, ∃ table, sw.getTable t = .ok table

section Listings

variable {p : Platform} {rd : Reader} {sw : NasAclSwitch} {filters : List CpsObject} {index : Nat}
  {filter : CpsObject} {scope : Option NasObjId} {list : List CpsObject}

theorem getEntryInfoByTable_eq (consistent : sw.store.Consistent) {t : NasAclTable}
    (known : sw.getTable t.tableId = .ok t) :
    getEntryInfoByTable p rd sw t = (sw.entriesOf t.tableId).forM (getEntryInfo p rd) := by
  obtain ⟨c, held⟩ := container_of_getTable consistent known
  have entries : sw.entryList t.tableId = .ok c.aclEntries := by
    unfold NasAclSwitch.entryList
    rw [held]
  unfold getEntryInfoByTable NasAclSwitch.entriesOf
  rw [Reading.answer entries, held]
  rfl

theorem getCounterInfoByTable_eq (consistent : sw.store.Consistent) {view : CounterView}
    {t : NasAclTable} (known : sw.getTable t.tableId = .ok t) :
    getCounterInfoByTable p rd sw filter view t
      = (sw.countersOf t.tableId).forM fun c => getCounterAs p rd filter c view := by
  obtain ⟨c, held⟩ := container_of_getTable consistent known
  have counters : noexceptFn (sw.counterList t.tableId) = .ok c.aclCounters := by
    unfold NasAclSwitch.counterList
    rw [held]
    rfl
  unfold getCounterInfoByTable NasAclSwitch.countersOf
  rw [Reading.answer counters, held]
  rfl

/-- A loop over the tables in a scope, each of which is there. -/
theorem tables_forM (consistent : sw.store.Consistent) {α : Type} {byTable : NasAclTable → Reading Unit}
    {of : NasObjId → List α} {one : α → Reading Unit}
    (each : ∀ t, sw.getTable t.tableId = .ok t → byTable t = (of t.tableId).forM one) :
    (sw.tablesIn scope).forM byTable
      = ((sw.tablesIn scope).flatMap fun t => of t.tableId).forM one := by
  rw [Eff.forM_flatMap]
  exact Eff.forM_congr fun t mem => each t ((mem_tablesIn consistent).mp mem).2

/-- With a table that is there, its loop is the loop over the tables in the scope. -/
theorem table_forM {t : NasObjId} {table : NasAclTable} (known : sw.getTable t = .ok table)
    (byTable : NasAclTable → Reading Unit) : byTable table = (sw.tablesIn (some t)).forM byTable := by
  have only : sw.tablesIn (some t) = [table] :=
    congrArg Option.toList (show sw.tables.lookup t = some table from getTable_ok.mp known)
  rw [only]
  exact (bind_pure (byTable table)).symm

theorem nasAclGetEntry_eq (consistent : sw.store.Consistent)
    (gets : GetsAll sw filters index filter .entry .entryTableId .entryId scope) :
    nasAclGetEntry p rd sw filter = (sw.entriesIn scope).forM (getEntryInfo p rd) := by
  have all : (sw.tablesIn scope).forM (getEntryInfoByTable p rd sw)
      = (sw.entriesIn scope).forM (getEntryInfo p rd) :=
    tables_forM consistent fun t known => getEntryInfoByTable_eq consistent known
  unfold nasAclGetEntry
  rw [gets.inScope]
  cases scope with
  | none => exact all
  | some t =>
      obtain ⟨table, known⟩ := gets.known t rfl
      have whole : filter.keyGetObjId .entryId = none := gets.whole.resolve_left (by rintro ⟨⟩)
      simp only [whole]
      rw [Reading.answer known]
      exact (table_forM known _).trans all

theorem nasAclGetCounter_eq (consistent : sw.store.Consistent) {kind : ObjType} {view : CounterView}
    (gets : GetsAll sw filters index filter kind view.tableKey view.counterKey scope) :
    nasAclGetCounter p rd sw filter view
      = (sw.countersIn scope).forM fun c => getCounterAs p rd filter c view := by
  have all : (sw.tablesIn scope).forM (getCounterInfoByTable p rd sw filter view)
      = (sw.countersIn scope).forM fun c => getCounterAs p rd filter c view :=
    tables_forM consistent fun t known => getCounterInfoByTable_eq consistent known
  unfold nasAclGetCounter
  rw [gets.inScope]
  cases scope with
  | none => exact all
  | some t =>
      obtain ⟨table, known⟩ := gets.known t rfl
      have whole : filter.keyGetObjId view.counterKey = none :=
        gets.whole.resolve_left (by rintro ⟨⟩)
      simp only [whole]
      rw [Reading.answer known]
      exact (table_forM known _).trans all

/-- A GET of tables that names none lists them all. -/
theorem tables_listed (listed : filters[index]? = some filter) (cat : filter.key.cat = .baseAcl)
    (kind : filter.key.subcat = .table) (whole : filter.keyGetObjId .tableId = none) :
    nasAclCpsApiRead p rd filters index sw list
      = (.returned (.ok ()), list ++ (sw.tablesIn none).map (tableObject p rd)) := by
  have ran : nasAclGetTable p rd sw filter list
      = (.ok (), list ++ (sw.tablesIn none).map (tableObject p rd)) := by
    unfold nasAclGetTable
    rw [whole]
    refine Eff.forM_append (fun t _ list => ?_) list
    unfold Reading.ignoreRc
    rw [getTableInfo_run]
  unfold nasAclCpsApiRead
  simp only [listed, cat, ne_eq, not_true_eq_false, if_false, kind]
  unfold tryReading
  rw [ran]

/-- A GET of counters or of their stats that names none lists them all, each once and in
order. -/
theorem counters_listed {view : CounterView} {kind : ObjType}
    (shown : kind = .counter ∧ view = .counter ∨ kind = .stats ∧ view = .stats)
    (consistent : sw.store.Consistent)
    (gets : GetsAll sw filters index filter kind view.tableKey view.counterKey scope) :
    nasAclCpsApiRead p rd filters index sw list
      = (.returned (.ok ()),
        list ++ (sw.countersIn scope).map fun c => counterObject p rd filter c view) := by
  have ran : nasAclGetCounter p rd sw filter view list
      = (.ok (), list ++ (sw.countersIn scope).map fun c => counterObject p rd filter c view) := by
    rw [nasAclGetCounter_eq consistent gets]
    exact Eff.forM_append (fun c _ list => getCounterAs_run filter c view) list
  unfold nasAclCpsApiRead
  simp only [gets.listed, gets.cat, ne_eq, not_true_eq_false, if_false, gets.ofKind]
  obtain ⟨rfl, rfl⟩ | ⟨rfl, rfl⟩ := shown
  · simp only
    unfold tryReading
    rw [ran]
  · simp only
    unfold tryReading
    rw [ran]

/-- A GET of entries that names none lists them in order, up to the first that cannot be
written; there it fails.  So one entry with an empty list of ports or objects hides all that
come after it. -/
theorem entries_listed (reached : Reached (fun _ r => p.Hosts r.platform) sw)
    (gets : GetsAll sw filters index filter .entry .entryTableId .entryId scope) :
    ∃ entries : List NasAclEntry,
      (∀ e, e ∈ entries ↔
        (∀ t ∈ scope, e.tableId = t) ∧ sw.getEntry e.tableId e.entryId = .ok e) ∧
      (entries.Pairwise fun a b => Before a.tableId a.entryId b.tableId b.entryId) ∧
      nasAclCpsApiRead p rd filters index sw list
        = (.returned (if ∀ e ∈ entries, e.Writable then .ok () else .error .mem),
          list ++ (entries.takeWhile fun e => e.Writable).map (entryObject p rd)) := by
  have consistent := reached_consistent reached
  refine ⟨sw.entriesIn scope, fun e => mem_entriesIn consistent, entriesIn_sorted consistent, ?_⟩
  have ran : nasAclGetEntry p rd sw filter list
      = (if (sw.entriesIn scope).all fun e => e.Writable then .ok () else .error (.base .mem ""),
        list ++ ((sw.entriesIn scope).takeWhile fun e => e.Writable).map (entryObject p rd)) := by
    rw [nasAclGetEntry_eq consistent gets]
    refine Eff.forM_takeWhile (fun e mem list => ?_) list
    obtain ⟨-, stored⟩ := (mem_entriesIn consistent).mp mem
    obtain ⟨c, held, -⟩ := Option.bind_eq_some_iff.mp (getEntry_ok.mp stored)
    obtain ⟨table, known⟩ := getTable_of_container consistent held
    have onEntry := reached.mono fun _ _ hosts => hosts.walking (rd.walks e.tableId e.entryId)
    exact getEntryInfo_run (reached_readable onEntry known stored)
  unfold nasAclCpsApiRead
  simp only [gets.listed, gets.cat, ne_eq, not_true_eq_false, if_false, gets.ofKind]
  unfold tryReading
  rw [ran]
  by_cases all : ∀ e ∈ sw.entriesIn scope, e.Writable
  · rw [if_pos all, if_pos (List.all_eq_true.mpr fun e mem => decide_eq_true (all e mem))]
  · rw [if_neg all, if_neg fun ran => all fun e mem =>
      of_decide_eq_true (List.all_eq_true.mp ran e mem)]

end Listings

/-! ### On the bench -/

namespace Bench

/-- Keys without ids, a counter that has counted to 5, and hash maps walked as ever. -/
def reader : Reader where
  keyFromAttr _ := ⟨.baseAcl, .other, .set⟩
  counterGet _ _ _ := .ok 5
  walks _ _ := platform.toWalks

/-- What a GET of a kind looks for. -/
def filterOf (kind : ObjType) (keys : List (KeyAttr × UInt64)) : CpsObject :=
  ⟨⟨.baseAcl, kind, .set⟩, fun k => keys.lookup k, []⟩

/-- An entry of table 1 that is matched against some ports. -/
def portsEntry (id : NasObjId) (ports : List UInt32) : Request :=
  .on .create .entry [(.entryTableId, 1), (.entryId, id)]
    [u32 .entryPriority 0,
      listAttr .entryMatch [matchElem .inPorts (ports.map (u32 (.matchValue .inPorts)))],
      listAttr .entryAction [actionElem .decrementTtl []]]

/-- Entries 7, 8 and 9 of table 1, the second on no ports. -/
def listRun : List Request :=
  [createTable [.inPorts], portsEntry 7 [3], portsEntry 8 [], portsEntry 9 [5]]

end Bench

/-- Entry 8 fails the GET, and hides entry 9. -/
theorem bench_entries_listed :
    let sw := Bench.after Bench.listRun
    (∃ entries : List NasAclEntry,
      (∀ e, e ∈ entries ↔
        (∀ t ∈ some (1 : NasObjId), e.tableId = t) ∧ sw.getEntry e.tableId e.entryId = .ok e) ∧
      (entries.Pairwise fun a b => Before a.tableId a.entryId b.tableId b.entryId) ∧
      nasAclCpsApiRead Bench.platform Bench.reader [Bench.filterOf .entry [(.entryTableId, 1)]] 0 sw []
        = (.returned (if ∀ e ∈ entries, e.Writable then .ok () else .error .mem),
          [] ++ (entries.takeWhile fun e => e.Writable).map (entryObject Bench.platform Bench.reader))) ∧
    ((sw.entriesIn (some 1)).map fun e => (e.entryId, decide e.Writable))
      = [(7, true), (8, false), (9, true)] := by
  have fine : ∀ r ∈ Bench.listRun, ∀ _ : NasAclSwitch, Bench.platform.Hosts r.platform := by
    intro r mem _
    simp only [Bench.listRun, List.mem_cons, List.not_mem_nil, or_false] at mem
    rcases mem with rfl | rfl | rfl | rfl <;> exact Bench.platform.hosts_self
  have known : ∃ table, (Bench.after Bench.listRun).getTable 1 = .ok table := by
    have there : ((Bench.after Bench.listRun).getTable 1).toOption.isSome := by decide +kernel
    obtain ⟨table, found⟩ := Option.isSome_iff_exists.mp there
    exact ⟨table, except_toOption.mp found⟩
  refine ⟨entries_listed (Reachable.after fine) ⟨rfl, rfl, rfl, rfl, .inr rfl, ?_⟩, by decide +kernel⟩
  rintro t ⟨⟩
  exact known

end SonicNasAcl
