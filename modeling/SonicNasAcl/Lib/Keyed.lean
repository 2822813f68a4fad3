/-
# Lib.Keyed -- maps of items that know their own key

A container indexed by a key that its items carry.  `Keyed key` is such a map as a
structure: an item is only ever found under its own key (`Keyed.keyed`), so a
lookup never has to be checked against the item it returns.

* `put` stores an item under its key, replacing what was there;
* `erase` forgets a key;
* `deleted` and `addOrMod` are what has changed between two maps;
* `ofItems` is the map of a list of items, and `upTo` a list that is cut off where it stops;
* `Keyed.ext` and the four `find` lemmas determine every map the two can build;
* `Traversal` is a loop over a finite set of keys: every key once, in an order of
  the container's choosing.
-/
import Mathlib.Data.Finset.Card
import Mathlib.Data.Finset.Basic
import Mathlib.Data.Fintype.Basic
import Mathlib.Data.List.Sort

namespace SonicNasAcl.Lib

set_option autoImplicit false

/-- The order in which a loop visits a set of keys. -/
structure Traversal (κ : Type) where
  visit : Finset κ → List κ
  nodup : ∀ s, (visit s).Nodup
  mem_visit : ∀ s k, k ∈ visit s ↔ k ∈ s

@[simp] theorem Traversal.visit_empty {κ : Type} (order : Traversal κ) : order.visit ∅ = [] :=
  List.eq_nil_iff_forall_not_mem.mpr fun k mem => Finset.notMem_empty k ((order.mem_visit ∅ k).mp mem)

@[simp] theorem Traversal.visit_singleton {κ : Type} (order : Traversal κ) (k : κ) :
    order.visit {k} = [k] := by
  refine List.perm_singleton.mp
    ((List.perm_ext_iff_of_nodup (order.nodup _) (List.nodup_singleton k)).mpr
    fun k' => ?_)
  rw [order.mem_visit, Finset.mem_singleton, List.mem_singleton]

/-- At most one key is visited in every order alike. -/
theorem Traversal.visit_small {κ : Type} (order order' : Traversal κ) {s : Finset κ}
    (small : s.card ≤ 1) : order'.visit s = order.visit s := by
  obtain none_ | one := Nat.le_one_iff_eq_zero_or_eq_one.mp small
  · rw [Finset.card_eq_zero.mp none_, Traversal.visit_empty, Traversal.visit_empty]
  · obtain ⟨k, rfl⟩ := Finset.card_eq_one.mp one
    rw [Traversal.visit_singleton, Traversal.visit_singleton]

/-- A loop visits the elements of the set, in some order. -/
theorem Traversal.coe_visit {κ : Type} (order : Traversal κ) (s : Finset κ) :
    (order.visit s : Multiset κ) = s.val :=
  (Multiset.Nodup.ext (Multiset.coe_nodup.mpr (order.nodup s)) s.nodup).mpr (order.mem_visit s)

/-- The loop in the order of a rank that tells the keys apart. -/
def Traversal.ofRank {κ : Type} (rank : κ → Nat) (injective : ∀ a b, rank a = rank b → a = b) :
    Traversal κ where
  visit s := Quot.lift (fun l => l.insertionSort fun a b => rank a ≤ rank b)
    (fun l m perm => by
      have total : Std.Total fun a b => rank a ≤ rank b := ⟨fun a b => Nat.le_total _ _⟩
      have trans : IsTrans κ fun a b => rank a ≤ rank b := ⟨fun a b c => Nat.le_trans⟩
      refine List.Perm.eq_of_pairwise
        (?_ : ∀ a b, a ∈ _ → b ∈ _ → rank a ≤ rank b → rank b ≤ rank a → a = b) ?_ ?_ ?_
      · exact fun a b _ _ le ge => injective a b (Nat.le_antisymm le ge)
      · exact List.pairwise_insertionSort _ l
      · exact List.pairwise_insertionSort _ m
      · exact ((List.perm_insertionSort _ l).trans perm).trans (List.perm_insertionSort _ m).symm)
    s.val
  nodup s := by
    obtain ⟨⟨l⟩, nodup⟩ := s
    exact ((List.perm_insertionSort _ l).nodup_iff).mpr nodup
  mem_visit s k := by
    obtain ⟨⟨l⟩, nodup⟩ := s
    exact (List.perm_insertionSort _ l).mem_iff

/-- A loop in the order of a rank goes up. -/
theorem Traversal.ofRank_sorted {κ : Type} {rank : κ → Nat}
    {injective : ∀ a b, rank a = rank b → a = b} (s : Finset κ) :
    ((Traversal.ofRank rank injective).visit s).Pairwise fun a b => rank a < rank b := by
  have apart := (Traversal.ofRank rank injective).nodup s
  have up : ((Traversal.ofRank rank injective).visit s).Pairwise fun a b => rank a ≤ rank b := by
    obtain ⟨⟨l⟩, nodup⟩ := s
    exact List.pairwise_insertionSort _ l
  exact (up.and apart).imp fun ⟨le, ne⟩ => Nat.lt_of_le_of_ne le fun same => ne (injective _ _ same)

/-- The elements of a list up to the first that stops. -/
def upTo {α : Type} (stop : α → Bool) : List α → List α
  | [] => []
  | a :: rest => if stop a then [a] else a :: upTo stop rest

section UpTo

variable {α : Type} {stop : α → Bool} {l : List α}

theorem upTo_begins (stop : α → Bool) (l : List α) : upTo stop l <+: l := by
  induction l with
  | nil => exact List.prefix_rfl
  | cons a rest ih =>
      unfold upTo
      split
      · exact ⟨rest, rfl⟩
      · exact (List.prefix_cons_inj a).mpr ih

theorem upTo_eq_nil : upTo stop l = [] ↔ l = [] := by
  cases l with
  | nil => exact Iff.rfl
  | cons a rest =>
      unfold upTo
      split <;> simp only [reduceCtorEq]

/-- Nothing is cut off when only the last element may stop. -/
theorem upTo_eq_self : upTo stop l = l ↔ ∀ a ∈ l.dropLast, stop a = false := by
  induction l with
  | nil => exact iff_of_true rfl (List.forall_mem_nil _)
  | cons a rest ih =>
      unfold upTo
      cases rest with
      | nil =>
          refine iff_of_true ?_ (List.forall_mem_nil _)
          split <;> rfl
      | cons b rest =>
          rw [List.dropLast_cons_cons, List.forall_mem_cons]
          cases stop a with
          | true =>
              rw [if_pos rfl]
              refine iff_of_false (fun same => ?_) fun both => Bool.noConfusion both.1
              cases (List.cons.inj same).2
          | false =>
              rw [if_neg Bool.false_ne_true, ← ih]
              exact ⟨fun same => ⟨rfl, (List.cons.inj same).2⟩, fun both => congrArg _ both.2⟩

theorem upTo_zipIdx (stop : α → Bool) (l : List α) (k : Nat) :
    upTo (fun x => stop x.1) (l.zipIdx k) = (upTo stop l).zipIdx k := by
  induction l generalizing k with
  | nil => rfl
  | cons a rest ih =>
      rw [List.zipIdx_cons]
      unfold upTo
      cases stop a with
      | true => rfl
      | false => exact congrArg (List.cons (a, k)) (ih (k + 1))

end UpTo

/-- A map whose items are filed under the key they carry. -/
structure Keyed {κ α : Type} (key : α → κ) where
  find : κ → Option α
  keyed : ∀ k x, find k = some x → key x = k

namespace Keyed

variable {κ α : Type} {key : α → κ}

@[ext] theorem ext {l m : Keyed key} (same : ∀ k, l.find k = m.find k) : l = m := by
  cases l
  cases m
  simp only [mk.injEq]
  exact funext same

/-- The empty map. -/
def empty : Keyed key := ⟨fun _ => none, fun _ _ found => by cases found⟩

@[simp] theorem find_empty (k : κ) : (empty : Keyed key).find k = none := rfl

/-! ## What has changed between two maps -/

/-- The items of the old map whose key the new map lacks. -/
def deleted (new old : Keyed key) : Keyed key where
  find k := if (new.find k).isSome then none else old.find k
  keyed k x found := by
    split at found
    · cases found
    · exact old.keyed k x found

/-- The items of the new map that the old map lacks or holds otherwise. -/
def addOrMod (ne : α → α → Bool) (new old : Keyed key) : Keyed key where
  find k := (new.find k).filter fun x => (old.find k).all fun y => ne y x
  keyed k x found := new.keyed k x (Option.filter_eq_some_iff.mp found).1

theorem find_deleted {new old : Keyed key} {k : κ} {x : α} :
    (deleted new old).find k = some x ↔ new.find k = none ∧ old.find k = some x := by
  change (if (new.find k).isSome then none else old.find k) = some x ↔ _
  cases new.find k with
  | none => simp only [Option.isSome_none, Bool.false_eq_true, if_false, true_and]
  | some y => simp only [Option.isSome_some, if_true, reduceCtorEq, false_and]

theorem find_addOrMod {ne : α → α → Bool} {new old : Keyed key} {k : κ} {x : α} :
    (addOrMod ne new old).find k = some x ↔
      new.find k = some x ∧ ∀ y, old.find k = some y → ne y x = true := by
  change (new.find k).filter (fun x => (old.find k).all fun y => ne y x) = some x ↔ _
  rw [Option.filter_eq_some_iff]
  refine and_congr_right fun _ => ?_
  cases old.find k with
  | none => simp only [Option.all_none, reduceCtorEq, false_implies, implies_true]
  | some y => simp only [Option.all_some, Option.some.injEq, forall_eq']

theorem isSome_deleted {new old : Keyed key} {k : κ} :
    ((deleted new old).find k).isSome ↔ new.find k = none ∧ (old.find k).isSome := by
  simp only [Option.isSome_iff_exists, find_deleted, exists_and_left]

theorem addOrMod_of_absent {ne : α → α → Bool} {new old : Keyed key} {k : κ}
    (absent : new.find k = none) : (addOrMod ne new old).find k = none := by
  refine Option.eq_none_iff_forall_ne_some.mpr fun x set => ?_
  have found := (find_addOrMod.mp set).1
  rw [absent] at found
  cases found

theorem addOrMod_of_same {ne : α → α → Bool} {new old : Keyed key} {k : κ} {x y : α}
    (found : new.find k = some x) (held : old.find k = some y) (same : ¬ ne y x) :
    (addOrMod ne new old).find k = none := by
  refine Option.eq_none_iff_forall_ne_some.mpr fun x' set => ?_
  obtain ⟨found', differs⟩ := find_addOrMod.mp set
  rw [found] at found'
  cases found'
  exact same (differs y held)

/-- No key is both in what is deleted and in what is added or modified. -/
theorem deleted_apart {ne : α → α → Bool} {new old : Keyed key} {k : κ}
    (gone : ((deleted new old).find k).isSome) : (addOrMod ne new old).find k = none :=
  addOrMod_of_absent (isSome_deleted.mp gone).1

section Items

variable [Fintype κ]

/-- The keys that hold an item. -/
def keys (l : Keyed key) : Finset κ := Finset.univ.filter fun k => (l.find k).isSome

@[simp] theorem mem_keys (l : Keyed key) (k : κ) : k ∈ l.keys ↔ (l.find k).isSome := by
  simp only [keys, Finset.mem_filter, Finset.mem_univ, true_and]

/-- The items, in the order a loop visits their keys. -/
def items (order : Traversal κ) (l : Keyed key) : List α := (order.visit l.keys).filterMap l.find

theorem mem_items {order : Traversal κ} {l : Keyed key} {x : α} :
    x ∈ l.items order ↔ l.find (key x) = some x := by
  simp only [items, List.mem_filterMap, order.mem_visit, mem_keys]
  constructor
  · rintro ⟨k, -, found⟩
    rw [l.keyed k x found]
    exact found
  · intro found
    exact ⟨key x, by rw [found]; rfl, found⟩

/-- A loop over the items meets each key once. -/
theorem nodup_items (order : Traversal κ) (l : Keyed key) :
    ((l.items order).map key).Nodup := by
  have visited : (l.items order).map key = order.visit l.keys := by
    have held : ∀ k ∈ order.visit l.keys, (l.find k).isSome := fun k mem => by
      rwa [order.mem_visit, mem_keys] at mem
    unfold items
    generalize order.visit l.keys = ks at held
    induction ks with
    | nil => rfl
    | cons k rest ih =>
        obtain ⟨x, found⟩ := Option.isSome_iff_exists.mp (held k (List.mem_cons_self ..))
        rw [List.filterMap_cons_some found, List.map_cons, l.keyed k x found,
          ih fun k' mem => held k' (List.mem_cons_of_mem _ mem)]
  rw [visited]
  exact order.nodup _

end Items

variable [DecidableEq κ]

/-- File an item under its own key. -/
def put (x : α) (l : Keyed key) : Keyed key where
  find k := if k = key x then some x else l.find k
  keyed k y found := by
    split at found
    · rename_i here
      cases found
      exact here.symm
    · exact l.keyed k y found

/-- Forget a key. -/
def erase (k₀ : κ) (l : Keyed key) : Keyed key where
  find k := if k = k₀ then none else l.find k
  keyed k y found := by
    split at found
    · cases found
    · exact l.keyed k y found

theorem find_put (x : α) (l : Keyed key) (k : κ) :
    (l.put x).find k = if k = key x then some x else l.find k := rfl

@[simp] theorem find_put_self (x : α) (l : Keyed key) : (l.put x).find (key x) = some x :=
  if_pos rfl

theorem find_put_of_ne {x : α} {k : κ} (ne : k ≠ key x) (l : Keyed key) :
    (l.put x).find k = l.find k := if_neg ne

theorem find_erase (k₀ : κ) (l : Keyed key) (k : κ) :
    (l.erase k₀).find k = if k = k₀ then none else l.find k := rfl

@[simp] theorem find_erase_self (k : κ) (l : Keyed key) : (l.erase k).find k = none :=
  if_pos rfl

theorem find_erase_of_ne {k k₀ : κ} (ne : k ≠ k₀) (l : Keyed key) :
    (l.erase k₀).find k = l.find k := if_neg ne

/-- The items but for the one of a key. -/
theorem mem_items_erase [Fintype κ] {order : Traversal κ} {l : Keyed key} {k : κ} {x : α} :
    x ∈ (l.erase k).items order ↔ key x ≠ k ∧ l.find (key x) = some x := by
  rw [mem_items, find_erase]
  split
  · rename_i same
    exact iff_of_false (fun found => by cases found) fun both => both.1 same
  · rename_i other
    exact (and_iff_right other).symm

/-- An item may follow those of other keys. -/
theorem nodup_items_concat [Fintype κ] (order : Traversal κ) (l : Keyed key) (x : α) :
    (((l.erase (key x)).items order ++ [x]).map key).Nodup := by
  rw [List.map_append, List.nodup_append]
  refine ⟨nodup_items order _, List.nodup_singleton _, fun k there k' here same => ?_⟩
  obtain ⟨y, mem, rfl⟩ := List.mem_map.mp there
  rw [List.map_singleton, List.mem_singleton] at here
  exact (mem_items_erase.mp mem).1 (same.trans here)

/-- The map of a list of items. -/
def ofItems (l : List α) : Keyed key := l.foldl (fun m x => m.put x) .empty

theorem find_foldl_put {l : List α} (nodup : (l.map key).Nodup) {m : Keyed key} {k : κ} {x : α} :
    (l.foldl (fun m x => m.put x) m).find k = some x ↔
      (x ∈ l ∧ key x = k) ∨ (k ∉ l.map key ∧ m.find k = some x) := by
  induction l generalizing m with
  | nil => simp only [List.foldl_nil, List.not_mem_nil, false_and, List.map_nil, not_false_eq_true,
      true_and, false_or]
  | cons y rest ih =>
      obtain ⟨fresh, nodup⟩ := List.nodup_cons.mp nodup
      rw [List.foldl_cons, ih nodup, find_put, List.mem_cons, List.map_cons, List.mem_cons]
      by_cases here : k = key y
      · subst here
        simp only [fresh, not_false_eq_true, true_and, if_true, not_true_eq_false,
          false_and, or_false, Option.some.injEq]
        constructor
        · rintro (⟨mem, same⟩ | rfl)
          · exact ⟨.inr mem, same⟩
          · exact ⟨.inl rfl, rfl⟩
        · rintro ⟨rfl | mem, same⟩
          · exact .inr rfl
          · exact .inl ⟨mem, same⟩
      · simp only [here, if_false, false_or]
        refine or_congr_left ⟨fun ⟨mem, same⟩ => ⟨.inr mem, same⟩, ?_⟩
        rintro ⟨rfl | mem, same⟩
        · exact absurd same.symm here
        · exact ⟨mem, same⟩

/-- Items under different keys may be filed in any order. -/
theorem foldl_put_perm {l l' : List α} (nodup : (l.map key).Nodup) (perm : l'.Perm l)
    (m : Keyed key) : l'.foldl (fun m x => m.put x) m = l.foldl (fun m x => m.put x) m := by
  have nodup' : (l'.map key).Nodup := (perm.map key).nodup_iff.mpr nodup
  ext1 k
  refine Option.ext fun x => ?_
  rw [find_foldl_put nodup', find_foldl_put nodup, perm.mem_iff, (perm.map key).mem_iff]

theorem find_ofItems {l : List α} (nodup : (l.map key).Nodup) {k : κ} {x : α} :
    (ofItems l : Keyed key).find k = some x ↔ x ∈ l ∧ key x = k := by
  refine (find_foldl_put nodup).trans ?_
  simp only [find_empty, reduceCtorEq, and_false, or_false]

/-- The items of a map make it up again. -/
theorem ofItems_items [Fintype κ] (order : Traversal κ) (l : Keyed key) :
    ofItems (l.items order) = l := by
  have same (k : κ) (x : α) : (ofItems (l.items order) : Keyed key).find k = some x
      ↔ l.find k = some x := by
    rw [find_ofItems (nodup_items order l), mem_items]
    constructor
    · rintro ⟨found, rfl⟩
      exact found
    · intro found
      obtain rfl := l.keyed k x found
      exact ⟨found, rfl⟩
  ext1 k
  exact Option.ext (same k)

/-- The first items alone do not make up the map. -/
theorem ofItems_beginning [Fintype κ] (order : Traversal κ) {l : Keyed key} {w : List α}
    (first : w <+: l.items order) :
    ofItems w = l ↔ w = l.items order := by
  constructor
  · intro same
    have nodup := nodup_items order l
    have nodup_w : (w.map key).Nodup := nodup.sublist (first.sublist.map key)
    have inside : l.items order ⊆ w := by
      intro x mem
      have found : (ofItems w : Keyed key).find (key x) = some x := by
        rw [same]
        exact mem_items.mp mem
      exact ((find_ofItems nodup_w).mp found).1
    have distinct : (l.items order).Nodup := List.Nodup.of_map key nodup
    exact first.eq_of_length_le (distinct.subperm inside).length_le
  · rintro rfl
    exact ofItems_items order l

/-- An item that comes last is put over the others. -/
theorem ofItems_concat (l : List α) (x : α) :
    (ofItems (l ++ [x]) : Keyed key) = (ofItems l).put x := List.foldl_concat _ _ _ _

/-- What is found in the map of a list is one of its items. -/
theorem mem_of_find_ofItems {l : List α} {k : κ} {x : α}
    (found : (ofItems l : Keyed key).find k = some x) : x ∈ l := by
  induction l using List.reverseRecOn with
  | nil => cases found
  | append_singleton rest y ih =>
      rw [ofItems_concat, find_put] at found
      split at found
      · cases found
        exact List.mem_append_right _ (List.mem_singleton_self _)
      · exact List.mem_append_left _ (ih found)

theorem put_ne_empty (x : α) (l : Keyed key) : l.put x ≠ empty := by
  intro none_
  have found := find_put_self x l
  rw [none_] at found
  cases found

theorem ofItems_eq_empty {l : List α} : (ofItems l : Keyed key) = empty ↔ l = [] := by
  rcases List.eq_nil_or_concat l with rfl | ⟨rest, x, rfl⟩
  · exact iff_of_true rfl rfl
  · rw [List.concat_eq_append, ofItems_concat]
    refine iff_of_false (put_ne_empty x _) ?_
    exact List.append_ne_nil_of_right_ne_nil _ (List.cons_ne_nil _ _)

/-- A loop over the items that stops somewhere: nothing is written of the empty map only. -/
theorem upTo_items_eq_nil [Fintype κ] {order : Traversal κ} {stop : α → Bool} {l : Keyed key} :
    upTo stop (l.items order) = [] ↔ l = empty := by
  have none_ : (ofItems (l.items order) : Keyed key) = empty ↔ l.items order = [] := ofItems_eq_empty
  rw [upTo_eq_nil, ← none_, ofItems_items]

/-- And all of a map whose items do not stop, but for the last. -/
theorem ofItems_upTo [Fintype κ] {order : Traversal κ} {stop : α → Bool} {l : Keyed key} :
    ofItems (upTo stop (l.items order)) = l ↔ ∀ x ∈ (l.items order).dropLast, stop x = false := by
  rw [ofItems_beginning order (upTo_begins _ _), upTo_eq_self]

theorem eq_of_find_singleton {y : α} {k : κ} {x : α}
    (found : (ofItems [y] : Keyed key).find k = some x) : x = y :=
  List.mem_singleton.mp (mem_of_find_ofItems found)

/-- Putting back what a key held undoes a put or an erase of that key. -/
theorem put_erase {x : α} {l : Keyed key} (held : l.find (key x) = some x) :
    (l.erase (key x)).put x = l := by
  ext1 k
  by_cases h : k = key x
  · subst h
    rw [find_put_self, held]
  · rw [find_put_of_ne h, find_erase_of_ne h]

/-- What an item replaces may be forgotten first. -/
theorem put_erase_self (x : α) (l : Keyed key) : (l.erase (key x)).put x = l.put x := by
  ext1 k
  by_cases h : k = key x
  · subst h
    rw [find_put_self, find_put_self]
  · rw [find_put_of_ne h, find_put_of_ne h, find_erase_of_ne h]

theorem put_put {x y : α} {l : Keyed key} (same : key y = key x)
    (held : l.find (key x) = some x) : (l.put y).put x = l := by
  ext1 k
  by_cases h : k = key x
  · subst h
    rw [find_put_self, held]
  · rw [find_put_of_ne h, find_put_of_ne (same ▸ h)]

theorem erase_put {y : α} {l : Keyed key} (absent : l.find (key y) = none) :
    (l.put y).erase (key y) = l := by
  ext1 k
  by_cases h : k = key y
  · subst h
    rw [find_erase_self, absent]
  · rw [find_erase_of_ne h, find_put_of_ne h]

end Keyed

end SonicNasAcl.Lib
