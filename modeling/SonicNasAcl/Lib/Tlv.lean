/-
# Lib.Tlv -- trees of tagged values

An attribute object is a forest of nodes, each with a tag, a value and the nodes
inside it.  A path of tags names a node: every step goes to the *first* node with
that tag.  Adding at a path opens the missing containers on the way and appends
the new node after its siblings, so nothing that was there is overwritten.

* `get` reads a node by its path;
* `add` appends one node at a path, `addAll` a sequence of them;
* `addAll_under` is the framing law: adds that all go under one fresh tag build
  one new container, with the same nodes the shorter paths build on their own;
* `get_append_of_fresh` and `get_under` read such a container back;
* `addAll_groups` builds a list of containers, and `find_of_mem` and `get_into` lead to
  each of them.
-/
import Mathlib.Data.List.Basic

namespace SonicNasAcl.Lib

set_option autoImplicit false

/-- A tagged value with the nodes nested inside it. -/
inductive Tlv (ι : Type) where
  | mk (id : ι) (value : List UInt8) (inside : List (Tlv ι))
  deriving Repr

namespace Tlv

variable {ι : Type}

def id : Tlv ι → ι
  | mk a _ _ => a

def value : Tlv ι → List UInt8
  | mk _ v _ => v

def inside : Tlv ι → List (Tlv ι)
  | mk _ _ l => l

@[simp] theorem id_mk (a : ι) (v : List UInt8) (l : List (Tlv ι)) : (mk a v l).id = a := rfl

@[simp] theorem value_mk (a : ι) (v : List UInt8) (l : List (Tlv ι)) : (mk a v l).value = v := rfl

@[simp] theorem inside_mk (a : ι) (v : List UInt8) (l : List (Tlv ι)) :
    (mk a v l).inside = l := rfl

/-- What a node holds apart from its tag. -/
abbrev Payload (ι : Type) : Type := List UInt8 × List (Tlv ι)

/-- A plain value, with nothing inside. -/
def leaf (v : List UInt8) : Payload ι := (v, [])

/-- A sequence of adds, moved one level further down. -/
def under (a : ι) (adds : List (List ι × Payload ι)) : List (List ι × Payload ι) :=
  adds.map fun x => (a :: x.1, x.2)

theorem under_append (a : ι) (xs ys : List (List ι × Payload ι)) :
    under a (xs ++ ys) = under a xs ++ under a ys := List.map_append

variable [DecidableEq ι]

/-! ## Reading and adding at a path -/

/-- The first node with a tag. -/
def find (a : ι) (l : List (Tlv ι)) : Option (Tlv ι) := l.find? fun t => t.id = a

def get : List ι → List (Tlv ι) → Option (Tlv ι)
  | [], _ => none
  | [a], l => find a l
  | a :: b :: rest, l => (find a l).bind fun t => get (b :: rest) t.inside

/-- Act inside the first node with a tag, opening it at the end if there is none. -/
def inContainer (a : ι) (f : List (Tlv ι) → List (Tlv ι)) : List (Tlv ι) → List (Tlv ι)
  | [] => [mk a [] (f [])]
  | t :: rest =>
      if t.id = a then mk t.id t.value (f t.inside) :: rest else t :: inContainer a f rest

def add : List ι → Payload ι → List (Tlv ι) → List (Tlv ι)
  | [], _, l => l
  | [a], x, l => l ++ [mk a x.1 x.2]
  | a :: b :: rest, x, l => inContainer a (add (b :: rest) x) l

/-- A sequence of adds, in order. -/
def addAll (adds : List (List ι × Payload ι)) (l : List (Tlv ι)) : List (Tlv ι) :=
  adds.foldl (fun l a => add a.1 a.2 l) l

/-! ## Framing -/

@[simp] theorem addAll_cons (x : List ι × Payload ι) (adds : List (List ι × Payload ι))
    (l : List (Tlv ι)) : addAll (x :: adds) l = addAll adds (add x.1 x.2 l) := rfl

theorem addAll_append (xs ys : List (List ι × Payload ι)) (l : List (Tlv ι)) :
    addAll (xs ++ ys) l = addAll ys (addAll xs l) := List.foldl_append

/-- Adds at the top, each of which makes a node. -/
theorem addAll_tops (tops : List (ι × Payload ι)) (l : List (Tlv ι)) :
    addAll (tops.map fun x => ([x.1], x.2)) l = l ++ tops.map fun x => mk x.1 x.2.1 x.2.2 := by
  induction tops generalizing l with
  | nil => exact (List.append_nil l).symm
  | cons x rest ih =>
      rw [List.map_cons, addAll_cons, ih, List.map_cons, add, List.append_assoc]
      rfl

/-- No node of the forest has the tag. -/
def Fresh (a : ι) (l : List (Tlv ι)) : Prop := ∀ t ∈ l, t.id ≠ a

theorem find_eq_none {a : ι} {l : List (Tlv ι)} (fresh : Fresh a l) : find a l = none :=
  List.find?_eq_none.mpr fun t mem => by simpa using fresh t mem

theorem inContainer_append {a : ι} {l : List (Tlv ι)} (fresh : Fresh a l)
    (f : List (Tlv ι) → List (Tlv ι)) (m : List (Tlv ι)) :
    inContainer a f (l ++ m) = l ++ inContainer a f m := by
  induction l with
  | nil => rfl
  | cons t rest ih =>
      have here : t.id ≠ a := fresh t (List.mem_cons_self ..)
      have there : Fresh a rest := fun u mem => fresh u (List.mem_cons_of_mem _ mem)
      rw [List.cons_append, inContainer, if_neg here, ih there, List.cons_append]

/-- Adds inside a container that is already the first of its tag. -/
theorem addAll_under_open {a : ι} {l : List (Tlv ι)} (fresh : Fresh a l) (v : List UInt8)
    (ins : List (Tlv ι)) {adds : List (List ι × Payload ι)} (paths : ∀ x ∈ adds, x.1 ≠ []) :
    addAll (under a adds) (l ++ [mk a v ins]) = l ++ [mk a v (addAll adds ins)] := by
  induction adds generalizing ins with
  | nil => rfl
  | cons x adds ih =>
      obtain ⟨path, payload⟩ := x
      cases path with
      | nil => exact absurd rfl (paths _ (List.mem_cons_self ..))
      | cons b rest =>
          have step : add (a :: b :: rest) payload (l ++ [mk a v ins])
              = l ++ [mk a v (add (b :: rest) payload ins)] := by
            rw [add, inContainer_append fresh, inContainer, id_mk, if_pos rfl]
            rfl
          simp only [under, List.map_cons, addAll_cons]
          rw [step]
          exact ih _ fun y mem => paths y (List.mem_cons_of_mem _ mem)

/-- Adds under one fresh tag build one new container at the end. -/
theorem addAll_under {a : ι} {l : List (Tlv ι)} (fresh : Fresh a l)
    {adds : List (List ι × Payload ι)} (some_add : adds ≠ []) (paths : ∀ x ∈ adds, x.1 ≠ []) :
    addAll (under a adds) l = l ++ [mk a [] (addAll adds [])] := by
  cases adds with
  | nil => exact absurd rfl some_add
  | cons x adds =>
      obtain ⟨path, payload⟩ := x
      cases path with
      | nil => exact absurd rfl (paths _ (List.mem_cons_self ..))
      | cons b rest =>
          have opened : add (a :: b :: rest) payload l
              = l ++ [mk a [] (add (b :: rest) payload [])] := by
            have appended := inContainer_append fresh (add (b :: rest) payload) []
            rw [List.append_nil] at appended
            rw [add, appended]
            rfl
          simp only [under, List.map_cons, addAll_cons]
          rw [opened]
          exact addAll_under_open fresh _ _ fun y mem => paths y (List.mem_cons_of_mem _ mem)

/-! ## Reading a container back -/

theorem find_append_of_fresh {a : ι} {l : List (Tlv ι)} (fresh : Fresh a l) (m : List (Tlv ι)) :
    find a (l ++ m) = find a m := by
  have none_left : find a l = none := find_eq_none fresh
  unfold find at none_left ⊢
  rw [List.find?_append, none_left, Option.none_or]

@[simp] theorem find_cons_self (a : ι) (v : List UInt8) (ins l : List (Tlv ι)) :
    find a (mk a v ins :: l) = some (mk a v ins) := by
  simp only [find, id_mk, decide_true, List.find?_cons_of_pos]

theorem get_append_of_fresh {a : ι} {l : List (Tlv ι)} (fresh : Fresh a l) (path : List ι)
    (m : List (Tlv ι)) : get (a :: path) (l ++ m) = get (a :: path) m := by
  cases path with
  | nil => exact find_append_of_fresh fresh m
  | cons b rest => simp only [get, find_append_of_fresh fresh m]

/-- A path into the first container of its tag continues inside it. -/
theorem get_under (a : ι) (v : List UInt8) (ins l : List (Tlv ι)) (b : ι) (path : List ι) :
    get (a :: b :: path) (mk a v ins :: l) = get (b :: path) ins := by
  simp only [get, find_cons_self, Option.bind_some, inside_mk]

/-- A path that leads to a node continues inside it. -/
theorem get_into {a : ι} {path : List ι} {l : List (Tlv ι)} {t : Tlv ι}
    (here : get (a :: path) l = some t) (b : ι) (rest : List ι) :
    get (a :: path ++ b :: rest) l = get (b :: rest) t.inside := by
  induction path generalizing a l with
  | nil =>
      change (find a l).bind (fun t => get (b :: rest) t.inside) = _
      rw [show find a l = some t from here, Option.bind_some]
  | cons c path ih =>
      obtain ⟨u, found, deeper⟩ := Option.bind_eq_some_iff.mp here
      change (find a l).bind (fun t => get (c :: path ++ b :: rest) t.inside) = _
      rw [found, Option.bind_some, ih deeper]

/-- Of nodes with different tags each is the first of its own. -/
theorem find_of_mem {l : List (Tlv ι)} (apart : (l.map id).Nodup) {t : Tlv ι} (mem : t ∈ l) :
    find t.id l = some t := by
  induction l with
  | nil => cases mem
  | cons u rest ih =>
      obtain ⟨fresh, apart⟩ := List.nodup_cons.mp apart
      unfold find
      rcases List.mem_cons.mp mem with rfl | mem
      · exact List.find?_cons_of_pos (decide_eq_true rfl)
      · rw [List.find?_cons_of_neg]
        · exact ih apart mem
        · intro same
          exact fresh (of_decide_eq_true same ▸ List.mem_map_of_mem mem)

/-- So it does not matter in which order they stand. -/
theorem find_perm {l l' : List (Tlv ι)} (apart : (l.map id).Nodup) (perm : l'.Perm l) (a : ι) :
    find a l' = find a l := by
  have apart' : (l'.map id).Nodup := (perm.map id).nodup_iff.mpr apart
  by_cases here : ∃ t ∈ l, t.id = a
  · obtain ⟨t, mem, rfl⟩ := here
    rw [find_of_mem apart mem, find_of_mem apart' (perm.mem_iff.mpr mem)]
  · have fresh : Fresh a l := fun t mem same => here ⟨t, mem, same⟩
    have fresh' : Fresh a l' := fun t mem => fresh t (perm.mem_iff.mp mem)
    rw [find_eq_none fresh, find_eq_none fresh']

/-! ## Adds under one tag -/

/-- Every path starts with the tag. -/
def StartsAt (a : ι) (adds : List (List ι × Payload ι)) : Prop :=
  ∀ x ∈ adds, ∃ rest, x.1 = a :: rest

omit [DecidableEq ι] in
theorem startsAt_under (a : ι) (adds : List (List ι × Payload ι)) : StartsAt a (under a adds) := by
  intro x mem
  obtain ⟨y, -, rfl⟩ := List.mem_map.mp mem
  exact ⟨y.1, rfl⟩

omit [DecidableEq ι] in
theorem StartsAt.paths {a : ι} {adds : List (List ι × Payload ι)} (starts : StartsAt a adds) :
    ∀ x ∈ adds, x.1 ≠ [] := by
  intro x mem
  obtain ⟨rest, same⟩ := starts x mem
  rw [same]
  exact List.cons_ne_nil _ _

theorem add_append {a : ι} {l : List (Tlv ι)} (fresh : Fresh a l) (path : List ι) (x : Payload ι)
    (m : List (Tlv ι)) : add (a :: path) x (l ++ m) = l ++ add (a :: path) x m := by
  cases path with
  | nil => exact List.append_assoc l m _
  | cons b rest => exact inContainer_append fresh _ m

/-- What has other tags stays in front. -/
theorem addAll_append_of_fresh {a : ι} {l : List (Tlv ι)} (fresh : Fresh a l)
    {adds : List (List ι × Payload ι)} (starts : StartsAt a adds) (m : List (Tlv ι)) :
    addAll adds (l ++ m) = l ++ addAll adds m := by
  induction adds generalizing m with
  | nil => rfl
  | cons x rest ih =>
      obtain ⟨path, same⟩ := starts x (List.mem_cons_self ..)
      rw [addAll_cons, addAll_cons, same, add_append fresh]
      exact ih (fun y mem => starts y (List.mem_cons_of_mem _ mem)) _

theorem addAll_of_fresh {a : ι} {l : List (Tlv ι)} (fresh : Fresh a l)
    {adds : List (List ι × Payload ι)} (starts : StartsAt a adds) :
    addAll adds l = l ++ addAll adds [] := by
  have appended := addAll_append_of_fresh fresh starts []
  rwa [List.append_nil] at appended

theorem id_inContainer {a : ι} {f : List (Tlv ι) → List (Tlv ι)} {l : List (Tlv ι)}
    (tagged : ∀ t ∈ l, t.id = a) : ∀ t ∈ inContainer a f l, t.id = a := by
  cases l with
  | nil =>
      intro t mem
      rw [List.mem_singleton.mp mem, id_mk]
  | cons u rest =>
      have here := tagged u (List.mem_cons_self ..)
      intro t mem
      rw [inContainer, if_pos here] at mem
      rcases List.mem_cons.mp mem with rfl | mem
      · exact here
      · exact tagged t (List.mem_cons_of_mem _ mem)

/-- Adds under one tag make nodes of that tag only. -/
theorem id_addAll {a : ι} {adds : List (List ι × Payload ι)} (starts : StartsAt a adds)
    {l : List (Tlv ι)} (tagged : ∀ t ∈ l, t.id = a) : ∀ t ∈ addAll adds l, t.id = a := by
  induction adds generalizing l with
  | nil => exact tagged
  | cons x rest ih =>
      obtain ⟨path, same⟩ := starts x (List.mem_cons_self ..)
      rw [addAll_cons, same]
      refine ih (fun y mem => starts y (List.mem_cons_of_mem _ mem)) ?_
      cases path with
      | nil =>
          intro t mem
          rcases List.mem_append.mp mem with mem | mem
          · exact tagged t mem
          · rw [List.mem_singleton.mp mem, id_mk]
      | cons b path => exact id_inContainer tagged

/-- Groups of adds, each under its own fresh tag, build one container after the other. -/
theorem addAll_groups {groups : List (ι × List (List ι × Payload ι))} {l : List (Tlv ι)}
    (apart : (groups.map Prod.fst).Nodup) (fresh : ∀ g ∈ groups, Fresh g.1 l)
    (full : ∀ g ∈ groups, g.2 ≠ [] ∧ ∀ x ∈ g.2, x.1 ≠ []) :
    addAll (groups.flatMap fun g => under g.1 g.2) l
      = l ++ groups.map fun g => mk g.1 [] (addAll g.2 []) := by
  induction groups generalizing l with
  | nil => exact (List.append_nil l).symm
  | cons g rest ih =>
      obtain ⟨other, apart⟩ := List.nodup_cons.mp apart
      obtain ⟨some_add, paths⟩ := full g (List.mem_cons_self ..)
      rw [List.flatMap_cons, addAll_append,
        addAll_under (fresh g (List.mem_cons_self ..)) some_add paths, ih apart ?_ ?_,
        List.map_cons, List.append_assoc, List.singleton_append]
      · intro h mem t there
        rcases List.mem_append.mp there with there | there
        · exact fresh h (List.mem_cons_of_mem _ mem) t there
        · rw [List.mem_singleton.mp there, id_mk]
          intro same
          exact other (same ▸ List.mem_map_of_mem mem)
      · exact fun h mem => full h (List.mem_cons_of_mem _ mem)

end Tlv

end SonicNasAcl.Lib
