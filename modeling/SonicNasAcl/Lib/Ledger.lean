/-
# Lib.Ledger -- every resource is in one place

Owners take resources from a pool, pass them on, hand them over and give them back.
The ledger of a pool says of each resource where it is: with an owner, or where it was
at the start, or handed over, or lost by an owner that was given another one.  A
resource is in one place at a time because the ledger is a function.

* `Right` ties a ledger to the allocated resources and to what each owner holds;
* `Right.take`, `Right.settle`, `Right.drop`, `Right.move` keep it, one for each way to
  change hands;
* `step_settled`: what is at the start, handed over or lost stays there, and what comes
  to such a place comes from an owner.
-/
import Mathlib.Data.Set.Insert
import Mathlib.Logic.Function.Basic

namespace SonicNasAcl.Lib

set_option autoImplicit false

/-- Where an allocated resource is. -/
inductive Place (N : Type) where
  | start
  | handed
  | lost
  | owned (n : N)

/-- Where each resource is, if it is allocated. -/
def Ledger (N R : Type) : Type := R → Option (Place N)

/-- How resources change hands. -/
inductive Transfer (N R : Type) where
  | idle
  /-- `n` takes a free resource and forgets what it held. -/
  | take (n : N) (r : R)
  /-- What `n` holds stays allocated, without an owner. -/
  | hand (n : N)
  /-- `n` forgets what it held and holds what `m` held. -/
  | move (n m : N)
  /-- What `n` holds is given back. -/
  | drop (n : N)

/-- A transfer sends what `n` holds to a place without an owner. -/
inductive Transfer.Sends {N R : Type} : Transfer N R → N → Place N → Prop
  | take (n : N) (r : R) : Sends (.take n r) n .lost
  | hand (n : N) : Sends (.hand n) n .handed
  | move (n m : N) : Sends (.move n m) n .lost

namespace Ledger

variable {N R : Type} {l : Ledger N R} {n m : N} {r x : R}

open Classical in
/-- What `n` holds goes elsewhere. -/
noncomputable def leave (l : Ledger N R) (n : N) (dest : Option (Place N)) : Ledger N R := fun x =>
  if l x = some (.owned n) then dest else l x

open Classical in
noncomputable def step (l : Ledger N R) : Transfer N R → Ledger N R
  | .idle => l
  | .take n r => fun x => if x = r then some (.owned n) else l.leave n (some .lost) x
  | .hand n => l.leave n (some .handed)
  | .move n m => fun x =>
      if m ≠ n ∧ l x = some (.owned m) then some (.owned n) else l.leave n (some .lost) x
  | .drop n => l.leave n none

/-- A transfer takes only what is free. -/
def Fresh (l : Ledger N R) : Transfer N R → Prop
  | .take _ r => l r = none
  | _ => True

/-! ## Places without an owner -/

theorem leave_of_owned {dest : Option (Place N)} (held : l x = some (.owned n)) :
    l.leave n dest x = dest := if_pos held

theorem leave_of_not {dest : Option (Place N)} (elsewhere : l x ≠ some (.owned n)) :
    l.leave n dest x = l x := if_neg elsewhere

theorem leave_settled {dest : Option (Place N)} {p : Place N} (settled : ∀ n, p ≠ .owned n) :
    l.leave n dest x = some p ↔ l x = some p ∨ dest = some p ∧ l x = some (.owned n) := by
  by_cases held : l x = some (.owned n)
  · have apart : l x ≠ some p := by
      rw [held]
      exact fun same => settled n (Option.some.inj same).symm
    rw [leave_of_owned held, or_iff_right apart, and_iff_left held]
  · rw [leave_of_not held, or_iff_left fun both => held both.2]

theorem step_settled {t : Transfer N R} {p : Place N} (fresh : l.Fresh t)
    (settled : ∀ n, p ≠ .owned n) :
    l.step t x = some p ↔ l x = some p ∨ ∃ n, t.Sends n p ∧ l x = some (.owned n) := by
  have sent : ∀ {n : N} {q : Place N}, (∀ k p', t.Sends k p' ↔ k = n ∧ p' = q) →
      (l.leave n (some q) x = some p ↔ l x = some p ∨ ∃ n, t.Sends n p ∧ l x = some (.owned n)) := by
    intro n q only
    rw [leave_settled settled, Option.some_inj]
    refine or_congr_right ?_
    constructor
    · rintro ⟨rfl, held⟩
      exact ⟨n, (only n q).mpr ⟨rfl, rfl⟩, held⟩
    · rintro ⟨k, sends, held⟩
      obtain ⟨rfl, rfl⟩ := (only k p).mp sends
      exact ⟨rfl, held⟩
  cases t with
  | idle =>
      refine (or_iff_left ?_).symm
      rintro ⟨n, sends, -⟩
      cases sends
  | take n r =>
      have only : ∀ k p', (Transfer.take n r).Sends k p' ↔ k = n ∧ p' = .lost := by
        intro k p'
        exact ⟨fun sends => by cases sends; exact ⟨rfl, rfl⟩, fun same => by
          obtain ⟨rfl, rfl⟩ := same; exact .take ..⟩
      by_cases here : x = r
      · subst here
        have free : l x = none := fresh
        have owned : l.step (.take n x) x = some (.owned n) := if_pos rfl
        rw [owned, free]
        refine iff_of_false (fun same => settled n (Option.some.inj same).symm) ?_
        rintro (absent | ⟨k, -, absent⟩)
        · cases absent
        · cases absent
      · have other : l.step (.take n r) x = l.leave n (some .lost) x := if_neg here
        rw [other]
        exact sent only
  | hand n =>
      refine sent fun k p' => ⟨fun sends => by cases sends; exact ⟨rfl, rfl⟩, fun same => ?_⟩
      obtain ⟨rfl, rfl⟩ := same
      exact .hand _
  | move n m =>
      have only : ∀ k p', (Transfer.move (R := R) n m).Sends k p' ↔ k = n ∧ p' = .lost := by
        intro k p'
        exact ⟨fun sends => by cases sends; exact ⟨rfl, rfl⟩, fun same => by
          obtain ⟨rfl, rfl⟩ := same; exact .move ..⟩
      by_cases here : m ≠ n ∧ l x = some (.owned m)
      · obtain ⟨apart, held⟩ := here
        have owned : l.step (.move n m) x = some (.owned n) := if_pos ⟨apart, held⟩
        rw [owned, held]
        refine iff_of_false (fun same => settled n (Option.some.inj same).symm) ?_
        rintro (same | ⟨k, sends, same⟩)
        · exact settled m (Option.some.inj same).symm
        · cases sends
          exact apart (Place.owned.inj (Option.some.inj same))
      · have other : l.step (.move n m) x = l.leave n (some .lost) x := if_neg here
        rw [other]
        exact sent only
  | drop n =>
      have dropped : l.step (.drop n) x = l.leave n none x := rfl
      rw [dropped, leave_settled settled]
      refine or_congr_right (iff_of_false (fun both => by cases both.1) ?_)
      rintro ⟨k, sends, -⟩
      cases sends

/-! ## Pools -/

/-- The ledger says which resources are allocated, and what each owner holds. -/
structure Right (l : Ledger N R) (allocated : Set R) (owner : N → Option R) : Prop where
  allocated : ∀ r, r ∈ allocated ↔ l r ≠ none
  owner : ∀ n r, owner n = some r ↔ l r = some (.owned n)

theorem leave_owned {dest : Option (Place N)} (settled : ∀ k, dest ≠ some (.owned k)) {k : N} :
    l.leave n dest x = some (.owned k) ↔ k ≠ n ∧ l x = some (.owned k) := by
  by_cases held : l x = some (.owned n)
  · rw [leave_of_owned held]
    refine iff_of_false (settled k) ?_
    rintro ⟨apart, other⟩
    exact apart (Place.owned.inj (Option.some.inj (other.symm.trans held)))
  · rw [leave_of_not held]
    refine (and_iff_right_of_imp ?_).symm
    rintro other rfl
    exact held other

theorem leave_ne_none {p : Place N} : l.leave n (some p) x ≠ none ↔ l x ≠ none := by
  by_cases held : l x = some (.owned n)
  · rw [leave_of_owned held, held]
    exact iff_of_true (Option.some_ne_none _) (Option.some_ne_none _)
  · rw [leave_of_not held]

open Classical in
/-- The ledger of a pool without owners. -/
noncomputable def opening (allocated : Set R) : Ledger N R := fun x =>
  if x ∈ allocated then some .start else none

theorem opening_some {allocated : Set R} {p : Place N} :
    opening allocated x = some p ↔ x ∈ allocated ∧ p = .start := by
  unfold opening
  rw [Option.ite_none_right_eq_some, Option.some_inj, eq_comm]

theorem right_opening (allocated : Set R) :
    Right (opening allocated) allocated fun _ : N => none where
  allocated x := by
    rw [Option.ne_none_iff_exists']
    constructor
    · intro mem
      exact ⟨.start, opening_some.mpr ⟨mem, rfl⟩⟩
    · rintro ⟨p, opened⟩
      exact (opening_some.mp opened).1
  owner n x := by
    refine iff_of_false (fun absent => by cases absent) fun opened => ?_
    cases (opening_some.mp opened).2

namespace Right

variable [DecidableEq N] {allocated : Set R} {owner : N → Option R}

/-- What `n` holds goes to a place without an owner. -/
theorem settle {p : Place N} (right : Right l allocated owner) (settled : ∀ k, p ≠ .owned k) :
    Right (l.leave n (some p)) allocated (Function.update owner n none) where
  allocated x := (right.allocated x).trans leave_ne_none.symm
  owner k x := by
    rw [leave_owned fun k same => settled k (Option.some.inj same), ← right.owner]
    by_cases here : k = n
    · subst here
      rw [Function.update_self]
      exact iff_of_false (Option.some_ne_none _).symm fun both => both.1 rfl
    · rw [Function.update_of_ne here]
      exact (and_iff_right here).symm

theorem drop (right : Right l allocated owner) :
    Right (l.step (.drop n)) (allocated \ {x | owner n = some x}) (Function.update owner n none) where
  allocated x := by
    have dropped : l.step (.drop n) x = l.leave n none x := rfl
    rw [dropped, Set.mem_sdiff, right.allocated, Set.mem_ofPred_eq, right.owner]
    by_cases held : l x = some (.owned n)
    · rw [leave_of_owned held]
      exact iff_of_false (fun both => both.2 held) fun differ => differ rfl
    · rw [leave_of_not held]
      exact and_iff_left held
  owner k x := by
    have dropped : l.step (.drop n) x = l.leave n none x := rfl
    rw [dropped, leave_owned (fun _ same => by cases same), ← right.owner]
    by_cases here : k = n
    · subst here
      rw [Function.update_self]
      exact iff_of_false (Option.some_ne_none _).symm fun both => both.1 rfl
    · rw [Function.update_of_ne here]
      exact (and_iff_right here).symm

theorem take (right : Right l allocated owner) (free : l r = none) :
    Right (l.step (.take n r)) (insert r allocated) (Function.update owner n (some r)) where
  allocated x := by
    by_cases here : x = r
    · subst here
      have taken : l.step (.take n x) x = some (.owned n) := if_pos rfl
      rw [taken]
      exact iff_of_true (Set.mem_insert ..) (Option.some_ne_none _)
    · have other : l.step (.take n r) x = l.leave n (some .lost) x := if_neg here
      rw [other, leave_ne_none, Set.mem_insert_iff, right.allocated]
      exact or_iff_right here
  owner k x := by
    by_cases here : x = r
    · subst here
      have taken : l.step (.take n x) x = some (.owned n) := if_pos rfl
      rw [taken, Option.some_inj, Place.owned.injEq]
      by_cases same : k = n
      · subst same
        rw [Function.update_self]
        exact iff_of_true rfl rfl
      · rw [Function.update_of_ne same, right.owner, free]
        exact iff_of_false (fun absent => by cases absent) fun back => same back.symm
    · have other : l.step (.take n r) x = l.leave n (some .lost) x := if_neg here
      rw [other, leave_owned (fun _ same => by cases same), ← right.owner]
      by_cases same : k = n
      · subst same
        rw [Function.update_self, Option.some_inj]
        exact iff_of_false (fun back => here back.symm) fun both => both.1 rfl
      · rw [Function.update_of_ne same]
        exact (and_iff_right same).symm

theorem move (right : Right l allocated owner) :
    Right (l.step (.move n m)) allocated
      (Function.update (Function.update owner n (owner m)) m none) where
  allocated x := by
    by_cases here : m ≠ n ∧ l x = some (.owned m)
    · have moved : l.step (.move n m) x = some (.owned n) := if_pos here
      rw [moved, right.allocated, here.2]
      exact iff_of_true (Option.some_ne_none _) (Option.some_ne_none _)
    · have other : l.step (.move n m) x = l.leave n (some .lost) x := if_neg here
      rw [other, leave_ne_none, right.allocated]
  owner k x := by
    by_cases here : m ≠ n ∧ l x = some (.owned m)
    · have moved : l.step (.move n m) x = some (.owned n) := if_pos here
      have held : owner m = some x := (right.owner m x).mpr here.2
      rw [moved, Option.some_inj, Place.owned.injEq]
      by_cases source : k = m
      · subst source
        rw [Function.update_self]
        exact iff_of_false (Option.some_ne_none _).symm fun same => here.1 same.symm
      · rw [Function.update_of_ne source]
        by_cases target : k = n
        · subst target
          rw [Function.update_self]
          exact iff_of_true held rfl
        · rw [Function.update_of_ne target, right.owner, here.2, Option.some_inj, Place.owned.injEq]
          exact iff_of_false (fun same => source same.symm) fun same => target same.symm
    · have other : l.step (.move n m) x = l.leave n (some .lost) x := if_neg here
      rw [other, leave_owned fun _ same => by cases same]
      by_cases source : k = m
      · subst source
        rw [Function.update_self]
        refine iff_of_false (Option.some_ne_none _).symm ?_
        rintro ⟨apart, held⟩
        exact here ⟨apart, held⟩
      · rw [Function.update_of_ne source]
        by_cases target : k = n
        · subst target
          rw [Function.update_self, right.owner]
          refine iff_of_false (fun held => here ⟨Ne.symm source, held⟩) fun both => both.1 rfl
        · rw [Function.update_of_ne target, right.owner]
          exact (and_iff_right target).symm

end Right

end Ledger

end SonicNasAcl.Lib
