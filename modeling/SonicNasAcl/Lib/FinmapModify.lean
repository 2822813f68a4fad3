/-
# Lib.FinmapModify -- change the value a key holds

`modifyAt k f m` applies `f` to the value `m` holds at `k`, and does nothing when
there is none: an update through a reference into the map.  `lookup_modifyAt` is all that
is ever needed about it.
-/
import Mathlib.Data.Finmap

namespace SonicNasAcl.Lib

set_option autoImplicit false

variable {κ α : Type} [DecidableEq κ]

def modifyAt (k : κ) (f : α → α) (m : Finmap fun _ : κ => α) : Finmap fun _ : κ => α :=
  match m.lookup k with
  | none => m
  | some x => m.insert k (f x)

theorem lookup_modifyAt (k k' : κ) (f : α → α) (m : Finmap fun _ : κ => α) :
    (modifyAt k f m).lookup k' = if k' = k then (m.lookup k').map f else m.lookup k' := by
  unfold modifyAt
  by_cases here : k' = k
  · subst here
    rw [if_pos rfl]
    cases held : m.lookup k' with
    | none => exact held
    | some x => exact Finmap.lookup_insert _
  · rw [if_neg here]
    cases m.lookup k with
    | none => rfl
    | some x => exact Finmap.lookup_insert_of_ne _ here

/-- One key, put into an empty map. -/
theorem keys_insert_empty (k : κ) (x : α) :
    ((∅ : Finmap fun _ : κ => α).insert k x).keys = {k} := by
  ext k'
  rw [Finmap.mem_keys, Finmap.mem_insert, Finset.mem_singleton, or_iff_left Finmap.notMem_empty]

end SonicNasAcl.Lib
