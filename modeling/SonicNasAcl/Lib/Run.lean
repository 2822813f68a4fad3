/-
# Lib.Run -- what holds in every reachable state

A system that takes one input at a time: `next s i` is the state after input `i`, or
`none` when the system is gone.  `allowed s i` is the condition under which an input
is considered, so that a property that needs care from the caller is still a property
of runs.

* `Reachable.invariant` is the induction over runs, done once;
* `Reachable.invariant_within` is the same with an invariant already known;
* `Reachable.mono` restricts the inputs further;
* `after` runs a list of inputs, and `Reachable.after` says that this reaches a state;
* `Reachable.of_tests` is the same for inputs that are tested where they come.
-/
import Mathlib.Data.List.Basic

namespace SonicNasAcl.Lib

set_option autoImplicit false

variable {σ ι : Type}

/-- The states reached from `init` by inputs that are allowed where they come. -/
inductive Reachable (init : σ) (next : σ → ι → Option σ) (allowed : σ → ι → Prop) : σ → Prop
  | init : Reachable init next allowed init
  | step {s s' : σ} {i : ι} (reached : Reachable init next allowed s) (here : allowed s i)
      (stepped : next s i = some s') : Reachable init next allowed s'

namespace Reachable

variable {init : σ} {next : σ → ι → Option σ} {allowed allowed' : σ → ι → Prop} {s : σ}

/-- What holds at first and survives every allowed input holds in every reachable state. -/
theorem invariant (Inv : σ → Prop) (first : Inv init)
    (kept : ∀ s i s', Inv s → allowed s i → next s i = some s' → Inv s')
    (reached : Reachable init next allowed s) : Inv s := by
  induction reached with
  | init => exact first
  | step _ here stepped ih => exact kept _ _ _ ih here stepped

/-- An invariant that is known may be used in proving another. -/
theorem invariant_within (Known Inv : σ → Prop)
    (known : ∀ s, Reachable init next allowed s → Known s) (first : Inv init)
    (kept : ∀ s i s', Known s → Inv s → allowed s i → next s i = some s' → Inv s')
    (reached : Reachable init next allowed s) : Inv s := by
  induction reached with
  | init => exact first
  | step before here stepped ih => exact kept _ _ _ (known _ before) ih here stepped

theorem mono (fewer : ∀ s i, allowed s i → allowed' s i)
    (reached : Reachable init next allowed s) : Reachable init next allowed' s := by
  induction reached with
  | init => exact .init
  | step _ here stepped ih => exact .step ih (fewer _ _ here) stepped

end Reachable

/-- The state after a list of inputs; the first one if the system is gone by then. -/
def after (init : σ) (next : σ → ι → Option σ) (is : List ι) : σ := (is.foldlM next init).getD init

namespace Reachable

variable {init : σ} {next : σ → ι → Option σ} {allowed : σ → ι → Prop}

theorem foldlM {s s' : σ} {is : List ι} (reached : Reachable init next allowed s)
    (fine : ∀ i ∈ is, ∀ s, allowed s i) (ran : is.foldlM next s = some s') :
    Reachable init next allowed s' := by
  induction is generalizing s with
  | nil =>
      cases ran
      exact reached
  | cons i rest ih =>
      obtain ⟨s₁, stepped, ran⟩ := Option.bind_eq_some_iff.mp ran
      refine ih (.step reached (fine i (List.mem_cons_self ..) s) stepped) ?_ ran
      exact fun j mem => fine j (List.mem_cons_of_mem _ mem)

theorem after {is : List ι} (fine : ∀ i ∈ is, ∀ s, allowed s i) :
    Reachable init next allowed (after init next is) := by
  unfold Lib.after
  cases ran : is.foldlM next init with
  | none => exact .init
  | some s => exact Reachable.init.foldlM fine ran

/-- A list of inputs reaches a state, when each passes a test where it comes. -/
theorem of_tests {s s' : σ} {is : List ι} {test : σ → ι → Bool}
    (sound : ∀ i ∈ is, ∀ s, test s i = true → allowed s i) (reached : Reachable init next allowed s)
    (ran : is.foldlM (fun s i => if test s i then next s i else none) s = some s') :
    Reachable init next allowed s' := by
  induction is generalizing s with
  | nil =>
      cases ran
      exact reached
  | cons i rest ih =>
      obtain ⟨here, sound⟩ := List.forall_mem_cons.mp sound
      obtain ⟨s₁, stepped, ran⟩ := Option.bind_eq_some_iff.mp ran
      by_cases passed : test s i = true
      · exact ih sound (.step reached (here s passed) ((if_pos passed).symm.trans stepped)) ran
      · cases (if_neg passed).symm.trans stepped

end Reachable

end SonicNasAcl.Lib
