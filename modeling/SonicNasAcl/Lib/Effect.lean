/-
# Lib.Effect -- computations that fail without losing their state

A C++ function that throws leaves behind whatever it had already written.  `Eff`
is that reading of an exception: a computation from a state to an outcome *and*
the state it stopped in, on the error exit as on the normal one.

* `Eff.bind_ok` and `Eff.bind_error` are the two inversions of a sequence: what
  must have happened for it to return, and where it can have stopped;
* `Eff.Spec` is the two-exit Hoare triple, with one rule per combinator
  (`Spec.bind`, `Spec.query`, `Spec.write`, `Spec.ensuring`, ...);
* `Eff.ensuring` is the scope of a destructor: its action runs on both exits;
* `except_foldlM_once` is a loop whose turns do not meddle with each other;
* `Accepts` says of a computation without a state when it returns, and what
  (`Accepts.mapM` for a loop).
-/
import Mathlib.Data.List.Forall2
import Mathlib.Logic.Unique

namespace SonicNasAcl.Lib

set_option autoImplicit false

/-! ## Exceptions without a state -/

theorem except_bind_ok {ε α β : Type} {x : Except ε α} {f : α → Except ε β} {b : β} :
    (x >>= f) = .ok b ↔ ∃ a, x = .ok a ∧ f a = .ok b := by
  cases x with
  | ok a =>
      constructor
      · intro ran
        exact ⟨a, rfl, ran⟩
      · rintro ⟨a', same, ran⟩
        cases same
        exact ran
  | error e =>
      constructor
      · intro ran
        cases ran
      · rintro ⟨a', same, -⟩
        cases same

theorem except_bind_error {ε α β : Type} {x : Except ε α} {f : α → Except ε β} {e : ε} :
    (x >>= f) = .error e ↔ x = .error e ∨ ∃ a, x = .ok a ∧ f a = .error e := by
  cases x with
  | ok a =>
      constructor
      · intro stopped
        exact .inr ⟨a, rfl, stopped⟩
      · rintro (same | ⟨a', same, stopped⟩)
        · cases same
        · cases same
          exact stopped
  | error e' =>
      constructor
      · intro stopped
        cases stopped
        exact .inl rfl
      · rintro (same | ⟨a', same, -⟩)
        · cases same
          rfl
        · cases same

@[simp] theorem except_pure {ε α : Type} (a : α) : (pure a : Except ε α) = .ok a := rfl

@[simp] theorem except_ok_bind {ε α β : Type} (a : α) (f : α → Except ε β) :
    ((.ok a : Except ε α) >>= f) = f a := rfl

@[simp] theorem except_error_bind {ε α β : Type} (e : ε) (f : α → Except ε β) :
    ((.error e : Except ε α) >>= f) = .error e := rfl

/-- `if (c) throw e;` -/
def throwIf {ε : Type} (c : Prop) [Decidable c] (e : ε) : Except ε Unit :=
  if c then .error e else .ok ()

theorem throwIf_ok {ε : Type} {c : Prop} [Decidable c] {e : ε} {u : Unit} :
    throwIf c e = .ok u ↔ ¬ c := by
  unfold throwIf
  by_cases h : c
  · simp only [h, if_true, reduceCtorEq, not_true_eq_false]
  · simp only [h, if_false, not_false_eq_true]

/-- A loop runs to its end exactly when its body does each time. -/
theorem except_forM_ok {ε α : Type} {f : α → Except ε Unit} {l : List α} :
    l.forM f = .ok () ↔ ∀ a ∈ l, f a = .ok () := by
  induction l with
  | nil => exact iff_of_true rfl fun _ absent => absurd absent List.not_mem_nil
  | cons a rest ih =>
      rw [List.forM, except_bind_ok, List.forall_mem_cons, ← ih]
      exact Unique.exists_iff

/-- What every turn of a loop keeps holds when the loop comes to its end. -/
theorem except_foldlM_invariant {ε α β : Type} {f : β → α → Except ε β} {P : β → Prop}
    (kept : ∀ b a b', P b → f b a = .ok b' → P b') {l : List α} {b b' : β} (first : P b)
    (ran : l.foldlM f b = .ok b') : P b' := by
  induction l generalizing b with
  | nil =>
      cases ran
      exact first
  | cons a rest ih =>
      rw [List.foldlM_cons, except_bind_ok] at ran
      obtain ⟨mid, turn, ran⟩ := ran
      exact ih (kept b a mid first turn) ran

/-- Loops whose turns are the same. -/
theorem except_foldlM_congr {ε α β : Type} {f g : β → α → Except ε β} {l : List α}
    (same : ∀ a ∈ l, ∀ b, f b a = g b a) {b : β} : l.foldlM f b = l.foldlM g b := by
  induction l generalizing b with
  | nil => rfl
  | cons a rest ih =>
      rw [List.foldlM_cons, List.foldlM_cons, same a (List.mem_cons_self ..)]
      refine congrArg (g b a >>= ·) (funext fun mid => ?_)
      exact ih fun c mem => same c (List.mem_cons_of_mem _ mem)

/-- A loop over several lists, one after the other. -/
theorem except_foldlM_flatMap {ε α β γ : Type} {f : β → γ → Except ε β} {g : α → List γ}
    {l : List α} {b : β} :
    (l.flatMap g).foldlM f b = l.foldlM (fun b a => (g a).foldlM f b) b := by
  induction l generalizing b with
  | nil => rfl
  | cons a rest ih =>
      rw [List.flatMap_cons, List.foldlM_append, List.foldlM_cons]
      exact congrArg (_ >>= ·) (funext fun mid => ih)

/-- A loop whose turns use up a list: `J rest b` is the invariant when `rest` is left. -/
theorem except_foldlM_consume {ε α β γ : Type} {f : β → α → Except ε β} {g : α → List γ}
    {J : List γ → β → Prop}
    (turn : ∀ a rest b b', J (g a ++ rest) b → f b a = .ok b' → J rest b') {l : List α}
    {rest : List γ} {b b' : β} (first : J (l.flatMap g ++ rest) b) (ran : l.foldlM f b = .ok b') :
    J rest b' := by
  induction l generalizing b with
  | nil =>
      cases ran
      exact first
  | cons a as ih =>
      rw [List.foldlM_cons, except_bind_ok] at ran
      obtain ⟨mid, once, ran⟩ := ran
      rw [List.flatMap_cons, List.append_assoc] at first
      exact ih (turn a _ b mid first once) ran

/-- A loop whose turns append what they compute. -/
theorem except_foldlM_append {ε α β : Type} {f : List β → α → Except ε (List β)}
    {g : α → Except ε (List β)} {l : List α} (turn : ∀ a ∈ l, ∀ r, f r a = (g a).map (r ++ ·))
    {r r' : List β} :
    l.foldlM f r = .ok r' ↔
      (∀ a ∈ l, ∃ v, g a = .ok v) ∧ r' = r ++ l.flatMap fun a => (g a).toOption.getD [] := by
  induction l generalizing r with
  | nil =>
      rw [List.flatMap_nil, List.append_nil]
      constructor
      · rintro ⟨⟩
        exact ⟨fun _ absent => absurd absent List.not_mem_nil, rfl⟩
      · rintro ⟨-, rfl⟩
        rfl
  | cons a rest ih =>
      rw [List.foldlM_cons, List.forall_mem_cons, List.flatMap_cons,
        turn a (List.mem_cons_self ..)]
      cases g a with
      | error e =>
          refine iff_of_false (fun ran => by cases ran) ?_
          rintro ⟨⟨⟨v, failed⟩, -⟩, -⟩
          cases failed
      | ok v =>
          refine (ih (r := r ++ v) fun b mem => turn b (List.mem_cons_of_mem _ mem)).trans ?_
          rw [List.append_assoc]
          exact and_congr_left fun _ => (and_iff_right ⟨v, rfl⟩).symm

/-- A filter keeps what its test accepts. -/
theorem except_filterM_accepts {ε α : Type} {f : α → Except ε Bool} {l r : List α}
    (ran : l.filterM f = .ok r) : ∀ a ∈ r, f a = .ok true := by
  have inner : ∀ acc kept, (∀ a ∈ acc, f a = .ok true) → l.filterAuxM f acc = .ok kept →
      ∀ a ∈ kept, f a = .ok true := by
    clear ran
    induction l with
    | nil =>
        intro acc kept accepted ran
        cases ran
        exact accepted
    | cons b rest ih =>
        intro acc kept accepted ran
        obtain ⟨verdict, tested, ran⟩ := except_bind_ok.mp ran
        cases verdict with
        | false => exact ih acc kept accepted ran
        | true => exact ih (b :: acc) kept (List.forall_mem_cons.mpr ⟨tested, accepted⟩) ran
  obtain ⟨kept, inside, ran⟩ := except_bind_ok.mp ran
  cases ran
  intro a mem
  exact inner [] kept (List.forall_mem_nil _) inside a (List.mem_reverse.mp mem)

/-- A filter whose test accepts everything keeps everything. -/
theorem except_filterM_all {ε α : Type} {f : α → Except ε Bool} {l : List α}
    (accepted : ∀ a ∈ l, f a = .ok true) : l.filterM f = .ok l := by
  have inner : ∀ acc, l.filterAuxM f acc = .ok (l.reverse ++ acc) := by
    induction l with
    | nil => exact fun acc => rfl
    | cons b rest ih =>
        intro acc
        obtain ⟨here, accepted⟩ := List.forall_mem_cons.mp accepted
        rw [List.filterAuxM, here, except_ok_bind, List.reverse_cons, List.append_assoc]
        exact ih accepted (b :: acc)
  rw [List.filterM, inner, except_ok_bind, List.append_nil, List.reverse_reverse]
  rfl

/-- A loop that collects what its turns compute. -/
theorem except_mapM_ok {ε α β : Type} {f : α → Except ε β} {l : List α} {r : List β} :
    l.mapM f = .ok r ↔
      (∀ a ∈ l, ∃ b, f a = .ok b) ∧ r = l.filterMap fun a => (f a).toOption := by
  induction l generalizing r with
  | nil =>
      constructor
      · rintro ⟨⟩
        exact ⟨fun _ absent => absurd absent List.not_mem_nil, rfl⟩
      · rintro ⟨-, rfl⟩
        rfl
  | cons a rest ih =>
      rw [List.mapM_cons, List.forall_mem_cons]
      cases here : f a with
      | error e =>
          refine iff_of_false (fun ran => by cases ran) ?_
          rintro ⟨⟨⟨b, failed⟩, -⟩, -⟩
          cases failed
      | ok b =>
          have split : (a :: rest).filterMap (fun a => (f a).toOption)
              = b :: rest.filterMap fun a => (f a).toOption := by
            rw [List.filterMap_cons, here]
            rfl
          rw [except_ok_bind, split]
          simp only [except_bind_ok, ih, except_pure, Except.ok.injEq]
          constructor
          · rintro ⟨more, ⟨fine, rfl⟩, rfl⟩
            exact ⟨⟨⟨b, rfl⟩, fine⟩, rfl⟩
          · rintro ⟨⟨-, fine⟩, rfl⟩
            exact ⟨_, ⟨fine, rfl⟩, rfl⟩

/-- A loop whose turns compute a value and then use it: the values may be computed first. -/
theorem except_foldlM_mapM {ε α β γ : Type} {g : α → Except ε γ} {f : β → γ → Except ε β}
    {l : List α} {b b' : β} :
    l.foldlM (fun b a => g a >>= f b) b = .ok b' ↔
      ∃ xs, l.mapM g = .ok xs ∧ xs.foldlM f b = .ok b' := by
  induction l generalizing b with
  | nil =>
      constructor
      · exact fun ran => ⟨[], rfl, ran⟩
      · rintro ⟨xs, ⟨⟩, ran⟩
        exact ran
  | cons a rest ih =>
      simp only [List.foldlM_cons, List.mapM_cons, except_bind_ok, except_pure, Except.ok.injEq, ih]
      constructor
      · rintro ⟨mid, ⟨x, here, step⟩, xs, read, ran⟩
        exact ⟨x :: xs, ⟨x, here, xs, read, rfl⟩, except_bind_ok.mpr ⟨mid, step, ran⟩⟩
      · rintro ⟨_, ⟨x, here, xs, read, rfl⟩, ran⟩
        obtain ⟨mid, step, ran⟩ := except_bind_ok.mp ran
        exact ⟨mid, ⟨x, here, step⟩, xs, read, ran⟩

/-- A value that the turns of a loop compute with is found from what they come to. -/
theorem except_filterMap_keys {ε α β κ : Type} {g : α → Except ε β} {h : α → Except ε κ} {key : β → κ}
    (named : ∀ a x, g a = .ok x → h a = .ok (key x)) (l : List α) :
    ((l.filterMap fun a => (g a).toOption).map key).Sublist
      (l.filterMap fun a => (h a).toOption) := by
  induction l with
  | nil => exact List.Sublist.slnil
  | cons a rest ih =>
      cases here : g a with
      | error err =>
          have skip : (a :: rest).filterMap (fun a => (g a).toOption)
              = rest.filterMap fun a => (g a).toOption := by
            rw [List.filterMap_cons, here]
            rfl
          rw [skip]
          exact ih.trans ((List.sublist_cons_self a rest).filterMap _)
      | ok x =>
          rw [List.filterMap_cons, List.filterMap_cons, here, named a x here]
          exact ih.cons_cons (key x)

/-- Over a list in another order the same values are collected, in another order. -/
theorem except_mapM_perm {ε α β : Type} {f : α → Except ε β} {l l' : List α} {r : List β}
    (perm : l'.Perm l) (ran : l.mapM f = .ok r) : ∃ r', l'.mapM f = .ok r' ∧ r'.Perm r := by
  obtain ⟨fine, rfl⟩ := except_mapM_ok.mp ran
  exact ⟨_, except_mapM_ok.mpr ⟨fun a mem => fine a (perm.mem_iff.mp mem), rfl⟩,
    perm.filterMap _⟩

/-- A path along a list: each element leads from one state to the next. -/
inductive Along {α σ : Type} (R : α → σ → σ → Prop) : List α → σ → σ → Prop
  | nil (s : σ) : Along R [] s s
  | cons {a : α} {l : List α} {s mid s' : σ} (step : R a s mid) (rest : Along R l mid s') :
      Along R (a :: l) s s'

namespace Along

variable {α σ : Type} {R : α → σ → σ → Prop} {l : List α} {s s' : σ}

theorem cons_iff {a : α} : Along R (a :: l) s s' ↔ ∃ mid, R a s mid ∧ Along R l mid s' := by
  constructor
  · intro path
    cases path with
    | cons step rest => exact ⟨_, step, rest⟩
  · rintro ⟨mid, step, rest⟩
    exact .cons step rest

theorem nil_iff : Along R [] s s' ↔ s' = s := by
  constructor
  · rintro ⟨⟩
    rfl
  · rintro rfl
    exact .nil _

/-- Steps that correspond to each other lead to the same states. -/
theorem congr {R' : α → σ → σ → Prop} {l' : List α}
    (same : List.Forall₂ (fun a a' => ∀ s s', R a s s' ↔ R' a' s s') l l') :
    Along R l s s' ↔ Along R' l' s s' := by
  induction same generalizing s with
  | nil => rw [nil_iff, nil_iff]
  | cons here _ ih =>
      rw [cons_iff, cons_iff]
      exact exists_congr fun mid => and_congr (here s mid) ih

/-- What every step keeps, a path keeps. -/
theorem keeps {P : σ → Prop} (step : ∀ a s s', P s → R a s s' → P s') (first : P s)
    (path : Along R l s s') : P s' := by
  induction path with
  | nil => exact first
  | cons here _ ih => exact ih (step _ _ _ first here)

/-- Steps that lead to one state each make a path do so. -/
theorem unique (step : ∀ a s s₁ s₂, R a s s₁ → R a s s₂ → s₁ = s₂) {s'' : σ}
    (path : Along R l s s') (path' : Along R l s s'') : s' = s'' := by
  induction path with
  | nil =>
      cases path'
      rfl
  | cons here _ ih =>
      obtain ⟨mid, there, rest⟩ := cons_iff.mp path'
      obtain rfl := step _ _ _ _ here there
      exact ih rest

end Along

/-- A loop that comes to its end has taken every turn. -/
theorem except_foldlM_ok {ε α β : Type} {f : β → α → Except ε β} {l : List α} {b b' : β} :
    l.foldlM f b = .ok b' ↔ Along (fun a b b' => f b a = .ok b') l b b' := by
  induction l generalizing b with
  | nil =>
      constructor
      · rintro ⟨⟩
        exact .nil _
      · rintro ⟨⟩
        rfl
  | cons a rest ih =>
      rw [List.foldlM_cons, except_bind_ok, Along.cons_iff]
      exact exists_congr fun mid => and_congr_right fun _ => ih

/-- A loop in which every element has a turn of its own, and no other turn touches what its turn
looks at. -/
theorem except_foldlM_once {ε α σ : Type} {f : σ → α → Except ε σ} {ok : α → Prop}
    {act : σ → α → σ} (clean : α → σ → Prop) {l : List α} (apart : l.Nodup)
    (turn : ∀ a ∈ l, ∀ s s', clean a s → (f s a = .ok s' ↔ ok a ∧ s' = act s a))
    (kept : ∀ a b s, a ≠ b → clean a s → clean a (act s b)) {s s' : σ}
    (first : ∀ a ∈ l, clean a s) :
    l.foldlM f s = .ok s' ↔ (∀ a ∈ l, ok a) ∧ s' = l.foldl act s := by
  induction l generalizing s with
  | nil =>
      rw [List.foldlM_nil, except_pure, Except.ok.injEq, List.foldl_nil, @eq_comm σ s s']
      exact (and_iff_right (List.forall_mem_nil _)).symm
  | cons a rest ih =>
      obtain ⟨other, apart⟩ := List.nodup_cons.mp apart
      obtain ⟨here, later⟩ := List.forall_mem_cons.mp first
      obtain ⟨turn_a, turn⟩ := List.forall_mem_cons.mp turn
      have after : ∀ b ∈ rest, clean b (act s a) := fun b mem =>
        kept b a s (fun same => other (same ▸ mem)) (later b mem)
      rw [List.foldlM_cons, except_bind_ok, List.foldl_cons, List.forall_mem_cons, and_assoc]
      constructor
      · rintro ⟨mid, step, ran⟩
        obtain ⟨fine, rfl⟩ := (turn_a s mid here).mp step
        exact ⟨fine, (ih apart turn after).mp ran⟩
      · rintro ⟨fine, ran⟩
        exact ⟨_, (turn_a s _ here).mpr ⟨fine, rfl⟩, (ih apart turn after).mpr ran⟩

/-- What only the turn of one element changes. -/
theorem foldl_once {α σ β : Type} [DecidableEq α] {act : σ → α → σ} (a : α) (field : σ → β)
    {h : β → β} (clean : σ → Prop) (kept : ∀ b s, b ≠ a → clean s → clean (act s b))
    (others : ∀ b s, b ≠ a → field (act s b) = field s)
    (turn : ∀ s, clean s → field (act s a) = h (field s)) {l : List α} (apart : l.Nodup) {s : σ}
    (first : clean s) :
    field (l.foldl act s) = if a ∈ l then h (field s) else field s := by
  induction l generalizing s with
  | nil => rfl
  | cons b rest ih =>
      obtain ⟨other, apart⟩ := List.nodup_cons.mp apart
      rw [List.foldl_cons]
      by_cases here : b = a
      · subst here
        have untouched {m : List α} (absent : b ∉ m) (s : σ) : field (m.foldl act s) = field s := by
          induction m generalizing s with
          | nil => rfl
          | cons c m ih' =>
              obtain ⟨ne, absent⟩ := not_or.mp (List.mem_cons.not.mp absent)
              rw [List.foldl_cons, ih' absent, others c s (Ne.symm ne)]
        rw [untouched other, turn s first, if_pos (List.mem_cons_self ..)]
      · rw [ih apart (kept b s here first), others b s here]
        simp only [List.mem_cons, Ne.symm here, false_or]

theorem except_toOption {ε α : Type} {x : Except ε α} {a : α} :
    x.toOption = some a ↔ x = .ok a := by
  cases x with
  | error e => exact iff_of_false (fun same => by cases same) fun same => by cases same
  | ok b => exact ⟨fun same => congrArg Except.ok (Option.some.inj same), fun same => congrArg _ same⟩

/-- A test of the outcome of a computation. -/
theorem except_isOk {ε α : Type} {x : Except ε α} : x.isOk = true ↔ ∃ a, x = .ok a := by
  cases x with
  | ok a => exact iff_of_true rfl ⟨a, rfl⟩
  | error err => exact iff_of_false Bool.false_ne_true fun there => by cases there.choose_spec

theorem except_any_iff {ε α : Type} {x : Except ε α} {f : α → Bool} :
    x.toOption.any f = true ↔ ∃ a, x = .ok a ∧ f a = true := by
  cases x with
  | error e =>
      refine iff_of_false (fun passed => by cases passed) ?_
      rintro ⟨a, failed, -⟩
      cases failed
  | ok a =>
      constructor
      · intro passed
        exact ⟨a, rfl, passed⟩
      · rintro ⟨a', same, passed⟩
        cases same
        exact passed

/-! ### Checked computations -/

/-- `x` returns `a` exactly when `good`, and else stops with an error of the kind `E`. -/
def Accepts {ε α : Type} (E : ε → Prop) (good : Prop) (a : α) (x : Except ε α) : Prop :=
  (good ∧ x = .ok a) ∨ (¬ good ∧ ∃ e, E e ∧ x = .error e)

namespace Accepts

variable {ε α β : Type} {E : ε → Prop} {good good' : Prop} {a b : α} {x : Except ε α}

theorem ok_iff (h : Accepts E good a x) : x = .ok b ↔ good ∧ b = a := by
  rcases h with ⟨fine, rfl⟩ | ⟨bad, e, -, rfl⟩
  · rw [Except.ok.injEq, eq_comm]
    exact (and_iff_right fine).symm
  · refine iff_of_false (fun ran => by cases ran) ?_
    rintro ⟨fine, -⟩
    exact bad fine

theorem error_of_not (h : Accepts E good a x) (bad : ¬ good) : ∃ e, E e ∧ x = .error e := by
  rcases h with ⟨fine, -⟩ | ⟨-, stopped⟩
  · exact absurd fine bad
  · exact stopped

theorem congr (h : Accepts E good a x) (same : good ↔ good') : Accepts E good' a x := by
  rw [Accepts, ← same]
  exact h

theorem map (h : Accepts E good a x) (f : α → β) : Accepts E good (f a) (x >>= fun a => .ok (f a)) := by
  rcases h with ⟨fine, rfl⟩ | ⟨bad, e, kind, rfl⟩
  · exact .inl ⟨fine, rfl⟩
  · exact .inr ⟨bad, e, kind, rfl⟩

/-- A loop of checked computations is checked element by element. -/
theorem mapM {f : β → Except ε α} {g : β → α} {ok : β → Prop} {l : List β}
    (each : ∀ b ∈ l, Accepts E (ok b) (g b) (f b)) :
    Accepts E (∀ b ∈ l, ok b) (l.map g) (l.mapM f) := by
  induction l with
  | nil => exact .inl ⟨fun _ absent => absurd absent List.not_mem_nil, rfl⟩
  | cons b rest ih =>
      have later := ih fun c mem => each c (List.mem_cons_of_mem _ mem)
      rw [List.mapM_cons, List.map_cons]
      rcases each b (List.mem_cons_self ..) with ⟨fine, here⟩ | ⟨bad, e, kind, here⟩
      · rw [here, except_ok_bind]
        refine (later.map (g b :: ·)).congr ?_
        rw [List.forall_mem_cons]
        exact (and_iff_right fine).symm
      · rw [here]
        refine .inr ⟨fun all => bad (all b (List.mem_cons_self ..)), e, kind, rfl⟩

end Accepts

/-- A computation over a state `σ` that may stop with an error `ε`. -/
def Eff (ε σ α : Type) : Type := σ → Except ε α × σ

namespace Eff

variable {ε σ α β : Type}

/-! ## Combinators -/

def pure (a : α) : Eff ε σ α := fun s => (.ok a, s)

def bind (x : Eff ε σ α) (f : α → Eff ε σ β) : Eff ε σ β := fun s =>
  match x s with
  | (.ok a, s') => f a s'
  | (.error e, s') => (.error e, s')

instance : Monad (Eff ε σ) where
  pure := Eff.pure
  bind := Eff.bind

instance : LawfulMonad (Eff ε σ) := LawfulMonad.mk' (Eff ε σ)
  (fun x => by
    funext s
    change (match x s with | (.ok a, s') => _ | (.error e, s') => _) = _
    rcases x s with ⟨e | a, s'⟩ <;> rfl)
  (fun _ _ => rfl)
  (fun x f g => by
    funext s
    change Eff.bind (Eff.bind x f) g s = Eff.bind x (fun a => Eff.bind (f a) g) s
    unfold Eff.bind
    rcases x s with ⟨e | a, s'⟩ <;> rfl)

/-- A loop over lists put together is a loop of loops. -/
theorem forM_flatMap {γ : Type} (l : List β) (g : β → List γ) (f : γ → Eff ε σ Unit) :
    (l.flatMap g).forM f = l.forM fun b => (g b).forM f := by
  induction l with
  | nil => rfl
  | cons b rest ih =>
      have split : (g b ++ rest.flatMap g).forM f
          = (g b).forM f >>= fun _ => (rest.flatMap g).forM f := List.forM_append
      rw [List.flatMap_cons, split, ih]
      rfl

def throw (e : ε) : Eff ε σ α := fun s => (.error e, s)

/-- Read the state, possibly failing, and leave it alone. -/
def query (f : σ → Except ε α) : Eff ε σ α := fun s => (f s, s)

/-- Replace the state. -/
def write (f : σ → σ) : Eff ε σ Unit := fun s => (.ok (), f s)

/-- Act on the state, or fail and leave it alone. -/
def step (f : σ → Except ε (α × σ)) : Eff ε σ α := fun s =>
  match f s with
  | .ok (a, s') => (.ok a, s')
  | .error e => (.error e, s)

/-- Run the body, then the scope's closing action, whichever exit was taken. -/
def ensuring (fin : σ → σ) (body : Eff ε σ α) : Eff ε σ α := fun s =>
  ((body s).1, fin (body s).2)

/-! ## Evaluation -/

@[simp] theorem pure_apply (a : α) (s : σ) : (Pure.pure a : Eff ε σ α) s = (.ok a, s) := rfl

@[simp] theorem throw_apply (e : ε) (s : σ) : (throw e : Eff ε σ α) s = (.error e, s) := rfl

@[simp] theorem query_apply (f : σ → Except ε α) (s : σ) : query f s = (f s, s) := rfl

@[simp] theorem write_apply (f : σ → σ) (s : σ) : (write f : Eff ε σ Unit) s = (.ok (), f s) := rfl

@[simp] theorem ensuring_apply (fin : σ → σ) (body : Eff ε σ α) (s : σ) :
    ensuring fin body s = ((body s).1, fin (body s).2) := rfl

theorem bind_apply (x : Eff ε σ α) (f : α → Eff ε σ β) (s : σ) :
    (x >>= f) s = match x s with
      | (.ok a, s') => f a s'
      | (.error e, s') => (.error e, s') := rfl

theorem bind_of_ok {x : Eff ε σ α} {f : α → Eff ε σ β} {s s' : σ} {a : α}
    (ran : x s = (.ok a, s')) : (x >>= f) s = f a s' := by
  rw [bind_apply, ran]

theorem bind_of_error {x : Eff ε σ α} {f : α → Eff ε σ β} {s s' : σ} {e : ε}
    (stopped : x s = (.error e, s')) : (x >>= f) s = (.error e, s') := by
  rw [bind_apply, stopped]

/-- A sequence returns exactly when both halves do, the second from where the
first stopped. -/
theorem bind_ok {x : Eff ε σ α} {f : α → Eff ε σ β} {s s' : σ} {b : β} :
    (x >>= f) s = (.ok b, s') ↔
      ∃ a mid, x s = (.ok a, mid) ∧ f a mid = (.ok b, s') := by
  rw [bind_apply]
  constructor
  · intro ran
    split at ran
    · rename_i a mid first
      exact ⟨a, mid, first, ran⟩
    · cases ran
  · rintro ⟨a, mid, first, second⟩
    rw [first]
    exact second

theorem bind_error {x : Eff ε σ α} {f : α → Eff ε σ β} {s s' : σ} {e : ε} :
    (x >>= f) s = (.error e, s') ↔
      x s = (.error e, s') ∨ ∃ a mid, x s = (.ok a, mid) ∧ f a mid = (.error e, s') := by
  rw [bind_apply]
  constructor
  · intro ran
    split at ran
    · rename_i a mid first
      exact .inr ⟨a, mid, first, ran⟩
    · rename_i e' mid first
      cases ran
      exact .inl first
  · rintro (first | ⟨a, mid, first, second⟩)
    · rw [first]
    · rw [first]
      exact second

/-- A sequence whose halves do or do not return whatever the state. -/
theorem seq_ok_iff {x y : Eff ε σ Unit} {left right : Prop}
    (first : ∀ s, (∃ s', x s = (.ok (), s')) ↔ left)
    (second : ∀ s, (∃ s', y s = (.ok (), s')) ↔ right) (s : σ) :
    (∃ s', (x >>= fun _ => y) s = (.ok (), s')) ↔ left ∧ right := by
  constructor
  · rintro ⟨s', ran⟩
    obtain ⟨⟨⟩, mid, here, there⟩ := bind_ok.mp ran
    exact ⟨(first s).mp ⟨mid, here⟩, (second mid).mp ⟨s', there⟩⟩
  · rintro ⟨here, there⟩
    obtain ⟨mid, here⟩ := (first s).mpr here
    obtain ⟨s', there⟩ := (second mid).mpr there
    exact ⟨s', bind_ok.mpr ⟨(), mid, here, there⟩⟩

/-- A loop whose turns do or do not return whatever the state returns when they all do. -/
theorem forM_ok_iff {f : β → Eff ε σ Unit} {good : β → Prop} {l : List β}
    (turn : ∀ b ∈ l, ∀ s, (∃ s', f b s = (.ok (), s')) ↔ good b) (s : σ) :
    (∃ s', l.forM f s = (.ok (), s')) ↔ ∀ b ∈ l, good b := by
  induction l generalizing s with
  | nil => exact iff_of_true ⟨s, rfl⟩ fun _ absent => absurd absent List.not_mem_nil
  | cons b rest ih =>
      rw [List.forall_mem_cons]
      exact seq_ok_iff (turn b (List.mem_cons_self ..))
        (ih fun c mem => turn c (List.mem_cons_of_mem _ mem)) s

/-- A loop whose turns each put one record in a log, or stop and leave it alone. -/
theorem forM_log {γ : Type} {f : β → Eff ε σ Unit} {log : σ → List γ} {record : β → Option γ}
    (turn : ∀ b s,
      (∃ r s', record b = some r ∧ f b s = (.ok (), s') ∧ log s' = log s ++ [r]) ∨
        record b = none ∧ ∃ e, f b s = (.error e, s)) (l : List β) (s : σ) :
    log (l.forM f s).2 = log s ++ (l.takeWhile fun b => (record b).isSome).filterMap record ∧
      ((l.forM f s).1 = .ok () ↔ ∀ b ∈ l, (record b).isSome) := by
  induction l generalizing s with
  | nil =>
      refine ⟨(List.append_nil _).symm, iff_of_true rfl ?_⟩
      exact fun _ absent => absurd absent List.not_mem_nil
  | cons b rest ih =>
      rcases turn b s with ⟨r, s', found, ran, logged⟩ | ⟨found, e, stopped⟩
      · have whole : (b :: rest).forM f s = rest.forM f s' := bind_of_ok ran
        obtain ⟨later, ends⟩ := ih s'
        rw [whole, later, logged, ends, List.takeWhile_cons, found, List.forall_mem_cons, found]
        refine ⟨?_, (and_iff_right rfl).symm⟩
        rw [Option.isSome_some, if_pos rfl, List.filterMap_cons_some found, List.append_assoc]
        rfl
      · have whole : (b :: rest).forM f s = (.error e, s) := bind_of_error stopped
        rw [whole, List.takeWhile_cons, found]
        refine ⟨(List.append_nil _).symm, iff_of_false (fun ran => by cases ran) fun all => ?_⟩
        have first := all b (List.mem_cons_self ..)
        rw [found] at first
        cases first

/-- Loops over one list whose turns are the same. -/
theorem forM_congr {f g : β → Eff ε σ Unit} {l : List β} (same : ∀ b ∈ l, f b = g b) :
    l.forM f = l.forM g := by
  induction l with
  | nil => rfl
  | cons b rest ih =>
      obtain ⟨here, later⟩ := List.forall_mem_cons.mp same
      change (f b >>= fun _ => rest.forM f) = (g b >>= fun _ => rest.forM g)
      rw [here, ih later]

/-- A loop whose turns each append something, or stop and append nothing. -/
theorem forM_takeWhile {γ : Type} {f : β → Eff ε (List γ) Unit} {goes : β → Bool} {g : β → γ} {e : ε}
    {l : List β}
    (turn : ∀ b ∈ l, ∀ s, f b s = if goes b then (.ok (), s ++ [g b]) else (.error e, s))
    (s : List γ) :
    l.forM f s = (if l.all goes then .ok () else .error e, s ++ (l.takeWhile goes).map g) := by
  induction l generalizing s with
  | nil => exact Prod.ext rfl (List.append_nil s).symm
  | cons b rest ih =>
      obtain ⟨here, later⟩ := List.forall_mem_cons.mp turn
      have first := here s
      rw [List.all_cons, List.takeWhile_cons]
      cases on : goes b with
      | true =>
          rw [on, if_pos rfl] at first
          have whole : (b :: rest).forM f s = rest.forM f (s ++ [g b]) := bind_of_ok first
          rw [whole, ih later, if_pos rfl, List.map_cons, List.append_assoc]
          rfl
      | false =>
          rw [on, if_neg Bool.false_ne_true] at first
          have whole : (b :: rest).forM f s = (.error e, s) := bind_of_error first
          rw [whole]
          exact Prod.ext rfl (List.append_nil s).symm

/-- A loop whose turns each append something. -/
theorem forM_append {γ : Type} {f : β → Eff ε (List γ) Unit} {g : β → γ} {l : List β}
    (turn : ∀ b ∈ l, ∀ s, f b s = (.ok (), s ++ [g b])) (s : List γ) :
    l.forM f s = (.ok (), s ++ l.map g) := by
  induction l generalizing s with
  | nil => exact Prod.ext rfl (List.append_nil s).symm
  | cons b rest ih =>
      obtain ⟨here, later⟩ := List.forall_mem_cons.mp turn
      have whole : (b :: rest).forM f s = rest.forM f (s ++ [g b]) := bind_of_ok (here s)
      rw [whole, ih later, List.map_cons, List.append_assoc]
      rfl

theorem query_ok {f : σ → Except ε α} {s s' : σ} {a : α} :
    query f s = (.ok a, s') ↔ f s = .ok a ∧ s' = s := by
  rw [query_apply, Prod.mk.injEq]
  exact and_congr_right fun _ => eq_comm

theorem step_ok {f : σ → Except ε (α × σ)} {s s' : σ} {a : α} :
    step f s = (.ok a, s') ↔ f s = .ok (a, s') := by
  unfold step
  cases f s with
  | ok x => simp only [Except.ok.injEq, Prod.ext_iff]
  | error e => simp only [Prod.mk.injEq, reduceCtorEq, false_and]

theorem step_error {f : σ → Except ε (α × σ)} {s s' : σ} {e : ε} :
    step f s = (.error e, s') ↔ f s = .error e ∧ s' = s := by
  unfold step
  cases f s with
  | ok x => simp only [Prod.mk.injEq, reduceCtorEq, false_and]
  | error e' =>
      simp only [Prod.mk.injEq, Except.error.injEq]
      exact and_congr_right fun _ => eq_comm

theorem ensuring_ok {fin : σ → σ} {body : Eff ε σ α} {s s' : σ} {a : α} :
    ensuring fin body s = (.ok a, s') ↔ ∃ mid, body s = (.ok a, mid) ∧ s' = fin mid := by
  rw [ensuring_apply, Prod.mk.injEq]
  constructor
  · rintro ⟨exit, rfl⟩
    exact ⟨(body s).2, Prod.ext exit rfl, rfl⟩
  · rintro ⟨mid, ran, rfl⟩
    rw [ran]
    exact ⟨rfl, rfl⟩

/-! ### A first step, then the rest -/

section Sequence

variable {f : α → Eff ε σ β} {s s' : σ} {b : β}

theorem query_bind_ok {q : σ → Except ε α} :
    (query q >>= f) s = (.ok b, s') ↔ ∃ a, q s = .ok a ∧ f a s = (.ok b, s') := by
  rw [bind_ok]
  constructor
  · rintro ⟨a, mid, asked, rest⟩
    obtain ⟨answer, rfl⟩ := query_ok.mp asked
    exact ⟨a, answer, rest⟩
  · rintro ⟨a, answer, rest⟩
    exact ⟨a, s, query_ok.mpr ⟨answer, rfl⟩, rest⟩

theorem query_bind_of_ok {q : σ → Except ε α} {a : α} (answer : q s = .ok a) :
    (query q >>= f) s = f a s :=
  bind_of_ok (query_ok.mpr ⟨answer, rfl⟩)

theorem write_bind_ok {w : σ → σ} {f : Unit → Eff ε σ β} :
    (write w >>= f) s = (.ok b, s') ↔ f () (w s) = (.ok b, s') := Iff.rfl

theorem step_bind_ok {q : σ → Except ε (α × σ)} :
    (step q >>= f) s = (.ok b, s') ↔
      ∃ a mid, q s = .ok (a, mid) ∧ f a mid = (.ok b, s') := by
  simp only [bind_ok, step_ok]

end Sequence

/-! ## The two-exit triple -/

/-- From a state in `P`, a normal exit lands in `Q` and an error exit in `E`. -/
structure Spec (P : σ → Prop) (x : Eff ε σ α) (Q : α → σ → Prop) (E : ε → σ → Prop) : Prop where
  ok : ∀ {s s' : σ} {a : α}, P s → x s = (.ok a, s') → Q a s'
  error : ∀ {s s' : σ} {e : ε}, P s → x s = (.error e, s') → E e s'

namespace Spec

variable {P P' : σ → Prop} {Q Q' : α → σ → Prop} {E E' : ε → σ → Prop}

theorem pure {a : α} (post : ∀ s, P s → Q a s) : Spec P (Pure.pure a) Q E where
  ok pre ran := by cases ran; exact post _ pre
  error _ stopped := by cases stopped

theorem throw {e : ε} (post : ∀ s, P s → E e s) : Spec P (Eff.throw e : Eff ε σ α) Q E where
  ok _ ran := by cases ran
  error pre stopped := by cases stopped; exact post _ pre

/-- A query changes nothing: both exits are at the state it was asked in. -/
theorem query {f : σ → Except ε α} (found : ∀ s a, P s → f s = .ok a → Q a s)
    (failed : ∀ s e, P s → f s = .error e → E e s) : Spec P (Eff.query f) Q E where
  ok pre ran := by
    obtain ⟨answer, rfl⟩ := query_ok.mp ran
    exact found _ _ pre answer
  error pre stopped := by
    rw [query_apply, Prod.mk.injEq] at stopped
    obtain ⟨answer, rfl⟩ := stopped
    exact failed _ _ pre answer

theorem write {f : σ → σ} {Q : Unit → σ → Prop} (post : ∀ s, P s → Q () (f s)) :
    Spec P (Eff.write f : Eff ε σ Unit) Q E where
  ok pre ran := by cases ran; exact post _ pre
  error _ stopped := by cases stopped

theorem bind {x : Eff ε σ α} {f : α → Eff ε σ β} {R : β → σ → Prop} (first : Spec P x Q E)
    (second : ∀ a, Spec (Q a) (f a) R E) : Spec P (x >>= f) R E where
  ok pre ran := by
    obtain ⟨a, mid, left, right⟩ := bind_ok.mp ran
    exact (second a).ok (first.ok pre left) right
  error pre stopped := by
    rcases bind_error.mp stopped with left | ⟨a, mid, left, right⟩
    · exact first.error pre left
    · exact (second a).error (first.ok pre left) right

/-- What follows a query knows its answer. -/
theorem query_bind {q : σ → Except ε α} {f : α → Eff ε σ β} {R : β → σ → Prop}
    (failed : ∀ s e, P s → q s = .error e → E e s)
    (rest : ∀ a, Spec (fun s => P s ∧ q s = .ok a) (f a) R E) : Spec P (Eff.query q >>= f) R E :=
  bind (Q := fun a s => P s ∧ q s = .ok a) (query (fun _ _ pre found => ⟨pre, found⟩) failed) rest

/-- A fact that follows from the precondition and does not depend on the state. -/
theorem of_fact {x : Eff ε σ α} {φ : Prop} (fact : ∀ s, P s → φ) (spec : φ → Spec P x Q E) :
    Spec P x Q E where
  ok pre ran := (spec (fact _ pre)).ok pre ran
  error pre stopped := (spec (fact _ pre)).error pre stopped

theorem ensuring {fin : σ → σ} {body : Eff ε σ α}
    (inner : Spec P body (fun a s => Q a (fin s)) (fun e s => E e (fin s))) :
    Spec P (Eff.ensuring fin body) Q E where
  ok pre ran := by
    obtain ⟨mid, left, rfl⟩ := ensuring_ok.mp ran
    exact inner.ok pre left
  error pre stopped := by
    rw [ensuring_apply, Prod.mk.injEq] at stopped
    obtain ⟨exit, rfl⟩ := stopped
    exact inner.error pre (Prod.ext exit rfl)

theorem mono {x : Eff ε σ α} (inner : Spec P x Q E) (weaker : ∀ s, P' s → P s)
    (normal : ∀ a s, Q a s → Q' a s) (exceptional : ∀ e s, E e s → E' e s) :
    Spec P' x Q' E' where
  ok pre ran := normal _ _ (inner.ok (weaker _ pre) ran)
  error pre stopped := exceptional _ _ (inner.error (weaker _ pre) stopped)

/-- A loop keeps what each of its turns keeps. -/
theorem forM {f : β → Eff ε σ Unit} {l : List β}
    (turns : ∀ b ∈ l, Spec P (f b) (fun _ => P) E) : Spec P (l.forM f) (fun _ => P) E := by
  induction l with
  | nil => exact pure fun _ pre => pre
  | cons b rest ih =>
      obtain ⟨here, turns⟩ := List.forall_mem_cons.mp turns
      exact bind here fun _ => ih turns

theorem ite {c : Prop} [Decidable c] {x y : Eff ε σ α}
    (yes : c → Spec P x Q E) (no : ¬ c → Spec P y Q E) :
    Spec P (if c then x else y) Q E := by
  by_cases h : c
  · rw [if_pos h]
    exact yes h
  · rw [if_neg h]
    exact no h

end Spec

end Eff

end SonicNasAcl.Lib
