/-
# PushPlan -- the NDI calls of a modify, written out

A `Part` of an NDI entry is its filters or its actions, and `Pushing` what the loops of
`Push` need to know about them.  Where every element translates, a modify is a plain list
of steps (`Pushing.modify_eq`): NDI calls, and notes in the tracker.  A list of steps is
easy to run, to its end (`run_ok`) or up to the call that fails (`run_fails`).

Seen as registers, one for each NPU and type, a call is a write, so a run of calls is
`Lib.writeAll`, and nothing else of an entry changes (`afterAll_regs`).
-/
import SonicNasAcl.Lib.Registers
import SonicNasAcl.Push

namespace SonicNasAcl

set_option autoImplicit false

open Lib

/-! ## Parts of an NDI entry -/

/-- A map of elements inside an NDI entry. -/
structure Part {κ V : Type} (key : V → κ) where
  get : NdiAclEntry → Keyed key
  set : Keyed key → NdiAclEntry → NdiAclEntry
  get_set : ∀ l x, get (set l x) = l
  set_get : ∀ x, set (get x) x = x
  set_set : ∀ l m x, set l (set m x) = set l x

/-- The part and the rest determine an NDI entry. -/
theorem Part.ext {κ V : Type} {key : V → κ} (part : Part key) {x y : NdiAclEntry}
    (elements : ∀ t, (part.get x).find t = (part.get y).find t)
    (others : part.set .empty x = part.set .empty y) : x = y := by
  rw [← part.set_get x, ← part.set_get y, Keyed.ext elements, ← part.set_set _ .empty, others,
    part.set_set]

def filterPart : Part NdiFilter.filterType where
  get x := x.filters
  set l x := { x with filters := l }
  get_set _ _ := rfl
  set_get _ := rfl
  set_set _ _ _ := rfl

def actionPart : Part NdiAction.actionType where
  get x := x.actions
  set l x := { x with actions := l }
  get_set _ _ := rfl
  set_get _ := rfl
  set_set _ _ _ := rfl

/-- The entry that is installed on an NPU. -/
def NasAclEntry.installed (e : NasAclEntry) (s : Ndi) (npuId : NpuId) : Option NdiAclEntry :=
  (e.ndiEntryIds.lookup npuId).bind (s.entries npuId)

section Steps

variable {κ V : Type} [DecidableEq κ] {key : V → κ}

/-- One element is set, or the element of a type is disabled. -/
def assign : κ ⊕ V → Keyed key → Keyed key
  | .inl t => Keyed.erase t
  | .inr v => Keyed.put v

/-- The type that is assigned, and to what. -/
def assigned (key : V → κ) : κ ⊕ V → κ × Option V
  | .inl t => (t, none)
  | .inr v => (key v, some v)

theorem find_assign (w : κ ⊕ V) (l : Keyed key) (t : κ) :
    (assign w l).find t = if t = (assigned key w).1 then (assigned key w).2 else l.find t := by
  cases w with
  | inl t₀ => exact Keyed.find_erase t₀ l t
  | inr v => exact Keyed.find_put v l t

/-! ## Steps -/

/-- An NDI call, or a note of what is to be undone. -/
inductive PushStep (κ V : Type) where
  | call (errMsg : String) (npuId : NpuId) (id : NdiObjId) (w : κ ⊕ V)
  | note (elem : RollbkElem)

namespace PushStep

def act (part : Part key) : PushStep κ V → Ndi → Ndi
  | .call _ npuId id w, s =>
      { s.modifyEntry npuId id fun x => part.set (assign w (part.get x)) x with
        calls := s.calls + 1 }
  | .note elem, s => { s with trakr := s.trakr ++ [elem] }

def exec (part : Part key) (o : NdiReplies) : PushStep κ V → NdiM Unit
  | .call errMsg npuId id w =>
      ndiCall o errMsg (.modifyEntry npuId id fun x => part.set (assign w (part.get x)) x)
  | .note elem => Eff.write fun s => { s with trakr := s.trakr ++ [elem] }

def isCall : PushStep κ V → Bool
  | .call .. => true
  | .note _ => false

/-- What a step writes, by NPU and type. -/
def writes (key : V → κ) : PushStep κ V → List ((NpuId × κ) × Option V)
  | .call _ npuId _ w => [((npuId, (assigned key w).1), (assigned key w).2)]
  | .note _ => []

def notes : PushStep κ V → List RollbkElem
  | .call .. => []
  | .note elem => [elem]

end PushStep

variable {part : Part key} {o : NdiReplies} {s : Ndi}

/-- The state after a list of steps that all succeed. -/
def afterAll (part : Part key) (steps : List (PushStep κ V)) (s : Ndi) : Ndi :=
  steps.foldl (fun s step => step.act part s) s

theorem afterAll_calls (part : Part key) (steps : List (PushStep κ V)) (s : Ndi) :
    (afterAll part steps s).calls = s.calls + steps.countP PushStep.isCall := by
  induction steps generalizing s with
  | nil => rfl
  | cons step rest ih =>
      rw [List.countP_cons]
      refine (ih _).trans ?_
      cases step with
      | call => simp only [PushStep.act, PushStep.isCall, if_true]; omega
      | note => simp only [PushStep.act, PushStep.isCall, Bool.false_eq_true, if_false]; omega

theorem afterAll_trakr (steps : List (PushStep κ V)) (s : Ndi) :
    (afterAll part steps s).trakr = s.trakr ++ steps.flatMap PushStep.notes := by
  induction steps generalizing s with
  | nil => exact (List.append_nil _).symm
  | cons step rest ih =>
      refine (ih _).trans ?_
      cases step with
      | call => rfl
      | note => simp only [PushStep.act, PushStep.notes, List.flatMap_cons, List.append_assoc]

/-! ## Running steps -/

/-- Steps whose calls succeed run to their end. -/
theorem run_ok {steps : List (PushStep κ V)}
    (fine : ∀ i, s.calls ≤ i → i < s.calls + steps.countP PushStep.isCall → o.rc i = .ok ()) :
    steps.forM (PushStep.exec part o) s = (.ok (), afterAll part steps s) := by
  induction steps generalizing s with
  | nil => rfl
  | cons step rest ih =>
      have turn : step.exec part o s = (.ok (), step.act part s) := by
        cases step with
        | call errMsg npuId id w =>
            have now := fine s.calls (Nat.le_refl _) (by
              rw [List.countP_cons, PushStep.isCall, if_pos rfl]
              omega)
            simp only [PushStep.exec, ndiCall, now, PushStep.act]
        | note elem => rfl
      refine (Eff.bind_of_ok turn).trans (ih fun i low high => fine i ?_ ?_)
      · exact Nat.le_trans (afterAll_calls part [step] s ▸ Nat.le_add_right _ _) low
      · refine Nat.lt_of_lt_of_le high ?_
        have one := afterAll_calls part [step] s
        change (step.act part s).calls = _ at one
        rw [one, List.countP_cons, List.countP_cons, List.countP_nil]
        omega

/-- A loop whose turns are steps, from some number of calls on. -/
theorem forM_steps {α : Type} {l : List α} {f : α → NdiM Unit} {g : α → PushStep κ V} {n : Nat}
    (turn : ∀ a ∈ l, ∀ s, n ≤ s.calls → f a s = (.ok (), (g a).act part s))
    (late : n ≤ s.calls) : l.forM f s = (.ok (), afterAll part (l.map g) s) := by
  induction l generalizing s with
  | nil => rfl
  | cons a rest ih =>
      refine (Eff.bind_of_ok (turn a (List.mem_cons_self ..) s late)).trans
        (ih (fun b mem => turn b (List.mem_cons_of_mem _ mem)) (late.trans ?_))
      exact afterAll_calls part [g a] s ▸ Nat.le_add_right _ _

/-- A call that fails ends the run, with the calls before it done. -/
theorem run_fails {before after : List (PushStep κ V)} {c : PushStep κ V} {j : Nat} {rc : Int}
    (call : c.isCall) (count : before.countP PushStep.isCall = j)
    (fine : ∀ i, s.calls ≤ i → i < s.calls + j → o.rc i = .ok ())
    (fails : o.rc (s.calls + j) = .error rc) :
    ∃ errMsg, (before ++ c :: after).forM (PushStep.exec part o) s
      = (.error (.base (.ndi rc) errMsg), { afterAll part before s with calls := s.calls + j + 1 }) := by
  subst count
  have split : (before ++ c :: after).forM (PushStep.exec part o)
      = before.forM (PushStep.exec part o) >>= fun _ => (c :: after).forM (PushStep.exec part o) :=
    List.forM_append
  rw [split, Eff.bind_of_ok (run_ok fine)]
  have now : o.rc (afterAll part before s).calls = .error rc := by rw [afterAll_calls, fails]
  cases c with
  | note elem => cases call
  | call errMsg npuId id w =>
      refine ⟨errMsg, Eff.bind_of_error ?_⟩
      simp only [PushStep.exec, ndiCall, now]
      rw [afterAll_calls]

/-! ## Registers -/

/-- A part of what is installed, by NPU and type. -/
def regs (part : Part key) (e : NasAclEntry) (s : Ndi) : NpuId × κ → Option V := fun r =>
  (e.installed s r.1).bind fun x => (part.get x).find r.2

/-- What is installed, the part aside. -/
def rest (part : Part key) (e : NasAclEntry) (s : Ndi) (npuId : NpuId) : Option NdiAclEntry :=
  (e.installed s npuId).map (part.set .empty)

/-- The step is a call about an entry that is installed. -/
def PushStep.Fits (e : NasAclEntry) (s : Ndi) : PushStep κ V → Prop
  | .call _ npuId id _ => e.ndiEntryIds.lookup npuId = some id ∧ (s.entries npuId id).isSome
  | .note _ => True

/-- A call changes the installed entry it is about, in its part. -/
theorem installed_act {e : NasAclEntry} {errMsg : String} {npuId : NpuId} {id : NdiObjId}
    {w : κ ⊕ V} (known : e.ndiEntryIds.lookup npuId = some id) (n : NpuId) :
    e.installed ((PushStep.call errMsg npuId id w).act part s) n =
      if n = npuId then (e.installed s n).map fun x => part.set (assign w (part.get x)) x
      else e.installed s n := by
  unfold NasAclEntry.installed
  by_cases here : n = npuId
  · subst here
    simp only [known, Option.bind_some, PushStep.act, Ndi.modifyEntry, and_self, if_true]
  · simp only [PushStep.act, Ndi.modifyEntry, here, false_and, if_false]

theorem act_fits {e : NasAclEntry} {step other : PushStep κ V} (fits : step.Fits e s)
    (others : other.Fits e s) : other.Fits e (step.act part s) := by
  cases other with
  | note => trivial
  | call errMsg npuId id w =>
      refine ⟨others.1, ?_⟩
      cases step with
      | note => exact others.2
      | call errMsg' npuId' id' w' =>
          simp only [PushStep.act, Ndi.modifyEntry]
          split
          · rw [Option.isSome_map]
            exact others.2
          · exact others.2

theorem afterAll_fits {e : NasAclEntry} {steps : List (PushStep κ V)} {other : PushStep κ V}
    (fits : ∀ step ∈ steps, step.Fits e s) (others : other.Fits e s) :
    other.Fits e (afterAll part steps s) := by
  induction steps generalizing s with
  | nil => exact others
  | cons step more ih =>
      have first := fits step (List.mem_cons_self ..)
      exact ih (fun next mem => act_fits first (fits next (List.mem_cons_of_mem _ mem)))
        (act_fits first others)

theorem act_regs {e : NasAclEntry} {step : PushStep κ V} (fits : step.Fits e s) :
    regs part e (step.act part s) = writeAll (step.writes key) (regs part e s) := by
  cases step with
  | note => rfl
  | call errMsg npuId id w =>
      obtain ⟨known, there⟩ := fits
      obtain ⟨x, there⟩ := Option.isSome_iff_exists.mp there
      funext ⟨n, t⟩
      simp only [regs, installed_act known, PushStep.writes, writeAll_cons, writeAll_nil]
      by_cases here : n = npuId
      · subst here
        have found : e.installed s n = some x := by
          rw [NasAclEntry.installed, known, Option.bind_some, there]
        simp only [found, if_true, Option.map_some, Option.bind_some, part.get_set, find_assign]
        by_cases same : t = (assigned key w).1
        · subst same
          rw [if_pos rfl, Function.update_self]
        · rw [if_neg same, Function.update_of_ne fun eq => same (congrArg Prod.snd eq), regs,
            found, Option.bind_some]
      · rw [if_neg here, Function.update_of_ne fun eq => here (congrArg Prod.fst eq), regs]

theorem act_rest {e : NasAclEntry} {step : PushStep κ V} (fits : step.Fits e s) :
    rest part e (step.act part s) = rest part e s := by
  cases step with
  | note => rfl
  | call errMsg npuId id w =>
      funext n
      simp only [rest, installed_act fits.1]
      split
      · rw [Option.map_map]
        exact congrArg (Option.map · _) (funext fun x => part.set_set _ _ x)
      · rfl

/-- A run of steps is a run of writes. -/
theorem afterAll_regs (part : Part key) {e : NasAclEntry} {steps : List (PushStep κ V)}
    (fits : ∀ step ∈ steps, step.Fits e s) :
    regs part e (afterAll part steps s)
        = writeAll (steps.flatMap (PushStep.writes key)) (regs part e s) ∧
      rest part e (afterAll part steps s) = rest part e s := by
  induction steps generalizing s with
  | nil => exact ⟨rfl, rfl⟩
  | cons step more ih =>
      have first := fits step (List.mem_cons_self ..)
      obtain ⟨registers, others⟩ := ih (s := step.act part s) fun other mem =>
        act_fits first (fits other (List.mem_cons_of_mem _ mem))
      rw [List.flatMap_cons, writeAll_append, ← act_regs first, ← act_rest first]
      exact ⟨registers, others⟩

omit [DecidableEq κ] in
/-- Registers and the rest determine what is installed. -/
theorem installed_ext {e : NasAclEntry} {s s' : Ndi} (registers : regs part e s' = regs part e s)
    (others : rest part e s' = rest part e s) : e.installed s' = e.installed s := by
  funext n
  have blank := congrFun others n
  simp only [rest] at blank
  cases before : e.installed s n with
  | none =>
      rw [before, Option.map_none, Option.map_eq_none_iff] at blank
      exact blank
  | some x =>
      rw [before, Option.map_some, Option.map_eq_some_iff] at blank
      obtain ⟨y, now, same⟩ := blank
      rw [now]
      refine congrArg some (part.ext (fun t => ?_) same)
      have at_t := congrFun registers (n, t)
      simpa only [regs, now, before, Option.bind_some] using at_t

end Steps

/-! ## A modify as a list of steps -/

/-- What the loops of a modify need to know: the part they change, the order they visit it
in, how an element is tracked and translated, and the texts of its errors. -/
structure Pushing {κ α V : Type} (key : α → κ) (ndiKey : V → κ) where
  part : Part ndiKey
  order : Traversal κ
  attr : κ → AttrHierarchy
  translate : α → NpuId → Except Exn (List V)
  disableMsg : κ → NpuId → String
  setMsg : α → NpuId → String

theorem continueOnError_false (body : NdiM Unit) : continueOnError false body = body := by
  funext s
  unfold continueOnError
  rcases body s with ⟨e | u, s'⟩
  · cases e <;> rfl
  · rfl

theorem forM_congr {α : Type} {l : List α} {f g : α → NdiM Unit} (same : ∀ a ∈ l, f a = g a) :
    l.forM f = l.forM g := by
  induction l with
  | nil => rfl
  | cons a rest ih =>
      have tail := ih fun b mem => same b (List.mem_cons_of_mem _ mem)
      change (f a >>= fun _ => rest.forM f) = (g a >>= fun _ => rest.forM g)
      rw [same a (List.mem_cons_self ..), tail]

namespace Pushing

variable {κ α V : Type} [DecidableEq κ] [Fintype κ] {key : α → κ} {ndiKey : V → κ}

/-- What an element translates to, or nothing. -/
def values (k : Pushing key ndiKey) (x : α) (npuId : NpuId) : List V :=
  (k.translate x npuId).toOption.getD []

/-- Disable the element of a type. -/
def disable (k : Pushing key ndiKey) (o : NdiReplies) (e : NasAclEntry) (t : κ) (npuId : NpuId) :
    NdiM Unit := do
  let id ← Eff.query fun _ => e.ndiEntryId npuId
  (PushStep.call (k.disableMsg t npuId) npuId id (.inl t)).exec k.part o

/-- Set what an element translates to. -/
def push (k : Pushing key ndiKey) (o : NdiReplies) (e : NasAclEntry) (x : α) (npuId : NpuId) :
    NdiM Unit := do
  let vs ← Eff.query fun _ => k.translate x npuId
  vs.forM fun v => do
    let id ← Eff.query fun _ => e.ndiEntryId npuId
    (PushStep.call (k.setMsg x npuId) npuId id (.inr v)).exec k.part o

/-- A modify that is not itself a rollback. -/
def modify (k : Pushing key ndiKey) (o : NdiReplies) (e : NasAclEntry)
    (deleted addOrMod : Keyed key) : List NpuId → NdiM Unit :=
  utlModifyListNpulistNdi k.order k.attr (k.disable o e) (k.push o e) deleted addOrMod false

/-- The steps for an element that is disabled. -/
def disableSteps (k : Pushing key ndiKey) (npuId : NpuId) (id : NdiObjId) (x : α) :
    List (PushStep κ V) :=
  [.call (k.disableMsg (key x) npuId) npuId id (.inl (key x)),
    .note ⟨.deleteAttr, npuId, k.attr (key x)⟩]

/-- The steps for an element that is set. -/
def setSteps (k : Pushing key ndiKey) (vs : α → NpuId → List V) (npuId : NpuId) (id : NdiObjId)
    (x : α) : List (PushStep κ V) :=
  (vs x npuId).map (fun v => .call (k.setMsg x npuId) npuId id (.inr v))
    ++ [.note ⟨.createAttr, npuId, k.attr (key x)⟩]

/-- The steps of a modify on one NPU. -/
def steps (k : Pushing key ndiKey) (vs : α → NpuId → List V) (deleted addOrMod : Keyed key)
    (ids : NpuId → NdiObjId) (npuId : NpuId) : List (PushStep κ V) :=
  (deleted.items k.order).flatMap (k.disableSteps npuId (ids npuId))
    ++ (addOrMod.items k.order).flatMap (k.setSteps vs npuId (ids npuId))

variable {k : Pushing key ndiKey} {o : NdiReplies} {e : NasAclEntry}
  {deleted addOrMod : Keyed key} {ids : NpuId → NdiObjId} {npuId : NpuId}
  {vs : α → NpuId → List V}

omit [DecidableEq κ] [Fintype κ] in
theorem values_of {x : α} {xs : List V} (translated : k.translate x npuId = .ok xs) :
    k.values x npuId = xs := by
  rw [values, translated]
  rfl

omit [DecidableEq κ] [Fintype κ] in
theorem translate_eq {x : α} (translated : ∃ xs, k.translate x npuId = .ok xs) :
    k.translate x npuId = .ok (k.values x npuId) := by
  obtain ⟨xs, translated⟩ := translated
  rw [values_of translated, translated]

theorem ndiEntryId_of (known : e.ndiEntryIds.lookup npuId = some (ids npuId)) :
    e.ndiEntryId npuId = .ok (ids npuId) := by
  rw [NasAclEntry.ndiEntryId, known]

omit [Fintype κ] in
theorem disable_eq (ids : NpuId → NdiObjId)
    (known : e.ndiEntryIds.lookup npuId = some (ids npuId)) (x : α) :
    (do
      continueOnError false (k.disable o e (key x) npuId)
      track false ⟨.deleteAttr, npuId, k.attr (key x)⟩)
      = (k.disableSteps npuId (ids npuId) x).forM (PushStep.exec k.part o) := by
  rw [continueOnError_false]
  have called : k.disable o e (key x) npuId
      = (PushStep.call (k.disableMsg (key x) npuId) npuId (ids npuId) (.inl (key x))).exec
        k.part o := by
    unfold disable
    rw [ndiEntryId_of known]
    rfl
  rw [called]
  rfl

omit [Fintype κ] in
theorem set_eq (ids : NpuId → NdiObjId) (vs : α → NpuId → List V)
    (known : e.ndiEntryIds.lookup npuId = some (ids npuId)) {x : α}
    (translated : k.translate x npuId = .ok (vs x npuId)) :
    (do
      continueOnError false (k.push o e x npuId)
      track false ⟨.createAttr, npuId, k.attr (key x)⟩)
      = (k.setSteps vs npuId (ids npuId) x).forM (PushStep.exec k.part o) := by
  rw [continueOnError_false]
  have called : k.push o e x npuId
      = ((vs x npuId).map fun v => PushStep.call (k.setMsg x npuId) npuId (ids npuId) (.inr v)).forM
        (PushStep.exec k.part o) := by
    unfold push
    rw [translated]
    refine Eq.trans ?_ List.forM_map.symm
    refine forM_congr fun v _ => ?_
    rw [ndiEntryId_of known]
    rfl
  have split : (k.setSteps vs npuId (ids npuId) x).forM (PushStep.exec k.part o) =
      (((vs x npuId).map fun v => PushStep.call (k.setMsg x npuId) npuId (ids npuId) (.inr v)).forM
        (PushStep.exec k.part o) >>= fun _ =>
      [PushStep.note ⟨.createAttr, npuId, k.attr (key x)⟩].forM (PushStep.exec k.part o)) :=
    List.forM_append
  rw [called, split]
  rfl

/-- A modify is a list of steps, where the entry is installed and everything translates. -/
theorem modify_eq (ids : NpuId → NdiObjId) (vs : α → NpuId → List V) {npus : List NpuId}
    (known : ∀ n ∈ npus, e.ndiEntryIds.lookup n = some (ids n))
    (translated : ∀ n ∈ npus, ∀ x ∈ addOrMod.items k.order, k.translate x n = .ok (vs x n)) :
    k.modify o e deleted addOrMod npus
      = (npus.flatMap (k.steps vs deleted addOrMod ids)).forM (PushStep.exec k.part o) := by
  rw [Eff.forM_flatMap]
  refine forM_congr fun n here => ?_
  have split : (k.steps vs deleted addOrMod ids n).forM (PushStep.exec k.part o) =
      (((deleted.items k.order).flatMap (k.disableSteps n (ids n))).forM
        (PushStep.exec k.part o) >>= fun _ =>
      ((addOrMod.items k.order).flatMap (k.setSteps vs n (ids n))).forM (PushStep.exec k.part o)) :=
    List.forM_append
  rw [split, Eff.forM_flatMap, Eff.forM_flatMap]
  have first : ((deleted.items k.order).forM fun x => do
      continueOnError false (k.disable o e (key x) n)
      track false ⟨.deleteAttr, n, k.attr (key x)⟩) = _ :=
    forM_congr fun x _ => disable_eq ids (known n here) x
  have second : ((addOrMod.items k.order).forM fun x => do
      continueOnError false (k.push o e x n)
      track false ⟨.createAttr, n, k.attr (key x)⟩) = _ :=
    forM_congr fun x mem => set_eq ids vs (known n here) (translated n here x mem)
  rw [← first, ← second]

/-! ## When a modify returns -/

omit [Fintype κ] in
theorem disable_ok_iff (fine : ∀ i, o.rc i = .ok ()) (x : α) (s : Ndi) :
    (∃ s', (do
      continueOnError false (k.disable o e (key x) npuId)
      track false ⟨.deleteAttr, npuId, k.attr (key x)⟩) s = (.ok (), s')) ↔
      (e.ndiEntryIds.lookup npuId).isSome := by
  cases known : e.ndiEntryIds.lookup npuId with
  | none =>
      have unknown : e.ndiEntryId npuId = .error .outOfRange := by
        rw [NasAclEntry.ndiEntryId, known]
      rw [continueOnError_false, disable, unknown]
      refine iff_of_false ?_ Bool.noConfusion
      rintro ⟨s', ran⟩
      cases ran
  | some id =>
      refine iff_of_true ?_ rfl
      rw [disable_eq (fun _ => id) known]
      exact ⟨_, run_ok fun i _ _ => fine i⟩

omit [Fintype κ] in
theorem set_ok_iff (fine : ∀ i, o.rc i = .ok ()) (x : α) (s : Ndi) :
    (∃ s', (do
      continueOnError false (k.push o e x npuId)
      track false ⟨.createAttr, npuId, k.attr (key x)⟩) s = (.ok (), s')) ↔
      ∃ xs, k.translate x npuId = .ok xs ∧ (xs = [] ∨ (e.ndiEntryIds.lookup npuId).isSome) := by
  cases translated : k.translate x npuId with
  | error err =>
      rw [continueOnError_false, push, translated]
      refine iff_of_false ?_ ?_
      · rintro ⟨s', ran⟩
        cases ran
      · rintro ⟨xs, failed, -⟩
        cases failed
  | ok xs =>
      simp only [Except.ok.injEq, exists_eq_left']
      cases known : e.ndiEntryIds.lookup npuId with
      | some id =>
          refine iff_of_true ?_ (.inr rfl)
          have as_values := translate_eq ⟨xs, translated⟩
          rw [set_eq (fun _ => id) k.values known as_values]
          exact ⟨_, run_ok fun i _ _ => fine i⟩
      | none =>
          have unknown : e.ndiEntryId npuId = .error .outOfRange := by
            rw [NasAclEntry.ndiEntryId, known]
          rw [continueOnError_false, push, translated, unknown]
          cases xs with
          | nil => exact iff_of_true ⟨_, rfl⟩ (.inl rfl)
          | cons v rest =>
              refine iff_of_false ?_ (not_or.mpr ⟨List.cons_ne_nil _ _, Bool.noConfusion⟩)
              rintro ⟨s', ran⟩
              cases ran

/-- With every call succeeding, a modify on one NPU returns exactly when all that is set
translates there, and the entry is installed, unless there is nothing to change. -/
theorem modify_ok_iff (fine : ∀ i, o.rc i = .ok ()) (s : Ndi) :
    (∃ s', k.modify o e deleted addOrMod [npuId] s = (.ok (), s')) ↔
      (∀ x ∈ deleted.items k.order, (e.ndiEntryIds.lookup npuId).isSome) ∧
      ∀ x ∈ addOrMod.items k.order, ∃ xs, k.translate x npuId = .ok xs ∧
        (xs = [] ∨ (e.ndiEntryIds.lookup npuId).isSome) := by
  have one : k.modify o e deleted addOrMod [npuId] = (do
      (deleted.items k.order).forM fun x => do
        continueOnError false (k.disable o e (key x) npuId)
        track false ⟨.deleteAttr, npuId, k.attr (key x)⟩
      (addOrMod.items k.order).forM fun x => do
        continueOnError false (k.push o e x npuId)
        track false ⟨.createAttr, npuId, k.attr (key x)⟩) := bind_pure_unit
  rw [one]
  exact Eff.seq_ok_iff (Eff.forM_ok_iff fun x _ => disable_ok_iff fine x)
    (Eff.forM_ok_iff fun x _ => set_ok_iff fine x) s

/-! ## What a modify writes -/

/-- An element translates to at most one NDI element, of its own type. -/
def Single (ndiKey : V → κ) (t : κ) (vs : List V) : Prop := vs = [] ∨ ∃ v, vs = [v] ∧ ndiKey v = t

theorem flatMap_sublist {β γ : Type} {l : List β} {g : β → List γ} {f : β → γ}
    (few : ∀ x ∈ l, g x = [] ∨ g x = [f x]) : (l.flatMap g).Sublist (l.map f) := by
  induction l with
  | nil => exact List.Sublist.refl _
  | cons x more ih =>
      have tail := ih fun y mem => few y (List.mem_cons_of_mem _ mem)
      rw [List.flatMap_cons, List.map_cons]
      rcases few x (List.mem_cons_self ..) with none_ | one
      · rw [none_]
        exact tail.cons _
      · rw [one]
        exact tail.cons_cons _

/-- The map of what the elements of a list translate to. -/
theorem find_image {l : Keyed key} (single : ∀ x ∈ l.items k.order, Single ndiKey (key x) (vs x npuId))
    (t : κ) :
    (Keyed.ofItems ((l.items k.order).flatMap (vs · npuId)) : Keyed ndiKey).find t
      = (l.find t).bind fun x => (vs x npuId).head? := by
  have names : (((l.items k.order).flatMap (vs · npuId)).map ndiKey).Nodup := by
    refine List.Sublist.nodup ?_ (Keyed.nodup_items k.order l)
    rw [List.map_flatMap]
    refine flatMap_sublist fun x mem => ?_
    obtain none_ | ⟨v, one, same⟩ := single x mem
    · exact .inl (by rw [none_]; rfl)
    · exact .inr (by rw [one, ← same]; rfl)
  refine Option.ext fun v => ?_
  rw [Keyed.find_ofItems names, List.mem_flatMap, Option.bind_eq_some_iff]
  constructor
  · rintro ⟨⟨x, mem, inside⟩, same⟩
    obtain none_ | ⟨w, one, own⟩ := single x mem
    · rw [none_] at inside
      cases inside
    · rw [one, List.mem_singleton] at inside
      subst inside
      exact ⟨x, by rw [← same, own]; exact Keyed.mem_items.mp mem, by rw [one]; rfl⟩
  · rintro ⟨x, found, first⟩
    have mem : x ∈ l.items k.order := Keyed.mem_items.mpr (l.keyed t x found ▸ found)
    obtain none_ | ⟨w, one, own⟩ := single x mem
    · rw [none_] at first
      cases first
    · rw [one] at first
      cases first
      exact ⟨⟨x, mem, by rw [one]; exact List.mem_singleton_self v⟩, own.trans (l.keyed t x found)⟩

omit [Fintype κ] [DecidableEq κ] in
theorem setSteps_writes (id : NdiObjId) (x : α) :
    (k.setSteps vs npuId id x).flatMap (PushStep.writes ndiKey)
      = (vs x npuId).map fun v => ((npuId, ndiKey v), some v) := by
  unfold setSteps
  rw [List.flatMap_append, List.flatMap_map]
  have notes : [PushStep.note ⟨.createAttr, npuId, k.attr (key x)⟩].flatMap
      (PushStep.writes (V := V) ndiKey) = [] := rfl
  rw [notes, List.append_nil, List.map_eq_flatMap]
  rfl

omit [DecidableEq κ] in
theorem steps_writes :
    (k.steps vs deleted addOrMod ids npuId).flatMap (PushStep.writes ndiKey)
      = ((deleted.items k.order).map fun x => ((npuId, key x), none))
        ++ (addOrMod.items k.order).flatMap fun x =>
          (vs x npuId).map fun v => ((npuId, ndiKey v), some v) := by
  unfold steps
  rw [List.flatMap_append, List.flatMap_assoc, List.flatMap_assoc, List.map_eq_flatMap]
  congr 1
  exact List.flatMap_congr fun x _ => setSteps_writes _ x

omit [DecidableEq κ] in
theorem steps_fit {s : Ndi} {n : NpuId} (known : e.ndiEntryIds.lookup n = some (ids n))
    (there : (s.entries n (ids n)).isSome) :
    ∀ step ∈ k.steps vs deleted addOrMod ids n, step.Fits e s := by
  intro step mem
  rcases List.mem_append.mp mem with mem | mem
  · obtain ⟨x, -, mem⟩ := List.mem_flatMap.mp mem
    rcases List.mem_pair.mp mem with rfl | rfl
    · exact ⟨known, there⟩
    · trivial
  · obtain ⟨x, -, mem⟩ := List.mem_flatMap.mp mem
    rcases List.mem_append.mp mem with mem | mem
    · obtain ⟨v, -, rfl⟩ := List.mem_map.mp mem
      exact ⟨known, there⟩
    · cases List.mem_singleton.mp mem
      trivial

omit [DecidableEq κ] in
/-- The keys of what is disabled and of what is set are different from each other. -/
theorem keys_nodup {order : Traversal κ}
    (apart : ∀ t, (deleted.find t).isSome → addOrMod.find t = none) :
    ((deleted.items order).map key ++ (addOrMod.items order).map key).Nodup := by
  refine List.nodup_append.mpr ⟨Keyed.nodup_items .., Keyed.nodup_items .., ?_⟩
  rintro t inDeleted t' inSet rfl
  obtain ⟨x, gone, rfl⟩ := List.mem_map.mp inDeleted
  obtain ⟨y, set, same⟩ := List.mem_map.mp inSet
  have absent := apart (key x) (Option.isSome_of_eq_some (Keyed.mem_items.mp gone))
  rw [← same, Keyed.mem_items.mp set] at absent
  cases absent

omit [DecidableEq κ] in
/-- The types that a modify writes on one NPU are different from each other. -/
theorem steps_names (apart : ∀ t, (deleted.find t).isSome → addOrMod.find t = none)
    (single : ∀ x ∈ addOrMod.items k.order, Single ndiKey (key x) (vs x npuId)) :
    (((k.steps vs deleted addOrMod ids npuId).flatMap (PushStep.writes ndiKey)).map
      Prod.fst).Nodup := by
  have names : (((k.steps vs deleted addOrMod ids npuId).flatMap
      (PushStep.writes ndiKey)).map Prod.fst).Sublist
      (((deleted.items k.order).map key ++ (addOrMod.items k.order).map key).map
        (Prod.mk npuId)) := by
    rw [steps_writes, List.map_append, List.map_append, List.map_map, List.map_map,
      List.map_flatMap, List.map_map]
    refine List.Sublist.append (List.Sublist.refl _) (flatMap_sublist fun x mem => ?_)
    obtain none_ | ⟨v, one, same⟩ := single x mem
    · rw [none_]
      exact .inl rfl
    · rw [one]
      exact .inr (by rw [Function.comp_apply, ← same]; rfl)
  exact names.nodup ((keys_nodup apart).map fun _ _ same => (Prod.mk.inj same).2)

omit [DecidableEq κ] in
theorem mem_writes {n : NpuId} {t : κ} {v : Option V} :
    ((n, t), v) ∈ (k.steps vs deleted addOrMod ids npuId).flatMap (PushStep.writes ndiKey) ↔
      n = npuId ∧ ((v = none ∧ (deleted.find t).isSome) ∨
        ∃ x, addOrMod.find (key x) = some x ∧ ∃ w ∈ vs x npuId, ndiKey w = t ∧ v = some w) := by
  simp only [steps_writes, List.mem_append, List.mem_map, List.mem_flatMap, Prod.mk.injEq,
    Keyed.mem_items]
  constructor
  · rintro (⟨x, gone, ⟨rfl, rfl⟩, rfl⟩ | ⟨x, set, w, mem, ⟨rfl, rfl⟩, rfl⟩)
    · exact ⟨rfl, .inl ⟨rfl, Option.isSome_of_eq_some gone⟩⟩
    · exact ⟨rfl, .inr ⟨x, set, w, mem, rfl, rfl⟩⟩
  · rintro ⟨rfl, ⟨rfl, gone⟩ | ⟨x, set, w, mem, rfl, rfl⟩⟩
    · obtain ⟨x, gone⟩ := Option.isSome_iff_exists.mp gone
      have own := deleted.keyed t x gone
      exact .inl ⟨x, own.symm ▸ gone, ⟨rfl, own⟩, rfl⟩
    · exact .inr ⟨x, set, w, mem, ⟨rfl, rfl⟩, rfl⟩

/-- What a modify on one NPU leaves there: nothing of a type that is deleted, the new
element of a type that is set, unless it translates to nothing, and the old one else. -/
theorem modify_on (vs : α → NpuId → List V) {s : Ndi} {n : NpuId}
    (known : e.ndiEntryIds.lookup n = some (ids n))
    (there : (s.entries n (ids n)).isSome)
    (apart : ∀ t, (deleted.find t).isSome → addOrMod.find t = none)
    (translated : ∀ x ∈ addOrMod.items k.order, k.translate x n = .ok (vs x n))
    (single : ∀ x ∈ addOrMod.items k.order, Single ndiKey (key x) (vs x n))
    (fine : ∀ i, o.rc i = .ok ()) :
    ∃ s', k.modify o e deleted addOrMod [n] s = (.ok (), s') ∧
      rest k.part e s' = rest k.part e s ∧ ∀ t, regs k.part e s' (n, t) =
        match addOrMod.find t with
        | some x => ((vs x n).head?).or (regs k.part e s (n, t))
        | none => if (deleted.find t).isSome then none else regs k.part e s (n, t) := by
  have fits : ∀ step ∈ k.steps vs deleted addOrMod ids n, step.Fits e s := steps_fit known there
  have names : (((k.steps vs deleted addOrMod ids n).flatMap (PushStep.writes ndiKey)).map
    Prod.fst).Nodup := steps_names apart single
  obtain ⟨registers, others⟩ := afterAll_regs k.part fits
  refine ⟨afterAll k.part (k.steps vs deleted addOrMod ids n) s, ?_, others, fun t => ?_⟩
  · rw [modify_eq ids vs, List.flatMap_singleton]
    · exact run_ok fun i _ _ => fine i
    · intro m mem
      exact List.mem_singleton.mp mem ▸ known
    · intro m mem
      exact List.mem_singleton.mp mem ▸ translated
  · rw [registers]
    have absent (unwritten : ∀ v, ((n, t), v) ∉ (k.steps vs deleted addOrMod ids n).flatMap
        (PushStep.writes ndiKey)) :
        writeAll ((k.steps vs deleted addOrMod ids n).flatMap (PushStep.writes ndiKey))
          (regs k.part e s) (n, t) = regs k.part e s (n, t) :=
      writeAll_of_notMem (fun w mem named => unwritten w.2 (named ▸ mem)) _
    cases set : addOrMod.find t with
    | some x =>
        have own : key x = t := addOrMod.keyed t x set
        subst own
        obtain nothing | ⟨v, one, same⟩ := single x (Keyed.mem_items.mpr set)
        · simp only [nothing, List.head?_nil, Option.none_or]
          refine absent fun v mem => ?_
          obtain ⟨-, ⟨-, gone⟩ | ⟨y, set', w, mem, named, -⟩⟩ := mem_writes.mp mem
          · rw [apart _ gone] at set
            cases set
          · obtain none_ | ⟨w', one, own⟩ := single y (Keyed.mem_items.mpr set')
            · rw [none_] at mem
              cases mem
            · rw [one, List.mem_singleton] at mem
              subst mem
              rw [← own, named, set] at set'
              cases set'
              rw [nothing] at one
              cases one
        · simp only [one, List.head?_cons, Option.some_or]
          refine writeAll_of_mem names (mem_writes.mpr ⟨rfl, .inr ⟨x, set, v, ?_, same, rfl⟩⟩) _
          rw [one]
          exact List.mem_singleton_self v
    | none =>
        cases gone : deleted.find t with
        | some x => exact writeAll_of_mem names (mem_writes.mpr ⟨rfl, .inl ⟨rfl, by rw [gone]; rfl⟩⟩) _
        | none =>
            refine absent fun v mem => ?_
            obtain ⟨-, ⟨-, gone'⟩ | ⟨y, set', w, mem, named, -⟩⟩ := mem_writes.mp mem
            · rw [gone] at gone'
              cases gone'
            · obtain none_ | ⟨w', one, own⟩ := single y (Keyed.mem_items.mpr set')
              · rw [none_] at mem
                cases mem
              · rw [one, List.mem_singleton] at mem
                subst mem
                rw [← own, named, set] at set'
                cases set'

/-- What a modify from one list to another leaves of a type: the translation of a new
element, or what is there where that is nothing or the element is unchanged. -/
theorem modify_between {s : Ndi} {n : NpuId} (ids : NpuId → NdiObjId) (ne : α → α → Bool)
    (new old : Keyed key)
    (known : e.ndiEntryIds.lookup n = some (ids n)) (there : (s.entries n (ids n)).isSome)
    (single : ∀ x, new.find (key x) = some x → Single ndiKey (key x) (k.values x n))
    (absent : ∀ t, old.find t = none → regs k.part e s (n, t) = none)
    (translated : ∀ x ∈ (Keyed.addOrMod ne new old).items k.order,
      ∃ xs, k.translate x n = .ok xs)
    (fine : ∀ i, o.rc i = .ok ()) :
    ∃ s', k.modify o e (Keyed.deleted new old) (Keyed.addOrMod ne new old) [n] s = (.ok (), s') ∧
      rest k.part e s' = rest k.part e s ∧
      (∀ t, new.find t = none → regs k.part e s' (n, t) = none) ∧
      (∀ t x, new.find t = some x → old.find t = none →
        regs k.part e s' (n, t) = (k.values x n).head?) ∧
      ∀ t x y, new.find t = some x → old.find t = some y → regs k.part e s' (n, t) =
        if ne y x then ((k.values x n).head?).or (regs k.part e s (n, t))
        else regs k.part e s (n, t) := by
  obtain ⟨s', ran, others, left⟩ := modify_on (k := k) k.values known there
    (fun _ => Keyed.deleted_apart) (fun x mem => translate_eq (translated x mem))
    (fun x mem => single x (Keyed.find_addOrMod.mp (Keyed.mem_items.mp mem)).1) fine
  refine ⟨s', ran, others, fun t none_ => ?_, fun t x found none_ => ?_, fun t x y found held => ?_⟩
  · rw [left, Keyed.addOrMod_of_absent none_]
    simp only [Keyed.isSome_deleted, none_, true_and]
    split
    · rfl
    · rename_i unheld
      exact absent t (Option.not_isSome_iff_eq_none.mp unheld)
  · have set : (Keyed.addOrMod ne new old).find t = some x :=
      Keyed.find_addOrMod.mpr ⟨found, fun y held => by rw [none_] at held; cases held⟩
    rw [left, set]
    simp only [absent t none_, Option.or_none]
  · rw [left]
    by_cases differ : ne y x
    · have set : (Keyed.addOrMod ne new old).find t = some x :=
        Keyed.find_addOrMod.mpr ⟨found, fun y' held' => by rw [held] at held'; cases held'; exact differ⟩
      rw [set, if_pos differ]
    · have kept : ¬ ((Keyed.deleted new old).find t).isSome := fun gone => by
        rw [(Keyed.isSome_deleted.mp gone).1] at found
        cases found
      rw [Keyed.addOrMod_of_same found held differ, if_neg differ]
      exact if_neg kept

end Pushing

end SonicNasAcl
