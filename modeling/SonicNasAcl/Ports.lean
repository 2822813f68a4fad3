/-
# Ports -- which ports a list of interfaces names

A filter or an action on ports names interfaces.  The code looks them up one after the
other and throws at the first that is no port; what it makes of the others is described
here interface by interface.

* `ndiPorts_ok`: the ports of a list are there when every interface is a port;
* `getNpuList_ok`: the NPUs of a filter are then those that one of its ports lies on.
-/
import SonicNasAcl.Filter

namespace SonicNasAcl

set_option autoImplicit false

open Lib

section Ports

variable {p : Platform} {l : List IfIndex} {npus : NpuSet} {npuId : NpuId}

/-- The interface is a port. -/
def KnownPort (p : Platform) (i : IfIndex) : Prop := ∃ q, utlIfidxToNdiPort p i = .ok q

instance (p : Platform) (i : IfIndex) : Decidable (KnownPort p i) :=
  decidable_of_iff ((utlIfidxToNdiPort p i).toOption.isSome = true) (by
    simp only [KnownPort, Option.isSome_iff_exists, except_toOption])

/-- The ports of a list of interfaces that lie on an NPU, in order. -/
def portsAt (p : Platform) (l : List IfIndex) (npuId : NpuId) : List NdiPort :=
  (l.filterMap fun i => (utlIfidxToNdiPort p i).toOption).filter fun q => q.npuId = npuId

/-- Every interface is a port, and these are the NPUs one of them lies on. -/
structure PortsOn (p : Platform) (l : List IfIndex) (npus : NpuSet) : Prop where
  known : ∀ i ∈ l, KnownPort p i
  npus : ∀ npuId, npuId ∈ npus ↔ portsAt p l npuId ≠ []

/-- Every interface is a port on one of the NPUs. -/
def PortsIn (p : Platform) (l : List IfIndex) (npus : NpuSet) : Prop :=
  ∀ i ∈ l, ∃ q, utlIfidxToNdiPort p i = .ok q ∧ q.npuId ∈ npus

instance (p : Platform) (l : List IfIndex) (npus : NpuSet) : Decidable (PortsIn p l npus) :=
  decidable_of_iff
    (l.all (fun i => (utlIfidxToNdiPort p i).toOption.any (fun q => q.npuId ∈ npus)) = true)
    (by simp only [PortsIn, List.all_eq_true, except_any_iff, decide_eq_true_eq])

theorem ndiPorts_ok {ports : List NdiPort} : NasAclFilter.ndiPorts p l = .ok ports ↔
    (∀ i ∈ l, KnownPort p i) ∧ ports = l.filterMap fun i => (utlIfidxToNdiPort p i).toOption :=
  except_mapM_ok

theorem portsAt_singleton {i : IfIndex} {q : NdiPort} (known : utlIfidxToNdiPort p i = .ok q)
    (npuId : NpuId) : portsAt p [i] npuId = if q.npuId = npuId then [q] else [] := by
  simp only [portsAt, List.filterMap_cons, known, Except.toOption, List.filterMap_nil]
  by_cases here : q.npuId = npuId
  · simp [here]
  · simp [here]

theorem portsAt_ne_nil :
    portsAt p l npuId ≠ [] ↔ ∃ i ∈ l, ∃ q, utlIfidxToNdiPort p i = .ok q ∧ q.npuId = npuId := by
  simp only [portsAt, ne_eq, List.filter_eq_nil_iff, List.mem_filterMap, decide_eq_true_eq,
    not_forall, not_not, exists_prop, except_toOption]
  constructor
  · rintro ⟨q, ⟨i, mem, known⟩, here⟩
    exact ⟨i, mem, q, known, here⟩
  · rintro ⟨i, mem, q, known, here⟩
    exact ⟨q, ⟨i, mem, known⟩, here⟩

/-- Only a list of no interfaces is on no NPUs. -/
theorem PortsOn.eq_nil (on : PortsOn p l ∅) : l = [] := by
  refine List.eq_nil_iff_forall_not_mem.mpr fun i mem => ?_
  obtain ⟨q, known⟩ := on.known i mem
  exact absurd ((on.npus q.npuId).mpr (portsAt_ne_nil.mpr ⟨i, mem, q, known, rfl⟩))
    (Finset.notMem_empty _)

/-- The ports depend on the interfaces only. -/
theorem PortsOn.congr {q : Platform} (same : p.ifInfo = q.ifInfo) (on : PortsOn p l npus) :
    PortsOn q l npus := by
  have known : utlIfidxToNdiPort p = utlIfidxToNdiPort q := by
    unfold utlIfidxToNdiPort
    rw [same]
  obtain ⟨ports, here⟩ := on
  unfold KnownPort at ports
  unfold portsAt at here
  rw [known] at ports
  simp only [known] at here
  exact ⟨ports, here⟩

theorem PortsOn.subset_iff {npus' : NpuSet} (on : PortsOn p l npus) :
    npus ⊆ npus' ↔ PortsIn p l npus' := by
  constructor
  · intro inside i mem
    obtain ⟨q, known⟩ := on.known i mem
    exact ⟨q, known, inside ((on.npus _).mpr (portsAt_ne_nil.mpr ⟨i, mem, q, known, rfl⟩))⟩
  · intro within npuId mem
    obtain ⟨i, listed, q, known, rfl⟩ := portsAt_ne_nil.mp ((on.npus npuId).mp mem)
    obtain ⟨q', known', inside⟩ := within i listed
    cases known.symm.trans known'
    exact inside

end Ports

namespace NasAclFilter

variable {p q : Platform} {f : NasAclFilter} {npus : NpuSet}

/-- The NPUs of a filter on ports are those its ports lie on. -/
theorem getNpuList_ok (tied : f.isNpuSpecific) :
    f.getNpuList p = .ok npus ↔ PortsOn p f.ifindexList npus := by
  unfold getNpuList
  rw [if_pos tied, except_bind_ok]
  simp only [ndiPorts_ok]
  have npus_iff (npuId : NpuId) :
      npuId ∈ ((f.ifindexList.filterMap fun i => (utlIfidxToNdiPort p i).toOption).map
        NdiPort.npuId).toFinset ↔ portsAt p f.ifindexList npuId ≠ [] := by
    simp only [List.mem_toFinset, List.mem_map, portsAt, ne_eq, List.filter_eq_nil_iff,
      decide_eq_true_eq, not_forall, not_not, exists_prop]
  constructor
  · rintro ⟨ports, ⟨known, rfl⟩, listed⟩
    obtain rfl := Except.ok.inj listed
    exact ⟨known, npus_iff⟩
  · rintro ⟨known, here⟩
    refine ⟨_, ⟨known, rfl⟩, congrArg Except.ok (Finset.ext fun npuId => ?_)⟩
    rw [npus_iff, here]

end NasAclFilter

end SonicNasAcl
