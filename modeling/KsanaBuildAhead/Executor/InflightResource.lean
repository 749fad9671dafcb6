import KsanaBuildAhead.Engine.LiveReqIds
import Mathlib.Data.Finset.Card

/-!
# Resources a request holds

A schedule output first frees what finished and recomputed requests hold, then what requests
that are not alive hold, and gives every running request what it lacks. The accesses to the
resources are a list of operations, so that the states in between can be spoken about.
-/
namespace KsanaBuildAhead.Executor

open KsanaBuildAhead.Runtime KsanaBuildAhead.Engine

/-- What the manager relies on of a resource: the operations concern the request they name,
allocating for a holder does nothing, and `freeInactive` frees those that are not alive. -/
class InflightResourceInterface (σ : Type*) where
  Allocation : Type
  holders : σ → Finset Int
  allocation : σ → Int → Option Allocation
  alloc : σ → Int → σ
  free : σ → Int → σ
  freeInactive : σ → Finset Int → σ
  mem_holders : ∀ s reqId, reqId ∈ holders s ↔ (allocation s reqId).isSome = true
  alloc_self : ∀ s reqId, (allocation (alloc s reqId) reqId).isSome = true
  alloc_holder : ∀ s reqId, (allocation s reqId).isSome = true → alloc s reqId = s
  alloc_other : ∀ s reqId other, other ≠ reqId →
    allocation (alloc s reqId) other = allocation s other
  free_self : ∀ s reqId, allocation (free s reqId) reqId = none
  free_other : ∀ s reqId other, other ≠ reqId →
    allocation (free s reqId) other = allocation s other
  freeInactive_live : ∀ s live, ∀ reqId ∈ live,
    allocation (freeInactive s live) reqId = allocation s reqId
  freeInactive_dead : ∀ s live reqId, reqId ∉ live → allocation (freeInactive s live) reqId = none

open InflightResourceInterface

inductive ResourceOp where
  | free (reqId : Int)
  | freeInactive (liveReqIds : Finset Int)
  | alloc (reqId : Int)
deriving DecidableEq

variable {σ : Type*} [InflightResourceInterface σ]

def applyOp (s : σ) : ResourceOp → σ
  | .free reqId => free s reqId
  | .freeInactive liveReqIds => freeInactive s liveReqIds
  | .alloc reqId => alloc s reqId

/-- What the first loop does to a resource. -/
def freeOps (scheduleOutput : ScheduleOutput) : List ResourceOp :=
  scheduleOutput.finishReqIds.flatten.map .free ++
    scheduleOutput.recomputeReqIds.flatten.map .free

def liveSet (scheduleOutput : ScheduleOutput) (freeInactive : Bool) : Finset Int :=
  if freeInactive then scheduleOutput.liveReqIds.toFinset else ∅

def inactiveOps (scheduleOutput : ScheduleOutput) (freeInactive : Bool) : List ResourceOp :=
  if freeInactive = true ∧ liveSet scheduleOutput freeInactive ≠ ∅ then
    [.freeInactive (liveSet scheduleOutput freeInactive)]
  else []

def allocOps (scheduleOutput : ScheduleOutput) : List ResourceOp :=
  scheduleOutput.executorRunningReqs.map fun req => .alloc req.reqId

/-- All a call does to one resource. -/
def resourceOps (scheduleOutput : ScheduleOutput) (freeInactive : Bool) : List ResourceOp :=
  freeOps scheduleOutput ++ (inactiveOps scheduleOutput freeInactive ++ allocOps scheduleOutput)

/-- The operation does not change what a holder holds. -/
def ResourceOp.Spares (reqId : Int) : ResourceOp → Prop
  | .free other => reqId ≠ other
  | .freeInactive liveReqIds => reqId ∈ liveReqIds
  | .alloc _ => True

/-- The operation gives nothing out. -/
def ResourceOp.Frees : ResourceOp → Prop
  | .free _ | .freeInactive _ => True
  | .alloc _ => False

theorem applyOp_spared {s : σ} {reqId : Int} {op : ResourceOp}
    (hheld : (allocation s reqId).isSome = true) (hop : op.Spares reqId) :
    allocation (applyOp s op) reqId = allocation s reqId := by
  cases op with
  | free other => exact free_other s other reqId hop
  | freeInactive liveReqIds => exact freeInactive_live s liveReqIds reqId hop
  | alloc other =>
    by_cases hown : reqId = other
    · subst hown
      rw [applyOp, alloc_holder s reqId hheld]
    · exact alloc_other s other reqId hown

/-- A holder that every operation spares keeps its allocation all the time. -/
theorem applyOps_spared {s : σ} {reqId : Int} {ops : List ResourceOp}
    (hheld : (allocation s reqId).isSome = true) (hops : ∀ op ∈ ops, op.Spares reqId) :
    allocation (ops.foldl applyOp s) reqId = allocation s reqId := by
  induction ops generalizing s with
  | nil => rfl
  | cons op ops ih =>
    have hkept := applyOp_spared hheld (hops op List.mem_cons_self)
    rw [List.foldl_cons, ih (by rw [hkept]; exact hheld) fun other hmem =>
      hops other (List.mem_cons_of_mem op hmem), hkept]

theorem holders_applyOp_of_frees {s : σ} {op : ResourceOp} (hop : op.Frees) :
    holders (applyOp s op) ⊆ holders s := by
  intro reqId hmem
  rw [mem_holders] at hmem ⊢
  cases op with
  | free other =>
    by_cases hown : reqId = other
    · subst hown
      rw [applyOp, free_self] at hmem
      cases hmem
    · rw [applyOp, free_other s other reqId hown] at hmem
      exact hmem
  | freeInactive liveReqIds =>
    by_cases hlive : reqId ∈ liveReqIds
    · rw [applyOp, freeInactive_live s liveReqIds reqId hlive] at hmem
      exact hmem
    · rw [applyOp, freeInactive_dead s liveReqIds reqId hlive] at hmem
      cases hmem
  | alloc other => cases hop

theorem holders_applyOps_of_frees {s : σ} {ops : List ResourceOp} (hops : ∀ op ∈ ops, op.Frees) :
    holders (ops.foldl applyOp s) ⊆ holders s := by
  induction ops generalizing s with
  | nil => exact Finset.Subset.refl _
  | cons op ops ih =>
    exact (ih fun other hmem => hops other (List.mem_cons_of_mem op hmem)).trans
      (holders_applyOp_of_frees (hops op List.mem_cons_self))

theorem alloc_kept {s : σ} {reqId other : Int} (hheld : (allocation s other).isSome = true) :
    (allocation (alloc s reqId) other).isSome = true := by
  have hspares : (ResourceOp.alloc reqId).Spares other := trivial
  have hspared := applyOp_spared hheld hspares
  rw [applyOp] at hspared
  rw [hspared]
  exact hheld

theorem holders_allocs (s : σ) (reqIds : List Int) :
    holders s ⊆ holders ((reqIds.map ResourceOp.alloc).foldl applyOp s) := by
  induction reqIds generalizing s with
  | nil => exact Finset.Subset.refl _
  | cons reqId reqIds ih =>
    refine Finset.Subset.trans (fun other hmem => ?_) (ih (alloc s reqId))
    rw [mem_holders] at hmem ⊢
    exact alloc_kept hmem

theorem allocs_held {s : σ} {reqIds : List Int} {reqId : Int} (hmem : reqId ∈ reqIds) :
    (allocation ((reqIds.map ResourceOp.alloc).foldl applyOp s) reqId).isSome = true := by
  induction reqIds generalizing s with
  | nil => exact absurd hmem List.not_mem_nil
  | cons first reqIds ih =>
    rcases List.mem_cons.mp hmem with rfl | hrest
    · have hkept := holders_allocs (alloc s reqId) reqIds
      exact (mem_holders _ _).mp (hkept ((mem_holders _ _).mpr (alloc_self s reqId)))
    · exact ih hrest

theorem allocs_other {s : σ} {reqIds : List Int} {reqId : Int} (hother : reqId ∉ reqIds) :
    allocation ((reqIds.map ResourceOp.alloc).foldl applyOp s) reqId = allocation s reqId := by
  induction reqIds generalizing s with
  | nil => rfl
  | cons first reqIds ih =>
    obtain ⟨hne, hrest⟩ := not_or.mp (mt List.mem_cons.mpr hother)
    exact (ih hrest).trans (alloc_other s first reqId hne)

theorem frees_freed {s : σ} {reqIds : List Int} {reqId : Int} (hmem : reqId ∈ reqIds) :
    allocation ((reqIds.map ResourceOp.free).foldl applyOp s) reqId = none := by
  induction reqIds generalizing s with
  | nil => exact absurd hmem List.not_mem_nil
  | cons first reqIds ih =>
    by_cases hrest : reqId ∈ reqIds
    · exact ih hrest
    · have hown : reqId = first := (List.mem_cons.mp hmem).resolve_right hrest
      subst hown
      have hfree : ∀ op ∈ reqIds.map ResourceOp.free, op.Frees := by
        intro op hop
        obtain ⟨other, -, rfl⟩ := List.mem_map.mp hop
        trivial
      have hfewer := holders_applyOps_of_frees (s := free s reqId) hfree
      rw [List.map_cons, List.foldl_cons]
      by_contra hheld
      have hmem := hfewer ((mem_holders _ _).mpr (Option.isSome_iff_ne_none.mpr hheld))
      rw [mem_holders, free_self] at hmem
      cases hmem

section Call

variable {scheduleOutput : ScheduleOutput} {freeInactive : Bool} {s : σ} {reqId : Int}

/-- Finished or recomputed by this output. -/
def Released (scheduleOutput : ScheduleOutput) (reqId : Int) : Prop :=
  reqId ∈ scheduleOutput.finishReqIds.flatten ∨ reqId ∈ scheduleOutput.recomputeReqIds.flatten

theorem freeOps_eq (scheduleOutput : ScheduleOutput) :
    freeOps scheduleOutput = (scheduleOutput.finishReqIds.flatten ++
      scheduleOutput.recomputeReqIds.flatten).map .free := List.map_append.symm

theorem allocOps_eq (scheduleOutput : ScheduleOutput) :
    allocOps scheduleOutput =
      (scheduleOutput.executorRunningReqs.map fun req => req.reqId).map .alloc :=
  (List.map_map ..).symm

theorem mem_inactiveOps {op : ResourceOp} (h : op ∈ inactiveOps scheduleOutput freeInactive) :
    op = .freeInactive (liveSet scheduleOutput freeInactive) ∧ freeInactive = true := by
  rw [inactiveOps] at h
  split at h
  · rename_i hactive
    exact ⟨List.mem_singleton.mp h, hactive.1⟩
  · exact absurd h List.not_mem_nil

/-- A request that is alive and not released is spared by every operation of the call. -/
theorem resourceOps_spare (hkept : ¬ Released scheduleOutput reqId)
    (hlive : reqId ∈ scheduleOutput.liveReqIds) :
    ∀ op ∈ resourceOps scheduleOutput freeInactive, op.Spares reqId := by
  intro op hop
  rcases List.mem_append.mp hop with hfree | hrest
  · rw [freeOps_eq] at hfree
    obtain ⟨other, hother, rfl⟩ := List.mem_map.mp hfree
    rintro rfl
    exact hkept (List.mem_append.mp hother)
  · rcases List.mem_append.mp hrest with hinactive | halloc
    · obtain ⟨rfl, hactive⟩ := mem_inactiveOps hinactive
      rw [ResourceOp.Spares, liveSet, if_pos hactive]
      exact List.mem_toFinset.mpr hlive
    · obtain ⟨req, -, rfl⟩ := List.mem_map.mp halloc
      trivial

theorem resourceOps_running {req : ExecutorInferRequest}
    (hreq : req ∈ scheduleOutput.executorRunningReqs) :
    (allocation ((resourceOps scheduleOutput freeInactive).foldl applyOp s) req.reqId).isSome =
      true := by
  rw [resourceOps, List.foldl_append, List.foldl_append, allocOps_eq]
  exact allocs_held (List.mem_map_of_mem hreq)

theorem inactiveOps_frees :
    ∀ op ∈ inactiveOps scheduleOutput freeInactive, op.Frees := by
  intro op hop
  obtain ⟨rfl, -⟩ := mem_inactiveOps hop
  trivial

theorem freeOps_frees : ∀ op ∈ freeOps scheduleOutput, op.Frees := by
  intro op hop
  rw [freeOps_eq] at hop
  obtain ⟨other, -, rfl⟩ := List.mem_map.mp hop
  trivial

theorem resourceOps_released (hreleased : Released scheduleOutput reqId)
    (hidle : ∀ req ∈ scheduleOutput.executorRunningReqs, req.reqId ≠ reqId) :
    allocation ((resourceOps scheduleOutput freeInactive).foldl applyOp s) reqId = none := by
  have hfreed : allocation ((freeOps scheduleOutput).foldl applyOp s) reqId = none := by
    rw [freeOps_eq]
    exact frees_freed (List.mem_append.mpr hreleased)
  have hothers : reqId ∉ scheduleOutput.executorRunningReqs.map fun req => req.reqId := by
    intro hmem
    obtain ⟨req, hreq, hid⟩ := List.mem_map.mp hmem
    exact hidle req hreq hid
  rw [resourceOps, List.foldl_append, List.foldl_append, allocOps_eq, allocs_other hothers]
  by_contra hheld
  have hmem := holders_applyOps_of_frees inactiveOps_frees
    ((mem_holders _ _).mpr (Option.isSome_iff_ne_none.mpr hheld))
  rw [mem_holders, hfreed] at hmem
  cases hmem

/-- Up to the allocations the holders only get fewer, from there on only more. -/
theorem resourceOps_bounded {done : List ResourceOp}
    (hdone : done <+: resourceOps scheduleOutput freeInactive) :
    (holders (done.foldl applyOp s)).card ≤ max (holders s).card
      (holders ((resourceOps scheduleOutput freeInactive).foldl applyOp s)).card := by
  rw [resourceOps, ← List.append_assoc] at hdone ⊢
  have hfrees : ∀ op ∈ freeOps scheduleOutput ++ inactiveOps scheduleOutput freeInactive,
      op.Frees := by
    intro op hop
    rcases List.mem_append.mp hop with hfree | hinactive
    · exact freeOps_frees op hfree
    · exact inactiveOps_frees op hinactive
  rcases List.prefix_or_prefix_of_prefix hdone (List.prefix_append ..) with hearly |
    ⟨allocated, rfl⟩
  · refine le_max_of_le_left (Finset.card_le_card (holders_applyOps_of_frees fun op hop => ?_))
    exact hfrees op (hearly.subset hop)
  · obtain ⟨rest, hrest⟩ := (List.prefix_append_right_inj _).mp hdone
    have hmap : ∃ reqIds : List Int, rest = reqIds.map ResourceOp.alloc := by
      rw [allocOps_eq] at hrest
      obtain ⟨front, back, -, -, hback⟩ := List.map_eq_append_iff.mp hrest.symm
      exact ⟨back, hback.symm⟩
    obtain ⟨reqIds, rfl⟩ := hmap
    refine le_max_of_le_right (Finset.card_le_card ?_)
    rw [← hrest, ← List.append_assoc, List.foldl_append (l := freeOps scheduleOutput ++
      inactiveOps scheduleOutput freeInactive ++ allocated)]
    exact holders_allocs _ reqIds

end Call

/-- The operations of a call on the registered resources, by their position: one loop that
frees over all of them, and one that allocates. -/
def processOps (scheduleOutput : ScheduleOutput) (freeInactive : Bool) (resourceNum : Nat) :
    List (Nat × ResourceOp) :=
  (List.range resourceNum).flatMap (fun i => (freeOps scheduleOutput).map (i, ·)) ++
    (List.range resourceNum).flatMap fun i =>
      (inactiveOps scheduleOutput freeInactive ++ allocOps scheduleOutput).map (i, ·)

def runOps (resources : List σ) (ops : List (Nat × ResourceOp)) : List σ :=
  ops.foldl (fun resources op => resources.modify op.1 fun s => applyOp s op.2) resources

def processScheduleOutput (resources : List σ) (scheduleOutput : ScheduleOutput)
    (freeInactive : Bool) : List σ :=
  runOps resources (processOps scheduleOutput freeInactive resources.length)

/-- The operations on one resource. -/
def opsOn (i : Nat) (ops : List (Nat × ResourceOp)) : List ResourceOp :=
  ops.filterMap fun op => if op.1 = i then some op.2 else none

omit [InflightResourceInterface σ] in
theorem opsOn_append (i : Nat) (ops more : List (Nat × ResourceOp)) :
    opsOn i (ops ++ more) = opsOn i ops ++ opsOn i more := List.filterMap_append ..

theorem runOps_getElem? (resources : List σ) (ops : List (Nat × ResourceOp)) (i : Nat) :
    (runOps resources ops)[i]? = resources[i]?.map fun s => (opsOn i ops).foldl applyOp s := by
  induction ops generalizing resources with
  | nil =>
    show resources[i]? = _
    cases resources[i]? <;> rfl
  | cons op ops ih =>
    have hrest := ih (resources.modify op.1 fun s => applyOp s op.2)
    refine hrest.trans ?_
    rw [List.getElem?_modify]
    by_cases hown : op.1 = i
    · have hops : opsOn i (op :: ops) = op.2 :: opsOn i ops := List.filterMap_cons_some (if_pos hown)
      simp only [hops, hown, if_true]
      cases resources[i]? <;> rfl
    · have hops : opsOn i (op :: ops) = opsOn i ops := List.filterMap_cons_none (if_neg hown)
      simp only [hops, hown, if_false]
      cases resources[i]? <;> rfl

omit [InflightResourceInterface σ] in
theorem opsOn_loop (ops : List ResourceOp) {i resourceNum : Nat} (hi : i < resourceNum) :
    opsOn i ((List.range resourceNum).flatMap fun k => ops.map (k, ·)) = ops := by
  have hself : ∀ ops : List ResourceOp, opsOn i (ops.map (i, ·)) = ops := by
    intro ops
    rw [opsOn, List.filterMap_map]
    exact (List.filterMap_congr fun op _ => if_pos rfl).trans List.filterMap_some
  have hothers : ∀ ks : List Nat, i ∉ ks → opsOn i (ks.flatMap fun k => ops.map (k, ·)) = [] := by
    intro ks hks
    rw [opsOn, List.filterMap_eq_nil_iff]
    intro op hop
    obtain ⟨k, hk, hop⟩ := List.mem_flatMap.mp hop
    obtain ⟨inner, -, rfl⟩ := List.mem_map.mp hop
    exact if_neg fun heq : k = i => hks (heq ▸ hk)
  induction resourceNum with
  | zero => exact absurd hi (Nat.not_lt_zero i)
  | succ n ih =>
    rw [List.range_succ, List.flatMap_append, opsOn_append, List.flatMap_singleton]
    by_cases hlast : i = n
    · subst hlast
      rw [hothers _ List.not_mem_range_self, hself, List.nil_append]
    · have hnone : opsOn i (ops.map (n, ·)) = [] := by
        have hsingle := hothers [n] (by simpa using hlast)
        rwa [List.flatMap_singleton] at hsingle
      rw [ih (by omega), hnone, List.append_nil]

omit [InflightResourceInterface σ] in
theorem opsOn_processOps (scheduleOutput : ScheduleOutput) (freeInactive : Bool)
    {i resourceNum : Nat} (hi : i < resourceNum) :
    opsOn i (processOps scheduleOutput freeInactive resourceNum) =
      resourceOps scheduleOutput freeInactive := by
  rw [processOps, opsOn_append, opsOn_loop _ hi, opsOn_loop _ hi]
  rfl

/-- A schedule output of the Engine, with the batch states its live ids are merged from. -/
structure LifecycleCall where
  batchStates : List BatchState
  scheduleOutput : ScheduleOutput
  merged : ∀ reqId, reqId ∈ scheduleOutput.liveReqIds ↔
    ∃ state ∈ batchStates, reqId ∈ state.fillLiveReqIds

/-- Somewhere in the batch states, and not stopped. -/
def LifecycleCall.Live (call : LifecycleCall) (reqId : Int) : Prop :=
  ∃ state ∈ call.batchStates, ∃ req ∈ state.lifecycleReqs,
    req.isStopped = false ∧ req.reqId = reqId

/-- What a call makes of one resource. -/
structure ResourceFollows (call : LifecycleCall) (resource after : σ) : Prop where
  running : ∀ req ∈ call.scheduleOutput.executorRunningReqs,
    (allocation after req.reqId).isSome = true
  kept : ∀ reqId, (allocation resource reqId).isSome = true →
    ¬ Released call.scheduleOutput reqId → call.Live reqId →
      allocation after reqId = allocation resource reqId
  released : ∀ reqId, Released call.scheduleOutput reqId →
    (∀ req ∈ call.scheduleOutput.executorRunningReqs, req.reqId ≠ reqId) →
      allocation after reqId = none

/-- What a call with the resources `before` does for the requests, at its end and at every point
inside it, resource by resource. -/
structure FollowsLifecycle (before : List σ) (call : LifecycleCall) : Prop where
  runs : processScheduleOutput before call.scheduleOutput true =
    runOps before (processOps call.scheduleOutput true before.length)
  after : ∀ (i : Nat) (resource : σ), before[i]? = some resource →
    ∃ after, (processScheduleOutput before call.scheduleOutput true)[i]? = some after ∧
      ResourceFollows call resource after
  kept : ∀ done, done <+: processOps call.scheduleOutput true before.length →
    ∀ (i : Nat) (resource : σ), before[i]? = some resource → ∀ reqId,
      (allocation resource reqId).isSome = true → ¬ Released call.scheduleOutput reqId →
      call.Live reqId → ∃ now, (runOps before done)[i]? = some now ∧
        allocation now reqId = allocation resource reqId
  bounded : ∀ done, done <+: processOps call.scheduleOutput true before.length →
    ∀ (i : Nat) (resource : σ), before[i]? = some resource →
      ∃ now after, (runOps before done)[i]? = some now ∧
        (processScheduleOutput before call.scheduleOutput true)[i]? = some after ∧
        (holders now).card ≤ max (holders resource).card (holders after).card

section Lifecycle

variable {before : List σ} {i : Nat} {resource : σ}

theorem processScheduleOutput_getElem? (scheduleOutput : ScheduleOutput) (freeInactive : Bool)
    (hresource : before[i]? = some resource) :
    (processScheduleOutput before scheduleOutput freeInactive)[i]? =
      some ((resourceOps scheduleOutput freeInactive).foldl applyOp resource) := by
  have hi := (List.getElem?_eq_some_iff.mp hresource).1
  rw [processScheduleOutput, runOps_getElem?, hresource, opsOn_processOps _ _ hi]
  rfl

theorem runOps_of_isPrefix {call : LifecycleCall} {done : List (Nat × ResourceOp)}
    (hdone : done <+: processOps call.scheduleOutput true before.length)
    (hresource : before[i]? = some resource) :
    (runOps before done)[i]? = some ((opsOn i done).foldl applyOp resource) ∧
      opsOn i done <+: resourceOps call.scheduleOutput true := by
  have hi := (List.getElem?_eq_some_iff.mp hresource).1
  refine ⟨by rw [runOps_getElem?, hresource]; rfl, ?_⟩
  rw [← opsOn_processOps _ _ hi]
  exact hdone.filterMap _

theorem LifecycleCall.Live.mem_liveReqIds {call : LifecycleCall} {reqId : Int}
    (hlive : call.Live reqId) : reqId ∈ call.scheduleOutput.liveReqIds := by
  obtain ⟨state, hstate, hreq⟩ := hlive
  exact (call.merged reqId).mpr ⟨state, hstate, BatchState.mem_fillLiveReqIds.mpr hreq⟩

/-- A request that is alive and not released keeps what it holds through all operations. -/
theorem opsOn_kept {call : LifecycleCall} {ops : List ResourceOp} {reqId : Int}
    (hops : ops <+: resourceOps call.scheduleOutput true)
    (hheld : (allocation resource reqId).isSome = true)
    (hkept : ¬ Released call.scheduleOutput reqId) (hlive : call.Live reqId) :
    allocation (ops.foldl applyOp resource) reqId = allocation resource reqId :=
  applyOps_spared hheld fun op hop =>
    resourceOps_spare hkept hlive.mem_liveReqIds op (hops.subset hop)

theorem processScheduleOutput_follows (before : List σ) (call : LifecycleCall) :
    FollowsLifecycle before call where
  runs := rfl
  after := by
    intro i resource hresource
    refine ⟨_, processScheduleOutput_getElem? call.scheduleOutput true hresource, ?_⟩
    exact {
      running := fun req hreq => resourceOps_running hreq
      kept := fun reqId hheld hkept hlive => opsOn_kept (List.prefix_refl _) hheld hkept hlive
      released := fun reqId hreleased hidle => resourceOps_released hreleased hidle }
  kept := by
    intro done hdone i resource hresource reqId hheld hkept hlive
    obtain ⟨hnow, hops⟩ := runOps_of_isPrefix hdone hresource
    exact ⟨_, hnow, opsOn_kept hops hheld hkept hlive⟩
  bounded := by
    intro done hdone i resource hresource
    obtain ⟨hnow, hops⟩ := runOps_of_isPrefix hdone hresource
    exact ⟨_, _, hnow, processScheduleOutput_getElem? call.scheduleOutput true hresource,
      resourceOps_bounded hops⟩

end Lifecycle

/-- Every call of a sequence follows the lifecycle, whatever the resources held at first. -/
theorem resources_follow_lifecycle (resources : List σ) (calls : List LifecycleCall) :
    ∀ earlier call later, calls = earlier ++ call :: later →
      FollowsLifecycle (earlier.foldl (fun resources call =>
        processScheduleOutput resources call.scheduleOutput true) resources) call :=
  fun _ call _ _ => processScheduleOutput_follows _ call

/-! A pool that numbers its slots. -/

structure SlotPool where
  held : Finset Int := ∅
  slots : Int → Nat := fun _ => 0
  next : Nat := 0

namespace SlotPool

def slotOf (pool : SlotPool) (reqId : Int) : Option Nat :=
  if reqId ∈ pool.held then some (pool.slots reqId) else none

def take (pool : SlotPool) (reqId : Int) : SlotPool :=
  if reqId ∈ pool.held then pool
  else {
    held := insert reqId pool.held
    slots := Function.update pool.slots reqId pool.next
    next := pool.next + 1 }

theorem slotOf_isSome {pool : SlotPool} {reqId : Int} :
    (pool.slotOf reqId).isSome = true ↔ reqId ∈ pool.held := by
  rw [slotOf]
  split
  · rename_i hheld
    exact iff_of_true rfl hheld
  · rename_i hnone
    exact iff_of_false Bool.false_ne_true hnone

theorem slotOf_take {pool : SlotPool} {reqId other : Int} (hne : other ≠ reqId) :
    (pool.take reqId).slotOf other = pool.slotOf other := by
  rw [take]
  split
  · rfl
  · simp only [slotOf, Finset.mem_insert, hne, false_or, Function.update_of_ne hne]

instance : InflightResourceInterface SlotPool where
  Allocation := Nat
  holders := held
  allocation := slotOf
  alloc := take
  free pool reqId := { pool with held := pool.held.erase reqId }
  freeInactive pool live := { pool with held := pool.held ∩ live }
  mem_holders _ _ := slotOf_isSome.symm
  alloc_self pool reqId := by
    rw [slotOf_isSome, take]
    split
    · assumption
    · exact Finset.mem_insert_self reqId _
  alloc_holder pool reqId hheld := if_pos (slotOf_isSome.mp hheld)
  alloc_other _ _ _ hne := slotOf_take hne
  free_self pool reqId := if_neg (Finset.notMem_erase reqId _)
  free_other pool reqId other hne := by simp only [slotOf, Finset.mem_erase, hne, ne_eq,
    not_false_eq_true, true_and]
  freeInactive_live pool live reqId hlive := by simp only [slotOf, Finset.mem_inter, hlive, and_true]
  freeInactive_dead pool live reqId hdead := if_neg fun hmem => hdead (Finset.mem_inter.mp hmem).2

end SlotPool

/-- The live ids of all batch states, one behind the other. -/
def LifecycleCall.ofStates (batchStates : List BatchState) (scheduleOutput : ScheduleOutput) :
    LifecycleCall where
  batchStates := batchStates
  scheduleOutput := { scheduleOutput with liveReqIds := batchStates.flatMap BatchState.fillLiveReqIds }
  merged _ := List.mem_flatMap

/-- Request 8 runs, request 7 waits for blocks. -/
def waitingCall : LifecycleCall :=
  .ofStates [{ scheduleOutput := { scheduleId := 1, runningReqs := [{ reqId := 8 }] }
               waitingQueue := [{ reqId := 7 }] }]
    { scheduleId := 1, executorRunningReqs := [{ reqId := 8 }] }

/-- Request 7 runs again, request 8 has finished. -/
def resumedCall : LifecycleCall :=
  .ofStates [{ scheduleOutput := { scheduleId := 2, runningReqs := [{ reqId := 7 }] } }]
    { scheduleId := 2, finishReqIds := [[8]], executorRunningReqs := [{ reqId := 7 }] }

def emptyPools : List SlotPool := [{}, {}]

theorem resources_follow_lifecycle_sample :
    FollowsLifecycle ([waitingCall].foldl (fun resources call =>
      processScheduleOutput resources call.scheduleOutput true) emptyPools) resumedCall := by
  have hcalls : [waitingCall, resumedCall] = [waitingCall] ++ resumedCall :: [] := by
    rw [List.singleton_append]
  exact resources_follow_lifecycle emptyPools [waitingCall, resumedCall] [waitingCall] resumedCall []
    hcalls

end KsanaBuildAhead.Executor
