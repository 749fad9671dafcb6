import KsanaBuildAhead.Runtime.WireRoundTrip

/-!
# Recycled schedule outputs

A worker deserializes each buffer into an object of the pool and frees it later.
Freeing clears the object but leaves its patches, and deserializing appends to
them: the patches of every earlier buffer come back with the next one.
-/
namespace KsanaBuildAhead.Runtime

open Lib.Execution
open Lib.TypedWire

/-- The schedule outputs allocated so far, by address, and the free ones, oldest first. -/
structure ScheduleOutputPool where
  objects : List ScheduleOutput := []
  freeQueue : List Nat := []

variable (api : SerializationApi)

namespace ScheduleOutputPool

def getFreeScheduleOutput (pool : ScheduleOutputPool) : Nat × ScheduleOutputPool :=
  match pool.freeQueue with
  | [] => (pool.objects.length, { pool with objects := pool.objects ++ [freshScheduleOutput api] })
  | address :: queue => (address, { pool with freeQueue := queue })

def freeScheduleOutput (pool : ScheduleOutputPool) (address : Nat) : ScheduleOutputPool where
  objects := pool.objects.modify address ScheduleOutput.clear
  freeQueue := pool.freeQueue ++ [address]

end ScheduleOutputPool

inductive WorkerOp where
  | receive (buffer : List UInt8)
  | free (address : Nat)
deriving DecidableEq

/-- The pool, and which buffer went into which object so far. -/
structure WorkerState where
  pool : ScheduleOutputPool := {}
  received : List (Nat × List UInt8) := []

/-- The buffers deserialized into one object. -/
def WorkerState.buffersInto (state : WorkerState) (address : Nat) : List (List UInt8) :=
  (state.received.filter fun entry => entry.1 = address).map Prod.snd

/-- What the caller must not do: pass a buffer that ends early, or free what it does not hold. -/
inductive WorkerFault where
  | shortBuffer
  | notHeld
deriving DecidableEq

def workerStep (state : WorkerState) : WorkerOp → Except WorkerFault WorkerState
  | .receive buffer =>
    let (address, pool) := state.pool.getFreeScheduleOutput api
    match pool.objects[address]? with
    | none => .error .notHeld
    | some target =>
      match deserializeScheduleOutput api target buffer with
      | none => .error .shortBuffer
      | some (output, _) =>
        .ok {
          pool := { pool with objects := pool.objects.set address output }
          received := state.received ++ [(address, buffer)] }
  | .free address =>
    if address < state.pool.objects.length ∧ address ∉ state.pool.freeQueue then
      .ok { state with pool := state.pool.freeScheduleOutput address }
    else .error .notHeld

/-- The patches a buffer carries. -/
def carriedPatches (buffer : List UInt8) : List InferRequestPatch :=
  match readContents api buffer with
  | none => []
  | some (contents, _) => contents.runningReqPatches

/-- What the worker sees of a schedule output. -/
structure ObservedOutput where
  scheduleId : Nat
  executorRunningReqs : List ExecutorInferRequest
  runningReqPatches : List InferRequestPatch
  finishReqIds : List (List Int)
  recomputeReqIds : List (List Int)
  liveReqIds : List Int
  structuredGeneratorConfigs : AList fun _ : Int => StructuredGeneratorConfig
  needCreateGeneratorReqIds : Finset Int
deriving DecidableEq

def ScheduleOutput.observed (output : ScheduleOutput) : ObservedOutput where
  scheduleId := output.scheduleId
  executorRunningReqs := output.executorRunningReqs
  runningReqPatches := output.runningReqPatches
  finishReqIds := output.finishReqIds
  recomputeReqIds := output.recomputeReqIds
  liveReqIds := output.liveReqIds
  structuredGeneratorConfigs := output.structuredGeneratorConfigs
  needCreateGeneratorReqIds := output.needCreateGeneratorReqIds

/-- What the worker sees after deserializing a buffer into an object. -/
def observedAfter (target : ScheduleOutput) (buffer : List UInt8) : Option ObservedOutput :=
  (deserializeScheduleOutput api target buffer).map fun read => read.1.observed

/-- Everything a buffer is appended to is empty, the patches apart. -/
structure ScheduleOutput.ClearedButPatches (output : ScheduleOutput) : Prop extends
    output.HasNoIds where
  executorRunningReqs : output.executorRunningReqs = []

theorem clear_clearedButPatches (output : ScheduleOutput) : output.clear.ClearedButPatches :=
  ⟨⟨rfl, rfl, rfl⟩, rfl⟩

theorem fresh_clearedButPatches : (freshScheduleOutput api).ClearedButPatches :=
  ⟨freshScheduleOutput_hasNoIds api, rfl⟩

/-- Every object holds the patches of all buffers that went into it, and the free objects are
empty otherwise. -/
structure Recycled (state : WorkerState) : Prop where
  patches : ∀ (address : Nat) (output : ScheduleOutput),
    state.pool.objects[address]? = some output →
      output.runningReqPatches = (state.buffersInto address).flatMap (carriedPatches api)
  cleared : ∀ (address : Nat) (output : ScheduleOutput), address ∈ state.pool.freeQueue →
    state.pool.objects[address]? = some output → output.ClearedButPatches
  allocated : ∀ address ∈ state.pool.freeQueue, address < state.pool.objects.length
  queue : state.pool.freeQueue.Nodup
  known : ∀ entry ∈ state.received, entry.1 < state.pool.objects.length

variable {api}

theorem buffersInto_new {state : WorkerState} (h : Recycled api state) :
    state.buffersInto state.pool.objects.length = [] := by
  unfold WorkerState.buffersInto
  rw [List.map_eq_nil_iff, List.filter_eq_nil_iff]
  intro entry hentry
  have hlt := h.known entry hentry
  simp only [decide_eq_true_eq]
  omega

theorem Recycled.allocate {state : WorkerState} (h : Recycled api state) :
    Recycled api { state with
      pool := { objects := state.pool.objects ++ [freshScheduleOutput api] } } := by
  constructor
  · intro address output hobject
    rw [List.getElem?_append] at hobject
    split at hobject
    · exact h.patches address output hobject
    · rename_i hnew
      have hlast : address = state.pool.objects.length := by
        have hlt := (List.getElem?_eq_some_iff.mp hobject).1
        rw [List.length_singleton] at hlt
        omega
      rw [hlast, Nat.sub_self] at hobject
      obtain rfl := Option.some.inj hobject
      have hnone := buffersInto_new h
      rw [hlast]
      show [] = (state.buffersInto state.pool.objects.length).flatMap (carriedPatches api)
      rw [hnone]
      rfl
  · intro address output hmem
    cases hmem
  · intro address hmem
    cases hmem
  · exact List.nodup_nil
  · intro entry hentry
    have hlt := h.known entry hentry
    simp only [List.length_append, List.length_singleton]
    omega

theorem Recycled.dequeue {state : WorkerState} {first : Nat} {queue : List Nat}
    (h : Recycled api state) (hqueue : state.pool.freeQueue = first :: queue) :
    Recycled api { state with pool := { state.pool with freeQueue := queue } } := by
  have hsub : ∀ address ∈ queue, address ∈ state.pool.freeQueue := by
    intro address haddress
    rw [hqueue]
    exact List.mem_cons_of_mem _ haddress
  have hnodup := h.queue
  rw [hqueue] at hnodup
  constructor
  · exact h.patches
  · intro address output haddress
    exact h.cleared address output (hsub address haddress)
  · intro address haddress
    exact h.allocated address (hsub address haddress)
  · exact hnodup.of_cons
  · exact h.known

/-- The object handed out is empty but for its patches, and no longer in the queue. -/
theorem getFree_spec {state : WorkerState} {address : Nat} {pool : ScheduleOutputPool}
    (h : Recycled api state) (hget : state.pool.getFreeScheduleOutput api = (address, pool)) :
    (∃ recycled, pool.objects[address]? = some recycled ∧ recycled.ClearedButPatches) ∧
      address ∉ pool.freeQueue ∧ Recycled api { state with pool := pool } := by
  unfold ScheduleOutputPool.getFreeScheduleOutput at hget
  cases hqueue : state.pool.freeQueue with
  | nil =>
    rw [hqueue] at hget
    obtain ⟨rfl, rfl⟩ := Prod.mk.inj hget
    refine ⟨⟨freshScheduleOutput api, ?_, fresh_clearedButPatches api⟩, ?_, h.allocate⟩
    · exact List.getElem?_concat_length
    · exact List.not_mem_nil
  | cons first queue =>
    rw [hqueue] at hget
    obtain ⟨rfl, rfl⟩ := Prod.mk.inj hget
    have hmem : first ∈ state.pool.freeQueue := by
      rw [hqueue]
      exact List.mem_cons_self
    have hnodup := h.queue
    rw [hqueue, List.nodup_cons] at hnodup
    have hobject := List.getElem?_eq_getElem (h.allocated first hmem)
    exact ⟨⟨_, hobject, h.cleared first _ hmem hobject⟩, hnodup.1, h.dequeue hqueue⟩

theorem deserialize_apply {target : ScheduleOutput} (h : target.HasNoIds) (buffer : List UInt8) :
    deserializeScheduleOutput api target buffer =
      (readContents api buffer).map fun read => (target.store api read.1, read.2) := by
  rw [deserialize_eq api h]
  show (readContents api buffer).bind _ = _
  cases readContents api buffer with
  | none => rfl
  | some read => rfl

theorem buffersInto_append (state : WorkerState) (pool : ScheduleOutputPool)
    (address other : Nat) (buffer : List UInt8) :
    ({ pool := pool, received := state.received ++ [(address, buffer)] } :
      WorkerState).buffersInto other =
      state.buffersInto other ++ if address = other then [buffer] else [] := by
  unfold WorkerState.buffersInto
  rw [List.filter_append, List.map_append]
  by_cases h : address = other
  · rw [if_pos h, List.filter_cons_of_pos (by simpa using h)]
    rfl
  · rw [if_neg h, List.filter_cons_of_neg (by simpa using h)]
    rfl

theorem Recycled.store {state : WorkerState} {address : Nat} {recycled : ScheduleOutput}
    {buffer rest : List UInt8} {contents : BufferContents} (h : Recycled api state)
    (hobject : state.pool.objects[address]? = some recycled)
    (hheld : address ∉ state.pool.freeQueue)
    (hread : readContents api buffer = some (contents, rest)) :
    Recycled api
      { pool := { state.pool with
          objects := state.pool.objects.set address (recycled.store api contents) }
        received := state.received ++ [(address, buffer)] } := by
  have hlt := (List.getElem?_eq_some_iff.mp hobject).1
  constructor
  · intro other output hother
    rw [buffersInto_append, List.flatMap_append]
    dsimp only at hother
    rw [List.getElem?_set] at hother
    by_cases heq : address = other
    · rw [if_pos heq, if_pos hlt] at hother
      obtain rfl := Option.some.inj hother
      have hbefore := h.patches address recycled hobject
      rw [if_pos heq, List.flatMap_singleton, carriedPatches, hread, ← heq]
      exact congrArg (· ++ contents.runningReqPatches) hbefore
    · rw [if_neg heq] at hother
      rw [if_neg heq, List.flatMap_nil, List.append_nil]
      exact h.patches other output hother
  · intro other output hmem hother
    have hne : address ≠ other := fun heq => hheld (heq ▸ hmem)
    dsimp only at hother
    rw [List.getElem?_set, if_neg hne] at hother
    exact h.cleared other output hmem hother
  · intro other hmem
    rw [List.length_set]
    exact h.allocated other hmem
  · exact h.queue
  · intro entry hentry
    rw [List.length_set]
    rcases List.mem_append.mp hentry with hold | hnew
    · exact h.known entry hold
    · obtain rfl := List.mem_singleton.mp hnew
      exact hlt

theorem receive_recycled {state next : WorkerState} {buffer : List UInt8}
    (h : Recycled api state) (hstep : workerStep api state (.receive buffer) = .ok next) :
    Recycled api next := by
  unfold workerStep at hstep
  cases hget : state.pool.getFreeScheduleOutput api with
  | mk address pool =>
    obtain ⟨⟨recycled, hobject, hcleared⟩, hheld, hpool⟩ := getFree_spec h hget
    rw [hget] at hstep
    dsimp only at hstep
    rw [hobject] at hstep
    dsimp only at hstep
    rw [deserialize_apply hcleared.toHasNoIds] at hstep
    cases hread : readContents api buffer with
    | none =>
      rw [hread] at hstep
      cases hstep
    | some read =>
      rw [hread] at hstep
      obtain rfl := Except.ok.inj hstep
      exact hpool.store hobject hheld hread

theorem free_recycled {state next : WorkerState} {address : Nat} (h : Recycled api state)
    (hstep : workerStep api state (.free address) = .ok next) : Recycled api next := by
  unfold workerStep at hstep
  dsimp only at hstep
  split at hstep
  · rename_i hheld
    obtain rfl := Except.ok.inj hstep
    unfold ScheduleOutputPool.freeScheduleOutput
    constructor
    · intro other output hother
      dsimp only at hother
      rw [List.getElem?_modify] at hother
      obtain ⟨before, hbefore, rfl⟩ := Option.map_eq_some_iff.mp hother
      have hpatches := h.patches other before hbefore
      by_cases heq : address = other
      · rw [if_pos heq]
        exact hpatches
      · rw [if_neg heq]
        exact hpatches
    · intro other output hmem hother
      dsimp only at hother
      rw [List.getElem?_modify] at hother
      obtain ⟨before, hbefore, rfl⟩ := Option.map_eq_some_iff.mp hother
      by_cases heq : address = other
      · rw [if_pos heq]
        exact clear_clearedButPatches before
      · rw [if_neg heq]
        rcases List.mem_append.mp hmem with hold | hnew
        · exact h.cleared other before hold hbefore
        · exact absurd (List.mem_singleton.mp hnew).symm heq
    · intro other hmem
      rw [List.length_modify]
      rcases List.mem_append.mp hmem with hold | hnew
      · exact h.allocated other hold
      · obtain rfl := List.mem_singleton.mp hnew
        exact hheld.1
    · refine List.nodup_append.mpr ⟨h.queue, List.nodup_singleton _, ?_⟩
      intro held hmem free hfree heq
      obtain rfl := List.mem_singleton.mp hfree
      exact hheld.2 (heq ▸ hmem)
    · intro entry hentry
      rw [List.length_modify]
      exact h.known entry hentry
  · cases hstep

theorem recycled_init : Recycled api {} := by
  constructor
  · intro address output h
    cases h
  · intro address output h
    cases h
  · intro address h
    cases h
  · exact List.nodup_nil
  · intro entry h
    cases h

theorem run_recycled {ops : List WorkerOp} {state : WorkerState}
    (hrun : exec (workerStep api) {} ops = .ok state) : Recycled api state := by
  refine exec_invariant ?_ recycled_init hrun
  intro before op after h hstep
  cases op with
  | receive buffer => exact receive_recycled h hstep
  | free address => exact free_recycled h hstep

/-- What the Engine writes of a schedule output. -/
def writtenBytes (api : SerializationApi) (output : ScheduleOutput) : List UInt8 :=
  match serializeScheduleOutput api true output with
  | .ok bytes => bytes
  | .error _ => []

theorem readContents_writtenBytes {output : ScheduleOutput} (hrange : output.InRange)
    (hkv : ∀ req ∈ output.runningReqs,
      (sentSnapshot (output.snapshotOf req) req).kvCachedTokenNum < 2 ^ 31)
    (hok : ∃ bytes, serializeScheduleOutput api true output = .ok bytes) :
    readContents api (writtenBytes api output) = some (output.contents api, []) := by
  obtain ⟨bytes, hwrite⟩ := hok
  have hread := contents_roundTrip api hrange hkv hwrite []
  rw [List.append_nil] at hread
  rw [writtenBytes, hwrite]
  exact hread

theorem receive_free_run {buffer rest : List UInt8} {contents : BufferContents}
    (hread : readContents api buffer = some (contents, rest)) :
    exec (workerStep api) {} [.receive buffer, .free 0] = .ok
      { pool :=
          { objects := [((freshScheduleOutput api).store api contents).clear], freeQueue := [0] }
        received := [(0, buffer)] } := by
  have hreceive : workerStep api {} (.receive buffer) = .ok
      { pool := { objects := [(freshScheduleOutput api).store api contents] }
        received := [(0, buffer)] } := by
    show (match deserializeScheduleOutput api (freshScheduleOutput api) buffer with
      | none => _
      | some (output, _) => _) = _
    rw [deserialize_apply (freshScheduleOutput_hasNoIds api), hread]
    rfl
  rw [exec_cons_of_ok _ hreceive]
  rfl

/-- One step of a decoding request, in full or as a patch. -/
def decodeStep (patchTransfer : Bool) (step : Int) : ScheduleOutput where
  scheduleId := 1
  runningReqs :=
    [ { reqId := 3
        inferStage := .decode
        step := step
        forwardingTokens := [31]
        patchTransfer := patchTransfer } ]

theorem readContents_decodeStep (patchTransfer : Bool) (step : Int)
    (hrange : (decodeStep patchTransfer step).InRange) :
    readContents littleEndian (writtenBytes littleEndian (decodeStep patchTransfer step)) =
      some ((decodeStep patchTransfer step).contents littleEndian, []) := by
  refine readContents_writtenBytes hrange ?_ ?_
  · intro req hreq
    obtain rfl := List.mem_singleton.mp hreq
    exact (by decide : 0 < 2 ^ 31)
  · rw [serializeScheduleOutput_ok_iff]
    intro req hreq hstage
    obtain rfl := List.mem_singleton.mp (List.mem_of_mem_filter hreq)
    cases hstage

/-- Leftover patches are all that tells a recycled object from a new one. -/
theorem observed_store_eq_iff {recycled : ScheduleOutput} (h : recycled.ClearedButPatches)
    (contents : BufferContents) :
    (recycled.store api contents).observed =
        ((freshScheduleOutput api).store api contents).observed ↔
      recycled.runningReqPatches = [] := by
  constructor
  · intro hsame
    have hpatches : recycled.runningReqPatches ++ contents.runningReqPatches =
        [] ++ contents.runningReqPatches := congrArg ObservedOutput.runningReqPatches hsame
    exact List.append_cancel_right hpatches
  · intro hpatches
    have hreqs := h.executorRunningReqs
    unfold ScheduleOutput.observed ScheduleOutput.store
    dsimp only
    rw [hpatches, hreqs]
    rfl

theorem observedAfter_of_read {target : ScheduleOutput} (h : target.HasNoIds)
    {buffer rest : List UInt8} {contents : BufferContents}
    (hread : readContents api buffer = some (contents, rest)) :
    observedAfter api target buffer = some (target.store api contents).observed := by
  rw [observedAfter, deserialize_apply h, hread]
  rfl

/-- After any run of the pool, the next object handed out shows a complete buffer as a new
object does if and only if no earlier buffer that went into it carried a patch. -/
theorem recycled_shows_buffer_iff {ops : List WorkerOp} {state : WorkerState}
    (hrun : exec (workerStep api) {} ops = .ok state) {buffer rest : List UInt8}
    {contents : BufferContents} (hread : readContents api buffer = some (contents, rest)) :
    let obtained := state.pool.getFreeScheduleOutput api
    ∃ recycled, obtained.2.objects[obtained.1]? = some recycled ∧
      (observedAfter api recycled buffer = observedAfter api (freshScheduleOutput api) buffer ↔
        ∀ earlier ∈ state.buffersInto obtained.1, carriedPatches api earlier = []) := by
  intro obtained
  obtain ⟨⟨recycled, hobject, hcleared⟩, -, hpool⟩ := getFree_spec (run_recycled hrun) rfl
  have hpatches := hpool.patches _ recycled hobject
  refine ⟨recycled, hobject, ?_⟩
  rw [observedAfter_of_read hcleared.toHasNoIds hread,
    observedAfter_of_read (freshScheduleOutput_hasNoIds api) hread, Option.some_inj,
    observed_store_eq_iff hcleared, hpatches, List.flatMap_eq_nil_iff]
  rfl

theorem recycled_shows_buffer_iff_sample :
    ∃ state, exec (workerStep littleEndian) {}
        [.receive (writtenBytes littleEndian (decodeStep false 1)), .free 0] = .ok state ∧
      let obtained := state.pool.getFreeScheduleOutput littleEndian
      let buffer := writtenBytes littleEndian (decodeStep true 2)
      ∃ recycled, obtained.2.objects[obtained.1]? = some recycled ∧
        (observedAfter littleEndian recycled buffer =
            observedAfter littleEndian (freshScheduleOutput littleEndian) buffer ↔
          ∀ earlier ∈ state.buffersInto obtained.1, carriedPatches littleEndian earlier = []) :=
  ⟨_, receive_free_run (readContents_decodeStep false 1 (by decide)),
    recycled_shows_buffer_iff (receive_free_run (readContents_decodeStep false 1 (by decide)))
      (readContents_decodeStep true 2 (by decide))⟩

/-- The patch of step 1 is there again when the object is used for step 2. -/
theorem recycled_repeats_patch :
    ∃ state, exec (workerStep littleEndian) {}
        [.receive (writtenBytes littleEndian (decodeStep true 1)), .free 0] = .ok state ∧
      let obtained := state.pool.getFreeScheduleOutput littleEndian
      let buffer := writtenBytes littleEndian (decodeStep true 2)
      ∃ recycled, obtained.2.objects[obtained.1]? = some recycled ∧
        observedAfter littleEndian recycled buffer ≠
          observedAfter littleEndian (freshScheduleOutput littleEndian) buffer := by
  have hfirst := readContents_decodeStep true 1 (by decide)
  have hsecond := readContents_decodeStep true 2 (by decide)
  refine ⟨_, receive_free_run hfirst, _, rfl, ?_⟩
  have hcleared := clear_clearedButPatches ((freshScheduleOutput littleEndian).store littleEndian
    ((decodeStep true 1).contents littleEndian))
  rw [observedAfter_of_read hcleared.toHasNoIds hsecond,
    observedAfter_of_read (freshScheduleOutput_hasNoIds littleEndian) hsecond, Ne, Option.some_inj,
    observed_store_eq_iff hcleared]
  intro hpatches
  cases hpatches

end KsanaBuildAhead.Runtime
