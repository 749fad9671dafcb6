import Mathlib.Data.List.Basic

/-!
# The data of a request

The records both processes share: workloads and schedule tasks, the stage of a
request, its draft tokens, and the fields the scheduler only carries to the
wire. Token ids are integers because `-1` is the placeholder; sizes and indices
are natural numbers; a C++ string is its list of bytes and a `float` its bit
pattern.
-/
namespace KsanaBuildAhead.Runtime

/-- The number of tokens one step generates, drafts apart. -/
def kStepGenerateTokenNum : Nat := 1

/-- Stands in `forwarding_tokens` for a token that is not known at launch. -/
def kFastPathPlaceholderTokenId : Int := -1

/-- Hard limit on the steps of one request in flight at once. -/
def kMaxInflightDepth : Nat := 2

/-- A token of the vocabulary; never the placeholder. -/
abbrev VocabId := { token : Int // 0 ≤ token }

theorem VocabId.ne_placeholder (token : VocabId) : token.val ≠ kFastPathPlaceholderTokenId := by
  intro h
  have hnonneg := token.property
  rw [h] at hnonneg
  exact absurd hnonneg (by decide)

/-- A failed check stops the operation with the text the check gives. -/
def check (condition : Prop) [Decidable condition] (message : String) : Except String Unit :=
  if condition then .ok () else .error message

@[simp] theorem check_of_true {condition : Prop} [Decidable condition] (message : String)
    (h : condition) : check condition message = .ok () := if_pos h

@[simp] theorem check_of_false {condition : Prop} [Decidable condition] (message : String)
    (h : ¬ condition) : check condition message = .error message := if_neg h

theorem check_bind_of_true {α : Type} {condition : Prop} [Decidable condition] (message : String)
    (k : Except String α) (h : condition) : (check condition message >>= fun _ => k) = k := by
  rw [check_of_true message h]
  rfl

theorem check_bind_ok {α : Type} {condition : Prop} [Decidable condition] {message : String}
    {k : Except String α} {a : α} (h : (check condition message >>= fun _ => k) = .ok a) :
    condition ∧ k = .ok a := by
  by_cases hc : condition
  · rw [check_bind_of_true message k hc] at h
    exact ⟨hc, h⟩
  · rw [check_of_false message hc] at h
    cases h

theorem bind_ok {ε α β : Type} {x : Except ε α} {f : α → Except ε β} {b : β}
    (h : (x >>= f) = .ok b) : ∃ a, x = .ok a ∧ f a = .ok b := by
  cases hx : x with
  | error e =>
    rw [hx] at h
    cases h
  | ok a =>
    rw [hx] at h
    exact ⟨a, rfl, h⟩

theorem bind_ok_iff {ε α β : Type} {x : Except ε α} {f : α → β} :
    (∃ b, (x >>= fun a => .ok (f a)) = .ok b) ↔ ∃ a, x = .ok a := by
  constructor
  · rintro ⟨b, h⟩
    obtain ⟨a, ha, -⟩ := bind_ok h
    exact ⟨a, ha⟩
  · rintro ⟨a, rfl⟩
    exact ⟨f a, rfl⟩

/-- Workload of a task. -/
structure ScheduleTaskWorkload where
  prefillTokenNum : Nat := 0
  prefillStartOffset : Nat := 0
  generatedTokenNum : Nat := 0
  draftTokenNum : Nat := 0
  samplingTokenNum : Nat := 0
deriving Repr, DecidableEq

namespace ScheduleTaskWorkload

def isEmpty (workload : ScheduleTaskWorkload) : Bool :=
  workload.prefillTokenNum == 0 && workload.generatedTokenNum == 0 && workload.draftTokenNum == 0

def getTokenNum (workload : ScheduleTaskWorkload) : Nat :=
  workload.prefillTokenNum + workload.generatedTokenNum + workload.draftTokenNum

end ScheduleTaskWorkload

structure ScheduleTask where
  workload : ScheduleTaskWorkload := {}
deriving Repr, DecidableEq

def ScheduleTask.isEmpty (task : ScheduleTask) : Bool := task.workload.isEmpty

theorem ScheduleTask.prefillTokenNum_of_isEmpty {task : ScheduleTask}
    (h : task.isEmpty = true) : task.workload.prefillTokenNum = 0 := by
  simp only [ScheduleTask.isEmpty, ScheduleTaskWorkload.isEmpty, Bool.and_eq_true,
    beq_iff_eq] at h
  exact h.1.1

inductive InferStage where
  | context
  | decode
deriving Repr, DecidableEq

/-- What a step does on the Executor: sample, sample a finished prefill, or only write KV. -/
inductive ForwardStepKind where
  | decode
  | prefill
  | prefillChunkMid
deriving Repr, DecidableEq

def isPrefillChunkMidStep (kind : ForwardStepKind) : Bool := kind == .prefillChunkMid

/-- The three draft sources a request carries. -/
structure DraftTokens where
  mtp : List Int := []
  spec : List Int := []
  ptp : List Int := []
deriving Repr, DecidableEq

/-- The methods of `DraftTokens`, whose header is not part of the sources, with
what the callers rely on. -/
class DraftTokensApi where
  getDraftTokens : DraftTokens → List Int
  truncDraft : DraftTokens → Nat → DraftTokens
  clear : DraftTokens → DraftTokens
  size : DraftTokens → Nat
  size_eq : ∀ drafts, size drafts = (getDraftTokens drafts).length
  get_clear : ∀ drafts, getDraftTokens (clear drafts) = []
  get_trunc : ∀ drafts n, getDraftTokens (truncDraft drafts n) = (getDraftTokens drafts).take n
  get_mtp : ∀ tokens, getDraftTokens { mtp := tokens } = tokens

attribute [simp] DraftTokensApi.size_eq DraftTokensApi.get_clear DraftTokensApi.get_trunc
  DraftTokensApi.get_mtp

/-- Drafts in the order mtp, spec, ptp, truncated from the end. -/
@[reducible] def concatDraftTokens : DraftTokensApi where
  getDraftTokens drafts := drafts.mtp ++ drafts.spec ++ drafts.ptp
  truncDraft drafts n :=
    { mtp := drafts.mtp.take n
      spec := drafts.spec.take (n - drafts.mtp.length)
      ptp := drafts.ptp.take (n - (drafts.mtp.length + drafts.spec.length)) }
  clear _ := {}
  size drafts := (drafts.mtp ++ drafts.spec ++ drafts.ptp).length
  size_eq _ := rfl
  get_clear _ := rfl
  get_trunc drafts n := by simp only [List.take_append, List.length_append]
  get_mtp tokens := by simp

/-- A type-tagged integer for an enumeration declared outside the sources. -/
structure TokenReduceMode where
  code : Int
deriving Repr, DecidableEq

structure StructuredConstraintType where
  code : Int
deriving Repr, DecidableEq

structure DataType where
  code : Int
deriving Repr, DecidableEq

inductive MemoryLocation where
  | host
  | device
deriving Repr, DecidableEq

/-- A tensor with the bytes it owns; `GetTotalBytes` is their number. -/
structure Tensor where
  location : MemoryLocation
  dtype : DataType
  shape : List Nat
  bytes : List UInt8
deriving Repr, DecidableEq

/-- Embedding slice used to refit the input embedding. -/
structure EmbeddingSlice where
  pos : List Int := []
  embeddings : List (List UInt32) := []
  embeddingTensors : List Tensor := []
  additionalTensors : List Tensor := []
deriving Repr, DecidableEq

structure TargetDescribe where
  cutoffLayer : List Int
  tokenId : List Int
  slicePos : List (Int × Int)
  tokenReduceMode : TokenReduceMode
  inputTopLogprobsNum : Int
deriving Repr, DecidableEq

structure SamplingConfig where
  topk : Int := 0
  numBeams : Int := 0
  numReturnSequences : Int := 0
  topp : UInt32 := 0
  temperature : UInt32 := 0
  repetitionPenalty : UInt32 := 0
  lengthPenalty : UInt32 := 0
  stopTokenIds : List Int := []
  ignoreEos : Bool := false
  maxNewTokens : Int := 0
  logprobsNum : Int := 0
  noRepeatNgramSize : Int := 0
  encoderNoRepeatNgramSize : Int := 0
  decoderNoRepeatNgramSize : Int := 0
  stopStrings : List (List UInt8) := []
  jsonSchema : List UInt8 := []
  enableStructuredOutput : Bool := false
  enableThinking : Bool := false
  ptpTokenNum : Int := 0
deriving Repr, DecidableEq

structure StructuredGeneratorConfig where
  constraintType : StructuredConstraintType := ⟨0⟩
  constraintSpec : List UInt8 := []
deriving Repr, DecidableEq

/-- Where one Decode rank keeps the KV blocks of a request. -/
structure DecodeTargetLite where
  decodeAttnTpRankInGroup : Nat
  kvPoolBaseVa : Nat
  kvBlockIds : List Int
deriving Repr, DecidableEq

/-- The part of the Prefill/Decode disaggregation state that is transmitted. -/
structure PdV2RequestContext where
  decodeTargets : List DecodeTargetLite := []
  decodeEngineInferenceAddr : List UInt8 := []
  decodeAttnDpGroupId : Nat := 0
  kvFromRemote : Bool := false
deriving Repr, DecidableEq

end KsanaBuildAhead.Runtime
