import KsanaBuildAhead.Lib.ListEdit

/-!
# The host ring

The flat vector `[count, (req_id, token, accepted, forward_draft)*]` in which one
step leaves its results for the repair of the next.
-/
namespace KsanaBuildAhead.Runtime

open Lib.ListEdit

def kBuildAheadRingFieldsPerReq : Nat := 4

structure HostRingEntry where
  reqId : Int
  token : Int
  accepted : Int
  forwardDraft : Int
deriving Repr, DecidableEq

def HostRingEntry.fields (entry : HostRingEntry) : List Int :=
  [entry.reqId, entry.token, entry.accepted, entry.forwardDraft]

/-- The entries a loop over the ring visits: as many as the count says, while they fit. -/
def visitEntries : Nat → List Int → List HostRingEntry
  | count + 1, reqId :: token :: accepted :: forwardDraft :: rest =>
    ⟨reqId, token, accepted, forwardDraft⟩ :: visitEntries count rest
  | _, _ => []

def hostRingEntries : List Int → List HostRingEntry
  | [] => []
  | count :: fields => visitEntries count.toNat fields

def lookupBuildAheadHostRingEntry (ring : List Int) (reqId : Int) : Option HostRingEntry :=
  (hostRingEntries ring).find? fun entry => entry.reqId == reqId

/-- A ring with room for `reqCount` entries, all zero behind the count. -/
def initBuildAheadHostRing (reqCount : Nat) : List Int :=
  reqCount :: List.replicate (kBuildAheadRingFieldsPerReq * reqCount) 0

def writeBuildAheadHostRingEntry (ring : List Int) (index : Nat) (entry : HostRingEntry) :
    List Int :=
  overwrite ring (1 + kBuildAheadRingFieldsPerReq * index) entry.fields

/-- The loop that writes `entries` from `index` on. -/
def writeEntries (ring : List Int) (index : Nat) : List HostRingEntry → List Int
  | [] => ring
  | entry :: entries => writeEntries (writeBuildAheadHostRingEntry ring index entry) (index + 1) entries

theorem writeEntries_append (ring : List Int) (index : Nat) (as bs : List HostRingEntry) :
    writeEntries ring index (as ++ bs) =
      writeEntries (writeEntries ring index as) (index + as.length) bs := by
  induction as generalizing ring index with
  | nil => rfl
  | cons a as ih =>
    rw [List.cons_append, writeEntries, ih, writeEntries, List.length_cons]
    congr 1
    omega

theorem writeEntries_replicate (pre : List Int) (index : Nat) (entries : List HostRingEntry)
    (hpre : pre.length = 1 + kBuildAheadRingFieldsPerReq * index) :
    writeEntries (pre ++ List.replicate (kBuildAheadRingFieldsPerReq * entries.length) 0) index
      entries = pre ++ entries.flatMap HostRingEntry.fields := by
  induction entries generalizing pre index with
  | nil => simp [writeEntries]
  | cons entry entries ih =>
    have hzeros : List.replicate (kBuildAheadRingFieldsPerReq * (entry :: entries).length) (0 : Int) =
        List.replicate 4 0 ++ List.replicate (kBuildAheadRingFieldsPerReq * entries.length) 0 := by
      rw [List.replicate_append_replicate]
      congr 1
      simp only [List.length_cons, kBuildAheadRingFieldsPerReq]
      omega
    have hwrite : writeBuildAheadHostRingEntry (pre ++ List.replicate
        (kBuildAheadRingFieldsPerReq * (entry :: entries).length) 0) index entry =
        (pre ++ entry.fields) ++ List.replicate (kBuildAheadRingFieldsPerReq * entries.length) 0 := by
      rw [writeBuildAheadHostRingEntry, ← hpre, hzeros,
        overwrite_append _ _ _ (by simp [HostRingEntry.fields]), HostRingEntry.fields]
      rfl
    rw [writeEntries, hwrite, ih (pre ++ entry.fields) (index + 1), List.flatMap_cons,
      List.append_assoc]
    rw [List.length_append, hpre]
    simp only [HostRingEntry.fields, kBuildAheadRingFieldsPerReq, List.length_cons, List.length_nil]
    omega

theorem visitEntries_fields (entries : List HostRingEntry) :
    visitEntries entries.length (entries.flatMap HostRingEntry.fields) = entries := by
  induction entries with
  | nil => rfl
  | cons entry entries ih =>
    rw [List.flatMap_cons, List.length_cons]
    simp only [HostRingEntry.fields, List.cons_append, List.nil_append, visitEntries]
    congr 1

/-- The ring that holds `entries`. -/
def ringOf (entries : List HostRingEntry) : List Int :=
  entries.length :: entries.flatMap HostRingEntry.fields

theorem writeEntries_init (entries : List HostRingEntry) :
    writeEntries (initBuildAheadHostRing entries.length) 0 entries = ringOf entries := by
  have hwritten := writeEntries_replicate [(entries.length : Int)] 0 entries rfl
  rw [initBuildAheadHostRing, ← List.singleton_append, hwritten]
  rfl

theorem hostRingEntries_ringOf (entries : List HostRingEntry) :
    hostRingEntries (ringOf entries) = entries :=
  visitEntries_fields entries

theorem ringOf_length (entries : List HostRingEntry) :
    (ringOf entries).length = 1 + kBuildAheadRingFieldsPerReq * entries.length := by
  induction entries with
  | nil => rfl
  | cons entry entries ih =>
    simp only [ringOf, List.length_cons, List.flatMap_cons, List.length_append,
      HostRingEntry.fields, List.length_nil, kBuildAheadRingFieldsPerReq] at ih ⊢
    omega

theorem hostRingEntries_written (entries : List HostRingEntry) :
    hostRingEntries (writeEntries (initBuildAheadHostRing entries.length) 0 entries) = entries := by
  rw [writeEntries_init, hostRingEntries_ringOf]

/-- A ring in which something is found does not start with a zero count. -/
theorem headD_ne_zero_of_lookup {ring : List Int} {reqId : Int} {entry : HostRingEntry}
    (h : lookupBuildAheadHostRingEntry ring reqId = some entry) : ring.headD 0 ≠ 0 := by
  intro hzero
  cases ring with
  | nil => cases h
  | cons count fields =>
    have hcount : count = 0 := hzero
    subst hcount
    simp [lookupBuildAheadHostRingEntry, hostRingEntries, visitEntries] at h

end KsanaBuildAhead.Runtime
