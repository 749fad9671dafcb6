import KsanaBuildAhead.Lib.Execution
import KsanaBuildAhead.Lib.KeySort
import KsanaBuildAhead.Runtime.ScheduleOutputWire

/-!
# The requests of one group

One request of a client is served by a group of requests, one for each of its outputs. Each knows
the whole group. Whoever notifies when all of them are finished hands out the beams, takes the
group apart and wakes the client.
-/
namespace KsanaBuildAhead.Runtime.ReqGroup

open Lib.Execution Lib.KeySort

-- The scores and log probabilities, floats in the source.
variable {F : Type} [LinearOrder F]

structure OutputTuple (F : Type) where
  outputTokens : List Int := []
  logprobs : List (List (Int × F)) := []
  score : F
deriving Repr, DecidableEq

inductive WaiterKind where
  | abort
  | request
  | step
deriving Repr, DecidableEq

/-- A wake of the client, when everything ended or after a step. -/
inductive Wake where
  | ended (waiter : WaiterKind)
  | stepped
deriving Repr, DecidableEq

/-- The client's request, with the `req_group` of each member as a list of member indices. Outputs
and finished flags are the client's own, the members refer to them. -/
structure Group (F : Type) where
  finisheds : List Bool
  outputGroup : List (OutputTuple F)
  beamSearchGroup : List (OutputTuple F) := []
  reqGroups : List (List Nat)
  numBeams : Int := 1
  aborted : Bool := false
  abortWaiter : Bool := false
  waiter : Bool := true
  stepWaiter : Bool := false
  wakes : List Wake := []
deriving Repr, DecidableEq

namespace Group

def memberNum (s : Group F) : Nat := s.outputGroup.length

def finished (s : Group F) (member : Nat) : Bool := s.finisheds.getD member false

def reqGroup (s : Group F) (member : Nat) : List Nat := s.reqGroups.getD member []

end Group

/-- The comparator of `std::sort`. -/
def higherScore (a b : OutputTuple F) : Bool := b.score < a.score

/-- The tokens and log probabilities move, the score of the output stays. -/
def receive (beam output : OutputTuple F) : OutputTuple F :=
  { output with outputTokens := beam.outputTokens, logprobs := beam.logprobs }

/-- The beams move to the members one by one, until there are no more of either. -/
def deliver : List Nat → List (OutputTuple F) → List (OutputTuple F) → List (OutputTuple F)
  | member :: members, beam :: beams, outputs =>
    deliver members beams (outputs.modify member (receive beam))
  | _, _, outputs => outputs

/-- A vector that was moved from is empty. -/
def movedFrom (beam : OutputTuple F) : OutputTuple F := { score := beam.score }

def deliverBeams (order : StdSort (higherScore (F := F))) (self : Nat) (s : Group F) : Group F :=
  let beams := order.sort s.beamSearchGroup
  { s with
    outputGroup := deliver (s.reqGroup self) beams s.outputGroup
    beamSearchGroup := (beams.take (s.reqGroup self).length).map movedFrom ++
      beams.drop (s.reqGroup self).length }

/-- The loop of `Notify` that clears the members' groups. It asks the size of its own group
before every member, so it ends once it has cleared that. -/
def clearReqGroups (self : Nat) : Nat → Nat → List (List Nat) → List (List Nat)
  | 0, _, groups => groups
  | fuel + 1, i, groups =>
    match (groups.getD self [])[i]? with
    | none => groups
    | some member => clearReqGroups self fuel (i + 1) (groups.set member [])

namespace Group

def endWaiter (s : Group F) : Option WaiterKind :=
  if s.aborted && s.abortWaiter then some .abort
  else if s.waiter then some .request
  else if s.stepWaiter then some .step
  else none

def wakeAtEnd (s : Group F) : Group F :=
  { s with wakes := s.wakes ++ (s.endWaiter.map Wake.ended).toList }

end Group

def notify (order : StdSort (higherScore (F := F))) (self : Nat) (s : Group F) : Group F :=
  if (s.reqGroup self).any fun member => !s.finished member then s
  else
    let s := if 1 < s.numBeams then deliverBeams order self s else s
    let groups := clearReqGroups self (s.reqGroup self).length 0 s.reqGroups
    { s with reqGroups := groups }.wakeAtEnd

/-- The loop over the members still running, `-1` before the first. -/
def lengthsAgree (outputTokensLen : Int) : List Nat → Bool
  | [] => true
  | size :: sizes =>
    let outputTokensLen := if outputTokensLen = -1 then int32OfSize size else outputTokensLen
    if size ≠ sizeOfInt outputTokensLen then false else lengthsAgree outputTokensLen sizes

def runningLengths (self : Nat) (s : Group F) : List Nat :=
  ((s.reqGroup self).filter fun member => !s.finished member).map fun member =>
    (s.outputGroup[member]?.map fun output => output.outputTokens.length).getD 0

def notifyStep (self : Nat) (s : Group F) : Group F :=
  if 1 < s.numBeams && !lengthsAgree (-1) (runningLengths self s) then s
  else if s.stepWaiter then { s with wakes := s.wakes ++ [.stepped] }
  else s

/-- What happens to a group: the scheduler runs it, marks a member finished, aborts the request
or notifies. -/
inductive GroupOp (F : Type) where
  | sample (outputGroup beamSearchGroup : List (OutputTuple F))
  | finish (member : Nat)
  | abort
  | notify (member : Nat)
  | notifyStep (member : Nat)

def Group.allFinished (s : Group F) : Bool := s.finisheds.all id

/-- A group is only run while a member is not finished, and only members notify. -/
def groupStep (order : StdSort (higherScore (F := F))) (s : Group F) :
    GroupOp F → Except String (Group F)
  | .sample outputGroup beamSearchGroup =>
    if s.allFinished then .error "finished group"
    else if outputGroup.length ≠ s.memberNum then .error "outputs of other members"
    else .ok { s with outputGroup := outputGroup, beamSearchGroup := beamSearchGroup }
  | .finish member =>
    if member < s.memberNum then .ok { s with finisheds := s.finisheds.set member true }
    else .error "no such member"
  | .abort => .ok { s with aborted := true }
  | .notify member =>
    if member < s.memberNum then .ok (notify order member s) else .error "no such member"
  | .notifyStep member =>
    if member < s.memberNum then .ok (notifyStep member s) else .error "no such member"

/-- The groups once the first `cleared` of them are empty. -/
def groupsAfter (cleared memberNum : Nat) : List (List Nat) :=
  List.replicate cleared [] ++ List.replicate (memberNum - cleared) (List.range memberNum)

/-- A group as it is made: every member knows all of them. -/
structure Start (s : Group F) : Prop where
  someMember : 0 < s.memberNum
  running : s.finisheds = List.replicate s.memberNum false
  whole : s.reqGroups = groupsAfter 0 s.memberNum
  silent : s.wakes = []

def Wake.isEnd : Wake → Bool
  | .ended _ => true
  | .stepped => false

/-- Until all members are finished no group is taken apart and nobody is woken for the end. -/
structure Sound (s : Group F) : Prop where
  finisheds : s.finisheds.length = s.memberNum
  groups : ∃ cleared ≤ s.memberNum, s.reqGroups = groupsAfter cleared s.memberNum
  intact : s.allFinished = false →
    s.reqGroups = groupsAfter 0 s.memberNum ∧ s.wakes.filter Wake.isEnd = []

variable {order : StdSort (higherScore (F := F))} {s t : Group F} {self : Nat}

omit [LinearOrder F] in
theorem Start.sound (h : Start s) : Sound s where
  finisheds := by rw [h.running, List.length_replicate]
  groups := ⟨0, Nat.zero_le _, h.whole⟩
  intact := fun _ => ⟨h.whole, by rw [h.silent]; rfl⟩

theorem groupsAfter_getD {cleared memberNum member : Nat} (hcleared : cleared ≤ memberNum)
    (hmember : member < memberNum) : (groupsAfter cleared memberNum).getD member [] =
      if member < cleared then [] else List.range memberNum := by
  rw [groupsAfter, List.getD_eq_getElem?_getD]
  by_cases h : member < cleared
  · rw [if_pos h, List.getElem?_append_left (by rwa [List.length_replicate]),
      List.getElem?_replicate_of_lt h]
    rfl
  · rw [if_neg h, List.getElem?_append_right (by rw [List.length_replicate]; omega),
      List.length_replicate, List.getElem?_replicate_of_lt (by omega)]
    rfl

omit [LinearOrder F] in
theorem groupsAfter_whole (hgroups : s.reqGroups = groupsAfter 0 s.memberNum) {member : Nat}
    (hmember : member < s.memberNum) : s.reqGroup member = List.range s.memberNum := by
  rw [Group.reqGroup, hgroups, groupsAfter_getD (Nat.zero_le _) hmember,
    if_neg (Nat.not_lt_zero member)]

theorem groupsAfter_set {cleared memberNum i : Nat} (hi : i ≤ cleared) (him : i < memberNum)
    (hcleared : cleared ≤ memberNum) :
    (groupsAfter cleared memberNum).set i [] = groupsAfter (max (i + 1) cleared) memberNum := by
  refine List.ext_getElem? fun j => ?_
  have hlength : ∀ c, c ≤ memberNum → (groupsAfter c memberNum).length = memberNum := by
    intro c hc
    rw [groupsAfter, List.length_append, List.length_replicate, List.length_replicate]
    omega
  by_cases hj : j < memberNum
  · have hmax : max (i + 1) cleared ≤ memberNum := by omega
    have hget : ∀ c, c ≤ memberNum → (groupsAfter c memberNum)[j]? =
        some (if j < c then [] else List.range memberNum) := by
      intro c hc
      have hD := groupsAfter_getD hc hj
      rw [List.getD_eq_getElem?_getD, List.getElem?_eq_getElem (by rw [hlength c hc]; exact hj),
        Option.getD_some] at hD
      rw [List.getElem?_eq_getElem (by rw [hlength c hc]; exact hj), hD]
    rw [List.getElem?_set, hget _ hmax, hget _ hcleared, hlength _ hcleared]
    by_cases hij : i = j
    · subst hij
      rw [if_pos rfl, if_pos hj, if_pos (by omega)]
    · rw [if_neg hij]
      by_cases hc : j < cleared
      · rw [if_pos hc, if_pos (by omega)]
      · rw [if_neg hc, if_neg (by omega)]
  · rw [List.getElem?_eq_none (by rw [List.length_set, hlength _ hcleared]; omega),
      List.getElem?_eq_none (by rw [hlength _ (by omega)]; omega)]

theorem clearReqGroups_eq {cleared memberNum fuel i : Nat} (hself : self < memberNum)
    (hcleared : cleared ≤ self) (hi : i ≤ self) (hfuel : memberNum ≤ fuel + i) :
    clearReqGroups self fuel i (groupsAfter (max i cleared) memberNum) =
      groupsAfter (self + 1) memberNum := by
  induction fuel generalizing i with
  | zero => omega
  | succ fuel ih =>
    have hown : (groupsAfter (max i cleared) memberNum).getD self [] = List.range memberNum := by
      rw [groupsAfter_getD (by omega) hself, if_neg (by omega)]
    have hmember : (List.range memberNum)[i]? = some i := List.getElem?_range (by omega)
    have hset : (groupsAfter (max i cleared) memberNum).set i [] =
        groupsAfter (max (i + 1) cleared) memberNum := by
      rw [groupsAfter_set (Nat.le_max_left i cleared) (by omega) (by omega)]
      congr 1
      omega
    rw [clearReqGroups, hown, hmember]
    simp only
    rw [hset]
    by_cases hlast : i = self
    · have hmax : max (i + 1) cleared = self + 1 := by omega
      rw [hmax]
      cases fuel with
      | zero => rfl
      | succ fuel =>
        rw [clearReqGroups, groupsAfter_getD (by omega) hself, if_pos (by omega)]
        rfl
    · exact ih (by omega) (by omega)

omit [LinearOrder F] in
theorem Group.allFinished_iff (hlength : s.finisheds.length = s.memberNum) :
    s.allFinished = true ↔ ∀ member < s.memberNum, s.finished member = true := by
  rw [Group.allFinished, List.all_eq_true]
  constructor
  · intro hall member hmember
    have hlt : member < s.finisheds.length := by rwa [hlength]
    have hget : s.finished member = s.finisheds[member] := by
      rw [Group.finished, List.getD_eq_getElem?_getD, List.getElem?_eq_getElem hlt,
        Option.getD_some]
    rw [hget]
    exact hall _ (List.getElem_mem hlt)
  · intro hall flag hmem
    obtain ⟨member, hlt, rfl⟩ := List.getElem_of_mem hmem
    have hfinished := hall member (by rwa [← hlength])
    rwa [Group.finished, List.getD_eq_getElem?_getD, List.getElem?_eq_getElem hlt,
      Option.getD_some] at hfinished

theorem notify_running (h : Sound s) (hself : self < s.memberNum)
    (hrunning : s.allFinished = false) : notify order self s = s := by
  rw [notify, if_pos]
  rw [groupsAfter_whole (h.intact hrunning).1 hself]
  by_contra hnone
  refine Bool.false_ne_true (hrunning.symm.trans
    ((Group.allFinished_iff h.finisheds).mpr fun member hlt => ?_))
  simp only [List.any_eq_true, List.mem_range, Bool.not_eq_true', not_exists, not_and,
    Bool.not_eq_false] at hnone
  exact hnone member hlt

/-- What `Notify` leaves behind once all members are finished. -/
structure Notified (member : Nat) (before after : Group F) : Prop where
  wakes : after.wakes = before.wakes ++ (before.endWaiter.map Wake.ended).toList
  finisheds : after.finisheds = before.finisheds
  memberNum : after.memberNum = before.memberNum
  groups : ∀ cleared ≤ before.memberNum, before.reqGroups = groupsAfter cleared before.memberNum →
    after.reqGroups = groupsAfter (max (member + 1) cleared) before.memberNum

omit [LinearOrder F] in
theorem deliver_length (members : List Nat) (beams outputs : List (OutputTuple F)) :
    (deliver members beams outputs).length = outputs.length := by
  fun_induction deliver members beams outputs with
  | case1 outputs member members beam beams ih => rw [ih, List.length_modify]
  | case2 => rfl

theorem notify_finished (h : Sound s) (hself : self < s.memberNum)
    (hfinished : s.allFinished = true) : Notified self s (notify order self s) := by
  have hall : ((s.reqGroup self).any fun member => !s.finished member) = false := by
    obtain ⟨cleared, hcleared, hgroups⟩ := h.groups
    rw [Group.reqGroup, hgroups, groupsAfter_getD hcleared hself]
    split
    · rfl
    · simp only [List.any_eq_false, List.mem_range, Bool.not_eq_true', Bool.not_eq_false]
      exact (Group.allFinished_iff h.finisheds).mp hfinished
  have hnotify : notify order self s =
      { (if 1 < s.numBeams then deliverBeams order self s else s) with
        reqGroups := clearReqGroups self (s.reqGroup self).length 0 s.reqGroups }.wakeAtEnd := by
    rw [notify, if_neg (by rw [hall]; exact Bool.false_ne_true)]
    split <;> rfl
  refine ⟨?_, ?_, ?_, ?_⟩
  · rw [hnotify]
    split <;> rfl
  · rw [hnotify]
    split <;> rfl
  · rw [hnotify]
    split
    · exact deliver_length ..
    · rfl
  · intro cleared hcleared hgroups
    have hown : s.reqGroup self = if self < cleared then [] else List.range s.memberNum := by
      rw [Group.reqGroup, hgroups, groupsAfter_getD hcleared hself]
    have hcleareds : clearReqGroups self (s.reqGroup self).length 0 s.reqGroups =
        groupsAfter (max (self + 1) cleared) s.memberNum := by
      by_cases hbehind : self < cleared
      · rw [hown, if_pos hbehind, max_eq_right (by omega), ← hgroups]
        rfl
      · have hloop : clearReqGroups self s.memberNum 0 (groupsAfter (max 0 cleared) s.memberNum) =
            groupsAfter (self + 1) s.memberNum :=
          clearReqGroups_eq hself (Nat.not_lt.mp hbehind) (Nat.zero_le self) le_rfl
        rw [Nat.zero_max] at hloop
        rw [hown, if_neg hbehind, List.length_range, max_eq_left (by omega), hgroups, hloop]
    rw [hnotify, ← hcleareds]
    split <;> rfl

omit [LinearOrder F] in
theorem deliver_getElem? {beams outputs : List (OutputTuple F)} {first count j : Nat}
    (hj : j < first + count) :
    (deliver (List.range' first count) beams outputs)[j]? =
      if j < first then outputs[j]?
      else match beams[j - first]? with
        | some beam => outputs[j]?.map (receive beam)
        | none => outputs[j]? := by
  induction count generalizing first beams outputs with
  | zero =>
    rw [if_pos (by omega)]
    rfl
  | succ count ih =>
    cases beams with
    | nil =>
      rw [List.range'_succ, deliver]
      · simp
      · rintro _ _ _ _ _ hcons
        cases hcons
    | cons beam beams =>
      rw [List.range'_succ, deliver]
      have hother : j ≠ first → (outputs.modify first (receive beam))[j]? = outputs[j]? :=
        fun hne => List.getElem?_modify_ne _ _ hne.symm
      by_cases hbefore : j < first
      · rw [ih (by omega), if_pos (by omega), if_pos hbefore, hother (by omega)]
      · rw [if_neg hbefore]
        by_cases hhere : j = first
        · subst hhere
          rw [ih (by omega), if_pos (by omega), List.getElem?_modify_eq, Nat.sub_self]
          rfl
        · have hnext : j - first = j - (first + 1) + 1 := by omega
          rw [ih (by omega), if_neg (by omega), hnext, List.getElem?_cons_succ, hother hhere]

/-- What the members receive from the beams: the best beam first, and where there are fewer beams
than members the last members keep their output. -/
structure ReceivesBeams (beamSearchGroup before after : List (OutputTuple F)) : Prop where
  length : after.length = before.length
  best : ∃ beams : List (OutputTuple F), beams.Perm beamSearchGroup ∧
    (beams.Pairwise fun a b => b.score ≤ a.score) ∧
    ∀ member < before.length, after[member]? = match beams[member]? with
      | some beam => before[member]?.map (receive beam)
      | none => before[member]?

theorem deliverBeams_receives (hgroup : s.reqGroup self = List.range s.memberNum) :
    ReceivesBeams s.beamSearchGroup s.outputGroup (deliverBeams order self s).outputGroup where
  length := deliver_length ..
  best := by
    refine ⟨order.sort s.beamSearchGroup, order.perm _, (order.sorted _).imp fun {a b} h => ?_,
      fun member hmember => ?_⟩
    · simpa only [higherScore, decide_eq_false_iff_not, not_lt] using h
    · have hinside : member < 0 + s.memberNum := by rwa [Nat.zero_add]
      rw [deliverBeams, hgroup, List.range_eq_range']
      refine (deliver_getElem? hinside).trans ?_
      rw [if_neg (Nat.not_lt_zero member), Nat.sub_zero]

omit [LinearOrder F] in
theorem Group.finished_set {member other : Nat} (hlength : s.finisheds.length = s.memberNum)
    (hmember : member < s.memberNum) :
    ({ s with finisheds := s.finisheds.set member true } : Group F).finished other =
      (decide (other = member) || s.finished other) := by
  rw [Group.finished, Group.finished, List.getD_eq_getElem?_getD, List.getD_eq_getElem?_getD,
    List.getElem?_set]
  by_cases h : member = other
  · subst h
    rw [if_pos rfl, if_pos (by rwa [hlength]), decide_eq_true rfl]
    rfl
  · rw [if_neg h, decide_eq_false (Ne.symm h), Bool.false_or]

omit [LinearOrder F] in
theorem notifyStep_eq (self : Nat) (s : Group F) :
    notifyStep self s = s ∨ notifyStep self s = { s with wakes := s.wakes ++ [.stepped] } := by
  rw [notifyStep]
  split
  · exact Or.inl rfl
  · split
    · exact Or.inr rfl
    · exact Or.inl rfl

/-- What one step keeps, and which members it marks finished. -/
structure StepKeeps (s t : Group F) (op : GroupOp F) : Prop where
  sound : Sound t
  memberNum : t.memberNum = s.memberNum
  finished : ∀ member < s.memberNum,
    t.finished member = true ↔ s.finished member = true ∨ op = .finish member

omit [LinearOrder F] in
theorem StepKeeps.of_same {op : GroupOp F} (h : Sound s) (hfinisheds : t.finisheds = s.finisheds)
    (hmemberNum : t.memberNum = s.memberNum) (hgroups : t.reqGroups = s.reqGroups)
    (hwakes : t.wakes.filter Wake.isEnd = s.wakes.filter Wake.isEnd)
    (hop : ∀ member, op ≠ .finish member) : StepKeeps s t op where
  sound := by
    refine ⟨by rw [hfinisheds, hmemberNum, h.finisheds],
      by rw [hgroups, hmemberNum]; exact h.groups, fun hrunning => ?_⟩
    rw [hgroups, hmemberNum, hwakes]
    rw [Group.allFinished, hfinisheds] at hrunning
    exact h.intact hrunning
  memberNum := hmemberNum
  finished := by
    intro member _
    rw [Group.finished, Group.finished, hfinisheds]
    exact (or_iff_left (hop member)).symm

omit [LinearOrder F] in
theorem finish_keeps {member : Nat} (h : Sound s) (hmember : member < s.memberNum) :
    StepKeeps s { s with finisheds := s.finisheds.set member true } (.finish member) := by
  have hset : ∀ other, ({ s with finisheds := s.finisheds.set member true } : Group F).finished
      other = (decide (other = member) || s.finished other) :=
    fun other => Group.finished_set h.finisheds hmember
  have hlength : (s.finisheds.set member true).length = s.memberNum := by
    rw [List.length_set, h.finisheds]
  refine ⟨⟨hlength, h.groups, fun hrunning => h.intact ?_⟩, rfl, fun other _ => ?_⟩
  · by_contra hall
    rw [Bool.not_eq_false, Group.allFinished_iff h.finisheds] at hall
    refine Bool.false_ne_true (hrunning.symm.trans
      ((Group.allFinished_iff hlength).mpr fun other hlt => ?_))
    rw [hset, hall other hlt, Bool.or_true]
  · rw [hset, Bool.or_eq_true, decide_eq_true_eq, or_comm, GroupOp.finish.injEq,
      eq_comm (a := other)]

omit [LinearOrder F] in
theorem Notified.keeps {op : GroupOp F} (h : Sound s) (hself : self < s.memberNum)
    (hfinished : s.allFinished = true) (hnotified : Notified self s t)
    (hop : ∀ member, op ≠ .finish member) : StepKeeps s t op where
  sound := by
    obtain ⟨cleared, hcleared, hgroups⟩ := h.groups
    refine ⟨by rw [hnotified.finisheds, hnotified.memberNum, h.finisheds],
      ⟨max (self + 1) cleared, ?_, ?_⟩, fun hrunning => ?_⟩
    · rw [hnotified.memberNum]
      omega
    · rw [hnotified.memberNum]
      exact hnotified.groups cleared hcleared hgroups
    · rw [Group.allFinished, hnotified.finisheds] at hrunning
      exact absurd (hrunning.symm.trans hfinished) Bool.false_ne_true
  memberNum := hnotified.memberNum
  finished := by
    intro member _
    rw [Group.finished, Group.finished, hnotified.finisheds]
    exact (or_iff_left (hop member)).symm

theorem groupStep_keeps {op : GroupOp F} (h : Sound s) (hstep : groupStep order s op = .ok t) :
    StepKeeps s t op := by
  cases op with
  | sample outputGroup beamSearchGroup =>
    simp only [groupStep] at hstep
    split at hstep
    · cases hstep
    · split at hstep
      · cases hstep
      · next hlength =>
        obtain rfl := Except.ok.inj hstep
        exact .of_same h rfl (not_not.mp hlength) rfl rfl nofun
  | finish member =>
    simp only [groupStep] at hstep
    split at hstep
    · next hmember =>
      obtain rfl := Except.ok.inj hstep
      exact finish_keeps h hmember
    · cases hstep
  | abort =>
    obtain rfl := Except.ok.inj hstep
    exact .of_same h rfl rfl rfl rfl nofun
  | notify member =>
    simp only [groupStep] at hstep
    split at hstep
    · next hmember =>
      obtain rfl := Except.ok.inj hstep
      cases hfinished : s.allFinished with
      | false =>
        rw [notify_running h hmember hfinished]
        exact .of_same h rfl rfl rfl rfl nofun
      | true => exact (notify_finished h hmember hfinished).keeps h hmember hfinished nofun
    · cases hstep
  | notifyStep member =>
    simp only [groupStep] at hstep
    split at hstep
    · obtain rfl := Except.ok.inj hstep
      rcases notifyStep_eq member s with hsame | hwoken
      · rw [hsame]
        exact .of_same h rfl rfl rfl rfl nofun
      · rw [hwoken]
        refine .of_same h rfl rfl rfl ?_ nofun
        rw [List.filter_append]
        exact List.append_nil _
    · cases hstep

theorem exec_keeps {ops : List (GroupOp F)} (h : Sound s)
    (hrun : exec (groupStep order) s ops = .ok t) : Sound t ∧ t.memberNum = s.memberNum ∧
      ∀ member < s.memberNum,
        t.finished member = true ↔ s.finished member = true ∨ .finish member ∈ ops := by
  induction ops generalizing s with
  | nil =>
    obtain rfl := Except.ok.inj hrun
    exact ⟨h, rfl, fun member _ => by simp⟩
  | cons op ops ih =>
    obtain ⟨mid, hstep, hrest⟩ := exec_cons_ok hrun
    have hkeeps := groupStep_keeps h hstep
    obtain ⟨hsound, hmemberNum, hfinished⟩ := ih hkeeps.sound hrest
    rw [hkeeps.memberNum] at hmemberNum hfinished
    refine ⟨hsound, hmemberNum, fun member hlt => ?_⟩
    rw [hfinished member hlt, hkeeps.finished member hlt, List.mem_cons, or_assoc,
      eq_comm (a := op)]

theorem groupStep_quiet {op : GroupOp F} (hstep : groupStep order s op = .ok t)
    (hop : ∀ member, op ≠ .notify member) : t.reqGroups = s.reqGroups ∧
      t.wakes.filter Wake.isEnd = s.wakes.filter Wake.isEnd := by
  cases op with
  | notify member => exact absurd rfl (hop member)
  | abort =>
    obtain rfl := Except.ok.inj hstep
    exact ⟨rfl, rfl⟩
  | sample outputGroup beamSearchGroup =>
    simp only [groupStep] at hstep
    split at hstep
    · cases hstep
    · split at hstep
      · cases hstep
      · obtain rfl := Except.ok.inj hstep
        exact ⟨rfl, rfl⟩
  | finish member =>
    simp only [groupStep] at hstep
    split at hstep
    · obtain rfl := Except.ok.inj hstep
      exact ⟨rfl, rfl⟩
    · cases hstep
  | notifyStep member =>
    simp only [groupStep] at hstep
    split at hstep
    · obtain rfl := Except.ok.inj hstep
      rcases notifyStep_eq member s with hsame | hwoken
      · rw [hsame]
        exact ⟨rfl, rfl⟩
      · rw [hwoken, List.filter_append]
        exact ⟨rfl, List.append_nil _⟩
    · cases hstep

theorem exec_quiet {ops : List (GroupOp F)} (hrun : exec (groupStep order) s ops = .ok t)
    (hops : ∀ member, .notify member ∉ ops) : t.reqGroups = s.reqGroups ∧
      t.wakes.filter Wake.isEnd = s.wakes.filter Wake.isEnd := by
  induction ops generalizing s with
  | nil =>
    obtain rfl := Except.ok.inj hrun
    exact ⟨rfl, rfl⟩
  | cons op ops ih =>
    obtain ⟨mid, hstep, hrest⟩ := exec_cons_ok hrun
    obtain ⟨hgroups, hwakes⟩ := groupStep_quiet hstep
      fun member heq => hops member (heq ▸ List.mem_cons_self)
    obtain ⟨hgroups', hwakes'⟩ := ih hrest fun member hmem =>
      hops member (List.mem_cons_of_mem _ hmem)
    exact ⟨hgroups'.trans hgroups, hwakes'.trans hwakes⟩

/-- The first `Notify` after the last member is finished. A further one wakes the client again. -/
structure EndsGroup (order : StdSort (higherScore (F := F))) (member : Nat)
    (before after : Group F) : Prop where
  whole : ∀ other < before.memberNum, before.reqGroup other = List.range before.memberNum
  silent : before.wakes.filter Wake.isEnd = []
  wakes : after.wakes = before.wakes ++ (before.endWaiter.map Wake.ended).toList
  groups : after.reqGroups = groupsAfter (member + 1) before.memberNum
  beams : 1 < before.numBeams →
    ReceivesBeams before.beamSearchGroup before.outputGroup after.outputGroup
  plain : ¬ 1 < before.numBeams → after.outputGroup = before.outputGroup
  again : ∀ other < before.memberNum, (notify order other after).wakes =
    after.wakes ++ (after.endWaiter.map Wake.ended).toList

omit [LinearOrder F] in
theorem Start.finished (hstart : Start s) {member : Nat} (hmember : member < s.memberNum) :
    s.finished member = false := by
  rw [Group.finished, hstart.running, List.getD_eq_getElem?_getD,
    List.getElem?_replicate_of_lt hmember]
  rfl

theorem Start.unfinished (hstart : Start s) {ops : List (GroupOp F)} {member : Nat}
    (hrun : exec (groupStep order) s ops = .ok t) (hmember : member < s.memberNum)
    (hunmarked : .finish member ∉ ops) : t.allFinished = false := by
  obtain ⟨hsound, hnum, hfinished⟩ := exec_keeps hstart.sound hrun
  by_contra hall
  rw [Bool.not_eq_false, Group.allFinished_iff hsound.finisheds, hnum] at hall
  rcases (hfinished member hmember).mp (hall member hmember) with hstarted | hmem
  · rw [hstart.finished hmember] at hstarted
    exact Bool.false_ne_true hstarted
  · exact hunmarked hmem

/-- Whatever the members do and notify before the last of them is finished: the first `Notify`
from then on wakes the client once, with the best beams handed out, and clears the groups up to
its own. -/
theorem notify_ends {before mid : List (GroupOp F)} {last member : Nat} (hstart : Start s)
    (hlast : .finish last ∉ before)
    (hothers : ∀ other < s.memberNum, other ≠ last → .finish other ∈ before)
    (hmid : ∀ other, .notify other ∉ mid)
    (hrun : exec (groupStep order) s (before ++ .finish last :: mid) = .ok t)
    (hmember : member < s.memberNum) : EndsGroup order member t (notify order member t) := by
  obtain ⟨early, hearly, hrest⟩ := exec_append_ok hrun
  obtain ⟨done, hdone, hlate⟩ := exec_cons_ok hrest
  obtain ⟨hsoundE, hnumE, hfinishedE⟩ := exec_keeps hstart.sound hearly
  have hfinish := groupStep_keeps hsoundE hdone
  obtain ⟨hsound, hnumL, hfinishedL⟩ := exec_keeps hfinish.sound hlate
  have hnum : t.memberNum = s.memberNum := hnumL.trans (hfinish.memberNum.trans hnumE)
  have hlastMember : last < s.memberNum := by
    simp only [groupStep] at hdone
    split at hdone
    · rwa [← hnumE]
    · cases hdone
  obtain ⟨hwhole, hsilent⟩ := hsoundE.intact (hstart.unfinished hearly hlastMember hlast)
  obtain ⟨hgroupsD, hwakesD⟩ := groupStep_quiet hdone nofun
  obtain ⟨hgroupsL, hwakesL⟩ := exec_quiet hlate hmid
  have hwholeT : t.reqGroups = groupsAfter 0 t.memberNum := by
    rw [hgroupsL, hgroupsD, hwhole, hnum, hnumE]
  have hall : t.allFinished = true := by
    rw [Group.allFinished_iff hsound.finisheds, hnum]
    intro other hlt
    have hltE : other < early.memberNum := by rwa [hnumE]
    have hltD : other < done.memberNum := by rwa [hfinish.memberNum]
    refine (hfinishedL other hltD).mpr (Or.inl ((hfinish.finished other hltE).mpr ?_))
    by_cases hother : other = last
    · exact Or.inr (hother ▸ rfl)
    · exact Or.inl ((hfinishedE other hlt).mpr (Or.inr (hothers other hlt hother)))
  have hmemberT : member < t.memberNum := by rwa [hnum]
  have hnotified : Notified member t (notify order member t) :=
    notify_finished hsound hmemberT hall
  have hkept : StepKeeps t (notify order member t) (.notify member) :=
    hnotified.keeps hsound hmemberT hall nofun
  have hgroup : t.reqGroup member = List.range t.memberNum := groupsAfter_whole hwholeT hmemberT
  have hnone : ((t.reqGroup member).any fun other => !t.finished other) = false := by
    rw [hgroup]
    simp only [List.any_eq_false, List.mem_range, Bool.not_eq_true', Bool.not_eq_false]
    exact (Group.allFinished_iff hsound.finisheds).mp hall
  refine ⟨fun other hother => groupsAfter_whole hwholeT hother, by rw [hwakesL, hwakesD, hsilent],
    hnotified.wakes, ?_, fun hbeams => ?_, fun hplain => ?_, fun other hother => ?_⟩
  · rw [hnotified.groups 0 (Nat.zero_le _) hwholeT, Nat.max_zero]
  · rw [notify, hnone, if_neg Bool.false_ne_true, if_pos hbeams]
    exact deliverBeams_receives hgroup
  · rw [notify, hnone, if_neg Bool.false_ne_true, if_neg hplain]
    rfl
  · have hagain : (notify order member t).allFinished = true := by
      rw [Group.allFinished, hnotified.finisheds]
      exact hall
    exact (notify_finished hkept.sound (by rwa [hnotified.memberNum]) hagain).wakes

/-- A run of a group, up to and with the first `Notify` after the last member is finished. -/
structure RunsGroup (order : StdSort (higherScore (F := F))) (s t : Group F)
    (ops : List (GroupOp F)) : Prop where
  memberNum : t.memberNum = s.memberNum
  whole : ∀ running < s.memberNum, .finish running ∉ ops →
    ∀ member < s.memberNum, t.reqGroup member = List.range s.memberNum
  silent : ∀ running < s.memberNum, .finish running ∉ ops → t.wakes.filter Wake.isEnd = []
  ends : ∀ before last mid, ops = before ++ .finish last :: mid → .finish last ∉ before →
    (∀ other < s.memberNum, other ≠ last → .finish other ∈ before) →
    (∀ other, .notify other ∉ mid) →
    ∀ member < s.memberNum, EndsGroup order member t (notify order member t)

/-- Until the last member is finished the client is not woken for the end and every member knows
the group, whoever notifies. The first `Notify` from then on ends the group: the members behind
the one that notifies keep theirs. -/
theorem group_ends {ops : List (GroupOp F)} (hstart : Start s)
    (hrun : exec (groupStep order) s ops = .ok t) : RunsGroup order s t ops := by
  obtain ⟨hsound, hnum, -⟩ := exec_keeps hstart.sound hrun
  refine ⟨hnum, fun running hrunning hunmarked member hmember => ?_,
    fun running hrunning hunmarked => ?_, ?_⟩
  · rw [← hnum] at hmember ⊢
    exact groupsAfter_whole (hsound.intact (hstart.unfinished hrun hrunning hunmarked)).1 hmember
  · exact (hsound.intact (hstart.unfinished hrun hrunning hunmarked)).2
  · rintro before last mid rfl hlast hothers hmid member hmember
    exact notify_ends hstart hlast hothers hmid hrun hmember

theorem higherScore_iff (a b : OutputTuple F) : higherScore a b = true ↔
    OrderDual.toDual a.score < OrderDual.toDual b.score := by
  simp [higherScore]

def sortBeams : StdSort (higherScore (F := F)) := insertion higherScore_iff

def groupSample : Group Int where
  finisheds := [false, false]
  outputGroup := [{ score := 0 }, { score := 0 }]
  reqGroups := [[0, 1], [0, 1]]
  numBeams := 2

def beamsSample : List (OutputTuple Int) := [⟨[1, 4], [], 3⟩, ⟨[2, 5], [], 7⟩]

/-- The second member is finished and notifies before the first one is finished. -/
def groupEndSample : Group Int :=
  { groupSample with
    finisheds := [true, true]
    outputGroup := beamsSample
    beamSearchGroup := beamsSample
    aborted := true }

/-- What the first member finds before it is marked finished. -/
def groupRunningSample : Group Int :=
  { groupSample with
    finisheds := [false, true]
    outputGroup := beamsSample
    beamSearchGroup := beamsSample }

theorem group_ends_sample :
    RunsGroup sortBeams groupSample groupRunningSample
        [.sample beamsSample beamsSample, .finish 1, .notify 1] ∧
      RunsGroup sortBeams groupSample groupEndSample
        [.sample beamsSample beamsSample, .finish 1, .notify 1, .finish 0, .abort,
          .notifyStep 0] ∧
      (notify sortBeams 0 groupEndSample).outputGroup = [⟨[2, 5], [], 3⟩, ⟨[1, 4], [], 7⟩] ∧
      (notify sortBeams 0 groupEndSample).wakes = [.ended .request] ∧
      (notify sortBeams 0 groupEndSample).reqGroups = [[], [0, 1]] := by
  have hstart : Start groupSample := ⟨by decide, rfl, rfl, rfl⟩
  exact ⟨group_ends hstart rfl, group_ends hstart rfl, rfl, rfl, rfl⟩

theorem lengthsAgree_of_known {outputTokensLen : Int} (h0 : 0 ≤ outputTokensLen)
    (hlen : outputTokensLen < 2 ^ 31) {sizes : List Nat} :
    lengthsAgree outputTokensLen sizes = true ↔ ∀ size ∈ sizes, (size : Int) = outputTokensLen := by
  induction sizes with
  | nil => simp [lengthsAgree]
  | cons size sizes ih =>
    have hknown : outputTokensLen ≠ -1 := by omega
    have hsize : (sizeOfInt outputTokensLen : Int) = outputTokensLen := by
      rw [sizeOfInt]
      omega
    rw [lengthsAgree, if_neg hknown, List.forall_mem_cons, ← ih]
    split
    · next hne => simp; omega
    · next heq =>
      rw [not_not] at heq
      rw [heq, hsize]
      simp

theorem lengthsAgree_iff {sizes : List Nat} (hsizes : ∀ size ∈ sizes, size < 2 ^ 31) :
    lengthsAgree (-1) sizes = true ↔ ∀ size ∈ sizes, ∀ other ∈ sizes, size = other := by
  cases sizes with
  | nil => simp [lengthsAgree]
  | cons first sizes =>
    have hfirst : first < 2 ^ 31 := hsizes first List.mem_cons_self
    have hstored : int32OfSize first = (first : Int) := by
      unfold int32OfSize
      rw [Int.bmod_def]
      push_cast
      split <;> omega
    have hback : sizeOfInt (first : Int) = first := by
      rw [sizeOfInt]
      omega
    rw [lengthsAgree, if_pos rfl, hstored, hback, if_neg (not_not.mpr rfl),
      lengthsAgree_of_known (by omega) (by omega)]
    constructor
    · intro h
      have hall : ∀ size ∈ first :: sizes, size = first := by
        rw [List.forall_mem_cons]
        exact ⟨rfl, fun size hmem => Int.ofNat_inj.mp (h size hmem)⟩
      exact fun size hmem other hother => (hall size hmem).trans (hall other hother).symm
    · intro h size hmem
      rw [h size (List.mem_cons_of_mem _ hmem) first List.mem_cons_self]

omit [LinearOrder F] in
/-- A beam search wakes for a step when the members still running have as many tokens. -/
theorem notifyStep_wakes (hbeams : 1 < s.numBeams)
    (hsizes : ∀ size ∈ runningLengths self s, size < 2 ^ 31) :
    (notifyStep self s).wakes = s.wakes ++ [.stepped] ↔ s.stepWaiter = true ∧
      ∀ size ∈ runningLengths self s, ∀ other ∈ runningLengths self s, size = other := by
  have hne : s.wakes ≠ s.wakes ++ [.stepped] := by simp
  rw [← lengthsAgree_iff hsizes, notifyStep]
  cases hagree : lengthsAgree (-1) (runningLengths self s) with
  | false => simp [hbeams]
  | true =>
    cases hwaiter : s.stepWaiter with
    | false => simp
    | true => simp

end KsanaBuildAhead.Runtime.ReqGroup
