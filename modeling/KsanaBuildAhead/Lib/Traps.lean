import Mathlib.Logic.Basic
import Mathlib.Tactic.Common

/-!
# Exceptions and traps

A run ends with a value, with an exception that the program raised itself, or in a trap of the
machine, such as a division by zero. An exception rejects the input, a trap is a crash. The
condition `TrapFree run post` lets an exception through and not a trap; one rule for each
operation pushes it to the start of a program, so that what it asks of the input is read off.
-/
namespace KsanaBuildAhead.Lib.Traps

inductive Fault (ε : Type*) where
  | thrown (error : ε)
  | trapped
deriving Repr, DecidableEq

abbrev Run (ε : Type*) (α : Type) := Except (Fault ε) α

section Operations

variable {ε : Type*} {α : Type}

def raise (error : ε) : Run ε α := .error (.thrown error)

/-- The program goes on where the condition holds, and raises the error where it does not. -/
def check (condition : Prop) [Decidable condition] (error : ε) : Run ε Unit :=
  if condition then .ok () else raise error

def raiseIf (condition : Prop) [Decidable condition] (error : ε) : Run ε Unit :=
  if condition then raise error else .ok ()

def orRaise (value : Option α) (error : ε) : Run ε α :=
  match value with
  | some a => .ok a
  | none => raise error

/-- An operation of the machine that has no result for a second operand of zero. -/
def divideBy [Zero α] [DecidableEq α] (op : α → α → α) (a b : α) : Run ε α :=
  if b = 0 then .error .trapped else .ok (op a b)

def divide [Zero α] [DecidableEq α] [Div α] (a b : α) : Run ε α := divideBy (· / ·) a b

def modulo [Zero α] [DecidableEq α] [Mod α] (a b : α) : Run ε α := divideBy (· % ·) a b

/-- `a < b || a % b != 0`: the remainder is taken only where the comparison does not decide. -/
def unevenly [Zero α] [DecidableEq α] [Mod α] [LT α] [DecidableLT α] (a b : α) : Run ε Bool :=
  if a < b then .ok true else do
    let rest ← modulo a b
    .ok (decide (rest ≠ 0))

end Operations

section Contracts

variable {ε : Type*} {α β : Type}

/-- The run traps exactly where it is not safe, and raises an error exactly where it is safe but
not accepted. -/
def Contract (run : Run ε α) (safe accepts : Prop) (facts : α → Prop) : Prop :=
  match run with
  | .ok a => safe ∧ accepts ∧ facts a
  | .error (.thrown _) => safe ∧ ¬accepts
  | .error .trapped => ¬safe

/-- The part of a contract that is about traps. -/
def TrapsUnless (run : Run ε α) (safe : Prop) : Prop := run ≠ .error .trapped ↔ safe

variable {run : Run ε α} {rest : α → Run ε β} {safe safe' accepts accepts' : Prop}
  {facts facts' : α → Prop} {after : β → Prop}

theorem Contract.trapsUnless (h : Contract run safe accepts facts) : TrapsUnless run safe := by
  match run, h with
  | .ok a, h => exact iff_of_true nofun h.1
  | .error (.thrown error), h => exact iff_of_true nofun h.1
  | .error .trapped, h => exact iff_of_false (fun hne => hne rfl) h

theorem Contract.returns_iff (h : Contract run safe accepts facts) :
    (∃ a, run = .ok a) ↔ safe ∧ accepts := by
  match run, h with
  | .ok a, h => exact iff_of_true ⟨a, rfl⟩ ⟨h.1, h.2.1⟩
  | .error (.thrown error), h => exact iff_of_false nofun (fun hboth => h.2 hboth.2)
  | .error .trapped, h => exact iff_of_false nofun (fun hboth => h hboth.1)

theorem Contract.facts_of_ok (h : Contract run safe accepts facts) {a : α} (hrun : run = .ok a) :
    facts a := by
  subst hrun
  exact h.2.2

theorem bind_eq_ok_iff {b : β} :
    run >>= rest = .ok b ↔ ∃ a, run = .ok a ∧ rest a = .ok b := by
  match run with
  | .ok a => exact ⟨fun h => ⟨a, rfl, h⟩, fun ⟨_, ha, h⟩ => Except.ok.inj ha ▸ h⟩
  | .error fault => exact iff_of_false nofun (fun ⟨_, ha, _⟩ => nomatch ha)

theorem Contract.conseq (h : Contract run safe accepts facts) (hsafe : safe ↔ safe')
    (haccepts : safe → (accepts ↔ accepts')) (hfacts : ∀ a, facts a → facts' a) :
    Contract run safe' accepts' facts' := by
  match run, h with
  | .ok a, h => exact ⟨hsafe.mp h.1, (haccepts h.1).mp h.2.1, hfacts a h.2.2⟩
  | .error (.thrown error), h =>
    exact ⟨hsafe.mp h.1, fun haccept => h.2 ((haccepts h.1).mpr haccept)⟩
  | .error .trapped, h => exact fun hsafe' => h (hsafe.mpr hsafe')

theorem Contract.weaken (h : Contract run safe accepts facts) (hfacts : ∀ a, facts a → facts' a) :
    Contract run safe accepts facts' := h.conseq Iff.rfl (fun _ => Iff.rfl) hfacts

/-- What is left runs only on an accepted input, with the facts at hand. -/
theorem Contract.bind (h : Contract run safe accepts facts)
    (hrest : ∀ a, facts a → Contract (rest a) safe' accepts' after) :
    Contract (run >>= rest) (safe ∧ (accepts → safe')) (accepts ∧ accepts') after := by
  match run, h with
  | .ok a, ⟨hsafe, haccepts, hfacts⟩ =>
    exact (hrest a hfacts).conseq
      ⟨fun hsafe' => ⟨hsafe, fun _ => hsafe'⟩, fun hboth => hboth.2 haccepts⟩
      (fun _ => ⟨fun haccepts' => ⟨haccepts, haccepts'⟩, And.right⟩) (fun _ hafter => hafter)
  | .error (.thrown error), ⟨hsafe, hrejects⟩ =>
    exact ⟨⟨hsafe, fun haccepts => absurd haccepts hrejects⟩, fun hboth => hrejects hboth.1⟩
  | .error .trapped, hunsafe => exact fun hboth => hunsafe hboth.1

/-- Two parts that never trap. -/
theorem Contract.bind_safe (h : Contract run True accepts facts)
    (hrest : ∀ a, facts a → Contract (rest a) True accepts' after) :
    Contract (run >>= rest) True (accepts ∧ accepts') after :=
  (h.bind hrest).conseq (iff_true_intro ⟨trivial, fun _ => trivial⟩) (fun _ => Iff.rfl)
    (fun _ hafter => hafter)

/-- The value is passed on through a plain function. -/
theorem Contract.map_ok {f : α → β} (h : Contract run safe accepts facts)
    (hafter : ∀ a, facts a → after (f a)) :
    Contract (run >>= fun a => .ok (f a)) safe accepts after := by
  match run, h with
  | .ok a, h => exact ⟨h.1, h.2.1, hafter a h.2.2⟩
  | .error (.thrown error), h => exact h
  | .error .trapped, h => exact h

theorem Contract.bind_value {a : α} (h : Contract run safe accepts (fun b => b = a))
    (hrest : Contract (rest a) safe' accepts' after) :
    Contract (run >>= rest) (safe ∧ (accepts → safe')) (accepts ∧ accepts') after := by
  refine h.bind fun b hb => ?_
  subst hb
  exact hrest

theorem Contract.bind_trapsUnless (h : Contract run safe accepts facts)
    (hrest : ∀ a, facts a → TrapsUnless (rest a) safe') :
    TrapsUnless (run >>= rest) (safe ∧ (accepts → safe')) := by
  match run, h with
  | .ok a, ⟨hsafe, haccepts, hfacts⟩ =>
    exact (hrest a hfacts).trans
      ⟨fun hsafe' => ⟨hsafe, fun _ => hsafe'⟩, fun hboth => hboth.2 haccepts⟩
  | .error (.thrown error), ⟨hsafe, hrejects⟩ =>
    exact iff_of_true nofun ⟨hsafe, fun haccepts => absurd haccepts hrejects⟩
  | .error .trapped, hunsafe =>
    exact iff_of_false (fun hne => hne rfl) (fun hboth => hunsafe hboth.1)

theorem TrapsUnless.conseq (h : TrapsUnless run safe) (hsafe : safe ↔ safe') :
    TrapsUnless run safe' := h.trans hsafe

theorem contract_ok {a : α} (h : facts a) : Contract (.ok a : Run ε α) True True facts :=
  ⟨trivial, trivial, h⟩

theorem trapsUnless_ok (a : α) : TrapsUnless (.ok a : Run ε α) True := iff_of_true nofun trivial

theorem contract_check (condition : Prop) [Decidable condition] (error : ε) :
    Contract (check condition error) True condition (fun _ => condition) := by
  unfold check
  split
  next h => exact ⟨trivial, h, h⟩
  next h => exact ⟨trivial, h⟩

theorem contract_raiseIf (condition : Prop) [Decidable condition] (error : ε) :
    Contract (raiseIf condition error) True (¬condition) (fun _ => ¬condition) := by
  unfold raiseIf
  split
  next h => exact ⟨trivial, not_not_intro h⟩
  next h => exact ⟨trivial, h, h⟩

theorem contract_orRaise (value : Option α) (error : ε) :
    Contract (orRaise value error) True (value.isSome = true) (fun a => value = some a) := by
  cases value with
  | none => exact ⟨trivial, Bool.false_ne_true⟩
  | some a => exact ⟨trivial, rfl, rfl⟩

theorem contract_divideBy [Zero α] [DecidableEq α] (op : α → α → α) (a b : α) :
    Contract (divideBy op a b : Run ε α) (b ≠ 0) True (fun q => q = op a b) := by
  unfold divideBy
  split
  next h => exact not_not_intro h
  next h => exact ⟨h, trivial, rfl⟩

theorem contract_divide [Zero α] [DecidableEq α] [Div α] (a b : α) :
    Contract (divide a b : Run ε α) (b ≠ 0) True (fun q => q = a / b) :=
  contract_divideBy (· / ·) a b

theorem contract_modulo [Zero α] [DecidableEq α] [Mod α] (a b : α) :
    Contract (modulo a b : Run ε α) (b ≠ 0) True (fun r => r = a % b) :=
  contract_divideBy (· % ·) a b

theorem contract_unevenly [Zero α] [DecidableEq α] [Mod α] [LT α] [DecidableLT α] (a b : α) :
    Contract (unevenly a b : Run ε Bool) (¬a < b → b ≠ 0) True
      (fun uneven => uneven = true ↔ a < b ∨ a % b ≠ 0) := by
  unfold unevenly
  split
  next h => exact ⟨fun hnot => absurd h hnot, trivial, iff_of_true rfl (Or.inl h)⟩
  next h =>
    refine ((contract_modulo a b).map_ok fun rest hrest => ?_).conseq
      ⟨fun hne _ => hne, fun hsafe => hsafe h⟩ (fun _ => Iff.rfl) (fun _ huneven => huneven)
    rw [hrest, decide_eq_true_iff]
    exact ⟨Or.inr, fun huneven => huneven.resolve_left h⟩

/-- A branch the input does not take has no say. -/
theorem contract_ite (condition : Prop) [Decidable condition] {other : Run ε α}
    (h : condition → Contract run safe accepts facts)
    (hother : ¬condition → Contract other safe' accepts' facts) :
    Contract (if condition then run else other)
      ((condition → safe) ∧ (¬condition → safe'))
      ((condition → accepts) ∧ (¬condition → accepts')) facts := by
  by_cases hcondition : condition
  · rw [if_pos hcondition]
    exact (h hcondition).conseq (by simp only [hcondition, true_implies, not_true_eq_false,
        false_implies, and_true])
      (fun _ => by simp only [hcondition, true_implies, not_true_eq_false, false_implies, and_true])
      (fun _ hfacts => hfacts)
  · rw [if_neg hcondition]
    exact (hother hcondition).conseq (by simp only [hcondition, false_implies, not_false_eq_true,
        true_implies, true_and])
      (fun _ => by simp only [hcondition, false_implies, not_false_eq_true, true_implies, true_and])
      (fun _ hfacts => hfacts)

theorem contract_when (condition : Prop) [Decidable condition] {a : α}
    (h : condition → Contract run safe accepts facts) (ha : ¬condition → facts a) :
    Contract (if condition then run else .ok a) (condition → safe) (condition → accepts) facts :=
  (contract_ite condition h fun hnot => contract_ok (ha hnot)).conseq
    ⟨And.left, fun hsafe => ⟨hsafe, fun _ => trivial⟩⟩
    (fun _ => ⟨And.left, fun haccepts => ⟨haccepts, fun _ => trivial⟩⟩) (fun _ hfacts => hfacts)

theorem contract_unless (condition : Prop) [Decidable condition] {a : α}
    (ha : condition → facts a) (h : ¬condition → Contract run safe accepts facts) :
    Contract (if condition then .ok a else run) (¬condition → safe) (¬condition → accepts) facts :=
  (contract_ite condition (fun hcondition => contract_ok (ha hcondition)) h).conseq
    ⟨And.right, fun hsafe => ⟨fun _ => trivial, hsafe⟩⟩
    (fun _ => ⟨And.right, fun haccepts => ⟨fun _ => trivial, haccepts⟩⟩) (fun _ hfacts => hfacts)

end Contracts

end KsanaBuildAhead.Lib.Traps
