import Mathlib.Data.List.Basic

/-!
# Decoding with drafts

What a deterministic model makes of a context, one token at a time, and what stays of
it when a step verifies drafts and adds one token of its own: the same sequence,
whatever was drafted.
-/
namespace KsanaBuildAhead.Lib.SpeculativeDecoding

variable {τ : Type*} (next : List τ → τ)

/-- The next `n` tokens behind a context. -/
def continuation : List τ → Nat → List τ
  | _, 0 => []
  | context, n + 1 => next context :: continuation (context ++ [next context]) n

theorem continuation_add (context : List τ) (m n : Nat) :
    continuation next context (m + n) =
      continuation next context m ++ continuation next (context ++ continuation next context m) n := by
  induction m generalizing context with
  | zero => rw [Nat.zero_add, continuation, List.nil_append, List.append_nil]
  | succ m ih =>
    rw [Nat.succ_add, continuation, ih, continuation, List.cons_append, List.append_assoc]
    rfl

/-- A context that is a continuation itself is continued by the rest of it. -/
theorem continuation_behind (prompt : List τ) (m n : Nat) :
    (prompt ++ continuation next prompt m) ++
        continuation next (prompt ++ continuation next prompt m) n =
      prompt ++ continuation next prompt (m + n) := by
  rw [continuation_add, List.append_assoc]

/-- What a verification accepts begins the drafts and is what the model would have said. -/
structure Sound (accept : List τ → List τ → List τ) : Prop where
  begins : ∀ context drafts, accept context drafts <+: drafts
  agrees : ∀ context drafts,
    accept context drafts = continuation next context (accept context drafts).length

variable {next} {accept : List τ → List τ → List τ}

theorem Sound.accept_nil (hsound : Sound next accept) (context : List τ) :
    accept context [] = [] :=
  List.prefix_nil.mp (hsound.begins context [])

/-- The accepted drafts and the token behind them. -/
theorem Sound.step (hsound : Sound next accept) (context drafts : List τ) :
    accept context drafts ++ [next (context ++ accept context drafts)] =
      continuation next context ((accept context drafts).length + 1) := by
  rw [continuation_add, ← hsound.agrees]
  rfl

variable (next) in
/-- Accept drafts as long as each is the token the model says. -/
def greedyAccept [DecidableEq τ] : List τ → List τ → List τ
  | _, [] => []
  | context, draft :: drafts =>
    if draft = next context then draft :: greedyAccept (context ++ [draft]) drafts else []

theorem greedyAccept_sound [DecidableEq τ] : Sound next (greedyAccept next) where
  begins := by
    intro context drafts
    induction drafts generalizing context with
    | nil => exact List.prefix_refl _
    | cons draft drafts ih =>
      rw [greedyAccept]
      split
      · exact List.cons_prefix_cons.mpr ⟨rfl, ih _⟩
      · exact List.nil_prefix
  agrees := by
    intro context drafts
    induction drafts generalizing context with
    | nil => rfl
    | cons draft drafts ih =>
      rw [greedyAccept]
      split
      · rename_i hdraft
        subst hdraft
        rw [List.length_cons, continuation, ← ih]
      · rfl

end KsanaBuildAhead.Lib.SpeculativeDecoding
