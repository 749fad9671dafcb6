import Mathlib.Data.List.Basic

/-!
# Writes that may fail in the middle

A piece is the bytes of one write, or the error of a check in front of it. The pieces are written
in order up to the first error; what was written before it stays.
-/
namespace KsanaBuildAhead.Lib.WriteLog

variable {ε α β : Type}

/-- What has been written when the pieces end or one of them fails. -/
def written : List (Except ε (List β)) → List β
  | .ok bytes :: pieces => bytes ++ written pieces
  | .error _ :: _ | [] => []

/-- All that was written, or the first error. -/
def result : List (Except ε (List β)) → Except ε (List β)
  | [] => .ok []
  | .error e :: _ => .error e
  | .ok bytes :: pieces => (result pieces).map (bytes ++ ·)

/-- How much is written when the pieces have these sizes; a failing one has none. -/
def sizeWritten : List (Option Nat) → Nat
  | some size :: sizes => size + sizeWritten sizes
  | none :: _ | [] => 0

/-- The size of a piece. -/
def pieceSize (piece : Except ε (List β)) : Option Nat := piece.toOption.map List.length

theorem length_written (pieces : List (Except ε (List β))) :
    (written pieces).length = sizeWritten (pieces.map pieceSize) := by
  induction pieces with
  | nil => rfl
  | cons piece pieces ih =>
    cases piece with
    | error e => rfl
    | ok bytes =>
      rw [written, List.length_append, ih]
      rfl

theorem result_append (first second : List (Except ε (List β))) :
    result (first ++ second) =
      (result first).bind fun bytes => (result second).map (bytes ++ ·) := by
  induction first with
  | nil =>
    cases hsecond : result second <;>
      simp [result, hsecond, Except.bind, Except.map]
  | cons piece first ih =>
    cases piece with
    | error e => rfl
    | ok bytes =>
      rw [List.cons_append, result, result, ih]
      cases result first with
      | error e => rfl
      | ok head =>
        cases result second <;> simp [Except.bind, Except.map]

theorem result_singleton (piece : Except ε (List β)) : result [piece] = piece := by
  cases piece with
  | error e => rfl
  | ok bytes => exact congrArg Except.ok (List.append_nil bytes)

/-- A loop whose elements write several pieces each. -/
theorem result_flatMap (pieces : α → List (Except ε (List β))) (xs : List α) :
    result (xs.flatMap pieces) = (xs.mapM fun x => result (pieces x)).map List.flatten := by
  induction xs with
  | nil => rfl
  | cons x xs ih =>
    rw [List.flatMap_cons, result_append, ih, List.mapM_cons]
    cases result (pieces x) with
    | error e => rfl
    | ok head =>
      cases xs.mapM fun x => result (pieces x) with
      | error e => simp [bind, Except.bind, Except.map]
      | ok rest => simp [bind, pure, Except.pure, Except.bind, Except.map]

theorem result_map (piece : α → Except ε (List β)) (xs : List α) :
    result (xs.map piece) = (xs.mapM piece).map List.flatten := by
  have hloop := result_flatMap (fun x => [piece x]) xs
  simp only [result_singleton] at hloop
  rw [← hloop, List.map_eq_flatMap]

/-- Everything is written when no piece fails. -/
theorem written_of_result {pieces : List (Except ε (List β))} {bytes : List β}
    (h : result pieces = .ok bytes) : written pieces = bytes := by
  induction pieces generalizing bytes with
  | nil => exact Except.ok.inj h
  | cons piece pieces ih =>
    cases piece with
    | error e => cases h
    | ok head =>
      rw [result] at h
      cases hrest : result pieces with
      | error e =>
        rw [hrest] at h
        cases h
      | ok rest =>
        rw [hrest] at h
        rw [written, ih hrest]
        exact Except.ok.inj h

end KsanaBuildAhead.Lib.WriteLog
