import Mathlib.Data.List.Induction

/-!
# A worker on a queue

A worker with a memory of its own takes items one at a time and turns each into a result.
What it has made of the first items does not depend on the items behind them.
-/
namespace KsanaBuildAhead.Lib.SerialWork

variable {σ α β : Type*} (work : σ → α → σ × β)

/-- The memory and the results after all items, in order. -/
def runAll (start : σ) (items : List α) : σ × List β :=
  items.foldl (fun done item =>
    let (memory, result) := work done.1 item
    (memory, done.2 ++ [result])) (start, [])

@[simp] theorem runAll_nil (start : σ) : runAll work start [] = (start, []) := rfl

theorem runAll_concat (start : σ) (items : List α) (item : α) :
    runAll work start (items ++ [item]) =
      ((work (runAll work start items).1 item).1,
        (runAll work start items).2 ++ [(work (runAll work start items).1 item).2]) := by
  rw [runAll, List.foldl_append]
  rfl

@[simp] theorem runAll_length (start : σ) (items : List α) :
    (runAll work start items).2.length = items.length := by
  induction items using List.reverseRecOn with
  | nil => rfl
  | append_singleton items item ih => simp [runAll_concat, ih]

/-- More items only add results. -/
theorem runAll_results_begin (start : σ) (items later : List α) :
    (runAll work start items).2 <+: (runAll work start (items ++ later)).2 := by
  induction later using List.reverseRecOn with
  | nil => simp only [List.append_nil, List.prefix_refl]
  | append_singleton later item ih =>
    rw [← List.append_assoc, runAll_concat]
    exact ih.trans (List.prefix_append _ _)

/-- A result is what the worker makes of its own item, with the memory the items before left. -/
theorem runAll_getElem? (start : σ) {items : List α} {n : Nat} {item : α}
    (hitem : items[n]? = some item) :
    (runAll work start items).2[n]? = some (work (runAll work start (items.take n)).1 item).2 := by
  obtain ⟨hlt, -⟩ := List.getElem?_eq_some_iff.mp hitem
  have hsplit : items.take n ++ [item] ++ items.drop (n + 1) = items := by
    have hhead : items.take n ++ [item] = items.take (n + 1) := by
      rw [List.take_add_one, hitem]
      rfl
    rw [hhead, List.take_append_drop]
  have hbegin := runAll_results_begin work start (items.take n ++ [item]) (items.drop (n + 1))
  rw [hsplit, runAll_concat] at hbegin
  have hlength : (runAll work start (items.take n)).2.length = n := by
    rw [runAll_length, List.length_take]
    omega
  obtain ⟨rest, hresults⟩ := hbegin
  rw [← hresults, List.append_assoc, List.getElem?_append_right (Nat.le_of_eq hlength), hlength,
    Nat.sub_self]
  rfl

end KsanaBuildAhead.Lib.SerialWork
