import Mathlib.Data.List.Forall2

/-!
# Runs of a failing step function

A step consumes one label and either yields the next state or stops with an
error. The rules below carry a property of states, or of the steps themselves,
along a whole run. A failing function applied to every element of a list, and
relations that hold element by element, are at the end.
-/
namespace KsanaBuildAhead.Lib.Execution

variable {σ α ε : Type*}

/-- Run the labels from left to right; the first error ends the run. -/
def exec (step : σ → α → Except ε σ) : σ → List α → Except ε σ
  | s, [] => .ok s
  | s, a :: as => match step s a with
    | .ok t => exec step t as
    | .error e => .error e

/-- `C` holds of every state and label the run meets. -/
def EachStep (step : σ → α → Except ε σ) (C : σ → α → Prop) : σ → List α → Prop
  | _, [] => True
  | s, a :: as => C s a ∧ ∀ t, step s a = .ok t → EachStep step C t as

variable {step : σ → α → Except ε σ}

@[simp] theorem exec_nil (s : σ) : exec step s [] = .ok s := rfl

theorem exec_cons_ok {s t : σ} {a : α} {as : List α} (h : exec step s (a :: as) = .ok t) :
    ∃ m, step s a = .ok m ∧ exec step m as = .ok t := by
  cases hs : step s a with
  | ok m => exact ⟨m, rfl, by simpa [exec, hs] using h⟩
  | error e => simp [exec, hs] at h

theorem exec_cons_of_ok {s m : σ} {a : α} (as : List α) (h : step s a = .ok m) :
    exec step s (a :: as) = exec step m as := by
  simp [exec, h]

theorem exec_append_of_ok {s m : σ} {as : List α} (bs : List α) (h : exec step s as = .ok m) :
    exec step s (as ++ bs) = exec step m bs := by
  induction as generalizing s with
  | nil => cases h; rfl
  | cons a as ih =>
    obtain ⟨u, hu, hrest⟩ := exec_cons_ok h
    rw [List.cons_append, exec_cons_of_ok _ hu, ih hrest]

theorem exec_append_ok {s t : σ} {as bs : List α} (h : exec step s (as ++ bs) = .ok t) :
    ∃ m, exec step s as = .ok m ∧ exec step m bs = .ok t := by
  induction as generalizing s with
  | nil => exact ⟨s, rfl, h⟩
  | cons a as ih =>
    obtain ⟨u, hu, hrest⟩ := exec_cons_ok h
    obtain ⟨m, hm, hbs⟩ := ih hrest
    exact ⟨m, (exec_cons_of_ok as hu).trans hm, hbs⟩

theorem EachStep.mono {C D : σ → α → Prop} (hCD : ∀ s a, C s a → D s a) {s : σ} {as : List α}
    (h : EachStep step C s as) : EachStep step D s as := by
  induction as generalizing s with
  | nil => trivial
  | cons a as ih => exact ⟨hCD s a h.1, fun t ht => ih (h.2 t ht)⟩

theorem EachStep.and {C D : σ → α → Prop} {s : σ} {as : List α} (hC : EachStep step C s as)
    (hD : EachStep step D s as) : EachStep step (fun s a => C s a ∧ D s a) s as := by
  induction as generalizing s with
  | nil => trivial
  | cons a as ih => exact ⟨⟨hC.1, hD.1⟩, fun t ht => ih (hC.2 t ht) (hD.2 t ht)⟩

/-- In runs whose steps meet `C` an invariant gives every step what it gives one. -/
theorem EachStep.of_invariant {I : σ → Prop} {C D : σ → α → Prop}
    (hstep : ∀ s a, I s → C s a → D s a ∧ ∀ t, step s a = .ok t → I t) {s : σ} {as : List α}
    (hs : I s) (hC : EachStep step C s as) : EachStep step D s as := by
  induction as generalizing s with
  | nil => trivial
  | cons a as ih =>
    obtain ⟨hD, hkeeps⟩ := hstep s a hs hC.1
    exact ⟨hD, fun t ht => ih (hkeeps t ht) (hC.2 t ht)⟩

/-- `EachStep` for a decidable condition, by running the labels. -/
def checkSteps (step : σ → α → Except ε σ) (C : σ → α → Prop) [∀ s a, Decidable (C s a)] :
    σ → List α → Bool
  | _, [] => true
  | s, a :: as => decide (C s a) && match step s a with
    | .ok t => checkSteps step C t as
    | .error _ => true

theorem eachStep_of_check {C : σ → α → Prop} [∀ s a, Decidable (C s a)] {s : σ} {as : List α}
    (h : checkSteps step C s as = true) : EachStep step C s as := by
  induction as generalizing s with
  | nil => trivial
  | cons a as ih =>
    simp only [checkSteps, Bool.and_eq_true, decide_eq_true_eq] at h
    refine ⟨h.1, fun t ht => ih ?_⟩
    simpa only [ht] using h.2

/-- A property every step preserves holds at the end of every run that starts in it. -/
theorem exec_invariant {I : σ → Prop}
    (hstep : ∀ s a t, I s → step s a = .ok t → I t)
    {s t : σ} {as : List α} (hs : I s) (h : exec step s as = .ok t) : I t := by
  induction as generalizing s with
  | nil => cases h; exact hs
  | cons a as ih =>
    obtain ⟨m, hm, hrest⟩ := exec_cons_ok h
    exact ih (hstep s a m hs hm) hrest

/-- The same for a property that only the steps meeting `C` preserve. -/
theorem exec_invariant_of {I : σ → Prop} {C : σ → α → Prop}
    (hstep : ∀ s a t, I s → C s a → step s a = .ok t → I t)
    {s t : σ} {as : List α} (hs : I s) (hC : EachStep step C s as)
    (h : exec step s as = .ok t) : I t := by
  induction as generalizing s with
  | nil => cases h; exact hs
  | cons a as ih =>
    obtain ⟨m, hm, hrest⟩ := exec_cons_ok h
    exact ih (hstep s a m hs hC.1 hm) (hC.2 m hm) hrest

/-- Steps that meet `C` and never fail in a state of the invariant make a run that never fails. -/
theorem exec_ok_of {I : σ → Prop} {C : σ → α → Prop}
    (hstep : ∀ s a, I s → C s a → ∃ t, step s a = .ok t ∧ I t)
    {s : σ} {as : List α} (hs : I s) (hC : EachStep step C s as) :
    ∃ t, exec step s as = .ok t ∧ I t := by
  induction as generalizing s with
  | nil => exact ⟨s, rfl, hs⟩
  | cons a as ih =>
    obtain ⟨m, hm, hmid⟩ := hstep s a hs hC.1
    obtain ⟨t, ht, hend⟩ := ih hmid (hC.2 m hm)
    exact ⟨t, (exec_cons_of_ok as hm).trans ht, hend⟩

/-- A loop over a list fails or treats every element. -/
theorem forall₂_of_mapM_ok {α β ε : Type} {f : α → Except ε β} {xs : List α} {ys : List β}
    (h : xs.mapM f = .ok ys) : List.Forall₂ (fun x y => f x = .ok y) xs ys := by
  induction xs generalizing ys with
  | nil =>
    obtain rfl := Except.ok.inj h
    exact .nil
  | cons x xs ih =>
    rw [List.mapM_cons] at h
    cases hhead : f x with
    | error e =>
      rw [hhead] at h
      cases h
    | ok y =>
      rw [hhead] at h
      cases htail : xs.mapM f with
      | error e =>
        rw [htail] at h
        cases h
      | ok rest =>
        rw [htail] at h
        obtain rfl := Except.ok.inj h
        exact .cons hhead (ih htail)

/-- A loop succeeds when every element does. -/
theorem mapM_ok_iff {α β ε : Type} {f : α → Except ε β} {xs : List α} :
    (∃ ys, xs.mapM f = .ok ys) ↔ ∀ x ∈ xs, ∃ y, f x = .ok y := by
  constructor
  · rintro ⟨ys, h⟩ x hx
    have hall := forall₂_of_mapM_ok h
    clear h
    induction hall with
    | nil => exact absurd hx List.not_mem_nil
    | cons hhead _ ih =>
      rcases List.mem_cons.mp hx with rfl | hrest
      · exact ⟨_, hhead⟩
      · exact ih hrest
  · intro h
    induction xs with
    | nil => exact ⟨[], rfl⟩
    | cons x xs ih =>
      obtain ⟨y, hy⟩ := h x List.mem_cons_self
      obtain ⟨ys, hys⟩ := ih fun x hx => h x (List.mem_cons_of_mem _ hx)
      refine ⟨y :: ys, ?_⟩
      rw [List.mapM_cons, hy, hys]
      rfl

/-- A loop whose elements all succeed returns what they return. -/
theorem mapM_eq_some_map {α β : Type} {f : α → Option β} {g : α → β} {xs : List α}
    (h : ∀ x ∈ xs, f x = some (g x)) : xs.mapM f = some (xs.map g) := by
  induction xs with
  | nil => rfl
  | cons x xs ih =>
    rw [List.forall_mem_cons] at h
    rw [List.mapM_cons, h.1, ih h.2]
    rfl

theorem isSome_of_mapM {α β : Type} {f : α → Option β} {xs : List α} {ys : List β}
    (h : xs.mapM f = some ys) : ∀ x ∈ xs, ∃ y, f x = some y := by
  induction xs generalizing ys with
  | nil => exact fun _ hmem => absurd hmem List.not_mem_nil
  | cons x xs ih =>
    rw [List.mapM_cons] at h
    obtain ⟨y, hy, hrest⟩ := Option.bind_eq_some_iff.mp h
    obtain ⟨rest, hrest, -⟩ := Option.bind_eq_some_iff.mp hrest
    rw [List.forall_mem_cons]
    exact ⟨⟨y, hy⟩, ih hrest⟩

theorem forall₂_comp {α β γ : Type} {R : α → β → Prop} {S : β → γ → Prop} {T : α → γ → Prop}
    (hcomp : ∀ a b c, R a b → S b c → T a c) {xs : List α} {ys : List β} {zs : List γ}
    (hfirst : List.Forall₂ R xs ys) (hsecond : List.Forall₂ S ys zs) : List.Forall₂ T xs zs := by
  induction hfirst generalizing zs with
  | nil =>
    cases hsecond
    exact .nil
  | cons hhead _ ih =>
    cases hsecond with
    | cons hhead' htail => exact .cons (hcomp _ _ _ hhead hhead') (ih htail)

end KsanaBuildAhead.Lib.Execution
