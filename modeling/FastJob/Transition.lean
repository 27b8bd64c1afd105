import Mathlib

/-!
# Finite runs of a labelled transition relation

A run records the labels of its steps, in order. Two rules carry the safety
arguments built on it: an invariant kept by every step holds along a run, and a
potential that no step raises and every counted step lowers bounds the number
of counted steps a run can take. Runs split at any point of their label list,
so a bound can be started at the state reached after a chosen event. A
deterministic partial step function is run by `exec`, whose answers are runs, and
a run is simulated by the fold of an abstract step function that each step follows.
-/
namespace Transition

variable {σ α : Type}

/-- Finite runs of `step`, with the labels of their steps in order. -/
inductive Run (step : σ → α → σ → Prop) : σ → List α → σ → Prop where
  | nil (s : σ) : Run step s [] s
  | cons {s t u : σ} {a : α} {as : List α} :
      step s a t → Run step t as u → Run step s (a :: as) u

/-- Runs a partial step function along a list of labels; `none` when some label
is not enabled. -/
def exec (next : σ → α → Option σ) : σ → List α → Option σ
  | s, [] => some s
  | s, a :: as => (next s a).bind fun t => exec next t as

/-- Running two label lists one after the other is running their concatenation. -/
theorem exec_append (next : σ → α → Option σ) (s : σ) (as bs : List α) :
    exec next s (as ++ bs) = (exec next s as).bind fun t => exec next t bs := by
  induction as generalizing s with
  | nil => rfl
  | cons a as ih =>
    simp only [List.cons_append, exec]
    cases next s a with
    | none => rfl
    | some t => exact ih t

/-- States reached from an initial state by some run. -/
def Reachable (init : σ → Prop) (step : σ → α → σ → Prop) (t : σ) : Prop :=
  ∃ s as, init s ∧ Run step s as t

namespace Run

variable {step : σ → α → σ → Prop}

/-- A run splits at any point of its label list. -/
theorem split {s u : σ} {as bs : List α} (h : Run step s (as ++ bs) u) :
    ∃ t, Run step s as t ∧ Run step t bs u := by
  induction as generalizing s with
  | nil => exact ⟨s, .nil s, h⟩
  | cons a as ih =>
    cases h with
    | cons hs hrest =>
      obtain ⟨t, h₁, h₂⟩ := ih hrest
      exact ⟨t, .cons hs h₁, h₂⟩

/-- An invariant kept by every step holds at the end of every run. -/
theorem invariant (I : σ → Prop) (hstep : ∀ s a t, I s → step s a t → I t)
    {s t : σ} {as : List α} (h : Run step s as t) (hs : I s) : I t := by
  induction h with
  | nil => exact hs
  | cons hst _ ih => exact ih (hstep _ _ _ hs hst)

/-- Potential bound: when no step (from a state with `I`) raises `φ` and every
counted step lowers it by one, a run takes at most `φ s` counted steps. -/
theorem countP_le (I : σ → Prop) (hI : ∀ s a t, I s → step s a t → I t)
    (φ : σ → Nat) (counted : α → Bool)
    (hφ : ∀ s a t, I s → step s a t → φ t + (if counted a then 1 else 0) ≤ φ s)
    {s t : σ} {as : List α} (h : Run step s as t) (hs : I s) :
    as.countP counted + φ t ≤ φ s := by
  induction h with
  | nil => simp
  | @cons s t u a as hst _ ih =>
    have hdrop := hφ s a t hs hst
    have hrest := ih (hI s a t hs hst)
    rw [List.countP_cons]
    split at hdrop <;> simp_all <;> omega

/-- An invariant indexed by the number of counted steps taken so far. -/
theorem invariant_countP (I : Nat → σ → Prop) (counted : α → Bool)
    (hstep : ∀ n s a t, I n s → step s a t → I (n + if counted a then 1 else 0) t)
    {s t : σ} {as : List α} (h : Run step s as t) {n : Nat} (hs : I n s) :
    I (n + as.countP counted) t := by
  induction h generalizing n with
  | nil => simpa using hs
  | @cons s t u a as hst _ ih =>
    have hrest := ih (hstep n s a t hs hst)
    rw [List.countP_cons]
    have hn : n + (if counted a then 1 else 0) + as.countP counted =
        n + (as.countP counted + if counted a then 1 else 0) := by omega
    rwa [hn] at hrest

/-- An invariant indexed by a weighted count of the steps taken so far, along a
run whose labels all satisfy `P`. -/
theorem invariant_sum (P : α → Prop) (I : Nat → σ → Prop) (weight : α → Nat)
    (hstep : ∀ n s a t, P a → I n s → step s a t → I (n + weight a) t)
    {s t : σ} {as : List α} (h : Run step s as t) (hP : ∀ a ∈ as, P a) {n : Nat} (hs : I n s) :
    I (n + (as.map weight).sum) t := by
  induction h generalizing n with
  | nil => simpa using hs
  | @cons s t u a as hst _ ih =>
    have hrest := ih (fun b hb => hP b (List.mem_cons_of_mem a hb))
      (hstep n s a t (hP a List.mem_cons_self) hs hst)
    rw [List.map_cons, List.sum_cons, ← Nat.add_assoc]
    exact hrest

/-- Simulation by a step function: when every step from a state related to `x`
leads to a state related to `f x a`, a run ends related to the fold of `f` over
its labels. -/
theorem simulates {τ : Type} (R : σ → τ → Prop) (f : τ → α → τ)
    (hstep : ∀ s a t x, R s x → step s a t → R t (f x a))
    {s t : σ} {as : List α} (h : Run step s as t) {x : τ} (hs : R s x) :
    R t (as.foldl f x) := by
  induction h generalizing x with
  | nil => exact hs
  | cons hst _ ih => exact ih (hstep _ _ _ _ hs hst)

/-- A partial step function has one run along each list of labels. -/
theorem unique {next : σ → α → Option σ} {s t₁ t₂ : σ} {as : List α}
    (h₁ : Run (fun s a t => next s a = some t) s as t₁)
    (h₂ : Run (fun s a t => next s a = some t) s as t₂) : t₁ = t₂ := by
  induction h₁ with
  | nil => cases h₂; rfl
  | cons hst _ ih =>
    cases h₂ with
    | cons hst₂ hrest₂ =>
      rw [hst] at hst₂
      cases hst₂
      exact ih hrest₂

/-- What `exec` computes is a run of the step relation of `next`. -/
theorem of_exec {next : σ → α → Option σ} {s t : σ} {as : List α}
    (h : exec next s as = some t) : Run (fun s a t => next s a = some t) s as t := by
  induction as generalizing s with
  | nil =>
    cases h
    exact .nil _
  | cons a as ih =>
    simp only [exec] at h
    obtain ⟨t', hstep, hrest⟩ := Option.bind_eq_some_iff.mp h
    exact .cons hstep (ih hrest)

end Run

/-- Every state reached from an initial state with `I` keeps `I`. -/
theorem Reachable.invariant {init : σ → Prop} {step : σ → α → σ → Prop}
    (I : σ → Prop) (h0 : ∀ s, init s → I s)
    (hstep : ∀ s a t, I s → step s a t → I t) {t : σ}
    (h : Reachable init step t) : I t := by
  obtain ⟨s, as, hs, hrun⟩ := h
  exact hrun.invariant I hstep (h0 s hs)

end Transition
