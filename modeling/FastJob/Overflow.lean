import Mathlib

/-!
# Fixed-width integer arithmetic under the two overflow behaviours of Rust

A Rust build either checks arithmetic on fixed-width integers and panics when a
result does not fit its type (debug builds), or wraps the result around the
width (release builds). `fitNat w m x` is an operation on `uw` whose exact
result is `x`, and `fitInt w m x` one on `iw`, under the behaviour `m`; `none`
is the panic. A result that fits is exact under both behaviours, and one that
does not fit is never exact.
-/
namespace Overflow

/-- What a build does with an arithmetic result that does not fit its type. -/
inductive Mode where
  /-- Debug builds: the operation panics. -/
  | panic
  /-- Release builds: the result wraps around. -/
  | wrap
  deriving DecidableEq, Repr

/-- An operation on `uw` whose exact result is `x`. -/
def fitNat (w : Nat) (m : Mode) (x : Nat) : Option Nat :=
  if x < 2 ^ w then some x
  else match m with
    | .panic => none
    | .wrap => some (x % 2 ^ w)

/-- An operation on `iw` whose exact result is `x`; wrapping is two's complement. -/
def fitInt (w : Nat) (m : Mode) (x : Int) : Option Int :=
  if -2 ^ (w - 1) ≤ x ∧ x < 2 ^ (w - 1) then some x
  else match m with
    | .panic => none
    | .wrap => some (x.bmod (2 ^ w))

variable {w : Nat} {m : Mode}

@[simp] theorem fitNat_of_lt {x : Nat} (h : x < 2 ^ w) : fitNat w m x = some x := by
  simp [fitNat, h]

@[simp] theorem fitInt_of_mem {x : Int} (hlo : -2 ^ (w - 1) ≤ x) (hhi : x < 2 ^ (w - 1)) :
    fitInt w m x = some x := by
  simp [fitInt, hlo, hhi]

/-- A release build keeps the result modulo `2 ^ w`. -/
@[simp] theorem fitNat_wrap (x : Nat) : fitNat w .wrap x = some (x % 2 ^ w) := by
  unfold fitNat
  split
  · next h => rw [Nat.mod_eq_of_lt h]
  · rfl

/-- A debug build panics exactly when the result does not fit. -/
theorem fitNat_panic (x : Nat) : fitNat w .panic x = if x < 2 ^ w then some x else none := by
  unfold fitNat
  split <;> rfl

/-- Whatever a `uw` operation gives fits the type. -/
theorem lt_of_fitNat {x y : Nat} (h : fitNat w m x = some y) : y < 2 ^ w := by
  unfold fitNat at h
  split at h
  · next hx =>
    cases h
    exact hx
  · cases m with
    | panic => cases h
    | wrap =>
      cases h
      exact Nat.mod_lt _ (Nat.two_pow_pos w)

/-- A `uw` result that does not fit is never the exact one. -/
theorem fitNat_ne_of_le {x y : Nat} (hx : 2 ^ w ≤ x) (h : fitNat w m x = some y) : y ≠ x := by
  have := lt_of_fitNat h
  omega

/-- Whatever an `iw` operation gives fits the type. -/
theorem mem_of_fitInt {x y : Int} (hw : 0 < w) (h : fitInt w m x = some y) :
    -2 ^ (w - 1) ≤ y ∧ y < 2 ^ (w - 1) := by
  have hpow : ((2 ^ w : Nat) : Int) = 2 * 2 ^ (w - 1) := by
    rw [Nat.cast_pow, Nat.cast_ofNat, ← pow_succ', Nat.sub_add_cancel hw]
  unfold fitInt at h
  split at h
  · next hx =>
    cases h
    exact hx
  · cases m with
    | panic => cases h
    | wrap =>
      cases h
      have hlo := Int.le_bmod (x := x) (Nat.two_pow_pos w)
      have hhi := Int.bmod_lt (x := x) (Nat.two_pow_pos w)
      rw [hpow] at hlo hhi
      omega

/-- An `iw` result that does not fit is never the exact one. -/
theorem fitInt_ne_of_not_mem {x y : Int} (hw : 0 < w)
    (hx : ¬(-2 ^ (w - 1) ≤ x ∧ x < 2 ^ (w - 1))) (h : fitInt w m x = some y) : y ≠ x := by
  rintro rfl
  exact hx (mem_of_fitInt hw h)

end Overflow
