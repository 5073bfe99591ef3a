/-
This file models the hardening levels of `hardening.rs`: three levels in increasing
order of restriction, their names and the reader of these names.
-/

import Mathlib.Order.Lattice

namespace Kepler

inductive HardeningLevel where
  | none
  | noRoot
  | strict
  deriving DecidableEq, Repr

namespace HardeningLevel

/-- The `u8` discriminants of the source, which give the order. -/
def rank : HardeningLevel → Nat
  | none => 0
  | noRoot => 1
  | strict => 2

theorem rank_injective : Function.Injective rank := by
  intro left right equal
  cases left <;> cases right <;> first | rfl | exact absurd equal (by decide)

instance : LinearOrder HardeningLevel :=
  LinearOrder.lift' rank rank_injective

instance : Inhabited HardeningLevel := ⟨none⟩

theorem none_le (level : HardeningLevel) : none ≤ level := Nat.zero_le level.rank

/-- `Display`. -/
def text : HardeningLevel → String
  | none => "none"
  | noRoot => "no-root"
  | strict => "strict"

def fromStr (s : String) : Except String HardeningLevel :=
  if s = "none" then .ok none
  else if s = "no-root" then .ok noRoot
  else if s = "strict" then .ok strict
  else .error s!"invalid hardening level '{s}': expected 'none', 'no-root', or 'strict'"

@[simp] theorem fromStr_text (level : HardeningLevel) : fromStr level.text = .ok level := by
  cases level <;> rfl

end HardeningLevel

end Kepler
