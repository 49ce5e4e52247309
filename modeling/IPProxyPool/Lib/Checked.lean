import Mathlib.Tactic

/-!
# Checked unsigned arithmetic

The operations of an unsigned integer type with `bound` values, without a result where the type
has none. A computation that comes to a result never overflowed or underflowed.
-/

namespace Checked

def add (bound a b : Nat) : Option Nat := if a + b < bound then some (a + b) else none

def sub (a b : Nat) : Option Nat := if b ≤ a then some (a - b) else none

def mul (bound a b : Nat) : Option Nat := if a * b < bound then some (a * b) else none

def pow (bound a b : Nat) : Option Nat := if a ^ b < bound then some (a ^ b) else none

variable {bound a b : Nat}

lemma add_eq (h : a + b < bound) : add bound a b = some (a + b) := if_pos h

lemma sub_eq (h : b ≤ a) : sub a b = some (a - b) := if_pos h

lemma mul_eq (h : a * b < bound) : mul bound a b = some (a * b) := if_pos h

lemma pow_eq (h : a ^ b < bound) : pow bound a b = some (a ^ b) := if_pos h

end Checked
