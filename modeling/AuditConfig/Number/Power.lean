/-!
# Powers of two and of ten

The powers of two scale floating-point numbers, and those of ten decimals.
-/

namespace AuditConfig

/-- Two to a power. -/
def twoTo (k : Nat) : Nat := Nat.pow 2 k

/-- Ten to a power. -/
def tenTo (k : Nat) : Nat := Nat.pow 10 k

theorem tenTo_succ (k : Nat) : tenTo (k + 1) = tenTo k * 10 := rfl

theorem twoTo_pos (k : Nat) : 0 < twoTo k := Nat.pow_pos (by decide)

theorem tenTo_pos (k : Nat) : 0 < tenTo k := Nat.pow_pos (by decide)

theorem tenTo_mono {j k : Nat} (h : j ≤ k) : tenTo j ≤ tenTo k :=
  Nat.pow_le_pow_right (by decide) h

end AuditConfig
