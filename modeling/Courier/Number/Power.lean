/-! Powers of natural numbers. -/

namespace Courier

/-- The power of a base to an exponent. -/
def power (base exponent : Nat) : Nat := Nat.pow base exponent

end Courier
