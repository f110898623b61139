namespace Arbiter

/-- Whether a number fits a signed word of so many bits. -/
def fitsSigned (bits : Nat) (n : Int) : Bool :=
  decide (-(Nat.pow 2 (bits - 1) : Nat) ≤ n ∧ n < (Nat.pow 2 (bits - 1) : Nat))

/-- Whether a number fits an unsigned word of so many bits. -/
def fitsUnsigned (bits : Nat) (n : Int) : Bool := decide (0 ≤ n ∧ n < (Nat.pow 2 bits : Nat))

end Arbiter
