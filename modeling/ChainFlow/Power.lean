/-!
# Powers

The powers that numerals are made of.
-/

namespace ChainFlow

def twoTo (exponent : Nat) : Nat := Nat.pow 2 exponent

def fiveTo (exponent : Nat) : Nat := Nat.pow 5 exponent

def tenTo (exponent : Nat) : Nat := Nat.pow 10 exponent

end ChainFlow
