/-!
Powers of the bases that numbers are held and written in.
-/

set_option autoImplicit false

namespace ApiContract.Number

def twoTo (n : Nat) : Nat := Nat.pow 2 n

def tenTo (n : Nat) : Nat := Nat.pow 10 n

end ApiContract.Number
