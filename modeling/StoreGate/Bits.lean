/-!
# Numbers of limited size
-/

namespace StoreGate

/-- The first natural number that does not fit in some bits. -/
def bitLimit (bits : Nat) : Nat := Nat.pow 2 bits

end StoreGate
