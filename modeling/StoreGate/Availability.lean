import StoreGate.Caller
import StoreGate.Magnet
/-!
# Availability of magnets

Stores whose service cannot tell whether it already holds a magnet's content ask somebody else. Where
nobody knows, every magnet's status is unknown.
-/

namespace StoreGate

/-- Reports the status of magnets on a store. -/
abbrev Availability (World : Type) :=
  Store → List Magnet → Caller World → Action World (List MagnetCheck)

namespace Availability

/-- The availability that knows nothing. -/
def unknown {World : Type} : Availability World := fun _ magnets _ =>
  pure (magnets.map fun magnet => ⟨magnet.link, magnet.hash, .unknown, []⟩)

end Availability

end StoreGate
