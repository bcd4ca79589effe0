import LineProtocol.Reading
import LineProtocol.Writing

/-!
# Wires

One side of a connection reads lines from its inlet and writes lines to its outlet. The two halves
never touch each other: writing reads nothing and reading writes nothing.
-/

set_option autoImplicit false

namespace LineProtocol

/-- One side of a connection. -/
structure Wire where
  reader : LineReader
  outlet : Outlet
  deriving DecidableEq, Repr

namespace Wire

/-- A connection at its start. -/
def ofHalves (inlet : Inlet) (outlet : Outlet) : Wire := ⟨.ofInlet inlet, outlet⟩

/-- The connection started afresh on the same stream: octets that were read but belong to no line
yet are lost, and so is the knowledge that the stream has ended. -/
def restart (wire : Wire) : Wire := ofHalves wire.reader.inlet wire.outlet

/-- The connection after more has arrived. -/
def receive (wire : Wire) (arrivals : List Arrival) : Wire :=
  { wire with reader := { wire.reader with inlet := wire.reader.inlet.push arrivals } }

/-- The connection once the other side sends no more. -/
def finish (wire : Wire) : Wire :=
  { wire with reader := { wire.reader with inlet := wire.reader.inlet.finish } }

/-- The connection once the other side reads no more. -/
def broken (wire : Wire) (cause : IoError) : Wire :=
  { wire with outlet := wire.outlet.broken cause }

/-- The connection after what it wrote has been carried away. -/
def emptied (wire : Wire) : Wire :=
  { wire with outlet := wire.outlet.emptied }

end Wire

end LineProtocol
