/-!
# Flag sets

Sets of named flags, kept in the low bits of a byte. A byte may carry bits that no flag has; they
are kept and shown.
-/

namespace Rtos

/-- A family of flags. -/
structure FlagKind where
  /-- The name of the family. -/
  name : String
  /-- The names of its flags, lowest bit first. -/
  flags : List String
deriving DecidableEq, Repr

/-- A set of flags of one family. -/
structure FlagSet (kind : FlagKind) where
  /-- The byte that holds the flags. -/
  bits : UInt8
deriving DecidableEq, Repr

namespace FlagSet

variable {kind : FlagKind}

/-- The set without flags. -/
def empty : FlagSet kind := ⟨0⟩

/-- The bits that belong to a flag of the family. -/
def knownBits (kind : FlagKind) : UInt8 :=
  UInt8.ofNat ((1 <<< kind.flags.length) - 1)

/-- Whether `a` has every flag of `b`. -/
def contains (a b : FlagSet kind) : Bool :=
  a.bits &&& b.bits == b.bits

/-- Whether `a` and `b` share a flag. -/
def intersects (a b : FlagSet kind) : Bool :=
  a.bits &&& b.bits != 0

/-- The flags of either set. -/
def union (a b : FlagSet kind) : FlagSet kind :=
  ⟨a.bits ||| b.bits⟩

/-- Whether every bit belongs to a flag of the family. -/
def isKnown (a : FlagSet kind) : Bool :=
  a.bits &&& knownBits kind == a.bits

/-- The set without the bits that no flag has. -/
def truncate (a : FlagSet kind) : FlagSet kind :=
  ⟨a.bits &&& knownBits kind⟩

/-- The names of the flags in the set, lowest bit first. -/
def names (a : FlagSet kind) : List String :=
  (kind.flags.zipIdx.filter fun flag => a.bits.toNat.testBit flag.2).map (·.1)

/-- A byte in hexadecimal. -/
def hex (byte : UInt8) : String :=
  "0x" ++ String.ofList (Nat.toDigits 16 byte.toNat)

/-- The family's name around the names of the flags, joined by bars; bits that no flag has follow
in hexadecimal, and the empty set is shown as zero. -/
def describe (a : FlagSet kind) : String :=
  let unknown := a.bits &&& ~~~knownBits kind
  let parts := a.names ++ if unknown == 0 then [] else [hex unknown]
  let body := if parts.isEmpty then hex 0 else " | ".intercalate parts
  s!"{kind.name}({body})"

end FlagSet

/-- What a device or a file reports, and the direction in which a task waits for a device. -/
abbrev DeviceFlags := FlagSet ⟨"DeviceFlags", ["RX", "TX", "ERR"]⟩

namespace DeviceFlags

/-- There is data to read. -/
def rx : DeviceFlags := ⟨1⟩

/-- There is room to write. -/
def tx : DeviceFlags := ⟨2⟩

/-- The device reports an error. -/
def err : DeviceFlags := ⟨4⟩

end DeviceFlags

/-- What happens after a listener has run. -/
abbrev ListenerAction := FlagSet ⟨"ListenerAction", ["STOP", "REMOVE"]⟩

namespace ListenerAction

/-- Keep the listener and carry on. -/
def proceed : ListenerAction := ⟨0⟩

/-- Skip the listeners that come after. -/
def stop : ListenerAction := ⟨1⟩

/-- Take the listener off its list. -/
def remove : ListenerAction := ⟨2⟩

end ListenerAction

/-- Options of a wait for a child. -/
abbrev WaitOptions := FlagSet ⟨"WaitOptions", ["NOHANG"]⟩

namespace WaitOptions

/-- Refuse instead of waiting. -/
def noHang : WaitOptions := ⟨1⟩

end WaitOptions

end Rtos
