import TraceScript.Octets
import TraceScript.Packet.Request
import TraceScript.Packet.Status

/-!
# Packet layout

The octets of each packet.  Multi-octet fields are little-endian and hold the
low octets of their operand, so an operand of any size has a layout wherever
a range is not part of the packet's definition.

A pattern of taken and not-taken bits is written below a stop bit, which
tells how many there are: `stopped bits n` has its highest bit at place `n`.
An address packet carries no, two, four or six octets of its address, as its
compression code says; the code is in the three top bits of the first octet.
-/

namespace TraceScript

/-- How many numbers a row of bits can hold. -/
def bitRange (size : Nat) : Nat := Nat.pow 2 size

/-- The low `size` bits of a pattern below a stop bit. -/
def stopped (bits : Int) (size : Nat) : Nat :=
  bitRange size + (bits % (bitRange size : Int)).toNat

/-- The longest pattern of a short packet. -/
def maxShortPattern : Nat := 6

/-- The longest pattern of a long packet. -/
def maxLongPattern : Nat := 47

/-- The low five bits of the first octet of an address packet. -/
def AddressKind.opcode : AddressKind → Nat
  | tip => 0x0D
  | tipPge => 0x11
  | tipPgd => 0x01
  | fup => 0x1D

/-- How many octets of the address a compression code keeps. -/
def addressSize? (compression : Int) : Option Nat :=
  if 0 ≤ compression ∧ compression ≤ 3 then some (2 * compression.toNat) else none

/-- The octets of a request, or the status that refuses its operands. -/
def Request.layout : Request → Except Status Octets
  | psb => .ok (List.replicate 8 [0x02, 0x82]).flatten
  | psbend => .ok [0x02, 0x23]
  | pad => .ok [0x00]
  | ovf => .ok [0x02, 0xF3]
  | tnt8 bits size =>
      if 0 < size ∧ size ≤ maxShortPattern then
        .ok [UInt8.ofNat (2 * stopped bits size.toNat)]
      else .error .invalid
  | tnt64 bits size =>
      if 0 < size ∧ size ≤ maxLongPattern then
        .ok ([0x02, 0xA3] ++ littleEndian 6 (stopped bits size.toNat))
      else .error .invalid
  | address kind ip compression =>
      match addressSize? compression with
      | none => .error .badIpCompression
      | some size =>
          .ok (UInt8.ofNat (32 * compression.toNat + kind.opcode) :: lowOctets size ip)
  | modeExec mode =>
      if 0 ≤ mode ∧ mode ≤ 2 then .ok [0x99, UInt8.ofNat mode.toNat] else .error .invalid
  | modeTsx state =>
      if 0 ≤ state ∧ state ≤ 2 then .ok [0x99, UInt8.ofNat (0x20 + state.toNat)]
      else .error .invalid
  | pip cr3 => .ok ([0x02, 0x43] ++ littleEndian 6 (2 * (toWord cr3 / 32)))
  | tsc count => .ok (0x19 :: lowOctets 7 count)
  | cbr ratio =>
      if 0 ≤ ratio ∧ ratio ≤ 255 then .ok [0x02, 0x03, UInt8.ofNat ratio.toNat, 0x00]
      else .error .invalid

end TraceScript
