import TraceScript.Literal

/-!
# Packet requests

What a script can ask an encoder for: one packet of a trace stream, with its
operands as integers of any size.  An encoder answers every request with the
number of octets that it made, or with a negative status.

`PacketKind.all` lists the fifteen kinds in a fixed order.
-/

namespace TraceScript

/-- The packets that carry an instruction address. -/
inductive AddressKind
  | tip
  | tipPge
  | tipPgd
  | fup
  deriving DecidableEq, Repr

/-- A packet with its operands. -/
inductive Request
  | psb
  | psbend
  | pad
  | ovf
  | tnt8 (bits size : Int)
  | tnt64 (bits size : Int)
  | address (kind : AddressKind) (ip compression : Int)
  | modeExec (mode : Int)
  | modeTsx (state : Int)
  | pip (cr3 : Int)
  | tsc (count : Int)
  | cbr (ratio : Int)
  deriving DecidableEq, Repr

/-- A packet without its operands. -/
inductive PacketKind
  | psb
  | psbend
  | pad
  | ovf
  | tnt8
  | tnt64
  | address (kind : AddressKind)
  | modeExec
  | modeTsx
  | pip
  | tsc
  | cbr
  deriving DecidableEq, Repr

/-- Every kind of packet. -/
def PacketKind.all : List PacketKind :=
  [psb, psbend, pad, ovf, tnt8, tnt64, address .tip, address .tipPge, address .tipPgd,
    address .fup, modeExec, modeTsx, pip, tsc, cbr]

/-- The kind of a request. -/
def Request.kind : Request → PacketKind
  | psb => .psb
  | psbend => .psbend
  | pad => .pad
  | ovf => .ovf
  | tnt8 _ _ => .tnt8
  | tnt64 _ _ => .tnt64
  | address kind _ _ => .address kind
  | modeExec _ => .modeExec
  | modeTsx _ => .modeTsx
  | pip _ => .pip
  | tsc _ => .tsc
  | cbr _ => .cbr

/-- The operands of a request, in order. -/
def Request.operands : Request → List Int
  | psb | psbend | pad | ovf => []
  | tnt8 bits size | tnt64 bits size => [bits, size]
  | address _ ip compression => [ip, compression]
  | modeExec v | modeTsx v | pip v | tsc v | cbr v => [v]

/-- The execution modes, by the bits that a packet carries for them. -/
inductive ExecMode
  | bit16
  | bit64
  | bit32
  deriving DecidableEq, Repr

/-- The number of an execution mode. -/
def ExecMode.number : ExecMode → Nat
  | bit16 => 0
  | bit64 => 1
  | bit32 => 2

/-- The states of a transaction, by the bits that a packet carries for them. -/
inductive TsxState
  | commit
  | begin
  | abort
  deriving DecidableEq, Repr

/-- The number of a transaction state. -/
def TsxState.number : TsxState → Nat
  | commit => 0
  | begin => 1
  | abort => 2

end TraceScript
