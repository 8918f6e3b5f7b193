import DongloraClient.Modulation

/-! Host-to-device commands: type identifiers and payload encoders. -/

namespace DongloraClient
open Wire

def typePing : Nat := 0x01
def typeGetInfo : Nat := 0x02
def typeSetConfig : Nat := 0x03
def typeTx : Nat := 0x04
def typeRxStart : Nat := 0x05
def typeRxStop : Nat := 0x06

structure TxFlags where
  skipCad : Bool := false

def TxFlags.asByte (flags : TxFlags) : Nat := if flags.skipCad then 1 else 0

def encodePingPayload : Bytes := []

def encodeGetInfoPayload : Bytes := []

def encodeSetConfigPayload (modulation : Modulation) : Except Exc Bytes := encodeModulation modulation

def encodeTxPayload (data : Bytes) (skipCad : Bool) : Except Exc Bytes :=
  if data = [] then .error (.valueError "TX payload must be non-empty")
  else return (← packUnsigned 1 (TxFlags.mk skipCad).asByte) ++ data

def encodeRxStartPayload : Bytes := []

def encodeRxStopPayload : Bytes := []

end DongloraClient
