import SubnetRouter.Text.Quoted

/-!
# Delegated actor addresses

An address is a namespace and a payload of at most 54 bytes.  Its wire form is the payload
padded with zero bytes to the full width, and two addresses are equal when their namespaces and
wire forms agree: zero bytes at the end of a payload make no difference.
-/

namespace SubnetRouter

open Text

/-- What a hasher is given at one time. -/
inductive HashWrite where
  | number (n : UInt64)
  /-- How many parts follow. -/
  | length (n : Nat)
  | bytes (bytes : List UInt8)
deriving Repr, DecidableEq, Hashable

/-- An actor address: a payload under a namespace. -/
structure ActorAddress where
  ns : UInt64
  /-- The payload as it was given. -/
  payload : List UInt8
  length_le : payload.length ≤ 54
deriving Repr, DecidableEq

namespace ActorAddress

def maxLength : Nat := 54

/-- The namespace of addresses that stand in subnet ids. -/
def ethereumNamespace : UInt64 := 10

/-- Why there is no address. -/
inductive Fault where
  /-- The payload has this many bytes, more than the width allows. -/
  | tooLong (length : Nat)
  | badHex (fault : Hex.Fault)
deriving Repr, DecidableEq

def ofBytes (ns : UInt64) (payload : List UInt8) : Except Fault ActorAddress :=
  if h : payload.length ≤ 54 then .ok ⟨ns, payload, h⟩ else .error (.tooLong payload.length)

/-- The address with the payload in hex digits, with or without a leading `0x`. -/
def ofHex (ns : UInt64) (text : String) : Except Fault ActorAddress :=
  match Hex.decodeText (Hex.dropMark text.toList) with
  | .error fault => .error (.badHex fault)
  | .ok payload => ofBytes ns payload

def length (a : ActorAddress) : Nat :=
  a.payload.length

def isEmpty (a : ActorAddress) : Bool :=
  a.payload.isEmpty

/-- The wire form: the payload, then zero bytes up to the full width. -/
def buffer (a : ActorAddress) : List UInt8 :=
  a.payload ++ List.replicate (maxLength - a.payload.length) 0

/-- Equality is that of namespaces and wire forms. -/
instance : BEq ActorAddress where
  beq a b := a.ns == b.ns && a.buffer == b.buffer

/-- What equality compares: the namespace and the wire form. -/
def identity (a : ActorAddress) : UInt64 × List UInt8 :=
  (a.ns, a.buffer)

/-- What a hasher is given of an address: the namespace, then the wire form behind its width. -/
def feed (a : ActorAddress) : List HashWrite :=
  [.number a.ns, .length maxLength, .bytes a.buffer]

instance : Hashable ActorAddress where
  hash a := hash a.feed

def ethereumChars (a : ActorAddress) : List Char :=
  '0' :: 'x' :: Hex.encode a.buffer

def ethereumText (a : ActorAddress) : String :=
  String.ofList a.ethereumChars

def debugText (a : ActorAddress) : String :=
  "DelegatedAddress \x7b namespace: " ++ toString a.ns ++ ", sub_address: "
    ++ quoted (String.ofList (Hex.encode a.payload)) ++ " \x7d"

theorem length_buffer (a : ActorAddress) : a.buffer.length = maxLength := by
  have h := a.length_le
  simp only [buffer, maxLength, List.length_append, List.length_replicate]
  omega

theorem beq_iff_identity_eq (a b : ActorAddress) : (a == b) = true ↔ a.identity = b.identity := by
  change (a.ns == b.ns && a.buffer == b.buffer) = true ↔ _
  simp [identity]

end ActorAddress

end SubnetRouter
