import SubnetRouter.SubnetId.Basic
import SubnetRouter.Text.Split
import SubnetRouter.Text.Trailing

/-!
# Reading subnet ids

The text of a subnet id is cut at its slashes.  The first piece is `r` and the root number;
every further piece is the payload of an actor in hex digits, without the zero bytes at its
end.  Faults are found from left to right.
-/

namespace SubnetRouter

open Text

namespace SubnetId

/-- What is wrong with the text of an id. -/
inductive Flaw where
  | missingMark
  | badRoot (fault : Natural64.Fault)
  /-- Two slashes meet, or one stands at the end. -/
  | emptySegment
  | badHex (fault : Hex.Fault)
deriving Repr, DecidableEq

def Flaw.message : Flaw → String
  | .missingMark => "missing 'r' root prefix"
  | .badRoot fault => fault.message
  | .emptySegment => "empty path segment"
  | .badHex fault => fault.message

/-- Why an id or one of its addresses cannot be had. -/
inductive Fault where
  | payloadTooLong (length : Nat)
  | noActor
  | malformed (input : String) (flaw : Flaw)
  | badHex (fault : Hex.Fault)
deriving Repr, DecidableEq

def Fault.message : Fault → String
  | .payloadTooLong length => "InvalidPayloadLength: " ++ toString length
  | .noActor => "Root subnet has no subnet actor"
  | .malformed input flaw => "Invalid subnet id " ++ quoted input ++ ": " ++ flaw.message
  | .badHex fault => "Invalid hex payload: " ++ fault.message

def Fault.ofAddress : ActorAddress.Fault → Fault
  | .tooLong length => .payloadTooLong length
  | .badHex fault => .badHex fault

/-- The actor that controls the subnet, or the fault that a root has none. -/
def actor (id : SubnetId) : Except Fault ActorAddress :=
  match id.actor? with
  | some actor => .ok actor
  | none => .error .noActor

def actorText (id : SubnetId) : Except Fault String :=
  id.actor.map ActorAddress.ethereumText

/-- The bytes without the zeros at their end. -/
def dropPadding (bytes : List UInt8) : List UInt8 :=
  dropEnd (· == 0) bytes

def readRoot : List Char → Except Flaw UInt64
  | 'r' :: digits => (Natural64.read digits).mapError .badRoot
  | _ => .error .missingMark

def readSegment (segment : List Char) : Except Flaw (List UInt8) :=
  if segment.isEmpty then .error .emptySegment
  else (Hex.decodeText (Hex.dropMark segment)).mapError .badHex

def readActor (input : String) (segment : List Char) : Except Fault ActorAddress :=
  match readSegment segment with
  | .error flaw => .error (.malformed input flaw)
  | .ok bytes =>
    (ActorAddress.ofBytes ActorAddress.ethereumNamespace (dropPadding bytes)).mapError .ofAddress

def readPath (input : String) : List (List Char) → Except Fault (List ActorAddress)
  | [] => .ok []
  | segment :: rest => do
    let actor ← readActor input segment
    let actors ← readPath input rest
    return actor :: actors

def read (input : String) : Except Fault SubnetId :=
  let (first, segments) := cut (· = '/') input.toList
  match readRoot first with
  | .error flaw => .error (.malformed input flaw)
  | .ok root => (readPath input segments).map (⟨root, ·⟩)

end SubnetId

end SubnetRouter
