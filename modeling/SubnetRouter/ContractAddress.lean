import SubnetRouter.Text.Hex

/-!
# Contract addresses

A contract address is `0x` and forty hex digits.  The text is kept in the case in which it was
written, and equality is that of texts.
-/

namespace SubnetRouter

open Text

namespace ContractAddress

/-- Fills the twenty bytes of an address, and tells whether the digits are those of twenty bytes. -/
def decode (digits : List Char) : List UInt8 × Bool :=
  Hex.decodeInto (List.replicate 20 0) digits

def isWellFormed : List Char → Bool
  | '0' :: 'x' :: digits => (decode digits).2
  | _ => false

end ContractAddress

/-- The address of a contract. -/
structure ContractAddress where
  text : String
  wellFormed : ContractAddress.isWellFormed text.toList = true
deriving DecidableEq

namespace ContractAddress

instance : Repr ContractAddress where
  reprPrec a _ := repr a.text

instance : Hashable ContractAddress where
  hash a := hash a.text

def read? (text : String) : Option ContractAddress :=
  if h : isWellFormed text.toList = true then some ⟨text, h⟩ else none

/-- The text after its first two characters. -/
def digits (a : ContractAddress) : List Char :=
  a.text.toList.drop 2

/-- What the digits fill the bytes with, whether or not all could be decoded. -/
def bytes (a : ContractAddress) : List UInt8 :=
  (decode a.digits).1

def debugText (a : ContractAddress) : String :=
  "EthAddress(\"" ++ a.text ++ "\")"

end ContractAddress

end SubnetRouter
