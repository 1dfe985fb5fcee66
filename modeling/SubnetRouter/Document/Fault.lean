import SubnetRouter.SubnetId.Reader
import SubnetRouter.Url.Basic

/-!
# Faults in documents

Why a value of a document is not what is expected at its place.
-/

namespace SubnetRouter

open Text

/-- A value as a fault names it. -/
inductive Found where
  | null
  | boolean (value : Bool)
  | integer (value : Int)
  /-- A floating-point number, in the words of its format. -/
  | float (text : String)
  | string (value : String)
  | sequence
  | record

def Found.message : Found → String
  | .null => "null"
  | .boolean value => "boolean `" ++ toString value ++ "`"
  | .integer value => "integer `" ++ toString value ++ "`"
  | .float text => "floating point `" ++ text ++ "`"
  | .string value => "string " ++ quoted value
  | .sequence => "sequence"
  | .record => "map"

/-- What is expected at a place. -/
inductive Expected where
  | text
  | url
  | endpoint
  | config
  | entry
  | table
  | chainKind
  | nothing
deriving Repr, DecidableEq

def Expected.message : Expected → String
  | .text => "a string"
  | .url => "a string representing an URL"
  | .endpoint => "struct EvmSubnet"
  | .config => "struct SubnetConfig"
  | .entry => "struct SubnetEntry"
  | .table => "a map"
  | .chainKind => "string or map"
  | .nothing => "unit"

/-- Why a document value is not what is expected. -/
inductive DocumentFault where
  | wrongKind (found : Found) (expected : Expected)
  /-- A list has too few items for the fields of a record. -/
  | tooFewItems (length : Nat) (expected : Expected) (fields : Nat)
  | tooManyItems (length : Nat)
  | missingField (name : String)
  | unknownChain (name : String)
  /-- A choice is neither a name nor a record of one member. -/
  | badChoice (wording : String)
  | badId (fault : SubnetId.Fault)
  | badAddress (text : String)
  | badUrl (fault : Url.Fault) (text : String)
  /-- A value that nobody asks for cannot be represented. -/
  | unreadable

def DocumentFault.message : DocumentFault → String
  | .wrongKind found expected =>
    "invalid type: " ++ found.message ++ ", expected " ++ expected.message
  | .tooFewItems length expected fields =>
    "invalid length " ++ toString length ++ ", expected " ++ expected.message ++ " with "
      ++ toString fields ++ " elements"
  | .tooManyItems length =>
    "invalid length " ++ toString length ++ ", expected fewer elements in array"
  | .missingField name => "missing field `" ++ name ++ "`"
  | .unknownChain name => "unknown variant `" ++ name ++ "`, expected `fevm`"
  | .badChoice wording => wording
  | .badId fault => fault.message
  | .badAddress text => "Invalid contract address: " ++ text
  | .badUrl fault text => fault.message ++ ": " ++ quoted text
  | .unreadable => "integer number overflowed"

end SubnetRouter
