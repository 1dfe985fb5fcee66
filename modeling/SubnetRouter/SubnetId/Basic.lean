import SubnetRouter.ActorAddress
import SubnetRouter.Text.Natural64

/-!
# Subnet ids

A subnet id is the number of a root chain and the actors on the way from the root down to the
subnet.  Equality compares the actors level by level; ancestry is being a shorter path that
agrees with the beginning of the longer one.
-/

namespace SubnetRouter

open Text

/-- The place of a subnet in the hierarchy. -/
structure SubnetId where
  root : UInt64
  /-- The subnet actors from the root down to the subnet. -/
  path : List ActorAddress
deriving Repr, DecidableEq

namespace SubnetId

def ofRoot (root : UInt64) : SubnetId :=
  ⟨root, []⟩

/-- The subnet of `actor` directly below `id`. -/
def child (id : SubnetId) (actor : ActorAddress) : SubnetId :=
  ⟨id.root, id.path ++ [actor]⟩

def isRoot (id : SubnetId) : Bool :=
  id.path.isEmpty

def depth (id : SubnetId) : Nat :=
  id.path.length

/-- The subnet one level up; a root has none. -/
def parent? (id : SubnetId) : Option SubnetId :=
  if id.path.isEmpty then none else some ⟨id.root, id.path.dropLast⟩

/-- The actor that controls the subnet; a root has none. -/
def actor? (id : SubnetId) : Option ActorAddress :=
  id.path.getLast?

/-- Equality is that of roots and, level by level, of actors. -/
instance : BEq SubnetId where
  beq a b := a.root == b.root && a.path == b.path

/-- What equality compares: the root, the number of levels and each actor. -/
def identity (id : SubnetId) : UInt64 × Nat × List (UInt64 × List UInt8) :=
  (id.root, id.depth, id.path.map ActorAddress.identity)

/-- What a hasher is given of an id: the root, then each actor behind the number of levels. -/
def feed (id : SubnetId) : List HashWrite :=
  .number id.root :: .length id.depth :: id.path.flatMap ActorAddress.feed

instance : Hashable SubnetId where
  hash id := hash id.feed

/-- `b` lies strictly below `a`. -/
def isAncestorOf (a b : SubnetId) : Bool :=
  a.root == b.root && a.path.length < b.path.length && a.path.isPrefixOf b.path

/-- The canonical text: `r`, the root number, and each actor after a slash. -/
def chars (id : SubnetId) : List Char :=
  'r' :: Natural64.write id.root ++ id.path.flatMap fun actor => '/' :: actor.ethereumChars

def text (id : SubnetId) : String :=
  String.ofList id.chars

end SubnetId

end SubnetRouter
