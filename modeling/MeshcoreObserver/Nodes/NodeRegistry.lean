import MeshcoreObserver.Nodes.NodeTable
import MeshcoreObserver.Transition.EventSystem

/-!
# The node registry

Every decoded packet is passed to `recordFromDecodedPacket`. A named advert then
waits for the check of its signature; where it is verified, it is upserted at
the time at which the check has settled. Any number of calls wait at once, and
their checks settle in any order.

The parsers of frames and adverts are the library's: any functions which throw
where they return `none` here.
-/

namespace MeshcoreObserver

open Counting Transition

/-- What the registry reads of a decoded packet. -/
structure DecodedPacket where
  packetType : Option Text
  raw : Text
  deriving DecidableEq, Repr

structure LibraryPacket where
  payloadType : Nat
  payload : List UInt8
  deriving DecidableEq, Repr

structure AdvertData where
  name : Option Text
  type : Option Text
  deriving DecidableEq, Repr

structure Advert where
  publicKey : List UInt8
  parsed : Option AdvertData
  deriving DecidableEq, Repr

/-- `Packet.fromBytes` and `Advert.fromBytes`. -/
structure PacketLibrary where
  packetFromBytes : List UInt8 → Option LibraryPacket
  advertFromBytes : List UInt8 → Option Advert

def payloadTypeAdvert : Nat := 4

def parseAdvertFromPacket (library : PacketLibrary) (decodedPacket : DecodedPacket) :
    Option Advert :=
  if decodedPacket.packetType.any fun packetType => packetType ≠ Text.ofInt payloadTypeAdvert then
    none
  else
    (library.packetFromBytes (Text.bytesOfHex decodedPacket.raw)).bind fun packet =>
      if packet.payloadType ≠ payloadTypeAdvert then none
      else library.advertFromBytes packet.payload

/-- An advert with a name, which is not empty. -/
structure NamedAdvert where
  publicKey : List UInt8
  name : Text
  type : Option Text
  named : name ≠ []
  deriving DecidableEq, Repr

/-- `advert.parsed?.name`, where it is not falsy. -/
def Advert.named? (advert : Advert) : Option NamedAdvert :=
  advert.parsed.bind fun parsed =>
    parsed.name.bind fun name =>
      if named : name ≠ [] then
        some { publicKey := advert.publicKey, name, type := parsed.type, named }
      else none

def NamedAdvert.publicKeyHex (advert : NamedAdvert) : Text := Text.upperHex advert.publicKey

/-- A call which has reached `await advert.isVerified()`. `number` counts the packets before its
own. -/
structure Reception where
  number : Nat
  packet : DecodedPacket
  advert : NamedAdvert
  receivedAt : Int
  deriving DecidableEq, Repr

/-- A call whose check has come out true, at the time `now()` returns then. -/
structure VerifiedAdvert where
  reception : Reception
  verifiedAt : Int
  deriving DecidableEq, Repr

namespace VerifiedAdvert

def publicKey (verified : VerifiedAdvert) : List UInt8 := verified.reception.advert.publicKey

def name (verified : VerifiedAdvert) : Text := verified.reception.advert.name

def type (verified : VerifiedAdvert) : Option Text := verified.reception.advert.type

def hearing (verified : VerifiedAdvert) : NodeHearing :=
  { publicKeyHex := verified.reception.advert.publicKeyHex
    name := verified.name
    type := verified.type
    heardAt := verified.verifiedAt }

end VerifiedAdvert

/-- The table of nodes and the calls which wait. The rest records the run: the packets received,
the adverts verified, in the order in which their checks have settled, and those of them whose
`upsertNode` has returned. -/
structure RegistryWorld where
  nodes : NodeTable
  clock : Int
  pending : List Reception
  packets : List DecodedPacket
  verified : List VerifiedAdvert
  stored : List VerifiedAdvert
  deriving DecidableEq, Repr

inductive RegistryEvent where
  | packetReceived (packet : DecodedPacket) (now : Int)
  | verificationResolves (number : Nat) (verified : Bool) (now : Int) (storeThrows : Bool)
  | verificationRejects (number : Nat) (now : Int)
  | restart (now : Int)
  deriving DecidableEq, Repr

def RegistryEvent.now : RegistryEvent → Int
  | .packetReceived _ now => now
  | .verificationResolves _ _ now _ => now
  | .verificationRejects _ now => now
  | .restart now => now

namespace RegistryWorld

/-- The service started on the rows of a store. -/
def started (nodes : NodeTable) (clock : Int) : RegistryWorld :=
  { nodes, clock, pending := [], packets := [], verified := [], stored := [] }

/-- `recordFromDecodedPacket` up to its check. -/
def receive (library : PacketLibrary) (world : RegistryWorld) (packet : DecodedPacket)
    (now : Int) : RegistryWorld :=
  let received := { world with clock := now, packets := world.packets ++ [packet] }
  match (parseAdvertFromPacket library packet).bind Advert.named? with
  | none => received
  | some advert =>
      { received with
        pending := world.pending ++
          [{ number := world.packets.length, packet, advert, receivedAt := now }] }

/-- The call has ended. -/
def settle (world : RegistryWorld) (reception : Reception) (now : Int) : RegistryWorld :=
  { world with
    clock := now
    pending := world.pending.filter fun other => other.number ≠ reception.number }

/-- `recordFromDecodedPacket` from its check on. -/
def record (world : RegistryWorld) (reception : Reception) (verified : Bool) (now : Int)
    (storeThrows : Bool) : RegistryWorld :=
  let settled := world.settle reception now
  let advert : VerifiedAdvert := { reception, verifiedAt := now }
  if !verified then settled
  else if storeThrows then { settled with verified := world.verified ++ [advert] }
  else
    { settled with
      nodes := upsertNode world.nodes advert.hearing
      verified := world.verified ++ [advert]
      stored := world.stored ++ [advert] }

def pending? (world : RegistryWorld) (number : Nat) : Option Reception :=
  world.pending.find? fun reception => reception.number = number

def step (library : PacketLibrary) (world : RegistryWorld) : RegistryEvent → Option RegistryWorld
  | .packetReceived packet now => some (world.receive library packet now)
  | .verificationResolves number verified now storeThrows =>
      (world.pending? number).map fun reception =>
        world.record reception verified now storeThrows
  | .verificationRejects number now =>
      (world.pending? number).map fun reception => world.settle reception now
  | .restart now => some { world with clock := now, pending := [] }

end RegistryWorld

/-- The service over the life of its store, which has no nodes at first. -/
def nodeRegistrySystem (library : PacketLibrary) : EventSystem RegistryWorld RegistryEvent where
  Initial world := ∃ clock, world = .started [] clock
  step world event := world.step library event

def nonDecreasingClock (world : RegistryWorld) (event : RegistryEvent) : Prop :=
  world.clock ≤ event.now

instance (world : RegistryWorld) (event : RegistryEvent) :
    Decidable (nonDecreasingClock world event) :=
  inferInstanceAs (Decidable (world.clock ≤ event.now))

end MeshcoreObserver
