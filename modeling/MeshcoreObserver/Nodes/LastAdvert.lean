import MeshcoreObserver.Nodes.RegistryIntegrity

/-!
# The last advert of a node

`recordFromDecodedPacket` stores what a check has let through when the check
settles, whatever has been stored since the packet was received. So a node shows
the advert verified last, not the one received last: a check which takes longer
than that of a later advert brings the old name back. What is never too early is
`lastHeardAt`, which is read from the clock after the check.
-/

namespace MeshcoreObserver

open Counting Transition

variable {library : PacketLibrary}

/-- A restart, or an upsert which throws. -/
def RegistryEvent.disturbs : RegistryEvent → Bool
  | .restart _ => true
  | .verificationResolves _ _ _ storeThrows => storeThrows
  | _ => false

/-- The store does not fail, the service is not restarted and its clock does not go back. -/
def undisturbed (world : RegistryWorld) (event : RegistryEvent) : Prop :=
  nonDecreasingClock world event ∧ event.disturbs = false

instance (world : RegistryWorld) (event : RegistryEvent) : Decidable (undisturbed world event) :=
  inferInstanceAs (Decidable (_ ∧ _))

/-- The verified adverts of a public key, in the order in which their checks have settled. -/
def RegistryWorld.verifiedOf (world : RegistryWorld) (publicKey : List UInt8) :
    List VerifiedAdvert :=
  world.verified.filter fun verified => verified.publicKey = publicKey

/-- The verified advert of the key which was received last. -/
def RegistryWorld.ReceivedLast (world : RegistryWorld) (publicKey : List UInt8)
    (last : VerifiedAdvert) : Prop :=
  last ∈ world.verifiedOf publicKey ∧
    ∀ other ∈ world.verifiedOf publicKey, other.reception.number ≤ last.reception.number

instance (world : RegistryWorld) (publicKey : List UInt8) (last : VerifiedAdvert) :
    Decidable (world.ReceivedLast publicKey last) :=
  inferInstanceAs (Decidable (_ ∧ _))

/-- The row of the key has the name and the type of the verified advert received last, and no
verified advert was received after its `lastHeardAt`. -/
def RegistryWorld.ReflectsLastAdvert (world : RegistryWorld) (publicKey : List UInt8) : Prop :=
  ∀ last, world.ReceivedLast publicKey last →
    ∃ node, find? (Text.upperHex publicKey) world.nodes = some node ∧ node.name = last.name ∧
      node.type = last.type ∧
      ∀ other ∈ world.verifiedOf publicKey, other.reception.receivedAt ≤ node.lastHeardAt

/-- The advert whose check has settled last says what the one received last says. -/
def RegistryWorld.SettledLastAgrees (world : RegistryWorld) (publicKey : List UInt8) : Prop :=
  ∀ last, world.ReceivedLast publicKey last →
    ∀ settled, (world.verifiedOf publicKey).getLast? = some settled →
      settled.name = last.name ∧ settled.type = last.type

theorem hexDigit_toUpper_injective {first second : Nat} (firstSmall : first < 16)
    (secondSmall : second < 16)
    (same : (Text.hexDigit first).toUpper = (Text.hexDigit second).toUpper) : first = second := by
  have all : ∀ first, first < 16 → ∀ second, second < 16 →
      (Text.hexDigit first).toUpper = (Text.hexDigit second).toUpper → first = second := by
    decide
  exact all first firstSmall second secondSmall same

/-- Two public keys share no row. -/
theorem upperHex_injective {first second : List UInt8}
    (same : Text.upperHex first = Text.upperHex second) : first = second := by
  induction first generalizing second with
  | nil =>
      cases second with
      | nil => rfl
      | cons byte second => cases same
  | cons byte first ih =>
      cases second with
      | nil => cases same
      | cons other second =>
          simp only [Text.upperHex, Text.hex, List.flatMap_cons, List.cons_append,
            List.nil_append, List.map_cons, List.cons.injEq] at same
          rcases same with ⟨high, low, rest⟩
          have byteSmall := byte.toNat_lt
          have otherSmall := other.toNat_lt
          have highs : byte.toNat / 16 = other.toNat / 16 :=
            hexDigit_toUpper_injective (by omega) (by omega) high
          have lows : byte.toNat % 16 = other.toNat % 16 :=
            hexDigit_toUpper_injective (by omega) (by omega) low
          have bytes : byte = other := UInt8.toNat_inj.mp (by omega)
          rw [bytes, ih rest]

theorem hearingsOf_verified (world : RegistryWorld) (publicKey : List UInt8) :
    hearingsOf (Text.upperHex publicKey) (world.verified.map VerifiedAdvert.hearing) =
      (world.verifiedOf publicKey).map VerifiedAdvert.hearing := by
  simp only [hearingsOf, RegistryWorld.verifiedOf, List.filter_map]
  congr 1
  apply List.filter_congr
  intro verified _
  simp only [Function.comp, decide_eq_decide]
  constructor
  · intro same
    exact upperHex_injective same
  · intro same
    exact congrArg Text.upperHex same

theorem stored_eq_verified {nodes : NodeTable} {clock : Int} {world : RegistryWorld}
    (lead : (nodeRegistrySystem library).Leads undisturbed (.started nodes clock) world) :
    world.stored = world.verified := by
  apply lead.invariant
  · intro before event after same met stepped
    cases registryStep_of_step stepped with
    | unstored reception now waits => cases met.2
    | stored reception now waits => exact congrArg (· ++ [_]) same
    | _ => exact same
  · rfl

theorem Chronology.undisturbed {nodes : NodeTable} {clock : Int} {world : RegistryWorld}
    (lead : (nodeRegistrySystem library).Leads undisturbed (.started nodes clock) world) :
    Chronology world :=
  lead.invariant (fun _ _ _ chronology met stepped => chronology.step met.1 stepped)
    (.initial nodes clock)

/-- The row of a key shows the advert whose check has settled last. -/
theorem find?_of_settledLast {nodes : NodeTable} {clock : Int} {world : RegistryWorld}
    (lead : (nodeRegistrySystem library).Leads undisturbed (.started nodes clock) world)
    {publicKey : List UInt8} {settled : VerifiedAdvert}
    (settledLast : (world.verifiedOf publicKey).getLast? = some settled) :
    ∃ node, find? (Text.upperHex publicKey) world.nodes = some node ∧ node.name = settled.name ∧
      node.type = settled.type ∧ node.lastHeardAt = settled.verifiedAt := by
  have ledger := (RegistryLedger.initial library nodes clock).run lead
  have isLast : (hearingsOf (Text.upperHex publicKey)
      (world.verified.map VerifiedAdvert.hearing)).getLast? = some settled.hearing := by
    rw [hearingsOf_verified, List.getLast?_map, settledLast, Option.map_some]
  rw [ledger.table, stored_eq_verified lead]
  exact find?_upsertNodes_last isLast

/-- The check that settles last settles after every reception. -/
theorem receivedAt_le_of_settledLast {nodes : NodeTable} {clock : Int} {world : RegistryWorld}
    (lead : (nodeRegistrySystem library).Leads undisturbed (.started nodes clock) world)
    {publicKey : List UInt8} {settled : VerifiedAdvert}
    (settledLast : (world.verifiedOf publicKey).getLast? = some settled) :
    ∀ other ∈ world.verifiedOf publicKey,
      other.reception.receivedAt ≤ settled.verifiedAt := by
  have chronology := Chronology.undisturbed lead
  have ordered := chronology.ordered.sublist
    (List.filter_sublist : (world.verifiedOf publicKey).Sublist world.verified)
  intro other otherMem
  have received := (chronology.verified other (List.mem_of_mem_filter otherMem)).1
  have later := le_getLast_of_pairwise ordered settledLast other otherMem
  omega

/-- Where the checks settle in the order of the receptions, the last of them is the same. -/
theorem settledLastAgrees_of_ordered {world : RegistryWorld} {publicKey : List UInt8}
    (ordered : (world.verifiedOf publicKey).Pairwise fun former later =>
      former.reception.number < later.reception.number) :
    world.SettledLastAgrees publicKey := by
  intro last receivedLast settled settledLast
  rcases List.getLast?_eq_some_iff.mp settledLast with ⟨before, whole⟩
  have lastMem := receivedLast.1
  rw [whole] at ordered lastMem
  rcases List.mem_append.mp lastMem with former | final
  · have sooner := (List.pairwise_append.mp ordered).2.2 last former settled
      (List.mem_singleton_self settled)
    have later := receivedLast.2 settled (List.mem_of_getLast? settledLast)
    omega
  · rw [List.mem_singleton] at final
    subst last
    exact ⟨rfl, rfl⟩

/-- A node shows the last advert received exactly where the one verified last says the same. -/
theorem reflects_last_advert_iff {nodes : NodeTable} {clock : Int} {world : RegistryWorld}
    (lead : (nodeRegistrySystem library).Leads undisturbed (.started nodes clock) world)
    (publicKey : List UInt8) :
    world.ReflectsLastAdvert publicKey ↔ world.SettledLastAgrees publicKey := by
  constructor
  · intro reflects last receivedLast settled settledLast
    rcases find?_of_settledLast lead settledLast with ⟨node, found, name, type, _⟩
    rcases reflects last receivedLast with ⟨shown, shownFound, shownName, shownType, _⟩
    rw [found, Option.some.injEq] at shownFound
    subst shown
    exact ⟨name.symm.trans shownName, type.symm.trans shownType⟩
  · intro agrees last receivedLast
    rcases List.eq_nil_or_concat (world.verifiedOf publicKey) with none | ⟨_, settled, whole⟩
    · rw [RegistryWorld.ReceivedLast, none] at receivedLast
      exact absurd receivedLast.1 List.not_mem_nil
    · have settledLast : (world.verifiedOf publicKey).getLast? = some settled := by
        rw [whole, List.concat_eq_append, List.getLast?_concat]
      rcases find?_of_settledLast lead settledLast with ⟨node, found, name, type, heardAt⟩
      rcases agrees last receivedLast settled settledLast with ⟨sameName, sameType⟩
      refine ⟨node, found, name.trans sameName, type.trans sameType, ?_⟩
      rw [heardAt]
      exact receivedAt_le_of_settledLast lead settledLast

/-- A node renamed between two adverts, whose checks settle in the given order. -/
def renamedRun (first second : Nat) : Option RegistryWorld :=
  (nodeRegistrySystem floodFrames).run undisturbed (.started [] 0)
    [.packetReceived (advertFrame 0xE8 ['O', 'l', 'd']) 10,
      .packetReceived (advertFrame 0xE8 ['N', 'e', 'w']) 20,
      .verificationResolves first true 30 false, .verificationResolves second true 40 false]

theorem renamedRun_isSome : (renamedRun 0 1).isSome ∧ (renamedRun 1 0).isSome := by
  decide +kernel

theorem reflects_last_advert_of_renamed :
    ((renamedRun 0 1).get renamedRun_isSome.1).ReflectsLastAdvert (List.replicate 32 0xE8) := by
  apply (reflects_last_advert_iff (EventSystem.leads_get renamedRun_isSome.1) _).mpr
  apply settledLastAgrees_of_ordered
  decide +kernel

theorem old_name_comes_back :
    ¬∀ library nodes clock world,
      (nodeRegistrySystem library).Leads undisturbed (.started nodes clock) world →
        world.pending = [] → ∀ publicKey, world.ReflectsLastAdvert publicKey := by
  intro reflects
  have lead : (nodeRegistrySystem floodFrames).Leads undisturbed (.started [] 0)
      ((renamedRun 1 0).get renamedRun_isSome.2) := EventSystem.leads_get renamedRun_isSome.2
  have renamed := reflects _ _ _ _ lead (by decide +kernel) (List.replicate 32 0xE8)
  have receivedLast : ∃ last, ((renamedRun 1 0).get renamedRun_isSome.2).ReceivedLast
      (List.replicate 32 0xE8) last ∧ last.name = ['N', 'e', 'w'] :=
    ⟨((renamedRun 1 0).get renamedRun_isSome.2).verified.head (by decide +kernel),
      by decide +kernel, by decide +kernel⟩
  have shown : (find? (Text.upperHex (List.replicate 32 0xE8))
      ((renamedRun 1 0).get renamedRun_isSome.2).nodes).map StoredNode.name =
        some ['O', 'l', 'd'] := by
    decide +kernel
  rcases receivedLast with ⟨last, receivedLast, lastName⟩
  rcases renamed last receivedLast with ⟨node, found, name, _⟩
  rw [found, Option.map_some, Option.some.injEq, name, lastName] at shown
  cases shown

end MeshcoreObserver
