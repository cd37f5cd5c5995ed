import MeshcoreObserver.Nodes.NodeRegistry

/-!
# Integrity of the node registry

The table of nodes is what the successful upserts have made of the rows before
them, and each of them is of an advert which was received, has a name and was
verified. All that the rows promise follows from the order of these upserts,
over any interleaving of the calls, failures of the store and restarts.
-/

namespace MeshcoreObserver

open Counting Transition

variable {library : PacketLibrary}

inductive RegistryStep (library : PacketLibrary) (world : RegistryWorld) :
    RegistryEvent → RegistryWorld → Prop where
  | ignored (packet : DecodedPacket) (now : Int)
      (unnamed : (parseAdvertFromPacket library packet).bind Advert.named? = none) :
      RegistryStep library world (.packetReceived packet now)
        { world with clock := now, packets := world.packets ++ [packet] }
  | awaits (packet : DecodedPacket) (now : Int) (advert : NamedAdvert)
      (named : (parseAdvertFromPacket library packet).bind Advert.named? = some advert) :
      RegistryStep library world (.packetReceived packet now)
        { world with
          clock := now
          packets := world.packets ++ [packet]
          pending := world.pending ++
            [{ number := world.packets.length, packet, advert, receivedAt := now }] }
  | dropped (reception : Reception) (now : Int) (storeThrows : Bool)
      (waits : reception ∈ world.pending) :
      RegistryStep library world (.verificationResolves reception.number false now storeThrows)
        (world.settle reception now)
  | unstored (reception : Reception) (now : Int) (waits : reception ∈ world.pending) :
      RegistryStep library world (.verificationResolves reception.number true now true)
        { world.settle reception now with
          verified := world.verified ++ [{ reception, verifiedAt := now }] }
  | stored (reception : Reception) (now : Int) (waits : reception ∈ world.pending) :
      RegistryStep library world (.verificationResolves reception.number true now false)
        { world.settle reception now with
          nodes := upsertNode world.nodes
            (VerifiedAdvert.hearing { reception, verifiedAt := now })
          verified := world.verified ++ [{ reception, verifiedAt := now }]
          stored := world.stored ++ [{ reception, verifiedAt := now }] }
  | rejected (reception : Reception) (now : Int) (waits : reception ∈ world.pending) :
      RegistryStep library world (.verificationRejects reception.number now)
        (world.settle reception now)
  | restarted (now : Int) :
      RegistryStep library world (.restart now) { world with clock := now, pending := [] }

theorem RegistryWorld.mem_of_pending? {world : RegistryWorld} {number : Nat}
    {reception : Reception} (found : world.pending? number = some reception) :
    reception ∈ world.pending ∧ reception.number = number := by
  refine ⟨List.mem_of_find?_eq_some found, ?_⟩
  simpa using List.find?_some found

theorem registryStep_of_step {world after : RegistryWorld} {event : RegistryEvent}
    (stepped : world.step library event = some after) :
    RegistryStep library world event after := by
  cases event with
  | packetReceived packet now =>
      simp only [RegistryWorld.step, RegistryWorld.receive, Option.some.injEq] at stepped
      split at stepped
      · rename_i unnamed
        subst after
        exact .ignored packet now unnamed
      · rename_i advert named
        subst after
        exact .awaits packet now advert named
  | verificationResolves number verified now storeThrows =>
      simp only [RegistryWorld.step, Option.map_eq_some_iff] at stepped
      rcases stepped with ⟨reception, found, rfl⟩
      rcases RegistryWorld.mem_of_pending? found with ⟨waits, rfl⟩
      cases verified with
      | false => exact .dropped reception now storeThrows waits
      | true =>
          cases storeThrows with
          | true => exact .unstored reception now waits
          | false => exact .stored reception now waits
  | verificationRejects number now =>
      simp only [RegistryWorld.step, Option.map_eq_some_iff] at stepped
      rcases stepped with ⟨reception, found, rfl⟩
      rcases RegistryWorld.mem_of_pending? found with ⟨waits, rfl⟩
      exact .rejected reception now waits
  | restart now =>
      simp only [RegistryWorld.step, Option.some.injEq] at stepped
      subst after
      exact .restarted now

theorem RegistryWorld.mem_pending_of_settle {world : RegistryWorld}
    {settled reception : Reception} {now : Int}
    (waits : reception ∈ (world.settle settled now).pending) : reception ∈ world.pending :=
  List.mem_of_mem_filter waits

/-- The call of a packet which was received and is an advert with a name. -/
def Reception.Parsed (library : PacketLibrary) (packets : List DecodedPacket)
    (reception : Reception) : Prop :=
  packets[reception.number]? = some reception.packet ∧
    ∃ advert, parseAdvertFromPacket library reception.packet = some advert ∧
      advert.named? = some reception.advert

theorem Reception.Parsed.append {packets : List DecodedPacket} {reception : Reception}
    (parsed : reception.Parsed library packets) (packet : DecodedPacket) :
    reception.Parsed library (packets ++ [packet]) := by
  rcases parsed with ⟨received, named⟩
  have inside := (List.getElem?_eq_some_iff.mp received).1
  refine ⟨?_, named⟩
  rw [List.getElem?_append_left inside]
  exact received

theorem Reception.parsed_of_named {packets : List DecodedPacket} {packet : DecodedPacket}
    {advert : NamedAdvert} {receivedAt : Int}
    (named : (parseAdvertFromPacket library packet).bind Advert.named? = some advert) :
    Reception.Parsed library (packets ++ [packet])
      { number := packets.length, packet, advert, receivedAt } := by
  refine ⟨?_, Option.bind_eq_some_iff.mp named⟩
  exact List.getElem?_concat_length

/-- The table is what the upserts which have returned have made of the rows at the start. -/
structure RegistryLedger (library : PacketLibrary) (start : NodeTable) (world : RegistryWorld) :
    Prop where
  table : world.nodes = upsertNodes start (world.stored.map VerifiedAdvert.hearing)
  stored : world.stored.Sublist world.verified
  waiting : ∀ reception ∈ world.pending, reception.Parsed library world.packets
  verified : ∀ verified ∈ world.verified, verified.reception.Parsed library world.packets

namespace RegistryLedger

variable {start : NodeTable} {world after : RegistryWorld} {event : RegistryEvent}

theorem initial (library : PacketLibrary) (start : NodeTable) (clock : Int) :
    RegistryLedger library start (.started start clock) where
  table := rfl
  stored := List.Sublist.refl []
  waiting := fun _ waits => absurd waits List.not_mem_nil
  verified := fun _ verifiedMem => absurd verifiedMem List.not_mem_nil

theorem settle (ledger : RegistryLedger library start world) (reception : Reception)
    (now : Int) : RegistryLedger library start (world.settle reception now) where
  table := ledger.table
  stored := ledger.stored
  waiting := fun other waits =>
    ledger.waiting other (RegistryWorld.mem_pending_of_settle waits)
  verified := ledger.verified

theorem verify (ledger : RegistryLedger library start world) {reception : Reception}
    (waits : reception ∈ world.pending) (now : Int) :
    ∀ verified ∈ world.verified ++ [{ reception, verifiedAt := now }],
      verified.reception.Parsed library world.packets := by
  intro verified verifiedMem
  rcases List.mem_append.mp verifiedMem with former | new
  · exact ledger.verified verified former
  · rw [List.mem_singleton] at new
    subst verified
    exact ledger.waiting reception waits

theorem step (ledger : RegistryLedger library start world)
    (stepped : world.step library event = some after) :
    RegistryLedger library start after := by
  cases registryStep_of_step stepped with
  | ignored packet now unnamed =>
      exact
        { table := ledger.table
          stored := ledger.stored
          waiting := fun reception waits => (ledger.waiting reception waits).append packet
          verified := fun verified verifiedMem =>
            (ledger.verified verified verifiedMem).append packet }
  | awaits packet now advert named =>
      refine
        { table := ledger.table
          stored := ledger.stored
          waiting := ?_
          verified := fun verified verifiedMem =>
            (ledger.verified verified verifiedMem).append packet }
      intro reception waits
      rcases List.mem_append.mp waits with former | new
      · exact (ledger.waiting reception former).append packet
      · rw [List.mem_singleton] at new
        subst reception
        exact Reception.parsed_of_named named
  | dropped reception now storeThrows waits => exact ledger.settle reception now
  | unstored reception now waits =>
      exact
        { ledger.settle reception now with
          stored := ledger.stored.trans (List.sublist_append_left _ _)
          verified := ledger.verify waits now }
  | stored reception now waits =>
      refine
        { ledger.settle reception now with
          table := ?_
          stored := ledger.stored.append (List.Sublist.refl _)
          verified := ledger.verify waits now }
      simp only [List.map_append, List.map_cons, List.map_nil, upsertNodes_append,
        ← ledger.table]
  | rejected reception now waits => exact ledger.settle reception now
  | restarted now =>
      exact
        { ledger with
          waiting := fun reception waits => absurd waits List.not_mem_nil }

theorem run {condition : RegistryWorld → RegistryEvent → Prop}
    (ledger : RegistryLedger library start world)
    (lead : (nodeRegistrySystem library).Leads condition world after) :
    RegistryLedger library start after :=
  lead.invariant (fun _ _ _ kept _ stepped => kept.step stepped) ledger

theorem reachable {condition : RegistryWorld → RegistryEvent → Prop}
    (reached : (nodeRegistrySystem library).ReachableWhen condition world) :
    RegistryLedger library [] world := by
  rcases reached with ⟨initial, ⟨clock, rfl⟩, lead⟩
  exact (RegistryLedger.initial library [] clock).run lead

end RegistryLedger

/-- What a clock which does not go back makes of the times of a run. -/
structure Chronology (world : RegistryWorld) : Prop where
  waiting : ∀ reception ∈ world.pending, reception.receivedAt ≤ world.clock
  verified : ∀ verified ∈ world.verified,
    verified.reception.receivedAt ≤ verified.verifiedAt ∧ verified.verifiedAt ≤ world.clock
  ordered : world.verified.Pairwise fun former later => former.verifiedAt ≤ later.verifiedAt

namespace Chronology

variable {world after : RegistryWorld} {event : RegistryEvent}

theorem initial (nodes : NodeTable) (clock : Int) : Chronology (.started nodes clock) where
  waiting := fun _ waits => absurd waits List.not_mem_nil
  verified := fun _ verifiedMem => absurd verifiedMem List.not_mem_nil
  ordered := List.Pairwise.nil

theorem waiting_later (chronology : Chronology world) {now : Int} (later : world.clock ≤ now)
    {reception : Reception} (waits : reception ∈ world.pending) : reception.receivedAt ≤ now := by
  have before := chronology.waiting reception waits
  omega

theorem verified_later (chronology : Chronology world) {now : Int} (later : world.clock ≤ now) :
    ∀ verified ∈ world.verified,
      verified.reception.receivedAt ≤ verified.verifiedAt ∧ verified.verifiedAt ≤ now := by
  intro verified verifiedMem
  have before := chronology.verified verified verifiedMem
  omega

theorem settle (chronology : Chronology world) (reception : Reception) {now : Int}
    (later : world.clock ≤ now) : Chronology (world.settle reception now) where
  waiting := fun _ waits =>
    chronology.waiting_later later (RegistryWorld.mem_pending_of_settle waits)
  verified := chronology.verified_later later
  ordered := chronology.ordered

theorem verify (chronology : Chronology world) {reception : Reception}
    (waits : reception ∈ world.pending) {now : Int} (later : world.clock ≤ now) :
    (∀ verified ∈ world.verified ++ [{ reception, verifiedAt := now }],
      verified.reception.receivedAt ≤ verified.verifiedAt ∧ verified.verifiedAt ≤ now) ∧
    List.Pairwise (fun former later : VerifiedAdvert => former.verifiedAt ≤ later.verifiedAt)
      (world.verified ++ [{ reception, verifiedAt := now }]) := by
  have received := chronology.waiting_later later waits
  have before := chronology.verified_later later
  constructor
  · intro verified verifiedMem
    rcases List.mem_append.mp verifiedMem with former | new
    · exact before verified former
    · rw [List.mem_singleton] at new
      subst verified
      exact ⟨received, Int.le_refl now⟩
  · refine List.pairwise_append.mpr
      ⟨chronology.ordered, List.pairwise_singleton _ _, ?_⟩
    intro former formerMem last lastMem
    rw [List.mem_singleton] at lastMem
    subst last
    exact (before former formerMem).2

theorem step (chronology : Chronology world) (later : nonDecreasingClock world event)
    (stepped : world.step library event = some after) : Chronology after := by
  cases registryStep_of_step stepped with
  | ignored packet now unnamed =>
      exact
        { waiting := fun _ waits => chronology.waiting_later later waits
          verified := chronology.verified_later later
          ordered := chronology.ordered }
  | awaits packet now advert named =>
      refine
        { waiting := ?_
          verified := chronology.verified_later later
          ordered := chronology.ordered }
      intro reception waits
      rcases List.mem_append.mp waits with former | new
      · exact chronology.waiting_later later former
      · rw [List.mem_singleton] at new
        subst reception
        exact Int.le_refl now
  | dropped reception now storeThrows waits => exact chronology.settle reception later
  | unstored reception now waits =>
      exact
        { chronology.settle reception later with
          verified := (chronology.verify waits later).1
          ordered := (chronology.verify waits later).2 }
  | stored reception now waits =>
      exact
        { chronology.settle reception later with
          verified := (chronology.verify waits later).1
          ordered := (chronology.verify waits later).2 }
  | rejected reception now waits => exact chronology.settle reception later
  | restarted now =>
      exact
        { waiting := fun _ waits => absurd waits List.not_mem_nil
          verified := chronology.verified_later later
          ordered := chronology.ordered }

theorem reachable
    (reached : (nodeRegistrySystem library).ReachableWhen nonDecreasingClock world) :
    Chronology world := by
  apply reached.invariant
  · rintro initial ⟨clock, rfl⟩
    exact .initial [] clock
  · intro before event after chronology later stepped
    exact chronology.step later stepped

end Chronology

/-- The upserts of one node, in their order. -/
def RegistryWorld.storedOf (world : RegistryWorld) (publicKeyHex : Text) : List VerifiedAdvert :=
  world.stored.filter fun verified => verified.reception.advert.publicKeyHex = publicKeyHex

theorem RegistryWorld.hearingsOf_stored (world : RegistryWorld) (publicKeyHex : Text) :
    hearingsOf publicKeyHex (world.stored.map VerifiedAdvert.hearing) =
      (world.storedOf publicKeyHex).map VerifiedAdvert.hearing := by
  simp only [hearingsOf, RegistryWorld.storedOf, List.filter_map]
  rfl

/-- The row shows the key, the name and the type of one advert, which was received, has a name and
was verified. -/
def ShowsAdvert (library : PacketLibrary) (world : RegistryWorld) (entry : Text × StoredNode) :
    Prop :=
  ∃ verified ∈ world.verified, ∃ packet ∈ world.packets, ∃ advert parsed,
    verified.reception.packet = packet ∧ parseAdvertFromPacket library packet = some advert ∧
      advert.parsed = some parsed ∧ parsed.name = some entry.2.name ∧ entry.2.name ≠ [] ∧
      parsed.type = entry.2.type ∧ Text.upperHex advert.publicKey = entry.1

structure RegistryIntegrity (library : PacketLibrary) (world : RegistryWorld) : Prop where
  shown : ∀ entry ∈ world.nodes, ShowsAdvert library world entry
  oneRow : (world.nodes.map Prod.fst).Nodup
  firstHeard : ∀ entry ∈ world.nodes,
    (world.storedOf entry.1).head?.map VerifiedAdvert.verifiedAt = some entry.2.firstHeardAt

/-- The result of a call which is to be stored. -/
def RegistryEvent.stores : RegistryEvent → Bool
  | .verificationResolves _ verified _ storeThrows => verified && !storeThrows
  | _ => false

namespace RegistryLedger

variable {world after : RegistryWorld} {event : RegistryEvent}

theorem oneRow (ledger : RegistryLedger library [] world) : (world.nodes.map Prod.fst).Nodup := by
  have empty : (([] : NodeTable).map Prod.fst).Nodup := List.nodup_nil
  rw [ledger.table]
  exact nodup_upsertNodes empty _

/-- Every row is of a node which was stored, first and last by two of its upserts. -/
theorem stored_of_row (ledger : RegistryLedger library [] world) {entry : Text × StoredNode}
    (entryMem : entry ∈ world.nodes) :
    ∃ first last, (world.storedOf entry.1).head? = some first ∧
      (world.storedOf entry.1).getLast? = some last ∧ last.name = entry.2.name ∧
      last.type = entry.2.type ∧ first.verifiedAt = entry.2.firstHeardAt ∧
      last.verifiedAt = entry.2.lastHeardAt := by
  have found := find?_eq_some_of_mem ledger.oneRow entryMem
  rw [ledger.table] at found
  rcases row_of_hearings found with ⟨first, last, isFirst, isLast, name, type, firstAt, lastAt⟩
  rw [world.hearingsOf_stored, List.head?_map, Option.map_eq_some_iff] at isFirst
  rw [world.hearingsOf_stored, List.getLast?_map, Option.map_eq_some_iff] at isLast
  rcases isFirst with ⟨first, isFirst, rfl⟩
  rcases isLast with ⟨last, isLast, rfl⟩
  exact ⟨first, last, isFirst, isLast, name.symm, type.symm, firstAt.symm, lastAt.symm⟩

theorem shown (ledger : RegistryLedger library [] world) {entry : Text × StoredNode}
    (entryMem : entry ∈ world.nodes) : ShowsAdvert library world entry := by
  rcases ledger.stored_of_row entryMem with ⟨_, last, _, isLast, name, type, _, _⟩
  have lastMem := List.mem_filter.mp (List.mem_of_getLast? isLast)
  have verifiedMem := ledger.stored.subset lastMem.1
  rcases ledger.verified last verifiedMem with ⟨received, advert, parsed, named⟩
  have key := of_decide_eq_true lastMem.2
  simp only [Advert.named?, Option.bind_eq_some_iff] at named
  rcases named with ⟨data, dataMem, text, textMem, advertOf⟩
  split at advertOf
  · rename_i nonempty
    simp only [Option.some.injEq] at advertOf
    have publicKey := congrArg NamedAdvert.publicKeyHex advertOf
    have nameOf : text = entry.2.name := (congrArg NamedAdvert.name advertOf).trans name
    have typeOf : data.type = entry.2.type := (congrArg NamedAdvert.type advertOf).trans type
    refine ⟨last, verifiedMem, last.reception.packet, List.mem_of_getElem? received, advert, data,
      rfl, parsed, dataMem, ?_, ?_, typeOf, publicKey.trans key⟩
    · rw [textMem, nameOf]
    · rw [← nameOf]
      exact nonempty
  · cases advertOf

theorem integrity (ledger : RegistryLedger library [] world) :
    RegistryIntegrity library world where
  shown := fun _ entryMem => ledger.shown entryMem
  oneRow := ledger.oneRow
  firstHeard := by
    intro entry entryMem
    rcases ledger.stored_of_row entryMem with ⟨first, _, isFirst, _, _, _, firstAt, _⟩
    rw [isFirst, Option.map_some, firstAt]

theorem first_le_last (ledger : RegistryLedger library [] world) (chronology : Chronology world)
    {entry : Text × StoredNode} (entryMem : entry ∈ world.nodes) :
    entry.2.firstHeardAt ≤ entry.2.lastHeardAt := by
  rcases ledger.stored_of_row entryMem with
    ⟨first, last, isFirst, isLast, _, _, firstAt, lastAt⟩
  rw [← firstAt, ← lastAt]
  have ordered := (chronology.ordered.sublist ledger.stored).sublist
    (List.filter_sublist : (world.storedOf entry.1).Sublist world.stored)
  exact le_getLast_of_pairwise ordered isLast first (List.mem_of_head? isFirst)

end RegistryLedger

theorem nodes_of_not_stores {world after : RegistryWorld} {event : RegistryEvent}
    (stepped : world.step library event = some after) (not_stores : event.stores = false) :
    after.nodes = world.nodes := by
  cases registryStep_of_step stepped with
  | stored reception now waits => cases not_stores
  | _ => rfl

theorem firstHeardAt_step {world after : RegistryWorld} {event : RegistryEvent}
    (stepped : world.step library event = some after) {publicKeyHex : Text}
    {node : StoredNode} (found : find? publicKeyHex world.nodes = some node) :
    ∃ later, find? publicKeyHex after.nodes = some later ∧
      later.firstHeardAt = node.firstHeardAt := by
  cases registryStep_of_step stepped with
  | stored reception now waits =>
      simp only [find?_upsertNode]
      split
      · rw [found]
        exact ⟨_, rfl, rfl⟩
      · exact ⟨node, found, rfl⟩
  | _ => exact ⟨node, found, rfl⟩

theorem firstHeardAt_run {world after : RegistryWorld}
    {condition : RegistryWorld → RegistryEvent → Prop}
    (lead : (nodeRegistrySystem library).Leads condition world after) {publicKeyHex : Text}
    {node : StoredNode} (found : find? publicKeyHex world.nodes = some node) :
    ∃ later, find? publicKeyHex after.nodes = some later ∧
      later.firstHeardAt = node.firstHeardAt := by
  apply lead.invariant
  · rintro before event after ⟨middle, middleFound, same⟩ _ stepped
    rcases firstHeardAt_step stepped middleFound with ⟨later, laterFound, kept⟩
    exact ⟨later, laterFound, kept.trans same⟩
  · exact ⟨node, found, rfl⟩

/-- Every row shows one advert that was received and verified and has a name, each node has one
row, `firstHeardAt` is the time of its first upsert and never changes, and an advert which is
rejected or not stored changes no row. -/
theorem node_registry_integrity {world : RegistryWorld}
    (reached : (nodeRegistrySystem library).Reachable world) :
    RegistryIntegrity library world ∧
      (∀ after, (nodeRegistrySystem library).Leads EventSystem.anyStep world after →
        ∀ entry ∈ world.nodes, ∃ later, find? entry.1 after.nodes = some later ∧
          later.firstHeardAt = entry.2.firstHeardAt) ∧
      ((nodeRegistrySystem library).ReachableWhen nonDecreasingClock world →
        ∀ entry ∈ world.nodes, entry.2.firstHeardAt ≤ entry.2.lastHeardAt) ∧
      (∀ event after, world.step library event = some after → event.stores = false →
        after.nodes = world.nodes) := by
  have ledger := RegistryLedger.reachable reached
  refine ⟨ledger.integrity, ?_, ?_, fun _ _ => nodes_of_not_stores⟩
  · intro after lead entry entryMem
    exact firstHeardAt_run lead (find?_eq_some_of_mem ledger.oneRow entryMem)
  · intro monotone entry entryMem
    exact ledger.first_le_last (Chronology.reachable monotone) entryMem

/-- The library on frames of route type FLOOD without hops, and on adverts without a position. -/
def floodFrames : PacketLibrary where
  packetFromBytes
    | header :: _ :: payload =>
        if header.toNat % 4 = 1 then some { payloadType := header.toNat / 4 % 16, payload }
        else none
    | _ => none
  advertFromBytes payload :=
    match payload.drop 100 with
    | [] => none
    | flags :: appData =>
        some
          { publicKey := payload.take 32
            parsed := some
              { name :=
                  if flags.toNat < 0x80 then none
                  else some (appData.map fun byte => Char.ofNat byte.toNat)
                type := some (if flags.toNat % 16 = 2 then "REPEATER" else "CHAT").toList } }

/-- The frame of a repeater's advert. -/
def advertFrame (keyByte : UInt8) (name : Text) : DecodedPacket where
  packetType := some ['4']
  raw := Text.hex ([0x11, 0] ++ List.replicate 32 keyByte ++ List.replicate 68 0x11 ++ [0x82] ++
    Text.utf8 name)

/-- A node heard twice, its second upsert failing, and a forged advert. -/
def registryRun : Option RegistryWorld :=
  (nodeRegistrySystem floodFrames).run nonDecreasingClock (.started [] 0)
    [.packetReceived (advertFrame 0xE8 ['O', 'l', 'd']) 10,
      .packetReceived (advertFrame 0xE8 ['N', 'e', 'w']) 20,
      .packetReceived (advertFrame 0x5C ['F', 'a', 'l', 's', 'e']) 30,
      .verificationResolves 0 true 40 false, .verificationResolves 2 false 50 false,
      .verificationResolves 1 true 60 true]

theorem registryRun_isSome : registryRun.isSome := by decide +kernel

theorem node_registry_integrity_of_two :
    RegistryIntegrity floodFrames (registryRun.get registryRun_isSome) ∧
      (∀ entry ∈ (registryRun.get registryRun_isSome).nodes,
        entry.2.firstHeardAt ≤ entry.2.lastHeardAt) ∧
      (registryRun.get registryRun_isSome).nodes.length = 1 := by
  have monotone : (nodeRegistrySystem floodFrames).ReachableWhen nonDecreasingClock
      (registryRun.get registryRun_isSome) := by
    apply EventSystem.reachableWhen_get
    exact ⟨0, rfl⟩
  rcases node_registry_integrity (monotone.weaken fun _ _ _ => trivial) with
    ⟨integrity, _, ordered, _⟩
  exact ⟨integrity, ordered monotone, by decide +kernel⟩

end MeshcoreObserver
