import MeshcoreObserver.Bots.BotRuns
import MeshcoreObserver.Bots.ChannelKey

/-!
# A bot and its own replies

A reply goes out without a sender, so its rebroadcasts are meant to be ignored
for the lack of one. The sender of a text is guessed, however: a reply which
itself reads like a command behind a plausible name is taken for a message of
that name. Whether a bot ignores every later rebroadcast of a reply is decided
by the text of the reply and the commands of the bot.

The cryptographic functions and the packet parser enter through what is
documented of them: decryption undoes encryption, digests have their length, and
a flooded frame carries at most 63 hops.
-/

namespace MeshcoreObserver

open Transition

/-- The frame of a group text that was flooded along a path. -/
def floodedGroupText (path payload : List UInt8) : List UInt8 :=
  0x15 :: UInt8.ofNat path.length :: (path ++ payload)

/-- The plaintext of a message: its header, its text, and NULs up to a whole block. -/
def encodePlaintext (header : List UInt8) (message : Text) : List UInt8 :=
  header ++ message.utf8 ++
    List.replicate ((16 - (header ++ message.utf8).length % 16) % 16) 0

/-- The payload of a group text: the channel hash, the MAC and the ciphertext. -/
def groupTextPayload (runtime : BotRuntime) (encrypt : List UInt8 → List UInt8 → List UInt8)
    (key16 plaintext : List UInt8) : List UInt8 :=
  (runtime.sha256 key16).take 1 ++
    (calculateMac runtime.cipher (encrypt key16 plaintext) key16 ++ encrypt key16 plaintext)

/-- What is documented of the functions a bot calls. -/
structure BotRuntime.Documented (runtime : BotRuntime)
    (encrypt : List UInt8 → List UInt8 → List UInt8) : Prop where
  sha256_length : ∀ bytes, (runtime.sha256 bytes).length = 32
  hmacSha256_length : ∀ key bytes, (runtime.cipher.hmacSha256 key bytes).length = 32
  encrypt_length : ∀ key plaintext, key.length = 16 → plaintext.length % 16 = 0 →
    (encrypt key plaintext).length = plaintext.length
  decrypt_encrypt : ∀ key plaintext, key.length = 16 → plaintext.length % 16 = 0 →
    runtime.cipher.aes128EcbDecrypt key (encrypt key plaintext) = some plaintext
  fromBytes_flooded : ∀ path payload, path.length ≤ 63 →
    ∃ packet, runtime.fromBytes (floodedGroupText path payload) = some packet ∧
      packet.payloadType = payloadTypeGrpTxt ∧ packet.routeType = "FLOOD".toList ∧
      packet.pathHashCount = path.length ∧ packet.payload = payload
  pathHashCount_le : ∀ bytes packet, runtime.fromBytes bytes = some packet →
    packet.pathHashCount ≤ 63

/-- A group text on the bot's channel with a valid MAC whose text is the message alone, up to the
message's first NUL. -/
structure Carries (runtime : BotRuntime) (bot : ChannelBot) (packet : Packet) (message : Text) :
    Prop where
  groupText : packet.payloadType = payloadTypeGrpTxt
  channel : some (Text.hex (packet.payload.take 1)) = bot.channelHash
  mac : calculateMac runtime.cipher (packet.payload.drop 3) bot.channelSecret =
    (packet.payload.drop 1).take 2
  text : ∃ plaintext,
    runtime.cipher.aes128EcbDecrypt bot.channelSecret (packet.payload.drop 3) = some plaintext ∧
      5 ≤ plaintext.length ∧ plaintextText plaintext = message.takeWhile fun char => char ≠ '\x00'

/-- A bot sends a message as the reply to some queued item, with any values. -/
def Sends (runtime : BotRuntime) (bot : ChannelBot) (message : Text) (after : ChannelBot) : Prop :=
  ∃ registry reporter item renderedAt sentAt degraded,
    bot.renderQueuedReply runtime registry reporter item renderedAt = .ok ⟨message, degraded⟩ ∧
      after = bot.replySent item message sentAt

/-- Along every run from a state, the bot enqueues nothing for a frame that carries the
message. -/
def IgnoresReply (runtime : BotRuntime) (config : BotConfig) (bot : ChannelBot) (message : Text) :
    Prop :=
  ∀ later, (botSystem runtime config).Leads EventSystem.anyStep bot later →
    ∀ push packet repeatCheckedAt deduplicatedAt, runtime.fromBytes push.raw = some packet →
      Carries runtime later packet message →
        (later.handleRawPacket runtime push repeatCheckedAt deduplicatedAt).2 = none

/-- A message with a plausible name, a colon and a blank in front of a text some command
matches. -/
def ReadsAsCommand (commands : List CommandConfig) (message : Text) : Prop :=
  ∃ sender content found,
    (message.takeWhile fun char => char ≠ '\x00') = sender ++ (": ".toList ++ content) ∧
      IsSenderName sender ∧ matchCommand commands content = .ok (some found)

theorem hopCountFor_le (packet : Packet) : hopCountFor packet ≤ packet.pathHashCount := by
  simp only [hopCountFor]
  split
  · exact Nat.zero_le _
  · exact Nat.le_refl _

theorem length_encodePlaintext (header : List UInt8) (message : Text) :
    (encodePlaintext header message).length % 16 = 0 := by
  simp only [encodePlaintext, List.length_append, List.length_replicate]
  omega

theorem le_length_encodePlaintext {header : List UInt8} (five : header.length = 5)
    (message : Text) : 16 ≤ (encodePlaintext header message).length := by
  have whole := length_encodePlaintext header message
  have some : 5 ≤ (encodePlaintext header message).length := by
    simp only [encodePlaintext, List.length_append]
    omega
  omega

section Documented

variable {runtime : BotRuntime} {encrypt : List UInt8 → List UInt8 → List UInt8}
  {config : BotConfig} {bot : ChannelBot} {message : Text}

theorem readsAsCommand_of_enqueued (documented : runtime.Documented encrypt)
    (configured : bot.Configured config) {push : RawPush} {packet : Packet}
    {repeatCheckedAt deduplicatedAt : Int} {reply : QueuedReply}
    (parsed : runtime.fromBytes push.raw = some packet)
    (carries : Carries runtime bot packet message)
    (enqueued : (bot.handleRawPacket runtime push repeatCheckedAt deduplicatedAt).2 =
      some reply) :
    config.enabled = true ∧ config.minHops ≤ 63 ∧
      ReadsAsCommand (commandMap config.commands) message := by
  rcases ChannelBot.plaintext_of_enqueued enqueued with
    ⟨heard, plaintext, sender, found, ready, heardParsed, decrypts, named, matched, enough⟩
  cases parsed.symm.trans heardParsed
  rcases carries.text with ⟨carried, carriedDecrypts, _, text⟩
  cases carriedDecrypts.symm.trans decrypts
  have hops := hopCountFor_le packet
  have bound := documented.pathHashCount_le push.raw packet parsed
  have split : splitSender (plaintextText plaintext) =
      (some sender, (parsePlaintext plaintext).text) :=
    Prod.ext named rfl
  rw [splitSender_eq_some, text] at split
  refine ⟨configured.ready ready, ?_, sender, _, found, split.1, split.2, ?_⟩
  · rw [← configured.minHops]
    omega
  · rw [← configured.commands]
    exact matched

theorem groupTextPayload_parts (documented : runtime.Documented encrypt)
    (key16 plaintext : List UInt8) :
    (groupTextPayload runtime encrypt key16 plaintext).take 1 = (runtime.sha256 key16).take 1 ∧
      ((groupTextPayload runtime encrypt key16 plaintext).drop 1).take 2 =
        calculateMac runtime.cipher (encrypt key16 plaintext) key16 ∧
      (groupTextPayload runtime encrypt key16 plaintext).drop 3 = encrypt key16 plaintext := by
  have hash : ((runtime.sha256 key16).take 1).length = 1 := by
    rw [List.length_take, documented.sha256_length]
    rfl
  have mac : (calculateMac runtime.cipher (encrypt key16 plaintext) key16).length = 2 := by
    rw [calculateMac, List.length_take, documented.hmacSha256_length]
    rfl
  refine ⟨?_, ?_, ?_⟩
  · rw [groupTextPayload, List.take_left' hash]
  · rw [groupTextPayload, List.drop_left' hash, List.take_left' mac]
  · rw [groupTextPayload, ← List.append_assoc, List.drop_left']
    rw [List.length_append, hash, mac]

theorem carries_groupTextPayload (documented : runtime.Documented encrypt) {header : List UInt8}
    (five : header.length = 5) (secret : bot.channelSecret.length = 16)
    (channel : bot.channelHash = some (channelHashForKey runtime.sha256 bot.channelSecret))
    {packet : Packet} (groupText : packet.payloadType = payloadTypeGrpTxt)
    (payload : packet.payload =
      groupTextPayload runtime encrypt bot.channelSecret (encodePlaintext header message)) :
    Carries runtime bot packet message := by
  rcases groupTextPayload_parts documented bot.channelSecret (encodePlaintext header message) with
    ⟨hash, mac, ciphertext⟩
  have long := le_length_encodePlaintext five message
  refine ⟨groupText, ?_, ?_, encodePlaintext header message, ?_, by omega, ?_⟩
  · rw [payload, hash, channel, channelHashForKey]
  · rw [payload, ciphertext, mac]
  · rw [payload, ciphertext]
    exact documented.decrypt_encrypt _ _ secret (length_encodePlaintext header message)
  · exact plaintextText_encode header message _ five

theorem enqueued_of_carries {push : RawPush} {packet : Packet}
    {repeatCheckedAt deduplicatedAt : Int} (ready : bot.ready = true)
    (received : (normalizeRawPacketEvent push).bind runtime.fromBytes = some packet)
    (carries : Carries runtime bot packet message)
    (blocks : 16 ≤ (packet.payload.drop 3).length ∧ (packet.payload.drop 3).length % 16 = 0)
    (reads : ReadsAsCommand bot.commands message) (enough : bot.minHops ≤ hopCountFor packet)
    (expired : ∀ entry ∈ bot.deduplicator.seenAt,
      entry.2 + bot.deduplicator.ttlMs ≤ deduplicatedAt) :
    (bot.handleRawPacket runtime push repeatCheckedAt deduplicatedAt).2 ≠ none := by
  rcases reads with ⟨sender, content, found, shape, named, matched⟩
  rcases carries.text with ⟨plaintext, decrypts, long, text⟩
  have split : splitSender (plaintextText plaintext) = (some sender, content) := by
    rw [splitSender_eq_some, text]
    exact ⟨shape, named⟩
  rw [ChannelBot.handleRawPacket_eq ready received carries.groupText carries.channel blocks
    carries.mac decrypts long]
  intro ignored
  have refused := ChannelBot.handleDecrypted_snd.mp ignored sender found
    (congrArg Prod.fst split) (by rw [parsePlaintext, split]; exact matched)
  rcases refused with below | duplicate
  · exact absurd below (Nat.not_lt.mpr enough)
  · rw [PacketDeduplicator.isDuplicate_expired expired] at duplicate
    cases duplicate

/-- For every message that reads as a command there is a frame a bot which is ready answers. -/
theorem enqueued_of_readsAsCommand (documented : runtime.Documented encrypt)
    (ready : bot.ready = true) (secret : bot.channelSecret.length = 16)
    (channel : bot.channelHash = some (channelHashForKey runtime.sha256 bot.channelSecret))
    (near : bot.minHops ≤ 63) (reads : ReadsAsCommand bot.commands message) :
    ∃ push packet repeatCheckedAt deduplicatedAt, runtime.fromBytes push.raw = some packet ∧
      Carries runtime bot packet message ∧
      (bot.handleRawPacket runtime push repeatCheckedAt deduplicatedAt).2 ≠ none := by
  rcases bot.deduplicator.exists_expired with ⟨now, expired⟩
  have flooded := documented.fromBytes_flooded (List.replicate bot.minHops 0)
    (groupTextPayload runtime encrypt bot.channelSecret
      (encodePlaintext (List.replicate 5 0) message))
  rw [List.length_replicate] at flooded
  rcases flooded near with ⟨packet, parsed, groupText, route, hops, payload⟩
  have carries : Carries runtime bot packet message :=
    carries_groupTextPayload documented List.length_replicate secret channel groupText payload
  have ciphertext : packet.payload.drop 3 = encrypt bot.channelSecret
      (encodePlaintext (List.replicate 5 0) message) := by
    rw [payload]
    exact (groupTextPayload_parts documented _ _).2.2
  have whole := length_encodePlaintext (List.replicate 5 0) message
  have blocks : 16 ≤ (packet.payload.drop 3).length ∧ (packet.payload.drop 3).length % 16 = 0 := by
    rw [ciphertext, documented.encrypt_length _ _ secret whole]
    exact ⟨le_length_encodePlaintext List.length_replicate message, whole⟩
  have enough : bot.minHops ≤ hopCountFor packet := by
    rw [hopCountFor, if_neg (by rw [route]; decide), hops]
  have received : (normalizeRawPacketEvent ⟨some 0, some 0, _⟩).bind runtime.fromBytes =
      some packet := parsed
  exact ⟨⟨some 0, some 0, _⟩, packet, now, now, parsed, carries,
    enqueued_of_carries ready received carries blocks reads enough expired⟩

theorem leads_ready (runtime : BotRuntime) (configured : bot.Configured config)
    (enabled : config.enabled = true) (secret : List UInt8) :
    ∃ later, (botSystem runtime config).Leads EventSystem.anyStep bot later ∧
      later.Configured config ∧ later.ready = true ∧ later.channelSecret = secret ∧
      later.channelHash = some (channelHashForKey runtime.sha256 secret) := by
  have subscribed : bot.enabled = true := configured.enabled.trans enabled
  have ran : (botSystem runtime config).run EventSystem.anyStep bot
      [.setupStarts, .setupFinishes (some (0, secret))] =
        some (bot.setupStarts.setupFinishes runtime (some (0, secret))) := by
    simp [EventSystem.run, botSystem, ChannelBot.step, EventSystem.anyStep, ChannelBot.setupStarts,
      subscribed]
  have lead := EventSystem.leads_of_run ran
  exact ⟨_, lead, configured.of_leads lead, rfl, rfl, rfl⟩

/-- A bot ignores every later rebroadcast of a reply it has sent exactly when it is disabled, no
frame can have travelled far enough for it, or the reply does not read as one of its commands. -/
theorem ignoresReply_iff {filePath : Text} {file : BotsFile} {bots : List BotConfig}
    {after : ChannelBot} (loaded : loadBotsConfig filePath file = .ok bots)
    (configMem : config ∈ bots) (documented : runtime.Documented encrypt)
    (reachable : (botSystem runtime config).Reachable bot)
    (sends : Sends runtime bot message after) :
    IgnoresReply runtime config after message ↔
      config.enabled = false ∨ 63 < config.minHops ∨ ¬ReadsAsCommand config.commands message := by
  rcases sends with ⟨registry, reporter, item, renderedAt, sentAt, degraded, renders, rfl⟩
  have sent : bot.step runtime (.replySent registry reporter item renderedAt sentAt) =
      some (bot.replySent item message sentAt) := by
    simp only [ChannelBot.step, renders]
  have configured := (ChannelBot.configured_of_reachable reachable).step sent
  have commands : commandMap config.commands = config.commands :=
    commandMap_eq ((accepted_of_loadBotsConfig loaded).2 config configMem).2.1
  constructor
  · intro ignores
    by_contra answers
    rw [not_or, not_or, not_not, Nat.not_lt, Bool.not_eq_false] at answers
    rcases answers with ⟨enabled, near, reads⟩
    rcases leads_ready runtime configured enabled
      (deriveHashtagChannelKey runtime.toLowerCase runtime.sha256 config.channel) with
      ⟨later, lead, kept, ready, key, channel⟩
    have secret : later.channelSecret.length = 16 := by
      rw [key, deriveHashtagChannelKey, List.length_take, documented.sha256_length]
      rfl
    rw [← key] at channel
    rw [← commands, ← kept.commands] at reads
    rw [← kept.minHops] at near
    rcases enqueued_of_readsAsCommand documented ready secret channel near reads with
      ⟨push, packet, repeatCheckedAt, deduplicatedAt, parsed, carries, enqueued⟩
    exact enqueued (ignores later lead push packet repeatCheckedAt deduplicatedAt parsed carries)
  · intro condition later lead push packet repeatCheckedAt deduplicatedAt parsed carries
    by_contra answered
    rcases Option.ne_none_iff_exists'.mp answered with ⟨reply, enqueued⟩
    rcases readsAsCommand_of_enqueued documented (configured.of_leads lead) parsed carries
      enqueued with ⟨enabled, near, reads⟩
    rw [commands] at reads
    rcases condition with disabled | far | silent
    · rw [enabled] at disabled
      cases disabled
    · exact absurd far (Nat.not_lt.mpr near)
    · exact silent reads

end Documented

/-- The `!stats` command of the shipped configuration. -/
def statsCommand : CommandConfig :=
  { CommandConfig.bare "!stats".toList (some .stats) with
    response := some
      ("📊 \x7brange\x7d: \x7bpacketsReceived\x7d pkts, \x7bpacketsDecoded\x7d decoded, ".toList ++
        "\x7brepliesSent\x7d replies, \x7brepeatersHeard\x7d repeaters".toList)
    usageResponse := some "⚠️ usage: !stats <1h|6h|1d|3d|all>".toList }

def statsBot : BotConfig :=
  { name := "echo-bot".toList, channel := "#echo".toList, enabled := true, minHops := 1
    maxMessageBytes := some 120, commands := [statsCommand] }

def usageReply : Text := "⚠️ usage: !stats <1h|6h|1d|3d|all>".toList

def echoKey : List UInt8 :=
  [0x5D, 0x25, 0xCF, 0x40, 0xB1, 0xF5, 0xB4, 0xA7, 0xEB, 0x0C, 0xF9, 0x70, 0x36, 0x34, 0xA9, 0x48]

def usagePlaintext : List UInt8 := encodePlaintext [0x00, 0xE0, 0x4D, 0x68, 0x00] usageReply

/-- The usage as it is encrypted for `#echo`. -/
def usageCiphertext : List UInt8 :=
  [0xBE, 0x22, 0x54, 0x1A, 0xF5, 0x33, 0x33, 0xC1, 0xD7, 0xCE, 0xBF, 0x8E, 0x3D, 0x45, 0xE0, 0x24,
    0x95, 0x42, 0x59, 0xE7, 0x46, 0x21, 0x06, 0x24, 0xB7, 0x61, 0x99, 0x17, 0x8E, 0x0D, 0x14, 0xA1,
    0x9E, 0xE2, 0xE2, 0x4C, 0x99, 0xF8, 0x59, 0x69, 0xDA, 0x07, 0x04, 0x6F, 0x09, 0x69, 0xE1, 0x01]

def usagePayload : List UInt8 := 0x18 :: 0xA4 :: 0x55 :: usageCiphertext

/-- SHA-256 of what a bot on `#echo` digests when it hears the usage. -/
def echoSha256 (bytes : List UInt8) : List UInt8 :=
  if bytes = Text.utf8 "#echo".toList then
    echoKey ++ [0xFA, 0xE1, 0x92, 0x2D, 0xF9, 0x60, 0xE9, 0x3C,
      0xE6, 0x47, 0x8C, 0xC8, 0xE0, 0x9E, 0x7A, 0xE0]
  else if bytes = echoKey then
    [0x18, 0xCA, 0x65, 0xCF, 0x17, 0x1E, 0x53, 0x34, 0xA3, 0x45, 0x5B, 0xD3, 0x92, 0x97, 0x83, 0x81,
      0x0A, 0xE0, 0xF4, 0xF2, 0x73, 0xF5, 0xED, 0xEA, 0x66, 0x4D, 0xD4, 0x95, 0xD6, 0x5C, 0xF0, 0x3C]
  else if bytes = 0x05 :: usagePayload then
    [0x35, 0x0E, 0xFD, 0x1F, 0xB9, 0x4D, 0xA4, 0xAE, 0x67, 0xBF, 0x42, 0xC1, 0xC4, 0xCE, 0xA8, 0xD0,
      0x9D, 0xB7, 0x5C, 0xD3, 0xE2, 0x71, 0x1A, 0x26, 0x1B, 0x96, 0xB8, 0x2B, 0x57, 0xE2, 0x3B, 0xDD]
  else List.replicate 32 0

def echoHmacSha256 (key bytes : List UInt8) : List UInt8 :=
  if key = echoKey ++ List.replicate 16 0 ∧ bytes = usageCiphertext then
    [0xA4, 0x55, 0xB8, 0x7E, 0xAC, 0xB1, 0x8C, 0xD2, 0xD5, 0x4E, 0xEB, 0xEA, 0xC9, 0x64, 0xC3, 0x83,
      0x50, 0xB1, 0xC3, 0xAC, 0x19, 0xDE, 0xE8, 0xBE, 0xCF, 0x25, 0xC4, 0x5B, 0xA2, 0x3B, 0x29, 0xBC]
  else List.replicate 32 0

/-- AES-128 on the usage: the plaintext and the ciphertext change places. -/
def echoEncrypt (key bytes : List UInt8) : List UInt8 :=
  if key ≠ echoKey then bytes
  else if bytes = usagePlaintext then usageCiphertext
  else if bytes = usageCiphertext then usagePlaintext
  else bytes

def splitPath (hashSize : Nat) : Nat → List UInt8 → List (List UInt8)
  | 0, _ => []
  | count + 1, path => path.take hashSize :: splitPath hashSize count (path.drop hashSize)

/-- `Packet.fromBytes` behind the header and the transport codes of a frame. -/
def parsePath (payloadType : Nat) (routeType : Text) : List UInt8 → Option Packet
  | [] => none
  | pathLen :: bytes =>
      let count := pathLen.toNat % 64
      let hashSize := pathLen.toNat / 64 + 1
      if bytes.length < count * hashSize then none
      else
        some
          { payloadType
            routeType
            pathLen := pathLen.toNat
            pathHashCount := count
            pathHashes := splitPath hashSize count bytes
            payload := bytes.drop (count * hashSize) }

def parseFrame : List UInt8 → Option Packet
  | [] => none
  | header :: bytes =>
      let payloadType := header.toNat / 4 % 16
      match header.toNat % 4 with
      | 0 => parsePath payloadType "TRANSPORT_FLOOD".toList (bytes.drop 4)
      | 1 => parsePath payloadType "FLOOD".toList bytes
      | 2 => parsePath payloadType "DIRECT".toList bytes
      | _ => parsePath payloadType "TRANSPORT_DIRECT".toList (bytes.drop 4)

/-- A runtime that behaves as the real one does on the usage. -/
def echoRuntime : BotRuntime :=
  { fromBytes := parseFrame
    sha256 := echoSha256
    cipher :=
      { hmacSha256 := echoHmacSha256
        aes128EcbDecrypt := fun key bytes =>
          if key.length = 16 ∧ bytes.length % 16 = 0 then some (echoEncrypt key bytes) else none }
    toLowerCase := List.map Char.toLower }

theorem length_echoEncrypt (key bytes : List UInt8) :
    (echoEncrypt key bytes).length = bytes.length := by
  have same : usageCiphertext.length = usagePlaintext.length := by decide
  simp only [echoEncrypt]
  split
  · rfl
  · split
    · rename_i plain
      rw [plain, same]
    · split
      · rename_i cipher
        rw [cipher, same]
      · rfl

theorem echoEncrypt_echoEncrypt (key bytes : List UInt8) :
    echoEncrypt key (echoEncrypt key bytes) = bytes := by
  have apart : usageCiphertext ≠ usagePlaintext := by decide
  by_cases known : key = echoKey
  · by_cases plain : bytes = usagePlaintext
    · simp [echoEncrypt, known, plain, apart]
    · by_cases cipher : bytes = usageCiphertext
      · simp [echoEncrypt, known, cipher, apart]
      · simp [echoEncrypt, known, plain, cipher]
  · simp [echoEncrypt, known]

theorem pathHashCount_parsePath {payloadType : Nat} {routeType : Text} {bytes : List UInt8}
    {packet : Packet} (parsed : parsePath payloadType routeType bytes = some packet) :
    packet.pathHashCount ≤ 63 := by
  cases bytes with
  | nil => cases parsed
  | cons pathLen bytes =>
      simp only [parsePath] at parsed
      split at parsed
      · cases parsed
      · cases parsed
        exact Nat.le_of_lt_succ (Nat.mod_lt _ (by decide))

theorem echoRuntime_documented : echoRuntime.Documented echoEncrypt where
  sha256_length bytes := by
    simp only [echoRuntime, echoSha256]
    repeat' split
    all_goals rfl
  hmacSha256_length key bytes := by
    simp only [echoRuntime, echoHmacSha256]
    split
    · rfl
    · rfl
  encrypt_length key plaintext _ _ := length_echoEncrypt key plaintext
  decrypt_encrypt key plaintext secret blocks := by
    simp only [echoRuntime, length_echoEncrypt, echoEncrypt_echoEncrypt, secret, blocks, and_self,
      if_true]
  fromBytes_flooded path payload short := by
    have length : (UInt8.ofNat path.length).toNat = path.length := Utf8.toNat_ofNat (by omega)
    have count : path.length % 64 = path.length := Nat.mod_eq_of_lt (by omega)
    have single : path.length / 64 + 1 = 1 := by omega
    have enough : ¬(path ++ payload).length < path.length := by
      rw [List.length_append]
      omega
    have parsed : echoRuntime.fromBytes (floodedGroupText path payload) =
        parsePath 5 "FLOOD".toList (UInt8.ofNat path.length :: (path ++ payload)) := rfl
    simp only [parsed, parsePath, length, count, single, Nat.mul_one, if_neg enough,
      List.drop_left]
    exact ⟨_, rfl, rfl, rfl, rfl, rfl⟩
  pathHashCount_le bytes packet parsed := by
    cases bytes with
    | nil => cases parsed
    | cons header bytes =>
        simp only [echoRuntime, parseFrame] at parsed
        split at parsed
        · exact pathHashCount_parsePath parsed
        · exact pathHashCount_parsePath parsed
        · exact pathHashCount_parsePath parsed
        · exact pathHashCount_parsePath parsed

def statsBotReady : ChannelBot :=
  ((botSystem echoRuntime statsBot).run EventSystem.anyStep (.new statsBot 30000)
    [.setupStarts, .setupFinishes (some (0, echoKey))]).get rfl

theorem statsBotReady_reachable : (botSystem echoRuntime statsBot).Reachable statsBotReady := by
  refine EventSystem.reachableWhen_get ?_ _
  exact ⟨30000, rfl⟩

def statsItem : QueuedReply :=
  { botName := "echo-bot".toList, channel := "#echo".toList, trigger := "!stats".toList
    sender := "Alice".toList, hopCount := 1, path := "AB".toList
    hash := "3f09d5c7a1b2e864".toList, handlerState := ⟨.stats, some []⟩ }

def statsBotReplied : ChannelBot := statsBotReady.replySent statsItem usageReply 1000

theorem statsBot_sends : Sends echoRuntime statsBotReady usageReply statsBotReplied :=
  ⟨⟨fun query => ⟨.notFound, none, none, some query⟩, 0⟩, ⟨none, fun _ => []⟩, statsItem, 900, 1000,
    false, by decide +kernel, rfl⟩

theorem statsBot_loaded :
    loadBotsConfig "bots.config.json".toList (.bots [statsBot] []) = .ok [statsBot] := by
  decide +kernel

theorem ignoresReply_iff_of_usage :
    IgnoresReply echoRuntime statsBot statsBotReplied usageReply ↔
      statsBot.enabled = false ∨ 63 < statsBot.minHops ∨
        ¬ReadsAsCommand statsBot.commands usageReply :=
  ignoresReply_iff statsBot_loaded (List.mem_singleton_self statsBot) echoRuntime_documented
    statsBotReady_reachable statsBot_sends

def usagePush : RawPush := ⟨some 6, some (-87), floodedGroupText [0xAB] usagePayload⟩

def usagePacket : Packet := ⟨5, "FLOOD".toList, 1, 1, [[0xAB]], usagePayload⟩

theorem usagePayload_eq : usagePayload = groupTextPayload echoRuntime echoEncrypt echoKey
    (encodePlaintext [0x00, 0xE0, 0x4D, 0x68, 0x00] usageReply) := by
  have hash : (echoRuntime.sha256 echoKey).take 1 = [0x18] := rfl
  have encrypted : echoEncrypt echoKey
      (encodePlaintext [0x00, 0xE0, 0x4D, 0x68, 0x00] usageReply) = usageCiphertext :=
    rfl
  have mac : calculateMac echoRuntime.cipher usageCiphertext echoKey = [0xA4, 0x55] := rfl
  rw [groupTextPayload, encrypted, mac, hash]
  rfl

theorem usageReply_reads : ReadsAsCommand [statsCommand] usageReply := by
  refine ⟨"⚠️ usage".toList, "!stats <1h|6h|1d|3d|all>".toList,
    ⟨statsCommand, ⟨.stats, some "<1h|6h|1d|3d|all>".toList⟩⟩, ?_, ?_, ?_⟩
  · decide
  · decide
  · decide +kernel

/-- The usage of the shipped configuration is taken for a `!stats` of a sender called
"⚠️ usage". -/
theorem usage_answered :
    ¬∀ (runtime : BotRuntime) (encrypt : List UInt8 → List UInt8 → List UInt8)
      (filePath : Text) (file : BotsFile) (bots : List BotConfig) (config : BotConfig)
      (bot after : ChannelBot) (message : Text), loadBotsConfig filePath file = .ok bots →
        config ∈ bots → runtime.Documented encrypt → (botSystem runtime config).Reachable bot →
          Sends runtime bot message after → IgnoresReply runtime config after message := by
  intro always
  have ignores := always echoRuntime echoEncrypt _ _ _ statsBot statsBotReady statsBotReplied
    usageReply statsBot_loaded (List.mem_singleton_self statsBot) echoRuntime_documented
    statsBotReady_reachable statsBot_sends
  have received : echoRuntime.fromBytes usagePush.raw = some usagePacket := rfl
  have carries : Carries echoRuntime statsBotReplied usagePacket usageReply :=
    carries_groupTextPayload echoRuntime_documented rfl rfl rfl rfl usagePayload_eq
  have enqueued : (statsBotReplied.handleRawPacket echoRuntime usagePush 2000 2000).2 ≠ none :=
    enqueued_of_carries rfl received carries (by decide) usageReply_reads (by decide)
      (by intro entry entryMem; cases entryMem)
  exact enqueued (ignores statsBotReplied Relation.ReflTransGen.refl usagePush usagePacket 2000 2000
    received carries)

end MeshcoreObserver
