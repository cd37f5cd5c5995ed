import MeshcoreObserver.Mqtt.LetsMeshAuth
import MeshcoreObserver.Mqtt.TokenRefreshLoop

/-!
# The token of a broker

One `LetsMeshAuth` with its cached token, the calls of `createToken` that wait for
the radio, and the timer of the refresh loop. Calls may overlap, and the radio may
answer them in any order: each replaces the cached token by its own.

In every run a token that is handed out names the device it was signed on, and is
either new or comfortably valid. If the timer fires on time and the radio signs in
time, the cached token is replaced before it expires.
-/

namespace MeshcoreObserver

open JsonText Transition

/-- A call of `createToken`, from the request to the radio on. -/
structure Signing where
  publicKey : List UInt8
  startedAt : Int
  settled : Bool
  deriving DecidableEq, Repr

/-- What a call resolves with, and when it was made. -/
inductive HandedOut where
  | cached (token : Text) (thresholdSeconds askedAt : Int)
  | signed (token : Text) (askedAt : Int)
  deriving DecidableEq, Repr

structure LetsMeshWorld where
  device : Option (List UInt8)
  now : Int
  currentToken : Option Text
  expiresAt : Option Int
  signings : List Signing
  checkedAt : Int
  handedOut : List HandedOut
  deriving DecidableEq, Repr

inductive LetsMeshEvent where
  | radioConnected (publicKey : List UInt8)
  | passes (now : Int)
  | refresh (thresholdSeconds : Int)
  | check
  | signed (number : Nat) (signature : List UInt8)
  | signingFails (number : Nat)
  deriving DecidableEq, Repr

namespace LetsMeshWorld

variable (auth : LetsMeshAuth)

def started (now : Int) : LetsMeshWorld :=
  { device := none
    now
    currentToken := none
    expiresAt := none
    signings := []
    checkedAt := now
    handedOut := [] }

/-- `createToken()` up to its `await`. Without a device it rejects. -/
def createToken (world : LetsMeshWorld) : LetsMeshWorld :=
  match world.device with
  | none => world
  | some publicKey =>
      { world with signings := world.signings ++ [⟨publicKey, world.now, false⟩] }

/-- The token `refreshIfNeeded` returns at once. -/
def usableToken (world : LetsMeshWorld) (thresholdSeconds : Int) : Option Text :=
  match world.currentToken, world.expiresAt with
  | some token, some expiresAt =>
      if token ≠ [] ∧ expiresAt ≠ 0 ∧ world.now / 1000 < expiresAt - thresholdSeconds then
        some token
      else none
  | _, _ => none

def refreshIfNeeded (world : LetsMeshWorld) (thresholdSeconds : Int) : LetsMeshWorld :=
  match world.usableToken thresholdSeconds with
  | some token =>
      { world with handedOut := .cached token thresholdSeconds world.now :: world.handedOut }
  | none => world.createToken

/-- The timer of the refresh loop fires. -/
def check (thresholdSeconds : Int) (world : LetsMeshWorld) : LetsMeshWorld :=
  let checked := { world with checkedAt := world.now }
  if refreshDue thresholdSeconds world.expiresAt world.now then
    checked.refreshIfNeeded thresholdSeconds
  else checked

/-- `new Date(expiresAt * 1000)` is a date. Otherwise the log entry throws. -/
def isDate (expiresAt : Int) : Bool := (expiresAt * 1000).natAbs ≤ 8640000000000000

def setSettled (world : LetsMeshWorld) (number : Nat) : LetsMeshWorld :=
  { world with
    signings := world.signings.modify number fun signing => { signing with settled := true } }

/-- The rest of `createToken()` once the radio has signed. -/
def signed (world : LetsMeshWorld) (number : Nat) (signature : List UInt8) :
    Option LetsMeshWorld :=
  match world.signings[number]? with
  | none => none
  | some signing =>
      if signing.settled then none
      else
        let token := auth.token signing.publicKey signing.startedAt signature
        let expiresAt := auth.expiration signing.startedAt
        let cached :=
          { world.setSettled number with currentToken := some token, expiresAt := some expiresAt }
        some
          (if isDate expiresAt then
            { cached with handedOut := .signed token signing.startedAt :: world.handedOut }
          else cached)

def signingFails (world : LetsMeshWorld) (number : Nat) : Option LetsMeshWorld :=
  match world.signings[number]? with
  | none => none
  | some signing => if signing.settled then none else some (world.setSettled number)

def step (thresholdSeconds : Int) (world : LetsMeshWorld) : LetsMeshEvent → Option LetsMeshWorld
  | .radioConnected publicKey => some { world with device := some publicKey }
  | .passes now => some { world with now }
  | .refresh threshold => some (world.refreshIfNeeded threshold)
  | .check => some (world.check thresholdSeconds)
  | .signed number signature => world.signed auth number signature
  | .signingFails number => world.signingFails number

end LetsMeshWorld

/-- Every run of one token, whose loop refreshes it this long before it expires. -/
def letsMeshSystem (auth : LetsMeshAuth) (thresholdSeconds : Int) :
    EventSystem LetsMeshWorld LetsMeshEvent where
  Initial world := ∃ now, world = .started now
  step := LetsMeshWorld.step auth thresholdSeconds

namespace LetsMeshWorld

variable {auth : LetsMeshAuth} {thresholdSeconds : Int} {world after : LetsMeshWorld}

/-- The token of a call of `createToken` made at a time. -/
def SignedAt (auth : LetsMeshAuth) (world : LetsMeshWorld) (token : Text) (startedAt : Int) :
    Prop :=
  ∃ signing ∈ world.signings, signing.startedAt = startedAt ∧
    ∃ signature, token = auth.token signing.publicKey startedAt signature

/-- The token is new, or expires later than the threshold says. -/
def FitToUse (auth : LetsMeshAuth) (world : LetsMeshWorld) : HandedOut → Prop
  | .cached token threshold askedAt => ∃ startedAt, SignedAt auth world token startedAt ∧
      askedAt / 1000 < auth.expiration startedAt - threshold
  | .signed token askedAt => SignedAt auth world token askedAt

structure Consistent (auth : LetsMeshAuth) (world : LetsMeshWorld) : Prop where
  cache : ∀ token, world.currentToken = some token → ∃ startedAt,
    SignedAt auth world token startedAt ∧ world.expiresAt = some (auth.expiration startedAt)
  handedOut : ∀ handed ∈ world.handedOut, FitToUse auth world handed

/-- The same calls, and perhaps more. -/
def Keeps (world after : LetsMeshWorld) : Prop :=
  ∀ signing ∈ world.signings, ∃ kept ∈ after.signings,
    kept.publicKey = signing.publicKey ∧ kept.startedAt = signing.startedAt

theorem SignedAt.keeps {token : Text} {startedAt : Int}
    (signedAt : SignedAt auth world token startedAt) (keeps : Keeps world after) :
    SignedAt auth after token startedAt := by
  rcases signedAt with ⟨signing, signingMem, startedThen, signature, isToken⟩
  rcases keeps signing signingMem with ⟨kept, keptMem, sameKey, sameTime⟩
  exact ⟨kept, keptMem, sameTime.trans startedThen, signature, sameKey ▸ isToken⟩

theorem FitToUse.keeps {handed : HandedOut} (fit : FitToUse auth world handed)
    (keeps : Keeps world after) : FitToUse auth after handed := by
  cases handed with
  | cached token threshold askedAt =>
      rcases fit with ⟨startedAt, signedAt, valid⟩
      exact ⟨startedAt, signedAt.keeps keeps, valid⟩
  | signed token askedAt => exact SignedAt.keeps fit keeps

theorem Keeps.refl (same : after.signings = world.signings) : Keeps world after := by
  intro signing signingMem
  exact ⟨signing, same ▸ signingMem, rfl, rfl⟩

theorem keeps_setSettled (number : Nat) : Keeps world (world.setSettled number) := by
  intro signing signingMem
  rcases List.mem_iff_getElem?.mp signingMem with ⟨other, found⟩
  have kept : (world.setSettled number).signings[other]? =
      some (if number = other then { signing with settled := true } else signing) := by
    rw [setSettled, List.getElem?_modify, found]
    rfl
  refine ⟨_, List.mem_iff_getElem?.mpr ⟨other, kept⟩, ?_⟩
  split
  · exact ⟨rfl, rfl⟩
  · exact ⟨rfl, rfl⟩

theorem createToken_eq (world : LetsMeshWorld) :
    world.createToken = world ∨ ∃ publicKey, world.device = some publicKey ∧
      world.createToken =
        { world with signings := world.signings ++ [⟨publicKey, world.now, false⟩] } := by
  rw [createToken]
  split
  · exact .inl rfl
  · rename_i publicKey known
    exact .inr ⟨publicKey, known, rfl⟩

theorem Consistent.of_keeps (consistent : Consistent auth world) (keeps : Keeps world after)
    (token : after.currentToken = world.currentToken)
    (expiresAt : after.expiresAt = world.expiresAt)
    (handedOut : after.handedOut = world.handedOut) : Consistent auth after where
  cache other cached := by
    rcases consistent.cache other (token ▸ cached) with ⟨startedAt, signedAt, expires⟩
    exact ⟨startedAt, signedAt.keeps keeps, expiresAt.trans expires⟩
  handedOut handed handedMem :=
    (consistent.handedOut handed (handedOut ▸ handedMem)).keeps keeps

theorem Consistent.createToken (consistent : Consistent auth world) :
    Consistent auth world.createToken := by
  rcases createToken_eq world with same | ⟨publicKey, _, added⟩
  · rw [same]
    exact consistent
  · rw [added]
    refine consistent.of_keeps (fun signing signingMem => ?_) rfl rfl rfl
    exact ⟨signing, List.mem_append_left _ signingMem, rfl, rfl⟩

theorem usableToken_eq_some {threshold : Int} {token : Text}
    (usable : world.usableToken threshold = some token) :
    world.currentToken = some token ∧ ∃ expiresAt, world.expiresAt = some expiresAt ∧
      world.now / 1000 < expiresAt - threshold := by
  rw [usableToken] at usable
  split at usable
  · rename_i current expiresAt hasToken hasExpiry
    rw [Option.ite_none_right_eq_some, Option.some.injEq] at usable
    rcases usable with ⟨⟨_, _, valid⟩, rfl⟩
    exact ⟨hasToken, expiresAt, hasExpiry, valid⟩
  · cases usable

theorem Consistent.refreshIfNeeded (consistent : Consistent auth world) (threshold : Int) :
    Consistent auth (world.refreshIfNeeded threshold) := by
  rw [LetsMeshWorld.refreshIfNeeded]
  split
  · rename_i token usable
    rcases usableToken_eq_some usable with ⟨cached, expiresAt, expires, valid⟩
    rcases consistent.cache token cached with ⟨startedAt, signedAt, expiration⟩
    rw [expires, Option.some.injEq] at expiration
    refine ⟨consistent.cache, fun handed handedMem => ?_⟩
    rcases List.mem_cons.mp handedMem with rfl | earlier
    · exact ⟨startedAt, signedAt, expiration ▸ valid⟩
    · exact consistent.handedOut handed earlier
  · exact consistent.createToken

theorem signed_eq_some {number : Nat} {signature : List UInt8}
    (signs : world.signed auth number signature = some after) :
    ∃ signing, world.signings[number]? = some signing ∧ signing.settled = false ∧
      after.device = world.device ∧ after.now = world.now ∧ after.checkedAt = world.checkedAt ∧
      after.signings = (world.setSettled number).signings ∧
      after.currentToken = some (auth.token signing.publicKey signing.startedAt signature) ∧
      after.expiresAt = some (auth.expiration signing.startedAt) ∧
      (after.handedOut = world.handedOut ∨ after.handedOut =
        .signed (auth.token signing.publicKey signing.startedAt signature) signing.startedAt ::
          world.handedOut) := by
  rw [signed] at signs
  split at signs
  · cases signs
  · rename_i signing found
    rw [Option.ite_none_left_eq_some, Option.some.injEq] at signs
    rcases signs with ⟨waiting, rfl⟩
    refine ⟨signing, found, Bool.eq_false_iff.mpr waiting, ?_⟩
    split
    · exact ⟨rfl, rfl, rfl, rfl, rfl, rfl, .inr rfl⟩
    · exact ⟨rfl, rfl, rfl, rfl, rfl, rfl, .inl rfl⟩

theorem Consistent.signed (consistent : Consistent auth world) {number : Nat}
    {signature : List UInt8} (signs : world.signed auth number signature = some after) :
    Consistent auth after := by
  rcases signed_eq_some signs with
    ⟨signing, found, _, _, _, _, signings, token, expires, handedOut⟩
  have keeps : Keeps world after := fun other otherMem => by
    rw [signings]
    exact keeps_setSettled number other otherMem
  have signedAt : SignedAt auth after (auth.token signing.publicKey signing.startedAt signature)
      signing.startedAt :=
    SignedAt.keeps ⟨signing, List.mem_of_getElem? found, rfl, signature, rfl⟩ keeps
  refine ⟨fun other cached => ?_, fun handed handedMem => ?_⟩
  · rw [token, Option.some.injEq] at cached
    exact ⟨signing.startedAt, cached ▸ signedAt, expires⟩
  · rcases handedOut with same | added
    · exact (consistent.handedOut handed (same ▸ handedMem)).keeps keeps
    · rw [added] at handedMem
      rcases List.mem_cons.mp handedMem with rfl | earlier
      · exact signedAt
      · exact (consistent.handedOut handed earlier).keeps keeps

theorem signingFails_eq_some {number : Nat} (fails : world.signingFails number = some after) :
    after = world.setSettled number := by
  rw [signingFails] at fails
  split at fails
  · cases fails
  · rw [Option.ite_none_left_eq_some, Option.some.injEq] at fails
    exact fails.2.symm

theorem Consistent.step (consistent : Consistent auth world) {event : LetsMeshEvent}
    (stepped : world.step auth thresholdSeconds event = some after) : Consistent auth after := by
  cases event with
  | radioConnected publicKey =>
      cases stepped
      exact consistent.of_keeps (Keeps.refl rfl) rfl rfl rfl
  | passes now =>
      cases stepped
      exact consistent.of_keeps (Keeps.refl rfl) rfl rfl rfl
  | refresh threshold =>
      cases stepped
      exact consistent.refreshIfNeeded threshold
  | check =>
      cases stepped
      have checked : Consistent auth { world with checkedAt := world.now } :=
        consistent.of_keeps (Keeps.refl rfl) rfl rfl rfl
      rw [check]
      split
      · exact checked.refreshIfNeeded thresholdSeconds
      · exact checked
  | signed number signature => exact consistent.signed stepped
  | signingFails number =>
      rw [signingFails_eq_some stepped]
      exact consistent.of_keeps (keeps_setSettled number) rfl rfl rfl

theorem Consistent.of_reachable
    (reachable : (letsMeshSystem auth thresholdSeconds).Reachable world) :
    Consistent auth world := by
  refine reachable.invariant ?_ ?_
  · rintro state ⟨now, rfl⟩
    refine ⟨fun token cached => ?_, fun handed handedMem => ?_⟩
    · cases cached
    · cases handedMem
  · intro before event after consistent _ stepped
    exact consistent.step stepped

/-- A broker reads in a token exactly what a call of `createToken` made at this time has written,
for the key of the device it was made on, and what it has asked the radio to sign. -/
def ReadsAs (auth : LetsMeshAuth) (world : LetsMeshWorld) (token : Text) (startedAt : Int) :
    Prop :=
  ∃ signing ∈ world.signings, signing.startedAt = startedAt ∧
    (∃ signature, readToken token =
      some
        { header := .object LetsMeshAuth.header
          payload := .object (auth.payload signing.publicKey startedAt)
          signed := auth.signingInput signing.publicKey startedAt
          signature }) ∧
    auth.SaysPayload signing.publicKey startedAt (auth.payload signing.publicKey startedAt)

theorem SignedAt.readsAs {token : Text} {startedAt : Int}
    (signedAt : SignedAt auth world token startedAt) : ReadsAs auth world token startedAt := by
  rcases signedAt with ⟨signing, signingMem, started, signature, rfl⟩
  refine ⟨signing, signingMem, started, ⟨signature, LetsMeshAuth.readToken_eq signature⟩, ?_⟩
  exact LetsMeshAuth.saysPayload auth signing.publicKey startedAt

/-- Every token that is handed out is one a broker can read, for the whole of its lifetime from
the call on, or for longer than the threshold; the expiry that is kept is that of the cached
token. -/
theorem tokens_handed_out (reachable : (letsMeshSystem auth thresholdSeconds).Reachable world) :
    (∀ token threshold askedAt, .cached token threshold askedAt ∈ world.handedOut →
        ∃ startedAt, ReadsAs auth world token startedAt ∧
          askedAt / 1000 + threshold < startedAt / 1000 + auth.ttlSeconds) ∧
      (∀ token askedAt, .signed token askedAt ∈ world.handedOut →
        ReadsAs auth world token askedAt) ∧
      ∀ token, world.currentToken = some token → ∃ startedAt, ReadsAs auth world token startedAt ∧
        world.expiresAt = some (startedAt / 1000 + auth.ttlSeconds) := by
  have consistent := Consistent.of_reachable reachable
  refine ⟨fun token threshold askedAt handedMem => ?_, fun token askedAt handedMem => ?_,
    fun token cached => ?_⟩
  · rcases consistent.handedOut _ handedMem with ⟨startedAt, signedAt, valid⟩
    rw [LetsMeshAuth.expiration] at valid
    exact ⟨startedAt, signedAt.readsAs, by omega⟩
  · exact SignedAt.readsAs (consistent.handedOut _ handedMem)
  · rcases consistent.cache token cached with ⟨startedAt, signedAt, expires⟩
    exact ⟨startedAt, signedAt.readsAs, expires⟩

/-- The timer fires within its interval, and the radio signs within a time of its own. -/
def Punctual (interval signingTime : Int) (world : LetsMeshWorld) : LetsMeshEvent → Prop
  | .passes now => world.now ≤ now ∧ now ≤ world.checkedAt + interval ∧
      ∀ signing ∈ world.signings, signing.settled = false → now ≤ signing.startedAt + signingTime
  | .signingFails _ => False
  | _ => True

instance (interval signingTime : Int) (world : LetsMeshWorld) :
    (event : LetsMeshEvent) → Decidable (Punctual interval signingTime world event)
  | .radioConnected _ => isTrue trivial
  | .passes _ => inferInstanceAs (Decidable (_ ∧ _ ∧ _))
  | .refresh _ => isTrue trivial
  | .check => isTrue trivial
  | .signed _ _ => isTrue trivial
  | .signingFails _ => isFalse id

variable {interval signingTime : Int}

/-- At the last check the token was comfortably valid, or the radio has been asked for its
successor since. -/
structure Timely (thresholdSeconds interval signingTime : Int) (world : LetsMeshWorld) : Prop where
  checked : world.checkedAt ≤ world.now
  soon : world.now ≤ world.checkedAt + interval
  waiting : ∀ signing ∈ world.signings, signing.settled = false →
    signing.startedAt ≤ world.now ∧ world.now ≤ signing.startedAt + signingTime
  device : world.signings ≠ [] → world.device.isSome
  asked : world.expiresAt.isSome → world.signings ≠ []
  ahead : ∀ expiresAt, world.expiresAt = some expiresAt →
    world.checkedAt < (expiresAt - thresholdSeconds) * 1000 ∨
      ∃ signing ∈ world.signings, signing.settled = false ∧
        signing.startedAt < (expiresAt - thresholdSeconds) * 1000 + interval

theorem Timely.createToken (timely : Timely thresholdSeconds interval signingTime world)
    (signs : 0 ≤ signingTime) :
    Timely thresholdSeconds interval signingTime world.createToken := by
  rcases createToken_eq world with same | ⟨publicKey, known, added⟩
  · rw [same]
    exact timely
  · rw [added]
    refine ⟨timely.checked, timely.soon, fun signing signingMem waits => ?_,
      fun _ => Option.isSome_of_eq_some known,
      fun _ => List.append_ne_nil_of_right_ne_nil _ (List.cons_ne_nil _ _),
      fun expiresAt expires => ?_⟩
    · rcases List.mem_append.mp signingMem with earlier | new
      · exact timely.waiting signing earlier waits
      · rw [List.mem_singleton.mp new]
        exact ⟨Int.le_refl _, by simp only; omega⟩
    · rcases timely.ahead expiresAt expires with valid | ⟨signing, signingMem, waits, asked⟩
      · exact .inl valid
      · exact .inr ⟨signing, List.mem_append_left _ signingMem, waits, asked⟩

theorem Timely.refreshIfNeeded (timely : Timely thresholdSeconds interval signingTime world)
    (signs : 0 ≤ signingTime) (threshold : Int) :
    Timely thresholdSeconds interval signingTime (world.refreshIfNeeded threshold) := by
  rw [LetsMeshWorld.refreshIfNeeded]
  split
  · exact ⟨timely.checked, timely.soon, timely.waiting, timely.device, timely.asked, timely.ahead⟩
  · exact timely.createToken signs

theorem refreshDue_iff {expiresAt : Option Int} {now : Int} :
    refreshDue thresholdSeconds expiresAt now = true ↔
      ∃ expiry, expiresAt = some expiry ∧ ¬now / 1000 < expiry - thresholdSeconds := by
  cases expiresAt with
  | none =>
      rw [refreshDue]
      refine ⟨fun due => ?_, fun ⟨_, expires, _⟩ => ?_⟩
      · cases due
      · cases expires
  | some expiry =>
      rw [refreshDue, Bool.not_eq_true', decide_eq_false_iff_not]
      refine ⟨fun late => ⟨expiry, rfl, late⟩, ?_⟩
      rintro ⟨_, ⟨⟩, late⟩
      exact late

/-- A token that is due is not returned, but replaced by the next one. -/
theorem refreshIfNeeded_of_due {expiresAt : Int} {publicKey : List UInt8}
    (expires : world.expiresAt = some expiresAt)
    (due : ¬world.now / 1000 < expiresAt - thresholdSeconds)
    (known : world.device = some publicKey) :
    world.refreshIfNeeded thresholdSeconds =
      { world with signings := world.signings ++ [⟨publicKey, world.now, false⟩] } := by
  have unusable : world.usableToken thresholdSeconds = none := by
    rw [usableToken, expires]
    split
    · rename_i current other _ same
      rw [Option.some.injEq] at same
      rw [if_neg]
      rintro ⟨_, _, valid⟩
      exact due (same ▸ valid)
    · rfl
  rw [LetsMeshWorld.refreshIfNeeded, unusable]
  simp only [LetsMeshWorld.createToken, known]

theorem Timely.check (timely : Timely thresholdSeconds interval signingTime world)
    (fires : 0 ≤ interval) (signs : 0 ≤ signingTime) :
    Timely thresholdSeconds interval signingTime (world.check thresholdSeconds) := by
  rw [LetsMeshWorld.check]
  split
  · rename_i due
    rcases refreshDue_iff.mp due with ⟨expiresAt, expires, late⟩
    have asked := timely.asked (Option.isSome_of_eq_some expires)
    rcases Option.isSome_iff_exists.mp (timely.device asked) with ⟨publicKey, known⟩
    have asks : ({ world with checkedAt := world.now } : LetsMeshWorld).refreshIfNeeded
        thresholdSeconds =
          { world with
            checkedAt := world.now
            signings := world.signings ++ [⟨publicKey, world.now, false⟩] } :=
      refreshIfNeeded_of_due expires late known
    rw [asks]
    refine ⟨Int.le_refl _, by simp only; omega, fun signing signingMem waits => ?_,
      fun _ => Option.isSome_of_eq_some known,
      fun _ => List.append_ne_nil_of_right_ne_nil _ (List.cons_ne_nil _ _), fun other same => ?_⟩
    · rcases List.mem_append.mp signingMem with earlier | new
      · exact timely.waiting signing earlier waits
      · rw [List.mem_singleton.mp new]
        exact ⟨Int.le_refl _, by simp only; omega⟩
    · have own : other = expiresAt := Option.some.inj (same.symm.trans expires)
      have soon := timely.soon
      rcases timely.ahead expiresAt expires with valid | ⟨signing, signingMem, waits, early⟩
      · refine .inr ⟨⟨publicKey, world.now, false⟩, List.mem_append_right _ List.mem_cons_self, rfl,
          ?_⟩
        simp only
        omega
      · exact .inr ⟨signing, List.mem_append_left _ signingMem, waits, own ▸ early⟩
  · rename_i valid
    refine ⟨Int.le_refl _, by simp only; omega, timely.waiting, timely.device, timely.asked, ?_⟩
    intro expiresAt expires
    have early : world.now / 1000 < expiresAt - thresholdSeconds := by
      by_contra late
      exact valid (refreshDue_iff.mpr ⟨expiresAt, expires, late⟩)
    exact .inl (by simp only; omega)

theorem Timely.signed (timely : Timely thresholdSeconds interval signingTime world)
    (lasting : signingTime + 1000 ≤ (auth.ttlSeconds - thresholdSeconds) * 1000) {number : Nat}
    {signature : List UInt8} (stepped : world.signed auth number signature = some after) :
    Timely thresholdSeconds interval signingTime after := by
  rcases signed_eq_some stepped with
    ⟨signing, found, unsettled, device, now, checkedAt, signings, _, expires, _⟩
  have signingMem := List.mem_of_getElem? found
  have nonempty : after.signings ≠ [] := by
    rw [signings, setSettled]
    intro none
    rw [List.modify_eq_nil_iff] at none
    rw [none] at signingMem
    cases signingMem
  have own := timely.waiting signing signingMem unsettled
  have checked := timely.checked
  refine ⟨by rw [checkedAt, now]; exact timely.checked, by rw [checkedAt, now]; exact timely.soon,
    fun other otherMem waits => ?_, fun _ => ?_, fun _ => nonempty, fun expiresAt same => ?_⟩
  · rw [signings, setSettled] at otherMem
    rcases List.mem_iff_getElem?.mp otherMem with ⟨index, foundOther⟩
    rw [List.getElem?_modify] at foundOther
    rcases Option.map_eq_some_iff.mp foundOther with ⟨before, foundBefore, rfl⟩
    rw [now]
    split at waits
    · cases waits
    · rename_i apart
      rw [if_neg apart]
      exact timely.waiting before (List.mem_of_getElem? foundBefore) waits
  · rw [device]
    exact timely.device (List.ne_nil_of_mem signingMem)
  · rw [expires, Option.some.injEq] at same
    rw [← same, LetsMeshAuth.expiration, checkedAt]
    exact .inl (by omega)

theorem Timely.step (timely : Timely thresholdSeconds interval signingTime world)
    (fires : 0 ≤ interval) (signs : 0 ≤ signingTime)
    (lasting : signingTime + 1000 ≤ (auth.ttlSeconds - thresholdSeconds) * 1000)
    {event : LetsMeshEvent} (punctual : Punctual interval signingTime world event)
    (stepped : world.step auth thresholdSeconds event = some after) :
    Timely thresholdSeconds interval signingTime after := by
  cases event with
  | radioConnected publicKey =>
      cases stepped
      exact ⟨timely.checked, timely.soon, timely.waiting, fun _ => rfl, timely.asked, timely.ahead⟩
  | passes now =>
      cases stepped
      rcases punctual with ⟨onward, soon, waits⟩
      have checked := timely.checked
      refine ⟨by simp only; omega, soon, fun signing signingMem unsettled => ?_, timely.device,
        timely.asked, timely.ahead⟩
      have started := (timely.waiting signing signingMem unsettled).1
      exact ⟨by simp only; omega, waits signing signingMem unsettled⟩
  | refresh threshold =>
      cases stepped
      exact timely.refreshIfNeeded signs threshold
  | check =>
      cases stepped
      exact timely.check fires signs
  | signed number signature => exact timely.signed lasting stepped
  | signingFails number => exact absurd punctual id

/-- As long as the timer and the radio are punctual, the cached token never expires: the loop asks
for the next one early enough. -/
theorem token_replaced_in_time (fires : 0 ≤ interval) (signs : 0 ≤ signingTime)
    (early : interval + signingTime ≤ thresholdSeconds * 1000)
    (lasting : signingTime + 1000 ≤ (auth.ttlSeconds - thresholdSeconds) * 1000)
    (reachable : (letsMeshSystem auth thresholdSeconds).ReachableWhen
      (Punctual interval signingTime) world)
    {expiresAt : Int} (expires : world.expiresAt = some expiresAt) :
    world.now / 1000 < expiresAt := by
  have timely : Timely thresholdSeconds interval signingTime world := by
    refine reachable.invariant ?_ ?_
    · rintro state ⟨now, rfl⟩
      refine ⟨Int.le_refl _, ?_, fun signing signingMem => ?_, fun asked => ?_, fun known => ?_,
        fun other same => ?_⟩
      · simp only [started]
        omega
      · cases signingMem
      · exact absurd rfl asked
      · cases known
      · cases same
    · intro before event after timely punctual stepped
      exact timely.step fires signs lasting punctual stepped
  have soon := timely.soon
  rcases timely.ahead expiresAt expires with valid | ⟨signing, signingMem, waits, asked⟩
  · omega
  · have own := (timely.waiting signing signingMem waits).2
    omega

/-- Ten minutes of a token, which the loop replaces half way. -/
def tenMinutes : LetsMeshAuth :=
  { audience := some "mqtt.example".toList
    ttlSeconds := 600
    owner := none
    email := none
    client := none }

/-- The first token, five checks a minute apart, and its successor half a minute later. -/
def replacedToken : List LetsMeshEvent :=
  [.radioConnected [1, 2], .refresh 300, .signed 0 [3, 4], .refresh 300] ++
    (List.range 5).flatMap (fun minute => [.passes ((minute + 1) * 60000), .check]) ++
    [.passes 330000, .signed 1 [5, 6]]

theorem initial_started (auth : LetsMeshAuth) (thresholdSeconds now : Int) :
    (letsMeshSystem auth thresholdSeconds).Initial (.started now) :=
  ⟨now, rfl⟩

theorem replacedToken_ran :
    ((letsMeshSystem tenMinutes 300).run (Punctual 60000 30000) (.started 0)
      replacedToken).isSome := by
  decide +kernel

theorem token_replaced_in_time_of_replacedToken :
    (((letsMeshSystem tenMinutes 300).run (Punctual 60000 30000) (.started 0) replacedToken).get
      replacedToken_ran).now / 1000 < 900 :=
  token_replaced_in_time (by decide) (by decide) (by decide) (by decide)
    (EventSystem.reachableWhen_get (initial_started tenMinutes 300 0) replacedToken_ran)
    (by decide +kernel)

/-- The token in the cache names the device. -/
theorem tokens_handed_out_of_replacedToken :
    ∃ token, (((letsMeshSystem tenMinutes 300).run (Punctual 60000 30000) (.started 0)
      replacedToken).get replacedToken_ran).currentToken = some token ∧
        ∃ payload startedAt, (readToken token).map TokenParts.payload = some (.object payload) ∧
          tenMinutes.SaysPayload [1, 2] startedAt payload := by
  have reachable : (letsMeshSystem tenMinutes 300).Reachable _ :=
    (EventSystem.reachableWhen_get (initial_started tenMinutes 300 0) replacedToken_ran).weaken
      fun _ _ _ => trivial
  have cached : (((letsMeshSystem tenMinutes 300).run (Punctual 60000 30000) (.started 0)
      replacedToken).get replacedToken_ran).currentToken.isSome := by
    decide +kernel
  have device : (((letsMeshSystem tenMinutes 300).run (Punctual 60000 30000) (.started 0)
      replacedToken).get replacedToken_ran).signings.all fun signing =>
        signing.publicKey = [1, 2] := by
    decide +kernel
  rcases Option.isSome_iff_exists.mp cached with ⟨token, current⟩
  rcases (tokens_handed_out reachable).2.2 token current with
    ⟨startedAt, ⟨signing, signingMem, _, ⟨signature, read⟩, told⟩, _⟩
  have key := of_decide_eq_true (List.all_eq_true.mp device signing signingMem)
  rw [key] at read told
  exact ⟨token, current, _, startedAt, by rw [read, Option.map_some], told⟩

end LetsMeshWorld

end MeshcoreObserver
