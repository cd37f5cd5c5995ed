import MeshcoreObserver.Text

/-!
# The repeat-check tracker

`RepeatCheckTracker` holds the replies that wait for their rebroadcast, by their
text. The map is the list of its entries in insertion order.
-/

namespace MeshcoreObserver

universe u

structure RepeatEntry (Meta : Type u) where
  info : Meta
  expiresAt : Int
  sentAt : Int
  deriving DecidableEq, Repr

structure RepeatCheckTracker (Meta : Type u) where
  timeoutMs : Int
  maxEntries : Nat
  pendingByText : List (Text × List (RepeatEntry Meta))
  totalPending : Int
  deriving DecidableEq, Repr

namespace RepeatCheckTracker

variable {Meta : Type u}

def new (timeoutMs : Int) (maxEntries : Nat) : RepeatCheckTracker Meta :=
  { timeoutMs, maxEntries, pendingByText := [], totalPending := 0 }

/-- The registrations of every text that have expired in front of one that has not. -/
def expired (tracker : RepeatCheckTracker Meta) (now : Int) : List (RepeatEntry Meta) :=
  tracker.pendingByText.flatMap fun pending =>
    pending.2.takeWhile fun entry => entry.expiresAt ≤ now

/-- `#evictExpired(now)`, with what it returns. -/
def evictExpired (tracker : RepeatCheckTracker Meta) (now : Int) :
    RepeatCheckTracker Meta × List Meta :=
  let remaining := tracker.pendingByText.map fun pending =>
    (pending.1, pending.2.dropWhile fun entry => entry.expiresAt ≤ now)
  ({ tracker with
      pendingByText := remaining.filter fun pending => pending.2 ≠ []
      totalPending := tracker.totalPending - (tracker.expired now).length },
    (tracker.expired now).map RepeatEntry.info)

def append (text : Text) (entry : RepeatEntry Meta) :
    List (Text × List (RepeatEntry Meta)) → List (Text × List (RepeatEntry Meta))
  | [] => [(text, [entry])]
  | pending :: others =>
      if pending.1 = text then (text, pending.2 ++ [entry]) :: others
      else pending :: append text entry others

/-- A number of registrations go, those of the oldest text first. -/
def evictOldest : Nat → List (Text × List (RepeatEntry Meta)) →
    List (Text × List (RepeatEntry Meta)) × List Meta
  | 0, pending => (pending, [])
  | _ + 1, [] => ([], [])
  | count + 1, (_, []) :: others => evictOldest (count + 1) others
  | count + 1, (text, entry :: entries) :: others =>
      let rest := evictOldest count (if entries = [] then others else (text, entries) :: others)
      (rest.1, entry.info :: rest.2)

def evictOverflow (tracker : RepeatCheckTracker Meta) : RepeatCheckTracker Meta × List Meta :=
  let evicted :=
    evictOldest (tracker.totalPending - tracker.maxEntries).toNat tracker.pendingByText
  ({ tracker with
      pendingByText := evicted.1
      totalPending := tracker.totalPending - evicted.2.length },
    evicted.2)

/-- `register(text, meta)`: the tracker, what has expired and what had to go. -/
def register (tracker : RepeatCheckTracker Meta) (text : Text) (info : Meta) (now : Int) :
    RepeatCheckTracker Meta × List Meta × List Meta :=
  let kept := tracker.evictExpired now
  let registered :=
    { kept.1 with
      pendingByText := append text ⟨info, now + tracker.timeoutMs, now⟩ kept.1.pendingByText
      totalPending := kept.1.totalPending + 1 }
  let bounded := registered.evictOverflow
  (bounded.1, kept.2, bounded.2)

structure Confirmation (Meta : Type u) where
  info : Meta
  elapsedMs : Int
  deriving DecidableEq, Repr

/-- `checkAndConsume(text)`: the tracker, the confirmation and what has expired. -/
def checkAndConsume (tracker : RepeatCheckTracker Meta) (text : Text) (now : Int) :
    RepeatCheckTracker Meta × Option (Confirmation Meta) × List Meta :=
  let evicted := tracker.evictExpired now
  match evicted.1.pendingByText.find? fun pending => pending.1 = text with
  | some (_, entry :: entries) =>
      ({ evicted.1 with
          pendingByText :=
            if entries = [] then
              evicted.1.pendingByText.filter fun pending => pending.1 ≠ text
            else
              evicted.1.pendingByText.map fun pending =>
                if pending.1 = text then (text, entries) else pending
          totalPending := evicted.1.totalPending - 1 },
        some ⟨entry.info, now - entry.sentAt⟩, evicted.2)
  | _ => (evicted.1, none, evicted.2)

end RepeatCheckTracker

end MeshcoreObserver
