/-!
# Broadcasts

What is sent to everybody stays readable until as many further entries have been sent as the
broadcast holds. A reader knows its position, that is how many entries it has passed; one that
falls behind skips what is no longer readable.
-/

namespace Subtitler

/-- All entries that were ever sent, of which the last `capacity` ones are readable. -/
structure Broadcast (α : Type) where
  capacity : Nat
  sent : List α := []
deriving DecidableEq, Repr

namespace Broadcast

variable {α : Type}

/-- An empty broadcast that holds at least `n` entries; the capacity is a power of two. -/
def ofCapacity (n : Nat) : Broadcast α := { capacity := n.nextPowerOfTwo }

/-- Sends an entry. -/
def send (b : Broadcast α) (entry : α) : Broadcast α := { b with sent := b.sent ++ [entry] }

/-- The position of a reader that only wants what is yet to come. -/
def finish (b : Broadcast α) : Nat := b.sent.length

/-- The position of the first entry that a reader at `position` can read. -/
def resume (b : Broadcast α) (position : Nat) : Nat := max position (b.finish - b.capacity)

/-- How many entries a reader at `position` has missed. -/
def missed (b : Broadcast α) (position : Nat) : Nat := b.resume position - position

/-- What a reader at `position` can read. -/
def unread (b : Broadcast α) (position : Nat) : List α := b.sent.drop (b.resume position)

@[simp] theorem finish_send (b : Broadcast α) (entry : α) :
    (b.send entry).finish = b.finish + 1 := by
  simp [finish, send]

/-- A reader that has passed everything has nothing to read. -/
@[simp] theorem unread_finish (b : Broadcast α) : b.unread b.finish = [] := by
  simp [unread, resume, finish]

end Broadcast

end Subtitler
