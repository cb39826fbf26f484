/-!
# Event windows

A window decides whether more than a given number of events fell into the last so many seconds.
It remembers at most one event more than that number: the readings stand in a ring, where each
new one takes the place of the oldest once the ring is full. Clock readings are milliseconds in
unsigned 64-bit words.
-/

namespace ExhaustionGuard

/-- A window with the clock readings that it still remembers. -/
structure Window where
  /-- Length of the window in milliseconds. -/
  span : Nat
  /-- How many events the window may hold without firing. -/
  limit : Nat
  /-- The remembered readings, in ring order once the ring is full. -/
  readings : Array Nat
  /-- The place of the ring that the next reading takes. -/
  cursor : Nat
  deriving DecidableEq, Repr

/-- What a window says about one event. -/
structure Verdict where
  fires : Bool
  /-- How many remembered events lie in the window. -/
  inside : Nat
  deriving DecidableEq, Repr

namespace Window

/-- The greatest reading of a clock, and the greatest size of a ring. -/
def wordMax : Nat := 0xFFFFFFFFFFFFFFFF

/-- A window of so many seconds that has seen no event. -/
def empty (seconds limit : Nat) : Window where
  span := min (1000 * seconds) wordMax
  limit := limit
  readings := #[]
  cursor := 0

/-- How many readings the ring holds. -/
def capacity (window : Window) : Nat :=
  min (window.limit + 1) wordMax

/-- The window after a reading has been remembered. -/
def record (window : Window) (now : Nat) : Window :=
  { window with
    readings :=
      if window.readings.size < window.capacity then window.readings.push now
      else window.readings.setIfInBounds window.cursor now
    cursor := (window.cursor + 1) % window.capacity }

/-- How many remembered readings lie in the window that ends now. -/
def countInside (window : Window) (now : Nat) : Nat :=
  window.readings.countP fun reading => now - window.span ≤ reading

/-- The window after an event, with what it says about it. -/
def onEvent (window : Window) (now : Nat) : Verdict × Window :=
  let next := window.record now
  let inside := next.countInside now
  (⟨window.limit < inside, inside⟩, next)

/-- The window after events at the given readings. -/
def after (window : Window) (readings : List Nat) : Window :=
  readings.foldl (fun w now => (w.onEvent now).2) window

end Window

/-- A clock that only moves when it is told to. -/
structure ManualClock where
  now : Nat
  deriving DecidableEq, Repr

namespace ManualClock

/-- A clock that starts at a reading; it never starts at zero. -/
def start (reading : Nat) : ManualClock :=
  ⟨max reading 1⟩

/-- The clock so many milliseconds later, modulo the size of a word. -/
def advance (clock : ManualClock) (milliseconds : Nat) : ManualClock :=
  ⟨(clock.now + milliseconds) % 0x10000000000000000⟩

end ManualClock

/-- The reading of a clock so many milliseconds after it was made; it is never zero. -/
def elapsedReading (milliseconds : Nat) : Nat :=
  milliseconds + 1

end ExhaustionGuard
