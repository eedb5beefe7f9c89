import Powerline.Message
import Powerline.Time

/-!
# Relayed copies

Repeaters send a message again with fewer hops left, so one logical message can arrive several
times within one propagation delay. The filter remembers the messages it let through lately and
recognises copies of them. An exact copy is a message of its own and passes.
-/

namespace Powerline

/-- The messages let through lately, with their times, the oldest first. -/
structure RelayFilter where
  /-- How long a message is remembered. -/
  window : Duration
  recent : List (Instant × Message) := []
  deriving Repr

namespace RelayFilter

/-- The filter remembers at most this many messages. -/
def capacity : Nat := 32

/-- Messages from further back than the window, as long as they stand at the front, are
forgotten. -/
def forget (filter : RelayFilter) (now : Instant) : List (Instant × Message) :=
  filter.recent.dropWhile fun (seen, _) => now - seen > filter.window

/-- Makes room for one more message by forgetting the oldest if there are too many. -/
def makeRoom (recent : List (Instant × Message)) : List (Instant × Message) :=
  if recent.length = capacity then recent.drop 1 else recent

/-- Takes a message in: true if it is a relayed copy of one let through within the window. Any
other message is remembered. -/
def observe (filter : RelayFilter) (now : Instant) (message : Message) : Bool × RelayFilter :=
  let recent := filter.forget now
  if recent.any fun (_, seen) => message.isRelayOf seen then
    (true, { filter with recent })
  else
    (false, { filter with recent := makeRoom recent ++ [(now, message)] })

end RelayFilter

end Powerline
