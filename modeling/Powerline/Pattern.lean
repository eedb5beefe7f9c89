import Powerline.Message

/-!
# Message patterns

A pattern says which messages a subscriber wants. Conjunctions and disjunctions are evaluated
from the left and only as far as needed; a pattern may hold tests of the caller's own, and
`Pattern.consulted` lists those that an evaluation reaches.
-/

namespace Powerline

/-- A condition on messages. -/
inductive Pattern where
  /-- A command of the same kind. -/
  | command (command : Command)
  /-- A command with this first octet, in a message of either length. -/
  | cmd1 (cmd1 : UInt8)
  | source (address : Address)
  | destination (address : Address)
  /-- A device's answer to a direct message. -/
  | answer
  /-- A broadcast or cleanup to a group, or the answer to a cleanup. -/
  | allLink
  | extended
  /-- The same logical message as the given one, seen on another hop. -/
  | relayOf (reference : Message)
  | not (inner : Pattern)
  /-- All patterns hold; true of an empty list. -/
  | all (patterns : List Pattern)
  /-- Some pattern holds; false of an empty list. -/
  | any (patterns : List Pattern)
  /-- A test of the caller's own, with a label that names it. -/
  | test (label : Nat) (check : Message → Bool)

namespace Pattern

mutual

/-- The message satisfies the pattern. -/
def holds (message : Message) : Pattern → Bool
  | command wanted => message.command.sameKind wanted
  | cmd1 wanted => message.command.cmd1 = wanted
  | source address => message.source = address
  | destination address => message.destination = address
  | answer => message.isAnswer
  | allLink => message.flags.isAllLink
  | extended => message.isExtended
  | relayOf reference => message.isRelayOf reference
  | not inner => !inner.holds message
  | all patterns => allHold message patterns
  | any patterns => anyHolds message patterns
  | test _ check => check message

/-- The message satisfies every pattern of a list. -/
def allHold (message : Message) : List Pattern → Bool
  | [] => true
  | pattern :: rest => pattern.holds message && allHold message rest

/-- The message satisfies some pattern of a list. -/
def anyHolds (message : Message) : List Pattern → Bool
  | [] => false
  | pattern :: rest => pattern.holds message || anyHolds message rest

end

mutual

/-- The labels of the tests that an evaluation on the message reaches, in order. -/
def consulted (message : Message) : Pattern → List Nat
  | not inner => inner.consulted message
  | all patterns => consultedByAll message patterns
  | any patterns => consultedByAny message patterns
  | test label _ => [label]
  | _ => []

/-- The tests reached while the patterns of a list hold. -/
def consultedByAll (message : Message) : List Pattern → List Nat
  | [] => []
  | pattern :: rest =>
      pattern.consulted message
        ++ if pattern.holds message then consultedByAll message rest else []

/-- The tests reached while the patterns of a list fail. -/
def consultedByAny (message : Message) : List Pattern → List Nat
  | [] => []
  | pattern :: rest =>
      pattern.consulted message
        ++ if pattern.holds message then [] else consultedByAny message rest

end

/-- Both patterns; a conjunction on the left takes the right one in at its end. -/
def conj : Pattern → Pattern → Pattern
  | all patterns, right => all (patterns ++ [right])
  | left, right => all [left, right]

/-- Either pattern; a disjunction on the left takes the right one in at its end. -/
def disj : Pattern → Pattern → Pattern
  | any patterns, right => any (patterns ++ [right])
  | left, right => any [left, right]

instance : AndOp Pattern := ⟨conj⟩
instance : OrOp Pattern := ⟨disj⟩
instance : Complement Pattern := ⟨not⟩

/-- The request that an answer belongs to: no answer itself, sent to the answer's source, with
the same first octet of the command. Answers are never extended, so the family does not count. -/
def requestOf (answer : Message) : Pattern :=
  all [not .answer, destination answer.source, cmd1 answer.command.cmd1]

mutual

/-- The pattern in words. -/
def render : Pattern → String
  | command wanted => "Command(" ++ wanted.render ++ ")"
  | cmd1 wanted => "Cmd1(" ++ Hex.ofByte wanted ++ ")"
  | source address => "Src(" ++ address.render ++ ")"
  | destination address => "Dst(" ++ address.render ++ ")"
  | answer => "AckOrNak"
  | allLink => "AllLink"
  | extended => "Extended"
  | relayOf reference => "DuplicateOf(" ++ reference.render ++ ")"
  | not inner => "Not(" ++ inner.render ++ ")"
  | all patterns => "And([" ++ ", ".intercalate (renderAll patterns) ++ "])"
  | any patterns => "Or([" ++ ", ".intercalate (renderAll patterns) ++ "])"
  | test _ _ => "Custom"

/-- The patterns of a list in words. -/
def renderAll : List Pattern → List String
  | [] => []
  | pattern :: rest => pattern.render :: renderAll rest

end

end Pattern

end Powerline
