import Powerline.Bench.Clock

/-!
# Steps on the bench

A session on the bench is a list of steps. Each step does one thing, then lets everything happen
that follows from it while the clock stands still, and reports what could be seen.
-/

namespace Powerline

namespace Bench

/-- A piece of what arrives on the line. -/
inductive Incoming where
  | bytes (bytes : Bytes)
  /-- The latest packet that the line took, followed by one more octet. -/
  | echo (last : UInt8)
  /-- A device's answer to the message in the latest packet. What is left open is taken from that
  packet; the flags are those of an ack. -/
  | answer (source : Option Address) (flags cmd1 cmd2 : Option UInt8)
  deriving Repr

/-- What can be asked of a thing on the bench. -/
inductive Action where
  | describe
  | subscribe (name : String) (pattern : Pattern) (capacity : Option Nat)
  | write (message : Message)
  | send (command : Command) (payload : Bytes)
  | request (command : Command) (payload : Bytes) (response : Pattern)
  | read (pattern : Pattern) (timeout : Duration)
  | ping
  | turnOn (level : UInt8)
  | turnOff
  | enterLinking (group : UInt8)
  | exitLinking
  | engine
  | status
  | identify
  | setEngine (engine : Engine)
  | cached
  | isStale
  | expire
  | links
  | refresh
  | writeLink (slot : Nat) (record : LinkRecord)
  | addLinks (records : List LinkRecord)
  | updateLinks (records : List LinkRecord)
  | writeLinks (records : List LinkRecord)
  | removeLinks (records : List LinkRecord)
  | receiveWithin (timeout : Duration)
  | receive
  | drain
  | unsubscribe
  | unknown

/-- What can be asked of the modem. -/
inductive ModemAction where
  | device (name : String) (address : Address) (engine : Engine)
  | database (name : String) (address : Address) (engine : Engine) (maxAge : Option Duration)
  | openDevice (name : String) (address : Address)
  | subscribe (name : String) (pattern : Pattern) (capacity : Option Nat)
  | writePacket (packet : Packet)
  | info
  | close
  | isClosed
  | unknown

/-- A step of a session. -/
inductive Step where
  | sleep (milliseconds : Nat)
  | feed (parts : List Incoming)
  /-- Answers everything that the line takes, at most so many times; in the given round the device
  refuses with a code. -/
  | pump (rounds : Nat) (refusal : Option (Nat × UInt8))
  | hangUp
  | failWrites (failure : Option LineFailure)
  | abort (call : Nat)
  | drop (name : String)
  | dropModem
  | register (info : DeviceInfo)
  | lookUp (address : Address)
  | modem (action : ModemAction)
  | thing (name : String) (action : Action)

/-- Why a step does nothing. -/
inductive Refusal where
  | noSuchCall
  | noSuchName
  | noSuchStep
  | noModem
  | busy
  deriving DecidableEq, Repr

/-- The wording of a refusal. -/
def Refusal.message : Refusal → String
  | noSuchCall => "no such call"
  | noSuchName => "no such name"
  | noSuchStep => "no such step"
  | noModem => "no modem"
  | busy => "busy"

/-- What a step brings at once. -/
inductive Response where
  | nothing
  | refused (refusal : Refusal)
  | flag (value : Bool)
  | count (value : Nat)
  | description (connection : Connection)
  | entry (info : Option DeviceInfo) (size : Nat)
  | records (records : List LinkRecord)
  | drained (messages : List Message) (ended : Bool)
  /-- The step cannot be carried out, nor anything behind it. -/
  | impossible
  deriving Repr

/-- What can be seen of a step. -/
structure Report where
  /-- The time behind the step in milliseconds. -/
  time : Nat
  response : Response
  /-- The packets that the line took, with their times. -/
  written : List (Nat × Bytes)
  /-- The calls that ended, in the order of their numbers. -/
  completed : List Completion
  /-- The modem has shut the line down. -/
  isShut : Bool
  deriving Repr

/-! ### What arrives on the line -/

/-- The address from which the bench's own modem sends. -/
def modemAddress : Address := ⟨0x44, 0x85, 0x11⟩

/-- A device's answer to the message in a packet; nothing if the packet carries none. -/
def answerTo (packet : Bytes) (source : Option Address) (flags cmd1 cmd2 : Option UInt8) : Bytes :=
  match packet with
  | _ :: opcode :: high :: middle :: low :: _ :: sent1 :: sent2 :: _ =>
      if opcode = Opcode.sendMessage.byte then
        let answer : Message := .standard (source.getD ⟨high, middle, low⟩) modemAddress
          ⟨flags.getD 0x2f⟩ (.standard (cmd1.getD sent1) (cmd2.getD sent2))
        Frame.encode ⟨.standardReceived,
          answer.source.toBytes ++ answer.destination.toBytes
            ++ [answer.flags.byte, answer.command.cmd1, answer.command.cmd2], none⟩
      else []
  | _ => []

/-- The octets of a piece. -/
def incomingBytes (bench : Bench) : Incoming → Bytes
  | .bytes bytes => bytes
  | .echo last => if bench.lastWrite.isEmpty then [] else bench.lastWrite ++ [last]
  | .answer source flags cmd1 cmd2 => answerTo bench.lastWrite source flags cmd1 cmd2

/-- The piece makes up an echo. -/
def isEcho : Incoming → Bool
  | .echo _ => true
  | _ => false

/-- The modem gets a packet, and everything follows from that. Noise is passed over. -/
def arrive (bench : Bench) : Except Error Packet → Bench
  | .ok packet => (bench.happen (.arrive packet)).settle
  | .error _ => bench

/-- Octets arrive one packet at a time. -/
def feedBytes (bench : Bench) (bytes : Bytes) : Bench :=
  let (items, left) := Frame.decode (bench.buffer ++ bytes)
  items.foldl arrive { bench with buffer := left }

/-- Pieces arrive as one. -/
def feed (bench : Bench) (parts : List Incoming) : Bench :=
  let bytes := parts.flatMap bench.incomingBytes
  let hasWritten := bench.hasWritten && !parts.any isEcho
  feedBytes { bench with hasWritten } bytes

/-- The answers of one round: the echo, and the device's ack or refusal. -/
def roundParts (round : Nat) (refusal : Option (Nat × UInt8)) : List Incoming :=
  match refusal with
  | some (refused, code) =>
      if refused = round then [.echo ackByte, .answer none (some 0xaf) none (some code)]
      else [.echo ackByte, .answer none none none none]
  | none => [.echo ackByte, .answer none none none none]

/-- Answers what the line takes, round after round: the bench behind it and the number of the last
round. -/
def pump (refusal : Option (Nat × UInt8)) (round : Nat) (bench : Bench) :
    (rounds : Nat) → Bench × Nat
  | 0 => (bench, round)
  | rounds + 1 =>
      if bench.hasWritten then
        pump refusal (round + 1) (bench.feed (roundParts round refusal)).settle rounds
      else (bench, round)

/-! ### Calls -/

/-- Starts a call. -/
def call (bench : Bench) (hold : Hold) (script : Script)
    (opens : Option (ThingId × Address) := none) : Bench × Response :=
  let bench := { bench with started := bench.stepNumber :: bench.started }
  (bench.advance { number := bench.stepNumber, hold, opens } script, .nothing)

/-- What a dialogue brings, as the value of a call. -/
def script {α : Type} (value : α → Value) (dialogue : Dialogue Memory α) : Script :=
  value <$> dialogue

/-- Work on the copy that belongs to a thing, as a call. -/
def linkScript {α : Type} (value : α → Value) (thing : ThingId)
    (work : LinkDatabase.Work α) : Script :=
  script value <| work.within (·.copy thing) fun copy memory => memory.setCopy thing copy

/-- A call is broken off; its subscriptions end. -/
def abort (bench : Bench) (number : Nat) : Bench × Response :=
  if bench.ended.contains number || !bench.started.contains number then
    (bench, .refused .noSuchCall)
  else
    match bench.calls.find? fun call => call.caller.number = number with
    | none => (bench, .nothing)
    | some call =>
        ((bench.unpark number).discardAll call.caller.subscriptions, .nothing)

/-! ### Actions -/

/-- Subscribes and puts the subscription on the bench. -/
def subscribe (bench : Bench) (name : String) (pattern : Pattern) (capacity : Option Nat) :
    Bench × Response :=
  let id := bench.nextSubscription
  let room := capacity.getD bench.config.subscriberBuffer
  if room > Mailbox.maxCapacity then (bench, .impossible)
  else
    let bench := bench.happen (.subscribe id pattern room)
    (place { bench with nextSubscription := id + 1 } name (.subscription id), .nothing)

/-- An action on a link table, if it is one. -/
def linkAction? (bench : Bench) (thing : ThingId) (database : LinkDatabase) :
    Action → Option (Bench × Response)
  | .cached => some (bench, .records (bench.memory.copy thing).table.records)
  | .isStale =>
      some (bench, .flag ((bench.memory.copy thing).isStale database.maxAge bench.now))
  | .expire =>
      let memory := bench.memory.setCopy thing (bench.memory.copy thing).expire
      some ({ bench with memory }, .nothing)
  | .links => run .records database.links
  | .refresh => run (fun _ => .nothing) database.refresh
  | .writeLink slot record => run (fun _ => .nothing) (database.writeLink slot record)
  | .addLinks records => run (fun _ => .nothing) (database.addLinks records)
  | .updateLinks records => run (fun _ => .nothing) (database.updateLinks records)
  | .writeLinks records => run (fun _ => .nothing) (database.writeLinks records)
  | .removeLinks records => run (fun _ => .nothing) (database.removeLinks records)
  | _ => none
where
  run {α : Type} (value : α → Value) (work : LinkDatabase.Work α) :
      Option (Bench × Response) :=
    some (bench.call (.exclusive thing) (linkScript value thing work))

/-- A call on a device that keeps others from its link table, if the action is one. -/
def deviceScript? (connection : Connection) : Action → Option Script
  | .ping => some (script (fun _ => .nothing) (Device.ping connection))
  | .turnOn level => some (script (fun _ => .nothing) (Device.turnOn connection level))
  | .turnOff => some (script (fun _ => .nothing) (Device.turnOff connection))
  | .enterLinking group =>
      some (script (fun _ => .nothing) (Device.enterLinking connection group))
  | .exitLinking => some (script (fun _ => .nothing) (Device.exitLinking connection))
  | .engine => some (script .engine (Device.engine connection))
  | .status => some (script .level (Device.status connection))
  | .identify => some (script .deviceInfo (Device.identify connection))
  | _ => none

/-- A call on a connection, if the action is one. -/
def connectionScript? (connection : Connection) : Action → Option Script
  | .write message => some (script .message (connection.write message))
  | .send command payload => some (script .message (connection.send command payload))
  | .request command payload response =>
      some (script .message (connection.request command payload response))
  | .read pattern timeout => some (script .message (connection.read pattern timeout))
  | _ => none

/-- Another engine is talked to; the copy of the link table starts over. -/
def setEngine (bench : Bench) (thing : Thing) (device : Device) (engine : Engine) : Bench :=
  replace { bench with memory := bench.memory.setCopy thing.id {} } thing.id
    (.device (device.setEngine engine))

/-- An action on a device. One that is meant for something else takes the device out of linking
mode. -/
def onDevice (bench : Bench) (thing : Thing) (device : Device) (action : Action) :
    Bench × Response :=
  let connection := device.connection
  match action with
  | .describe => (bench, .description connection)
  | .subscribe name pattern capacity =>
      bench.subscribe name (connection.heard pattern) capacity
  | .setEngine engine =>
      if bench.isHeld thing.id then (bench, .refused .busy)
      else (bench.setEngine thing device engine, .nothing)
  | _ =>
      match connectionScript? connection action, deviceScript? connection action with
      | some script, _ => bench.call .nothing script
      | none, some script => bench.call (.shared thing.id) script
      | none, none =>
          match bench.linkAction? thing.id device.database action with
          | none =>
              bench.call (.shared thing.id) <|
                script (fun _ => .nothing) (Device.exitLinking connection)
          | some done => if bench.isHeld thing.id then (bench, .refused .busy) else done

/-- An action on a subscription. -/
def onSubscription (bench : Bench) (thing : Thing) (id : SubscriptionId) :
    Action → Bench × Response
  | .receiveWithin timeout =>
      bench.call (.exclusive thing.id) (script .message (.receiveWithin id timeout))
  | .receive => bench.call (.exclusive thing.id) (script .received (.receiveAny id))
  | .drain =>
      let messages := bench.waiting id
      (bench.receive id messages.length, .drained messages (!bench.modem.isListening id))
  | .unsubscribe => (bench.happen (.unsubscribe id), .nothing)
  | _ => (bench, .refused .noSuchStep)

/-- An action on a thing. -/
def onThing (bench : Bench) (name : String) (action : Action) : Bench × Response :=
  match bench.thing? name with
  | none => (bench, .refused .noSuchName)
  | some thing =>
      if bench.isBusy thing.id then (bench, .refused .busy)
      else match thing.kind with
        | .device device => bench.onDevice thing device action
        | .database database =>
            (bench.linkAction? thing.id database action).getD (bench, .refused .noSuchStep)
        | .subscription id => bench.onSubscription thing id action
        | .reserved => (bench, .refused .noSuchName)

/-- An action on the modem. -/
def onModem (bench : Bench) : ModemAction → Bench × Response
  | .device name address engine =>
      (bench.place name (.device (.ofConnection ⟨bench.config, address, engine⟩)), .nothing)
  | .database name address engine maxAge =>
      let database : LinkDatabase :=
        ⟨⟨bench.config, address, engine⟩, maxAge.getD bench.config.linkMaxAge⟩
      (bench.place name (.database database), .nothing)
  | .openDevice name address =>
      if bench.directoryIsBusy then (bench, .refused .busy)
      else
        let opening := (Device.openWith bench.config address).within Memory.directory
          fun directory memory => { memory with directory }
        let place := bench.nextThing
        (bench.place name .reserved).call .directory
          (script (fun device => .engine device.connection.engine) opening) (some (place, address))
  | .subscribe name pattern capacity => bench.subscribe name pattern capacity
  | .writePacket packet => bench.call .nothing (script .packet (.commandPacket packet))
  | .info => bench.call .nothing (script .modemInfo queryModem)
  | .close => (bench.happen .close, .nothing)
  | .isClosed => (bench, .flag (!bench.modem.isRunning))
  | .unknown => (bench, .refused .noSuchStep)

/-- The entry for an address and the size of the directory. -/
def entry (bench : Bench) (address : Address) : Response :=
  .entry (bench.memory.directory.get? address) bench.memory.directory.size

/-- Does what a step says. -/
def perform (bench : Bench) : Step → Bench × Response
  | .sleep milliseconds => (bench.pass milliseconds, .nothing)
  | .feed parts => (bench.feed parts, .nothing)
  | .pump rounds refusal =>
      let (bench, done) := pump refusal 0 bench rounds
      (bench, .count done)
  | .hangUp => (bench.happen .lineEnd, .nothing)
  | .failWrites failure => ({ bench with failure }, .nothing)
  | .abort call => bench.abort call
  | .drop name => (bench.forget name, .flag (bench.thing? name).isSome)
  | .dropModem => ({ bench with wantsModem := false }, .flag bench.wantsModem)
  | .register info =>
      if bench.directoryIsBusy then (bench, .refused .busy)
      else
        let memory := { bench.memory with directory := bench.memory.directory.put info }
        let bench := { bench with memory }
        (bench, bench.entry info.address)
  | .lookUp address =>
      if bench.directoryIsBusy then (bench, .refused .busy) else (bench, bench.entry address)
  | .modem action =>
      if bench.wantsModem then bench.onModem action else (bench, .refused .noModem)
  | .thing name action => bench.onThing name action

/-- Does a step and lets everything follow from it. -/
def step (bench : Bench) (step : Step) : Bench × Report :=
  let (bench, response) := perform { bench with written := [], completed := [] } step
  let bench := bench.settle
  let completed := bench.completed.mergeSort fun left right => left.number ≤ right.number
  ({ bench with stepNumber := bench.stepNumber + 1 },
    ⟨bench.time, response, bench.written, completed, bench.isShut⟩)

/-- The reports of a whole session; none if a step cannot be carried out. -/
def runSteps (bench : Bench) : List Step → Option (List Report)
  | [] => some []
  | step :: rest =>
      let (next, report) := bench.step step
      match report.response with
      | .impossible => none
      | _ => (next.runSteps rest).map (report :: ·)

end Bench

/-- A session with these settings: its reports, or none if a step cannot be carried out. -/
def session (config : Config) (steps : List Bench.Step) :
    Except Error (Option (List Bench.Report)) := do
  let bench ← Bench.start config
  return bench.runSteps steps

end Powerline
