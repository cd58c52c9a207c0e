import StylyMdm.Handshake.Server

/-!
# A client and the server

One client with all the sockets it makes in the time of its `WebSocketManager`, and the server with
these sockets and any others. The frames of a socket arrive in the order they were sent, as long as
the connection is intact; when it is lost, some of those under way still arrive, and nothing sent
later does. What the other devices say, which commands the admins give, when anything happens and
how an await ends is left open.

A `Link` is a connection with the frames under way in both directions. The sockets of the client are
numbered as it makes them; those of other devices are any others, and what they send is given by the
events. It may be anything, a claim of the device of this client included. The log records what the
results are about: commands that are acted on or ignored, and results that are forwarded. No
function reads it.

A restart of the server loses every connection that it has a handler for, and forgets the books; the
client notices by its sockets.
-/

namespace StylyMdm.Handshake

open Text Py Registry Client.Identity Client.Connection

/-! ### Connections -/

/-- What is under way on a socket of the client. `opened` says that `onOpen` has been handled. -/
structure Link where
  up : List Up := []
  down : List Down := []
  lost : Bool := false
  opened : Bool := false
  reader : Reader := .idle

/-- The frame that the reader is about. -/
def Reader.frame : Reader → Option Down
  | .idle => none
  | .admitted frame => some frame
  | .acknowledged command | .restricted command | .matching command | .routing command
  | .contexting command => some (.command command)

/-- The frames that the client has not done with, in their order. -/
def Link.inbound (link : Link) : List Down := link.reader.frame.toList ++ link.down

/-- A frame of the client. -/
def Link.sendUp (link : Link) (frame : Up) : Link :=
  if link.lost then link else { link with up := link.up ++ [frame] }

/-- A frame of the server. -/
def Link.sendDown (link : Link) (frame : Down) : Link :=
  if link.lost then link else { link with down := link.down ++ [frame] }

/-! ### The system -/

/-- The client, the server, the links between them, and what was done with power commands. -/
structure World (Network : Type*) where
  client : Client Network
  server : Server := {}
  links : Nat → Link := fun _ => {}
  log : List Record := []

/-- The steps of the two sides, of the links and of the console. -/
inductive Event (Network : Type*)
  /-- A step of the resolver. -/
  | resolve (event : DeviceIdentityResolver.Event)
  /-- A message of the main looper, but for those of the identity listener. -/
  | looper (turn : Turn Network) (facts : Facts) (accepted : Bool)
  /-- The next message of the identity listener. -/
  | posted (facts : Facts) (accepted : Bool)
  /-- A step of the reader of a socket. -/
  | read (n : Nat)
  /-- A step of a thread that reboots the device or powers it off. -/
  | power (i : Nat) (fails accepted : Bool)
  /-- `sendMessage`, for anything but a `REGISTER` and the result of such a thread. -/
  | sendMessage (message : Option Str)
  /-- A connection is lost; so many frames still arrive. -/
  | lose (n up down : Nat)
  /-- The server accepts a socket. -/
  | connect (ws : Socket) (remote : Option Str)
  /-- A handler takes its next message, which is anything on a socket of another device. -/
  | receive (ws : Socket) (stray : Up) (connectionId : Str) (saved verifying : Bool)
  /-- A handler is resumed. -/
  | resume (ws : Socket) (failed verifying : Bool)
  /-- A handler finds its socket closed. -/
  | close (ws : Socket) (graceful verifying : Bool)
  /-- A command for a device: to the socket in `devices`, in `sessions` or of its handler. -/
  | command (ws : Socket) (deviceId : DeviceId) (type : CommandType)
  /-- A command for a provisional connection. -/
  | powerCommand (ws : Socket) (type : CommandType)
  /-- A command has the socket for itself, or is given up before. -/
  | write (i : Nat)
  | abandon (i : Nat)
  /-- The server starts anew. -/
  | restart

namespace World

variable {Network : Type*} (w : World Network)

/-- The link of the socket becomes `link`. -/
def setLink (n : Nat) (link : Link) : World Network :=
  { w with links := Function.update w.links n link }

/-- A frame of the client is on its way. -/
def transmit (sent : Sent) : World Network :=
  match sent with
  | some (n, frame) => w.setLink n ((w.links n).sendUp frame)
  | none => w

/-- A frame of the server is on its way. -/
def deliver (ws : Socket) (frame : Option Down) : World Network :=
  match ws, frame with
  | .own n, some frame => w.setLink n ((w.links n).sendDown frame)
  | _, _ => w

/-- An entry of the log, if there is one. -/
def record (entry : Option Record) : World Network :=
  { w with log := w.log ++ entry.toList }

/-- Does the socket take a frame? If it is the current one, with an intact connection, it does. -/
def accepts (n : Nat) (accepted : Bool) : Bool :=
  accepted || (w.client.manager.webSocket = some n && !(w.links n).lost)

/-- The current socket takes a frame. -/
def currentAccepts (accepted : Bool) : Bool :=
  match w.client.manager.webSocket with
  | some n => w.accepts n accepted
  | none => accepted

/-! ### The client -/

section Looper

variable [DecidableEq Network] (build : Build)

/-- A message of the looper, when its time has come. A socket is opened once, when the server has
accepted it, and is gone when its connection is lost. -/
def looper (t : Turn Network) (facts : Facts) (accepted : Bool) : World Network :=
  let turned := w.client.turn build t facts (w.currentAccepts accepted)
  if w.client.manager.uptime ≤ t.now ∧ t.now ≤ t.later then
    match t.message with
    | .socketOpened n =>
      if (w.server.handlers (.own n)).isNone ∨ (w.links n).opened then w
      else
        ({ w with client := turned.1 }.setLink n { w.links n with opened := true }).transmit
          turned.2
    | .socketGone n =>
      if (w.links n).lost then { w with client := turned.1 }.transmit turned.2 else w
    | _ => { w with client := turned.1 }.transmit turned.2
  else w

end Looper

/-- The next message of the identity listener, with what it sends. -/
def posted (facts : Facts) (accepted : Bool) : World Network :=
  let ran := w.client.runPosted facts (w.currentAccepts accepted)
  { w with client := ran.1 }.transmit ran.2

/-- A step of a reader. It takes the next frame if its socket is the current one, and passes over
it otherwise. -/
def read (n : Nat) : World Network :=
  let link := w.links n
  match link.reader with
  | .idle =>
    match link.down with
    | [] => w
    | frame :: down =>
      w.setLink n { link with
        down := down
        reader := if w.client.manager.webSocket = some n then .admitted frame else .idle }
  | reader =>
    let (client, reader, entry) := w.client.onMessage n (!link.lost) reader
    ({ w with client := client }.setLink n { link with reader := reader }).record entry

/-- A step of a power thread, with its result. -/
def power (i : Nat) (fails accepted : Bool) : World Network :=
  match w.client.threads[i]? with
  | none => w
  | some thread =>
    let (thread', sent, entry) :=
      w.client.powerStep thread fails (w.accepts thread.context.socket accepted)
    ({ w with client := w.client.setThread i thread' }.transmit sent).record entry

/-- A message of the type, or of no type that the server knows. -/
def sendMessage (message : Option Str) : World Network :=
  match w.client.manager.webSocket with
  | none => w
  | some n =>
    w.transmit (some (n,
      match message with
      | some name => .result { type := .other name, connectionId := none }
      | none => .other))

/-- A link is lost: what is under way arrives up to some point on either side. -/
def lose (n up down : Nat) : World Network :=
  let link := w.links n
  w.setLink n { link with lost := true, up := link.up.take up, down := link.down.take down }

/-! ### The server -/

/-- The server becomes `server`. -/
def withServer (server : Server) : World Network := { w with server := server }

/-- A socket of the client exists when it has been asked for. -/
def exist : Socket → Bool
  | .own n => decide (n < w.client.manager.requests.length) && !(w.links n).lost
  | .other _ => true

/-- A socket reaches the server. -/
def connect (ws : Socket) (remote : Option Str) : World Network :=
  if w.exist ws && (w.server.handlers ws).isNone then
    w.withServer (w.server.setHandler ws { remote := remote })
  else w

/-- The message that a handler takes next, and the system without it. -/
def nextMessage (ws : Socket) (stray : Up) : Option (Up × World Network) :=
  match ws with
  | .own n =>
    match (w.links n).up with
    | [] => none
    | message :: up => some (message, w.setLink n { w.links n with up := up })
  | .other _ => some (stray, w)

/-- What `uuid4().hex` may be. -/
def isHex (connectionId : Str) : Bool := connectionId ≠ [] && connectionId.all isLowerHex

/-- A message. `connectionId` is a new one. -/
def receive (ws : Socket) (stray : Up) (connectionId : Str) (saved verifying : Bool) :
    World Network :=
  match w.server.handlers ws with
  | none => w
  | some h =>
    if h.point ≠ .receive ∨ isHex connectionId = false then w
    else
      match w.nextMessage ws stray with
      | none => w
      | some (message, w) =>
        match message with
        | .register data capabilities =>
          w.withServer (w.server.register ws h data capabilities connectionId saved verifying)
        | .result result =>
          match w.server.sender ws h result with
          | some sender =>
            (w.withServer (w.server.park ws h .answering)).record
              (some (.forwarded ws sender result))
          | none => w
        | .other => w.withServer (w.server.park ws h .answering)

/-- The handler of the socket goes on past its await. -/
def resume (ws : Socket) (failed verifying : Bool) : World Network :=
  match w.server.handlers ws with
  | none => w
  | some h =>
    let (server, frame) := w.server.resume ws h failed verifying
    (w.withServer server).deliver ws frame

/-- The receive loop ends: `disconnect_device` comes before the `finally` block when the connection
was closed, and after it when it was lost. -/
def close (ws : Socket) (graceful verifying : Bool) : World Network :=
  match w.server.handlers ws with
  | none => w
  | some h =>
    if h.point ≠ .receive then w
    else if graceful then w.withServer (w.server.park ws h .disconnecting)
    else w.withServer (w.server.leave ws h verifying true)

/-- A command is handed to the socket. -/
def send (ws : Socket) (command : Command) : World Network :=
  w.withServer { w.server with sending := w.server.sending ++ [⟨ws, command⟩] }

/-- A command to a device, sent on the socket its entry or session has. -/
def command (ws : Socket) (deviceId : DeviceId) (type : CommandType) : World Network :=
  if w.server.owns deviceId ws ∨ w.server.sessions deviceId = some ws ∨
      (w.server.handlers ws).any (fun h => h.deviceId = some deviceId) then
    w.send ws ⟨type, none, .device deviceId⟩
  else w

/-- A power command to a provisional connection that allows it. -/
def powerCommand (ws : Socket) (type : CommandType) : World Network :=
  match w.server.provisional ws with
  | none => w
  | some entry =>
    if entry.allows type then
      w.send ws ⟨type, some entry.connectionId, .connection entry.connectionId⟩
    else w

/-- A sending is over. -/
def withoutSending (i : Nat) : World Network :=
  w.withServer { w.server with sending := w.server.sending.eraseIdx i }

/-- A sending writes its frame, if the socket may still have the command. -/
def write (i : Nat) : World Network :=
  match w.server.sending[i]? with
  | none => w
  | some sending =>
    if w.server.permits sending.socket sending.command then
      (w.withoutSending i).deliver sending.socket (some (.command sending.command))
    else w.withoutSending i

/-- All sockets are lost with the process, and no frame for it arrives. -/
def restart : World Network :=
  { w with
    server := w.server.restarted
    links := fun n =>
      if (w.server.handlers (.own n)).isSome then { w.links n with lost := true, up := [] }
      else w.links n }

/-! ### Runs -/

variable [DecidableEq Network] (build : Build)

/-- One step. -/
def step (w : World Network) : Event Network → World Network
  | .resolve event => { w with client := w.client.resolve event }
  | .looper t facts accepted => w.looper build t facts accepted
  | .posted facts accepted => w.posted facts accepted
  | .read n => w.read n
  | .power i fails accepted => w.power i fails accepted
  | .sendMessage message => w.sendMessage message
  | .lose n up down => w.lose n up down
  | .connect ws remote => w.connect ws remote
  | .receive ws stray connectionId saved verifying =>
    w.receive ws stray connectionId saved verifying
  | .resume ws failed verifying => w.resume ws failed verifying
  | .close ws graceful verifying => w.close ws graceful verifying
  | .command ws deviceId type => w.command ws deviceId type
  | .powerCommand ws type => w.powerCommand ws type
  | .write i => w.write i
  | .abandon i => w.withoutSending i
  | .restart => w.restart

/-- A new manager, when the resolver has already seen some events. -/
def start (resolved : List DeviceIdentityResolver.Event) (preferences : Preferences) :
    World Network :=
  { client := .connect (.after resolved) preferences }

end World

end StylyMdm.Handshake
