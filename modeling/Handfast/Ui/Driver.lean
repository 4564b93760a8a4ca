/-
  Handfast.Ui.Driver

  The IPC driver of the desktop interface (`crates/gui/src/bridge.rs`) and the
  application it works for.

  The driver takes the commands of the application one at a time and in order,
  asks the daemon and reports the outcome; its messages reach the application in
  order.  A report does not say which device it is about.  `Delivery` keeps that
  as history, together with what the daemon replied; the message the application
  sees is computed from it.

  A command is performed in one step: the driver does nothing else meanwhile, and
  what it reports waits in the application's inbox in either case.
-/
import Handfast.Ipc.Codec
import Handfast.Ui.App

namespace Handfast.Ui.Gui

open Handfast.Ipc Handfast.Lib Handfast.Protocol

/-- A message of the driver that is about no single request to a device. -/
def Message.isNotice : Message → Bool
  | ipcStatus _ | connectionLost _ | loadFailed _ | devicesLoaded _ | notificationsLoaded _
  | fileQueued _ | dismissed _ | pluginSet _ | clipboardSet _ | event _ => true
  | _ => false

def Message.fromWidget : Message → Bool
  | nothing | tabSelected _ | bannerClosed | deviceSelected _ | pairPressed _ | unpairPressed _
  | togglePlugin _ _ | settingsPressed | toggleSavedPlugin _ _ | queueFilePressed | pathChanged _
  | clipboardChanged _ | sendPressed | refreshPressed | dismissPressed _ => true
  | _ => false

/-- A message of the driver, with what it is about. -/
inductive Delivery where
  | notice (message : Message) (h : message.isNotice = true)
  | paired (deviceId : String) (reply : Except String Value)
  | unpaired (deviceId : String) (reply : Except String Value)
  | plugins (deviceId : String) (payload : Value)

def Delivery.message : Delivery → Message
  | notice message _ => message
  | paired _ reply => .paired (reply.map fun _ => ())
  | unpaired _ reply => .unpaired (reply.map fun _ => ())
  | plugins _ payload => .pluginsLoaded (parsePlugins payload)

/-! ## What the driver reports -/

/-- Collapse a request outcome into either the response payload or a
    human-readable failure string. -/
def unwrapResponse : Result Response → Except String Value
  | .ok (.ok result) => .ok result
  | .ok (.err code message) => .error s!"daemon error {code}: {message}"
  | .error err => .error err.text

/-- Load devices and notifications once per connection. -/
def loadSnapshot (devices notifications : Result Response) : List Delivery :=
  [match unwrapResponse devices with
   | .ok payload => .notice (.devicesLoaded (parseDevices payload)) rfl
   | .error err => .notice (.loadFailed s!"device list failed: {err}") rfl,
   match unwrapResponse notifications with
   | .ok payload => .notice (.notificationsLoaded (parseNotifications payload)) rfl
   | .error err => .notice (.loadFailed s!"notification list failed: {err}") rfl]

/-- Execute one user-initiated request and report its outcome.  Only `setPlugin`
    makes a second request. -/
def perform (first second : Result Response) : BridgeIn → List Delivery
  | .refreshDevices =>
    [match unwrapResponse first with
     | .ok payload => .notice (.devicesLoaded (parseDevices payload)) rfl
     | .error err => .notice (.loadFailed s!"refresh failed: {err}") rfl]
  | .listPlugins deviceId =>
    [match unwrapResponse first with
     | .ok payload => .plugins deviceId payload
     | .error err => .notice (.loadFailed s!"plugin list failed: {err}") rfl]
  | .setPlugin deviceId _ _ =>
    .notice (.pluginSet ((unwrapResponse first).map fun _ => ())) rfl ::
      -- follow up with the authoritative list
      (match unwrapResponse second with
       | .ok payload => [.plugins deviceId payload]
       | .error _ => [])
  | .pair deviceId => [.paired deviceId (unwrapResponse first)]
  | .unpair deviceId => [.unpaired deviceId (unwrapResponse first)]
  | .sendFile _ _ => [.notice (.fileQueued ((unwrapResponse first).map fun _ => ())) rfl]
  | .dismissNotification _ => [.notice (.dismissed ((unwrapResponse first).map fun _ => ())) rfl]
  | .clipboardSet _ => [.notice (.clipboardSet ((unwrapResponse first).map fun _ => ())) rfl]

/-- What a command can be answered with. -/
inductive Reports (first : Result Response) : BridgeIn → Delivery → Prop where
  | notice (c : BridgeIn) {message : Message} (h : message.isNotice = true) :
      Reports first c (.notice message h)
  | paired (d : String) : Reports first (.pair d) (.paired d (unwrapResponse first))
  | unpaired (d : String) : Reports first (.unpair d) (.unpaired d (unwrapResponse first))
  | listed (d : String) (payload : Value) : Reports first (.listPlugins d) (.plugins d payload)
  | toggled (d plugin : String) (enabled : Bool) (payload : Value) :
      Reports first (.setPlugin d plugin enabled) (.plugins d payload)

/-- **Inversion.** -/
theorem reports_of_mem {first second : Result Response} {c : BridgeIn} {d : Delivery}
    (h : d ∈ perform first second c) : Reports first c d := by
  cases c with
  | listPlugins id =>
    rw [List.mem_singleton.mp h]
    cases unwrapResponse first with
    | ok payload => exact .listed id payload
    | error err => exact .notice _ rfl
  | setPlugin id plugin enabled =>
    rcases List.mem_cons.mp h with rfl | h
    · exact .notice _ rfl
    -- the rows are listed again only if the second request worked
    · cases hsecond : unwrapResponse second with
      | ok payload =>
        simp only [hsecond, List.mem_singleton] at h
        rw [h]
        exact .toggled id plugin enabled payload
      | error err => simp [hsecond] at h
  | refreshDevices =>
    rw [List.mem_singleton.mp h]
    cases unwrapResponse first <;> exact .notice _ rfl
  | pair id =>
    rw [List.mem_singleton.mp h]
    exact .paired id
  | unpair id =>
    rw [List.mem_singleton.mp h]
    exact .unpaired id
  | sendFile id path | dismissNotification id | clipboardSet text =>
    rw [List.mem_singleton.mp h]
    exact .notice _ rfl

/-! ## Application and driver -/

structure Desktop where
  app : HandfastApp
  /-- What the driver has reported and the application has not seen. -/
  inbox : List Delivery
  /-- How many commands the driver has taken. -/
  taken : Nat
  /-- The driver is in the loop of a session. -/
  online : Bool
  /-- History: the device of the command whose reply the plugin rows come from. -/
  source : Option String

namespace Desktop

/-- A move of the user, the application or the driver. -/
inductive Move where
  /-- The driver has started and announces its channel. -/
  | ready
  /-- A widget is used; `save` is the error of saving the toggles. -/
  | press (message : Message) (save : Option String)
  /-- The application takes the next message of the driver. -/
  | deliver
  /-- The driver connects, with the error or with the replies to the two requests
      of the snapshot. -/
  | connect (outcome : Except String (Result Response × Result Response))
  | push (event : ServerEvent)
  /-- The driver performs the next command, with the replies of the daemon. -/
  | perform (first second : Result Response)
  | hangUp

def start (toggles : PluginToggles) : Desktop where
  app := .new toggles
  inbox := []
  taken := 0
  online := false
  source := none

def sent (s : Desktop) : List BridgeIn := s.app.bridge.elim [] Bridge.sent

def queue (s : Desktop) : List BridgeIn := s.sent.drop s.taken

/-- Why the daemon could not be reached. -/
def unreachable (path err : String) : String :=
  s!"daemon unreachable at {path}: {err}; retrying every 5s"

/-- The rows a message brings have a new source. -/
def sourceAfter (s : Desktop) : Delivery → Option String
  | .plugins deviceId _ => some deviceId
  | _ => s.source

def step (socketPath : String) (s : Desktop) : Move → Desktop
  | .ready =>
    match s.app.bridge with
    | some _ => s
    | none =>
      { s with app := s.app.update none (.bridgeReady { sent := [], receiving := true }) }
  | .press message save =>
    if message.fromWidget then { s with app := s.app.update save message } else s
  | .deliver =>
    match s.inbox with
    | [] => s
    | d :: rest =>
      { s with
        app := s.app.update none d.message
        inbox := rest
        source := s.sourceAfter d }
  | .connect outcome =>
    -- the driver's other messages come after the announcement of its channel
    if s.online ∨ s.app.bridge.isNone then s
    else
      let connecting := Delivery.notice (.ipcStatus .connecting) rfl
      match outcome with
      | .error err =>
        { s with
          inbox := s.inbox ++ [connecting, .notice (.ipcStatus .disconnected) rfl,
            .notice (.connectionLost (unreachable socketPath err)) rfl] }
      | .ok (devices, notifications) =>
        { s with
          inbox := s.inbox ++ [connecting, .notice (.ipcStatus .connected) rfl] ++
            loadSnapshot devices notifications
          online := true }
  | .push event =>
    if s.online then { s with inbox := s.inbox ++ [.notice (.event event) rfl] } else s
  | .perform first second =>
    if s.online then
      match s.queue with
      | [] => s
      | command :: _ =>
        { s with
          inbox := s.inbox ++ Gui.perform first second command
          taken := s.taken + 1 }
    else s
  | .hangUp =>
    if s.online then
      { s with inbox := s.inbox ++ [.notice (.ipcStatus .disconnected) rfl], online := false }
    else s

/-! ## What a step can do -/

/-- A step, by what it does to application, inbox and channel. -/
inductive Steps (s : Desktop) : Move → Desktop → Prop where
  | same (a : Move) : Steps s a s
  | readies (hbridge : s.app.bridge = none) :
      Steps s .ready
        { s with app := s.app.update none (.bridgeReady { sent := [], receiving := true }) }
  | presses {message : Message} {save : Option String} (hwidget : message.fromWidget = true) :
      Steps s (.press message save) { s with app := s.app.update save message }
  | delivers {d : Delivery} {rest : List Delivery} (hin : s.inbox = d :: rest) :
      Steps s .deliver
        { s with app := s.app.update none d.message, inbox := rest, source := s.sourceAfter d }
  /-- The driver reports something that is about no request to a device. -/
  | reports (a : Move) {notices : List Delivery} {online : Bool}
      (hnotices : ∀ d ∈ notices, ∃ message h, d = .notice message h) :
      Steps s a { s with inbox := s.inbox ++ notices, online }
  | performs {first second : Result Response} {command : BridgeIn} {rest : List BridgeIn}
      (hqueue : s.queue = command :: rest) :
      Steps s (.perform first second)
        { s with inbox := s.inbox ++ Gui.perform first second command, taken := s.taken + 1 }

theorem loadSnapshot_notices (devices notifications : Result Response) :
    ∀ d ∈ loadSnapshot devices notifications, ∃ message h, d = .notice message h := by
  intro d hd
  simp only [loadSnapshot, List.mem_cons, List.not_mem_nil, or_false] at hd
  rcases hd with rfl | rfl
  · cases unwrapResponse devices <;> exact ⟨_, _, rfl⟩
  · cases unwrapResponse notifications <;> exact ⟨_, _, rfl⟩

/-- **Inversion.** -/
theorem step_steps (socketPath : String) (s : Desktop) (a : Move) :
    Steps s a (s.step socketPath a) := by
  cases a with
  | ready =>
    simp only [step]
    split
    · exact .same _
    · exact .readies ‹_›
  | press message save =>
    simp only [step]
    split
    · exact .presses ‹_›
    · exact .same _
  | deliver =>
    simp only [step]
    split
    · exact .same _
    · exact .delivers ‹_›
  | connect outcome =>
    simp only [step]
    split
    · exact .same _
    · split
      · refine .reports _ fun d hd => ?_
        -- no daemon: three status messages
        simp only [List.mem_cons, List.not_mem_nil, or_false] at hd
        rcases hd with rfl | rfl | rfl <;> exact ⟨_, _, rfl⟩
      · rw [List.append_assoc]
        refine .reports _ fun d hd => ?_
        -- two status messages, then what the snapshot brings
        rcases List.mem_append.mp hd with hd | hd
        · simp only [List.mem_cons, List.not_mem_nil, or_false] at hd
          rcases hd with rfl | rfl <;> exact ⟨_, _, rfl⟩
        · exact loadSnapshot_notices _ _ d hd
  | push event =>
    simp only [step]
    split
    · refine .reports _ fun d hd => ?_
      rw [List.mem_singleton.mp hd]
      exact ⟨_, _, rfl⟩
    · exact .same _
  | perform first second =>
    simp only [step]
    split
    · split
      · exact .same _
      · exact .performs ‹_›
    · exact .same _
  | hangUp =>
    simp only [step]
    split
    · refine .reports _ fun d hd => ?_
      rw [List.mem_singleton.mp hd]
      exact ⟨_, _, rfl⟩
    · exact .same _

/-! ## The command channel -/

/-- The driver has taken no more commands than there are. -/
def Linked (s : Desktop) : Prop := s.taken ≤ s.sent.length

theorem sent_send {p : Panel} {command : Option BridgeIn} :
    (p.send command).bridge.elim [] Bridge.sent = p.bridge.elim [] Bridge.sent ∨
      ∃ c, command = some c ∧
        (p.send command).bridge.elim [] Bridge.sent = p.bridge.elim [] Bridge.sent ++ [c] := by
  cases hbridge : p.bridge with
  | none => exact .inl (by simp [Panel.send, hbridge])
  | some bridge =>
    cases command with
    | none => exact .inl (by simp [Panel.send, hbridge])
    | some c =>
      by_cases hreceiving : bridge.receiving
      · exact .inr ⟨c, rfl, by simp [Panel.send, hbridge, Bridge.push, hreceiving]⟩
      · exact .inl (by simp [Panel.send, hbridge, Bridge.push, hreceiving])

variable {save : Option String} {m : Message}

/-- A message adds at most its own command to the channel. -/
theorem update_sent {app : HandfastApp} (hready : ∀ bridge, m ≠ .bridgeReady bridge) :
    (app.update save m).bridge.elim [] Bridge.sent = app.bridge.elim [] Bridge.sent ∨
      ∃ c, app.request m = some c ∧
        (app.update save m).bridge.elim [] Bridge.sent =
          app.bridge.elim [] Bridge.sent ++ [c] := by
  have hsame : (app.panel.change m).bridge = app.bridge := Panel.change_bridge hready
  have hpanel : (app.update save m).bridge = ((app.panel.change m).send (app.request m)).bridge :=
    congrArg Panel.bridge (app.update_panel save m)
  rw [hpanel, ← hsame]
  exact sent_send

variable {s t : Desktop} {rest : List BridgeIn} {command : BridgeIn}

/-- The queue after an update grows by the command of the message, or not at all. -/
theorem Linked.update (h : s.Linked) (hready : ∀ bridge, m ≠ .bridgeReady bridge)
    (happ : t.app = s.app.update save m) (htaken : t.taken = s.taken) :
    t.Linked ∧ (t.queue = s.queue ∨ ∃ c, s.app.request m = some c ∧ t.queue = s.queue ++ [c]) := by
  unfold Linked sent at h
  simp only [Linked, queue, sent, happ, htaken]
  rcases update_sent hready with hsame | ⟨c, hc, hsent⟩
  · rw [hsame]
    exact ⟨h, .inl rfl⟩
  · rw [hsent, List.length_append, List.drop_append_of_le_length h]
    exact ⟨by omega, .inr ⟨c, hc, rfl⟩⟩

theorem delivery_ne_ready (d : Delivery) (bridge : Bridge) :
    d.message ≠ .bridgeReady bridge := by
  cases d with
  | notice message h =>
    rintro rfl
    cases h
  | _ => nofun

theorem fromWidget_ne_ready (h : m.fromWidget = true) (bridge : Bridge) :
    m ≠ .bridgeReady bridge := by
  rintro rfl
  cases h

theorem request_delivery (app : HandfastApp) (d : Delivery) : app.request d.message = none := by
  cases d with
  | notice message h =>
    cases message with
    | ipcStatus state | connectionLost text | loadFailed text | devicesLoaded cards
    | notificationsLoaded rows | fileQueued result | dismissed result | pluginSet result
    | clipboardSet result | event event => rfl
    | _ => cases h
  | _ => rfl

/-- Handling a message of the driver leaves the queue as it is. -/
theorem Linked.deliver (h : s.Linked) {d : Delivery} (happ : t.app = s.app.update none d.message)
    (htaken : t.taken = s.taken) : t.queue = s.queue := by
  obtain ⟨-, hqueue⟩ : t.Linked ∧ (t.queue = s.queue ∨
      ∃ c, s.app.request d.message = some c ∧ t.queue = s.queue ++ [c]) :=
    h.update (delivery_ne_ready d) happ htaken
  refine hqueue.resolve_right ?_
  rintro ⟨c, hc, -⟩
  cases (request_delivery s.app d).symm.trans hc

/-- The queue is what was sent and not yet taken. -/
theorem queue_taken (h : s.queue = command :: rest) :
    s.taken < s.sent.length ∧ s.sent.drop (s.taken + 1) = rest := by
  have hlength := congrArg List.length h
  have htail := congrArg List.tail h
  simp only [queue, List.length_drop, List.length_cons, List.tail_drop, List.tail_cons]
    at hlength htail
  exact ⟨by omega, htail⟩

theorem queue_perform {inbox : List Delivery}
    (h : s.queue = command :: rest) : queue { s with inbox, taken := s.taken + 1 } = rest :=
  (queue_taken h).2

theorem queue_ready : queue { s with
    app := s.app.update none (.bridgeReady { sent := [], receiving := true }) } = [] :=
  List.drop_nil

theorem Linked.step {a : Move} (h : s.Linked) (hstep : Steps s a t) : t.Linked := by
  cases hstep with
  | same => exact h
  | readies hbridge =>
    have hnone : s.taken ≤ 0 := by simpa [Linked, sent, hbridge] using h
    exact hnone
  | presses hwidget => exact And.left (h.update (fromWidget_ne_ready hwidget) rfl rfl)
  | @delivers d rest hin => exact And.left (h.update (delivery_ne_ready d) rfl rfl)
  | reports => exact h
  | performs hqueue => exact (queue_taken hqueue).1

theorem start_linked (toggles : PluginToggles) : (start toggles).Linked := Nat.le_refl 0

/-- The driver connects and lists two devices, and the application has seen it all. -/
def listsTwo : List Move :=
  [.ready,
   .connect (.ok
    (.ok (.ok (.array [.object [("id", .string "a")], .object [("id", .string "b")]])),
     .ok (.ok (.array [])))),
   .deliver, .deliver, .deliver, .deliver]

end Desktop
end Handfast.Ui.Gui
