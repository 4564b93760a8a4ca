/-
  Handfast.Ui.Acks

  Which card an acknowledgement of a pair or unpair request changes.

  The application remembers one device per kind of request, and the
  acknowledgement, which names no device, goes to that one.  `awaiting` lists the
  devices whose requests of a kind are unanswered, on their way to the driver or
  back.  As long as no second request is made before the first one is answered,
  there is at most one of them and it is the one in the slot (`Paced`).  A second
  press overwrites the slot, and the first answer then changes the wrong card.

  Both kinds of request are treated alike; `unpair` says which one is meant.
-/
import Handfast.Ui.Driver

namespace Handfast.Ui.Gui

open Handfast.Ipc Handfast.Lib Handfast.Protocol

/-! ## Requests, their slots and their answers -/

/-- The device a command asks to pair or unpair with. -/
def BridgeIn.asks (unpair : Bool) : BridgeIn → Option String
  | .pair d => if unpair then none else some d
  | .unpair d => if unpair then some d else none
  | _ => none

/-- The device a message answers about. -/
def Delivery.answers (unpair : Bool) : Delivery → Option String
  | .paired d _ => if unpair then none else some d
  | .unpaired d _ => if unpair then some d else none
  | _ => none

def Message.pressed (unpair : Bool) : Message → Option String
  | pairPressed d => if unpair then none else some d
  | unpairPressed d => if unpair then some d else none
  | _ => none

/-- The device a message reports as gone. -/
def Message.lost : Message → Option String
  | event (.deviceLost d) => some d
  | _ => none

/-- The slot that remembers the last request of a kind. -/
def Panel.slot (p : Panel) (unpair : Bool) : Option String :=
  if unpair then p.unpairTarget else p.pairTarget

/-- The daemon's reply says that the pairing was accepted. -/
def accepted : Except String Value → Bool
  | .ok payload => (payload.get "accepted").bind Value.asBool = some true
  | .error _ => false

/-- What is shown about the pairing of a device. -/
def badge (devices : List DeviceCard) (d : String) : Option (Bool × String) :=
  (Rows.find DeviceEntry.id d devices).map fun card => (card.paired, card.state)

variable {c : BridgeIn} {m : Message} {p : Panel} {d : String}

theorem request_asks {app : HandfastApp} (unpair : Bool)
    (h : app.request m = some c) : c.asks unpair = m.pressed unpair := by
  cases HandfastApp.requested_of_request h <;> rfl

theorem asks_single (unpair : Bool) (c : BridgeIn) :
    [c].filterMap (BridgeIn.asks unpair) = (c.asks unpair).toList := by
  cases h : c.asks unpair with
  | none => rw [List.filterMap_cons_none h]; rfl
  | some d => rw [List.filterMap_cons_some h]; rfl

/-- A message of a widget changes the slot of a request it makes only. -/
theorem widget_slot (unpair : Bool) (h : m.fromWidget = true) :
    (p.change m).slot unpair = (m.pressed unpair).or (p.slot unpair) := by
  cases m with
  | pairPressed d => cases unpair <;> rfl
  | unpairPressed d => cases unpair <;> rfl
  | deviceSelected index =>
    simp only [Panel.change]
    split <;> rfl
  | nothing | tabSelected tab | bannerClosed | togglePlugin name enabled | settingsPressed
  | toggleSavedPlugin key enabled | queueFilePressed | pathChanged path | clipboardChanged text
  | sendPressed | refreshPressed | dismissPressed id => rfl
  | _ => cases h

/-- A slot survives the answers to the other kind of request, and the loss of other
    devices. -/
theorem delivery_slot {d : Delivery} (unpair : Bool) (hanswers : d.answers unpair = none)
    (hlost : ∀ x ∈ d.message.lost, p.slot unpair ≠ some x) :
    (p.change d.message).slot unpair = p.slot unpair := by
  -- an answer of the other kind leaves the slot alone
  have hfinish : ∀ result, (p.finishPairing result (!unpair)).slot unpair = p.slot unpair := by
    intro result
    rw [Panel.finishPairing_eq]
    cases unpair <;> rfl
  cases d with
  | paired id reply =>
    cases unpair with
    | true => exact hfinish _
    | false => cases hanswers
  | unpaired id reply =>
    cases unpair with
    | true => cases hanswers
    | false => exact hfinish _
  | plugins id payload => rfl
  | notice message hnotice =>
    cases message with
    | event event =>
      cases event with
      | deviceLost id =>
        have hne : p.slot unpair ≠ some id := hlost id rfl
        cases unpair <;> exact if_neg hne
      | _ => rfl
    | ipcStatus state | connectionLost text | loadFailed text | devicesLoaded cards
    | notificationsLoaded rows | fileQueued result | dismissed result | pluginSet result
    | clipboardSet result => rfl
    | _ => cases hnotice

/-- The bridge answers a pairing request once, and nothing else. -/
theorem perform_answers (first second : Result Response) (c : BridgeIn) (unpair : Bool) :
    (perform first second c).filterMap (Delivery.answers unpair) = (c.asks unpair).toList := by
  cases c with
  | pair d => cases unpair <;> rfl
  | unpair d => cases unpair <;> rfl
  | setPlugin d plugin enabled =>
    simp only [perform]
    cases unwrapResponse second <;> rfl
  | refreshDevices =>
    simp only [perform]
    cases unwrapResponse first <;> rfl
  | listPlugins d =>
    simp only [perform]
    cases unwrapResponse first <;> rfl
  | sendFile d path => rfl
  | dismissNotification id => rfl
  | clipboardSet text => rfl

/-- Only a pair request is answered as one, with the reply of the daemon. -/
theorem mem_perform_paired {first second : Result Response} {reply : Except String Value}
    (h : .paired d reply ∈ perform first second c) :
    c = .pair d ∧ reply = unwrapResponse first := by
  cases reports_of_mem h
  exact ⟨rfl, rfl⟩

/-! ## What an answer does to the cards -/

/-- A failed pairing takes the label back and leaves the flag. -/
theorem Panel.acknowledged_failed (err : String) (card : DeviceCard) :
    (Panel.acknowledged (.error err) false card).paired = card.paired ∧
      (Panel.acknowledged (.error err) false card).state ≠ "pairing" := by
  simp only [Panel.acknowledged]
  split
  · have hlabel : "found" ≠ "pairing" := by decide
    exact ⟨rfl, hlabel⟩
  · exact ⟨rfl, ‹_›⟩

/-- The row updated is that of the device in the slot. -/
theorem Panel.finishPairing_devices {result : Except String Unit} {unpair : Bool}
    (h : p.slot unpair = some d) :
    (p.finishPairing result unpair).devices =
      Rows.modify DeviceEntry.id d (Panel.acknowledged result unpair) p.devices := by
  unfold Panel.slot at h
  rw [Panel.finishPairing_eq, h]
  rfl

/-- Changing one row changes the badge of its device only. -/
theorem badge_modify {f : DeviceCard → DeviceCard} {x : String} {devices : List DeviceCard}
    (hf : ∀ card, (f card).id = card.id) :
    badge (Rows.modify DeviceEntry.id d f devices) x =
      if x = d then (Rows.find DeviceEntry.id x devices).map fun card =>
        ((f card).paired, (f card).state)
      else badge devices x := by
  rw [badge, Rows.find_modify hf]
  split
  · rw [Option.map_map]
    rfl
  · rfl

/-! ## One request at a time -/

namespace Desktop

variable {s t : Desktop} {a : Move} {rest : List Delivery} {d : Delivery}

/-- The devices whose requests are unanswered, oldest first. -/
def awaiting (unpair : Bool) (s : Desktop) : List String :=
  s.inbox.filterMap (Delivery.answers unpair) ++ s.queue.filterMap (BridgeIn.asks unpair)

/-- An `Ok` reply to a pair request that does not say the pairing was accepted. -/
def refuses (reply : Except String Value) : Bool :=
  match reply with
  | .ok _ => !accepted reply
  | .error _ => false

/-- No button is pressed while a request of its kind is unanswered, the daemon does
    not refuse a pairing with `Ok`, and no device goes while a request about it is
    unanswered. -/
def Unhurried (s : Desktop) : Move → Prop
  | .press message _ =>
    ∀ unpair, (message.pressed unpair).isSome = true → s.awaiting unpair = []
  | .perform first _ =>
    (s.queue.head?.bind (BridgeIn.asks false)).isSome = true →
      refuses (unwrapResponse first) = false
  | .deliver =>
    ∀ unpair, ∀ d ∈ s.inbox.head?.bind fun d => d.message.lost, d ∉ s.awaiting unpair
  | _ => True

instance (s : Desktop) (a : Move) : Decidable (s.Unhurried a) :=
  match a with
  | .press message _ =>
    decidable_of_iff
      (((message.pressed false).isSome = true → s.awaiting false = []) ∧
        ((message.pressed true).isSome = true → s.awaiting true = []))
      (by rw [Unhurried, Bool.forall_bool])
  | .perform first _ =>
    inferInstanceAs (Decidable ((s.queue.head?.bind (BridgeIn.asks false)).isSome = true →
      refuses (unwrapResponse first) = false))
  | .deliver =>
    match hlost : s.inbox.head?.bind fun d => d.message.lost with
    | none => .isTrue (by simp [Unhurried, hlost])
    | some d =>
      decidable_of_iff (d ∉ s.awaiting false ∧ d ∉ s.awaiting true)
        (by simp [Unhurried, hlost])
  | .ready | .connect _ | .push _ | .hangUp => .isTrue trivial

/-- At most one request of a kind is unanswered, and its device is in the slot. -/
structure Paced (s : Desktop) : Prop where
  linked : s.Linked
  slot : ∀ unpair, s.awaiting unpair = [] ∨
    ∃ d, s.awaiting unpair = [d] ∧ s.app.panel.slot unpair = some d
  replies : ∀ d reply, .paired d reply ∈ s.inbox → refuses reply = false

theorem start_paced (toggles : PluginToggles) : (start toggles).Paced where
  linked := start_linked toggles
  slot := fun _ => .inl rfl
  replies := nofun

theorem update_slot (app : HandfastApp) (save : Option String) (m : Message) (unpair : Bool) :
    (app.update save m).panel.slot unpair = (app.panel.change m).slot unpair := by
  rw [HandfastApp.update_panel]
  rfl

theorem notices_answers {notices : List Delivery} (unpair : Bool)
    (h : ∀ d ∈ notices, ∃ message h, d = .notice message h) :
    notices.filterMap (Delivery.answers unpair) = [] := by
  rw [List.filterMap_eq_nil_iff]
  intro d hd
  obtain ⟨message, hnotice, rfl⟩ := h d hd
  rfl

theorem Paced.press (h : s.Paced) {message : Message} {save : Option String}
    (hwidget : message.fromWidget = true) (unpair : Bool)
    (ha : (message.pressed unpair).isSome = true → s.awaiting unpair = [])
    (ht : t = { s with app := s.app.update save message }) :
    t.awaiting unpair = [] ∨
      ∃ d, t.awaiting unpair = [d] ∧ t.app.panel.slot unpair = some d := by
  obtain ⟨-, hqueue⟩ : t.Linked ∧ (t.queue = s.queue ∨
      ∃ c, s.app.request message = some c ∧ t.queue = s.queue ++ [c]) :=
    h.linked.update (fromWidget_ne_ready hwidget) (by rw [ht]) (by rw [ht])
  have hslot : t.app.panel.slot unpair = (message.pressed unpair).or (s.app.panel.slot unpair) := by
    rw [ht, update_slot, widget_slot unpair hwidget]
  have hawaiting : t.awaiting unpair = s.awaiting unpair ∨
      t.awaiting unpair = s.awaiting unpair ++ (message.pressed unpair).toList := by
    have hinbox : t.inbox = s.inbox := by rw [ht]
    rcases hqueue with hqueue | ⟨c, hc, hqueue⟩
    · exact .inl (by rw [awaiting, hinbox, hqueue, awaiting])
    · refine .inr ?_
      rw [awaiting, hinbox, hqueue, awaiting, List.filterMap_append, asks_single,
        request_asks unpair hc, List.append_assoc]
  cases hpressed : message.pressed unpair with
  | none =>
    -- no request of this kind
    rw [hpressed, Option.toList_none, List.append_nil, or_self] at hawaiting
    rw [hawaiting, hslot, hpressed, Option.none_or]
    exact h.slot unpair
  | some d =>
    rw [hpressed, ha (by rw [hpressed]; rfl)] at hawaiting
    rcases hawaiting with hnone | hone
    · exact .inl hnone
    · exact .inr ⟨d, hone, by rw [hslot, hpressed]; rfl⟩

theorem Paced.deliver (h : s.Paced) (hin : s.inbox = d :: rest) (unpair : Bool)
    (hlost : ∀ x ∈ d.message.lost, x ∉ s.awaiting unpair)
    (ht : t =
      { s with app := s.app.update none d.message, inbox := rest, source := s.sourceAfter d }) :
    t.awaiting unpair = [] ∨
      ∃ d, t.awaiting unpair = [d] ∧ t.app.panel.slot unpair = some d := by
  have hqueue : t.queue = s.queue := h.linked.deliver (by rw [ht]) (by rw [ht])
  have hinbox : t.inbox = rest := by rw [ht]
  cases hanswers : d.answers unpair with
  | some x =>
    -- the one unanswered request is answered now
    have hawaiting : s.awaiting unpair = x :: t.awaiting unpair := by
      rw [awaiting, hin, List.filterMap_cons_some hanswers, awaiting, hinbox, hqueue]
      rfl
    rcases h.slot unpair with hnone | ⟨y, hone, -⟩
    · cases hawaiting.symm.trans hnone
    · exact .inl (List.cons.inj (hawaiting.symm.trans hone)).2
  | none =>
    have hawaiting : t.awaiting unpair = s.awaiting unpair := by
      rw [awaiting, hinbox, hqueue, awaiting, hin, List.filterMap_cons_none hanswers]
    rw [hawaiting]
    rcases h.slot unpair with hnone | ⟨x, hone, hslot⟩
    · exact .inl hnone
    · refine .inr ⟨x, hone, ?_⟩
      have hkept : ∀ y ∈ d.message.lost, s.app.panel.slot unpair ≠ some y := by
        intro y hy hsy
        obtain rfl : x = y := Option.some.inj (hslot.symm.trans hsy)
        exact hlost x hy (by simp [hone])
      rw [ht, update_slot, delivery_slot unpair hanswers hkept, hslot]

theorem Paced.step_slot (h : s.Paced) (hstep : Steps s a t) (ha : s.Unhurried a) (unpair : Bool) :
    t.awaiting unpair = [] ∨
      ∃ d, t.awaiting unpair = [d] ∧ t.app.panel.slot unpair = some d := by
  cases hstep with
  | same => exact h.slot unpair
  | readies hbridge =>
    -- the old channel and the new one are both empty
    have hempty : s.queue = [] := by simp [queue, sent, hbridge]
    have hslot := h.slot unpair
    simp only [awaiting, hempty] at hslot
    simp only [awaiting, queue_ready]
    exact hslot
  | presses hwidget => exact h.press hwidget unpair (ha unpair) rfl
  | @delivers d rest hin =>
    refine h.deliver hin unpair (fun x hx => ha unpair x ?_) rfl
    rw [hin]
    exact hx
  | @reports a notices online hnotices =>
    have hawaiting : awaiting unpair { s with inbox := s.inbox ++ notices, online } =
        s.awaiting unpair := by
      rw [awaiting, List.filterMap_append, notices_answers unpair hnotices, List.append_nil]
      rfl
    rw [hawaiting]
    exact h.slot unpair
  | @performs first second command rest hqueue =>
    have hawaiting : awaiting unpair { s with
        inbox := s.inbox ++ perform first second command, taken := s.taken + 1 } =
          s.awaiting unpair := by
      rw [awaiting, queue_perform hqueue, List.filterMap_append, perform_answers, awaiting,
        hqueue, ← List.singleton_append, List.filterMap_append, asks_single, List.append_assoc]
    rw [hawaiting]
    exact h.slot unpair

/-- No pairing reply under way is a refusal. -/
theorem Paced.step_replies (h : s.Paced) (hstep : Steps s a t) (ha : s.Unhurried a) (d : String)
    (reply : Except String Value) (hmem : .paired d reply ∈ t.inbox) : refuses reply = false := by
  cases hstep with
  | same | readies | presses => exact h.replies d reply hmem
  | delivers hin =>
    refine h.replies d reply ?_
    rw [hin]
    exact List.mem_cons_of_mem _ hmem
  | reports a hnotices =>
    rcases List.mem_append.mp hmem with hold | hnew
    · exact h.replies d reply hold
    · obtain ⟨message, hnotice, heq⟩ := hnotices _ hnew
      cases heq
  | performs hqueue =>
    rcases List.mem_append.mp hmem with hold | hnew
    · exact h.replies d reply hold
    · obtain ⟨rfl, rfl⟩ := mem_perform_paired hnew
      refine ha ?_
      rw [hqueue]
      rfl

/-- Unhurried moves keep at most one request of a kind unanswered. -/
theorem Paced.step (h : s.Paced) (hstep : Steps s a t) (ha : s.Unhurried a) : t.Paced :=
  ⟨h.linked.step hstep, h.step_slot hstep ha, h.step_replies hstep ha⟩

/-! ## The answer and the card -/

/-- The next answer is about the device in the slot. -/
theorem Paced.answered (h : s.Paced) {unpair : Bool} {x : String} (hin : s.inbox = d :: rest)
    (hanswers : d.answers unpair = some x) :
    s.app.panel.slot unpair = some x := by
  have hawaiting : s.awaiting unpair =
      x :: (rest.filterMap (Delivery.answers unpair) ++
        s.queue.filterMap (BridgeIn.asks unpair)) := by
    rw [awaiting, hin, List.filterMap_cons_some hanswers, List.cons_append]
  rcases h.slot unpair with hnone | ⟨y, hone, hslot⟩
  · cases hawaiting.symm.trans hnone
  · obtain rfl : x = y := (List.cons.inj (hawaiting.symm.trans hone)).1
    exact hslot

/-- The reply updates the row of the device it is for. -/
theorem Paced.deliver_devices (h : s.Paced) (socketPath : String) (unpair : Bool) {x : String}
    {result : Except String Unit} (hin : s.inbox = d :: rest) (hanswers : d.answers unpair = some x)
    (hresult : s.app.panel.change d.message = s.app.panel.finishPairing result unpair) :
    (s.step socketPath .deliver).app.devices =
      Rows.modify DeviceEntry.id x (Panel.acknowledged result unpair) s.app.devices := by
  have happ : (s.step socketPath .deliver).app = s.app.update none d.message := by
    simp only [Desktop.step, hin]
  have hpanel : (s.app.update none d.message).devices = (s.app.panel.change d.message).devices :=
    congrArg Panel.devices (s.app.update_panel none d.message)
  rw [happ, hpanel, hresult, Panel.finishPairing_devices (h.answered hin hanswers)]
  rfl

/-- An answer about a device leaves every other card as it is. -/
def OthersKept (d : String) (before after : List DeviceCard) : Prop :=
  ∀ x, x ≠ d → badge after x = badge before x

/-- The reply to a pair request marks the card of its device if the daemon has accepted;
    otherwise the card keeps its flag and is no longer shown as pairing. -/
structure PairExact (d : String) (reply : Except String Value) (before after : List DeviceCard) :
    Prop where
  marked : accepted reply = true →
    (badge after d).map Prod.fst = (badge before d).map fun _ => true
  kept : accepted reply = false →
    (badge after d).map Prod.fst = (badge before d).map Prod.fst
  cleared : accepted reply = false → ∀ shown ∈ badge after d, shown.2 ≠ "pairing"
  others : OthersKept d before after

/-- If the next thing that happens is the answer to a pair or unpair request, it is
    applied exactly. -/
def Acknowledges (socketPath : String) (s : Desktop) (a : Move) : Prop :=
  a = .deliver →
    (∀ d reply rest, s.inbox = .paired d reply :: rest →
      PairExact d reply s.app.devices (s.step socketPath .deliver).app.devices) ∧
    (∀ d reply rest, s.inbox = .unpaired d reply :: rest →
      OthersKept d s.app.devices (s.step socketPath .deliver).app.devices)

theorem pairExact_modify {d : String} {reply : Except String Value} (devices : List DeviceCard)
    (h : refuses reply = false) :
    PairExact d reply devices
      (Rows.modify DeviceEntry.id d (Panel.acknowledged (reply.map fun _ => ()) false)
        devices) := by
  have hbadge : ∀ x, badge (Rows.modify DeviceEntry.id d
      (Panel.acknowledged (reply.map fun _ => ()) false) devices) x = _ :=
    fun _ => badge_modify (Panel.acknowledged_id _ _)
  cases reply with
  | ok payload =>
    have haccepted : accepted (.ok payload) = true := by simpa [refuses] using h
    refine ⟨fun _ => ?_, fun hno => ?_, fun hno => ?_, fun x hx => by rw [hbadge, if_neg hx]⟩
    · rw [hbadge, if_pos rfl, badge, Option.map_map, Option.map_map]
      rfl
    · cases haccepted.symm.trans hno
    · cases haccepted.symm.trans hno
  | error err =>
    refine ⟨nofun, fun _ => ?_, fun _ shown hshown => ?_, fun x hx => by rw [hbadge, if_neg hx]⟩
    · rw [hbadge, if_pos rfl, badge, Option.map_map, Option.map_map]
      exact congrArg (Option.map · _) (funext fun card => (Panel.acknowledged_failed err card).1)
    · rw [hbadge, if_pos rfl] at hshown
      obtain ⟨card, -, rfl⟩ := Option.map_eq_some_iff.mp hshown
      exact (Panel.acknowledged_failed err card).2

/-- A paced desktop applies every answer exactly. -/
theorem Paced.acknowledges (h : s.Paced) (socketPath : String) (a : Move) :
    s.Acknowledges socketPath a := by
  intro _
  constructor
  · intro d reply rest hin
    rw [h.deliver_devices socketPath false hin rfl rfl]
    refine pairExact_modify s.app.devices (h.replies d reply ?_)
    rw [hin]
    exact List.mem_cons_self
  · intro d reply rest hin x hx
    rw [h.deliver_devices socketPath true hin rfl rfl,
      badge_modify (Panel.acknowledged_id _ _), if_neg hx]

/-- **Acknowledgements.** In every run in which requests of a kind are answered before the
    next one is made, the daemon refuses no pairing with `Ok` and no device goes while a
    request about it is unanswered, every answer changes the card of the device it is
    about, as it says, and no other. -/
theorem acknowledgements_exact (socketPath : String) (toggles : PluginToggles) (run : List Move)
    (h : AllSteps (step socketPath) Unhurried (start toggles) run) :
    AllSteps (step socketPath) (Acknowledges socketPath) (start toggles) run :=
  allSteps_of_invariant (start_paced toggles)
    (fun s a hpaced ha => hpaced.step (step_steps socketPath s a) ha)
    (fun _ a hpaced _ => hpaced.acknowledges socketPath a) h

def pairAnswer (accepted : Bool) : Move :=
  .perform (.ok (.ok (.object [("accepted", .bool accepted)]))) (.ok (.ok .null))

theorem acknowledgements_exact_one :
    AllSteps (step "/s") (Acknowledges "/s") (start .empty)
      (listsTwo ++ [.press (.pairPressed "a") none, pairAnswer true, .deliver]) := by
  refine acknowledgements_exact "/s" .empty _ ?_
  decide

/-- Two devices are asked to pair, and the answer of the first marks the second; and a
    pairing that was refused is shown as a pairing. -/
theorem answers_misapplied :
    ¬ AllSteps (step "/s") (Acknowledges "/s") (start .empty)
      (listsTwo ++ [.press (.pairPressed "a") none, .press (.pairPressed "b") none,
        pairAnswer true] ++ [.deliver]) ∧
    ¬ AllSteps (step "/s") (Acknowledges "/s") (start .empty)
      (listsTwo ++ [.press (.pairPressed "a") none, pairAnswer false] ++ [.deliver]) := by
  constructor
  · intro h
    have hlast := (allSteps_append.mp h).2.1
    have hexact := (hlast rfl).1 "a" _ _ rfl
    have hother := hexact.others "b" (by decide)
    revert hother
    decide
  · intro h
    have hlast := (allSteps_append.mp h).2.1
    have hexact := (hlast rfl).1 "a" _ _ rfl
    have hkept := hexact.kept rfl
    revert hkept
    decide

end Desktop
end Handfast.Ui.Gui
