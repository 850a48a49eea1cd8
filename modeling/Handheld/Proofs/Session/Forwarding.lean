import Handheld.Proofs.Checked
import Handheld.Proofs.Input.Layout
import Handheld.Proofs.Session.Operation
import Handheld.Bench.Core
import Handheld.Display.Canvas
import Handheld.Rehearsal.Platform

/-!
# Keys as Button Calls

A key event that went to the surface while a rom is running sets the button that its key plays, and
this is all that key events do.  `Act.Asks` says which requests an act makes of the core.  It holds
of acts one after another if it holds of each, so what is known of one event
(`Emulator.sendKey_asks`) is known of all of them (`Emulator.performAll_keys_asks`), whether or not
the core refuses a call.

Under the policy that ignores other keys, no two keys play the same button.  What the core has last
been told about a button is then what the user has last done with its key.
-/

namespace Handheld

/-! ## §1 The requests of an act

`Asks` lists the requests that an act makes of the core, in their order, and says that only a fault
of the core can keep it from the next.  A refusal is an answer here and ends nothing. -/

namespace Act

variable {σ τ α β : Type} [NativeCore σ] {rig : Rig σ τ} {requests more : List Request}
  {post : α → Prop}

/-- On the rig the act makes the given requests of the core, in this order, and gives a value that
meets the condition.  Only the core can keep it from that, with a fault at one of the requests. -/
inductive Asks (act : Act σ τ α) (rig : Rig σ τ) (requests : List Request) (post : α → Prop) : Prop
  | all {outcome : Outcome σ τ α} (run : act.run rig = .ok outcome)
      (asked : outcome.journal.requests = requests) (holds : post outcome.value)
  | broken {cut : Interruption} {request : Request} {behind : List Request} {machine : Machine σ}
      (run : act.run rig = .error cut)
      (asked : requests = cut.journal.requests ++ request :: behind)
      (faulted : NativeCore.answer request machine = .error cut.fault)

theorem requests_append (journal later : Journal) :
    Journal.requests (journal ++ later) = journal.requests ++ Journal.requests later :=
  List.filterMap_append

theorem asks_pure {value : α} (holds : post value) : (pure value : Act σ τ α).Asks rig [] post :=
  .all rfl rfl holds

theorem asks_note (diagnostic : Diagnostic) :
    (note diagnostic : Act σ τ Unit).Asks rig [] fun _ => True :=
  .all rfl rfl trivial

theorem asks_ask (request : Request) :
    (ask request : Act σ τ _).Asks rig [request] fun _ => True := by
  cases answered : NativeCore.answer request rig.machine with
  | error fault =>
    have run : (ask request : Act σ τ _).run rig = .error ⟨fault, []⟩ := by
      simp only [ask, answered]
    exact .broken run rfl answered
  | ok reply =>
    have run : (ask request : Act σ τ _).run rig =
        .ok ⟨reply.1, { rig with machine := reply.2 }, [.native request reply.1]⟩ := by
      simp only [ask, answered]
    exact .all run rfl trivial

/-- Requests of acts one after another. -/
theorem Asks.bind {first : Act σ τ α} {next : α → Act σ τ β} {goal : β → Prop}
    (asks : first.Asks rig requests post)
    (then_asks : ∀ value after, post value → (next value).Asks after more goal) :
    (first >>= next).Asks rig (requests ++ more) goal := by
  -- Either all requests of the first act have been made, or a fault has come at one of them.
  cases asks with
  | @broken cut request behind machine run asked faulted =>
    -- What the second act would have asked for comes behind the request that broke the first.
    have run_both : (first >>= next).run rig = .error cut := by rw [run_bind, run]
    have asked_both : requests ++ more = cut.journal.requests ++ request :: (behind ++ more) := by
      rw [asked, List.append_assoc]
      rfl
    exact .broken run_both asked_both faulted
  | @all outcome run asked holds =>
    subst asked
    cases then_asks outcome.value outcome.rig holds with
    | @all last later asked reached =>
      subst asked
      exact .all (run_bind_eq_ok_iff.2 ⟨_, _, run, later, rfl⟩) (requests_append _ _) reached
    -- The fault comes at a request of the second act.
    | @broken cut request behind machine later asked faulted =>
      have run_both : (first >>= next).run rig =
          .error ⟨cut.fault, outcome.journal ++ cut.journal⟩ := by
        rw [run_bind, run]
        dsimp only
        rw [later]
      have asked_both : outcome.journal.requests ++ more =
          Journal.requests (outcome.journal ++ cut.journal) ++ request :: behind := by
        rw [requests_append, asked, List.append_assoc]
      exact .broken run_both asked_both faulted

/-- A value computed from that of an act. -/
theorem Asks.map {act : Act σ τ α} {f : α → β} {goal : β → Prop}
    (asks : act.Asks rig requests post) (holds : ∀ value, post value → goal (f value)) :
    (act >>= fun value => pure (f value)).Asks rig requests goal := by
  rw [← List.append_nil requests]
  exact asks.bind fun value _ known => asks_pure (holds value known)

end Act

/-! ## §2 What key events ask for

An event asks for one request at most.  Since the controller does not look at the answer, the
requests of many events are those of the single ones. -/

namespace UnmappedKeys

/-- The request that a key event to the surface makes, if its key plays a button. -/
def request? (policy : UnmappedKeys) (handle : Handle) (event : KeyEvent) : Option Request :=
  if event.target = .surface then
    (policy.resolve event.key).map fun button =>
      .setButtonState handle button (.ofKeyDown event.down)
  else none

end UnmappedKeys

namespace Emulator

/-- The requests that key events make.  There are none while no rom is running. -/
def buttonRequests (emulator : Emulator) (events : List KeyEvent) : List Request :=
  match emulator.lifecycle.handle? with
  | none => []
  | some handle => events.filterMap (emulator.unmappedKeys.request? handle)

variable {σ τ : Type} [NativeCore σ] {emulator : Emulator}

theorem buttonRequests_nil : emulator.buttonRequests [] = [] := by
  unfold buttonRequests
  split <;> rfl

theorem buttonRequests_cons (event : KeyEvent) (events : List KeyEvent) :
    emulator.buttonRequests (event :: events) =
      emulator.buttonRequests [event] ++ emulator.buttonRequests events := by
  unfold buttonRequests
  split
  · rfl
  · exact List.filterMap_append (l := [event]) ..

/-- A press or a release is what the event says it is. -/
theorem sendKey_eq (event : KeyEvent) :
    (emulator.sendKey event : Act σ τ _) =
      emulator.unmappedKeys.forward emulator.lifecycle.handle? event (.ofKeyDown event.down) := by
  unfold sendKey press release ButtonState.ofKeyDown
  cases event.down <;> rfl

/-- One event makes its own request, if it makes one, and no other. -/
theorem sendKey_asks (event : KeyEvent) (rig : Rig σ τ) :
    (emulator.sendKey event).Asks rig (emulator.buttonRequests [event]) fun _ => True := by
  rw [sendKey_eq]
  unfold UnmappedKeys.forward buttonRequests
  -- An event that did not go to the surface asks for nothing.
  by_cases reaches : event.target = .surface
  · rw [if_pos reaches]
    cases emulator.lifecycle.handle? with
    | none => exact Act.asks_pure trivial
    | some handle =>
      dsimp only
      rw [List.filterMap_cons, UnmappedKeys.request?, if_pos reaches]
      -- A key that plays no button asks for nothing either.
      cases emulator.unmappedKeys.resolve event.key with
      | none => exact Act.asks_pure trivial
      | some button => exact (Act.asks_note _).bind fun _ _ _ => Act.asks_ask _
  · rw [if_neg reaches]
    cases emulator.lifecycle.handle? with
    | none => exact Act.asks_pure trivial
    | some handle =>
      dsimp only
      rw [List.filterMap_cons, UnmappedKeys.request?, if_neg reaches]
      exact Act.asks_pure trivial

variable [Surface τ]

/-- Every event is answered, whatever became of the ones before it, and none of them changes the
controller. -/
theorem performAll_keys_asks [Clockwork] (events : List KeyEvent) (rig : Rig σ τ) :
    (emulator.performAll (events.map .key)).Asks rig (emulator.buttonRequests events)
      fun performed =>
        performed.1.map Deed.operation = events.map .key ∧ performed.2 = emulator := by
  -- The core moves on with every event, so the rig is any.
  induction events generalizing rig with
  | nil =>
    rw [buttonRequests_nil]
    exact Act.asks_pure ⟨rfl, rfl⟩
  | cons event events ih =>
    rw [buttonRequests_cons]
    have performs : (emulator.perform (.key event)).Asks rig (emulator.buttonRequests [event])
        fun performed => performed.2 = emulator := (sendKey_asks event rig).map fun _ _ => rfl
    -- The answer is not looked at: the rest is asked for whether or not this request was refused.
    refine performs.bind ?_
    rintro ⟨answer, _⟩ after rfl
    refine (ih after).map ?_
    rintro ⟨deeds, _⟩ ⟨rest, same⟩
    exact ⟨congrArg _ rest, same⟩

end Emulator

/-! ## §3 Buttons and their keys

A button has one key.  If other keys are ignored, what a button has been set to last is what its own
key did last. -/

/-- The state that a request gives to a button. -/
def Request.stateOf? (button : Button) : Request → Option ButtonState
  | .setButtonState _ other state => if other = button then some state else none
  | _ => none

/-- The state that requests have given to a button last. -/
def lastState? (button : Button) (requests : List Request) : Option ButtonState :=
  (requests.filterMap (Request.stateOf? button)).getLast?

/-- The event is one of the given key, and it went to the surface. -/
def KeyEvent.isOf (key : Key) (event : KeyEvent) : Bool :=
  event.target = .surface ∧ event.key = key

/-- The last event of a key that went to the surface. -/
def lastEvent? (key : Key) (events : List KeyEvent) : Option KeyEvent :=
  (events.filter (KeyEvent.isOf key)).getLast?

/-- If other keys are ignored, a button hears of its own key and of no other. -/
theorem UnmappedKeys.stateOf?_request? (handle : Handle) (button : Button) (event : KeyEvent) :
    (ignore.request? handle event).bind (Request.stateOf? button) =
      if event.isOf button.key then some (.ofKeyDown event.down) else none := by
  unfold request? KeyEvent.isOf
  by_cases reaches : event.target = .surface
  · rw [if_pos reaches]
    by_cases own : event.key = button.key
    · rw [resolve_ignore_eq_some_iff.2 own]
      simp [reaches, own, Request.stateOf?]
    · cases plays : ignore.resolve event.key with
      | none => simp [own]
      | some other =>
        -- No two keys play one button.
        have different : other ≠ button := by
          rintro rfl
          exact own (resolve_ignore_eq_some_iff.1 plays)
        simp [own, Request.stateOf?, different]
  · simp [reaches]

/-- The states that a button is given are those of the events of its key. -/
theorem states_of_key_events (handle : Handle) (button : Button) (events : List KeyEvent) :
    (events.filterMap (UnmappedKeys.ignore.request? handle)).filterMap (Request.stateOf? button) =
      (events.filter (KeyEvent.isOf button.key)).map fun event => .ofKeyDown event.down := by
  rw [List.filterMap_filterMap, ← List.filterMap_eq_map, List.filterMap_filter]
  exact congrArg (List.filterMap · events)
    (funext (UnmappedKeys.stateOf?_request? handle button))

namespace Emulator

variable {σ τ : Type} [NativeCore σ] [Surface τ]

/-- Key events that are sent to a controller make one request each of the core if they go to the
surface, their key plays a button and a rom is running, and none otherwise.  The requests come in
the order of the events.  Each event is answered, and the controller is as it was.  So it is on
every core, whichever of the requests it refuses, unless it breaks at one of them.

Each button has one key under the policy that ignores the others, and the state that has last been
asked for the button is that of the last event of this key. -/
theorem keys_set_buttons [Clockwork] (emulator : Emulator) (events : List KeyEvent)
    (rig : Rig σ τ) :
    (emulator.performAll (events.map .key)).Asks rig (emulator.buttonRequests events)
        (fun performed =>
          performed.1.map Deed.operation = events.map .key ∧ performed.2 = emulator) ∧
      (∀ button key, UnmappedKeys.ignore.resolve key = some button ↔ key = button.key) ∧
      (emulator.unmappedKeys = .ignore → emulator.isLoaded → ∀ button,
        lastState? button (emulator.buttonRequests events) =
          (lastEvent? button.key events).map fun event => .ofKeyDown event.down) := by
  refine ⟨performAll_keys_asks events rig, fun _ _ => UnmappedKeys.resolve_ignore_eq_some_iff, ?_⟩
  intro ignores loaded button
  obtain ⟨handle, current⟩ : ∃ handle, emulator.lifecycle.handle? = some handle := by
    obtain ⟨current, isCurrent⟩ := Option.isSome_iff_exists.1 loaded
    exact ⟨current.handle, Option.map_eq_some_iff.2 ⟨current, isCurrent, rfl⟩⟩
  unfold buttonRequests lastState? lastEvent?
  rw [current]
  dsimp only
  -- What is known of one event by the policy is true of each in the list.
  rw [ignores, states_of_key_events, List.getLast?_map]

/-- A controller whose instance the core does not know. -/
def estranged [Clockwork] : Emulator :=
  { new {} with lifecycle := .loaded ⟨⟨3, by decide⟩, ⟨40, 1, by decide⟩, ⟨1, 1⟩⟩ }

/-- The B key goes down and up, once with the focus elsewhere, and other keys in between. -/
def chatter : List KeyEvent :=
  [⟨.letter 'B', true, .surface⟩, ⟨.letter 'X', true, .surface⟩, ⟨.space, true, .surface⟩,
    ⟨.letter 'B', false, .surface⟩, ⟨.letter 'B', true, .elsewhere⟩]

/-- The core refuses every request, and the next one is made all the same. -/
theorem keys_set_buttons_of_refusals :
    ∃ outcome,
      (estranged.performAll (chatter.map .key)).run
        ⟨Bench.machine { heapSize := 64, screen := ⟨1, 1⟩ }, Canvas.new .rgba, {}⟩ = .ok outcome ∧
      outcome.journal.requests =
        [.setButtonState ⟨3, by decide⟩ .b .pressed, .setButtonState ⟨3, by decide⟩ .a .pressed,
          .setButtonState ⟨3, by decide⟩ .b .released] ∧
      (outcome.value.1.map fun deed => deed.answer.isOk) = [false, true, false, false, true] ∧
      lastState? .b outcome.journal.requests = some .released := by
  -- The requests follow from the theorem; the run only shows that most of them are refused.
  obtain ⟨asks, -, last⟩ := keys_set_buttons estranged chatter
    ⟨Bench.machine { heapSize := 64, screen := ⟨1, 1⟩ }, Canvas.new .rgba, {}⟩
  obtain ⟨outcome, run, answers⟩ : ∃ outcome,
      (estranged.performAll (chatter.map .key)).run
        ⟨Bench.machine { heapSize := 64, screen := ⟨1, 1⟩ }, Canvas.new .rgba, {}⟩ = .ok outcome ∧
      (outcome.value.1.map fun deed => deed.answer.isOk) = [false, true, false, false, true] :=
    Checked.exists_of_any (by decide +kernel)
  cases asks with
  | broken cut => cases run.symm.trans cut
  | all gives asked =>
    obtain rfl := Except.ok.inj (run.symm.trans gives)
    exact ⟨outcome, run, asked, answers, asked ▸ last rfl rfl .b⟩

end Emulator

end Handheld
