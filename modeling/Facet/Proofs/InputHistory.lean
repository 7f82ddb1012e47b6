import Facet.Proofs.KeyToggles

/-!
# What the input says of its history

Events and the ends of frames come in any order. What is held, and what a frame has seen so far, are
sets that every event may change: a press adds to two of them, a repeat to one, the loss of focus
empties some and spares others. Here they are read off the history alone. A switch is down if the
last event that turned it says so; it was pressed or let go of in this frame if, since the last
clear, the event arrived at a moment when the switch was up or down.

A history splits at its last clear into a past and a frame. The frame starts over there and the past
does not, so a press is judged by what both of them say together.
-/

namespace Facet

/-! ## Histories -/

/-- An event, or the end of a frame. -/
inductive InputStep where
  | event (e : InputEvent)
  | clear

namespace InputStep

def event? : InputStep → Option InputEvent
  | event e => some e
  | clear => none

def isEvent : InputStep → Bool
  | event _ => true
  | clear => false

def apply (state : Held × InputFrame) : InputStep → Held × InputFrame
  | event e => state.1.apply state.2 e
  | clear => (state.1, state.2.clear)

end InputStep

/-- What is held and what the frame has seen, after some steps from nothing. -/
def inputAfter (steps : List InputStep) : Held × InputFrame :=
  steps.foldl InputStep.apply ({}, {})

def allEvents (steps : List InputStep) : List InputEvent := steps.filterMap InputStep.event?

/-- The events up to the last clear. -/
def pastEvents (steps : List InputStep) : List InputEvent :=
  allEvents (steps.rdropWhile InputStep.isEvent)

/-- The events since the last clear. -/
def frameEvents (steps : List InputStep) : List InputEvent :=
  allEvents (steps.rtakeWhile InputStep.isEvent)

section Histories

variable (steps : List InputStep) (e : InputEvent)

theorem inputAfter_event :
    inputAfter (steps ++ [.event e]) = (inputAfter steps).1.apply (inputAfter steps).2 e :=
  List.foldl_append

theorem inputAfter_clear : inputAfter (steps ++ [.clear]) = ((inputAfter steps).1, {}) :=
  List.foldl_append

theorem allEvents_event : allEvents (steps ++ [.event e]) = allEvents steps ++ [e] :=
  List.filterMap_append

theorem allEvents_clear : allEvents (steps ++ [.clear]) = allEvents steps :=
  List.filterMap_append.trans (List.append_nil _)

theorem pastEvents_event : pastEvents (steps ++ [.event e]) = pastEvents steps := by
  unfold pastEvents
  rw [List.rdropWhile_concat_pos _ _ _ rfl]

theorem frameEvents_event : frameEvents (steps ++ [.event e]) = frameEvents steps ++ [e] := by
  unfold frameEvents
  rw [List.rtakeWhile_concat_pos _ _ _ rfl, allEvents_event]

theorem frameEvents_clear : frameEvents (steps ++ [.clear]) = [] := by
  unfold frameEvents
  rw [List.rtakeWhile_concat_neg _ _ _ Bool.false_ne_true]
  rfl

theorem pastEvents_append_frameEvents :
    pastEvents steps ++ frameEvents steps = allEvents steps := by
  unfold pastEvents frameEvents allEvents
  rw [← List.filterMap_append, List.rdropWhile_append_rtakeWhile]

/-- What an event does to what is held does not depend on what the frame has seen. -/
theorem Held.apply_fst_congr (held : Held) (frame frame' : InputFrame) :
    (held.apply frame e).1 = (held.apply frame' e).1 := by
  cases e with
  | pointerButton button switch =>
      cases switch with
      | pressed =>
          show (held.pressButton frame button).1 = (held.pressButton frame' button).1
          unfold Held.pressButton
          split <;> rfl
      | released =>
          show (held.releaseButton frame button).1 = (held.releaseButton frame' button).1
          unfold Held.releaseButton
          split <;> rfl
  | key key switch repeated => cases switch <;> rfl
  | focused | pointerMoved | pointerLeft | wheel => rfl

/-- A button turned either way leaves everything but the sets of buttons as it is. -/
theorem Held.apply_pointerButton (held : Held) (frame : InputFrame) (button : Button)
    (switch : Switch) :
    ∃ buttons buttonsPressed buttonsReleased, held.apply frame (.pointerButton button switch)
      = ({ held with buttons }, { frame with buttonsPressed, buttonsReleased }) := by
  cases switch with
  | pressed =>
      show ∃ _ _ _, held.pressButton frame button = _
      unfold Held.pressButton
      split <;> exact ⟨_, _, _, rfl⟩
  | released =>
      show ∃ _ _ _, held.releaseButton frame button = _
      unfold Held.releaseButton
      split <;> exact ⟨_, _, _, rfl⟩

/-- A key turned either way leaves everything but the sets of keys as it is. -/
theorem Held.apply_key (held : Held) (frame : InputFrame) (key : Key) (switch : Switch)
    (repeated : Bool) :
    ∃ keys keysPressed, held.apply frame (.key key switch repeated)
      = ({ held with keys }, { frame with keysPressed }) := by
  cases switch with
  | pressed =>
      show ∃ _ _, held.pressKey frame key repeated = _
      unfold Held.pressKey
      dsimp only
      split <;> exact ⟨_, _, rfl⟩
  | released => exact ⟨_, _, rfl⟩

/-- **Clears leave alone what is held.** -/
theorem held_inputAfter :
    (inputAfter steps).1 = (({} : Held).applyAll {} (allEvents steps)).1 := by
  induction steps using List.reverseRecOn with
  | nil => rfl
  | append_singleton steps step ih =>
      cases step with
      | event e =>
          rw [inputAfter_event, ih, allEvents_event, Held.applyAll_snoc]
          exact Held.apply_fst_congr e _ _ _
      | clear => rw [inputAfter_clear, ih, allEvents_clear]

theorem held_congr {steps steps' : List InputStep} (h : allEvents steps' = allEvents steps) :
    (inputAfter steps').1 = (inputAfter steps).1 := by
  rw [held_inputAfter, held_inputAfter, h]

end Histories

/-! ## Switches -/

/-- Where an event leaves a button: down, up, or as it was. -/
def Button.turned? (b : Button) : InputEvent → Option Bool
  | .pointerButton button .pressed => if button = b then some true else none
  | .pointerButton button .released => if button = b then some false else none
  | .focused false => some false
  | _ => none

/-- What the last event that turned something has turned it to; `start` if there was none. -/
def lastTurn {α : Type} (turned? : InputEvent → Option α) (start : α)
    (events : List InputEvent) : α :=
  ((events.filterMap turned?).getLast?).getD start

/-- Whether the last of the events that turn a switch turned it on. -/
def switchedOn (turned? : InputEvent → Option Bool) (events : List InputEvent) : Bool :=
  lastTurn turned? false events

/-- Whether an event arrived among some events at a moment of a certain kind, judged by all that
came before it. -/
def ArrivedWhen (moment : List InputEvent → Prop) (e : InputEvent)
    (past events : List InputEvent) : Prop :=
  ∃ before after, events = before ++ e :: after ∧ moment (past ++ before)

section Switches

variable (moment : List InputEvent → Prop) (past events : List InputEvent) (e e' : InputEvent)

theorem lastTurn_snoc {α : Type} (turned? : InputEvent → Option α) (start : α) :
    lastTurn turned? start (events ++ [e]) = (turned? e).getD (lastTurn turned? start events) := by
  unfold lastTurn
  rw [List.filterMap_append, List.getLast?_append]
  cases h : turned? e with
  | none => simp [h]
  | some a => simp [h]

/-- Something held that each event turns, or leaves as it was, is as the last turn left it. -/
theorem view_inputAfter {α : Type} (view : Held → α) (turned? : InputEvent → Option α)
    (happly : ∀ held frame e, view (Held.apply held frame e).1 = (turned? e).getD (view held))
    (steps : List InputStep) :
    view (inputAfter steps).1 = lastTurn turned? (view {}) (allEvents steps) := by
  rw [held_inputAfter]
  induction allEvents steps using List.reverseRecOn with
  | nil => rfl
  | append_singleton events e ih => rw [Held.applyAll_snoc, happly, ih, lastTurn_snoc]

theorem not_arrivedWhen_nil : ¬ArrivedWhen moment e past [] := by
  rintro ⟨before, after, hevents, -⟩
  exact List.append_ne_nil_of_right_ne_nil _ (List.cons_ne_nil _ _) hevents.symm

theorem arrivedWhen_snoc :
    ArrivedWhen moment e past (events ++ [e'])
      ↔ ArrivedWhen moment e past events ∨ e' = e ∧ moment (past ++ events) := by
  constructor
  · rintro ⟨before, after, hevents, hmoment⟩
    rcases List.eq_nil_or_concat' after with rfl | ⟨after, last, rfl⟩
    · -- it is the last event, or one before it
      obtain ⟨rfl, he⟩ := List.append_inj' hevents rfl
      exact .inr ⟨List.singleton_inj.mp he, hmoment⟩
    · rw [← List.cons_append, ← List.append_assoc] at hevents
      obtain ⟨rfl, -⟩ := List.append_inj' hevents rfl
      exact .inl ⟨before, after, rfl, hmoment⟩
  · rintro (⟨before, after, rfl, hmoment⟩ | ⟨rfl, hmoment⟩)
    · exact ⟨before, after ++ [e'], by rw [List.append_assoc, List.cons_append], hmoment⟩
    · exact ⟨events, [], rfl, hmoment⟩

end Switches

/-! ## What an event does to the buttons -/

section Buttons

variable (b : Button) (held : Held) (frame : InputFrame) (e : InputEvent)

theorem Held.mem_pressButton (button : Button) :
    b ∈ (held.pressButton frame button).1.buttons ↔ b = button ∨ b ∈ held.buttons := by
  unfold Held.pressButton
  by_cases hdown : held.buttonDown button = true
  · rw [if_pos hdown]
    refine ⟨.inr, ?_⟩
    rintro (rfl | hmem)
    · exact of_decide_eq_true hdown
    · exact hmem
  · rw [if_neg hdown]
    exact mem_insertNew

theorem Held.mem_releaseButton (button : Button) :
    b ∈ (held.releaseButton frame button).1.buttons ↔ b ∈ held.buttons ∧ b ≠ button := by
  unfold Held.releaseButton
  by_cases hdown : held.buttonDown button = true
  · rw [if_pos hdown]
    exact List.mem_filter.trans (and_congr_right fun _ => bne_iff_ne)
  · rw [if_neg hdown]
    refine ⟨fun hmem => ⟨hmem, ?_⟩, And.left⟩
    rintro rfl
    exact hdown (decide_eq_true hmem)

theorem Held.buttonDown_apply :
    (held.apply frame e).1.buttonDown b = (b.turned? e).getD (held.buttonDown b) := by
  cases e with
  | pointerButton button switch =>
      cases switch with
      | pressed =>
          show decide (b ∈ (held.pressButton frame button).1.buttons) = _
          simp only [Held.mem_pressButton]
          by_cases hbutton : button = b
          · simp [Button.turned?, hbutton]
          · simp [Button.turned?, hbutton, Ne.symm hbutton, Held.buttonDown]
      | released =>
          show decide (b ∈ (held.releaseButton frame button).1.buttons) = _
          simp only [Held.mem_releaseButton]
          by_cases hbutton : button = b
          · simp [Button.turned?, hbutton]
          · simp [Button.turned?, hbutton, Ne.symm hbutton, Held.buttonDown]
  | focused focused =>
      cases focused with
      | false => simp [Held.apply, Held.focus, Held.buttonDown, Button.turned?]
      | true => rfl
  | key key switch repeated => cases switch <;> rfl
  | pointerMoved | pointerLeft | wheel => rfl

theorem Held.frameButtons_apply (h : ∀ button switch, e ≠ .pointerButton button switch) :
    (held.apply frame e).2.buttonsPressed = frame.buttonsPressed
      ∧ (held.apply frame e).2.buttonsReleased = frame.buttonsReleased := by
  cases e with
  | pointerButton button switch => exact absurd rfl (h button switch)
  | key key switch repeated =>
      obtain ⟨keys, keysPressed, heq⟩ := held.apply_key frame key switch repeated
      rw [heq]
      exact ⟨rfl, rfl⟩
  | pointerMoved x y =>
      show (held.movePointer frame x y).2.buttonsPressed = _
        ∧ (held.movePointer frame x y).2.buttonsReleased = _
      unfold Held.movePointer
      cases held.pointer <;> exact ⟨rfl, rfl⟩
  | focused | pointerLeft | wheel => exact ⟨rfl, rfl⟩

theorem Held.mem_buttonsPressed_apply :
    b ∈ (held.apply frame e).2.buttonsPressed
      ↔ b ∈ frame.buttonsPressed ∨ e = .pointerButton b .pressed ∧ held.buttonDown b = false := by
  by_cases h : ∃ button switch, e = .pointerButton button switch
  · obtain ⟨button, switch, rfl⟩ := h
    cases switch with
    | pressed =>
        show b ∈ (held.pressButton frame button).2.buttonsPressed ↔ _
        unfold Held.pressButton
        cases hdown : held.buttonDown button with
        | true =>
            refine ⟨.inl, ?_⟩
            rintro (hmem | ⟨⟨⟩, hup⟩)
            · exact hmem
            · exact absurd (hdown.symm.trans hup) (by decide)
        | false =>
            refine mem_insertNew.trans (or_comm.trans (or_congr_right ⟨?_, ?_⟩))
            · rintro rfl
              exact ⟨rfl, hdown⟩
            · rintro ⟨⟨⟩, -⟩
              rfl
    | released =>
        show b ∈ (held.releaseButton frame button).2.buttonsPressed ↔ _
        unfold Held.releaseButton
        split <;> exact ⟨.inl, fun hmem => hmem.elim id nofun⟩
  · rw [(held.frameButtons_apply frame e fun button switch he => h ⟨button, switch, he⟩).1]
    exact ⟨.inl, fun hmem => hmem.elim id fun he => absurd ⟨_, _, he.1⟩ h⟩

theorem Held.mem_buttonsReleased_apply :
    b ∈ (held.apply frame e).2.buttonsReleased
      ↔ b ∈ frame.buttonsReleased ∨ e = .pointerButton b .released ∧ held.buttonDown b = true := by
  by_cases h : ∃ button switch, e = .pointerButton button switch
  · obtain ⟨button, switch, rfl⟩ := h
    cases switch with
    | pressed =>
        show b ∈ (held.pressButton frame button).2.buttonsReleased ↔ _
        unfold Held.pressButton
        split <;> exact ⟨.inl, fun hmem => hmem.elim id nofun⟩
    | released =>
        show b ∈ (held.releaseButton frame button).2.buttonsReleased ↔ _
        unfold Held.releaseButton
        cases hdown : held.buttonDown button with
        | true =>
            refine mem_insertNew.trans (or_comm.trans (or_congr_right ⟨?_, ?_⟩))
            · rintro rfl
              exact ⟨rfl, hdown⟩
            · rintro ⟨⟨⟩, -⟩
              rfl
        | false =>
            refine ⟨.inl, ?_⟩
            rintro (hmem | ⟨⟨⟩, hheld⟩)
            · exact hmem
            · exact absurd (hdown.symm.trans hheld) (by decide)
  · rw [(held.frameButtons_apply frame e fun button switch he => h ⟨button, switch, he⟩).2]
    exact ⟨.inl, fun hmem => hmem.elim id fun he => absurd ⟨_, _, he.1⟩ h⟩

end Buttons

/-! ## Sets and their histories -/

section Sets

variable (steps : List InputStep) (k : Key) (b : Button)

theorem keyDown_inputAfter :
    (inputAfter steps).1.keyDown k = switchedOn k.turned? (allEvents steps) :=
  view_inputAfter (·.keyDown k) k.turned? (fun held frame e => held.keyDown_apply k frame e) steps

theorem buttonDown_inputAfter :
    (inputAfter steps).1.buttonDown b = switchedOn b.turned? (allEvents steps) :=
  view_inputAfter (·.buttonDown b) b.turned? (fun held frame e => held.buttonDown_apply b frame e)
    steps

/-- A set of a frame that gains a member whenever a certain event arrives at a certain moment, and
no other way. -/
theorem mem_frame_iff {α : Type} (reported : InputFrame → List α) (arrival : α → InputEvent)
    (turned? : α → InputEvent → Option Bool) (down : Bool) (hempty : reported {} = [])
    (happly : ∀ steps a e, a ∈ reported ((inputAfter steps).1.apply (inputAfter steps).2 e).2
      ↔ a ∈ reported (inputAfter steps).2
        ∨ e = arrival a ∧ switchedOn (turned? a) (allEvents steps) = down) (a : α) :
    a ∈ reported (inputAfter steps).2
      ↔ ArrivedWhen (switchedOn (turned? a) · = down) (arrival a) (pastEvents steps)
        (frameEvents steps) := by
  induction steps using List.reverseRecOn with
  | nil =>
      show a ∈ reported {} ↔ _
      rw [hempty]
      exact iff_of_false List.not_mem_nil (not_arrivedWhen_nil _ _ _)
  | append_singleton steps step ih =>
      cases step with
      | event e =>
          rw [inputAfter_event, happly, ih, pastEvents_event, frameEvents_event, arrivedWhen_snoc,
            pastEvents_append_frameEvents]
      | clear =>
          rw [inputAfter_clear, frameEvents_clear, hempty]
          exact iff_of_false List.not_mem_nil (not_arrivedWhen_nil _ _ _)

theorem mem_keysPressed_inputAfter :
    k ∈ (inputAfter steps).2.keysPressed
      ↔ ArrivedWhen (switchedOn k.turned? · = false) (.key k .pressed false) (pastEvents steps)
        (frameEvents steps) :=
  mem_frame_iff steps InputFrame.keysPressed (fun k => .key k .pressed false) Key.turned? false rfl
    (fun steps k e => by rw [Held.mem_keysPressed_apply, keyDown_inputAfter]) k

theorem mem_buttonsPressed_inputAfter :
    b ∈ (inputAfter steps).2.buttonsPressed
      ↔ ArrivedWhen (switchedOn b.turned? · = false) (.pointerButton b .pressed) (pastEvents steps)
        (frameEvents steps) :=
  mem_frame_iff steps InputFrame.buttonsPressed (fun b => .pointerButton b .pressed) Button.turned?
    false rfl (fun steps b e => by rw [Held.mem_buttonsPressed_apply, buttonDown_inputAfter]) b

theorem mem_buttonsReleased_inputAfter :
    b ∈ (inputAfter steps).2.buttonsReleased
      ↔ ArrivedWhen (switchedOn b.turned? · = true) (.pointerButton b .released) (pastEvents steps)
        (frameEvents steps) :=
  mem_frame_iff steps InputFrame.buttonsReleased (fun b => .pointerButton b .released)
    Button.turned? true rfl
    (fun steps b e => by rw [Held.mem_buttonsReleased_apply, buttonDown_inputAfter]) b

end Sets

/-- What is held, and what the frame has seen of keys and buttons, after some steps. -/
structure FollowsHistory (steps : List InputStep) : Prop where
  /-- A key is held if the last press of it, release of it or loss of focus was a press. -/
  keys (k : Key) : k ∈ (inputAfter steps).1.keys
    ↔ switchedOn k.turned? (allEvents steps) = true
  buttons (b : Button) : b ∈ (inputAfter steps).1.buttons
    ↔ switchedOn b.turned? (allEvents steps) = true
  /-- It was pressed if a press that is no repeat has arrived, since the last clear, at a moment
  when it was up. -/
  keysPressed (k : Key) : k ∈ (inputAfter steps).2.keysPressed
    ↔ ArrivedWhen (switchedOn k.turned? · = false) (.key k .pressed false) (pastEvents steps)
      (frameEvents steps)
  buttonsPressed (b : Button) : b ∈ (inputAfter steps).2.buttonsPressed
    ↔ ArrivedWhen (switchedOn b.turned? · = false) (.pointerButton b .pressed) (pastEvents steps)
      (frameEvents steps)
  /-- A button was let go of if its release has arrived at a moment when it was down. -/
  buttonsReleased (b : Button) : b ∈ (inputAfter steps).2.buttonsReleased
    ↔ ArrivedWhen (switchedOn b.turned? · = true) (.pointerButton b .released) (pastEvents steps)
      (frameEvents steps)
  /-- A repeat, or a press of a key that is down, is not seen by the frame. -/
  repeats (k : Key) (repeated : Bool) : repeated = true ∨ k ∈ (inputAfter steps).1.keys →
    (inputAfter (steps ++ [.event (.key k .pressed repeated)])).2 = (inputAfter steps).2
  /-- Neither is a change of focus, whatever it lets go of. -/
  focus (focused : Bool) :
    (inputAfter (steps ++ [.event (.focused focused)])).2 = (inputAfter steps).2
  /-- What is held does not depend on where the clears fall. -/
  held (steps' : List InputStep) : allEvents steps' = allEvents steps →
    (inputAfter steps').1 = (inputAfter steps).1

/-- **Every set says of the history what it is named for**, in whatever order events and clears
come. -/
theorem followsHistory_after (steps : List InputStep) : FollowsHistory steps where
  keys k := by
    rw [← keyDown_inputAfter]
    exact decide_eq_true_iff.symm
  buttons b := by
    rw [← buttonDown_inputAfter]
    exact decide_eq_true_iff.symm
  keysPressed := mem_keysPressed_inputAfter steps
  buttonsPressed := mem_buttonsPressed_inputAfter steps
  buttonsReleased := mem_buttonsReleased_inputAfter steps
  repeats k repeated h := by
    have hstale : (!(inputAfter steps).1.keyDown k && !repeated) = false := by
      rcases h with rfl | hdown
      · exact Bool.and_false _
      · rw [Held.keyDown, decide_eq_true hdown]
        rfl
    rw [inputAfter_event]
    show (if _ then _ else _) = _
    rw [hstale]
    rfl
  focus focused := by rw [inputAfter_event]; rfl
  held _ h := held_congr h

/-- After a loss of focus a repeat takes hold of its key again, and a press that follows is none. -/
example :
    let state := inputAfter [.event (.key .escape .pressed false), .event (.focused false), .clear,
      .event (.key .escape .pressed true), .event (.key .escape .pressed false)]
    .escape ∈ state.1.keys ∧ state.2.keysPressed = [] := by
  decide

end Facet
