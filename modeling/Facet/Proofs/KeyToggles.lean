import Mathlib
import Facet.Viewer

/-!
# Keys that toggle

A key toggles a setting once for every frame in which it went down, however often it went down in
that frame, repeated by itself or was let go of with the focus in between. Which keys went down is
read off the events here, without the sets that `Held` and `InputFrame` keep.

The set of pressed keys has no order of its own, so each frame of a run comes with the order in
which the set happens to be listed.
-/

namespace Facet

/-! ## What the events say -/

/-- Where an event leaves a key: down, up, or as it was. -/
def Key.turned? (k : Key) : InputEvent → Option Bool
  | .key key .pressed _ => if key = k then some true else none
  | .key key .released _ => if key = k then some false else none
  | .focused false => some false
  | _ => none

/-- Whether a key is down after events: as the last that turned it says, or else as it was held. -/
def Key.downAfter (k : Key) (held : Held) (events : List InputEvent) : Bool :=
  ((events.filterMap k.turned?).getLast?).getD (held.keyDown k)

/-- Whether events that follow a past have a press of the key, not a repeated one, at a moment when
the key was up. -/
def Key.pressedIn (k : Key) (held : Held) (past events : List InputEvent) : Bool :=
  (List.range events.length).any fun i =>
    events[i]? = some (.key k .pressed false) && !k.downAfter held (past ++ events.take i)

/-- For each frame, whether the key was pressed in it. -/
def Key.pressedFrames (k : Key) (held : Held) :
    (past : List InputEvent) → List (List InputEvent) → List Bool
  | _, [] => []
  | past, events :: frames =>
    k.pressedIn held past events :: k.pressedFrames held (past ++ events) frames

/-! ## Runs -/

/-- An order in which a set of keys may be listed. -/
structure KeyOrder where
  list : List Key → List Key
  list_perm : ∀ keys, (list keys).Perm keys

/-- The events of a frame, and the order in which its pressed keys are listed. -/
structure KeyFrame where
  events : List InputEvent
  order : KeyOrder

/-- A viewer that obeys keys, and what each frame so far told the program. -/
structure KeyRun where
  viewer : Viewer
  device : Device
  held : Held
  frame : InputFrame := {}
  controls : List Control := []

namespace KeyRun

def start (v : Viewer) (held : Held) (d : Device) : KeyRun := { viewer := v, device := d, held }

/-- What the events of a frame make of the input, the pressed keys listed in the frame's order. -/
def feed (run : KeyRun) (f : KeyFrame) : Held × InputFrame :=
  let fed := run.held.applyAll run.frame f.events
  (fed.1, { fed.2 with keysPressed := f.order.list fed.2.keysPressed })

def step (run : KeyRun) (f : KeyFrame) : KeyRun :=
  let fed := run.feed f
  let applied := run.viewer.applyKeys fed.2 run.device
  { viewer := applied.2.1
    device := applied.2.2
    held := fed.1
    frame := fed.2.clear
    controls := run.controls ++ [applied.1] }

def after (run : KeyRun) (frames : List KeyFrame) : KeyRun := frames.foldl step run

end KeyRun

/-! ## Held and pressed keys -/

section Held

variable (k : Key) (held : Held) (frame : InputFrame)

@[simp]
theorem mem_insertNew {α : Type} [DecidableEq α] {a b : α} {s : List α} :
    a ∈ insertNew b s ↔ a = b ∨ a ∈ s := by
  unfold insertNew
  by_cases hb : b ∈ s
  · rw [if_pos hb]
    constructor
    · exact .inr
    · rintro (rfl | ha)
      · exact hb
      · exact ha
  · rw [if_neg hb, List.mem_append, List.mem_singleton, or_comm]

theorem nodup_insertNew {α : Type} [DecidableEq α] {s : List α} (h : s.Nodup) (a : α) :
    (insertNew a s).Nodup := by
  unfold insertNew
  by_cases ha : a ∈ s
  · rwa [if_pos ha]
  · rw [if_neg ha]
    exact h.append (List.nodup_singleton a) (by simpa using ha)

theorem Held.keys_pressButton (button : Button) :
    (held.pressButton frame button).1.keys = held.keys
      ∧ (held.pressButton frame button).2.keysPressed = frame.keysPressed := by
  unfold Held.pressButton
  split <;> exact ⟨rfl, rfl⟩

theorem Held.keys_releaseButton (button : Button) :
    (held.releaseButton frame button).1.keys = held.keys
      ∧ (held.releaseButton frame button).2.keysPressed = frame.keysPressed := by
  unfold Held.releaseButton
  split <;> exact ⟨rfl, rfl⟩

theorem Held.keysPressed_movePointer (x y : Float32) :
    (held.movePointer frame x y).2.keysPressed = frame.keysPressed := by
  unfold Held.movePointer
  cases held.pointer <;> rfl

theorem Held.keyDown_apply (e : InputEvent) :
    (held.apply frame e).1.keyDown k = (k.turned? e).getD (held.keyDown k) := by
  cases e with
  | key key switch repeated =>
      cases switch with
      | pressed =>
          by_cases hkey : key = k
          · simp [Held.apply, Held.pressKey, Held.keyDown, Key.turned?, hkey]
          · simp [Held.apply, Held.pressKey, Held.keyDown, Key.turned?, hkey, Ne.symm hkey]
      | released =>
          by_cases hkey : key = k
          · simp [Held.apply, Held.keyDown, Key.turned?, hkey]
          · simp [Held.apply, Held.keyDown, Key.turned?, hkey, Ne.symm hkey]
  | focused focused =>
      cases focused with
      | false => simp [Held.apply, Held.focus, Held.keyDown, Key.turned?]
      | true => rfl
  | pointerButton button switch =>
      unfold Held.keyDown
      cases switch with
      | pressed => exact congrArg (decide <| k ∈ ·) (held.keys_pressButton frame button).1
      | released => exact congrArg (decide <| k ∈ ·) (held.keys_releaseButton frame button).1
  | pointerMoved x y => rfl
  | pointerLeft => rfl
  | wheel motion => rfl

/-- Everything an event can do to the pressed keys. -/
theorem Held.keysPressed_apply (e : InputEvent) :
    (held.apply frame e).2.keysPressed = frame.keysPressed
        ∧ (e = .key k .pressed false → held.keyDown k = true)
      ∨ ∃ key, e = .key key .pressed false ∧ held.keyDown key = false
        ∧ (held.apply frame e).2.keysPressed = insertNew key frame.keysPressed := by
  cases e with
  | key key switch repeated =>
      cases switch with
      | pressed =>
          cases hdown : held.keyDown key <;> cases repeated
          · -- neither held nor a repeat
            refine .inr ⟨key, rfl, hdown, ?_⟩
            simp [Held.apply, Held.pressKey, hdown]
          all_goals
            refine .inl ⟨by simp [Held.apply, Held.pressKey, hdown], ?_⟩
            rintro ⟨⟩
          exact hdown
      | released => exact .inl ⟨rfl, nofun⟩
  | focused focused => exact .inl ⟨rfl, nofun⟩
  | pointerButton button switch =>
      cases switch with
      | pressed => exact .inl ⟨(held.keys_pressButton frame button).2, nofun⟩
      | released => exact .inl ⟨(held.keys_releaseButton frame button).2, nofun⟩
  | pointerMoved x y => exact .inl ⟨held.keysPressed_movePointer frame x y, nofun⟩
  | pointerLeft => exact .inl ⟨rfl, nofun⟩
  | wheel motion => exact .inl ⟨rfl, nofun⟩

theorem Held.mem_keysPressed_apply (e : InputEvent) :
    k ∈ (held.apply frame e).2.keysPressed
      ↔ k ∈ frame.keysPressed ∨ e = .key k .pressed false ∧ held.keyDown k = false := by
  rcases held.keysPressed_apply k frame e with ⟨hsame, hdown⟩ | ⟨key, he, hup, hnew⟩
  · -- a press that added nothing found its key down
    rw [hsame]
    refine ⟨.inl, ?_⟩
    rintro (hmem | ⟨he, hup⟩)
    · exact hmem
    · exact absurd (hdown he) (by simp [hup])
  · rw [hnew, mem_insertNew, he, or_comm]
    refine or_congr_right ⟨?_, ?_⟩
    · rintro rfl
      exact ⟨rfl, hup⟩
    · rintro ⟨heq, -⟩
      injection heq with heq
      exact heq.symm

theorem Held.nodup_keysPressed_apply (e : InputEvent) (h : frame.keysPressed.Nodup) :
    (held.apply frame e).2.keysPressed.Nodup := by
  rcases held.keysPressed_apply .escape frame e with ⟨hsame, -⟩ | ⟨key, -, -, hnew⟩
  · rwa [hsame]
  · rw [hnew]
    exact nodup_insertNew h key

end Held

section Events

variable (k : Key) (held : Held) (past events : List InputEvent) (e : InputEvent)

theorem Held.applyAll_snoc (frame : InputFrame) :
    held.applyAll frame (events ++ [e])
      = (held.applyAll frame events).1.apply (held.applyAll frame events).2 e := by
  unfold Held.applyAll
  rw [List.foldl_append, List.foldl_cons, List.foldl_nil]

theorem Key.downAfter_snoc :
    k.downAfter held (events ++ [e]) = (k.turned? e).getD (k.downAfter held events) := by
  unfold Key.downAfter
  rw [List.filterMap_append, List.getLast?_append]
  cases h : k.turned? e with
  | none => simp [h]
  | some down => simp [h]

theorem Key.pressedIn_snoc :
    k.pressedIn held past (events ++ [e])
      = (k.pressedIn held past events
        || (e = .key k .pressed false && !k.downAfter held (past ++ events))) := by
  unfold Key.pressedIn
  rw [List.length_append, List.length_singleton, List.range_succ, List.any_append]
  congr 1
  · -- the earlier moments are those there were
    rw [Bool.eq_iff_iff, List.any_eq_true, List.any_eq_true]
    refine exists_congr fun i => and_congr_right fun hi => ?_
    have hlt := List.mem_range.mp hi
    rw [List.getElem?_append_left hlt, List.take_append_of_le_length hlt.le]
  · simp

theorem Key.pressedFrames_cons (frames : List (List InputEvent)) :
    k.pressedFrames held past (events :: frames)
      = k.pressedIn held past events :: k.pressedFrames held (past ++ events) frames := rfl

theorem Held.keyDown_applyAll (frame : InputFrame) :
    (held.applyAll frame events).1.keyDown k = k.downAfter held events := by
  induction events using List.reverseRecOn with
  | nil => rfl
  | append_singleton events e ih =>
      rw [Held.applyAll_snoc, Held.keyDown_apply, ih, Key.downAfter_snoc]

theorem Key.downAfter_append {start : Held}
    (h : ∀ k : Key, start.keyDown k = k.downAfter held past) :
    k.downAfter start events = k.downAfter held (past ++ events) := by
  induction events using List.reverseRecOn with
  | nil => rw [List.append_nil, ← h k]; rfl
  | append_singleton events e ih =>
      rw [Key.downAfter_snoc, ih, ← List.append_assoc, Key.downAfter_snoc]

theorem Held.mem_keysPressed_applyAll {start : Held}
    (h : ∀ k : Key, start.keyDown k = k.downAfter held past) :
    k ∈ (start.applyAll {} events).2.keysPressed ↔ k.pressedIn held past events = true := by
  induction events using List.reverseRecOn with
  | nil => exact ⟨fun hmem => absurd hmem List.not_mem_nil, fun hmem => Bool.noConfusion hmem⟩
  | append_singleton events e ih =>
      rw [Held.applyAll_snoc, Held.mem_keysPressed_apply, ih, Held.keyDown_applyAll,
        Key.downAfter_append k held past events h, Key.pressedIn_snoc]
      simp

theorem Held.nodup_keysPressed_applyAll : (held.applyAll {} events).2.keysPressed.Nodup := by
  induction events using List.reverseRecOn with
  | nil => exact List.nodup_nil
  | append_singleton events e ih =>
      rw [Held.applyAll_snoc]
      exact Held.nodup_keysPressed_apply _ _ e ih

end Events

/-! ## Commands -/

def ViewerCommand.key : ViewerCommand → Key
  | toggleFaces => .f
  | toggleEdges => .e
  | toggleRayTracing => .r
  | exit => .escape

theorem ViewerCommand.ofKey?_eq_some_iff {key : Key} {c : ViewerCommand} :
    ofKey? key = some c ↔ key = c.key := by
  constructor
  · unfold ofKey?
    intro h
    split_ifs at h with hf he hr hescape
    all_goals
      injection h with h
      subst h
      assumption
  · rintro rfl
    cases c <;> decide

theorem ViewerCommand.count_filterMap_ofKey? (keys : List Key) (c : ViewerCommand) :
    (keys.filterMap ofKey?).count c = keys.count c.key := by
  rw [List.count, List.count, List.countP_filterMap]
  refine List.countP_congr ?_
  intro key _
  rw [beq_iff_eq, ← ofKey?_eq_some_iff]
  cases ofKey? key <;> simp

/-- Settings whose toggles have been flipped, each as often as its command is counted. -/
def RenderSettings.flipped (s : RenderSettings) (count : ViewerCommand → Nat) : RenderSettings :=
  { s with
    drawFaces := Bool.not^[count .toggleFaces] s.drawFaces
    drawEdges := Bool.not^[count .toggleEdges] s.drawEdges
    rayTracing := Bool.not^[count .toggleRayTracing] s.rayTracing }

def Viewer.flipped (v : Viewer) (count : ViewerCommand → Nat) : Viewer :=
  { v with settings := v.settings.flipped count }

theorem RenderSettings.flipped_flipped (s : RenderSettings) (m n : ViewerCommand → Nat) :
    (s.flipped m).flipped n = s.flipped fun c => m c + n c := by
  unfold flipped
  simp only [Nat.add_comm (m _), Function.iterate_add_apply]

theorem Viewer.flipped_flipped (v : Viewer) (m n : ViewerCommand → Nat) :
    (v.flipped m).flipped n = v.flipped fun c => m c + n c :=
  congrArg (fun settings => { v with settings }) (v.settings.flipped_flipped m n)

namespace Viewer

theorem obey_fst (s : RenderSettings) (c : ViewerCommand) :
    (obey s c).1 = s.flipped fun c' => [c].count c' := by
  cases c <;> rfl

theorem obey_snd_of_ne (s : RenderSettings) {c c' : ViewerCommand} (h : c ≠ c') :
    (obey (obey s c).1 c').2 = (obey s c').2 := by
  cases c <;> cases c' <;> first | rfl | exact absurd rfl h

theorem foldl_obey (s : RenderSettings) (lines : List Log.Line) (commands : List ViewerCommand) :
    commands.foldl (fun state command =>
        ((obey state.1 command).1, state.2 ++ (obey state.1 command).2.toList)) (s, lines)
      = ((obeyAll s commands).1, lines ++ (obeyAll s commands).2) := by
  induction commands using List.reverseRecOn with
  | nil => exact congrArg (Prod.mk s) (List.append_nil lines).symm
  | append_singleton commands c ih =>
      unfold obeyAll at ih ⊢
      rw [List.foldl_append, ih, List.foldl_append]
      exact congrArg (Prod.mk _) (List.append_assoc _ _ _)

theorem obeyAll_cons (s : RenderSettings) (c : ViewerCommand) (commands : List ViewerCommand) :
    obeyAll s (c :: commands) = ((obeyAll (obey s c).1 commands).1,
      (obey s c).2.toList ++ (obeyAll (obey s c).1 commands).2) :=
  foldl_obey (obey s c).1 (obey s c).2.toList commands

theorem obeyAll_fst (s : RenderSettings) (commands : List ViewerCommand) :
    (obeyAll s commands).1 = s.flipped commands.count := by
  induction commands generalizing s with
  | nil => rfl
  | cons c commands ih =>
      rw [obeyAll_cons, ih, obey_fst, RenderSettings.flipped_flipped]
      congr 1
      funext c'
      rw [← List.count_append, List.singleton_append]

/-- Commands given once each report what each would report alone. -/
theorem obeyAll_snd (s : RenderSettings) {commands : List ViewerCommand} (h : commands.Nodup) :
    (obeyAll s commands).2 = commands.filterMap fun c => (obey s c).2 := by
  induction commands generalizing s with
  | nil => rfl
  | cons c commands ih =>
      obtain ⟨hc, hcommands⟩ := List.nodup_cons.mp h
      have hrest : commands.filterMap (fun c' => (obey (obey s c).1 c').2)
          = commands.filterMap fun c' => (obey s c').2 := by
        refine List.filterMap_congr ?_
        intro c' hc'
        exact obey_snd_of_ne s fun heq => hc (heq ▸ hc')
      rw [obeyAll_cons, ih _ hcommands, hrest]
      cases hline : (obey s c).2 <;> simp [hline]

end Viewer

section Frame

variable (v : Viewer) {frame : InputFrame} (d : Device)

/-- What a frame does to the settings: each toggle whose key was pressed is flipped. -/
theorem Viewer.applyKeys_of_nodup (h : frame.keysPressed.Nodup) :
    (v.applyKeys frame d).2.1 = v.flipped (fun c => (frame.keyPressed c.key).toNat)
      ∧ (v.applyKeys frame d).1 = if frame.keyPressed .escape then .exit else .proceed := by
  have hcount : ∀ c : ViewerCommand, (frame.keysPressed.filterMap ViewerCommand.ofKey?).count c
      = (frame.keyPressed c.key).toNat := by
    intro c
    rw [ViewerCommand.count_filterMap_ofKey?, h.count]
    unfold InputFrame.keyPressed
    by_cases hmem : c.key ∈ frame.keysPressed <;> simp [hmem]
  constructor
  · show { v with settings := (Viewer.obeyAll v.settings _).1 } = _
    rw [Viewer.obeyAll_fst]
    exact congrArg v.flipped (funext hcount)
  · have hexit : (frame.keysPressed.filterMap ViewerCommand.ofKey?).contains .exit
        = frame.keyPressed .escape := by
      rw [Bool.eq_iff_iff, List.contains_iff_mem, ← List.count_pos_iff, hcount]
      show 0 < (frame.keyPressed .escape).toNat ↔ _
      cases frame.keyPressed .escape <;> decide
    show (if (frame.keysPressed.filterMap ViewerCommand.ofKey?).contains .exit = true then _ else _)
      = _
    rw [hexit]

theorem Viewer.log_applyKeys_of_nodup (h : frame.keysPressed.Nodup) :
    (v.applyKeys frame d).2.2.log
      = d.log ++ (frame.keysPressed.filterMap ViewerCommand.ofKey?).filterMap
        fun c => (Viewer.obey v.settings c).2 := by
  have hcommands : (frame.keysPressed.filterMap ViewerCommand.ofKey?).Nodup := by
    refine h.filterMap ?_
    intro key key' c hkey hkey'
    rw [ViewerCommand.ofKey?_eq_some_iff.mp hkey, ViewerCommand.ofKey?_eq_some_iff.mp hkey']
  show d.log ++ (Viewer.obeyAll v.settings _).2 = _
  rw [Viewer.obeyAll_snd _ hcommands]

end Frame

/-! ## What a frame of a run does -/

/-- A run between frames, its held keys as the past events say. -/
structure KeyInv (held : Held) (past : List InputEvent) (run : KeyRun) : Prop where
  down : ∀ k : Key, run.held.keyDown k = k.downAfter held past
  cleared : run.frame = {}

section Run

variable {held : Held} {past : List InputEvent} {run run' : KeyRun}

theorem KeyInv.perm_feed (h : KeyInv held past run) (f : KeyFrame) :
    (run.feed f).2.keysPressed.Perm (run.held.applyAll {} f.events).2.keysPressed := by
  unfold KeyRun.feed
  rw [h.cleared]
  exact f.order.list_perm _

theorem KeyInv.nodup_feed (h : KeyInv held past run) (f : KeyFrame) :
    (run.feed f).2.keysPressed.Nodup :=
  (h.perm_feed f).nodup_iff.mpr (Held.nodup_keysPressed_applyAll run.held f.events)

theorem KeyInv.keyPressed_feed (h : KeyInv held past run) (f : KeyFrame) (k : Key) :
    (run.feed f).2.keyPressed k = k.pressedIn held past f.events := by
  unfold InputFrame.keyPressed
  rw [Bool.eq_iff_iff, decide_eq_true_iff, (h.perm_feed f).mem_iff]
  exact Held.mem_keysPressed_applyAll k held past f.events h.down

/-- **One frame flips each toggle at most once**, whichever way its pressed keys are listed. -/
theorem KeyInv.step (h : KeyInv held past run) (f : KeyFrame) :
    KeyInv held (past ++ f.events) (run.step f)
      ∧ (run.step f).viewer
        = run.viewer.flipped (fun c => (c.key.pressedIn held past f.events).toNat)
      ∧ (run.step f).controls = run.controls
          ++ [if Key.escape.pressedIn held past f.events then .exit else .proceed] := by
  obtain ⟨hviewer, hcontrol⟩ := run.viewer.applyKeys_of_nodup run.device (h.nodup_feed f)
  refine ⟨⟨?_, rfl⟩, ?_, ?_⟩
  · intro k
    show (run.held.applyAll run.frame f.events).1.keyDown k = _
    rw [Held.keyDown_applyAll, Key.downAfter_append k held past f.events h.down]
  · refine hviewer.trans ?_
    simp only [h.keyPressed_feed f]
  · show run.controls ++ [(run.viewer.applyKeys (run.feed f).2 run.device).1] = _
    rw [hcontrol, h.keyPressed_feed f]

theorem KeyInv.after (h : KeyInv held past run) (frames : List KeyFrame) :
    (run.after frames).viewer = run.viewer.flipped
        (fun c => (c.key.pressedFrames held past (frames.map KeyFrame.events)).count true)
      ∧ (run.after frames).controls = run.controls
        ++ (Key.escape.pressedFrames held past (frames.map KeyFrame.events)).map
          fun pressed => if pressed then .exit else .proceed := by
  induction frames generalizing run past with
  | nil => exact ⟨rfl, (List.append_nil _).symm⟩
  | cons f frames ih =>
      -- the events of this frame join the past of the rest
      obtain ⟨hinv, hviewer, hcontrols⟩ := h.step f
      obtain ⟨hviewer', hcontrols'⟩ := ih hinv
      have hafter : run.after (f :: frames) = (run.step f).after frames := rfl
      rw [hafter, hviewer', hcontrols', hviewer, hcontrols, Viewer.flipped_flipped, List.map_cons]
      constructor
      · congr 1
        funext c
        rw [Key.pressedFrames_cons, List.count_cons, Nat.add_comm]
        cases c.key.pressedIn held past f.events <;> rfl
      · rw [Key.pressedFrames_cons, List.map_cons, List.append_assoc, List.singleton_append]

/-! ## The order of pressed keys -/

/-- Two runs that differ at most in the order of their log lines. -/
structure SameOutcome (run run' : KeyRun) : Prop where
  viewer_eq : run.viewer = run'.viewer
  held_eq : run.held = run'.held
  controls_eq : run.controls = run'.controls
  log_perm : run.device.log.Perm run'.device.log

theorem SameOutcome.step (h : SameOutcome run run') (hinv : KeyInv held past run)
    (hinv' : KeyInv held past run') {f f' : KeyFrame} (hevents : f.events = f'.events) :
    SameOutcome (run.step f) (run'.step f') := by
  obtain ⟨-, hviewer, hcontrols⟩ := hinv.step f
  obtain ⟨-, hviewer', hcontrols'⟩ := hinv'.step f'
  have hkeys : (run.feed f).2.keysPressed.Perm (run'.feed f').2.keysPressed := by
    refine (hinv.perm_feed f).trans ?_
    rw [h.held_eq, hevents]
    exact (hinv'.perm_feed f').symm
  refine ⟨?_, ?_, ?_, ?_⟩
  · rw [hviewer, hviewer', h.viewer_eq, hevents]
  · show (run.held.applyAll run.frame f.events).1 = (run'.held.applyAll run'.frame f'.events).1
    rw [h.held_eq, hinv.cleared, hinv'.cleared, hevents]
  · rw [hcontrols, hcontrols', h.controls_eq, hevents]
  · show (run.viewer.applyKeys (run.feed f).2 run.device).2.2.log.Perm
      (run'.viewer.applyKeys (run'.feed f').2 run'.device).2.2.log
    rw [Viewer.log_applyKeys_of_nodup _ _ (hinv.nodup_feed f),
      Viewer.log_applyKeys_of_nodup _ _ (hinv'.nodup_feed f'), h.viewer_eq]
    exact h.log_perm.append ((hkeys.filterMap _).filterMap _)

theorem SameOutcome.after (h : SameOutcome run run') (hinv : KeyInv held past run)
    (hinv' : KeyInv held past run') {frames frames' : List KeyFrame}
    (hevents : frames.map KeyFrame.events = frames'.map KeyFrame.events) :
    SameOutcome (run.after frames) (run'.after frames') := by
  induction frames generalizing run run' past frames' with
  | nil =>
      rw [List.map_nil, eq_comm, List.map_eq_nil_iff] at hevents
      rw [hevents]
      exact h
  | cons f frames ih =>
      cases frames' with
      | nil => exact absurd hevents (List.cons_ne_nil _ _)
      | cons f' frames' =>
          obtain ⟨hf, hframes⟩ := List.cons.inj hevents
          have hnext := hinv.step f
          rw [hf] at hnext
          exact ih (h.step hinv hinv' hf) hnext.1 (hinv'.step f').1 hframes

end Run

theorem keyInv_start (v : Viewer) (held : Held) (d : Device) :
    KeyInv held [] (KeyRun.start v held d) :=
  ⟨fun _ => rfl, rfl⟩

/-- What frames make of a viewer, some keys being held before the first. -/
structure FollowsPresses (v : Viewer) (held : Held) (d : Device) (frames : List KeyFrame) :
    Prop where
  /-- Each toggle has been flipped once for every frame in which its key was pressed; nothing else
  of the viewer has changed. -/
  viewer_eq : ((KeyRun.start v held d).after frames).viewer = { v with
    settings := { v.settings with
      drawFaces := Bool.not^[(Key.f.pressedFrames held [] (frames.map KeyFrame.events)).count true]
        v.settings.drawFaces
      drawEdges := Bool.not^[(Key.e.pressedFrames held [] (frames.map KeyFrame.events)).count true]
        v.settings.drawEdges
      rayTracing := Bool.not^[(Key.r.pressedFrames held [] (frames.map KeyFrame.events)).count true]
        v.settings.rayTracing } }
  /-- The frames that end the program are those in which the exit key was pressed. -/
  controls_eq : ((KeyRun.start v held d).after frames).controls
    = (Key.escape.pressedFrames held [] (frames.map KeyFrame.events)).map
      fun pressed => if pressed then .exit else .proceed
  /-- The order in which pressed keys are listed decides nothing but the order of log lines. -/
  reordered : ∀ frames', frames'.map KeyFrame.events = frames.map KeyFrame.events →
    SameOutcome ((KeyRun.start v held d).after frames') ((KeyRun.start v held d).after frames)

/-- **The settings follow the presses that the events say**, whatever the frames. -/
theorem followsPresses_after (v : Viewer) (held : Held) (d : Device) (frames : List KeyFrame) :
    FollowsPresses v held d frames := by
  have hinv := keyInv_start v held d
  obtain ⟨hviewer, hcontrols⟩ := hinv.after frames
  refine ⟨hviewer, hcontrols, ?_⟩
  intro frames' hevents
  exact SameOutcome.after ⟨rfl, rfl, rfl, .rfl⟩ hinv hinv hevents

/-- Presses that repeat, that find the key down, or that follow its release in the same frame count
for nothing; one after the focus was lost counts. -/
example : Key.f.pressedFrames {} []
    [[.key .f .pressed false, .key .f .pressed true, .key .f .released false,
        .key .f .pressed false],
      [.key .f .pressed false],
      [.focused false, .key .f .pressed true],
      [.key .f .released false, .focused false, .focused true, .key .f .pressed false]]
    = [true, false, false, true] := by decide

end Facet
