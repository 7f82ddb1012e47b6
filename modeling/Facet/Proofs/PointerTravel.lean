import Facet.Proofs.InputHistory
import Facet.Proofs.ScalarRounding

/-!
# Where the travel of the pointer goes

The sum that a frame reports starts over with the frame, but the place that motion is measured from
does not: it survives the clear, and only the pointer's leaving drops it. So the first motion of a
frame is measured across the clear, each motion falls into one frame, and none is counted twice.

`motions` reads the displacements of a frame off the history. The sum is theirs, from left to right.
Where no addition rounds, the sums of frames in a row add up to the way from the first place to the
last (`sum_frameDeltas`), whichever frames the motion is cut into.
-/

namespace Facet

/-! ## What the events say -/

namespace Vec2

instance : Add Vec2 := ⟨fun a b => ⟨a.x + b.x, a.y + b.y⟩⟩
instance : Sub Vec2 := ⟨fun a b => ⟨a.x - b.x, a.y - b.y⟩⟩

/-- The pair of numbers that a displacement stands for. -/
def value (v : Vec2) : ℚ × ℚ := (Scalar.value v.x, Scalar.value v.y)

theorem value_zero : value {} = 0 := Prod.ext Scalar.value_zero Scalar.value_zero

end Vec2

namespace InputEvent

/-- Where an event leaves the pointer: at a place, outside, or as it was. -/
def pointer? : InputEvent → Option (Option Vec2)
  | pointerMoved x y => some (some ⟨x, y⟩)
  | pointerLeft => some none
  | _ => none

def moved? : InputEvent → Option Vec2
  | pointerMoved x y => some ⟨x, y⟩
  | _ => none

def wheel? : InputEvent → Option Float32
  | wheel motion => some motion.verticalLines
  | _ => none

end InputEvent

/-- The place of the pointer after some events: that of the last motion, unless it has left
since. -/
def lastPlace? (events : List InputEvent) : Option Vec2 := lastTurn InputEvent.pointer? none events

/-- The displacement that an event means after a past: from the last place, if there is one. -/
def motion? (past : List InputEvent) (e : InputEvent) : Option Vec2 :=
  e.moved?.bind fun q => (lastPlace? past).map fun p => q - p

/-- The displacements that some events mean after a past. -/
def motions : List InputEvent → List InputEvent → List Vec2
  | _, [] => []
  | past, e :: events => (motion? past e).toList ++ motions (past ++ [e]) events

section Events

variable (past events : List InputEvent) (e : InputEvent)

theorem motions_append (events' : List InputEvent) :
    motions past (events ++ events') = motions past events ++ motions (past ++ events) events' := by
  induction events generalizing past with
  | nil => simp [motions]
  | cons e events ih => simp [motions, ih]

theorem Held.pointer_apply (held : Held) (frame : InputFrame) :
    (held.apply frame e).1.pointer = e.pointer?.getD held.pointer := by
  cases e with
  | focused focused => cases focused <;> rfl
  | pointerButton button switch =>
      obtain ⟨buttons, pressed, released, heq⟩ := held.apply_pointerButton frame button switch
      rw [heq]
      rfl
  | key key switch repeated => cases switch <;> rfl
  | pointerMoved | pointerLeft | wheel => rfl

/-- What an event adds to the sums of a frame. -/
theorem Held.sums_apply (held : Held) (frame : InputFrame) :
    (held.apply frame e).2.pointerDelta
        = ((e.moved?.bind fun q => held.pointer.map fun p => q - p).toList).foldl (· + ·)
          frame.pointerDelta
      ∧ (held.apply frame e).2.wheelLines = (e.wheel?.toList).foldl (· + ·) frame.wheelLines := by
  cases e with
  | pointerMoved x y =>
      show (held.movePointer frame x y).2.pointerDelta = _
        ∧ (held.movePointer frame x y).2.wheelLines = _
      unfold Held.movePointer
      cases held.pointer <;> exact ⟨rfl, rfl⟩
  | pointerButton button switch =>
      obtain ⟨buttons, pressed, released, heq⟩ := held.apply_pointerButton frame button switch
      rw [heq]
      exact ⟨rfl, rfl⟩
  | key key switch repeated =>
      obtain ⟨keys, pressed, heq⟩ := held.apply_key frame key switch repeated
      rw [heq]
      exact ⟨rfl, rfl⟩
  | focused | pointerLeft | wheel => exact ⟨rfl, rfl⟩

end Events

/-! ## What the frame says -/

section Sums

variable (steps : List InputStep)

def total (ds : List Vec2) : Vec2 := ds.foldl (· + ·) {}

theorem pointer_inputAfter : (inputAfter steps).1.pointer = lastPlace? (allEvents steps) :=
  view_inputAfter Held.pointer InputEvent.pointer? (fun held frame e => held.pointer_apply e frame)
    steps

theorem pointerDelta_inputAfter :
    (inputAfter steps).2.pointerDelta = total (motions (pastEvents steps) (frameEvents steps)) := by
  induction steps using List.reverseRecOn with
  | nil => rfl
  | append_singleton steps step ih =>
      cases step with
      | event e =>
          rw [inputAfter_event, (Held.sums_apply e _ _).1, ih, pointer_inputAfter,
            pastEvents_event, frameEvents_event, motions_append, pastEvents_append_frameEvents,
            total, total, List.foldl_append]
          simp [motions, motion?]
      | clear =>
          rw [inputAfter_clear, frameEvents_clear]
          rfl

theorem wheelLines_inputAfter :
    (inputAfter steps).2.wheelLines
      = ((frameEvents steps).filterMap InputEvent.wheel?).foldl (· + ·) 0 := by
  induction steps using List.reverseRecOn with
  | nil => rfl
  | append_singleton steps step ih =>
      cases step with
      | event e =>
          rw [inputAfter_event, (Held.sums_apply e _ _).2, ih, frameEvents_event,
            List.filterMap_append, List.foldl_append]
          cases h : e.wheel? <;> simp [h]
      | clear =>
          rw [inputAfter_clear, frameEvents_clear]
          rfl

end Sums

/-! ## Frames in a row -/

/-- The travel that some frames report, the first going on from what there is. -/
def frameDeltas : List InputStep → List (List InputEvent) → List Vec2
  | _, [] => []
  | steps, events :: frames =>
    let fed := steps ++ events.map .event
    (inputAfter fed).2.pointerDelta :: frameDeltas (fed ++ [.clear]) frames

/-- The places where the pointer has been during some events, that at their start included. -/
def places (past events : List InputEvent) : List Vec2 :=
  (lastPlace? past).toList ++ events.filterMap InputEvent.moved?

/-- No addition rounds when displacements are added to a sum, from left to right. -/
def ExactSum : Vec2 → List Vec2 → Prop
  | _, [] => True
  | sum, d :: ds => (sum + d).value = sum.value + d.value ∧ ExactSum (sum + d) ds

instance decidableExactSum : (sum : Vec2) → (ds : List Vec2) → Decidable (ExactSum sum ds)
  | _, [] => inferInstanceAs (Decidable True)
  | sum, d :: ds =>
    have := decidableExactSum (sum + d) ds
    inferInstanceAs (Decidable (_ ∧ _))

/-- No addition rounds in any of some frames. -/
def ExactFrames : List InputEvent → List (List InputEvent) → Prop
  | _, [] => True
  | past, events :: frames =>
    ExactSum {} (motions past events) ∧ ExactFrames (past ++ events) frames

instance decidableExactFrames : (past : List InputEvent) → (frames : List (List InputEvent)) →
    Decidable (ExactFrames past frames)
  | _, [] => inferInstanceAs (Decidable True)
  | past, events :: frames =>
    have := decidableExactFrames (past ++ events) frames
    inferInstanceAs (Decidable (_ ∧ _))

/-- Nor does a subtraction, between the places that the pointer goes through. -/
def ExactPlaces (past events : List InputEvent) : Prop :=
  (places past events).IsChain fun p q => (q - p).value = q.value - p.value

instance (past events : List InputEvent) : Decidable (ExactPlaces past events) :=
  inferInstanceAs (Decidable (List.IsChain _ _))

theorem ExactSum.value_foldl {sum : Vec2} {ds : List Vec2} (h : ExactSum sum ds) :
    (ds.foldl (· + ·) sum).value = sum.value + (ds.map Vec2.value).sum := by
  induction ds generalizing sum with
  | nil => exact (add_zero _).symm
  | cons d ds ih =>
      rw [List.foldl_cons, ih h.2, h.1, List.map_cons, List.sum_cons, add_assoc]

/-- An event that the pointer stays for is no displacement, and the places are the same whether they
are counted before or after it; or it is one, from the first of them to the second. -/
theorem motion_cases {e : InputEvent} (past events : List InputEvent) (hstay : e ≠ .pointerLeft) :
    (motion? past e = none ∧ places past (e :: events) = places (past ++ [e]) events)
      ∨ ∃ p q rest, motion? past e = some (q - p) ∧ places (past ++ [e]) events = q :: rest
        ∧ places past (e :: events) = p :: q :: rest := by
  cases hmoved : e.moved? with
  | none =>
      have hpointer : e.pointer? = none := by
        cases e with
        | pointerMoved x y => exact absurd hmoved (by simp [InputEvent.moved?])
        | pointerLeft => exact absurd rfl hstay
        | _ => rfl
      have hplace : lastPlace? (past ++ [e]) = lastPlace? past := by
        rw [lastPlace?, lastTurn_snoc, hpointer]
        rfl
      exact .inl ⟨by simp [motion?, hmoved], by simp [places, hplace, hmoved]⟩
  | some q =>
      have hplace : lastPlace? (past ++ [e]) = some q := by
        cases e with
        | pointerMoved x y =>
            rw [lastPlace?, lastTurn_snoc]
            exact hmoved
        | _ => exact absurd hmoved (by simp [InputEvent.moved?])
      cases hpast : lastPlace? past with
      | none =>
          -- the first place after the pointer was away
          exact .inl ⟨by simp [motion?, hmoved, hpast], by simp [places, hplace, hmoved, hpast]⟩
      | some p =>
          exact .inr ⟨p, q, events.filterMap InputEvent.moved?, by simp [motion?, hmoved, hpast],
            by simp [places, hplace], by simp [places, hmoved, hpast]⟩

/-- Displacements between places in a row add up to the way from the first place to the last. -/
theorem sum_motions {past events : List InputEvent} (hstay : .pointerLeft ∉ events)
    (hexact : ExactPlaces past events)
    {first last : Vec2} (hfirst : (places past events).head? = some first)
    (hlast : (places past events).getLast? = some last) :
    ((motions past events).map Vec2.value).sum = last.value - first.value := by
  induction events generalizing past first with
  | nil =>
      have hsame : first = last := by
        cases h : lastPlace? past with
        | none => simp [places, h] at hfirst
        | some p => simp_all [places]
      rw [hsame, sub_self]
      rfl
  | cons e events ih =>
      rw [List.mem_cons, not_or] at hstay
      obtain ⟨he, hstay'⟩ := hstay
      -- the place that the pointer has come to is the first one of what is left
      rcases motion_cases past events (Ne.symm he) with
        ⟨hmotion, hplaces⟩ | ⟨p, q, rest, hmotion, hafter, hplaces⟩
      · unfold ExactPlaces at hexact
        rw [hplaces] at hexact hfirst hlast
        rw [motions, hmotion]
        exact ih hstay' hexact hfirst hlast
      · unfold ExactPlaces at hexact
        rw [hplaces] at hexact hfirst hlast
        obtain ⟨hstep, hrest⟩ := List.isChain_cons_cons.mp hexact
        obtain rfl := Option.some.inj hfirst
        rw [List.getLast?_cons_cons, ← hafter] at hlast
        rw [← hafter] at hrest
        have hsum := ih hstay' hrest (by rw [hafter]; rfl) hlast
        rw [motions, hmotion, Option.toList_some, List.singleton_append, List.map_cons,
          List.sum_cons, hstep, hsum]
        abel

theorem frameEvents_events (steps : List InputStep) (events : List InputEvent) :
    pastEvents (steps ++ events.map .event) = pastEvents steps
      ∧ frameEvents (steps ++ events.map .event) = frameEvents steps ++ events
      ∧ allEvents (steps ++ events.map .event) = allEvents steps ++ events := by
  induction events using List.reverseRecOn with
  | nil => simp
  | append_singleton events e ih =>
      obtain ⟨hpast, hframe, hall⟩ := ih
      rw [List.map_append, ← List.append_assoc]
      exact ⟨(pastEvents_event _ e).trans hpast, by
        rw [List.map_singleton, frameEvents_event, hframe, List.append_assoc], by
        rw [List.map_singleton, allEvents_event, hall, List.append_assoc]⟩

/-- The sum of a frame goes on from what there is. -/
theorem pointerDelta_events (steps : List InputStep) (events : List InputEvent) :
    (inputAfter (steps ++ events.map .event)).2.pointerDelta
      = (motions (allEvents steps) events).foldl (· + ·) (inputAfter steps).2.pointerDelta := by
  obtain ⟨hpast, hframe, -⟩ := frameEvents_events steps events
  rw [pointerDelta_inputAfter, pointerDelta_inputAfter, hpast, hframe, motions_append,
    pastEvents_append_frameEvents, total, total, List.foldl_append]

/-- **Whichever frames the motion is cut into**, their sums together are the sum of all of it. -/
theorem sum_frameDeltas {steps : List InputStep} {frames : List (List InputEvent)}
    (hstart : (inputAfter steps).2.pointerDelta = {})
    (hexact : ExactFrames (allEvents steps) frames) :
    ((frameDeltas steps frames).map Vec2.value).sum
      = ((motions (allEvents steps) frames.flatten).map Vec2.value).sum := by
  induction frames generalizing steps with
  | nil => rfl
  | cons events frames ih =>
      obtain ⟨-, -, hall⟩ := frameEvents_events steps events
      have hnext : allEvents (steps ++ events.map .event ++ [.clear])
          = allEvents steps ++ events := by
        rw [allEvents_clear, hall]
      -- the frames that follow start from a clear, with all of this in their past
      have hrest := @ih (steps ++ events.map .event ++ [.clear]) (by rw [inputAfter_clear])
        (by rw [hnext]; exact hexact.2)
      rw [frameDeltas, List.map_cons, List.sum_cons, hrest, hnext, pointerDelta_events, hstart,
        hexact.1.value_foldl, Vec2.value_zero, zero_add, List.flatten_cons, motions_append,
        List.map_append, List.sum_append]

/-- What the pointer and the wheel have come to, after some steps. -/
structure CountsMotionOnce (steps : List InputStep) : Prop where
  /-- The travel of a frame is the sum, from left to right, of the displacements since the last
  clear, each from the place before it, on whichever side of the clear that was. -/
  pointerDelta : (inputAfter steps).2.pointerDelta
    = (motions (pastEvents steps) (frameEvents steps)).foldl (· + ·) {}
  wheelLines : (inputAfter steps).2.wheelLines
    = ((frameEvents steps).filterMap InputEvent.wheel?).foldl (· + ·) 0
  /-- What lasts does not depend on where the clears fall. -/
  held (steps' : List InputStep) : allEvents steps' = allEvents steps →
    (inputAfter steps').1 = (inputAfter steps).1
  /-- Frames in a row in which the pointer stays, and in which no addition rounds, report together
  the way from the first place to the last. -/
  conserved (frames : List (List InputEvent)) :
    (inputAfter steps).2.pointerDelta = {} → .pointerLeft ∉ frames.flatten →
    ExactFrames (allEvents steps) frames → ExactPlaces (allEvents steps) frames.flatten →
    ∀ first last,
    (places (allEvents steps) frames.flatten).head? = some first →
    (places (allEvents steps) frames.flatten).getLast? = some last →
    ((frameDeltas steps frames).map Vec2.value).sum = last.value - first.value

/-- **No motion is lost between frames, and none counted twice.** -/
theorem countsMotionOnce_after (steps : List InputStep) : CountsMotionOnce steps where
  pointerDelta := pointerDelta_inputAfter steps
  wheelLines := wheelLines_inputAfter steps
  held _ h := held_congr h
  conserved frames hstart hstay hsums hplaces first last hfirst hlast := by
    rw [sum_frameDeltas hstart hsums]
    exact sum_motions hstay hplaces hfirst hlast

/-- A pointer that comes back with a jump, which counts for nothing, and then moves on across two
clears and a loss of focus. -/
theorem countsMotionOnce_threeFrames :
    let steps : List InputStep :=
      [.event (.pointerMoved 1 1), .clear, .event .pointerLeft, .event (.pointerMoved 10 10)]
    let frames : List (List InputEvent) :=
      [[.pointerMoved 13 8, .focused false], [.wheel (.lines 0 1)], [.pointerMoved 15 (37 / 4)]]
    (inputAfter steps).2.pointerDelta = {} ∧ .pointerLeft ∉ frames.flatten
      ∧ ExactFrames (allEvents steps) frames ∧ ExactPlaces (allEvents steps) frames.flatten
      ∧ (places (allEvents steps) frames.flatten).head? = some ⟨10, 10⟩
      ∧ (places (allEvents steps) frames.flatten).getLast? = some ⟨15, 37 / 4⟩
      ∧ ((frameDeltas steps frames).map Vec2.value).sum = (5, -3 / 4) := by
  intro steps frames
  have hstart : (inputAfter steps).2.pointerDelta = {} := by decide +kernel
  have hstay : .pointerLeft ∉ frames.flatten := by decide +kernel
  have hsums : ExactFrames (allEvents steps) frames := by decide +kernel
  have hplaces : ExactPlaces (allEvents steps) frames.flatten := by decide +kernel
  have hfirst : (places (allEvents steps) frames.flatten).head? = some ⟨10, 10⟩ := by
    decide +kernel
  have hlast : (places (allEvents steps) frames.flatten).getLast? = some ⟨15, 37 / 4⟩ := by
    decide +kernel
  refine ⟨hstart, hstay, hsums, hplaces, hfirst, hlast, ?_⟩
  rw [(countsMotionOnce_after steps).conserved frames hstart hstay hsums hplaces _ _ hfirst hlast]
  decide +kernel

end Facet
