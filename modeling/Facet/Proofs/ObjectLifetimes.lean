import Facet.Proofs.PartialMap

/-!
# The life of a stored object

A handle is used again and again, so over time it does not say which object it means. Here every
object carries the number of those made before it, and the lifecycle writes down what it is asked to
do (`Lifecycle.recorded`). The store takes no notice of either: with numbers and record left out, a
run is the plain one (`perform_forget`).

One call makes an object, disposes of one, or at most changes the live ones in place (`Does`). What
lies under a handle, what has been disposed of and which numbers are still in the store follow from
that by induction on the calls.
-/

namespace Facet

/-- An object with the number of those made before it. -/
structure Numbered (Object : Type) where
  number : Nat
  object : Object

/-- What a lifecycle is asked to do. -/
inductive LifeEvent (Seed Object : Type) where
  | allocated (seed : Seed) (made : Numbered Object)
  | disposed (gone : Numbered Object)

variable {Seed Object World : Type}

def Numbered.change (f : Object → Object) (n : Numbered Object) : Numbered Object :=
  { n with object := f n.object }

@[simp] theorem Numbered.change_self :
    Numbered.change (fun object : Object => object) = fun n => n := rfl

namespace LifeEvent

/-- The objects made, in order. -/
def made (events : List (LifeEvent Seed Object)) : List (Numbered Object) :=
  events.filterMap fun
    | allocated _ n => some n
    | disposed _ => none

/-- The objects disposed of, in order. -/
def gone (events : List (LifeEvent Seed Object)) : List (Numbered Object) :=
  events.filterMap fun
    | allocated _ _ => none
    | disposed n => some n

end LifeEvent

open LifeEvent (made gone)

/-- The same lifecycle, numbering its objects and recording what it does. -/
def Lifecycle.recorded (l : Lifecycle Seed Object World) :
    Lifecycle Seed (Numbered Object) (World × List (LifeEvent Seed Object)) where
  allocate seed w :=
    let n := ⟨(made w.2).length, (l.allocate seed w.1).1⟩
    (n, (l.allocate seed w.1).2, w.2 ++ [.allocated seed n])
  dispose n w := (l.dispose n.object w.1, w.2 ++ [.disposed n])

section Recorded

variable (l : Lifecycle Seed Object World) (seed : Seed) (n : Numbered Object)
  (w : World × List (LifeEvent Seed Object))

@[simp] theorem made_allocate :
    made (l.recorded.allocate seed w).2.2 = made w.2 ++ [(l.recorded.allocate seed w).1] := by
  simp [made, Lifecycle.recorded]

@[simp] theorem gone_allocate : gone (l.recorded.allocate seed w).2.2 = gone w.2 := by
  simp [gone, Lifecycle.recorded]

@[simp] theorem made_dispose : made (l.recorded.dispose n w).2 = made w.2 := by
  simp [made, Lifecycle.recorded]

@[simp] theorem gone_dispose : gone (l.recorded.dispose n w).2 = gone w.2 ++ [n] := by
  simp [gone, Lifecycle.recorded]

@[simp] theorem number_allocate :
    (l.recorded.allocate seed w).1.number = (made w.2).length := rfl

end Recorded

namespace SlotStore

/-- What a call does to a live object under `id`. -/
def Call.changes (id : Handle) : Call Seed Object → Object → Object
  | .getMut id' change, object => if id' = id then change object else object
  | .iterMut change, object => change id object
  | _, object => object

/-- The same call on numbered objects, whose numbers it cannot change. -/
def Call.numbered : Call Seed Object → Call Seed (Numbered Object)
  | .create seed => .create seed
  | .destroy id => .destroy id
  | .get id => .get id
  | .getMut id change => .getMut id (Numbered.change change)
  | .isValid id => .isValid id
  | .iter => .iter
  | .iterMut change => .iterMut fun id => Numbered.change (change id)
  | .len => .len

def Answer.forget : Answer (Numbered Object) → Answer Object
  | .created id => .created id
  | .destroyed result => .destroyed result
  | .object n => .object (n.map Numbered.object)
  | .valid isLive => .valid isLive
  | .entries list => .entries (list.map fun e => (e.1, e.2.object))
  | .count n => .count n

def forget (s : SlotStore (Numbered Object)) : SlotStore Object :=
  { s with slots := s.slots.map (Option.map Numbered.object) }

/-! ## The store takes no notice of numbers -/

section Forget

variable (s : SlotStore (Numbered Object))

theorem slot_forget (i : Nat) : s.forget.slot i = (s.slot i).map Numbered.object := by
  rw [slot, slot, forget, Array.getElem?_map]
  cases s.slots[i]? <;> rfl

theorem get?_forget (id : Handle) : s.forget.get? id = (s.get? id).map Numbered.object :=
  slot_forget s id.index

theorem size_forget : s.forget.size = s.size := rfl

theorem toList_forget : s.forget.toList = s.toList.map fun e => (e.1, e.2.object) := by
  rw [toList, toList, forget, Array.toList_map, ← List.map_take, List.zipIdx_map,
    List.filterMap_map, List.map_filterMap]
  refine List.filterMap_congr fun entry _ => ?_
  rcases entry with ⟨_ | n, i⟩ <;> rfl

theorem reserve_forget :
    s.forget.reserve = s.reserve.map fun r => (r.1, r.2.forget) := by
  have hcapacity : s.forget.capacity = s.capacity := Array.size_map
  rw [reserve, reserve, hcapacity]
  cases hfree : s.free with
  | nil =>
      simp only [forget, hfree]
      split <;> rfl
  | cons i rest => simp only [forget, hfree]; rfl

theorem put_forget (i : Nat) (n : Numbered Object) :
    (s.put i n).forget = s.forget.put i n.object := by
  simp [put, forget, Array.map_setIfInBounds]

theorem modify_forget (id : Handle) (f : Object → Object) :
    (s.modify id (Numbered.change f)).forget = s.forget.modify id f := by
  simp only [modify, forget, SlotStore.mk.injEq, and_true]
  refine Array.ext_getElem? fun i => ?_
  simp only [Array.getElem?_map, Array.getElem?_modify]
  split
  · rcases s.slots[i]? with _ | (_ | n) <;> rfl
  · rfl

theorem modifyAll_forget (f : Handle → Object → Object) :
    (s.modifyAll fun id => Numbered.change (f id)).forget = s.forget.modifyAll f := by
  simp only [modifyAll, forget, SlotStore.mk.injEq, and_true]
  refine Array.ext_getElem? fun i => ?_
  simp only [Array.getElem?_map, Array.getElem?_mapIdx]
  by_cases hi : i < s.highWater <;> rcases s.slots[i]? with _ | (_ | n)
    <;> simp [hi, Numbered.change]

variable (l : Lifecycle Seed Object World) (w : World × List (LifeEvent Seed Object))

/-- **A call on numbered objects, recorded, is the call itself** once numbers and record are left
out. -/
theorem perform_forget (c : Call Seed Object) :
    perform l c s.forget w.1
      = ((perform l.recorded c.numbered s w).1.forget,
        (perform l.recorded c.numbered s w).2.1.forget,
        (perform l.recorded c.numbered s w).2.2.1) := by
  cases c with
  | create seed =>
      simp only [perform, Call.numbered, create, reserve_forget]
      cases s.reserve with
      | none => rfl
      | some r =>
          simp only [Option.map_some, put_forget]
          rfl
  | destroy id =>
      simp only [perform, Call.numbered, destroy, get?_forget]
      cases s.get? id with
      | none => rfl
      | some n =>
          simp only [Option.map_some, forget, Array.map_setIfInBounds]
          rfl
  | get id => simp only [perform, Call.numbered, Answer.forget, get?_forget]
  | getMut id change =>
      simp only [perform, Call.numbered, Answer.forget, get?_forget, modify_forget]
  | isValid id =>
      simp only [perform, Call.numbered, Answer.forget, contains, get?_forget, Option.isSome_map]
  | iter => simp only [perform, Call.numbered, Answer.forget, toList_forget]
  | iterMut change =>
      simp only [perform, Call.numbered, Answer.forget, toList_forget, modifyAll_forget]
  | len => rfl

theorem run_forget (calls : List (Call Seed Object)) :
    run l calls s.forget w.1
      = ((run l.recorded (calls.map Call.numbered) s w).1.map Answer.forget,
        (run l.recorded (calls.map Call.numbered) s w).2.1.forget,
        (run l.recorded (calls.map Call.numbered) s w).2.2.1) := by
  induction calls generalizing s w with
  | nil => rfl
  | cons c calls ih =>
      simp only [run, List.map_cons, perform_forget, ih]

theorem disposeAll_forget :
    disposeAll l s.forget w.1 = (disposeAll l.recorded s w).1 := by
  rw [disposeAll, disposeAll, toList_forget, List.foldl_map]
  induction s.toList generalizing w with
  | nil => rfl
  | cons e rest ih => exact ih (l.recorded.dispose e.2 w)

/-- Dropping a store disposes of what it lists, in that order. -/
theorem disposeAll_events :
    (disposeAll l.recorded s w).2 = w.2 ++ s.toList.map fun e => .disposed e.2 := by
  rw [disposeAll]
  induction s.toList generalizing w with
  | nil => simp
  | cons e rest ih =>
      rw [List.foldl_cons, ih, List.map_cons, Lifecycle.recorded, List.append_assoc]
      rfl

end Forget

/-! ## One call -/

/-- Whether a call has made an object. -/
def Answer.isMade : Answer Object → Bool
  | .created (some _) => true
  | _ => false

/--
Everything one call can do to a store of numbered objects, with the answer it gives: it makes an
object, disposes of one, or asks nothing of the lifecycle and changes the live objects at most in
place.
-/
inductive Does (l : Lifecycle Seed Object World) (s : SlotStore (Numbered Object))
    (w : World × List (LifeEvent Seed Object)) (c : Call Seed Object) :
    Answer Object → (Handle → Option (Numbered Object)) →
      World × List (LifeEvent Seed Object) → Prop where
  | makes {seed : Seed} {id : Handle} :
      c = .create seed → s.get? id = none →
      Does l s w c (.created (some id))
        (Function.update s.get? id (some (l.recorded.allocate seed w).1))
        (l.recorded.allocate seed w).2
  | ends {id : Handle} {n : Numbered Object} :
      c = .destroy id → s.get? id = some n →
      Does l s w c (.destroyed (.ok ())) (Function.update s.get? id none) (l.recorded.dispose n w)
  | keeps {answer : Answer Object} :
      answer.isMade = false → answer ≠ .destroyed (.ok ()) →
      (∀ id, c = .destroy id → s.get? id = none) →
      Does l s w c answer (fun id => (s.get? id).map (Numbered.change (c.changes id))) w

section Does

variable {l : Lifecycle Seed Object World} {s : SlotStore (Numbered Object)}
  {w : World × List (LifeEvent Seed Object)} {c : Call Seed Object}

theorem Does.idle {answer : Answer Object} (hchanges : ∀ id object, c.changes id object = object)
    (hmade : answer.isMade = false) (hended : answer ≠ .destroyed (.ok ()))
    (hdestroy : ∀ id, c = .destroy id → s.get? id = none) : Does l s w c answer s.get? w := by
  have hsame : (fun id => (s.get? id).map (Numbered.change (c.changes id))) = s.get? := by
    funext id
    rw [show c.changes id = fun object => object from funext (hchanges id), Numbered.change_self,
      Option.map_id']
  have hkept := Does.keeps hmade hended hdestroy (l := l) (w := w)
  rwa [hsame] at hkept

variable (Seed) in
/-- A change under one handle, as a change under every handle. -/
theorem update_map_change (s : SlotStore (Numbered Object)) (id : Handle)
    (change : Object → Object) :
    Function.update s.get? id ((s.get? id).map (Numbered.change change)) = fun id' =>
      (s.get? id').map
        (Numbered.change ((Call.getMut id change : Call Seed Object).changes id')) := by
  funext id'
  rw [Function.update_apply]
  by_cases hid : id' = id
  · have hchanges : (Call.getMut id change : Call Seed Object).changes id' = change :=
      funext fun _ => if_pos hid.symm
    rw [if_pos hid, hchanges, hid]
  · have hchanges : (Call.getMut id change : Call Seed Object).changes id'
        = fun object => object := funext fun _ => if_neg (Ne.symm hid)
    rw [if_neg hid, hchanges, Numbered.change_self, Option.map_id']

/-- Everything a call can do is told in `Does`. -/
theorem WellFormed.does (h : s.WellFormed) (l : Lifecycle Seed Object World)
    (c : Call Seed Object) (w : World × List (LifeEvent Seed Object)) :
    Does l s w c (perform l.recorded c.numbered s w).1.forget
      (perform l.recorded c.numbered s w).2.1.get? (perform l.recorded c.numbered s w).2.2 := by
  cases c with
  | create seed =>
      rcases h.create_cases l.recorded seed w with
        ⟨id, s', hrun, -, hfree, -, hget, -, -⟩ | ⟨hrun, -⟩
      · simp only [perform, Call.numbered, hrun, hget]
        exact .makes rfl hfree
      · simp only [perform, Call.numbered, hrun]
        exact .idle (fun _ _ => rfl) rfl (by simp [Answer.forget]) (by simp)
  | destroy id =>
      rcases h.destroy_cases l.recorded id w with
        ⟨n, s', hrun, hlive, hget, -, -⟩ | ⟨hrun, hfree⟩
      · simp only [perform, Call.numbered, hrun, hget]
        exact .ends rfl hlive
      · simp only [perform, Call.numbered, hrun]
        refine .idle (fun _ _ => rfl) rfl (by simp [Answer.forget]) fun id' hid => ?_
        obtain rfl := Call.destroy.inj hid
        exact hfree
  | getMut id change =>
      simp only [perform, Call.numbered, get?_modify, update_map_change Seed]
      exact .keeps rfl (by simp [Answer.forget]) (by simp)
  | iterMut change =>
      simp only [perform, Call.numbered, h.get?_modifyAll]
      exact .keeps rfl (by simp [Answer.forget]) (by simp)
  | get | isValid | iter | len =>
      exact .idle (fun _ _ => rfl) rfl (by simp [perform, Call.numbered, Answer.forget]) (by simp)

end Does

/-! ## A run of calls -/

section Recorded

variable (l : Lifecycle Seed Object World) (capacity : UInt32) (w : World)
  (calls : List (Call Seed Object))

/-- Some calls on a fresh store. -/
def freshRun : List (Answer Object) × SlotStore Object × World :=
  run l calls (empty capacity.toNat) w

/-- What some calls leave of a fresh store whose objects are numbered: the store, the world, and
the record. -/
def recordedRun : SlotStore (Numbered Object) × World × List (LifeEvent Seed Object) :=
  (freshRun l.recorded capacity (w, []) (calls.map Call.numbered)).2

theorem run_snoc (c : Call Seed Object) (s : SlotStore Object) :
    run l (calls ++ [c]) s w
      = ((run l calls s w).1 ++ [(perform l c (run l calls s w).2.1 (run l calls s w).2.2).1],
        (perform l c (run l calls s w).2.1 (run l calls s w).2.2).2) := by
  induction calls generalizing s w with
  | nil => rfl
  | cons c' calls ih => simp only [List.cons_append, run, ih]

@[simp] theorem recordedRun_nil :
    recordedRun l capacity w [] = (empty capacity.toNat, w, []) := rfl

theorem freshRun_snoc (c : Call Seed Object) :
    freshRun l capacity w (calls ++ [c])
      = ((freshRun l capacity w calls).1
          ++ [(perform l c (freshRun l capacity w calls).2.1 (freshRun l capacity w calls).2.2).1],
        (perform l c (freshRun l capacity w calls).2.1 (freshRun l capacity w calls).2.2).2) :=
  run_snoc l w calls c _

theorem recordedRun_snoc (c : Call Seed Object) :
    recordedRun l capacity w (calls ++ [c])
      = (perform l.recorded c.numbered (recordedRun l capacity w calls).1
          (recordedRun l capacity w calls).2).2 := by
  rw [recordedRun, List.map_append, List.map_singleton, freshRun_snoc]
  rfl

theorem wellFormed_recordedRun : (recordedRun l capacity w calls).1.WellFormed :=
  (WellFormed.mapRun l.recorded _ (wellFormed_empty capacity.toNat_lt) _).2.2

theorem freshRun_eq :
    freshRun l capacity w calls
      = ((freshRun l.recorded capacity (w, []) (calls.map Call.numbered)).1.map Answer.forget,
        (recordedRun l capacity w calls).1.forget, (recordedRun l capacity w calls).2.1) := by
  have hempty : (empty capacity.toNat : SlotStore (Numbered Object)).forget
      = empty capacity.toNat := by
    simp [empty, forget]
  rw [freshRun, ← hempty]
  exact run_forget (empty capacity.toNat) l (w, []) calls

theorem freshRun_snd :
    (freshRun l capacity w calls).2
      = ((recordedRun l capacity w calls).1.forget, (recordedRun l capacity w calls).2.1) :=
  congrArg Prod.snd (freshRun_eq l capacity w calls)

/-- One more call, seen from the run so far. -/
theorem recordedRun_does (c : Call Seed Object) :
    Does l (recordedRun l capacity w calls).1 (recordedRun l capacity w calls).2 c
      (perform l c (freshRun l capacity w calls).2.1
        (freshRun l capacity w calls).2.2).1
      (recordedRun l capacity w (calls ++ [c])).1.get?
      (recordedRun l capacity w (calls ++ [c])).2 := by
  rw [recordedRun_snoc, freshRun_snd, perform_forget]
  exact (wellFormed_recordedRun l capacity w calls).does l c _

theorem recordedRun_step (c : Call Seed Object) :
    ∃ answer m w', Does l (recordedRun l capacity w calls).1 (recordedRun l capacity w calls).2
        c answer m w'
      ∧ (freshRun l capacity w (calls ++ [c])).1
        = (freshRun l capacity w calls).1 ++ [answer]
      ∧ (recordedRun l capacity w (calls ++ [c])).1.get? = m
      ∧ (recordedRun l capacity w (calls ++ [c])).2 = w' :=
  ⟨_, _, _, recordedRun_does l capacity w calls c, by rw [freshRun_snoc], rfl, rfl⟩

end Recorded

/-! ## Every number once -/

section Numbers

variable {s s' : SlotStore (Numbered Object)}

/-- The numbers of the live objects. -/
def numbers (s : SlotStore (Numbered Object)) : List Nat := s.toList.map fun e => e.2.number

/-- A change under one handle leaves the numbers of the other objects as they are. -/
theorem WellFormed.exists_otherNumbers (h : s.WellFormed) (h' : s'.WellFormed) {id : Handle}
    {entry : Option (Numbered Object)} (hget : s'.get? = Function.update s.get? id entry) :
    ∃ others, s.numbers.Perm ((s.get? id).toList.map Numbered.number ++ others)
      ∧ s'.numbers.Perm (entry.toList.map Numbered.number ++ others) := by
  have hslot : ∀ o : Option (Numbered Object), (o.map fun n => (id, n)).toList.map
      (fun e : Handle × Numbered Object => e.2.number) = o.toList.map Numbered.number := by
    intro o
    cases o <;> rfl
  obtain ⟨others, hbefore, hafter⟩ := h.exists_others h' hget
  have hbefore := hbefore.map fun e => e.2.number
  have hafter := hafter.map fun e => e.2.number
  rw [List.map_append, hslot] at hbefore hafter
  exact ⟨_, hbefore, hafter⟩

/-- Changes in place leave every number where it is. -/
theorem WellFormed.numbers_of_change (h : s.WellFormed) (h' : s'.WellFormed)
    {f : Handle → Object → Object}
    (hget : s'.get? = fun id => (s.get? id).map (Numbered.change (f id))) :
    s'.numbers = s.numbers := by
  have hlist : Lists s'.get? (s.toList.map fun e => (e.1, Numbered.change (f e.1) e.2)) := by
    refine ⟨List.pairwise_map.mpr h.toList_sorted, fun id n => ?_⟩
    simp only [hget, List.mem_map, Prod.mk.injEq, Option.map_eq_some_iff, Prod.exists, h.mem_toList]
    constructor
    · rintro ⟨_, n', hn', rfl, rfl⟩
      exact ⟨n', hn', rfl⟩
    · rintro ⟨n', hn', rfl⟩
      exact ⟨id, n', hn', rfl, rfl⟩
  rw [numbers, h'.lists_toList.unique hlist, List.map_map]
  rfl

end Numbers

section Fate

variable (l : Lifecycle Seed Object World) (capacity : UInt32) (w : World)
  (calls : List (Call Seed Object))

/-- Objects are numbered as they are made, and a client is told of each. -/
theorem made_numbers :
    (made (recordedRun l capacity w calls).2.2).map Numbered.number
      = List.range ((freshRun l capacity w calls).1.countP Answer.isMade) := by
  induction calls using List.reverseRecOn with
  | nil => rfl
  | append_singleton calls c ih =>
      obtain ⟨answer, m, w', hdoes, hanswers, -, hw⟩ := recordedRun_step l capacity w calls c
      have hlength := congrArg List.length ih
      rw [List.length_map, List.length_range] at hlength
      rw [hw, hanswers, List.countP_append]
      cases hdoes with
      | makes hc hfree => simp [ih, hlength, Answer.isMade, List.range_succ]
      | ends hc hlive => simp [ih, Answer.isMade]
      | keeps hmade => simp [ih, hmade]

theorem length_made :
    (made (recordedRun l capacity w calls).2.2).length
      = (freshRun l capacity w calls).1.countP Answer.isMade := by
  simpa using congrArg List.length (made_numbers l capacity w calls)

/-- **Every number is that of a live object or of one disposed of, and of one only.** -/
theorem numbers_perm :
    ((gone (recordedRun l capacity w calls).2.2).map Numbered.number
        ++ (recordedRun l capacity w calls).1.numbers).Perm
      (List.range (made (recordedRun l capacity w calls).2.2).length) := by
  induction calls using List.reverseRecOn with
  | nil => simp [numbers, toList, empty, gone, made]
  | append_singleton calls c ih =>
      obtain ⟨answer, m, w', hdoes, -, hget, hw⟩ := recordedRun_step l capacity w calls c
      have hwf := wellFormed_recordedRun l capacity w calls
      have hwf' := wellFormed_recordedRun l capacity w (calls ++ [c])
      rw [hw]
      cases hdoes with
      | @makes seed id hc hfree =>
          -- the new number is the next one
          obtain ⟨others, hbefore, hafter⟩ := hwf.exists_otherNumbers hwf' hget
          rw [hfree] at hbefore
          simp only [gone_allocate, made_allocate, List.length_append, List.length_singleton,
            List.range_succ]
          refine ((hafter.append_left _).trans List.perm_middle).trans ?_
          exact (((hbefore.symm.append_left _).trans ih).cons _).trans
            (List.perm_append_singleton _ _).symm
      | @ends id n hc hlive =>
          -- a number goes over from the live ones to those disposed of
          obtain ⟨others, hbefore, hafter⟩ := hwf.exists_otherNumbers hwf' hget
          rw [hlive] at hbefore
          simp only [gone_dispose, made_dispose, List.map_append, List.append_assoc]
          exact ((hafter.append_left _).append_left _).trans ((hbefore.symm.append_left _).trans ih)
      | keeps => rwa [hwf.numbers_of_change hwf' hget]

end Fate

/-! ## The object under a handle -/

/-- A call in a run that has just grown is the last one, or was there before. -/
theorem snoc_eq_append_cons {calls before after : List (Call Seed Object)}
    {c c' : Call Seed Object} (h : calls ++ [c] = before ++ c' :: after) :
    (after = [] ∧ calls = before ∧ c = c')
      ∨ ∃ earlier, after = earlier ++ [c] ∧ calls = before ++ c' :: earlier := by
  rcases List.eq_nil_or_concat' after with rfl | ⟨earlier, last, rfl⟩
  · obtain ⟨hcalls, hc⟩ := List.append_inj' h rfl
    exact .inl ⟨rfl, hcalls, List.singleton_inj.mp hc⟩
  · rw [← List.cons_append, ← List.append_assoc] at h
    obtain ⟨hcalls, hc⟩ := List.append_inj' h rfl
    exact .inr ⟨earlier, by rw [hc], hcalls⟩

/-- After `before` a call with `seed` made an object under `id`; none of the calls `between` has
destroyed it, and `n` is what it is after them. -/
structure Lives (l : Lifecycle Seed Object World) (capacity : UInt32) (w : World)
    (before : List (Call Seed Object)) (seed : Seed) (id : Handle)
    (between : List (Call Seed Object)) (n : Numbered Object) : Prop where
  made : (freshRun l capacity w (before ++ [.create seed])).1
    = (freshRun l capacity w before).1 ++ [.created (some id)]
  undestroyed : .destroy id ∉ between
  number : n.number = (freshRun l capacity w before).1.countP Answer.isMade
  value : n.object = between.foldl (fun object c => c.changes id object)
    (l.allocate seed (freshRun l capacity w before).2.2).1

section Handle

variable {l : Lifecycle Seed Object World} {capacity : UInt32} {w : World}
  {calls before between : List (Call Seed Object)} {seed : Seed} {id : Handle}
  {n : Numbered Object}

/-- Just made, it is what the lifecycle has given. -/
theorem lives_nil :
    Lives l capacity w calls seed id [] n
      ↔ (freshRun l capacity w (calls ++ [.create seed])).1
          = (freshRun l capacity w calls).1 ++ [.created (some id)]
        ∧ n = (l.recorded.allocate seed (recordedRun l capacity w calls).2).1 := by
  have hnumber := length_made l capacity w calls
  constructor
  · intro h
    refine ⟨h.made, ?_⟩
    obtain ⟨number, object⟩ := n
    simp only [Lifecycle.recorded, Numbered.mk.injEq, hnumber]
    refine ⟨h.number, h.value.trans ?_⟩
    rw [freshRun_snd]
    rfl
  · rintro ⟨hmade, rfl⟩
    refine ⟨hmade, List.not_mem_nil, hnumber, ?_⟩
    rw [freshRun_snd]
    rfl

theorem lives_snoc {c : Call Seed Object} :
    Lives l capacity w before seed id (between ++ [c]) n
      ↔ c ≠ .destroy id ∧ ∃ n', Lives l capacity w before seed id between n'
        ∧ n = n'.change (c.changes id) := by
  constructor
  · intro h
    have hvalue := h.value
    rw [List.foldl_append] at hvalue
    refine ⟨fun hc => h.undestroyed (by simp [hc]),
      ⟨n.number, between.foldl (fun object c => c.changes id object) _⟩,
      ⟨h.made, fun hmem => h.undestroyed (by simp [hmem]), h.number, rfl⟩, ?_⟩
    obtain ⟨number, object⟩ := n
    exact congrArg (Numbered.mk number) hvalue
  · rintro ⟨hc, n', h, rfl⟩
    refine ⟨h.made, fun hmem => ?_, h.number, ?_⟩
    · rcases List.mem_append.mp hmem with hmem | hlast
      · exact h.undestroyed hmem
      · exact hc (List.mem_singleton.mp hlast).symm
    · rw [List.foldl_append, ← h.value]
      rfl

/-- What one more call leaves under a handle it has made, or has found there and not destroyed. -/
theorem exists_lives_snoc {c : Call Seed Object} :
    (∃ before seed between, calls ++ [c] = before ++ .create seed :: between
        ∧ Lives l capacity w before seed id between n)
      ↔ (∃ seed, c = .create seed ∧ Lives l capacity w calls seed id [] n)
        ∨ (c ≠ .destroy id ∧ ∃ n', (∃ before seed between, calls = before ++ .create seed :: between
          ∧ Lives l capacity w before seed id between n') ∧ n = n'.change (c.changes id)) := by
  constructor
  · rintro ⟨before, seed, between, hcalls, hlives⟩
    rcases snoc_eq_append_cons hcalls with ⟨rfl, rfl, rfl⟩ | ⟨between, rfl, rfl⟩
    · exact .inl ⟨seed, rfl, hlives⟩
    · obtain ⟨hc, n', hlives, hn⟩ := lives_snoc.mp hlives
      exact .inr ⟨hc, n', ⟨before, seed, between, rfl, hlives⟩, hn⟩
  · rintro (⟨seed, rfl, hlives⟩ | ⟨hc, n', ⟨before, seed, between, rfl, hlives⟩, hn⟩)
    · exact ⟨calls, seed, [], rfl, hlives⟩
    · exact ⟨before, seed, between ++ [c], by simp, lives_snoc.mpr ⟨hc, n', hlives, hn⟩⟩

/-- **Under a handle lies the object last made there, as changed since**, unless a call has
destroyed it. -/
theorem get?_eq_some_iff_lives :
    (recordedRun l capacity w calls).1.get? id = some n
      ↔ ∃ before seed between, calls = before ++ .create seed :: between
        ∧ Lives l capacity w before seed id between n := by
  induction calls using List.reverseRecOn generalizing n with
  | nil => simp [get?_eq_slot, slot_empty]
  | append_singleton calls c ih =>
      obtain ⟨answer, m, w', hdoes, hanswers, hget, -⟩ := recordedRun_step l capacity w calls c
      -- the last call has made the object if it says so
      have hmade : (∃ seed, c = .create seed ∧ Lives l capacity w calls seed id [] n)
          ↔ answer = .created (some id) ∧ ∃ seed, c = .create seed
            ∧ n = (l.recorded.allocate seed (recordedRun l capacity w calls).2).1 := by
        constructor
        · rintro ⟨seed, rfl, hlives⟩
          obtain ⟨hanswer, hn⟩ := lives_nil.mp hlives
          rw [hanswers, List.append_cancel_left_eq, List.singleton_inj] at hanswer
          exact ⟨hanswer, seed, rfl, hn⟩
        · rintro ⟨rfl, seed, rfl, hn⟩
          exact ⟨seed, rfl, lives_nil.mpr ⟨hanswers, hn⟩⟩
      rw [exists_lives_snoc, hmade, hget]
      simp only [← ih]
      cases hdoes with
      | @makes seed id' hc hfree =>
          subst hc
          rw [Function.update_apply]
          by_cases hid : id = id'
          · subst hid
            simp [hfree, eq_comm]
          · simp [hid, Ne.symm hid, Call.changes, Numbered.change]
      | @ends id' n' hc hlive =>
          subst hc
          rw [Function.update_apply]
          by_cases hid : id = id'
          · simp [hid]
          · simp [hid, Ne.symm hid, Call.changes, Numbered.change]
      | keeps hunmade hended hdestroy =>
          have hanswer : answer ≠ .created (some id) := by
            rintro rfl
            exact absurd hunmade (by simp [Answer.isMade])
          rw [Option.map_eq_some_iff]
          simp only [hanswer, false_and, false_or]
          constructor
          · -- a call that destroys nothing but names `id` has found nothing there
            rintro ⟨n', hn', rfl⟩
            refine ⟨fun hc => ?_, n', hn', rfl⟩
            exact absurd hn' (by simp [hdestroy id hc])
          · rintro ⟨-, n', hn', rfl⟩
            exact ⟨n', hn', rfl⟩

/-- What has been disposed of is what a call found under the handle it destroyed. -/
theorem disposed_mem_iff :
    .disposed n ∈ (recordedRun l capacity w calls).2.2
      ↔ ∃ before id after, calls = before ++ .destroy id :: after
        ∧ (recordedRun l capacity w before).1.get? id = some n := by
  induction calls using List.reverseRecOn with
  | nil => simp
  | append_singleton calls c ih =>
      obtain ⟨answer, m, w', hdoes, -, -, hw⟩ := recordedRun_step l capacity w calls c
      have hsplit : (∃ before id after, calls ++ [c] = before ++ .destroy id :: after
            ∧ (recordedRun l capacity w before).1.get? id = some n)
          ↔ .disposed n ∈ (recordedRun l capacity w calls).2.2
            ∨ ∃ id, c = .destroy id ∧ (recordedRun l capacity w calls).1.get? id = some n := by
        rw [ih]
        constructor
        · rintro ⟨before, id, after, hcalls, hlive⟩
          rcases snoc_eq_append_cons hcalls with ⟨rfl, rfl, rfl⟩ | ⟨after, rfl, rfl⟩
          · exact .inr ⟨id, rfl, hlive⟩
          · exact .inl ⟨before, id, after, rfl, hlive⟩
        · rintro (⟨before, id, after, rfl, hlive⟩ | ⟨id, rfl, hlive⟩)
          · exact ⟨before, id, after ++ [c], by simp, hlive⟩
          · exact ⟨calls, id, [], rfl, hlive⟩
      rw [hsplit, hw]
      cases hdoes with
      | makes hc hfree => subst hc; simp [Lifecycle.recorded]
      | ends hc hlive => subst hc; simp [Lifecycle.recorded, hlive, eq_comm]
      | keeps hunmade hended hdestroy =>
          refine (or_iff_left ?_).symm
          rintro ⟨id, hc, hlive⟩
          exact absurd hlive (by simp [hdestroy id hc])

end Handle

/-! ## From the first call to the drop -/

/-- The record of a run that ends with dropping the store. -/
def droppedRecord (l : Lifecycle Seed Object World) (capacity : UInt32) (w : World)
    (calls : List (Call Seed Object)) : List (LifeEvent Seed Object) :=
  (disposeAll l.recorded (recordedRun l capacity w calls).1 (recordedRun l capacity w calls).2).2

/--
What becomes of the objects of a store, over any calls and the drop after them. The record is that
of the store with its objects numbered, which is the store itself as far as a client can tell.
-/
structure Lifetimes (l : Lifecycle Seed Object World) (capacity : UInt32) (w : World)
    (calls : List (Call Seed Object)) : Prop where
  /-- Numbers and record aside, the run is the plain one. -/
  run_forget : freshRun l capacity w calls
    = ((freshRun l.recorded capacity (w, []) (calls.map Call.numbered)).1.map Answer.forget,
      (recordedRun l capacity w calls).1.forget, (recordedRun l capacity w calls).2.1)
  /-- So is the drop. -/
  drop_forget : disposeAll l (freshRun l capacity w calls).2.1
      (freshRun l capacity w calls).2.2
    = (disposeAll l.recorded (recordedRun l capacity w calls).1
        (recordedRun l capacity w calls).2).1
  /-- Whichever call comes next, a success of `create` allocates once, a success of `destroy`
  disposes once, of what is under the handle, and nothing else adds to the record. -/
  next (c : Call Seed Object) : Does l (recordedRun l capacity w calls).1
    (recordedRun l capacity w calls).2 c
    (perform l c (freshRun l capacity w calls).2.1
      (freshRun l capacity w calls).2.2).1
    (recordedRun l capacity w (calls ++ [c])).1.get? (recordedRun l capacity w (calls ++ [c])).2
  /-- One allocation for each success of `create`, numbered in order. -/
  made : (made (recordedRun l capacity w calls).2.2).map Numbered.number
    = List.range ((freshRun l capacity w calls).1.countP Answer.isMade)
  /-- Live are the objects made and not destroyed, as changed since. -/
  live (id : Handle) (n : Numbered Object) :
    (recordedRun l capacity w calls).1.get? id = some n
      ↔ ∃ before seed between, calls = before ++ .create seed :: between
        ∧ Lives l capacity w before seed id between n
  /-- Disposed of are the objects made and then destroyed, as changed up to there. -/
  destroyed (n : Numbered Object) :
    .disposed n ∈ (recordedRun l capacity w calls).2.2
      ↔ ∃ before seed id between after,
        calls = before ++ .create seed :: between ++ .destroy id :: after
        ∧ Lives l capacity w before seed id between n
  /-- The length of the store is the number of objects made and not yet disposed of. -/
  balance : (LifeEvent.made (recordedRun l capacity w calls).2.2).length
    = (gone (recordedRun l capacity w calls).2.2).length
      + (freshRun l capacity w calls).2.1.size
  /-- The drop disposes of what is live, -/
  drop : droppedRecord l capacity w calls = (recordedRun l capacity w calls).2.2
    ++ (recordedRun l capacity w calls).1.toList.map fun e => .disposed e.2
  /-- each by increasing slot. -/
  sorted : Lists (recordedRun l capacity w calls).1.get? (recordedRun l capacity w calls).1.toList
  /-- In the end every object made has been disposed of once. -/
  once : ((gone (droppedRecord l capacity w calls)).map Numbered.number).Perm
    ((LifeEvent.made (droppedRecord l capacity w calls)).map Numbered.number)

/-- **Every object is disposed of once, with the value it has then**: when it is destroyed, or else
when the store is dropped. -/
theorem lifetimes_after (l : Lifecycle Seed Object World) (capacity : UInt32) (w : World)
    (calls : List (Call Seed Object)) : Lifetimes l capacity w calls where
  run_forget := freshRun_eq l capacity w calls
  drop_forget := by
    rw [freshRun_snd]
    exact disposeAll_forget _ l _
  next c := recordedRun_does l capacity w calls c
  made := made_numbers l capacity w calls
  live _ _ := get?_eq_some_iff_lives
  destroyed n := by
    rw [disposed_mem_iff]
    simp only [get?_eq_some_iff_lives]
    constructor
    · rintro ⟨_, id, after, rfl, before, seed, between, rfl, hlives⟩
      exact ⟨before, seed, id, between, after, by simp, hlives⟩
    · rintro ⟨before, seed, id, between, after, rfl, hlives⟩
      exact ⟨_, id, after, by simp, before, seed, between, rfl, hlives⟩
  balance := by
    have hlength := (numbers_perm l capacity w calls).length_eq
    rw [List.length_append, List.length_map, List.length_range, numbers, List.length_map] at hlength
    rw [freshRun_snd, size_forget, (wellFormed_recordedRun l capacity w calls).size_eq]
    exact hlength.symm
  drop := disposeAll_events _ l _
  sorted := (wellFormed_recordedRun l capacity w calls).lists_toList
  once := by
    have hgone : gone (droppedRecord l capacity w calls)
        = gone (recordedRun l capacity w calls).2.2
          ++ (recordedRun l capacity w calls).1.toList.map Prod.snd := by
      simp [droppedRecord, disposeAll_events, gone, List.filterMap_map]
    have hmade : LifeEvent.made (droppedRecord l capacity w calls)
        = LifeEvent.made (recordedRun l capacity w calls).2.2 := by
      simp [droppedRecord, disposeAll_events, LifeEvent.made, List.filterMap_map]
    rw [hgone, hmade, made_numbers, ← length_made, List.map_append, List.map_map]
    exact numbers_perm l capacity w calls

example :
    (gone (droppedRecord ⟨fun n w => (n, w), fun _ w => w⟩ 2 ()
        [.create 5, .create 6, .destroy ⟨0⟩, .destroy ⟨0⟩, .create 7, .create 8,
          .getMut ⟨0⟩ (· + 10)])).map (fun n => (n.number, n.object))
      = [(0, 5), (2, 17), (1, 6)] := by
  decide

end SlotStore

end Facet
