import Mathlib
import Facet.Uniform.Program

/-!
# A program's device buffer mirrors its staged bytes

Two shortcuts stand between a value that is set and the device: `set` leaves the block alone when
the field already holds the same bytes, and `flush` copies nothing when no byte has changed. Each
relies on the other being right. A value lost by the first would never make the block dirty, and a
flag lost by the second would leave the device behind for good.

The reference is a program without either shortcut, `Eager`. It stages every accepted value and
copies on every flush. `mirrorsStaged_after` says that after any calls the two agree byte for byte,
staged and on the device, and that a clean block is one whose bytes the device already has.
-/

namespace Facet

/-! ## Slices and splices -/

namespace UniformBlock

theorem length_le_splice (bytes : List UInt8) (offset : Nat) (data : List UInt8) :
    bytes.length ≤ (splice bytes offset data).length := by
  simp only [splice, List.length_append, List.length_take, List.length_drop]
  omega

/-- Writing what is there changes nothing. -/
theorem splice_of_slice_eq {bytes data : List UInt8} {offset : Nat}
    (h : slice bytes offset data.length = data) : splice bytes offset data = bytes := by
  have hrest : data ++ bytes.drop (offset + data.length) = bytes.drop offset := by
    rw [← List.drop_drop]
    conv_lhs => rw [← h, slice]
    rw [List.length_take]
    have hlen := congrArg List.length h
    rw [slice, List.length_take] at hlen
    rw [hlen, List.take_append_drop]
  rw [splice, List.append_assoc, hrest, List.take_append_drop]

/-- What was written is there, if there was room for it. -/
theorem slice_splice {bytes data : List UInt8} {offset : Nat} (h : offset ≤ bytes.length) :
    slice (splice bytes offset data) offset data.length = data := by
  have hfront : (bytes.take offset).length = offset := by
    rw [List.length_take]
    omega
  rw [slice, splice, List.append_assoc, List.drop_left' hfront, List.take_left]

/-- Everything `trySet` can do: hold the new bytes, in which case the block is dirty unless nothing
has changed, or say why not and leave the block as it is. -/
theorem trySet_cases (b : UniformBlock) (name : String) (value : UniformValue) :
    (∃ field b', b.layout.field? name = some field ∧ field.kind = value.kind
      ∧ b.trySet name value = (.ok (), b') ∧ b'.layout = b.layout
      ∧ b'.bytes = splice b.bytes field.offset value.bytes ∧ (b' = b ∨ b'.dirty = true))
    ∨ (b.layout.field? name = none ∧ b.trySet name value = (.error (.unknownUniform name), b))
    ∨ ∃ field, b.layout.field? name = some field ∧ field.kind ≠ value.kind
      ∧ b.trySet name value = (.error (.uniformType name field.kind value.kind), b) := by
  rw [trySet]
  cases hfield : b.layout.field? name with
  | none => exact .inr (.inl ⟨rfl, rfl⟩)
  | some field =>
      dsimp only
      split
      · rename_i hkind
        exact .inr (.inr ⟨field, rfl, hkind, rfl⟩)
      · rename_i hkind
        have hkind' : field.kind = value.kind := by simpa using hkind
        split
        · -- the bytes are there already
          rename_i hsame
          rw [hkind', ← value.length_bytes] at hsame
          exact .inl ⟨field, b, rfl, hkind', rfl, rfl, (splice_of_slice_eq hsame).symm, .inl rfl⟩
        · exact .inl ⟨field, _, rfl, hkind', rfl, rfl, rfl, .inr rfl⟩

/-- **A refused value leaves the block as it is**, its bytes and its flag. -/
theorem trySet_of_refused {b : UniformBlock} {name : String} {value : UniformValue}
    {e : ProgramError} (h : (b.trySet name value).1 = .error e) : (b.trySet name value).2 = b := by
  rcases b.trySet_cases name value with ⟨_, _, -, -, hset, -⟩ | ⟨-, hset⟩ | ⟨_, -, -, hset⟩
  · rw [hset] at h
    exact absurd h (by simp)
  · rw [hset]
  · rw [hset]

end UniformBlock

/-! ## Fields lie within their block -/

theorem le_roundUp (n : Nat) {unit : Nat} (h : 0 < unit) : n ≤ roundUp n unit := by
  have hdiv := Nat.div_add_mod (n + unit - 1) unit
  have hmod := Nat.mod_lt (n + unit - 1) h
  rw [roundUp, Nat.mul_comm]
  omega

namespace UniformLayout

/-- Every field ends by the end of the last one. -/
def Fits (l : UniformLayout) : Prop := ∀ f ∈ l.fields, f.offset + f.kind.size ≤ l.extent

theorem Fits.append {l : UniformLayout} (h : l.Fits) (name : String) (kind : UniformKind) :
    (l.append name kind).Fits := by
  have hoffset : l.extent ≤ roundUp l.extent kind.alignment :=
    le_roundUp l.extent (by cases kind <;> decide)
  intro f hf
  show f.offset + f.kind.size ≤ roundUp l.extent kind.alignment + kind.size
  rcases List.mem_append.mp hf with hf | hf
  · have := h f hf
    omega
  · obtain rfl := List.mem_singleton.mp hf
    exact Nat.le_refl _

theorem Fits.foldlM : ∀ (fields : List (String × UniformKind)) {l l' : UniformLayout}, l.Fits →
    fields.foldlM (fun l field => l.declare field.1 field.2) l = .ok l' → l'.Fits
  | [], l, l', h, heq => by
      injection heq with heq
      exact heq ▸ h
  | field :: fields, l, l', h, heq => by
      rw [List.foldlM_cons, declare] at heq
      split at heq
      · exact absurd heq (by simp [bind, Except.bind])
      · exact Fits.foldlM fields (h.append field.1 field.2) heq

theorem fits_ofFields {fields : List (String × UniformKind)} {l : UniformLayout}
    (h : ofFields fields = .ok l) : l.Fits :=
  Fits.foldlM fields (fun f hf => absurd hf (by simp)) h

theorem extent_le_size (l : UniformLayout) : l.extent ≤ l.size :=
  (le_roundUp l.extent (by decide)).trans (le_max_left _ _)

theorem mem_of_field? {l : UniformLayout} {name : String} {f : UniformField}
    (h : l.field? name = some f) : f ∈ l.fields := List.mem_of_find?_eq_some h

end UniformLayout

/-! ## Buffers -/

/-- A write that covers the whole buffer leaves nothing else in it. -/
theorem Buffer.bytes_write {b : Buffer} {data : List UInt8} (hsize : b.size ≤ data.length)
    (hfront : b.front.length ≤ data.length) : (b.write data).bytes = data := by
  have hrest : b.front.drop data.length = [] := List.drop_eq_nil_of_le hfront
  show data ++ b.front.drop data.length
    ++ List.replicate (b.size - (data ++ b.front.drop data.length).length) 0 = data
  rw [hrest, List.append_nil, Nat.sub_eq_zero_of_le hsize, List.replicate_zero, List.append_nil]

namespace Program

/-! ## Calls and runs -/

/-- A call on a program. -/
inductive Call where
  | set (name : String) (value : UniformValue)
  | flush

/-- One call, with its answer. -/
def Call.perform (c : Call) (p : Program) : Except ProgramError Unit × Program :=
  match c with
  | .set name value => p.setUniform name value
  | .flush => (.ok (), p.flush)

/-- The bytes that a call hands to the device. -/
def Call.written? (c : Call) (p : Program) : Option (List UInt8) :=
  match c with
  | .set _ _ => none
  | .flush => p.uniforms.takeDirty.1

/-- A program without shortcuts. -/
structure Eager where
  staged : List UInt8
  device : List UInt8

/-- One call on an eager program: every accepted value is staged, every flush copies. -/
def Eager.perform (layout : UniformLayout) (c : Call) (e : Eager) :
    Except ProgramError Unit × Eager :=
  match c with
  | .set name value =>
    match layout.field? name with
    | none => (.error (.unknownUniform name), e)
    | some field =>
      if field.kind = value.kind then
        (.ok (), { e with staged := UniformBlock.splice e.staged field.offset value.bytes })
      else (.error (.uniformType name field.kind value.kind), e)
  | .flush => (.ok (), { e with device := e.staged })

/-- A program, the eager one beside it, and the writes to the device so far, the latest last. -/
structure Run where
  program : Program
  eager : Eager
  writes : List (List UInt8) := []

namespace Run

/-- A new program; staged bytes and device are zero. -/
def start (label : String) (layout : UniformLayout) (d : Device) : Run :=
  { program := (Program.create label layout d).1
    eager := ⟨List.replicate layout.size 0, List.replicate layout.size 0⟩ }

def step (layout : UniformLayout) (run : Run) (c : Call) : Run :=
  { program := (c.perform run.program).2
    eager := (run.eager.perform layout c).2
    writes := run.writes ++ (c.written? run.program).toList }

def after (layout : UniformLayout) (run : Run) (calls : List Call) : Run :=
  calls.foldl (step layout) run

theorem after_induction {layout : UniformLayout} {P : Run → Prop} {run : Run} (h : P run)
    (hstep : ∀ run c, P run → P (run.step layout c)) (calls : List Call) :
    P (run.after layout calls) := by
  induction calls generalizing run with
  | nil => exact h
  | cons c calls ih => exact ih (hstep run c h)

end Run

/-! ## The invariant -/

/-- The program and the eager one are at the same bytes, and a clean block is on the device. -/
structure Mirrored (layout : UniformLayout) (p : Program) (e : Eager) : Prop where
  layout_eq : p.uniforms.layout = layout
  buffer_size : p.buffer.size = layout.size
  size_le : layout.size ≤ p.uniforms.bytes.length
  front_le : p.buffer.front.length ≤ p.uniforms.bytes.length
  staged_eq : p.uniforms.bytes = e.staged
  device_eq : p.buffer.bytes = e.device
  clean : p.uniforms.dirty = false → p.buffer.bytes = p.uniforms.bytes

variable {layout : UniformLayout} {p : Program} {e : Eager}

theorem mirrored_start (label : String) (layout : UniformLayout) (d : Device) :
    Mirrored layout (Run.start label layout d).program (Run.start label layout d).eager where
  layout_eq := rfl
  buffer_size := List.length_replicate
  size_le := List.length_replicate.ge
  front_le := Nat.zero_le _
  staged_eq := rfl
  device_eq := by
    show [] ++ List.replicate ((List.replicate layout.size (0 : UInt8)).length - 0) 0 = _
    rw [List.length_replicate, Nat.sub_zero, List.nil_append]
    rfl
  clean h := by exact absurd h (by simp [Run.start, create, UniformBlock.ofLayout])

/-- A flush leaves the device with the staged bytes, whether it copies them or need not. -/
theorem Mirrored.bytes_flush (h : Mirrored layout p e) :
    p.flush.buffer.bytes = p.uniforms.bytes ∧ p.flush.uniforms.bytes = p.uniforms.bytes
      ∧ p.flush.uniforms.dirty = false := by
  rw [flush, UniformBlock.takeDirty]
  cases hdirty : p.uniforms.dirty with
  | false => exact ⟨h.clean hdirty, rfl, hdirty⟩
  | true =>
      have hsize : p.buffer.size ≤ p.uniforms.bytes.length := h.buffer_size.le.trans h.size_le
      exact ⟨Buffer.bytes_write hsize h.front_le, rfl, rfl⟩

theorem Mirrored.flush (h : Mirrored layout p e) :
    Mirrored layout p.flush (e.perform layout .flush).2 := by
  obtain ⟨hbuffer, hbytes, hclean⟩ := h.bytes_flush
  have hkept : p.flush.uniforms.layout = p.uniforms.layout ∧ p.flush.buffer.size = p.buffer.size
      ∧ p.flush.buffer.front.length ≤ p.uniforms.bytes.length := by
    rw [Program.flush, UniformBlock.takeDirty]
    cases p.uniforms.dirty with
    | false => exact ⟨rfl, rfl, h.front_le⟩
    | true =>
        refine ⟨rfl, rfl, ?_⟩
        have hfront := h.front_le
        simp only [if_true, Buffer.write, List.length_append, List.length_drop]
        omega
  obtain ⟨hlayout, hsize, hfront⟩ := hkept
  refine ⟨hlayout.trans h.layout_eq, hsize.trans h.buffer_size, ?_, ?_, ?_, ?_, ?_⟩
  · rw [hbytes]; exact h.size_le
  · rw [hbytes]; exact hfront
  · rw [hbytes]; exact h.staged_eq
  · rw [hbuffer]; exact h.staged_eq
  · intro _; rw [hbuffer, hbytes]

theorem Mirrored.set (h : Mirrored layout p e) (name : String) (value : UniformValue) :
    ((Call.set name value).perform p).1 = (e.perform layout (.set name value)).1
      ∧ Mirrored layout ((Call.set name value).perform p).2
        (e.perform layout (.set name value)).2 := by
  rw [Call.perform, setUniform, Eager.perform]
  rcases p.uniforms.trySet_cases name value with
    ⟨field, b, hfield, hkind, hset, hlayout, hbytes, hdirty⟩ | ⟨hfield, hset⟩
      | ⟨field, hfield, hkind, hset⟩
  · rw [h.layout_eq] at hfield
    rw [hset, hfield]
    dsimp only
    rw [if_pos hkind]
    have hlonger : p.uniforms.bytes.length ≤ b.bytes.length := by
      rw [hbytes]
      exact UniformBlock.length_le_splice _ _ _
    refine ⟨rfl, hlayout.trans h.layout_eq, h.buffer_size, h.size_le.trans hlonger,
      h.front_le.trans hlonger, by rw [hbytes, h.staged_eq], h.device_eq, ?_⟩
    -- only a block that did not change can still be clean
    intro hclean
    rcases hdirty with hsame | hdirty
    · rw [hsame] at hclean ⊢
      exact h.clean hclean
    · exact absurd (hdirty.symm.trans hclean) (by simp)
  · rw [h.layout_eq] at hfield
    rw [hset, hfield]
    exact ⟨rfl, h⟩
  · rw [h.layout_eq] at hfield
    rw [hset, hfield]
    dsimp only
    rw [if_neg hkind]
    exact ⟨rfl, h⟩

/-- **Preserved by every call**, which the two programs answer alike. -/
theorem Mirrored.perform (h : Mirrored layout p e) (c : Call) :
    (c.perform p).1 = (e.perform layout c).1
      ∧ Mirrored layout (c.perform p).2 (e.perform layout c).2 := by
  cases c with
  | set name value => exact h.set name value
  | flush => exact ⟨rfl, h.flush⟩

theorem mirrored_after (label : String) (layout : UniformLayout) (d : Device) (calls : List Call) :
    Mirrored layout ((Run.start label layout d).after layout calls).program
      ((Run.start label layout d).after layout calls).eager :=
  Run.after_induction (P := fun run => Mirrored layout run.program run.eager)
    (mirrored_start label layout d) (fun _ c h => (h.perform c).2) calls

/-! ## What reaches the device -/

/-- What a call hands to the device is what changes there. -/
theorem buffer_perform (c : Call) (p : Program) :
    (c.perform p).2.buffer = (c.written? p).toList.foldl Buffer.write p.buffer := by
  cases c with
  | set name value => rfl
  | flush =>
      show p.flush.buffer = p.uniforms.takeDirty.1.toList.foldl Buffer.write p.buffer
      rw [flush, UniformBlock.takeDirty]
      cases p.uniforms.dirty with
      | false => rfl
      | true => rfl

theorem buffer_after (label : String) (layout : UniformLayout) (d : Device) (calls : List Call) :
    ((Run.start label layout d).after layout calls).program.buffer
      = ((Run.start label layout d).after layout calls).writes.foldl Buffer.write
        (Run.start label layout d).program.buffer := by
  generalize hzero : (Run.start label layout d).program.buffer = zero
  refine Run.after_induction
    (P := fun run => run.program.buffer = run.writes.foldl Buffer.write zero) hzero ?_ calls
  intro run c h
  show (c.perform run.program).2.buffer
    = (run.writes ++ (c.written? run.program).toList).foldl Buffer.write zero
  rw [buffer_perform, h, List.foldl_append]

/-- An accepted value is on the device after the next flush. -/
theorem Mirrored.accepted (h : Mirrored layout p e) (hfits : layout.Fits) {name : String}
    {value : UniformValue} {p' : Program} (hset : p.setUniform name value = (.ok (), p')) :
    ∃ field, layout.field? name = some field ∧ field.kind = value.kind
      ∧ UniformBlock.slice p'.flush.buffer.bytes field.offset field.kind.size = value.bytes := by
  have hnext := (h.set name value).2
  rw [Call.perform, hset] at hnext
  rw [setUniform] at hset
  rcases p.uniforms.trySet_cases name value with
    ⟨field, b, hfield, hkind, hb, -, hbytes, -⟩ | ⟨-, hb⟩ | ⟨field, -, -, hb⟩
  · rw [hb] at hset
    injection hset with _ hset
    rw [h.layout_eq] at hfield
    refine ⟨field, hfield, hkind, ?_⟩
    -- the field ends within the block, so there was room for all of its bytes
    have hroom : field.offset + field.kind.size ≤ p.uniforms.bytes.length :=
      (hfits field (UniformLayout.mem_of_field? hfield)).trans
        (layout.extent_le_size.trans h.size_le)
    have hstaged : p'.uniforms.bytes
        = UniformBlock.splice p.uniforms.bytes field.offset value.bytes := by
      rw [← hset, hbytes]
    rw [hnext.bytes_flush.1, hstaged, hkind, ← value.length_bytes]
    exact UniformBlock.slice_splice (by omega)
  · rw [hb] at hset
    exact absurd hset (by simp)
  · rw [hb] at hset
    exact absurd hset (by simp)

/-- What holds of a program and its device buffer at any moment of a run. -/
structure MirrorsStaged (layout : UniformLayout) (label : String) (d : Device) (run : Run) :
    Prop where
  /-- The shortcuts change neither the staged bytes nor the device's. -/
  staged_eq : run.program.uniforms.bytes = run.eager.staged
  device_eq : run.program.buffer.bytes = run.eager.device
  /-- A call is refused, and for the same reason, exactly when the eager program refuses it. -/
  answer_eq : ∀ c, (c.perform run.program).1 = (run.eager.perform layout c).1
  /-- A value that is refused leaves the program as it is. -/
  refused : ∀ name value e, (run.program.setUniform name value).1 = .error e →
    (run.program.setUniform name value).2 = run.program
  /-- While the block is clean, the device has its bytes. -/
  clean : run.program.uniforms.dirty = false →
    run.program.buffer.bytes = run.program.uniforms.bytes
  /-- After a flush it has them in any case. -/
  flushed : run.program.flush.buffer.bytes = run.program.uniforms.bytes
    ∧ run.program.flush.uniforms.bytes = run.program.uniforms.bytes
    ∧ run.program.flush.uniforms.dirty = false
  /-- The buffer is what the recorded writes have made of the one of zeros. -/
  buffer_eq : run.program.buffer
    = run.writes.foldl Buffer.write (Run.start label layout d).program.buffer
  /-- Setting writes nothing, and neither does a flush of a clean block; a flush of a dirty one
  writes its bytes once. -/
  writes_set : ∀ name value, (run.step layout (.set name value)).writes = run.writes
  writes_flush : (run.step layout .flush).writes
    = run.writes ++ if run.program.uniforms.dirty then [run.program.uniforms.bytes] else []
  /-- An accepted value is in its field on the device after the next flush. -/
  accepted : ∀ fields, UniformLayout.ofFields fields = .ok layout →
    ∀ name value p', run.program.setUniform name value = (.ok (), p') →
      ∃ field, layout.field? name = some field ∧ field.kind = value.kind
        ∧ UniformBlock.slice p'.flush.buffer.bytes field.offset field.kind.size = value.bytes

/-- **The device mirrors the staged bytes**, for every layout and every run of calls. -/
theorem mirrorsStaged_after (label : String) (layout : UniformLayout) (d : Device)
    (calls : List Call) :
    MirrorsStaged layout label d ((Run.start label layout d).after layout calls) := by
  have h := mirrored_after label layout d calls
  have hbuffer := buffer_after label layout d calls
  generalize (Run.start label layout d).after layout calls = run at h hbuffer
  refine ⟨h.staged_eq, h.device_eq, fun c => (h.perform c).1, ?_, h.clean, h.bytes_flush, hbuffer,
    fun _ _ => List.append_nil _, ?_, ?_⟩
  · intro name value e hrefused
    rw [setUniform, UniformBlock.trySet_of_refused hrefused]
  · show run.writes ++ run.program.uniforms.takeDirty.1.toList = _
    rw [UniformBlock.takeDirty]
    cases run.program.uniforms.dirty with
    | false => rfl
    | true => rfl
  · intro fields hfields name value p' hset
    exact h.accepted (UniformLayout.fits_ofFields hfields) hset

/-- Bytes are compared, not numbers: the zero of the other sign has to be copied. -/
example :
    let layout := UniformLayout.append {} "fade" .f32
    ((Run.start "" layout {}).after layout [.flush, .set "fade" (.f32 (-0))]).program.uniforms.dirty
      = true := by
  decide +kernel

end Program

end Facet
