import Facet.Proofs.UniformPlacement

/-!
# What a uniform block holds

A value is encoded in a staging row as long as the largest kind, and from there its bytes are copied
over those of its field, unless they are the same. Nothing but the layout keeps that copy from
reaching a neighbour, the gap before one, or the bytes behind the block.

`written` is a set without the comparison. As it is also what `trySet` does (`trySet_eq_written`),
what a block holds can be followed byte by byte: `Holds` says it field by field and is kept by every
call, and `setChecked?`, a set that checks every access to bytes, never ends for being out of range.
A refused set changes nothing (`trySet_of_refused`).
-/

namespace Facet

/-! ## Words and fields -/

/-- The words of a value, a matrix column by column. -/
def UniformValue.words : UniformValue → List UInt32
  | mat4 m => [m.col0, m.col1, m.col2, m.col3].flatMap fun column =>
      [column.x.toBits, column.y.toBits, column.z.toBits, column.w.toBits]
  | vec4 v => [v.x.toBits, v.y.toBits, v.z.toBits, v.w.toBits]
  | vec3 v => [v.x.toBits, v.y.toBits, v.z.toBits]
  | f32 x => [x.toBits]
  | u32 w => [w]

/-- A value is encoded word by word, the lowest byte of each first. -/
theorem UniformValue.words_bytes (v : UniformValue) : Bytes.words v.bytes = v.words := by
  cases v with
  | mat4 m => exact Bytes.words_ofScalars m.toList
  | vec4 v => exact Bytes.words_ofScalars v.toList
  | vec3 v => exact Bytes.words_ofScalars v.toList
  | f32 x => exact Bytes.words_ofWord_append x.toBits []
  | u32 w => exact Bytes.words_ofWord_append w []

namespace UniformLayout

variable {l : UniformLayout} {fields : List (String × UniformKind)} {f g : UniformField}

theorem Placed.stop_le_size (h : Placed fields l) (hf : f ∈ l.fields) : f.stop ≤ l.size := by
  refine le_trans ?_ l.extent_le_size
  have hordered := h.ordered
  rw [h.extent_eq]
  -- the block ends where the last field does, and every other field ends before that one begins
  rcases List.eq_nil_or_concat l.fields with hnil | ⟨before, last, heq⟩
  · rw [hnil] at hf
    exact absurd hf List.not_mem_nil
  · rw [heq, List.concat_eq_append] at hf hordered
    rw [heq, List.concat_eq_append, endOf_snoc]
    rcases List.mem_append.mp hf with hbefore | hlast
    · have hle := (List.pairwise_append.mp hordered).2.2 f hbefore last (List.mem_singleton_self _)
      exact hle.trans (Nat.le_add_right _ _)
    · rw [List.mem_singleton.mp hlast]

/-- No two fields share a byte. -/
theorem Placed.disjoint (h : Placed fields l) (hf : f ∈ l.fields) (hg : g ∈ l.fields)
    (hne : f ≠ g) : f.stop ≤ g.offset ∨ g.stop ≤ f.offset := by
  have hapart : l.fields.Pairwise fun f g => f.stop ≤ g.offset ∨ g.stop ≤ f.offset :=
    h.ordered.imp Or.inl
  have hsymm : Std.Symm fun f g : UniformField => f.stop ≤ g.offset ∨ g.stop ≤ f.offset :=
    ⟨fun _ _ => Or.symm⟩
  exact hapart.forall hf hg hne

theorem Declares.nodup_names (h : l.Declares fields) (hnodup : (fields.map Prod.fst).Nodup) :
    (l.fields.map UniformField.name).Nodup := h.names ▸ hnodup

/-- Under distinct names a declared field is the one that its name finds. -/
theorem Declares.exists_field? (h : l.Declares fields) (hnodup : (fields.map Prod.fst).Nodup)
    (name : String) (kind : UniformKind) :
    (name, kind) ∈ fields ↔ ∃ f, l.field? name = some f ∧ f.kind = kind := by
  constructor
  · intro hmem
    rw [← h, List.mem_map] at hmem
    obtain ⟨f, hf, heq⟩ := hmem
    obtain ⟨rfl, rfl⟩ := Prod.mk.inj heq
    exact ⟨f, field?_of_mem (h.nodup_names hnodup) hf, rfl⟩
  · rintro ⟨f, hfield, rfl⟩
    have hname : f.name = name := by simpa using List.find?_some hfield
    rw [← h, ← hname]
    exact List.mem_map_of_mem (mem_of_field? hfield)

end UniformLayout

namespace UniformBlock

open UniformLayout (Placed)

/-! ## Bytes of slices and splices -/

variable {bytes data : List UInt8} {offset : Nat}

theorem getElem?_slice (bytes : List UInt8) (offset size i : Nat) :
    (slice bytes offset size)[i]? = if i < size then bytes[offset + i]? else none := by
  rw [slice, List.getElem?_take, List.getElem?_drop]

theorem length_splice (h : offset + data.length ≤ bytes.length) :
    (splice bytes offset data).length = bytes.length := by
  rw [splice, List.length_append, List.length_append, List.length_take, List.length_drop]
  omega

/-- A byte of a splice comes from the new bytes inside the range, and is as it was outside. -/
theorem getElem?_splice (h : offset + data.length ≤ bytes.length) (i : Nat) :
    (splice bytes offset data)[i]?
      = if offset ≤ i ∧ i < offset + data.length then data[i - offset]? else bytes[i]? := by
  have hfront : (bytes.take offset).length = offset := by
    rw [List.length_take]
    omega
  rw [splice, List.append_assoc, List.getElem?_append, hfront]
  by_cases hbefore : i < offset
  · rw [if_pos hbefore, if_neg (by omega), List.getElem?_take, if_pos hbefore]
  · rw [if_neg hbefore, List.getElem?_append]
    by_cases hinside : i - offset < data.length
    · rw [if_pos hinside, if_pos (by omega)]
    · rw [if_neg hinside, if_neg (by omega), List.getElem?_drop]
      congr 1
      omega

/-- Writing one range leaves what another holds. -/
theorem slice_splice_of_disjoint {start size : Nat} (h : offset + data.length ≤ bytes.length)
    (hdisjoint : start + size ≤ offset ∨ offset + data.length ≤ start) :
    slice (splice bytes offset data) start size = slice bytes start size := by
  apply List.ext_getElem?
  intro i
  rw [getElem?_slice, getElem?_slice]
  by_cases hi : i < size
  · rw [if_pos hi, if_pos hi, getElem?_splice h, if_neg (by omega)]
  · rw [if_neg hi, if_neg hi]

/-- Two ranges that share no byte can be written in either order. -/
theorem splice_comm {data' : List UInt8} {offset' : Nat} (h : offset + data.length ≤ bytes.length)
    (h' : offset' + data'.length ≤ bytes.length)
    (hdisjoint : offset + data.length ≤ offset' ∨ offset' + data'.length ≤ offset) :
    splice (splice bytes offset data) offset' data'
      = splice (splice bytes offset' data') offset data := by
  have hlength := length_splice h
  have hlength' := length_splice h'
  apply List.ext_getElem?
  intro i
  rw [getElem?_splice (hlength.symm ▸ h'), getElem?_splice h, getElem?_splice (hlength'.symm ▸ h),
    getElem?_splice h']
  by_cases hinside : offset ≤ i ∧ i < offset + data.length
  · rw [if_pos hinside, if_pos hinside, if_neg (by omega)]
  · rw [if_neg hinside, if_neg hinside]

/-! ## Setting a field -/

/-- The field that a value of a name is set in, when there is one and it has the value's kind. -/
def target? (l : UniformLayout) (name : String) (value : UniformValue) : Option UniformField :=
  (l.field? name).filter fun f => f.kind = value.kind

theorem target?_eq_some {l : UniformLayout} {name : String} {value : UniformValue}
    {f : UniformField} :
    target? l name value = some f ↔ l.field? name = some f ∧ f.kind = value.kind := by
  rw [target?, Option.filter_eq_some_iff, decide_eq_true_iff]

/-- The block with a value written over a field, whether or not the field holds it already. -/
def written (b : UniformBlock) (f : UniformField) (value : UniformValue) : UniformBlock :=
  { b with
    bytes := splice b.bytes f.offset value.bytes
    dirty := b.dirty || slice b.bytes f.offset value.kind.size != value.bytes }

theorem trySet_eq_written {b : UniformBlock} {name : String} {value : UniformValue}
    {f : UniformField} (h : target? b.layout name value = some f) :
    b.trySet name value = (.ok (), b.written f value) := by
  obtain ⟨hfield, hkind⟩ := target?_eq_some.mp h
  rw [trySet, hfield]
  dsimp only
  rw [if_neg (not_not_intro hkind), hkind]
  by_cases hsame : slice b.bytes f.offset value.kind.size = value.bytes
  · -- what is left out would have changed nothing
    have hbytes : splice b.bytes f.offset value.bytes = b.bytes :=
      splice_of_slice_eq (by rw [value.length_bytes, hsame])
    rw [if_pos hsame, written, hbytes, hsame, bne_self_eq_false, Bool.or_false]
  · rw [if_neg hsame, written, bne_iff_ne.mpr hsame, Bool.or_true]

theorem set_of_trySet {b b' : UniformBlock} {name : String} {value : UniformValue}
    {answer : Except ProgramError Unit} (h : b.trySet name value = (answer, b')) :
    b.set name value = answer.map fun _ => b' := by
  rw [set, h]

/-! ## Calls -/

/-- A call on a block. -/
inductive Call where
  | set (name : String) (value : UniformValue)
  | takeDirty

/-- One call, with its answer. -/
def Call.perform (c : Call) (b : UniformBlock) : Except ProgramError Unit × UniformBlock :=
  match c with
  | .set name value => b.trySet name value
  | .takeDirty => (.ok (), b.takeDirty.2)

def after (b : UniformBlock) (calls : List Call) : UniformBlock :=
  calls.foldl (fun b c => (c.perform b).2) b

theorem after_snoc (b : UniformBlock) (calls : List Call) (c : Call) :
    b.after (calls ++ [c]) = (c.perform (b.after calls)).2 := by
  rw [after, after, List.foldl_append]
  rfl

theorem perform_of_target {b : UniformBlock} {name : String} {value : UniformValue}
    {f : UniformField} (h : target? b.layout name value = some f) :
    (Call.set name value).perform b = (.ok (), b.written f value) := trySet_eq_written h

theorem perform_of_no_target {b : UniformBlock} {name : String} {value : UniformValue}
    (h : target? b.layout name value = none) :
    ((Call.set name value).perform b).2 = b := by
  rw [Call.perform]
  rcases b.trySet_cases name value with ⟨f, -, hfield, hkind, -⟩ | ⟨-, hset⟩ | ⟨f, -, -, hset⟩
  · rw [target?_eq_some.mpr ⟨hfield, hkind⟩] at h
    exact absurd h (by simp)
  · rw [hset]
  · rw [hset]

theorem layout_perform (c : Call) (b : UniformBlock) : (c.perform b).2.layout = b.layout := by
  cases c with
  | set name value =>
      cases h : target? b.layout name value with
      | none => rw [perform_of_no_target h]
      | some f => rw [perform_of_target h]; rfl
  | takeDirty =>
      rw [Call.perform, takeDirty]
      split <;> rfl

/-- Taking the bytes is not a change of them. -/
theorem bytes_takeDirty (b : UniformBlock) : b.takeDirty.2.bytes = b.bytes := by
  rw [takeDirty]
  split <;> rfl

/-! ## Accesses in range -/

/-- Copies `data` over the `size` bytes from `offset` on; fails unless these lie within the row and
`data` has their number. -/
def overwrite? (bytes : List UInt8) (offset size : Nat) (data : List UInt8) :
    Option (List UInt8) :=
  if offset + size ≤ bytes.length ∧ data.length = size then some (splice bytes offset data)
  else none

/-- The `size` bytes from `offset` on; fails unless they lie within the row. -/
def range? (bytes : List UInt8) (offset size : Nat) : Option (List UInt8) :=
  if offset + size ≤ bytes.length then some (slice bytes offset size) else none

/--
A set with every access to bytes checked. The value is first encoded at the front of a staging row
of 64 bytes; an access out of range ends the call with `none`.
-/
def setChecked? (b : UniformBlock) (name : String) (value : UniformValue) :
    Option (Except ProgramError Unit × UniformBlock) :=
  match b.layout.field? name with
  | none => some (.error (.unknownUniform name), b)
  | some field =>
    if field.kind ≠ value.kind then some (.error (.uniformType name field.kind value.kind), b)
    else do
      let staging ← overwrite? (List.replicate 64 0) 0 field.kind.size value.bytes
      let encoded ← range? staging 0 field.kind.size
      let slot ← range? b.bytes field.offset field.kind.size
      if slot = encoded then some (.ok (), b)
      else do
        let bytes ← overwrite? b.bytes field.offset field.kind.size encoded
        some (.ok (), { b with bytes, dirty := true })

theorem size_le_staging (k : UniformKind) : k.size ≤ 64 := by cases k <;> decide

/-- **No set accesses bytes out of range** when the fields lie within the block. -/
theorem setChecked?_eq {b : UniformBlock} (h : ∀ f ∈ b.layout.fields, f.stop ≤ b.bytes.length)
    (name : String) (value : UniformValue) :
    b.setChecked? name value = some ((Call.set name value).perform b) := by
  rw [setChecked?, Call.perform, trySet]
  cases hfield : b.layout.field? name with
  | none => rfl
  | some f =>
      dsimp only
      by_cases hkind : f.kind = value.kind
      · have hlength : value.bytes.length = f.kind.size := by rw [value.length_bytes, hkind]
        have hstop : f.offset + f.kind.size ≤ b.bytes.length :=
          h f (UniformLayout.mem_of_field? hfield)
        have hroom : 0 + f.kind.size ≤ (List.replicate 64 (0 : UInt8)).length := by
          rw [List.length_replicate, Nat.zero_add]
          exact size_le_staging f.kind
        have hstaging : (splice (List.replicate 64 0) 0 value.bytes).length
            = (List.replicate 64 (0 : UInt8)).length := length_splice (by rw [hlength]; exact hroom)
        have hencoded : slice (splice (List.replicate 64 0) 0 value.bytes) 0 f.kind.size
            = value.bytes := by
          rw [← hlength]
          exact slice_splice (Nat.zero_le _)
        rw [if_neg (not_not_intro hkind), if_neg (not_not_intro hkind), overwrite?,
          if_pos ⟨hroom, hlength⟩]
        simp only [range?, overwrite?, Option.bind_eq_bind, Option.bind_some, hstaging,
          if_pos hroom, if_pos hstop, hencoded, hlength, and_true]
        by_cases hsame : slice b.bytes f.offset f.kind.size = value.bytes
        · rw [if_pos hsame, if_pos hsame]
        · rw [if_neg hsame, if_neg hsame]
      · rw [if_pos hkind, if_pos hkind]

/-! ## What is held after a run -/

/-- The value that a call sets in a field; a value of another kind is refused. -/
def Call.valueFor? (f : UniformField) : Call → Option UniformValue
  | .set name value => if name = f.name ∧ value.kind = f.kind then some value else none
  | .takeDirty => none

/-- The value last set in a field. -/
def lastSet? (f : UniformField) (calls : List Call) : Option UniformValue :=
  (calls.filterMap (Call.valueFor? f)).getLast?

theorem lastSet?_snoc (f : UniformField) (calls : List Call) (c : Call) :
    lastSet? f (calls ++ [c]) = (c.valueFor? f).or (lastSet? f calls) := by
  rw [lastSet?, List.filterMap_append, List.getLast?_append, List.filterMap_cons,
    List.filterMap_nil]
  cases c.valueFor? f <;> rfl

/-- The bytes of a field that was set to a value, or never. -/
def content (f : UniformField) (value? : Option UniformValue) : List UInt8 :=
  (value?.map UniformValue.bytes).getD (List.replicate f.kind.size 0)

/-- What the bytes of a block are after some calls. -/
structure Holds (layout : UniformLayout) (calls : List Call) (b : UniformBlock) : Prop where
  layout_eq : b.layout = layout
  length_eq : b.bytes.length = layout.size
  field_eq : ∀ f ∈ layout.fields,
    slice b.bytes f.offset f.kind.size = content f (lastSet? f calls)
  /-- What belongs to no field is as it was at first. -/
  gap_eq : ∀ i < layout.size, (∀ f ∈ layout.fields, ¬ (f.offset ≤ i ∧ i < f.stop)) →
    b.bytes[i]? = some 0

variable {fields : List (String × UniformKind)} {layout : UniformLayout} {calls : List Call}
  {b : UniformBlock}

theorem holds_start (h : Placed fields layout) : Holds layout [] (ofLayout layout) where
  layout_eq := rfl
  length_eq := List.length_replicate
  field_eq f hf := by
    have hstop : f.offset + f.kind.size ≤ layout.size := h.stop_le_size hf
    show slice (List.replicate layout.size 0) f.offset f.kind.size = List.replicate f.kind.size 0
    rw [slice, List.drop_replicate, List.take_replicate, Nat.min_eq_left (by omega)]
  gap_eq i hi _ := by
    show (List.replicate layout.size (0 : UInt8))[i]? = some 0
    rw [List.getElem?_replicate, if_pos hi]

/-- A value that is set reaches its field and nothing else. -/
theorem Holds.written (h : Holds layout calls b) (hplaced : Placed fields layout)
    (hnodup : (fields.map Prod.fst).Nodup) {name : String} {value : UniformValue}
    {f : UniformField} (htarget : target? layout name value = some f) :
    Holds layout (calls ++ [.set name value]) (b.written f value) := by
  obtain ⟨hfield, hkind⟩ := target?_eq_some.mp htarget
  have hf := UniformLayout.mem_of_field? hfield
  have hname : f.name = name := by simpa using List.find?_some hfield
  have hlength : value.bytes.length = f.kind.size := by rw [value.length_bytes, hkind]
  have hroom : f.offset + value.bytes.length ≤ b.bytes.length := by
    rw [hlength, h.length_eq]
    exact hplaced.stop_le_size hf
  refine ⟨h.layout_eq, (length_splice hroom).trans h.length_eq, ?_, ?_⟩
  · intro g hg
    rw [lastSet?_snoc]
    show slice (splice b.bytes f.offset value.bytes) g.offset g.kind.size = _
    by_cases hsame : g = f
    · have hvalue : (Call.set name value).valueFor? g = some value :=
        if_pos ⟨by rw [hsame, hname], by rw [hsame, hkind]⟩
      rw [hvalue, hsame, ← hlength, slice_splice (by omega)]
      rfl
    · -- the names differ as well, so the call sets nothing in the other field
      have hvalue : (Call.set name value).valueFor? g = none := by
        refine if_neg ?_
        rintro ⟨rfl, -⟩
        have hfound := UniformLayout.field?_of_mem (hplaced.declares.nodup_names hnodup) hg
        exact hsame (Option.some.inj (hfound.symm.trans hfield))
      have hdisjoint := hplaced.disjoint hg hf hsame
      rw [hvalue, slice_splice_of_disjoint hroom (by rw [hlength]; exact hdisjoint)]
      exact h.field_eq g hg
  · intro i hi hgap
    have houtside : ¬ (f.offset ≤ i ∧ i < f.offset + f.kind.size) := hgap f hf
    show (splice b.bytes f.offset value.bytes)[i]? = some 0
    rw [getElem?_splice hroom, hlength, if_neg houtside]
    exact h.gap_eq i hi hgap

/-- A value that is refused is last set nowhere. -/
theorem valueFor?_of_no_target {name : String} {value : UniformValue} {f : UniformField}
    (hnodup : (layout.fields.map UniformField.name).Nodup)
    (h : target? layout name value = none) (hf : f ∈ layout.fields) :
    (Call.set name value).valueFor? f = none := by
  refine if_neg ?_
  rintro ⟨rfl, hkind⟩
  have htarget := target?_eq_some.mpr ⟨UniformLayout.field?_of_mem hnodup hf, hkind.symm⟩
  exact absurd (h.symm.trans htarget) (by simp)

/-- **Kept by every call.** -/
theorem Holds.perform (h : Holds layout calls b) (hplaced : Placed fields layout)
    (hnodup : (fields.map Prod.fst).Nodup) (c : Call) :
    Holds layout (calls ++ [c]) (c.perform b).2 := by
  cases c with
  | set name value =>
      cases htarget : target? layout name value with
      | some f =>
          have hperform : (Call.set name value).perform b = (.ok (), b.written f value) :=
            perform_of_target (by rw [h.layout_eq]; exact htarget)
          rw [hperform]
          exact h.written hplaced hnodup htarget
      | none =>
          have hperform : ((Call.set name value).perform b).2 = b :=
            perform_of_no_target (by rw [h.layout_eq]; exact htarget)
          rw [hperform]
          refine ⟨h.layout_eq, h.length_eq, ?_, h.gap_eq⟩
          intro f hf
          rw [lastSet?_snoc,
            valueFor?_of_no_target (hplaced.declares.nodup_names hnodup) htarget hf]
          exact h.field_eq f hf
  | takeDirty =>
      have hbytes : (Call.takeDirty.perform b).2.bytes = b.bytes := bytes_takeDirty b
      refine ⟨(layout_perform _ _).trans h.layout_eq, ?_, ?_, ?_⟩
      · rw [hbytes, h.length_eq]
      · intro f hf
        rw [hbytes, lastSet?_snoc]
        exact h.field_eq f hf
      · rw [hbytes]
        exact h.gap_eq

theorem holds_after (hplaced : Placed fields layout) (hnodup : (fields.map Prod.fst).Nodup)
    (calls : List Call) : Holds layout calls ((ofLayout layout).after calls) := by
  induction calls using List.reverseRecOn with
  | nil => exact holds_start hplaced
  | append_singleton calls c ih =>
      rw [after_snoc]
      exact ih.perform hplaced hnodup c

/-! ## The order of sets -/

/-- What has been written over one field does not show in another. -/
theorem written_comm {f g : UniformField} {value value' : UniformValue}
    (hf : f.offset + value.bytes.length ≤ b.bytes.length)
    (hg : g.offset + value'.bytes.length ≤ b.bytes.length)
    (hdisjoint : f.offset + value.bytes.length ≤ g.offset
      ∨ g.offset + value'.bytes.length ≤ f.offset) :
    (b.written f value).written g value' = (b.written g value').written f value := by
  have hbytes := splice_comm hf hg hdisjoint
  have hslice : slice (splice b.bytes f.offset value.bytes) g.offset value'.kind.size
      = slice b.bytes g.offset value'.kind.size :=
    slice_splice_of_disjoint hf (by rw [← value'.length_bytes]; exact hdisjoint.symm)
  have hslice' : slice (splice b.bytes g.offset value'.bytes) f.offset value.kind.size
      = slice b.bytes f.offset value.kind.size :=
    slice_splice_of_disjoint hg (by rw [← value.length_bytes]; exact hdisjoint)
  simp only [written, hbytes, hslice, hslice']
  rw [Bool.or_right_comm]

/-- **Sets under different names can be exchanged**, whichever of them are refused. -/
theorem Holds.set_comm (h : Holds layout calls b) (hplaced : Placed fields layout)
    {name name' : String} (hne : name ≠ name') (value value' : UniformValue) :
    b.after [.set name value, .set name' value']
      = b.after [.set name' value', .set name value] := by
  have hkept : ∀ c : Call, (c.perform b).2.layout = layout :=
    fun c => (layout_perform c b).trans h.layout_eq
  show ((Call.set name' value').perform ((Call.set name value).perform b).2).2
    = ((Call.set name value).perform ((Call.set name' value').perform b).2).2
  cases hf : target? layout name value with
  | none =>
      have hskip : ((Call.set name value).perform b).2 = b :=
        perform_of_no_target (by rw [h.layout_eq]; exact hf)
      rw [hskip]
      exact (perform_of_no_target (by rw [hkept]; exact hf)).symm
  | some f =>
      cases hg : target? layout name' value' with
      | none =>
          have hskip : ((Call.set name' value').perform b).2 = b :=
            perform_of_no_target (by rw [h.layout_eq]; exact hg)
          rw [hskip]
          exact perform_of_no_target (by rw [hkept]; exact hg)
      | some g =>
          obtain ⟨hfield, hkind⟩ := target?_eq_some.mp hf
          obtain ⟨hfield', hkind'⟩ := target?_eq_some.mp hg
          have hmem := UniformLayout.mem_of_field? hfield
          have hmem' := UniformLayout.mem_of_field? hfield'
          have hapart : f ≠ g := by
            rintro rfl
            have hname : f.name = name := by simpa using List.find?_some hfield
            have hname' : f.name = name' := by simpa using List.find?_some hfield'
            exact hne (hname.symm.trans hname')
          have hlength : value.bytes.length = f.kind.size := by rw [value.length_bytes, hkind]
          have hlength' : value'.bytes.length = g.kind.size := by rw [value'.length_bytes, hkind']
          rw [perform_of_target (f := g) ((hkept _).symm ▸ hg),
            perform_of_target (f := f) (h.layout_eq.symm ▸ hf),
            perform_of_target (f := f) ((hkept _).symm ▸ hf),
            perform_of_target (f := g) (h.layout_eq.symm ▸ hg)]
          refine written_comm ?_ ?_ ?_
          · rw [hlength, h.length_eq]
            exact hplaced.stop_le_size hmem
          · rw [hlength', h.length_eq]
            exact hplaced.stop_le_size hmem'
          · rw [hlength, hlength']
            exact hplaced.disjoint hmem hmem' hapart

/-! ## What follows -/

/-- What holds of a block after some calls. -/
structure KeepsFields (fields : List (String × UniformKind)) (layout : UniformLayout)
    (calls : List Call) (b : UniformBlock) : Prop extends Holds layout calls b where
  /-- No set accesses bytes out of range, be it accepted or refused. -/
  in_range : ∀ name value, b.setChecked? name value = some ((Call.set name value).perform b)
  /-- A set is accepted when the name is declared with the value's kind, and only then. -/
  set_eq_ok_iff : ∀ name value, (∃ b', b.set name value = .ok b') ↔ (name, value.kind) ∈ fields
  set_eq_unknown_iff : ∀ name value,
    b.set name value = .error (.unknownUniform name) ↔ name ∉ fields.map Prod.fst
  set_eq_type_iff : ∀ name value kind,
    b.set name value = .error (.uniformType name kind value.kind)
      ↔ (name, kind) ∈ fields ∧ kind ≠ value.kind
  /-- A set that is refused changes neither the bytes nor the flag. -/
  refused : ∀ name value e, b.set name value = .error e →
    (Call.set name value).perform b = (.error e, b)
  /-- What a field holds is the value last set, encoded word by word. -/
  words_eq : ∀ f ∈ layout.fields, ∀ value, lastSet? f calls = some value →
    Bytes.words (slice b.bytes f.offset f.kind.size) = value.words
  /-- Sets of different fields can be exchanged. -/
  set_comm : ∀ name name' value value', name ≠ name' →
    b.after [.set name value, .set name' value'] = b.after [.set name' value', .set name value]

theorem Holds.set_eq_ok_iff (h : Holds layout calls b) (hplaced : Placed fields layout)
    (hnodup : (fields.map Prod.fst).Nodup) (name : String) (value : UniformValue) :
    (∃ b', b.set name value = .ok b') ↔ (name, value.kind) ∈ fields := by
  rw [hplaced.declares.exists_field? hnodup, ← h.layout_eq]
  rcases b.trySet_cases name value with ⟨f, b', hfield, hkind, hset, -⟩ | ⟨hfield, hset⟩
    | ⟨f, hfield, hkind, hset⟩
  · exact iff_of_true ⟨b', set_of_trySet hset⟩ ⟨f, hfield, hkind⟩
  · rw [set_of_trySet hset, hfield]
    simp [Except.map]
  · rw [set_of_trySet hset, hfield]
    simpa [Except.map] using hkind

theorem Holds.set_eq_unknown_iff (h : Holds layout calls b) (hplaced : Placed fields layout)
    (name : String) (value : UniformValue) :
    b.set name value = .error (.unknownUniform name) ↔ name ∉ fields.map Prod.fst := by
  rw [← hplaced.declares.field?_eq_none, ← h.layout_eq]
  rcases b.trySet_cases name value with ⟨f, b', hfield, hkind, hset, -⟩ | ⟨hfield, hset⟩
    | ⟨f, hfield, hkind, hset⟩
  · rw [set_of_trySet hset, hfield]
    simp [Except.map]
  · exact iff_of_true (set_of_trySet hset) hfield
  · rw [set_of_trySet hset, hfield]
    simp [Except.map]

theorem Holds.set_eq_type_iff (h : Holds layout calls b) (hplaced : Placed fields layout)
    (hnodup : (fields.map Prod.fst).Nodup) (name : String) (value : UniformValue)
    (kind : UniformKind) :
    b.set name value = .error (.uniformType name kind value.kind)
      ↔ (name, kind) ∈ fields ∧ kind ≠ value.kind := by
  rw [hplaced.declares.exists_field? hnodup, ← h.layout_eq]
  rcases b.trySet_cases name value with ⟨f, b', hfield, hkind, hset, -⟩ | ⟨hfield, hset⟩
    | ⟨f, hfield, hkind, hset⟩
  · refine iff_of_false (by rw [set_of_trySet hset]; simp [Except.map]) ?_
    rintro ⟨⟨g, hg, rfl⟩, hne⟩
    obtain rfl := Option.some.inj (hfield.symm.trans hg)
    exact hne hkind
  · refine iff_of_false (by rw [set_of_trySet hset]; simp [Except.map]) ?_
    rintro ⟨⟨g, hg, -⟩, -⟩
    exact absurd (hfield.symm.trans hg) (by simp)
  · rw [set_of_trySet hset, hfield]
    constructor
    · intro heq
      injection heq with heq
      injection heq with _ heq _
      exact ⟨⟨f, rfl, heq⟩, heq ▸ hkind⟩
    · rintro ⟨⟨g, hg, rfl⟩, -⟩
      rw [Option.some.inj hg]
      rfl

/-- An error of `set` is one of `trySet`, which leaves the block as it is. -/
theorem perform_of_set_error {name : String} {value : UniformValue} {e : ProgramError}
    (h : b.set name value = .error e) : (Call.set name value).perform b = (.error e, b) := by
  rw [Call.perform]
  rcases b.trySet_cases name value with ⟨_, _, -, -, hset, -⟩ | ⟨-, hset⟩ | ⟨_, -, -, hset⟩
  · rw [set_of_trySet hset] at h
    exact absurd h (by simp [Except.map])
  · rw [set_of_trySet hset] at h
    rw [hset, ← Except.error.inj h]
  · rw [set_of_trySet hset] at h
    rw [hset, ← Except.error.inj h]

/-- **A block holds the value last set in each field, and zeros elsewhere**, for every layout of
distinct names and every run of calls. -/
theorem keepsFields_after (fields : List (String × UniformKind))
    (hnodup : (fields.map Prod.fst).Nodup) (calls : List Call) :
    ∃ layout, UniformLayout.ofFields fields = .ok layout
      ∧ KeepsFields fields layout calls ((ofLayout layout).after calls) := by
  obtain ⟨layout, hlayout, hplaced⟩ := Placed.foldlM fields UniformLayout.placed_nil hnodup
  have h := holds_after hplaced hnodup calls
  refine ⟨layout, hlayout, h, ?_, h.set_eq_ok_iff hplaced hnodup, h.set_eq_unknown_iff hplaced,
    h.set_eq_type_iff hplaced hnodup, fun _ _ _ => perform_of_set_error, ?_, ?_⟩
  · refine setChecked?_eq ?_
    rw [h.layout_eq, h.length_eq]
    exact fun f hf => hplaced.stop_le_size hf
  · intro f hf value hvalue
    rw [h.field_eq f hf, hvalue]
    exact value.words_bytes
  · intro name name' value value' hne
    exact h.set_comm hplaced hne value value'

/-- Values of the wrong kind or under no field's name are among the calls, and a field set twice. -/
def mixedCalls : List Call :=
  [.set "tint" (.vec3 ⟨1, 2, 3⟩), .takeDirty, .set "count" (.u32 7), .set "count" (.f32 7),
    .set "shade" (.u32 7), .set "scale" (.f32 (-0)), .takeDirty, .set "tint" (.vec3 ⟨4, 5, 6⟩)]

theorem keepsFields_mixedCalls :
    (UniformLayout.mixedFields.map Prod.fst).Nodup
      ∧ ∃ layout, UniformLayout.ofFields UniformLayout.mixedFields = .ok layout
        ∧ KeepsFields UniformLayout.mixedFields layout mixedCalls
          ((ofLayout layout).after mixedCalls) :=
  ⟨by decide, keepsFields_after UniformLayout.mixedFields (by decide) mixedCalls⟩

end UniformBlock

end Facet
