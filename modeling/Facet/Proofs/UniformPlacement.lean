import Facet.Proofs.UniformMirror

/-!
# Where uniform fields lie

A shader finds a uniform by its offset, so the layout has to agree with the rules that the shader's
compiler follows: a field lies at the first multiple of its alignment at or after the end of the
field before it, and the block ends at a multiple of sixteen. A scalar may move into the tail of a
vector of three, which is why an offset depends on where the field before it *ends* and not on
where it is aligned.

`Placed` says what a layout owes to the fields declared so far and is kept by every further
declaration; fields that come later are never looked at (`Placed.foldlM`). Order, disjointness and
the bounds of the block all follow from it (`PlacesFields`).
-/

namespace Facet

theorem roundUp_isLeast (n : Nat) {unit : Nat} (h : 0 < unit) :
    IsLeast {m | unit ∣ m ∧ n ≤ m} (roundUp n unit) := by
  refine ⟨⟨Nat.dvd_mul_left _ _, le_roundUp n h⟩, ?_⟩
  intro m hm
  obtain ⟨⟨k, rfl⟩, hn⟩ := hm
  -- `unit * k` reaches `n`, so the quotient of a shorter number is at most `k`
  have hquotient : (n + unit - 1) / unit ≤ k := by
    rw [Nat.div_le_iff_le_mul_add_pred h]
    omega
  rw [roundUp, Nat.mul_comm]
  exact Nat.mul_le_mul_left unit hquotient

theorem UniformKind.alignment_pos (k : UniformKind) : 0 < k.alignment := by
  cases k <;> decide

/-- Where a field ends: it occupies the bytes from `offset` on that come before `stop`. -/
def UniformField.stop (f : UniformField) : Nat := f.offset + f.kind.size

namespace UniformLayout

/-- Where a row of fields ends. -/
def endOf (fields : List UniformField) : Nat := (fields.getLast?.map UniformField.stop).getD 0

theorem endOf_snoc (fields : List UniformField) (f : UniformField) :
    endOf (fields ++ [f]) = f.stop := by
  rw [endOf, List.getLast?_concat]
  rfl

/-! ## Looking a field up -/

variable {l : UniformLayout} {fields : List (String × UniformKind)} {name : String}

/-- The layout has the declared fields, in the order of declaration. -/
def Declares (l : UniformLayout) (fields : List (String × UniformKind)) : Prop :=
  l.fields.map (fun f => (f.name, f.kind)) = fields

theorem Declares.names (h : l.Declares fields) :
    l.fields.map UniformField.name = fields.map Prod.fst := by
  rw [← h, List.map_map]
  rfl

theorem Declares.field?_eq_none (h : l.Declares fields) :
    l.field? name = none ↔ name ∉ fields.map Prod.fst := by
  rw [field?, List.find?_eq_none, ← h.names, List.mem_map]
  constructor
  · intro hnone hmem
    obtain ⟨f, hf, hname⟩ := hmem
    exact hnone f hf (beq_iff_eq.mpr hname)
  · intro hnot f hf hname
    exact hnot ⟨f, hf, beq_iff_eq.mp hname⟩

/-- Under distinct names the field that a name finds is the one that has it. -/
theorem field?_of_mem (hnodup : (l.fields.map UniformField.name).Nodup) {f : UniformField}
    (hf : f ∈ l.fields) : l.field? f.name = some f := by
  obtain ⟨g, hg⟩ : ∃ g, l.field? f.name = some g := by
    rw [← Option.isSome_iff_exists, field?, List.find?_isSome]
    exact ⟨f, hf, beq_self_eq_true f.name⟩
  have hname : g.name = f.name := by simpa using List.find?_some hg
  rw [hg, List.inj_on_of_nodup_map hnodup (mem_of_field? hg) hf hname]

/-- A field that is found stays found, and stays where it is. -/
theorem field?_append {f : UniformField} (h : l.field? name = some f) (name' : String)
    (kind : UniformKind) : (l.append name' kind).field? name = some f := by
  rw [field?] at h
  rw [field?, append, List.find?_append, h]
  rfl

theorem offset?_append (h : (l.offset? name).isSome = true) (name' : String) (kind : UniformKind) :
    (l.append name' kind).offset? name = l.offset? name := by
  rw [offset?, Option.isSome_map] at h
  obtain ⟨f, hf⟩ := Option.isSome_iff_exists.mp h
  rw [offset?, offset?, field?_append hf, hf]

/-! ## One declaration after the other -/

/-- What a layout owes to the fields declared so far. -/
structure Placed (fields : List (String × UniformKind)) (l : UniformLayout) : Prop where
  declares : l.Declares fields
  extent_eq : l.extent = endOf l.fields
  /-- A field lies at the first multiple of its alignment after the field before it. -/
  offset_isLeast : ∀ i (h : i < l.fields.length),
    IsLeast {n | l.fields[i].kind.alignment ∣ n ∧ endOf (l.fields.take i) ≤ n} l.fields[i].offset

theorem placed_nil : Placed [] {} := ⟨rfl, rfl, fun i h => absurd h (Nat.not_lt_zero i)⟩

theorem Placed.append (h : Placed fields l) (name : String) (kind : UniformKind) :
    Placed (fields ++ [(name, kind)]) (l.append name kind) := by
  refine ⟨?_, ?_, ?_⟩
  · rw [Declares, UniformLayout.append, List.map_append, h.declares]
    rfl
  · rw [UniformLayout.append, endOf_snoc]
    rfl
  · intro i hi
    simp only [UniformLayout.append] at hi ⊢
    rw [List.length_append, List.length_singleton] at hi
    by_cases hlast : i < l.fields.length
    · -- the earlier fields, and all before them, are where they were
      rw [List.getElem_append_left hlast, List.take_append_of_le_length hlast.le]
      exact h.offset_isLeast i hlast
    · obtain rfl : i = l.fields.length := by omega
      rw [List.getElem_concat_length rfl, List.take_left, ← h.extent_eq]
      exact roundUp_isLeast l.extent kind.alignment_pos

/-- **New names can be declared one after the other**, and each is placed. -/
theorem Placed.foldlM : ∀ (more : List (String × UniformKind))
    {fields : List (String × UniformKind)} {l : UniformLayout}, Placed fields l →
    ((fields ++ more).map Prod.fst).Nodup →
    ∃ l', more.foldlM (fun l field => l.declare field.1 field.2) l = .ok l'
      ∧ Placed (fields ++ more) l'
  | [], fields, l, h, _ => ⟨l, rfl, (List.append_nil fields).symm ▸ h⟩
  | field :: more, fields, l, h, hnodup => by
      rw [List.append_cons] at hnodup
      have hnew : field.1 ∉ fields.map Prod.fst := by
        rw [List.map_append, List.map_append, List.map_singleton] at hnodup
        exact fun hmem => List.disjoint_of_nodup_append hnodup.of_append_left hmem
          (List.mem_singleton_self _)
      obtain ⟨l', hrun, hplaced⟩ := Placed.foldlM more (h.append field.1 field.2) hnodup
      refine ⟨l', ?_, ?_⟩
      · rw [List.foldlM_cons, declare, h.declares.field?_eq_none.mpr hnew]
        exact hrun
      · rw [List.append_cons]
        exact hplaced

/-! ## What follows -/

theorem Placed.endOf_take_le (h : Placed fields l) {i : Nat} (hi : i < l.fields.length) :
    endOf (l.fields.take i) ≤ l.fields[i].offset := (h.offset_isLeast i hi).1.2

/-- A field ends before the next begins, and so before all that come after it. -/
theorem Placed.ordered (h : Placed fields l) :
    l.fields.Pairwise fun f g => f.stop ≤ g.offset := by
  have hnext : ∀ i j (hj : j < l.fields.length) (hij : i < j),
      l.fields[i].stop ≤ l.fields[j].offset := by
    intro i j
    induction j with
    | zero => intro _ hij; exact absurd hij (Nat.not_lt_zero i)
    | succ j ih =>
        intro hj hij
        have hbefore : l.fields[j].stop ≤ l.fields[j + 1].offset := by
          have hle := h.endOf_take_le hj
          rwa [List.take_add_one, List.getElem?_eq_getElem (by omega), Option.toList_some,
            endOf_snoc] at hle
        rcases Nat.lt_succ_iff_lt_or_eq.mp hij with hlt | rfl
        · have hearlier := ih (by omega) hlt
          have hwithin : l.fields[j].offset ≤ l.fields[j].stop := Nat.le_add_right _ _
          omega
        · exact hbefore
  exact List.pairwise_iff_getElem.mpr fun i j _ hj hij => hnext i j hj hij

/-- A layout places its fields by the rules of the shading language. -/
structure PlacesFields (fields : List (String × UniformKind)) (l : UniformLayout) : Prop
    extends Placed fields l where
  /-- A field ends before any later one begins, so no two share a byte. -/
  ordered : l.fields.Pairwise fun f g => f.stop ≤ g.offset
  stop_le_size : ∀ f ∈ l.fields, f.stop ≤ l.size
  /-- The block is the least multiple of sixteen bytes that covers the last field. -/
  size_isLeast : IsLeast {n | 0 < n ∧ 16 ∣ n ∧ endOf l.fields ≤ n} l.size
  offset?_of_mem : ∀ f ∈ l.fields, l.offset? f.name = some f.offset
  offset?_isSome : ∀ name, (l.offset? name).isSome = true ↔ name ∈ fields.map Prod.fst
  /-- A new field can be added after the others and leaves them where they are. -/
  declare_new : ∀ name kind, name ∉ fields.map Prod.fst →
    ∃ l', l.declare name kind = .ok l' ∧ ofFields (fields ++ [(name, kind)]) = .ok l'
      ∧ (∃ f, l'.fields = l.fields ++ [f] ∧ f.name = name ∧ f.kind = kind)
      ∧ ∀ earlier ∈ fields.map Prod.fst, l'.offset? earlier = l.offset? earlier

theorem Placed.size_isLeast (h : Placed fields l) :
    IsLeast {n | 0 < n ∧ 16 ∣ n ∧ endOf l.fields ≤ n} l.size := by
  have hround : IsLeast {n | 16 ∣ n ∧ l.extent ≤ n} (roundUp l.extent 16) :=
    roundUp_isLeast l.extent (by decide)
  rw [h.extent_eq] at hround
  obtain ⟨⟨hdvd, hle⟩, hleast⟩ := hround
  rw [size, h.extent_eq]
  refine ⟨⟨by omega, ?_, hle.trans (le_max_left _ _)⟩, ?_⟩
  · -- either side of the maximum is a multiple of 16
    rcases max_choice (roundUp (endOf l.fields) 16) 16 with hmax | hmax <;> rw [hmax]
    exact hdvd
  · intro n hn
    obtain ⟨hpos, hn16, hcovers⟩ := hn
    exact max_le (hleast ⟨hn16, hcovers⟩) (Nat.le_of_dvd hpos hn16)

theorem Declares.offset?_isSome (h : l.Declares fields) :
    (l.offset? name).isSome = true ↔ name ∈ fields.map Prod.fst := by
  rw [offset?, Option.isSome_map, ← not_iff_not, ← h.field?_eq_none, Option.not_isSome_iff_eq_none]

theorem Placed.declare_new (h : Placed fields l) (hrun : ofFields fields = .ok l)
    {kind : UniformKind} (hnew : name ∉ fields.map Prod.fst) :
    ∃ l', l.declare name kind = .ok l' ∧ ofFields (fields ++ [(name, kind)]) = .ok l'
      ∧ (∃ f, l'.fields = l.fields ++ [f] ∧ f.name = name ∧ f.kind = kind)
      ∧ ∀ earlier ∈ fields.map Prod.fst, l'.offset? earlier = l.offset? earlier := by
  have hdeclare : l.declare name kind = .ok (l.append name kind) := by
    rw [declare, h.declares.field?_eq_none.mpr hnew]
    rfl
  refine ⟨_, hdeclare, ?_, ⟨_, rfl, rfl, rfl⟩, ?_⟩
  · rw [ofFields] at hrun ⊢
    rw [List.foldlM_append, hrun]
    show ([(name, kind)].foldlM (fun l field => l.declare field.1 field.2) l) = _
    rw [List.foldlM_cons, hdeclare]
    rfl
  · intro earlier hearlier
    exact offset?_append (h.declares.offset?_isSome.mpr hearlier) name kind

/-- **Fields of distinct names have a layout, and it places them by the rules.** -/
theorem ofFields_placesFields (fields : List (String × UniformKind))
    (hnodup : (fields.map Prod.fst).Nodup) :
    ∃ l, ofFields fields = .ok l ∧ PlacesFields fields l := by
  obtain ⟨l, hrun, h⟩ := Placed.foldlM fields placed_nil hnodup
  have hnames : (l.fields.map UniformField.name).Nodup := h.declares.names ▸ hnodup
  refine ⟨l, hrun, h, h.ordered, ?_, h.size_isLeast, ?_, ?_, ?_⟩
  · intro f hf
    exact (fits_ofFields hrun f hf).trans (extent_le_size l)
  · intro f hf
    rw [offset?, field?_of_mem hnames hf]
    rfl
  · exact fun name => h.declares.offset?_isSome
  · exact fun name kind hnew => h.declare_new hrun hnew

/-- A scalar in the tail of a vector of three, and gaps before the vector and the matrix. -/
def mixedFields : List (String × UniformKind) :=
  [("scale", .f32), ("tint", .vec3), ("count", .u32), ("flag", .u32), ("view", .mat4)]

theorem ofFields_mixedFields :
    (mixedFields.map Prod.fst).Nodup ∧ ∃ l, ofFields mixedFields = .ok l
      ∧ PlacesFields mixedFields l :=
  ⟨by decide, ofFields_placesFields mixedFields (by decide)⟩

end UniformLayout

end Facet
