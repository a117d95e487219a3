import GeoStream.Proofs.Record.Building
import GeoStream.Proofs.Record.Writing

/-!
# What is collected under a name

What is written for a node has one member for each name of its children, and the form of the node is
made only if the form of each child is. Whether all of these are in the member is for the
declaration to say (`Attribute.Collected`): an attribute that may have several values is written as
the list of them, in order, and so nothing is lost. Of an attribute that may have only one value the
first is written. A builder does not look at how many values it is given, and so others may stand
beside the first one: they are in the record but not in its form
(`RecordBuilder.built_form_repeated`).

Names collect by equality, which is not always being the same name. All that is needed of it is that
it is symmetric on names that may be keys (`Json.eqv_comm`), and that a not-a-number collects
nothing: a node that has a child with that name has no form.
-/

namespace GeoStream

/-! ## Equality of keys -/

namespace Json

variable {m n v : Json}

theorem eqv_comm (hm : m.isKey = true) (hn : n.isKey = true) : m.eqv n = n.eqv m := by
  have hfloat : ∀ x y : Binary64, x.eqv y = y.eqv x := fun x y ↦ by
    rw [Binary64.eqv, Binary64.eqv, Bool.and_comm (!x.isNaN), BEq.comm (a := x.bits),
      Bool.and_comm x.isZero]
  cases m <;> cases n <;> first
    | rfl
    | exact BEq.comm
    | exact hfloat _ _
    | cases hm

theorem eqv_self (hv : v.isKey = true) (hnumber : v.isNaN = false) : v.eqv v = true := by
  cases v with
  | null => rfl
  | bool b => exact beq_self_eq_true b
  | int n => exact beq_self_eq_true n
  | float x => exact Binary64.eqv_self hnumber
  | str k => exact beq_self_eq_true k
  | arr | obj => cases hv

/-- What equals something is a number if it is binary64. -/
theorem isNaN_of_eqv (h : m.eqv n = true) : n.isNaN = false := by
  cases n with
  | float y =>
    cases hy : y.isNaN with
    | false => exact hy
    | true =>
      have hfinite : y.isFinite = false :=
        Bool.eq_false_iff.mpr fun h ↦ by simp [Binary64.isNaN_of_isFinite h] at hy
      cases m <;> simp [eqv, Binary64.eqv, Binary64.eqvInt, hy, hfinite] at h
  | null | bool | int | str | arr | obj => rfl

end Json

/-- A number that equals one is not above one. -/
theorem Binary64.one_lt_of_eqvInt {x : Binary64} (h : x.eqvInt 1 = true) :
    (Binary64.ofQuotient false 1 1).lt x = false := by
  obtain ⟨hfinite, hone⟩ := (Bool.and_eq_true _ _).mp h
  have hfinite₁ : (Binary64.ofQuotient false 1 1).isFinite = true := by decide
  have hone₁ : (Binary64.ofQuotient false 1 1).numerator =
      (Binary64.ofQuotient false 1 1).denominator := by decide
  rw [Binary64.lt, hfinite₁, hfinite, Bool.and_self, if_pos rfl, hone₁, eq_of_beq hone,
    Int.one_mul, Int.mul_comm, decide_eq_false (Int.lt_irrefl _), Bool.and_false]

/-- A bound of one, however it is spelled, leaves room for one value. -/
theorem Descriptor.isMulti_of_eqv_one {d : Descriptor}
    (h : d.decl.maxOccurs.eqv (.int 1) = true) : d.isMulti = .ok false := by
  rw [isMulti]
  cases hbound : d.decl.maxOccurs with
  | int n =>
    rw [hbound] at h
    rw [eq_of_beq h]
    rfl
  | bool b => rfl
  | float x =>
    rw [hbound] at h
    exact congrArg Except.ok (Binary64.one_lt_of_eqvInt h)
  | null | str | arr | obj =>
    rw [hbound] at h
    cases h

namespace Attribute

variable {t : Schema} {cs as : List Attribute} {m n : Name} {seen names : List Name}
  {ms : List (Name × Form)} {f : Form} {a : Attribute}

/-! ## The names of a node -/

theorem namesOf_eq_ok (h : namesOf as = .ok names) :
    (∀ a ∈ as, a.name.isKey = true) ∧ names = distinctFrom [] (as.map name) := by
  rw [namesOf] at h
  split at h
  next hkeys =>
    rw [List.all_map, List.all_eq_true] at hkeys
    cases h
    exact ⟨hkeys, rfl⟩
  next => cases h

theorem mem_distinctFrom_of_mem (h : m ∈ seen) : m ∈ distinctFrom seen names := by
  induction names generalizing seen with
  | nil => exact h
  | cons n names ih =>
    rw [distinctFrom, List.foldl_cons]
    split
    · exact ih h
    · exact ih (List.mem_append_left _ h)

/-- Each name is one of those that are told apart, or the same as one. -/
theorem exists_mem_distinctFrom (seen : List Name) (h : n ∈ names) :
    ∃ m ∈ distinctFrom seen names, m = n ∨ m.same n = true := by
  induction names generalizing seen with
  | nil => cases h
  | cons l names ih =>
    rw [distinctFrom, List.foldl_cons]
    rcases List.mem_cons.mp h with rfl | h
    · split
      next hseen =>
        obtain ⟨m, hm, hsame⟩ := List.any_eq_true.mp hseen
        exact ⟨m, mem_distinctFrom_of_mem hm, .inr hsame⟩
      next =>
        exact ⟨n, mem_distinctFrom_of_mem (List.mem_append_right _ List.mem_cons_self), .inl rfl⟩
    · exact ih _ h

theorem pairwise_distinctFrom (h : seen.Pairwise fun m n ↦ m.same n = false) :
    (distinctFrom seen names).Pairwise fun m n ↦ m.same n = false := by
  induction names generalizing seen with
  | nil => exact h
  | cons n names ih =>
    rw [distinctFrom, List.foldl_cons]
    split
    next => exact ih h
    next hnew =>
      refine ih (List.pairwise_append.mpr ⟨h, List.pairwise_singleton _ _, fun m hm n' hn' ↦ ?_⟩)
      rw [List.mem_singleton.mp hn']
      exact Bool.eq_false_iff.mpr fun hsame ↦ hnew (List.any_eq_true.mpr ⟨m, hm, hsame⟩)

/-! ## The members of a node -/

/-- **The members of a node** are for its names in order, and each is gathered from the children of
its name. -/
theorem gather_eq_ok_iff : gather (some t) (forms cs) names = .ok ms ↔
    ms.map Prod.fst = names ∧ ∀ m f, (m, f) ∈ ms → Gathered t cs m f := by
  induction names generalizing ms with
  | nil =>
    rw [gather, List.map_eq_nil_iff]
    constructor
    · intro h
      cases h
      exact ⟨rfl, fun _ _ h ↦ absurd h List.not_mem_nil⟩
    · rintro ⟨rfl, -⟩
      rfl
  | cons n names ih =>
    rw [gather_cons, List.map_eq_cons_iff]
    constructor
    · rintro ⟨f, rest, hf, hrest, rfl⟩
      obtain ⟨hnames, hall⟩ := ih.mp hrest
      refine ⟨⟨_, rest, rfl, rfl, hnames⟩, fun m g hg ↦ ?_⟩
      rcases List.mem_cons.mp hg with h | h
      · cases h
        exact hf
      · exact hall m g h
    · rintro ⟨⟨⟨_, f⟩, rest, rfl, rfl, hnames⟩, hall⟩
      exact ⟨f, rest, hall _ f List.mem_cons_self,
        ih.mpr ⟨hnames, fun m g hg ↦ hall m g (List.mem_cons_of_mem _ hg)⟩, rfl⟩

/-! ## What is lost, and what is not -/

/-- The member of a name has the forms of the children of that name: of all of them if the name is
that of an attribute that may have several values, or if there is one child only. If the attribute
is to have one value, the first child is the one that counts. Nothing is said of several children
that no attribute is declared for, or one whose bound is below one. -/
structure Collected (t : Schema) (cs : List Attribute) (m : Name) (f : Form) : Prop where
  several : ∀ d, t.descriptor? m = some d → d.isMulti = .ok true →
    ∃ gs, f = .list gs ∧ List.Forall₂ (fun a g ↦ a.form = .ok g) (withName m cs) gs
  once : ∀ a, withName m cs = [a] → ∃ g, a.form = .ok g ∧ (f = g ∨ f = .list [g])
  first : ∀ d, t.descriptor? m = some d → d.decl.maxOccurs.eqv (.int 1) = true →
    ∃ a others, withName m cs = a :: others ∧ a.form = .ok f

/-- The members of a node: each is for the name of a child, no two are for the same name, and each
child is collected by one. -/
structure Collects (t : Schema) (cs : List Attribute) (ms : List (Name × Form)) : Prop where
  named : ∀ m f, (m, f) ∈ ms → ∃ c ∈ cs, c.name = m
  distinct : ms.Pairwise fun x y ↦ x.1.same y.1 = false
  collected : ∀ c ∈ cs, ∃ m f, (m, f) ∈ ms ∧ c.name.eqv m = true ∧ Collected t cs m f

theorem Gathered.collected (h : Gathered t cs m f) : Collected t cs m f := by
  cases h with
  | @listed d gs hd hmulti hgs =>
    refine ⟨fun _ _ _ ↦ ⟨gs, rfl, hgs⟩, fun a ha ↦ ?_, fun e he hone ↦ ?_⟩
    · rw [ha] at hgs
      obtain ⟨g, _, hg, hnil, rfl⟩ := List.forall₂_cons_left_iff.mp hgs
      rw [List.forall₂_nil_left_iff.mp hnil]
      exact ⟨g, hg, .inr rfl⟩
    · cases hd.symm.trans he
      cases hmulti.symm.trans (Descriptor.isMulti_of_eqv_one hone)
  | @first f gs hsingle hgs =>
    obtain ⟨a, others, ha, -, hwith⟩ := List.forall₂_cons_right_iff.mp hgs
    refine ⟨fun d hd hmulti ↦ ?_, fun a' ha' ↦ ?_, fun _ _ _ ↦ ⟨a, others, hwith, ha⟩⟩
    · cases hmulti.symm.trans (hsingle d hd)
    · cases hwith.symm.trans ha'
      exact ⟨f, ha, .inl rfl⟩

theorem Gathered.exists_form (h : Gathered t cs m f) :
    ∀ a ∈ withName m cs, ∃ g, a.form = .ok g := by
  intro a ha
  obtain ⟨gs, hgs⟩ : ∃ gs, List.Forall₂ (fun a g ↦ a.form = .ok g) (withName m cs) gs := by
    cases h with
    | listed _ _ hgs => exact ⟨_, hgs⟩
    | first _ hgs => exact ⟨_, hgs⟩
  obtain ⟨g, -, hg⟩ := exists_of_mem_of_forall₂ (List.Forall₂.flip hgs) ha
  exact ⟨g, hg⟩

/-- A name under which something is gathered equals something. -/
theorem Gathered.isNaN (h : Gathered t cs m f) : m.isNaN = false := by
  cases h with
  | listed hd => exact Json.isNaN_of_eqv (Descriptor.name_eqv_of_find? hd)
  | first _ hgs =>
    obtain ⟨a, others, -, -, hwith⟩ := List.forall₂_cons_right_iff.mp hgs
    have ha : a ∈ withName m cs := hwith ▸ List.mem_cons_self
    exact Json.isNaN_of_eqv (List.mem_filter.mp ha).2

/-- Each child of a node that is written is in a group that is gathered. -/
theorem exists_gathered (hnames : namesOf cs = .ok names)
    (h : gather (some t) (forms cs) names = .ok ms) {c : Attribute} (hc : c ∈ cs) :
    ∃ m f, (m, f) ∈ ms ∧ c.name.eqv m = true ∧ Gathered t cs m f := by
  obtain ⟨hkeys, rfl⟩ := namesOf_eq_ok hnames
  obtain ⟨hmap, hall⟩ := gather_eq_ok_iff.mp h
  have hname : c.name ∈ cs.map name := List.mem_map_of_mem hc
  obtain ⟨m, hm, hsame⟩ := exists_mem_distinctFrom [] hname
  obtain ⟨b, hb, rfl⟩ :=
    List.mem_map.mp ((mem_of_mem_distinctFrom hm).resolve_left List.not_mem_nil)
  rw [← hmap] at hm
  obtain ⟨⟨_, f⟩, hmem, rfl⟩ := List.mem_map.mp hm
  have hf := hall _ f hmem
  refine ⟨_, f, hmem, ?_, hf⟩
  -- the name is that of the group, or is found to be the same: and that is no not-a-number
  rcases hsame with hsame | hsame
  · rw [hsame] at hf ⊢
    exact Json.eqv_self (hkeys c hc) hf.isNaN
  · rw [Json.same, hf.isNaN, Bool.false_and, Bool.or_false] at hsame
    rwa [Json.eqv_comm (hkeys c hc) (hkeys b hb)]

/-- **The members of a node collect its children.** -/
theorem gather_collects (hnames : namesOf cs = .ok names)
    (h : gather (some t) (forms cs) names = .ok ms) : Collects t cs ms := by
  constructor
  · intro m f hf
    have hm : m ∈ names := (gather_eq_ok_iff.mp h).1 ▸ List.mem_map_of_mem hf
    rw [(namesOf_eq_ok hnames).2] at hm
    exact List.mem_map.mp ((mem_of_mem_distinctFrom hm).resolve_left List.not_mem_nil)
  · have hdistinct : (distinctFrom [] (cs.map name)).Pairwise fun m n ↦ m.same n = false :=
      pairwise_distinctFrom .nil
    rw [← (namesOf_eq_ok hnames).2, ← (gather_eq_ok_iff.mp h).1] at hdistinct
    exact List.pairwise_map.mp hdistinct
  · intro c hc
    obtain ⟨m, f, hmem, hname, hf⟩ := exists_gathered hnames h hc
    exact ⟨m, f, hmem, hname, hf.collected⟩

/-- A child of a node that is written has a form, whether that is written or not. -/
theorem exists_form_of_gather (hnames : namesOf cs = .ok names)
    (h : gather (some t) (forms cs) names = .ok ms) : ∀ c ∈ cs, ∃ f, c.form = .ok f := by
  intro c hc
  obtain ⟨m, f, -, hname, hf⟩ := exists_gathered hnames h hc
  exact hf.exists_form c (List.mem_filter.mpr ⟨hc, hname⟩)

/-! ## The nodes of a record -/

/-- Without a type there is no name to gather under. -/
theorem eq_nil_of_gather_none (h : gather none (forms cs) names = .ok ms) :
    names = [] ∧ ms = [] := by
  cases names with
  | nil =>
    cases h
    exact ⟨rfl, rfl⟩
  | cons n names =>
    obtain ⟨_, -, h⟩ := except_bind_eq_ok_iff.mp h
    cases h

theorem eq_nil_of_namesOf (h : namesOf cs = .ok []) : cs = [] := by
  cases cs with
  | nil => rfl
  | cons c cs =>
    have hname : c.name ∈ (c :: cs).map name := List.mem_map_of_mem List.mem_cons_self
    obtain ⟨m, hm, -⟩ := exists_mem_distinctFrom [] hname
    rw [← (namesOf_eq_ok h).2] at hm
    cases hm

/-- A complex attribute is written if it has no children, or if its children are gathered under the
type of its descriptor. -/
theorem form_complex {d : Descriptor} {identity : Option RecordIdentity} :
    (complex d cs identity).form = .ok f ↔
      (cs = [] ∧ f = .object [(.str "properties", .object [])]) ∨
      ∃ t names ms, d.type? = some t ∧ namesOf cs = .ok names ∧
        gather (some t) (forms cs) names = .ok ms ∧
        f = .object [(.str "properties", .object ms)] := by
  constructor
  · intro h
    obtain ⟨names, hnames, h⟩ := except_bind_eq_ok_iff.mp h
    obtain ⟨ms, hms, h⟩ := except_bind_eq_ok_iff.mp h
    replace hnames := ofFault_eq_ok_iff.mp hnames
    cases h
    cases ht : d.type? with
    | none =>
      rw [ht] at hms
      obtain ⟨rfl, rfl⟩ := eq_nil_of_gather_none hms
      exact .inl ⟨eq_nil_of_namesOf hnames, rfl⟩
    | some t =>
      rw [ht] at hms
      exact .inr ⟨t, names, ms, rfl, hnames, hms, rfl⟩
  · rintro (⟨rfl, rfl⟩ | ⟨t, names, ms, ht, hnames, hms, rfl⟩)
    · exact except_bind_eq_ok_iff.mpr ⟨[], rfl, except_bind_eq_ok_iff.mpr ⟨[], rfl, rfl⟩⟩
    · refine except_bind_eq_ok_iff.mpr ⟨names, ofFault_eq_ok_iff.mpr hnames,
        except_bind_eq_ok_iff.mpr ⟨ms, ?_, rfl⟩⟩
      rwa [ht]

mutual

/-- An attribute that has a form, and the nodes below it. -/
theorem exists_form_nodesOf : ∀ {above : Path} {a : Attribute} {f : Form}, a.form = .ok f →
    ∀ n ∈ nodesOf above a, ∃ g, n.node.form = .ok g
  | above, .scalar .., f, h, n, hn | above, .geometry .., f, h, n, hn => by
    rw [List.mem_singleton.mp hn]
    exact ⟨f, h⟩
  | above, .complex d cs identity, f, h, n, hn => by
    rcases List.mem_cons.mp hn with rfl | hn
    · exact ⟨f, h⟩
    · rcases form_complex.mp h with ⟨rfl, -⟩ | ⟨t, names, ms, -, hnames, hms, -⟩
      · exact absurd hn List.not_mem_nil
      · exact exists_form_nodes (exists_form_of_gather hnames hms) n hn
termination_by structural _ a => a

theorem exists_form_nodes : ∀ {above : Path} {cs : List Attribute},
    (∀ c ∈ cs, ∃ f, c.form = .ok f) → ∀ n ∈ nodes above cs, ∃ g, n.node.form = .ok g
  | _, [], _, _, hn => absurd hn List.not_mem_nil
  | _, c :: cs, h, n, hn => by
    obtain ⟨⟨f, hf⟩, hcs⟩ := List.forall_mem_cons.mp h
    rw [nodes] at hn
    rcases List.mem_append.mp hn with hn | hn
    · exact exists_form_nodesOf hf n hn
    · exact exists_form_nodes hcs n hn
termination_by structural _ cs => cs

end

/-! ## Attributes that can be written -/

/-- A child of a type is called by a name that may be a key and equals itself, and if the type has
an attribute for it, then that says how many values there may be. -/
structure Keyed (t : Schema) (a : Attribute) : Prop where
  isKey : a.name.isKey = true
  isNaN : a.name.isNaN = false
  bounded : ∀ d, t.descriptor? a.name = some d → ∃ multi, d.isMulti = .ok multi

/-- A geometry attribute holds nothing or a geometry that has an object, and the children of a
complex attribute, if there are any, belong to a type in which they can be told apart, at every
depth. -/
inductive Writable : Attribute → Prop where
  | scalar (d : Descriptor) (v : Value) : Writable (.scalar d v)
  | unset (d : Descriptor) (tag : Option Crs) : Writable (.geometry d (.json .null) tag)
  | geometry (d : Descriptor) {g : Geometry} {v : Json} (tag : Option Crs)
    (hv : g.toJson = .ok v) : Writable (.geometry d (.geometry g) tag)
  | bare (d : Descriptor) (identity : Option RecordIdentity) : Writable (.complex d [] identity)
  | complex {d : Descriptor} {t : Schema} {cs : List Attribute} (identity : Option RecordIdentity)
    (ht : d.type? = some t) (hkeyed : ∀ c ∈ cs, c.Keyed t) (hs : ∀ c ∈ cs, Writable c) :
    Writable (.complex d cs identity)

/-- Something is gathered under the name of a child. -/
theorem Keyed.gathered {c : Attribute} (hkeyed : c.Keyed t) (hc : c ∈ cs)
    (hforms : ∀ c ∈ cs, ∃ f, c.form = .ok f) : ∃ f, Gathered t cs c.name f := by
  have hself : c ∈ withName c.name cs :=
    List.mem_filter.mpr ⟨hc, Json.eqv_self hkeyed.isKey hkeyed.isNaN⟩
  have hgroup : ∀ a ∈ withName c.name cs, ∃ g, a.form = .ok g :=
    fun a ha ↦ hforms a (List.mem_of_mem_filter ha)
  obtain ⟨gs, hgs⟩ := exists_forall₂_of_forall hgroup
  obtain ⟨g, others, hcons⟩ : ∃ g others, gs = g :: others := by
    cases gs with
    | nil =>
      rw [List.forall₂_nil_right_iff.mp hgs] at hself
      cases hself
    | cons g others => exact ⟨g, others, rfl⟩
  by_cases hmulti : ∃ d, t.descriptor? c.name = some d ∧ d.isMulti = .ok true
  · obtain ⟨d, hd, hmulti⟩ := hmulti
    exact ⟨_, .listed hd hmulti hgs⟩
  · refine ⟨g, .first (fun d hd ↦ ?_) (hcons ▸ hgs)⟩
    obtain ⟨multi, hbound⟩ := hkeyed.bounded d hd
    cases multi with
    | false => exact hbound
    | true => exact absurd ⟨d, hd, hbound⟩ hmulti

theorem exists_gather_of_forall (h : ∀ n ∈ names, ∃ f, Gathered t cs n f) :
    ∃ ms, gather (some t) (forms cs) names = .ok ms := by
  induction names with
  | nil => exact ⟨[], rfl⟩
  | cons n names ih =>
    obtain ⟨⟨f, hf⟩, hnames⟩ := List.forall_mem_cons.mp h
    obtain ⟨rest, hrest⟩ := ih hnames
    exact ⟨_, gather_cons.mpr ⟨f, rest, hf, hrest, rfl⟩⟩

/-- Children that can be told apart and have forms are written. -/
theorem exists_gather (hkeyed : ∀ c ∈ cs, c.Keyed t) (hforms : ∀ c ∈ cs, ∃ f, c.form = .ok f) :
    ∃ names ms, namesOf cs = .ok names ∧ gather (some t) (forms cs) names = .ok ms := by
  have hall : ∀ n ∈ distinctFrom [] (cs.map name), ∃ f, Gathered t cs n f := by
    intro n hn
    obtain ⟨c, hc, rfl⟩ :=
      List.mem_map.mp ((mem_of_mem_distinctFrom hn).resolve_left List.not_mem_nil)
    exact (hkeyed c hc).gathered hc hforms
  obtain ⟨ms, hms⟩ := exists_gather_of_forall hall
  exact ⟨_, ms, namesOf_eq fun c hc ↦ (hkeyed c hc).isKey, hms⟩

theorem Writable.exists_form (h : a.Writable) : ∃ f, a.form = .ok f := by
  induction h with
  | scalar d v =>
    cases v <;> exact ⟨_, rfl⟩
  | unset d tag => exact ⟨_, rfl⟩
  | geometry d tag hv => exact ⟨_, form_geometry tag hv⟩
  | bare d identity => exact ⟨_, form_complex.mpr (.inl ⟨rfl, rfl⟩)⟩
  | complex identity ht hkeyed hs ih =>
    obtain ⟨names, ms, hnames, hms⟩ := exists_gather hkeyed ih
    exact ⟨_, form_complex.mpr (.inr ⟨_, names, ms, ht, hnames, hms, rfl⟩)⟩

/-- A complex node that is written, at any depth, is written as what it collects under its type, if
it has children. -/
theorem form_complex_collects {d : Descriptor} {identity : Option RecordIdentity}
    (h : (complex d cs identity).form = .ok f) :
    ∃ ms, f = .object [(.str "properties", .object ms)] ∧
      (cs ≠ [] → ∃ t, d.type? = some t ∧ Collects t cs ms) := by
  rcases form_complex.mp h with ⟨hcs, rfl⟩ | ⟨t, names, ms, ht, hnames, hms, rfl⟩
  · exact ⟨[], rfl, fun hne ↦ absurd hcs hne⟩
  · exact ⟨ms, rfl, fun _ ↦ ⟨t, ht, gather_collects hnames hms⟩⟩

end Attribute

namespace Record

variable {r : Record} {f : Form}

theorem form_eq_ok (h : r.form = .ok f) : ∃ names ms rest,
    Attribute.namesOf r.properties = .ok names ∧
    Attribute.gather (some r.schema) (Attribute.forms r.properties) names = .ok ms ∧
    f = .object ((.str "id", .json r.id) :: (.str "properties", .object ms) :: rest) := by
  obtain ⟨names, hnames, h⟩ := except_bind_eq_ok_iff.mp h
  obtain ⟨ms, hms, h⟩ := except_bind_eq_ok_iff.mp h
  exact ⟨names, ms, _, ofFault_eq_ok_iff.mp hnames, hms, (Except.ok.inj h).symm⟩

theorem exists_form_of_writable (hkeyed : ∀ a ∈ r.properties, a.Keyed r.schema)
    (hwritable : ∀ a ∈ r.properties, a.Writable) : ∃ f, r.form = .ok f := by
  obtain ⟨names, ms, hnames, hms⟩ :=
    Attribute.exists_gather hkeyed fun a ha ↦ (hwritable a ha).exists_form
  exact ⟨_, except_bind_eq_ok_iff.mpr ⟨names, ofFault_eq_ok_iff.mpr hnames,
    except_bind_eq_ok_iff.mpr ⟨ms, hms, rfl⟩⟩⟩

end Record

namespace RecordBuilder

variable {s : Schema} {as : List Attribute} {r : Record}

/-- **What is written for a record that was built.** Its attributes are those that were accepted,
each put under the schema. If they can be written, then it has a form, and in a form the record and
every complex node in it, however deep, collects its children: a node that has children is of a
type. -/
theorem built_form (h : Built s as r) :
    List.Forall₂ (fun a a' ↦ a.settle s = .ok a') as r.properties ∧
    ((∀ a ∈ r.properties, a.Keyed s ∧ a.Writable) → ∃ f, r.form = .ok f) ∧
    ∀ f, r.form = .ok f → ∃ ms rest,
      f = .object ((.str "id", .json r.id) :: (.str "properties", .object ms) :: rest) ∧
      Attribute.Collects s r.properties ms ∧
      ∀ n ∈ Attribute.nodes [] r.properties, ∀ d cs identity,
        n.node = .complex d cs identity → ∃ ms',
          n.node.form = .ok (.object [(.str "properties", .object ms')]) ∧
          (cs ≠ [] → ∃ t, d.type? = some t ∧ Attribute.Collects t cs ms') := by
  obtain ⟨rfl, hsettled⟩ := h.settled
  refine ⟨?_, fun hr ↦ ?_, fun f hf ↦ ?_⟩
  · exact Attribute.settled_of_settleAll hsettled
  · exact Record.exists_form_of_writable (fun a ha ↦ (hr a ha).1) fun a ha ↦ (hr a ha).2
  · obtain ⟨names, ms, rest, hnames, hms, hform⟩ := Record.form_eq_ok hf
    refine ⟨ms, rest, hform, Attribute.gather_collects hnames hms, ?_⟩
    intro n hn d cs identity hnode
    have hforms := Attribute.exists_form_of_gather hnames hms
    obtain ⟨g, hg⟩ := Attribute.exists_form_nodes hforms n hn
    rw [hnode] at hg ⊢
    obtain ⟨ms', rfl, hcollects⟩ := Attribute.form_complex_collects hg
    exact ⟨ms', hg, hcollects⟩

/-- An attribute of several values that occurs twice, and in which another one does. -/
theorem built_form_nested :
    ∃ (s : Schema) (as : List Attribute) (r : Record), Built s as r ∧
      as.map Attribute.name = [.str "site", .str "site"] ∧
      as.map (fun a ↦ a.children.map Attribute.name) = [[.str "code", .str "code"], []] ∧
      ∃ f ms rest, r.form = .ok f ∧
        f = .object ((.str "id", .json r.id) :: (.str "properties", .object ms) :: rest) ∧
        Attribute.Collects s r.properties ms ∧
        ∀ n ∈ Attribute.nodes [] r.properties, ∀ d cs identity,
          n.node = .complex d cs identity → ∃ ms',
            n.node.form = .ok (.object [(.str "properties", .object ms')]) ∧
            (cs ≠ [] → ∃ t, d.type? = some t ∧ Attribute.Collects t cs ms') := by
  let code : Descriptor :=
    .scalar { stamp := ⟨1, [0, 0]⟩, name := .str "code", maxOccurs := .int 2 }
  let site : Descriptor := .complex
    { stamp := ⟨1, [0]⟩, name := .str "site", maxOccurs := .null } (.str "Site") none [code]
  let s : Schema := ⟨.str "Row", [site], none⟩
  let as : List Attribute :=
    [.complex site [.scalar code (.json (.str "a")), .scalar code (.json (.str "b"))] none,
      .complex site [] none]
  have hbuilt : Built s as (.make s (.str "r") as []) := ⟨_, .str "r", .null, _, rfl, rfl⟩
  have hbound : ∀ e : Descriptor, e.isMulti = .ok true →
      ∀ d, some e = some d → ∃ multi, d.isMulti = .ok multi := by
    rintro e he d ⟨⟩
    exact ⟨true, he⟩
  have hsite : ∀ cs, (Attribute.complex site cs none).Keyed s :=
    fun cs ↦ ⟨rfl, rfl, hbound site rfl⟩
  have hcode : ∀ v, (Attribute.scalar code v).Keyed ⟨.str "Site", [code], none⟩ :=
    fun v ↦ ⟨rfl, rfl, hbound code rfl⟩
  have hwritable : ∀ a ∈ as, a.Keyed s ∧ a.Writable := by
    refine List.forall_mem_cons.mpr ⟨⟨hsite _, .complex none rfl ?_ ?_⟩,
      List.forall_mem_singleton.mpr ⟨hsite _, .complex none rfl ?_ ?_⟩⟩
    · exact List.forall_mem_cons.mpr ⟨hcode _, List.forall_mem_singleton.mpr (hcode _)⟩
    · exact List.forall_mem_cons.mpr ⟨.scalar .., List.forall_mem_singleton.mpr (.scalar ..)⟩
    · exact List.forall_mem_nil _
    · exact List.forall_mem_nil _
  obtain ⟨-, hwritten, hall⟩ := built_form hbuilt
  obtain ⟨f, hf⟩ := hwritten hwritable
  obtain ⟨ms, rest, hform⟩ := hall f hf
  exact ⟨s, as, _, hbuilt, rfl, rfl, f, ms, rest, hf, hform⟩

/-- **A value that is lost.** Two values of an attribute that is to have one: a builder takes both,
and the second one is nowhere in what is written. -/
theorem built_form_repeated :
    ∃ (s : Schema) (as : List Attribute) (r : Record) (a : Attribute) (g : Form)
      (ms rest : List (Name × Form)), Built s as r ∧ a ∈ r.properties ∧ a.form = .ok g ∧
      r.form = .ok (.object ((.str "id", .json r.id) :: (.str "properties", .object ms) :: rest)) ∧
      ∀ m f, (m, f) ∈ ms → f ≠ g ∧ ∀ gs, f = .list gs → g ∉ gs := by
  let a : Descriptor := .scalar { stamp := ⟨1, [0]⟩, name := .str "a" }
  let value (k : String) : Attribute := .scalar a (.json (.str k))
  refine ⟨⟨.str "Row", [a], none⟩, [value "1", value "2"], _, value "2", .json (.str "2"),
    [(.str "a", .json (.str "1"))], [], ⟨_, .str "r", .null, _, rfl, rfl⟩,
    List.mem_cons_of_mem _ List.mem_cons_self, rfl, rfl, fun m f hf ↦ ?_⟩
  cases List.mem_singleton.mp hf
  exact ⟨fun h ↦ absurd (Form.json.inj h) (by decide), nofun⟩

end RecordBuilder

end GeoStream
