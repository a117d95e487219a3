import GeoStream.Proofs.Action
import GeoStream.Proofs.Record.Reprojecting

/-!
# Walking a record under any target schema

Reprojecting walks two trees at once, the record and the target schema, and nothing is known here of
how the two are related. What the walk comes to is told without it. The nodes of a record are listed
with the paths above them, each before what is below it (`Attribute.nodes`), and a node *offends* if
the target has a type for what it belongs to but no place for the node there, or if its geometry
cannot be moved (`Node.Offends`). A record is reprojected if no node offends, and otherwise the
first one that offends is the error.

A walk does not go below a node for which the target has no type. The nodes there are listed all the
same, and do not offend because the type of what they belong to is looked up from the root
(`Schema.typeAt?`).
-/

namespace GeoStream

/-! ## The first bad member of a list -/

/-- What comes of going through a list: something good if no member is bad, and otherwise the error
of the first one that is. -/
def FirstBad {α β : Type} (bad : α → Error → Prop) (listed : List α) (good : β → Prop) :
    Except Error β → Prop
  | .ok y => good y ∧ ∀ x ∈ listed, ∀ e, ¬ bad x e
  | .error e => ∃ before x after, listed = before ++ x :: after ∧
      (∀ y ∈ before, ∀ e, ¬ bad y e) ∧ bad x e

namespace FirstBad

variable {α β γ : Type} {bad : α → Error → Prop} {listed listed' : List α} {good : β → Prop}
  {good' : γ → Prop} {x : Except Error β} {a : α}

theorem pure {y : β} (h : good y) : FirstBad bad [] good (.ok y) :=
  ⟨h, fun _ hx ↦ absurd hx List.not_mem_nil⟩

theorem here {e : Error} (h : bad a e) (rest : List α) :
    FirstBad bad (a :: rest) good (.error e) :=
  ⟨[], a, rest, rfl, fun _ hx ↦ absurd hx List.not_mem_nil, h⟩

/-- A member that is not bad may stand in front. -/
theorem cons (ha : ∀ e, ¬ bad a e) (h : FirstBad bad listed good x) :
    FirstBad bad (a :: listed) good x := by
  have hmem : ∀ {l : List α}, (∀ y ∈ l, ∀ e, ¬ bad y e) → ∀ y ∈ a :: l, ∀ e, ¬ bad y e := by
    intro l hl y hy
    rcases List.mem_cons.mp hy with rfl | hy
    · exact ha
    · exact hl y hy
  cases x with
  | ok y => exact ⟨h.1, hmem h.2⟩
  | error e =>
    obtain ⟨before, b, after, rfl, hbefore, hb⟩ := h
    exact ⟨a :: before, b, after, rfl, hmem hbefore, hb⟩

theorem idle {y : β} (h : good y) (hlisted : ∀ x ∈ listed, ∀ e, ¬ bad x e) :
    FirstBad bad listed good (.ok y) :=
  ⟨h, hlisted⟩

/-- One list after another: the first error counts. -/
theorem bind {f : β → Except Error γ} (h : FirstBad bad listed good x)
    (hf : ∀ y, good y → FirstBad bad listed' good' (f y)) :
    FirstBad bad (listed ++ listed') good' (x >>= f) := by
  cases x with
  | error e =>
    obtain ⟨before, b, after, hsplit, hbefore, hb⟩ := h
    exact ⟨before, b, after ++ listed', by rw [hsplit, List.append_assoc, List.cons_append],
      hbefore, hb⟩
  | ok y =>
    obtain ⟨hy, hnone⟩ := h
    have hrest := hf y hy
    clear hf hy
    rw [except_ok_bind]
    induction listed with
    | nil => exact hrest
    | cons a listed ih =>
      exact .cons (hnone a List.mem_cons_self)
        (ih fun b hb ↦ hnone b (List.mem_cons_of_mem _ hb))

theorem map {f : β → γ} (h : FirstBad bad listed good x) (hf : ∀ y, good y → good' (f y)) :
    FirstBad bad listed good' (x >>= fun y ↦ .ok (f y)) := by
  have hbound := h.bind fun y hy ↦ (.pure (hf y hy) : FirstBad bad [] good' _)
  rwa [List.append_nil] at hbound

theorem exceptMap {f : β → γ} (h : FirstBad bad listed good x) (hf : ∀ y, good y → good' (f y)) :
    FirstBad bad listed good' (x.map f) := by
  cases x with
  | ok y => exact h.map hf
  | error e => exact h

end FirstBad

/-! ## The nodes of a record -/

/-- A node of a record, with the path of what it belongs to. -/
structure Node where
  above : Path
  node : Attribute

namespace Node

def path (n : Node) : Path := n.above ++ [n.node.name]

/-- Why a record cannot be reprojected because of a node. -/
inductive Offends (target : Schema) (at? : Path → Option Transformer) (record : Json) (n : Node) :
    Error → Prop where
  /-- The target type lacks an attribute of this name. -/
  | unknown {t : Schema} (ht : target.typeAt? n.above = some t)
    (hd : t.descriptor? n.node.name = none) :
    Offends target at? record n (.showing n.path (.unexpectedAttribute record · t.name))
  /-- The target type has records where the node has none. -/
  | notComplex {t : Schema} {decl : Declaration} {name : Name} {g : Option Name}
    {ds : List Descriptor} (ht : target.typeAt? n.above = some t)
    (hd : t.descriptor? n.node.name = some (.complex decl name g ds))
    (hkind : n.node.isComplex = false) :
    Offends target at? record n (.notComplex n.node.name name)
  /-- No transformer can be looked up for the path. -/
  | notKey {t : Schema} {decl : Declaration} {crs : Option Crs}
    (ht : target.typeAt? n.above = some t)
    (hd : t.descriptor? n.node.name = some (.geometry decl crs))
    (hkey : n.path.isKey = false) : Offends target at? record n (.fault .wrongType)
  /-- The geometry cannot be moved. -/
  | unmoved {t : Schema} {decl : Declaration} {crs : Option Crs} {tr : Transformer} {g : Geometry}
    {failure : TransformFailure} (ht : target.typeAt? n.above = some t)
    (hd : t.descriptor? n.node.name = some (.geometry decl crs))
    (hkey : n.path.isKey = true) (hat : at? n.path = some tr)
    (hvalue : n.node.value = .geometry g) (hfailure : g.transform tr = .error failure) :
    Offends target at? record n (.unmoved n.path record failure)

theorem not_offends_of_none {target : Schema} {at? : Path → Option Transformer} {record : Json}
    {n : Node} (h : target.typeAt? n.above = none) (e : Error) :
    ¬ n.Offends target at? record e := by
  rintro (⟨ht, -⟩ | ⟨ht, -, -⟩ | ⟨ht, -, -⟩ | ⟨ht, -, -, -, -, -⟩) <;>
  · rw [h] at ht
    cases ht

/-- Where the target has an attribute, what offends is a node that is not complex under a complex
one, or a node under a geometry attribute, because of its path or its geometry. -/
theorem Offends.reason {target : Schema} {at? : Path → Option Transformer} {record : Json}
    {n : Node} {e : Error} {t : Schema} {d : Descriptor} (h : n.Offends target at? record e)
    (ht : target.typeAt? n.above = some t) (hd : t.descriptor? n.node.name = some d) :
    (n.node.isComplex = false ∧ ∃ decl name g ds, d = .complex decl name g ds) ∨
      ∃ decl crs, d = .geometry decl crs ∧ (n.path.isKey = false ∨ ∃ tr g failure,
        at? n.path = some tr ∧ n.node.value = .geometry g ∧
          g.transform tr = .error failure) := by
  cases h with
  | unknown ht' hd' =>
    cases ht.symm.trans ht'
    cases hd.symm.trans hd'
  | notComplex ht' hd' hkind =>
    cases ht.symm.trans ht'
    exact .inl ⟨hkind, _, _, _, _, Option.some.inj (hd.symm.trans hd')⟩
  | notKey ht' hd' hkey =>
    cases ht.symm.trans ht'
    exact .inr ⟨_, _, Option.some.inj (hd.symm.trans hd'), .inl hkey⟩
  | unmoved ht' hd' hkey hat hvalue hfailure =>
    cases ht.symm.trans ht'
    exact .inr ⟨_, _, Option.some.inj (hd.symm.trans hd'), .inr ⟨_, _, _, hat, hvalue, hfailure⟩⟩

end Node

namespace Attribute

mutual

/-- An attribute and the nodes below it, depth-first. -/
def nodesOf (above : Path) : Attribute → List Node
  | .scalar d v => [⟨above, .scalar d v⟩]
  | .geometry d v tag => [⟨above, .geometry d v tag⟩]
  | .complex d cs identity => ⟨above, .complex d cs identity⟩ :: nodes (above ++ [d.name]) cs
termination_by structural a => a

/-- Some attributes below a path and the nodes below them, depth-first. -/
def nodes (above : Path) : List Attribute → List Node
  | [] => []
  | a :: cs => nodesOf above a ++ nodes above cs
termination_by structural cs => cs

end

theorem exists_nodesOf_eq (above : Path) (a : Attribute) :
    ∃ below, nodesOf above a = ⟨above, a⟩ :: below := by
  cases a <;> exact ⟨_, rfl⟩

variable {target : Schema} {above : Path}

mutual

theorem typeAt?_of_mem_nodesOf : ∀ {above : Path} {a : Attribute}, target.typeAt? above = none →
    ∀ n ∈ nodesOf above a, target.typeAt? n.above = none
  | _, .scalar .., h, n, hn | _, .geometry .., h, n, hn => by
    rw [List.mem_singleton.mp hn]
    exact h
  | above, .complex d cs identity, h, n, hn => by
    rcases List.mem_cons.mp hn with rfl | hn
    · exact h
    · refine typeAt?_of_mem_nodes ?_ n hn
      rw [Schema.typeAt?_append, h]
      rfl
termination_by structural _ a => a

/-- Where the target has no type, it has none further down. -/
theorem typeAt?_of_mem_nodes : ∀ {above : Path} {cs : List Attribute},
    target.typeAt? above = none → ∀ n ∈ nodes above cs, target.typeAt? n.above = none
  | _, [], _, _, hn => absurd hn List.not_mem_nil
  | _, a :: cs, h, n, hn => by
    rw [nodes] at hn
    rcases List.mem_append.mp hn with hn | hn
    · exact typeAt?_of_mem_nodesOf h n hn
    · exact typeAt?_of_mem_nodes h n hn
termination_by structural _ cs => cs

end

/-- An attribute is a node of the kind that its descriptor is for, and so is everything below. -/
inductive OfKind : Attribute → Prop where
  | scalar (decl : Declaration) (v : Value) : OfKind (.scalar (.scalar decl) v)
  | geometry (decl : Declaration) (crs : Option Crs) (v : Value) (tag : Option Crs) :
    OfKind (.geometry (.geometry decl crs) v tag)
  | complex {cs : List Attribute} (decl : Declaration) (name : Name) (g : Option Name)
    (ds : List Descriptor) (identity : Option RecordIdentity) (hs : ∀ a ∈ cs, OfKind a) :
    OfKind (.complex (.complex decl name g ds) cs identity)

theorem Conforms.ofKind {t : Schema} {a : Attribute} (h : a.Conforms t) : a.OfKind := by
  induction h with
  | scalar v h => exact .scalar _ v
  | geometry v tag h => exact .geometry _ _ v tag
  | complex identity h hs ih => exact .complex _ _ _ _ identity ih

/-! ## What becomes of a node -/

mutual

/-- What a node of a record becomes under a target type. A geometry attribute of the type takes its
descriptor and the system declared there as its tag, and the value of the node, moved if it is a
geometry and there is a transformer for the path. A scalar attribute takes the value as it is. A
complex one has the nodes below, each under the type there. Names stay equal. -/
inductive Becomes (at? : Path → Option Transformer) :
    Schema → Path → Attribute → Attribute → Prop where
  | geometry {t : Schema} {above : Path} {a : Attribute} {decl : Declaration} {crs : Option Crs}
    {v : Value} (hd : t.descriptor? a.name = some (.geometry decl crs))
    (hname : decl.name.eqv a.name = true) (h : MovedBy at? (above ++ [a.name]) a.value v) :
    Becomes at? t above a (.geometry (.geometry decl crs) v crs)
  | scalar {t : Schema} {above : Path} {a : Attribute} {decl : Declaration}
    (hd : t.descriptor? a.name = some (.scalar decl)) (hname : decl.name.eqv a.name = true) :
    Becomes at? t above a (.scalar (.scalar decl) a.value)
  | complex {t : Schema} {above : Path} {d : Descriptor} {cs cs' : List Attribute}
    {identity : Option RecordIdentity} {decl : Declaration} {name : Name} {g : Option Name}
    {ds : List Descriptor} (hd : t.descriptor? d.name = some (.complex decl name g ds))
    (hname : decl.name.eqv d.name = true)
    (h : AllBecome at? ⟨name, ds, g⟩ (above ++ [d.name]) cs cs') :
    Becomes at? t above (.complex d cs identity) (.complex (.complex decl name g ds) cs' none)

/-- The same for the attributes below a path, one by one and in order. -/
inductive AllBecome (at? : Path → Option Transformer) :
    Schema → Path → List Attribute → List Attribute → Prop where
  | nil {t : Schema} {above : Path} : AllBecome at? t above [] []
  | cons {t : Schema} {above : Path} {a a' : Attribute} {cs cs' : List Attribute}
    (h : Becomes at? t above a a') (hs : AllBecome at? t above cs cs') :
    AllBecome at? t above (a :: cs) (a' :: cs')

end

variable {table : TransformerTable} {record : Json} {t : Schema} {a : Attribute}

theorem not_offends_of_moved {decl : Declaration} {crs : Option Crs}
    {at? : Path → Option Transformer} {v : Value} (ht : target.typeAt? above = some t)
    (hd : t.descriptor? a.name = some (.geometry decl crs))
    (hkey : Path.isKey (above ++ [a.name]) = true)
    (hv : MovedBy at? (above ++ [a.name]) a.value v) (e : Error) :
    ¬ Node.Offends target at? record ⟨above, a⟩ e := by
  intro h
  rcases h.reason ht hd with
    ⟨-, _, _, _, _, ⟨⟩⟩ | ⟨_, _, ⟨⟩, hkey' | ⟨tr, g, failure, hat, hvalue, hfailure⟩⟩
  · exact absurd (hkey.symm.trans hkey') Bool.noConfusion
  · have hvalue : a.value = .geometry g := hvalue
    rw [hvalue] at hv
    cases hv with
    | moved ht' hg =>
      cases hat.symm.trans ht'
      cases hfailure.symm.trans hg
    | kept hnone => exact hnone _ _ hat rfl

/-- A node where the target type has a geometry attribute, with whatever is below it. -/
theorem reprojectGeometry_first {decl : Declaration} {crs : Option Crs} {below : List Node}
    (ht : target.typeAt? above = some t) (hd : t.descriptor? a.name = some (.geometry decl crs))
    (hbelow : ∀ n ∈ below, target.typeAt? n.above = none) :
    FirstBad (Node.Offends target table.at? record) (⟨above, a⟩ :: below)
      (Becomes table.at? t above a)
      (reprojectGeometry table record (above ++ [a.name]) (.geometry decl crs) a.value) := by
  have hname : decl.name.eqv a.name = true := Descriptor.name_eqv_of_find? hd
  have hidle : ∀ n ∈ below, ∀ e, ¬ n.Offends target table.at? record e :=
    fun n hn ↦ Node.not_offends_of_none (hbelow n hn)
  by_cases hkey : Path.isKey (above ++ [a.name]) = true
  · have hmoved : ∀ {v}, MovedBy table.at? (above ++ [a.name]) a.value v →
        FirstBad (Node.Offends target table.at? record) (⟨above, a⟩ :: below)
          (Becomes table.at? t above a) (.ok (.geometry (.geometry decl crs) v crs)) :=
      fun hv ↦ .cons (not_offends_of_moved ht hd hkey hv) (.idle (.geometry hd hname hv) hidle)
    by_cases hmoves : ∃ tr g failure, table.at? (above ++ [a.name]) = some tr ∧
      a.value = .geometry g ∧ g.transform tr = .error failure
    · obtain ⟨tr, g, failure, hat, hvalue, hg⟩ := hmoves
      rw [hvalue, reprojectGeometry_of_error hkey hat hg]
      exact .here (.unmoved ht hd hkey hat hvalue hg) below
    unfold reprojectGeometry
    rw [if_neg (by simp [hkey])]
    split
    next tr g hat hvalue =>
      cases hg : g.transform tr with
      | ok g' =>
        refine hmoved ?_
        rw [hvalue]
        exact .moved hat hg
      | error failure => exact absurd ⟨tr, g, failure, hat, hvalue, hg⟩ hmoves
    next hnone => exact hmoved (.kept hnone)
  · rw [Bool.not_eq_true] at hkey
    unfold reprojectGeometry
    rw [if_pos (by simp [hkey])]
    exact .here (.notKey ht hd hkey) below

/-- A node where the target type has a scalar attribute is not looked at further. -/
theorem not_offends_of_scalar {decl : Declaration} {at? : Path → Option Transformer}
    (ht : target.typeAt? above = some t) (hd : t.descriptor? a.name = some (.scalar decl))
    (e : Error) : ¬ Node.Offends target at? record ⟨above, a⟩ e := by
  intro h
  rcases h.reason ht hd with ⟨-, _, _, _, _, ⟨⟩⟩ | ⟨_, _, ⟨⟩, -⟩

theorem not_offends_of_complex {decl : Declaration} {name : Name} {g : Option Name}
    {ds : List Descriptor} {at? : Path → Option Transformer} (ht : target.typeAt? above = some t)
    (hd : t.descriptor? a.name = some (.complex decl name g ds)) (hkind : a.isComplex = true)
    (e : Error) : ¬ Node.Offends target at? record ⟨above, a⟩ e := by
  intro h
  rcases h.reason ht hd with ⟨hkind', -⟩ | ⟨_, _, ⟨⟩, -⟩
  exact absurd (hkind.symm.trans hkind') Bool.noConfusion

/-- A node where the target type has a scalar attribute, with whatever is below it. -/
theorem scalar_first {decl : Declaration} {below : List Node} (ht : target.typeAt? above = some t)
    (hd : t.descriptor? a.name = some (.scalar decl))
    (hbelow : ∀ n ∈ below, target.typeAt? n.above = none) :
    FirstBad (Node.Offends target table.at? record) (⟨above, a⟩ :: below)
      (Becomes table.at? t above a) (.ok (.scalar (.scalar decl) a.value)) :=
  .cons (not_offends_of_scalar ht hd) (.idle (.scalar hd (Descriptor.name_eqv_of_find? hd))
    fun n hn ↦ Node.not_offends_of_none (hbelow n hn))

/-- Where the target has no records, it has no type for what is below. -/
theorem typeAt?_below {d d' : Descriptor} (ht : target.typeAt? above = some t)
    (hd : t.descriptor? d.name = some d') (htype : d'.type? = none) (cs : List Attribute) :
    ∀ n ∈ nodes (above ++ [d.name]) cs, target.typeAt? n.above = none := by
  refine typeAt?_of_mem_nodes ?_
  rw [Schema.typeAt?_append, ht, Option.bind_some, hd, Option.bind_some, htype]

mutual

/-- Reprojecting an attribute at a path where the target has a type. -/
theorem reproject_first : ∀ {above : Path} {t : Schema} {a : Attribute} {d : Descriptor},
    target.typeAt? above = some t → a.OfKind → t.descriptor? a.name = some d →
      FirstBad (Node.Offends target table.at? record) (nodesOf above a)
        (Becomes table.at? t above a) (reproject table record (above ++ [a.name]) d a)
  | above, t, .scalar e v, d, ht, ha, hd => by
    cases ha with
    | scalar decl =>
      cases d with
      | geometry decl' crs => exact reprojectGeometry_first ht hd nofun
      | scalar decl' =>
        rw [reproject]
        · split_ifs with h
          · cases h
            exact scalar_first ht hd nofun
          · exact scalar_first ht hd nofun
        · nofun
      | complex decl' name g ds => exact .here (.notComplex ht hd rfl) []
  | above, t, .geometry e v tag, d, ht, ha, hd => by
    cases ha with
    | geometry decl crs =>
      cases d with
      | geometry decl' crs' => exact reprojectGeometry_first ht hd nofun
      | scalar decl' => exact scalar_first ht hd nofun
      | complex decl' name g ds => exact .here (.notComplex ht hd rfl) []
  | above, t, .complex e cs identity, d, ht, ha, hd => by
    cases ha with
    | complex decl name g ds _ hs =>
      cases d with
      | geometry decl' crs => exact reprojectGeometry_first ht hd (typeAt?_below ht hd rfl cs)
      | scalar decl' => exact scalar_first ht hd (typeAt?_below ht hd rfl cs)
      | complex decl' name' g' ds' =>
        have hbelow : target.typeAt? (above ++ [decl.name]) = some ⟨name', ds', g'⟩ := by
          rw [Schema.typeAt?_append, ht, Option.bind_some]
          exact congrArg (Option.bind · Descriptor.type?) hd
        refine .cons (not_offends_of_complex ht hd rfl) ?_
        rw [reproject]
        exact (reprojectAll_first hbelow hs).map fun cs' hcs' ↦
          .complex hd (Descriptor.name_eqv_of_find? hd) hcs'
termination_by structural _ _ a => a

/-- **Reprojecting the attributes below a path** where the target has a type. -/
theorem reprojectAll_first : ∀ {above : Path} {t : Schema} {cs : List Attribute},
    target.typeAt? above = some t → (∀ a ∈ cs, a.OfKind) →
      FirstBad (Node.Offends target table.at? record) (nodes above cs)
        (AllBecome table.at? t above cs) (reprojectAll table record above t cs)
  | _, _, [], _, _ => .pure .nil
  | above, t, a :: cs, ht, hcs => by
    rw [reprojectAll, nodes]
    cases hd : t.descriptor? a.name with
    | none =>
      obtain ⟨below, hbelow⟩ := exists_nodesOf_eq above a
      have hoffends : Node.Offends target table.at? record ⟨above, a⟩
          (.showing (above ++ [a.name]) (.unexpectedAttribute record · t.name)) := .unknown ht hd
      rw [hbelow, List.cons_append]
      rw [Error.showing] at hoffends
      cases hpath : Error.showable (above ++ [a.name]) <;> rw [hpath] at hoffends <;>
        exact .here hoffends _
    | some d =>
      refine (reproject_first ht (hcs a List.mem_cons_self) hd).bind fun a' ha' ↦ ?_
      exact (reprojectAll_first ht fun x hx ↦ hcs x (List.mem_cons_of_mem _ hx)).map
        fun cs' hcs' ↦ .cons ha' hcs'
termination_by structural _ _ cs => cs

end

end Attribute

/-- **Reprojecting a record to any target schema.** If no node offends, the record becomes one of
the target schema, with its id and user data; otherwise the first node that offends is the error. -/
theorem Record.reproject_first (table : TransformerTable) (target : Schema) {record : Record}
    (h : ∀ a ∈ record.properties, a.OfKind) :
    FirstBad (Node.Offends target table.at? record.id) (Attribute.nodes [] record.properties)
      (fun record' ↦ record'.schema = target ∧ record'.id = record.id ∧
        record'.userData = record.userData ∧
        Attribute.AllBecome table.at? target [] record.properties record'.properties)
      (record.reproject table target) :=
  (Attribute.reprojectAll_first rfl h).map fun _ hcs ↦ ⟨rfl, rfl, rfl, hcs⟩

end GeoStream
