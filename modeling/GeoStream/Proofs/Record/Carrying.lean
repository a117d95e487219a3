import GeoStream.Proofs.Crs.Laws
import GeoStream.Proofs.Schema.Redeclaring
import GeoStream.Reader.Basic

/-!
# Carrying a record over to an alike schema

A record *conforms* to a schema when each of its attributes hangs on the descriptor that the schema
has for it (`Attribute.Conforms`); its tags may be anything. Putting such a record under an alike
schema never fails. The record keeps its shape, which `Attribute.Carried` says together with a rule
for what becomes of each geometry, and afterwards its tags are those of the schema.

The shortcut for attributes that hang on the wanted descriptor already plays no part in this: what
it hands on conforms to the new schema as well, and its tags are declared.
-/

namespace GeoStream

namespace Attribute

/-! ## Records that conform to a schema -/

/-- An attribute hangs on the very descriptor that a type has for its name, and is a node of the
kind that the descriptor is for, at every depth. -/
inductive Conforms : Schema → Attribute → Prop where
  | scalar {t : Schema} {decl : Declaration} (v : Value)
    (h : t.descriptor? decl.name = some (.scalar decl)) : Conforms t (.scalar (.scalar decl) v)
  | geometry {t : Schema} {decl : Declaration} {crs : Option Crs} (v : Value) (tag : Option Crs)
    (h : t.descriptor? decl.name = some (.geometry decl crs)) :
    Conforms t (.geometry (.geometry decl crs) v tag)
  | complex {t : Schema} {decl : Declaration} {name : Name} {g : Option Name}
    {ds : List Descriptor} {cs : List Attribute} (identity : Option RecordIdentity)
    (h : t.descriptor? decl.name = some (.complex decl name g ds))
    (hs : ∀ a ∈ cs, Conforms ⟨name, ds, g⟩ a) :
    Conforms t (.complex (.complex decl name g ds) cs identity)

theorem Conforms.descriptor? {t : Schema} {a : Attribute} (h : a.Conforms t) :
    t.descriptor? a.name = some a.descriptor := by
  cases h <;> assumption

/-- Conforming is about the descriptor that a type has for the attribute, and no other. -/
theorem Conforms.of_descriptor? {t t' : Schema} {a : Attribute} (h : a.Conforms t)
    (hd : t'.descriptor? a.name = some a.descriptor) : a.Conforms t' := by
  cases h with
  | scalar v h => exact .scalar v hd
  | geometry v tag h => exact .geometry v tag hd
  | complex identity h hs => exact .complex identity hd hs

/-! ## Tags that are declared -/

theorem allTagsDeclared_cons {a : Attribute} {cs : List Attribute} :
    allTagsDeclared (a :: cs) = .ok true ↔
      a.tagsDeclared = .ok true ∧ allTagsDeclared cs = .ok true := by
  rw [allTagsDeclared]
  rcases a.tagsDeclared with f | _ | _ <;> simp [bind, Except.bind, pure, Except.pure]

mutual

/-- Whether the tags of a conforming attribute are declared can always be said. -/
theorem Conforms.tagsDeclared_ok {t : Schema} :
    ∀ {a : Attribute}, a.Conforms t → ∃ b, a.tagsDeclared = .ok b
  | .scalar .., _ => ⟨true, rfl⟩
  | .geometry .., h => by
    cases h
    exact ⟨_, rfl⟩
  | .complex .., h => by
    cases h with
    | complex identity hd hs =>
      rw [tagsDeclared]
      exact allTagsDeclared_ok hs
termination_by structural a => a

theorem allTagsDeclared_ok {t : Schema} :
    ∀ {cs : List Attribute}, (∀ a ∈ cs, a.Conforms t) → ∃ b, allTagsDeclared cs = .ok b
  | [], _ => ⟨true, rfl⟩
  | a :: cs, h => by
    obtain ⟨b, hb⟩ := (h a List.mem_cons_self).tagsDeclared_ok
    obtain ⟨b', hb'⟩ := allTagsDeclared_ok fun x hx ↦ h x (List.mem_cons_of_mem _ hx)
    rw [allTagsDeclared, hb, hb']
    cases b
    · exact ⟨false, rfl⟩
    · exact ⟨b', rfl⟩
termination_by structural cs => cs

end

/-! ## The shape of a record -/

mutual

/-- Two attributes have the same names, kinds and scalar values at every depth, and a rule holds of
the path and the two values of every geometry attribute. -/
inductive Carried (rule : Path → Value → Value → Prop) : Path → Attribute → Attribute → Prop where
  | scalar {above : Path} {d d' : Descriptor} {v : Value} (hn : d'.name = d.name) :
    Carried rule above (.scalar d v) (.scalar d' v)
  | geometry {above : Path} {d d' : Descriptor} {v v' : Value} {tag tag' : Option Crs}
    (hn : d'.name = d.name) (h : rule (above ++ [d.name]) v v') :
    Carried rule above (.geometry d v tag) (.geometry d' v' tag')
  | complex {above : Path} {d d' : Descriptor} {cs cs' : List Attribute}
    {identity identity' : Option RecordIdentity} (hn : d'.name = d.name)
    (h : AllCarried rule (above ++ [d.name]) cs cs') :
    Carried rule above (.complex d cs identity) (.complex d' cs' identity')

/-- The same for the attributes below a path, one by one. -/
inductive AllCarried (rule : Path → Value → Value → Prop) :
    Path → List Attribute → List Attribute → Prop where
  | nil {above : Path} : AllCarried rule above [] []
  | cons {above : Path} {a a' : Attribute} {cs cs' : List Attribute} (h : Carried rule above a a')
    (hs : AllCarried rule above cs cs') : AllCarried rule above (a :: cs) (a' :: cs')

end

/-- The rule that geometries keep their values. -/
def SameValue (_ : Path) (v v' : Value) : Prop := v' = v

theorem SameValue.refl (p : Path) (v : Value) : SameValue p v v := rfl

/-- Two rules, one after the other. -/
def Then (rule rule' : Path → Value → Value → Prop) (p : Path) (v v'' : Value) : Prop :=
  ∃ v', rule p v v' ∧ rule' p v' v''

variable {rule rule' : Path → Value → Value → Prop} {above : Path} {t t' : Schema}
  {a a' : Attribute} {cs cs' : List Attribute}

mutual

theorem Carried.refl (h : ∀ p v, rule p v v) :
    ∀ (above : Path) (a : Attribute), Carried rule above a a
  | _, .scalar .. => .scalar rfl
  | _, .geometry .. => .geometry rfl (h _ _)
  | above, .complex d cs _ => .complex rfl (AllCarried.refl h (above ++ [d.name]) cs)
termination_by structural _ a => a

theorem AllCarried.refl (h : ∀ p v, rule p v v) :
    ∀ (above : Path) (cs : List Attribute), AllCarried rule above cs cs
  | _, [] => .nil
  | above, a :: cs => .cons (Carried.refl h above a) (AllCarried.refl h above cs)
termination_by structural _ cs => cs

end

mutual

theorem Carried.trans : ∀ {above : Path} {a b c : Attribute}, Carried rule above a b →
    Carried rule' above b c → Carried (Then rule rule') above a c
  | _, .scalar .., _, _, h, h' => by
    cases h with
    | scalar hn =>
      cases h' with
      | scalar hn' => exact .scalar (hn'.trans hn)
  | _, .geometry .., _, _, h, h' => by
    cases h with
    | geometry hn h =>
      cases h' with
      | geometry hn' h' => exact .geometry (hn'.trans hn) ⟨_, h, hn ▸ h'⟩
  | _, .complex .., _, _, h, h' => by
    cases h with
    | complex hn h =>
      cases h' with
      | complex hn' h' => exact .complex (hn'.trans hn) (AllCarried.trans h (hn ▸ h'))
termination_by structural _ a => a

theorem AllCarried.trans : ∀ {above : Path} {as bs cs : List Attribute},
    AllCarried rule above as bs → AllCarried rule' above bs cs →
      AllCarried (Then rule rule') above as cs
  | _, [], _, _, h, h' => by
    cases h
    cases h'
    exact .nil
  | _, _ :: _, _, _, h, h' => by
    cases h with
    | cons h hs =>
      cases h' with
      | cons h' hs' => exact .cons (Carried.trans h h') (AllCarried.trans hs hs')
termination_by structural _ as => as

end

mutual

/-- A rule has to be known at the paths of the schema only. -/
theorem Carried.imp {s : Schema}
    (himp : ∀ p v v' d, s.Places p d → d.isGeometry = true → rule p v v' → rule' p v v') :
    ∀ {above : Path} {t : Schema} {a a' : Attribute}, s.Reaches above t → a.Conforms t →
      Carried rule above a a' → Carried rule' above a a'
  | _, _, .scalar .., _, _, _, h => by
    cases h with
    | scalar hn => exact .scalar hn
  | _, _, .geometry .., _, ht, ha, h => by
    cases h with
    | geometry hn h =>
      cases ha with
      | geometry v tag hd => exact .geometry hn (himp _ _ _ _ (.of ht hd) rfl h)
  | _, _, .complex .., _, ht, ha, h => by
    cases h with
    | complex hn h =>
      cases ha with
      | complex identity hd hs => exact .complex hn (AllCarried.imp himp (ht.step hd rfl) hs h)
termination_by structural _ _ a => a

theorem AllCarried.imp {s : Schema}
    (himp : ∀ p v v' d, s.Places p d → d.isGeometry = true → rule p v v' → rule' p v v') :
    ∀ {above : Path} {t : Schema} {cs cs' : List Attribute}, s.Reaches above t →
      (∀ a ∈ cs, a.Conforms t) → AllCarried rule above cs cs' → AllCarried rule' above cs cs'
  | _, _, [], _, _, _, h => by
    cases h
    exact .nil
  | _, _, a :: _, _, ht, hcs, h => by
    cases h with
    | cons h hs =>
      exact .cons (Carried.imp himp ht (hcs a List.mem_cons_self) h)
        (AllCarried.imp himp ht (fun x hx ↦ hcs x (List.mem_cons_of_mem _ hx)) hs)
termination_by structural _ _ cs => cs

end

/-! ## Attributes that are settled -/

/-- An attribute was carried over to a schema: it keeps its shape, it conforms to the schema, and
its tags are declared. -/
structure Settled (rule : Path → Value → Value → Prop) (above : Path) (t : Schema)
    (a a' : Attribute) : Prop where
  carried : Carried rule above a a'
  conforms : a'.Conforms t
  declared : a'.tagsDeclared = .ok true

/-- The same for the attributes below a path, one by one. -/
structure AllSettled (rule : Path → Value → Value → Prop) (above : Path) (t : Schema)
    (cs cs' : List Attribute) : Prop where
  carried : AllCarried rule above cs cs'
  conforms : ∀ a ∈ cs', a.Conforms t
  declared : allTagsDeclared cs' = .ok true

theorem AllSettled.nil : AllSettled rule above t [] [] :=
  ⟨.nil, fun _ ha ↦ absurd ha List.not_mem_nil, rfl⟩

theorem AllSettled.cons (h : Settled rule above t a a') (hs : AllSettled rule above t cs cs') :
    AllSettled rule above t (a :: cs) (a' :: cs') where
  carried := .cons h.carried hs.carried
  conforms := by
    intro x hx
    rcases List.mem_cons.mp hx with rfl | hx
    · exact h.conforms
    · exact hs.conforms x hx
  declared := allTagsDeclared_cons.mpr ⟨h.declared, hs.declared⟩

/-- An attribute whose tags are declared already is settled where it is. -/
theorem Settled.keep (hrule : ∀ p v, rule p v v) (ha : a.Conforms t)
    (hd : t'.descriptor? a.name = some a.descriptor) (htags : a.tagsDeclared = .ok true) :
    Settled rule above t' a a :=
  ⟨.refl hrule above a, ha.of_descriptor? hd, htags⟩

/-- A geometry attribute under a descriptor with the declared system as its tag. -/
theorem Settled.geometry {decl : Declaration} {d : Descriptor} {crs tag : Option Crs} {v v' : Value}
    (hn : decl.name = d.name) (hd : t.descriptor? decl.name = some (.geometry decl crs))
    (h : rule (above ++ [d.name]) v v') :
    Settled rule above t (.geometry d v tag) (.geometry (.geometry decl crs) v' crs) where
  carried := .geometry hn h
  conforms := .geometry v' crs hd
  declared := by
    rw [tagsDeclared]
    exact congrArg Except.ok (Crs.laws.refl crs)

theorem Settled.complex {decl : Declaration} {d : Descriptor} {name : Name} {g : Option Name}
    {ds : List Descriptor} {identity : Option RecordIdentity} (hn : decl.name = d.name)
    (hd : t.descriptor? decl.name = some (.complex decl name g ds))
    (h : AllSettled rule (above ++ [d.name]) ⟨name, ds, g⟩ cs cs') :
    Settled rule above t (.complex d cs identity) (.complex (.complex decl name g ds) cs' .none)
    where
  carried := .complex hn h.carried
  conforms := .complex .none hd h.conforms
  declared := h.declared

/-! ## Putting attributes under an alike schema -/

theorem settleAll_cons (s : Schema) (a : Attribute) (rest : List Attribute) :
    settleAll s (a :: rest) = (do
      let settled ← a.settle s
      return settled :: (← settleAll s rest)) := by
  rw [settleAll, settle]
  cases s.descriptor? a.name with
  | none => rfl
  | some d =>
    dsimp only
    by_cases hsame : a.descriptor = d
    · rw [if_pos hsame, if_pos hsame]
      rcases a.tagsDeclared with f | _ | _ <;> rfl
    · rw [if_neg hsame, if_neg hsame]

theorem retype_of_settleAll {decl : Declaration} {d : Descriptor} {name : Name} {g : Option Name}
    {ds : List Descriptor} {identity : Option RecordIdentity}
    (h : settleAll ⟨name, ds, g⟩ cs = .ok cs') :
    retype (.complex decl name g ds) (.complex d cs identity) =
      .ok (.complex (.complex decl name g ds) cs' none) := by
  rw [retype, h]
  rfl

/-- An attribute is settled as it is, or by retyping it. -/
theorem settle_of_retype {d' : Descriptor} (ha : a.Conforms t)
    (hd' : t'.descriptor? a.name = some d') (ha' : retype d' a = .ok a')
    (h : Settled SameValue above t' a a') :
    ∃ a', a.settle t' = .ok a' ∧ Settled SameValue above t' a a' := by
  obtain ⟨b, hb⟩ := ha.tagsDeclared_ok
  rw [settle, hd', hb]
  dsimp only
  rw [ha']
  by_cases hsame : a.descriptor = d'
  · -- the descriptor is the wanted one, so the tags decide
    rw [if_pos hsame]
    cases b with
    | true => exact ⟨a, rfl, .keep .refl ha (hsame ▸ hd') hb⟩
    | false => exact ⟨a', rfl, h⟩
  · rw [if_neg hsame]
    exact ⟨a', rfl, h⟩

variable {E : Option Crs → Option Crs → Prop}

mutual

/-- Retyping a conforming attribute to the descriptor that an alike schema has for it. -/
theorem retype_of_conforms (above : Path) : ∀ {t t' : Schema} {a : Attribute} {d' : Descriptor},
    a.Conforms t → t'.descriptor? a.name = some d' → Descriptor.Alike E a.descriptor d' →
      ∃ a', retype d' a = .ok a' ∧ Settled SameValue above t' a a'
  | _, _, .scalar .., _, ha, hd, hdd => by
    cases ha with
    | scalar =>
      cases hdd
      exact ⟨_, rfl, .scalar rfl, .scalar _ hd, rfl⟩
  | _, _, .geometry .., _, ha, hd, hdd => by
    cases ha with
    | geometry =>
      cases hdd
      exact ⟨_, rfl, .geometry rfl hd rfl⟩
  | _, _, .complex .., _, ha, hd, hdd => by
    cases ha with
    | @complex _ decl name g ds cs identity _ hs =>
      cases hdd with
      | @complex _ _ _ _ ds' stamp hds =>
        have hlike : Schema.Alike E ⟨name, ds, g⟩ ⟨name, ds', g⟩ := ⟨rfl, rfl, hds⟩
        obtain ⟨cs', hcs', hsettled⟩ := settleAll_of_conforms (above ++ [decl.name]) hs hlike
        exact ⟨_, retype_of_settleAll hcs', .complex rfl hd hsettled⟩
termination_by structural _ _ a => a

/-- **Putting conforming attributes under an alike schema** never fails. -/
theorem settleAll_of_conforms (above : Path) : ∀ {t t' : Schema} {cs : List Attribute},
    (∀ a ∈ cs, a.Conforms t) → t.Alike E t' →
      ∃ cs', settleAll t' cs = .ok cs' ∧ AllSettled SameValue above t' cs cs'
  | _, _, [], _, _ => ⟨[], rfl, .nil⟩
  | _, _, a :: cs, hcs, h => by
    have ha := hcs a List.mem_cons_self
    obtain ⟨d', hd', hdd⟩ := h.descriptor? ha.descriptor?
    obtain ⟨x, hx, hretyped⟩ := retype_of_conforms above ha hd' hdd
    obtain ⟨a', ha', hsettled⟩ := settle_of_retype ha hd' hx hretyped
    obtain ⟨cs', hcs', hrest⟩ :=
      settleAll_of_conforms above (fun x hx ↦ hcs x (List.mem_cons_of_mem _ hx)) h
    refine ⟨a' :: cs', ?_, .cons hsettled hrest⟩
    rw [settleAll_cons, ha', hcs']
    rfl
termination_by structural _ _ cs => cs

end

end Attribute

/-! ## Records -/

namespace Record

/-- All attributes of a record hang on the descriptors of a schema. -/
def Conforms (t : Schema) (r : Record) : Prop := ∀ a ∈ r.properties, a.Conforms t

/-- Two records have the same id, user data, shape and scalar values, and a rule holds of the path
and the two values of every geometry attribute. -/
structure Carried (rule : Path → Value → Value → Prop) (r r' : Record) : Prop where
  id : r'.id = r.id
  userData : r'.userData = r.userData
  properties : Attribute.AllCarried rule [] r.properties r'.properties

theorem Carried.trans {rule rule' : Path → Value → Value → Prop} {r r' r'' : Record}
    (h : r.Carried rule r') (h' : r'.Carried rule' r'') :
    r.Carried (Attribute.Then rule rule') r'' :=
  ⟨h'.id.trans h.id, h'.userData.trans h.userData, h.properties.trans h'.properties⟩

theorem Carried.imp {rule rule' : Path → Value → Value → Prop} {r r' : Record} {s : Schema}
    (hr : r.Conforms s) (h : r.Carried rule r')
    (himp : ∀ p v v' d, s.Places p d → d.isGeometry = true → rule p v v' → rule' p v v') :
    r.Carried rule' r' :=
  ⟨h.id, h.userData, h.properties.imp himp .here hr⟩

end Record

namespace Reader

variable {E : Option Crs → Option Crs → Prop} {a b : Schema}

/-- **A declaring reader** hands on every conforming record, under its own schema and with its
geometries as they were. -/
theorem forced_of_conforms {mode : ForceMode} {record : Record} (hrecord : record.Conforms a)
    (h : a.Alike E b) (hmode : mode = .passthrough → b = a) :
    ∃ record', forced mode b record = .ok record' ∧
      record.Carried Attribute.SameValue record' ∧ record'.Conforms b ∧
      Attribute.allTagsDeclared record'.properties = .ok true := by
  obtain ⟨cs', hcs', hsettled⟩ := Attribute.settleAll_of_conforms [] hrecord h
  have hretype : record.retype b = .ok (.make b record.id cs' record.userData) := by
    rw [Record.retype, hcs']
    rfl
  have hcarried : record.Carried Attribute.SameValue (.make b record.id cs' record.userData) :=
    ⟨rfl, rfl, hsettled.carried⟩
  cases mode with
  | retype =>
    exact ⟨_, hretype, hcarried, hsettled.conforms, hsettled.declared⟩
  | passthrough =>
    obtain ⟨declared, hdeclared⟩ := Attribute.allTagsDeclared_ok hrecord
    rw [forced, if_pos rfl, hdeclared]
    cases declared with
    | false => exact ⟨_, hretype, hcarried, hsettled.conforms, hsettled.declared⟩
    | true =>
      -- the record is handed on as it is, which is right because the schema was kept
      refine ⟨record, rfl, ⟨rfl, rfl, .refl .refl _ _⟩, ?_, hdeclared⟩
      rw [hmode rfl]
      exact hrecord

end Reader

end GeoStream
