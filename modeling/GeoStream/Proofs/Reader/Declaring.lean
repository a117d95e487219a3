import GeoStream.Proofs.Reader.Decorating
import GeoStream.Proofs.Reader.Following
import GeoStream.Proofs.Record.Placing

/-!
# Declaring a system around a reader

A decorator that declares a system hands on a record as it is if both the schema and the tags
declare that system already, and otherwise rebuilds the record under a redeclared schema. Nobody can
tell which: around one reader, it comes to what the decorator comes to that rebuilds every record
under the redeclared schema (`Reader.declare_agrees`), and neither touches the data.

Both schemas are alike to that of the reader inside, so they are alike to each other, and both
records fit the schema they were carried over to. What is left to say about records is said there
(`Record.Carried.agrees`).
-/

namespace GeoStream

namespace Reader

variable {r : Reader} {s s' : Store} {a b : Schema} {mode : ForceMode} {record record' : Record}

/-- What a declaring reader hands out is what it makes of the record in that place. -/
theorem nthNext_force {id : Nat} {crs : Option Crs} (hquiet : s.Quiet s')
    (ho : s'.isClosed id = false) (j : Nat) :
    (Reader.force id mode crs b r).nthNext s' j = r.nthNext s j >>= forced mode b :=
  ((Follows.self r s').decorator (w := .force id mode crs b r) rfl ho).nthNext hquiet j

/-- The schema of a record that is handed out. -/
theorem schema_of_forced (h : forced mode b record = .ok record')
    (hkept : mode = .passthrough → record.schema = b) : record'.schema = b := by
  have hretype : record.retype b = .ok record' → record'.schema = b := by
    intro h
    obtain ⟨properties, -, h⟩ := except_bind_eq_ok_iff.mp h
    cases h
    rfl
  rw [forced] at h
  split at h
  next hmode =>
    obtain ⟨declared, -, h⟩ := except_bind_eq_ok_iff.mp h
    split at h
    · cases h
      exact hkept hmode
    · exact hretype h
  next => exact hretype h

/-- A declaring reader around records of a schema `a` hands on every one of them, under its own
schema and with its data as it was. -/
theorem forced_fits {E : Option Crs → Option Crs → Prop} (hschema : record.schema = a)
    (hrecord : record.Conforms a) (h : a.Alike E b) (hmode : mode = .passthrough → b = a) :
    ∃ record', forced mode b record = .ok record' ∧
      record.Carried Attribute.SameValue record' ∧ record'.Fits b := by
  obtain ⟨record', hforced, hcarried, hconforms, htags⟩ := forced_of_conforms hrecord h hmode
  have hschema' := schema_of_forced hforced fun hpass ↦ hschema.trans (hmode hpass).symm
  exact ⟨record', hforced, hcarried, hschema', Attribute.allFit hconforms htags⟩

/-- Two schemas that declare the same are alike, whichever way it was brought about. -/
theorem alike_of_declared {c : Crs} {onlyMissing : Bool} {origin : Nat} {b' : Schema}
    (h : a.Alike (fun x y ↦ Crs.equal y (if onlyMissing && x.isSome then x else some c) = true) b)
    (h' : a.Alike (Descriptor.Redeclared ⟨c, onlyMissing, false, origin⟩) b') :
    b.Alike SameCrs b' := by
  refine h.join h' fun x y y' hy hy' ↦ ?_
  rw [Descriptor.Redeclared, Redeclaration.declared] at hy'
  rw [hy']
  exact hy

/-- **Declaring a system never touches data, and both ways of doing so come to the same.** Let `a`
be the schema of an open reader, `b` the schema redeclared, `w` the reader that declares the system
and `v` the one that rebuilds every record under `b`. All three can be made, and `b` differs from
`a` in declared systems only, as asked for. The schemas of `w` and `v` are equal but for what
systems are called. In every position

1. an error of the reader inside is handed on by both;
2. a record of the schema `a` is handed on by both. What `w` hands out has the same id, user data,
   names, order and values at every depth, and each of its nodes stands where `b` has a place for
   it, with the declared system as its tag. It agrees with what `v` hands out. -/
theorem declare_agrees {readers : List Reader} (h : Family readers s)
    (ho : s.isClosed r.id = false) (c : Crs) (onlyMissing : Bool) (origin : Nat) :
    let a := r.outSchema
    ∃ b w s₁ v s₂, a.redeclareTo origin (some c) onlyMissing false = .ok b ∧
      r.declare (some c) onlyMissing s = .ok w s₁ ∧ r.withSchema b s = .ok v s₂ ∧
      a.Alike (Descriptor.Redeclared ⟨c, onlyMissing, false, origin⟩) b ∧
      v.outSchema = b ∧ w.outSchema.Alike SameCrs b ∧
      ∀ j, match r.nthNext s j with
        | .error e => w.nthNext s₁ j = .error e ∧ v.nthNext s₂ j = .error e
        | .ok record => record.schema = a → record.Conforms a →
          ∃ x y, w.nthNext s₁ j = .ok x ∧ v.nthNext s₂ j = .ok y ∧
            record.Carried Attribute.SameValue x ∧
            (∀ n ∈ Attribute.nodes [] x.properties, n.Placed b) ∧ x.Agrees y := by
  intro a
  have hnumbered := h.sound.closed_numbered
  obtain ⟨mode, schema, houtcome, hmode, hdeclared⟩ := declare_of_open ho c onlyMissing
  have hsettles := Schema.redeclare_settles ⟨c, onlyMissing, false, origin⟩ a
  cases hb : a.redeclare ⟨c, onlyMissing, false, origin⟩ with
  | error e =>
    -- only strict redeclaring refuses anything
    rw [hb] at hsettles
    exact absurd hsettles.1 (by simp [Redeclaration.refusesUnset])
  | ok b =>
    rw [hb] at hsettles
    have hredeclared := hsettles.1
    have halike := alike_of_declared hdeclared hredeclared
    cases hw : r.declare (some c) onlyMissing s with
    | error e s₁ =>
      rw [Action.outcome_of_error hw] at houtcome
      cases houtcome
    | ok w s₁ =>
      rw [Action.outcome_of_ok hw] at houtcome
      cases houtcome
      have hquiet := (r.quiet_declare (some c) onlyMissing).of_ok hw
      have hquiet' := (r.quiet_withSchema b).of_ok (s := s) rfl
      have hopen : s₁.isClosed (s.next + 1) = false := by
        rw [Store.isClosed, hquiet.closed]
        exact Store.isClosed_of_next_le hnumbered (Nat.le_succ _)
      have hopen' : s.isClosed s.next = false := Store.isClosed_of_next_le hnumbered (Nat.le_refl _)
      refine ⟨b, _, s₁, _, _, hb, rfl, rfl, hredeclared, rfl, halike, fun j ↦ ?_⟩
      rw [nthNext_force hquiet hopen, nthNext_force hquiet' hopen']
      cases r.nthNext s j with
      | error e => exact ⟨rfl, rfl⟩
      | ok record =>
        intro hschema hrecord
        obtain ⟨x, hx, hcarried, hfits⟩ := forced_fits hschema hrecord hdeclared hmode
        have hretype : ForceMode.retype = .passthrough → b = a := fun h ↦ by cases h
        obtain ⟨y, hy, hcarried', hfits'⟩ := forced_fits hschema hrecord hredeclared hretype
        refine ⟨x, y, hx, hy, hcarried, fun n hn ↦ ?_,
          hcarried.agrees halike hfits hcarried' hfits'⟩
        exact (Attribute.allFit_placed .here hfits.properties n hn).of_alike halike

/-- A stray tag inside a nested record, below a schema that declares the system already: records are
handed on as they are, but this one is rebuilt. -/
theorem declare_agrees_stray_tag :
    ∃ (readers : List Reader) (s : Store) (r : Reader) (record : Record) (b : Schema) (w : Reader)
      (s₁ : Store) (v : Reader) (s₂ : Store) (x y : Record),
      Family readers s ∧ s.isClosed r.id = false ∧ r.nthNext s 0 = .ok record ∧
      record.schema = r.outSchema ∧ record.Conforms r.outSchema ∧
      Attribute.allTagsDeclared record.properties = .ok false ∧
      r.declare (some .wgs84) true s = .ok w s₁ ∧ w.mode? = some .passthrough ∧
      r.withSchema b s = .ok v s₂ ∧ w.nthNext s₁ 0 = .ok x ∧ v.nthNext s₂ 0 = .ok y ∧
      record.Carried Attribute.SameValue x ∧
      (∀ n ∈ Attribute.nodes [] x.properties, n.Placed b) ∧ x.Agrees y := by
  let place : Descriptor := .geometry { stamp := ⟨0, [0, 0]⟩, name := .str "place" } (some .etrs89)
  let site : Descriptor :=
    .complex { stamp := ⟨0, [0]⟩, name := .str "site" } (.str "Site") .none [place]
  let a : Schema := ⟨.str "Row", [site], .none⟩
  let stray : Attribute := .geometry place (.geometry (.point .none)) (some .webMercator)
  let record : Record := .make a (.int 1) [.complex site [stray] .none] []
  let r : Reader := .memory 1 a
  have hfamily : Family [r] _ := .made (.empty .empty) (.ofRecords a [record]) rfl
  have hrecord : record.Conforms a := by
    intro x hx
    rcases List.mem_singleton.mp hx with rfl
    refine .complex _ rfl fun y hy ↦ ?_
    rcases List.mem_singleton.mp hy with rfl
    exact .geometry _ _ rfl
  obtain ⟨b, w, s₁, v, s₂, -, hw, hv, -, -, -, hnext⟩ :=
    declare_agrees (r := r) hfamily rfl .wgs84 true 0
  have hmode : w.mode? = some .passthrough := by
    cases hw
    rfl
  obtain ⟨x, y, hx, hy, hcarried, hplaced, hagrees⟩ := hnext 0 rfl hrecord
  exact ⟨[r], _, r, record, b, w, s₁, v, s₂, x, y, hfamily, rfl, rfl, rfl, hrecord, rfl, hw, hmode,
    hv, hx, hy, hcarried, hplaced, hagrees⟩

end Reader

end GeoStream
