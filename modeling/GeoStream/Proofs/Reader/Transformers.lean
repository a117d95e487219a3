import GeoStream.Proofs.Crs.Laws
import GeoStream.Proofs.Schema.Paths
import GeoStream.Reader.Reprojection

/-!
# Looking up transformers

A table of transformers is made by going through the geometry attributes of a schema, and it is
read by path while a record is walked. What is looked up for one attribute does not depend on the
others (`TransformerTable.needed`), so making a table either finds something for every attribute or
fails at the first one for which that fails.

A record is walked along paths that lead somewhere in the schema, and such a path has one geometry
attribute. So the table answers with what was looked up for that attribute, and an entry that was
made for another one is never taken for it.
-/

namespace GeoStream

theorem Error.showable_eq {p q : Path} (h : Error.showable p = .ok q) : q = p := by
  rw [Error.showable] at h
  split at h <;> cases h
  rfl

namespace TransformerTable

/-- What is looked up for a geometry attribute: a transformer, or none where the target declares an
equal system. -/
def needed (target : Schema) (lenient : Bool) (x : Path × Descriptor) :
    Except Error (Option Transformer) :=
  match target.descriptorAt? x.1 with
  | some (.geometry _ crs) =>
    if Crs.equal x.2.declaredCrs crs then .ok none
    else
      match Crs.transformer x.2.declaredCrs crs lenient, Error.showable x.1 with
      | _, .error e => .error e
      | .error e, .ok path => .error (.cannotReproject path x.2.declaredCrs crs e)
      | .ok t, .ok _ => .ok (some t)
  | _ =>
    match Error.showable x.1 with
    | .ok path => .error (.missingGeometry path target.name)
    | .error e => .error e

/-- The entry that a table has for a geometry attribute. -/
def entryFor (target : Schema) (lenient : Bool) (x : Path × Descriptor) :
    Option (Path × Transformer) :=
  match needed target lenient x with
  | .ok (some t) => some (x.1, t)
  | _ => none

variable {target : Schema} {lenient : Bool}

theorem needed_of_geometry {x : Path × Descriptor} {decl : Declaration} {crs : Option Crs}
    (h : target.descriptorAt? x.1 = some (.geometry decl crs)) :
    needed target lenient x =
      if Crs.equal x.2.declaredCrs crs then .ok none
      else
        match Crs.transformer x.2.declaredCrs crs lenient, Error.showable x.1 with
        | _, .error e => .error e
        | .error e, .ok path => .error (.cannotReproject path x.2.declaredCrs crs e)
        | .ok t, .ok _ => .ok (some t) := by
  rw [needed, h]

theorem needed_of_missing {x : Path × Descriptor}
    (h : ∀ decl crs, target.descriptorAt? x.1 = some (.geometry decl crs) → False) :
    needed target lenient x =
      match Error.showable x.1 with
      | .ok path => .error (.missingGeometry path target.name)
      | .error e => .error e := by
  rw [needed]
  split
  next decl crs hat => exact (h decl crs hat).elim
  next => rfl

theorem find_cons (x : Path × Descriptor) (rest : List (Path × Descriptor)) :
    (find target lenient (x :: rest)).2 = (do
      let found ← needed target lenient x
      let table ← (find target lenient rest).2
      return (found.map fun t ↦ (x.1, t)).toList ++ table) := by
  obtain ⟨path, d⟩ := x
  rw [find]
  split
  next decl crs hat =>
    rw [needed_of_geometry hat]
    by_cases hequal : Crs.equal d.declaredCrs crs = true
    · rw [if_pos hequal, if_pos hequal]
      cases (find target lenient rest).2 <;> rfl
    · rw [if_neg hequal, if_neg hequal]
      cases hpath : Error.showable path with
      | error e => cases Crs.transformer d.declaredCrs crs lenient <;> rfl
      | ok shown =>
        obtain rfl := Error.showable_eq hpath
        cases Crs.transformer d.declaredCrs crs lenient with
        | error e => rfl
        | ok t =>
          dsimp only
          rcases find target lenient rest with ⟨events, _ | table⟩ <;> rfl
  next hat =>
    rw [needed_of_missing hat]
    cases Error.showable path <;> rfl

theorem entryFor_of_needed {x : Path × Descriptor} {found : Option Transformer}
    (h : needed target lenient x = .ok found) :
    entryFor target lenient x = found.map fun t ↦ (x.1, t) := by
  rw [entryFor, h]
  cases found <;> rfl

theorem fst_of_entryFor {x : Path × Descriptor} {y : Path × Transformer}
    (h : entryFor target lenient x = some y) : y.1 = x.1 := by
  rw [entryFor] at h
  split at h <;> cases h
  rfl

/-- **Making a table** finds something for every geometry attribute, or fails at the first one for
which that fails. -/
theorem find_settles (target : Schema) (lenient : Bool) (xs : List (Path × Descriptor)) :
    match (find target lenient xs).2 with
    | .ok table => (∀ x ∈ xs, ∃ found, needed target lenient x = .ok found) ∧
        table = xs.filterMap (entryFor target lenient)
    | .error e => ∃ before x after, xs = before ++ x :: after ∧
        (∀ y ∈ before, ∃ found, needed target lenient y = .ok found) ∧
        needed target lenient x = .error e := by
  induction xs with
  | nil => exact ⟨nofun, rfl⟩
  | cons x rest ih =>
    rw [find_cons]
    cases hx : needed target lenient x with
    | error e => exact ⟨[], x, rest, rfl, nofun, hx⟩
    | ok found =>
      cases hrest : (find target lenient rest).2 with
      | error e =>
        -- `x` joins those before the first one that fails
        rw [hrest] at ih
        obtain ⟨before, y, after, hsplit, hbefore, hy⟩ := ih
        refine ⟨x :: before, y, after, ?_, ?_, hy⟩
        · rw [hsplit, List.cons_append]
        · intro z hz
          rcases List.mem_cons.mp hz with rfl | hz
          · exact ⟨found, hx⟩
          · exact hbefore z hz
      | ok table =>
        rw [hrest] at ih
        obtain ⟨hall, htable⟩ := ih
        refine ⟨fun y hy ↦ ?_, ?_⟩
        · rcases List.mem_cons.mp hy with rfl | hy
          · exact ⟨found, hx⟩
          · exact hall y hy
        · rw [List.filterMap_cons, entryFor, hx, htable]
          cases found <;> rfl

theorem find_ok {xs : List (Path × Descriptor)} {table : TransformerTable}
    (h : (find target lenient xs).2 = .ok table) :
    (∀ x ∈ xs, ∃ found, needed target lenient x = .ok found) ∧
      table = xs.filterMap (entryFor target lenient) := by
  have hsettles := find_settles target lenient xs
  rwa [h] at hsettles

theorem find_error {xs : List (Path × Descriptor)} {e : Error}
    (h : (find target lenient xs).2 = .error e) : ∃ before x after, xs = before ++ x :: after ∧
      (∀ y ∈ before, ∃ found, needed target lenient y = .ok found) ∧
      needed target lenient x = .error e := by
  have hsettles := find_settles target lenient xs
  rwa [h] at hsettles

/-- **Reading a table** at a path that is the same as that of one attribute only gives what was
looked up for that attribute. -/
theorem at?_of_only {xs : List (Path × Descriptor)} {table : TransformerTable}
    {x : Path × Descriptor} {p : Path} (h : (find target lenient xs).2 = .ok table) (hx : x ∈ xs)
    (hsame : Path.same x.1 p = true) (honly : ∀ y ∈ xs, Path.same y.1 p = true → y = x) :
    needed target lenient x = .ok (table.at? p) := by
  obtain ⟨hall, rfl⟩ := find_ok h
  obtain ⟨found, hfound⟩ := hall x hx
  rw [hfound, at?, List.find?_filterMap]
  cases hf : xs.find? (fun y ↦ (entryFor target lenient y).any fun z ↦ z.1.same p) with
  | some y =>
    have hany := List.find?_some hf
    obtain ⟨z, hz, hsame'⟩ := (Option.any_eq_true _ _).mp hany
    rw [fst_of_entryFor hz] at hsame'
    rw [honly y (List.mem_of_find?_eq_some hf) hsame', Option.bind_some, entryFor_of_needed hfound]
    cases found <;> rfl
  | none =>
    -- no entry at all is for this path, so none was made for the attribute
    have hnone := List.find?_eq_none.mp hf x hx
    rw [entryFor_of_needed hfound] at hnone
    cases found with
    | none => rfl
    | some t => exact absurd hsame hnone

/-- So does reading it at a path that leads to a geometry attribute. -/
theorem at?_of_places {s : Schema} {table : TransformerTable} {p : Path} {d : Descriptor}
    (h : (find target lenient s.geometries).2 = .ok table) (hs : s.Made) (hp : s.Places p d)
    (hg : d.isGeometry = true) : needed target lenient (p, d) = .ok (table.at? p) := by
  refine at?_of_only h (Schema.mem_geometries_of_places hp hg)
    (Path.same_self fun n hn ↦ Json.same_of_eqv (hp.eqv_self n hn)) ?_
  rintro ⟨q, e⟩ hx hsame
  obtain ⟨rfl, rfl⟩ := hs.eq_of_same hp hg hx hsame
  rfl

end TransformerTable

end GeoStream
