import GeoStream.Proofs.Record.Agreeing
import GeoStream.Proofs.Record.Walking

/-!
# Where the nodes of a record stand

A node is *placed* under a schema when its path leads to an attribute of the schema, which holds
records just where the node does, and when its tag is the one that is declared there
(`Node.Placed`). The paths are those of a walk through the record, so this looks at the schema from
its root, while fitting a schema is about one node and the type of what it belongs to. Attributes
that fit have only placed nodes, at every depth (`Attribute.allFit_placed`).
-/

namespace GeoStream

/-- The path of a node leads to an attribute of the schema. The node is complex if and only if that
attribute is, and if the node is a geometry, then so is the attribute, and the tag is the system
declared there. -/
def Node.Placed (s : Schema) (n : Node) : Prop :=
  ∃ d, s.descriptorAt? n.path = some d ∧ n.node.isComplex = d.isComplex ∧
    ∀ e v tag, n.node = .geometry e v tag → ∃ decl crs, d = .geometry decl crs ∧ SameCrs tag crs

/-- Nodes are placed under alike schemas that declare equal systems if they are under one. -/
theorem Node.Placed.of_alike {s s' : Schema} {n : Node} (hn : n.Placed s)
    (h : s.Alike SameCrs s') : n.Placed s' := by
  obtain ⟨d, hd, hcomplex, htag⟩ := hn
  obtain ⟨d', hd', hdd⟩ := h.descriptorAt? hd
  refine ⟨d', hd', hcomplex.trans hdd.isComplex_eq.symm, fun e v tag hgeometry ↦ ?_⟩
  obtain ⟨decl, crs, rfl, hcrs⟩ := htag e v tag hgeometry
  cases hdd with
  | geometry stamp hsame => exact ⟨_, _, rfl, Crs.laws.trans hcrs hsame⟩

namespace Attribute

mutual

/-- An attribute that fits the type at its path, and the nodes below it. -/
theorem Fits.placed {s : Schema} : ∀ {above : Path} {t : Schema} {a : Attribute},
    s.Reaches above t → a.Fits t → ∀ n ∈ nodesOf above a, n.Placed s
  | above, _, .scalar .., hr, h, n, hn => by
    cases h with
    | scalar v hd =>
      rw [List.mem_singleton.mp hn]
      exact ⟨_, Schema.descriptorAt?_of_places (.of hr hd), rfl, nofun⟩
  | above, _, .geometry .., hr, h, n, hn => by
    cases h with
    | @geometry _ decl crs tag v hd htag =>
      rw [List.mem_singleton.mp hn]
      refine ⟨_, Schema.descriptorAt?_of_places (.of hr hd), rfl, ?_⟩
      rintro e v tag ⟨⟩
      exact ⟨decl, crs, rfl, htag⟩
  | above, _, .complex .., hr, h, n, hn => by
    cases h with
    | complex identity hd hs =>
      rcases List.mem_cons.mp hn with rfl | hn
      · exact ⟨_, Schema.descriptorAt?_of_places (.of hr hd), rfl, nofun⟩
      · exact allFit_placed (hr.step (d := .complex ..) hd rfl) hs n hn
termination_by structural _ _ a => a

/-- **Attributes that fit** the type at a path, and the nodes below them. -/
theorem allFit_placed {s : Schema} : ∀ {above : Path} {t : Schema} {cs : List Attribute},
    s.Reaches above t → (∀ a ∈ cs, a.Fits t) → ∀ n ∈ nodes above cs, n.Placed s
  | _, _, [], _, _, _, hn => absurd hn List.not_mem_nil
  | _, _, a :: cs, hr, h, n, hn => by
    obtain ⟨ha, hcs⟩ := List.forall_mem_cons.mp h
    rw [nodes] at hn
    rcases List.mem_append.mp hn with hn | hn
    · exact Fits.placed hr ha n hn
    · exact allFit_placed hr hcs n hn
termination_by structural _ _ cs => cs

end

end Attribute

end GeoStream
