import GeoStream.Proofs.Geometry.Writing
import GeoStream.Proofs.Json.Parsing
import GeoStream.Proofs.Record.Collecting
import GeoStream.Proofs.Schema.RoundTrip

/-!
# What was read can be written

A record that was read from JSON has a line (`Record.exists_line`), whatever the schema it was read
under, and whatever the JSON was, if that has a text itself.

Four things can keep a record from being written, and reading leaves none of them behind
(`Attribute.Parsed`). A name may not be a key, but a name that is found for a member is text. A
geometry attribute may hold something that has no object, but a geometry that was read has one. It
may not be told how many values an attribute has, but reading has asked this already, for each
attribute that it gives. And a number may be too long, but then it was in what was read.

The keys of user data need not be text. They were found to be keys when the entries were put
together.
-/

namespace GeoStream

namespace Form

variable {n : Name} {fs : List Form} {ms : List (Name × Form)}

theorem exists_keyText (h : n.isKey = true) (hn : n.isPrintable = true) :
    ∃ k, keyText n = .ok k := by
  cases n with
  | arr | obj => cases h
  | int n => exact ⟨_, if_pos hn⟩
  | null | bool | float | str => exact ⟨_, rfl⟩

theorem toJson_json {v : Json} (h : v.isPrintable = true) : (Form.json v).toJson = .ok v :=
  if_pos h

theorem exists_listJson (h : ∀ f ∈ fs, ∃ v, f.toJson = .ok v) : ∃ vs, listJson fs = .ok vs := by
  induction fs with
  | nil => exact ⟨[], rfl⟩
  | cons f fs ih =>
    obtain ⟨⟨v, hv⟩, hfs⟩ := List.forall_mem_cons.mp h
    obtain ⟨vs, hvs⟩ := ih hfs
    exact ⟨v :: vs, except_bind_eq_ok_iff.mpr ⟨v, hv, except_bind_eq_ok_iff.mpr ⟨vs, hvs, rfl⟩⟩⟩

/-- The name of a member has a text. -/
def Named (m : Name × Form) : Prop := m.1.isKey = true ∧ m.1.isPrintable = true

theorem named_str (k : Text) (f : Form) : Named (.str k, f) := ⟨rfl, rfl⟩

theorem exists_memberJson (h : ∀ m ∈ ms, Named m ∧ ∃ v, m.2.toJson = .ok v) :
    ∃ vs, memberJson ms = .ok vs := by
  induction ms with
  | nil => exact ⟨[], rfl⟩
  | cons m ms ih =>
    obtain ⟨⟨hname, v, hv⟩, hms⟩ := List.forall_mem_cons.mp h
    obtain ⟨k, hk⟩ := exists_keyText hname.1 hname.2
    obtain ⟨vs, hvs⟩ := ih hms
    exact ⟨(k, v) :: vs, except_bind_eq_ok_iff.mpr ⟨k, hk, except_bind_eq_ok_iff.mpr ⟨v, hv,
      except_bind_eq_ok_iff.mpr ⟨vs, hvs, rfl⟩⟩⟩⟩

theorem exists_toJson_object (h : ∀ m ∈ ms, Named m ∧ ∃ v, m.2.toJson = .ok v) :
    ∃ v, (object ms).toJson = .ok v := by
  obtain ⟨vs, hvs⟩ := exists_memberJson h
  exact ⟨_, except_bind_eq_ok_iff.mpr ⟨vs, hvs, rfl⟩⟩

end Form

namespace Attribute

variable {t : Schema} {a : Attribute} {cs : List Attribute} {n : Name} {f : Form}

/-- An attribute has a form, and that has a JSON value. -/
def Prints (a : Attribute) : Prop := ∃ f v, a.form = .ok f ∧ f.toJson = .ok v

/-! ## The children of a node -/

theorem Gathered.exists_toJson (h : Gathered t cs n f) (hcs : ∀ c ∈ cs, c.Prints) :
    ∃ v, f.toJson = .ok v := by
  have hforms : ∀ {gs : List Form}, List.Forall₂ (fun a g ↦ a.form = .ok g) (withName n cs) gs →
      ∀ g ∈ gs, ∃ v, g.toJson = .ok v := by
    intro gs hgs g hg
    obtain ⟨a, ha, hform⟩ := exists_of_mem_of_forall₂ hgs hg
    obtain ⟨g', v, hform', hv⟩ := hcs a (List.mem_of_mem_filter ha)
    cases hform.symm.trans hform'
    exact ⟨v, hv⟩
  cases h with
  | listed _ _ hgs =>
    obtain ⟨vs, hvs⟩ := Form.exists_listJson (hforms hgs)
    exact ⟨_, except_bind_eq_ok_iff.mpr ⟨vs, hvs, rfl⟩⟩
  | first _ hgs => exact hforms hgs f List.mem_cons_self

/-- Children that can be told apart and have JSON values are written, and so are their names. -/
theorem exists_gather_toJson (hkeyed : ∀ c ∈ cs, c.Keyed t)
    (hnamed : ∀ c ∈ cs, c.name.isPrintable = true) (hcs : ∀ c ∈ cs, c.Prints) :
    ∃ names ms, namesOf cs = .ok names ∧ gather (some t) (forms cs) names = .ok ms ∧
      ∃ v, (Form.object ms).toJson = .ok v := by
  have hforms : ∀ c ∈ cs, ∃ f, c.form = .ok f := by
    intro c hc
    obtain ⟨f, -, hf, -⟩ := hcs c hc
    exact ⟨f, hf⟩
  obtain ⟨names, ms, hnames, hms⟩ := exists_gather hkeyed hforms
  refine ⟨names, ms, hnames, hms, Form.exists_toJson_object ?_⟩
  obtain ⟨hkeys, hdistinct⟩ := namesOf_eq_ok hnames
  obtain ⟨hmap, hgathered⟩ := gather_eq_ok_iff.mp hms
  rintro ⟨n, f⟩ hm
  refine ⟨?_, (hgathered n f hm).exists_toJson hcs⟩
  have hn : n ∈ names := hmap ▸ List.mem_map_of_mem hm
  rw [hdistinct] at hn
  obtain ⟨c, hc, rfl⟩ :=
    List.mem_map.mp ((mem_of_mem_distinctFrom hn).resolve_left List.not_mem_nil)
  exact ⟨hkeys c hc, hnamed c hc⟩

/-! ## Attributes that were read -/

variable {P : Json → Prop}

theorem Parsed.takes (h : a.Parsed P t) : t.Takes a.descriptor := by
  cases h <;> assumption

/-- An attribute that was read is called by a text. -/
theorem Parsed.exists_name (h : a.Parsed P t) : ∃ k, a.name = .str k := by
  obtain ⟨k, -, hd, -⟩ := h.takes
  exact ⟨k, Json.eq_of_eqv_str (Descriptor.name_eqv_of_find? hd)⟩

/-- An attribute that was read can be told apart from others. -/
theorem Parsed.keyed (h : a.Parsed P t) : a.Keyed t := by
  obtain ⟨k, multi, hd, hmulti⟩ := h.takes
  have hname : a.name = .str k := Json.eq_of_eqv_str (Descriptor.name_eqv_of_find? hd)
  refine ⟨?_, ?_, fun d hd' ↦ ⟨multi, ?_⟩⟩
  · rw [hname]
    rfl
  · rw [hname]
    rfl
  · rw [hname, hd] at hd'
    cases hd'
    exact hmulti

theorem Parsed.isPrintable_name (h : a.Parsed P t) : a.name.isPrintable = true := by
  obtain ⟨k, hk⟩ := h.exists_name
  rw [hk]
  rfl

/-- **An attribute that was read can be written**, if the values that it was read from have
texts. -/
theorem Parsed.prints (h : a.Parsed (·.isPrintable = true) t) : a.Prints := by
  induction h with
  | @scalar _ _ hd v hv => exact ⟨_, v, rfl, Form.toJson_json hv⟩
  | unset hd => exact ⟨_, .null, rfl, rfl⟩
  | geometry hd hg =>
    obtain ⟨w, hw⟩ := Geometry.exists_toJson hg
    have hprints : w.isPrintable = true :=
      Geometry.closed_toJson (Json.closed_isPrintable fun _ ↦ True) (fun _ ↦ trivial) hw
    exact ⟨_, w, form_geometry _ hw, Form.toJson_json hprints⟩
  | complex hd hs ih =>
    obtain ⟨names, ms, hnames, hms, v, hv⟩ := exists_gather_toJson
      (fun c hc ↦ (hs c hc).keyed) (fun c hc ↦ (hs c hc).isPrintable_name) ih
    obtain ⟨w, hw⟩ : ∃ w, (Form.object [(.str "properties", .object ms)]).toJson = .ok w :=
      Form.exists_toJson_object (List.forall_mem_singleton.mpr ⟨Form.named_str _ _, v, hv⟩)
    exact ⟨_, w, form_complex.mpr (.inr ⟨_, names, ms, rfl, hnames, hms, rfl⟩), hw⟩

end Attribute

/-! ## User data -/

namespace UserData

/-- An entry that can be written: its key may be one and has a text, and so does the value. -/
structure Prints (e : Json × Json) : Prop where
  isKey : e.1.isKey = true
  key : e.1.isPrintable = true
  value : e.2.isPrintable = true

theorem prints_of_entryOf {v : Json} {e : Json × Json} (hv : v.isPrintable = true)
    (h : entryOf v = .ok e) : Prints e := by
  unfold entryOf at h
  split at h
  next k w =>
    split at h
    next hkey =>
      cases h
      have hboth := Json.arePrintable_iff.mp hv
      exact ⟨hkey, hboth k List.mem_cons_self, hboth w (List.mem_cons_of_mem _ List.mem_cons_self)⟩
    next => cases h
  next =>
    split at h
    next =>
      cases h
      exact ⟨rfl, rfl, rfl⟩
    next => cases h
  next =>
    cases h
    exact ⟨rfl, rfl, rfl⟩
  all_goals cases h

theorem prints_of_mem_set {key value : Json} (hentry : Prints (key, value)) :
    ∀ {done : UserData}, (∀ e ∈ done, Prints e) → ∀ e ∈ set key value done, Prints e
  | [], _ => List.forall_mem_singleton.mpr hentry
  | (k, v) :: done, h => by
    obtain ⟨hk, hdone⟩ := List.forall_mem_cons.mp h
    rw [set]
    split
    · exact List.forall_mem_cons.mpr ⟨⟨hk.isKey, hk.key, hentry.value⟩, hdone⟩
    · exact List.forall_mem_cons.mpr ⟨hk, prints_of_mem_set hentry hdone⟩

theorem prints_of_mem_ofEntries {items : List Json} : ∀ {done entries : UserData},
    (∀ v ∈ items, v.isPrintable = true) → (∀ e ∈ done, Prints e) →
      ofEntries done items = .ok entries → ∀ e ∈ entries, Prints e := by
  induction items with
  | nil =>
    intro done entries _ hdone h
    cases h
    exact hdone
  | cons item items ih =>
    intro done entries hall hdone h
    obtain ⟨hitem, hitems⟩ := List.forall_mem_cons.mp hall
    obtain ⟨⟨k, v⟩, hentry, h⟩ := except_bind_eq_ok_iff.mp h
    exact ih hitems (prints_of_mem_set (prints_of_entryOf hitem hentry) hdone) h

/-- The entries of user data can be written, if what they were read from has a text. -/
theorem prints_of_mem_ofJson {v : Json} {entries : UserData} (hv : v.isPrintable = true)
    (h : ofJson v = .ok entries) : ∀ e ∈ entries, Prints e := by
  unfold ofJson at h
  split at h
  next =>
    cases h
    exact List.forall_mem_nil _
  next =>
    cases v with
    | obj members =>
      cases h
      intro e he
      obtain ⟨m, hm, rfl⟩ := List.mem_map.mp he
      exact ⟨rfl, rfl, Json.haveTexts_iff.mp hv m hm⟩
    | arr items =>
      exact prints_of_mem_ofEntries (Json.arePrintable_iff.mp hv) (List.forall_mem_nil _) h
    | null | bool | int | float | str => cases h

end UserData

/-! ## Records -/

namespace Record

variable {s : Schema} {v : Json} {r : Record} {records : List Record}

/-- **A record that was read can be written**, if what it was read from has a text. -/
theorem exists_line (hv : v.isPrintable = true) (h : ofJson s v = .ok r) :
    ∃ line, r.line = .ok line := by
  obtain ⟨members, id, properties, userData, rfl, -, hproperties, huser, rfl⟩ := ofJson_eq_ok h
  have hmembers : ∀ m ∈ members, m.2.isPrintable = true := Json.haveTexts_iff.mp hv
  have hparsed : ∀ a ∈ properties, a.Parsed (·.isPrintable = true) s :=
    Attribute.inMembers_parsed Json.inherited_isPrintable hmembers hproperties
  obtain ⟨names, ms, hnames, hms, hvalue⟩ := Attribute.exists_gather_toJson
    (fun a ha ↦ (hparsed a ha).keyed) (fun a ha ↦ (hparsed a ha).isPrintable_name)
    fun a ha ↦ (hparsed a ha).prints
  have hdata : ((members.get? "user_data").getD .null).isPrintable = true := by
    cases hget : members.get? "user_data" with
    | none => rfl
    | some w => exact hmembers _ (Members.mem_of_get? hget)
  have hentries : ∃ v, (Form.object (userData.map fun e ↦ (e.1, .json e.2))).toJson = .ok v := by
    refine Form.exists_toJson_object fun m hm ↦ ?_
    obtain ⟨e, he, rfl⟩ := List.mem_map.mp hm
    have hprints := UserData.prints_of_mem_ofJson hdata huser e he
    exact ⟨⟨hprints.isKey, hprints.key⟩, e.2, Form.toJson_json hprints.value⟩
  have hprinted : ∃ w, (Form.object ([(.str "id", .json (.str id.display)),
      (.str "properties", .object ms)] ++ if userData.isEmpty then [] else
        [(.str "user_data", .object (userData.map fun e ↦ (e.1, .json e.2)))])).toJson =
      .ok w := by
    refine Form.exists_toJson_object (List.forall_mem_append.mpr ⟨?_, ?_⟩)
    · exact List.forall_mem_cons.mpr ⟨⟨Form.named_str _ _, _, rfl⟩,
        List.forall_mem_singleton.mpr ⟨Form.named_str _ _, hvalue⟩⟩
    · split
      · exact List.forall_mem_nil _
      · exact List.forall_mem_singleton.mpr ⟨Form.named_str _ _, hentries⟩
  obtain ⟨w, hw⟩ := hprinted
  refine ⟨w.print, except_bind_eq_ok_iff.mpr ⟨_, ?_, except_bind_eq_ok_iff.mpr ⟨w,
    ofFault_eq_ok_iff.mpr hw, rfl⟩⟩⟩
  exact except_bind_eq_ok_iff.mpr ⟨names, ofFault_eq_ok_iff.mpr hnames,
    except_bind_eq_ok_iff.mpr ⟨ms, hms, rfl⟩⟩

end Record

end GeoStream
