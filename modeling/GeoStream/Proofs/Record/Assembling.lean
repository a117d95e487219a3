import GeoStream.Proofs.Action
import GeoStream.Record.Workbench
import Mathlib.Data.List.DropRight

/-!
# Calls of a builder

A builder may be called in any order to accept attributes and to build records, and any of the calls
may fail: for an attribute that the schema has no place for, however deep in it the reason lies, or
for user data that cannot be taken. What it holds is never more or less than what it accepted since
it last built a record, and a record that was built holds what it was built with, whatever is called
later (`Workbench.assembled`).

## What is shared

Both are a matter of where lists are kept. What a builder holds can be told from its own list alone
(`Workbench.builder`). What a record holds is safe once the place of its list is not the builder's
own, since a call changes no other list: it writes to the builder's place and lays out new lists,
and the builder turns to new lists only (`Workbench.Leaves`).
-/

namespace GeoStream

namespace Workbench

/-! ## Calls -/

/-- A call of a builder. -/
inductive Use where
  | append (a : Attribute)
  | build (id userData : Json)

namespace Use

/-- What a call does, and the record that it returns, if it returns one. -/
def on : Use → Work (Option BuiltRecord)
  | .append a => do
    Workbench.append a
    return none
  | .build id userData => return some (← Workbench.build id userData)

/-- What a call returns or fails with. -/
def reply (u : Use) (w : Workbench) : Except Error (Option BuiltRecord) :=
  match u.on w with
  | .ok r _ => .ok r
  | .error e _ => .error e

/-- The workbench after a call. -/
def after (u : Use) (w : Workbench) : Workbench :=
  match u.on w with
  | .ok _ w' => w'
  | .error _ w' => w'

/-- Whether a call builds a record. -/
def builds : Use → Bool
  | .append _ => false
  | .build _ userData => (UserData.ofJson userData).isOk

/-- The attribute that a call has a builder hold: what it is given, put under the schema. -/
def accepted? (s : Schema) : Use → Option Attribute
  | .append a => (a.settle s).toOption
  | .build .. => none

end Use

/-- The workbench after some calls of a new builder, whether they fail or not. -/
def afterAll (s : Schema) (uses : List Use) : Workbench := uses.foldl (fun w u ↦ u.after w) (new s)

/-- What was accepted by some calls since a record was last built, in order. -/
def acceptedSince (s : Schema) (uses : List Use) : List Attribute :=
  (uses.rtakeWhile fun u ↦ !u.builds).filterMap (Use.accepted? s)

variable {w w' w'' : Workbench} {u : Use} {as : List Attribute}

theorem afterAll_append (s : Schema) (uses later : List Use) :
    afterAll s (uses ++ later) = later.foldl (fun w u ↦ u.after w) (afterAll s uses) :=
  List.foldl_append

theorem afterAll_concat (s : Schema) (uses : List Use) (u : Use) :
    afterAll s (uses ++ [u]) = u.after (afterAll s uses) := afterAll_append s uses [u]

theorem acceptedSince_concat (s : Schema) (uses : List Use) (u : Use) :
    acceptedSince s (uses ++ [u]) =
      if u.builds then [] else acceptedSince s uses ++ (u.accepted? s).toList := by
  rw [acceptedSince, List.rtakeWhile_concat]
  cases u.builds with
  | true => rfl
  | false =>
    rw [Bool.not_false, if_pos rfl, List.filterMap_append, List.filterMap_cons]
    cases u.accepted? s <;> rfl

/-! ## The lists -/

@[simp] theorem builder_replace : (w.replace as).builder = ⟨w.schema, as⟩ := by
  simp [builder, replace]

@[simp] theorem builder_lay : (w.lay as).builder = w.builder := by
  simp [builder, lay, List.getElem_append_left w.own_lt]

@[simp] theorem builder_turnTo : (w.turnTo as).builder = ⟨w.schema, as⟩ := by
  simp [builder, turnTo]

/-- Lists that the builder has no part in are left as they are, and it takes no part in them
later. -/
def Leaves (w w' : Workbench) : Prop :=
  ∀ place as, w.lists[place]? = some as → place ≠ w.own →
    w'.lists[place]? = some as ∧ place ≠ w'.own

theorem Leaves.refl (w : Workbench) : w.Leaves w := fun _ _ h hother ↦ ⟨h, hother⟩

theorem Leaves.trans (h : w.Leaves w') (h' : w'.Leaves w'') : w.Leaves w'' := by
  intro place as hat hother
  obtain ⟨hat, hother⟩ := h place as hat hother
  exact h' place as hat hother

theorem leaves_replace (w : Workbench) (as : List Attribute) : w.Leaves (w.replace as) :=
  fun _ _ hat hother ↦ ⟨(List.getElem?_set_ne (Ne.symm hother)).trans hat, hother⟩

theorem getElem?_lay {place : Nat} {bs : List Attribute} (h : w.lists[place]? = some bs) :
    (w.lists ++ [as])[place]? = some bs := by
  rw [List.getElem?_append_left (List.getElem?_eq_some_iff.mp h).1, h]

theorem leaves_lay (w : Workbench) (as : List Attribute) : w.Leaves (w.lay as) :=
  fun _ _ hat hother ↦ ⟨getElem?_lay hat, hother⟩

theorem leaves_turnTo (w : Workbench) (as : List Attribute) : w.Leaves (w.turnTo as) := by
  intro place bs hat _
  refine ⟨getElem?_lay hat, ?_⟩
  rintro rfl
  rw [turnTo, List.getElem?_eq_none (Nat.le_refl _)] at hat
  cases hat

/-! ## One call -/

/-- What a call replies and leaves, in each of the ways in which it can go. -/
inductive Goes (w : Workbench) : Use → Except Error (Option BuiltRecord) → Workbench → Prop where
  | accepted {a b : Attribute} (h : a.settle w.schema = .ok b) :
    Goes w (.append a) (.ok none) (w.replace (w.builder.properties ++ [b]))
  | refused {a : Attribute} {e : Error} (h : a.settle w.schema = .error e) :
    Goes w (.append a) (.error e) w
  | built {id v : Json} {entries : UserData} (h : UserData.ofJson v = .ok entries) :
    Goes w (.build id v) (.ok (some ⟨⟨none, id, entries⟩, w.schema, w.lists.length⟩))
      ((w.lay w.builder.properties).turnTo [])
  | unbuilt {id v : Json} {f : Fault} (h : UserData.ofJson v = .error f) :
    Goes w (.build id v) (.error (.fault f)) (w.lay w.builder.properties)

theorem on_append (a : Attribute) (w : Workbench) :
    (Use.append a).on w = match a.settle w.schema with
      | .ok b => .ok none (w.replace (w.builder.properties ++ [b]))
      | .error e => .error e w := by
  rw [Use.on, Workbench.append, Action.bind_apply, Action.bind_get, RecordBuilder.append, builder]
  cases a.settle w.schema <;> rfl

theorem on_build (id v : Json) (w : Workbench) :
    (Use.build id v).on w = match UserData.ofJson v with
      | .ok entries => .ok (some ⟨⟨none, id, entries⟩, w.schema, w.lists.length⟩)
          ((w.lay w.builder.properties).turnTo [])
      | .error f => .error (.fault f) (w.lay w.builder.properties) := by
  rw [Use.on, Workbench.build, Action.bind_apply, Action.bind_get, Action.bind_set,
    RecordBuilder.build]
  cases UserData.ofJson v <;> rfl

theorem goes (u : Use) (w : Workbench) : w.Goes u (u.reply w) (u.after w) := by
  cases u with
  | append a =>
    rw [Use.reply, Use.after, on_append]
    cases h : a.settle w.schema with
    | ok b => exact .accepted h
    | error e => exact .refused h
  | build id v =>
    rw [Use.reply, Use.after, on_build]
    cases h : UserData.ofJson v with
    | ok entries => exact .built h
    | error f => exact .unbuilt h

variable {r : Except Error (Option BuiltRecord)}

theorem Goes.leaves (h : w.Goes u r w') : w.Leaves w' := by
  cases h with
  | accepted h => exact leaves_replace w _
  | refused h => exact .refl w
  | built h => exact (leaves_lay w _).trans (leaves_turnTo _ _)
  | unbuilt h => exact leaves_lay w _

/-- The builder after a call. -/
theorem Goes.builder_eq (h : w.Goes u r w') :
    w'.builder = ⟨w.schema,
      if u.builds then [] else w.builder.properties ++ (u.accepted? w.schema).toList⟩ := by
  cases h with
  | accepted h =>
    rw [builder_replace, Use.accepted?, h]
    rfl
  | refused h =>
    rw [Use.accepted?, h]
    exact congrArg (RecordBuilder.mk w.schema) (List.append_nil _).symm
  | built h =>
    rw [builder_turnTo, Use.builds, h]
    rfl
  | unbuilt h =>
    rw [builder_lay, Use.builds, h]
    exact congrArg (RecordBuilder.mk w.schema) (List.append_nil _).symm

/-- **A call that fails leaves the builder as it was**, and its own list in its place. -/
theorem Goes.of_error {e : Error} (h : w.Goes u (.error e) w') :
    w'.builder = w.builder ∧ w'.own = w.own := by
  cases h with
  | refused h => exact ⟨rfl, rfl⟩
  | unbuilt h => exact ⟨builder_lay, rfl⟩

/-- A record that is built gets what the builder holds, in a list that is not the builder's. -/
theorem Goes.list_of_built {b : BuiltRecord} (h : w.Goes u (.ok (some b)) w') :
    w'.lists[b.place]? = some w.builder.properties ∧ b.place ≠ w'.own := by
  cases h with
  | built h =>
    refine ⟨getElem?_lay (by simp [lay]), ?_⟩
    simp [turnTo, lay]

/-! ## A run of calls -/

theorem leaves_foldl (later : List Use) (w : Workbench) :
    w.Leaves (later.foldl (fun w u ↦ u.after w) w) := by
  induction later generalizing w with
  | nil => exact .refl w
  | cons u later ih => exact (goes u w).leaves.trans (ih (u.after w))

/-- **A builder holds what it accepted since it last built a record.** -/
theorem builder_afterAll (s : Schema) (uses : List Use) :
    (afterAll s uses).builder = ⟨s, acceptedSince s uses⟩ := by
  induction uses using List.reverseRecOn with
  | nil => rfl
  | append_singleton uses u ih =>
    have hschema : (afterAll s uses).schema = s := congrArg RecordBuilder.schema ih
    rw [afterAll_concat, (goes u _).builder_eq, ih, hschema, acceptedSince_concat]

/-- How a new builder of a schema answers to calls. -/
structure Assembles (s : Schema) : Prop where
  holds : ∀ uses, (afterAll s uses).builder = ⟨s, acceptedSince s uses⟩
  failed : ∀ uses u e, u.reply (afterAll s uses) = .error e →
    (afterAll s (uses ++ [u])).builder = (afterAll s uses).builder ∧
      (afterAll s (uses ++ [u])).own = (afterAll s uses).own
  /-- An attribute is accepted if it can be put under the schema, whatever came before. -/
  appended : ∀ uses a, (Use.append a).reply (afterAll s uses) = (a.settle s).map fun _ ↦ none
  unbuilt : ∀ uses id v f, UserData.ofJson v = .error f →
    (Use.build id v).reply (afterAll s uses) = .error (.fault f)
  /-- A record that is built holds what was accepted since the one before, now and whatever is
  called later. -/
  built : ∀ uses id v entries, UserData.ofJson v = .ok entries →
    ∃ b, (Use.build id v).reply (afterAll s uses) = .ok (some b) ∧
      ∀ later, (afterAll s (uses ++ .build id v :: later)).record? b =
        some (.make s id (acceptedSince s uses) entries)

/-- **A builder keeps exactly what it accepted**, and so does each record that it built. -/
theorem assembled (s : Schema) : Assembles s := by
  have hschema : ∀ uses, (afterAll s uses).schema = s :=
    fun uses ↦ congrArg RecordBuilder.schema (builder_afterAll s uses)
  refine ⟨builder_afterAll s, fun uses u e he ↦ ?_, fun uses a ↦ ?_, fun uses id v f hf ↦ ?_,
    fun uses id v entries hentries ↦ ?_⟩
  · have hgoes := goes u (afterAll s uses)
    rw [he] at hgoes
    rw [afterAll_concat]
    exact hgoes.of_error
  · rw [Use.reply, on_append, hschema]
    cases a.settle s <;> rfl
  · rw [Use.reply, on_build, hf]
  · have hreply : (Use.build id v).reply (afterAll s uses) =
        .ok (some ⟨⟨none, id, entries⟩, s, (afterAll s uses).lists.length⟩) := by
      rw [Use.reply, on_build, hentries, hschema]
    refine ⟨_, hreply, fun later ↦ ?_⟩
    have hgoes := goes (.build id v) (afterAll s uses)
    rw [hreply] at hgoes
    obtain ⟨hlist, hother⟩ := hgoes.list_of_built
    -- the calls that follow leave the list of the record alone
    have hlater := (leaves_foldl later _ _ _ hlist hother).1
    rw [List.append_cons, afterAll_append, afterAll_concat, record?, hlater, builder_afterAll]
    rfl

end Workbench

end GeoStream
