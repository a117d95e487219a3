import GeoStream.Proofs.Json.Numerals

/-!
# Values that are written and read back

Reading the text of a value gives the value, whatever follows it in the line (`parse_line`). Two
things are needed. The texts in it have to be spellable and the members of its objects to have
different names, which is so for all that JSON text can hold (`Json.Spellable`). And the text of
each number in it, read by itself, has to give that number (`Json.NumbersReadBack`): how the
shortest digits of a number are found is not looked into here.

The counter of the reader bounds nesting. A value needs twice the length of its text, and a list
or an object one more than that for what is left of it: so each of its parts finds enough.

A written value consists of plain characters (`isPlain_of_mem_written`). In particular it has no
line end in it, whatever its texts hold.
-/

namespace GeoStream

namespace Json

/-! ## What can be written -/

/-- A value that JSON text can hold: its texts can be spelled, and the members of an object have
different names. -/
inductive Spellable : Json → Prop where
  | null : Spellable .null
  | bool (b : Bool) : Spellable (.bool b)
  | int (n : Int) : Spellable (.int n)
  | float (x : Binary64) : Spellable (.float x)
  | str {t : Text} (h : t.Spellable) : Spellable (.str t)
  | arr {items : List Json} (h : ∀ v ∈ items, Spellable v) : Spellable (.arr items)
  | obj {members : Members} (hnames : (members.map Prod.fst).Nodup)
    (htexts : ∀ m ∈ members, m.1.Spellable) (h : ∀ m ∈ members, Spellable m.2) :
    Spellable (.obj members)

theorem Spellable.empty : (Json.obj []).Spellable :=
  .obj List.nodup_nil (List.forall_mem_nil _) (List.forall_mem_nil _)

/-- The members of every object in a value have different names, and its texts satisfy a
condition. -/
inductive Proper (P : Text → Prop) : Json → Prop where
  | null : Proper P .null
  | bool (b : Bool) : Proper P (.bool b)
  | int (n : Int) : Proper P (.int n)
  | float (x : Binary64) : Proper P (.float x)
  | str {t : Text} (h : P t) : Proper P (.str t)
  | arr {items : List Json} (h : ∀ v ∈ items, Proper P v) : Proper P (.arr items)
  | obj {members : Members} (hnames : (members.map Prod.fst).Nodup)
    (htexts : ∀ m ∈ members, P m.1) (h : ∀ m ∈ members, Proper P m.2) : Proper P (.obj members)

theorem Proper.empty {P : Text → Prop} : Proper P (.obj []) :=
  .obj List.nodup_nil (List.forall_mem_nil _) (List.forall_mem_nil _)

/-- A condition that holds of every value that is put together from words, numbers that have a text
and texts of a kind. -/
structure Closed (T : Text → Prop) (P : Json → Prop) : Prop where
  null : P .null
  bool : ∀ b, P (.bool b)
  int : ∀ {n}, intHasText n = true → P (.int n)
  float : ∀ x, P (.float x)
  str : ∀ {t}, T t → P (.str t)
  arr : ∀ {items : List Json}, (∀ v ∈ items, P v) → P (.arr items)
  obj : ∀ {members : Members}, (members.map Prod.fst).Nodup → (∀ m ∈ members, T m.1) →
    (∀ m ∈ members, P m.2) → P (.obj members)

theorem closed_proper (T : Text → Prop) : Closed T (Proper T) :=
  ⟨.null, .bool, fun _ ↦ .int _, .float, .str, .arr, .obj⟩

theorem closed_spellable : Closed Text.Spellable Spellable :=
  ⟨.null, .bool, fun _ ↦ .int _, .float, .str, .arr, .obj⟩

theorem closed_isPrintable (T : Text → Prop) : Closed T (·.isPrintable = true) where
  null := rfl
  bool _ := rfl
  int h := h
  float _ := rfl
  str _ := rfl
  arr := arePrintable_iff.mpr
  obj _ _ := haveTexts_iff.mpr

/-- An object whose names are among some that are different. -/
theorem Closed.of_keys {T : Text → Prop} {P : Json → Prop} (hP : Closed T P)
    (hT : ∀ s : String, T (.ofString s)) (keys : List String)
    (hkeys : (keys.map Text.ofString).Nodup) {members : Members}
    (hsub : (members.map Prod.fst).Sublist (keys.map Text.ofString))
    (h : ∀ m ∈ members, P m.2) : P (.obj members) := by
  refine hP.obj (hkeys.sublist hsub) (fun m hm ↦ ?_) h
  obtain ⟨k, -, hk⟩ := List.mem_map.mp (hsub.subset (List.mem_map_of_mem hm))
  rw [← hk]
  exact hT k

theorem spellable_iff_proper {v : Json} : v.Spellable ↔ v.Proper Text.Spellable := by
  constructor
  · intro h
    induction h with
    | null => exact .null
    | bool b => exact .bool b
    | int n => exact .int n
    | float x => exact .float x
    | str h => exact .str h
    | arr _ ih => exact .arr ih
    | obj hnames htexts _ ih => exact .obj hnames htexts ih
  · intro h
    induction h with
    | null => exact .null
    | bool b => exact .bool b
    | int n => exact .int n
    | float x => exact .float x
    | str h => exact .str h
    | arr _ ih => exact .arr ih
    | obj hnames htexts _ ih => exact .obj hnames htexts ih

/-- A number occurs in a value. -/
inductive HasNumber : Json → Json → Prop where
  | int (n : Int) : HasNumber (.int n) (.int n)
  | float (x : Binary64) : HasNumber (.float x) (.float x)
  | item {items : List Json} {v n : Json} (hv : v ∈ items) (h : HasNumber v n) :
    HasNumber (.arr items) n
  | member {members : Members} {m : Text × Json} {n : Json} (hm : m ∈ members)
    (h : HasNumber m.2 n) : HasNumber (.obj members) n

/-- The text of each number in a value is read as that number. -/
def NumbersReadBack (v : Json) : Prop := ∀ n, v.HasNumber n → parse n.print = .ok n

theorem numbersReadBack_str (t : Text) : (Json.str t).NumbersReadBack := nofun

theorem numbersReadBack_arr {items : List Json} :
    (Json.arr items).NumbersReadBack ↔ ∀ v ∈ items, v.NumbersReadBack := by
  refine ⟨fun h v hv n hn ↦ h n (.item hv hn), fun h n hn ↦ ?_⟩
  cases hn with
  | item hv hn => exact h _ hv n hn

theorem numbersReadBack_obj {members : Members} :
    (Json.obj members).NumbersReadBack ↔ ∀ m ∈ members, m.2.NumbersReadBack := by
  refine ⟨fun h m hm n hn ↦ h n (.member hm hn), fun h n hn ↦ ?_⟩
  cases hn with
  | member hm hn => exact h _ hm n hn

/-! ## The characters of a written value -/

mutual

theorem isPlain_of_mem_written : ∀ {v : Json} {c : Char}, c ∈ v.written → IsPlain c
  | .null, c, h => by
    have hnull : ∀ c ∈ "null".toList, IsPlain c := forall_mem_of_all (by decide)
    exact hnull c h
  | .bool b, c, h => by
    have hbool : ∀ c ∈ writtenBool b, IsPlain c := by
      cases b <;> exact forall_mem_of_all (by decide)
    exact hbool c h
  | .int n, c, h => isPlain_of_mem_numeralChars (int_subset n h)
  | .float x, c, h => isPlain_of_mem_numeralChars (float_subset x h)
  | .str t, c, h => isPlain_of_mem_writtenString h
  | .arr items, c, h => by
    rw [written, List.mem_cons] at h
    rcases h with rfl | h
    · decide
    · exact isPlain_of_mem_writtenItems h
  | .obj members, c, h => by
    rw [written, List.mem_cons] at h
    rcases h with rfl | h
    · decide
    · exact isPlain_of_mem_writtenMembers h
termination_by structural v => v

theorem isPlain_of_mem_writtenItems : ∀ {items : List Json} {c : Char}, c ∈ writtenItems items →
    IsPlain c
  | [], c, h => by
    rw [List.mem_singleton.mp h]
    decide
  | x :: items, c, h => by
    rw [writtenItems, List.mem_append] at h
    exact h.elim isPlain_of_mem_written isPlain_of_mem_writtenItemsTail
termination_by structural items => items

theorem isPlain_of_mem_writtenItemsTail : ∀ {items : List Json} {c : Char},
    c ∈ writtenItemsTail items → IsPlain c
  | [], c, h => by
    rw [List.mem_singleton.mp h]
    decide
  | x :: items, c, h => by
    rw [writtenItemsTail, List.mem_cons, List.mem_cons, List.mem_append] at h
    rcases h with rfl | rfl | h | h
    · decide
    · decide
    · exact isPlain_of_mem_written h
    · exact isPlain_of_mem_writtenItemsTail h
termination_by structural items => items

theorem isPlain_of_mem_writtenMembers : ∀ {members : List (Text × Json)} {c : Char},
    c ∈ writtenMembers members → IsPlain c
  | [], c, h => by
    rw [List.mem_singleton.mp h]
    decide
  | (k, v) :: members, c, h => by
    rw [writtenMembers, List.mem_append, List.mem_cons, List.mem_cons, List.mem_append] at h
    rcases h with h | rfl | rfl | h | h
    · exact isPlain_of_mem_writtenString h
    · decide
    · decide
    · exact isPlain_of_mem_written h
    · exact isPlain_of_mem_writtenMembersTail h
termination_by structural members => members

theorem isPlain_of_mem_writtenMembersTail : ∀ {members : List (Text × Json)} {c : Char},
    c ∈ writtenMembersTail members → IsPlain c
  | [], c, h => by
    rw [List.mem_singleton.mp h]
    decide
  | (k, v) :: members, c, h => by
    rw [writtenMembersTail, List.mem_cons, List.mem_cons, List.mem_append, List.mem_cons,
      List.mem_cons, List.mem_append] at h
    rcases h with rfl | rfl | h | rfl | rfl | h | h
    · decide
    · decide
    · exact isPlain_of_mem_writtenString h
    · decide
    · decide
    · exact isPlain_of_mem_written h
    · exact isPlain_of_mem_writtenMembersTail h
termination_by structural members => members

end

/-! ## Reading a written value -/

/-- A number that is read back has a text. -/
theorem written_ne_nil_of_parse {n : Json} (h : parse n.print = .ok n) : n.written ≠ [] := by
  intro hnil
  rw [print, hnil] at h
  cases h

/-- A written value starts neither with white space nor with a closing bracket. -/
theorem exists_written {v : Json} (h : v.NumbersReadBack) :
    ∃ c cs, v.written = c :: cs ∧ isSpace c = false ∧ c ≠ ']' := by
  have hnumber : ∀ {n : Json}, n.written ⊆ numeralChars → parse n.print = .ok n →
      ∃ c cs, n.written = c :: cs ∧ isSpace c = false ∧ c ≠ ']' := by
    intro n hchars hparse
    have hstart : ∀ c ∈ numeralChars, isSpace c = false ∧ c ≠ ']' :=
      forall_mem_of_all (by decide)
    obtain ⟨c, cs, hcs⟩ := List.exists_cons_of_ne_nil (written_ne_nil_of_parse hparse)
    exact ⟨c, cs, hcs, hstart c (hchars (hcs ▸ List.mem_cons_self))⟩
  cases v with
  | null => exact ⟨'n', _, rfl, by decide, by decide⟩
  | bool b => cases b <;> exact ⟨_, _, rfl, by decide, by decide⟩
  | int n => exact hnumber (int_subset n) (h _ (.int n))
  | float x => exact hnumber (float_subset x) (h _ (.float x))
  | str t => exact ⟨'"', _, rfl, by decide, by decide⟩
  | arr items => exact ⟨'[', _, rfl, by decide, by decide⟩
  | obj members => exact ⟨'\x7b', _, rfl, by decide, by decide⟩

theorem skipSpace_written {v : Json} (h : v.NumbersReadBack) (rest : List Char) :
    skipSpace (v.written ++ rest) = v.written ++ rest := by
  obtain ⟨c, cs, hcs, hspace, -⟩ := exists_written h
  rw [hcs, List.cons_append, skipSpace_of_plain hspace]

theorem delimited_itemsTail (items : List Json) (rest : List Char) :
    Delimited (writtenItemsTail items ++ rest) := by
  rintro c hc
  cases items <;> cases hc
  · exact .inr (.inl rfl)
  · exact .inl rfl

theorem delimited_membersTail (members : Members) (rest : List Char) :
    Delimited (writtenMembersTail members ++ rest) := by
  rintro c hc
  cases members <;> cases hc
  · exact .inr (.inr (.inl rfl))
  · exact .inl rfl

/-- A member of a new name goes to the end. -/
theorem set_of_not_mem {k : Text} {v : Json} : ∀ {members : Members},
    k ∉ members.map Prod.fst → Members.set k v members = members ++ [(k, v)]
  | [], _ => rfl
  | (l, w) :: members, h => by
    rw [List.map_cons, List.mem_cons, not_or] at h
    rw [Members.set, if_neg (Ne.symm h.1), set_of_not_mem h.2, List.cons_append]

mutual

/-- Reading a written value in front of what may follow it. -/
theorem scanValue_written : ∀ {v : Json}, v.Spellable → v.NumbersReadBack → ∀ {rest : List Char},
    Delimited rest → ∀ (fuel : Nat), 2 * v.written.length ≤ fuel →
      ∃ rest', scanValue fuel (v.written ++ rest) = .ok (v, rest') ∧
        skipSpace rest' = skipSpace rest
  | v, hv, hnumbers, rest, hrest, 0, hfuel => by
    obtain ⟨c, cs, hcs, -⟩ := exists_written hnumbers
    rw [hcs, List.length_cons] at hfuel
    omega
  | .null, _, _, rest, _, fuel + 1, _ => ⟨rest, rfl, rfl⟩
  | .bool true, _, _, rest, _, fuel + 1, _ => ⟨rest, rfl, rfl⟩
  | .bool false, _, _, rest, _, fuel + 1, _ => ⟨rest, rfl, rfl⟩
  | .int n, _, hnumbers, rest, hrest, fuel + 1, _ =>
    scanValue_number (n := .int n) (int_subset n) (hnumbers _ (.int n)) hrest fuel
  | .float x, _, hnumbers, rest, hrest, fuel + 1, _ =>
    scanValue_number (n := .float x) (float_subset x) (hnumbers _ (.float x)) hrest fuel
  | .str t, hv, _, rest, _, fuel + 1, _ => by
    cases hv with
    | str ht =>
      refine ⟨rest, ?_, rfl⟩
      rw [written, writtenString, List.cons_append, List.cons_append, List.append_assoc, scanValue,
        if_pos rfl, List.singleton_append, scanString_written ht]
      rfl
  | .arr [], _, _, rest, _, fuel + 1, _ => ⟨rest, rfl, rfl⟩
  | .arr (x :: items), hv, hnumbers, rest, _, fuel + 1, hfuel => by
    cases hv with
    | arr h =>
      rw [written, List.length_cons] at hfuel
      refine ⟨rest, ?_, rfl⟩
      have hnumbers := numbersReadBack_arr.mp hnumbers
      obtain ⟨c, cs, hcs, hspace, hbracket⟩ := exists_written (hnumbers x List.mem_cons_self)
      have hitems := scanItems_written (List.cons_ne_nil x items) h hnumbers
        [] rest fuel (by omega)
      rw [writtenItems, hcs] at hitems
      rw [written, List.cons_append, scanValue, if_neg (by decide), if_neg (by decide), if_pos rfl,
        writtenItems, hcs]
      simp only [List.cons_append] at hitems ⊢
      rw [skipSpace_of_plain hspace]
      split
      next heq => exact absurd (List.cons.inj heq).1 hbracket
      next => exact hitems
  | .obj [], _, _, rest, _, fuel + 1, _ => ⟨rest, rfl, rfl⟩
  | .obj (m :: members), hv, hnumbers, rest, _, fuel + 1, hfuel => by
    cases hv with
    | obj hnames htexts h =>
      rw [written, List.length_cons] at hfuel
      refine ⟨rest, ?_, rfl⟩
      exact scanMembers_written (List.cons_ne_nil m members) hnames htexts h
        (numbersReadBack_obj.mp hnumbers) [] (fun _ _ ↦ List.not_mem_nil) rest fuel
        (by omega)
termination_by structural v => v

/-- Reading the items of a written list. -/
theorem scanItems_written : ∀ {items : List Json}, items ≠ [] → (∀ v ∈ items, v.Spellable) →
    (∀ v ∈ items, v.NumbersReadBack) → ∀ (done : List Json) (rest : List Char) (fuel : Nat),
      2 * (writtenItems items).length + 1 ≤ fuel →
        scanItems fuel done (writtenItems items ++ rest) = .ok (.arr (done.reverse ++ items), rest)
  | [], hne, _, _, _, _, _, _ => absurd rfl hne
  | x :: items, _, h, hnumbers, done, rest, fuel, hfuel => by
    obtain ⟨fuel, rfl⟩ : ∃ n, fuel = n + 1 := ⟨fuel - 1, by omega⟩
    obtain ⟨hx, hitems⟩ := List.forall_mem_cons.mp h
    obtain ⟨hxnumbers, hitemsnumbers⟩ := List.forall_mem_cons.mp hnumbers
    rw [writtenItems, List.length_append] at hfuel
    obtain ⟨rest', hscan, hrest'⟩ := scanValue_written hx hxnumbers
      (delimited_itemsTail items rest) fuel (by omega)
    rw [writtenItems, List.append_assoc, scanItems, hscan]
    dsimp only
    rw [hrest']
    cases items with
    | nil =>
      rw [List.reverse_cons]
      rfl
    | cons y items =>
      have htail : writtenItemsTail (y :: items) = ',' :: ' ' :: writtenItems (y :: items) := rfl
      rw [htail, List.length_cons, List.length_cons] at hfuel
      have hspace : skipSpace (' ' :: (writtenItems (y :: items) ++ rest)) =
          writtenItems (y :: items) ++ rest := by
        rw [writtenItems, List.append_assoc]
        exact skipSpace_written (hitemsnumbers y List.mem_cons_self) _
      have hmore := scanItems_written (List.cons_ne_nil y items) hitems hitemsnumbers (x :: done)
        rest fuel (by omega)
      rw [List.reverse_cons, List.append_assoc, List.singleton_append] at hmore
      rw [htail, List.cons_append, List.cons_append, skipSpace_of_plain (by decide)]
      simp only [hspace, hmore]
termination_by structural items => items

/-- Reading the members of a written object. -/
theorem scanMembers_written : ∀ {members : List (Text × Json)}, members ≠ [] →
    (members.map Prod.fst).Nodup → (∀ m ∈ members, m.1.Spellable) →
    (∀ m ∈ members, m.2.Spellable) → (∀ m ∈ members, m.2.NumbersReadBack) →
    ∀ (done : Members), (∀ k ∈ members.map Prod.fst, k ∉ done.map Prod.fst) →
    ∀ (rest : List Char) (fuel : Nat), 2 * (writtenMembers members).length + 1 ≤ fuel →
      scanMembers fuel done (writtenMembers members ++ rest) = .ok (.obj (done ++ members), rest)
  | [], hne, _, _, _, _, _, _, _, _, _ => absurd rfl hne
  | (k, v) :: members, _, hnames, htexts, h, hnumbers, done, hdone, rest, fuel, hfuel => by
    obtain ⟨fuel, rfl⟩ : ∃ n, fuel = n + 1 := ⟨fuel - 1, by omega⟩
    have hk : k.Spellable := htexts _ List.mem_cons_self
    have hv : v.Spellable := h _ List.mem_cons_self
    have hvnumbers : v.NumbersReadBack := hnumbers _ List.mem_cons_self
    obtain ⟨hknew, hnames⟩ := List.nodup_cons.mp hnames
    have hkdone : k ∉ done.map Prod.fst := hdone _ List.mem_cons_self
    rw [writtenMembers, List.length_append, List.length_cons, List.length_cons,
      List.length_append] at hfuel
    obtain ⟨rest', hscan, hrest'⟩ := scanValue_written hv hvnumbers
      (delimited_membersTail members rest) fuel (by omega)
    have htext : writtenMembers ((k, v) :: members) ++ rest =
        '"' :: (k.points.flatMap writtenPoint ++
          '"' :: ':' :: ' ' :: (v.written ++ (writtenMembersTail members ++ rest))) := by
      simp only [writtenMembers, writtenString, List.cons_append, List.append_assoc,
        List.nil_append]
    have hspace : skipSpace (' ' :: (v.written ++ (writtenMembersTail members ++ rest))) =
        v.written ++ (writtenMembersTail members ++ rest) := skipSpace_written hvnumbers _
    rw [htext, scanMembers, scanString_written hk]
    dsimp only
    rw [skipSpace_of_plain (by decide)]
    simp only [hspace, hscan, hrest', set_of_not_mem hkdone, List.reverse_nil, List.nil_append]
    cases members with
    | nil => rfl
    | cons m members =>
      have htail : writtenMembersTail (m :: members) =
          ',' :: ' ' :: writtenMembers (m :: members) := rfl
      rw [htail, List.length_cons, List.length_cons] at hfuel
      have hdone' : ∀ l ∈ (m :: members).map Prod.fst, l ∉ (done ++ [(k, v)]).map Prod.fst := by
        intro l hl hmem
        rw [List.map_append, List.mem_append] at hmem
        rcases hmem with hmem | hmem
        · exact hdone l (List.mem_cons_of_mem k hl) hmem
        · rw [List.mem_singleton.mp hmem] at hl
          exact hknew hl
      have hmore := scanMembers_written (List.cons_ne_nil m members) hnames
        (fun m hm ↦ htexts m (List.mem_cons_of_mem _ hm))
        (fun m hm ↦ h m (List.mem_cons_of_mem _ hm))
        (fun m hm ↦ hnumbers m (List.mem_cons_of_mem _ hm)) _ hdone' rest fuel (by omega)
      rw [List.append_assoc, List.singleton_append] at hmore
      rw [htail, List.cons_append, List.cons_append, skipSpace_of_plain (by decide)]
      exact hmore
termination_by structural members => members

end

/-- **The line of a value** is read as that value. -/
theorem parse_line {v : Json} (h : v.Spellable) (hnumbers : v.NumbersReadBack) :
    parse (v.print ++ "\n") = .ok v := by
  have hlist : (v.print ++ "\n").toList = v.written ++ ['\n'] := by
    rw [String.toList_append, print, String.toList_ofList]
    rfl
  rw [parse_eq_ok_iff, hlist, scanText, skipSpace_written hnumbers]
  have hmark : ∀ c, IsPlain c → c ≠ '\ufeff' := by
    rintro c ⟨-, hmax⟩ rfl
    revert hmax
    decide
  obtain ⟨c, cs, hcs, -⟩ := exists_written hnumbers
  have hc : IsPlain c := isPlain_of_mem_written (hcs ▸ List.mem_cons_self)
  have hhead : (v.written ++ ['\n']).head? ≠ some '\ufeff' := by
    rw [hcs]
    exact fun heq ↦ hmark c hc (Option.some.inj heq)
  have hdelimited : Delimited ['\n'] := fun c hc ↦ .inr (.inr (.inr (Option.some.inj hc).symm))
  obtain ⟨rest, hscan, hrest⟩ := scanValue_written h hnumbers hdelimited
    (2 * (v.written ++ ['\n']).length + 1) (by rw [List.length_append]; omega)
  rw [if_neg hhead, hscan]
  dsimp only
  rw [hrest]
  rfl

end Json

end GeoStream
