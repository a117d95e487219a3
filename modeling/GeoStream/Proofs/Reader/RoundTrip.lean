import GeoStream.Proofs.Json.Parsing
import GeoStream.Proofs.Reader.Exhausting
import GeoStream.Proofs.Reader.Lines
import GeoStream.Proofs.Record.RoundTrip
import GeoStream.Proofs.Writer

/-!
# Files that are written and read back

A writer that is given records and closed leaves a file with a line for the schema and a line for
each record, and a reader of that file hands out these records and is exhausted then.

Reading goes forward through the lines of the file. Between two steps it is known which lines are
left (`Store.LinesLeft`); the line of an object is not blank, so each step takes one of them.

What a schema or a record was read from has to be a value that can be spelled (`Json.Spellable`).
Every value that is read from text can be (`Json.spellable_of_parse`); the only other ones are those
whose texts have the two halves of a surrogate pair directly after each other, which a file has no
way to tell from one character.
-/

namespace GeoStream

/-! ## Lines of objects -/

namespace Json

variable {members : Members}

theorem print_line (v : Json) : String.ofList (v.written ++ ['\n']) = v.print ++ "\n" := by
  rw [String.ofList_append]
  rfl

theorem not_blank_line (members : Members) :
    ((Json.obj members).print ++ "\n").toList.all isBlank = false := by
  rw [String.toList_append, print, String.toList_ofList]
  rfl

end Json

/-- Lines of objects, with a line feed after each of them, are not blank. -/
theorem numberedFrom_line (first : Nat) (members : Members) (lines : List String) :
    numberedFrom first (String.ofList ((Json.obj members).written ++ ['\n']) :: lines) =
      ⟨first, (Json.obj members).print ++ "\n"⟩ :: numberedFrom (first + 1) lines := by
  rw [Json.print_line, numberedFrom_cons, if_neg (by rw [Json.not_blank_line]; decide)]

/-! ## Readers of written files -/

/-- A reader of a file is open, and has yet to answer some lines. -/
def Store.LinesLeft (s : Store) (id : Nat) (lines : List (List Char)) : Prop :=
  ∃ first, s.Reading id (numberedFrom first (lines.map fun line ↦ String.ofList (line ++ ['\n'])))

namespace Reader

variable {id : Nat} {file : Text} {schema : Schema} {s : Store} {lines : List (List Char)}
  {members : Members} {r : Record} {records : List Record}

/-- **A step of iteration** takes one line and hands out its record. -/
theorem step_of_linesLeft (h : s.LinesLeft id ((Json.obj members).written :: lines))
    (hspell : (Json.obj members).Spellable) (hnumbers : (Json.obj members).NumbersReadBack)
    (hrecord : Record.ofJson schema (.obj members) = .ok r) (file : Text) :
    ∃ s', (jsonLines id file schema).step s = .ok (some r) s' ∧ s'.LinesLeft id lines := by
  obtain ⟨first, hreading⟩ := h
  rw [List.map_cons, numberedFrom_line] at hreading
  obtain ⟨s', hstep, h'⟩ := step_of_holds hreading (Json.parse_line hspell hnumbers) file schema
  rw [NumberedLine.answer, hrecord] at hstep
  exact ⟨s', hstep, _, h'⟩

/-- At the end there is no record. -/
theorem step_of_linesLeft_nil (h : s.LinesLeft id []) (file : Text) (schema : Schema) :
    ∃ s', (jsonLines id file schema).step s = .ok none s' ∧ s'.LinesLeft id [] := by
  obtain ⟨first, hreading⟩ := h
  obtain ⟨s', hstep, h'⟩ := step_of_ended hreading file schema
  exact ⟨s', hstep, first, h'⟩

/-- A reader at the end is exhausted. -/
theorem next_of_linesLeft_nil (h : s.LinesLeft id []) (file : Text) (schema : Schema) :
    (jsonLines id file schema).next.outcome s = .error (.exhausted (some file)) := by
  obtain ⟨first, hreading⟩ := h
  obtain ⟨s', hnext, -⟩ := next_of_ended hreading file schema
  exact Action.outcome_of_error hnext

/-- A line is written for an object, and a record is read from it. -/
def ReadsAs (schema : Schema) (line : List Char) (r : Record) : Prop :=
  ∃ members, line = (Json.obj members).written ∧ (Json.obj members).Spellable ∧
    (Json.obj members).NumbersReadBack ∧ Record.ofJson schema (.obj members) = .ok r

/-- **Iterating over a written file** gives the records of its lines, and ends. -/
theorem runs_of_linesLeft (hlines : List.Forall₂ (ReadsAs schema) lines records) (id : Nat)
    (file : Text) (h : s.LinesLeft id lines) :
    ∃ s', Runs (jsonLines id file schema).step s records none s' ∧ s'.LinesLeft id [] := by
  induction hlines generalizing s with
  | nil =>
    obtain ⟨s', hstep, h'⟩ := step_of_linesLeft_nil h file schema
    exact ⟨s', .ended hstep, h'⟩
  | cons hline _ ih =>
    obtain ⟨members, rfl, hspell, hnumbers, hrecord⟩ := hline
    obtain ⟨s₁, hstep, h₁⟩ := step_of_linesLeft h hspell hnumbers hrecord file
    obtain ⟨s', hruns, h'⟩ := ih h₁
    exact ⟨s', .more hstep hruns, h'⟩

/-- **Opening a written file** gives a reader of the schema that its first line was written for. -/
theorem openFile_written {place : Place} (hnumbered : ∀ id ∈ s.closed, id < s.next)
    (hfind : s.files.find file = .ok place)
    (hplain : ∀ line ∈ (Json.obj members).written :: lines, ∀ c ∈ line, IsPlain c)
    (hbytes : s.files.bytesAt place =
      (String.ofList (textOfLines ((Json.obj members).written :: lines))).toUTF8)
    (hspell : (Json.obj members).Spellable) (hnumbers : (Json.obj members).NumbersReadBack)
    (hschema : Schema.ofJson s.next (.obj members) = .ok schema) :
    ∃ id s', openFile file s = .ok (.jsonLines id file schema) s' ∧ s'.LinesLeft id lines := by
  have hlines := splitLines_textOfLines hplain
  have hcontent : contentLines _ = _ := congrArg (numberedFrom 1) hlines
  rw [List.map_cons, numberedFrom_line] at hcontent
  obtain ⟨id, s', hopen, hreading⟩ := openFile_of_holds hnumbered hfind hbytes hcontent
    (Json.parse_line hspell hnumbers) hschema
  exact ⟨id, s', hopen, _, hreading⟩

end Reader

/-! ## Writing and reading back -/

theorem join_map_lines : ∀ lines : List (List Char),
    String.join (lines.map fun line ↦ String.ofList (line ++ ['\n'])) =
      String.ofList (textOfLines lines)
  | [] => rfl
  | line :: lines => by
    rw [List.map_cons, String.join_cons, join_map_lines lines, ← String.ofList_append, textOfLines,
      textOfLines, List.flatMap_cons]

/-- What is written for the numbers and the geometries of a record is read as these. -/
structure Record.PartsReadBack (r : Record) : Prop where
  numbers : ∀ f v, r.form = .ok f → f.value? = some v → v.NumbersReadBack
  geometries : ∀ g, r.HasGeometry g → g.ReadBack

/-- The line of a record that was read. -/
theorem Record.exists_readable_line {a : Schema} {data : Json} {r : Record}
    (hdata : data.Spellable) (huser : Record.HasUsualUserData data)
    (hread : Record.ofJson a data = .ok r) (hparts : r.PartsReadBack) (origin : Nat) :
    ∃ line, Reader.ReadsAs (a.withOrigin origin) line (r.withOrigin origin) ∧
      Writer.recordLine r = .ok (String.ofList (line ++ ['\n'])) := by
  obtain ⟨f, members, hf, hvalue, hspell, hback⟩ :=
    Record.exists_form_withOrigin hdata huser hread hparts.geometries origin
  have hnumbers : (Json.obj members).NumbersReadBack := hparts.numbers f _ hf hvalue
  have htoJson := Record.toJson_of_form hf hvalue (Json.isPrintable_of_numbers hnumbers)
  refine ⟨(Json.obj members).written, ⟨members, rfl, hspell, hnumbers, hback⟩, ?_⟩
  rw [Writer.recordLine, Record.line_eq, htoJson, Json.print_line]
  rfl

theorem exists_lines {a : Schema} (origin : Nat) : ∀ {records : List Record},
    (∀ r ∈ records, ∃ data : Json, data.Spellable ∧ Record.HasUsualUserData data ∧
      Record.ofJson a data = .ok r) → (∀ r ∈ records, r.PartsReadBack) →
      ∃ lines, List.Forall₂ (Reader.ReadsAs (a.withOrigin origin)) lines
          (records.map (·.withOrigin origin)) ∧
        Writer.Lines records (lines.map fun line ↦ String.ofList (line ++ ['\n']))
  | [], _, _ => ⟨[], .nil, .nil⟩
  | r :: records, hread, hparts => by
    obtain ⟨⟨data, hdata, huser, hr⟩, hread⟩ := List.forall_mem_cons.mp hread
    obtain ⟨hrparts, hparts⟩ := List.forall_mem_cons.mp hparts
    obtain ⟨line, hline, hrecordLine⟩ :=
      Record.exists_readable_line hdata huser hr hrparts origin
    obtain ⟨lines, hlines, hrecordLines⟩ := exists_lines origin hread hparts
    exact ⟨line :: lines, .cons hline hlines, .cons hrecordLine hrecordLines⟩

/-- A file that was written for some records, the lines of which are read as others. -/
theorem exists_file {readers : List Reader} {s : Store} (h : Family readers s) {origin : Nat}
    {v : Json} {a : Schema} (hv : v.Spellable) (ha : Schema.ofJson origin v = .ok a)
    (hregular : a.Regular) (hnumbers : a.toJson.NumbersReadBack) {records others : List Record}
    {lines : List (List Char)}
    (hlines : List.Forall₂ (Reader.ReadsAs (a.withOrigin s.next)) lines others)
    (hrecordLines : Writer.Lines records (lines.map fun line ↦ String.ofList (line ++ ['\n'])))
    {path : Text} {place : Place} {fs : Files}
    (hcreate : s.files.create path = .ok (place, fs)) :
    ∃ w w' s₁ s₂ text head,
      Writer.writeAll records (.new path a, s) = .ok records.length (w, s₁) ∧
      Writer.close (w, s₁) = .ok () (w', s₂) ∧
      s₂.files.find path = .ok place ∧ s₂.files.bytesAt place = text.toUTF8 ∧
      Writer.schemaLine a = .ok head ∧
      splitLines text = head :: lines.map (fun line ↦ String.ofList (line ++ ['\n'])) ∧
      ∃ reader s₃ s₄, Reader.openFile path s₂ = .ok reader s₃ ∧
        reader.outSchema = a.withOrigin s.next ∧ Runs reader.step s₃ others none s₄ ∧
        reader.next.outcome s₄ = .error (.exhausted (some path)) := by
  have hhead := Writer.schemaLine_of_isPrintable (Json.isPrintable_of_numbers hnumbers)
  obtain ⟨hspell, hschema⟩ := Schema.ofJson_toJson hv ha hregular s.next
  obtain ⟨members, hmembers⟩ : ∃ members, a.toJson = .obj members := ⟨_, rfl⟩
  rw [hmembers] at hspell hschema hnumbers
  -- the text of the file, and its lines
  rw [hmembers, ← Json.print_line] at hhead
  have htext : String.ofList ((Json.obj members).written ++ ['\n']) ++
      String.join (lines.map fun line ↦ String.ofList (line ++ ['\n'])) =
        String.ofList (textOfLines ((Json.obj members).written :: lines)) := by
    rw [← join_map_lines, List.map_cons, String.join_cons]
  have hplain : ∀ line ∈ (Json.obj members).written :: lines, ∀ c ∈ line, IsPlain c := by
    refine List.forall_mem_cons.mpr ⟨fun c ↦ Json.isPlain_of_mem_written, fun line hline c hc ↦ ?_⟩
    obtain ⟨r, -, members, rfl, -⟩ := exists_of_mem_of_forall₂ hlines.flip hline
    exact Json.isPlain_of_mem_written hc
  -- the writer, and the reader of what it has left
  obtain ⟨w, s₁, hwrite, hw, htouches₁⟩ := (Writer.stands_new hcreate hhead).writeAll hrecordLines
  obtain ⟨w', s₂, hclose, hhas, hbytes, -, htouches₂⟩ := hw.close
  have htouches := htouches₁.trans htouches₂
  have hfind := Files.find_of_create hcreate htouches.changed hhas
  rw [htext] at hbytes
  have hrest := htouches.rest
  have hnext : s₂.next = s.next := by rw [hrest]
  have hclosed : s₂.closed = s.closed := by rw [hrest]
  obtain ⟨id, s₃, hopen, hleft⟩ := Reader.openFile_written
    (by rw [hclosed, hnext]; exact h.sound.closed_numbered) hfind hplain hbytes hspell hnumbers
    (by rw [hnext]; exact hschema)
  obtain ⟨s₄, hruns, hend⟩ := Reader.runs_of_linesLeft hlines id path hleft
  exact ⟨w, w', s₁, s₂, _, _, hwrite, hclose, hfind, hbytes, hhead,
    (splitLines_textOfLines hplain).trans (List.map_cons ..), _, s₃, s₄, hopen, rfl, hruns,
    Reader.next_of_linesLeft_nil hend path _⟩

/-- **Files are read back as they were written.** Given are a schema `a` that was read, with text
for names and whole numbers or none for upper bounds, records that were read under it, and a path
where a file can be made. In the texts that schema and records were read from, no high half of a
surrogate pair stands directly before a low one. What is written for the numbers and the geometries
in them is taken to be read back as these.

A writer that is given the records and closed writes all of them. The file has one line for the
schema and one for each record, whatever the texts in them hold. A reader of it is made, with the
same schema, reference systems included; iterating over it gives the same records in the same order
and ends; and from then on it is exhausted. Only the stamps of the descriptors differ, since every
reader makes descriptors of its own. -/
theorem read_written {readers : List Reader} {s : Store} (h : Family readers s) {origin : Nat}
    {v : Json} {a : Schema} (hv : v.Spellable) (ha : Schema.ofJson origin v = .ok a)
    (hregular : a.Regular) {records : List Record}
    (hrecords : ∀ r ∈ records, ∃ data : Json, data.Spellable ∧ Record.HasUsualUserData data ∧
      Record.ofJson a data = .ok r)
    (hnumbers : a.toJson.NumbersReadBack) (hparts : ∀ r ∈ records, r.PartsReadBack) {path : Text}
    {place : Place} {fs : Files} (hcreate : s.files.create path = .ok (place, fs)) :
    ∃ w w' s₁ s₂ text head lines,
      Writer.writeAll records (.new path a, s) = .ok records.length (w, s₁) ∧
      Writer.close (w, s₁) = .ok () (w', s₂) ∧
      s₂.files.find path = .ok place ∧ s₂.files.bytesAt place = text.toUTF8 ∧
      Writer.schemaLine a = .ok head ∧ Writer.Lines records lines ∧
      splitLines text = head :: lines ∧ (splitLines text).length = 1 + records.length ∧
      ∃ reader s₃ s₄, Reader.openFile path s₂ = .ok reader s₃ ∧
        reader.outSchema = a.withOrigin s.next ∧
        Runs reader.step s₃ (records.map (·.withOrigin s.next)) none s₄ ∧
        reader.next.outcome s₄ = .error (.exhausted (some path)) := by
  obtain ⟨lines, hlines, hrecordLines⟩ := exists_lines s.next hrecords hparts
  obtain ⟨w, w', s₁, s₂, text, head, hwrite, hclose, hfind, hbytes, hhead, hsplit, hreader⟩ :=
    exists_file h hv ha hregular hnumbers hlines hrecordLines hcreate
  refine ⟨w, w', s₁, s₂, text, head, _, hwrite, hclose, hfind, hbytes, hhead, hrecordLines, hsplit,
    ?_, hreader⟩
  rw [hsplit, List.length_cons, ← hrecordLines.length_eq, Nat.add_comm]

/-- A record with line ends, a quote and a line separator in its texts takes one line. -/
theorem read_written_line_ends :
    ∃ (s s₁ s₂ s₃ s₄ : Store) (a : Schema) (r : Record) (w w' : Writer) (place : Place)
      (text head line : String) (reader : Reader),
      r.id = .str "a\r\nb" ∧ r.userData = [(.str "\u2028", .str "\"")] ∧
      Writer.writeAll [r] (.new (.ofString "out") a, s) = .ok 1 (w, s₁) ∧
      Writer.close (w, s₁) = .ok () (w', s₂) ∧ s₂.files.bytesAt place = text.toUTF8 ∧
      Writer.schemaLine a = .ok head ∧ splitLines text = [head, line] ∧
      Reader.openFile (.ofString "out") s₂ = .ok reader s₃ ∧
      Runs reader.step s₃ [r.withOrigin s.next] none s₄ := by
  let v : Json := .obj [("name", .str "row"), ("attributes", .arr [.obj [("name", .str "n")]])]
  let d : Descriptor := .scalar { stamp := ⟨0, [0]⟩, name := .str "n", binding := .text }
  let a : Schema := ⟨.str "row", [d], none⟩
  let data : Json := .obj [("id", .str "a\r\nb"), ("properties", .obj [("n", .int 7)]),
    ("user_data", .obj [("\u2028", .str "\"")])]
  let r : Record :=
    .make a (.str "a\r\nb") [.scalar d (.json (.int 7))] [(.str "\u2028", .str "\"")]
  have ha : Schema.ofJson 0 v = .ok a := rfl
  have hv : v.Spellable := by
    refine .of_keys ["name", "attributes"] (by decide) (List.Sublist.refl _) ?_
    refine List.forall_mem_cons.mpr ⟨.str (Text.spellable_ofString _), ?_⟩
    refine List.forall_mem_singleton.mpr (.arr (List.forall_mem_singleton.mpr ?_))
    exact .single "name" (.str (Text.spellable_ofString _))
  have hdata : data.Spellable := by
    refine .of_keys ["id", "properties", "user_data"] (by decide) (List.Sublist.refl _) ?_
    refine List.forall_mem_cons.mpr ⟨.str (Text.spellable_ofString _), ?_⟩
    refine List.forall_mem_cons.mpr ⟨?_, List.forall_mem_singleton.mpr ?_⟩
    · exact .single "n" (.int 7)
    · exact .single "\u2028" (.str (Text.spellable_ofString _))
  have huser : Record.HasUsualUserData data := by
    intro members hmembers w hw
    obtain rfl := Json.obj.inj hmembers
    exact .inr ⟨_, (Option.some.inj hw).symm⟩
  have hregular : a.Regular :=
    ⟨rfl, List.forall_mem_singleton.mpr (.scalar ⟨rfl, .inr ⟨1, rfl⟩⟩)⟩
  have htext (t : Text) := Json.numbersReadBack_str t
  have hseven : (Json.int 7).NumbersReadBack := by
    rintro _ ⟨⟩
    rfl
  have hnumbers : a.toJson.NumbersReadBack := by
    refine Json.numbersReadBack_obj.mpr (List.forall_mem_cons.mpr ⟨htext _, ?_⟩)
    refine List.forall_mem_singleton.mpr (Json.numbersReadBack_arr.mpr ?_)
    refine List.forall_mem_singleton.mpr (Json.numbersReadBack_obj.mpr ?_)
    exact List.forall_mem_cons.mpr ⟨htext _, List.forall_mem_singleton.mpr (htext _)⟩
  have hparts : r.PartsReadBack := by
    refine ⟨fun f j hf hj ↦ ?_, fun g ⟨b, hb, hg⟩ ↦ ?_⟩
    · obtain rfl := Except.ok.inj hf
      obtain rfl := Option.some.inj hj
      refine Json.numbersReadBack_obj.mpr (List.forall_mem_cons.mpr ⟨htext _, ?_⟩)
      refine List.forall_mem_cons.mpr ⟨?_, List.forall_mem_singleton.mpr ?_⟩
      · exact Json.numbersReadBack_obj.mpr (List.forall_mem_singleton.mpr hseven)
      · exact Json.numbersReadBack_obj.mpr (List.forall_mem_singleton.mpr (htext _))
    · obtain rfl := List.mem_singleton.mp hb
      cases hg with
      | here h => cases h
      | child hc => cases hc
  have hcreate : (Store.initial .empty).files.create (.ofString "out") = .ok (_, _) := rfl
  obtain ⟨w, w', s₁, s₂, text, head, lines, hwrite, hclose, -, hbytes, hhead, hlines, hsplit, -,
    reader, s₃, s₄, hopen, -, hruns, -⟩ := read_written (.empty .empty) hv ha hregular
      (List.forall_mem_singleton.mpr ⟨data, hdata, huser, rfl⟩) hnumbers
      (List.forall_mem_singleton.mpr hparts) hcreate
  obtain ⟨line, rfl⟩ : ∃ line, lines = [line] := List.length_eq_one_iff.mp hlines.length_eq.symm
  exact ⟨_, s₁, s₂, s₃, s₄, a, r, w, w', _, text, head, line, reader, rfl, rfl, hwrite, hclose,
    hbytes, hhead, hsplit, hopen, hruns⟩

/-- The two halves of a surrogate pair, directly after each other, are written as the one character
that the pair stands for, and this is what is read back. -/
theorem read_written_halves :
    ∃ (s s₁ s₂ s₃ s₄ : Store) (v data : Json) (a : Schema) (r r' : Record) (w w' : Writer)
      (place : Place) (fs : Files) (reader : Reader),
      v.Spellable ∧ Schema.ofJson 0 v = .ok a ∧ a.Regular ∧ a.toJson.NumbersReadBack ∧
      Record.HasUsualUserData data ∧ Record.ofJson a data = .ok r ∧ r.PartsReadBack ∧
      s.files.create (.ofString "out") = .ok (place, fs) ∧
      Writer.writeAll [r] (.new (.ofString "out") a, s) = .ok 1 (w, s₁) ∧
      Writer.close (w, s₁) = .ok () (w', s₂) ∧
      Reader.openFile (.ofString "out") s₂ = .ok reader s₃ ∧
      Runs reader.step s₃ [r'] none s₄ ∧
      r.id = .str ⟨[.surrogate 0x3d, .surrogate 0x600]⟩ ∧ r'.id = .str "😀" := by
  let v : Json := .obj [("name", .str "row")]
  let a : Schema := ⟨.str "row", [], none⟩
  let halves : Text := ⟨[.surrogate 0x3d, .surrogate 0x600]⟩
  let data (id : Text) : Json := .obj [("id", .str id), ("properties", .obj [])]
  let r : Record := .make a (.str halves) [] []
  let r' : Record := .make (a.withOrigin 0) (.str "😀") [] []
  have hv : v.Spellable := .single "name" (.str (Text.spellable_ofString _))
  have hregular : a.Regular := ⟨rfl, List.forall_mem_nil _⟩
  have huser : Record.HasUsualUserData (data halves) := by
    intro members hmembers w hw
    obtain rfl := Json.obj.inj hmembers
    cases hw
  have htexts : ∀ id, (data id).NumbersReadBack := fun id ↦
    Json.numbersReadBack_obj.mpr (List.forall_mem_cons.mpr ⟨Json.numbersReadBack_str _,
      List.forall_mem_singleton.mpr (Json.numbersReadBack_obj.mpr (List.forall_mem_nil _))⟩)
  have hnumbers : a.toJson.NumbersReadBack :=
    Json.numbersReadBack_obj.mpr (List.forall_mem_cons.mpr ⟨Json.numbersReadBack_str _,
      List.forall_mem_singleton.mpr (Json.numbersReadBack_arr.mpr (List.forall_mem_nil _))⟩)
  have hparts : r.PartsReadBack := by
    refine ⟨fun f j hf hj ↦ ?_, fun g ⟨b, hb, _⟩ ↦ absurd hb List.not_mem_nil⟩
    obtain rfl := Except.ok.inj hf
    obtain rfl := Option.some.inj hj
    exact htexts halves
  have hspell : (data "😀").Spellable := by
    refine .of_keys ["id", "properties"] (by decide) (List.Sublist.refl _) ?_
    refine List.forall_mem_cons.mpr ⟨.str (Text.spellable_ofString _), ?_⟩
    exact List.forall_mem_singleton.mpr .empty
  -- the line that is written for the halves is that of the character
  have hsame : (data halves).written = (data "😀").written := by decide
  have hline : Writer.recordLine r = .ok (String.ofList ((data "😀").written ++ ['\n'])) := by
    rw [← hsame, Json.print_line]
    rfl
  have hcreate : (Store.initial .empty).files.create (.ofString "out") = .ok (_, _) := rfl
  have ha : Schema.ofJson 0 v = .ok a := rfl
  have hread : Reader.ReadsAs (a.withOrigin 0) (data "😀").written r' :=
    ⟨_, rfl, hspell, htexts _, rfl⟩
  obtain ⟨w, w', s₁, s₂, text, head, hwrite, hclose, -, -, -, -, reader, s₃, s₄, hopen, -, hruns,
    -⟩ := exists_file (.empty .empty) hv ha hregular hnumbers (.cons hread .nil)
      (.cons hline .nil) hcreate
  exact ⟨_, s₁, s₂, s₃, s₄, v, data halves, a, r, r', w, w', _, _, reader, hv, rfl, hregular,
    hnumbers, huser, rfl, hparts, hcreate, hwrite, hclose, hopen, hruns, rfl, rfl⟩

end GeoStream
