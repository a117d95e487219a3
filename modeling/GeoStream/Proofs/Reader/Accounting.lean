import GeoStream.Proofs.Json.Numerals
import GeoStream.Proofs.Reader.Lines
import GeoStream.Proofs.Text.PlainLines
import Mathlib.Data.List.Forall2

/-!
# Every line of a record file

Whatever calls are made on an open reader of a file, and in whatever order, each line of the file is
used up by one call, in the order of the file, and each error says which line it is about.

A line that holds no object is used up by the first call that comes to it, also if that only looks
ahead. A line that holds an object stays when it is looked at, and is used up by the call that hands
out its record or the error of its record. A call therefore either uses up the first line that is
left, or finds an object there, or finds no line (`Meets`). The calls of a run account for the
lines when each of them does one of these with the lines that the calls before it have left
(`Accounts`).
-/

namespace GeoStream

/-! ## Calls and replies -/

/-- The calls that take a reader forward. -/
inductive Call where
  | hasNext
  | next
  | step
  deriving DecidableEq

/-- What a call comes to. -/
inductive Reply where
  /-- Whether there is another record. -/
  | found (more : Bool)
  | record (r : Record)
  /-- A step of iteration found no record. -/
  | ended
  | failed (e : Error)

namespace Call

/-- Carries out a call on a reader. -/
def on (r : Reader) : Call → Action Reply
  | .hasNext => do return .found (← r.hasNext)
  | .next => do return .record (← r.next)
  | .step => do
    match ← r.step with
    | some record => return .record record
    | none => return .ended

/-- The reply to a call. -/
def reply (call : Call) (r : Reader) (s : Store) : Reply :=
  match (call.on r).outcome s with
  | .ok reply => reply
  | .error e => .failed e

end Call

/-- Some calls in a row, each with its reply. -/
def Reader.trace (r : Reader) : List Call → Store → List (Call × Reply)
  | [], _ => []
  | call :: calls, s => (call, call.reply r s) :: r.trace calls ((call.on r).after s)

/-! ## Accounting for lines -/

section

variable (file : Text) (schema : Schema)

/-- A line is used up by a call with a reply. -/
inductive NumberedLine.UsedUp (l : NumberedLine) : Call → Reply → Prop where
  | refused {e : Error} (he : l.Refused file e) (call : Call) : UsedUp l call (.failed e)
  | record {members : Members} {r : Record} {call : Call} (hl : l.Holds members)
    (hcall : call ≠ .hasNext) (hr : Record.ofJson schema (.obj members) = .ok r) :
    UsedUp l call (.record r)
  | unreadable {members : Members} {e : Error} {call : Call} (hl : l.Holds members)
    (hcall : call ≠ .hasNext) (he : Record.ofJson schema (.obj members) = .error e) :
    UsedUp l call (.failed (l.located file e))

/-- What a call comes to when no line is left. -/
inductive AtEnd : Call → Reply → Prop where
  | hasNext : AtEnd .hasNext (.found false)
  | next : AtEnd .next (.failed (.exhausted (some file)))
  | step : AtEnd .step .ended

/-- A call with its reply, the lines that were left before it and those that are left after it. -/
inductive Meets : List NumberedLine → Call → Reply → List NumberedLine → Prop where
  | looked {l : NumberedLine} {lines : List NumberedLine} {members : Members}
    (hl : l.Holds members) : Meets (l :: lines) .hasNext (.found true) (l :: lines)
  | usedUp {l : NumberedLine} {lines : List NumberedLine} {call : Call} {reply : Reply}
    (h : l.UsedUp file schema call reply) : Meets (l :: lines) call reply lines
  | atEnd {call : Call} {reply : Reply} (h : AtEnd file call reply) : Meets [] call reply []

/-- Calls with their replies account for some lines but those that are left at the end. -/
inductive Accounts : List NumberedLine → List (Call × Reply) → List NumberedLine → Prop where
  | nil {lines : List NumberedLine} : Accounts lines [] lines
  | cons {lines lines' left : List NumberedLine} {call : Call} {reply : Reply}
    {trace : List (Call × Reply)} (h : Meets file schema lines call reply lines')
    (hs : Accounts lines' trace left) : Accounts lines ((call, reply) :: trace) left

end

variable {file : Text} {schema : Schema} {l : NumberedLine} {lines left : List NumberedLine}
  {trace : List (Call × Reply)} {id : Nat} {s : Store}

/-- **In order and exactly once.** The lines that are not left are used up one after another, each
by a call of its own. -/
theorem Accounts.usedUp (h : Accounts file schema lines trace left) :
    ∃ used answers, lines = used ++ left ∧ answers.Sublist trace ∧
      List.Forall₂ (fun (l : NumberedLine) (x : Call × Reply) ↦ l.UsedUp file schema x.1 x.2) used
        answers := by
  induction h with
  | nil => exact ⟨[], [], rfl, .slnil, .nil⟩
  | cons h hs ih =>
    obtain ⟨used, answers, hlines, hsub, hall⟩ := ih
    cases h with
    | looked hl => exact ⟨used, answers, hlines, hsub.cons _, hall⟩
    | atEnd h => exact ⟨used, answers, hlines, hsub.cons _, hall⟩
    | @usedUp l _ _ _ h =>
      refine ⟨l :: used, _ :: answers, ?_, hsub.cons_cons _, .cons h hall⟩
      rw [hlines, List.cons_append]

/-! ## Calls on a reader -/

namespace Call

variable {call : Call} {reader : Reader} {reply : Reply} {s' : Store} {e : Error}

theorem reply_of_ok (h : call.on reader s = .ok reply s') :
    call.reply reader s = reply ∧ (call.on reader).after s = s' := by
  rw [Call.reply, Action.outcome_of_ok h]
  exact ⟨rfl, Action.after_of_ok h⟩

theorem reply_of_error (h : call.on reader s = .error e s') :
    call.reply reader s = .failed e ∧ (call.on reader).after s = s' := by
  rw [Call.reply, Action.outcome_of_error h]
  exact ⟨rfl, Action.after_of_error h⟩

end Call

namespace Reader

variable {members : Members} {e : Error} {call : Call}

theorem on_of_refused (h : s.Reading id (l :: lines)) (he : l.Refused file e) (schema : Schema)
    (call : Call) :
    ∃ s', call.on (.jsonLines id file schema) s = .error e s' ∧ s'.Reading id lines := by
  cases call with
  | hasNext =>
    obtain ⟨s', hcall, h'⟩ := hasNext_of_refused h he schema
    exact ⟨s', Action.bind_of_error hcall _, h'⟩
  | next =>
    obtain ⟨s', hcall, h'⟩ := next_of_refused h he schema
    exact ⟨s', Action.bind_of_error hcall _, h'⟩
  | step =>
    obtain ⟨s', hcall, h'⟩ := step_of_refused h he schema
    exact ⟨s', Action.bind_of_error hcall _, h'⟩

theorem on_of_holds (h : s.Reading id (l :: lines)) (hl : l.Holds members) (file : Text)
    (schema : Schema) (hcall : call ≠ .hasNext) :
    ∃ s', call.on (.jsonLines id file schema) s =
        Action.ofExcept ((l.answer file schema members).map .record) s' ∧ s'.Reading id lines := by
  cases call with
  | hasNext => exact absurd rfl hcall
  | next =>
    obtain ⟨s', hnext, h'⟩ := next_of_holds h hl file schema
    refine ⟨s', ?_, h'⟩
    rw [Call.on, Action.bind_apply, hnext]
    cases l.answer file schema members <;> rfl
  | step =>
    obtain ⟨s', hstep, h'⟩ := step_of_holds h hl file schema
    refine ⟨s', ?_, h'⟩
    rw [Call.on, Action.bind_apply, hstep]
    cases l.answer file schema members <;> rfl

theorem on_of_ended (h : s.Reading id []) (file : Text) (schema : Schema) (call : Call) :
    AtEnd file call (call.reply (.jsonLines id file schema) s) ∧
      ((call.on (.jsonLines id file schema)).after s).Reading id [] := by
  cases call with
  | hasNext =>
    obtain ⟨s', hhasNext, h', -⟩ := hasNext_of_ended h file schema
    have hon : Call.hasNext.on (.jsonLines id file schema) s = .ok (.found false) s' :=
      Action.bind_of_ok hhasNext _
    obtain ⟨hreply, hafter⟩ := Call.reply_of_ok hon
    rw [hreply, hafter]
    exact ⟨.hasNext, h'⟩
  | next =>
    obtain ⟨s', hnext, h'⟩ := next_of_ended h file schema
    have hon : Call.next.on (.jsonLines id file schema) s = .error (.exhausted (some file)) s' :=
      Action.bind_of_error hnext _
    obtain ⟨hreply, hafter⟩ := Call.reply_of_error hon
    rw [hreply, hafter]
    exact ⟨.next, h'⟩
  | step =>
    obtain ⟨s', hstep, h'⟩ := step_of_ended h file schema
    have hon : Call.step.on (.jsonLines id file schema) s = .ok .ended s' :=
      Action.bind_of_ok hstep _
    obtain ⟨hreply, hafter⟩ := Call.reply_of_ok hon
    rw [hreply, hafter]
    exact ⟨.step, h'⟩

/-- **One call** looks at the first line that is left, or uses it up, or finds no line. -/
theorem meets (h : s.Reading id lines) (file : Text) (schema : Schema) (call : Call) :
    ∃ lines', Meets file schema lines call (call.reply (.jsonLines id file schema) s) lines' ∧
      ((call.on (.jsonLines id file schema)).after s).Reading id lines' := by
  cases lines with
  | nil =>
    obtain ⟨hreply, h'⟩ := on_of_ended h file schema call
    exact ⟨[], .atEnd hreply, h'⟩
  | cons l lines =>
    rcases l.record_cases file with ⟨members, hl, -⟩ | ⟨e, he, -⟩
    · by_cases hcall : call = .hasNext
      · subst hcall
        obtain ⟨s', hhasNext, h'⟩ := hasNext_of_holds h hl file schema
        have hon : Call.hasNext.on (.jsonLines id file schema) s = .ok (.found true) s' :=
          Action.bind_of_ok hhasNext _
        obtain ⟨hreply, hafter⟩ := Call.reply_of_ok hon
        rw [hreply, hafter]
        exact ⟨l :: lines, .looked hl, h'.reading⟩
      · obtain ⟨s', hon, h'⟩ := on_of_holds h hl file schema hcall
        rw [NumberedLine.answer] at hon
        cases hr : Record.ofJson schema (.obj members) with
        | ok r =>
          rw [hr] at hon
          obtain ⟨hreply, hafter⟩ := Call.reply_of_ok hon
          rw [hreply, hafter]
          exact ⟨lines, .usedUp (.record hl hcall hr), h'⟩
        | error e =>
          rw [hr] at hon
          obtain ⟨hreply, hafter⟩ := Call.reply_of_error hon
          rw [hreply, hafter]
          exact ⟨lines, .usedUp (.unreadable hl hcall hr), h'⟩
    · obtain ⟨s', hon, h'⟩ := on_of_refused h he schema call
      obtain ⟨hreply, hafter⟩ := Call.reply_of_error hon
      rw [hreply, hafter]
      exact ⟨lines, .usedUp (.refused he call), h'⟩

/-- **Calls in a row.** -/
theorem exists_accounts (h : s.Reading id lines) (file : Text) (schema : Schema)
    (calls : List Call) :
    ∃ left, Accounts file schema lines ((jsonLines id file schema).trace calls s) left := by
  induction calls generalizing s lines with
  | nil => exact ⟨lines, .nil⟩
  | cons call calls ih =>
    obtain ⟨lines', hmeets, h'⟩ := meets h file schema call
    obtain ⟨left, haccounts⟩ := ih h'
    exact ⟨left, .cons hmeets haccounts⟩

end Reader

/-! ## Errors with line numbers -/

/-- How an error about a line begins. -/
def lineLabel (file : Text) (number : Nat) : Text := file ++ ":" ++ intText number ++ ": "

theorem Text.append_assoc (a b c : Text) : a ++ b ++ c = a ++ (b ++ c) :=
  congrArg Text.mk (List.append_assoc a.points b.points c.points)

/-- A line that holds no object is refused with an error that blames the file, unless it has a whole
number of more digits than are read. -/
theorem NumberedLine.Refused.kind {e : Error} (h : l.Refused file e) :
    e.kind = .schemaIncompatible ∨ Json.parse l.text = .error .tooManyDigits := by
  cases h with
  | malformed | notObject => exact .inl rfl
  | tooManyDigits h => exact .inr h

/-- **The number in an error** is that of the line that it is about. -/
theorem NumberedLine.UsedUp.message {call : Call} {e : Error}
    (h : l.UsedUp file schema call (.failed e)) (hkind : e.kind = .schemaIncompatible) :
    ∃ rest, e.message = lineLabel file l.number ++ rest := by
  have hmalformed : (": invalid JSON: " : Text) = (": " : Text) ++ ("invalid JSON: " : Text) := rfl
  have hnotObject : (": expected a JSON object" : Text) =
    (": " : Text) ++ ("expected a JSON object" : Text) := rfl
  cases h with
  | refused he =>
    cases he with
    | @malformed flaw =>
      refine ⟨("invalid JSON: " : Text) ++ (flaw.text : Text), ?_⟩
      rw [Error.message, hmalformed, ← Text.append_assoc, Text.append_assoc]
      rfl
    | notObject =>
      refine ⟨("expected a JSON object" : Text), ?_⟩
      rw [Error.message, hnotObject, ← Text.append_assoc]
      rfl
    | tooManyDigits => cases hkind
  | @unreadable _ e _ _ _ he =>
    by_cases hcause : e.kind = .schemaIncompatible
    · rw [located, if_pos hcause]
      exact ⟨e.message, rfl⟩
    · rw [located, if_neg hcause] at hkind
      exact absurd hkind hcause

/-! ## Files of records -/

/-- **Every line is accounted for once, with its own number.** Given are a file that holds a text,
and a schema in its first line that is not blank; no reader is closed that has yet to be made.

A reader of the file is made. Whatever calls are made on it, the other lines that are not blank are
used up in order, each by one call; the calls that use up none find that the first line that is left
holds an object, or that there is none (`Accounts`). A line is the one with its number in the text,
blank lines counted, and every error about it that blames the file begins with that number. -/
theorem Reader.lines_accounted {place : Place} {text : String} {header : NumberedLine}
    {members : Members} (hnumbered : ∀ id ∈ s.closed, id < s.next)
    (hfind : s.files.find file = .ok place) (hbytes : s.files.bytesAt place = text.toUTF8)
    (hlines : contentLines text = header :: lines) (hheader : header.Holds members)
    (hschema : Schema.ofJson s.next (.obj members) = .ok schema) :
    ∃ id s', Reader.openFile file s = .ok (.jsonLines id file schema) s' ∧
      (∀ calls : List Call, ∃ used answers left,
        let trace := (Reader.jsonLines id file schema).trace calls s'
        Accounts file schema lines trace left ∧ lines = used ++ left ∧ answers.Sublist trace ∧
          List.Forall₂ (fun (l : NumberedLine) (x : Call × Reply) ↦
            l.UsedUp file schema x.1 x.2) used answers) ∧
      ∀ l ∈ lines, 1 ≤ l.number ∧ (splitLines text)[l.number - 1]? = some l.text ∧
        (∀ e, l.Refused file e →
          e.kind = .schemaIncompatible ∨ Json.parse l.text = .error .tooManyDigits) ∧
        (∀ call e, l.UsedUp file schema call (.failed e) → e.kind = .schemaIncompatible →
          ∃ rest, e.message = lineLabel file l.number ++ rest) := by
  obtain ⟨id, s', hopen, hreading⟩ :=
    openFile_of_holds hnumbered hfind hbytes hlines hheader hschema
  refine ⟨id, s', hopen, fun calls ↦ ?_, fun l hl ↦ ?_⟩
  · obtain ⟨left, haccounts⟩ := exists_accounts hreading file schema calls
    obtain ⟨used, answers, hused, hsub, hall⟩ := haccounts.usedUp
    exact ⟨used, answers, left, haccounts, hused, hsub, hall⟩
  · have hmem : l ∈ contentLines text := hlines ▸ List.mem_cons_of_mem header hl
    obtain ⟨hpos, hline⟩ := getElem?_of_mem_contentLines hmem
    exact ⟨hpos, hline, fun e he ↦ he.kind, fun call e h ↦ h.message⟩

/-- A file with blank lines, a list in its third line and a record in its fifth: a look ahead meets
the list, and the step after two more looks hands out the record. -/
theorem Reader.lines_accounted_blank :
    ∃ (s s' : Store) (id : Nat) (schema : Schema) (text : String) (l l' : NumberedLine),
      s.files.find (.ofString "f") = .ok [[0x66]] ∧ s.files.bytesAt [[0x66]] = text.toUTF8 ∧
      contentLines text = [⟨2, "\x7b\"name\": \"row\"\x7d\n"⟩, l, l'] ∧ l = ⟨3, "[1]\n"⟩ ∧
      l' = ⟨5, "\x7b\"id\": \"a\"\x7d\n"⟩ ∧
      Reader.openFile (.ofString "f") s = .ok (.jsonLines id (.ofString "f") schema) s' ∧
      ∃ left, Accounts (.ofString "f") schema [l, l']
        ((Reader.jsonLines id (.ofString "f") schema).trace
          [.hasNext, .hasNext, .hasNext, .step, .next] s') left := by
  let lines : List (List Char) :=
    [[], "\x7b\"name\": \"row\"\x7d".toList, "[1]".toList, [' '], "\x7b\"id\": \"a\"\x7d".toList]
  let text : String := .ofList (textOfLines lines)
  let s : Store := .initial ⟨[([[0x66]], text.toUTF8)], []⟩
  have hall : (lines.all fun line ↦ line.all fun c ↦ decide (IsPlain c)) = true := by decide
  have hplain : ∀ line ∈ lines, ∀ c ∈ line, IsPlain c := fun line hline ↦
    forall_mem_of_all (List.all_eq_true.mp hall line hline)
  have hlines : contentLines text =
      [⟨2, "\x7b\"name\": \"row\"\x7d\n"⟩, ⟨3, "[1]\n"⟩, ⟨5, "\x7b\"id\": \"a\"\x7d\n"⟩] := by
    rw [contentLines, splitLines_textOfLines hplain]
    rfl
  have hheader : Json.parse "\x7b\"name\": \"row\"\x7d\n" = .ok (.obj [("name", .str "row")]) := by
    cbv
  have hschema : Schema.ofJson 1 (.obj [("name", .str "row")]) = .ok ⟨.str "row", [], none⟩ := rfl
  have hnumbered : ∀ id ∈ s.closed, id < s.next := List.forall_mem_nil _
  have hfind : s.files.find (.ofString "f") = .ok [[0x66]] := rfl
  obtain ⟨id, s', hopen, hcalls, -⟩ :=
    Reader.lines_accounted hnumbered hfind rfl hlines hheader hschema
  obtain ⟨used, answers, left, haccounts, -⟩ :=
    hcalls [.hasNext, .hasNext, .hasNext, .step, .next]
  exact ⟨s, s', id, _, text, _, _, rfl, rfl, hlines, rfl, rfl, hopen, left, haccounts⟩

namespace Json

/-- Reading an object stops where reading the value of its first member does. -/
theorem scanMembers_error {fuel : Nat} {done : Members} {inner rest after : List Char} {name : Text}
    {e : Stop} (hname : scanString ('"' :: inner) 0 [] inner = .ok (name, rest))
    (hcolon : skipSpace rest = ':' :: after)
    (hvalue : scanValue fuel (skipSpace after) = .error e) :
    scanMembers (fuel + 1) done ('"' :: inner) = .error e := by
  rw [scanMembers, hname]
  dsimp only
  simp only [hcolon, hvalue]

/-- A line with an object whose first member is a whole number of more digits than are read. -/
theorem parse_tooManyDigits {ds : List Char} (hds : ∀ d ∈ ds, d.isDigit)
    (hlong : Numeral.mostDigits ≤ ds.length) :
    parse (String.ofList ("\x7b\"id\": 1".toList ++ (ds ++ "\x7d\n".toList))) =
      .error .tooManyDigits := by
  have hrest : Delimited "\x7d\n".toList := by
    rintro c ⟨⟩
    exact .inr (.inr (.inl rfl))
  have hnumber (start : List Char) :
      scanUnsigned start false ('1' :: (ds ++ "\x7d\n".toList)) = .error .tooManyDigits :=
    scanUnsigned_tooManyDigits hrest rfl (by decide) hds hlong
  generalize ds ++ "\x7d\n".toList = tail at hnumber
  have hname : scanString ('"' :: 'i' :: 'd' :: '"' :: ':' :: ' ' :: '1' :: tail) 0 []
      ('i' :: 'd' :: '"' :: ':' :: ' ' :: '1' :: tail) =
        .ok (⟨[.char 'i', .char 'd']⟩, ':' :: ' ' :: '1' :: tail) := rfl
  have hcolon : skipSpace (':' :: ' ' :: '1' :: tail) = ':' :: ' ' :: '1' :: tail := rfl
  have hvalue (fuel : Nat) : scanValue (fuel + 1) (skipSpace (' ' :: '1' :: tail)) =
      .error .tooManyDigits := hnumber ('1' :: tail)
  have hobject (fuel : Nat) :
      scanValue (fuel + 3) ('{' :: '"' :: 'i' :: 'd' :: '"' :: ':' :: ' ' :: '1' :: tail) =
        .error .tooManyDigits := scanMembers_error hname hcolon (hvalue fuel)
  have hlist : "\x7b\"id\": 1".toList ++ tail =
      '{' :: '"' :: 'i' :: 'd' :: '"' :: ':' :: ' ' :: '1' :: tail := rfl
  have hlength : 2 * ("\x7b\"id\": 1".toList ++ tail).length + 1 = 2 * tail.length + 14 + 3 := by
    rw [hlist]
    simp only [List.length_cons]
    omega
  have hskip : skipSpace ("\x7b\"id\": 1".toList ++ tail) = "\x7b\"id\": 1".toList ++ tail := rfl
  rw [parse, String.toList_ofList, scanText, hlength, hskip, hlist, hobject]
  rfl

end Json

/-- A line that holds an object with a whole number of more digits than are read: a look ahead uses
it up with an error that blames no line, and no call hands out its record. -/
theorem Reader.lines_accounted_long_number :
    ∃ (s s' s'' : Store) (id : Nat) (schema : Schema) (text : String) (ds : List Char)
      (l : NumberedLine),
      s.files.find (.ofString "f") = .ok [[0x66]] ∧ s.files.bytesAt [[0x66]] = text.toUTF8 ∧
      ds.length = Numeral.mostDigits ∧ (∀ d ∈ ds, d = '1') ∧
      l = ⟨2, .ofList ("\x7b\"id\": 1".toList ++ (ds ++ "\x7d\n".toList))⟩ ∧
      contentLines text = [⟨1, "\x7b\"name\": \"row\"\x7d\n"⟩, l] ∧
      Reader.openFile (.ofString "f") s = .ok (.jsonLines id (.ofString "f") schema) s' ∧
      (Reader.jsonLines id (.ofString "f") schema).hasNext s' =
        .error (.fault .wrongValue) s'' ∧
      (Reader.jsonLines id (.ofString "f") schema).next.outcome s'' =
        .error (.exhausted (some (.ofString "f"))) := by
  obtain ⟨ds, hlength, hone⟩ :
      ∃ ds : List Char, ds.length = Numeral.mostDigits ∧ ∀ d ∈ ds, d = '1' :=
    ⟨.replicate _ '1', List.length_replicate, fun d hd ↦ List.eq_of_mem_replicate hd⟩
  let lines : List (List Char) :=
    ["\x7b\"name\": \"row\"\x7d".toList, "\x7b\"id\": 1".toList ++ (ds ++ ['}'])]
  let text : String := .ofList (textOfLines lines)
  let s : Store := .initial ⟨[([[0x66]], text.toUTF8)], []⟩
  let l : NumberedLine := ⟨2, .ofList ("\x7b\"id\": 1".toList ++ (ds ++ "\x7d\n".toList))⟩
  have hplain : ∀ line ∈ lines, ∀ c ∈ line, IsPlain c := by
    refine List.forall_mem_cons.mpr
      ⟨forall_mem_of_all (by decide), List.forall_mem_singleton.mpr fun c hc ↦ ?_⟩
    simp only [List.mem_append] at hc
    rcases hc with hc | hc | hc
    · exact forall_mem_of_all (by decide) c hc
    · rw [hone c hc]
      decide
    · exact forall_mem_of_all (by decide) c hc
  have hparse : Json.parse l.text = .error .tooManyDigits :=
    Json.parse_tooManyDigits (fun d hd ↦ hone d hd ▸ rfl) hlength.ge
  have hlines : contentLines text = [⟨1, "\x7b\"name\": \"row\"\x7d\n"⟩, l] := by
    have hsecond : String.ofList ("\x7b\"id\": 1".toList ++ (ds ++ ['}']) ++ ['\n']) = l.text := by
      rw [List.append_assoc, List.append_assoc]
      rfl
    have hblank : l.text.toList.all isBlank = false := by
      rw [String.toList_ofList]
      rfl
    have hsplit : splitLines text = ["\x7b\"name\": \"row\"\x7d\n", l.text] := by
      rw [splitLines_textOfLines hplain, List.map_cons, List.map_cons, hsecond]
      rfl
    rw [contentLines, hsplit, numberedFrom_cons, if_neg (by decide), numberedFrom_cons, hblank]
    rfl
  have hheader : Json.parse "\x7b\"name\": \"row\"\x7d\n" = .ok (.obj [("name", .str "row")]) := by
    cbv
  have hschema : Schema.ofJson 1 (.obj [("name", .str "row")]) = .ok ⟨.str "row", [], none⟩ := rfl
  have hnumbered : ∀ id ∈ s.closed, id < s.next := List.forall_mem_nil _
  have hfind : s.files.find (.ofString "f") = .ok [[0x66]] := rfl
  obtain ⟨id, s', hopen, hreading⟩ :=
    openFile_of_holds hnumbered hfind rfl hlines hheader hschema
  obtain ⟨s'', hhasNext, hended⟩ := hasNext_of_refused hreading (.tooManyDigits hparse) _
  obtain ⟨_, hnext, -⟩ := next_of_ended hended (.ofString "f") ⟨.str "row", [], none⟩
  exact ⟨s, s', s'', id, _, text, ds, l, rfl, rfl, hlength, hone, rfl, hlines, hopen, hhasNext,
    Action.outcome_of_error hnext⟩

end GeoStream
