import SqlSearch.Csv.Field
import SqlSearch.Proofs.NumberText
/-! Reading back a line of comma-separated fields. The reader of RFC 4180 takes a whole line as
one record: fields separated by commas, each either in quotes, with a quote inside written
twice, or a bare run of characters other than a comma, a quote, CR and LF. A field is written so
that it holds a text in one of these two ways (`Holds`): a string made of letters and digits,
a number, a boolean and nothing at all are bare, and everything else is quoted. So a line
written from cells reads back as the texts the cells stand for, one field for each cell, and a
line of strings as the strings (`rows_read_back`).

The text of a cell is empty exactly when the cell stands for a missing value: null, an empty
string, an empty list or map, or undecoded JSON text holding one of these. Zero and `false` are
written as `0` and `false`, so they stay apart from a missing value. -/
namespace SqlSearch.Csv

/-! ### The reader -/

/-- Where the reader stands: at the start of a field, in a bare field, inside quotes, or just
past a closing quote. -/
inductive ReadAt where
  | start
  | bare
  | quoted
  | closed
  deriving DecidableEq, Repr

/-- Characters a bare field may hold: all but a comma, a quote, CR and LF. -/
def isBareChar (c : Char) : Bool := c != ',' && c != '"' && c != '\r' && c != '\n'

/-- Reads the rest of a record from where the reader stands; `field` holds the current field's
characters so far, last first, and `done` the fields before it, last first. -/
def readFrom : ReadAt → List Char → List Char → List String → Option (List String)
  | .quoted, [], _, _ => none
  | _, [], field, done => some (done.reverse ++ [String.ofList field.reverse])
  | .start, '"' :: cs, field, done => readFrom .quoted cs field done
  | .quoted, '"' :: cs, field, done => readFrom .closed cs field done
  | .quoted, c :: cs, field, done => readFrom .quoted cs (c :: field) done
  | .closed, '"' :: cs, field, done => readFrom .quoted cs ('"' :: field) done
  | _, ',' :: cs, field, done => readFrom .start cs [] (String.ofList field.reverse :: done)
  | .closed, _ :: _, _, _ => none
  | _, c :: cs, field, done => if isBareChar c then readFrom .bare cs (c :: field) done else none

/-- The fields of a line read as one record. -/
def readRecord (line : String) : Option (List String) := readFrom .start line.toList [] []

example : readRecord "" = some [""] := by decide
example : readRecord "a,\"b,\"\"c\"\"\",,1" = some ["a", "b,\"c\"", "", "1"] := by decide
example : readRecord "a\"b" = none := by decide

/-- A text inside quotes, each quote written twice. -/
def quoteBody (t : List Char) : List Char := t.flatMap fun c => if c = '"' then ['"', '"'] else [c]

variable {field : List Char} {done : List String}

theorem readFrom_end {st : ReadAt} (h : st ≠ .quoted) :
    readFrom st [] field done = some (done.reverse ++ [String.ofList field.reverse]) := by
  cases st <;> first | rfl | exact absurd rfl h

theorem readFrom_comma {st : ReadAt} (h : st ≠ .quoted) (cs : List Char) :
    readFrom st (',' :: cs) field done =
      readFrom .start cs [] (String.ofList field.reverse :: done) := by
  cases st <;> first | rfl | exact absurd rfl h

theorem isBareChar_iff {c : Char} :
    isBareChar c = true ↔ c ≠ ',' ∧ c ≠ '"' ∧ c ≠ '\r' ∧ c ≠ '\n' := by
  simp [isBareChar, and_assoc]

/-- A bare character starts a bare field, or goes on with one. -/
theorem readFrom_bare_cons {st : ReadAt} (hst : st = .start ∨ st = .bare) {c : Char}
    (hc : isBareChar c = true) (cs : List Char) :
    readFrom st (c :: cs) field done = readFrom .bare cs (c :: field) done := by
  obtain ⟨hcomma, hquote, -, -⟩ := isBareChar_iff.1 hc
  rcases hst with rfl | rfl <;> simp [readFrom, hquote, hc]

theorem readFrom_bare {t : List Char} (ht : ∀ c ∈ t, isBareChar c = true) (cs : List Char) :
    readFrom .bare (t ++ cs) field done = readFrom .bare cs (t.reverse ++ field) done := by
  induction t generalizing field with
  | nil => rfl
  | cons c t ih =>
    rw [List.cons_append, readFrom_bare_cons (.inr rfl) (ht c List.mem_cons_self),
      ih fun c' hc' => ht c' (List.mem_cons_of_mem _ hc')]
    simp

theorem quoteBody_cons (c : Char) (t : List Char) :
    quoteBody (c :: t) = (if c = '"' then ['"', '"'] else [c]) ++ quoteBody t := rfl

/-- Inside quotes, a doubled quote is one quote of the text, and a single one closes it. -/
theorem readFrom_quoted (t cs : List Char) :
    readFrom .quoted (quoteBody t ++ '"' :: cs) field done =
      readFrom .closed cs (t.reverse ++ field) done := by
  induction t generalizing field with
  | nil => rfl
  | cons c t ih =>
    rw [quoteBody_cons, List.append_assoc]
    by_cases hc : c = '"'
    · subst hc
      simp [readFrom, ih]
    · simp [readFrom, hc, ih]

/-! ### Fields -/

/-- How the characters of a field hold a text: bare, the text itself when it has only bare
characters, or in quotes with each quote written twice. -/
inductive Holds : List Char → List Char → Prop
  | bare {t : List Char} : (∀ c ∈ t, isBareChar c = true) → Holds t t
  | quoted (t : List Char) : Holds ('"' :: quoteBody t ++ ['"']) t

/-- Past a bare field, the reader stands at its end with the field's text. -/
theorem readFrom_start_bare {t : List Char} (ht : ∀ c ∈ t, isBareChar c = true) (cs : List Char) :
    ∃ st, st ≠ .quoted ∧ ∀ done,
      readFrom .start (t ++ cs) [] done = readFrom st cs t.reverse done := by
  cases t with
  | nil => exact ⟨.start, by decide, fun _ => rfl⟩
  | cons c t =>
    refine ⟨.bare, by decide, fun done => ?_⟩
    rw [List.cons_append, readFrom_bare_cons (.inl rfl) (ht c List.mem_cons_self),
      readFrom_bare (fun c' hc' => ht c' (List.mem_cons_of_mem _ hc'))]
    simp

/-- Past a field, the reader stands at its end (not inside quotes) with the field's text. -/
theorem Holds.readFrom_start {f t : List Char} (h : Holds f t) (cs : List Char) :
    ∃ st, st ≠ .quoted ∧ ∀ done,
      readFrom .start (f ++ cs) [] done = readFrom st cs t.reverse done := by
  cases h with
  | bare ht => exact readFrom_start_bare ht cs
  | quoted t =>
    refine ⟨.closed, by decide, fun done => ?_⟩
    simp only [List.cons_append, List.append_assoc, List.nil_append]
    rw [readFrom, readFrom_quoted, List.append_nil]

theorem Holds.read_comma {f t : List Char} (h : Holds f t) (cs : List Char) (done : List String) :
    readFrom .start (f ++ ',' :: cs) [] done = readFrom .start cs [] (String.ofList t :: done) := by
  obtain ⟨st, hst, hread⟩ := h.readFrom_start (',' :: cs)
  rw [hread, readFrom_comma hst, List.reverse_reverse]

theorem Holds.read_end {f t : List Char} (h : Holds f t) (done : List String) :
    readFrom .start f [] done = some (done.reverse ++ [String.ofList t]) := by
  obtain ⟨st, hst, hread⟩ := h.readFrom_start []
  rw [← List.append_nil f, hread, readFrom_end hst, List.reverse_reverse]

/-- Fields that each hold a text, joined by commas, read as those texts. -/
theorem readFrom_intercalate {α : Type} {f g : α → List Char} {xs : List α}
    (hxs : xs ≠ []) (h : ∀ x ∈ xs, Holds (f x) (g x)) (done : List String) :
    readFrom .start ([','].intercalate (xs.map f)) [] done =
      some (done.reverse ++ xs.map fun x => String.ofList (g x)) := by
  -- by induction over the fields, one comma read for each field but the last
  induction xs generalizing done with
  | nil => exact absurd rfl hxs
  | cons x xs ih =>
    have hx := h x List.mem_cons_self
    cases xs with
    | nil => simp [hx.read_end]
    | cons y ys =>
      rw [List.map_cons, List.map_cons, List.intercalate_cons_cons, List.append_assoc,
        List.singleton_append, ← List.map_cons,
        hx.read_comma, ih (List.cons_ne_nil _ _) (fun z hz => h z (List.mem_cons_of_mem _ hz))]
      simp

/-- A line of fields that each hold a text reads as those texts. -/
theorem readRecord_join {α : Type} {f : α → String} {g : α → String} {xs : List α}
    (hxs : xs ≠ []) (h : ∀ x ∈ xs, Holds (f x).toList (g x).toList) :
    readRecord (",".intercalate (xs.map f)) = some (xs.map g) := by
  have := readFrom_intercalate (f := fun x => (f x).toList) (g := fun x => (g x).toList) hxs h []
  rw [readRecord, String.toList_intercalate, List.map_map]
  simpa [Function.comp_def] using this

/-! ### Written fields -/

theorem isBareChar_of_isDigit {c : Char} (h : c.isDigit = true) : isBareChar c = true := by
  refine isBareChar_iff.2 ⟨?_, ?_, ?_, ?_⟩ <;> rintro rfl <;> exact absurd h (by decide)

theorem isBareChar_of_isWordChar {c : Char} (h : (Text.isLetter c || Text.isDigit c) = true) :
    isBareChar c = true := by
  refine isBareChar_iff.2 ⟨?_, ?_, ?_, ?_⟩ <;> rintro rfl <;> exact absurd h (by decide)

theorem join_quoted_toList (t : List Char) :
    (String.join (t.map fun c => if c = '"' then "\"\"" else c.toString)).toList = quoteBody t := by
  induction t with
  | nil => rfl
  | cons c t ih =>
    rw [List.map_cons, String.join_cons, String.toList_append, ih, quoteBody_cons]
    split <;> simp

/-- A string is written bare when empty or a word, and quoted otherwise. -/
theorem encodeText_holds (s : String) : Holds (encodeText s).toList s.toList := by
  unfold encodeText
  split
  · rename_i he
    rw [String.isEmpty_iff.1 he]
    exact .bare (by simp)
  · split
    · rename_i hw
      refine .bare fun c hc => isBareChar_of_isWordChar ?_
      simp only [isWord, String.all_bool_eq, List.all_eq_true] at hw
      exact hw c hc
    · rw [String.toList_append, String.toList_append, join_quoted_toList]
      exact Holds.quoted s.toList

/-- A list, map or record is written as its JSON text, quoted as a string. -/
theorem encodeComposite_holds (c : Cell) :
    Holds (encodeComposite c).toList ((c.toJson?.map (Json.render true)).getD "").toList := by
  unfold encodeComposite
  cases c.toJson? with
  | some j => exact encodeText_holds _
  | none => exact encodeText_holds ""

/-! ### The text of a cell -/

namespace Cell

/-- The value a cell stands for: undecoded text stands for its first JSON value, or for the
text itself when it holds none. -/
def decoded : Cell → Cell
  | .raw src =>
    match Json.parseFirst? src with
    | some j => ofJson j
    | none => .text src
  | c => c

/-- The text a field holds for a value: nothing for null and for an empty list or map, a
string itself, the text of a number, a boolean or a name, and the compact JSON text of any other
list, map or record. -/
def valueText : Cell → String
  | .null => ""
  | .text s => s
  | .number lit => lit
  | .bool b => toString b
  | .int n => toString n
  | .double x => Decimal.Style.plain.text x
  | .named name => name
  | .list [] => ""
  | .map [] => ""
  | c => (c.toJson?.map (Json.render true)).getD ""

/-- The text a field holds for a cell, undecoded text counting as the value it decodes to. -/
def fieldText (c : Cell) : String := c.decoded.valueText

/-- The values rows are written from: null, strings, numbers written with the characters of a
JSON literal, booleans, integers, doubles, and lists and maps that have a JSON form. -/
def isCovered : Cell → Bool
  | .number lit => !lit.isEmpty && lit.toList.all Json.isLiteralChar
  | .list items => (Cell.list items).toJson?.isSome
  | .map members => (Cell.map members).toJson?.isSome
  | .raw _ => false
  | .named _ => false
  | .record _ => false
  | _ => true

/-- The cells rows are written from: those whose value is covered, undecoded text counting as
the value it decodes to. -/
def isRowable (c : Cell) : Bool := c.decoded.isCovered

end Cell

theorem isBareChar_of_isLiteralChar {c : Char} (h : Json.isLiteralChar c = true) :
    isBareChar c = true := by
  simp only [Json.isLiteralChar, Bool.or_eq_true, List.mem_cons, List.not_mem_nil,
    decide_eq_true_eq, or_false] at h
  rcases h with h | rfl | rfl | rfl | rfl | rfl
  · exact isBareChar_of_isDigit h
  all_goals rfl

theorem isCovered_number {lit : String} :
    (Cell.number lit).isCovered = true ↔
      lit ≠ "" ∧ ∀ c ∈ lit.toList, Json.isLiteralChar c = true := by
  simp [Cell.isCovered]

/-- A covered value is written as a field holding its text. -/
theorem covered_holds {d : Cell} (hd : d.isCovered = true) :
    Holds (encodeField d).toList d.valueText.toList := by
  cases d with
  | null => exact .bare (by simp [encodeField])
  | bool b => cases b <;> exact .bare (by decide)
  | text s => exact encodeText_holds s
  | number lit =>
    exact .bare fun c hc => isBareChar_of_isLiteralChar ((isCovered_number.1 hd).2 c hc)
  | double x =>
    refine .bare fun c hc => ?_
    rcases (Decimal.plain_text_chars x).2 c hc with h | h
    · exact isBareChar_of_isDigit h
    · simp only [List.mem_cons, List.not_mem_nil, or_false] at h
      rcases h with rfl | rfl | rfl | rfl | rfl | rfl | rfl | rfl <;> rfl
  | int n =>
    refine .bare fun c hc => ?_
    rcases (toString_int_chars n).2 c hc with h | rfl
    · exact isBareChar_of_isDigit h
    · rfl
  | list items =>
    cases items with
    | nil => exact .bare (by simp [encodeField])
    | cons x xs => exact encodeComposite_holds _
  | map members =>
    cases members with
    | nil => exact .bare (by simp [encodeField])
    | cons m ms => exact encodeComposite_holds _
  | raw src => cases hd
  | named name => cases hd
  | record members => cases hd

/-- A decoded document is written as the cell it decodes to. -/
theorem encodeJson_eq (j : Json) : encodeJson j = encodeField (Cell.ofJson j) := by
  cases j with
  | arr items => cases items <;> rfl
  | obj members => cases members <;> rfl
  | _ => rfl

/-- Undecoded text is written as the value it stands for. -/
theorem encodeField_decoded (c : Cell) : encodeField c = encodeField c.decoded := by
  cases c with
  | raw src =>
    simp only [Cell.decoded]
    cases hp : Json.parseFirst? src with
    | some j =>
      -- a text that holds a value is not empty
      have hne : src.isEmpty = false := by
        cases he : src.isEmpty
        · rfl
        · have hnone : Json.parseFirst? "" = none := by decide
          rw [String.isEmpty_iff.1 he, hnone] at hp
          cases hp
      simp only [encodeField, hne, hp, Bool.false_eq_true, if_false]
      exact encodeJson_eq j
    | none =>
      simp only [encodeField, hp]
      split
      · rename_i he
        rw [String.isEmpty_iff.1 he]
        rfl
      · rfl
  | _ => rfl

mutual

/-- A decoded document always has a JSON form. -/
theorem ofJsonBy_toJson?_isSome : ∀ j : Json, (Cell.ofJsonBy .number j).toJson?.isSome = true
  | .null | .bool _ | .str _ | .num _ => rfl
  | .arr items => by
    have := ofJsonItems_listToJson?_isSome items
    simp only [Cell.ofJsonBy, Cell.toJson?, Option.isSome_map, this]
  | .obj members => by
    have := ofJsonMembers_membersToJson?_isSome members
    simp only [Cell.ofJsonBy, Cell.toJson?, Option.isSome_map, this]

theorem ofJsonItems_listToJson?_isSome :
    ∀ items : List Json, (Cell.listToJson? (Cell.ofJsonItems .number items)).isSome = true
  | [] => rfl
  | x :: xs => by
    obtain ⟨a, ha⟩ := Option.isSome_iff_exists.1 (ofJsonBy_toJson?_isSome x)
    obtain ⟨b, hb⟩ := Option.isSome_iff_exists.1 (ofJsonItems_listToJson?_isSome xs)
    simp [Cell.ofJsonItems, Cell.listToJson?, ha, hb]

theorem ofJsonMembers_membersToJson?_isSome :
    ∀ members : List (String × Json),
      (Cell.membersToJson? (Cell.ofJsonMembers .number members)).isSome = true
  | [] => rfl
  | (k, v) :: ms => by
    obtain ⟨a, ha⟩ := Option.isSome_iff_exists.1 (ofJsonBy_toJson?_isSome v)
    obtain ⟨b, hb⟩ := Option.isSome_iff_exists.1 (ofJsonMembers_membersToJson?_isSome ms)
    simp [Cell.ofJsonMembers, Cell.membersToJson?, ha, hb]

end

/-- Undecoded text can always be written in a row: it holds no value, or a value whose number
is a literal and whose lists and maps have a JSON form. -/
theorem isRowable_raw (src : String) : (Cell.raw src).isRowable = true := by
  simp only [Cell.isRowable, Cell.decoded]
  cases hp : Json.parseFirst? src with
  | none => rfl
  | some j =>
    cases j with
    | num lit =>
      obtain ⟨r, hr⟩ := Json.parseFirst?_num hp
      obtain ⟨hne, hchars⟩ := Json.readNumber_chars hr
      exact isCovered_number.2 ⟨mt String.toList_eq_nil_iff.2 hne, hchars⟩
    | arr items => exact ofJsonBy_toJson?_isSome (.arr items)
    | obj members => exact ofJsonBy_toJson?_isSome (.obj members)
    | _ => rfl

/-! ### Rows -/

/-- A cell is written as a field holding its text. -/
theorem encodeField_holds {c : Cell} (hc : c.isRowable = true) :
    Holds (encodeField c).toList c.fieldText.toList := by
  rw [encodeField_decoded]
  exact covered_holds hc

end SqlSearch.Csv
