import Observatory.Document.Reader
import Observatory.Proofs.Document.Grammar

/-! # Reading well-formed texts

The machine is followed through the grammar, with any arrays and objects begun before and any text behind. Main
statement: a well-formed text is read as a document, and as the same one wherever a value may stand, by itself as
well as inside of arrays and objects that have begun.
-/

namespace Observatory.Document

open Text (joinWith)
open Text.Utf8 (asciiChar encode)

/-! ## Reading in parts -/

namespace Reader

/-- Tokens are taken one after the other. -/
theorem run_append (state : List Frame × Expectation) (tokens more : List Token) :
    run state (tokens ++ more) = (run state tokens).bind (run · more) := by
  induction tokens generalizing state with
  | nil => rfl
  | cons token rest ih =>
    obtain ⟨stack, expectation⟩ := state
    rw [List.cons_append, run, run]
    cases step stack expectation token with
    | none => rfl
    | some next => exact ih next

variable {lexeme later : Lexeme} {state : List Frame × Expectation} {byte : UInt8} {tokens : List Token}
  {token : Token} {text rest : List UInt8} {document : Document}

/-- Read on from some place. -/
def readFrom? (lexeme : Lexeme) (state : List Frame × Expectation) (text : List UInt8) : Option Document :=
  readAll? ⟨lexeme, state.1, state.2⟩ text

/-- To read a byte is to take the tokens that it completes. -/
theorem readFrom?_cons (lexed : lexeme.step? byte = some (tokens, later)) (state : List Frame × Expectation)
    (rest : List UInt8) :
    readFrom? lexeme state (byte :: rest) = (run state tokens).bind (readFrom? later · rest) := by
  rw [readFrom?, readAll?, feed?, lexed]
  cases ran : run state tokens with
  | none => simp [ran]
  | some next => simp [ran, readFrom?]

/-- A byte that completes no token. -/
theorem readFrom?_silent (lexed : lexeme.step? byte = some ([], later)) (state : List Frame × Expectation)
    (rest : List UInt8) : readFrom? lexeme state (byte :: rest) = readFrom? later state rest :=
  readFrom?_cons lexed state rest

/-- A byte that is a token by itself. -/
theorem readFrom?_token (lexed : Lexeme.step? .gap byte = some ([token], .gap)) (state : List Frame × Expectation)
    (rest : List UInt8) :
    readFrom? .gap state (byte :: rest) = (step state.1 state.2 token).bind (readFrom? .gap · rest) := by
  rw [readFrom?_cons lexed, run]
  cases step state.1 state.2 token <;> rfl

/-- Blanks between tokens are skipped. -/
theorem readFrom?_gap (gap : IsGap text) (state : List Frame × Expectation) (rest : List UInt8) :
    readFrom? .gap state (text ++ rest) = readFrom? .gap state rest := by
  induction text with
  | nil => rfl
  | cons byte more ih =>
    obtain ⟨blank, gap⟩ := List.forall_mem_cons.mp gap
    have lexed : Lexeme.step? .gap byte = some ([], .gap) := by fin_cases blank <;> rfl
    rw [List.cons_append, readFrom?_silent lexed, ih gap]

/-- What may stand right behind a value. -/
def delimiters : List UInt8 :=
  encode " \t\n\r,]\x7d".toList

/-- What follows does not go on with a number or a word. -/
def Ends (rest : List UInt8) : Prop :=
  ∀ byte, rest.head? = some byte → byte ∈ delimiters

theorem ends_of_isGap {gap : List UInt8} (blank : IsGap gap) (ends : Ends rest) : Ends (gap ++ rest) := by
  cases gap with
  | nil => exact ends
  | cons first more =>
    intro byte isFirst
    obtain rfl := Option.some.inj isFirst
    have known := blank first List.mem_cons_self
    fin_cases known <;> decide

/-- The end of a number or a word completes it. -/
theorem step?_of_ends (known : byte ∈ delimiters) (finished : lexeme.finish? = some tokens) :
    ∃ more, start? byte = some (more, .gap) ∧ lexeme.step? byte = some (tokens ++ more, .gap) := by
  have starts : ∃ more, start? byte = some (more, .gap) := by fin_cases known <;> exact ⟨_, rfl⟩
  obtain ⟨more, starts⟩ := starts
  refine ⟨more, starts, ?_⟩
  cases lexeme with
  | gap =>
    obtain rfl := Option.some.inj finished
    exact starts
  | string open_ => contradiction
  | number literal =>
    have stops : isNumberPart (Char.ofNat byte.toNat) = false := by fin_cases known <;> rfl
    simp [Lexeme.step?, stops, finished, starts]
  | word letters =>
    have stops : (Char.ofNat byte.toNat).isLower = false := by fin_cases known <;> rfl
    simp [Lexeme.step?, stops, finished, starts]

/-- A lexeme that is whole stands for its tokens. -/
theorem readFrom?_finished (finished : lexeme.finish? = some tokens) (state : List Frame × Expectation)
    (ends : Ends rest) : readFrom? lexeme state rest = (run state tokens).bind (readFrom? .gap · rest) := by
  cases rest with
  | nil =>
    rw [readFrom?, readAll?, finish?, finished]
    rfl
  | cons byte more =>
    obtain ⟨started, starts, stepped⟩ := step?_of_ends (ends byte rfl) finished
    rw [readFrom?_cons stepped, run_append, Option.bind_assoc]
    exact Option.bind_congr fun next _ => (@readFrom?_cons .gap .gap byte started starts next more).symm

/-! ## Values -/

/-- A value may come next. -/
def AwaitsValue (expectation : Expectation) : Prop :=
  expectation matches .value | .itemOrClose

/-- Wherever a value may stand, the text is read as the document. -/
def Reads (text : List UInt8) (document : Document) : Prop :=
  ∀ stack expectation rest, AwaitsValue expectation → Ends rest →
    readFrom? .gap (stack, expectation) (text ++ rest) = (complete stack document).bind (readFrom? .gap · rest)

/-- Where a value is expected, every token but a closing bracket begins one. -/
theorem step_of_awaitsValue {expectation : Expectation} (awaits : AwaitsValue expectation)
    (opens : token ≠ .arrayClose) (stack : List Frame) : step stack expectation token = beginValue stack token := by
  cases expectation with
  | value => rfl
  | itemOrClose =>
    cases token with
    | arrayClose => contradiction
    | _ => rfl
  | _ => contradiction

/-- A scalar is complete as soon as what follows ends it. -/
theorem reads_scalar (lexeme : Lexeme)
    (silent : ∀ state rest, readFrom? .gap state (text ++ rest) = readFrom? lexeme state rest)
    (finished : lexeme.finish? = some [.scalar document]) : Reads text document := by
  intro stack expectation rest awaits ends
  have opens : Token.scalar document ≠ .arrayClose := nofun
  rw [silent, readFrom?_finished finished _ ends, run, step_of_awaitsValue awaits opens, beginValue]
  cases complete stack document <;> rfl

/-- The three words are read. -/
theorem reads_word (known : text ∈ ["null", "true", "false"].map fun word => encode word.toList) :
    ∃ document, Reads text document := by
  fin_cases known
  · exact ⟨.null, reads_scalar (.word "llun".toList) (fun _ _ => rfl) rfl⟩
  · exact ⟨.bool true, reads_scalar (.word "eurt".toList) (fun _ _ => rfl) rfl⟩
  · exact ⟨.bool false, reads_scalar (.word "eslaf".toList) (fun _ _ => rfl) rfl⟩

theorem start?_number (first : (asciiChar byte).isDigit ∨ asciiChar byte = '-') :
    start? byte = some ([], .number [asciiChar byte]) := by
  rcases first with digit | minus
  · have differs (other : Char) (notDigit : other.isDigit = false) : (Char.ofNat byte.toNat == other) = false :=
      beq_false_of_ne (ne_of_isDigit digit other notDigit)
    have isDigit : (Char.ofNat byte.toNat).isDigit = true := digit
    simp [start?, differs ' ' rfl, differs '\t' rfl, differs '\n' rfl, differs '\r' rfl, differs '[' rfl,
      differs ']' rfl, differs '\x7b' rfl, differs '\x7d' rfl, differs ',' rfl, differs ':' rfl, differs '"' rfl,
      isDigit, asciiChar]
  · simp only [start?, show Char.ofNat byte.toNat = '-' from minus, minus]
    rfl

/-- The parts of a number are collected until it ends. -/
theorem readFrom?_number {literal : List Char} (parts : ∀ byte ∈ text, isNumberPart (asciiChar byte))
    (state : List Frame × Expectation) (rest : List UInt8) :
    readFrom? (.number literal) state (text ++ rest) =
      readFrom? (.number ((text.map asciiChar).reverse ++ literal)) state rest := by
  induction text generalizing literal with
  | nil => rfl
  | cons byte more ih =>
    obtain ⟨part, parts⟩ := List.forall_mem_cons.mp parts
    have lexed : Lexeme.step? (.number literal) byte = some ([], .number (asciiChar byte :: literal)) := if_pos part
    rw [List.cons_append, readFrom?_silent lexed, ih parts, List.map_cons, List.reverse_cons, List.append_assoc]
    rfl

/-- A number is read as it is spelled. -/
theorem reads_number (numeral : IsNumeral (text.map asciiChar)) : Reads text (.number (text.map asciiChar)) := by
  obtain ⟨parts, first, digits, begins, opens⟩ := numeral.parts
  cases text with
  | nil => exact absurd begins (List.cons_ne_nil first digits).symm
  | cons byte more =>
    obtain ⟨rfl, -⟩ := List.cons.inj begins
    obtain ⟨-, parts⟩ := List.forall_mem_cons.mp (List.forall_mem_map.mp parts)
    refine reads_scalar (.number ((byte :: more).map asciiChar).reverse) (fun state rest => ?_) ?_
    · have lexed : Lexeme.step? .gap byte = some ([], .number [asciiChar byte]) := start?_number opens
      rw [List.cons_append, readFrom?_silent lexed, readFrom?_number parts, List.map_cons, List.reverse_cons]
    · simp only [Lexeme.finish?, List.reverse_reverse, isNumber_of_isNumeral numeral, if_true]

/-! ## Strings -/

theorem place_pushUnit (open_ : OpenString) (unit : Nat) : (open_.pushUnit unit).place = .plain := by
  unfold OpenString.pushUnit
  split_ifs
  · rfl
  · cases open_.surrogate <;> rfl
  · rfl

theorem pushUnit_withPlace (open_ : OpenString) (place : StringPlace) (unit : Nat) :
    OpenString.pushUnit { open_ with place := place } unit = open_.pushUnit unit := by
  unfold OpenString.pushUnit
  split_ifs
  · rfl
  · cases open_.surrogate <;> rfl
  · rfl

/-- A byte at which a string goes on. -/
theorem readFrom?_inside {open_ next : OpenString} (stepped : open_.step byte = some (.inl next))
    (state : List Frame × Expectation) (rest : List UInt8) :
    readFrom? (.string open_) state (byte :: rest) = readFrom? (.string next) state rest := by
  have lexed : Lexeme.step? (.string open_) byte = some ([], .string next) := by
    rw [Lexeme.step?, stepped]
    rfl
  exact readFrom?_silent lexed state rest

section Parts

variable {open_ : OpenString} {digits : List UInt8}

/-- A byte that is not special is taken into the string as it is. -/
theorem readFrom?_plain (plain : open_.place = .plain) (printable : 0x20 ≤ byte) (notQuote : byte ≠ 0x22)
    (notEscape : byte ≠ 0x5C) (state : List Frame × Expectation) (rest : List UInt8) :
    readFrom? (.string open_) state (byte :: rest) = readFrom? (.string (open_.push [byte])) state rest := by
  apply readFrom?_inside
  simp [OpenString.step, plain, notQuote, notEscape, UInt8.not_lt.mpr printable]

theorem readFrom?_escape (plain : open_.place = .plain) (state : List Frame × Expectation) (rest : List UInt8) :
    readFrom? (.string open_) state (0x5C :: rest) = readFrom? (.string { open_ with place := .escape }) state rest := by
  apply readFrom?_inside
  rw [OpenString.step, plain]
  rfl

theorem readFrom?_short {c : Char} (plain : open_.place = .plain) (short : shortEscape? byte = some c)
    (notUnit : byte ≠ 0x75) (state : List Frame × Expectation) (rest : List UInt8) :
    readFrom? (.string open_) state (0x5C :: byte :: rest) = readFrom? (.string (open_.pushChar c)) state rest := by
  have stepped : OpenString.step { open_ with place := .escape } byte = some (.inl (open_.pushChar c)) := by
    rw [OpenString.step, if_neg notUnit, short]
    rfl
  rw [readFrom?_escape plain, readFrom?_inside stepped]

/-- The number that digits stand for, behind those that were read before. -/
def hexValue (value : Nat) (digits : List UInt8) : Nat :=
  (digits.filterMap hexDigit?).foldl (fun value digit => value * 16 + digit) value

/-- Hexadecimal digits make up a code unit, the first one being the highest. -/
theorem readFrom?_hex {left value : Nat} (count : digits.length = left + 1)
    (hex : ∀ digit ∈ digits, (hexDigit? digit).isSome) (place : open_.place = .hex left value)
    (state : List Frame × Expectation) (rest : List UInt8) :
    readFrom? (.string open_) state (digits ++ rest) =
      readFrom? (.string (open_.pushUnit (hexValue value digits))) state rest := by
  induction digits generalizing left value open_ with
  | nil => contradiction
  | cons byte more ih =>
    obtain ⟨known, hex⟩ := List.forall_mem_cons.mp hex
    obtain ⟨digit, isHex⟩ := Option.isSome_iff_exists.mp known
    have value_eq : hexValue value (byte :: more) = hexValue (value * 16 + digit) more := by
      rw [hexValue, List.filterMap_cons_some isHex]
      rfl
    cases left with
    | zero =>
      obtain rfl := List.eq_nil_of_length_eq_zero (Nat.succ.inj count)
      have stepped : open_.step byte = some (.inl (open_.pushUnit (value * 16 + digit))) := by
        rw [OpenString.step, place, isHex]
        rfl
      rw [value_eq]
      exact readFrom?_inside stepped state rest
    | succ left =>
      have stepped : open_.step byte = some (.inl { open_ with place := .hex left (value * 16 + digit) }) := by
        rw [OpenString.step, place, isHex]
        rfl
      rw [value_eq, List.cons_append, readFrom?_inside stepped, ih (Nat.succ.inj count) hex rfl, pushUnit_withPlace]

theorem readFrom?_unit (plain : open_.place = .plain) (four : digits.length = 4)
    (hex : ∀ digit ∈ digits, (hexDigit? digit).isSome) (state : List Frame × Expectation) (rest : List UInt8) :
    readFrom? (.string open_) state (0x5C :: 0x75 :: (digits ++ rest)) =
      readFrom? (.string (open_.pushUnit (hexValue 0 digits))) state rest := by
  have unit : OpenString.step { open_ with place := .escape } 0x75 =
      some (.inl { open_ with place := .hex 3 0 }) := rfl
  rw [readFrom?_escape plain, readFrom?_inside unit, readFrom?_hex four hex rfl, pushUnit_withPlace]

theorem isSome_hexDigit? (known : byte ∈ encode "0123456789ABCDEFabcdef".toList) : (hexDigit? byte).isSome := by
  have checked : ((encode "0123456789ABCDEFabcdef".toList).all fun digit => (hexDigit? digit).isSome) = true := by decide
  exact List.all_eq_true.mp checked byte known

/-- A string goes on after each of its parts. -/
theorem readFrom?_part (part : StringPart text) (plain : open_.place = .plain) :
    ∃ next : OpenString, next.place = .plain ∧
      ∀ state rest, readFrom? (.string open_) state (text ++ rest) = readFrom? (.string next) state rest := by
  cases part with
  | @plain byte printable notQuote notEscape =>
    exact ⟨open_.push [byte], rfl, readFrom?_plain plain printable notQuote notEscape⟩
  | @short byte known =>
    have short : ∃ c, shortEscape? byte = some c ∧ byte ≠ 0x75 := by fin_cases known <;> exact ⟨_, rfl, by decide⟩
    obtain ⟨c, short, notUnit⟩ := short
    exact ⟨open_.pushChar c, rfl, readFrom?_short plain short notUnit⟩
  | @unit digits four hex =>
    refine ⟨open_.pushUnit (hexValue 0 digits), place_pushUnit _ _, readFrom?_unit plain four ?_⟩
    exact fun digit member => isSome_hexDigit? (hex digit member)

end Parts

/-- After any number of parts the string is still open. -/
theorem readFrom?_parts {parts : List (List UInt8)} {open_ : OpenString} (all : ∀ part ∈ parts, StringPart part)
    (plain : open_.place = .plain) :
    ∃ next : OpenString, next.place = .plain ∧
      ∀ state rest, readFrom? (.string open_) state (parts.flatten ++ rest) = readFrom? (.string next) state rest := by
  induction parts generalizing open_ with
  | nil => exact ⟨open_, plain, fun _ _ => rfl⟩
  | cons part more ih =>
    obtain ⟨isPart, all⟩ := List.forall_mem_cons.mp all
    obtain ⟨mid, midPlain, first⟩ := readFrom?_part isPart plain
    obtain ⟨next, nextPlain, second⟩ := ih all midPlain
    refine ⟨next, nextPlain, fun state rest => ?_⟩
    rw [List.flatten_cons, List.append_assoc, first, second]

/-- The text is one token, a string with these contents. -/
def ReadsString (text : List UInt8) (contents : Option String) : Prop :=
  ∀ state rest, readFrom? .gap state (text ++ rest) =
    (step state.1 state.2 (.string contents)).bind (readFrom? .gap · rest)

theorem readsString_of_inside {body : List UInt8} {last : OpenString} (plain : last.place = .plain)
    (inside : ∀ state rest, readFrom? (.string .empty) state (body ++ rest) = readFrom? (.string last) state rest) :
    ReadsString (0x22 :: (body ++ [0x22])) last.text? := by
  intro state rest
  have opened : Lexeme.step? .gap 0x22 = some ([], .string .empty) := rfl
  have closed : Lexeme.step? (.string last) 0x22 = some ([.string last.text?], .gap) := by
    rw [Lexeme.step?, OpenString.step, plain]
    rfl
  rw [List.cons_append, readFrom?_silent opened, List.append_assoc, inside, List.singleton_append,
    readFrom?_cons closed, run]
  cases step state.1 state.2 (.string last.text?) <;> rfl

/-- Every string of the grammar is read. -/
theorem exists_readsString (string : StringText text) : ∃ contents, ReadsString text contents := by
  obtain ⟨parts, all, rfl⟩ := string
  obtain ⟨last, plain, inside⟩ := @readFrom?_parts parts .empty all rfl
  exact ⟨last.text?, readsString_of_inside plain inside⟩

theorem ReadsString.reads {contents : Option String} (string : ReadsString text contents) :
    Reads text (.string contents) := by
  intro stack expectation rest awaits _
  have opens : Token.string contents ≠ .arrayClose := nofun
  rw [string, step_of_awaitsValue awaits opens, beginValue]

/-! ## Arrays and objects -/

/-- Blanks around a value do not matter. -/
theorem Reads.padded {padded : Padded} (reads : Reads padded.inner document) (spaced : padded.Spaced) :
    Reads padded.text document := by
  intro stack expectation rest awaits ends
  rw [Padded.text, List.append_assoc, List.append_assoc, readFrom?_gap spaced.1,
    reads stack expectation _ awaits (ends_of_isGap spaced.2 ends)]
  exact Option.bind_congr fun next _ => readFrom?_gap spaced.2 next rest

theorem ends_cons (known : byte ∈ delimiters) (rest : List UInt8) : Ends (byte :: rest) := by
  intro first isFirst
  obtain rfl := Option.some.inj isFirst
  exact known

section Series

variable {β : Type} {frame : List β → Frame} {Awaits : Expectation → Prop}

/-- Where an item may come next, the text is read as these items of what has begun, the last of them in front. -/
def Joins (frame : List β → Frame) (Awaits : Expectation → Prop) (piece : List UInt8) (items : List β) : Prop :=
  ∀ begun stack expectation rest, Awaits expectation → Ends rest →
    readFrom? .gap (frame begun :: stack, expectation) (piece ++ rest) =
      readFrom? .gap (frame (items ++ begun) :: stack, .separator) rest

/-- Pieces with commas between them. -/
theorem joins_joinWith {pieces : List (List UInt8)} {groups : List (List β)} (next : Expectation)
    (comma : ∀ begun stack, step (frame begun :: stack) .separator .comma = some (frame begun :: stack, next))
    (awaits : Awaits next) (inhabited : pieces ≠ []) (joins : List.Forall₂ (Joins frame Awaits) pieces groups) :
    Joins frame Awaits (joinWith [0x2C] pieces) groups.reverse.flatten := by
  induction joins with
  | nil => contradiction
  | @cons piece items more others first following ih =>
    cases following with
    | nil => simpa [joinWith] using first
    | @cons second group _ groups _ _ =>
      have later := ih (List.cons_ne_nil _ _)
      have order (begun : List β) : (items :: group :: groups).reverse.flatten ++ begun =
          (group :: groups).reverse.flatten ++ (items ++ begun) := by simp
      -- the comma ends the first piece, whatever it is, and asks for the next
      intro begun stack expectation rest expected ends
      have lexed : Lexeme.step? .gap 0x2C = some ([.comma], .gap) := rfl
      have ended (rest : List UInt8) : Ends (0x2C :: rest) := ends_cons (by decide) rest
      rw [joinWith, List.append_assoc, List.append_assoc, List.singleton_append, first _ _ _ _ expected (ended _),
        readFrom?_token lexed, comma, Option.bind_some, later _ _ _ _ awaits ends, order]
      exact List.cons_ne_nil _ _

/-- Pieces that are read one by one are read when they are joined by commas. -/
theorem exists_joins {pieces : List (List UInt8)} (next : Expectation)
    (comma : ∀ begun stack, step (frame begun :: stack) .separator .comma = some (frame begun :: stack, next))
    (awaits : Awaits next) (inhabited : pieces ≠ [])
    (joins : ∀ piece ∈ pieces, ∃ items, Joins frame Awaits piece items) :
    ∃ items, Joins frame Awaits (joinWith [0x2C] pieces) items := by
  choose! items joins using joins
  have each : List.Forall₂ (Joins frame Awaits) pieces (pieces.map items) :=
    List.forall₂_map_right_iff.mpr (List.forall₂_same.mpr joins)
  exact ⟨_, joins_joinWith next comma awaits inhabited each⟩

end Series

theorem exists_joins_items {items : List Padded} (inhabited : items ≠ []) (spaced : ∀ item ∈ items, item.Spaced)
    (values : ∀ item ∈ items, ∃ document, Reads item.inner document) :
    ∃ documents, Joins .array AwaitsValue (joinWith [0x2C] (items.map Padded.text)) documents := by
  refine exists_joins .value (fun _ _ => rfl) rfl (mt List.map_eq_nil_iff.mp inhabited) ?_
  refine List.forall_mem_map.mpr fun item member => ?_
  obtain ⟨document, reads⟩ := values item member
  exact ⟨[document], fun _ _ _ _ => (reads.padded (spaced item member)) _ _ _⟩

/-- A name may come next. -/
def AwaitsName (expectation : Expectation) : Prop :=
  expectation matches .name | .nameOrClose

/-- Where a name is expected, a string begins a member. -/
theorem step_of_awaitsName {expectation : Expectation} (awaits : AwaitsName expectation) (name : Option String)
    (stack : List Frame) : step stack expectation (.string name) = beginMember stack (.string name) := by
  cases expectation with
  | nameOrClose | name => rfl
  | _ => contradiction

/-- A name and a value that are read make up a member that is read. -/
theorem joins_member {member : Padded × Padded} {name : Option String} (named : ReadsString member.1.inner name)
    (reads : Reads member.2.inner document) (nameSpaced : member.1.Spaced) (spaced : member.2.Spaced) :
    Joins .object AwaitsName (memberText member) [(name, document)] := by
  intro begun stack expectation rest awaits ends
  have colon : Lexeme.step? .gap 0x3A = some ([.colon], .gap) := rfl
  rw [memberText, Padded.text, List.append_assoc, List.append_assoc, List.append_assoc, readFrom?_gap nameSpaced.1,
    named, step_of_awaitsName awaits, beginMember, Option.bind_some, readFrom?_gap nameSpaced.2, List.cons_append,
    readFrom?_token colon]
  exact reads.padded spaced _ .value _ rfl ends

theorem exists_joins_members {members : List (Padded × Padded)} (inhabited : members ≠ [])
    (names : ∀ member ∈ members, member.1.Spaced ∧ StringText member.1.inner)
    (spaced : ∀ member ∈ members, member.2.Spaced)
    (values : ∀ member ∈ members, ∃ document, Reads member.2.inner document) :
    ∃ documents, Joins .object AwaitsName (joinWith [0x2C] (members.map memberText)) documents := by
  refine exists_joins .name (fun _ _ => rfl) rfl (mt List.map_eq_nil_iff.mp inhabited) ?_
  refine List.forall_mem_map.mpr fun entry member => ?_
  obtain ⟨document, reads⟩ := values entry member
  obtain ⟨nameSpaced, string⟩ := names entry member
  obtain ⟨name, named⟩ := exists_readsString string
  exact ⟨[(name, document)], joins_member named reads nameSpaced (spaced entry member)⟩

/-- An array or object from where it opens to where it closes. -/
theorem reads_enclosed {body : List UInt8} {opening closing : UInt8} {frame : Frame} {expectation : Expectation}
    (lexed : Lexeme.step? .gap opening = some ([token], .gap)) (opens : token ≠ .arrayClose)
    (begins : ∀ stack, beginValue stack token = some (frame :: stack, expectation))
    (inside : ∀ stack rest, readFrom? .gap (frame :: stack, expectation) (body ++ closing :: rest) =
      (complete stack document).bind (readFrom? .gap · rest)) :
    Reads (opening :: (body ++ [closing])) document := by
  intro stack expectation rest awaits _
  rw [List.cons_append, readFrom?_token lexed, step_of_awaitsValue awaits opens, begins, Option.bind_some,
    List.append_assoc, List.singleton_append, inside]

/-- A closing bracket completes the array with the items in the order in which they came. -/
theorem readFrom?_arrayClose (items : List Document) {expectation : Expectation}
    (expected : expectation matches .itemOrClose | .separator) (stack : List Frame) (rest : List UInt8) :
    readFrom? .gap (.array items :: stack, expectation) (0x5D :: rest) =
      (complete stack (.array items.reverse)).bind (readFrom? .gap · rest) := by
  have closes : Lexeme.step? .gap 0x5D = some ([.arrayClose], .gap) := rfl
  rw [readFrom?_token closes]
  cases expectation with
  | itemOrClose | separator => rfl
  | _ => contradiction

theorem readFrom?_objectClose (members : List (Option String × Document)) {expectation : Expectation}
    (expected : expectation matches .nameOrClose | .separator) (stack : List Frame) (rest : List UInt8) :
    readFrom? .gap (.object members :: stack, expectation) (0x7D :: rest) =
      (complete stack (.object members.reverse)).bind (readFrom? .gap · rest) := by
  have closes : Lexeme.step? .gap 0x7D = some ([.objectClose], .gap) := rfl
  rw [readFrom?_token closes]
  cases expectation with
  | nameOrClose | separator => rfl
  | _ => contradiction

theorem reads_emptyArray {gap : List UInt8} (blank : IsGap gap) : Reads (0x5B :: (gap ++ [0x5D])) (.array []) := by
  refine reads_enclosed rfl nofun (fun _ => rfl) fun stack rest => ?_
  rw [readFrom?_gap blank]
  exact readFrom?_arrayClose [] rfl stack rest

theorem reads_emptyObject {gap : List UInt8} (blank : IsGap gap) : Reads (0x7B :: (gap ++ [0x7D])) (.object []) := by
  refine reads_enclosed rfl nofun (fun _ => rfl) fun stack rest => ?_
  rw [readFrom?_gap blank]
  exact readFrom?_objectClose [] rfl stack rest

/-- An array is read if its items are. -/
theorem reads_array {body : List UInt8} {items : List Document} (joins : Joins .array AwaitsValue body items) :
    Reads (0x5B :: (body ++ [0x5D])) (.array items.reverse) := by
  refine reads_enclosed rfl nofun (fun _ => rfl) fun stack rest => ?_
  rw [joins [] stack .itemOrClose _ rfl (ends_cons (by decide) rest), List.append_nil]
  exact readFrom?_arrayClose items rfl stack rest

/-- An object is read if its members are. -/
theorem reads_object {body : List UInt8} {members : List (Option String × Document)}
    (joins : Joins .object AwaitsName body members) :
    Reads (0x7B :: (body ++ [0x7D])) (.object members.reverse) := by
  refine reads_enclosed rfl nofun (fun _ => rfl) fun stack rest => ?_
  rw [joins [] stack .nameOrClose _ rfl (ends_cons (by decide) rest), List.append_nil]
  exact readFrom?_objectClose members rfl stack rest

end Reader

open Reader

/-! ## Documents -/

/-- Every value of the grammar is read, by induction on how it is built. -/
theorem ValueText.exists_reads {text : List UInt8} (value : ValueText text) : ∃ document, Reads text document := by
  induction value with
  | word known => exact reads_word known
  | number numeral => exact ⟨_, reads_number numeral⟩
  | string string =>
    obtain ⟨contents, readsString⟩ := exists_readsString string
    exact ⟨_, readsString.reads⟩
  | emptyArray blank => exact ⟨_, reads_emptyArray blank⟩
  | emptyObject blank => exact ⟨_, reads_emptyObject blank⟩
  | array inhabited spaced _ ih =>
    obtain ⟨items, joins⟩ := exists_joins_items inhabited spaced ih
    exact ⟨_, reads_array joins⟩
  | object inhabited names spaced _ ih =>
    obtain ⟨members, joins⟩ := exists_joins_members inhabited names spaced ih
    exact ⟨_, reads_object joins⟩

/-- A well-formed text is read as one document wherever a value may stand. -/
theorem WellFormed.exists_reads {text : List UInt8} (wellFormed : WellFormed text) :
    ∃ document, Reads text document := by
  obtain ⟨padded, spaced, value, rfl⟩ := wellFormed
  obtain ⟨document, reads⟩ := value.exists_reads
  exact ⟨document, reads.padded spaced⟩

theorem Reader.Reads.read?_eq {text : List UInt8} {document : Document} (reads : Reads text document) :
    read? text = some document := by
  have alone := reads [] .value [] rfl nofun
  rwa [List.append_nil] at alone

end Observatory.Document
