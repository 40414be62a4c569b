import WorkDepot.Json.Choice
import WorkDepot.Json.Object
import WorkDepot.Proofs.Text.Cut
import WorkDepot.Proofs.Text.Number

/-! # Reading objects of JSON

A string is read back as it has been written, whatever its characters are and whatever follows the
closing quote. The objects that are read here are flat: the value of a member is a text, a flag or a
number. An object has been read when its closing brace is followed by blanks only, so that a reader
who knows nothing of the writer has all that was written and nothing else.
-/
namespace WorkDepot.Json

/-! ## What a reader reads -/

/-- The value of a member. -/
inductive Value where
  | text (text : Text)
  | flag (isSet : Bool)
  | number (number : Nat)
  deriving DecidableEq

/-- A number of digits only, and the text behind it. -/
def readNumber? (text : Text) : Option (Value × Text) := do
  let number ← Text.readDigits 10 (text.takeWhile Char.isDigit)
  return (.number number, text.dropWhile Char.isDigit)

/-- The first character tells which kind of value it is. -/
def readValue? (text : Text) : Option (Value × Text) :=
  match text with
  | '"' :: _ => do
    let (content, rest) ← readString? text
    return (.text content, rest)
  | 't' :: _ => do return (.flag true, ← Text.strip? "true".toList text)
  | 'f' :: _ => do return (.flag false, ← Text.strip? "false".toList text)
  | _ => readNumber? text

/-- The name of a member and its value, and the text behind them. -/
def readMember? (text : Text) : Option ((Text × Value) × Text) := do
  let (name, rest) ← readString? (skipBlanks text)
  let rest ← skipPast? ':' rest
  let (value, rest) ← readValue? (skipBlanks rest)
  return ((name, value), rest)

/-- The members up to the closing brace and the text behind it. Every member takes a character at
least, so as many steps as there are characters are enough. -/
def readMembers? : (steps : Nat) → Text → Option (List (Text × Value) × Text)
  | 0, _ => none
  | steps + 1, text => do
    let (member, rest) ← readMember? text
    match skipPast? ',' rest with
    | some rest =>
      let (members, rest) ← readMembers? steps rest
      return (member :: members, rest)
    | none => return ([member], ← skipPast? '\x7d' rest)

/-- The members of the object that is all of the text, in their order. -/
def readObject? (text : Text) : Option (List (Text × Value)) := do
  let rest ← skipPast? '\x7b' text
  let (members, rest) ← readMembers? rest.length rest
  guard (skipBlanks rest).isEmpty
  return members

/-! ## Strings -/

variable {steps : Nat} {text rest literal : Text} {value : Value}

theorem readCodePoint?_codeUnit {c : Char} (h : c.toNat < 0x20) (rest : Text) :
    readCodePoint? (codeUnit c.toNat ++ rest) = some (c, rest) := by
  have hread (n : Nat) (hn : n < 0x20) :
      readCodePoint? (codeUnit n ++ rest) = some (Char.ofNat n, rest) := by
    interval_cases n <;> rfl
  rw [hread c.toNat h, Char.ofNat_toNat]

/-- Whatever a character is written as, it is read in one step. -/
theorem readQuoted?_escape (c : Char) (steps : Nat) (rest : Text) :
    readQuoted? (steps + 1) (escape c ++ rest) =
      (readQuoted? steps rest).bind fun read => some (c :: read.1, read.2) := by
  unfold escape
  split_ifs with hquote hbackslash hback hform hfeed hreturn htab hcontrol
  · simp [hquote, readQuoted?, escaped?]
  · simp [hbackslash, readQuoted?, escaped?]
  · simp [hback, readQuoted?, escaped?]
  · simp [hform, readQuoted?, escaped?]
  · simp [hfeed, readQuoted?, escaped?]
  · simp [hreturn, readQuoted?, escaped?]
  · simp [htab, readQuoted?, escaped?]
  · simp [readQuoted?, readCodePoint?_codeUnit hcontrol rest]
  · simp [readQuoted?, hbackslash, Nat.le_of_not_lt hcontrol]

theorem readQuoted?_flatMap (h : text.length < steps) (rest : Text) :
    readQuoted? steps (text.flatMap escape ++ '"' :: rest) = some (text, rest) := by
  induction text generalizing steps with
  | nil =>
    obtain ⟨steps, rfl⟩ := Nat.exists_eq_add_one_of_ne_zero (Nat.ne_zero_of_lt h)
    rfl
  | cons c text ih =>
    obtain ⟨steps, rfl⟩ := Nat.exists_eq_add_one_of_ne_zero (Nat.ne_zero_of_lt h)
    rw [List.flatMap_cons, List.append_assoc, readQuoted?_escape, ih (by simpa using h)]
    rfl

theorem escape_ne_nil (c : Char) : escape c ≠ [] := by
  unfold escape
  split_ifs <;> nofun

theorem length_le_flatMap_escape (text : Text) : text.length ≤ (text.flatMap escape).length := by
  induction text with
  | nil => rfl
  | cons c text ih =>
    have hc := List.length_pos_iff.mpr (escape_ne_nil c)
    rw [List.flatMap_cons, List.length_append, List.length_cons]
    omega

theorem readString?_quote (text rest : Text) :
    readString? (quote text ++ rest) = some (text, rest) := by
  have hwritten : quote text ++ rest = '"' :: (text.flatMap escape ++ '"' :: rest) := by
    simp [quote]
  have hsteps : text.length < (text.flatMap escape ++ '"' :: rest).length := by
    have hescaped : text.length ≤ (text.flatMap escape).length := length_le_flatMap_escape text
    simp only [List.length_append, List.length_cons]
    omega
  rw [hwritten]
  exact readQuoted?_flatMap hsteps rest

/-! ## Values -/

/-- What no number can go on with. -/
def EndsDigits (rest : Text) : Prop := ∀ c ∈ rest.head?, ¬ c.isDigit

/-- A literal is read as a value, with no blanks in front. -/
structure Spells (literal : Text) (value : Value) : Prop where
  blanks : ∀ rest, skipBlanks (literal ++ rest) = literal ++ rest
  reads : ∀ rest, EndsDigits rest → readValue? (literal ++ rest) = some (value, rest)

theorem spells_quote (text : Text) : Spells (quote text) (.text text) where
  blanks _ := rfl
  reads rest _ := by
    have hread := readString?_quote text rest
    obtain ⟨behind, hquote⟩ : ∃ behind, quote text ++ rest = '"' :: behind := ⟨_, rfl⟩
    rw [hquote] at hread ⊢
    simp only [readValue?, hread]
    rfl

theorem spells_ofBool (isSet : Bool) : Spells (ofBool isSet) (.flag isSet) where
  blanks _ := by cases isSet <;> rfl
  reads _ _ := by cases isSet <;> rfl

theorem readNumber?_digits {digits : Text} {n : Nat} (h : ∀ c ∈ digits, c.isDigit)
    (hread : Text.readDigits 10 digits = some n) (hrest : EndsDigits rest) :
    readNumber? (digits ++ rest) = some (.number n, rest) := by
  have hend : rest.takeWhile Char.isDigit = [] ∧ rest.dropWhile Char.isDigit = rest := by
    cases rest with
    | nil => exact ⟨rfl, rfl⟩
    | cons c rest => simp [hrest c rfl]
  rw [readNumber?, List.takeWhile_append_of_pos h, List.dropWhile_append_of_pos h, hend.1, hend.2,
    List.append_nil, hread]
  rfl

theorem spells_decimal (n : Nat) : Spells (Text.decimal n) (.number n) := by
  have hdigits : ∀ c ∈ Text.decimal n, c.isDigit := fun c hc => Text.isDigit_of_mem_decimal hc
  have hread := Text.readDigits_decimal n
  cases h : Text.decimal n with
  | nil =>
    rw [h] at hread
    cases hread
  | cons d digits =>
    rw [h] at hdigits hread
    have hne {c : Char} (hc : ¬ c.isDigit) : d ≠ c := by
      rintro rfl
      exact hc (hdigits d List.mem_cons_self)
    constructor
    · intro rest
      have hblank : d ≠ ' ' ∧ d ≠ '\t' ∧ d ≠ '\n' ∧ d ≠ '\r' :=
        ⟨hne (by decide), hne (by decide), hne (by decide), hne (by decide)⟩
      simp [skipBlanks, hblank]
    · intro rest hrest
      have hkind : d ≠ '"' ∧ d ≠ 't' ∧ d ≠ 'f' :=
        ⟨hne (by decide), hne (by decide), hne (by decide)⟩
      rw [← readNumber?_digits hdigits hread hrest]
      simp [readValue?, hkind]

/-! ## Objects -/

/-- The members of an object are written for its fields. -/
def Writes : List Member → List (Text × Value) → Prop :=
  List.Forall₂ fun member field => member.1 = field.1 ∧ Spells member.2 field.2

theorem readMember?_render {name : Text} (h : Spells literal value) (hrest : EndsDigits rest) :
    readMember? ('\n' :: (Member.render (name, literal) ++ rest)) =
      some ((name, value), rest) := by
  have hname : skipBlanks ('\n' :: (Member.render (name, literal) ++ rest)) =
      quote name ++ (": ".toList ++ (literal ++ rest)) := by
    simp [Member.render, skipBlanks, quote]
  have hcolon : skipPast? ':' (": ".toList ++ (literal ++ rest)) =
      some (' ' :: (literal ++ rest)) := rfl
  have hvalue : skipBlanks (' ' :: (literal ++ rest)) = literal ++ rest := h.blanks rest
  simp only [readMember?, hname, readString?_quote, Option.bind_eq_bind, Option.bind_some, hcolon,
    hvalue, h.reads rest hrest]
  rfl

/-- The members of an object behind its opening brace. -/
def body (members : List Member) : Text :=
  '\n' :: (",\n".toList.intercalate (members.map Member.render) ++ "\n\x7d".toList)

theorem body_singleton (member : Member) (rest : Text) :
    body [member] ++ rest = '\n' :: (member.render ++ ("\n\x7d".toList ++ rest)) := by
  simp [body, List.intercalate]

theorem body_cons (member next : Member) (members : List Member) (rest : Text) :
    body (member :: next :: members) ++ rest =
      '\n' :: (member.render ++ (',' :: (body (next :: members) ++ rest))) := by
  simp [body, List.intercalate]

theorem length_le_body (members : List Member) (rest : Text) :
    members.length ≤ (body members ++ rest).length := by
  induction members with
  | nil => exact Nat.zero_le _
  | cons member members ih =>
    cases members with
    | nil => simp [body]
    | cons next members =>
      rw [body_cons]
      simp only [List.length_cons, List.length_append] at ih ⊢
      omega

theorem readMembers?_body {members : List Member} {fields : List (Text × Value)}
    (h : Writes members fields) (hne : members ≠ []) (hsteps : members.length ≤ steps)
    (rest : Text) : readMembers? steps (body members ++ rest) = some (fields, rest) := by
  induction h generalizing steps with
  | nil => exact absurd rfl hne
  | @cons member field members fields hfirst hothers ih =>
    obtain ⟨steps, rfl⟩ := Nat.exists_eq_add_one_of_ne_zero (Nat.ne_zero_of_lt hsteps)
    obtain ⟨name, literal⟩ := member
    obtain ⟨_, value⟩ := field
    obtain ⟨rfl, hspells⟩ := hfirst
    cases hothers with
    | nil =>
      have hend : EndsDigits ("\n\x7d".toList ++ rest) := by rintro c ⟨⟩; decide
      rw [body_singleton, readMembers?, readMember?_render hspells hend]
      rfl
    | @cons next _ members _ hnext hothers =>
      have hend : EndsDigits (',' :: (body (next :: members) ++ rest)) := by rintro c ⟨⟩; decide
      have hcomma : skipPast? ',' (',' :: (body (next :: members) ++ rest)) =
          some (body (next :: members) ++ rest) := rfl
      have hbehind := ih (List.cons_ne_nil _ _) (Nat.le_of_succ_le_succ hsteps)
      rw [body_cons, readMembers?, readMember?_render hspells hend]
      simp only [Option.bind_eq_bind, Option.bind_some, hcomma, hbehind]
      rfl

/-- What has been written as an object, with the end of a line behind it, is read back. -/
theorem readObject?_object {members : List Member} {fields : List (Text × Value)}
    (h : Writes members fields) (hne : members ≠ []) :
    readObject? (object members ++ ['\n']) = some fields := by
  have hobject : object members ++ ['\n'] = '\x7b' :: (body members ++ ['\n']) := by
    simp [object, body]
  have hopen : skipPast? '\x7b' ('\x7b' :: (body members ++ ['\n'])) =
      some (body members ++ ['\n']) := rfl
  have hread := readMembers?_body h hne (length_le_body members ['\n']) ['\n']
  rw [hobject, readObject?, hopen]
  simp only [Option.bind_eq_bind, Option.bind_some, hread]
  rfl

end WorkDepot.Json
