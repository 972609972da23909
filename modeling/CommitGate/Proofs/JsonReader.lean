import CommitGate.Json
import CommitGate.Toml.Token
import Mathlib.Data.List.TakeWhile

/-!
# Reading JSON

A reader of JSON documents. The text is cut into tokens, between which there may be white space, and
the tokens are read as one value with nothing after it. The values are those of `Json`, so that
booleans are refused, and so are numbers that are not natural. What is written for a value is read
as that value.
-/

namespace CommitGate.Json

/-! ## Strings -/

/-- The 16 bits that the first four characters of a text write in hexadecimal. -/
def unit? (t : Text) : Option Nat :=
  match (t.take 4).mapM Toml.hexDigit? with
  | some [a, b, c, d] => some (((a * 16 + b) * 16 + c) * 16 + d)
  | _ => none

/-- Reads the units of an escape after `\u`: the character, and how many characters are used up. A
character beyond the first 2^16 is written as two surrogates, and a surrogate alone is none. -/
def readUnits? (t : Text) : Option (Char × Nat) :=
  match unit? t with
  | none => none
  | some unit =>
    if unit.isValidChar then some (Char.ofNat unit, 4)
    else
      match t.drop 4 with
      | '\\' :: 'u' :: more =>
        match unit? more with
        | none => none
        | some low =>
          if unit < 0xDC00 ∧ 0xDC00 ≤ low ∧ low < 0xE000 then
            some (Char.ofNat (0x10000 + (unit - 0xD800) * 0x400 + (low - 0xDC00)), 10)
          else none
      | _ => none

/-- Reads an escape after its backslash: the character, and how many characters are used up. -/
def readEscape? : Text → Option (Char × Nat)
  | '"' :: _ => some ('"', 1)
  | '\\' :: _ => some ('\\', 1)
  | '/' :: _ => some ('/', 1)
  | 'b' :: _ => some ('\x08', 1)
  | 'f' :: _ => some ('\x0c', 1)
  | 'n' :: _ => some ('\n', 1)
  | 'r' :: _ => some ('\r', 1)
  | 't' :: _ => some ('\t', 1)
  | 'u' :: rest => (readUnits? rest).map fun (c, used) => (c, used + 1)
  | _ => none

/-- Reads a string after its first quote: the content, and how many characters are used up, the last
quote included. Control characters must be escaped. -/
def readString? : Text → Option (Text × Nat)
  | [] => none
  | c :: rest =>
    if c = '"' then some ([], 1)
    else if c = '\\' then
      match readEscape? rest with
      | none => none
      | some (e, length) =>
        (readString? (rest.drop length)).map fun (t, used) => (e :: t, used + (length + 1))
    else if c.toNat < 0x20 then none
    else (readString? rest).map fun (t, used) => (c :: t, used + 1)
termination_by t => t.length
decreasing_by all_goals simp only [List.length_drop, List.length_cons]; omega

/-! ## Tokens -/

/-- A token of a JSON document. -/
inductive Token where
  /-- The bracket `[`. -/
  | openArray
  /-- The bracket `]`. -/
  | closeArray
  /-- The brace that opens an object. -/
  | openObject
  /-- The brace that closes an object. -/
  | closeObject
  /-- The colon after the name of a field. -/
  | colon
  /-- The comma between items or fields. -/
  | comma
  /-- A string. -/
  | string (t : Text)
  /-- A natural number. -/
  | number (n : Nat)
  /-- The word `null`. -/
  | null
  deriving DecidableEq

/-- White space between tokens. -/
def isSpace (c : Char) : Bool := c = ' ' || c = '\t' || c = '\n' || c = '\r'

/-- The token that a punctuation mark is. -/
def mark? : Char → Option Token
  | '[' => some .openArray
  | ']' => some .closeArray
  | '{' => some .openObject
  | '}' => some .closeObject
  | ':' => some .colon
  | ',' => some .comma
  | _ => none

/-- The number that digits write; only the number zero starts with a zero. -/
def number? (digits : Text) : Option Nat :=
  if digits.head? = some '0' ∧ digits ≠ ['0'] then none else some (Nat.ofDigitChars 10 digits 0)

/-- Reads the token that starts with `c`: the token, and how many of the characters after `c` it
covers. -/
def readToken? (c : Char) (rest : Text) : Option (Token × Nat) :=
  match mark? c with
  | some token => some (token, 0)
  | none =>
    if c = '"' then (readString? rest).map fun (t, used) => (.string t, used)
    else if c.isDigit then
      let more := rest.takeWhile Char.isDigit
      (number? (c :: more)).map fun n => (.number n, more.length)
    else if c = 'n' ∧ rest.take 3 = ['u', 'l', 'l'] then some (.null, 3)
    else none

/-- The tokens of a text. -/
def tokens? : Text → Option (List Token)
  | [] => some []
  | c :: rest =>
    if isSpace c then tokens? rest
    else
      match readToken? c rest with
      | none => none
      | some (token, more) => (tokens? (rest.drop more)).map (token :: ·)
termination_by t => t.length
decreasing_by all_goals simp only [List.length_drop, List.length_cons]; omega

/-! ## Values -/

mutual

/-- Reads a value, and gives the tokens after it. Every round uses up a token, so that as many
rounds as there are tokens are enough. -/
def readValue? : (rounds : Nat) → List Token → Option (Json × List Token)
  | _ + 1, .null :: rest => some (.null, rest)
  | _ + 1, .number n :: rest => some (.number n, rest)
  | _ + 1, .string t :: rest => some (.string t, rest)
  | _ + 1, .openArray :: .closeArray :: rest => some (.array [], rest)
  | rounds + 1, .openArray :: rest =>
    (readItems? rounds rest).map fun (items, rest) => (.array items, rest)
  | _ + 1, .openObject :: .closeObject :: rest => some (.object [], rest)
  | rounds + 1, .openObject :: rest =>
    (readFields? rounds rest).map fun (fields, rest) => (.object fields, rest)
  | _, _ => none

/-- Reads the items of an array that has some, up to its closing bracket. -/
def readItems? : (rounds : Nat) → List Token → Option (List Json × List Token)
  | rounds + 1, ts =>
    match readValue? rounds ts with
    | some (item, .comma :: rest) =>
      (readItems? rounds rest).map fun (items, rest) => (item :: items, rest)
    | some (item, .closeArray :: rest) => some ([item], rest)
    | _ => none
  | 0, _ => none

/-- Reads the fields of an object that has some, up to its closing brace. -/
def readFields? : (rounds : Nat) → List Token → Option (List (Text × Json) × List Token)
  | rounds + 1, .string name :: .colon :: ts =>
    match readValue? rounds ts with
    | some (value, .comma :: rest) =>
      (readFields? rounds rest).map fun (fields, rest) => ((name, value) :: fields, rest)
    | some (value, .closeObject :: rest) => some ([(name, value)], rest)
    | _ => none
  | _, _ => none

end

/-- The value that a document writes. -/
def read? (document : Text) : Option Json :=
  match tokens? document with
  | none => none
  | some ts =>
    match readValue? ts.length ts with
    | some (v, []) => some v
    | _ => none

/-! ## Induction along values -/

/-- What holds of plain values, and of an array or object if it holds of all values in it, holds of
every value. -/
@[elab_as_elim]
theorem induction {P : Json → Prop} (null : P .null) (number : ∀ n, P (.number n))
    (string : ∀ t, P (.string t)) (array : ∀ items, (∀ item ∈ items, P item) → P (.array items))
    (object : ∀ fields, (∀ field ∈ fields, P field.2) → P (.object fields)) : ∀ v, P v
  | .null => null
  | .number n => number n
  | .string t => string t
  | .array items => array items fun item _ => induction null number string array object item
  | .object fields =>
    object fields fun (_, value) _ => induction null number string array object value
termination_by v => sizeOf v
decreasing_by
  · have hlt := List.sizeOf_lt_of_mem ‹item ∈ items›
    rw [Json.array.sizeOf_spec]
    omega
  · have hlt := List.sizeOf_lt_of_mem ‹(_, value) ∈ fields›
    rw [Prod.mk.sizeOf_spec] at hlt
    rw [Json.object.sizeOf_spec]
    omega

/-! ## Reading strings -/

theorem hexDigit?_hexDigit : ∀ n < 16, Toml.hexDigit? (hexDigit n) = some n := by decide

theorem readUnits?_code {c : Char} (h : c.toNat < 0x20) (rest : Text) :
    readUnits? ('0' :: '0' :: hexDigit (c.toNat / 16) :: hexDigit (c.toNat % 16) :: rest) =
      some (c, 4) := by
  have hzero : Toml.hexDigit? '0' = some 0 := by decide
  have hunit : unit? ('0' :: '0' :: hexDigit (c.toNat / 16) :: hexDigit (c.toNat % 16) :: rest) =
      some c.toNat := by
    simp [unit?, hzero, hexDigit?_hexDigit (c.toNat / 16) (by omega),
      hexDigit?_hexDigit (c.toNat % 16) (by omega)]
    omega
  have hvalid : c.toNat.isValidChar := Or.inl (by omega)
  simp only [readUnits?, hunit, hvalid, if_true, Char.ofNat_toNat]

theorem readString?_escape (c : Char) (rest : Text) :
    readString? (escape c ++ rest) =
      (readString? rest).map fun (t, used) => (c :: t, used + (escape c).length) := by
  unfold escape
  split
  case h_8 hquote hbackslash _ _ _ _ _ =>
    have hne : c ≠ '"' ∧ c ≠ '\\' := ⟨hquote, hbackslash⟩
    split_ifs with hcontrol
    · simp [readString?, readEscape?, readUnits?_code hcontrol]
    · simp [readString?, hne, hcontrol]
  all_goals simp [readString?, readEscape?]

/-- A string is read up to its last quote. -/
theorem readString?_flatMap_escape (t rest : Text) :
    readString? (t.flatMap escape ++ '"' :: rest) = some (t, (t.flatMap escape).length + 1) := by
  induction t with
  | nil => simp [readString?]
  | cons c t ih =>
    rw [List.flatMap_cons, List.append_assoc, readString?_escape, ih, Option.map_some,
      List.length_append]
    simp only [Option.some.injEq, Prod.mk.injEq, true_and]
    omega

/-! ## Reading tokens -/

mutual

/-- The tokens of a value. -/
def tokens : Json → List Token
  | .null => [.null]
  | .number n => [.number n]
  | .string t => [.string t]
  | .array [] => [.openArray, .closeArray]
  | .array (item :: items) =>
    .openArray :: item.tokens ++ itemTokens items ++ [.closeArray]
  | .object [] => [.openObject, .closeObject]
  | .object ((name, value) :: fields) =>
    .openObject :: .string name :: .colon :: value.tokens ++ fieldTokens fields ++ [.closeObject]

/-- The tokens of the further items of an array. -/
def itemTokens : List Json → List Token
  | [] => []
  | item :: items => .comma :: item.tokens ++ itemTokens items

/-- The tokens of the further fields of an object. -/
def fieldTokens : List (Text × Json) → List Token
  | [] => []
  | (name, value) :: fields =>
    .comma :: .string name :: .colon :: value.tokens ++ fieldTokens fields

end

/-- A text that could not go on with a numeral before it. -/
def NoDigit (t : Text) : Prop := ∀ c, t.head? = some c → c.isDigit = false

theorem noDigit_nil : NoDigit [] := fun _ h => nomatch h

theorem noDigit_cons {c : Char} (h : c.isDigit = false) (t : Text) : NoDigit (c :: t) := by
  intro d hd
  cases hd
  exact h

/-- The text reads as the tokens, wherever it stands in front of something that is no digit. -/
def Reads (t : Text) (ts : List Token) : Prop :=
  ∀ rest, NoDigit rest → tokens? (t ++ rest) = (tokens? rest).map (ts ++ ·)

theorem tokens?_space {c : Char} (h : isSpace c = true) (rest : Text) :
    tokens? (c :: rest) = tokens? rest := by
  rw [tokens?, if_pos h]

theorem tokens?_indent (level : Nat) (rest : Text) :
    tokens? (indent level ++ rest) = tokens? rest := by
  have hspaces : ∀ n, tokens? (Text.spaces n ++ rest) = tokens? rest := by
    intro n
    induction n with
    | zero => rfl
    | succ n ih =>
      rw [Text.spaces, List.replicate_succ, List.cons_append, tokens?_space rfl]
      exact ih
  rw [indent, List.cons_append, tokens?_space rfl, hspaces]

theorem of_isSpace {c : Char} (h : isSpace c = true) : mark? c = none ∧ c.isDigit = false := by
  simp only [isSpace, Bool.or_eq_true, decide_eq_true_eq] at h
  rcases h with ((rfl | rfl) | rfl) | rfl
  all_goals exact ⟨rfl, rfl⟩

theorem tokens?_mark {c : Char} {token : Token} (h : mark? c = some token) (rest : Text) :
    tokens? (c :: rest) = (tokens? rest).map (token :: ·) := by
  have hspace : ¬isSpace c = true := fun hspace => nomatch h.symm.trans (of_isSpace hspace).1
  have hread : readToken? c rest = some (token, 0) := by simp [readToken?, h]
  rw [tokens?, if_neg hspace, hread]
  rfl

theorem tokens?_null (rest : Text) :
    tokens? ("null".toList ++ rest) = (tokens? rest).map (.null :: ·) := by
  change tokens? ('n' :: 'u' :: 'l' :: 'l' :: rest) = _
  have hread : readToken? 'n' ('u' :: 'l' :: 'l' :: rest) = some (.null, 3) := by
    simp [readToken?, mark?]
  rw [tokens?, if_neg (by decide), hread]
  rfl

theorem tokens?_marks {c d : Char} {t t' : Token} (hc : mark? c = some t) (hd : mark? d = some t')
    (rest : Text) : tokens? ([c, d] ++ rest) = (tokens? rest).map ([t, t'] ++ ·) := by
  rw [List.cons_append, tokens?_mark hc, List.cons_append, tokens?_mark hd, Option.map_map]
  rfl

theorem tokens?_colon (rest : Text) :
    tokens? (": ".toList ++ rest) = (tokens? rest).map (.colon :: ·) := by
  change tokens? (':' :: ' ' :: rest) = _
  rw [tokens?_mark (rfl : mark? ':' = some .colon), tokens?_space rfl]

theorem tokens?_quote (t rest : Text) :
    tokens? (quote t ++ rest) = (tokens? rest).map (.string t :: ·) := by
  have hread : readToken? '"' (t.flatMap escape ++ '"' :: rest) =
      some (.string t, (t.flatMap escape).length + 1) := by
    simp [readToken?, mark?, readString?_flatMap_escape]
  have hdrop : (t.flatMap escape ++ '"' :: rest).drop ((t.flatMap escape).length + 1) = rest :=
    List.drop_length_add_append 1
  rw [quote, List.append_assoc, List.cons_append, List.singleton_append, tokens?,
    if_neg (by decide), hread]
  simp only [hdrop]

/-- Only the number zero starts with a zero. -/
theorem head?_ofNat_ne_zero {n : Nat} (h : 0 < n) : (Text.ofNat n).head? ≠ some '0' := by
  induction n using Nat.strong_induction_on with
  | _ n ih =>
    unfold Text.ofNat at ih ⊢
    by_cases hdigit : n < 10
    · rw [Nat.toDigits_of_lt_base hdigit]
      simpa using Nat.ne_of_gt h
    · obtain ⟨c, more, htens⟩ : ∃ c more, Nat.toDigits 10 (n / 10) = c :: more :=
        List.exists_cons_of_ne_nil Nat.toDigits_ne_nil
      have hhead := ih (n / 10) (by omega) (by omega)
      rw [htens] at hhead
      rw [Nat.toDigits_of_base_le (by decide) (by omega), htens]
      exact hhead

theorem number?_ofNat (n : Nat) : number? (Text.ofNat n) = some n := by
  have hvalue : Nat.ofDigitChars 10 (Text.ofNat n) 0 = n := Nat.ofDigitChars_ten_toDigits
  unfold number?
  rw [hvalue, if_neg]
  rintro ⟨hzero, hmore⟩
  rcases Nat.eq_zero_or_pos n with rfl | hpos
  · exact hmore rfl
  · exact head?_ofNat_ne_zero hpos hzero

theorem mark?_of_isDigit {c : Char} (h : c.isDigit = true) : mark? c = none := by
  unfold mark?
  split
  case h_7 => rfl
  all_goals cases h

/-- A numeral is a token as far as its digits go. -/
theorem reads_ofNat (n : Nat) : Reads (Text.ofNat n) [.number n] := by
  intro rest hrest
  have hdigits : ∀ c ∈ Text.ofNat n, c.isDigit = true := fun _ hc =>
    Nat.isDigit_of_mem_toDigits (by decide) (by decide) hc
  obtain ⟨c, more, hn⟩ : ∃ c more, Text.ofNat n = c :: more :=
    List.exists_cons_of_ne_nil Nat.toDigits_ne_nil
  have hnumber := number?_ofNat n
  rw [hn] at hdigits hnumber ⊢
  have hc : c.isDigit = true := hdigits c List.mem_cons_self
  have hspace : ¬isSpace c = true := fun hspace => by simp [(of_isSpace hspace).2] at hc
  have hquote : c ≠ '"' := by
    rintro rfl
    cases hc
  have htake : (more ++ rest).takeWhile Char.isDigit = more := by
    rw [List.takeWhile_append_of_pos fun d hd => hdigits d (List.mem_cons_of_mem c hd)]
    cases rest with
    | nil => simp
    | cons d rest => rw [List.takeWhile_cons_of_neg (by simp [hrest d rfl]), List.append_nil]
  have hread : readToken? c (more ++ rest) = some (.number n, more.length) := by
    simp [readToken?, mark?_of_isDigit hc, hquote, hc, htake, hnumber]
  rw [List.cons_append, tokens?, if_neg hspace, hread]
  simp

/-- What is written for further items starts with no digit, and neither does what follows it. -/
theorem noDigit_prettyItems_append (level : Nat) (items : List Json) {rest : Text}
    (h : NoDigit rest) : NoDigit (prettyItems level items ++ rest) := by
  cases items with
  | nil => exact h
  | cons item items => exact noDigit_cons (by decide) _

theorem noDigit_prettyFields_append (level : Nat) (fields : List (Text × Json)) {rest : Text}
    (h : NoDigit rest) : NoDigit (prettyFields level fields ++ rest) := by
  cases fields with
  | nil => exact h
  | cons field fields => exact noDigit_cons (by decide) _

theorem noDigit_indent_append (level : Nat) (rest : Text) : NoDigit (indent level ++ rest) :=
  noDigit_cons (by decide) _

theorem reads_prettyItems {items : List Json} (level : Nat)
    (h : ∀ item ∈ items, Reads (pretty level item) item.tokens) :
    Reads (prettyItems level items) (itemTokens items) := by
  induction items with
  | nil => intro rest _; simp [prettyItems, itemTokens]
  | cons item items ih =>
    intro rest hrest
    have hitems := ih fun item hitem => h item (List.mem_cons_of_mem _ hitem)
    have hitem := h item List.mem_cons_self _ (noDigit_prettyItems_append level items hrest)
    simp only [prettyItems, itemTokens, List.cons_append, List.append_assoc]
    rw [tokens?_mark (rfl : mark? ',' = some .comma), tokens?_indent, hitem, hitems rest hrest]
    simp [Function.comp_def]

theorem reads_prettyFields {fields : List (Text × Json)} (level : Nat)
    (h : ∀ field ∈ fields, Reads (pretty level field.2) field.2.tokens) :
    Reads (prettyFields level fields) (fieldTokens fields) := by
  induction fields with
  | nil => intro rest _; simp [prettyFields, fieldTokens]
  | cons field fields ih =>
    obtain ⟨name, value⟩ := field
    intro rest hrest
    have hfields := ih fun field hfield => h field (List.mem_cons_of_mem _ hfield)
    have hvalue := h (name, value) List.mem_cons_self _
      (noDigit_prettyFields_append level fields hrest)
    simp only [prettyFields, fieldTokens, List.cons_append, List.append_assoc]
    rw [tokens?_mark (rfl : mark? ',' = some .comma), tokens?_indent, tokens?_quote, tokens?_colon,
      hvalue, hfields rest hrest]
    simp [Function.comp_def]

/-- A written value reads as its tokens. -/
theorem reads_pretty (v : Json) : ∀ level, Reads (pretty level v) v.tokens := by
  induction v using Json.induction with
  | null =>
    intro level rest _
    exact tokens?_null rest
  | number n =>
    intro level
    simpa only [pretty, tokens] using reads_ofNat n
  | string t =>
    intro level rest _
    simp only [pretty, tokens, tokens?_quote, List.singleton_append]
  | array items ih =>
    intro level rest hrest
    cases items with
    | nil =>
      exact tokens?_marks (rfl : mark? '[' = some .openArray) (rfl : mark? ']' = some .closeArray)
        rest
    | cons item items =>
      have hclose : NoDigit (indent level ++ ']' :: rest) := noDigit_indent_append level _
      have hitems := reads_prettyItems (level + 1) fun item hitem =>
        ih item (List.mem_cons_of_mem _ hitem) (level + 1)
      have hitem := ih item List.mem_cons_self (level + 1) _
        (noDigit_prettyItems_append (level + 1) items hclose)
      simp only [pretty, tokens, List.cons_append, List.append_assoc, List.nil_append]
      rw [tokens?_mark (rfl : mark? '[' = some .openArray), tokens?_indent, hitem,
        hitems _ hclose, tokens?_indent, tokens?_mark (rfl : mark? ']' = some .closeArray)]
      simp [Function.comp_def]
  | object fields ih =>
    intro level rest hrest
    cases fields with
    | nil =>
      exact tokens?_marks (rfl : mark? '{' = some .openObject) (rfl : mark? '}' = some .closeObject)
        rest
    | cons field fields =>
      obtain ⟨name, value⟩ := field
      have hclose : NoDigit (indent level ++ '}' :: rest) := noDigit_indent_append level _
      have hfields := reads_prettyFields (level + 1) fun field hfield =>
        ih field (List.mem_cons_of_mem _ hfield) (level + 1)
      have hvalue := ih (name, value) List.mem_cons_self (level + 1) _
        (noDigit_prettyFields_append (level + 1) fields hclose)
      simp only [pretty, tokens, List.cons_append, List.append_assoc, List.nil_append]
      rw [tokens?_mark (rfl : mark? '{' = some .openObject), tokens?_indent, tokens?_quote,
        tokens?_colon, hvalue, hfields _ hclose, tokens?_indent,
        tokens?_mark (rfl : mark? '}' = some .closeObject)]
      simp [Function.comp_def]

/-! ## Reading values -/

/-- An array with items cannot be taken for one without. -/
theorem head?_tokens_append_ne (v : Json) (rest : List Token) :
    (v.tokens ++ rest).head? ≠ some .closeArray := by
  cases v with
  | null | number n | string t => simp [tokens]
  | array items => cases items <;> simp [tokens]
  | object fields => cases fields <;> simp [tokens]

theorem readValue?_openArray {ts : List Token} (h : ts.head? ≠ some .closeArray) (rounds : Nat) :
    readValue? (rounds + 1) (.openArray :: ts) =
      (readItems? rounds ts).map fun (items, rest) => (.array items, rest) := by
  unfold readValue?
  split
  case h_4 hts =>
    cases hts
    exact absurd rfl h
  all_goals grind

/-- The tokens are read as the value, if there is a round for each. -/
def Parses (v : Json) : Prop :=
  ∀ rounds rest, v.tokens.length ≤ rounds → readValue? rounds (v.tokens ++ rest) = some (v, rest)

theorem readItems?_tokens {item : Json} {items : List Json} (rounds : Nat) (rest : List Token)
    (hitem : item.Parses) (hitems : ∀ item ∈ items, item.Parses)
    (h : item.tokens.length + (itemTokens items).length < rounds) :
    readItems? rounds (item.tokens ++ (itemTokens items ++ .closeArray :: rest)) =
      some (item :: items, rest) := by
  induction items generalizing item rounds with
  | nil =>
    obtain ⟨rounds, rfl⟩ := Nat.exists_eq_add_one.mpr (Nat.zero_lt_of_lt h)
    rw [readItems?, hitem rounds _ (by omega)]
    rfl
  | cons second items ih =>
    obtain ⟨rounds, rfl⟩ := Nat.exists_eq_add_one.mpr (Nat.zero_lt_of_lt h)
    simp only [itemTokens, List.cons_append, List.length_cons, List.length_append] at h
    have hmore := ih rounds (hitems second List.mem_cons_self)
      (fun item hitem => hitems item (List.mem_cons_of_mem second hitem)) (by omega)
    rw [readItems?, hitem rounds _ (by omega)]
    simp only [itemTokens, List.cons_append, List.append_assoc, hmore]
    rfl

theorem readFields?_tokens {value : Json} {fields : List (Text × Json)} (name : Text) (rounds : Nat)
    (rest : List Token) (hvalue : value.Parses) (hfields : ∀ field ∈ fields, field.2.Parses)
    (h : value.tokens.length + (fieldTokens fields).length < rounds) :
    readFields? rounds (.string name :: .colon ::
        (value.tokens ++ (fieldTokens fields ++ .closeObject :: rest))) =
      some ((name, value) :: fields, rest) := by
  induction fields generalizing name value rounds with
  | nil =>
    obtain ⟨rounds, rfl⟩ := Nat.exists_eq_add_one.mpr (Nat.zero_lt_of_lt h)
    rw [readFields?, hvalue rounds _ (by omega)]
    rfl
  | cons second fields ih =>
    obtain ⟨name', value'⟩ := second
    obtain ⟨rounds, rfl⟩ := Nat.exists_eq_add_one.mpr (Nat.zero_lt_of_lt h)
    simp only [fieldTokens, List.cons_append, List.length_cons, List.length_append] at h
    have hvalue' : value'.Parses := hfields (name', value') List.mem_cons_self
    have hmore := ih name' rounds hvalue'
      (fun field hfield => hfields field (List.mem_cons_of_mem _ hfield)) (by omega)
    rw [readFields?, hvalue rounds _ (by omega)]
    simp only [fieldTokens, List.cons_append, List.append_assoc, hmore]
    rfl

theorem parses (v : Json) : v.Parses := by
  induction v using Json.induction with
  | null | number n | string t =>
    intro rounds rest h
    obtain ⟨rounds, rfl⟩ := Nat.exists_eq_add_one.mpr (show 0 < rounds from h)
    rfl
  | array items ih =>
    intro rounds rest h
    cases items with
    | nil =>
      obtain ⟨rounds, rfl⟩ := Nat.exists_eq_add_one.mpr (Nat.zero_lt_of_lt h)
      rfl
    | cons item items =>
      obtain ⟨rounds, rfl⟩ := Nat.exists_eq_add_one.mpr (Nat.zero_lt_of_lt h)
      simp only [tokens, List.cons_append, List.length_cons, List.length_append] at h ⊢
      have hitems := readItems?_tokens rounds rest (ih item List.mem_cons_self)
        (fun item hitem => ih item (List.mem_cons_of_mem _ hitem)) (by omega)
      simp only [List.append_assoc, List.cons_append, List.nil_append]
      rw [readValue?_openArray (head?_tokens_append_ne item _), hitems]
      rfl
  | object fields ih =>
    intro rounds rest h
    cases fields with
    | nil =>
      obtain ⟨rounds, rfl⟩ := Nat.exists_eq_add_one.mpr (Nat.zero_lt_of_lt h)
      rfl
    | cons field fields =>
      obtain ⟨name, value⟩ := field
      obtain ⟨rounds, rfl⟩ := Nat.exists_eq_add_one.mpr (Nat.zero_lt_of_lt h)
      simp only [tokens, List.cons_append, List.length_cons, List.length_append] at h ⊢
      have hvalue : value.Parses := ih (name, value) List.mem_cons_self
      have hfields := readFields?_tokens name rounds rest hvalue
        (fun field hfield => ih field (List.mem_cons_of_mem _ hfield)) (by omega)
      simp only [List.append_assoc, List.cons_append, List.nil_append]
      rw [readValue?, hfields]
      · rfl
      all_goals simp

/-- A document reads as the value it was written for. -/
theorem read?_document (v : Json) : read? v.document = some v := by
  have htokens : tokens? v.document = some v.tokens := by
    simpa [tokens?, document] using reads_pretty v 0 [] noDigit_nil
  have hvalue := parses v v.tokens.length [] (Nat.le_refl _)
  rw [List.append_nil] at hvalue
  simp only [read?, htokens, hvalue]

example : read? "[1, \"\\ud83d\\ude00\"]".toList =
    some (.array [.number 1, .string ['😀']]) := by cbv

example : read? "[01]".toList = none := by cbv

theorem document_injective : Function.Injective document := by
  intro v v' h
  exact Option.some.inj ((read?_document v).symm.trans (h ▸ read?_document v'))

end CommitGate.Json
