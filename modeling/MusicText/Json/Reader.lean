import MusicText.Json.Defect
import MusicText.Json.Value
import MusicText.Numeral

/-!
Contract: values read from text.

Owns: the grammar of strings, numbers, arrays and objects, and the place of the first
defect.

Does not own: what a settings file may hold; see `MusicText.Settings.Loading`.

Every reader hands on what is left of its source together with the proof that
something was consumed, so reading ends.
-/

namespace MusicText.Json

open MusicText.Text

/-- What is left of a source after something was read. -/
structure Rest (source : Text) where
  text : Text
  shorter : text.length < source.length

namespace Rest

/-- What is left of a shorter source is left of a longer one. -/
def widen {source longer : Text} (rest : Rest source)
    (shorter : source.length ≤ longer.length) : Rest longer :=
  ⟨rest.text, Nat.lt_of_lt_of_le rest.shorter shorter⟩

end Rest

/-- The characters that may stand between the parts of a value. -/
def isGap (c : CodePoint) : Bool :=
  c == ' ' || c == '\t' || c == '\n' || c == '\r'

/-- Drops the gap before the next part. -/
def skipGap (source : Text) : Text :=
  source.dropWhile isGap

theorem length_skipGap_le (source : Text) : (skipGap source).length ≤ source.length :=
  (List.dropWhile_suffix isGap).length_le

/-- The value of a hexadecimal digit in either case. -/
def hexValue? (c : CodePoint) : Option Nat :=
  if c.isDigit then some (c.toNat - 48)
  else if 97 ≤ c.toNat ∧ c.toNat ≤ 102 then some (c.toNat - 87)
  else if 65 ≤ c.toNat ∧ c.toNat ≤ 70 then some (c.toNat - 55)
  else none

/-- The UTF-16 unit of four hexadecimal digits. -/
def unitOf? (digits : Text) : Option Nat :=
  (digits.mapM hexValue?).map fun values => values.foldl (fun unit digit => 16 * unit + digit) 0

/-- The character that a letter behind a backslash stands for. -/
def plainEscape? (c : CodePoint) : Option CodePoint :=
  if c = doubleQuote ∨ c = '\\' ∨ c = '/' then some c
  else if c = 'b' then some '\x08'
  else if c = 'f' then some '\x0c'
  else if c = 'n' then some '\n'
  else if c = 'r' then some '\r'
  else if c = 't' then some '\t'
  else none

/-- Joins surrogate pairs. A surrogate without a partner stands alone. -/
def joinUnits : List Nat → Text
  | high :: low :: rest =>
      if 0xD800 ≤ high ∧ high < 0xDC00 ∧ 0xDC00 ≤ low ∧ low < 0xE000 then
        CodePoint.ofNat (0x10000 + (high - 0xD800) * 0x400 + (low - 0xDC00)) :: joinUnits rest
      else CodePoint.ofNat high :: joinUnits (low :: rest)
  | [only] => [CodePoint.ofNat only]
  | [] => []

/-- A string as far as it is read: code points and UTF-16 units, and what is left
behind the closing quote. -/
structure StringPart (source : Text) where
  units : List Nat
  rest : Rest source

namespace StringPart

/-- Puts a unit in front of what was read of a shorter source. -/
def cons {source longer : Text} (unit : Nat) (part : StringPart source)
    (shorter : source.length ≤ longer.length) : StringPart longer :=
  ⟨unit :: part.units, part.rest.widen shorter⟩

end StringPart

/-- Reads a string behind its opening quote, which is `opening` characters before the
end of the text. -/
def readUnits (opening : Nat) : (source : Text) → Except Stop (StringPart source)
  | [] => .error (.defect .stringNotClosed opening)
  | c :: rest =>
      if c = doubleQuote then .ok ⟨[], ⟨rest, by simp⟩⟩
      else if c.toNat < 0x20 then .error (.defect .controlCharacter (rest.length + 1))
      else if c = '\\' then
        match rest with
        | [] => .error (.defect .stringNotClosed opening)
        | 'u' :: first :: second :: third :: fourth :: next :: more =>
            match unitOf? [first, second, third, fourth] with
            | none =>
                .error (.defect .unicodeEscapeExpected
                  (more.length + 6))
            | some unit =>
                (readUnits opening (next :: more)).map fun part =>
                  part.cons unit (by simp)
        | letter :: more =>
            if letter = 'u' then .error (.defect .unicodeEscapeExpected (more.length + 1))
            else
              match plainEscape? letter with
              | none => .error (.defect .unknownEscape (rest.length + 1))
              | some plain =>
                  (readUnits opening more).map fun part =>
                    part.cons plain.toNat (by simp; omega)
      else (readUnits opening rest).map fun part => part.cons c.toNat (by simp)

/-- Reads a string behind its opening quote. -/
def readString (source : Text) : Except Stop (Text × Rest source) :=
  (readUnits (source.length + 1) source).map fun part => (joinUnits part.units, part.rest)

/-- The literals that are words. -/
def wordLiterals : List (String × Json) :=
  [("null", .null), ("true", .boolean true), ("false", .boolean false),
   ("NaN", .fraction .undefined),
   ("Infinity", .fraction (.infinite false)),
   ("-Infinity", .fraction (.infinite true))]

/-- Cuts digits off a text. -/
def cutDigits (source : Text) : Text × Text :=
  (source.takeWhile CodePoint.isDigit, source.dropWhile CodePoint.isDigit)

/-- The parts of a number: sign, integer digits, fraction digits, exponent. -/
structure NumberParts where
  negative : Bool
  whole : Text
  decimals : Option Text
  exponent : Option Int
  deriving Repr

/-- Reads an exponent behind the letter that announces it. -/
def readExponent? (source : Text) : Option (Int × Text) :=
  let (sign, body) := Numeral.cutSign source
  let (digits, rest) := cutDigits body
  if digits = [] then none else some (sign * (decimalValue digits : Nat), rest)

/-- Reads a number as far as it goes. A fraction or an exponent without digits is
not part of it. -/
def readNumberParts? (source : Text) : Option (NumberParts × Text) :=
  let (negative, body) :=
    match source with
    | '-' :: rest => (true, rest)
    | _ => (false, source)
  let (digits, behind) := cutDigits body
  let whole : Text := if digits.head? = some (.scalar '0') then ['0'] else digits
  let behind := if digits.head? = some (.scalar '0') then body.drop 1 else behind
  if whole = [] then none
  else
    let (decimals, behind) :=
      match behind with
      | '.' :: rest =>
          let (digits, more) := cutDigits rest
          if digits = [] then (none, behind) else (some digits, more)
      | _ => (none, behind)
    let (exponent, behind) :=
      match behind with
      | c :: rest =>
          if c = 'e' ∨ c = 'E' then
            match readExponent? rest with
            | some (exponent, more) => (some exponent, more)
            | none => (none, behind)
          else (none, behind)
      | [] => (none, behind)
    some (⟨negative, whole, decimals, exponent⟩, behind)

/-- The value of a number: an integer, or the binary number nearest to a fraction. -/
def NumberParts.toValue (parts : NumberParts) : Except Stop Json :=
  match parts.decimals, parts.exponent with
  | none, none =>
      if Numeral.digitLimit < parts.whole.length then .error (.integerTooLong parts.whole.length)
      else
        let magnitude : Int := decimalValue parts.whole
        .ok (.integer (if parts.negative then -magnitude else magnitude))
  | decimals, exponent =>
      let decimals := decimals.getD []
      .ok (.fraction (.ofDecimal parts.negative (decimalValue (parts.whole ++ decimals))
        (exponent.getD 0 - decimals.length)))

/-- Reads a word literal or a number. -/
def readScalar (source : Text) : Except Stop (Json × Rest source) :=
  match wordLiterals.find? fun entry => entry.1.toText.isPrefixOf source with
  | some (word, value) =>
      let behind := source.drop word.toText.length
      if shorter : behind.length < source.length then .ok (value, ⟨behind, shorter⟩)
      else .error (.defect .valueExpected source.length)
  | none =>
      match readNumberParts? source with
      | none => .error (.defect .valueExpected source.length)
      | some (parts, behind) =>
          if shorter : behind.length < source.length then
            match parts.toValue with
            | .error stop => .error stop
            | .ok value => .ok (value, ⟨behind, shorter⟩)
          else .error (.defect .valueExpected source.length)

mutual

/-- Reads a value at the beginning of the source, in which so many arrays and objects may
still be opened within each other. -/
def readValue (nesting : Nat) (source : Text) : Except Stop (Json × Rest source) :=
  match shape : source with
  | [] => .error (.defect .valueExpected 0)
  | c :: rest =>
      have gap := length_skipGap_le rest
      if c = doubleQuote then
        match readString rest with
        | .error stop => .error stop
        | .ok (text, behind) => .ok (.string text, behind.widen (by simp))
      else if c = '[' then
        match nesting with
        | 0 => .error (.nestedTooDeeply .array)
        | inner + 1 =>
            match opened : skipGap rest with
            | ']' :: behind =>
                .ok (.array [], ⟨behind, by rw [opened] at gap; simp at gap ⊢; omega⟩)
            | items =>
                match readItems inner items with
                | .error stop => .error stop
                | .ok (values, behind) =>
                    .ok (.array values, behind.widen (by rw [opened] at gap; simp; omega))
      else if c = '\x7b' then
        match nesting with
        | 0 => .error (.nestedTooDeeply .object)
        | inner + 1 =>
            match opened : skipGap rest with
            | '\x7d' :: behind =>
                .ok (.object [], ⟨behind, by rw [opened] at gap; simp at gap ⊢; omega⟩)
            | members =>
                match readMembers inner members with
                | .error stop => .error stop
                | .ok (values, behind) =>
                    .ok (.object
                        (values.foldl (fun known entry => setMember entry.1 entry.2 known) []),
                      behind.widen (by rw [opened] at gap; simp; omega))
      else readScalar (c :: rest)
termination_by (source.length, 0)
decreasing_by
  · rw [opened] at gap; simp_wf; omega
  · rw [opened] at gap; simp_wf; omega

/-- Reads the items of an array up to its closing bracket. -/
def readItems (nesting : Nat) (source : Text) : Except Stop (List Json × Rest source) :=
  match readValue nesting source with
  | .error stop => .error stop
  | .ok (value, behind) =>
      have gap := length_skipGap_le behind.text
      have shorter := behind.shorter
      match following : skipGap behind.text with
      | ']' :: rest => .ok ([value], ⟨rest, by rw [following] at gap; simp at gap; omega⟩)
      | ',' :: rest =>
          have next := length_skipGap_le rest
          match readItems nesting (skipGap rest) with
          | .error stop => .error stop
          | .ok (values, last) =>
              .ok (value :: values,
                last.widen (by rw [following] at gap; simp at gap; omega))
      | rest => .error (.defect .commaExpected rest.length)
termination_by (source.length, 1)
decreasing_by
  · omega
  · rw [following] at gap; simp at gap; omega

/-- Reads the members of an object up to its closing brace. -/
def readMembers (nesting : Nat) (source : Text) : Except Stop (List (Text × Json) × Rest source) :=
  match named : source with
  | [] => .error (.defect .nameExpected 0)
  | quote :: rest =>
      if quote = doubleQuote then
        match readString rest with
        | .error stop => .error stop
        | .ok (name, behindName) =>
            have nameGap := length_skipGap_le behindName.text
            have nameShorter := behindName.shorter
            match colon : skipGap behindName.text with
            | ':' :: afterColon =>
                have colonGap := length_skipGap_le afterColon
                match readValue nesting (skipGap afterColon) with
                | .error stop => .error stop
                | .ok (value, behind) =>
                    have gap := length_skipGap_le behind.text
                    have shorter := behind.shorter
                    match following : skipGap behind.text with
                    | '\x7d' :: last =>
                        .ok ([(name, value)], ⟨last, by
                          rw [following] at gap; rw [colon] at nameGap
                          simp at gap nameGap ⊢; omega⟩)
                    | ',' :: last =>
                        have next := length_skipGap_le last
                        match readMembers nesting (skipGap last) with
                        | .error stop => .error stop
                        | .ok (values, final) =>
                            .ok ((name, value) :: values, final.widen (by
                              rw [following] at gap; rw [colon] at nameGap
                              simp at gap nameGap ⊢; omega))
                    | last => .error (.defect .commaExpected last.length)
            | other => .error (.defect .colonExpected other.length)
      else .error (.defect .nameExpected (rest.length + 1))
termination_by (source.length, 2)
decreasing_by
  · rw [colon] at nameGap; simp at nameGap; simp_wf; omega
  · rw [following] at gap; rw [colon] at nameGap; simp at gap nameGap; simp_wf; omega

end

/-- Reads a text that holds one value and nothing else but gaps. So many arrays and
objects may be opened within each other. -/
def read (nesting : Nat) (source : Text) : Except Refusal Json :=
  if source.head? = some (.scalar '\uFEFF') then
    .error (Refusal.ofStop source (.defect .byteOrderMark source.length))
  else
    match readValue nesting (skipGap source) with
    | .error stop => .error (Refusal.ofStop source stop)
    | .ok (value, behind) =>
        match skipGap behind.text with
        | [] => .ok value
        | rest => .error (Refusal.ofStop source (.defect .furtherText rest.length))

end MusicText.Json
