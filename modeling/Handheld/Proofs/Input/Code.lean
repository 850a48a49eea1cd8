import Handheld.Input.Key
import Handheld.Proofs.Text.Number

/-!
# Key Codes

Which texts name a key, and which key writes them back.

- `IsCode` lists the codes that keyboards report for the keys known here;
- `Spells text code` says that a text is read as a code: it is the code, or it pads the
  number at the end of one.

A text names a key exactly if it spells a code, and the key it names writes that code.  A
padded number is read although no keyboard reports it, so two texts may name one key.
-/

namespace Handheld

namespace Key

open Text (Padding)

/-! ## §1 Texts

The texts of the keys, without the reader: a code is a name of the table or a member of a family,
and padding makes other texts for a code. -/

/-- The codes of the keys known here. -/
inductive IsCode : String → Prop
  | named {code : String} {key : Key} (listed : (code, key) ∈ namedCodes) : IsCode code
  | letter {glyph : Char} (capital : 'A' ≤ glyph ∧ glyph ≤ 'Z') :
      IsCode ("Key" ++ String.singleton glyph)
  | digit {value : Nat} (single : value ≤ 9) : IsCode ("Digit" ++ toString value)
  | function {number : Nat} (counted : 1 ≤ number ∧ number ≤ 12) :
      IsCode ("F" ++ toString number)

/-- The texts that are read as a code. -/
inductive Spells : (text code : String) → Prop
  | itself {code : String} (isCode : IsCode code) : Spells code code
  | digit {padding : List Char} {value : Nat} (pads : Padding padding) (single : value ≤ 9) :
      Spells ("Digit" ++ String.ofList padding ++ toString value) ("Digit" ++ toString value)
  | function {padding : List Char} {number : Nat} (pads : Padding padding)
      (counted : 1 ≤ number ∧ number ≤ 12) :
      Spells ("F" ++ String.ofList padding ++ toString number) ("F" ++ toString number)

/-! ## §2 Reading

A text that belongs to a family is not in the table, so the order in which the reader looks does not
matter. -/

theorem ofCode_named {code : String} {key : Key} (listed : (code, key) ∈ namedCodes) :
    ofCode code = key ∧ key.code = code ∧ key ≠ .unknown := by
  have all : ∀ named ∈ namedCodes,
      ofCode named.1 = named.2 ∧ named.2.code = named.1 ∧ named.2 ≠ .unknown := by decide
  exact all _ listed

/-- No code of its own is a code of a family. -/
theorem ofFamily_named : ∀ named ∈ namedCodes, ofFamily named.1.toList = .unknown := by decide

theorem mem_of_lookup {code : String} {key : Key} (found : namedCodes.lookup code = some key) :
    (code, key) ∈ namedCodes := by
  obtain ⟨before, after, split, -⟩ := List.lookup_eq_some_iff.1 found
  rw [split]
  exact List.mem_append_right _ List.mem_cons_self

/-- A text that belongs to a family is read by it. -/
theorem ofCode_family {text : String} {key : Key} (known : key ≠ .unknown)
    (family : ofFamily text.toList = key) : ofCode text = key := by
  unfold ofCode
  split
  -- A text of the table would belong to no family, but this one does.
  · next other found =>
    exact absurd (family.symm.trans (ofFamily_named _ (mem_of_lookup found))) known
  · exact family

theorem ofCode_letter {glyph : Char} (capital : 'A' ≤ glyph ∧ glyph ≤ 'Z') :
    ofCode ("Key" ++ String.singleton glyph) = .letter glyph := by
  refine ofCode_family nofun ?_
  simp [ofFamily, ofLetters, capital]

theorem ofCode_digit {padding : List Char} {value : Nat} (pads : Padding padding)
    (single : value ≤ 9) :
    ofCode ("Digit" ++ String.ofList padding ++ toString value) =
      .digit (UInt8.ofNat value) := by
  refine ofCode_family nofun ?_
  simp [ofFamily, ofDigits, Text.readNat?_padded pads, single]

theorem ofCode_function {padding : List Char} {number : Nat} (pads : Padding padding)
    (counted : 1 ≤ number ∧ number ≤ 12) :
    ofCode ("F" ++ String.ofList padding ++ toString number) =
      .function (UInt8.ofNat number) := by
  refine ofCode_family nofun ?_
  simp [ofFamily, ofNumber, Text.readNat?_padded pads, counted]

/-! ## §3 Writing -/

theorem code_letter (glyph : Char) : (letter glyph).code = "Key" ++ String.singleton glyph := rfl

theorem code_digit {value : Nat} (single : value ≤ 9) :
    (digit (UInt8.ofNat value)).code = "Digit" ++ toString value := by
  have fits : (UInt8.ofNat value).toNat = value :=
    UInt8.toNat_ofNat_of_lt' (Nat.lt_of_le_of_lt single (by decide))
  exact congrArg (fun n : Nat => "Digit" ++ toString n) fits

theorem code_function {number : Nat} (counted : 1 ≤ number ∧ number ≤ 12) :
    (function (UInt8.ofNat number)).code = "F" ++ toString number := by
  have fits : (UInt8.ofNat number).toNat = number :=
    UInt8.toNat_ofNat_of_lt' (Nat.lt_of_le_of_lt counted.2 (by decide))
  exact congrArg (fun n : Nat => "F" ++ toString n) fits

/-! ## §4 Spelling

The two directions: what spells a code is read as its key, and what is read as a key spells its
code.  The second follows the reader's own case distinctions. -/

theorem IsCode.read {code : String} (isCode : IsCode code) :
    ofCode code ≠ .unknown ∧ (ofCode code).code = code := by
  cases isCode with
  -- One case for each way in which a code can come about; what it writes is itself.
  | named listed =>
    obtain ⟨read, written, known⟩ := ofCode_named listed
    rw [read]
    exact ⟨known, written⟩
  | letter capital =>
    rw [ofCode_letter capital]
    exact ⟨nofun, code_letter _⟩
  | @digit value single =>
    -- Without padding the text of the family is the code.
    have read := ofCode_digit .nil single
    simp only [String.ofList_nil, String.append_empty] at read
    rw [read]
    exact ⟨nofun, code_digit single⟩
  | @function number counted =>
    have read := ofCode_function .nil counted
    simp only [String.ofList_nil, String.append_empty] at read
    rw [read]
    exact ⟨nofun, code_function counted⟩

/-- A text that spells a code spells nothing else, and is read as that code. -/
theorem Spells.read {text code : String} (spells : Spells text code) :
    IsCode code ∧ ofCode text = ofCode code := by
  cases spells with
  | itself isCode => exact ⟨isCode, rfl⟩
  | digit pads single =>
    refine ⟨.digit single, (ofCode_digit pads single).trans ?_⟩
    simpa using (ofCode_digit .nil single).symm
  | function pads counted =>
    refine ⟨.function counted, (ofCode_function pads counted).trans ?_⟩
    simpa using (ofCode_function .nil counted).symm

theorem spells_of_ofLetters {letters : List Char} (known : ofLetters letters ≠ .unknown) :
    ∃ code, Spells ("Key" ++ String.ofList letters) code := by
  unfold ofLetters at known
  split at known
  · next glyph =>
    -- Only one capital letter makes a key; any other text of the family is unknown.
    by_cases capital : 'A' ≤ glyph ∧ glyph ≤ 'Z'
    · rw [← String.singleton_eq_ofList]
      exact ⟨_, .itself (.letter capital)⟩
    · exact absurd (if_neg capital) known
  · exact absurd rfl known

theorem spells_of_ofDigits {digits : List Char} (known : ofDigits digits ≠ .unknown) :
    ∃ code, Spells ("Digit" ++ String.ofList digits) code := by
  unfold ofDigits at known
  split at known
  · next value read =>
    -- A number that is read has its canonical digits behind padding.
    obtain ⟨padding, pads, rfl⟩ := Text.readNat?_eq_some_iff.1 read
    by_cases single : value ≤ 9
    · rw [String.ofList_append, ← String.append_assoc]
      exact ⟨_, .digit pads single⟩
    · exact absurd (if_neg single) known
  · exact absurd rfl known

theorem spells_of_ofNumber {digits : List Char} (known : ofNumber digits ≠ .unknown) :
    ∃ code, Spells ("F" ++ String.ofList digits) code := by
  unfold ofNumber at known
  split at known
  · next number read =>
    obtain ⟨padding, pads, rfl⟩ := Text.readNat?_eq_some_iff.1 read
    by_cases counted : 1 ≤ number ∧ number ≤ 12
    · rw [String.ofList_append, ← String.append_assoc]
      exact ⟨_, .function pads counted⟩
    · exact absurd (if_neg counted) known
  · exact absurd rfl known

theorem spells_of_ofFamily {characters : List Char} (known : ofFamily characters ≠ .unknown) :
    ∃ code, Spells (String.ofList characters) code := by
  unfold ofFamily at known
  split at known
  -- The prefix is split off, and the rest belongs to its family.
  · next letters =>
    have split : String.ofList ('K' :: 'e' :: 'y' :: letters) = "Key" ++ String.ofList letters :=
      @String.ofList_append ['K', 'e', 'y'] letters
    rw [split]
    exact spells_of_ofLetters known
  · next digits =>
    have split : String.ofList ('D' :: 'i' :: 'g' :: 'i' :: 't' :: digits) =
        "Digit" ++ String.ofList digits :=
      @String.ofList_append ['D', 'i', 'g', 'i', 't'] digits
    rw [split]
    exact spells_of_ofDigits known
  · next digits =>
    have split : String.ofList ('F' :: digits) = "F" ++ String.ofList digits :=
      @String.ofList_append ['F'] digits
    rw [split]
    exact spells_of_ofNumber known
  · exact absurd rfl known

theorem spells_of_ofCode {text : String} (known : ofCode text ≠ .unknown) :
    ∃ code, Spells text code := by
  unfold ofCode at known
  split at known
  · next key found =>
    exact ⟨text, .itself (.named (mem_of_lookup found))⟩
  · simpa using spells_of_ofFamily known

/-! ## §5 The keys of all texts -/

/-- A text names a key exactly if it spells a code.  That code is unique: it is the one the
key writes, so the text comes back exactly if it is a code itself.  Two texts name the same
known key exactly if they spell the same code. -/
theorem ofCode_spelling (text : String) :
    (ofCode text ≠ .unknown ↔ ∃ code, Spells text code) ∧
    (∀ code, Spells text code → IsCode code ∧ (ofCode text).code = code) ∧
    (ofCode text ≠ .unknown → ((ofCode text).code = text ↔ IsCode text)) ∧
    ∀ other, ofCode text ≠ .unknown →
      (ofCode text = ofCode other ↔ ∃ code, Spells text code ∧ Spells other code) := by
  -- What is written for the key is the code that the text spells.
  have written {text code : String} (spells : Spells text code) :
      IsCode code ∧ (ofCode text).code = code := by
    obtain ⟨isCode, same⟩ := spells.read
    exact ⟨isCode, by rw [same, isCode.read.2]⟩
  refine ⟨⟨spells_of_ofCode, ?_⟩, fun code => written, ?_, ?_⟩
  · rintro ⟨code, spells⟩
    obtain ⟨isCode, same⟩ := spells.read
    rw [same]
    exact isCode.read.1
  -- The code that the text spells is the one that comes back, so it is the text or it is not.
  · intro known
    obtain ⟨code, spells⟩ := spells_of_ofCode known
    obtain ⟨isCode, same⟩ := written spells
    constructor
    · intro back
      rwa [← back, same]
    · exact fun isText => isText.read.2
  · intro other known
    -- Two texts of one key spell what that key writes.
    constructor
    · intro same
      obtain ⟨code, spells⟩ := spells_of_ofCode known
      obtain ⟨code', spells'⟩ := spells_of_ofCode (same ▸ known)
      have : code' = code := by rw [← (written spells').2, ← (written spells).2, same]
      exact ⟨code, spells, this ▸ spells'⟩
    · rintro ⟨code, spells, spells'⟩
      rw [spells.read.2, spells'.read.2]

/-- A leading zero and a plus sign make other texts for the seventh digit key. -/
theorem ofCode_spelling_of_padded_digit :
    ofCode "Digit+07" ≠ .unknown ∧ (ofCode "Digit+07").code = "Digit7" ∧
      ofCode "Digit+07" = ofCode "Digit7" := by
  have spells : Spells "Digit+07" "Digit7" := @Spells.digit _ 7 (.plus 1) (by decide)
  have itself : Spells "Digit7" "Digit7" := .itself spells.read.1
  have law := ofCode_spelling "Digit+07"
  have known : ofCode "Digit+07" ≠ .unknown := law.1.2 ⟨_, spells⟩
  exact ⟨known, (law.2.1 _ spells).2, (law.2.2.2 _ known).2 ⟨_, spells, itself⟩⟩

/-- A text with a plus sign is no code of a keyboard, and it names a key all the same. -/
theorem plus_sign_names_key :
    ofCode "Digit+7" ≠ .unknown ∧ ¬ IsCode "Digit+7" ∧
      (ofCode "Digit+7").code ≠ "Digit+7" ∧ ofCode "Digit+7" = ofCode "Digit7" := by
  have written : (ofCode "Digit+7").code ≠ "Digit+7" := by decide
  exact ⟨by decide, fun isCode => written isCode.read.2, written, by decide⟩

end Key

end Handheld
