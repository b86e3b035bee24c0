/-
How a device is chosen.  A text without the blanks around it is a numeral, a name
or neither, and never both: its meaning is that of the one reading that accepts it,
in whatever order they are tried, and a numeral above the range of a byte is no
name either.
-/

import FlashScript.Device

namespace FlashScript

/-! ### Blanks around a text -/

namespace Blank

variable {text core front back : List Char}

def AllBlank (text : List Char) : Prop :=
  ∀ character ∈ text, isBlank character = true

theorem AllBlank.append (first : AllBlank front) (second : AllBlank back) :
    AllBlank (front ++ back) :=
  List.forall_mem_append.mpr ⟨first, second⟩

/-- What a text is without the blanks at both of its ends. -/
structure Trims (text core : List Char) : Prop where
  surrounded : ∃ front back,
    text = front ++ core ++ back ∧ AllBlank front ∧ AllBlank back
  begins : ∀ character ∈ core.head?, isBlank character = false
  ends : ∀ character ∈ core.getLast?, isBlank character = false

theorem dropWhile_blanks (blanks : AllBlank front)
    (begins : ∀ character ∈ text.head?, isBlank character = false) :
    (front ++ text).dropWhile isBlank = text := by
  rw [List.dropWhile_append_of_pos blanks]
  cases text with
  | nil => rfl
  | cons character later =>
      exact List.dropWhile_cons_of_neg (Bool.eq_false_iff.mp (begins character rfl))

theorem trim_blanks (blanks : AllBlank text) : trim text = [] := by
  have nothing : (text ++ []).dropWhile isBlank = [] := dropWhile_blanks blanks nofun
  rw [List.append_nil] at nothing
  rw [trim, nothing]
  rfl

theorem Trims.trim_eq (trims : Trims text core) : trim text = core := by
  obtain ⟨front, back, rfl, blankFront, blankBack⟩ := trims.surrounded
  cases core with
  | nil =>
      rw [List.append_nil]
      exact trim_blanks (blankFront.append blankBack)
  | cons first later =>
      have begins : (front ++ (first :: later ++ back)).dropWhile isBlank =
          first :: later ++ back := dropWhile_blanks blankFront trims.begins
      have blankReversed : AllBlank back.reverse := fun character member =>
        blankBack character (List.mem_reverse.mp member)
      have ends : (back.reverse ++ (first :: later).reverse).dropWhile isBlank =
          (first :: later).reverse := by
        refine dropWhile_blanks blankReversed ?_
        rw [List.head?_reverse]
        exact trims.ends
      rw [trim, List.append_assoc, begins, List.reverse_append, ends, List.reverse_reverse]

theorem begins_dropWhile (text : List Char) :
    ∀ character ∈ (text.dropWhile isBlank).head?, isBlank character = false := by
  intro character member
  have own := List.head?_dropWhile_not isBlank text
  rw [Option.mem_def.mp member] at own
  exact own

theorem blanks_takeWhile (text : List Char) : AllBlank (text.takeWhile isBlank) :=
  List.all_eq_true.mp List.all_takeWhile

theorem trims_trim (text : List Char) : Trims text (trim text) := by
  let rest := text.dropWhile isBlank
  have front : text = text.takeWhile isBlank ++ rest :=
    List.takeWhile_append_dropWhile.symm
  have back : rest = trim text ++ (rest.reverse.takeWhile isBlank).reverse := by
    rw [trim, ← List.reverse_append, List.takeWhile_append_dropWhile,
      List.reverse_reverse]
  refine ⟨⟨text.takeWhile isBlank, (rest.reverse.takeWhile isBlank).reverse, ?_,
    blanks_takeWhile text, ?_⟩, ?_, ?_⟩
  · rw [List.append_assoc, ← back]
    exact front
  · intro character member
    exact blanks_takeWhile _ character (List.mem_reverse.mp member)
  · -- What is left begins where the rest does, unless nothing is left.
    intro character member
    refine begins_dropWhile text character ?_
    change character ∈ rest.head?
    rw [back, List.head?_append, Option.mem_def.mp member]
    rfl
  · intro character member
    rw [trim, List.getLast?_reverse] at member
    exact begins_dropWhile rest.reverse character member

theorem trim_eq_iff : trim text = core ↔ Trims text core := by
  constructor
  · rintro rfl
    exact trims_trim text
  · exact Trims.trim_eq

theorem trimmed_eq_iff {text core : String} :
    trimmed text = core ↔ Trims text.toList core.toList := by
  rw [← trim_eq_iff, trimmed]
  constructor
  · rintro rfl
    rw [String.toList_ofList]
  · intro same
    rw [same, String.ofList_toList]

theorem trim_surrounded (blankFront : AllBlank front) (blankBack : AllBlank back) :
    trim (front ++ text ++ back) = trim text := by
  have trims := trims_trim text
  obtain ⟨before, behind, split, blankBefore, blankBehind⟩ := trims.surrounded
  refine Trims.trim_eq ⟨⟨front ++ before, behind ++ back, ?_,
    blankFront.append blankBefore, blankBehind.append blankBack⟩, trims.begins, trims.ends⟩
  have inner := congrArg (fun between => front ++ between ++ back) split
  simp only [List.append_assoc] at inner ⊢
  exact inner

end Blank

namespace Device

/-! ### Numerals -/

/-- Decimal digits with their value, which has no bound, after a plus sign or
without it. -/
inductive Numeral : List Char → Nat → Prop where
  | plain {digits : List Char} (nonempty : digits ≠ [])
      (decimal : ∀ digit ∈ digits, digit.isDigit = true) :
      Numeral digits (Nat.ofDigitChars 10 digits 0)
  | signed {digits : List Char} (nonempty : digits ≠ [])
      (decimal : ∀ digit ∈ digits, digit.isDigit = true) :
      Numeral ('+' :: digits) (Nat.ofDigitChars 10 digits 0)

/-- What is known of a reader of bytes: it takes the numerals of all bytes, with
any number of zeros in front, and nothing else. -/
structure ReadsByte (read : List Char → Option UInt8) : Prop where
  reads : ∀ text byte, read text = some byte ↔ Numeral text byte.toNat

variable {text digits : List Char} {value number : Nat} {device : Device}

/-- A value that is cut off at the end of the menu stays there. -/
theorem digitsValue_eq (digits : List Char) :
    digitsValue digits = min beyondMenu (Nat.ofDigitChars 10 digits 0) := by
  suffices from_any : ∀ start,
      digits.foldl (fun value digit =>
          min beyondMenu (10 * value + (digit.toNat - '0'.toNat))) (min beyondMenu start) =
        min beyondMenu (Nat.ofDigitChars 10 digits start) from from_any 0
  induction digits with
  | nil =>
      intro start
      rw [List.foldl_nil, Nat.ofDigitChars_nil]
  | cons digit later inductionHypothesis =>
      intro start
      have cut : min beyondMenu (10 * min beyondMenu start + (digit.toNat - '0'.toNat)) =
          min beyondMenu (10 * start + (digit.toNat - '0'.toNat)) := by
        rw [beyondMenu]
        omega
      rw [List.foldl_cons, cut, inductionHypothesis, Nat.ofDigitChars_cons]

theorem nonempty_and_decimal_iff : (digits ≠ [] ∧ digits.all Char.isDigit = true) ↔
    digits ≠ [] ∧ ∀ digit ∈ digits, digit.isDigit = true := by
  rw [List.all_eq_true]

theorem unsigned_of_decimal (decimal : ∀ digit ∈ digits, digit.isDigit = true)
    (later : List Char) : digits ≠ '+' :: later := by
  rintro rfl
  exact absurd (decimal '+' List.mem_cons_self) (by decide)

theorem numeral?_signed (digits : List Char) :
    numeral? ('+' :: digits) =
      if digits ≠ [] ∧ digits.all Char.isDigit then some (digitsValue digits)
      else none :=
  rfl

theorem numeral?_unsigned (unsigned : ∀ later, text ≠ '+' :: later) :
    numeral? text =
      if text ≠ [] ∧ text.all Char.isDigit then some (digitsValue text)
      else none := by
  rw [numeral?]
  exact unsigned

theorem Numeral.numeral?_eq (numeral : Numeral text value) :
    numeral? text = some (min beyondMenu value) := by
  cases numeral with
  | plain nonempty decimal =>
      rw [numeral?_unsigned (unsigned_of_decimal decimal),
        if_pos (nonempty_and_decimal_iff.mpr ⟨nonempty, decimal⟩), digitsValue_eq]
  | signed nonempty decimal =>
      rw [numeral?_signed, if_pos (nonempty_and_decimal_iff.mpr ⟨nonempty, decimal⟩),
        digitsValue_eq]

theorem numeral_of_numeral? (found : numeral? text = some number) :
    ∃ value, Numeral text value ∧ number = min beyondMenu value := by
  by_cases signed : ∃ digits, text = '+' :: digits
  · obtain ⟨digits, rfl⟩ := signed
    obtain ⟨decimal, same⟩ := Option.ite_none_right_eq_some.mp
      ((numeral?_signed digits).symm.trans found)
    cases same
    obtain ⟨nonempty, decimal⟩ := nonempty_and_decimal_iff.mp decimal
    exact ⟨_, .signed nonempty decimal, digitsValue_eq digits⟩
  · have unsigned := not_exists.mp signed
    obtain ⟨decimal, same⟩ := Option.ite_none_right_eq_some.mp
      ((numeral?_unsigned unsigned).symm.trans found)
    cases same
    obtain ⟨nonempty, decimal⟩ := nonempty_and_decimal_iff.mp decimal
    exact ⟨_, .plain nonempty decimal, digitsValue_eq text⟩

theorem Numeral.unique {other : Nat} (numeral : Numeral text value)
    (again : Numeral text other) : value = other := by
  cases numeral with
  | plain nonempty decimal =>
      generalize same : text = copy at again
      cases again with
      | plain => rw [← same]
      | signed => exact absurd same (unsigned_of_decimal decimal _)
  | signed nonempty decimal =>
      cases again with
      | plain _ decimal => exact absurd rfl (unsigned_of_decimal decimal _)
      | signed => rfl

theorem Numeral.signed_or_decimal (numeral : Numeral text value) :
    ∀ character ∈ text, character = '+' ∨ character.isDigit = true := by
  cases numeral with
  | plain nonempty decimal =>
      intro character member
      exact .inr (decimal character member)
  | signed nonempty decimal =>
      exact List.forall_mem_cons.mpr
        ⟨.inl rfl, fun character member => .inr (decimal character member)⟩

/-! ### Numbers and names of devices -/

/-- Text that is the name of a device but for the case of ASCII letters. -/
def Named (text : List Char) (device : Device) : Prop :=
  text.map Char.toLower = device.name.toList.map Char.toLower

instance decidableNamed (text : List Char) (device : Device) :
    Decidable (Named text device) :=
  decEq (text.map Char.toLower) (device.name.toList.map Char.toLower)

/-- Which device a text without blanks around it stands for. -/
def Means (text : List Char) (device : Device) : Prop :=
  Numeral text device.ordinal ∨ Named text device

theorem ordinal_lt_beyondMenu (device : Device) : device.ordinal < beyondMenu := by
  cases device <;> decide

theorem ofOrdinal?_eq_some_iff :
    ofOrdinal? number = some device ↔ number = device.ordinal := by
  constructor
  · intro found
    have own := List.find?_some found
    exact (of_decide_eq_true own).symm
  · rintro rfl
    cases device <;> rfl

theorem ofTrimmedName?_eq_some_iff :
    ofTrimmedName? text = some device ↔ Named text device := by
  constructor
  · intro found
    have own := List.find?_some found
    exact of_decide_eq_true own
  · -- The look-up sees no more of a text than its lower case.
    intro named
    change catalogue.find? (fun entry => decide (text.map Char.toLower =
      entry.name.toList.map Char.toLower)) = some device
    rw [Named.eq_def] at named
    rw [named]
    cases device <;> decide

theorem toLower_of_isDigit {digit : Char} (decimal : digit.isDigit = true) :
    digit.toLower = digit := by
  have below : digit.val ≤ '9'.val :=
    of_decide_eq_true (Bool.and_eq_true_iff.mp decimal).2
  have other : ¬('A'.val ≤ digit.val ∧ digit.val ≤ 'Z'.val) := by
    rintro ⟨capital, _⟩
    have crossed := Nat.le_trans (UInt32.le_iff_toNat_le.mp capital)
      (UInt32.le_iff_toNat_le.mp below)
    exact absurd crossed (by decide)
  exact dif_neg other

/-- Every name begins with a letter. -/
theorem Numeral.not_named (numeral : Numeral text value) (device : Device) :
    ¬Named text device := by
  intro named
  have begins : (text.map Char.toLower).head? = some 'p' := by
    rw [named]
    cases device <;> decide
  obtain ⟨first, among, lower⟩ := List.mem_map.mp (List.mem_of_head? begins)
  rcases numeral.signed_or_decimal first among with rfl | decimal
  · exact absurd lower (by decide)
  · rw [toLower_of_isDigit decimal] at lower
    rw [lower] at decimal
    exact absurd decimal (by decide)

theorem ofOrdinal?_min_eq_some_iff :
    ofOrdinal? (min beyondMenu value) = some device ↔ value = device.ordinal := by
  have small := ordinal_lt_beyondMenu device
  rw [ofOrdinal?_eq_some_iff]
  omega

theorem Numeral.means_iff (numeral : Numeral text value) :
    Means text device ↔ value = device.ordinal := by
  constructor
  · intro means
    rcases means with again | named
    · exact numeral.unique again
    · exact absurd named (numeral.not_named device)
  · rintro rfl
    exact .inl numeral

theorem ofChoice?_of_numeral {chosen : String}
    (numeral : Numeral (Blank.trim chosen.toList) value) :
    ofChoice? chosen = ofOrdinal? (min beyondMenu value) := by
  rw [ofChoice?, numeral.numeral?_eq]

theorem ofChoice?_of_no_numeral {chosen : String}
    (none : ∀ value, ¬Numeral (Blank.trim chosen.toList) value) :
    ofChoice? chosen = ofName? chosen := by
  rw [ofChoice?]
  split
  · rename_i number found
    obtain ⟨value, numeral, _⟩ := numeral_of_numeral? found
    exact absurd numeral (none value)
  · rfl

theorem ofChoice?_eq_some_iff {chosen : String} :
    ofChoice? chosen = some device ↔ Means (Blank.trim chosen.toList) device := by
  by_cases number : ∃ value, Numeral (Blank.trim chosen.toList) value
  · obtain ⟨value, numeral⟩ := number
    rw [ofChoice?_of_numeral numeral, ofOrdinal?_min_eq_some_iff, numeral.means_iff]
  · have none := not_exists.mp number
    rw [ofChoice?_of_no_numeral none, ofName?, ofTrimmedName?_eq_some_iff]
    exact (or_iff_right (none device.ordinal)).symm

/-! ### Two readers in turn -/

variable {read : List Char → Option UInt8}

def byteNumeral? (text : List Char) : Option UInt8 :=
  (numeral? text).bind (fun number =>
    if number < 256 then some (UInt8.ofNat number) else none)

theorem readsByte_byteNumeral? : ReadsByte byteNumeral? where
  reads := by
    intro text byte
    have small := byte.toNat_lt
    rw [byteNumeral?, Option.bind_eq_some_iff]
    constructor
    · rintro ⟨number, found, same⟩
      obtain ⟨below, same⟩ := Option.ite_none_right_eq_some.mp same
      cases same
      obtain ⟨value, numeral, rfl⟩ := numeral_of_numeral? found
      have whole : (UInt8.ofNat (min beyondMenu value)).toNat = value := by
        rw [UInt8.toNat_ofNat', beyondMenu]
        rw [beyondMenu] at below
        omega
      rw [whole]
      exact numeral
    · intro numeral
      have whole : min beyondMenu byte.toNat = byte.toNat := by
        rw [beyondMenu]
        omega
      refine ⟨byte.toNat, ?_, ?_⟩
      · rw [numeral.numeral?_eq, whole]
      · rw [if_pos small, UInt8.ofNat_toNat]

theorem ReadsByte.eq_none_iff (reads : ReadsByte read) :
    read text = none ↔ ∀ value, Numeral text value → 255 < value := by
  constructor
  · intro failed value numeral
    refine Nat.lt_of_not_le (fun small => ?_)
    have fits : (UInt8.ofNat value).toNat = value := by
      rw [UInt8.toNat_ofNat']
      omega
    have found := (reads.reads text (UInt8.ofNat value)).mpr (by rw [fits]; exact numeral)
    rw [failed] at found
    cases found
  · intro large
    rw [Option.eq_none_iff_forall_ne_some]
    intro byte found
    have above := large _ ((reads.reads text byte).mp found)
    have below := byte.toNat_lt
    omega

/-- A reader of bytes that is asked first changes nothing, whether it fails because
there is no numeral or because there is a large one. -/
theorem ofChoice?_eq_in_turn (reads : ReadsByte read) (chosen : String) :
    ofChoice? chosen =
      match read (Blank.trim chosen.toList) with
      | some byte => ofOrdinal? byte.toNat
      | none => ofName? chosen := by
  split
  · rename_i byte found
    have numeral := (reads.reads _ byte).mp found
    have small := byte.toNat_lt
    have whole : min beyondMenu byte.toNat = byte.toNat := by
      rw [beyondMenu]
      omega
    rw [ofChoice?_of_numeral numeral, whole]
  · rename_i failed
    by_cases number : ∃ value, Numeral (Blank.trim chosen.toList) value
    · obtain ⟨value, numeral⟩ := number
      have large := reads.eq_none_iff.mp failed value numeral
      have noName : ofName? chosen = none := by
        rw [Option.eq_none_iff_forall_ne_some]
        intro device found
        exact numeral.not_named device (ofTrimmedName?_eq_some_iff.mp found)
      rw [noName, Option.eq_none_iff_forall_ne_some]
      intro device found
      have small := ordinal_lt_beyondMenu device
      have same := numeral.means_iff.mp (ofChoice?_eq_some_iff.mp found)
      rw [beyondMenu] at small
      omega
    · exact ofChoice?_of_no_numeral (not_exists.mp number)

end Device

/-- A device is chosen by its number, written with any number of digits, or by its
name, and by nothing else.  No text can be read in both ways or for two devices, so
that readers which are tried in turn agree with this, also where the first of them
fails on a number that is too large. -/
theorem choice_reads_numbers_and_names (text : String)
    {read : List Char → Option UInt8} (reads : Device.ReadsByte read) :
    let core := Blank.trim text.toList
    (∀ other, Blank.Trims text.toList other ↔ other = core) ∧
      (∀ device, Device.ofChoice? text = some device ↔ Device.Means core device) ∧
      (Device.ofChoice? text = none ↔ ∀ device, ¬Device.Means core device) ∧
      (Device.ofChoice? text =
        match read core with
        | some byte => Device.ofOrdinal? byte.toNat
        | none => Device.ofName? text) ∧
      (∀ value device, Device.Numeral core value → ¬Device.Named core device) ∧
      (∀ one other, Device.Means core one → Device.Means core other → one = other) ∧
      (∀ value, Device.Numeral core value →
        (255 < value ∨ ∀ device : Device, device.ordinal ≠ value) →
          Device.ofChoice? text = none) ∧
      (∀ front back : String, Blank.AllBlank front.toList → Blank.AllBlank back.toList →
        Device.ofChoice? (front ++ text ++ back) = Device.ofChoice? text) := by
  intro core
  have accepts (device : Device) :
      Device.ofChoice? text = some device ↔ Device.Means core device :=
    Device.ofChoice?_eq_some_iff
  refine ⟨fun other => Blank.trim_eq_iff.symm.trans eq_comm, accepts, ?_,
    Device.ofChoice?_eq_in_turn reads text, ?_, ?_, ?_, ?_⟩
  · rw [Option.eq_none_iff_forall_ne_some]
    exact forall_congr' (fun device => not_congr (accepts device))
  · intro value device numeral
    exact numeral.not_named device
  · intro one other means also
    exact Option.some.inj (((accepts one).mpr means).symm.trans ((accepts other).mpr also))
  · intro value numeral outside
    rw [Option.eq_none_iff_forall_ne_some]
    intro device found
    have same := numeral.means_iff.mp ((accepts device).mp found)
    rcases outside with large | other
    · have small := device.ordinal_lt_beyondMenu
      rw [Device.beyondMenu] at small
      omega
    · exact other device same.symm
  · intro front back blankFront blankBack
    rw [Device.ofChoice?, Device.ofChoice?, String.toList_append, String.toList_append,
      Blank.trim_surrounded blankFront blankBack]

theorem choice_reads_numbers_and_names_near_the_menu :
    Device.ofChoice? "\u2003+0002\u000D\n" = some .pic12f675 ∧
      Device.ofChoice? "\u00A0258" = none ∧
      Device.ofChoice? " pIC16f1936\t" = some .pic16f1936 := by
  have reads := Device.readsByte_byteNumeral?
  refine ⟨?_, ?_, ?_⟩
  · have core : Blank.trim "\u2003+0002\u000D\n".toList = ['+', '0', '0', '0', '2'] := by
      decide
    obtain ⟨_, accepts, _⟩ := choice_reads_numbers_and_names "\u2003+0002\u000D\n" reads
    rw [accepts, core]
    exact .inl (.signed (List.cons_ne_nil _ _) (List.all_eq_true.mp rfl))
  · have core : Blank.trim "\u00A0258".toList = ['2', '5', '8'] := by decide
    obtain ⟨_, _, _, _, _, _, rejects, _⟩ :=
      choice_reads_numbers_and_names "\u00A0258" reads
    refine rejects 258 ?_ (.inl (by decide))
    rw [core]
    exact .plain (List.cons_ne_nil _ _) (List.all_eq_true.mp rfl)
  · obtain ⟨_, accepts, _⟩ := choice_reads_numbers_and_names " pIC16f1936\t" reads
    rw [accepts]
    exact .inr (by decide)

end FlashScript
