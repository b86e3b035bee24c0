/-
Bytes that are text.  The strict reader accepts the bytes of every text and no other
bytes: what may follow each of its states is split at the first byte, and a step of
the reader is such a split.
-/

import FlashScript.Proofs.Decoding

namespace FlashScript.Utf8

open String (utf8EncodeChar)

/-! ### Bytes of a character -/

/-- The lowest bits of a value, six in each continuation byte, the highest first. -/
def continuations (value : Nat) : Nat → List UInt8
  | 0 => []
  | owed + 1 =>
      UInt8.ofNat (value / Begun.values owed % 64 + 0x80) :: continuations value owed

/-- First byte of a character outside ASCII. -/
def lead (value : Nat) : Nat :=
  if value < 0x800 then value / 64 + 0xC0
  else if value < 0x10000 then value / 4096 + 0xE0
  else value / 262144 + 0xF0

/-- How many bytes follow the first one. -/
def extra (value : Nat) : Nat :=
  if value < 0x800 then 1
  else if value < 0x10000 then 2
  else 3

variable {character : Char} {value : Nat} {begun : Begun} {byte : UInt8}
  {rest bytes : List UInt8} {state : State} {characters : List Char} {text : String}

theorem toNat_continuation (value owed : Nat) :
    (UInt8.ofNat (value / Begun.values owed % 64 + 0x80)).toNat =
      value / Begun.values owed % 64 + 0x80 := by
  rw [UInt8.toNat_ofNat']
  omega

theorem isValidChar_toNat (character : Char) : character.toNat.isValidChar :=
  character.valid

theorem lead_cases (value : Nat) :
    value < 0x800 ∧ lead value = value / 64 + 0xC0 ∧ extra value = 1 ∨
      0x800 ≤ value ∧ value < 0x10000 ∧ lead value = value / 4096 + 0xE0 ∧
          extra value = 2 ∨
        0x10000 ≤ value ∧ lead value = value / 262144 + 0xF0 ∧ extra value = 3 := by
  unfold lead extra
  split
  · omega
  split <;> omega

theorem lead_lt (valid : value.isValidChar) : lead value < 256 := by
  unfold Nat.isValidChar at valid
  unfold lead
  split
  · omega
  split <;> omega

theorem utf8EncodeChar_of_small (small : character.toNat < 128) :
    utf8EncodeChar character = [UInt8.ofNat character.toNat] :=
  if_pos (Nat.le_of_lt_succ small)

theorem utf8EncodeChar_of_large (large : 128 ≤ character.toNat) :
    utf8EncodeChar character =
      UInt8.ofNat (lead character.toNat) ::
        continuations character.toNat (extra character.toNat) := by
  have valid := isValidChar_toNat character
  unfold utf8EncodeChar
  unfold Char.toNat Nat.isValidChar at *
  generalize character.val.toNat = value at *
  unfold lead extra
  dsimp only
  rw [if_neg (Nat.not_le_of_lt large)]
  by_cases two : value < 0x800
  · have bits : value / 64 % 0x20 = value / 64 := by omega
    rw [if_pos (Nat.le_of_lt_succ two), if_pos two, if_pos two, bits]
    simp only [continuations, Begun.values, Nat.div_one]
  · rw [if_neg (fun below => two (Nat.lt_succ_of_le below)), if_neg two, if_neg two]
    by_cases three : value < 0x10000
    · have bits : value / 4096 % 0x10 = value / 4096 := by omega
      rw [if_pos (Nat.le_of_lt_succ three), if_pos three, if_pos three, bits]
      simp only [continuations, Begun.values, Nat.div_one, Nat.mul_one]
    · have bits : value / 262144 % 0x08 = value / 262144 := by omega
      rw [if_neg (fun below => three (Nat.lt_succ_of_le below)), if_neg three,
        if_neg three, bits]
      simp only [continuations, Begun.values, Nat.div_one, Nat.mul_one, Nat.reduceMul]

/-! ### Splitting at the first byte -/

/-- A begun character that a continuation byte can carry on. -/
structure Begun.Open (begun : Begun) : Prop where
  lawful : begun.Lawful
  bounded : 0x80 ≤ begun.highest.toNat

theorem Begun.values_pos (owed : Nat) : 0 < values owed := by
  induction owed with
  | zero => exact Nat.one_pos
  | succ owed inductionHypothesis => exact Nat.mul_pos (by decide) inductionHypothesis

/-- A byte within the bounds of a begun character is a continuation byte of exactly
the values that it narrows the character to. -/
theorem Begun.Open.within_iff (opened : begun.Open) (byte : UInt8) (value : Nat) :
    (begun.lowest ≤ byte ∧ byte ≤ begun.highest) ∧
        value / values begun.owedLater = begun.bits * 64 + byte.toNat % 64 ↔
      (begun.least ≤ value ∧ value < begun.limit) ∧
        byte.toNat = value / values begun.owedLater % 64 + 0x80 := by
  have low := opened.lawful.low
  have high := opened.lawful.high
  have bounded := opened.bounded
  rw [UInt8.le_iff_toNat_le, UInt8.le_iff_toNat_le, least, limit,
    ← Nat.le_div_iff_mul_le (values_pos _), ← Nat.div_lt_iff_lt_mul (values_pos _)]
  generalize value / values begun.owedLater = group
  omega

theorem Begun.Open.valid (opened : begun.Open) (above : begun.least ≤ value)
    (below : value < begun.limit) : value.isValidChar := by
  have valid := opened.lawful.valid
  unfold Nat.isValidChar
  omega

theorem Begun.range_ofBits (owedLater bits value : Nat) :
    (ofBits owedLater bits).least ≤ value ∧ value < (ofBits owedLater bits).limit ↔
      value / values (owedLater + 1) = bits := by
  rw [least_ofBits, limit_ofBits, ← Nat.le_div_iff_mul_le (values_pos _),
    ← Nat.div_lt_iff_lt_mul (values_pos _)]
  omega

/-- The value that a last byte within the bounds completes is that of a character. -/
theorem Begun.Open.toNat_completed (opened : begun.Open) (owed : begun.owedLater = 0)
    (within : begun.lowest ≤ byte ∧ byte ≤ begun.highest) :
    (Char.ofNat (begun.bits * 64 + byte.toNat % 64)).toNat =
      begun.bits * 64 + byte.toNat % 64 := by
  have last : (begun.bits * 64 + byte.toNat % 64) / values begun.owedLater =
      begun.bits * 64 + byte.toNat % 64 := by
    rw [owed, values, Nat.div_one]
  have range := ((opened.within_iff byte _).mp ⟨within, last⟩).1
  rw [Char.ofNat, dif_pos (opened.valid range.1 range.2)]
  rfl

/-- A first byte with the characters that it stands at the head of. -/
structure Opens (byte : UInt8) (begun : Begun) : Prop where
  begins : begin byte = { completed := [], state := .within begun }
  opened : begun.Open
  leads : ∀ value, value.isValidChar → 128 ≤ value →
    (lead value = byte.toNat ↔ begun.least ≤ value ∧ value < begun.limit) ∧
      (lead value = byte.toNat → extra value = begun.owedLater + 1)

/-- One row of the table of first bytes. -/
theorem opens_owing {owedLater bits : Nat} {lowest highest : UInt8} (count : Nat)
    (values : Begun.values owedLater = count)
    (begins : begin byte = owing owedLater lowest highest bits)
    (large : 128 ≤ byte.toNat) (bounded : 0x80 ≤ highest.toNat)
    (leads : ∀ value, value < 0xD800 ∨ 0xDFFF < value ∧ value < 0x110000 → 128 ≤ value →
      (lead value = byte.toNat ↔
        (bits * 64 + (lowest.toNat - 0x80)) * count ≤ value ∧
          value < (bits * 64 + (highest.toNat - 0x80) + 1) * count) ∧
        (lead value = byte.toNat → extra value = owedLater + 1)) :
    ∃ begun, Opens byte begun := by
  have lawful := (foreign_begin large).lawful
  rw [begins] at lawful
  rw [← values] at leads
  exact ⟨_, begins, ⟨lawful, bounded⟩, leads⟩

theorem opens_or_stray (large : 128 ≤ byte.toNat) :
    (∃ begun, Opens byte begun) ∨
      begin byte = { completed := [none], state := .between } ∧
        ∀ value, value.isValidChar → 128 ≤ value → lead value ≠ byte.toNat := by
  have below := byte.toNat_lt
  have table := begin.eq_1 byte
  rw [if_neg (not_ascii_of_large large)] at table
  simp only [bounds_iff, ← UInt8.toNat_inj, UInt8.reduceToNat] at table
  -- The bounds of a second byte cut off overlong forms, surrogates and values above
  -- U+10FFFF; the sizes and the values of characters leave out the same.
  split at table
  · exact .inl (opens_owing 1 rfl table large (by decide) fun value valid big => by
      have sized := lead_cases value
      simp only [UInt8.reduceToNat]
      omega)
  split at table
  · exact .inl (opens_owing 64 rfl table large (by decide) fun value valid big => by
      have sized := lead_cases value
      simp only [UInt8.reduceToNat]
      omega)
  split at table
  · exact .inl (opens_owing 64 rfl table large (by decide) fun value valid big => by
      have sized := lead_cases value
      simp only [UInt8.reduceToNat]
      omega)
  split at table
  · exact .inl (opens_owing 64 rfl table large (by decide) fun value valid big => by
      have sized := lead_cases value
      simp only [UInt8.reduceToNat]
      omega)
  split at table
  · exact .inl (opens_owing 4096 rfl table large (by decide) fun value valid big => by
      have sized := lead_cases value
      simp only [UInt8.reduceToNat]
      omega)
  split at table
  · exact .inl (opens_owing 4096 rfl table large (by decide) fun value valid big => by
      have sized := lead_cases value
      simp only [UInt8.reduceToNat]
      omega)
  split at table
  · exact .inl (opens_owing 4096 rfl table large (by decide) fun value valid big => by
      have sized := lead_cases value
      simp only [UInt8.reduceToNat]
      omega)
  refine .inr ⟨table, fun value valid big => ?_⟩
  have sized := lead_cases value
  unfold Nat.isValidChar at valid
  omega

/-- What may follow a state if characters are to be read: the bytes that the begun
one of them still owes, then those of the others. -/
def Follows (characters : List Char) (bytes : List UInt8) : State → Prop
  | .between => bytes = characters.flatMap utf8EncodeChar
  | .within begun =>
      ∃ character others, characters = character :: others ∧
        (begun.least ≤ character.toNat ∧ character.toNat < begun.limit) ∧
        bytes = continuations character.toNat (begun.owedLater + 1) ++
          others.flatMap utf8EncodeChar

/-- A step completes some of the characters and leaves a state for the rest. -/
def Progress.Follows (progress : Progress) (characters : List Char)
    (bytes : List UInt8) : Prop :=
  ∃ done later, characters = done ++ later ∧ progress.completed = done.map some ∧
    Utf8.Follows later bytes progress.state

theorem Progress.not_follows_of_none {progress : Progress}
    (failed : none ∈ progress.completed) (characters : List Char) (bytes : List UInt8) :
    ¬progress.Follows characters bytes := by
  rintro ⟨done, later, _, completed, _⟩
  rw [completed] at failed
  obtain ⟨character, _, impossible⟩ := List.mem_map.mp failed
  cases impossible

theorem Progress.follows_of_completed (character : Char) :
    Progress.Follows { completed := [some character], state := .between } characters bytes ↔
      ∃ others, characters = character :: others ∧
        bytes = others.flatMap utf8EncodeChar := by
  constructor
  · rintro ⟨done, later, split, completed, follows⟩
    cases done with
    | nil => cases completed
    | cons first more =>
        obtain ⟨same, none⟩ := List.cons.inj completed
        cases same
        rw [List.map_eq_nil_iff.mp none.symm] at split
        exact ⟨later, split, follows⟩
  · rintro ⟨others, split, follows⟩
    exact ⟨[character], others, split, rfl, follows⟩

theorem Progress.follows_of_pending (state : State) :
    Progress.Follows { completed := [], state := state } characters bytes ↔
      Utf8.Follows characters bytes state := by
  constructor
  · rintro ⟨done, later, rfl, completed, follows⟩
    rw [List.map_eq_nil_iff.mp completed.symm]
    exact follows
  · intro follows
    exact ⟨[], characters, rfl, rfl, follows⟩

theorem continuations_append_eq_cons (value owed : Nat) (later : List UInt8) :
    byte :: rest = continuations value (owed + 1) ++ later ↔
      byte.toNat = value / Begun.values owed % 64 + 0x80 ∧
        rest = continuations value owed ++ later := by
  rw [continuations, List.cons_append, List.cons.injEq, ← UInt8.toNat_inj,
    toNat_continuation]

/-- A begun character is split at its next byte. -/
theorem follows_within_cons (opened : begun.Open) :
    Follows characters (byte :: rest) (.within begun) ↔
      (advance (.within begun) byte).Follows characters rest := by
  have split : Follows characters (byte :: rest) (.within begun) ↔
      ∃ character others, characters = character :: others ∧
        ((begun.lowest ≤ byte ∧ byte ≤ begun.highest) ∧
          character.toNat / Begun.values begun.owedLater =
            begun.bits * 64 + byte.toNat % 64) ∧
        rest = continuations character.toNat begun.owedLater ++
          others.flatMap utf8EncodeChar := by
    refine exists_congr fun character => exists_congr fun others => and_congr_right' ?_
    rw [continuations_append_eq_cons, opened.within_iff]
    exact and_assoc.symm
  rw [split, advance]
  by_cases within : begun.lowest ≤ byte ∧ byte ≤ begun.highest
  · rw [if_pos within]
    dsimp only
    cases owed : begun.owedLater with
    | zero =>
        have value := opened.toNat_completed owed within
        dsimp only
        rw [Progress.follows_of_completed, Begun.values]
        simp only [Nat.div_one, continuations, List.nil_append]
        constructor
        · rintro ⟨character, others, rfl, ⟨_, same⟩, later⟩
          rw [← same, Char.ofNat_toNat]
          exact ⟨others, rfl, later⟩
        · rintro ⟨others, rfl, later⟩
          exact ⟨_, others, rfl, ⟨within, value⟩, later⟩
    | succ owedLater =>
        refine Iff.trans ?_ (Progress.follows_of_pending _).symm
        refine exists_congr fun character => exists_congr fun others =>
          and_congr_right' (and_congr_left' ?_)
        rw [and_iff_right within]
        exact (Begun.range_ofBits owedLater _ _).symm
  · rw [if_neg within]
    refine iff_of_false ?_ (Progress.not_follows_of_none List.mem_cons_self _ _)
    rintro ⟨_, _, _, ⟨inside, _⟩, _⟩
    exact within inside

theorem flatMap_eq_cons_iff :
    byte :: rest = characters.flatMap utf8EncodeChar ↔
      ∃ character others, characters = character :: others ∧
        byte :: rest = utf8EncodeChar character ++ others.flatMap utf8EncodeChar := by
  cases characters with
  | nil => exact iff_of_false nofun nofun
  | cons character others =>
      rw [List.flatMap_cons]
      constructor
      · intro follows
        exact ⟨character, others, rfl, follows⟩
      · rintro ⟨_, _, same, follows⟩
        cases same
        exact follows

theorem utf8EncodeChar_append_eq_cons (character : Char) (later : List UInt8) :
    byte :: rest = utf8EncodeChar character ++ later ↔
      character.toNat < 128 ∧ byte.toNat = character.toNat ∧ rest = later ∨
        128 ≤ character.toNat ∧ lead character.toNat = byte.toNat ∧
          rest = continuations character.toNat (extra character.toNat) ++ later := by
  rcases Nat.lt_or_ge character.toNat 128 with small | large
  · have whole : (UInt8.ofNat character.toNat).toNat = character.toNat := by
      rw [UInt8.toNat_ofNat']
      omega
    rw [utf8EncodeChar_of_small small, List.singleton_append, List.cons.injEq,
      ← UInt8.toNat_inj, whole, and_iff_right small]
    exact (or_iff_left (fun other => Nat.not_le_of_lt small other.1)).symm
  · have whole : (UInt8.ofNat (lead character.toNat)).toNat = lead character.toNat := by
      rw [UInt8.toNat_ofNat']
      exact Nat.mod_eq_of_lt (lead_lt (isValidChar_toNat character))
    rw [utf8EncodeChar_of_large large, List.cons_append, List.cons.injEq,
      ← UInt8.toNat_inj, whole, and_iff_right large, eq_comm (a := byte.toNat)]
    exact (or_iff_right (fun other => Nat.not_le_of_lt other.1 large)).symm

/-- Between characters the next byte is a whole one or the first byte of one. -/
theorem follows_between_cons (byte : UInt8) :
    Follows characters (byte :: rest) .between ↔
      (advance .between byte).Follows characters rest := by
  refine Iff.trans flatMap_eq_cons_iff ?_
  simp only [utf8EncodeChar_append_eq_cons, advance]
  rcases Nat.lt_or_ge byte.toNat 128 with small | large
  · rw [begin_of_small small, Progress.follows_of_completed]
    constructor
    · rintro ⟨character, others, rfl, ⟨_, same, later⟩ | ⟨_, led, _⟩⟩
      · rw [← Hex.toNat_ofUInt8, Char.toNat_inj] at same
        exact ⟨others, by rw [same], later⟩
      · have sized := lead_cases character.toNat
        omega
    · rintro ⟨others, rfl, later⟩
      exact ⟨_, others, rfl, .inl ⟨by rw [Hex.toNat_ofUInt8]; exact small,
        (Hex.toNat_ofUInt8 byte).symm, later⟩⟩
  · rcases opens_or_stray large with ⟨begun, opens⟩ | ⟨stray, unled⟩
    · rw [opens.begins, Progress.follows_of_pending]
      refine exists_congr fun character => exists_congr fun others => and_congr_right' ?_
      have leads := opens.leads character.toNat (isValidChar_toNat character)
      constructor
      · rintro (⟨small, same, _⟩ | ⟨big, led, later⟩)
        · omega
        · rw [(leads big).2 led] at later
          exact ⟨(leads big).1.mp led, later⟩
      · rintro ⟨range, later⟩
        have big := Nat.le_trans opens.opened.lawful.beyondAscii range.1
        have led := (leads big).1.mpr range
        rw [← (leads big).2 led] at later
        exact .inr ⟨big, led, later⟩
    · rw [stray]
      refine iff_of_false ?_ (Progress.not_follows_of_none List.mem_cons_self _ _)
      rintro ⟨character, others, _, ⟨small, same, _⟩ | ⟨big, led, _⟩⟩
      · omega
      · exact unled _ (isValidChar_toNat character) big led

/-! ### A whole text -/

def State.Open : State → Prop
  | .between => True
  | .within begun => begun.Open

theorem follows_cons (opened : state.Open) :
    Follows characters (byte :: rest) state ↔
      (advance state byte).Follows characters rest := by
  cases state with
  | between => exact follows_between_cons byte
  | within begun => exact follows_within_cons opened

theorem open_begin (byte : UInt8) : (begin byte).state.Open := by
  rcases Nat.lt_or_ge byte.toNat 128 with small | large
  · rw [begin_of_small small]
    trivial
  · rcases opens_or_stray large with ⟨begun, opens⟩ | ⟨stray, _⟩
    · rw [opens.begins]
      exact opens.opened
    · rw [stray]
      trivial

theorem open_advance (opened : state.Open) (byte : UInt8) :
    (advance state byte).state.Open := by
  cases state with
  | between => exact open_begin byte
  | within begun =>
      have lawful := (foreign_advance_within opened.lawful byte).lawful
      rw [advance] at lawful ⊢
      by_cases within : begun.lowest ≤ byte ∧ byte ≤ begun.highest
      · rw [if_pos within] at lawful ⊢
        cases owed : begun.owedLater with
        | zero => trivial
        | succ owedLater =>
            rw [owed] at lawful
            exact ⟨lawful, Nat.le_of_ble_eq_true rfl⟩
      · rw [if_neg within]
        exact open_begin byte

theorem scanFrom_nil_eq_map_some_iff (opened : state.Open) :
    scanFrom state [] = characters.map some ↔ Follows characters [] state := by
  cases state with
  | between =>
      rw [scanFrom, Follows, eq_comm, List.map_eq_nil_iff, eq_comm (a := []),
        List.flatMap_eq_nil_iff]
      cases characters with
      | nil => exact iff_of_true rfl (fun _ member => absurd member List.not_mem_nil)
      | cons character others =>
          refine iff_of_false (List.cons_ne_nil _ _) ?_
          intro empty
          exact String.utf8EncodeChar_ne_nil (empty character List.mem_cons_self)
  | within begun =>
      refine iff_of_false ?_ ?_
      · intro same
        cases characters with
        | nil => cases same
        | cons character others => cases same
      · rintro ⟨character, others, _, _, same⟩
        cases same

/-- The reader completes characters exactly from the bytes that may follow. -/
theorem scanFrom_eq_map_some_iff (opened : state.Open) :
    scanFrom state bytes = characters.map some ↔ Follows characters bytes state := by
  induction bytes generalizing state characters with
  | nil => exact scanFrom_nil_eq_map_some_iff opened
  | cons byte rest inductionHypothesis =>
      have later {others : List Char} :
          scanFrom (advance state byte).state rest = others.map some ↔
            Follows others rest (advance state byte).state :=
        inductionHypothesis (open_advance opened byte)
      have step : scanFrom state (byte :: rest) =
          (advance state byte).completed ++ scanFrom (advance state byte).state rest := by
        cases state <;> rfl
      rw [follows_cons opened, step, eq_comm, List.map_eq_append_iff]
      constructor
      · rintro ⟨done, others, split, completed, scanned⟩
        exact ⟨done, others, split, completed.symm, later.mp scanned.symm⟩
      · rintro ⟨done, others, split, completed, follows⟩
        exact ⟨done, others, split, completed.symm, (later.mpr follows).symm⟩

theorem mapM_id_eq_some_iff {found : List (Option Char)} :
    found.mapM id = some characters ↔ found = characters.map some := by
  induction found generalizing characters with
  | nil =>
      cases characters with
      | nil => exact iff_of_true rfl rfl
      | cons character others => exact iff_of_false nofun nofun
  | cons first others inductionHypothesis =>
      cases first with
      | none => cases characters <;> exact iff_of_false nofun nofun
      | some character =>
          have step : (some character :: others).mapM id =
              (others.mapM id).map (character :: ·) := by
            rw [List.mapM_cons]
            cases others.mapM id <;> rfl
          rw [step, Option.map_eq_some_iff, eq_comm (a := some character :: others),
            List.map_eq_cons_iff]
          constructor
          · rintro ⟨later, found, rfl⟩
            exact ⟨character, later, rfl, rfl, (inductionHypothesis.mp found).symm⟩
          · rintro ⟨first, later, rfl, same, found⟩
            cases same
            exact ⟨later, inductionHypothesis.mpr found.symm, rfl⟩

/-- Strict text is the text whose bytes were given, if there is such a text. -/
theorem decode?_eq_some_iff :
    decode? bytes = some text ↔ text.toByteArray = bytes.toByteArray := by
  have opened : State.between.Open := trivial
  have inverse (characters : List Char) :
      (scan bytes).mapM id = some characters ↔
        (String.ofList characters).toByteArray = bytes.toByteArray := by
    rw [mapM_id_eq_some_iff, scan, scanFrom_eq_map_some_iff opened,
      String.toByteArray_ofList, List.utf8Encode]
    constructor
    · rintro rfl
      rfl
    · intro same
      have lists := congrArg (fun array => array.data.toList) same
      simp only [List.toList_data_toByteArray] at lists
      exact lists.symm
  rw [decode?, Option.map_eq_some_iff]
  constructor
  · rintro ⟨characters, found, rfl⟩
    exact (inverse characters).mp found
  · intro same
    rw [← String.ofList_toList (s := text)] at same
    exact ⟨text.toList, (inverse _).mpr same, String.ofList_toList⟩

theorem decode?_eq_none_iff :
    decode? bytes = none ↔ ¬bytes.toByteArray.IsValidUTF8 := by
  rw [Option.eq_none_iff_forall_ne_some]
  constructor
  · intro none valid
    exact none ⟨bytes.toByteArray, valid⟩ (decode?_eq_some_iff.mpr rfl)
  · intro invalid text found
    have same := decode?_eq_some_iff.mp found
    rw [← same] at invalid
    exact invalid text.isValidUTF8

end FlashScript.Utf8
