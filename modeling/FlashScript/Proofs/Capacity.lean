/-
The loader takes enough bytes for every device.  A script never costs more than
three bytes for each word address that was passed over or written, and two for
entering the config region, which happens once.  The cursor can only run over
the end of program memory and of the config region by the rest of one record,
so there is a fixed price for all that a device has, and it is below the
capacity.  Lines that fail move the cursor at most to the config region and
cost nothing.
-/

import FlashScript.Proofs.Failures
import FlashScript.Proofs.Feeding

namespace FlashScript

open Instruction (totalLength)

/-! ### The cost of a burst -/

/-- Three bytes a word, beside the instruction that enters the config region. -/
theorem Burst.totalLength_instructions_le (burst : Burst)
    (even : burst.words.length % 2 = 0) :
    totalLength burst.instructions ≤
      (if burst.entersConfig then 2 else 0) +
        3 * (burst.gap + burst.words.length / 2) := by
  rw [totalLength_instructions]
  have skipped : 2 * ((burst.gap + 254) / 255) ≤ 3 * burst.gap := by omega
  have written :
      (burst.words.length + 509) / 510 + burst.words.length ≤
        3 * (burst.words.length / 2) := by omega
  omega

/-! ### What a device has to pay for -/

namespace Geometry

/-- How far the words of a record reach past an address that the first of them
is below. -/
def overrun : Nat := 126

/-- Most bytes of a script when the cursor is at an address. -/
def budget (geometry : Geometry) (address : Nat) : Nat :=
  if address < geometry.configStart then Script.headerSize + 3 * address
  else
    Script.headerSize + 3 * (geometry.programLimit + overrun) + 2 +
      3 * (address - geometry.configStart)

/-- Program memory, run over by one record, ends before the config region, and
both together are affordable. -/
structure Roomy (geometry : Geometry) : Prop where
  apart : geometry.programLimit + overrun < geometry.configStart
  ordered : geometry.configStart < geometry.spaceLimit
  affordable : geometry.budget (geometry.spaceLimit + overrun) < Script.capacity

/-- Where the cursor can be, and what a script can have cost by then. -/
structure Affords (geometry : Geometry) (address size : Nat) : Prop where
  place : address ≤ geometry.programLimit + overrun ∨
    geometry.configStart ≤ address ∧ address ≤ geometry.spaceLimit + overrun
  cost : size ≤ geometry.budget address

variable {geometry : Geometry} {cursor : Cursor} {record : Record} {size : Nat}

theorem budget_of_lt {address : Nat} (below : address < geometry.configStart) :
    geometry.budget address = Script.headerSize + 3 * address :=
  if_pos below

theorem budget_of_le {address : Nat} (inConfig : geometry.configStart ≤ address) :
    geometry.budget address =
      Script.headerSize + 3 * (geometry.programLimit + overrun) + 2 +
        3 * (address - geometry.configStart) :=
  if_neg (Nat.not_lt_of_le inConfig)

theorem affords_start (geometry : Geometry) :
    geometry.Affords 0 Script.headerSize where
  place := Or.inl (Nat.zero_le _)
  cost := by
    unfold budget
    split <;> omega

theorem Affords.lt_capacity {address : Nat} (roomy : geometry.Roomy)
    (affords : geometry.Affords address size) : size < Script.capacity := by
  have apart := roomy.apart
  have ordered := roomy.ordered
  have affordable := roomy.affordable
  have cost := affords.cost
  -- In both regions the budget is below that of the last address of the space.
  rw [budget_of_le (by omega)] at affordable
  rcases affords.place with inProgram | ⟨inConfig, inSpace⟩
  · rw [budget_of_lt (by omega)] at cost
    omega
  · rw [budget_of_le inConfig] at cost
    omega

theorem Affords.arrive (roomy : geometry.Roomy)
    (affords : geometry.Affords cursor.address size) (address : Nat) :
    geometry.Affords (cursor.arrive geometry address).address size := by
  cases enters : cursor.entersConfig geometry address with
  | false =>
      rw [Cursor.arrive_of_stays enters]
      exact affords
  | true =>
      have below := (Cursor.entersConfig_iff.mp enters).2
      have ordered := roomy.ordered
      have place := affords.place
      have cost := affords.cost
      rw [budget_of_lt below] at cost
      rw [Cursor.arrive_of_enters enters]
      constructor
      · exact Or.inr ⟨Nat.le_refl _, Nat.le_add_right_of_le (Nat.le_of_lt ordered)⟩
      · rw [budget_of_le (Nat.le_refl _)]
        omega

/-- The words that a record moves the cursor by pay for its instructions. -/
theorem Affords.advance (roomy : geometry.Roomy)
    (affords : geometry.Affords cursor.address size)
    (admits : cursor.Admits geometry record) :
    geometry.Affords (cursor.advance record).address
      (size + totalLength (cursor.burstOf geometry record).instructions) := by
  have apart := roomy.apart
  have inSpace := admits.inSpace
  have forward := admits.forward
  have length : (cursor.burstOf geometry record).words.length =
      2 * (record.payload.length / 2) := Cursor.length_words_burstOf
  have price := Burst.totalLength_instructions_le
    (cursor.burstOf geometry record) (by omega)
  have lands := Cursor.origin_add_gap admits
  have reach : record.payload.length / 2 ≤ overrun + 1 := by
    have fits := record.payloadFits
    unfold overrun
    omega
  have filled : 1 ≤ record.payload.length / 2 := by
    have filled := admits.filled
    omega
  have place := affords.place
  have cost := affords.cost
  change geometry.Affords (cursor.target record + record.payload.length / 2) _
  by_cases enters : (cursor.burstOf geometry record).entersConfig = true
  · -- The instruction that enters the region is paid for by the region itself.
    obtain ⟨inConfig, below⟩ := Cursor.entersConfig_iff.mp enters
    rw [Burst.origin, if_pos enters] at lands
    rw [if_pos enters] at price
    rw [budget_of_lt below] at cost
    constructor
    · omega
    · rw [budget_of_le (by omega)]
      omega
  · have stays : ¬(geometry.configStart ≤ cursor.target record ∧
        cursor.address < geometry.configStart) :=
      fun entry => enters (Cursor.entersConfig_iff.mpr entry)
    rw [Burst.origin, if_neg enters] at lands
    rw [if_neg enters] at price
    rcases admits.inRegion with inProgram | inConfig
    · rw [budget_of_lt (by omega)] at cost
      constructor
      · omega
      · rw [budget_of_lt (by omega)]
        omega
    · rw [budget_of_le (by omega)] at cost
      constructor
      · omega
      · rw [budget_of_le (by omega)]
        omega

end Geometry

theorem Device.roomy (device : Device) : device.geometry.Roomy := by
  cases device <;> constructor <;> decide

/-! ### Any lines -/

namespace Compilation

variable {compilation next : Compilation} {record : Record}
  {instructions : List Instruction}

/-- What holds after any lines, failed ones included. -/
structure Bounded (compilation : Compilation) (instructions : List Instruction) :
    Prop where
  roomy : compilation.geometry.Roomy
  affords : compilation.geometry.Affords compilation.cursor.address
    compilation.script.size
  lists : compilation.script.Lists instructions
  once : instructions.count .enterConfig ≤ 1
  outside : compilation.cursor.address < compilation.geometry.configStart →
    instructions.count .enterConfig = 0

theorem bounded_start (device : Device) : (start device).Bounded [] where
  roomy := device.roomy
  affords := Geometry.affords_start device.geometry
  lists := Script.lists_empty device.geometry.deviceId
  once := by decide
  outside := fun _ => rfl

theorem length_words_even (compilation : Compilation) (record : Record) :
    (compilation.burstOf record).words.length % 2 = 0 := by
  rw [burstOf, Cursor.length_words_burstOf]
  omega

theorem Bounded.room (bounded : compilation.Bounded instructions)
    (admits : compilation.Admits record) :
    compilation.script.size + totalLength (compilation.burstOf record).instructions <
      Script.capacity :=
  (bounded.affords.advance bounded.roomy admits).lt_capacity bounded.roomy

theorem Bounded.emit (bounded : compilation.Bounded instructions)
    (admits : compilation.Admits record) :
    compilation.script.emit (compilation.burstOf record) =
      { script := compilation.script.appendAll
          (compilation.burstOf record).instructions
        complete := true } :=
  Script.emit_of_room (Nat.le_of_lt (bounded.room admits))

theorem Bounded.feedRecord (bounded : compilation.Bounded instructions)
    (admits : compilation.Admits record) :
    compilation.feedRecord record = (compilation.program record, .ok ()) := by
  have emitted := bounded.emit admits
  rw [feedRecord_of_admits admits]
  simp only [Compilation.emit, Compilation.moveTo, emitted, if_true]
  rfl

theorem Bounded.program (bounded : compilation.Bounded instructions)
    (admits : compilation.Admits record) :
    (compilation.program record).Bounded
      (instructions ++ (compilation.burstOf record).instructions) := by
  have affords := bounded.affords.advance bounded.roomy admits
  have entries := Burst.count_enterConfig_instructions (compilation.burstOf record)
  have forward := admits.forward
  have once := bounded.once
  have outside := bounded.outside
  refine
    { roomy := bounded.roomy
      affords := ?_
      lists := bounded.lists.appendAll
        (Burst.legal_instructions (compilation.length_words_even record))
      once := ?_
      outside := ?_ }
  · rw [Compilation.program, Script.size_appendAll]
    exact affords
  · rw [List.count_append, entries]
    split
    · rename_i enters
      have none := outside (Cursor.entersConfig_iff.mp enters).2
      omega
    · exact once
  · intro below
    change compilation.cursor.target record + record.payload.length / 2 <
      compilation.geometry.configStart at below
    have stays : ¬(compilation.burstOf record).entersConfig = true := by
      intro enters
      have inConfig := (Cursor.entersConfig_iff.mp enters).1
      omega
    rw [List.count_append, entries, if_neg stays, outside (by omega)]

theorem Bounded.moveTo {cursor : Cursor} (bounded : compilation.Bounded instructions)
    (affords : compilation.geometry.Affords cursor.address compilation.script.size)
    (forward : compilation.cursor.address ≤ cursor.address) :
    (compilation.moveTo cursor).Bounded instructions where
  roomy := bounded.roomy
  affords := affords
  lists := bounded.lists
  once := bounded.once
  outside := fun below => bounded.outside (Nat.lt_of_le_of_lt forward below)

theorem Bounded.fed {outcome : Except LineError Unit}
    (bounded : compilation.Bounded instructions)
    (came : Fed compilation record next outcome) :
    (∃ later, next.Bounded (instructions ++ later)) ∧
      outcome ≠ .error .scriptOverflow := by
  cases came with
  | programmed admits =>
      exact ⟨⟨_, bounded.program admits⟩, nofun⟩
  | overflowed admits incomplete =>
      rw [bounded.emit admits] at incomplete
      cases incomplete
  | ended endOfFile => exact ⟨exists_append bounded, nofun⟩
  | @selected cursor extended still half =>
      have moved : (compilation.moveTo cursor).Bounded instructions := by
        apply bounded.moveTo
        · rw [still]
          exact bounded.affords
        · exact Nat.le_of_eq still.symm
      exact ⟨exists_append moved, nofun⟩
  | refused => exact ⟨exists_append bounded, nofun⟩
  | empty =>
      -- The cursor may be at the config region now, with nothing written.
      have moved := bounded.moveTo
        (bounded.affords.arrive bounded.roomy (compilation.cursor.target record))
        Cursor.Outcome.empty.address_le
      exact ⟨exists_append moved, nofun⟩

theorem Bounded.count (bounded : compilation.Bounded instructions) :
    compilation.count.Bounded instructions where
  roomy := bounded.roomy
  affords := bounded.affords
  lists := bounded.lists
  once := bounded.once
  outside := bounded.outside

theorem bounded_feedLines
    (bounded : ∃ instructions, compilation.Bounded instructions) (lines : List String) :
    ∃ instructions, (compilation.feedThrough lines).Bounded instructions := by
  refine feedThrough_keeps (fun reached => ∃ instructions, reached.Bounded instructions)
    ?_ ?_ lines bounded
  · intro reached ⟨instructions, bounded⟩
    exact ⟨instructions, bounded.count⟩
  · intro reached record ⟨instructions, bounded⟩
    obtain ⟨⟨later, longer⟩, _⟩ := bounded.fed (feedRecord_fed reached record)
    exact ⟨_, longer⟩

theorem bounded_feedThrough (device : Device) (lines : List String) :
    ∃ instructions, ((start device).feedThrough lines).Bounded instructions :=
  bounded_feedLines ⟨[], bounded_start device⟩ lines

theorem Bounded.feedLine_error {line : String} {diagnostic : Diagnostic}
    (bounded : compilation.Bounded instructions)
    (failed : (compilation.feedLine line).2 = .error diagnostic) :
    diagnostic.error ≠ .scriptOverflow := by
  rcases feedLine_forms compilation line with passed | ⟨error, malformed⟩ |
    ⟨record, parsed, recorded⟩
  · rw [passed] at failed
    cases failed
  · rw [malformed] at failed
    cases failed
    exact nofun
  · have roomLeft := (bounded.count.fed (feedRecord_fed compilation.count record)).2
    rw [recorded] at failed
    cases came : (compilation.count.feedRecord record).2 with
    | ok accepted =>
        rw [came] at failed
        cases failed
    | error error =>
        rw [came] at failed roomLeft
        cases failed
        intro overflow
        exact roomLeft (congrArg Except.error overflow)

theorem feedAll_error {device : Device} {lines : List String}
    {diagnostic : Diagnostic}
    (failed : (start device).feedAll lines = .error diagnostic) :
    diagnostic.error ≠ .scriptOverflow := by
  rcases feedAll_forms (start device) lines with whole |
    ⟨before, line, stopped, after, _, stop, found⟩
  · rw [whole] at failed
    cases failed
  · rw [stop] at failed
    cases failed
    obtain ⟨instructions, bounded⟩ := bounded_feedThrough device before
    exact bounded.feedLine_error found

/-- The script grows by the instructions of the burst and by nothing else. -/
theorem Bounded.feedLine_burst {line : String} {cursor : Cursor} {burst : Burst}
    (bounded : compilation.Bounded instructions)
    (parsed : Record.parse line = .ok record)
    (placed : compilation.cursor.place compilation.geometry record =
      (cursor, .ok (some burst))) :
    (compilation.feedLine line).2 = .ok () ∧
      (compilation.feedLine line).1.script.size ≤
        compilation.script.size + (if burst.entersConfig then 2 else 0) +
          3 * (burst.gap + burst.words.length / 2) := by
  have came := Cursor.place_outcome compilation.geometry compilation.cursor record
  rw [placed] at came
  cases came with
  | admitted admits =>
      have price := Burst.totalLength_instructions_le (compilation.burstOf record)
        (compilation.length_words_even record)
      rw [feedLine_of_record parsed, bounded.count.feedRecord admits]
      refine ⟨rfl, ?_⟩
      change (compilation.script.appendAll _).size ≤ _
      rw [Script.size_appendAll, Nat.add_assoc]
      exact Nat.add_le_add_left price _

theorem compile_error {device : Device} {lines : List String}
    {diagnostic : Diagnostic} (failed : compile device lines = .error diagnostic) :
    (start device).feedAll lines = .error diagnostic := by
  rw [compile] at failed
  cases came : (start device).feedAll lines with
  | ok finished =>
      rw [came] at failed
      cases failed
  | error found =>
      rw [came] at failed
      cases failed
      rfl

end Compilation

theorem Conversion.outcome_error {conversion : Conversion} {session : Session}
    {diagnostic : Diagnostic}
    (failed : conversion.outcome session = .error (.compile diagnostic)) :
    diagnostic.error ≠ .scriptOverflow := by
  have blamed : FailsOnlyWith
      (fun error => ∀ found, error = .compile found → found.error ≠ .scriptOverflow)
      conversion.run := by
    apply failsOnlyWith_run
    · exact nofun
    · intro lines stopped came found same
      cases same
      exact Compilation.feedAll_error came
    · exact nofun
    · exact nofun
    · exact nofun
  exact blamed session _ failed diagnostic rfl

/-- Three bytes a word is what a data record costs at most, the one entry of the
config region aside, and no text costs more than the loader takes. -/
theorem script_never_overflows (device : Device) (lines : List String) :
    let reached := (Compilation.start device).feedThrough lines
    (∀ line number content,
      (reached.feedLine line).2 ≠
        .error { line := number, content := content, error := .scriptOverflow }) ∧
    (∀ line record cursor burst, Record.parse line = .ok record →
      reached.cursor.place device.geometry record = (cursor, .ok (some burst)) →
        (reached.feedLine line).2 = .ok () ∧
        (reached.feedLine line).1.script.size ≤
          reached.script.size + (if burst.entersConfig then 2 else 0) +
            3 * (burst.gap + burst.words.length / 2)) ∧
    reached.script.listing.instructions.count .enterConfig ≤ 1 ∧
    reached.script.size < Script.capacity ∧
    (∀ number content,
      Compilation.compile device lines ≠
        .error { line := number, content := content, error := .scriptOverflow }) ∧
    ∀ (conversion : Conversion) (session : Session) number content,
      conversion.outcome session ≠
        .error (.compile
          { line := number, content := content, error := .scriptOverflow }) := by
  intro reached
  obtain ⟨instructions, bounded⟩ := Compilation.bounded_feedThrough device lines
  refine ⟨?_, ?_, ?_, ?_, ?_, ?_⟩
  · intro line number content failed
    exact bounded.feedLine_error failed rfl
  · intro line record cursor burst parsed placed
    have geometry : reached.geometry = device.geometry :=
      Compilation.geometry_feedThrough (Compilation.start device) lines
    rw [← geometry] at placed
    exact bounded.feedLine_burst parsed placed
  · rw [bounded.lists.listing_eq]
    exact bounded.once
  · exact bounded.affords.lt_capacity bounded.roomy
  · intro number content failed
    exact Compilation.feedAll_error (Compilation.compile_error failed) rfl
  · intro conversion session number content failed
    exact Conversion.outcome_error failed rfl

end FlashScript
