/-
Words of a byte list and where they are stored.  Cutting bytes at an even
place cuts no word, an odd last byte belongs to no word, and consecutive
stores cover exactly the addresses from the first one on.
-/

import FlashScript.Loader
import FlashScript.Placement

namespace FlashScript

/-! ### Words of bytes -/

namespace Word

/-- Two bytes at a time, as words are cut off. -/
theorem ofBytes_induction {motive : List UInt8 → Prop} (empty : motive [])
    (odd : ∀ byte, motive [byte])
    (word : ∀ first second rest, motive rest → motive (first :: second :: rest)) :
    ∀ bytes, motive bytes
  | [] => empty
  | [byte] => odd byte
  | first :: second :: rest =>
      word first second rest (ofBytes_induction empty odd word rest)

@[simp] theorem length_ofBytes (bytes : List UInt8) :
    (ofBytes bytes).length = bytes.length / 2 := by
  induction bytes using ofBytes_induction with
  | empty => rfl
  | odd byte => simp [ofBytes]
  | word first second rest inductionHypothesis =>
      simp only [ofBytes, List.length_cons, inductionHypothesis]
      omega

theorem ofBytes_append {first : List UInt8} (even : first.length % 2 = 0)
    (second : List UInt8) :
    ofBytes (first ++ second) = ofBytes first ++ ofBytes second := by
  induction first using ofBytes_induction with
  | empty => rfl
  | odd byte => simp at even
  | word high low rest inductionHypothesis =>
      have evenRest : rest.length % 2 = 0 := by
        simp only [List.length_cons] at even
        omega
      simp only [List.cons_append, ofBytes, inductionHypothesis evenRest]

/-- Word `index` is made of the bytes `2 * index` and `2 * index + 1`. -/
theorem getElem?_ofBytes (bytes : List UInt8) (index : Nat) :
    (ofBytes bytes)[index]? =
      (bytes[2 * index]?).bind (fun first =>
        (bytes[2 * index + 1]?).map (fun second =>
          { first := first, second := second })) := by
  induction bytes using ofBytes_induction generalizing index with
  | empty => simp [ofBytes]
  | odd byte => cases index <;> simp [ofBytes, Nat.mul_add]
  | word first second rest inductionHypothesis =>
      cases index with
      | zero => rfl
      | succ index =>
          simp only [ofBytes, List.getElem?_cons_succ, Nat.mul_add,
            inductionHypothesis]

end Word

namespace Cursor

theorem length_wholeWords (payload : List UInt8) :
    (wholeWords payload).length = 2 * (payload.length / 2) := by
  simp only [wholeWords, List.length_take]
  omega

/-- The byte that is left out made no word. -/
theorem ofBytes_wholeWords (payload : List UInt8) :
    Word.ofBytes (wholeWords payload) = Word.ofBytes payload := by
  have even : (wholeWords payload).length % 2 = 0 := by
    rw [length_wholeWords]
    omega
  have leftOver :
      Word.ofBytes (payload.drop (2 * (payload.length / 2))) = [] := by
    apply List.eq_nil_of_length_eq_zero
    simp only [Word.length_ofBytes, List.length_drop]
    omega
  calc Word.ofBytes (wholeWords payload)
      = Word.ofBytes (wholeWords payload ++
          payload.drop (2 * (payload.length / 2))) := by
        rw [Word.ofBytes_append even, leftOver, List.append_nil]
    _ = Word.ofBytes payload := by
        rw [wholeWords, List.take_append_drop]

end Cursor

/-! ### Consecutive stores -/

namespace Store

theorem consecutive_append (address : Nat) (first second : List Word) :
    consecutive address (first ++ second) =
      consecutive address first ++ consecutive (address + first.length) second := by
  induction first generalizing address with
  | nil => rfl
  | cons word later inductionHypothesis =>
      simp only [List.cons_append, consecutive, inductionHypothesis,
        List.length_cons, Nat.add_comm later.length, Nat.add_assoc]

theorem map_address_consecutive (address : Nat) (words : List Word) :
    (consecutive address words).map Store.address =
      List.range' address words.length := by
  induction words generalizing address with
  | nil => rfl
  | cons word later inductionHypothesis =>
      simp only [consecutive, List.map_cons, inductionHypothesis,
        List.length_cons, List.range'_succ]

@[simp] theorem length_consecutive (address : Nat) (words : List Word) :
    (consecutive address words).length = words.length := by
  rw [← List.length_map Store.address, map_address_consecutive, List.length_range']

theorem address_of_mem_consecutive {address : Nat} {words : List Word}
    {store : Store} (member : store ∈ consecutive address words) :
    address ≤ store.address ∧ store.address < address + words.length := by
  have mapped : store.address ∈ (consecutive address words).map Store.address :=
    List.mem_map_of_mem member
  rw [map_address_consecutive] at mapped
  exact List.mem_range'_1.mp mapped

theorem exists_mem_consecutive {address place : Nat} {words : List Word}
    (above : address ≤ place) (below : place < address + words.length) :
    ∃ store ∈ consecutive address words, store.address = place := by
  have mapped : place ∈ (consecutive address words).map Store.address := by
    rw [map_address_consecutive]
    exact List.mem_range'_1.mpr ⟨above, below⟩
  exact List.mem_map.mp mapped

end Store

end FlashScript
