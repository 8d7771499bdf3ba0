import Mathlib.Data.List.TakeWhile
import Mathlib.Tactic.SplitIfs
import StorefrontSurvey.Text.Utf8
/-!
Text written as bytes and read again. A character is read back from its bytes whatever follows them,
so a text comes back as it was, unless its lines end with carriage returns.
-/
namespace StorefrontSurvey.Text

/-- The bytes of a text. -/
def encode (chars : List Char) : List UInt8 := chars.flatMap String.utf8EncodeChar

/-! ### Bytes of one character -/

/-- A first byte and the bytes after it that complete a character. -/
structure Completes (first : UInt8) (tail : List UInt8) : Prop where
  leads : following? first = some tail.length
  continues : ∀ rest, rightCount first tail.length (tail ++ rest) = tail.length

theorem completes_alone {first : UInt8} (leads : following? first = some 0) :
    Completes first [] := by
  refine ⟨leads, ?_⟩
  intro rest
  simp [rightCount]

theorem completes_with {first second : UInt8} {more : List UInt8}
    (leads : following? first = some (more.length + 1)) (fits : isSecond first second = true)
    (continues : ∀ byte ∈ more, isContinuation byte = true) :
    Completes first (second :: more) := by
  refine ⟨leads, ?_⟩
  intro rest
  have all : more.takeWhile isContinuation = more := List.takeWhile_eq_self_iff.2 continues
  rw [rightCount, List.take_left]
  simp only [fits, if_true, all, List.length_cons]
  omega

/-- A complete character is read, and reading goes on after it. -/
theorem decode_from_completed {first : UInt8} {tail : List UInt8} (completes : Completes first tail)
    (fuel position : Nat) (rest : List UInt8) :
    decodeFrom (fuel + 1) position (first :: (tail ++ rest)) =
      (decodeFrom fuel (position + 1 + tail.length) rest).map fun chars =>
        Char.ofNat (codePoint first tail) :: chars := by
  simp only [decodeFrom, completes.leads, completes.continues, if_true, List.drop_left,
    List.take_left]

theorem continuation_of : ∀ n < 64, isContinuation (UInt8.ofNat (n + 128)) = true := by
  decide

theorem following_two : ∀ n < 32, 2 ≤ n → following? (UInt8.ofNat (n + 192)) = some 1 := by
  decide

theorem following_three : ∀ n < 16, following? (UInt8.ofNat (n + 224)) = some 2 := by
  decide

theorem following_four : ∀ n < 5, following? (UInt8.ofNat (n + 240)) = some 3 := by
  decide

theorem second_of_two : ∀ n < 32, ∀ k < 64,
    isSecond (UInt8.ofNat (n + 192)) (UInt8.ofNat (k + 128)) = true := by
  decide +kernel

/-- Not every byte may follow the least first byte, since a shorter form would do; nor the one that
would lead to the halves of surrogate pairs. -/
theorem second_of_three : ∀ n < 16, ∀ k < 64, (n = 0 → 32 ≤ k) → (n = 13 → k < 32) →
    isSecond (UInt8.ofNat (n + 224)) (UInt8.ofNat (k + 128)) = true := by
  decide +kernel

theorem second_of_four : ∀ n < 5, ∀ k < 64, (n = 0 → 16 ≤ k) → (n = 4 → k < 16) →
    isSecond (UInt8.ofNat (n + 240)) (UInt8.ofNat (k + 128)) = true := by
  decide +kernel

/-- The bytes of a character are complete and write its number. -/
theorem encoded_char (c : Char) : ∃ first tail, String.utf8EncodeChar c = first :: tail ∧
    Completes first tail ∧ Char.ofNat (codePoint first tail) = c := by
  have valid : c.toNat < 0xD800 ∨ 0xDFFF < c.toNat ∧ c.toNat < 0x110000 := c.valid
  have back : Char.ofNat c.toNat = c := Char.ofNat_toNat c
  have same : c.val.toNat = c.toNat := rfl
  have written {first : UInt8} {tail : List UInt8} (number : codePoint first tail = c.toNat) :
      Char.ofNat (codePoint first tail) = c := by
    rw [number, back]
  simp only [String.utf8EncodeChar, same]
  split_ifs with one two three
  · refine ⟨_, _, rfl, completes_alone ?_, written ?_⟩
    · have small : UInt8.ofNat c.toNat ≤ 0x7F := by
        rw [UInt8.le_iff_toNat_le, UInt8.toNat_ofNat']
        exact (Nat.mod_le _ _).trans one
      simp only [following?, small, if_true]
    · simp only [codePoint, List.length_nil, List.foldl_nil, UInt8.toNat_ofNat']
      omega
  · refine ⟨_, _, rfl, completes_with ?_ ?_ (by simp), written ?_⟩
    · exact following_two _ (by omega) (by omega)
    · exact second_of_two _ (by omega) _ (by omega)
    · simp only [codePoint, List.length_cons, List.length_nil, List.foldl_cons, List.foldl_nil,
        UInt8.toNat_ofNat']
      omega
  · refine ⟨_, _, rfl, completes_with ?_ ?_ ?_, written ?_⟩
    · exact following_three _ (by omega)
    · exact second_of_three _ (by omega) _ (by omega) (by omega) (by omega)
    · simp only [List.mem_singleton, forall_eq]
      exact continuation_of _ (by omega)
    · simp only [codePoint, List.length_cons, List.length_nil, List.foldl_cons, List.foldl_nil,
        UInt8.toNat_ofNat']
      omega
  · have lead : c.toNat / 262144 % 8 = c.toNat / 262144 := by omega
    rw [lead]
    refine ⟨_, _, rfl, completes_with ?_ ?_ ?_, written ?_⟩
    · exact following_four _ (by omega)
    · exact second_of_four _ (by omega) _ (by omega) (by omega) (by omega)
    · simp only [List.mem_cons, List.not_mem_nil, or_false, forall_eq_or_imp, forall_eq]
      exact ⟨continuation_of _ (by omega), continuation_of _ (by omega)⟩
    · simp only [codePoint, List.length_cons, List.length_nil, List.foldl_cons, List.foldl_nil,
        UInt8.toNat_ofNat']
      omega

/-! ### Texts -/

theorem decode_from_encode (chars : List Char) (fuel position : Nat)
    (enough : chars.length ≤ fuel) : decodeFrom fuel position (encode chars) = .ok chars := by
  induction chars generalizing fuel position with
  | nil => cases fuel <;> rfl
  | cons c rest ih =>
      cases fuel with
      | zero => simp at enough
      | succ fuel =>
          obtain ⟨first, tail, bytes, completes, char⟩ := encoded_char c
          have shorter : rest.length ≤ fuel := Nat.le_of_succ_le_succ enough
          have split : encode (c :: rest) = first :: (tail ++ encode rest) := by
            rw [encode, List.flatMap_cons, bytes, List.cons_append, encode]
          rw [split, decode_from_completed completes, char, ih fuel _ shorter]
          rfl

theorem length_le_encode (chars : List Char) : chars.length ≤ (encode chars).length := by
  induction chars with
  | nil => exact Nat.le_refl 0
  | cons c rest ih =>
      obtain ⟨first, tail, bytes, _⟩ := encoded_char c
      rw [encode, List.flatMap_cons, bytes, ← encode]
      simp only [List.length_append, List.length_cons]
      omega

theorem decode_encode (chars : List Char) : decode (encode chars) = .ok chars :=
  decode_from_encode chars _ _ (length_le_encode chars)

theorem plain_lines_eq (chars : List Char) (free : '\r' ∉ chars) : plainLines chars = chars := by
  induction chars using plainLines.induct with
  | case1 => rfl
  | case2 rest ih => simp at free
  | case3 c rest other ih =>
      have differs : c ≠ '\r' := fun same => free (by simp [same])
      have tail : '\r' ∉ rest := fun member => free (List.mem_cons_of_mem _ member)
      rw [plainLines, if_neg differs, ih tail]
      exact other

/-- A text without carriage returns is read from its bytes as it was. -/
theorem of_bytes_encode (chars : List Char) (free : '\r' ∉ chars) :
    ofBytes (encode chars) = .ok chars := by
  rw [ofBytes, decode_encode, Except.map, plain_lines_eq chars free]

end StorefrontSurvey.Text
