import EntityDesign.Text.Integer

/-! Written numbers are read back. -/
namespace EntityDesign.Text

theorem natural?_toDigits (n : Nat) : natural? (Nat.toDigits 10 n) = some n := by
  have hdigits : (Nat.toDigits 10 n).all Char.isDigit = true :=
    List.all_eq_true.2 fun _ => Nat.isDigit_of_mem_toDigits (by decide) (by decide)
  rw [natural?, if_pos ⟨Nat.toDigits_ne_nil, hdigits⟩, Nat.ofDigitChars_ten_toDigits]

/-- A number begins with a digit, so with no sign. -/
theorem exists_toDigits_eq_cons (n : Nat) :
    ∃ c cs, Nat.toDigits 10 n = c :: cs ∧ c ≠ '-' ∧ c ≠ '+' := by
  cases hn : Nat.toDigits 10 n with
  | nil => exact absurd hn Nat.toDigits_ne_nil
  | cons c cs =>
    have hdigit : c.isDigit = true :=
      Nat.isDigit_of_mem_toDigits (b := 10) (n := n) (by decide) (by decide) (by simp [hn])
    refine ⟨c, cs, rfl, ?_, ?_⟩
    · rintro rfl
      exact absurd hdigit (by decide)
    · rintro rfl
      exact absurd hdigit (by decide)

theorem integer?_toList_repr (n : Int) : integer? n.repr.toList = some n := by
  obtain ⟨c, cs, hn, hminus, hplus⟩ := exists_toDigits_eq_cons n.toNat
  rw [Int.repr_eq_if]
  split
  · rename_i h
    have hread := natural?_toDigits n.toNat
    rw [Nat.toList_repr, hn]
    rw [hn] at hread
    rw [integer?]
    · rw [hread]
      simpa using Int.toNat_of_nonneg h
    · exact fun _ h => hminus (List.cons.inj h).1
    · exact fun _ h => hplus (List.cons.inj h).1
  · rename_i h
    have htext : ("-" ++ (-n).toNat.repr).toList = '-' :: Nat.toDigits 10 (-n).toNat := by
      simp [String.toList_append, Nat.toList_repr]
    have hvalue : -((-n).toNat : Int) = n := by omega
    rw [htext, integer?, natural?_toDigits]
    simpa using hvalue

@[simp] theorem int32?_ofInt32 (n : Int32) : int32? (ofInt32 n) = some n := by
  simp only [int32?, ofInt32, Int.toString_eq_repr, integer?_toList_repr, Option.bind_eq_bind,
    Option.bind_some]
  rw [if_pos ⟨n.minValue_le_toInt, n.toInt_le⟩, Int32.ofInt_toInt]

@[simp] theorem uint32?_ofUInt32 (n : UInt32) : uint32? (ofUInt32 n) = some n := by
  obtain ⟨c, cs, hn, -, hplus⟩ := exists_toDigits_eq_cons n.toNat
  have hread := natural?_toDigits n.toNat
  have htext : (ofUInt32 n).toList = c :: cs := by
    rw [ofUInt32, Nat.toString_eq_ofList_toDigits, String.toList_ofList, hn]
  rw [hn] at hread
  simp only [uint32?, htext]
  split
  · rename_i heq
    exact absurd (List.cons.inj heq).1 hplus
  · simp only [hread, Option.bind_eq_bind, Option.bind_some]
    rw [if_pos n.toNat_lt_size, UInt32.ofNat_toNat]

end EntityDesign.Text
