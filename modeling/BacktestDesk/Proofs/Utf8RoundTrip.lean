import BacktestDesk.Text.Utf8

/-!
# BacktestDesk.Proofs.Utf8RoundTrip

The bytes of a text are read as that text. `front_of_encoded` reads one character back; each length
of its encoding is a lemma of its own, and `decode?_encodeChars` takes the characters in order.
-/

namespace BacktestDesk
namespace Text
namespace Utf8

theorem toNat_ofNat {n : Nat} (h : n < 256) : (UInt8.ofNat n).toNat = n := by
  rw [UInt8.toNat_ofNat']
  exact Nat.mod_eq_of_lt h

/-- One byte of the form that continues a character, in the range where it is wanted. -/
theorem continued_cons {more lo hi acc x : Nat} {bs : List UInt8} (hlo : lo ≤ x % 0x40 + 0x80)
    (hhi : x % 0x40 + 0x80 ≤ hi) :
    continued (more + 1) lo hi acc (UInt8.ofNat (x % 0x40 + 0x80) :: bs) =
      continued more 0x80 0xBF (acc * 64 + x % 0x40) bs := by
  have hx : (UInt8.ofNat (x % 0x40 + 0x80)).toNat = x % 0x40 + 0x80 := toNat_ofNat (by omega)
  have hmod : (x % 0x40 + 0x80) % 64 = x % 0x40 := by omega
  simp only [continued, hx, hlo, hhi, and_self, if_true, hmod]

theorem continued_cons_any {more acc x : Nat} {bs : List UInt8} :
    continued (more + 1) 0x80 0xBF acc (UInt8.ofNat (x % 0x40 + 0x80) :: bs) =
      continued more 0x80 0xBF (acc * 64 + x % 0x40) bs :=
  continued_cons (by omega) (by omega)

/-! ## The four lengths -/

theorem front_one {n : Nat} {rest : List UInt8} (h : n ≤ 0x7F) :
    front (UInt8.ofNat n) rest = .char (Char.ofNat n) rest := by
  have hb : (UInt8.ofNat n).toNat = n := toNat_ofNat (by omega)
  have h80 : n < 0x80 := by omega
  simp only [front, hb, h80, if_true]

theorem front_two {n : Nat} {rest : List UInt8} (hlo : 0x7F < n) (hhi : n ≤ 0x7FF) :
    front (UInt8.ofNat (n / 64 % 0x20 + 0xC0)) (UInt8.ofNat (n % 0x40 + 0x80) :: rest) =
      .char (Char.ofNat n) rest := by
  have hb : (UInt8.ofNat (n / 64 % 0x20 + 0xC0)).toNat = n / 64 % 0x20 + 0xC0 :=
    toNat_ofNat (by omega)
  have h80 : ¬ n / 64 % 0x20 + 0xC0 < 0x80 := by omega
  have hC2 : ¬ n / 64 % 0x20 + 0xC0 < 0xC2 := by omega
  have hE0 : n / 64 % 0x20 + 0xC0 < 0xE0 := by omega
  have hn : (n / 64 % 0x20 + 0xC0) % 32 * 64 + n % 0x40 = n := by omega
  simp only [front, hb, h80, hC2, hE0, if_true, if_false]
  rw [continued_cons_any, continued, hn]

/-- Two first bytes have ranges of their own: behind one a shorter form would do, behind the other
there are no characters. -/
theorem front_three {n : Nat} {rest : List UInt8} (hlo : 0x7FF < n) (hhi : n ≤ 0xFFFF)
    (hgap : n < 0xD800 ∨ 0xDFFF < n) :
    front (UInt8.ofNat (n / 4096 % 0x10 + 0xE0))
        (UInt8.ofNat (n / 64 % 0x40 + 0x80) :: UInt8.ofNat (n % 0x40 + 0x80) :: rest) =
      .char (Char.ofNat n) rest := by
  have hb : (UInt8.ofNat (n / 4096 % 0x10 + 0xE0)).toNat = n / 4096 % 0x10 + 0xE0 :=
    toNat_ofNat (by omega)
  have h80 : ¬ n / 4096 % 0x10 + 0xE0 < 0x80 := by omega
  have hC2 : ¬ n / 4096 % 0x10 + 0xE0 < 0xC2 := by omega
  have hE0 : ¬ n / 4096 % 0x10 + 0xE0 < 0xE0 := by omega
  have hF0 : n / 4096 % 0x10 + 0xE0 < 0xF0 := by omega
  simp only [front, hb, h80, hC2, hE0, hF0, if_true, if_false]
  split
  · have hn : (0 * 64 + n / 64 % 0x40) * 64 + n % 0x40 = n := by omega
    rw [continued_cons (by omega) (by omega), continued_cons_any, continued, hn]
  split
  · have hn : (13 * 64 + n / 64 % 0x40) * 64 + n % 0x40 = n := by omega
    rw [continued_cons (by omega) (by omega), continued_cons_any, continued, hn]
  · have hn : ((n / 4096 % 0x10 + 0xE0) % 16 * 64 + n / 64 % 0x40) * 64 + n % 0x40 = n := by omega
    rw [continued_cons_any, continued_cons_any, continued, hn]

theorem front_four {n : Nat} {rest : List UInt8} (hlo : 0xFFFF < n) (hhi : n < 0x110000) :
    front (UInt8.ofNat (n / 262144 % 0x08 + 0xF0))
        (UInt8.ofNat (n / 4096 % 0x40 + 0x80) :: UInt8.ofNat (n / 64 % 0x40 + 0x80) ::
          UInt8.ofNat (n % 0x40 + 0x80) :: rest) =
      .char (Char.ofNat n) rest := by
  have hb : (UInt8.ofNat (n / 262144 % 0x08 + 0xF0)).toNat = n / 262144 % 0x08 + 0xF0 :=
    toNat_ofNat (by omega)
  have h80 : ¬ n / 262144 % 0x08 + 0xF0 < 0x80 := by omega
  have hC2 : ¬ n / 262144 % 0x08 + 0xF0 < 0xC2 := by omega
  have hE0 : ¬ n / 262144 % 0x08 + 0xF0 < 0xE0 := by omega
  have hE0' : ¬ n / 262144 % 0x08 + 0xF0 = 0xE0 := by omega
  have hED : ¬ n / 262144 % 0x08 + 0xF0 = 0xED := by omega
  have hF0 : ¬ n / 262144 % 0x08 + 0xF0 < 0xF0 := by omega
  simp only [front, hb, h80, hC2, hE0, hE0', hED, hF0, if_false]
  split
  · have hn : ((0 * 64 + n / 4096 % 0x40) * 64 + n / 64 % 0x40) * 64 + n % 0x40 = n := by omega
    rw [continued_cons (by omega) (by omega), continued_cons_any, continued_cons_any, continued, hn]
  split
  · have hn : (((n / 262144 % 0x08 + 0xF0) % 8 * 64 + n / 4096 % 0x40) * 64 + n / 64 % 0x40) * 64 +
        n % 0x40 = n := by omega
    rw [continued_cons_any, continued_cons_any, continued_cons_any, continued, hn]
  · have hF4 : n / 262144 % 0x08 + 0xF0 = 0xF4 := by omega
    have hn : ((4 * 64 + n / 4096 % 0x40) * 64 + n / 64 % 0x40) * 64 + n % 0x40 = n := by omega
    rw [if_pos hF4, continued_cons (by omega) (by omega), continued_cons_any, continued_cons_any,
      continued, hn]

/-! ## Texts -/

/-- A character in front of any bytes is read back, and the bytes are left. -/
theorem front_of_encoded (c : Char) (rest : List UInt8) :
    ∃ b bs, String.utf8EncodeChar c ++ rest = b :: bs ∧ front b bs = .char c rest := by
  have hvalid : c.val.toNat < 0xD800 ∨ 0xDFFF < c.val.toNat ∧ c.val.toNat < 0x110000 := c.valid
  have hc : Char.ofNat c.val.toNat = c := Char.ofNat_toNat c
  rw [String.utf8EncodeChar]
  generalize c.val.toNat = n at hvalid hc
  subst hc
  split
  · exact ⟨_, _, rfl, front_one (by assumption)⟩
  split
  · exact ⟨_, _, rfl, front_two (by omega) (by assumption)⟩
  split
  · exact ⟨_, _, rfl, front_three (by omega) (by assumption) (by omega)⟩
  · exact ⟨_, _, rfl, front_four (by omega) (by omega)⟩

theorem length_utf8EncodeChar_pos (c : Char) : 0 < (String.utf8EncodeChar c).length := by
  rw [String.length_utf8EncodeChar]
  exact Char.utf8Size_pos c

theorem piecesUpTo_encodeChars (cs : List Char) (limit : Nat)
    (h : (encodeChars cs).length ≤ limit) : piecesUpTo limit (encodeChars cs) = cs.map some := by
  induction cs generalizing limit with
  | nil => cases limit <;> rfl
  | cons c cs ih =>
    rw [encodeChars, List.flatMap_cons] at h ⊢
    rw [List.length_append] at h
    have hpos := length_utf8EncodeChar_pos c
    obtain ⟨b, bs, hbs, hfront⟩ := front_of_encoded c (cs.flatMap String.utf8EncodeChar)
    cases limit with
    | zero => omega
    | succ limit =>
      have hrest : (encodeChars cs).length ≤ limit := by
        rw [encodeChars]
        omega
      rw [hbs, piecesUpTo, hfront, List.map_cons, ← ih limit hrest, encodeChars]

theorem pieces_encodeChars (cs : List Char) : pieces (encodeChars cs) = cs.map some :=
  piecesUpTo_encodeChars cs _ (Nat.le_refl _)

theorem mapM_some (cs : List Char) : (cs.map some).mapM id = some cs := by
  induction cs with
  | nil => rfl
  | cons c cs ih => rw [List.map_cons, List.mapM_cons, ih]; rfl

/-- The bytes of a text are read as that text. -/
theorem decode?_encodeChars (cs : List Char) : decode? (encodeChars cs) = some cs := by
  rw [decode?, pieces_encodeChars, mapM_some]

end Utf8
end Text
end BacktestDesk
