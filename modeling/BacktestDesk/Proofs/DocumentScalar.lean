import BacktestDesk.Json.Writer
import BacktestDesk.Proofs.Codec
import BacktestDesk.Proofs.RereadNumber

/-!
# BacktestDesk.Proofs.DocumentScalar

Values that hold no others are read back from their text.

* `Json.Reader.string_escape`: strings, character by character.
* `Json.Reader.number_intChars`: whole numbers.
* `Json.scalar_chars`: all of them; doubles come back as their text is read.
-/

namespace BacktestDesk
namespace Json
namespace Reader

open Numeral Double Numeral.Written

/-! ## Strings -/

/-- The piece that a character is read back as. -/
def pieceOf (c : Char) : Piece :=
  if c.toNat < 0x20 ∧ c ∉ ['\x08', '\x0c', '\n', '\r', '\t'] then .unit c.toNat else .char c

theorem unit?_digitChar : ∀ n : Fin 0x20,
    unit? '0' '0' (Nat.digitChar (n / 16)) (Nat.digitChar (n % 16)) = some n.val := by
  decide

theorem pieces_plain {c : Char} (hquote : c ≠ '"') (hslash : c ≠ '\\') (h : ¬ c.toNat < 0x20)
    (cs : List Char) : pieces (c :: cs) = andPiece (.char c) (pieces cs) := by
  rw [pieces.eq_def]
  split
  · cases ‹_›
  · rename_i heq
    cases heq
    exact absurd rfl hquote
  · rename_i heq
    cases heq
    exact absurd rfl hslash
  · rename_i heq
    cases heq
    exact absurd rfl hslash
  · rename_i heq
    cases heq
    rw [if_neg]
    simp [h, hslash]

/-- Each character is one piece. -/
theorem pieces_escape (c : Char) (cs : List Char) :
    pieces (Writer.escape c ++ cs) = andPiece (pieceOf c) (pieces cs) := by
  rw [Writer.escape]
  -- First the characters with an escape of two characters.
  iterate 7
    split
    · subst c
      rfl
  split
  · rename_i hcontrol
    have hpiece : pieceOf c = .unit c.toNat := if_pos ⟨hcontrol, by simp [*]⟩
    have hunit := unit?_digitChar ⟨c.toNat, hcontrol⟩
    rw [hpiece]
    simp only [List.cons_append, List.nil_append, pieces]
    rw [hunit]
  · rename_i hcontrol
    have hpiece : pieceOf c = .char c := if_neg fun h => hcontrol h.1
    rw [hpiece]
    exact pieces_plain ‹_› ‹_› hcontrol cs

theorem pieces_flatMap_escape (cs rest : List Char) :
    pieces (cs.flatMap Writer.escape ++ '"' :: rest) = some (cs.map pieceOf, rest) := by
  induction cs with
  | nil => rfl
  | cons c cs ih =>
    rw [List.flatMap_cons, List.append_assoc, pieces_escape, ih]
    rfl

theorem join_unit {n : Nat} (hhigh : isHigh n = false) (hlow : isLow n = false)
    (ps : List Piece) : join (.unit n :: ps) = (join ps).map (Char.ofNat n :: ·) := by
  cases ps with
  | nil => simp [join, hhigh, hlow]
  | cons p ps => cases p <;> simp [join.eq_3, join.eq_4, hhigh, hlow]

/-- No control character is half of a pair. -/
theorem join_pieceOf (cs : List Char) : join (cs.map pieceOf) = some cs := by
  induction cs with
  | nil => rfl
  | cons c cs ih =>
    rw [List.map_cons, pieceOf]
    split
    · rename_i hcontrol
      have hhigh : isHigh c.toNat = false := by
        simp only [isHigh, Bool.and_eq_false_imp, decide_eq_true_eq]
        omega
      have hlow : isLow c.toNat = false := by
        simp only [isLow, Bool.and_eq_false_imp, decide_eq_true_eq]
        omega
      rw [join_unit hhigh hlow, ih, Option.map_some, Char.ofNat_toNat]
    · rw [join, ih, Option.map_some]

/-- A string is read back, up to its closing quote. -/
theorem string_escape (s : String) (rest : List Char) :
    string (s.toList.flatMap Writer.escape ++ '"' :: rest) = some (s, rest) := by
  rw [string, pieces_flatMap_escape]
  simp only [join_pieceOf, Option.map_some, String.ofList_toList]

/-! ## Numbers -/

/-- A whole number as a document writes it. -/
def writtenInt (z : Int) : Written where
  sign := signOf (z < 0)
  whole := Nat.toDigits 10 z.natAbs
  fraction := none
  exponent := none
  whole_isDigit := isDigit_toDigits z
  fraction_isDigit := isDigit_none
  digits_ne_nil := List.append_ne_nil_of_left_ne_nil Nat.toDigits_ne_nil _

theorem chars_writtenInt (z : Int) : (writtenInt z).chars = Writer.intChars z := by
  rw [Written.chars, Written.body, Written.pointChars.eq_def, Written.exponentChars, writtenInt,
    Writer.intChars, chars_signOf]
  simp

theorem inDocument_writtenInt (z : Int) : (writtenInt z).InDocument where
  sign := by
    rw [writtenInt, signOf]
    split <;> exact Sign.noConfusion
  whole_ne_nil := Nat.toDigits_ne_nil
  head := by
    rcases Nat.eq_zero_or_pos z.natAbs with hzero | hpos
    · have hrow : (writtenInt z).whole = Nat.toDigits 10 z.natAbs := rfl
      exact .inl (by rw [hrow, hzero]; rfl)
    · exact .inr (head?_toDigits hpos.ne')
  fraction := nofun

/-- A whole number in the range of a document is read back as one. -/
theorem number_intChars {z : Int} (hleast : minInt ≤ z) (hgreatest : z ≤ maxInt) {rest : List Char}
    (h : Stops rest) : number (Writer.intChars z ++ rest) = some (.int z, rest) := by
  rw [← chars_writtenInt, number_chars (inDocument_writtenInt z) h]
  have hvalue : numberValue (writtenInt z).sign.isMinus (writtenInt z).whole
      ((writtenInt z).fraction.getD []) ((writtenInt z).exponent.map Exponent.value) =
      some (.int z) := by
    have hvalue : (if z < 0 then -(z.natAbs : Int) else z.natAbs) = z := by
      split <;> omega
    have hzero : (!decide (z < 0) || (z.natAbs : Int) != 0) = true := by
      simp only [Bool.or_eq_true, Bool.not_eq_true', decide_eq_false_iff_not, bne_iff_ne]
      omega
    simp only [numberValue, writtenInt, isMinus_signOf, ofDigits_toDigits, decide_eq_true_eq,
      hvalue, hzero, Option.getD_none, Option.map_none, List.isEmpty_nil, Option.isNone_none,
      Bool.and_self, decide_eq_true hleast, decide_eq_true hgreatest, if_true]
  rw [hvalue, Option.map_some]

/-! ## Values that hold no others -/

/-- The first character of such a value. -/
def StartsScalar (c : Char) : Prop :=
  c.isDigit ∨ c ∈ ['-', '"', 'n', 't', 'f']

theorem StartsScalar.ne {c d : Char} (h : StartsScalar c) (hdigit : d.isDigit = false)
    (hd : d ∉ ['-', '"', 'n', 't', 'f']) : c ≠ d := by
  rintro rfl
  rcases h with h | h
  · rw [hdigit] at h
    cases h
  · exact hd h

theorem head?_number {w : Written} (hw : w.InDocument) :
    ∃ c cs, w.chars = c :: cs ∧ (c.isDigit ∨ c = '-') := by
  obtain ⟨d, ds, hds⟩ := List.exists_cons_of_ne_nil hw.whole_ne_nil
  rw [Written.chars, Written.body, hds]
  cases hsign : w.sign with
  | plus => exact absurd hsign hw.sign
  | minus => exact ⟨_, _, rfl, .inr rfl⟩
  | bare => exact ⟨_, _, rfl, .inl (w.whole_isDigit d (hds ▸ List.mem_cons_self))⟩

theorem exists_inDocument {x : Double} (h : x.isFinite) :
    ∃ w : Written, x.documentChars = w.chars ∧ w.InDocument := by
  cases x with
  | nan => cases h
  | signed negative code =>
    obtain ⟨value, w, hw, -⟩ := @exists_written negative code (of_decide_eq_true h)
    exact ⟨w, hw.chars, hw.inDocument⟩

/-- A text that begins with a digit or a minus is read as a number. -/
theorem scalar_eq_number {c : Char} (h : c.isDigit ∨ c = '-') (cs : List Char) :
    scalar (c :: cs) = number (c :: cs) := by
  have hne : ∀ d : Char, d.isDigit = false → d ≠ '-' → c ≠ d := by
    rintro d hdigit hminus rfl
    rcases h with h | h
    · rw [hdigit] at h
      cases h
    · exact hminus h
  rw [scalar.eq_def]
  split
  · rename_i heq
    exact absurd (List.cons.inj heq).1 (hne _ rfl (by decide))
  · rename_i heq
    exact absurd (List.cons.inj heq).1 (hne _ rfl (by decide))
  · rename_i heq
    exact absurd (List.cons.inj heq).1 (hne _ rfl (by decide))
  · rename_i heq
    exact absurd (List.cons.inj heq).1 (hne _ rfl (by decide))
  · rfl

theorem scalar_of_number {text : List Char} {v : Json}
    (hstart : ∃ c cs, text = c :: cs ∧ (c.isDigit ∨ c = '-'))
    (h : ∀ rest, Stops rest → number (text ++ rest) = some (v, rest)) :
    (∃ c cs, text = c :: cs ∧ StartsScalar c) ∧
      ∀ rest, Stops rest → scalar (text ++ rest) = some (v, rest) := by
  obtain ⟨c, cs, rfl, hc⟩ := hstart
  refine ⟨⟨c, cs, rfl, hc.imp id (by rintro rfl; decide)⟩, fun rest hrest => ?_⟩
  rw [List.cons_append, scalar_eq_number hc]
  exact h rest hrest

end Reader

open Reader Numeral.Written

/-- What comes back of a value that holds no others. -/
def rereadScalar : Json → Json
  | .float x => .float x.reread
  | v => v

/-- The text of a value that holds no others begins like one, and is read back. -/
theorem scalar_chars {v : Json} (hv : v.Proper) (hwithin : v.Within 0) :
    (∃ c cs, Writer.scalar v = c :: cs ∧ StartsScalar c) ∧
      ∀ rest, Stops rest →
        scalar (Writer.scalar v ++ rest) = some (v.rereadScalar, rest) := by
  cases hv with
  | null => exact ⟨⟨_, _, rfl, .inr (by decide)⟩, fun _ _ => rfl⟩
  | bool b => cases b <;> exact ⟨⟨_, _, rfl, .inr (by decide)⟩, fun _ _ => rfl⟩
  | str s =>
    refine ⟨⟨_, _, rfl, .inr (by decide)⟩, fun rest _ => ?_⟩
    rw [Writer.scalar, Writer.quoted, List.cons_append, List.append_assoc, List.singleton_append,
      scalar, string_escape]
    rfl
  | @int z least greatest =>
    have hstart := head?_number (inDocument_writtenInt z)
    rw [chars_writtenInt] at hstart
    exact scalar_of_number hstart fun rest => number_intChars least greatest
  | @float x finite =>
    obtain ⟨w, htext, hw⟩ := exists_inDocument finite
    have hstart := head?_number hw
    rw [← htext] at hstart
    exact scalar_of_number hstart fun rest => Double.number_documentChars finite
  | arr => exact hwithin.elim
  | obj => exact hwithin.elim

end Json
end BacktestDesk
