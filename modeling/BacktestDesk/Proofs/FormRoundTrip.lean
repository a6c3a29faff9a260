import BacktestDesk.Proofs.Utf8RoundTrip
import BacktestDesk.Text.Form

/-!
# BacktestDesk.Proofs.FormRoundTrip

The form-urlencoded text of any pairs is read as those pairs, in order. No separator stands in an
encoded component (`isComponent_of_mem_encodeText`), so that cutting at the separators gives the
components back.

* `split_intercalate`: cutting at a separator undoes joining with it.
* `decodeText_encodeText`: one component.
* `decode_encode`: all pairs.
-/

namespace BacktestDesk
namespace Text

/-! ## Pieces -/

theorem split_eq_splitOn (separator : Char) (cs : List Char) :
    split separator cs = cs.splitOn separator := by
  induction cs with
  | nil => rfl
  | cons c cs ih =>
    rw [split, ih, List.splitOn_cons_eq_if_modifyHead]
    cases hs : cs.splitOn separator with
    | nil => exact absurd hs (List.splitOn_ne_nil separator cs)
    | cons p ps =>
      by_cases hc : c = separator
      · simp [hc]
      · simp [hc]

/-- Cutting at a separator undoes joining with it. -/
theorem split_intercalate {separator : Char} {pieces : List (List Char)} (hne : pieces ≠ [])
    (h : ∀ p ∈ pieces, separator ∉ p) :
    split separator ([separator].intercalate pieces) = pieces := by
  rw [split_eq_splitOn, List.splitOn_intercalate separator h hne]

theorem mem_intercalate {separator c : Char} {pieces : List (List Char)}
    (h : c ∈ [separator].intercalate pieces) : c = separator ∨ ∃ p ∈ pieces, c ∈ p := by
  induction pieces with
  | nil => exact absurd h List.not_mem_nil
  | cons p ps ih =>
    cases ps with
    | nil =>
      rw [List.intercalate_singleton] at h
      exact .inr ⟨p, List.mem_cons_self, h⟩
    | cons q qs =>
      rw [List.intercalate_cons_cons, List.append_assoc, List.mem_append, List.singleton_append,
        List.mem_cons] at h
      rcases h with h | h | h
      · exact .inr ⟨p, List.mem_cons_self, h⟩
      · exact .inl h
      · rcases ih h with hsep | ⟨r, hr, hc⟩
        · exact .inl hsep
        · exact .inr ⟨r, List.mem_cons_of_mem _ hr, hc⟩

theorem length_le_intercalate {separator : Char} {p : List Char} {pieces : List (List Char)}
    (h : p ∈ pieces) : p.length ≤ ([separator].intercalate pieces).length := by
  induction pieces with
  | nil => exact absurd h List.not_mem_nil
  | cons q qs ih =>
    cases qs with
    | nil =>
      rw [List.mem_singleton] at h
      exact Nat.le_of_eq (by rw [h, List.intercalate_singleton])
    | cons q' qs =>
      rw [List.intercalate_cons_cons, List.length_append, List.length_append]
      rcases List.mem_cons.mp h with rfl | h
      · omega
      · have hle := ih h
        omega

theorem takeWhile_append_cons {stop : Char} {cs : List Char} (rest : List Char) (h : stop ∉ cs) :
    (cs ++ stop :: rest).takeWhile (· != stop) = cs := by
  rw [List.takeWhile_append_of_pos, List.takeWhile_cons_of_neg, List.append_nil]
  · simp
  · intro c hc
    simp only [bne_iff_ne]
    rintro rfl
    exact h hc

theorem dropWhile_append_cons {stop : Char} {cs : List Char} (rest : List Char) (h : stop ∉ cs) :
    (cs ++ stop :: rest).dropWhile (· != stop) = stop :: rest := by
  rw [List.dropWhile_append_of_pos, List.dropWhile_cons_of_neg]
  · simp
  · intro c hc
    simp only [bne_iff_ne]
    rintro rfl
    exact h hc

/-! ## Escapes -/

namespace Percent

theorem hexDigit?_upperHex {n : Nat} (h : n < 16) : Numeral.hexDigit? (upperHex n) = some n := by
  have hall : ∀ m : Fin 16, Numeral.hexDigit? (upperHex m) = some m.val := by decide
  exact hall ⟨n, h⟩

theorem decode_escapeByte (b : UInt8) (cs : List Char) :
    decode (escapeByte b ++ cs) = b :: decode cs := by
  have hb : b.toNat < 256 := b.toNat_lt
  have hsum : 16 * (b.toNat / 16) + b.toNat % 16 = b.toNat := Nat.div_add_mod b.toNat 16
  have hhigh := hexDigit?_upperHex (show b.toNat / 16 < 16 by omega)
  have hlow := hexDigit?_upperHex (show b.toNat % 16 < 16 by omega)
  simp only [escapeByte, List.cons_append, List.nil_append, decode, hhigh, hlow, hsum,
    UInt8.ofNat_toNat]

theorem decode_cons_of_ne {c : Char} (h : c ≠ '%') (cs : List Char) :
    decode (c :: cs) = String.utf8EncodeChar c ++ decode cs := by
  rw [decode]
  rintro a b rest rfl
  exact absurd rfl h

/-- Text without a percent sign stands for its own bytes. -/
theorem decode_of_notMem {cs : List Char} (h : '%' ∉ cs) : decode cs = Utf8.encodeChars cs := by
  induction cs with
  | nil => rfl
  | cons c cs ih =>
    rw [List.mem_cons, not_or] at h
    rw [decode_cons_of_ne (Ne.symm h.1), ih h.2]
    rfl

end Percent

namespace Form

/-! ## Bytes -/

/-- What is checked of the bytes one by one holds of each. -/
theorem forall_byte {p : UInt8 → Prop} (h : ∀ n : Fin 256, p (UInt8.ofNat n)) (b : UInt8) :
    p b := by
  have hn := h ⟨b.toNat, b.toNat_lt⟩
  rwa [UInt8.ofNat_toNat] at hn

/-- The characters of an encoded key or value. -/
def isComponent (c : Char) : Bool :=
  c.isAlphanum || ['*', '-', '.', '_', '+', '%'].contains c

theorem isComponent_of_mem_encodeByte {b : UInt8} {c : Char} (h : c ∈ encodeByte b) :
    isComponent c := by
  have hb : (encodeByte b).all isComponent :=
    forall_byte (p := fun b => (encodeByte b).all isComponent) (by decide +kernel) b
  exact List.all_eq_true.mp hb c h

/-- A byte that stands for itself is read as it is. -/
theorem plain_byte (b : UInt8) : isPlain b →
    Char.ofNat b.toNat ≠ '+' ∧ Char.ofNat b.toNat ≠ '%' ∧
      String.utf8EncodeChar (Char.ofNat b.toNat) = [b] :=
  forall_byte (p := fun b => isPlain b → Char.ofNat b.toNat ≠ '+' ∧ Char.ofNat b.toNat ≠ '%' ∧
    String.utf8EncodeChar (Char.ofNat b.toNat) = [b]) (by decide +kernel) b

theorem upperHex_ne_plus {n : Nat} (h : n < 16) : Percent.upperHex n ≠ '+' := by
  have hall : ∀ m : Fin 16, Percent.upperHex m ≠ '+' := by decide
  exact hall ⟨n, h⟩

theorem decodeBytes_encodeByte (b : UInt8) (cs : List Char) :
    decodeBytes (encodeByte b ++ cs) = b :: decodeBytes cs := by
  have hb : b.toNat < 256 := b.toNat_lt
  rw [decodeBytes, List.map_append, encodeByte]
  split
  · rename_i hplain
    obtain ⟨hplus, hpercent, hbytes⟩ := plain_byte b hplain
    rw [List.map_singleton, if_neg hplus, List.singleton_append,
      Percent.decode_cons_of_ne hpercent, hbytes]
    rfl
  split
  · rename_i hblank
    have hsame : b = 0x20 := UInt8.toNat_inj.mp hblank
    subst hsame
    rw [List.map_singleton, if_pos rfl, List.singleton_append,
      Percent.decode_cons_of_ne (by decide)]
    rfl
  · have hescape : (Percent.escapeByte b).map (fun c => if c = '+' then ' ' else c) =
        Percent.escapeByte b := by
      rw [Percent.escapeByte, List.map_cons, List.map_cons, List.map_singleton, if_neg (by decide),
        if_neg (upperHex_ne_plus (by omega)), if_neg (upperHex_ne_plus (by omega))]
    rw [hescape, Percent.decode_escapeByte]
    rfl

theorem decodeBytes_flatMap (bs : List UInt8) : decodeBytes (bs.flatMap encodeByte) = bs := by
  induction bs with
  | nil => rfl
  | cons b bs ih => rw [List.flatMap_cons, decodeBytes_encodeByte, ih]

/-! ## Components -/

theorem isComponent_of_mem_encodeText {s : String} {c : Char} (h : c ∈ encodeText s) :
    isComponent c := by
  obtain ⟨b, -, hb⟩ := List.mem_flatMap.mp h
  exact isComponent_of_mem_encodeByte hb

theorem notMem_encodeText {c : Char} (hc : isComponent c = false) (s : String) :
    c ∉ encodeText s := by
  intro h
  rw [isComponent_of_mem_encodeText h] at hc
  cases hc

theorem map_getD_some (cs : List Char) :
    (cs.map some).map (fun p => p.getD (Char.ofNat 0xFFFD)) = cs := by
  rw [List.map_map]
  exact List.map_id cs

/-- One key or value is read as it was written. -/
theorem decodeText_encodeText (s : String) : decodeText (encodeText s) = s := by
  rw [decodeText, encodeText, decodeBytes_flatMap, Utf8.encode, Utf8.pieces_encodeChars,
    map_getD_some, String.ofList_toList]

theorem decodePair_encodePair (p : String × String) : decodePair (encodePair p) = p := by
  have heq : '=' ∉ encodeText p.1 := notMem_encodeText (by decide) p.1
  rw [decodePair, encodePair, takeWhile_append_cons _ heq, dropWhile_append_cons _ heq,
    List.drop_one, List.tail_cons, decodeText_encodeText, decodeText_encodeText]

/-! ## Pairs -/

theorem encodePair_ne_nil (p : String × String) : encodePair p ≠ [] :=
  List.append_ne_nil_of_right_ne_nil _ (List.cons_ne_nil _ _)

theorem notMem_encodePair {c : Char} (hc : isComponent c = false) (heq : c ≠ '=')
    (p : String × String) : c ∉ encodePair p := by
  simp only [encodePair, List.mem_append, List.mem_cons, not_or]
  exact ⟨notMem_encodeText hc _, heq, notMem_encodeText hc _⟩

/-- The text of any pairs is read as those pairs. -/
theorem decode_encode (pairs : List (String × String)) : decode (encode pairs) = pairs := by
  rw [decode, encode, String.toList_ofList]
  cases pairs with
  | nil => rfl
  | cons p ps =>
    have hsplit : split '&' (['&'].intercalate ((p :: ps).map encodePair)) =
        (p :: ps).map encodePair := by
      refine split_intercalate (List.cons_ne_nil _ _) ?_
      rw [List.forall_mem_map]
      exact fun q _ => notMem_encodePair (by decide) (by decide) q
    have hfilter : ((p :: ps).map encodePair).filter (!·.isEmpty) = (p :: ps).map encodePair := by
      rw [List.filter_eq_self, List.forall_mem_map]
      intro q _
      simp [encodePair_ne_nil q]
    have hread : decodePair ∘ encodePair = id := funext decodePair_encodePair
    rw [hsplit, hfilter, List.map_map, hread, List.map_id]

/-- The characters of an encoded list of pairs. -/
def isEncoded (c : Char) : Bool :=
  isComponent c || c == '&' || c == '='

theorem isEncoded_of_mem_encode {pairs : List (String × String)} {c : Char}
    (h : c ∈ (encode pairs).toList) : isEncoded c := by
  rw [encode, String.toList_ofList] at h
  rw [isEncoded, Bool.or_eq_true, Bool.or_eq_true, beq_iff_eq, beq_iff_eq]
  rcases mem_intercalate h with hamp | ⟨piece, hpiece, hc⟩
  · exact .inl (.inr hamp)
  · obtain ⟨p, -, rfl⟩ := List.mem_map.mp hpiece
    rw [encodePair, List.mem_append, List.mem_cons] at hc
    rcases hc with hc | hc | hc
    · exact .inl (.inl (isComponent_of_mem_encodeText hc))
    · exact .inr hc
    · exact .inl (.inl (isComponent_of_mem_encodeText hc))

/-! ### Lengths -/

theorem length_encodeByte_pos (b : UInt8) : 0 < (encodeByte b).length := by
  rw [encodeByte]
  split
  · exact Nat.zero_lt_one
  split
  · exact Nat.zero_lt_one
  · exact Nat.succ_pos 2

theorem length_le_flatMap {α β : Type} {f : α → List β} (h : ∀ x, 0 < (f x).length) (xs : List α) :
    xs.length ≤ (xs.flatMap f).length := by
  induction xs with
  | nil => exact Nat.zero_le _
  | cons x xs ih =>
    have hx := h x
    rw [List.flatMap_cons, List.length_cons, List.length_append]
    omega

theorem length_le_encodeText (s : String) : s.toList.length ≤ (encodeText s).length :=
  Nat.le_trans (length_le_flatMap Utf8.length_utf8EncodeChar_pos s.toList)
    (length_le_flatMap length_encodeByte_pos (Utf8.encode s))

/-- The text of pairs is at least as long as each value in it. -/
theorem length_le_encode {pairs : List (String × String)} {p : String × String} (h : p ∈ pairs) :
    p.2.toList.length ≤ (encode pairs).toList.length := by
  have hpiece : (encodePair p).length ≤ (['&'].intercalate (pairs.map encodePair)).length :=
    length_le_intercalate (List.mem_map_of_mem h)
  have hvalue := length_le_encodeText p.2
  rw [encodePair, List.length_append, List.length_cons] at hpiece
  rw [encode, String.toList_ofList]
  omega

theorem isEmpty_encode (pairs : List (String × String)) :
    (encode pairs).isEmpty = pairs.isEmpty := by
  cases pairs with
  | nil => rfl
  | cons p ps =>
    rw [List.isEmpty_cons, ← Bool.not_eq_true, String.isEmpty_iff]
    intro h
    have hnil : decode "" = p :: ps := by rw [← h, decode_encode]
    cases hnil

end Form
end Text
end BacktestDesk
