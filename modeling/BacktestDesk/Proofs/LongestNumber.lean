import BacktestDesk.Proofs.AccuracyReading
import BacktestDesk.Text.Utf8
import Mathlib.Data.List.TakeWhile

/-!
# BacktestDesk.Proofs.LongestNumber

The number at the front of a text. Of the characters that numbers are made of, shorter and shorter
beginnings are tried. Among those characters there is no mark of an exponent and no letter, so what
is read of them has a sign, digits and a point, and nothing else.

* `Numeral.exists_written`: what is read of such characters is a number as it is written.
* `TrainedModel.findSome?_beginnings_cases`: the first beginning that is read is the longest.
* `TrainedModel.encodeChars_beginnings`: a beginning is as many bytes as it is characters.
* `TrainedModel.longest_number_read`: the number is the longest one at the front of the text.
-/

namespace BacktestDesk

open Numeral TrainedModel

namespace Numeral

/-! ## Numbers without an exponent -/

theorem isNumeric_ne {c x : Char} (h : isNumeric c) (hx : isNumeric x = false) : c ≠ x := by
  rintro rfl
  rw [h] at hx
  cases hx

theorem toNat_le_of_isNumeric {c : Char} (h : isNumeric c) : c.toNat ≤ 57 := by
  simp only [isNumeric, Bool.or_eq_true, beq_iff_eq] at h
  obtain ((hdigit | rfl) | rfl) | rfl := h
  · exact (Char.isDigit_iff_toNat.mp hdigit).2
  all_goals decide

theorem toLower_of_isNumeric {c : Char} (h : isNumeric c) : c.toLower = c := by
  have hletter : ¬ (c.val ≥ 'A'.val ∧ c.val ≤ 'Z'.val) := by
    rintro ⟨hA, -⟩
    have hlo : 65 ≤ c.toNat := UInt32.le_iff_toNat_le.mp hA
    exact absurd (hlo.trans (toNat_le_of_isNumeric h)) (by decide)
  exact dif_neg hletter

/-- The words for what is not finite begin with a letter. -/
theorem word?_eq_none {cs : List Char} (hcs : ∀ c ∈ cs, isNumeric c) (negative : Bool) :
    word? negative cs = none := by
  have hlower : cs.map Char.toLower = cs :=
    (List.map_congr_left fun c hc => toLower_of_isNumeric (hcs c hc)).trans (List.map_id cs)
  have hword : ∀ w : List Char, w.all isNumeric = false → cs ≠ w := by
    rintro w hw rfl
    rw [List.all_eq_true.mpr hcs] at hw
    cases hw
  simp only [word?, hlower]
  rw [if_neg (not_or.mpr ⟨hword _ (by decide), hword _ (by decide)⟩), if_neg (hword _ (by decide))]

/-- Without the mark of an exponent nothing may be left behind the digits. -/
theorem eq_nil_of_exponent? {cs : List Char} (hcs : ∀ c ∈ cs, isNumeric c)
    (h : exponent? cs ≠ none) : cs = [] := by
  cases cs with
  | nil => rfl
  | cons c cs =>
    have hc := hcs c List.mem_cons_self
    have hmark : ¬ (c = 'e' ∨ c = 'E') := not_or.mpr
      ⟨isNumeric_ne hc (by decide), isNumeric_ne hc (by decide)⟩
    rw [exponent?, if_neg hmark] at h
    exact absurd rfl h

theorem mem_of_mem_fraction {cs : List Char} {c : Char} (h : c ∈ (fraction cs).2) : c ∈ cs := by
  rw [fraction.eq_def] at h
  split at h
  · exact List.mem_cons_of_mem _ ((List.dropWhile_sublist _).mem h)
  · exact h

/-- The digits behind a point are all that is left, or there is no point and nothing is left. -/
theorem fraction_eq {cs : List Char} (h : (fraction cs).2 = []) :
    ∃ digits : Option (List Char), cs = Written.pointChars digits ∧
      digits.getD [] = (fraction cs).1 ∧ ∀ c ∈ digits.getD [], c.isDigit := by
  rw [fraction.eq_def] at h ⊢
  split at h
  · rename_i cs
    have hsplit := List.takeWhile_append_dropWhile (p := Char.isDigit) (l := cs)
    simp only at h
    rw [h, List.append_nil] at hsplit
    exact ⟨some (cs.takeWhile Char.isDigit), by rw [Written.pointChars, hsplit], rfl,
      fun c => List.mem_takeWhile_imp⟩
  · exact ⟨none, h, rfl, List.forall_mem_nil _⟩

theorem exists_body {cs : List Char} (hcs : ∀ c ∈ cs, isNumeric c) (h : decimal? cs ≠ none)
    (sign : Sign) : ∃ w : Written, w.exponent = none ∧ w.sign = sign ∧ w.body = cs := by
  have hsplit := List.takeWhile_append_dropWhile (p := Char.isDigit) (l := cs)
  simp only [decimal?] at h
  split at h
  · exact absurd rfl h
  rename_i hdigits
  have hrest : (fraction (cs.dropWhile Char.isDigit)).2 = [] := by
    refine eq_nil_of_exponent? (fun c hc => hcs c ?_) (by simpa using h)
    exact (List.dropWhile_sublist _).mem (mem_of_mem_fraction hc)
  obtain ⟨digits, hpoint, hfraction, hall⟩ := fraction_eq hrest
  have hne : cs.takeWhile Char.isDigit ++ digits.getD [] ≠ [] := by
    rwa [hfraction, ne_eq, List.append_eq_nil_iff, ← List.isEmpty_iff, ← List.isEmpty_iff,
      ← Bool.and_eq_true]
  refine ⟨⟨sign, cs.takeWhile Char.isDigit, digits, none, fun c => List.mem_takeWhile_imp, hall,
    hne⟩, rfl, rfl, ?_⟩
  rw [Written.body, Written.exponentChars, Option.elim_none, List.append_nil, ← hpoint, hsplit]

theorem exists_sign (cs : List Char) : ∃ s : Sign, s.chars ++ (sign cs).2 = cs := by
  rw [sign.eq_def]
  split
  · exact ⟨.minus, rfl⟩
  · exact ⟨.plus, rfl⟩
  · exact ⟨.bare, rfl⟩

/-- What is read of characters that numbers are made of is a number without an exponent. -/
theorem exists_written {cs : List Char} (hcs : ∀ c ∈ cs, isNumeric c)
    (h : numberOf? cs ≠ none) : ∃ w : Written, w.exponent = none ∧ w.chars = cs := by
  obtain ⟨s, hs⟩ := exists_sign cs
  have hbody : ∀ c ∈ (sign cs).2, isNumeric c := fun c hc =>
    hcs c (by rw [← hs]; exact List.mem_append_right _ hc)
  have hdecimal : decimal? (sign cs).2 ≠ none := by
    intro hnone
    have hfault : ∃ fault, realChars cs = .error fault := by
      simp only [realChars, hnone, word?_eq_none hbody]
      split
      · exact ⟨.emptyReal, rfl⟩
      · exact ⟨.noReal, rfl⟩
    obtain ⟨fault, hfault⟩ := hfault
    rw [numberOf?, hfault] at h
    exact h rfl
  obtain ⟨w, hexponent, rfl, hw⟩ := exists_body hbody hdecimal s
  exact ⟨w, hexponent, by rw [Written.chars, hw, hs]⟩

end Numeral

namespace TrainedModel

theorem numberOf?_chars (w : Written) : numberOf? w.chars = some w.double := by
  rw [numberOf?, w.realChars_chars]

/-! ## The longest beginning -/

/-- No beginning is read, or the one that is read is the longest of them. -/
theorem findSome?_beginnings_cases (cs : List Char) :
    (∀ p, p <+: cs → numberOf? p = none) ∧ (beginnings cs).findSome? numberOf? = none ∨
    ∃ p x, p <+: cs ∧ numberOf? p = some x ∧ (beginnings cs).findSome? numberOf? = some x ∧
      ∀ q, q <+: cs → numberOf? q ≠ none → q.length ≤ p.length := by
  -- From the end: the whole text is tried first, and then the beginnings of what is left.
  induction cs using List.reverseRecOn with
  | nil =>
    refine .inl ⟨fun p hp => ?_, rfl⟩
    rw [List.prefix_nil.mp hp]
    rfl
  | append_singleton cs c ih =>
    rw [beginnings_concat, List.findSome?_cons]
    cases hall : numberOf? (cs ++ [c]) with
    | some x => exact .inr ⟨_, x, List.prefix_rfl, hall, rfl, fun q hq _ => hq.length_le⟩
    | none =>
      have hshorter : ∀ q, q <+: cs ++ [c] → numberOf? q ≠ none → q <+: cs := by
        intro q hq hread
        rcases List.prefix_concat_iff.mp hq with rfl | hq
        · exact absurd hall hread
        · exact hq
      rcases ih with ⟨hnone, hfind⟩ | ⟨p, x, hp, hx, hfind, hlongest⟩
      · refine .inl ⟨fun q hq => ?_, hfind⟩
        by_contra hread
        exact hread (hnone q (hshorter q hq hread))
      · exact .inr ⟨p, x, hp.trans (List.prefix_append _ _), hx, hfind,
          fun q hq hread => hlongest q (hshorter q hq hread) hread⟩

/-! ## The front of a text -/

/-- A number without an exponent stands at the front of the text. -/
def Leads (raw : List Char) (w : Written) : Prop :=
  w.exponent = none ∧ w.chars <+: raw

/-- It stands there, and none with more characters does. -/
def IsLongest (raw : List Char) (w : Written) : Prop :=
  Leads raw w ∧ ∀ v, Leads raw v → v.chars.length ≤ w.chars.length

theorem isNumeric_chars {w : Written} (h : w.exponent = none) : ∀ c ∈ w.chars, isNumeric c := by
  rw [← mantissa_eq h]
  exact isNumeric_mantissa w

theorem leads_iff (raw : List Char) (w : Written) :
    Leads raw w ↔ Leads (raw.takeWhile isNumeric) w := by
  refine and_congr_right fun hexponent => ⟨?_, fun h => h.trans (List.takeWhile_prefix _)⟩
  rintro ⟨rest, rfl⟩
  rw [List.takeWhile_append_of_pos (isNumeric_chars hexponent)]
  exact List.prefix_append _ _

/-- Only one text is the longest. -/
theorem IsLongest.chars_eq {raw : List Char} {v w : Written} (hv : IsLongest raw v)
    (hw : IsLongest raw w) : v.chars = w.chars :=
  (List.prefix_of_prefix_length_le hv.1.2 hw.1.2 (hw.2 v hv.1)).eq_of_length_le (hv.2 w hw.1)

theorem leadingNumber?_cases (raw : List Char) :
    (∀ w, ¬ Leads raw w) ∧ leadingNumber? raw = none ∨
    ∃ w, IsLongest raw w ∧ leadingNumber? raw = (some w.double).filter Double.isFinite := by
  rcases findSome?_beginnings_cases (raw.takeWhile isNumeric) with
    ⟨hnone, hfind⟩ | ⟨p, x, hp, hx, hfind, hlongest⟩
  · refine .inl ⟨fun w hw => ?_, by rw [leadingNumber?, hfind, Option.filter_none]⟩
    have hread := hnone w.chars ((leads_iff raw w).mp hw).2
    rw [numberOf?_chars] at hread
    cases hread
  · obtain ⟨w, hexponent, rfl⟩ := exists_written
      (fun c hc => List.mem_takeWhile_imp (hp.subset hc)) (by rw [hx]; exact Option.some_ne_none x)
    rw [numberOf?_chars] at hx
    cases hx
    refine .inr ⟨w, ⟨(leads_iff raw w).mpr ⟨hexponent, hp⟩, fun v hv => ?_⟩,
      by rw [leadingNumber?, hfind]⟩
    exact hlongest v.chars ((leads_iff raw v).mp hv).2
      (by rw [numberOf?_chars]; exact Option.some_ne_none _)

/-! ## Bytes -/

theorem utf8EncodeChar_of_isNumeric {c : Char} (h : isNumeric c) :
    String.utf8EncodeChar c = [UInt8.ofNat c.toNat] := by
  have hone : c.toNat ≤ 127 := (toNat_le_of_isNumeric h).trans (by decide)
  simp [String.utf8EncodeChar, hone]

/-- Characters that numbers are made of take one byte each. -/
theorem encodeChars_eq_map {cs : List Char} (hcs : ∀ c ∈ cs, isNumeric c) :
    Text.Utf8.encodeChars cs = cs.map fun c => UInt8.ofNat c.toNat := by
  rw [Text.Utf8.encodeChars, List.map_eq_flatMap]
  exact List.flatMap_congr fun c hc => utf8EncodeChar_of_isNumeric (hcs c hc)

/-- Cut off behind any of its bytes, the longest first, the text is left with whole characters. -/
theorem encodeChars_beginnings {cs : List Char} (hcs : ∀ c ∈ cs, isNumeric c) :
    (beginnings cs).map Text.Utf8.encodeChars =
      ((List.range (Text.Utf8.byteCount cs)).map fun k =>
        (Text.Utf8.encodeChars cs).take (k + 1)).reverse := by
  have htake : ∀ n, Text.Utf8.encodeChars (cs.take n) = (Text.Utf8.encodeChars cs).take n := by
    intro n
    rw [encodeChars_eq_map hcs, encodeChars_eq_map fun c hc => hcs c (List.mem_of_mem_take hc),
      List.map_take]
  have hcount : Text.Utf8.byteCount cs = cs.length := by
    rw [Text.Utf8.byteCount, encodeChars_eq_map hcs, List.length_map]
  rw [beginnings, List.map_reverse, List.map_map, hcount]
  exact congrArg List.reverse (List.map_congr_left fun k _ => htake (k + 1))

/-- The number at the front of a text.

* No number without an exponent stands there, and none is read.
* Or one of them is the longest, and the double nearest to it is read, if that is finite.
* What is read is finite.
* The beginnings that are tried are those of whole characters, at every number of bytes. -/
theorem longest_number_read (raw : List Char) :
    ((∀ w, ¬ Leads raw w) ∧ leadingNumber? raw = none ∨
      (∃ w, IsLongest raw w) ∧ ∀ w, IsLongest raw w →
        w.double.IsRounded w.sign.isMinus w.magnitude ∧
        leadingNumber? raw = (some w.double).filter Double.isFinite) ∧
    (∀ x, leadingNumber? raw = some x → x.isFinite) ∧
    (beginnings (raw.takeWhile isNumeric)).map Text.Utf8.encodeChars =
      ((List.range (Text.Utf8.byteCount (raw.takeWhile isNumeric))).map fun k =>
        (Text.Utf8.encodeChars (raw.takeWhile isNumeric)).take (k + 1)).reverse := by
  refine ⟨(leadingNumber?_cases raw).imp_right ?_, fun x hx => (Option.filter_eq_some_iff.mp hx).2,
    encodeChars_beginnings fun c => List.mem_takeWhile_imp⟩
  rintro ⟨w, hw, hread⟩
  refine ⟨⟨w, hw⟩, fun v hv => ⟨v.isRounded_double, ?_⟩⟩
  have hdouble : v.double = w.double := by
    rw [← Option.some.injEq, ← numberOf?_chars, hv.chars_eq hw, numberOf?_chars]
  rw [hread, hdouble]

/-- The second point ends the number, and the sign behind it is not looked at. -/
example : leadingNumber? "+.5.-1é".toList = some (.ofDecimal false 5 (-1)) := by
  decide +kernel

end TrainedModel
end BacktestDesk
