import BacktestDesk.Proofs.DocumentScalar

/-!
# BacktestDesk.Proofs.DocumentText

A document is read back from the text that it is written as, on one line or on many. Its numbers
come back as they are read, and the fields of its objects in ascending order.

* `Json.Reader.items_joined`: items with commas between them.
* `Json.Spelling.reads_value`: a value in front of any other text, whatever stands between the
  items.
* `Json.ofText?_compact`, `Json.ofText?_pretty`: whole documents.
* `Json.Proper.read_texts`: what is read of a document is read of either text of it.
-/

namespace BacktestDesk
namespace Json

/-! ## What comes back -/

mutual
/-- A document as it comes back from its text. -/
def reread : Json → Json
  | .arr items => .arr (rereadItems items)
  | .obj fields => .obj (Reader.collect (rereadFields fields))
  | v => v.rereadScalar

def rereadItems : List Json → List Json
  | [] => []
  | v :: vs => v.reread :: rereadItems vs

def rereadFields : List (String × Json) → List (String × Json)
  | [] => []
  | (k, v) :: fs => (k, v.reread) :: rereadFields fs
end

theorem rereadItems_eq (items : List Json) : rereadItems items = items.map reread := by
  induction items with
  | nil => rfl
  | cons v vs ih => rw [rereadItems, ih, List.map_cons]

theorem rereadFields_eq (fields : List (String × Json)) :
    rereadFields fields = fields.map fun e => (e.1, e.2.reread) := by
  induction fields with
  | nil => rfl
  | cons e fs ih => rw [rereadFields, ih, List.map_cons]

theorem reread_of_within_zero {v : Json} (h : v.Within 0) : v.reread = v.rereadScalar := by
  cases v with
  | arr => exact h.elim
  | obj => exact h.elim
  | _ => rfl

/-- Documents that are written as text and read again. -/
def Retelling.text : Retelling where
  tell := reread
  number := Double.reread
  null := rfl
  int _ := rfl
  float _ := rfl
  str _ := rfl
  arr items := by rw [reread, rereadItems_eq]
  obj fields hkeys := by
    refine ⟨_, rfl, ?_⟩
    rw [rereadFields_eq, Reader.collect_eq]
    refine TextMap.perm_ofList ?_
    rwa [List.map_map]

/-! ## Items -/

/-- Texts with a comma and a gap between them. -/
def joined (gap : List Char) : List (List Char) → List Char
  | [] => []
  | [t] => t
  | t :: ts => t ++ ',' :: (gap ++ joined gap ts)

theorem joined_cons (gap t : List Char) {ts : List (List Char)} (h : ts ≠ []) :
    joined gap (t :: ts) = t ++ ',' :: (gap ++ joined gap ts) := by
  obtain ⟨t', ts, rfl⟩ := List.exists_cons_of_ne_nil h
  rfl

theorem length_le_joined {gap : List Char} {ts : List (List Char)} {t : List Char} (h : t ∈ ts) :
    t.length ≤ (joined gap ts).length := by
  induction ts with
  | nil => cases h
  | cons t' ts ih =>
    cases ts with
    | nil => rw [List.mem_singleton.mp h, joined]
    | cons t'' ts =>
      rw [joined_cons gap t' (List.cons_ne_nil t'' ts)]
      simp only [List.length_append, List.length_cons]
      rcases List.mem_cons.mp h with rfl | h
      · exact Nat.le_add_right _ _
      · have hle := ih h
        omega

theorem count_le_joined {gap : List Char} {ts : List (List Char)} (h : ∀ t ∈ ts, t ≠ []) :
    ts.length ≤ (joined gap ts).length := by
  induction ts with
  | nil => exact Nat.zero_le _
  | cons t ts ih =>
    obtain ⟨ht, hts⟩ := List.forall_mem_cons.mp h
    have hle := ih hts
    have hpos := List.length_pos_iff.mpr ht
    cases ts with
    | nil =>
      rw [joined]
      exact hpos
    | cons t' ts =>
      rw [joined_cons gap t (List.cons_ne_nil t' ts)]
      simp only [List.length_append, List.length_cons] at hle ⊢
      omega

/-- What stands between two brackets: nothing, or items with a gap in front and one behind. -/
def enclosed (gap last : List Char) : List (List Char) → List Char
  | [] => []
  | t :: ts => gap ++ (joined gap (t :: ts) ++ last)

theorem length_le_enclosed (gap last : List Char) (ts : List (List Char)) :
    (joined gap ts).length ≤ (enclosed gap last ts).length := by
  cases ts with
  | nil => exact Nat.le_refl _
  | cons t ts =>
    simp only [enclosed, List.length_append]
    omega

theorem length_le_of_mem (gap last : List Char) {ts : List (List Char)} {t : List Char}
    (h : t ∈ ts) : t.length ≤ (enclosed gap last ts).length :=
  (length_le_joined h).trans (length_le_enclosed gap last ts)

theorem length_le_of_brackets {c d : Char} {cs : List Char} {limit : Nat}
    (h : (c :: (cs ++ [d])).length ≤ limit) : cs.length ≤ limit := by
  rw [List.length_cons, List.length_append] at h
  omega

namespace Reader

open Numeral.Written

/-- The text of an item: it does not begin with a blank or a closing bracket, and the item is read
off the front of any text that it can stand in. -/
structure Reads {α : Type} (item : List Char → Read α) (text : List Char) (x : α) : Prop where
  opens : ∃ c cs, text = c :: cs ∧ isSpace c = false ∧ c ≠ ']' ∧ c ≠ '\x7d'
  item : ∀ rest, Stops rest → item (text ++ rest) = some (x, rest)

theorem skip_blank {gap : List Char} (h : ∀ c ∈ gap, isSpace c) (cs : List Char) :
    skip (gap ++ cs) = skip cs :=
  List.dropWhile_append_of_pos h

theorem skip_of_not_space {c : Char} (h : isSpace c = false) (cs : List Char) :
    skip (c :: cs) = c :: cs :=
  List.dropWhile_cons_of_neg (by rw [h]; exact Bool.false_ne_true)

/-- So does the first of several items. -/
theorem opens_joined {α : Type} {item : List Char → Read α} (gap : List Char)
    {texts : List (List Char)} {xs : List α} (h : List.Forall₂ (Reads item) texts xs)
    (hne : texts ≠ []) :
    ∃ c cs, joined gap texts = c :: cs ∧ isSpace c = false ∧ c ≠ ']' ∧ c ≠ '\x7d' := by
  cases h with
  | nil => exact absurd rfl hne
  | @cons t x ts xs ht hts =>
    obtain ⟨c, text, rfl, hc⟩ := ht.opens
    cases ts with
    | nil => exact ⟨c, text, rfl, hc⟩
    | cons => exact ⟨c, _, rfl, hc⟩

theorem ne_nil_of_reads {α : Type} {item : List Char → Read α} {texts : List (List Char)}
    {xs : List α} (h : List.Forall₂ (Reads item) texts xs) : ∀ t ∈ texts, t ≠ [] := by
  induction h with
  | nil => exact List.forall_mem_nil _
  | cons ht _ ih =>
    obtain ⟨c, cs, htext, -⟩ := ht.opens
    exact List.forall_mem_cons.mpr ⟨htext ▸ List.cons_ne_nil c cs, ih⟩

/-- A character that ends an item. -/
def IsEnd (c : Char) : Prop :=
  c = ',' ∨ c = ']' ∨ c = '\x7d'

theorem IsEnd.stops {c : Char} (h : IsEnd c) (cs : List Char) : Stops (c :: cs) := by
  rintro c' hc
  cases hc
  rcases h with rfl | rfl | rfl <;> decide

theorem IsEnd.not_space {c : Char} (h : IsEnd c) : isSpace c = false := by
  rcases h with rfl | rfl | rfl <;> rfl

theorem stops_blank {gap : List Char} (h : ∀ c ∈ gap, isSpace c) {cs : List Char}
    (hcs : Stops cs) : Stops (gap ++ cs) := by
  cases gap with
  | nil => exact hcs
  | cons c gap =>
    rintro c' hc
    cases hc
    have hspace := h c List.mem_cons_self
    simp only [isSpace, Bool.or_eq_true, beq_iff_eq] at hspace
    rcases hspace with ((rfl | rfl) | rfl) | rfl <;> decide

section

variable {α : Type} {item : List Char → Read α} {close : Char} {gap last : List Char}
  (hclose : IsEnd close) (hcomma : close ≠ ',') (hgap : ∀ c ∈ gap, isSpace c)
  (hlast : ∀ c ∈ last, isSpace c)

include hclose hcomma hgap hlast

/-- Items with commas between them are read one after another, up to the closing bracket. -/
theorem items_joined {texts : List (List Char)} {xs : List α}
    (h : List.Forall₂ (Reads item) texts xs) (hne : texts ≠ []) {limit : Nat}
    (hlimit : texts.length ≤ limit) (rest : List Char) :
    items item close limit (joined gap texts ++ (last ++ close :: rest)) = some (xs, rest) := by
  induction h generalizing limit with
  | nil => exact absurd rfl hne
  | @cons t x ts xs ht hts ih =>
    obtain ⟨limit, rfl⟩ := Nat.exists_eq_succ_of_ne_zero (Nat.ne_of_gt (Nat.lt_of_lt_of_le
      (Nat.succ_pos ts.length) hlimit))
    have hlimit := Nat.le_of_succ_le_succ hlimit
    by_cases hnil : ts = []
    · subst hnil
      cases hts
      have hitem := ht.item _ (stops_blank hlast (hclose.stops rest))
      have hskip := (skip_blank hlast (close :: rest)).trans
        (skip_of_not_space hclose.not_space rest)
      simp only [joined, items, hitem, hskip, if_true]
    · have hend : IsEnd ',' := .inl rfl
      have hitem := ht.item _ (hend.stops (gap ++ (joined gap ts ++ (last ++ close :: rest))))
      have hskip : skip (gap ++ (joined gap ts ++ (last ++ close :: rest))) =
          joined gap ts ++ (last ++ close :: rest) := by
        obtain ⟨c, cs, hopens, hc, -⟩ := opens_joined gap hts hnil
        rw [skip_blank hgap, hopens, List.cons_append, skip_of_not_space hc]
      have htext : joined gap (t :: ts) ++ (last ++ close :: rest) =
          t ++ ',' :: (gap ++ (joined gap ts ++ (last ++ close :: rest))) := by
        rw [joined_cons gap t hnil]
        simp only [List.append_assoc, List.cons_append]
      rw [htext]
      simp only [items, hitem, skip_of_not_space hend.not_space, if_neg hcomma.symm, if_true, hskip,
        ih hnil hlimit]

/-- So is what stands between two brackets. -/
theorem bracketed_enclosed {texts : List (List Char)} {xs : List α}
    (h : List.Forall₂ (Reads item) texts xs) {limit : Nat}
    (hlimit : (enclosed gap last texts).length ≤ limit) (rest : List Char) :
    bracketed item close limit (enclosed gap last texts ++ close :: rest) = some (xs, rest) := by
  by_cases hnil : texts = []
  · subst hnil
    cases h
    have hskip := skip_of_not_space hclose.not_space rest
    simp only [enclosed, List.nil_append, bracketed, hskip, if_true]
  · obtain ⟨c, cs, hopens, hc, hsquare, hcurly⟩ := opens_joined gap h hnil
    have hne : c ≠ close := by
      rcases hclose with rfl | rfl | rfl
      · exact absurd rfl hcomma
      · exact hsquare
      · exact hcurly
    have hcount : texts.length ≤ limit :=
      (count_le_joined (ne_nil_of_reads h)).trans ((length_le_enclosed gap last texts).trans hlimit)
    have hitems := items_joined hclose hcomma hgap hlast h hnil hcount rest
    have htext : enclosed gap last texts = gap ++ (joined gap texts ++ last) := by
      obtain ⟨t, ts, rfl⟩ := List.exists_cons_of_ne_nil hnil
      rfl
    have hskip := (skip_blank hgap (c :: (cs ++ (last ++ close :: rest)))).trans
      (skip_of_not_space hc _)
    rw [hopens, List.cons_append] at hitems
    rw [htext, hopens, List.append_assoc, List.append_assoc, List.cons_append, bracketed, hskip]
    simp only [if_neg hne, hitems]

end

/-- A field: its name, a colon and its value. -/
theorem reads_member {value : List Char → Read Json} {text : List Char} {v : Json}
    (h : Reads value text v) {space : List Char} (hspace : ∀ c ∈ space, isSpace c) (k : String) :
    Reads (member value) (Writer.quoted k ++ ':' :: (space ++ text)) (k, v) := by
  refine ⟨⟨_, _, rfl, rfl, by decide, by decide⟩, fun rest hrest => ?_⟩
  have hstring := string_escape k (':' :: (space ++ (text ++ rest)))
  obtain ⟨c, cs, hopens, hc, -⟩ := h.opens
  have hskip : skip (space ++ (text ++ rest)) = text ++ rest := by
    rw [skip_blank hspace, hopens, List.cons_append, skip_of_not_space hc]
  have hcolon : skip (':' :: (space ++ (text ++ rest))) = ':' :: (space ++ (text ++ rest)) := rfl
  simp only [Writer.quoted, List.cons_append, List.append_assoc, List.nil_append, member, hstring,
    hcolon, hskip, h.item rest hrest, Option.map_some]

theorem value_eq_scalar {c : Char} (hsquare : c ≠ '[') (hcurly : c ≠ '\x7b') (limit depth : Nat)
    (cs : List Char) : value limit depth (c :: cs) = scalar (c :: cs) := by
  rw [value.eq_def]
  split
  · rename_i heq
    exact absurd (List.cons.inj heq).1 hsquare
  · rename_i heq
    exact absurd (List.cons.inj heq).1 hcurly
  · rfl

end Reader

/-! ## Values -/

/-- A way to write documents. It differs from others in what stands between the items of a value, at
a level of nesting, and between a colon and a value. -/
structure Spelling where
  chars : Nat → Json → List Char
  gap : Nat → List Char
  space : List Char
  gap_blank : ∀ level, ∀ c ∈ gap level, Reader.isSpace c
  space_blank : ∀ c ∈ space, Reader.isSpace c
  scalar : ∀ level {v}, v.Within 0 → chars level v = Writer.scalar v
  arr : ∀ level items, chars level (.arr items) =
    '[' :: (enclosed (gap (level + 1)) (gap level) (items.map (chars (level + 1))) ++ [']'])
  obj : ∀ level fields, chars level (.obj fields) =
    '\x7b' :: (enclosed (gap (level + 1)) (gap level) (fields.map fun e =>
      Writer.quoted e.1 ++ ':' :: (space ++ chars (level + 1) e.2)) ++ ['\x7d'])

namespace Spelling

open Reader

variable (s : Spelling)

theorem reads_scalar {v : Json} (hv : v.Proper) (h : v.Within 0) (limit depth level : Nat) :
    Reads (value limit depth) (s.chars level v) v.reread := by
  obtain ⟨⟨c, cs, hstart, hc⟩, hread⟩ := scalar_chars hv h
  rw [s.scalar level h, reread_of_within_zero h]
  have hspace : isSpace c = false := by
    simp only [isSpace, Bool.or_eq_false_iff, beq_eq_false_iff_ne]
    exact ⟨⟨⟨hc.ne rfl (by decide), hc.ne rfl (by decide)⟩, hc.ne rfl (by decide)⟩,
      hc.ne rfl (by decide)⟩
  refine ⟨⟨c, cs, hstart, hspace, hc.ne rfl (by decide), hc.ne rfl (by decide)⟩,
    fun rest hrest => ?_⟩
  rw [← hread rest hrest, hstart, List.cons_append,
    value_eq_scalar (hc.ne rfl (by decide)) (hc.ne rfl (by decide))]

/-- A value is read off the front of a text, if the reader has room for its items. -/
theorem reads_value {limit depth : Nat} {v : Json} (hv : v.Proper) (hwithin : v.Within depth)
    {level : Nat} (hlimit : (s.chars level v).length ≤ limit) :
    Reads (value limit depth) (s.chars level v) v.reread := by
  induction depth generalizing v level with
  | zero => exact s.reads_scalar hv hwithin limit 0 level
  | succ depth ih =>
    cases hv with
    | @arr items hitems =>
      rw [s.arr] at hlimit ⊢
      have hroom := length_le_of_brackets hlimit
      have hreads : List.Forall₂ (Reads (value limit depth)) (items.map (s.chars (level + 1)))
          (items.map reread) := by
        rw [List.forall₂_map_left_iff, List.forall₂_map_right_iff]
        refine List.forall₂_same.mpr fun w hw => ih (hitems w hw) (hwithin w hw) ?_
        exact (length_le_of_mem _ _ (List.mem_map_of_mem hw)).trans hroom
      refine ⟨⟨_, _, rfl, rfl, by decide, by decide⟩, fun rest _ => ?_⟩
      have hread := bracketed_enclosed (.inr (.inl rfl)) (by decide) (s.gap_blank (level + 1))
        (s.gap_blank level) hreads hroom rest
      rw [List.cons_append, List.append_assoc, List.singleton_append, value, hread, Option.map_some,
        reread, rereadItems_eq]
    | @obj fields hkeys hfields =>
      rw [s.obj] at hlimit ⊢
      have hroom := length_le_of_brackets hlimit
      have hreads : List.Forall₂ (Reads (member (value limit depth)))
          (fields.map fun e =>
            Writer.quoted e.1 ++ ':' :: (s.space ++ s.chars (level + 1) e.2))
          (fields.map fun e => (e.1, e.2.reread)) := by
        rw [List.forall₂_map_left_iff, List.forall₂_map_right_iff]
        refine List.forall₂_same.mpr fun e he => reads_member
          (ih (hfields e he) (hwithin e he) ?_) s.space_blank e.1
        have hle := (length_le_of_mem _ _ (List.mem_map_of_mem he)).trans hroom
        simp only [List.length_cons, List.length_append] at hle
        omega
      refine ⟨⟨_, _, rfl, rfl, by decide, by decide⟩, fun rest _ => ?_⟩
      have hread := bracketed_enclosed (.inr (.inr rfl)) (by decide) (s.gap_blank (level + 1))
        (s.gap_blank level) hreads hroom rest
      rw [List.cons_append, List.append_assoc, List.singleton_append, value, hread, Option.map_some,
        reread, rereadFields_eq]
    | null => exact s.reads_scalar .null trivial limit _ level
    | bool b => exact s.reads_scalar (.bool b) trivial limit _ level
    | int least greatest => exact s.reads_scalar (.int least greatest) trivial limit _ level
    | float finite => exact s.reads_scalar (.float finite) trivial limit _ level
    | str text => exact s.reads_scalar (.str text) trivial limit _ level

end Spelling

/-! ## The two ways to write a document -/

/-- Items that are written one by one, with a comma and a gap behind each but the last. -/
theorem eq_joined {α : Type} {gap : List Char} {write : α → List Char}
    {writeAll : List α → List Char} (hnil : writeAll [] = []) (hone : ∀ x, writeAll [x] = write x)
    (hmore : ∀ x y ys, writeAll (x :: y :: ys) = write x ++ ',' :: (gap ++ writeAll (y :: ys)))
    (xs : List α) : writeAll xs = joined gap (xs.map write) := by
  induction xs with
  | nil => exact hnil
  | cons x xs ih =>
    cases xs with
    | nil => exact hone x
    | cons y ys => rw [hmore, ih]; rfl

theorem compactItems_eq (items : List Json) :
    Writer.compactItems items = joined [] (items.map Writer.compactChars) :=
  eq_joined rfl (fun _ => rfl) (fun _ _ _ => rfl) items

theorem compactFields_eq (fields : List (String × Json)) :
    Writer.compactFields fields = joined [] (fields.map fun e =>
      Writer.quoted e.1 ++ ':' :: Writer.compactChars e.2) :=
  eq_joined rfl (fun _ => rfl) (fun x y ys => by simp [Writer.compactFields]) fields

theorem prettyItems_eq (level : Nat) (items : List Json) :
    Writer.prettyItems level items =
      joined (Writer.newline level) (items.map (Writer.prettyChars level)) :=
  eq_joined rfl (fun _ => rfl) (fun x y ys => by simp [Writer.prettyItems]) items

theorem prettyFields_eq (level : Nat) (fields : List (String × Json)) :
    Writer.prettyFields level fields = joined (Writer.newline level) (fields.map fun e =>
      Writer.quoted e.1 ++ ':' :: ' ' :: Writer.prettyChars level e.2) :=
  eq_joined rfl (fun _ => rfl) (fun x y ys => by simp [Writer.prettyFields]) fields

theorem enclosed_nil (ts : List (List Char)) : enclosed [] [] ts = joined [] ts := by
  cases ts <;> simp [enclosed, joined]

namespace Spelling

/-- All on one line, without blanks. -/
def compact : Spelling where
  chars _ := Writer.compactChars
  gap _ := []
  space := []
  gap_blank _ := List.forall_mem_nil _
  space_blank := List.forall_mem_nil _
  scalar _ {v} h := by
    cases v with
    | arr => exact h.elim
    | obj => exact h.elim
    | _ => rfl
  arr _ items := by rw [enclosed_nil, Writer.compactChars, compactItems_eq, List.cons_append]
  obj _ fields := by rw [enclosed_nil, Writer.compactChars, compactFields_eq, List.cons_append]; rfl

/-- One item a line, with two blanks per level. -/
def pretty : Spelling where
  chars := Writer.prettyChars
  gap := Writer.newline
  space := [' ']
  gap_blank level := by
    refine List.forall_mem_cons.mpr ⟨rfl, fun c hc => ?_⟩
    rw [List.eq_of_mem_replicate hc]
    rfl
  space_blank := List.forall_mem_singleton.mpr rfl
  scalar _ {v} h := by
    cases v with
    | arr => exact h.elim
    | obj => exact h.elim
    | _ => rfl
  arr level items := by
    cases items with
    | nil => rfl
    | cons v vs =>
      rw [Writer.prettyChars, prettyItems_eq]
      simp [enclosed]
  obj level fields := by
    cases fields with
    | nil => rfl
    | cons e fs =>
      rw [Writer.prettyChars, prettyFields_eq]
      simp [enclosed]

end Spelling

/-! ## Whole documents -/

theorem Spelling.ofChars?_chars (s : Spelling) {v : Json} (hv : v.Proper)
    (hwithin : v.Within Reader.maxDepth) (level : Nat) :
    ofChars? (s.chars level v) = some v.reread := by
  have hreads := s.reads_value hv hwithin (Nat.le_refl (s.chars level v).length)
  obtain ⟨c, cs, htext, hc, -⟩ := hreads.opens
  have hvalue := hreads.item [] fun c hc => by cases hc
  rw [List.append_nil] at hvalue
  have hskip : Reader.skip (s.chars level v) = s.chars level v := by
    rw [htext, Reader.skip_of_not_space hc]
  rw [ofChars?, hskip, hvalue]
  rfl

/-- A document is read back from its text on one line. -/
theorem ofText?_compact {v : Json} (hv : v.Proper) (hwithin : v.Within Reader.maxDepth) :
    ofText? v.compact = some v.reread := by
  rw [ofText?, compact, String.toList_ofList]
  exact Spelling.compact.ofChars?_chars hv hwithin 0

/-- A document is read back from its text on many lines. -/
theorem ofText?_pretty {v : Json} (hv : v.Proper) (hwithin : v.Within Reader.maxDepth) :
    ofText? v.pretty = some v.reread := by
  rw [ofText?, pretty, String.toList_ofList]
  exact Spelling.pretty.ofChars?_chars hv hwithin 0

/-- What is read of a document as it comes back is read of its text, on many lines or on one. -/
theorem Proper.read_texts {α : Type} {read : Reading α} {v : Json} (hv : v.Proper)
    (hwithin : v.Within Reader.maxDepth) {x : α} (hread : read v.reread = .ok x) :
    ∀ text ∈ [v.pretty, v.compact], ∃ w, ofText? text = some w ∧ read w = .ok x := by
  simp only [List.forall_mem_cons]
  exact ⟨⟨_, ofText?_pretty hv hwithin, hread⟩, ⟨_, ofText?_compact hv hwithin, hread⟩,
    List.forall_mem_nil _⟩

end Json
end BacktestDesk
